import GatewaySdk.Client.Cadence
import GatewaySdk.Client.Frames
import Mathlib.Data.List.Infix

/-! The reader of a session beside the loop it hands over to: the stream with the instants at
which its items are complete, the channel and the byte budget between the two, and the
silence check. Instants count nanoseconds. -/
namespace GatewaySdk.Client
open GatewaySdk.Upgrade (Bytes)

def silenceCheck : Nat := Duration.fromSecs 5

/-- One item of the WebSocket stream. -/
inductive WsItem (κ ε : Type) where
  | text (text : String)
  | binary
  | ping (data : Bytes)
  | pongOrFrame
  | close (frame : Option κ)
  | error (error : ε)
  | ended
  deriving DecidableEq, Repr

/-- What the reader hands the loop, with all that it carries. -/
inductive Handover (κ ε : Type) where
  | text (text : String)
  | ping (data : Bytes)
  | closed (frame : Option κ)
  | failed (error : ε)
  | ended
  deriving DecidableEq, Repr

/-- The items of the stream and when each is there to be read, and the channel's capacity. -/
structure Feed (κ ε : Type) where
  items : Nat → WsItem κ ε
  arrival : Nat → Nat
  capacity : Nat

inductive ReadPlace (κ ε : Type) where
  | reading
  | budget (text : String)
  | room (item : Handover κ ε)
  | parked
  | silent (silent limit : Nat)
  deriving DecidableEq, Repr

/-- The reader, the channel, the loop's permits, and what the loop has received and which
pings found no room. -/
structure ReadManager (κ ε : Type) where
  now : Nat
  read : Nat
  cadence : InboundCadence
  tickAt : Nat
  place : ReadPlace κ ε
  inbound : List (Handover κ ε)
  free : Nat
  routing : List String
  received : List (Handover κ ε)
  missed : List Nat
  deriving DecidableEq, Repr

/-- What happens next: time goes on, the loop takes an item or is done with a text, or the
reader is polled. -/
inductive ReadMove where
  | wait (until_ : Nat)
  | take
  | route (index : Nat)
  | poll
  deriving DecidableEq, Repr

section Reader
variable {κ ε : Type}

namespace WsItem

def handover : WsItem κ ε → Option (Handover κ ε)
  | text held => some (.text held)
  | ping data => some (.ping data)
  | close frame => some (.closed frame)
  | error e => some (.failed e)
  | ended => some .ended
  | binary | pongOrFrame => none

/-- A Close, an error, or the end of the stream. -/
def isEnd : WsItem κ ε → Bool
  | close _ | error _ | ended => true
  | text _ | binary | ping _ | pongOrFrame => false

end WsItem

namespace Handover

def isEnd : Handover κ ε → Bool
  | closed _ | failed _ | ended => true
  | text _ | ping _ => false

def isPing : Handover κ ε → Bool
  | ping _ => true
  | _ => false

end Handover

namespace ReadPlace

/-- What has been read and is not in the channel yet. -/
def items : ReadPlace κ ε → List (Handover κ ε)
  | budget text => [.text text]
  | room item => [item]
  | reading | parked | silent _ _ => []

def atEnd : ReadPlace κ ε → Bool
  | room item => item.isEnd
  | parked => true
  | reading | budget _ | silent _ _ => false

end ReadPlace

/-- The next tick of an interval that skips what it missed. -/
def skipTick (timeout now period : Nat) : Nat :=
  if now > timeout+5000000 then now+period-(now-timeout)%period else timeout+period

namespace ReadManager

def start (budget started : Nat) : ReadManager κ ε where
  now := started
  read := 0
  cadence := .new started
  tickAt := started
  place := .reading
  inbound := []
  free := budget
  routing := []
  received := []
  missed := []

/-- A frame is read, and what the reader goes on to do with it. -/
def onItem (capacity : Nat) (σ : ReadManager κ ε) : WsItem κ ε → ReadManager κ ε
  | .ping data =>
    let τ := {σ with read := σ.read+1,cadence := σ.cadence.onPing σ.now}
    if σ.inbound.length < capacity then {τ with inbound := σ.inbound ++ [.ping data]}
    else {τ with missed := σ.missed ++ [σ.read]}
  | .text text => {σ with read := σ.read+1,cadence := σ.cadence.onFrame σ.now,place := .budget text}
  | .close frame => {σ with read := σ.read+1,cadence := σ.cadence.onFrame σ.now,place := .room (.closed frame)}
  | .binary | .pongOrFrame => {σ with read := σ.read+1,cadence := σ.cadence.onFrame σ.now}
  | .error e => {σ with read := σ.read+1,place := .room (.failed e)}
  | .ended => {σ with read := σ.read+1,place := .room .ended}

/-- The silence check. -/
def onTick (σ : ReadManager κ ε) : ReadManager κ ε :=
  match σ.cadence.deadFor σ.now with
  | some (silent,limit) => {σ with place := .silent silent limit}
  | none => {σ with tickAt := skipTick σ.tickAt σ.now silenceCheck}

/-- The item is in the channel; behind anything but a text the reader parks. -/
def onSent (σ : ReadManager κ ε) (item : Handover κ ε) : ReadManager κ ε :=
  match item with
  | .text _ => {σ with inbound := σ.inbound ++ [item],place := .reading,cadence := σ.cadence.onFrame σ.now}
  | _ => {σ with inbound := σ.inbound ++ [item],place := .parked}

end ReadManager

namespace Feed
variable (feed : Feed κ ε)

/-- What one poll of the reader does at this instant, up to its next await; frames first. -/
def poll (σ : ReadManager κ ε) : Option (ReadManager κ ε) :=
  match σ.place with
  | .reading =>
    if feed.arrival σ.read ≤ σ.now then some (σ.onItem feed.capacity (feed.items σ.read))
    else if σ.tickAt ≤ σ.now then some σ.onTick
    else none
  | .budget text =>
    if cost text ≤ σ.free then some {σ with place := .room (.text text),free := σ.free-cost text} else none
  | .room item => if σ.inbound.length < feed.capacity then some (σ.onSent item) else none
  | .parked | .silent _ _ => none

/-- The loop takes what is first in the channel. -/
def take (σ : ReadManager κ ε) : Option (ReadManager κ ε) :=
  match σ.inbound with
  | [] => none
  | item::rest =>
    let routing := match item with
      | .text text => σ.routing ++ [text]
      | _ => σ.routing
    some {σ with inbound := rest,received := σ.received ++ [item],routing := routing}

/-- The session goes on until the reader returns. -/
def move (σ : ReadManager κ ε) (next : ReadMove) : Option (ReadManager κ ε) :=
  match σ.place,next with
  | .silent _ _,_ => none
  | _,.wait until_ => if σ.now ≤ until_ then some {σ with now := until_} else none
  | _,.take => take σ
  | _,.route index => (σ.routing[index]?).map fun text =>
    {σ with routing := σ.routing.eraseIdx index,free := σ.free+cost text}
  | _,.poll => feed.poll σ

def run (σ : ReadManager κ ε) (moves : List ReadMove) : Option (ReadManager κ ε) := moves.foldlM feed.move σ

/-- What the first items of the stream make the reader hand over, pings that found no room
left out. -/
def handed (missed : List Nat) (n : Nat) : List (Handover κ ε) :=
  ((List.range n).filter fun i => missed.all fun other => other != i).filterMap fun i => (feed.items i).handover

end Feed

/-- A stream up to and with its first end. -/
def throughEnd : List (WsItem κ ε) → List (WsItem κ ε)
  | [] => []
  | item::rest => if item.isEnd = true then [item] else item::throughEnd rest

/-- The texts and the end among the first items, up to the first end. -/
def Feed.spoken (feed : Feed κ ε) (n : Nat) : List (Handover κ ε) :=
  ((throughEnd ((List.range n).map feed.items)).filterMap WsItem.handover).filter fun item => !item.isPing

end Reader

variable {κ ε : Type} {feed : Feed κ ε} {σ τ : ReadManager κ ε}

namespace Feed

/-- All that a poll of the reader can do. -/
inductive Polls (feed : Feed κ ε) (σ : ReadManager κ ε) : ReadManager κ ε → Prop
  | reads (reading : σ.place = .reading) (there : feed.arrival σ.read ≤ σ.now) :
    Polls feed σ (σ.onItem feed.capacity (feed.items σ.read))
  | alive (reading : σ.place = .reading) (none : σ.now < feed.arrival σ.read)
    (alive : σ.cadence.deadFor σ.now = .none) : Polls feed σ {σ with tickAt := skipTick σ.tickAt σ.now silenceCheck}
  | silent (silent limit : Nat) (reading : σ.place = .reading) (none : σ.now < feed.arrival σ.read)
    (dead : σ.cadence.deadFor σ.now = some (silent,limit)) : Polls feed σ {σ with place := .silent silent limit}
  | granted (text : String) (waits : σ.place = .budget text) (enough : cost text ≤ σ.free) :
    Polls feed σ {σ with place := .room (.text text),free := σ.free-cost text}
  | sent (item : Handover κ ε) (waits : σ.place = .room item) (room : σ.inbound.length < feed.capacity) :
    Polls feed σ (σ.onSent item)

theorem poll_cases (polled : feed.poll σ = some τ) : Polls feed σ τ := by
  unfold poll at polled
  split at polled
  next reading =>
    split at polled
    next there => exact Option.some.inj polled ▸ .reads reading there
    next late =>
      split at polled
      · obtain rfl := Option.some.inj polled
        have none := Nat.lt_of_not_le late
        unfold ReadManager.onTick
        split
        next silent limit dead => exact .silent silent limit reading none dead
        next alive => exact .alive reading none alive
      · cases polled
  next text waits =>
    split at polled
    next enough => exact Option.some.inj polled ▸ .granted text waits enough
    · cases polled
  next item waits =>
    split at polled
    next room => exact Option.some.inj polled ▸ .sent item waits room
    · cases polled
  next => cases polled
  next => cases polled

/-- All that can happen next, to a reader that has not returned. -/
inductive Moves (feed : Feed κ ε) (σ : ReadManager κ ε) : ReadManager κ ε → Prop
  | wait (now : Nat) (later : σ.now ≤ now) : Moves feed σ {σ with now := now}
  | takes (item : Handover κ ε) (rest : List (Handover κ ε)) (first : σ.inbound = item::rest) (routing : List String) :
    Moves feed σ {σ with inbound := rest,received := σ.received ++ [item],routing := routing}
  | routes (routing : List String) (free : Nat) : Moves feed σ {σ with routing := routing,free := free}
  | polls {τ : ReadManager κ ε} (polled : Polls feed σ τ) : Moves feed σ τ

theorem move_cases {next : ReadMove} (moved : feed.move σ next = some τ) :
    Moves feed σ τ ∧ ∀ silent limit, σ.place ≠ .silent silent limit := by
  unfold move at moved
  split at moved
  · cases moved
  next running =>
    split at moved
    next later => exact ⟨Option.some.inj moved ▸ .wait _ later,running⟩
    · cases moved
  next running =>
    unfold take at moved
    split at moved
    · cases moved
    next item rest first => exact ⟨Option.some.inj moved ▸ .takes item rest first _,running⟩
  next running =>
    obtain ⟨text,_,rfl⟩ := Option.map_eq_some_iff.mp moved
    exact ⟨.routes _ _,running⟩
  next running => exact ⟨.polls (poll_cases moved),running⟩

/-- What every move keeps, every run keeps. -/
theorem run_keeps {kept : ReadManager κ ε → Prop} {moves : List ReadMove}
    (preserved : ∀ {σ τ next}, kept σ → feed.move σ next = some τ → kept τ) (start : kept σ)
    (ran : feed.run σ moves = some τ) : kept τ := by
  induction moves generalizing σ with
  | nil => exact Option.some.inj ran ▸ start
  | cons next moves ih =>
    obtain ⟨mid,moved,ran⟩ := Option.bind_eq_some_iff.mp ran
    exact ih (preserved start moved) ran

end Feed

end GatewaySdk.Client
