import Mathlib.Data.List.Basic

/-! Connecting to the first of several addresses that answers: the staggered attempts and the
select that takes their results. Instants and durations count nanoseconds; the task runs as
soon as something is due for it. -/
namespace GatewaySdk.Client

def connectAttemptDelay : Nat := 250*1000000

/-- An `io::Error`: its kind and its text. -/
structure ConnectError where
  kind : String
  text : String
  deriving DecidableEq, Repr

/-- What an attempt comes to, and how long after it began. -/
inductive Outcome (Stream : Type) where
  | succeeds (after : Nat) (stream : Stream)
  | fails (after : Nat) (error : ConnectError)
  | silent
  deriving DecidableEq, Repr

def Outcome.after {Stream : Type} : Outcome Stream → Option Nat
  | succeeds after _ | fails after _ => some after
  | silent => none

structure Connected (Addr Stream : Type) where
  stream : Stream
  addr : Addr
  abandoned : List Addr
  deriving DecidableEq, Repr

structure Attempt (Addr Stream : Type) where
  seq : Nat
  addr : Addr
  began : Nat
  outcome : Outcome Stream
  deriving DecidableEq, Repr

/-- The instant at which the attempt's result can be taken. -/
def Attempt.due {Addr Stream : Type} (now : Nat) (attempt : Attempt Addr Stream) : Option Nat :=
  attempt.outcome.after.map fun after => max now (attempt.began+after)

/-- The variables of the loop, and the clock. -/
structure Dialing (Addr Stream : Type) where
  now : Nat
  waiting : List Addr
  attempts : List (Attempt Addr Stream)
  inFlight : List (Nat × Addr)
  started : Nat
  lastErr : Option ConnectError
  deriving DecidableEq, Repr

inductive DialPoint (Addr Stream : Type) where
  | selecting (d : Dialing Addr Stream)
  | returned (result : Except ConnectError (Connected Addr Stream))

/-- Where the call is, with the attempts it has started and the failures it has taken. -/
structure DialMoment (Addr Stream : Type) where
  point : DialPoint Addr Stream
  starts : List (Addr × Nat)
  taken : List (Nat × ConnectError)

/-- What a select can take. -/
inductive Ready (Addr Stream : Type) where
  | attempt (attempt : Attempt Addr Stream)
  | stagger
  deriving DecidableEq, Repr

section Loop
variable {Addr Stream : Type} (connect : Nat → Addr → Outcome Stream)

def noAddresses : ConnectError := ⟨"NotFound","the name resolved to no addresses"⟩

namespace Dialing

/-- Every pass starts the next address. -/
def startNext (d : Dialing Addr Stream) : Dialing Addr Stream :=
  match d.waiting with
  | [] => d
  | addr::rest => {d with
      waiting := rest
      inFlight := d.inFlight ++ [(d.started,addr)]
      attempts := d.attempts ++ [⟨d.started,addr,d.now,connect d.started addr⟩]
      started := d.started+1}

/-- The branches of the select and the instants at which they are ready. -/
def offers (d : Dialing Addr Stream) : List (Ready Addr Stream × Nat) :=
  d.attempts.filterMap (fun attempt => (attempt.due d.now).map fun at_ => (.attempt attempt,at_)) ++
    if d.waiting.isEmpty then [] else [(.stagger,d.now+connectAttemptDelay)]

def top (d : Dialing Addr Stream) (starts : List (Addr × Nat)) (taken : List (Nat × ConnectError)) :
    DialMoment Addr Stream :=
  let next := d.startNext connect
  { point := if next.attempts.isEmpty then .returned (.error (next.lastErr.getD noAddresses)) else .selecting next
    starts := starts ++ (d.waiting.take 1).map fun addr => (addr,d.now)
    taken := taken }

/-- The body of the branch that the select takes. -/
def takes (d : Dialing Addr Stream) (ready : Ready Addr Stream) (at_ : Nat) (starts : List (Addr × Nat))
    (taken : List (Nat × ConnectError)) : DialMoment Addr Stream :=
  match ready with
  | .stagger => top connect {d with now := at_} starts taken
  | .attempt attempt =>
    let inFlight := d.inFlight.filter fun held => held.1 != attempt.seq
    match attempt.outcome with
    | .succeeds _ stream =>
      let abandoned := (inFlight.filter fun held => held.1 < attempt.seq).map Prod.snd
      ⟨.returned (.ok ⟨stream,attempt.addr,abandoned⟩),starts,taken⟩
    | .fails _ error => top connect {d with
        now := at_
        attempts := d.attempts.filter fun held => held.seq != attempt.seq
        inFlight := inFlight
        lastErr := some error} starts (taken ++ [(attempt.seq,error)])
    | .silent => ⟨.selecting d,starts,taken⟩

end Dialing

/-- One turn of the loop: the choice is among the branches that are ready first. -/
def DialMoment.pass (choice : Nat) (m : DialMoment Addr Stream) : Option (DialMoment Addr Stream) :=
  match m.point with
  | .returned _ => none
  | .selecting d => d.offers[choice]?.bind fun offer =>
    if ∀ other ∈ d.offers, offer.2 ≤ other.2 then some (d.takes connect offer.1 offer.2 m.starts m.taken) else none

def connectStaggered (waiting : List Addr) : DialMoment Addr Stream :=
  Dialing.top connect ⟨0,waiting,[],[],0,none⟩ [] []

/-- The call after the turns that are chosen so. -/
def staggered (waiting : List Addr) (choices : List Nat) : Option (DialMoment Addr Stream) :=
  choices.foldlM (fun m choice => m.pass connect choice) (connectStaggered connect waiting)

end Loop

section Tracking
variable {Addr Stream : Type} {connect : Nat → Addr → Outcome Stream} {addrs : List Addr}
  {starts : List (Addr × Nat)} {taken : List (Nat × ConnectError)}

/-- The attempts that were started and whose failure was not taken. -/
def pending (connect : Nat → Addr → Outcome Stream) (starts : List (Addr × Nat)) (taken : List (Nat × ConnectError)) :
    List (Attempt Addr Stream) :=
  (starts.zipIdx.filter fun start => taken.all fun failure => failure.1 != start.2).map fun start =>
    ⟨start.2,start.1.1,start.1.2,connect start.2 start.1.1⟩

theorem mem_pending {attempt : Attempt Addr Stream} : attempt ∈ pending connect starts taken ↔
    starts[attempt.seq]? = some (attempt.addr,attempt.began) ∧ attempt.outcome = connect attempt.seq attempt.addr ∧
      ∀ failure ∈ taken, failure.1 ≠ attempt.seq := by
  simp only [pending,List.mem_map,List.mem_filter,List.mem_zipIdx_iff_getElem?,List.all_eq_true,bne_iff_ne]
  constructor
  · rintro ⟨⟨⟨addr,began⟩,seq⟩,⟨found,open_⟩,rfl⟩
    exact ⟨found,rfl,open_⟩
  · intro held
    obtain ⟨found,outcome,open_⟩ := held
    refine ⟨((attempt.addr,attempt.began),attempt.seq),⟨found,open_⟩,?_⟩
    rw [← outcome]

theorem pending_snoc (addr : Addr) (now : Nat) (within : ∀ failure ∈ taken, failure.1 < starts.length) :
    pending connect (starts ++ [(addr,now)]) taken =
      pending connect starts taken ++ [⟨starts.length,addr,now,connect starts.length addr⟩] := by
  have new : (taken.all fun failure => failure.1 != starts.length) = true := by
    rw [List.all_eq_true]
    exact fun failure member => bne_iff_ne.mpr (Nat.ne_of_lt (within failure member))
  simp [pending,List.zipIdx_append,List.filter_append,new]

theorem pending_taken (seq : Nat) (error : ConnectError) :
    pending connect starts (taken ++ [(seq,error)]) = (pending connect starts taken).filter fun held => held.seq != seq := by
  unfold pending
  rw [List.filter_map,List.filter_filter]
  congr 1
  apply List.filter_congr
  intro start _
  simp [bne_comm,Bool.and_comm]

/-- How the loop's variables follow from what it has started and taken. -/
structure Tracks (connect : Nat → Addr → Outcome Stream) (addrs : List Addr) (d : Dialing Addr Stream)
    (starts : List (Addr × Nat)) (taken : List (Nat × ConnectError)) : Prop where
  rest : starts.map Prod.fst ++ d.waiting = addrs
  attempts : d.attempts = pending connect starts taken
  inFlight : d.inFlight = d.attempts.map fun attempt => (attempt.seq,attempt.addr)
  started : d.started = starts.length
  lastErr : d.lastErr = taken.getLast?.map Prod.snd

/-- What was started and taken, at any time. -/
structure Steps (connect : Nat → Addr → Outcome Stream) (addrs : List Addr) (starts : List (Addr × Nat))
    (taken : List (Nat × ConnectError)) : Prop where
  order : starts.map Prod.fst <+: addrs
  failed : ∀ failure ∈ taken, ∃ addr began after, starts[failure.1]? = some (addr,began) ∧
    connect failure.1 addr = .fails after failure.2
  opens : ∀ start, starts[0]? = some start → start.2 = 0
  gaps : ∀ k (a b : Addr × Nat), starts[k]? = some a → starts[k+1]? = some b → b.2 ≤ a.2+connectAttemptDelay

/-- Where the call is, by what it has started and taken. -/
def Placed (connect : Nat → Addr → Outcome Stream) (addrs : List Addr) (starts : List (Addr × Nat))
    (taken : List (Nat × ConnectError)) : DialPoint Addr Stream → Prop
  | .selecting d => Tracks connect addrs d starts taken ∧ d.attempts ≠ [] ∧
      (d.waiting ≠ [] → starts.getLast?.map Prod.snd = some d.now)
  | .returned (.error error) => starts.map Prod.fst = addrs ∧ pending connect starts taken = [] ∧
      error = (taken.getLast?.map Prod.snd).getD noAddresses
  | .returned (.ok connected) => ∃ attempt ∈ pending connect starts taken,
      (∃ after, attempt.outcome = .succeeds after connected.stream) ∧ connected.addr = attempt.addr ∧
      connected.abandoned =
        ((pending connect starts taken).filter fun held => held.seq < attempt.seq).map Attempt.addr

/-- The next address may be started at this instant. -/
def Timely (starts : List (Addr × Nat)) (now : Nat) : Prop :=
  (starts = [] → now = 0) ∧ ∀ last, starts.getLast? = some last → now ≤ last.2+connectAttemptDelay

theorem Steps.within (steps : Steps connect addrs starts taken) :
    ∀ failure ∈ taken, failure.1 < starts.length := by
  intro failure member
  obtain ⟨addr,began,after,found,_⟩ := steps.failed failure member
  exact (List.getElem?_eq_some_iff.mp found).1

theorem Steps.snoc {addr : Addr} {now : Nat} {rest : List Addr} (steps : Steps connect addrs starts taken)
    (whole : starts.map Prod.fst ++ addr::rest = addrs) (timely : Timely starts now) :
    Steps connect addrs (starts ++ [(addr,now)]) taken where
  order := ⟨rest,by rw [← whole]; simp⟩
  failed failure member := by
    obtain ⟨addr,began,after,found,failed⟩ := steps.failed failure member
    refine ⟨addr,began,after,?_,failed⟩
    rw [List.getElem?_append_left (steps.within failure member)]
    exact found
  opens start found := by
    cases starts with
    | nil =>
      obtain rfl : (addr,now) = start := by simpa using found
      exact timely.1 rfl
    | cons first rest => exact steps.opens start (by simpa using found)
  gaps k a b left right := by
    rcases Nat.lt_trichotomy (k+1) starts.length with before | last | after
    · rw [List.getElem?_append_left (by omega)] at left
      rw [List.getElem?_append_left before] at right
      exact steps.gaps k a b left right
    · rw [List.getElem?_append_left (by omega)] at left
      rw [last,List.getElem?_concat_length] at right
      obtain rfl := Option.some.inj right
      refine timely.2 a ?_
      rw [List.getLast?_eq_getElem?,← last]
      exact left
    · have bound := (List.getElem?_eq_some_iff.mp right).1
      rw [List.length_append,List.length_singleton] at bound
      omega

theorem Tracks.startNext {d : Dialing Addr Stream} {addr : Addr} {rest : List Addr}
    (tracks : Tracks connect addrs d starts taken) (steps : Steps connect addrs starts taken)
    (waiting : d.waiting = addr::rest) :
    Tracks connect addrs (d.startNext connect) (starts ++ [(addr,d.now)]) taken := by
  have started := tracks.started
  constructor
  · rw [← tracks.rest,waiting]
    simp [Dialing.startNext,waiting]
  · simp [Dialing.startNext,waiting,tracks.attempts,pending_snoc addr d.now steps.within,started]
  · simp [Dialing.startNext,waiting,tracks.inFlight]
  · simp [Dialing.startNext,waiting,started]
  · simp [Dialing.startNext,waiting,tracks.lastErr]

/-- What holds of the call after any number of turns. -/
structure Kept (connect : Nat → Addr → Outcome Stream) (addrs : List Addr) (m : DialMoment Addr Stream) : Prop where
  steps : Steps connect addrs m.starts m.taken
  placed : Placed connect addrs m.starts m.taken m.point

theorem top_kept {d : Dialing Addr Stream} (tracks : Tracks connect addrs d starts taken)
    (steps : Steps connect addrs starts taken) (timely : d.waiting ≠ [] → Timely starts d.now) :
    Kept connect addrs (d.top connect starts taken) := by
  cases waiting : d.waiting with
  | nil =>
    have idle : d.startNext connect = d := by simp [Dialing.startNext,waiting]
    have whole := tracks.rest
    rw [waiting,List.append_nil] at whole
    simp only [Dialing.top,idle,waiting,List.take_nil,List.map_nil,List.append_nil]
    refine ⟨steps,?_⟩
    dsimp only
    split
    next none =>
      refine ⟨whole,?_,?_⟩
      · rw [← tracks.attempts]
        exact List.isEmpty_iff.mp none
      · rw [tracks.lastErr]
    next some => exact ⟨tracks,fun none => some (List.isEmpty_iff.mpr none),fun left => absurd waiting left⟩
  | cons addr rest =>
    have whole := tracks.rest
    rw [waiting] at whole
    have next := tracks.startNext steps waiting
    have some : (d.startNext connect).attempts ≠ [] := by simp [Dialing.startNext,waiting]
    have now : (d.startNext connect).now = d.now := by simp [Dialing.startNext,waiting]
    simp only [Dialing.top,waiting,List.take_succ_cons,List.take_zero,List.map_cons,List.map_nil]
    refine ⟨steps.snoc whole (timely (by simp [waiting])),?_⟩
    dsimp only
    rw [if_neg fun none => some (List.isEmpty_iff.mp none)]
    exact ⟨next,some,fun _ => by simp [now]⟩

theorem start_kept : Kept connect addrs (connectStaggered connect addrs) := by
  apply top_kept
  · constructor <;> rfl
  · constructor
    · exact List.nil_prefix
    · exact List.forall_mem_nil _
    · exact fun start found => by simp at found
    · exact fun k a b left _ => by simp at left
  · exact fun _ => ⟨fun _ => rfl,fun last found => by simp at found⟩

theorem mem_offers {d : Dialing Addr Stream} {ready : Ready Addr Stream} {at_ : Nat} : (ready,at_) ∈ d.offers ↔
    (∃ attempt ∈ d.attempts, attempt.due d.now = some at_ ∧ ready = .attempt attempt) ∨
      d.waiting ≠ [] ∧ ready = .stagger ∧ at_ = d.now+connectAttemptDelay := by
  unfold Dialing.offers
  rw [List.mem_append,List.mem_filterMap]
  apply or_congr
  · constructor
    · intro found
      obtain ⟨attempt,member,due⟩ := found
      obtain ⟨instant,due,same⟩ := Option.map_eq_some_iff.mp due
      cases same
      exact ⟨attempt,member,due,rfl⟩
    · intro found
      obtain ⟨attempt,member,due,rfl⟩ := found
      exact ⟨attempt,member,Option.map_eq_some_iff.mpr ⟨at_,due,rfl⟩⟩
  · cases d.waiting <;> simp

theorem pass_cases {choice : Nat} {m m' : DialMoment Addr Stream} (passed : m.pass connect choice = some m') :
    ∃ d ready at_, m.point = .selecting d ∧ (ready,at_) ∈ d.offers ∧ (∀ other ∈ d.offers, at_ ≤ other.2) ∧
      m' = d.takes connect ready at_ m.starts m.taken := by
  unfold DialMoment.pass at passed
  split at passed
  · cases passed
  next d here =>
    obtain ⟨⟨ready,at_⟩,found,passed⟩ := Option.bind_eq_some_iff.mp passed
    split at passed
    next first => exact ⟨d,ready,at_,here,List.mem_of_getElem? found,first,(Option.some.inj passed).symm⟩
    next => cases passed

/-- While addresses wait, the stagger bounds the instant of the next turn. -/
theorem offer_soon {d : Dialing Addr Stream} {at_ : Nat} (first : ∀ other ∈ d.offers, at_ ≤ other.2)
    (left : d.waiting ≠ []) : at_ ≤ d.now+connectAttemptDelay :=
  first (.stagger,_) (mem_offers.mpr (.inr ⟨left,rfl,rfl⟩))

theorem timely_of_last {now at_ : Nat} (last : starts.getLast?.map Prod.snd = some now)
    (soon : at_ ≤ now+connectAttemptDelay) : Timely starts at_ := by
  obtain ⟨start,found,same⟩ := Option.map_eq_some_iff.mp last
  constructor
  · rintro rfl
    cases found
  · intro last again
    obtain rfl : start = last := Option.some.inj (found.symm.trans again)
    exact same ▸ soon

theorem Tracks.failed {d : Dialing Addr Stream} {seq now : Nat} {error : ConnectError}
    (tracks : Tracks connect addrs d starts taken) :
    Tracks connect addrs {d with
      now := now
      attempts := d.attempts.filter fun held => held.seq != seq
      inFlight := d.inFlight.filter fun held => held.1 != seq
      lastErr := some error} starts (taken ++ [(seq,error)]) where
  rest := tracks.rest
  attempts := by
    dsimp only
    rw [pending_taken,tracks.attempts]
  inFlight := by
    dsimp only
    rw [tracks.inFlight,List.filter_map]
    rfl
  started := tracks.started
  lastErr := by simp

theorem Steps.fail {attempt : Attempt Addr Stream} {after : Nat} {error : ConnectError}
    (steps : Steps connect addrs starts taken) (held : attempt ∈ pending connect starts taken)
    (fails : attempt.outcome = .fails after error) : Steps connect addrs starts (taken ++ [(attempt.seq,error)]) where
  order := steps.order
  failed failure member := by
    obtain ⟨found,outcome,_⟩ := mem_pending.mp held
    rcases List.mem_append.mp member with before | new
    · exact steps.failed failure before
    · obtain rfl := List.mem_singleton.mp new
      exact ⟨attempt.addr,attempt.began,after,found,outcome.symm.trans fails⟩
  opens := steps.opens
  gaps := steps.gaps

theorem pass_kept {choice : Nat} {m m' : DialMoment Addr Stream} (kept : Kept connect addrs m)
    (passed : m.pass connect choice = some m') : Kept connect addrs m' := by
  obtain ⟨d,ready,at_,here,offered,first,rfl⟩ := pass_cases passed
  have placed := kept.placed
  rw [here] at placed
  obtain ⟨tracks,_,last⟩ := placed
  have timely (left : d.waiting ≠ []) : Timely m.starts at_ := timely_of_last (last left) (offer_soon first left)
  rcases mem_offers.mp offered with ⟨attempt,member,due,rfl⟩ | ⟨_,rfl,_⟩
  · have held := tracks.attempts ▸ member
    cases comes : attempt.outcome with
    | succeeds after stream =>
      simp only [Dialing.takes,comes]
      refine ⟨kept.steps,attempt,held,⟨after,comes⟩,rfl,?_⟩
      dsimp only
      rw [tracks.inFlight,tracks.attempts,List.filter_filter,List.filter_map,List.map_map]
      congr 1
      apply List.filter_congr
      intro other _
      simp only [Function.comp_def,Bool.and_eq_left_iff_imp,decide_eq_true_eq,bne_iff_ne]
      exact Nat.ne_of_lt
    | fails after error =>
      simp only [Dialing.takes,comes]
      exact top_kept tracks.failed (kept.steps.fail held comes) timely
    | silent => simp [Attempt.due,comes,Outcome.after] at due
  · exact top_kept ⟨tracks.rest,tracks.attempts,tracks.inFlight,tracks.started,tracks.lastErr⟩ kept.steps timely

theorem staggered_kept {choices : List Nat} {m₀ m : DialMoment Addr Stream} (kept : Kept connect addrs m₀)
    (ran : choices.foldlM (fun m choice => m.pass connect choice) m₀ = some m) : Kept connect addrs m := by
  induction choices generalizing m₀ with
  | nil => exact Option.some.inj ran ▸ kept
  | cons choice choices ih =>
    obtain ⟨next,passed,ran⟩ := Option.bind_eq_some_iff.mp ran
    exact ih (pass_kept kept passed) ran

theorem pass_starts {choice : Nat} {m m' : DialMoment Addr Stream} (passed : m.pass connect choice = some m') :
    m.starts <+: m'.starts := by
  obtain ⟨d,ready,at_,_,_,_,rfl⟩ := pass_cases passed
  cases ready with
  | stagger => exact List.prefix_append _ _
  | attempt attempt =>
    cases comes : attempt.outcome with
    | succeeds after stream => simp [Dialing.takes,comes]
    | fails after error =>
      simp only [Dialing.takes,comes]
      exact List.prefix_append _ _
    | silent => simp [Dialing.takes,comes]

theorem staggered_starts {choices : List Nat} {m₀ m : DialMoment Addr Stream}
    (ran : choices.foldlM (fun m choice => m.pass connect choice) m₀ = some m) : m₀.starts <+: m.starts := by
  induction choices generalizing m₀ with
  | nil =>
    obtain rfl := Option.some.inj ran
    exact List.prefix_rfl
  | cons choice choices ih =>
    obtain ⟨next,passed,ran⟩ := Option.bind_eq_some_iff.mp ran
    exact (pass_starts passed).trans (ih ran)

/-- How many turns are left at most. -/
def DialMoment.left (m : DialMoment Addr Stream) : Nat :=
  match m.point with
  | .returned _ => 0
  | .selecting d => 2*d.waiting.length+d.attempts.length

theorem top_left (d : Dialing Addr Stream) (starts : List (Addr × Nat)) (taken : List (Nat × ConnectError)) :
    (d.top connect starts taken).left+min d.waiting.length 1 ≤ 2*d.waiting.length+d.attempts.length := by
  cases waiting : d.waiting with
  | nil =>
    have idle : d.startNext connect = d := by simp [Dialing.startNext,waiting]
    simp only [DialMoment.left,Dialing.top,idle]
    split
    · simp
    next other same =>
      split at same
      · cases same
      · cases same
        simp [waiting]
  | cons addr rest =>
    have busy : ¬ (d.startNext connect).attempts.isEmpty = true := by simp [Dialing.startNext,waiting]
    simp only [DialMoment.left,Dialing.top,if_neg busy]
    simp only [Dialing.startNext,waiting,List.length_append,List.length_cons,List.length_nil]
    omega

theorem pass_left {choice : Nat} {m m' : DialMoment Addr Stream} (passed : m.pass connect choice = some m') : m'.left < m.left := by
  obtain ⟨d,ready,at_,here,offered,first,rfl⟩ := pass_cases passed
  have now : m.left = 2*d.waiting.length+d.attempts.length := by rw [DialMoment.left,here]
  rw [now]
  rcases mem_offers.mp offered with ⟨attempt,member,due,rfl⟩ | ⟨left,rfl,_⟩
  · have some : 0 < d.attempts.length := List.length_pos_of_mem member
    cases comes : attempt.outcome with
    | succeeds after stream =>
      simp only [Dialing.takes,comes,DialMoment.left]
      omega
    | fails after error =>
      have fewer : (d.attempts.filter fun held => held.seq != attempt.seq).length < d.attempts.length := by
        rw [List.length_filter_lt_length_iff_exists]
        exact ⟨attempt,member,by simp⟩
      simp only [Dialing.takes,comes]
      refine Nat.lt_of_le_of_lt (Nat.le_of_add_right_le (top_left _ _ _)) ?_
      exact Nat.add_lt_add_left fewer _
    | silent => simp [Attempt.due,comes,Outcome.after] at due
  · have bound := @top_left _ _ connect {d with now := at_} m.starts m.taken
    have some : 0 < d.waiting.length := List.length_pos_of_ne_nil left
    simp only [Dialing.takes]
    dsimp only at bound
    omega

theorem staggered_left {choices : List Nat} {m₀ m : DialMoment Addr Stream}
    (ran : choices.foldlM (fun m choice => m.pass connect choice) m₀ = some m) : choices.length+m.left ≤ m₀.left := by
  induction choices generalizing m₀ with
  | nil =>
    obtain rfl := Option.some.inj ran
    exact Nat.le_of_eq (Nat.zero_add _)
  | cons choice choices ih =>
    obtain ⟨next,passed,ran⟩ := Option.bind_eq_some_iff.mp ran
    have rest := ih ran
    have now := pass_left passed
    rw [List.length_cons]
    omega

theorem pass_of_offer {m : DialMoment Addr Stream} {d : Dialing Addr Stream} (here : m.point = .selecting d)
    (offered : d.offers ≠ []) : ∃ choice m', m.pass connect choice = some m' := by
  have found : ((d.offers.map Prod.snd).min?).isSome = true := by
    rw [List.isSome_min?_iff]
    simpa using offered
  obtain ⟨at_,least⟩ := Option.isSome_iff_exists.mp found
  obtain ⟨member,first⟩ := List.min?_eq_some_iff.mp least
  obtain ⟨offer,among,rfl⟩ := List.mem_map.mp member
  obtain ⟨choice,found⟩ := List.mem_iff_getElem?.mp among
  refine ⟨choice,d.takes connect offer.1 offer.2 m.starts m.taken,?_⟩
  have earliest : ∀ other ∈ d.offers, offer.2 ≤ other.2 :=
    fun other member => first other.2 (List.mem_map_of_mem member)
  rw [DialMoment.pass,here]
  dsimp only
  rw [found,Option.bind_some,if_pos earliest]

theorem Steps.time_le (steps : Steps connect addrs starts taken) (k : Nat) (start : Addr × Nat)
    (found : starts[k]? = some start) : start.2 ≤ k*connectAttemptDelay := by
  induction k generalizing start with
  | zero => exact Nat.le_of_eq ((steps.opens start found).trans (Nat.zero_mul _).symm)
  | succ k ih =>
    have bound := (List.getElem?_eq_some_iff.mp found).1
    have before : starts[k]? = some (starts.get ⟨k,by omega⟩) := List.getElem?_eq_getElem (by omega)
    have early := ih _ before
    have soon := steps.gaps k _ _ before found
    rw [Nat.succ_mul]
    omega

theorem Tracks.next {d : Dialing Addr Stream} {addr : Addr} (tracks : Tracks connect addrs d starts taken)
    (due : addrs[starts.length]? = some addr) : ∃ rest, d.waiting = addr::rest := by
  have size : starts.length = (starts.map Prod.fst).length := by simp
  rw [← tracks.rest,size,List.getElem?_append_right (Nat.le_refl _),Nat.sub_self] at due
  cases waiting : d.waiting with
  | nil => simp [waiting] at due
  | cons first rest =>
    rw [waiting] at due
    exact ⟨rest,by rw [Option.some.inj due]⟩

/-- While an address is left the call goes on within the stagger, and either has connected or
starts that address. -/
theorem Kept.next {m : DialMoment Addr Stream} {d : Dialing Addr Stream} {addr : Addr} (kept : Kept connect addrs m)
    (here : m.point = .selecting d) (due : addrs[m.starts.length]? = some addr) :
    (∃ choice m', m.pass connect choice = some m') ∧ ∀ choice m', m.pass connect choice = some m' →
      (∃ connected, m'.point = .returned (.ok connected)) ∨ ∃ last at_, m.starts.getLast? = some last ∧
        at_ ≤ last.2+connectAttemptDelay ∧ m'.starts = m.starts ++ [(addr,at_)] := by
  have placed := kept.placed
  rw [here] at placed
  obtain ⟨tracks,_,last⟩ := placed
  obtain ⟨rest,waiting⟩ := tracks.next due
  have left : d.waiting ≠ [] := by simp [waiting]
  obtain ⟨start,found,now⟩ := Option.map_eq_some_iff.mp (last left)
  constructor
  · apply pass_of_offer here
    exact List.ne_nil_of_mem (mem_offers.mpr (.inr ⟨left,rfl,rfl⟩))
  · intro choice m' passed
    obtain ⟨d',ready,at_,here',offered,first,rfl⟩ := pass_cases passed
    obtain rfl : d = d' := DialPoint.selecting.inj (here.symm.trans here')
    have soon : at_ ≤ start.2+connectAttemptDelay := now ▸ offer_soon first left
    rcases mem_offers.mp offered with ⟨attempt,member,due,rfl⟩ | ⟨_,rfl,_⟩
    · cases comes : attempt.outcome with
      | succeeds after stream => exact .inl ⟨_,by simp only [Dialing.takes,comes]; rfl⟩
      | fails after error => exact .inr ⟨start,at_,found,soon,by simp [Dialing.takes,comes,Dialing.top,waiting]⟩
      | silent => simp [Attempt.due,comes,Outcome.after] at due
    · exact .inr ⟨start,at_,found,soon,by simp [Dialing.takes,Dialing.top,waiting]⟩

/-- Nothing can be taken only when every address is started and the ones left are silent. -/
theorem Kept.stuck {m : DialMoment Addr Stream} {d : Dialing Addr Stream} (kept : Kept connect addrs m)
    (here : m.point = .selecting d) (stuck : ∀ choice, m.pass connect choice = none) :
    m.starts.map Prod.fst = addrs ∧ ∀ seq addr, addrs[seq]? = some addr →
      connect seq addr = .silent ∨ ∃ error, (seq,error) ∈ m.taken := by
  have placed := kept.placed
  rw [here] at placed
  obtain ⟨tracks,_,_⟩ := placed
  have nothing : d.offers = [] := by
    by_contra offered
    obtain ⟨choice,m',passed⟩ := @pass_of_offer _ _ connect _ _ here offered
    rw [stuck choice] at passed
    cases passed
  have empty : d.waiting = [] := by
    by_contra left
    have offer := mem_offers.mpr (.inr ⟨left,rfl,rfl⟩)
    rw [nothing] at offer
    cases offer
  have whole := tracks.rest
  rw [empty,List.append_nil] at whole
  refine ⟨whole,fun seq addr found => ?_⟩
  rw [← whole,List.getElem?_map] at found
  obtain ⟨⟨addr',began⟩,started,rfl⟩ := Option.map_eq_some_iff.mp found
  by_cases done : ∃ error, (seq,error) ∈ m.taken
  · exact .inr done
  · have held : ⟨seq,addr',began,connect seq addr'⟩ ∈ d.attempts := by
      rw [tracks.attempts]
      refine mem_pending.mpr ⟨started,rfl,fun failure member same => done ⟨failure.2,?_⟩⟩
      have shape : failure = (seq,failure.2) := Prod.ext same rfl
      exact shape ▸ member
    cases comes : connect seq addr' with
    | silent => exact .inl rfl
    | succeeds after _ | fails after _ =>
      have offer : (Ready.attempt ⟨seq,addr',began,connect seq addr'⟩,max d.now (began+after)) ∈ d.offers := by
        refine mem_offers.mpr (.inl ⟨_,held,?_,rfl⟩)
        simp [Attempt.due,comes,Outcome.after]
      rw [nothing] at offer
      cases offer

theorem pending_nil : pending connect starts taken = [] ↔ ∀ seq < starts.length, ∃ error, (seq,error) ∈ taken := by
  constructor
  · intro none seq bound
    by_contra left
    have held : ⟨seq,(starts.get ⟨seq,bound⟩).1,(starts.get ⟨seq,bound⟩).2,
        connect seq (starts.get ⟨seq,bound⟩).1⟩ ∈ pending connect starts taken := by
      refine mem_pending.mpr ⟨List.getElem?_eq_getElem bound,rfl,fun failure member same => left ⟨failure.2,?_⟩⟩
      have shape : failure = (seq,failure.2) := Prod.ext same rfl
      exact shape ▸ member
    rw [none] at held
    cases held
  · intro all
    apply List.eq_nil_iff_forall_not_mem.mpr
    intro attempt held
    obtain ⟨found,_,open_⟩ := mem_pending.mp held
    obtain ⟨error,member⟩ := all attempt.seq (List.getElem?_eq_some_iff.mp found).1
    exact open_ _ member rfl

theorem pending_before (seq : Nat) :
    ((pending connect starts taken).filter fun held => held.seq < seq).map Attempt.addr =
      ((starts.map Prod.fst).zipIdx.filter fun start =>
        start.2 < seq && taken.all fun failure => failure.1 != start.2).map Prod.fst := by
  unfold pending
  rw [List.filter_map,List.filter_filter,List.map_map,List.zipIdx_map,List.filter_map,List.map_map]
  rfl

end Tracking

/-- What the staggered connect promises after any number of turns. -/
structure HappyEyeballs {Addr Stream : Type} (connect : Nat → Addr → Outcome Stream) (addrs : List Addr) (turns : Nat)
    (m : DialMoment Addr Stream) : Prop where
  order : m.starts.map Prod.fst <+: addrs
  gaps : ∀ k (a b : Addr × Nat), m.starts[k]? = some a → m.starts[k+1]? = some b → b.2 ≤ a.2+connectAttemptDelay
  times : ∀ k start, m.starts[k]? = some start → start.2 ≤ k*connectAttemptDelay
  next : ∀ d addr, m.point = .selecting d → addrs[m.starts.length]? = some addr →
    (∃ choice m', m.pass connect choice = some m') ∧ ∀ choice m', m.pass connect choice = some m' →
      (∃ connected, m'.point = .returned (.ok connected)) ∨ ∃ last at_, m.starts.getLast? = some last ∧
        at_ ≤ last.2+connectAttemptDelay ∧ m'.starts = m.starts ++ [(addr,at_)]
  ok : ∀ connected, m.point = .returned (.ok connected) → ∃ seq began after,
    m.starts[seq]? = some (connected.addr,began) ∧ connect seq connected.addr = .succeeds after connected.stream ∧
    connected.abandoned = ((m.starts.map Prod.fst).zipIdx.filter fun start =>
      start.2 < seq && m.taken.all fun failure => failure.1 != start.2).map Prod.fst
  err : (∃ error, m.point = .returned (.error error)) ↔
    m.starts.map Prod.fst = addrs ∧ ∀ seq < addrs.length, ∃ error, (seq,error) ∈ m.taken
  failed : ∀ seq error, (seq,error) ∈ m.taken → ∃ addr after, addrs[seq]? = some addr ∧
    connect seq addr = .fails after error
  last : ∀ error, m.point = .returned (.error error) → error = (m.taken.getLast?.map Prod.snd).getD noAddresses
  stuck : ∀ d, m.point = .selecting d → (∀ choice, m.pass connect choice = none) →
    m.starts.map Prod.fst = addrs ∧ ∀ seq addr, addrs[seq]? = some addr →
      connect seq addr = .silent ∨ ∃ error, (seq,error) ∈ m.taken
  bounded : turns ≤ 2*addrs.length

/-- Whatever comes of each address and whichever ready branch each select takes: the addresses
are started in order and in time, and the call returns the first success it takes, or the last
failure when every address has failed. -/
theorem connect_staggered_fair {Addr Stream : Type} (connect : Nat → Addr → Outcome Stream) (addrs : List Addr)
    (choices : List Nat) (m : DialMoment Addr Stream) (ran : staggered connect addrs choices = some m) :
    HappyEyeballs connect addrs choices.length m := by
  have kept : Kept connect addrs m := staggered_kept start_kept ran
  have placed := kept.placed
  constructor
  · exact kept.steps.order
  · exact kept.steps.gaps
  · exact kept.steps.time_le
  · exact fun d addr here due => kept.next here due
  · intro connected here
    rw [here] at placed
    obtain ⟨attempt,held,⟨after,comes⟩,addr,abandoned⟩ := placed
    obtain ⟨found,outcome,_⟩ := mem_pending.mp held
    refine ⟨attempt.seq,attempt.began,after,addr ▸ found,?_,abandoned.trans (pending_before attempt.seq)⟩
    rw [addr,← outcome,comes]
  · constructor
    · intro returned
      obtain ⟨error,here⟩ := returned
      rw [here] at placed
      obtain ⟨whole,none,_⟩ := placed
      refine ⟨whole,?_⟩
      rw [← whole,List.length_map]
      exact pending_nil.mp none
    · intro all
      obtain ⟨whole,all⟩ := all
      rw [← whole,List.length_map] at all
      have none := (@pending_nil _ _ connect _ _).mpr all
      cases here : m.point with
      | selecting d =>
        rw [here] at placed
        exact absurd (placed.1.attempts.trans none) placed.2.1
      | returned result =>
        cases result with
        | error error => exact ⟨error,rfl⟩
        | ok connected =>
          rw [here] at placed
          obtain ⟨attempt,held,_⟩ := placed
          rw [none] at held
          cases held
  · intro seq error member
    obtain ⟨addr,began,after,found,fails⟩ := kept.steps.failed _ member
    refine ⟨addr,after,?_,fails⟩
    obtain ⟨rest,whole⟩ := kept.steps.order
    have bound := (List.getElem?_eq_some_iff.mp found).1
    rw [← whole,List.getElem?_append_left (by simpa using bound),List.getElem?_map,found]
    rfl
  · intro error here
    rw [here] at placed
    exact placed.2.2
  · exact fun d here stuck => kept.stuck here stuck
  · have turns := staggered_left ran
    have start := @top_left _ _ connect ⟨0,addrs,[],[],0,none⟩ [] []
    simp only [List.length_nil,Nat.add_zero] at start
    have first : (connectStaggered connect addrs).left ≤ 2*addrs.length := Nat.le_of_add_right_le start
    omega

namespace Sample

def blackHole (seq _ : Nat) : Outcome Unit := if seq = 0 then .silent else .succeeds 10 ()

end Sample

theorem sample_connect_staggered_fair : HappyEyeballs Sample.blackHole [1,2] 2
    ⟨.returned (.ok ⟨(),2,[1]⟩),[(1,0),(2,connectAttemptDelay)],[]⟩ :=
  connect_staggered_fair Sample.blackHole [1,2] [0,0] _ rfl

end GatewaySdk.Client
