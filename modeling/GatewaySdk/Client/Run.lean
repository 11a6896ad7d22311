import GatewaySdk.Client.Session
import Mathlib.Logic.Function.Basic

/-! The gateway client: `run` with its sessions one after another, the turn their command
workers share, the outbound channel and the emitters of the vendor. -/
namespace GatewaySdk.Client
open GatewaySdk.Effect GatewaySdk.Upgrade

/-- Who asks for the turn: a session's worker, or `run` when it drains. -/
inductive Asker where
  | worker (k : Nat)
  | drain
  deriving DecidableEq, Repr

/-- Where `run` is. Everything outside a session is `between`: dial, auth and backoff. -/
inductive Main where
  | between
  | session
  | ended (next : Next)
  | closing
  | draining
  | returned (expired : Bool)
  | dropped
  deriving DecidableEq, Repr

/-- The first `count` sessions have been started, the last of them live or over. The turn
is a semaphore of one permit that serves in order: the first in line has it, from the
moment the one before leaves. -/
structure GatewayClient where
  main : Main
  count : Nat
  session : Nat → Session
  turn : List Asker
  outbound : List OutboundFrame
  closed : Bool
  emitter : Nat → Option OutboundFrame

inductive Fact where
  | of (k : Nat) (fact : SessionFact)
  | accepted (frame : OutboundFrame)

namespace GatewayClient

def start : GatewayClient where
  main := .between
  count := 0
  session := fun _ => .fresh
  turn := []
  outbound := []
  closed := false
  emitter := fun _ => none

def set (c : GatewayClient) (k : Nat) (σ : Session) : GatewayClient := {c with session := Function.update c.session k σ}

/-- `run` has left its loop: the channel is closed and the turn asked for. -/
def drain (c : GatewayClient) : GatewayClient := {c with main := .draining,closed := true,turn := c.turn ++ [.drain]}

/-- The receiver of the outbound channel is dropped, and what was in it. -/
def leave (c : GatewayClient) (main : Main) : GatewayClient :=
  {c with main := main,closed := true,turn := c.turn.erase .drain,outbound := []}

/-- The session's token has been cancelled, and `run` goes on. -/
def goOn (c : GatewayClient) : Next → GatewayClient
  | .reconnect => {c with main := .between}
  | .close => {c with main := .closing}
  | .drop => c.leave .dropped

end GatewayClient

/-- What the surroundings of session `k` do for an action of it, where they can. -/
inductive Grants (k : Nat) (c : GatewayClient) : Action → List Fact → GatewayClient → Prop
  | quiet : Grants k c .quiet [] c
  | join : Grants k c .join [] {c with turn := c.turn ++ [.worker k]}
  | hold (first : c.turn.head? = some (.worker k)) : Grants k c .hold [] c
  | leave : Grants k c .leave [] {c with turn := c.turn.erase (.worker k)}
  | send (frame : OutboundFrame) (opened : c.closed = false) (room : c.outbound.length < outboundChannelSize) :
    Grants k c (.send frame) [.accepted frame] {c with outbound := c.outbound ++ [frame]}
  | refuse (shut : c.closed = true) : Grants k c .refuse [] c
  | receive (frame : OutboundFrame) (rest : List OutboundFrame) (first : c.outbound = frame::rest) :
    Grants k c (.receive frame) [] {c with outbound := rest}
  | finish (next : Next) (live : c.main = .session ∧ c.count = k+1) :
    Grants k c (.finish next) [] {c with main := .ended next}
  | cancel (next : Next) (ended : c.main = .ended next ∧ c.count = k+1) : Grants k c .cancel [] (c.goOn next)

/-- A step of `run` outside its sessions. -/
inductive MainStep : GatewayClient → GatewayClient → Prop
  | connected {c : GatewayClient} (between : c.main = .between) :
    MainStep c {c.set c.count .fresh with main := .session,count := c.count+1}
  | stopped {c : GatewayClient} (between : c.main = .between) : MainStep c c.drain
  | closeWritten {c : GatewayClient} (closing : c.main = .closing) : MainStep c c.drain
  | drained {c : GatewayClient} (draining : c.main = .draining) (first : c.turn.head? = some .drain) :
    MainStep c (c.leave (.returned false))
  | expired {c : GatewayClient} (draining : c.main = .draining) : MainStep c (c.leave (.returned true))
  | abandoned {c : GatewayClient} (waiting : c.main = .between ∨ c.main = .closing ∨ c.main = .draining) :
    MainStep c (c.leave .dropped)

/-- A step of a vendor's `Emitter` send, or of its being given up. -/
inductive EmitterStep : GatewayClient → List Fact → GatewayClient → Prop
  | offers {c : GatewayClient} (i : Nat) (frame : OutboundFrame) (free : c.emitter i = none) :
    EmitterStep c [] {c with emitter := Function.update c.emitter i (some frame)}
  | sends {c : GatewayClient} (i : Nat) (frame : OutboundFrame) (offered : c.emitter i = some frame)
    (opened : c.closed = false) (room : c.outbound.length < outboundChannelSize) :
    EmitterStep c [.accepted frame]
      {c with emitter := Function.update c.emitter i none,outbound := c.outbound ++ [frame]}
  | fails {c : GatewayClient} (i : Nat) (frame : OutboundFrame) (offered : c.emitter i = some frame) (shut : c.closed = true) :
    EmitterStep c [] {c with emitter := Function.update c.emitter i none}
  | cancelled {c : GatewayClient} (i : Nat) : EmitterStep c [] {c with emitter := Function.update c.emitter i none}

variable (fromStr : String → Option Json)

inductive Step : GatewayClient → List Fact → GatewayClient → Prop
  | session {c granted : GatewayClient} {action : Action} {facts : List SessionFact} {more : List Fact} {σ : Session} (k : Nat)
    (born : k < c.count) (moved : SessionStep fromStr (c.session k) action facts σ)
    (grants : Grants k c action more granted) : Step c (facts.map (.of k) ++ more) (granted.set k σ)
  | main {c c' : GatewayClient} (moved : MainStep c c') : Step c [] c'
  | emitter {c c' : GatewayClient} {facts : List Fact} (moved : EmitterStep c facts c') : Step c facts c'

abbrev Runs (history : List Fact) (c : GatewayClient) : Prop := Reaches (Step fromStr) GatewayClient.start history c

def factsOf (k : Nat) (history : List Fact) : List SessionFact :=
  history.filterMap fun
    | .of j fact => if j = k then some fact else none
    | .accepted _ => none

def acceptedOf (history : List Fact) : List OutboundFrame :=
  history.filterMap fun
    | .accepted frame => some frame
    | .of _ _ => none

section Projections

variable {fromStr} {k j : Nat} {c granted : GatewayClient} {σ : Session} {action : Action} {facts : List SessionFact}
  {history more : List Fact}

@[simp] theorem set_same (c : GatewayClient) (k : Nat) (σ : Session) : (c.set k σ).session k = σ :=
  Function.update_self _ _ _

theorem set_other (c : GatewayClient) (σ : Session) (other : j ≠ k) : (c.set k σ).session j = c.session j :=
  Function.update_of_ne other _ _

@[simp] theorem set_main (c : GatewayClient) (k : Nat) (σ : Session) : (c.set k σ).main = c.main := rfl
@[simp] theorem set_count (c : GatewayClient) (k : Nat) (σ : Session) : (c.set k σ).count = c.count := rfl
@[simp] theorem set_turn (c : GatewayClient) (k : Nat) (σ : Session) : (c.set k σ).turn = c.turn := rfl
@[simp] theorem set_outbound (c : GatewayClient) (k : Nat) (σ : Session) : (c.set k σ).outbound = c.outbound := rfl
@[simp] theorem set_closed (c : GatewayClient) (k : Nat) (σ : Session) : (c.set k σ).closed = c.closed := rfl

theorem goOn_session (c : GatewayClient) (next : Next) : (c.goOn next).session = c.session := by
  cases next <;> rfl

theorem goOn_count (c : GatewayClient) (next : Next) : (c.goOn next).count = c.count := by
  cases next <;> rfl

theorem Grants.session (grants : Grants k c action more granted) : granted.session = c.session := by
  cases grants with
  | cancel next ended => exact goOn_session c next
  | _ => rfl

theorem Grants.count (grants : Grants k c action more granted) : granted.count = c.count := by
  cases grants with
  | cancel next ended => exact goOn_count c next
  | _ => rfl

theorem Grants.no_facts (grants : Grants k c action more granted) : factsOf j more = [] := by
  cases grants <;> rfl

theorem factsOf_append (k : Nat) (history more : List Fact) :
    factsOf k (history ++ more) = factsOf k history ++ factsOf k more :=
  List.filterMap_append

theorem factsOf_own (k : Nat) (facts : List SessionFact) : factsOf k (facts.map (.of k)) = facts := by
  induction facts with
  | nil => rfl
  | cons fact facts ih => simp [factsOf]

theorem factsOf_other (facts : List SessionFact) (other : j ≠ k) : factsOf j (facts.map (.of k)) = [] := by
  induction facts with
  | nil => rfl
  | cons fact facts ih => simp [factsOf,other.symm]

theorem EmitterStep.session {c' : GatewayClient} (moved : EmitterStep c more c') :
    c'.session = c.session ∧ factsOf k more = [] := by
  cases moved <;> exact ⟨rfl,rfl⟩

/-- A session of the client runs by itself, whatever goes on around it. -/
theorem session_alone (runs : Runs fromStr history c) (k : Nat) :
    Reaches (SessionStep.Alone fromStr) .fresh (factsOf k history) (c.session k) ∧
      (c.count ≤ k → c.session k = .fresh ∧ factsOf k history = []) := by
  induction runs with
  | start => exact ⟨.start,fun _ => ⟨rfl,rfl⟩⟩
  | @next history more c c' _ moved known =>
    obtain ⟨before,unborn⟩ := known
    rw [factsOf_append]
    cases moved with
    | @session granted action facts extra σ j born moved grants =>
      rw [factsOf_append,grants.no_facts,List.append_nil]
      by_cases same : k = j
      · subst k
        rw [factsOf_own,set_same]
        refine ⟨before.next ⟨action,moved⟩,fun beyond => ?_⟩
        rw [set_count,grants.count] at beyond
        omega
      · rw [factsOf_other facts same,List.append_nil,set_other _ _ same,grants.session,set_count,grants.count]
        exact ⟨before,unborn⟩
    | main moved =>
      rw [show factsOf k [] = [] from rfl,List.append_nil]
      cases moved with
      | connected between =>
        by_cases same : k = c.count
        · obtain ⟨_,none⟩ := unborn (Nat.le_of_eq same.symm)
          rw [none]
          subst k
          refine ⟨?_,fun beyond => ?_⟩
          · simp only [set_same]
            exact .start
          · simp only at beyond
            omega
        · simp only [set_other _ _ same]
          exact ⟨before,fun beyond => unborn (by omega)⟩
      | _ => exact ⟨before,unborn⟩
    | emitter moved =>
      obtain ⟨sessions,facts⟩ := @EmitterStep.session k c more c' moved
      have count : c'.count = c.count := by cases moved <;> rfl
      rw [sessions,facts,List.append_nil,count]
      exact ⟨before,unborn⟩

end Projections

namespace Sample

def frame : String :=
  "\x7b\"type\":\"command\",\"payload\":\x7b\"command_id\":\"c1\",\"action\":\x7b\"type\":\"reboot\"\x7d\x7d\x7d"

def payload : Json := .obj [("command_id",.str "c1"),("action",.obj [("type",.str "reboot")])]

def parse (text : String) : Option Json :=
  if text = frame then some (.obj [("type",.str "command"),("payload",payload)]) else none

def reboot : QueuedCommand := ⟨0,"c1",frame⟩

theorem frame_short : frame.utf8ByteSize ≤ maxInboundWsBytes := by decide

theorem frame_cost : cost frame ≤ commandQueueBytes := by decide

theorem frame_routing {σ : Session} (free : cost frame ≤ σ.commandFree) (kept : σ.worker.letGo = false) :
    routeInbound parse σ frame = if σ.queue.length < commandQueueSize then .queued ⟨σ.arrivals,"c1",frame⟩
      else .busy ⟨σ.arrivals,"c1",frame⟩ true := by
  have parsed : IncomingMessage.parse parse frame = some ⟨"command",payload⟩ := rfl
  unfold routeInbound
  rw [parsed]
  simp only [if_true,if_neg (Nat.not_lt.mpr free),kept,Bool.false_eq_true,if_false]
  rfl

theorem frame_routed {σ : Session} (arrivals : σ.arrivals = 0) (free : σ.commandFree = commandQueueBytes)
    (kept : σ.worker.letGo = false) (empty : σ.queue = []) : routeInbound parse σ frame = .queued reboot := by
  have room : ([] : List QueuedCommand).length < commandQueueSize := by decide
  rw [frame_routing (free ▸ frame_cost) kept,empty,if_pos room,arrivals]
  rfl

def ended : Session where
  sessionOver := true
  arrivals := 1
  loop := .gone
  reader := .gone
  inbound := []
  inboundFree := inboundBudgetBytes
  queue := []
  commandFree := commandQueueBytes
  worker := .running reboot .handling true

def past : List Fact := [.of 0 (.routed reboot .queued),.of 0 (.taken reboot),.of 0 (.invoked reboot (hookOf parse reboot))]

structure Hung (c : GatewayClient) : Prop where
  runs : Runs parse past c
  main : c.main = .session
  count : c.count = 2
  turn : c.turn = [.worker 0,.worker 1]
  first : c.session 0 = ended
  second : c.session 1 = {Session.fresh with worker := .waiting}
  empty : c.outbound = []
  opened : c.closed = false

theorem hung : ∃ c, Hung c := by
  have connected : Runs parse _ _ := Reaches.start.next (.main (.connected rfl))
  have read := connected.next (.session 0 Nat.one_pos (.reader (.text frame rfl frame_short)) .quiet)
  have granted := read.next (.session 0 Nat.one_pos (.reader (.granted frame rfl frame_cost)) .quiet)
  have handed := granted.next (.session 0 Nat.one_pos (.reader (.handed (.text frame) rfl (by decide))) .quiet)
  have queued := handed.next (.session 0 Nat.one_pos
    (.loop (.queued frame reboot rfl rfl (frame_routed rfl rfl rfl rfl))) .quiet)
  have asked := queued.next (.session 0 Nat.one_pos (.worker (.asks rfl rfl)) .join)
  have turned := asked.next (.session 0 Nat.one_pos (.worker (.turn rfl rfl)) (.hold rfl))
  have taken := turned.next (.session 0 Nat.one_pos (.worker (.takes reboot rfl rfl rfl)) .quiet)
  have started := taken.next (.session 0 Nat.one_pos (.task (.starts reboot false rfl)) .quiet)
  have silent := started.next (.session 0 Nat.one_pos (.silent rfl) (.finish .reconnect ⟨rfl,rfl⟩))
  have told := silent.next (.session 0 Nat.one_pos .cancel (.cancel .reconnect ⟨rfl,rfl⟩))
  have letGo := told.next (.session 0 Nat.one_pos (.worker (.letsGo reboot .handling rfl ⟨nofun,nofun⟩ rfl)) .quiet)
  have reconnected := letGo.next (.main (.connected rfl))
  have waiting := reconnected.next (.session 1 Nat.one_lt_two (.worker (.asks rfl rfl)) .join)
  exact ⟨_,waiting,rfl,rfl,rfl,rfl,rfl,rfl,rfl⟩

end Sample

end GatewaySdk.Client
