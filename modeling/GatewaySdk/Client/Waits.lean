import GatewaySdk.Client.Turn

/-! Who waits for whom while a session is live. The session loop waits for nobody, and all
other waits lead to it, to a handler that runs, or to what comes from outside. -/
namespace GatewaySdk.Client
open GatewaySdk.Effect GatewaySdk.Upgrade

variable {fromStr : String → Option Json} {k : Nat} {c : GatewayClient} {history : List Fact}

inductive Party where
  | reader (k : Nat)
  | loop (k : Nat)
  | worker (k : Nat)
  | task (k : Nat)
  | emitter (i : Nat)
  deriving DecidableEq, Repr

/-- Something of session `k` has a step, and what it asks for is granted. -/
def Moves (step : Session → Action → List SessionFact → Session → Prop) (c : GatewayClient) (k : Nat) : Prop :=
  ∃ action facts τ more granted, step (c.session k) action facts τ ∧ Grants k c action more granted

theorem Moves.quietly {step : Session → Action → List SessionFact → Session → Prop} {facts : List SessionFact} {τ : Session}
    (moved : step (c.session k) .quiet facts τ) : Moves step c k := ⟨_,_,_,_,_,moved,.quiet⟩

def GatewayClient.Full (c : GatewayClient) : Prop := c.closed = false ∧ ¬ c.outbound.length < outboundChannelSize

def Able (fromStr : String → Option Json) (c : GatewayClient) : Party → Prop
  | .reader k => ∃ τ, ReaderStep (c.session k) τ
  | .loop k => Moves (LoopStep fromStr) c k
  | .worker k => Moves WorkerStep c k
  | .task k => Moves (TaskStep fromStr) c k
  | .emitter i => ∃ frame, c.emitter i = some frame ∧ ¬ c.Full

def Rests (c : GatewayClient) : Party → Prop
  | .reader k => (c.session k).reader = .parked ∨ (c.session k).reader = .gone
  | .loop k => (c.session k).loop = .gone
  | .worker k => (c.session k).worker = .done
  | .task k => ∀ command task letGo, (c.session k).worker = .running command task letGo → task = .returned ∨ task = .panicked
  | .emitter i => c.emitter i = none

/-- What a party cannot go on without: `Waits c p q` where only a step of `q` lets `p` go on. -/
inductive Waits (c : GatewayClient) : Party → Party → Prop
  | budget (k : Nat) (text : String) (waits : (c.session k).reader = .budget text)
    (poor : (c.session k).inboundFree < cost text) : Waits c (.reader k) (.loop k)
  | room (k : Nat) (item : Inbound) (waits : (c.session k).reader = .room item)
    (full : ¬ (c.session k).inbound.length < inboundChannelSize) : Waits c (.reader k) (.loop k)
  | command (k : Nat) (idle : (c.session k).worker = .idle) (live : (c.session k).sessionOver = false)
    (empty : (c.session k).queue = []) (fed : (c.session k).loop ≠ .gone) : Waits c (.worker k) (.loop k)
  | turn (k j : Nat) (waiting : (c.session k).worker = .waiting) (live : (c.session k).sessionOver = false)
    (first : c.turn.head? = some (.worker j)) (other : j ≠ k) : Waits c (.worker k) (.worker j)
  | task (k : Nat) (command : QueuedCommand) (task : Task) (letGo : Bool)
    (running : (c.session k).worker = .running command task letGo) (unfinished : task ≠ .returned ∧ task ≠ .panicked)
    (kept : (c.session k).sessionOver = false ∨ letGo = true) : Waits c (.worker k) (.task k)
  | panicked (k : Nat) (command : QueuedCommand) (frame : OutboundFrame) (letGo : Bool)
    (acking : (c.session k).worker = .acking command frame letGo) (full : c.Full) : Waits c (.worker k) (.loop (c.count-1))
  | ack (k : Nat) (command : QueuedCommand) (frame : OutboundFrame) (response : Option OutboundFrame) (letGo : Bool)
    (acking : (c.session k).worker = .running command (.acking frame response) letGo) (full : c.Full) :
    Waits c (.task k) (.loop (c.count-1))
  | response (k : Nat) (command : QueuedCommand) (frame : OutboundFrame) (letGo : Bool)
    (responding : (c.session k).worker = .running command (.responding frame) letGo) (full : c.Full) :
    Waits c (.task k) (.loop (c.count-1))
  | emitter (i : Nat) (frame : OutboundFrame) (offered : c.emitter i = some frame) (full : c.Full) :
    Waits c (.emitter i) (.loop (c.count-1))

/-- The loop of session `k` goes on whatever is full: an idle loop routes what is inbound,
then writes what is outbound, then a heartbeat, and the one write it is in may end either way. -/
structure LoopFree (fromStr : String → Option Json) (c : GatewayClient) (k : Nat) : Prop where
  phase : (c.session k).loop = .idle ∨ ∃ write, (c.session k).loop = .writing write
  routes : ∀ item rest, (c.session k).loop = .idle → (c.session k).inbound = item::rest →
    ∃ action facts τ more granted, LoopStep fromStr (c.session k) action facts τ ∧ Grants k c action more granted ∧
      (τ.inbound = rest ∨ τ.loop = .gone)
  sends : ∀ frame rest, (c.session k).loop = .idle → (c.session k).inbound = [] → c.outbound = frame::rest →
    ∃ τ granted, LoopStep fromStr (c.session k) (.receive frame) [] τ ∧ Grants k c (.receive frame) [] granted ∧
      granted.outbound = rest
  beats : (c.session k).loop = .idle → (c.session k).inbound = [] →
    ∃ τ, LoopStep fromStr (c.session k) .quiet [] τ ∧ τ.loop = .writing .heartbeat
  writes : ∀ write, (c.session k).loop = .writing write →
    (∃ facts τ, LoopStep fromStr (c.session k) .quiet facts τ ∧ τ.loop = .idle) ∧
      ∃ τ granted, LoopStep fromStr (c.session k) (.finish .reconnect) [] τ ∧ Grants k c (.finish .reconnect) [] granted

/-- What is inbound is routed, with no wait for the worker or the outbound channel. -/
theorem loop_routes {item : Inbound} {rest : List Inbound} (live : c.main = .session ∧ c.count = k+1)
    (idle : (c.session k).loop = .idle) (first : (c.session k).inbound = item::rest) :
    ∃ action facts τ more granted, LoopStep fromStr (c.session k) action facts τ ∧ Grants k c action more granted ∧
      (τ.inbound = rest ∨ τ.loop = .gone) := by
  cases item with
  | ping data => exact ⟨_,_,_,_,_,.ping data idle first,.quiet,.inl rfl⟩
  | text text =>
    cases routing : routeInbound fromStr (c.session k) text with
    | dropped => exact ⟨_,_,_,_,_,.dropped text idle first routing,.quiet,.inl rfl⟩
    | pong => exact ⟨_,_,_,_,_,.pong text idle first routing,.quiet,.inl rfl⟩
    | queued command => exact ⟨_,_,_,_,_,.queued text command idle first routing,.quiet,.inl rfl⟩
    | busy command held => exact ⟨_,_,_,_,_,.busy text command held idle first routing,.quiet,.inl rfl⟩
    | stopped => exact ⟨_,_,_,_,_,.stopped text idle first routing,.finish .reconnect live,.inr rfl⟩
  | closed => exact ⟨_,_,_,_,_,.ended .closed idle first (.inl rfl),.finish .reconnect live,.inr rfl⟩
  | failed => exact ⟨_,_,_,_,_,.ended .failed idle first (.inr (.inl rfl)),.finish .reconnect live,.inr rfl⟩
  | ended => exact ⟨_,_,_,_,_,.ended .ended idle first (.inr (.inr rfl)),.finish .reconnect live,.inr rfl⟩

theorem Phased.loopFree (phased : Phased c) (live : c.main = .session) (last : c.count = k+1) : LoopFree fromStr c k where
  phase := by
    have stays := (phased.loops k (by omega)).mpr ⟨last.symm,live⟩
    cases loop : (c.session k).loop with
    | idle => exact .inl rfl
    | writing write => exact .inr ⟨write,rfl⟩
    | gone => exact absurd loop stays
  routes item rest idle first := loop_routes ⟨live,last⟩ idle first
  sends frame rest idle empty first := ⟨_,_,.outbound frame idle empty,.receive frame rest first,rfl⟩
  beats idle empty := ⟨_,.heartbeat idle empty,rfl⟩
  writes write writing := ⟨⟨_,_,.wrote write writing,rfl⟩,_,_,.writeFailed write writing,.finish .reconnect ⟨live,last⟩⟩

theorem reader_goes_on (c : GatewayClient) (k : Nat) :
    Able fromStr c (.reader k) ∨ Rests c (.reader k) ∨ ∃ q, Waits c (.reader k) q := by
  cases reader : (c.session k).reader with
  | reading => exact .inl ⟨_,.ignored reader⟩
  | budget text =>
    by_cases poor : (c.session k).inboundFree < cost text
    · exact .inr (.inr ⟨_,.budget k text reader poor⟩)
    · exact .inl ⟨_,.granted text reader (Nat.le_of_not_lt poor)⟩
  | room item =>
    by_cases room : (c.session k).inbound.length < inboundChannelSize
    · exact .inl ⟨_,.handed item reader room⟩
    · exact .inr (.inr ⟨_,.room k item reader room⟩)
  | parked => exact .inr (.inl (.inl reader))
  | gone => exact .inr (.inl (.inr reader))

theorem Phased.loop_goes_on (phased : Phased c) (live : c.main = .session) (k : Nat) :
    Able fromStr c (.loop k) ∨ Rests c (.loop k) := by
  cases loop : (c.session k).loop with
  | idle =>
    cases inbound : (c.session k).inbound with
    | nil => exact .inl (.quietly (.heartbeat loop inbound))
    | cons item rest =>
      have born : k < c.count := by
        by_contra unborn
        rw [phased.unborn k (Nat.le_of_not_lt unborn)] at inbound
        cases inbound
      have stays : (c.session k).loop ≠ .gone := by
        rw [loop]
        nofun
      obtain ⟨last,_⟩ := (phased.loops k born).mp stays
      obtain ⟨_,_,_,_,_,moved,grants,_⟩ := @loop_routes fromStr k c item rest ⟨live,last.symm⟩ loop inbound
      exact .inl ⟨_,_,_,_,_,moved,grants⟩
  | writing write => exact .inl (.quietly (.wrote write loop))
  | gone => exact .inr loop

/-- While a session is live the outbound channel is open: a send goes out or finds it full. -/
theorem Phased.sends (phased : Phased c) (live : c.main = .session) (k : Nat) (frame : OutboundFrame) :
    (∃ more granted, Grants k c (.send frame) more granted) ∨ c.Full := by
  have opened : c.closed = false := by
    rw [phased.closed,live]
    rfl
  by_cases room : c.outbound.length < outboundChannelSize
  · exact .inl ⟨_,_,.send frame opened room⟩
  · exact .inr ⟨opened,room⟩

theorem Phased.task_goes_on (phased : Phased c) (live : c.main = .session) (k : Nat) :
    Able fromStr c (.task k) ∨ Rests c (.task k) ∨ ∃ q, Waits c (.task k) q := by
  cases worker : (c.session k).worker with
  | running command task letGo =>
    cases task with
    | spawned => exact .inl (.quietly (.starts command letGo worker))
    | handling => exact .inl (.quietly (.panicked command letGo worker))
    | acking frame response =>
      obtain ⟨_,_,grants⟩ | full := phased.sends live k frame
      · exact .inl ⟨_,_,_,_,_,.acked command letGo frame response worker,grants⟩
      · exact .inr (.inr ⟨_,.ack k command frame response letGo worker full⟩)
    | responding frame =>
      obtain ⟨_,_,grants⟩ | full := phased.sends live k frame
      · exact .inl ⟨_,_,_,_,_,.responded command letGo frame worker,grants⟩
      · exact .inr (.inr ⟨_,.response k command frame letGo worker full⟩)
    | returned =>
      refine .inr (.inl fun _ _ _ same => ?_)
      cases worker.symm.trans same
      exact .inl rfl
    | panicked =>
      refine .inr (.inl fun _ _ _ same => ?_)
      cases worker.symm.trans same
      exact .inr rfl
  | _ =>
    refine .inr (.inl fun _ _ _ same => ?_)
    cases worker.symm.trans same

theorem running_goes_on {command : QueuedCommand} {task : Task} {letGo : Bool}
    (running : (c.session k).worker = .running command task letGo) :
    Able fromStr c (.worker k) ∨ ∃ q, Waits c (.worker k) q := by
  have unfinished (other : task ≠ .returned ∧ task ≠ .panicked) :
      Able fromStr c (.worker k) ∨ ∃ q, Waits c (.worker k) q := by
    cases letGo with
    | true => exact .inr ⟨_,.task k command task true running other (.inr rfl)⟩
    | false =>
      cases isOver : (c.session k).sessionOver with
      | true => exact .inl (.quietly (.letsGo command task running other isOver))
      | false => exact .inr ⟨_,.task k command task false running other (.inl isOver)⟩
  cases task with
  | returned => exact .inl (.quietly (.joined command letGo running))
  | panicked => exact .inl (.quietly (.panicked command letGo running))
  | _ => exact unfinished ⟨nofun,nofun⟩

theorem Lined.waiting_goes_on (lined : Lined c) (live : c.main = .session) (waiting : (c.session k).worker = .waiting) :
    Able fromStr c (.worker k) ∨ ∃ q, Waits c (.worker k) q := by
  cases isOver : (c.session k).sessionOver with
  | true => exact .inl ⟨_,_,_,_,_,.gaveUp waiting isOver,.leave⟩
  | false =>
    have stands : .worker k ∈ c.turn := by
      rw [lined.workers k,waiting]
      rfl
    cases first : c.turn.head? with
    | none =>
      rw [List.head?_eq_none_iff.mp first] at stands
      cases stands
    | some asker =>
      cases asker with
      | drain =>
        have drains := lined.drain.mp (List.mem_of_head? first)
        rw [live] at drains
        cases drains
      | worker j =>
        by_cases own : j = k
        · subst j
          exact .inl ⟨_,_,_,_,_,.turn waiting isOver,.hold first⟩
        · exact .inr ⟨_,.turn k j waiting isOver first own⟩

theorem worker_goes_on (phased : Phased c) (lined : Lined c) (live : c.main = .session) (k : Nat) :
    Able fromStr c (.worker k) ∨ Rests c (.worker k) ∨ ∃ q, Waits c (.worker k) q := by
  have either (goes : Able fromStr c (.worker k) ∨ ∃ q, Waits c (.worker k) q) :
      Able fromStr c (.worker k) ∨ Rests c (.worker k) ∨ ∃ q, Waits c (.worker k) q :=
    goes.imp_right .inr
  cases worker : (c.session k).worker with
  | unpolled =>
    cases isOver : (c.session k).sessionOver with
    | true => exact .inl (.quietly (.neverAsked worker isOver))
    | false => exact .inl ⟨_,_,_,_,_,.asks worker isOver,.join⟩
  | waiting => exact either (lined.waiting_goes_on live worker)
  | idle =>
    cases isOver : (c.session k).sessionOver with
    | true => exact .inl ⟨_,_,_,_,_,.stops worker isOver,.leave⟩
    | false =>
      cases queue : (c.session k).queue with
      | cons command rest => exact .inl (.quietly (.takes command worker isOver queue))
      | nil =>
        by_cases gone : (c.session k).loop = .gone
        · exact .inl ⟨_,_,_,_,_,.unfed worker isOver queue gone,.leave⟩
        · exact .inr (.inr ⟨_,.command k worker isOver queue gone⟩)
  | running command task letGo => exact either (running_goes_on worker)
  | acking command frame letGo =>
    obtain ⟨_,_,grants⟩ | full := phased.sends live k frame
    · exact .inl ⟨_,_,_,_,_,.sent command frame letGo worker,grants⟩
    · exact .inr (.inr ⟨_,.panicked k command frame letGo worker full⟩)
  | seenOut letGo =>
    cases letGo with
    | true => exact .inl ⟨_,_,_,_,_,.returns worker,.leave⟩
    | false => exact .inl (.quietly (.goesOn worker))
  | done => exact .inr (.inl worker)

theorem emitter_goes_on (c : GatewayClient) (i : Nat) :
    Able fromStr c (.emitter i) ∨ Rests c (.emitter i) ∨ ∃ q, Waits c (.emitter i) q := by
  cases offered : c.emitter i with
  | none => exact .inr (.inl offered)
  | some frame =>
    by_cases full : c.Full
    · exact .inr (.inr ⟨_,.emitter i frame offered full⟩)
    · exact .inl ⟨frame,offered,full⟩

/-- How far a party is from the loop it may have to wait for. -/
def rank (c : GatewayClient) : Party → Nat
  | .loop _ => 0
  | .reader _ => 1
  | .task _ => 1
  | .emitter _ => 1
  | .worker k => if c.turn.head? = some (.worker k) then 2 else 3

theorem rank_worker (c : GatewayClient) (k : Nat) : 1 < rank c (.worker k) := by
  rw [rank]
  split <;> decide

theorem Waits.rank_falls {p q : Party} (waits : Waits c p q) : rank c q < rank c p := by
  cases waits with
  | turn k j waiting live first other =>
    have behind : c.turn.head? ≠ some (.worker k) := by
      rw [first]
      simpa using other
    simp only [rank,first,if_true]
    rw [if_neg (by rwa [first] at behind)]
    decide
  | command k => exact Nat.lt_of_succ_lt (rank_worker c k)
  | task k => exact rank_worker c k
  | panicked k => exact Nat.lt_of_succ_lt (rank_worker c k)
  | budget | room | ack | response | emitter => exact Nat.one_pos

/-- The session loop never waits for another party: it goes on whatever is full. Each other
party goes on, rests, or waits for one nearer to the loop, so no waits make a cycle. -/
theorem session_loop_never_waits (runs : Runs fromStr history c) (live : c.main = .session) :
    (∃ k, c.count = k+1 ∧ LoopFree fromStr c k ∧ ∀ q, ¬ Waits c (.loop k) q) ∧
      (∀ p, Able fromStr c p ∨ Rests c p ∨ ∃ q, Waits c p q) ∧ ∀ p, ¬ Relation.TransGen (Waits c) p p := by
  have phased := runs_phased runs
  have lined := runs_lined runs
  refine ⟨?_,fun p => ?_,no_cycle (rank c) fun p q waits => waits.rank_falls⟩
  · have started : 0 < c.count := phased.started (by rw [live]; rfl)
    have last : c.count = c.count-1+1 := by omega
    exact ⟨_,last,phased.loopFree live last,nofun⟩
  · cases p with
    | reader k => exact reader_goes_on c k
    | loop k => exact (phased.loop_goes_on live k).imp_right .inl
    | worker k => exact worker_goes_on phased lined live k
    | task k => exact phased.task_goes_on live k
    | emitter i => exact emitter_goes_on c i

/-- The second session's worker waits for the first's, and that for its command. -/
theorem hung_waits : ∃ c, Sample.Hung c ∧ Waits c (.worker 1) (.worker 0) ∧ Waits c (.worker 0) (.task 0) ∧
    ∀ p, ¬ Relation.TransGen (Waits c) p p := by
  obtain ⟨c,hung⟩ := Sample.hung
  have first : c.turn.head? = some (.worker 0) := by rw [hung.turn,List.head?_cons]
  have behind : Waits c (.worker 1) (.worker 0) :=
    .turn 1 0 (congrArg Session.worker hung.second) (congrArg Session.sessionOver hung.second) first Nat.zero_ne_one
  have runs : Waits c (.worker 0) (.task 0) :=
    .task 0 Sample.reboot .handling true (congrArg Session.worker hung.first) ⟨nofun,nofun⟩ (.inr rfl)
  exact ⟨c,hung,behind,runs,(session_loop_never_waits hung.runs hung.main).2.2⟩

end GatewaySdk.Client
