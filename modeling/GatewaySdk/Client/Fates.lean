import GatewaySdk.Client.Budgets
import Mathlib.Data.List.Nodup

/-! What becomes of every command a session routes: refused, or queued and then taken in
order, or dropped with the session. -/
namespace GatewaySdk.Client
open GatewaySdk.Effect GatewaySdk.Upgrade

def routedOf (facts : List SessionFact) : List QueuedCommand :=
  facts.filterMap fun | .routed command _ => some command | _ => none

def queuedOf (facts : List SessionFact) : List QueuedCommand :=
  facts.filterMap fun | .routed command .queued => some command | _ => none

def busyOf (facts : List SessionFact) : List QueuedCommand :=
  facts.filterMap fun | .routed command .busy => some command | _ => none

def refusedOf (facts : List SessionFact) : List QueuedCommand :=
  facts.filterMap fun | .refused command _ => some command | _ => none

def takenOf (facts : List SessionFact) : List QueuedCommand :=
  facts.filterMap fun | .taken command => some command | _ => none

def droppedOf (facts : List SessionFact) : List QueuedCommand :=
  facts.filterMap fun | .dropped command => some command | _ => none

def invokedOf (facts : List SessionFact) : List QueuedCommand :=
  facts.filterMap fun | .invoked command _ => some command | _ => none

def finishedOf (facts : List SessionFact) : List QueuedCommand :=
  facts.filterMap fun | .returned command _ => some command | .panicked command => some command | _ => none

def configuredOf (facts : List SessionFact) : List QueuedCommand :=
  facts.filterMap fun | .returned command (.config _) => some command | _ => none

def ackedOf (facts : List SessionFact) : List QueuedCommand :=
  facts.filterMap fun | .acked command _ => some command | _ => none

def respondedOf (facts : List SessionFact) : List QueuedCommand :=
  facts.filterMap fun | .responded command _ => some command | _ => none

section Append

variable (facts more : List SessionFact)

theorem routedOf_append : routedOf (facts ++ more) = routedOf facts ++ routedOf more := List.filterMap_append
theorem queuedOf_append : queuedOf (facts ++ more) = queuedOf facts ++ queuedOf more := List.filterMap_append
theorem busyOf_append : busyOf (facts ++ more) = busyOf facts ++ busyOf more := List.filterMap_append
theorem refusedOf_append : refusedOf (facts ++ more) = refusedOf facts ++ refusedOf more := List.filterMap_append
theorem takenOf_append : takenOf (facts ++ more) = takenOf facts ++ takenOf more := List.filterMap_append
theorem droppedOf_append : droppedOf (facts ++ more) = droppedOf facts ++ droppedOf more := List.filterMap_append
theorem invokedOf_append : invokedOf (facts ++ more) = invokedOf facts ++ invokedOf more := List.filterMap_append
theorem finishedOf_append : finishedOf (facts ++ more) = finishedOf facts ++ finishedOf more := List.filterMap_append
theorem configuredOf_append : configuredOf (facts ++ more) = configuredOf facts ++ configuredOf more :=
  List.filterMap_append
theorem ackedOf_append : ackedOf (facts ++ more) = ackedOf facts ++ ackedOf more := List.filterMap_append
theorem respondedOf_append : respondedOf (facts ++ more) = respondedOf facts ++ respondedOf more :=
  List.filterMap_append

end Append

section Dropping

variable (queue : List QueuedCommand)

theorem dropped_only {β : Type} (pick : SessionFact → Option β) (none : ∀ command, pick (.dropped command) = none) :
    (queue.map SessionFact.dropped).filterMap pick = [] := by
  induction queue with
  | nil => rfl
  | cons command queue ih =>
    rw [List.map_cons,List.filterMap_cons,none]
    exact ih

theorem droppedOf_dropped : droppedOf (queue.map .dropped) = queue := by
  induction queue with
  | nil => rfl
  | cons command queue ih => simp [droppedOf]

end Dropping

variable {fromStr : String → Option Json} {σ τ : Session} {action : Action} {facts history : List SessionFact}

/-- The books of a session: where each command it routed has got to. -/
structure Tally (history : List SessionFact) (σ : Session) : Prop where
  arrivals : (routedOf history).map QueuedCommand.arrival = List.range σ.arrivals
  verdicts : List.Perm (routedOf history) (queuedOf history ++ busyOf history)
  refused : refusedOf history = busyOf history
  queued : queuedOf history = takenOf history ++ σ.queue ++ droppedOf history
  empty : σ.worker.letGo = true → σ.queue = []
  kept : σ.worker.letGo = false → droppedOf history = []
  sessionOver : σ.worker.letGo = true → σ.sessionOver = true ∨ σ.loop = .gone
  lost : droppedOf history ≠ [] → σ.sessionOver = true
  taken : takenOf history = invokedOf history ++ σ.worker.uninvoked
  invoked : invokedOf history = finishedOf history ++ σ.worker.handled
  finished : finishedOf history = ackedOf history ++ σ.worker.unacked
  responded : configuredOf history = respondedOf history ++ σ.worker.unanswered

theorem fresh_tally : Tally [] .fresh where
  arrivals := rfl
  verdicts := .nil
  refused := rfl
  queued := rfl
  empty := nofun
  kept := fun _ => rfl
  sessionOver := nofun
  lost := fun some => absurd rfl some
  taken := rfl
  invoked := rfl
  finished := rfl
  responded := rfl

theorem Tally.quiet (tally : Tally history σ) (arrivals : τ.arrivals = σ.arrivals) (queue : τ.queue = σ.queue)
    (worker : τ.worker = σ.worker) (isOver : τ.sessionOver = σ.sessionOver ∨ τ.sessionOver = true) (gone : σ.loop = .gone → τ.loop = .gone) :
    Tally (history ++ []) τ := by
  have later {P : Prop} (held : P → σ.sessionOver = true ∨ σ.loop = .gone) (p : P) : τ.sessionOver = true ∨ τ.loop = .gone := by
    obtain ended | ended := held p
    · exact .inl (isOver.elim (fun same => same.trans ended) id)
    · exact .inr (gone ended)
  rw [List.append_nil]
  refine ⟨?_,tally.verdicts,tally.refused,?_,?_,?_,?_,?_,?_,?_,?_,?_⟩
  · rw [arrivals]; exact tally.arrivals
  · rw [queue]; exact tally.queued
  · rw [worker,queue]; exact tally.empty
  · rw [worker]; exact tally.kept
  · rw [worker]; exact later tally.sessionOver
  · exact fun some => isOver.elim (fun same => same.trans (tally.lost some)) id
  · rw [worker]; exact tally.taken
  · rw [worker]; exact tally.invoked
  · rw [worker]; exact tally.finished
  · rw [worker]; exact tally.responded

theorem reader_tally (moved : ReaderStep σ τ) (tally : Tally history σ) : Tally (history ++ []) τ := by
  cases moved <;> exact tally.quiet rfl rfl rfl (.inl rfl) id

theorem ended_tally (tally : Tally history σ) : Tally (history ++ []) σ.ended :=
  tally.quiet rfl rfl rfl (.inl rfl) fun _ => rfl

theorem wrote_only {β : Type} (frames : List OutboundFrame) (pick : SessionFact → Option β)
    (none : ∀ frame, pick (.wrote frame) = none) : (frames.map SessionFact.wrote).filterMap pick = [] := by
  induction frames with
  | nil => rfl
  | cons frame frames ih =>
    rw [List.map_cons,List.filterMap_cons,none]
    exact ih

theorem Tally.wrote (tally : Tally history σ) (frames : List OutboundFrame) :
    Tally (history ++ frames.map .wrote) σ := by
  have same {β : Type} (pick : SessionFact → Option β) (none : ∀ frame, pick (.wrote frame) = none) :
      (history ++ frames.map SessionFact.wrote).filterMap pick = history.filterMap pick := by
    rw [List.filterMap_append,wrote_only frames pick none,List.append_nil]
  refine ⟨?_,?_,?_,?_,tally.empty,?_,tally.sessionOver,?_,?_,?_,?_,?_⟩
  · rw [routedOf,same _ fun _ => rfl]; exact tally.arrivals
  · rw [routedOf,queuedOf,busyOf,same _ fun _ => rfl,same _ fun _ => rfl,same _ fun _ => rfl]; exact tally.verdicts
  · rw [refusedOf,busyOf,same _ fun _ => rfl,same _ fun _ => rfl]; exact tally.refused
  · rw [queuedOf,takenOf,droppedOf,same _ fun _ => rfl,same _ fun _ => rfl,same _ fun _ => rfl]; exact tally.queued
  · rw [droppedOf,same _ fun _ => rfl]; exact tally.kept
  · rw [droppedOf,same _ fun _ => rfl]; exact tally.lost
  · rw [takenOf,invokedOf,same _ fun _ => rfl,same _ fun _ => rfl]; exact tally.taken
  · rw [invokedOf,finishedOf,same _ fun _ => rfl,same _ fun _ => rfl]; exact tally.invoked
  · rw [finishedOf,ackedOf,same _ fun _ => rfl,same _ fun _ => rfl]; exact tally.finished
  · rw [configuredOf,respondedOf,same _ fun _ => rfl,same _ fun _ => rfl]; exact tally.responded

theorem written_tally {write : Writing} (tally : Tally history σ) (writing : σ.loop = .writing write) :
    Tally history (σ.written write) := by
  have quiet := @Tally.quiet σ (σ.written write) history tally rfl rfl rfl (.inl rfl) (fun gone => by
    rw [writing] at gone
    cases gone)
  rwa [List.append_nil] at quiet

theorem queued_tally {command : QueuedCommand} (tally : Tally history σ) (arrival : command.arrival = σ.arrivals)
    (open_ : σ.worker.letGo = false) (arrivals : τ.arrivals = σ.arrivals+1) (queue : τ.queue = σ.queue ++ [command])
    (worker : τ.worker = σ.worker) (isOver : τ.sessionOver = σ.sessionOver) :
    Tally (history ++ [.routed command .queued]) τ := by
  have none := tally.kept open_
  have open' : τ.worker.letGo = false := worker ▸ open_
  refine ⟨?_,?_,?_,?_,?_,?_,?_,?_,?_,?_,?_,?_⟩
  · have before := tally.arrivals
    rw [routedOf_append,List.map_append,before,arrivals,List.range_succ,← arrival]
    rfl
  · rw [routedOf_append,queuedOf_append,busyOf_append]
    have perm := tally.verdicts.append_right [command]
    rw [List.append_assoc] at perm
    have one : queuedOf [.routed command .queued] = [command] := rfl
    have nothing : busyOf [.routed command .queued] = [] := rfl
    refine perm.trans ?_
    rw [one,nothing,List.append_nil,List.append_assoc]
    have swapped : List.Perm (busyOf history ++ [command]) ([command] ++ busyOf history) := List.perm_append_comm
    exact swapped.append_left (queuedOf history)
  · simpa [refusedOf,busyOf] using tally.refused
  · have before := tally.queued
    rw [none,List.append_nil] at before
    rw [queuedOf_append,takenOf_append,droppedOf_append,before,queue,none]
    simp [queuedOf,takenOf,droppedOf]
  · exact fun gone => absurd (open'.symm.trans gone) nofun
  · intro _
    simpa [droppedOf] using none
  · exact fun gone => absurd (open'.symm.trans gone) nofun
  · intro some
    rw [isOver]
    exact tally.lost (by simpa [droppedOf] using some)
  · simpa [takenOf,invokedOf,worker] using tally.taken
  · simpa [invokedOf,finishedOf,worker] using tally.invoked
  · simpa [finishedOf,ackedOf,worker] using tally.finished
  · simpa [configuredOf,respondedOf,worker] using tally.responded

theorem busy_tally {command : QueuedCommand} {ack : OutboundFrame} (tally : Tally history σ)
    (arrival : command.arrival = σ.arrivals) (arrivals : τ.arrivals = σ.arrivals+1) (queue : τ.queue = σ.queue)
    (worker : τ.worker = σ.worker) (isOver : τ.sessionOver = σ.sessionOver) (gone : σ.loop ≠ .gone) :
    Tally (history ++ [.routed command .busy,.refused command ack]) τ := by
  refine ⟨?_,?_,?_,?_,?_,?_,?_,?_,?_,?_,?_,?_⟩
  · have before := tally.arrivals
    rw [routedOf_append,List.map_append,before,arrivals,List.range_succ,← arrival]
    rfl
  · rw [routedOf_append,queuedOf_append,busyOf_append]
    have perm := tally.verdicts.append_right [command]
    rw [List.append_assoc] at perm
    have nothing : queuedOf [.routed command .busy,.refused command ack] = [] := rfl
    rw [nothing,List.append_nil]
    exact perm
  · rw [refusedOf_append,busyOf_append,tally.refused]
    rfl
  · simpa [queuedOf,takenOf,droppedOf,queue] using tally.queued
  · rw [worker,queue]; exact tally.empty
  · rw [worker]
    intro kept
    simpa [droppedOf] using tally.kept kept
  · rw [worker,isOver]
    intro letGo
    obtain ended | ended := tally.sessionOver letGo
    · exact .inl ended
    · exact absurd ended gone
  · intro some
    rw [isOver]
    exact tally.lost (by simpa [droppedOf] using some)
  · simpa [takenOf,invokedOf,worker] using tally.taken
  · simpa [invokedOf,finishedOf,worker] using tally.invoked
  · simpa [finishedOf,ackedOf,worker] using tally.finished
  · simpa [configuredOf,respondedOf,worker] using tally.responded

theorem loop_tally (moved : LoopStep fromStr σ action facts τ) (tally : Tally history σ) : Tally (history ++ facts) τ := by
  have busy {idle : σ.loop = .idle} : σ.loop ≠ .gone := by rw [idle]; nofun
  cases moved with
  | ping data idle first => exact tally.quiet rfl rfl rfl (.inl rfl) fun gone => absurd gone (@busy idle)
  | dropped text idle first routing => exact tally.quiet rfl rfl rfl (.inl rfl) fun gone => absurd gone (@busy idle)
  | pong text idle first routing => exact tally.quiet rfl rfl rfl (.inl rfl) fun gone => absurd gone (@busy idle)
  | queued text command idle first routing =>
    obtain ⟨arrival,_,_,open_,_⟩ := routeInbound_queued routing
    exact queued_tally tally arrival open_ rfl rfl rfl rfl
  | busy text command held idle first routing =>
    exact busy_tally tally (routeInbound_busy routing).1 rfl rfl rfl rfl (@busy idle)
  | stopped text idle first routing => exact ended_tally tally
  | ended item idle first final => exact ended_tally tally
  | outbound frame idle empty => exact tally.quiet rfl rfl rfl (.inl rfl) fun gone => absurd gone (@busy idle)
  | heartbeat idle empty => exact tally.quiet rfl rfl rfl (.inl rfl) fun gone => absurd gone (@busy idle)
  | wrote write writing => exact (written_tally tally writing).wrote _
  | sendAfterClosing write writing =>
    rw [List.append_nil]
    exact written_tally tally writing
  | writeFailed write writing => exact ended_tally tally

/-- The command a worker has in hand, as the books see it. -/
def Worker.books (worker : Worker) : List QueuedCommand × List QueuedCommand × List QueuedCommand × List QueuedCommand :=
  (worker.uninvoked,worker.handled,worker.unacked,worker.unanswered)

theorem Tally.moves {worker : Worker} (tally : Tally history σ) (letGo : worker.letGo = σ.worker.letGo)
    (books : worker.books = σ.worker.books) : Tally (history ++ []) {σ with worker := worker} := by
  simp only [Worker.books,Prod.mk.injEq] at books
  obtain ⟨uninvoked,handled,unacked,unanswered⟩ := books
  rw [List.append_nil]
  refine ⟨tally.arrivals,tally.verdicts,tally.refused,tally.queued,?_,?_,?_,tally.lost,?_,?_,?_,?_⟩
  · rw [letGo]; exact tally.empty
  · rw [letGo]; exact tally.kept
  · rw [letGo]; exact tally.sessionOver
  · rw [uninvoked]; exact tally.taken
  · rw [handled]; exact tally.invoked
  · rw [unacked]; exact tally.finished
  · rw [unanswered]; exact tally.responded

theorem Tally.drops {worker : Worker} (tally : Tally history σ) (open_ : σ.worker.letGo = false)
    (letGo : worker.letGo = true) (isOver : σ.sessionOver = true) (books : worker.books = σ.worker.books) :
    Tally (history ++ σ.queue.map .dropped) (σ.dropQueue worker) := by
  simp only [Worker.books,Prod.mk.injEq] at books
  obtain ⟨uninvoked,handled,unacked,unanswered⟩ := books
  have same {β : Type} (pick : SessionFact → Option β) (none : ∀ command, pick (.dropped command) = none) :
      (history ++ σ.queue.map SessionFact.dropped).filterMap pick = history.filterMap pick := by
    rw [List.filterMap_append,dropped_only σ.queue pick none,List.append_nil]
  refine ⟨?_,?_,?_,?_,fun _ => rfl,fun kept => ?_,fun _ => .inl isOver,fun _ => isOver,?_,?_,?_,?_⟩
  · rw [routedOf,same _ fun _ => rfl]; exact tally.arrivals
  · rw [routedOf,queuedOf,busyOf,same _ fun _ => rfl,same _ fun _ => rfl,same _ fun _ => rfl]; exact tally.verdicts
  · rw [refusedOf,busyOf,same _ fun _ => rfl,same _ fun _ => rfl]; exact tally.refused
  · have before := tally.queued
    rw [tally.kept open_,List.append_nil,queuedOf,takenOf] at before
    rw [droppedOf_append,droppedOf_dropped,tally.kept open_,queuedOf,takenOf,same _ fun _ => rfl,same _ fun _ => rfl]
    simpa [Session.dropQueue] using before
  · cases letGo.symm.trans kept
  · rw [takenOf,invokedOf,same _ fun _ => rfl,same _ fun _ => rfl,Session.dropQueue,uninvoked]; exact tally.taken
  · rw [invokedOf,finishedOf,same _ fun _ => rfl,same _ fun _ => rfl,Session.dropQueue,handled]; exact tally.invoked
  · rw [finishedOf,ackedOf,same _ fun _ => rfl,same _ fun _ => rfl,Session.dropQueue,unacked]; exact tally.finished
  · rw [configuredOf,respondedOf,same _ fun _ => rfl,same _ fun _ => rfl,Session.dropQueue,unanswered]
    exact tally.responded

theorem takes_tally {command : QueuedCommand} {rest : List QueuedCommand} (tally : Tally history σ)
    (idle : σ.worker = .idle) (first : σ.queue = command::rest) :
    Tally (history ++ [.taken command]) {σ with queue := rest,worker := .running command .spawned false} := by
  have kept : droppedOf history = [] := tally.kept (by rw [idle]; rfl)
  obtain ⟨arrivals,verdicts,refused,queued,_,_,_,lost,taken,invoked,finished,responded⟩ := tally
  have nothing : Worker.idle.uninvoked = [] := rfl
  rw [idle,nothing,List.append_nil] at taken
  rw [idle] at invoked finished responded
  refine ⟨?_,?_,?_,?_,nofun,fun _ => ?_,nofun,fun some => ?_,?_,?_,?_,?_⟩
  · simpa [routedOf] using arrivals
  · simpa [routedOf,queuedOf,busyOf] using verdicts
  · simpa [refusedOf,busyOf] using refused
  · simpa [queuedOf,takenOf,droppedOf,first] using queued
  · simpa [droppedOf] using kept
  · exact lost (by simpa [droppedOf] using some)
  · rw [takenOf_append,invokedOf_append,taken]
    simp [takenOf,invokedOf,Worker.uninvoked]
  · simpa [invokedOf,finishedOf,Worker.handled] using invoked
  · simpa [finishedOf,ackedOf,Worker.unacked] using finished
  · simpa [configuredOf,respondedOf,Worker.unanswered] using responded

/-- The command in hand goes on, with facts that no one outside the worker cares for. -/
theorem Tally.proceeds {worker : Worker} {free : Nat} (tally : Tally history σ)
    (outside : routedOf facts = [] ∧ queuedOf facts = [] ∧ busyOf facts = [] ∧ refusedOf facts = [] ∧
      takenOf facts = [] ∧ droppedOf facts = [])
    (letGo : worker.letGo = σ.worker.letGo)
    (taken : σ.worker.uninvoked = invokedOf facts ++ worker.uninvoked)
    (invoked : σ.worker.handled ++ invokedOf facts = finishedOf facts ++ worker.handled)
    (finished : σ.worker.unacked ++ finishedOf facts = ackedOf facts ++ worker.unacked)
    (responded : σ.worker.unanswered ++ configuredOf facts = respondedOf facts ++ worker.unanswered) :
    Tally (history ++ facts) {σ with worker := worker,commandFree := free} := by
  obtain ⟨noRouted,noQueued,noBusy,noRefused,noTaken,noDropped⟩ := outside
  refine ⟨?_,?_,?_,?_,?_,?_,?_,?_,?_,?_,?_,?_⟩
  · rw [routedOf_append,noRouted,List.append_nil]; exact tally.arrivals
  · rw [routedOf_append,queuedOf_append,busyOf_append,noRouted,noQueued,noBusy]
    simpa using tally.verdicts
  · rw [refusedOf_append,busyOf_append,noRefused,noBusy]
    simpa using tally.refused
  · rw [queuedOf_append,takenOf_append,droppedOf_append,noQueued,noTaken,noDropped]
    simpa using tally.queued
  · rw [letGo]; exact tally.empty
  · rw [letGo,droppedOf_append,noDropped,List.append_nil]; exact tally.kept
  · rw [letGo]; exact tally.sessionOver
  · rw [droppedOf_append,noDropped,List.append_nil]; exact tally.lost
  · rw [takenOf_append,invokedOf_append,noTaken,List.append_nil,tally.taken,taken,List.append_assoc]
  · rw [invokedOf_append,finishedOf_append,tally.invoked,List.append_assoc,invoked,List.append_assoc]
  · rw [finishedOf_append,ackedOf_append,tally.finished,List.append_assoc,finished,List.append_assoc]
  · rw [configuredOf_append,respondedOf_append,tally.responded,List.append_assoc,responded,List.append_assoc]

theorem worker_tally (moved : WorkerStep σ action facts τ) (tally : Tally history σ) : Tally (history ++ facts) τ := by
  cases moved with
  | asks unpolled live => exact tally.moves (by rw [unpolled]; rfl) (by rw [unpolled]; rfl)
  | neverAsked unpolled isOver => exact tally.drops (by rw [unpolled]; rfl) rfl isOver (by rw [unpolled]; rfl)
  | gaveUp waiting isOver => exact tally.drops (by rw [waiting]; rfl) rfl isOver (by rw [waiting]; rfl)
  | turn waiting live => exact tally.moves (by rw [waiting]; rfl) (by rw [waiting]; rfl)
  | takes command idle live first => exact takes_tally tally idle first
  | stops idle isOver => exact tally.drops (by rw [idle]; rfl) rfl isOver (by rw [idle]; rfl)
  | unfed idle live empty gone =>
    have kept : droppedOf history = [] := tally.kept (by rw [idle]; rfl)
    obtain ⟨arrivals,verdicts,refused,queued,_,_,_,lost,taken,invoked,finished,responded⟩ := tally
    rw [idle] at taken invoked finished responded
    rw [List.append_nil]
    exact ⟨arrivals,verdicts,refused,queued,fun _ => empty,nofun,fun _ => .inr gone,lost,taken,invoked,finished,
      responded⟩
  | letsGo command task running unfinished isOver =>
    refine tally.drops (by rw [running]; rfl) rfl isOver ?_
    rw [running]
    cases task with
    | acking frame response => cases response <;> rfl
    | _ => rfl
  | joined command letGo running => exact tally.moves (by rw [running]; rfl) (by rw [running]; rfl)
  | panicked command letGo running =>
    refine tally.proceeds ⟨rfl,rfl,rfl,rfl,rfl,rfl⟩ ?_ ?_ ?_ ?_ ?_ <;> rw [running] <;> rfl
  | sent command frame letGo acking => exact tally.moves (by rw [acking]; rfl) (by rw [acking]; rfl)
  | unsent command frame letGo acking => exact tally.moves (by rw [acking]; rfl) (by rw [acking]; rfl)
  | goesOn seen => exact tally.moves (by rw [seen]; rfl) (by rw [seen]; rfl)
  | returns seen => exact tally.moves (by rw [seen]; rfl) (by rw [seen]; rfl)

theorem acked_tally {command : QueuedCommand} {letGo : Bool} {frame : OutboundFrame} {response : Option OutboundFrame}
    (running : σ.worker = .running command (.acking frame response) letGo) (tally : Tally history σ) :
    Tally (history ++ (Task.acked command response).2)
      {σ with worker := .running command (Task.acked command response).1 letGo} := by
  cases response with
  | none =>
    refine tally.proceeds ⟨rfl,rfl,rfl,rfl,rfl,rfl⟩ ?_ ?_ ?_ ?_ ?_ <;> rw [running] <;> rfl
  | some response =>
    refine tally.proceeds ⟨rfl,rfl,rfl,rfl,rfl,rfl⟩ ?_ ?_ ?_ ?_ ?_ <;> rw [running] <;> rfl

theorem task_tally (moved : TaskStep fromStr σ action facts τ) (tally : Tally history σ) : Tally (history ++ facts) τ := by
  cases moved with
  | starts command letGo running =>
    refine tally.proceeds ⟨rfl,rfl,rfl,rfl,rfl,rfl⟩ ?_ ?_ ?_ ?_ ?_ <;> rw [running] <;> rfl
  | returned command letGo result running fits =>
    cases result with
    | config snapshot =>
      refine tally.proceeds ⟨rfl,rfl,rfl,rfl,rfl,rfl⟩ ?_ ?_ ?_ ?_ ?_ <;> rw [running] <;> rfl
    | result result =>
      refine tally.proceeds ⟨rfl,rfl,rfl,rfl,rfl,rfl⟩ ?_ ?_ ?_ ?_ ?_ <;> rw [running] <;> rfl
  | panicked command letGo running =>
    refine tally.proceeds ⟨rfl,rfl,rfl,rfl,rfl,rfl⟩ ?_ ?_ ?_ ?_ ?_ <;> rw [running] <;> rfl
  | acked command letGo frame response running => exact acked_tally running tally
  | unacked command letGo frame response running => exact acked_tally running tally
  | responded command letGo frame running =>
    refine tally.proceeds ⟨rfl,rfl,rfl,rfl,rfl,rfl⟩ ?_ ?_ ?_ ?_ ?_ <;> rw [running] <;> rfl
  | unresponded command letGo frame running =>
    refine tally.proceeds ⟨rfl,rfl,rfl,rfl,rfl,rfl⟩ ?_ ?_ ?_ ?_ ?_ <;> rw [running] <;> rfl

theorem session_tally (moved : SessionStep fromStr σ action facts τ) (tally : Tally history σ) :
    Tally (history ++ facts) τ := by
  cases moved with
  | reader moved => exact reader_tally moved tally
  | silent reading => exact ended_tally tally
  | loop moved => exact loop_tally moved tally
  | worker moved => exact worker_tally moved tally
  | task moved => exact task_tally moved tally
  | stopped next outside => exact ended_tally tally
  | cancel => exact tally.quiet rfl rfl rfl (.inr rfl) id

theorem alone_tally (alone : Reaches (SessionStep.Alone fromStr) .fresh history σ) : Tally history σ := by
  refine alone.keeps fresh_tally fun history σ facts τ tally moved => ?_
  obtain ⟨action,moved⟩ := moved
  exact session_tally moved tally

/-- What a fact says of the frames and hooks it names. -/
def Proper (fromStr : String → Option Json) : SessionFact → Prop
  | .refused command ack => TellsBusy command.id ack
  | .invoked command hook => HookFor fromStr command.id command.frame hook
  | .returned command result => (∃ snapshot, result = .config snapshot) ↔ AsksConfig fromStr command.frame
  | .acked command frame => frame.msgType = "command_ack" ∧ frame.payload.field "command_id" = some (.str command.id)
  | .responded _ frame => frame.msgType = "config_response"
  | _ => True

/-- A response that waits for its ack to go out is one. -/
def Responding (worker : Worker) : Prop :=
  ∀ command frame response letGo, worker = .running command (.acking frame (some response)) letGo →
    response.msgType = "config_response"

theorem dropped_proper (queue : List QueuedCommand) : ∀ fact ∈ queue.map SessionFact.dropped, Proper fromStr fact := by
  intro fact member
  obtain ⟨command,_,rfl⟩ := List.mem_map.mp member
  trivial

theorem task_proper (moved : TaskStep fromStr σ action facts τ) (responding : Responding σ.worker) :
    (∀ fact ∈ facts, Proper fromStr fact) ∧ Responding τ.worker := by
  have acked {command : QueuedCommand} {letGo : Bool} {frame : OutboundFrame} {response : Option OutboundFrame}
      (running : σ.worker = .running command (.acking frame response) letGo) :
      (∀ fact ∈ (Task.acked command response).2, Proper fromStr fact) ∧
        Responding (.running command (Task.acked command response).1 letGo) := by
    cases response with
    | none => exact ⟨nofun,nofun⟩
    | some response =>
      refine ⟨fun fact member => ?_,nofun⟩
      rw [List.mem_singleton.mp member]
      exact responding _ _ _ _ running
  cases moved with
  | starts command letGo running =>
    refine ⟨fun fact member => ?_,nofun⟩
    rw [List.mem_singleton.mp member]
    exact hookOf_for fromStr command
  | returned command letGo result running fits =>
    constructor
    · intro fact member
      rcases List.mem_cons.mp member with rfl | last
      · exact (Returned.fits_iff fits).trans (hookOf_for fromStr command).config
      · rw [List.mem_singleton.mp last]
        exact OutboundFrame.ackedId_iff.mp (repliesTo_ackedId _ _)
    · intro other frame response letGo' same
      cases result with
      | config snapshot =>
        cases same
        rfl
      | result result => cases same
  | panicked command letGo running =>
    refine ⟨fun fact member => ?_,nofun⟩
    rw [List.mem_singleton.mp member]
    trivial
  | acked command letGo frame response running => exact acked running
  | unacked command letGo frame response running => exact acked running
  | responded command letGo frame running => exact ⟨nofun,nofun⟩
  | unresponded command letGo frame running => exact ⟨nofun,nofun⟩

theorem worker_proper (moved : WorkerStep σ action facts τ) (responding : Responding σ.worker) :
    (∀ fact ∈ facts, Proper fromStr fact) ∧ Responding τ.worker := by
  cases moved with
  | takes command idle live first =>
    refine ⟨fun fact member => ?_,nofun⟩
    rw [List.mem_singleton.mp member]
    trivial
  | panicked command letGo running =>
    refine ⟨fun fact member => ?_,nofun⟩
    rw [List.mem_singleton.mp member]
    exact OutboundFrame.ackedId_iff.mp (commandAck_ackedId _ _)
  | letsGo command task running unfinished isOver =>
    refine ⟨dropped_proper _,fun other frame response letGo same => ?_⟩
    cases same
    exact responding _ _ _ _ running
  | neverAsked | gaveUp | stops => exact ⟨dropped_proper _,nofun⟩
  | asks | turn | unfed | joined | sent | unsent | goesOn | returns => exact ⟨nofun,nofun⟩

theorem loop_proper (moved : LoopStep fromStr σ action facts τ) (responding : Responding σ.worker) :
    (∀ fact ∈ facts, Proper fromStr fact) ∧ Responding τ.worker := by
  cases moved with
  | queued text command idle first routing =>
    refine ⟨fun fact member => ?_,responding⟩
    rw [List.mem_singleton.mp member]
    trivial
  | busy text command held idle first routing =>
    refine ⟨fun fact member => ?_,responding⟩
    rcases List.mem_cons.mp member with rfl | last
    · trivial
    · rw [List.mem_singleton.mp last]
      exact busyAck_tells command.id
  | wrote write writing =>
    refine ⟨fun fact member => ?_,responding⟩
    obtain ⟨frame,_,rfl⟩ := List.mem_map.mp member
    trivial
  | _ => exact ⟨nofun,responding⟩

theorem session_proper (moved : SessionStep fromStr σ action facts τ) (responding : Responding σ.worker) :
    (∀ fact ∈ facts, Proper fromStr fact) ∧ Responding τ.worker := by
  cases moved with
  | reader moved =>
    refine ⟨nofun,?_⟩
    cases moved <;> exact responding
  | loop moved => exact loop_proper moved responding
  | worker moved => exact worker_proper moved responding
  | task moved => exact task_proper moved responding
  | silent | stopped | cancel => exact ⟨nofun,responding⟩

theorem alone_proper (alone : Reaches (SessionStep.Alone fromStr) .fresh history σ) :
    (∀ fact ∈ history, Proper fromStr fact) ∧ Responding σ.worker := by
  induction alone with
  | start => exact ⟨nofun,nofun⟩
  | next before moved ih =>
    obtain ⟨action,moved⟩ := moved
    obtain ⟨proper,responding⟩ := session_proper moved ih.2
    refine ⟨fun fact member => ?_,responding⟩
    rcases List.mem_append.mp member with earlier | now
    · exact ih.1 fact earlier
    · exact proper fact now

theorem responded_after {command : QueuedCommand} {frame : OutboundFrame}
    (moved : SessionStep fromStr σ action facts τ) (tally : Tally history σ)
    (told : SessionFact.responded command frame ∈ facts) :
    facts = [.responded command frame] ∧ command ∈ ackedOf history := by
  have acked {other : QueuedCommand} {letGo : Bool} {sent : OutboundFrame} {response : Option OutboundFrame}
      (running : σ.worker = .running other (.acking sent response) letGo)
      (told : SessionFact.responded command frame ∈ (Task.acked other response).2) :
      (Task.acked other response).2 = [.responded command frame] ∧ command ∈ ackedOf history := by
    cases response with
    | none => cases told
    | some response =>
      cases List.mem_singleton.mp told
      refine ⟨rfl,?_⟩
      have configured : command ∈ configuredOf history := by
        rw [tally.responded,running]
        exact List.mem_append_right _ (List.mem_singleton_self _)
      have finished : command ∈ finishedOf history := by
        obtain ⟨fact,member,named⟩ := List.mem_filterMap.mp configured
        refine List.mem_filterMap.mpr ⟨fact,member,?_⟩
        cases fact with
        | returned other result => cases result with
          | config snapshot => exact named
          | result result => cases named
        | _ => cases named
      rw [tally.finished,running] at finished
      simpa [Worker.unacked] using finished
  cases moved with
  | task moved =>
    cases moved with
    | acked other letGo sent response running => exact acked running told
    | unacked other letGo sent response running => exact acked running told
    | starts | returned | panicked => simp at told
    | responded | unresponded => cases told
  | worker moved => cases moved <;> simp at told
  | loop moved => cases moved <;> simp at told
  | reader | silent | stopped | cancel => cases told

theorem alone_ackFirst (alone : Reaches (SessionStep.Alone fromStr) .fresh history σ) (before after : List SessionFact)
    (command : QueuedCommand) (frame : OutboundFrame) (told : history = before ++ .responded command frame::after) :
    command ∈ ackedOf before := by
  induction alone generalizing after with
  | start => simp at told
  | @next earlier more σ τ reached moved ih =>
    obtain ⟨action,moved⟩ := moved
    rcases List.append_eq_append_iff.mp told with ⟨rest,split,now⟩ | ⟨rest,split,later⟩
    · have member : SessionFact.responded command frame ∈ more := by
        rw [now]
        exact List.mem_append_right _ List.mem_cons_self
      obtain ⟨only,acked⟩ := responded_after moved (alone_tally reached) member
      rw [only] at now
      cases rest with
      | nil =>
        rw [split,List.append_nil]
        exact acked
      | cons fact rest => simp at now
    · cases rest with
      | nil =>
        have member : SessionFact.responded command frame ∈ more := by
          rw [List.nil_append] at later
          rw [← later]
          exact List.mem_cons_self
        obtain ⟨_,acked⟩ := responded_after moved (alone_tally reached) member
        rw [List.append_nil] at split
        rw [← split]
        exact acked
      | cons fact rest =>
        rw [List.cons_append,List.cons.injEq] at later
        rw [← later.1] at split
        exact ih rest split

/-- The fate of a routed command: refused, still queued, taken or dropped, one and once; and
what has come of it since. -/
structure OneFate (fromStr : String → Option Json) (history : List SessionFact) (σ : Session) (command : QueuedCommand) :
    Prop where
  one : (refusedOf history).count command + σ.queue.count command + (takenOf history).count command +
    (droppedOf history).count command = 1
  called : (takenOf history).count command = (invokedOf history).count command + σ.worker.uninvoked.count command
  finished : (invokedOf history).count command = (finishedOf history).count command + σ.worker.handled.count command
  acked : (finishedOf history).count command = (ackedOf history).count command + σ.worker.unacked.count command
  answered : (configuredOf history).count command =
    (respondedOf history).count command + σ.worker.unanswered.count command
  configured : (configuredOf history).count command ≤ (finishedOf history).count command
  proper : ∀ fact ∈ history, Proper fromStr fact
  ackFirst : ∀ before after frame, history = before ++ .responded command frame::after → command ∈ ackedOf before
  lost : command ∈ droppedOf history → σ.sessionOver = true
  settled : σ.worker.letGo = true → command ∉ σ.queue

theorem Tally.routed_nodup (tally : Tally history σ) : (routedOf history).Nodup := by
  refine List.Nodup.of_map QueuedCommand.arrival ?_
  rw [tally.arrivals]
  exact List.nodup_range

theorem Tally.one_fate {command : QueuedCommand} (tally : Tally history σ) (routed : command ∈ routedOf history) :
    (refusedOf history).count command + σ.queue.count command + (takenOf history).count command +
      (droppedOf history).count command = 1 := by
  have once := List.count_eq_one_of_mem tally.routed_nodup routed
  rw [tally.verdicts.count_eq,List.count_append,tally.queued,List.count_append,List.count_append] at once
  rw [tally.refused]
  omega

theorem configuredOf_sublist (history : List SessionFact) : (configuredOf history).Sublist (finishedOf history) := by
  induction history with
  | nil => exact .slnil
  | cons fact history ih =>
    cases fact with
    | returned command result =>
      cases result with
      | config snapshot => exact ih.cons_cons command
      | result result => exact ih.cons command
    | panicked command => exact ih.cons command
    | _ => exact ih

theorem alone_oneFate {command : QueuedCommand} (alone : Reaches (SessionStep.Alone fromStr) .fresh history σ)
    (routed : command ∈ routedOf history) : OneFate fromStr history σ command := by
  have tally := alone_tally alone
  have split {all before now : List QueuedCommand} (same : all = before ++ now) :
      all.count command = before.count command + now.count command := by
    rw [same,List.count_append]
  constructor
  · exact tally.one_fate routed
  · exact split tally.taken
  · exact split tally.invoked
  · exact split tally.finished
  · exact split tally.responded
  · exact (configuredOf_sublist history).count_le command
  · exact (alone_proper alone).1
  · intro before after frame told
    exact alone_ackFirst alone before after command frame told
  · exact fun lost => tally.lost (List.ne_nil_of_mem lost)
  · intro letGo queued
    rw [tally.empty letGo] at queued
    cases queued

theorem Tally.invoked_routed {command : QueuedCommand} (tally : Tally history σ) (invoked : command ∈ invokedOf history) :
    command ∈ routedOf history := by
  have taken : command ∈ takenOf history := by
    rw [tally.taken]
    exact List.mem_append_left _ invoked
  have queued : command ∈ queuedOf history := by
    rw [tally.queued,List.append_assoc]
    exact List.mem_append_left _ taken
  exact tally.verdicts.mem_iff.mpr (List.mem_append_left _ queued)

end GatewaySdk.Client
