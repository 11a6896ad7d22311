import GatewaySdk.Client.Auth
import GatewaySdk.Client.Budgets

/-! What a session returns once the manager has closed it: the Close stands behind what was
read before it, and the writes on the way there may meet a socket that is going away. -/
namespace GatewaySdk.Client
open GatewaySdk.Effect GatewaySdk.Upgrade

/-- What ends a session. -/
inductive SessionEnd where
  | shutdown
  | silent (quiet limit : Nat)
  | stopped
  | closed
  | streamFailed (error : String)
  | streamEnded
  | writeFailed (error : String)
  | writeStalled (what : String)
  deriving DecidableEq, Repr

/-- What `run_session` returns for it; a refusal because of the Close ends nothing. -/
def SessionEnd.result : SessionEnd → ConnectionResult
  | shutdown => .shutdownRequested
  | silent quiet limit => .authenticatedThenLost (.webSocket ("nothing from the manager for " ++
      toString (quiet/1000000000) ++ "s, past the " ++ toString (limit/1000000000) ++
      "s its pings allow — taking the session for dead"))
  | stopped => .authenticatedThenLost (.channel "the command worker has stopped")
  | closed | streamEnded => .authenticatedThenClosed
  | streamFailed error | writeFailed error => .authenticatedThenLost (.webSocket error)
  | writeStalled what => .authenticatedThenLost (.webSocket ("the manager stopped reading: a " ++ what ++
      " frame could not be written in 300s"))

variable (fromStr : String → Option Json)

/-- The session can end so from here. -/
inductive EndsBy : Session → SessionEnd → Prop
  | shutdown {σ : Session} : EndsBy σ .shutdown
  | silent {σ : Session} (quiet limit : Nat) (reading : σ.reader = .reading) : EndsBy σ (.silent quiet limit)
  | stopped {σ : Session} {rest : List Inbound} (text : String) (idle : σ.loop = .idle)
    (first : σ.inbound = .text text::rest) (routing : routeInbound fromStr σ text = .stopped) : EndsBy σ .stopped
  | closed {σ : Session} {rest : List Inbound} (idle : σ.loop = .idle) (first : σ.inbound = .closed::rest) : EndsBy σ .closed
  | streamFailed {σ : Session} {rest : List Inbound} (error : String) (idle : σ.loop = .idle)
    (first : σ.inbound = .failed::rest) : EndsBy σ (.streamFailed error)
  | streamEnded {σ : Session} {rest : List Inbound} (idle : σ.loop = .idle) (first : σ.inbound = .ended::rest) :
    EndsBy σ .streamEnded
  | writeFailed {σ : Session} (write : Writing) (error : String) (writing : σ.loop = .writing write) :
    EndsBy σ (.writeFailed error)
  | writeStalled {σ : Session} (write : Writing) (what : String) (writing : σ.loop = .writing write) :
    EndsBy σ (.writeStalled what)

/-- A step after which the session goes on; its token is cancelled only once it has ended. -/
def Going (σ : Session) (facts : List SessionFact) (τ : Session) : Prop :=
  ∃ action, SessionStep fromStr σ action facts τ ∧ action ≠ .cancel ∧ ∀ next, action ≠ .finish next

/-- A run of a session from here, by the number of steps that its loop makes. -/
inductive Turns (μ : Session) : Nat → Session → Prop
  | start : Turns μ 0 μ
  | loop {n : Nat} {σ τ : Session} {action : Action} {facts : List SessionFact} (before : Turns μ n σ)
    (moved : LoopStep fromStr σ action facts τ) (goes : ∀ next, action ≠ .finish next) : Turns μ (n+1) τ
  | reader {n : Nat} {σ τ : Session} (before : Turns μ n σ) (moved : ReaderStep σ τ) : Turns μ n τ
  | worker {n : Nat} {σ τ : Session} {action : Action} {facts : List SessionFact} (before : Turns μ n σ)
    (moved : WorkerStep σ action facts τ) : Turns μ n τ
  | task {n : Nat} {σ τ : Session} {action : Action} {facts : List SessionFact} (before : Turns μ n σ)
    (moved : TaskStep fromStr σ action facts τ) : Turns μ n τ

variable {fromStr} {σ τ : Session} {action : Action} {facts : List SessionFact}

/-- A Close, an error or the end of the stream. -/
def Inbound.final : Inbound → Bool
  | .closed | .failed | .ended => true
  | .text _ | .ping _ => false

/-- A session that goes on: its worker is there for it, and an end of the stream stands
behind all else. -/
structure Live (σ : Session) : Prop where
  told : σ.sessionOver = false
  worker : σ.worker.letGo = false
  loop : σ.loop ≠ .gone
  before : σ.reader ≠ .parked → ∀ item ∈ σ.inbound, item.final = false
  behind : σ.reader = .parked → ∃ init item, σ.inbound = init ++ [item] ∧ item.final = true ∧
    ∀ earlier ∈ init, earlier.final = false
  handing : ∀ item, σ.reader = .room item → item.final = true ∨ item.isText = true

theorem fresh_live : Live .fresh where
  told := rfl
  worker := rfl
  loop := nofun
  before _ := List.forall_mem_nil _
  behind here := by cases here
  handing item here := by cases here

theorem reader_live (moved : ReaderStep σ τ) (live : Live σ) : Live τ := by
  have more {item : Inbound} (here : σ.reader ≠ .parked) (plain : item.final = false) :
      ∀ held ∈ σ.inbound ++ [item], held.final = false := by
    intro held member
    rcases List.mem_append.mp member with earlier | now
    · exact live.before here held earlier
    · rw [List.mem_singleton.mp now]
      exact plain
  cases moved with
  | ping data reading room =>
    have here : σ.reader ≠ .parked := by simp [reading]
    exact ⟨live.told,live.worker,live.loop,fun _ => more here rfl,fun parked => absurd parked here,live.handing⟩
  | pingUnanswered reading full => exact live
  | ignored reading => exact live
  | text text reading short =>
    have here : σ.reader ≠ .parked := by simp [reading]
    exact ⟨live.told,live.worker,live.loop,fun _ => live.before here,nofun,nofun⟩
  | ends item reading final =>
    have here : σ.reader ≠ .parked := by simp [reading]
    refine ⟨live.told,live.worker,live.loop,fun _ => live.before here,nofun,fun other same => .inl ?_⟩
    cases same
    rcases final with rfl | rfl | rfl <;> rfl
  | granted text waits enough =>
    have here : σ.reader ≠ .parked := by simp [waits]
    refine ⟨live.told,live.worker,live.loop,fun _ => live.before here,nofun,fun other same => .inr ?_⟩
    cases same
    rfl
  | handed item waits room =>
    have here : σ.reader ≠ .parked := by simp [waits]
    rcases live.handing item waits with final | text
    · have parks : Reader.after item = .parked := by cases item <;> first | rfl | cases final
      refine ⟨live.told,live.worker,live.loop,fun other => absurd parks other,fun _ => ?_,fun other same => ?_⟩
      · exact ⟨σ.inbound,item,rfl,final,live.before here⟩
      · rw [parks] at same
        cases same
    · have goesOn : Reader.after item = .reading := if_pos text
      have plain : item.final = false := by cases item <;> first | rfl | cases text
      refine ⟨live.told,live.worker,live.loop,fun _ => more here plain,fun parked => ?_,fun other same => ?_⟩
      · rw [goesOn] at parked
        cases parked
      · rw [goesOn] at same
        cases same

/-- What a step of the loop leaves, where the session goes on: it has taken an item that is no
end, is done with a write, or has found nothing in the channel. -/
theorem loop_going (moved : LoopStep fromStr σ action facts τ) (goes : ∀ next, action ≠ .finish next) :
    τ.reader = σ.reader ∧ τ.worker = σ.worker ∧ τ.sessionOver = σ.sessionOver ∧ τ.loop ≠ .gone ∧
      ((∃ item, σ.loop = .idle ∧ σ.inbound = item::τ.inbound ∧ item.final = false) ∨
        (∃ write, σ.loop = .writing write ∧ τ.loop = .idle ∧ τ.inbound = σ.inbound) ∨
        σ.inbound = [] ∧ τ.inbound = []) := by
  cases moved with
  | ping data idle first => exact ⟨rfl,rfl,rfl,nofun,.inl ⟨_,idle,first,rfl⟩⟩
  | dropped text idle first routing => exact ⟨rfl,rfl,rfl,by simp [idle],.inl ⟨_,idle,first,rfl⟩⟩
  | pong text idle first routing => exact ⟨rfl,rfl,rfl,nofun,.inl ⟨_,idle,first,rfl⟩⟩
  | queued text command idle first routing => exact ⟨rfl,rfl,rfl,by simp [idle],.inl ⟨_,idle,first,rfl⟩⟩
  | busy text command held idle first routing => exact ⟨rfl,rfl,rfl,nofun,.inl ⟨_,idle,first,rfl⟩⟩
  | stopped text idle first routing => exact absurd rfl (goes _)
  | ended item idle first final => exact absurd rfl (goes _)
  | outbound frame idle empty => exact ⟨rfl,rfl,rfl,nofun,.inr (.inr ⟨empty,empty⟩)⟩
  | heartbeat idle empty => exact ⟨rfl,rfl,rfl,nofun,.inr (.inr ⟨empty,empty⟩)⟩
  | wrote write writing => exact ⟨rfl,rfl,rfl,nofun,.inr (.inl ⟨write,writing,rfl,rfl⟩)⟩
  | sendAfterClosing write writing => exact ⟨rfl,rfl,rfl,nofun,.inr (.inl ⟨write,writing,rfl,rfl⟩)⟩
  | writeFailed write writing => exact absurd rfl (goes _)

/-- The worker leaves the rest of a session that goes on as it is, and stays with it. -/
theorem worker_going (moved : WorkerStep σ action facts τ) (live : Live σ) : τ.reader = σ.reader ∧
    τ.inbound = σ.inbound ∧ τ.loop = σ.loop ∧ τ.sessionOver = σ.sessionOver ∧ τ.worker.letGo = false := by
  have told := live.told
  have kept := live.worker
  cases moved with
  | asks | turn | takes => exact ⟨rfl,rfl,rfl,rfl,rfl⟩
  | neverAsked unpolled isOver | gaveUp waiting isOver | stops idle isOver => exact absurd (told.symm.trans isOver) nofun
  | unfed idle open_ empty gone => exact absurd gone live.loop
  | letsGo command task running unfinished isOver => exact absurd (told.symm.trans isOver) nofun
  | joined command letGo running =>
    rw [running] at kept
    exact ⟨rfl,rfl,rfl,rfl,kept⟩
  | panicked command letGo running =>
    rw [running] at kept
    exact ⟨rfl,rfl,rfl,rfl,kept⟩
  | sent command frame letGo acking | unsent command frame letGo acking =>
    rw [acking] at kept
    exact ⟨rfl,rfl,rfl,rfl,kept⟩
  | goesOn seen => exact ⟨rfl,rfl,rfl,rfl,rfl⟩
  | returns seen =>
    rw [seen] at kept
    cases kept

theorem task_going (moved : TaskStep fromStr σ action facts τ) (live : Live σ) : τ.reader = σ.reader ∧
    τ.inbound = σ.inbound ∧ τ.loop = σ.loop ∧ τ.sessionOver = σ.sessionOver ∧ τ.worker.letGo = false := by
  have kept := live.worker
  cases moved with
  | starts command letGo running =>
    rw [running] at kept
    exact ⟨rfl,rfl,rfl,rfl,kept⟩
  | returned command letGo result running fits =>
    rw [running] at kept
    exact ⟨rfl,rfl,rfl,rfl,kept⟩
  | panicked command letGo running =>
    rw [running] at kept
    exact ⟨rfl,rfl,rfl,rfl,kept⟩
  | acked command letGo frame response running | unacked command letGo frame response running =>
    rw [running] at kept
    exact ⟨rfl,rfl,rfl,rfl,kept⟩
  | responded command letGo frame running | unresponded command letGo frame running =>
    rw [running] at kept
    exact ⟨rfl,rfl,rfl,rfl,kept⟩

theorem Live.beside (live : Live σ) (reader : τ.reader = σ.reader) (inbound : τ.inbound = σ.inbound)
    (loop : τ.loop = σ.loop) (told : τ.sessionOver = σ.sessionOver) (worker : τ.worker.letGo = false) : Live τ where
  told := told.trans live.told
  worker := worker
  loop := loop ▸ live.loop
  before := by
    rw [reader,inbound]
    exact live.before
  behind := by
    rw [reader,inbound]
    exact live.behind
  handing := by
    rw [reader]
    exact live.handing

theorem loop_live (moved : LoopStep fromStr σ action facts τ) (goes : ∀ next, action ≠ .finish next) (live : Live σ) :
    Live τ := by
  obtain ⟨reader,worker,told,loop,inbound⟩ := loop_going moved goes
  have fewer (kept : ∀ item ∈ τ.inbound, item ∈ σ.inbound) (here : τ.reader ≠ .parked) :
      ∀ item ∈ τ.inbound, item.final = false := by
    intro item member
    exact live.before (reader ▸ here) item (kept item member)
  have start : τ.sessionOver = false ∧ τ.worker.letGo = false := ⟨told.trans live.told,worker ▸ live.worker⟩
  have handing : ∀ item, τ.reader = .room item → item.final = true ∨ item.isText = true := by
    rw [reader]
    exact live.handing
  rcases inbound with ⟨item,_,first,plain⟩ | ⟨_,_,_,same⟩ | ⟨empty,same⟩
  · refine ⟨start.1,start.2,loop,fewer fun held member => ?_,fun parked => ?_,handing⟩
    · rw [first]
      exact List.mem_cons_of_mem _ member
    · obtain ⟨init,last,whole,final,earlier⟩ := live.behind (reader ▸ parked)
      rw [first] at whole
      cases init with
      | nil =>
        obtain ⟨rfl,_⟩ := List.cons.inj whole
        exact absurd (plain.symm.trans final) nofun
      | cons head init =>
        obtain ⟨rfl,rest⟩ := List.cons.inj whole
        exact ⟨init,last,rest,final,fun held member => earlier held (List.mem_cons_of_mem _ member)⟩
  · refine ⟨start.1,start.2,loop,fewer fun held member => same ▸ member,fun parked => ?_,handing⟩
    rw [same]
    exact live.behind (reader ▸ parked)
  · refine ⟨start.1,start.2,loop,fewer fun held member => ?_,fun parked => ?_,handing⟩
    · rw [same] at member
      cases member
    · obtain ⟨init,last,whole,_⟩ := live.behind (reader ▸ parked)
      rw [empty] at whole
      cases init <;> cases whole

theorem Going.live {facts : List SessionFact} (going : Going fromStr σ facts τ) (live : Live σ) : Live τ := by
  obtain ⟨action,moved,uncancelled,goes⟩ := going
  cases moved with
  | reader moved => exact reader_live moved live
  | silent reading => exact absurd rfl (goes _)
  | loop moved => exact loop_live moved goes live
  | worker moved =>
    obtain ⟨reader,inbound,loop,told,worker⟩ := worker_going moved live
    exact live.beside reader inbound loop told worker
  | task moved =>
    obtain ⟨reader,inbound,loop,told,worker⟩ := task_going moved live
    exact live.beside reader inbound loop told worker
  | stopped next outside => exact absurd rfl (goes _)
  | cancel => exact absurd rfl uncancelled

theorem reaches_live {history : List SessionFact} (reaches : Reaches (Going fromStr) .fresh history σ) : Live σ := by
  induction reaches with
  | start => exact fresh_live
  | next before going live => exact going.live live

/-- The manager's Close has been read, and nothing ended the stream before it. -/
def CloseRead (σ : Session) : Prop :=
  σ.reader = .room .closed ∨ σ.reader = .parked ∧ σ.inbound.getLast? = some .closed

/-- How many steps of the loop are ahead of the end at most. -/
def ahead (σ : Session) : Nat :=
  2*σ.inbound.length + match σ.loop with
    | .writing _ => 1
    | _ => 0

theorem reader_closeRead (moved : ReaderStep σ τ) (close : CloseRead σ) : CloseRead τ := by
  rcases close with handing | ⟨parked,_⟩
  · cases moved with
    | handed item waits room =>
      cases waits.symm.trans handing
      exact .inr ⟨rfl,List.getLast?_concat⟩
    | ping _ reading | pingUnanswered reading | text _ reading | ignored reading | ends _ reading =>
      rw [reading] at handing
      cases handing
    | granted _ waits =>
      rw [waits] at handing
      cases handing
  · cases moved with
    | handed _ waits | granted _ waits =>
      rw [waits] at parked
      cases parked
    | ping _ reading | pingUnanswered reading | text _ reading | ignored reading | ends _ reading =>
      rw [reading] at parked
      cases parked

theorem loop_closeRead (moved : LoopStep fromStr σ action facts τ) (goes : ∀ next, action ≠ .finish next)
    (close : CloseRead σ) : CloseRead τ := by
  obtain ⟨reader,_,_,_,inbound⟩ := loop_going moved goes
  rcases close with handing | ⟨parked,last⟩
  · exact .inl (reader.trans handing)
  · refine .inr ⟨reader.trans parked,?_⟩
    rcases inbound with ⟨item,_,first,plain⟩ | ⟨_,_,_,same⟩ | ⟨empty,_⟩
    · rw [first] at last
      cases rest : τ.inbound with
      | nil =>
        rw [rest] at last
        cases Option.some.inj last
        cases plain
      | cons next more =>
        rw [rest,List.getLast?_cons_cons] at last
        exact last
    · rw [same]
      exact last
    · rw [empty] at last
      cases last

/-- While the Close is in the channel each step of the loop brings it nearer. -/
theorem loop_ahead (moved : LoopStep fromStr σ action facts τ) (goes : ∀ next, action ≠ .finish next)
    (some : σ.inbound ≠ []) : ahead τ < ahead σ := by
  obtain ⟨_,_,_,_,inbound⟩ := loop_going moved goes
  unfold ahead
  rcases inbound with ⟨item,idle,first,_⟩ | ⟨write,writing,idle,same⟩ | ⟨empty,_⟩
  · rw [first,idle,List.length_cons]
    split <;> omega
  · rw [same,writing,idle]
    exact Nat.lt_succ_self _
  · exact absurd empty some

theorem reader_parked (moved : ReaderStep σ τ) (parked : σ.reader = .parked) : False := by
  cases moved with
  | handed _ waits | granted _ waits => cases waits.symm.trans parked
  | ping _ reading | pingUnanswered reading | text _ reading | ignored reading | ends _ reading =>
    cases reading.symm.trans parked

theorem Turns.kept {μ : Session} {n : Nat} (turns : Turns fromStr μ n σ) (live : Live μ) (close : CloseRead μ) :
    Live σ ∧ CloseRead σ := by
  induction turns with
  | start => exact ⟨live,close⟩
  | loop before moved goes ih => exact ⟨loop_live moved goes ih.1,loop_closeRead moved goes ih.2⟩
  | reader before moved ih => exact ⟨reader_live moved ih.1,reader_closeRead moved ih.2⟩
  | worker before moved ih =>
    obtain ⟨reader,inbound,loop,told,worker⟩ := worker_going moved ih.1
    refine ⟨ih.1.beside reader inbound loop told worker,?_⟩
    rw [CloseRead,reader,inbound]
    exact ih.2
  | task before moved ih =>
    obtain ⟨reader,inbound,loop,told,worker⟩ := task_going moved ih.1
    refine ⟨ih.1.beside reader inbound loop told worker,?_⟩
    rw [CloseRead,reader,inbound]
    exact ih.2

/-- Once the Close is in the channel the loop has this many steps left at most. -/
theorem Turns.bounded {μ : Session} {n : Nat} (turns : Turns fromStr μ n σ) (live : Live μ) (parked : μ.reader = .parked)
    (last : μ.inbound.getLast? = some .closed) : σ.reader = .parked ∧ n+ahead σ ≤ ahead μ := by
  induction turns with
  | start => exact ⟨parked,by omega⟩
  | loop before moved goes ih =>
    obtain ⟨here,bound⟩ := ih
    have close := (before.kept live (.inr ⟨parked,last⟩)).2
    have some : ∀ inbound : List Inbound, inbound.getLast? = some .closed → inbound ≠ [] := by
      rintro _ found rfl
      cases found
    rcases close with handing | ⟨_,found⟩
    · cases handing.symm.trans here
    · have nearer := loop_ahead moved goes (some _ found)
      exact ⟨(loop_going moved goes).1.trans here,by omega⟩
  | reader before moved ih => exact (reader_parked moved ih.1).elim
  | worker before moved ih =>
    have same := worker_going moved (before.kept live (.inr ⟨parked,last⟩)).1
    refine ⟨same.1.trans ih.1,?_⟩
    rw [ahead,same.2.1,same.2.2.1]
    exact ih.2
  | task before moved ih =>
    have same := task_going moved (before.kept live (.inr ⟨parked,last⟩)).1
    refine ⟨same.1.trans ih.1,?_⟩
    rw [ahead,same.2.1,same.2.2.1]
    exact ih.2

/-- The first item in the channel is no other end than the Close. -/
theorem Live.first_final {item : Inbound} {rest : List Inbound} (live : Live σ) (close : CloseRead σ)
    (first : σ.inbound = item::rest) (final : item.final = true) : item = .closed := by
  rcases close with handing | ⟨parked,last⟩
  · have plain := live.before (by rw [handing]; nofun) item (first ▸ List.mem_cons_self)
    exact absurd (plain.symm.trans final) nofun
  · obtain ⟨init,held,whole,_,earlier⟩ := live.behind parked
    rw [whole,List.getLast?_concat] at last
    cases init with
    | nil =>
      obtain ⟨rfl,_⟩ := List.cons.inj (whole.symm.trans first)
      exact Option.some.inj last
    | cons head init =>
      obtain ⟨rfl,_⟩ := List.cons.inj (whole.symm.trans first)
      exact absurd ((earlier _ List.mem_cons_self).symm.trans final) nofun

/-- How a session goes on to its end from here. -/
structure EndsClosed (fromStr : String → Option Json) (σ : Session) : Prop where
  result : ∀ e, EndsBy fromStr σ e → e ≠ .shutdown → (∀ what, e ≠ .writeStalled what) →
    (e.result = .authenticatedThenClosed ↔ ∀ error, e ≠ .writeFailed error)
  handed : σ.reader = .room .closed → σ.inbound.length < inboundChannelSize → ∃ τ, ReaderStep σ τ ∧ τ.reader = .parked
  soon : σ.reader = .parked → ∀ m τ, Turns fromStr σ m τ → m ≤ ahead σ
  goesOn : σ.loop = .idle → σ.inbound ≠ [] → EndsBy fromStr σ .closed ∨ ∃ facts τ, LoopStep fromStr σ .quiet facts τ

/-- Once the Close has been read, and short of a shutdown or a write stalled to its bound, the
session ends, and as closed exactly where no write fails otherwise than for the Close. -/
theorem closed_session_result (fromStr : String → Option Json) (history : List SessionFact) (σ₀ μ σ : Session) (n : Nat)
    (reaches : Reaches (Going fromStr) .fresh history σ₀) (read : ReaderStep σ₀ μ) (close : μ.reader = .room .closed)
    (turns : Turns fromStr μ n σ) : EndsClosed fromStr σ := by
  obtain ⟨live,closed⟩ := turns.kept (reader_live read (reaches_live reaches)) (.inl close)
  have unstopped {text : String} (routing : routeInbound fromStr σ text = .stopped) : False := by
    exact absurd ((routeInbound_stopped routing).symm.trans live.worker) nofun
  constructor
  · intro e ends notShutdown unstalled
    cases ends with
    | shutdown => exact absurd rfl notShutdown
    | silent quiet limit reading =>
      rcases closed with handing | ⟨parked,_⟩
      · cases reading.symm.trans handing
      · cases reading.symm.trans parked
    | stopped text idle first routing => exact (unstopped routing).elim
    | closed idle first => exact iff_of_true rfl nofun
    | streamFailed error idle first => cases live.first_final closed first rfl
    | streamEnded idle first => exact iff_of_true rfl nofun
    | writeFailed write error writing => exact iff_of_false nofun fun none => none error rfl
    | writeStalled write what writing => exact absurd rfl (unstalled what)
  · intro handing room
    exact ⟨_,.handed .closed handing room,rfl⟩
  · intro parked m τ turns
    rcases closed with handing | ⟨_,last⟩
    · cases handing.symm.trans parked
    · have bound := (turns.bounded live parked last).2
      omega
  · intro idle some
    cases first : σ.inbound with
    | nil => exact absurd first some
    | cons item rest =>
      cases item with
      | ping data => exact .inr ⟨_,_,.ping data idle first⟩
      | closed => exact .inl (.closed idle first)
      | failed => cases live.first_final closed first rfl
      | ended => cases live.first_final closed first rfl
      | text text =>
        cases routing : routeInbound fromStr σ text with
        | dropped => exact .inr ⟨_,_,.dropped text idle first routing⟩
        | pong => exact .inr ⟨_,_,.pong text idle first routing⟩
        | queued command => exact .inr ⟨_,_,.queued text command idle first routing⟩
        | busy command held => exact .inr ⟨_,_,.busy text command held idle first routing⟩
        | stopped => exact (unstopped routing).elim

/-- A heartbeat is on its way and a ping waits as the Close is read: neither write, of the heartbeat or the pong, is
possible any more, and the session ends as closed. -/
theorem late_writes_close_result : ∃ μ σ, μ.loop = .writing .heartbeat ∧ μ.inbound = [.ping [7]] ∧ μ.reader = .room .closed ∧
    Turns (fun _ => none) μ 3 σ ∧ EndsClosed (fun _ => none) σ ∧ EndsBy (fun _ => none) σ .closed := by
  have beats : Reaches (Going fun _ => none) .fresh _ {Session.fresh with loop := .writing .heartbeat} :=
    Reaches.start.next ⟨.quiet,.loop (.heartbeat rfl rfl),nofun,nofun⟩
  have pinged : Reaches (Going fun _ => none) .fresh _ {Session.fresh with loop := .writing .heartbeat,inbound := [.ping [7]]} :=
    beats.next ⟨.quiet,.reader (.ping [7] rfl (by decide)),nofun,nofun⟩
  let late : Session := {Session.fresh with loop := .writing .heartbeat,inbound := [.ping [7]],reader := .room .closed}
  have read : ReaderStep {Session.fresh with loop := .writing .heartbeat,inbound := [.ping [7]]} late :=
    .ends .closed rfl (.inl rfl)
  have started : Turns (fun _ => none) late 0 late := .start
  have handed := started.reader (.handed .closed rfl (by decide))
  have beaten := Turns.loop handed (.sendAfterClosing .heartbeat rfl) nofun
  have answers := Turns.loop beaten (.ping [7] rfl rfl) nofun
  have answered := Turns.loop answers (.sendAfterClosing (.pong [7]) rfl) nofun
  exact ⟨_,_,rfl,rfl,rfl,answered,closed_session_result _ _ _ _ _ 3 pinged read rfl answered,.closed rfl rfl⟩

/-- A heartbeat is on its way as the Close is read, and the socket goes away under it. -/
theorem close_lost_to_write : ∃ history σ₀ μ, Reaches (Going fun _ => none) .fresh history σ₀ ∧ ReaderStep σ₀ μ ∧
    μ.reader = .room .closed ∧ ∃ e, EndsBy (fun _ => none) μ e ∧ e ≠ .shutdown ∧ (∀ what, e ≠ .writeStalled what) ∧
      e.result ≠ .authenticatedThenClosed := by
  have beats : Reaches (Going fun _ => none) .fresh ([] ++ []) {Session.fresh with loop := .writing .heartbeat} :=
    Reaches.start.next ⟨.quiet,.loop (.heartbeat rfl rfl),nofun,nofun⟩
  refine ⟨_,_,_,beats,.ends .closed rfl (.inl rfl),rfl,.writeFailed "IO error: Connection reset by peer (os error 104)",?_⟩
  exact ⟨.writeFailed .heartbeat _ rfl,nofun,nofun,nofun⟩

end GatewaySdk.Client
