import GatewaySdk.Client.Run
import Mathlib.Data.List.Nodup

/-! Who has the turn, and which sessions are over, in every state the client can reach. -/
namespace GatewaySdk.Client
open GatewaySdk.Effect GatewaySdk.Upgrade

section Steps

variable {fromStr : String → Option Json} {σ τ : Session} {action : Action} {facts : List SessionFact}

/-- A session's part in the line changes by what its step asks for. -/
def LineOf : Action → Worker → Worker → Prop
  | .join,before,after => before.inLine = false ∧ after.inLine = true ∧ after.holds = false
  | .hold,before,after => before.inLine = true ∧ after.inLine = true
  | .leave,before,after => before.inLine = true ∧ after.inLine = false ∧ after.holds = false
  | _,before,after => after.inLine = before.inLine ∧ after.holds = before.holds

theorem WorkerStep.line (moved : WorkerStep σ action facts τ) : LineOf action σ.worker τ.worker := by
  cases moved with
  | asks unpolled live => rw [unpolled]; exact ⟨rfl,rfl,rfl⟩
  | neverAsked unpolled isOver => rw [unpolled]; exact ⟨rfl,rfl⟩
  | gaveUp waiting isOver => rw [waiting]; exact ⟨rfl,rfl,rfl⟩
  | turn waiting live => rw [waiting]; exact ⟨rfl,rfl⟩
  | takes command idle live first => rw [idle]; exact ⟨rfl,rfl⟩
  | stops idle isOver => rw [idle]; exact ⟨rfl,rfl,rfl⟩
  | unfed idle live empty gone => rw [idle]; exact ⟨rfl,rfl,rfl⟩
  | letsGo command task running unfinished isOver => rw [running]; exact ⟨rfl,rfl⟩
  | joined command letGo running => rw [running]; exact ⟨rfl,rfl⟩
  | panicked command letGo running => rw [running]; exact ⟨rfl,rfl⟩
  | sent command frame letGo acking => rw [acking]; exact ⟨rfl,rfl⟩
  | unsent command frame letGo acking => rw [acking]; exact ⟨rfl,rfl⟩
  | goesOn seen => rw [seen]; exact ⟨rfl,rfl⟩
  | returns seen => rw [seen]; exact ⟨rfl,rfl,rfl⟩

theorem TaskStep.line (moved : TaskStep fromStr σ action facts τ) : LineOf action σ.worker τ.worker := by
  cases moved with
  | starts command letGo running => rw [running]; exact ⟨rfl,rfl⟩
  | returned command letGo result running fits => rw [running]; exact ⟨rfl,rfl⟩
  | panicked command letGo running => rw [running]; exact ⟨rfl,rfl⟩
  | acked command letGo frame response running => rw [running]; exact ⟨rfl,rfl⟩
  | unacked command letGo frame response running => rw [running]; exact ⟨rfl,rfl⟩
  | responded command letGo frame running => rw [running]; exact ⟨rfl,rfl⟩
  | unresponded command letGo frame running => rw [running]; exact ⟨rfl,rfl⟩

theorem LoopStep.line (moved : LoopStep fromStr σ action facts τ) : LineOf action σ.worker τ.worker := by
  cases moved <;> exact ⟨rfl,rfl⟩

theorem SessionStep.line (moved : SessionStep fromStr σ action facts τ) : LineOf action σ.worker τ.worker := by
  cases moved with
  | reader moved => cases moved <;> exact ⟨rfl,rfl⟩
  | silent reading => exact ⟨rfl,rfl⟩
  | loop moved => exact moved.line
  | worker moved => exact moved.line
  | task moved => exact moved.line
  | stopped next outside => exact ⟨rfl,rfl⟩
  | cancel => exact ⟨rfl,rfl⟩

def Session.Gone (σ : Session) : Prop := σ.loop = .gone ∧ σ.reader = .gone ∧ σ.inbound = []

/-- How the reader and the loop come through a step. -/
def LiveOf : Action → Session → Session → Prop
  | .finish _,before,after => after.Gone ∧ after.sessionOver = before.sessionOver
  | .cancel,before,after => (before.Gone → after.Gone) ∧ after.sessionOver = true
  | _,before,after => (before.Gone → after.Gone) ∧ (before.loop ≠ .gone → after.loop ≠ .gone) ∧ after.sessionOver = before.sessionOver

theorem ReaderStep.live (moved : ReaderStep σ τ) : LiveOf .quiet σ τ := by
  have reads {P : Prop} (gone : σ.Gone) (phase : Reader) (here : σ.reader = phase) (other : phase ≠ .gone) : P :=
    absurd (here.symm.trans gone.2.1) other
  cases moved with
  | ping data reading room => exact ⟨fun gone => reads gone _ reading nofun,id,rfl⟩
  | pingUnanswered reading full => exact ⟨id,id,rfl⟩
  | text text reading short => exact ⟨fun gone => reads gone _ reading nofun,id,rfl⟩
  | ignored reading => exact ⟨id,id,rfl⟩
  | ends item reading final => exact ⟨fun gone => reads gone _ reading nofun,id,rfl⟩
  | granted text waits enough => exact ⟨fun gone => reads gone _ waits nofun,id,rfl⟩
  | handed item waits room => exact ⟨fun gone => reads gone _ waits nofun,id,rfl⟩

theorem LoopStep.live (moved : LoopStep fromStr σ action facts τ) : LiveOf action σ τ := by
  have loops {P : Prop} (gone : σ.Gone) (phase : Loop) (here : σ.loop = phase) (other : phase ≠ .gone) : P :=
    absurd (here.symm.trans gone.1) other
  have idles {idle : σ.loop = .idle} (gone : σ.Gone) : τ.Gone := loops gone _ idle nofun
  cases moved with
  | ping data idle first => exact ⟨@idles idle,fun _ => nofun,rfl⟩
  | dropped text idle first routing => exact ⟨@idles idle,id,rfl⟩
  | pong text idle first routing => exact ⟨@idles idle,fun _ => nofun,rfl⟩
  | queued text command idle first routing => exact ⟨@idles idle,id,rfl⟩
  | busy text command held idle first routing => exact ⟨@idles idle,fun _ => nofun,rfl⟩
  | stopped text idle first routing => exact ⟨⟨rfl,rfl,rfl⟩,rfl⟩
  | ended item idle first final => exact ⟨⟨rfl,rfl,rfl⟩,rfl⟩
  | outbound frame idle empty => exact ⟨@idles idle,fun _ => nofun,rfl⟩
  | heartbeat idle empty => exact ⟨@idles idle,fun _ => nofun,rfl⟩
  | wrote write writing => exact ⟨fun gone => loops gone _ writing nofun,fun _ => nofun,rfl⟩
  | sendAfterClosing write writing => exact ⟨fun gone => loops gone _ writing nofun,fun _ => nofun,rfl⟩
  | writeFailed write writing => exact ⟨⟨rfl,rfl,rfl⟩,rfl⟩

theorem WorkerStep.live (moved : WorkerStep σ action facts τ) : LiveOf action σ τ := by
  cases moved <;> exact ⟨id,id,rfl⟩

theorem TaskStep.live (moved : TaskStep fromStr σ action facts τ) : LiveOf action σ τ := by
  cases moved <;> exact ⟨id,id,rfl⟩

theorem SessionStep.live (moved : SessionStep fromStr σ action facts τ) : LiveOf action σ τ := by
  cases moved with
  | reader moved => exact moved.live
  | silent reading => exact ⟨⟨rfl,rfl,rfl⟩,rfl⟩
  | loop moved => exact moved.live
  | worker moved => exact moved.live
  | task moved => exact moved.live
  | stopped next outside => exact ⟨⟨rfl,rfl,rfl⟩,rfl⟩
  | cancel => exact ⟨id,rfl⟩

end Steps

/-- The last session is live, or its end has not been told its worker yet. -/
def Main.attends : Main → Bool
  | .session => true
  | .ended _ => true
  | _ => false

/-- `run` has closed the outbound channel. -/
def Main.shut : Main → Bool
  | .draining => true
  | .returned _ => true
  | .dropped => true
  | _ => false

/-- Which sessions are over and which are gone, by where `run` is. -/
structure Phased (c : GatewayClient) : Prop where
  started : c.main.attends = true → 0 < c.count
  unborn : ∀ k, c.count ≤ k → c.session k = .fresh
  live : ∀ k, k < c.count → ((c.session k).sessionOver = false ↔ k+1 = c.count ∧ c.main.attends = true)
  loops : ∀ k, k < c.count → ((c.session k).loop ≠ .gone ↔ k+1 = c.count ∧ c.main = .session)
  gone : ∀ k, k < c.count → (c.session k).loop = .gone → (c.session k).Gone
  closed : c.closed = c.main.shut

section Phases

variable {fromStr : String → Option Json} {k : Nat} {c granted c' : GatewayClient} {σ : Session} {action : Action}
  {facts : List SessionFact} {more history : List Fact}

theorem start_phased : Phased .start where
  started := nofun
  unborn _ _ := rfl
  live := nofun
  loops := nofun
  gone := nofun
  closed := rfl

theorem Phased.within (phased : Phased c) (born : k < c.count) (live : LiveOf .quiet (c.session k) σ)
    (main : granted.main = c.main) (count : granted.count = c.count) (sessions : granted.session = c.session)
    (closed : granted.closed = c.closed) : Phased (granted.set k σ) := by
  obtain ⟨goes,stays,isOver⟩ := live
  refine ⟨?_,fun j unborn => ?_,fun j inside => ?_,fun j inside => ?_,fun j inside ended => ?_,?_⟩
  · rw [set_main,set_count,main,count]
    exact phased.started
  · rw [set_count,count] at unborn
    rw [set_other _ _ (by omega),sessions]
    exact phased.unborn j unborn
  all_goals try rw [set_count,count] at inside
  · rw [set_count,set_main,main,count,← phased.live j inside]
    by_cases same : j = k
    · subst j
      rw [set_same,isOver]
    · rw [set_other _ _ same,sessions]
  · rw [set_count,set_main,main,count,← phased.loops j inside]
    by_cases same : j = k
    · subst j
      rw [set_same]
      refine ⟨fun here before => ?_,stays⟩
      exact here (goes (phased.gone k inside before)).1
    · rw [set_other _ _ same,sessions]
  · by_cases same : j = k
    · subst j
      rw [set_same] at ended ⊢
      by_cases before : (c.session k).loop = .gone
      · exact goes (phased.gone k inside before)
      · exact absurd ended (stays before)
    · rw [set_other _ _ same,sessions] at ended ⊢
      exact phased.gone j inside ended
  · rw [set_closed,set_main,closed,main]
    exact phased.closed

theorem Phased.finished (phased : Phased c) (next : Next) (main : c.main = .session) (count : c.count = k+1)
    (gone : σ.Gone) (isOver : σ.sessionOver = (c.session k).sessionOver) : Phased (GatewayClient.set {c with main := .ended next} k σ) := by
  refine ⟨fun _ => ?_,fun j unborn => ?_,fun j inside => ?_,fun j inside => ?_,fun j inside ended => ?_,?_⟩
  · rw [set_count]
    simp only [count]
    omega
  · simp only [set_count] at unborn
    rw [set_other _ _ (by omega)]
    exact phased.unborn j unborn
  · have before := phased.live j inside
    rw [main] at before
    by_cases same : j = k
    · subst j
      rw [set_same,isOver]
      exact before
    · rw [set_other _ _ same]
      exact before
  · have before := phased.loops j inside
    by_cases same : j = k
    · subst j
      rw [set_same]
      exact ⟨fun stays => absurd gone.1 stays,fun live => absurd live.2 nofun⟩
    · rw [set_other _ _ same,before]
      exact ⟨fun last => by omega,fun live => absurd live.2 nofun⟩
  · by_cases same : j = k
    · subst j
      rw [set_same]
      exact gone
    · rw [set_other _ _ same] at ended ⊢
      exact phased.gone j inside ended
  · have before := phased.closed
    rw [main] at before
    exact before

theorem Phased.outside (phased : Phased c) (before : c.main.attends = false) (after : c'.main.attends = false)
    (count : c'.count = c.count) (sessions : c'.session = c.session) (closed : c'.closed = c'.main.shut) :
    Phased c' := by
  have unattended {main : Main} (idle : main.attends = false) : main ≠ .session := by
    rintro rfl
    cases idle
  refine ⟨fun attends => ?_,?_,fun j inside => ?_,fun j inside => ?_,?_,closed⟩
  · rw [after] at attends
    cases attends
  · rw [count,sessions]
    exact phased.unborn
  · rw [count] at inside
    rw [sessions,phased.live j inside,before,after]
    simp
  · rw [count] at inside
    rw [sessions,phased.loops j inside]
    exact ⟨fun live => absurd live.2 (unattended before),fun live => absurd live.2 (unattended after)⟩
  · rw [count,sessions]
    exact phased.gone

theorem Phased.ends (phased : Phased c) (next : Next) (main : c.main = .ended next) (count : c.count = k+1)
    (goes : (c.session k).Gone → σ.Gone) (isOver : σ.sessionOver = true) : Phased ((c.goOn next).set k σ) := by
  have after : (c.goOn next).main.attends = false := by cases next <;> rfl
  have unattended {main : Main} (idle : main.attends = false) : main ≠ .session := by
    rintro rfl
    cases idle
  have dead : (c.session k).loop = .gone := by
    by_contra stays
    have live := (phased.loops k (by omega)).mp stays
    rw [main] at live
    cases live.2
  refine ⟨fun attends => ?_,fun j unborn => ?_,fun j inside => ?_,fun j inside => ?_,fun j inside ended => ?_,?_⟩
  · rw [set_main,after] at attends
    cases attends
  · rw [set_count,goOn_count] at unborn
    rw [set_other _ _ (by omega),goOn_session]
    exact phased.unborn j unborn
  all_goals try rw [set_count,goOn_count] at inside
  · rw [set_main,after]
    by_cases same : j = k
    · subst j
      rw [set_same,isOver]
      simp
    · rw [set_other _ _ same,goOn_session,phased.live j inside]
      simp
      omega
  · rw [set_main]
    by_cases same : j = k
    · subst j
      rw [set_same]
      exact ⟨fun stays => absurd (goes (phased.gone k inside dead)).1 stays,fun live => absurd live.2 (unattended after)⟩
    · rw [set_other _ _ same,goOn_session,phased.loops j inside,main]
      exact ⟨fun live => absurd live.2 nofun,fun live => absurd live.2 (unattended after)⟩
  · by_cases same : j = k
    · subst j
      rw [set_same]
      exact goes (phased.gone k inside dead)
    · rw [set_other _ _ same,goOn_session] at ended ⊢
      exact phased.gone j inside ended
  · have before := phased.closed
    rw [main] at before
    cases next with
    | reconnect => exact before
    | close => exact before
    | drop => rfl

theorem Phased.set_fresh (phased : Phased c) : (c.set c.count .fresh).session = c.session := by
  rw [GatewayClient.set,← phased.unborn c.count (Nat.le_refl _)]
  exact Function.update_eq_self _ _

theorem Phased.connects (phased : Phased c) (between : c.main = .between) (main : c'.main = .session)
    (count : c'.count = c.count+1) (sessions : c'.session = c.session) (same : c'.closed = c.closed) : Phased c' := by
  have fresh := phased.unborn c.count (Nat.le_refl _)
  refine ⟨fun _ => ?_,?_,?_,?_,?_,?_⟩
  · omega
  all_goals try intro j; rw [count,sessions]
  · exact fun unborn => phased.unborn j (by omega)
  · intro inside
    rw [main]
    by_cases last : j = c.count
    · subst j
      rw [fresh]
      exact ⟨fun _ => ⟨rfl,rfl⟩,fun _ => rfl⟩
    · rw [phased.live j (by omega),between]
      exact ⟨fun live => absurd live.2 nofun,fun live => absurd (Nat.succ.inj live.1) last⟩
  · intro inside
    rw [main]
    by_cases last : j = c.count
    · subst j
      rw [fresh]
      exact ⟨fun _ => ⟨rfl,rfl⟩,fun _ => nofun⟩
    · rw [phased.loops j (by omega),between]
      exact ⟨fun live => absurd live.2 nofun,fun live => absurd (Nat.succ.inj live.1) last⟩
  · intro inside ended
    by_cases last : j = c.count
    · subst j
      rw [fresh] at ended
      cases ended
    · exact phased.gone j (by omega) ended
  · rw [same,phased.closed,between,main]
    rfl

theorem main_phased (moved : MainStep c c') (phased : Phased c) : Phased c' := by
  cases moved with
  | connected between => exact phased.connects between rfl rfl phased.set_fresh rfl
  | stopped between => exact phased.outside (by rw [between]; rfl) rfl rfl rfl rfl
  | closeWritten closing => exact phased.outside (by rw [closing]; rfl) rfl rfl rfl rfl
  | drained draining first => exact phased.outside (by rw [draining]; rfl) rfl rfl rfl rfl
  | expired draining => exact phased.outside (by rw [draining]; rfl) rfl rfl rfl rfl
  | abandoned waiting =>
    refine phased.outside ?_ rfl rfl rfl rfl
    obtain between | closing | draining := waiting
    · rw [between]; rfl
    · rw [closing]; rfl
    · rw [draining]; rfl

theorem granted_phased (moved : SessionStep fromStr (c.session k) action facts σ) (born : k < c.count)
    (grants : Grants k c action more granted) (phased : Phased c) : Phased (granted.set k σ) := by
  have live := moved.live
  cases grants with
  | finish next last => exact phased.finished next last.1 last.2 live.1 live.2
  | cancel next ended => exact phased.ends next ended.1 ended.2 live.1 live.2
  | _ => exact phased.within born live rfl rfl rfl rfl

theorem emitter_phased (moved : EmitterStep c more c') (phased : Phased c) : Phased c' := by
  cases moved <;> exact ⟨phased.started,phased.unborn,phased.live,phased.loops,phased.gone,phased.closed⟩

theorem step_phased (moved : Step fromStr c more c') (phased : Phased c) : Phased c' := by
  cases moved with
  | session k born moved grants => exact granted_phased moved born grants phased
  | main moved => exact main_phased moved phased
  | emitter moved => exact emitter_phased moved phased

theorem runs_phased (runs : Runs fromStr history c) : Phased c := by
  induction runs with
  | start => exact start_phased
  | next before moved phased => exact step_phased moved phased

end Phases

/-- The line for the turn: who asked for it stands in it once, and who goes by it has it. -/
structure Lined (c : GatewayClient) : Prop where
  once : c.turn.Nodup
  workers : ∀ k, .worker k ∈ c.turn ↔ (c.session k).worker.inLine = true
  drain : .drain ∈ c.turn ↔ c.main = .draining
  holds : ∀ k, (c.session k).worker.holds = true → c.turn.head? = some (.worker k)

section Line

variable {fromStr : String → Option Json} {k j : Nat} {c granted c' : GatewayClient} {σ : Session} {action : Action}
  {facts : List SessionFact} {more history : List Fact} {asker other : Asker} {turn : List Asker}

theorem head_append (first : turn.head? = some asker) : (turn ++ [other]).head? = some asker := by
  rw [List.head?_append,first]
  rfl

theorem head_erase (first : turn.head? = some asker) (different : asker ≠ other) :
    (turn.erase other).head? = some asker := by
  obtain ⟨rest,rfl⟩ := List.head?_eq_some_iff.mp first
  rw [List.erase_cons_tail (by simpa using different)]
  rfl

theorem start_lined : Lined .start where
  once := List.nodup_nil
  workers _ := ⟨nofun,nofun⟩
  drain := ⟨nofun,nofun⟩
  holds := nofun

theorem Lined.keeps (lined : Lined c) (turn : granted.turn = c.turn) (main : granted.main = .draining ↔ c.main = .draining)
    (sessions : granted.session = c.session) (inLine : σ.worker.inLine = (c.session k).worker.inLine)
    (holds : σ.worker.holds = true → c.turn.head? = some (.worker k)) : Lined (granted.set k σ) := by
  refine ⟨?_,fun j => ?_,?_,fun j held => ?_⟩
  · rw [set_turn,turn]
    exact lined.once
  · rw [set_turn,turn,lined.workers j]
    by_cases same : j = k
    · subst j
      rw [set_same,inLine]
    · rw [set_other _ _ same,sessions]
  · rw [set_turn,set_main,turn,main]
    exact lined.drain
  · rw [set_turn,turn]
    by_cases same : j = k
    · subst j
      rw [set_same] at held
      exact holds held
    · rw [set_other _ _ same,sessions] at held
      exact lined.holds j held

theorem Lined.joins (lined : Lined c) (outside : (c.session k).worker.inLine = false) (inLine : σ.worker.inLine = true)
    (waits : σ.worker.holds = false) : Lined (GatewayClient.set {c with turn := c.turn ++ [.worker k]} k σ) := by
  have absent : .worker k ∉ c.turn := by
    rw [lined.workers k,outside]
    nofun
  refine ⟨?_,fun j => ?_,?_,fun j held => ?_⟩
  · rw [set_turn,← List.concat_eq_append]
    exact lined.once.concat absent
  · rw [set_turn,List.mem_append,List.mem_singleton,lined.workers j]
    by_cases same : j = k
    · subst j
      rw [set_same,inLine]
      simp
    · rw [set_other _ _ same]
      simp [same]
  · rw [set_turn,set_main,List.mem_append,lined.drain]
    simp
  · rw [set_turn]
    by_cases same : j = k
    · subst j
      rw [set_same,waits] at held
      cases held
    · rw [set_other _ _ same] at held
      exact head_append (lined.holds j held)

theorem Lined.leaves (lined : Lined c) (inLine : σ.worker.inLine = false) (waits : σ.worker.holds = false) :
    Lined (GatewayClient.set {c with turn := c.turn.erase (.worker k)} k σ) := by
  refine ⟨?_,fun j => ?_,?_,fun j held => ?_⟩
  · rw [set_turn]
    exact lined.once.erase _
  · rw [set_turn]
    by_cases same : j = k
    · subst j
      rw [set_same,inLine]
      simpa using lined.once.not_mem_erase
    · rw [set_other _ _ same,← lined.workers j]
      exact List.mem_erase_of_ne (by simpa using same)
  · rw [set_turn,set_main,← lined.drain]
    exact List.mem_erase_of_ne nofun
  · rw [set_turn]
    by_cases same : j = k
    · subst j
      rw [set_same,waits] at held
      cases held
    · rw [set_other _ _ same] at held
      exact head_erase (lined.holds j held) (by simpa using same)

theorem Lined.drains (lined : Lined c) (before : c.main ≠ .draining) : Lined c.drain := by
  have absent : .drain ∉ c.turn := by rwa [lined.drain]
  refine ⟨?_,fun k => ?_,?_,fun k held => ?_⟩
  · rw [GatewayClient.drain,← List.concat_eq_append]
    exact lined.once.concat absent
  · rw [GatewayClient.drain,← lined.workers k]
    simp
  · simp [GatewayClient.drain]
  · exact head_append (lined.holds k held)

theorem Lined.leave {main : Main} (lined : Lined c) (after : main ≠ .draining) : Lined (c.leave main) := by
  refine ⟨lined.once.erase _,fun k => ?_,?_,fun k held => ?_⟩
  · rw [GatewayClient.leave,← lined.workers k]
    exact List.mem_erase_of_ne nofun
  · exact ⟨fun member => absurd member lined.once.not_mem_erase,fun drains => absurd drains after⟩
  · exact head_erase (lined.holds k held) nofun

theorem goOn_lined (lined : Lined c) (next : Next) (main : c.main = .ended next) : Lined (c.goOn next) := by
  have idle {phase : Main} (other : phase ≠ .draining) : .drain ∈ c.turn ↔ phase = .draining := by
    rw [lined.drain,main]
    exact ⟨nofun,fun drains => absurd drains other⟩
  cases next with
  | reconnect => exact ⟨lined.once,lined.workers,idle nofun,lined.holds⟩
  | close => exact ⟨lined.once,lined.workers,idle nofun,lined.holds⟩
  | drop => exact lined.leave nofun

theorem main_lined (moved : MainStep c c') (phased : Phased c) (lined : Lined c) : Lined c' := by
  cases moved with
  | connected between =>
    refine ⟨lined.once,?_,?_,?_⟩
    · rw [phased.set_fresh]
      exact lined.workers
    · rw [set_turn,lined.drain,between]
      exact ⟨nofun,nofun⟩
    · rw [phased.set_fresh]
      exact lined.holds
  | stopped between => exact lined.drains (by rw [between]; nofun)
  | closeWritten closing => exact lined.drains (by rw [closing]; nofun)
  | drained draining first => exact lined.leave nofun
  | expired draining => exact lined.leave nofun
  | abandoned waiting => exact lined.leave nofun

theorem granted_lined (moved : SessionStep fromStr (c.session k) action facts σ)
    (grants : Grants k c action more granted) (lined : Lined c) : Lined (granted.set k σ) := by
  have line := moved.line
  have held (same : σ.worker.holds = (c.session k).worker.holds) (holds : σ.worker.holds = true) :
      c.turn.head? = some (.worker k) := lined.holds k (same ▸ holds)
  cases grants with
  | join => exact lined.joins line.1 line.2.1 line.2.2
  | hold first => exact lined.keeps rfl .rfl rfl (line.2.trans line.1.symm) fun _ => first
  | leave => exact lined.leaves line.2.1 line.2.2
  | finish next last =>
    refine lined.keeps rfl ?_ rfl line.1 (held line.2)
    rw [last.1]
    exact ⟨nofun,nofun⟩
  | cancel next ended =>
    have before := goOn_lined lined next ended.1
    refine before.keeps rfl .rfl rfl ?_ fun holds => ?_
    · rw [goOn_session]
      exact line.1
    · refine before.holds k ?_
      rw [goOn_session,← line.2]
      exact holds
  | _ => exact lined.keeps rfl .rfl rfl line.1 (held line.2)

theorem step_lined (moved : Step fromStr c more c') (phased : Phased c) (lined : Lined c) : Lined c' := by
  cases moved with
  | session k born moved grants => exact granted_lined moved grants lined
  | main moved => exact main_lined moved phased lined
  | emitter moved => cases moved <;> exact ⟨lined.once,lined.workers,lined.drain,lined.holds⟩

theorem runs_lined (runs : Runs fromStr history c) : Lined c := by
  induction runs with
  | start => exact start_lined
  | next before moved lined => exact step_lined moved (runs_phased before) lined

theorem Lined.one_holds (lined : Lined c) (first : (c.session k).worker.holds = true)
    (second : (c.session j).worker.holds = true) : k = j := by
  have same := (lined.holds k first).symm.trans (lined.holds j second)
  simpa using same

end Line
end GatewaySdk.Client
