import GatewaySdk.Client.Serial

/-! The end of a session and of `run`: nothing starts after it. -/
namespace GatewaySdk.Client
open GatewaySdk.Effect GatewaySdk.Upgrade

variable {fromStr : String → Option Json} {k : Nat} {c c' : GatewayClient} {σ τ : Session} {action : Action}
  {command : QueuedCommand} {facts : List SessionFact} {history more : List Fact} {expired : Bool}

theorem SessionStep.over_stays (moved : SessionStep fromStr σ action facts τ) (isOver : σ.sessionOver = true) : τ.sessionOver = true := by
  have live := moved.live
  cases action with
  | cancel => exact live.2
  | finish next => exact live.2.trans isOver
  | _ => exact live.2.2.trans isOver

theorem Step.over_stays (moved : Step fromStr c more c') (phased : Phased c) (isOver : (c.session k).sessionOver = true) :
    (c'.session k).sessionOver = true := by
  cases moved with
  | @session granted action facts extra σ j born moved grants =>
    by_cases same : k = j
    · subst k
      rw [set_same]
      exact moved.over_stays isOver
    · rw [set_other _ _ same,grants.session]
      exact isOver
  | main moved =>
    cases moved with
    | connected between =>
      rw [show (_ : GatewayClient).session = c.session from phased.set_fresh]
      exact isOver
    | _ => exact isOver
  | emitter moved => cases moved <;> exact isOver

theorem Step.taken_live (moved : Step fromStr c more c') (told : Fact.of k (.taken command) ∈ more) :
    k < c.count ∧ (c.session k).sessionOver = false := by
  obtain ⟨born,_,_,_,moved,member⟩ := moved.of_session told
  exact ⟨born,(moved.takes member).2.1⟩

theorem mem_takenOf {history : List Fact} (taken : command ∈ takenOf (factsOf k history)) :
    Fact.of k (.taken command) ∈ history := by
  obtain ⟨fact,member,named⟩ := List.mem_filterMap.mp taken
  obtain ⟨outer,inside,own⟩ := List.mem_filterMap.mp member
  cases outer with
  | of j inner =>
    by_cases same : j = k
    · simp only [same,if_true,Option.some.injEq] at own
      subst inner
      cases fact with
      | taken other =>
        cases named
        rwa [← same]
      | _ => cases named
    · simp [same] at own
  | accepted frame => cases own

/-- A session whose token is cancelled has no command taken from then on. -/
theorem over_takes_nothing (runs : Runs fromStr history c) (isOver : (c.session k).sessionOver = true)
    (later : Reaches (Step fromStr) c more c') : (c'.session k).sessionOver = true ∧ takenOf (factsOf k more) = [] := by
  induction later with
  | start => exact ⟨isOver,rfl⟩
  | @next earlier now c₁ c₂ before moved known =>
    obtain ⟨isOver,nothing⟩ := known
    refine ⟨moved.over_stays (runs_phased (runs.trans before)) isOver,?_⟩
    rw [factsOf_append,takenOf_append,nothing,List.nil_append,List.eq_nil_iff_forall_not_mem]
    intro command taken
    have live := (moved.taken_live (mem_takenOf taken)).2
    rw [isOver] at live
    cases live

theorem Step.returned_stays (moved : Step fromStr c more c') (returned : c.main = .returned expired) :
    c'.main = .returned expired := by
  cases moved with
  | session k born moved grants =>
    cases grants with
    | finish next live =>
      rw [returned] at live
      cases live.1
    | cancel next ended =>
      rw [returned] at ended
      cases ended.1
    | _ => exact returned
  | main moved =>
    cases moved with
    | connected between => rw [returned] at between; cases between
    | stopped between => rw [returned] at between; cases between
    | closeWritten closing => rw [returned] at closing; cases closing
    | drained draining first => rw [returned] at draining; cases draining
    | expired draining => rw [returned] at draining; cases draining
    | abandoned waiting =>
      rw [returned] at waiting
      obtain between | closing | draining := waiting
      · cases between
      · cases closing
      · cases draining
  | emitter moved => cases moved <;> exact returned

/-- Once `run` has returned, no worker takes a command. -/
theorem returned_takes_nothing (runs : Runs fromStr history c) (returned : c.main = .returned expired)
    (later : Reaches (Step fromStr) c more c') (k : Nat) :
    c'.main = .returned expired ∧ takenOf (factsOf k more) = [] := by
  induction later with
  | start => exact ⟨returned,rfl⟩
  | @next earlier now c₁ c₂ before moved known =>
    obtain ⟨returned,nothing⟩ := known
    refine ⟨moved.returned_stays returned,?_⟩
    rw [factsOf_append,takenOf_append,nothing,List.nil_append,List.eq_nil_iff_forall_not_mem]
    intro command taken
    obtain ⟨born,live⟩ := moved.taken_live (mem_takenOf taken)
    rw [(runs_phased (runs.trans before)).live k born,returned] at live
    cases live.2

/-- Without a token left to cancel no worker comes to its turn. -/
theorem SessionStep.holds_stays (moved : SessionStep fromStr σ action facts τ) (isOver : σ.sessionOver = true)
    (holds : τ.worker.holds = true) : σ.worker.holds = true := by
  have line := moved.line
  have clash {P : Prop} (waits : τ.worker.holds = false) : P := by
    rw [waits] at holds
    cases holds
  cases action with
  | join => exact clash line.2.2
  | leave => exact clash line.2.2
  | hold =>
    cases moved with
    | loop moved => cases moved
    | task moved => cases moved
    | worker moved =>
      cases moved with
      | turn waiting live =>
        rw [isOver] at live
        cases live
  | _ => exact line.2 ▸ holds

/-- Where `run` had the turn before it returned, no worker goes by it. -/
theorem drained_idle (runs : Runs fromStr history c) (returned : c.main = .returned false) :
    ∀ k, (c.session k).worker.holds = false := by
  induction runs with
  | start => cases returned
  | @next history more c c' before moved known =>
    have phased := runs_phased before
    have lined := runs_lined before
    intro k
    cases moved with
    | @session granted action facts extra σ j born moved grants =>
      have same : granted.main = c.main := by
        cases grants with
        | finish next live => cases returned
        | cancel next ended => cases next <;> cases returned
        | _ => rfl
      rw [set_main,same] at returned
      by_cases own : k = j
      · subst k
        rw [set_same]
        by_contra holds
        have isOver : (c.session j).sessionOver = true := by
          by_contra live
          rw [Bool.not_eq_true,phased.live j born,returned] at live
          cases live.2
        have held := moved.holds_stays isOver (eq_true_of_ne_false holds)
        rw [known returned j] at held
        cases held
      · rw [set_other _ _ own,grants.session]
        exact known returned k
    | main moved =>
      cases moved with
      | drained draining first =>
        by_contra holds
        have held := lined.holds k (eq_true_of_ne_false holds)
        rw [first] at held
        cases held
      | _ => cases returned
    | emitter moved => cases moved <;> exact known returned k

/-- From the cancellation of its token on a session has no command taken; every token is
cancelled before `run` goes on from a session, to the Close frame or elsewhere; and once
`run` has returned nothing is taken, and no handler runs unless the drain limit expired. -/
theorem nothing_starts_after_the_end (runs : Runs fromStr history c) :
    (∀ k more c', (c.session k).sessionOver = true → Reaches (Step fromStr) c more c' → takenOf (factsOf k more) = []) ∧
      (c.main.attends = false → ∀ k, k < c.count → (c.session k).sessionOver = true) ∧
      (∀ expired more c', c.main = .returned expired → Reaches (Step fromStr) c more c' →
        ∀ k, takenOf (factsOf k more) = []) ∧
      (c.main = .returned false → ∀ k, runningOf (factsOf k history) = []) := by
  refine ⟨fun k more c' isOver later => (over_takes_nothing runs isOver later).2,fun outside k born => ?_,
    fun expired more c' returned later k => (returned_takes_nothing runs returned later k).2,fun returned k => ?_⟩
  · by_contra live
    rw [Bool.not_eq_true,(runs_phased runs).live k born,outside] at live
    cases live.2
  · rw [(runs_tally runs k).running,List.eq_nil_iff_forall_not_mem]
    intro command handled
    have holds := (handled_holds handled).1
    rw [drained_idle runs returned k] at holds
    cases holds

/-- A shutdown comes before the worker of the session was polled: its command is dropped. -/
theorem Sample.closed : ∃ history c, Runs parse history c ∧ c.main = .returned false ∧
    factsOf 0 history = [.routed reboot .queued,.dropped reboot] := by
  have connected : Runs parse _ _ := Reaches.start.next (.main (.connected rfl))
  have read := connected.next (.session 0 Nat.one_pos (.reader (.text frame rfl frame_short)) .quiet)
  have granted := read.next (.session 0 Nat.one_pos (.reader (.granted frame rfl frame_cost)) .quiet)
  have handed := granted.next (.session 0 Nat.one_pos (.reader (.handed (.text frame) rfl (by decide))) .quiet)
  have queued := handed.next (.session 0 Nat.one_pos
    (.loop (.queued frame reboot rfl rfl (frame_routed rfl rfl rfl rfl))) .quiet)
  have stopped := queued.next (.session 0 Nat.one_pos (.stopped .close nofun) (.finish .close ⟨rfl,rfl⟩))
  have told := stopped.next (.session 0 Nat.one_pos .cancel (.cancel .close ⟨rfl,rfl⟩))
  have closing := told.next (.main (.closeWritten rfl))
  have dropped := closing.next (.session 0 Nat.one_pos (.worker (.neverAsked rfl rfl)) .quiet)
  have drained := dropped.next (.main (.drained rfl rfl))
  exact ⟨_,_,drained,rfl,rfl⟩

theorem closed_takes_nothing : ∃ history c, Runs Sample.parse history c ∧ c.main = .returned false ∧
    (∀ more c', Reaches (Step Sample.parse) c more c' → ∀ k, takenOf (factsOf k more) = []) ∧
    ∀ k, runningOf (factsOf k history) = [] := by
  obtain ⟨history,c,runs,returned,_⟩ := Sample.closed
  obtain ⟨_,_,nothing,idle⟩ := nothing_starts_after_the_end runs
  exact ⟨history,c,runs,returned,fun more c' later => nothing false more c' returned later,idle returned⟩

end GatewaySdk.Client
