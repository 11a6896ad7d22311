import GatewaySdk.Effect.Trace

/-! How the runs of a program end that come to an end, and a machine of which only
some of the choices are taken. -/
namespace GatewaySdk.Effect

variable {S : Signature} {ε δ α β κ narrow σ : Type}

namespace Machine

/-- The same machine under the choices of this kind only. -/
def under (M : Machine S κ σ) (choose : narrow → κ) : Machine S narrow σ where
  exec operation choice := M.exec operation (choose choice)

theorem run_under (M : Machine S κ σ) (choose : narrow → κ) (choices : List narrow) (program : Program S ε α)
    (state : σ) : (M.under choose).run choices program state = M.run (choices.map choose) program state := by
  induction choices generalizing program state with
  | nil => rfl
  | cons choice choices ih =>
    cases program with
    | pure value => rfl
    | fail error => rfl
    | call operation next => exact ih _ _

end Machine

/-- Every run that comes to an end ends so. -/
def Ends (M : Machine S κ σ) (post : Except ε α → σ → Prop) : Program S ε α → σ → Prop
  | .pure value,state => post (.ok value) state
  | .fail error,state => post (.error error) state
  | .call operation next,state => ∀ choice, Ends M post (next (M.exec operation choice state).1)
      (M.exec operation choice state).2

namespace Ends
variable {M : Machine S κ σ} {post post' : Except ε α → σ → Prop} {state : σ}

@[simp] theorem pure (value : α) : Ends M post (.pure value) state ↔ post (.ok value) state := Iff.rfl

@[simp] theorem fail (error : ε) : Ends M post (.fail error) state ↔ post (.error error) state := Iff.rfl

@[simp] theorem call (operation : S.Call) (next : S.Reply operation → Program S ε α) :
    Ends M post (.call operation next) state ↔
      ∀ choice, Ends M post (next (M.exec operation choice state).1) (M.exec operation choice state).2 := Iff.rfl

theorem run {program : Program S ε α} (ends : Ends M post program state) (choices : List κ) {outcome : Except ε α}
    (done : (M.run choices program state).1.result = some outcome) : post outcome (M.run choices program state).2 := by
  induction choices generalizing program state with
  | nil =>
    rw [Machine.run_nil] at done ⊢
    cases program with
    | pure value => cases done; exact ends
    | fail error => cases done; exact ends
    | call operation next => cases done
  | cons choice choices ih =>
    cases program with
    | pure value => cases done; exact ends
    | fail error => cases done; exact ends
    | call operation next => exact ih (ends choice) done

theorem mono {program : Program S ε α} (ends : Ends M post program state)
    (weaker : ∀ outcome s, post outcome s → post' outcome s) : Ends M post' program state := by
  induction program generalizing state with
  | pure value => exact weaker _ _ ends
  | fail error => exact weaker _ _ ends
  | call operation next ih => exact fun choice => ih _ (ends choice)

@[simp] theorem bind {post : Except ε β → σ → Prop} {first : Program S ε α} {rest : α → Program S ε β} :
    Ends M post (first.bind rest) state ↔ Ends M (fun outcome s => match outcome with
      | .ok value => Ends M post (rest value) s
      | .error error => post (.error error) s) first state := by
  induction first generalizing state with
  | pure value => exact Iff.rfl
  | fail error => exact Iff.rfl
  | call operation next ih => exact forall_congr' fun choice => ih _

@[simp] theorem attempt {post : Except δ (Except ε α) → σ → Prop} {program : Program S ε α} :
    Ends M post program.attempt state ↔ Ends M (fun outcome s => post (.ok outcome) s) program state := by
  induction program generalizing state with
  | pure value => exact Iff.rfl
  | fail error => exact Iff.rfl
  | call operation next ih => exact forall_congr' fun choice => ih _

@[simp] theorem mapError {post : Except δ α → σ → Prop} {f : ε → δ} {program : Program S ε α} :
    Ends M post (program.mapError f) state ↔ Ends M (fun outcome s => post (outcome.mapError f) s) program state := by
  induction program generalizing state with
  | pure value => exact Iff.rfl
  | fail error => exact Iff.rfl
  | call operation next ih => exact forall_congr' fun choice => ih _

theorem after {post : Except ε β → σ → Prop} {first : Program S ε α} {rest : α → Program S ε β}
    {middle : α → σ → Prop}
    (ends : Ends M (fun outcome s => ∃ value, outcome = .ok value ∧ middle value s) first state)
    (more : ∀ value s, middle value s → Ends M post (rest value) s) : Ends M post (first.bind rest) state := by
  rw [bind]
  refine ends.mono ?_
  rintro outcome s ⟨value,rfl,held⟩
  exact more value s held

theorem next {post : Except ε β → σ → Prop} {first : Program S ε α} {rest : α → Program S ε β} {value : α}
    {middle : σ → Prop} (ends : Ends M (fun outcome s => outcome = .ok value ∧ middle s) first state)
    (more : ∀ s, middle s → Ends M post (rest value) s) : Ends M post (first.bind rest) state := by
  rw [bind]
  refine ends.mono ?_
  rintro outcome s ⟨rfl,held⟩
  exact more s held

end Ends

/-- What is true of every end is true of those under some choices only. -/
theorem Ends.under {M : Machine S κ σ} {post : Except ε α → σ → Prop} {program : Program S ε α} {state : σ}
    (ends : Ends M post program state) (choose : narrow → κ) : Ends (M.under choose) post program state := by
  induction program generalizing state with
  | pure value => exact ends
  | fail error => exact ends
  | call operation next ih => exact fun choice => ih _ (ends (choose choice))

/-- What holds where recorded runs end, with the record put aside. -/
theorem Holds.ends {M : Machine S κ σ} {during : σ × Trace S κ σ → Prop}
    {post : Except ε α → σ × Trace S κ σ → Prop} {program : Program S ε α} {state : σ} {log : Trace S κ σ}
    (holds : Holds M.record during post program (state,log)) :
    Ends M (fun outcome s => ∃ log, post outcome (s,log)) program state := by
  induction program generalizing state log with
  | pure value => exact ⟨log,holds.2⟩
  | fail error => exact ⟨log,holds.2⟩
  | call operation next ih => exact fun choice => ih _ (holds.2 choice)

/-- What a machine ends in is what it ends in with its calls written down. -/
theorem Ends.recorded {M : Machine S κ σ} {choose : narrow → κ} {post : Except ε α → σ → Prop} {program : Program S ε α}
    {state : σ} (ends : Ends (M.under choose) post program state) (log : Trace S κ σ) :
    Ends (M.record.under choose) (fun outcome m => post outcome m.1) program (state,log) := by
  induction program generalizing state log with
  | pure value => exact ends
  | fail error => exact ends
  | call operation next ih => exact fun choice => ih _ (ends choice) _

theorem Holds.always {M : Machine S κ σ} {during : σ → Prop} {post : Except ε α → σ → Prop} {program : Program S ε α}
    {state : σ} (holds : Holds M during post program state) : Ends M post program state := by
  induction program generalizing state with
  | pure value => exact holds.2
  | fail error => exact holds.2
  | call operation next ih => exact fun choice => ih _ (holds.2 choice)

theorem Ends.and {M : Machine S κ σ} {post post' : Except ε α → σ → Prop} {program : Program S ε α} {state : σ}
    (first : Ends M post program state) (second : Ends M post' program state) :
    Ends M (fun outcome s => post outcome s ∧ post' outcome s) program state := by
  induction program generalizing state with
  | pure value => exact ⟨first,second⟩
  | fail error => exact ⟨first,second⟩
  | call operation next ih => exact fun choice => ih _ (first choice) (second choice)

/-- However the world answers, a program comes to an end. -/
theorem Machine.run_ends (M : Machine S κ σ) (choices : Nat → κ) (program : Program S ε α) (state : σ) :
    ∃ n, (M.run ((List.range n).map choices) program state).1.result.isSome = true := by
  induction program generalizing choices state with
  | pure value => exact ⟨0,rfl⟩
  | fail error => exact ⟨0,rfl⟩
  | call operation next ih =>
    obtain ⟨n,ended⟩ := ih (M.exec operation (choices 0) state).1 (fun i => choices (i+1)) (M.exec operation (choices 0) state).2
    refine ⟨n+1,?_⟩
    rw [List.range_succ_eq_map,List.map_cons,List.map_map]
    exact ended

end GatewaySdk.Effect
