import Mathlib.Logic.Relation

/-! Runs of a system whose steps leave facts behind, and what every run keeps. -/
namespace GatewaySdk.Effect

variable {σ φ : Type} {step narrow : σ → List φ → σ → Prop} {start s s' : σ} {facts more : List φ}

/-- A state the system can reach, with the facts left on the way, oldest first. -/
inductive Reaches (step : σ → List φ → σ → Prop) (start : σ) : List φ → σ → Prop
  | start : Reaches step start [] start
  | next {facts more : List φ} {s s' : σ} (before : Reaches step start facts s) (moved : step s more s') :
    Reaches step start (facts ++ more) s'

namespace Reaches

/-- What holds at the start and is preserved by every step holds wherever a run gets to. -/
theorem keeps {inv : List φ → σ → Prop} (reaches : Reaches step start facts s) (begins : inv [] start)
    (preserved : ∀ facts s more s', inv facts s → step s more s' → inv (facts ++ more) s') : inv facts s := by
  induction reaches with
  | start => exact begins
  | next before moved ih => exact preserved _ _ _ _ ih moved

theorem mono (reaches : Reaches narrow start facts s)
    (within : ∀ s more s', narrow s more s' → step s more s') : Reaches step start facts s := by
  induction reaches with
  | start => exact .start
  | next before moved ih => exact ih.next (within _ _ _ moved)

theorem trans {middle : σ} (first : Reaches step start facts middle) (rest : Reaches step middle more s) :
    Reaches step start (facts ++ more) s := by
  induction rest with
  | start =>
    rw [List.append_nil]
    exact first
  | next before moved ih =>
    rw [← List.append_assoc]
    exact ih.next moved

end Reaches

/-- A relation along which a rank falls has no cycle. -/
theorem no_cycle {α : Type} {waits : α → α → Prop} (rank : α → Nat) (falls : ∀ p q, waits p q → rank q < rank p) (p : α) :
    ¬ Relation.TransGen waits p p := by
  have along {p q : α} (path : Relation.TransGen waits p q) : rank q < rank p := by
    induction path with
    | single waits => exact falls _ _ waits
    | tail before waits ih => exact Nat.lt_trans (falls _ _ waits) ih
  exact fun cycle => Nat.lt_irrefl _ (along cycle)

end GatewaySdk.Effect
