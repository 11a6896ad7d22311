import Mathlib.Order.Defs.LinearOrder
import Mathlib.Data.Option.Basic

/-! Waits on a clock: what comes and how long after it was begun, the deadline that ends a wait
for it, and the token that may end any wait. A wait is looked at before its deadline is, so
what comes at the deadline itself is still taken. -/
namespace GatewaySdk.Effect

/-- What is waited for and how long it takes; none where it never comes. -/
abbrev Coming (α : Type) := Option (Nat × α)

/-- When a wait under a deadline is over, and what it then has. -/
def timeoutAt {α : Type} (deadline now : Nat) (wait : Coming α) : Nat × Option α :=
  match wait with
  | some (takes,value) =>
    if now+takes ≤ max now deadline then (now+takes,some value) else (max now deadline,none)
  | none => (max now deadline,none)

def timeout {α : Type} (limit now : Nat) (wait : Coming α) : Nat × Option α := timeoutAt (now+limit) now wait

/-- The select of a wait that is over at some instant with a token that may be cancelled. The
pick decides where both are ready. -/
def raceCancelled {α : Type} (cancelled : Option Nat) (pick : Bool) (now : Nat) (wait : Nat × α) : Nat × Option α :=
  match cancelled with
  | none => (wait.1,some wait.2)
  | some instant =>
    if wait.1 < max now instant ∨ wait.1 = max now instant ∧ pick = true then (wait.1,some wait.2)
    else (max now instant,none)

section Timeouts
variable {α : Type} {deadline now limit : Nat} {wait : Coming α} {value : α}

theorem timeoutAt_le (later : now ≤ deadline) (wait : Coming α) :
    now ≤ (timeoutAt deadline now wait).1 ∧ (timeoutAt deadline now wait).1 ≤ deadline := by
  unfold timeoutAt
  split
  · split <;> dsimp only <;> omega
  · dsimp only
    omega

theorem timeout_le (limit now : Nat) (wait : Coming α) :
    now ≤ (timeout limit now wait).1 ∧ (timeout limit now wait).1 ≤ now+limit :=
  timeoutAt_le (Nat.le_add_right now limit) wait

theorem timeoutAt_none (later : now ≤ deadline) : (timeoutAt deadline now wait).2 = none ↔
    (timeoutAt deadline now wait).1 = deadline ∧ ∀ takes value, wait = some (takes,value) → deadline < now+takes := by
  unfold timeoutAt
  rw [Nat.max_eq_right later]
  cases wait with
  | none => simp
  | some came =>
    obtain ⟨takes,value⟩ := came
    dsimp only
    split
    next soon => simpa using fun _ => soon
    next late => simpa using late

theorem timeoutAt_some (later : now ≤ deadline) : (timeoutAt deadline now wait).2 = some value ↔
    ∃ takes, wait = some (takes,value) ∧ now+takes ≤ deadline ∧ (timeoutAt deadline now wait).1 = now+takes := by
  unfold timeoutAt
  rw [Nat.max_eq_right later]
  cases wait with
  | none => simp
  | some came =>
    obtain ⟨takes,value'⟩ := came
    dsimp only
    split
    next soon =>
      constructor
      · rintro ⟨⟩
        exact ⟨takes,rfl,soon,rfl⟩
      · rintro ⟨_,⟨⟩,_⟩
        rfl
    next late =>
      constructor
      · rintro ⟨⟩
      · rintro ⟨_,⟨⟩,soon,_⟩
        exact absurd soon late

theorem timeoutAt_came {takes : Nat} (soon : now+takes ≤ deadline) (value : α) :
    timeoutAt deadline now (some (takes,value)) = (now+takes,some value) := by
  have later : now ≤ deadline := Nat.le_of_add_right_le soon
  simp [timeoutAt,Nat.max_eq_right later,soon]

end Timeouts

section Races
variable {α : Type} {cancelled : Option Nat} {pick : Bool} {now : Nat} {wait : Nat × α}

theorem raceCancelled_now (later : now ≤ wait.1) : now ≤ (raceCancelled cancelled pick now wait).1 := by
  unfold raceCancelled
  split
  · exact later
  · split <;> dsimp only <;> omega

theorem raceCancelled_le : (raceCancelled cancelled pick now wait).1 ≤ wait.1 := by
  unfold raceCancelled
  split
  · exact Nat.le_refl _
  next instant =>
    split
    · exact Nat.le_refl _
    next other =>
      rw [not_or] at other
      exact Nat.le_of_not_lt other.1

theorem raceCancelled_le_cancelled (instant : Nat) :
    (raceCancelled (some instant) pick now wait).1 ≤ max now instant := by
  unfold raceCancelled
  dsimp only
  split
  next first =>
    rcases first with before | ⟨same,_⟩
    · exact Nat.le_of_lt before
    · exact Nat.le_of_eq same
  · exact Nat.le_refl _

theorem raceCancelled_some {value : α} (came : (raceCancelled cancelled pick now wait).2 = some value) :
    value = wait.2 ∧ (raceCancelled cancelled pick now wait).1 = wait.1 := by
  unfold raceCancelled at came ⊢
  split at came
  · exact ⟨(Option.some.inj came).symm,rfl⟩
  · split at came
    next first =>
      rw [if_pos first]
      exact ⟨(Option.some.inj came).symm,rfl⟩
    · cases came

end Races
end GatewaySdk.Effect
