import Mathlib.Data.List.Basic

/-! Parties of which one at a time has the baton: what that one has in hand is all there is
in hand, and goes from entry to entry of the books. -/
namespace GatewaySdk.Effect

variable {κ ω α : Type} {holds : ω → Bool} {pick : κ → ω → List α} {party party' : κ → ω} {k : κ} {due put taken : List α}

def Lone (holds : ω → Bool) (party : κ → ω) : Prop :=
  ∀ j k, holds (party j) = true → holds (party k) = true → j = k

/-- What the party with the baton has in hand, and nothing where none has it. -/
structure InHand (holds : ω → Bool) (pick : κ → ω → List α) (party : κ → ω) (due : List α) : Prop where
  holder : ∀ k, holds (party k) = true → due = pick k (party k)
  nobody : (∀ k, holds (party k) = false) → due = []

namespace InHand

theorem within {limit : Nat} (inHand : InHand holds pick party due) (short : ∀ k w, (pick k w).length ≤ limit) :
    due.length ≤ limit := by
  by_cases free : ∀ k, holds (party k) = false
  · rw [inHand.nobody free]
    exact Nat.zero_le limit
  · push Not at free
    obtain ⟨k,held⟩ := free
    rw [inHand.holder k (eq_true_of_ne_false held)]
    exact short k _

/-- The books stay balanced over a step of one party that is balanced for it alone. -/
theorem moves (inHand : InHand holds pick party due) (lone : Lone holds party) (lone' : Lone holds party')
    (others : ∀ j, j ≠ k → party' j = party j) (empty : ∀ k w, holds w = false → pick k w = [])
    (idle : holds (party k) = false → holds (party' k) = false → put = [])
    (balance : pick k (party k) ++ put = taken ++ pick k (party' k)) :
    ∃ due', InHand holds pick party' due' ∧ due ++ put = taken ++ due' := by
  -- what the mover has in hand afterwards, where it is the one that holds before or after
  have mover (lonely : ∀ j, j ≠ k → holds (party j) = false) : InHand holds pick party' (pick k (party' k)) := by
    refine ⟨fun j held => ?_,fun free => empty k _ (free k)⟩
    by_cases same : j = k
    · rw [same]
    · rw [others j same,lonely j same] at held
      cases held
  cases before : holds (party k) with
  | true =>
    have lonely (j : κ) (other : j ≠ k) : holds (party j) = false :=
      eq_false_of_ne_true fun held => other (lone j k held before)
    refine ⟨_,mover lonely,?_⟩
    rw [inHand.holder k before,balance]
  | false =>
    cases after : holds (party' k) with
    | true =>
      have lonely (j : κ) (other : j ≠ k) : holds (party j) = false := by
        apply eq_false_of_ne_true
        rw [← others j other]
        exact fun held => other (lone' j k held after)
      have free (j : κ) : holds (party j) = false := by
        by_cases same : j = k
        · rw [same,before]
        · exact lonely j same
      refine ⟨_,mover lonely,?_⟩
      rw [inHand.nobody free,← balance,empty k _ before]
    | false =>
      have nothing := idle before after
      rw [nothing,empty k _ before,empty k _ after] at balance
      obtain rfl : taken = [] := by simpa using balance.symm
      refine ⟨due,⟨fun j held => ?_,fun free => inHand.nobody fun j => ?_⟩,by rw [nothing]; simp⟩
      · have other : j ≠ k := by
          rintro rfl
          rw [after] at held
          cases held
        rw [others j other] at held ⊢
        exact inHand.holder j held
      · by_cases same : j = k
        · rw [same,before]
        · rw [← others j same]
          exact free j

theorem stays (inHand : InHand holds pick party due) (same : party' = party) : InHand holds pick party' due := by
  rwa [same]

end InHand

end GatewaySdk.Effect
