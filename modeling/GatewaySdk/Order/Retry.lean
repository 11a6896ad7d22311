import Mathlib.Tactic.Common

/-! Bounded retries of anything that is numbered: how many attempts are made, and that it is
the one number that the policy leaves. -/
namespace GatewaySdk.Order

/-- The attempts made of those that are left, from the one numbered `start`: one more after each
that is to be repeated. -/
def made (again : Nat → Bool) : (left start : Nat) → Nat
  | 0,_ => 0
  | left + 1,start => if again start = true then made again left (start + 1) + 1 else 1

variable {again other : Nat → Bool} {left start : Nat}

theorem made_le : made again left start ≤ left := by
  induction left generalizing start with
  | zero => exact Nat.le_refl 0
  | succ left ih =>
    unfold made
    split_ifs
    · exact Nat.succ_le_succ ih
    · omega

theorem made_pos (some_ : 0 < left) : 0 < made again left start := by
  obtain ⟨left,rfl⟩ := Nat.exists_eq_succ_of_ne_zero (Nat.ne_of_gt some_)
  unfold made
  split_ifs <;> omega

/-- Attempts that are to be repeated, taken apart at the first and at the last. -/
theorem front_cons {k : Nat} : (∀ j < k + 1, again (start + j) = true) ↔
    again start = true ∧ ∀ j < k, again (start + 1 + j) = true := by
  constructor
  · intro all
    refine ⟨all 0 (Nat.succ_pos k),fun j below => ?_⟩
    rw [Nat.add_assoc,Nat.add_comm 1 j]
    exact all (j + 1) (Nat.succ_lt_succ below)
  · rintro ⟨first,rest⟩ j below
    cases j with
    | zero => exact first
    | succ j =>
      have later := rest j (Nat.lt_of_succ_lt_succ below)
      rwa [Nat.add_assoc,Nat.add_comm 1 j] at later

theorem front_concat {k : Nat} : (∀ j < k + 1, again (start + j) = true) ↔
    (∀ j < k, again (start + j) = true) ∧ again (start + k) = true := by
  constructor
  · exact fun all => ⟨fun j below => all j (Nat.lt_succ_of_lt below),all k (Nat.lt_succ_self k)⟩
  · rintro ⟨front,last⟩ j below
    rcases Nat.lt_succ_iff_lt_or_eq.mp below with earlier | rfl
    · exact front j earlier
    · exact last

theorem reached_cons {found : Nat → Prop} :
    (∃ k < left + 1, (∀ j < k, again (start + j) = true) ∧ found (start + k)) ↔
      found start ∨ again start = true ∧ ∃ k < left, (∀ j < k, again (start + 1 + j) = true) ∧ found (start + 1 + k) := by
  have numbered (k : Nat) : start + 1 + k = start + (k + 1) := by omega
  constructor
  · rintro ⟨k,within,front,now⟩
    cases k with
    | zero => exact .inl now
    | succ k =>
      obtain ⟨first,rest⟩ := front_cons.mp front
      exact .inr ⟨first,k,Nat.lt_of_succ_lt_succ within,rest,by rwa [numbered]⟩
  · rintro (now | ⟨first,k,within,rest,now⟩)
    · exact ⟨0,Nat.succ_pos left,fun j impossible => absurd impossible (Nat.not_lt_zero j),now⟩
    · rw [numbered] at now
      exact ⟨k + 1,Nat.succ_lt_succ within,front_cons.mpr ⟨first,rest⟩,now⟩

/-- An attempt is made exactly where it is left and all before it are to be repeated. -/
theorem lt_made_iff {k : Nat} : k < made again left start ↔ k < left ∧ ∀ j < k, again (start + j) = true := by
  induction left generalizing start k with
  | zero => simp [made]
  | succ left ih =>
    unfold made
    cases k with
    | zero =>
      refine iff_of_true ?_ ⟨by omega,fun j impossible => by omega⟩
      split_ifs <;> omega
    | succ k =>
      rw [front_cons]
      split_ifs with first
      · rw [Nat.add_lt_add_iff_right,Nat.add_lt_add_iff_right,ih]
        exact and_congr_right fun _ => (and_iff_right first).symm
      · exact iff_of_false (by omega) fun both => first both.2.1

/-- The number of attempts is the one that goes on after each to be repeated, while some are left,
and after no other. -/
theorem made_unique {n : Nat} : (0 < n ∧ n ≤ left ∧ (∀ k, k + 1 < n → again (start + k) = true) ∧
    ∀ k, k + 1 = n → n < left → again (start + k) = false) ↔ 0 < left ∧ n = made again left start := by
  constructor
  · rintro ⟨some_,most,goes,stops⟩
    refine ⟨by omega,Nat.le_antisymm ?_ ?_⟩
    · obtain ⟨k,rfl⟩ := Nat.exists_eq_succ_of_ne_zero (Nat.ne_of_gt some_)
      exact lt_made_iff.mpr ⟨most,fun j below => goes j (by omega)⟩
    · by_contra more
      obtain ⟨within,front⟩ := lt_made_iff.mp (Nat.lt_of_not_le more)
      obtain ⟨k,rfl⟩ := Nat.exists_eq_succ_of_ne_zero (Nat.ne_of_gt some_)
      have repeated := front k (by omega)
      rw [stops k rfl within] at repeated
      cases repeated
  · rintro ⟨some_,rfl⟩
    refine ⟨made_pos some_,made_le,fun k before => ?_,fun k last short => ?_⟩
    · exact (lt_made_iff.mp before).2 k (by omega)
    · by_contra repeated
      rw [Bool.not_eq_false] at repeated
      have front := (lt_made_iff.mp (show k < made again left start by omega)).2
      have further : k + 1 < made again left start := lt_made_iff.mpr ⟨by omega,front_concat.mpr ⟨front,repeated⟩⟩
      omega

/-- Two policies make the same attempts exactly where they agree on each that both come to and
that is not the last. -/
theorem made_eq_iff : made again left start = made other left start ↔
    ∀ k, k + 1 < left → (∀ j < k, again (start + j) = true) → (∀ j < k, other (start + j) = true) →
      again (start + k) = other (start + k) := by
  have next {f : Nat → Bool} {k : Nat} (within : k + 1 < left) (front : ∀ j < k, f (start + j) = true) :
      k + 1 < made f left start ↔ f (start + k) = true := by
    rw [lt_made_iff,front_concat]
    exact ⟨fun reached => reached.2.2,fun repeated => ⟨within,front,repeated⟩⟩
  constructor
  · intro same k within front front'
    rw [Bool.eq_iff_iff,← next within front,← next within front',same]
  · intro agree
    have both : ∀ k, k < left → ((∀ j < k, again (start + j) = true) ↔ ∀ j < k, other (start + j) = true) := by
      intro k
      induction k with
      | zero => exact fun _ => ⟨fun _ j impossible => by omega,fun _ j impossible => by omega⟩
      | succ k ih =>
        intro within
        rw [front_concat,front_concat,ih (by omega)]
        refine and_congr_right fun front => ?_
        rw [agree k within ((ih (by omega)).mpr front) front]
    apply Nat.le_antisymm
    · by_contra short
      have reached := lt_made_iff.mp (Nat.lt_of_not_le short)
      exact Nat.lt_irrefl _ (lt_made_iff.mpr ⟨reached.1,(both _ reached.1).mp reached.2⟩)
    · by_contra short
      have reached := lt_made_iff.mp (Nat.lt_of_not_le short)
      exact Nat.lt_irrefl _ (lt_made_iff.mpr ⟨reached.1,(both _ reached.1).mpr reached.2⟩)

end GatewaySdk.Order
