import Mathlib.Order.Basic
import Mathlib.Data.List.Basic
import Mathlib.Data.List.Sort

/-! Two counts: the element of a given rank is told by how many have a property that goes
down, and how many things that fall due a fixed time apart a window holds: of those that
are due in it, and of those that are seen in it, each at most that time late. -/
namespace GatewaySdk.Order

section rank

variable {α : Type} [LinearOrder α] {p : α → Bool} {sorted : List α} {n : Nat}

/-- In a sorted list the elements with a property that goes down come first. -/
theorem sorted_rank (down : ∀ a b, a ≤ b → p b = true → p a = true) (ordered : sorted.Pairwise (· ≤ ·))
    (inside : n < sorted.length) : p sorted[n] = true ↔ n < sorted.countP p := by
  induction sorted generalizing n with
  | nil => cases inside
  | cons first rest ih =>
    obtain ⟨least,ordered⟩ := List.pairwise_cons.mp ordered
    by_cases held : p first = true
    · rw [List.countP_cons_of_pos held]
      cases n with
      | zero => exact ⟨fun _ => Nat.succ_pos _,fun _ => held⟩
      | succ n =>
        rw [List.getElem_cons_succ,ih ordered (Nat.lt_of_succ_lt_succ inside)]
        exact Nat.succ_lt_succ_iff.symm
    · have nobody : ∀ a ∈ first::rest, ¬ p a = true := by
        intro a member has
        rcases List.mem_cons.mp member with same | later
        · exact held (same ▸ has)
        · exact held (down first a (least a later) has)
      rw [List.countP_eq_zero.mpr nobody]
      exact ⟨fun has => absurd has (nobody _ (List.getElem_mem inside)),fun few => absurd few (Nat.not_lt_zero n)⟩

/-- The same of the list that is sorted, which counts the same. -/
theorem mergeSort_rank (down : ∀ a b, a ≤ b → p b = true → p a = true) (l : List α)
    (inside : n < (l.mergeSort (· ≤ ·)).length) : p (l.mergeSort (· ≤ ·))[n] = true ↔ n < l.countP p := by
  have ordered : (l.mergeSort (· ≤ ·)).Pairwise (· ≤ ·) := l.pairwise_mergeSort' (· ≤ ·)
  rw [sorted_rank down ordered inside,(l.mergeSort_perm _).countP_eq]

end rank

section spaced

variable {α : Type} {due : α → Nat} {h width : Nat} {l : List α} {a : α}

/-- Each falls due at least `h` after the ones before it. -/
def Spaced (due : α → Nat) (h : Nat) (l : List α) : Prop := l.Pairwise fun a b => due a + h ≤ due b

theorem spaced_snoc (spaced : Spaced due h l) (latest : ∀ b ∈ l, due b + h ≤ due a) : Spaced due h (l ++ [a]) := by
  refine List.pairwise_append.mpr ⟨spaced,List.pairwise_singleton _ a,fun b before c last => ?_⟩
  rw [List.mem_singleton.mp last]
  exact latest b before

/-- Behind the first of them the window is shorter by `h`. -/
theorem spaced_length (first : Nat) (positive : 0 < h) (spaced : Spaced due h l)
    (inside : ∀ a ∈ l, first ≤ due a ∧ due a ≤ first + width) : l.length ≤ width/h + 1 := by
  induction l generalizing first width with
  | nil => exact Nat.zero_le _
  | cons a l ih =>
    obtain ⟨behind,spaced⟩ := List.pairwise_cons.mp spaced
    have here := inside a List.mem_cons_self
    rcases l with _ | ⟨b,l⟩
    · exact Nat.succ_le_succ (Nat.zero_le _)
    · have second := inside b (List.mem_cons_of_mem _ List.mem_cons_self)
      have apart := behind b List.mem_cons_self
      have long : h ≤ width := by omega
      have rest : (b::l).length ≤ (width-h)/h + 1 := by
        refine ih (first+h) spaced fun c later => ?_
        have bounded := inside c (List.mem_cons_of_mem _ later)
        have gap := behind c later
        omega
      rw [List.length_cons,Nat.div_eq_sub_div positive long]
      exact Nat.succ_le_succ rest

/-- One more where each is seen at most `h` late. -/
theorem seen_length (seen : α → Nat) (first : Nat) (positive : 0 < h) (spaced : Spaced due h l)
    (late : ∀ a ∈ l, due a ≤ seen a ∧ seen a ≤ due a + h)
    (inside : ∀ a ∈ l, first ≤ seen a ∧ seen a ≤ first + width) : l.length ≤ width/h + 2 := by
  have dues : l.length ≤ (width+h)/h + 1 := by
    refine spaced_length (first-h) positive spaced fun a member => ?_
    have lateness := late a member
    have bounded := inside a member
    omega
  rwa [Nat.add_div_right width positive] at dues

end spaced

end GatewaySdk.Order
