import Mathlib.Data.List.Perm.Basic
import Mathlib.Tactic.Common

/-! Two lists that went into one: an element of each in turn, with what is left of the longer
one behind, or in any way that keeps the order of each. -/
namespace GatewaySdk.Order

variable {α β : Type}

def weave : List α → List α → List α
  | [],bs => bs
  | a::as,[] => a::as
  | a::as,b::bs => a::b::weave as bs

@[simp] theorem weave_nil_left (bs : List α) : weave [] bs = bs := by cases bs <;> rfl

@[simp] theorem weave_nil_right (as : List α) : weave as [] = as := by cases as <;> rfl

@[simp] theorem weave_cons (a b : α) (as bs : List α) : weave (a::as) (b::bs) = a::b::weave as bs := rfl

theorem weave_perm (as bs : List α) : (weave as bs).Perm (as ++ bs) := by
  induction as generalizing bs with
  | nil => simp
  | cons a as ih =>
    cases bs with
    | nil => simp
    | cons b bs =>
      rw [weave_cons,List.cons_append]
      exact (((ih bs).cons b).trans List.perm_middle.symm).cons a

/-- The two lists are told apart again by what holds of the first alone. -/
theorem weave_filter {p : α → Bool} {as bs : List α} (lead : ∀ a ∈ as, p a = true) (other : ∀ b ∈ bs, p b = false) :
    (weave as bs).filter p = as ∧ (weave as bs).filter (fun c => !p c) = bs := by
  induction as generalizing bs with
  | nil =>
    rw [weave_nil_left,List.filter_eq_nil_iff,List.filter_eq_self]
    exact ⟨fun b member => by simp [other b member],fun b member => by simp [other b member]⟩
  | cons a as ih =>
    have first := lead a List.mem_cons_self
    cases bs with
    | nil =>
      rw [weave_nil_right,List.filter_eq_nil_iff,List.filter_eq_self]
      exact ⟨lead,fun c member => by simp [lead c member]⟩
    | cons b bs =>
      have second := other b List.mem_cons_self
      have rest := @ih bs (fun c member => lead c (List.mem_cons_of_mem a member))
        (fun c member => other c (List.mem_cons_of_mem b member))
      rw [weave_cons]
      constructor
      · rw [List.filter_cons_of_pos first,List.filter_cons_of_neg (by simp [second]),rest.1]
      · rw [List.filter_cons_of_neg (by simp [first]),List.filter_cons_of_pos (by simp [second]),rest.2]

/-- Two kinds in strict turn until one of them is used up: behind neighbours of one kind there
is none of the other. -/
def Alternating (kind : α → Bool) (l : List α) : Prop :=
  ∀ front a b rest, l = front ++ a::b::rest → kind a = kind b → ∀ c ∈ rest, kind c = kind b

namespace Alternating
variable {kind : α → Bool} {a b : α} {l : List α}

theorem of_same (same : ∀ a ∈ l, ∀ b ∈ l, kind a = kind b) : Alternating kind l := by
  rintro front a b rest rfl _ c member
  exact same c (by simp [member]) b (by simp)

theorem cons (turn : ∀ b rest, l = b::rest → kind a = kind b → ∀ c ∈ rest, kind c = kind b)
    (alternating : Alternating kind l) : Alternating kind (a::l) := by
  intro front x y rest shape
  cases front with
  | nil =>
    obtain ⟨rfl,rfl⟩ := List.cons.inj shape
    exact turn y rest rfl
  | cons first front => exact alternating front x y rest (List.cons.inj shape).2

end Alternating

theorem weave_alternating {kind : α → Bool} {k : Bool} {as bs : List α} (lead : ∀ a ∈ as, kind a = k)
    (other : ∀ b ∈ bs, kind b = !k) : Alternating kind (weave as bs) := by
  induction as generalizing bs with
  | nil =>
    rw [weave_nil_left]
    exact .of_same fun a one b two => by rw [other a one,other b two]
  | cons a as ih =>
    have first := lead a List.mem_cons_self
    have later : ∀ c ∈ as, kind c = k := fun c member => lead c (List.mem_cons_of_mem a member)
    cases bs with
    | nil =>
      rw [weave_nil_right]
      exact .of_same fun a one b two => by rw [lead a one,lead b two]
    | cons b bs =>
      have second := other b List.mem_cons_self
      have others : ∀ c ∈ bs, kind c = !k := fun c member => other c (List.mem_cons_of_mem b member)
      rw [weave_cons]
      refine .cons (fun c rest shape same => ?_) (.cons (fun c rest shape same => ?_) (ih later others))
      · obtain ⟨rfl,_⟩ := List.cons.inj shape
        rw [first,second] at same
        simp at same
      · cases as with
        | nil =>
          -- The lead is used up: what is left is of the other kind alone.
          rw [weave_nil_left] at shape
          subst shape
          intro d member
          rw [others d (List.mem_cons_of_mem c member),others c List.mem_cons_self]
        | cons a' as =>
          have begins : c = a' := by
            cases bs <;> exact (List.cons.inj shape).1.symm
          rw [begins,second,later a' List.mem_cons_self] at same
          simp at same

theorem other_kind {x y z : Bool} (apart : y ≠ z) : (x == y) = !(x == z) := by
  revert apart
  cases x <;> cases y <;> cases z <;> decide

/-- A list put in turn by kind, from its first element on. -/
structure Interleaved (kind : α → Bool) (l ordered : List α) : Prop where
  perm : ordered.Perm l
  first : ordered.head? = l.head?
  order : ∀ k, ordered.filter (fun a => kind a == k) = l.filter (fun a => kind a == k)
  alternating : Alternating kind ordered

namespace Interleaved
variable {kind : α → Bool} {l ordered : List α} {a b : α}

theorem second (turns : Interleaved kind l ordered) (first : l.head? = some a)
    (other : l.find? (fun c => kind c != kind a) = some b) : ∃ rest, ordered = a::b::rest := by
  have apart : kind b ≠ kind a := by simpa using List.find?_some other
  obtain ⟨rest,rfl⟩ := List.head?_eq_some_iff.mp (turns.first.trans first)
  have inside : b ∈ rest := by
    have member := turns.perm.mem_iff.mpr (List.mem_of_find?_eq_some other)
    rcases List.mem_cons.mp member with rfl | later
    · exact absurd rfl apart
    · exact later
  cases rest with
  | nil => cases inside
  | cons c rest =>
    have turn : kind c ≠ kind a := by
      intro same
      rcases List.mem_cons.mp inside with rfl | later
      · exact apart same
      · exact apart ((turns.alternating [] a c rest rfl same.symm b later).trans same)
    have flip : ∀ d, (kind d == kind b) = (kind d != kind a) := fun d => other_kind apart
    have heads := congrArg List.head? (turns.order (kind b))
    rw [List.filter_cons_of_neg (by simpa using apart.symm),
      List.filter_cons_of_pos (by rw [flip]; simpa using turn),List.head?_cons,List.head?_filter] at heads
    simp only [flip,other,Option.some.injEq] at heads
    exact ⟨rest,by rw [heads]⟩

end Interleaved

/-- Its two parts by the kind of the first element, taken in turn. -/
theorem weave_interleaved (kind : α → Bool) (a : α) (l : List α) :
    Interleaved kind (a::l)
      (weave ((a::l).filter fun c => kind c == kind a) ((a::l).filter fun c => !(kind c == kind a))) := by
  have lead : ∀ c ∈ (a::l).filter (fun c => kind c == kind a), (kind c == kind a) = true :=
    fun c member => (List.mem_filter.mp member).2
  have other : ∀ c ∈ (a::l).filter (fun c => !(kind c == kind a)), (kind c == kind a) = false :=
    fun c member => by simpa using (List.mem_filter.mp member).2
  constructor
  · exact (weave_perm _ _).trans (List.filter_append_perm _ _)
  · rw [List.filter_cons_of_pos (by simp)]
    cases (a::l).filter (fun c => !(kind c == kind a)) <;> rfl
  · intro k
    by_cases own : k = kind a
    · rw [own]
      exact (weave_filter lead other).1
    · have flip : (fun c => kind c == k) = fun c => !(kind c == kind a) := by
        funext c
        exact other_kind own
      rw [flip]
      exact (weave_filter lead other).2
  · refine @weave_alternating _ kind (kind a) _ _ (fun c member => by simpa using lead c member) fun c member => ?_
    have apart : kind c ≠ kind a := by simpa using other c member
    exact Bool.eq_not.mpr apart

variable {as bs cs : List α} {p : α → Bool}

/-- A list into which two others went, each in its own order. -/
inductive Merged : List α → List α → List α → Prop
  | nil : Merged [] [] []
  | left {as bs cs : List α} (a : α) (merged : Merged as bs cs) : Merged (as ++ [a]) bs (cs ++ [a])
  | right {as bs cs : List α} (b : α) (merged : Merged as bs cs) : Merged as (bs ++ [b]) (cs ++ [b])

theorem Merged.filter (merged : Merged as bs cs) (other : ∀ b ∈ bs, p b = false) : cs.filter p = as.filter p := by
  induction merged with
  | nil => rfl
  | left a _ ih => rw [List.filter_append,List.filter_append,ih other]
  | right b _ ih =>
    rw [List.filter_append,ih fun b member => other b (List.mem_append_left _ member),
      List.filter_singleton,other b (List.mem_append_right _ List.mem_cons_self)]
    exact List.append_nil _

/-- An element of what several came to, with what follows it: it is of one of them, and what follows is of the rest
of that one or of the later ones. -/
theorem sublist_flatMap {f : α → List β} {b : β} {l : List β} (inside : (b::l).Sublist (as.flatMap f)) :
    ∃ earlier a later before after, as = earlier ++ a::later ∧ f a = before ++ b::after ∧
      l.Sublist (after ++ later.flatMap f) := by
  induction as with
  | nil => cases inside
  | cons a as ih =>
    rw [List.flatMap_cons,List.sublist_append_iff] at inside
    obtain ⟨here,there,split,own,others⟩ := inside
    cases here with
    | nil =>
      rw [List.nil_append] at split
      obtain ⟨earlier,found,later,before,after,rfl,same,behind⟩ := ih (split ▸ others)
      exact ⟨a::earlier,found,later,before,after,rfl,same,behind⟩
    | cons first here =>
      obtain ⟨rfl,rfl⟩ := List.cons_eq_cons.mp split
      obtain ⟨upto,behind,same,member,own⟩ := List.cons_sublist_iff.mp own
      obtain ⟨before,between,rfl⟩ := List.append_of_mem member
      refine ⟨[],a,as,before,between ++ behind,rfl,?_,?_⟩
      · rw [same,List.append_assoc,List.cons_append]
      · exact (own.trans (List.sublist_append_right _ _)).append others

end GatewaySdk.Order
