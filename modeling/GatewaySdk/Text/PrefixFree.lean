import Mathlib.Data.List.Basic
import Mathlib.Data.Nat.Digits.Defs

/-! Codes none of whose words continues another, over any alphabet: a word can be cut
off the front of a text in one way only. -/
namespace GatewaySdk.Text

variable {α β γ : Type}

def PrefixFree (code : α → List β) : Prop :=
  ∀ a b x y, code a ++ x = code b ++ y → a = b ∧ x = y

namespace PrefixFree

theorem injective {code : α → List β} (free : PrefixFree code) : Function.Injective code := by
  intro a b same
  have whole : code a ++ [] = code b ++ [] := by rw [same]
  exact (free a b [] [] whole).1

theorem take_ne {code : α → List β} (free : PrefixFree code) {a b : α} {n : Nat}
    (short : n < (code b).length) : code a ≠ (code b).take n := by
  intro same
  have whole : code a ++ (code b).drop n = code b ++ [] := by
    rw [same,List.take_append_drop,List.append_nil]
  have rest := (free a b _ _ whole).2
  rw [List.drop_eq_nil_iff] at rest
  omega

/-- A one-to-one code without the terminator, terminated. -/
theorem terminated [DecidableEq β] {code : α → List β} (one : Function.Injective code) (stop : β)
    (clean : ∀ a, stop ∉ code a) : PrefixFree (fun a => code a ++ [stop]) := by
  intro a b x y same
  simp only [List.append_assoc,List.singleton_append] at same
  have front : ∀ u v : List β, stop ∉ u → stop ∉ v → u ++ stop::x = v ++ stop::y → u = v ∧ x = y := by
    intro u
    induction u with
    | nil =>
      intro v _ outside equal
      cases v with
      | nil => exact ⟨rfl,by simpa using equal⟩
      | cons c v =>
        simp only [List.nil_append,List.cons_append,List.cons.injEq] at equal
        exact absurd (equal.1 ▸ List.mem_cons_self) outside
    | cons c u ih =>
      intro v inside outside equal
      cases v with
      | nil =>
        simp only [List.nil_append,List.cons_append,List.cons.injEq] at equal
        exact absurd (equal.1 ▸ List.mem_cons_self) inside
      | cons d v =>
        simp only [List.cons_append,List.cons.injEq] at equal
        obtain ⟨same,rest⟩ := ih v (fun m => inside (List.mem_cons_of_mem _ m))
          (fun m => outside (List.mem_cons_of_mem _ m)) equal.2
        exact ⟨by rw [equal.1,same],rest⟩
  obtain ⟨same,rest⟩ := front _ _ (clean a) (clean b) same
  exact ⟨one same,rest⟩

theorem cut {code : α → List β} {stop : β} (free : PrefixFree (fun a => code a ++ [stop])) {a b : α}
    {x y : List β} (same : code a ++ stop::x = code b ++ stop::y) : a = b ∧ x = y :=
  free a b x y (by simpa only [List.append_assoc,List.singleton_append] using same)

/-- Words of a prefix-free code, one after another. -/
theorem flatMap_injective {code : α → List β} (free : PrefixFree code) (solid : ∀ a, code a ≠ []) :
    Function.Injective (fun l : List α => l.flatMap code) := by
  intro u
  induction u with
  | nil =>
    intro v same
    cases v with
    | nil => rfl
    | cons b v =>
      simp only [List.flatMap_nil,List.flatMap_cons] at same
      exact absurd (List.append_eq_nil_iff.mp same.symm).1 (solid b)
  | cons a u ih =>
    intro v same
    cases v with
    | nil =>
      simp only [List.flatMap_nil,List.flatMap_cons] at same
      exact absurd (List.append_eq_nil_iff.mp same).1 (solid a)
    | cons b v =>
      simp only [List.flatMap_cons] at same
      obtain ⟨rfl,rest⟩ := free a b _ _ same
      rw [ih rest]

/-- Of two texts written in solid words, the one that begins the other is written in the words
that begin the other's. -/
theorem flatMap_prefix {code : α → List β} (free : PrefixFree code) (solid : ∀ a, code a ≠ []) {u v : List α}
    (begins : u.flatMap code <+: v.flatMap code) : u <+: v := by
  induction u generalizing v with
  | nil => exact List.nil_prefix
  | cons a u ih =>
    obtain ⟨rest,same⟩ := begins
    cases v with
    | nil =>
      simp only [List.flatMap_cons,List.flatMap_nil,List.append_assoc] at same
      exact absurd (List.append_eq_nil_iff.mp same).1 (solid a)
    | cons b v =>
      simp only [List.flatMap_cons,List.append_assoc] at same
      obtain ⟨rfl,more⟩ := free a b _ _ same
      exact List.cons_prefix_cons.mpr ⟨rfl,ih ⟨rest,more⟩⟩

/-- Any number of words and a stop, where no word can be taken for the stop. -/
theorem closed {code : α → List β} (free : PrefixFree code) (stop : List β)
    (apart : ∀ a x y, code a ++ x ≠ stop ++ y) : PrefixFree (fun l : List α => l.flatMap code ++ stop) := by
  intro u
  induction u with
  | nil =>
    intro v x y same
    cases v with
    | nil => exact ⟨rfl,List.append_cancel_left same⟩
    | cons b v =>
      simp only [List.flatMap_nil,List.nil_append,List.flatMap_cons,List.append_assoc] at same
      exact absurd same.symm (apart b _ _)
  | cons a u ih =>
    intro v x y same
    cases v with
    | nil =>
      simp only [List.flatMap_nil,List.nil_append,List.flatMap_cons,List.append_assoc] at same
      exact absurd same (apart a _ _)
    | cons b v =>
      simp only [List.flatMap_cons,List.append_assoc] at same
      obtain ⟨rfl,rest⟩ := free a b _ _ same
      simp only [← List.append_assoc] at rest
      obtain ⟨rfl,tail⟩ := ih v x y rest
      exact ⟨rfl,tail⟩

/-- A code whose words can be read off the front of any text again. -/
theorem of_reader {code : α → List β} (read : List β → Option (α × List β))
    (reads : ∀ a x, read (code a ++ x) = some (a,x)) : PrefixFree code := by
  intro a b x y same
  have both : some (a,x) = some (b,y) := by rw [← reads a x,same,reads b y]
  rw [Option.some.injEq,Prod.mk.injEq] at both
  exact both

theorem comp {code : β → List γ} (free : PrefixFree code) (f : α → β) (one : Function.Injective f) :
    PrefixFree (fun a => code (f a)) := by
  intro a b x y same
  obtain ⟨equal,rest⟩ := free _ _ _ _ same
  exact ⟨one equal,rest⟩

/-- Words after a fixed text. -/
theorem lead {code : α → List β} (free : PrefixFree code) (text : List β) :
    PrefixFree (fun a => text ++ code a) := by
  intro a b x y same
  simp only [List.append_assoc] at same
  exact free a b x y (List.append_cancel_left same)

/-- Words before a fixed text. -/
theorem trail {code : α → List β} (free : PrefixFree code) (text : List β) :
    PrefixFree (fun a => code a ++ text) := by
  intro a b x y same
  simp only [List.append_assoc] at same
  obtain ⟨rfl,rest⟩ := free a b _ _ same
  exact ⟨rfl,List.append_cancel_left rest⟩

theorem pair {left : α → List γ} {right : β → List γ} (first : PrefixFree left) (second : PrefixFree right) :
    PrefixFree (fun p : α × β => left p.1 ++ right p.2) := by
  intro p q x y same
  simp only [List.append_assoc] at same
  obtain ⟨head,rest⟩ := first _ _ _ _ same
  obtain ⟨tail,rest⟩ := second _ _ _ _ rest
  exact ⟨Prod.ext head tail,rest⟩

/-- An optional part, told from its absence by the words that begin either. -/
theorem option {code : α → List β} (free : PrefixFree code) (absent present : List β)
    (apart : ∀ x y, absent ++ x ≠ present ++ y) :
    PrefixFree (fun o : Option α => o.elim absent (fun a => present ++ code a)) := by
  intro a b x y same
  cases a with
  | none =>
    cases b with
    | none => exact ⟨rfl,List.append_cancel_left same⟩
    | some b =>
      simp only [Option.elim_none,Option.elim_some,List.append_assoc] at same
      exact absurd same (apart _ _)
  | some a =>
    cases b with
    | none =>
      simp only [Option.elim_none,Option.elim_some,List.append_assoc] at same
      exact absurd same.symm (apart _ _)
    | some b =>
      simp only [Option.elim_some,List.append_assoc] at same
      obtain ⟨rfl,rest⟩ := free a b _ _ (List.append_cancel_left same)
      exact ⟨rfl,rest⟩

end PrefixFree

/-- The bytes of a character in UTF-8, of which the first tells how many there are. -/
theorem utf8EncodeChar_free : PrefixFree String.utf8EncodeChar := by
  intro a b x y same
  have decoded (c : Char) (z : List UInt8) :
      ByteArray.utf8DecodeChar? (String.utf8EncodeChar c ++ z).toByteArray 0 = some c := by
    rw [List.toByteArray_append]
    exact ByteArray.utf8DecodeChar?_utf8EncodeChar_append
  have one : some a = some b := by rw [← decoded a x,same,decoded b y]
  obtain rfl := Option.some.inj one
  exact ⟨rfl,List.append_cancel_left same⟩

theorem utf8EncodeChar_solid (c : Char) : String.utf8EncodeChar c ≠ [] := by
  intro empty
  have bytes := String.length_utf8EncodeChar c
  rw [empty,List.length_nil] at bytes
  exact absurd c.utf8Size_pos (by omega)

/-- Decimal digits, most significant first. -/
def digits (n : Nat) : List Nat := if n = 0 then [0] else (Nat.digits 10 n).reverse

theorem digits_injective : Function.Injective digits := by
  intro n m same
  have value (k : Nat) : Nat.ofDigits 10 (digits k).reverse = k := by
    unfold digits
    split
    next zero => simp [zero]
    next => rw [List.reverse_reverse,Nat.ofDigits_digits]
  rw [← value n,← value m,same]

theorem digits_lt {n d : Nat} (member : d ∈ digits n) : d < 10 := by
  unfold digits at member
  split at member
  · simp only [List.mem_singleton] at member
    omega
  · exact Nat.digits_lt_base (by omega) (List.mem_reverse.mp member)

end GatewaySdk.Text
