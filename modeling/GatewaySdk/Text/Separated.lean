import Mathlib.Data.List.Infix

/-! A word in a text put together from parts: where what stands between them has no letter of
the word, it lies in one of the parts. -/
namespace GatewaySdk.Text

variable {α : Type} {word a b : List α} {c : α}

/-- A word that does not have a letter does not reach past it. -/
theorem prefix_separated (outside : c ∉ word) : word <+: a ++ c::b ↔ word <+: a := by
  refine ⟨fun front => ?_,fun front => front.trans (List.prefix_append a (c::b))⟩
  obtain ⟨rest,same⟩ := front
  rcases List.append_eq_append_iff.mp same with ⟨more,left,_⟩ | ⟨more,reach,tail⟩
  · exact ⟨more,left.symm⟩
  · cases more with
    | nil => exact ⟨[],by rw [reach,List.append_nil,List.append_nil]⟩
    | cons first more =>
      obtain ⟨rfl,_⟩ := List.cons.inj tail
      exact absurd (reach ▸ List.mem_append_right a List.mem_cons_self) outside

theorem infix_of_left (inside : word <:+: a) : word <:+: a ++ b := inside.trans (List.infix_append' [] a b)

theorem infix_of_right (inside : word <:+: b) : word <:+: a ++ b := inside.trans (List.suffix_append a b).isInfix

/-- A letter that the word does not have keeps the two sides apart. -/
theorem infix_separated (outside : c ∉ word) : word <:+: a ++ c::b ↔ word <:+: a ∨ word <:+: b := by
  constructor
  · intro inside
    obtain ⟨before,after,same⟩ := inside
    rcases List.append_eq_append_iff.mp same with ⟨rest,left,_⟩ | ⟨rest,reach,tail⟩
    · exact .inl ⟨before,rest,left.symm⟩
    · cases rest with
      | nil => exact .inl ⟨before,[],by rw [reach,List.append_nil,List.append_nil]⟩
      | cons first rest =>
        obtain ⟨rfl,right⟩ := List.cons.inj tail
        rcases List.append_eq_append_iff.mp reach with ⟨more,_,held⟩ | ⟨more,_,held⟩
        · exact absurd (held ▸ List.mem_append_right _ List.mem_cons_self) outside
        · cases more with
          | nil =>
            rw [List.nil_append] at held
            exact absurd (held ▸ List.mem_cons_self) outside
          | cons other more =>
            obtain ⟨_,within⟩ := List.cons.inj held
            exact .inr ⟨more,after,by rw [right,within]; rfl⟩
  · intro either
    rcases either with left | right
    · exact infix_of_left left
    · exact infix_of_right (right.trans (List.suffix_cons c b).isInfix)

/-- Two texts of which one ends, or the other begins, with a letter the word does not have. -/
theorem infix_append (outside : c ∉ word) (apart : a.getLast? = some c ∨ b.head? = some c) :
    word <:+: a ++ b ↔ word <:+: a ∨ word <:+: b := by
  refine ⟨fun inside => ?_,fun either => either.elim infix_of_left infix_of_right⟩
  rcases apart with last | first
  · obtain ⟨init,rfl⟩ := List.getLast?_eq_some_iff.mp last
    rw [List.append_assoc] at inside
    exact ((infix_separated outside).mp inside).imp_left infix_of_left
  · obtain ⟨rest,rfl⟩ := List.head?_eq_some_iff.mp first
    exact ((infix_separated outside).mp inside).imp_right fun held => held.trans (List.suffix_cons c rest).isInfix

end GatewaySdk.Text
