import Mathlib.Data.List.Forall2
import Mathlib.Data.List.Perm.Basic

/-! Records whose entries are read by name: how each kind of entry is written, what may stand
for it, and what is read. The order of the entries does not count, nor do entries under names
that the reader does not know. -/
namespace GatewaySdk.Text

variable {V α β : Type}

/-- What a record holds under a name. -/
inductive Found (V : Type) where
  | absent
  | one (value : V)
  | many

def lookup (entries : List (String × V)) (name : String) : Found V :=
  match entries.filter fun entry => entry.1 == name with
  | [] => .absent
  | [entry] => .one entry.2
  | _::_::_ => .many

section Lookup
variable {entries more : List (String × V)} {name : String} {value : V}

@[simp] theorem lookup_nil : lookup ([] : List (String × V)) name = .absent := rfl

@[simp] theorem lookup_self : lookup [(name,value)] name = .one value := by simp [lookup]

theorem lookup_left (apart : ∀ entry ∈ more, entry.1 ≠ name) : lookup (entries ++ more) name = lookup entries name := by
  have none_ : more.filter (fun entry => entry.1 == name) = [] :=
    List.filter_eq_nil_iff.mpr fun entry member same => apart entry member (beq_iff_eq.mp same)
  simp only [lookup,List.filter_append,none_,List.append_nil]

theorem lookup_right (apart : ∀ entry ∈ entries, entry.1 ≠ name) : lookup (entries ++ more) name = lookup more name := by
  have none_ : entries.filter (fun entry => entry.1 == name) = [] :=
    List.filter_eq_nil_iff.mpr fun entry member same => apart entry member (beq_iff_eq.mp same)
  simp only [lookup,List.filter_append,none_,List.nil_append]

theorem lookup_perm (perm : entries.Perm more) (name : String) : lookup entries name = lookup more name := by
  have same := perm.filter fun entry => entry.1 == name
  unfold lookup
  generalize entries.filter (fun entry => entry.1 == name) = some_ at same
  generalize more.filter (fun entry => entry.1 == name) = others at same
  have length := same.length_eq
  match some_,others with
  | [],[] => rfl
  | [_],[_] => rw [List.singleton_perm_singleton.mp same]
  | _::_::_,_::_::_ => rfl
  | [],_::_ => cases length
  | _::_,[] => cases length
  | [_],_::_::_ => cases length
  | _::_::_,[_] => cases length

end Lookup

/-- A way to write values and to read them. What denotes a value is read as it. -/
structure Codec (V α : Type) where
  write : α → V
  read : V → Option α
  /-- The values that are not lost. -/
  fine : α → Prop
  denotes : α → V → Prop
  written : ∀ a, fine a → denotes a (write a)
  reads : ∀ a v, denotes a v → read v = some a

/-- Entries of a record: under which names, how they are written, which entries stand for a
value, and what is taken from a record that holds them among others. -/
structure Shape (V α : Type) where
  names : List String
  put : α → List (String × V)
  take : (String → Found V) → Option α
  fine : α → Prop
  stands : α → List (String × V) → Prop
  own : ∀ a entries, stands a entries → ∀ entry ∈ entries, entry.1 ∈ names
  written : ∀ a, fine a → stands a (put a)
  taken : ∀ a entries view, stands a entries → (∀ name ∈ names, view name = lookup entries name) → take view = some a

namespace Codec

theorem back (c : Codec V α) {a : α} (fine : c.fine a) : c.read (c.write a) = some a := c.reads _ _ (c.written _ fine)

/-- The same under another description of the values. -/
def as (c : Codec V α) (make : α → β) (parts : β → α) (whole : ∀ b, make (parts b) = b) : Codec V β where
  write b := c.write (parts b)
  read v := (c.read v).map make
  fine b := c.fine (parts b)
  denotes b v := c.denotes (parts b) v
  written b fine := c.written _ fine
  reads b v denotes := by rw [c.reads _ _ denotes,Option.map_some,whole]

/-- A list, item by item. -/
def list (arr : List V → V) (items : V → Option (List V)) (open_ : ∀ vs, items (arr vs) = some vs) (c : Codec V α) :
    Codec V (List α) where
  write l := arr (l.map c.write)
  read v := (items v).bind fun vs => vs.mapM c.read
  fine l := ∀ a ∈ l, c.fine a
  denotes l v := ∃ vs, v = arr vs ∧ List.Forall₂ c.denotes l vs
  written l fine := by
    refine ⟨_,rfl,?_⟩
    rw [List.forall₂_map_right_iff,List.forall₂_same]
    exact fun a member => c.written a (fine a member)
  reads l v denotes := by
    obtain ⟨vs,rfl,each⟩ := denotes
    rw [open_,Option.bind_some]
    induction each with
    | nil => rfl
    | cons first _ ih => rw [List.mapM_cons,c.reads _ _ first,ih]; rfl

/-- A record, its entries in any order and others among them. -/
def record (obj : List (String × V) → V) (entries : V → Option (List (String × V))) (open_ : ∀ es, entries (obj es) = some es)
    (s : Shape V α) : Codec V α where
  write a := obj (s.put a)
  read v := (entries v).bind fun es => s.take (lookup es)
  fine := s.fine
  denotes a v := ∃ es own extra, v = obj es ∧ es.Perm (own ++ extra) ∧ s.stands a own ∧ ∀ entry ∈ extra, entry.1 ∉ s.names
  written a fine := ⟨s.put a,s.put a,[],rfl,by rw [List.append_nil],s.written a fine,nofun⟩
  reads a v denotes := by
    obtain ⟨es,own,extra,rfl,perm,stands,unknown⟩ := denotes
    rw [open_,Option.bind_some]
    refine s.taken a own _ stands fun name known => ?_
    rw [lookup_perm perm]
    exact lookup_left fun entry member same => unknown entry member (same ▸ known)

end Codec

namespace Shape

/-- An entry that has to be there. -/
def required (name : String) (c : Codec V α) : Shape V α where
  names := [name]
  put a := [(name,c.write a)]
  take view :=
    match view name with
    | .one v => c.read v
    | _ => none
  fine := c.fine
  stands a entries := ∃ v, entries = [(name,v)] ∧ c.denotes a v
  own a entries stands entry member := by
    obtain ⟨v,rfl,_⟩ := stands
    rw [List.mem_singleton.mp member]
    exact List.mem_cons_self
  written a fine := ⟨_,rfl,c.written a fine⟩
  taken a entries view stands seen := by
    obtain ⟨v,rfl,denotes⟩ := stands
    rw [seen name List.mem_cons_self,lookup_self]
    exact c.reads a v denotes

/-- An entry that is left out for nothing; a null stands for nothing too. -/
def omitted (null : V → Bool) (name : String) (c : Codec V α) : Shape V (Option α) where
  names := [name]
  put
    | none => []
    | some a => [(name,c.write a)]
  take view :=
    match view name with
    | .absent => some none
    | .one v => if null v = true then some none else (c.read v).map some
    | .many => none
  fine value := ∀ a, value = some a → c.fine a ∧ null (c.write a) = false
  stands
    | none,entries => entries = [] ∨ ∃ v, entries = [(name,v)] ∧ null v = true
    | some a,entries => ∃ v, entries = [(name,v)] ∧ null v = false ∧ c.denotes a v
  own value entries stands entry member := by
    have single (v : V) (same : entries = [(name,v)]) : entry.1 ∈ [name] := by
      rw [same] at member
      rw [List.mem_singleton.mp member]
      exact List.mem_cons_self
    cases value with
    | none =>
      obtain rfl | ⟨v,same,_⟩ := stands
      · cases member
      · exact single v same
    | some a =>
      obtain ⟨v,same,_⟩ := stands
      exact single v same
  written value fine := by
    cases value with
    | none => exact .inl rfl
    | some a => exact ⟨_,rfl,(fine a rfl).2,c.written a (fine a rfl).1⟩
  taken value entries view stands seen := by
    rw [seen name List.mem_cons_self]
    cases value with
    | none =>
      obtain rfl | ⟨v,rfl,null_⟩ := stands
      · rfl
      · rw [lookup_self]
        exact if_pos null_
    | some a =>
      obtain ⟨v,rfl,solid,denotes⟩ := stands
      rw [lookup_self]
      simp only [solid,Bool.false_eq_true,if_false,c.reads a v denotes,Option.map_some]

/-- An entry that is always written and has a default where it is not there. -/
def defaulted (name : String) (c : Codec V α) (default_ : α) : Shape V α where
  names := [name]
  put a := [(name,c.write a)]
  take view :=
    match view name with
    | .absent => some default_
    | .one v => c.read v
    | .many => none
  fine := c.fine
  stands a entries := (∃ v, entries = [(name,v)] ∧ c.denotes a v) ∨ entries = [] ∧ a = default_
  own a entries stands entry member := by
    obtain ⟨v,rfl,_⟩ | ⟨rfl,_⟩ := stands
    · rw [List.mem_singleton.mp member]
      exact List.mem_cons_self
    · cases member
  written a fine := .inl ⟨_,rfl,c.written a fine⟩
  taken a entries view stands seen := by
    rw [seen name List.mem_cons_self]
    obtain ⟨v,rfl,denotes⟩ | ⟨rfl,rfl⟩ := stands
    · rw [lookup_self]
      exact c.reads a v denotes
    · rfl

def nothing : Shape V Unit where
  names := []
  put _ := []
  take _ := some ()
  fine _ := True
  stands _ entries := entries = []
  own _ entries stands entry member := by
    rw [stands] at member
    cases member
  written _ _ := rfl
  taken _ _ _ _ _ := rfl

/-- The entries of two under names that differ; either may be flattened into the other. -/
def both (s : Shape V α) (t : Shape V β) (apart : ∀ name ∈ s.names, name ∉ t.names) : Shape V (α × β) where
  names := s.names ++ t.names
  put ab := s.put ab.1 ++ t.put ab.2
  take view := (s.take view).bind fun a => (t.take view).map fun b => (a,b)
  fine ab := s.fine ab.1 ∧ t.fine ab.2
  stands ab entries := ∃ left right, entries = left ++ right ∧ s.stands ab.1 left ∧ t.stands ab.2 right
  own ab entries stands entry member := by
    obtain ⟨left,right,rfl,first,second⟩ := stands
    obtain member | member := List.mem_append.mp member
    · exact List.mem_append_left _ (s.own _ _ first entry member)
    · exact List.mem_append_right _ (t.own _ _ second entry member)
  written ab fine := ⟨_,_,rfl,s.written _ fine.1,t.written _ fine.2⟩
  taken ab entries view stands seen := by
    obtain ⟨left,right,rfl,first,second⟩ := stands
    have left_ : s.take view = some ab.1 := by
      refine s.taken _ _ view first fun name known => ?_
      rw [seen name (List.mem_append_left _ known)]
      exact lookup_left fun entry member same => apart name known (same ▸ t.own _ _ second entry member)
    have right_ : t.take view = some ab.2 := by
      refine t.taken _ _ view second fun name known => ?_
      rw [seen name (List.mem_append_right _ known)]
      exact lookup_right fun entry member same => apart name (same ▸ s.own _ _ first entry member) known
    rw [left_,right_]
    rfl

/-- The same under another description of the values. -/
def as (s : Shape V α) (make : α → β) (parts : β → α) (whole : ∀ b, make (parts b) = b) : Shape V β where
  names := s.names
  put b := s.put (parts b)
  take view := (s.take view).map make
  fine b := s.fine (parts b)
  stands b entries := s.stands (parts b) entries
  own b entries stands := s.own _ _ stands
  written b fine := s.written _ fine
  taken b entries view stands seen := by rw [s.taken _ _ view stands seen,Option.map_some,whole]

/-- One of several shapes, and an entry that tells which. -/
def tagged {ι : Type} {γ : ι → Type} (tag : String) (label : Codec V ι) (all : List String) (s : (i : ι) → Shape V (γ i))
    (inside : ∀ i, ∀ name ∈ (s i).names, name ∈ all) (apart : tag ∉ all) : Shape V (Σ i, γ i) where
  names := tag::all
  put v := (tag,label.write v.1)::(s v.1).put v.2
  take view :=
    match view tag with
    | .one v => (label.read v).bind fun i => ((s i).take view).map (Sigma.mk i)
    | _ => none
  fine v := label.fine v.1 ∧ (s v.1).fine v.2
  stands v entries := ∃ told rest, entries = (tag,told)::rest ∧ label.denotes v.1 told ∧ (s v.1).stands v.2 rest
  own v entries stands entry member := by
    obtain ⟨told,rest,rfl,_,stands⟩ := stands
    obtain rfl | member := List.mem_cons.mp member
    · exact List.mem_cons_self
    · exact List.mem_cons_of_mem _ (inside _ _ ((s v.1).own _ _ stands entry member))
  written v fine := ⟨_,_,rfl,label.written _ fine.1,(s v.1).written _ fine.2⟩
  taken v entries view stands seen := by
    obtain ⟨told,rest,rfl,denotes,stands⟩ := stands
    have here : view tag = .one told := by
      rw [seen tag List.mem_cons_self]
      refine (@lookup_left V [(tag,told)] rest tag fun entry member same => ?_).trans lookup_self
      exact apart (inside _ _ (same ▸ (s v.1).own _ _ stands entry member))
    have inner : (s v.1).take view = some v.2 := by
      refine (s v.1).taken _ _ view stands fun name known => ?_
      rw [seen name (List.mem_cons_of_mem _ (inside _ _ known))]
      refine @lookup_right V [(tag,told)] rest name fun entry member same => ?_
      obtain rfl := List.mem_singleton.mp member
      obtain rfl : tag = name := same
      exact apart (inside _ _ known)
    rw [here]
    simp only [label.reads _ _ denotes,Option.bind_some,inner,Option.map_some]

end Shape
end GatewaySdk.Text
