import Mathlib.Data.List.Perm.Basic

/-! Entries under pairwise different keys, over any keys and values: what is read of them by
key is the same in every order, and so is what a fold writes to the slot of one key. -/
namespace GatewaySdk.Order

variable {κ ν σ γ : Type} {l l' : List (κ × ν)} {k : κ} {v : ν}

def Distinct (l : List (κ × ν)) : Prop := (l.map Prod.fst).Nodup

instance [DecidableEq κ] (l : List (κ × ν)) : Decidable (Distinct l) := inferInstanceAs (Decidable (List.Nodup _))

namespace Distinct

theorem perm (distinct : Distinct l) (p : l.Perm l') : Distinct l' := (p.map Prod.fst).nodup_iff.mp distinct

variable [DecidableEq κ]

theorem cons_iff {e : κ × ν} : Distinct (e::l) ↔ l.lookup e.1 = none ∧ Distinct l := by
  unfold Distinct
  rw [List.map_cons,List.nodup_cons,List.lookup_eq_none_iff]
  refine and_congr_left fun _ => ?_
  constructor
  · intro outside p inside
    have other : e.1 ≠ p.1 := fun same => outside (same ▸ List.mem_map_of_mem inside)
    simpa using other
  · intro apart inside
    obtain ⟨p,member,same⟩ := List.mem_map.mp inside
    have other := apart p member
    simp [same] at other

theorem lookup_iff (distinct : Distinct l) : l.lookup k = some v ↔ (k,v) ∈ l := by
  induction l with
  | nil => simp
  | cons e l ih =>
    obtain ⟨fresh,rest⟩ := cons_iff.mp distinct
    obtain ⟨key,value⟩ := e
    rw [List.lookup_cons,List.mem_cons,Prod.mk.injEq,← ih rest]
    by_cases same : k = key
    · subst same
      simp only [beq_self_eq_true,Option.some.injEq,true_and]
      exact ⟨fun equal => .inl equal.symm,
        fun either => either.elim Eq.symm fun found => absurd (fresh.symm.trans found) (by simp)⟩
    · rw [beq_false_of_ne same]
      simp [same]

theorem lookup_perm (distinct : Distinct l) (p : l.Perm l') (k : κ) : l.lookup k = l'.lookup k := by
  ext v
  rw [distinct.lookup_iff,(distinct.perm p).lookup_iff,p.mem_iff]

/-- A slot that only the entry under one key writes. -/
theorem foldl_slot (step : σ → κ × ν → σ) (get : σ → γ) (write : ν → γ → γ)
    (writes : ∀ s v, get (step s (k,v)) = write v (get s)) (frame : ∀ s e, e.1 ≠ k → get (step s e) = get s)
    (distinct : Distinct l) (s : σ) :
    get (l.foldl step s) = (l.lookup k).elim (get s) (fun v => write v (get s)) := by
  induction l generalizing s with
  | nil => rfl
  | cons e l ih =>
    obtain ⟨fresh,rest⟩ := cons_iff.mp distinct
    obtain ⟨key,value⟩ := e
    rw [List.foldl_cons,ih rest,List.lookup_cons]
    by_cases same : k = key
    · subst same
      rw [beq_self_eq_true,fresh]
      exact writes s value
    · rw [beq_false_of_ne same,frame s _ (fun equal => same equal.symm)]

end Distinct
end GatewaySdk.Order
