import Mathlib.Data.List.Basic

/-! Files with an owner, a group and permission bits: who may read and write one, and with
which bits a new one begins. -/
namespace GatewaySdk.Host

/-- The nine permission bits, the owner's three first. -/
abbrev Mode := BitVec 9

structure File where
  bytes : List UInt8
  mode : Mode
  owner : Nat
  group : Nat
  deriving DecidableEq, Repr

structure Process where
  uid : Nat
  gid : Nat
  groups : List Nat
  umask : Mode
  deriving DecidableEq, Repr

inductive Access where
  | read
  | write
  deriving DecidableEq, Repr

/-- The place of the access among the three bits of a class. -/
def Access.bit : Access → Nat
  | .read => 2
  | .write => 1

namespace Process

/-- Where the bits of the one class begin that the process is in. -/
def place (q : Process) (f : File) : Nat :=
  if q.uid = f.owner then 6 else if f.group = q.gid ∨ f.group ∈ q.groups then 3 else 0

def may (q : Process) (access : Access) (f : File) : Prop :=
  q.uid = 0 ∨ f.mode.getLsbD (q.place f + access.bit) = true

instance (q : Process) (access : Access) (f : File) : Decidable (q.may access f) :=
  inferInstanceAs (Decidable (_ ∨ _))

/-- `chmod` is for the owner and the superuser. -/
def mayChmod (q : Process) (f : File) : Prop := q.uid = 0 ∨ q.uid = f.owner

instance (q : Process) (f : File) : Decidable (q.mayChmod f) := inferInstanceAs (Decidable (_ ∨ _))

/-- What `open` makes of a new file asked for with the mode 0666. -/
def newFile (q : Process) : File := ⟨[],0o666#9 &&& ~~~q.umask,q.uid,q.gid⟩

end Process

/-- Someone other than the owner and the superuser may read the file. -/
def OthersRead (f : File) : Prop := ∃ q : Process, q.uid ≠ 0 ∧ q.uid ≠ f.owner ∧ q.may .read f

/-- Neither the group nor others may read. -/
def Private (mode : Mode) : Prop := mode.getLsbD 5 = false ∧ mode.getLsbD 2 = false

instance (mode : Mode) : Decidable (Private mode) := inferInstanceAs (Decidable (_ ∧ _))

theorem othersRead_iff {f : File} : OthersRead f ↔ ¬ Private f.mode := by
  constructor
  · rintro ⟨q,plain,other,super | readable⟩ ⟨group,others⟩
    · exact plain super
    · unfold Process.place at readable
      rw [if_neg other] at readable
      split_ifs at readable
      · exact Bool.false_ne_true (group.symm.trans readable)
      · exact Bool.false_ne_true (others.symm.trans readable)
  · intro open_
    have readable : f.mode.getLsbD 5 = true ∨ f.mode.getLsbD 2 = true := by
      by_contra closed
      rw [not_or,Bool.not_eq_true,Bool.not_eq_true] at closed
      exact open_ closed
    rcases readable with group | others
    · refine ⟨⟨f.owner+1,f.group,[],0⟩,Nat.succ_ne_zero _,Nat.succ_ne_self _,.inr ?_⟩
      rw [Process.place,if_neg (Nat.succ_ne_self _),if_pos (.inl rfl)]
      exact group
    · refine ⟨⟨f.owner+1,f.group+1,[],0⟩,Nat.succ_ne_zero _,Nat.succ_ne_self _,.inr ?_⟩
      rw [Process.place,if_neg (Nat.succ_ne_self _),if_neg (by simp)]
      exact others

/-- The mode 0600 leaves the owner what it takes from everyone else. -/
theorem owner_only (f : File) : Private (0o600#9) ∧ ∀ q : Process, q.mayChmod f →
    q.may .read {f with mode := 0o600#9} := by
  refine ⟨by decide,?_⟩
  rintro q (super | owner)
  · exact .inl super
  · refine .inr ?_
    rw [Process.place,if_pos owner]
    change (0o600#9).getLsbD 8 = true
    decide

end GatewaySdk.Host
