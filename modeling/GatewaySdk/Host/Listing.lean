import GatewaySdk.Host.Rules

/-! The names that `versions` is listed under: a call adds at most one, of an entry of its own. -/
namespace GatewaySdk.Host
open GatewaySdk.Effect

/-- The names are the same, or more by that of an entry the call may change. -/
def Lists (operation : Call) (w w' : World) : Prop :=
  w'.names = w.names ∨ ∃ name, Touches operation (.version name) ∧ w'.names = w.names ++ [name]

namespace Lists
variable {tar : TarCrate} {choice : Choice} {operation : Call} {w w' : World} {place source target : Loc}

theorem put {v : World} (entry : Node) (ok : ∀ ino ∈ entry.ino, ino < v.fresh) (same : v.names = w.names)
    (own : Touches operation place) : Lists operation w (v.put place entry ok) := by
  cases place with
  | version name =>
    by_cases listed : name ∈ v.names
    · exact .inl ((if_pos listed).trans same)
    · exact .inr ⟨name,own,(if_neg listed).trans (by rw [same])⟩
  | _ => exact .inl same

theorem refill (content : Dir) (own : Touches operation place) : Lists operation w (w.refill place content) := by
  unfold World.refill
  split
  · exact put _ _ rfl own
  · exact .inl rfl

theorem move (own : Touches operation target) : Lists operation w (w.move source target) := by
  unfold World.move
  split
  · exact put _ _ rfl own
  · exact .inl rfl

theorem mkdir (own : Touches operation place) : Lists operation w (w.mkdir place) := put _ _ rfl own

theorem link (own : Touches operation place) : Lists operation w (w.link place target) := put _ _ rfl own

theorem create (own : Touches operation place) : Lists operation w (w.create place).opened :=
  put (v := w.alloc) (.file w.fresh) (by simp [Node.ino,World.alloc]) rfl own

theorem openAnswer (place : Loc) (mode : OpenMode) :
    Lists (.openFile place mode) w (openAnswer place mode w).2 := by
  cases mode with
  | read | readWrite =>
    simp only [Host.openAnswer]
    split <;> exact .inl rfl
  | createNew =>
    simp only [Host.openAnswer]
    split
    · exact .inl rfl
    · split
      · exact create rfl
      · exact .inl rfl
  | readWriteCreate =>
    simp only [Host.openAnswer]
    split
    · exact .inl rfl
    · exact .inl rfl
    · exact .inl rfl
    · split
      · exact create rfl
      · exact .inl rfl

theorem answer (operation : Call) : Lists operation w (answer tar operation choice w).2 := by
  cases operation with
  | createDirAll place =>
    cases place with
    | root => exact .inl rfl
    | _ =>
      simp only [Host.answer]
      split
      · exact .inl rfl
      · split
        · exact .inl rfl
        · exact mkdir rfl
  | createDir place =>
    simp only [Host.answer]
    split
    · exact .inl rfl
    · split
      · exact mkdir rfl
      · exact .inl rfl
  | symlink target place =>
    simp only [Host.answer]
    split
    · exact .inl rfl
    · split
      · exact link rfl
      · exact .inl rfl
  | rename source target =>
    simp only [Host.answer]
    split
    · exact .inl rfl
    · exact move (.inr rfl)
  | unpack entry place path => exact refill _ rfl
  | setModeIn place path mode =>
    simp only [Host.answer]
    split
    · exact refill _ rfl
    · exact .inl rfl
    · exact .inl rfl
  | renameIn place source target =>
    simp only [Host.answer]
    split
    · exact refill _ rfl
    · exact .inl rfl
  | openFile place mode => exact openAnswer place mode
  | removeDirAll | removeFile | readLink | readVersions | modified | isFileIn | isDirIn | metadataIn =>
    simp only [Host.answer]
    split <;> exact .inl rfl
  | _ => exact .inl rfl

theorem failure (operation : Call) : Lists operation w (failure tar operation choice w).2 := by
  cases operation with
  | removeDirAll place => exact refill _ rfl
  | unpack entry place path => exact refill _ rfl
  | _ => exact .inl rfl

theorem exec (operation : Call) (choice : Choice) (w : World) : Lists operation w ((machine tar).exec operation choice w).2 := by
  simp only [machine]
  split
  · exact failure operation
  · exact answer operation

end Lists
end GatewaySdk.Host
