import GatewaySdk.Host.Calls
import GatewaySdk.Effect.Trace

/-! What each call can have done: which entries and which file bytes it leaves alone,
and one case lemma for each call that changes something. -/
namespace GatewaySdk.Host
open GatewaySdk.Effect
open GatewaySdk.Upgrade (Bytes)

/-- The places whose entry a call may change. -/
def Touches : Call → Loc → Prop
  | .createDirAll .root,_ => False
  | .createDirAll place,p | .createDir place,p | .removeDirAll place,p | .removeFile place,p
  | .symlink _ place,p | .unpack _ place _,p | .setModeIn place _ _,p | .renameIn place _ _,p
  | .openFile place .createNew,p | .openFile place .readWriteCreate,p => p = place
  | .rename source target,p => p = source ∨ p = target
  | _,_ => False

/-- The file whose bytes a call may change. -/
def Writes : Call → Nat → Prop
  | .writeAll file _,ino | .setLenZero file,ino => ino = file.ino
  | _,_ => False

/-- Nothing that outlives a process differs: entries and file bytes are the same. -/
structure SameFiles (w w' : World) : Prop where
  node : w'.node = w.node
  data : w'.data = w.data
  fresh : w'.fresh = w.fresh

theorem SameFiles.refl (w : World) : SameFiles w w := ⟨rfl,rfl,rfl⟩

theorem SameFiles.trans {w v u : World} (first : SameFiles w v) (second : SameFiles v u) : SameFiles w u :=
  ⟨second.node.trans first.node,second.data.trans first.data,second.fresh.trans first.fresh⟩

/-- All that a call can make of the files of a world. -/
inductive Effect (w : World) (operation : Call) : World → Prop
  | same (w' : World) (files : SameFiles w w') : Effect w operation w'
  | mkdir (place : Loc) (own : Touches operation place) : Effect w operation (w.mkdir place)
  | drop (place : Loc) (own : Touches operation place) : Effect w operation (w.drop place)
  | refill (place : Loc) (content : Dir) (own : Touches operation place) :
    Effect w operation (w.refill place content)
  | link (target place : Loc) (own : Touches operation place) : Effect w operation (w.link place target)
  | move (source target : Loc) (left : Touches operation source) (right : Touches operation target) :
    Effect w operation (w.move source target)
  | create (place : Loc) (own : Touches operation place) : Effect w operation (w.create place).opened
  | write (ino : Nat) (bytes : Bytes) (own : Writes operation ino) : Effect w operation (w.write ino bytes)

variable {tar : TarCrate} {choice : Choice} {w w' : World} {place source target : Loc}

theorem exec_smooth (operation : Call) (w : World) :
    (machine tar).exec operation smooth w = answer tar operation smooth w := rfl

theorem failure_effect (operation : Call) : Effect w operation (failure tar operation choice w).2 := by
  cases operation with
  | removeDirAll place => exact .refill place _ rfl
  | unpack entry place path => exact .refill place _ rfl
  | writeAll file bytes => exact .write file.ino _ rfl
  | _ => exact .same _ ⟨rfl,rfl,rfl⟩

theorem openAnswer_effect (place : Loc) (mode : OpenMode) :
    Effect w (.openFile place mode) (openAnswer place mode w).2 := by
  cases mode with
  | read | readWrite =>
    simp only [openAnswer]
    split <;> exact .same _ ⟨rfl,rfl,rfl⟩
  | createNew =>
    simp only [openAnswer]
    split
    · exact .same _ (.refl w)
    · split
      · exact .create place rfl
      · exact .same _ (.refl w)
  | readWriteCreate =>
    simp only [openAnswer]
    split
    · exact .same _ ⟨rfl,rfl,rfl⟩
    · exact .same _ (.refl w)
    · exact .same _ (.refl w)
    · split
      · exact .create place rfl
      · exact .same _ (.refl w)

theorem answer_effect (operation : Call) : Effect w operation (answer tar operation choice w).2 := by
  cases operation with
  | createDirAll place =>
    cases place with
    | root => exact .same _ (.refl w)
    | _ =>
      simp only [answer]
      split
      · exact .same _ (.refl w)
      · split
        · exact .same _ (.refl w)
        · exact .mkdir _ rfl
  | createDir place =>
    simp only [answer]
    split
    · exact .same _ (.refl w)
    · split
      · exact .mkdir place rfl
      · exact .same _ (.refl w)
  | symlink target place =>
    simp only [answer]
    split
    · exact .same _ (.refl w)
    · split
      · exact .link target place rfl
      · exact .same _ (.refl w)
  | removeDirAll place | removeFile place =>
    simp only [answer]
    split
    · exact .same _ (.refl w)
    · exact .drop place rfl
    · exact .same _ (.refl w)
  | rename source target =>
    simp only [answer]
    split
    · exact .same _ (.refl w)
    · exact .move source target (.inl rfl) (.inr rfl)
  | unpack entry place path => exact .refill place _ rfl
  | setModeIn place path mode =>
    simp only [answer]
    split
    · exact .refill place _ rfl
    · exact .same _ (.refl w)
    · exact .same _ (.refl w)
  | renameIn place source target =>
    simp only [answer]
    split
    · exact .refill place _ rfl
    · exact .same _ (.refl w)
  | openFile place mode => exact openAnswer_effect place mode
  | writeAll file bytes => exact .write file.ino _ rfl
  | setLenZero file => exact .write file.ino _ rfl
  | readLink | readVersions | modified | isFileIn | isDirIn | metadataIn =>
    simp only [answer]
    split <;> exact .same _ (.refl w)
  | _ => exact .same _ ⟨rfl,rfl,rfl⟩

theorem exec_effect (operation : Call) : Effect w operation ((machine tar).exec operation choice w).2 := by
  simp only [machine]
  split
  · exact failure_effect operation
  · exact answer_effect operation

theorem Effect.node {operation : Call} (effect : Effect w operation w') (apart : ¬ Touches operation place) :
    w'.node place = w.node place := by
  have other {p : Loc} (own : Touches operation p) : place ≠ p := fun same => apart (same ▸ own)
  cases effect with
  | same _ files => rw [files.node]
  | mkdir _ own | drop _ own | link _ _ own | create _ own => exact Function.update_of_ne (other own) ..
  | refill _ _ own => exact World.refill_node_of_ne w _ (other own) _
  | move _ _ left right => exact World.move_node_of_ne w (other left) (other right)
  | write => rfl

theorem Effect.data {operation : Call} {ino : Nat} (effect : Effect w operation w')
    (apart : ¬ Writes operation ino) (old : ino < w.fresh) : w'.data ino = w.data ino := by
  cases effect with
  | same _ files => rw [files.data]
  | mkdir | create => exact Function.update_of_ne (Nat.ne_of_lt old) ..
  | drop | link => rfl
  | refill => rw [World.refill_data]
  | move => rw [World.move_data]
  | write other _ own =>
    have apart : ino ≠ other := fun same => apart (same ▸ own)
    exact Function.update_of_ne apart ..

/-- Calls that change what a directory holds. -/
def Refills (place : Loc) : Call → Prop
  | .unpack _ p _ | .setModeIn p _ _ | .renameIn p _ _ => p = place
  | _ => False

theorem exec_refills {operation : Call} (refills : Refills place operation) :
    ((machine tar).exec operation choice w).2 = w ∨
      ∃ content, ((machine tar).exec operation choice w).2 = w.refill place content := by
  cases operation with
  | unpack entry p path =>
    obtain rfl : p = place := refills
    simp only [machine]
    split
    · exact .inr ⟨_,rfl⟩
    · exact .inr ⟨_,rfl⟩
  | setModeIn p path mode =>
    obtain rfl : p = place := refills
    simp only [machine]
    split
    · exact .inl rfl
    · simp only [answer]
      split
      · exact .inr ⟨_,rfl⟩
      · exact .inl rfl
      · exact .inl rfl
  | renameIn p source target =>
    obtain rfl : p = place := refills
    simp only [machine]
    split
    · exact .inl rfl
    · simp only [answer]
      split
      · exact .inr ⟨_,rfl⟩
      · exact .inl rfl
  | _ => exact refills.elim

/-- A directory whose content changes is still that directory. -/
theorem exec_refilled {operation : Call} (refills : Refills place operation) {ino : Nat} {old : Dir}
    (found : w.node place = some (.dir ino old)) :
    ∃ content, ((machine tar).exec operation choice w).2.node place = some (.dir ino content) := by
  obtain same | ⟨content,same⟩ := @exec_refills tar choice w place operation refills
  · exact ⟨old,(congrFun (congrArg World.node same) place).trans found⟩
  · refine ⟨content,?_⟩
    rw [same,World.refill_dir w place found,Function.update_self]

theorem Effect.fresh {operation : Call} (effect : Effect w operation w') : w.fresh ≤ w'.fresh := by
  cases effect with
  | same _ files => exact Nat.le_of_eq files.fresh.symm
  | mkdir | create => exact Nat.le_succ _
  | drop | link | write => exact Nat.le_refl _
  | refill => exact Nat.le_of_eq (World.refill_fresh ..).symm
  | move => exact Nat.le_of_eq (World.move_fresh ..).symm

/-- Calls that change entries at these places only, and the bytes of no file. -/
structure Within (places : Loc → Prop) (operation : Call) : Prop where
  touches : ∀ place, Touches operation place → places place
  writes : ∀ ino, ¬ Writes operation ino

/-- Entries at these places may differ; elsewhere, and in the files there were, nothing does. -/
structure Framed (places : Loc → Prop) (w w' : World) : Prop where
  node : ∀ place, ¬ places place → w'.node place = w.node place
  data : ∀ ino < w.fresh, w'.data ino = w.data ino
  fresh : w.fresh ≤ w'.fresh

theorem Framed.refl (places : Loc → Prop) (w : World) : Framed places w w :=
  ⟨fun _ _ => rfl,fun _ _ => rfl,Nat.le_refl _⟩

theorem Framed.trans {places : Loc → Prop} {w w' w'' : World} (first : Framed places w w')
    (second : Framed places w' w'') : Framed places w w'' where
  node place out := (second.node place out).trans (first.node place out)
  data ino old := (second.data ino (Nat.lt_of_lt_of_le old first.fresh)).trans (first.data ino old)
  fresh := Nat.le_trans first.fresh second.fresh

theorem Framed.mono {places wider : Loc → Prop} {w w' : World} (framed : Framed places w w')
    (inside : ∀ place, places place → wider place) : Framed wider w w' where
  node place out := framed.node place (fun own => out (inside place own))
  data := framed.data
  fresh := framed.fresh

theorem exec_framed {places : Loc → Prop} {operation : Call} (within : Within places operation) :
    Framed places w ((machine tar).exec operation choice w).2 where
  node place out := (exec_effect operation).node (fun own => out (within.touches place own))
  data ino old := (exec_effect operation).data (within.writes ino) old
  fresh := (exec_effect operation).fresh

theorem exists_of_file {place : Loc} {ino : Nat} (found : w.node place = some (.file ino)) : ino < w.fresh :=
  w.allocated place _ found ino rfl

theorem Framed.create {places : Loc → Prop} (framed : Framed places w w') {place : Loc} (inside : places place) :
    Framed places w (w'.create place).opened where
  node other out := by
    have apart : other ≠ place := fun same => out (same ▸ inside)
    simpa [apart] using framed.node other out
  data ino old := by
    have apart : ino ≠ w'.fresh := Nat.ne_of_lt (Nat.lt_of_lt_of_le old framed.fresh)
    simpa [apart] using framed.data ino old
  fresh := Nat.le_succ_of_le framed.fresh

theorem Framed.write {places : Loc → Prop} {ino : Nat} (framed : Framed places w w') (new : w.fresh ≤ ino)
    (bytes : Bytes) : Framed places w (w'.write ino bytes) where
  node := framed.node
  data other old := by
    have apart : other ≠ ino := by omega
    exact (Function.update_of_ne apart ..).trans (framed.data other old)
  fresh := framed.fresh

/-- Calls that leave the entry at this place as it is. -/
def Apart (place : Loc) (operation : Call) : Prop := ¬ Touches operation place

theorem Apart.of_within {places : Loc → Prop} {operation : Call} (within : Within places operation)
    (out : ¬ places place) : Apart place operation :=
  fun own => out (within.touches place own)

/-- Calls that are made of no path inside a directory. -/
def Outside : Call → Prop
  | .unpack _ _ _ | .isFileIn _ _ | .isDirIn _ _ | .metadataIn _ _ | .setModeIn _ _ _ | .renameIn _ _ _ => False
  | _ => True

/-- Calls that change no entry and no file, however they end. -/
structure Quiet (operation : Call) : Prop where
  still : Within (fun _ => False) operation
  outside : Outside operation

theorem Quiet.touches {operation : Call} (quiet : Quiet operation) (place : Loc) : ¬ Touches operation place :=
  quiet.still.touches place

theorem Quiet.writes {operation : Call} (quiet : Quiet operation) (ino : Nat) : ¬ Writes operation ino :=
  quiet.still.writes ino

theorem Within.mono {places wider : Loc → Prop} {operation : Call} (within : Within places operation)
    (inside : ∀ place, places place → wider place) : Within wider operation :=
  ⟨fun place own => inside place (within.touches place own),within.writes⟩

def silent : Call → Bool
  | .createDirAll .root => true
  | .createDirAll _ | .createDir _ | .removeDirAll _ | .removeFile _ | .symlink _ _ | .rename _ _
  | .unpack _ _ _ | .setModeIn _ _ _ | .renameIn _ _ _ | .isFileIn _ _ | .isDirIn _ _ | .metadataIn _ _
  | .openFile _ .createNew | .openFile _ .readWriteCreate | .writeAll _ _ | .setLenZero _ => false
  | _ => true

theorem quiet_of_silent {operation : Call} (quiet : silent operation = true) : Quiet operation := by
  cases operation with
  | createDirAll place =>
    cases place with
    | root => exact ⟨⟨fun _ own => own,fun _ own => own⟩,trivial⟩
    | _ => cases quiet
  | openFile place mode =>
    cases mode with
    | read | readWrite => exact ⟨⟨fun _ own => own,fun _ own => own⟩,trivial⟩
    | _ => cases quiet
  | _ => first | exact ⟨⟨fun _ own => own,fun _ own => own⟩,trivial⟩ | cases quiet

theorem Quiet.within {operation : Call} (quiet : Quiet operation) (places : Loc → Prop) :
    Within places operation :=
  quiet.still.mono (fun _ inside => inside.elim)

section Cases
variable {unit : Except IoError Unit}

theorem createNew_cases {reply : Except IoError Handle}
    (h : (machine tar).exec (.openFile place .createNew) choice w = (reply,w')) :
    (∃ error, reply = .error error ∧ w' = w) ∨
      (w.node place = none ∧ reply = .ok (w.handle w.fresh) ∧ w' = (w.create place).opened) := by
  simp only [machine] at h
  split at h
  · cases h
    exact .inl ⟨_,rfl,rfl⟩
  · simp only [answer,openAnswer] at h
    split at h
    next => cases h; exact .inl ⟨_,rfl,rfl⟩
    next free =>
      split at h
      · cases h; exact .inr ⟨free,rfl,rfl⟩
      · cases h; exact .inl ⟨_,rfl,rfl⟩

theorem openCreate_cases {reply : Except IoError Handle}
    (h : (machine tar).exec (.openFile place .readWriteCreate) choice w = (reply,w')) :
    (∃ error, reply = .error error ∧ w' = w) ∨
      (∃ ino, w.node place = some (.file ino) ∧ reply = .ok (w.handle ino) ∧ w' = w.opened) ∨
      (w.node place = none ∧ reply = .ok (w.handle w.fresh) ∧ w' = (w.create place).opened) := by
  simp only [machine] at h
  split at h
  · cases h
    exact .inl ⟨_,rfl,rfl⟩
  · simp only [answer,openAnswer] at h
    split at h
    next ino found => cases h; exact .inr (.inl ⟨ino,found,rfl,rfl⟩)
    next => cases h; exact .inl ⟨_,rfl,rfl⟩
    next => cases h; exact .inl ⟨_,rfl,rfl⟩
    next free =>
      split at h
      · cases h; exact .inr (.inr ⟨free,rfl,rfl⟩)
      · cases h; exact .inl ⟨_,rfl,rfl⟩

theorem open_cases {mode : OpenMode} (plain : mode = .read ∨ mode = .readWrite) {reply : Except IoError Handle}
    (h : (machine tar).exec (.openFile place mode) choice w = (reply,w')) :
    (∃ error, reply = .error error ∧ w' = w) ∨
      (∃ ino, w.node place = some (.file ino) ∧ reply = .ok (w.handle ino) ∧ w' = w.opened) := by
  simp only [machine] at h
  split at h
  · cases h
    exact .inl ⟨_,rfl,rfl⟩
  · rcases plain with rfl | rfl
    all_goals
      simp only [answer,openAnswer] at h
      split at h
      next ino found => cases h; exact .inr ⟨ino,found,rfl,rfl⟩
      all_goals cases h; exact .inl ⟨_,rfl,rfl⟩

theorem readToString_cases {file : Handle} {reply : Except IoError Bytes}
    (h : (machine tar).exec (.readToString file) choice w = (reply,w')) :
    w' = w ∧ ((∃ error, reply = .error error) ∨ reply = .ok (w.data file.ino)) := by
  simp only [machine] at h
  split at h
  · cases h; exact ⟨rfl,.inl ⟨_,rfl⟩⟩
  · cases h; exact ⟨rfl,.inr rfl⟩

theorem writeAll_cases {file : Handle} {bytes : Bytes}
    (h : (machine tar).exec (.writeAll file bytes) choice w = (unit,w')) :
    (∃ error n, unit = .error error ∧ (bytes ≠ [] → n < bytes.length) ∧
        w' = w.overwrite file (bytes.take n)) ∨
      (unit = .ok () ∧ w' = w.overwrite file bytes) := by
  simp only [machine] at h
  split at h
  · cases h
    refine .inl ⟨_,_,rfl,?_,rfl⟩
    intro nonempty
    exact Nat.mod_lt _ (List.length_pos_of_ne_nil nonempty)
  · cases h; exact .inr ⟨rfl,rfl⟩

theorem setLenZero_cases {file : Handle}
    (h : (machine tar).exec (.setLenZero file) choice w = (unit,w')) :
    (∃ error, unit = .error error ∧ w' = w) ∨ (unit = .ok () ∧ w' = w.write file.ino []) := by
  simp only [machine] at h
  split at h
  · cases h; exact .inl ⟨_,rfl,rfl⟩
  · cases h; exact .inr ⟨rfl,rfl⟩

theorem rename_cases (h : (machine tar).exec (.rename source target) choice w = (unit,w')) :
    (∃ error, unit = .error error ∧ w' = w) ∨
      (unit = .ok () ∧ w.renameError source target = none ∧ w' = w.move source target) := by
  simp only [machine] at h
  split at h
  · cases h; exact .inl ⟨_,rfl,rfl⟩
  · simp only [answer] at h
    split at h
    next => cases h; exact .inl ⟨_,rfl,rfl⟩
    next allowed => cases h; exact .inr ⟨rfl,allowed,rfl⟩

theorem symlink_cases (h : (machine tar).exec (.symlink target place) choice w = (unit,w')) :
    (∃ error, unit = .error error ∧ w' = w) ∨
      (unit = .ok () ∧ w.node place = none ∧ w' = w.link place target) := by
  simp only [machine] at h
  split at h
  · cases h
    exact .inl ⟨_,rfl,rfl⟩
  · simp only [answer] at h
    split at h
    · cases h
      exact .inl ⟨_,rfl,rfl⟩
    next free =>
      split at h
      · cases h
        exact .inr ⟨rfl,by simpa using free,rfl⟩
      · cases h
        exact .inl ⟨_,rfl,rfl⟩

theorem readLink_cases {reply : Except IoError Loc}
    (h : (machine tar).exec (.readLink place) choice w = (reply,w')) :
    (∀ target, reply = .ok target → w.node place = some (.symlink target)) ∧ w' = w := by
  simp only [machine] at h
  split at h
  · cases h
    exact ⟨nofun,rfl⟩
  · simp only [answer] at h
    split at h
    next target found =>
      cases h
      exact ⟨fun other same => by rw [found,Except.ok.inj same],rfl⟩
    all_goals
      cases h
      exact ⟨nofun,rfl⟩

theorem createDir_cases (h : (machine tar).exec (.createDir place) choice w = (unit,w')) :
    (∃ error, unit = .error error ∧ w' = w) ∨ (unit = .ok () ∧ w.node place = none ∧ w' = w.mkdir place) := by
  simp only [machine] at h
  split at h
  · cases h
    exact .inl ⟨_,rfl,rfl⟩
  · simp only [answer] at h
    split at h
    · cases h
      exact .inl ⟨_,rfl,rfl⟩
    next free =>
      split at h
      · cases h
        exact .inr ⟨rfl,by simpa using free,rfl⟩
      · cases h
        exact .inl ⟨_,rfl,rfl⟩

/-- A removal takes the whole entry away, or nothing, or the first entries of a directory. -/
theorem removeDirAll_cases (h : (machine tar).exec (.removeDirAll place) choice w = (unit,w')) :
    (unit = .ok () ∧ (∃ entry, w.node place = some entry) ∧ w' = w.drop place) ∨
      (∃ error, unit = .error error ∧ w' = w ∧ w.contentOf place = []) ∨
      (∃ error, unit = .error error ∧ w' = w.refill place ((w.contentOf place).drop choice.amount)) := by
  simp only [machine] at h
  split at h
  · cases h
    exact .inr (.inr ⟨_,rfl,rfl⟩)
  · simp only [answer] at h
    split at h
    next ino found =>
      cases h
      exact .inr (.inl ⟨_,rfl,rfl,by simp [World.contentOf,found]⟩)
    next entry _ found =>
      cases h
      exact .inl ⟨rfl,⟨_,found⟩,rfl⟩
    next none =>
      cases h
      exact .inr (.inl ⟨_,rfl,rfl,by simp [World.contentOf,none]⟩)

end Cases
end GatewaySdk.Host
