import GatewaySdk.Upgrade.Logic

/-! What a save does at every step, and what a reader then finds: the state there was
until the rename, the new one from then on. -/
namespace GatewaySdk.Upgrade
open GatewaySdk.Effect GatewaySdk.Host

/-- What a reader finds in `state.json`. -/
def readState (serde : Serde) (w : World) : Option InstallState :=
  (w.content .stateJson).bind serde.fromStr

def stateFiles (pid : Nat) (place : Loc) : Prop := place = .stateTmp pid ∨ place = .stateJson

/-- `state.json` is the file it was, or an empty one made where there was none. -/
def CellKept (w w' : World) : Prop :=
  w'.node .stateJson = w.node .stateJson ∨
    (w.node .stateJson = none ∧
      ∃ ino, w.fresh ≤ ino ∧ w'.node .stateJson = some (.file ino) ∧ w'.data ino = [])

/-- `state.json` is a new file with these bytes. -/
def CellIs (bytes : Bytes) (w w' : World) : Prop :=
  ∃ ino, w.fresh ≤ ino ∧ w'.node .stateJson = some (.file ino) ∧ w'.data ino = bytes

/-- The temporary file of a save, not yet moved. -/
structure Draft (pid : Nat) (w : World) (ino : Nat) (bytes : Bytes) (w' : World) : Prop where
  new : w.fresh ≤ ino
  place : w'.node (.stateTmp pid) = some (.file ino)
  apart : w'.node .stateJson ≠ some (.file ino)
  data : w'.data ino = bytes

/-- The step that puts the new file in the place of the old. -/
def recorded (pid : Nat) : Call := .rename (.stateTmp pid) .stateJson

/-- Until that step a reader finds what there was. -/
def Unsaved (pid : Nat) (w : World) (m : Moment) : Prop :=
  Framed (stateFiles pid) w m.1 ∧ CellKept w m.1 ∧ ¬ Done (recorded pid) m.2

def Saved (pid : Nat) (bytes : Bytes) (w : World) (m : Moment) : Prop :=
  Framed (stateFiles pid) w m.1 ∧ CellIs bytes w m.1 ∧ Done (recorded pid) m.2

variable {tar : TarCrate} {serde : Serde} {installRoot : String} {pid : Nat} {w w' : World}

theorem Stable.quiet {P : World → Prop}
    (same : ∀ w w' : World, w'.node = w.node → (∀ ino < w.fresh, w'.data ino = w.data ino) →
      w.fresh ≤ w'.fresh → P w → P w') : Stable (machine tar) Quiet (fun m => P m.1) :=
  Stable.mono (Stable.world fun w w' framed held =>
    same w w' (funext fun place => framed.node place id) framed.data framed.fresh held) fun _ => Quiet.still

theorem Framed.stable (places : Loc → Prop) (w : World) :
    Stable (machine tar) (Within places) (fun m => Framed places w m.1) :=
  Stable.world fun _ _ next framed => framed.trans next

theorem CellKept.stable (w : World) : Stable (machine tar) Quiet (fun m => CellKept w m.1) := by
  apply Stable.quiet
  intro v v' node data _ kept
  rcases kept with same | ⟨absent,ino,new,found,empty⟩
  · exact .inl (node ▸ same)
  · exact .inr ⟨absent,ino,new,node ▸ found,(data ino (exists_of_file found)).trans empty⟩

theorem CellIs.stable (bytes : Bytes) (w : World) :
    Stable (machine tar) Quiet (fun m => CellIs bytes w m.1) := by
  apply Stable.quiet
  rintro v v' node data _ ⟨ino,new,found,held⟩
  exact ⟨ino,new,node ▸ found,(data ino (exists_of_file found)).trans held⟩

theorem Draft.stable (ino : Nat) (bytes : Bytes) (w : World) :
    Stable (machine tar) Quiet (fun m => Draft pid w ino bytes m.1) := by
  apply Stable.quiet
  intro v v' node data _ draft
  exact ⟨draft.new,node ▸ draft.place,node ▸ draft.apart,
    (data ino (exists_of_file draft.place)).trans draft.data⟩

theorem recorded_loud (pid : Nat) : ¬ Quiet (recorded pid) :=
  fun quiet => quiet.touches .stateJson (.inr rfl)

theorem Unsaved.stable (pid : Nat) (w : World) : Stable (machine tar) Quiet (Unsaved pid w) :=
  ((Framed.stable (stateFiles pid) w).mono fun _ quiet => Quiet.within quiet _).and
    ((CellKept.stable w).and (Stable.not_done (recorded_loud pid)))

theorem Saved.stable (pid : Nat) (bytes : Bytes) (w : World) :
    Stable (machine tar) Quiet (Saved pid bytes w) :=
  ((Framed.stable (stateFiles pid) w).mono fun _ quiet => Quiet.within quiet _).and
    ((CellIs.stable bytes w).and (Stable.done _))

theorem createTmp_holds {m : Moment} (start : Unsaved pid w m) :
    Holds (machine tar).record (Unsaved pid w)
      (fun outcome m => ∀ tmp, outcome = .ok tmp → Draft pid w tmp.ino [] m.1)
      (Io.openFile (.stateTmp pid) .createNew) m := by
  obtain ⟨framed,kept,absent⟩ := start
  refine Run.sys ⟨framed,kept,absent⟩ (fun choice answer v answered => ?_)
  have silent := @not_done_other (recorded pid) _ _ m.1 choice answer absent
    (by simp [recorded] : Call.openFile (.stateTmp pid) .createNew ≠ recorded pid)
  rcases createNew_cases answered with ⟨error,rfl,rfl⟩ | ⟨free,rfl,rfl⟩
  · exact ⟨⟨framed,kept,silent⟩,fun _ ended => nomatch ended⟩
  · have cell : ((m.1.create (.stateTmp pid)).opened).node .stateJson = m.1.node .stateJson := by simp
    have unused : ∀ ino, m.1.node .stateJson = some (.file ino) → ino ≠ m.1.fresh :=
      fun ino found => Nat.ne_of_lt (exists_of_file found)
    refine ⟨⟨framed.create (.inl rfl),?_,silent⟩,?_⟩
    · rcases kept with same | ⟨none,ino,new,found,empty⟩
      · exact .inl (cell.trans same)
      · refine .inr ⟨none,ino,new,cell.trans found,?_⟩
        simpa [unused ino found] using empty
    · rintro tmp ended
      cases ended
      refine ⟨framed.fresh,by simp [World.handle],?_,by simp [World.handle]⟩
      rw [cell]
      exact fun found => unused _ found rfl

theorem openCell_holds {ino : Nat} {m : Moment} (start : Unsaved pid w m) (draft : Draft pid w ino [] m.1) :
    Holds (machine tar).record (Unsaved pid w) (fun _ m => Draft pid w ino [] m.1)
      (Io.openFile .stateJson .readWriteCreate) m := by
  obtain ⟨framed,kept,absent⟩ := start
  refine Run.sys ⟨framed,kept,absent⟩ (fun choice answer v answered => ?_)
  have silent := @not_done_other (recorded pid) _ _ m.1 choice answer absent
    (by simp [recorded] : Call.openFile .stateJson .readWriteCreate ≠ recorded pid)
  rcases openCreate_cases answered with ⟨error,rfl,rfl⟩ | ⟨held,found,rfl,rfl⟩ | ⟨free,rfl,rfl⟩
  · exact ⟨⟨framed,kept,silent⟩,draft⟩
  · exact ⟨⟨⟨framed.node,framed.data,framed.fresh⟩,kept,silent⟩,draft.new,draft.place,draft.apart,draft.data⟩
  · have other : ino ≠ m.1.fresh := Nat.ne_of_lt (exists_of_file draft.place)
    refine ⟨⟨framed.create (.inr rfl),?_,silent⟩,?_⟩
    · rcases kept with same | ⟨none,i,_,found,_⟩
      · exact .inr ⟨same.symm.trans free,m.1.fresh,framed.fresh,by simp,by simp⟩
      · simp [found] at free
    · exact ⟨draft.new,by simpa using draft.place,by simpa using other.symm,by simpa [other] using draft.data⟩

theorem writeTmp_holds {tmp : Handle} {bytes : Bytes} {m : Moment} (start : Unsaved pid w m)
    (draft : Draft pid w tmp.ino [] m.1) :
    Holds (machine tar).record (Unsaved pid w)
      (fun outcome m => outcome = .ok () → Draft pid w tmp.ino bytes m.1) (Io.writeAll tmp bytes) m := by
  obtain ⟨framed,kept,absent⟩ := start
  have cell : ∀ text, CellKept w (m.1.overwrite tmp text) := by
    intro text
    rcases kept with same | ⟨none,i,new,found,empty⟩
    · exact .inl same
    · have other : i ≠ tmp.ino := fun same => draft.apart (same ▸ found)
      exact .inr ⟨none,i,new,found,by simpa [other] using empty⟩
  refine Run.sys ⟨framed,kept,absent⟩ (fun choice answer v answered => ?_)
  have silent := @not_done_other (recorded pid) _ _ m.1 choice answer absent
    (by simp [recorded] : Call.writeAll tmp bytes ≠ recorded pid)
  rcases writeAll_cases answered with ⟨error,n,rfl,_,rfl⟩ | ⟨rfl,rfl⟩
  · exact ⟨⟨framed.write draft.new _,cell _,silent⟩,fun ended => nomatch ended⟩
  · refine ⟨⟨framed.write draft.new _,cell _,silent⟩,fun _ => ⟨draft.new,draft.place,draft.apart,?_⟩⟩
    simp [draft.data]

theorem renameTmp_holds {ino : Nat} {bytes : Bytes} {m : Moment} (start : Unsaved pid w m)
    (draft : Draft pid w ino bytes m.1) :
    Holds (machine tar).record (fun m => Unsaved pid w m ∨ Saved pid bytes w m)
      (fun outcome m => (outcome = .ok () ∧ Saved pid bytes w m) ∨ (outcome ≠ .ok () ∧ Unsaved pid w m))
      (Io.rename (.stateTmp pid) .stateJson) m := by
  refine Run.sys (.inl start) (fun choice answer v answered => ?_)
  obtain ⟨framed,kept,absent⟩ := start
  rcases rename_cases answered with ⟨error,rfl,rfl⟩ | ⟨rfl,_,rfl⟩
  · have still : Unsaved pid w (m.1,m.2 ++ [⟨m.1,.rename (.stateTmp pid) .stateJson,choice,.error error⟩]) :=
      ⟨framed,kept,not_done_failed absent rfl⟩
    exact ⟨.inl still,.inr ⟨nofun,still⟩⟩
  · have moved := @World.move_node m.1 _ .stateJson _ draft.place
    have done : Saved pid bytes w ((m.1.move (.stateTmp pid) .stateJson),
        m.2 ++ [⟨m.1,.rename (.stateTmp pid) .stateJson,choice,.ok ()⟩]) := by
      refine ⟨⟨?_,?_,?_⟩,⟨ino,draft.new,?_,?_⟩,?_⟩
      · intro place out
        have left : place ≠ .stateTmp pid := fun same => out (.inl same)
        have right : place ≠ .stateJson := fun same => out (.inr same)
        exact (World.move_node_of_ne _ left right).trans (framed.node place out)
      · intro i old
        rw [World.move_data]
        exact framed.data i old
      · rw [World.move_fresh]
        exact framed.fresh
      · rw [moved]
        simp
      · rw [World.move_data]
        exact draft.data
      · exact done_snoc.mpr (.inr ⟨rfl,rfl⟩)
    exact ⟨.inr done,.inl ⟨rfl,done⟩⟩

/-- The whole text is in the temporary file, or the draft failed; either way nothing
of it is read yet. -/
theorem saveBytes_holds {tmp : Handle} {destLock : Option Handle} {tmpPath : String} {state : InstallState}
    {m : Moment} (start : Unsaved pid w m) (draft : Draft pid w tmp.ino [] m.1) :
    Holds (machine tar).record (Unsaved pid w)
      (fun outcome m => outcome = .ok () → Draft pid w tmp.ino (serde.toVecPretty state) m.1)
      (saveBytes serde tmp destLock tmpPath state) m := by
  have keep (bytes : Bytes) := (@Unsaved.stable tar pid w).and (@Draft.stable tar pid tmp.ino bytes w)
  have wide (bytes : Bytes) {ε α : Type} {program : Prog ε α} {m : Moment}
      (holds : Holds (machine tar).record (fun m => Unsaved pid w m ∧ Draft pid w tmp.ino bytes m.1)
        (fun _ m => Unsaved pid w m ∧ Draft pid w tmp.ino bytes m.1) program m) :
      Holds (machine tar).record (Unsaved pid w) (fun _ m => Draft pid w tmp.ino bytes m.1) program m :=
    holds.mono (fun _ held => held.1) (fun _ _ _ held => held.2)
  apply Holds.bind (fun _ m => Draft pid w tmp.ino [] m.1)
  · cases destLock with
    | none => exact ⟨start,draft⟩
    | some file => exact wide [] (Run.context (Run.kept (quiet_of_silent rfl) (keep []) ⟨start,draft⟩))
  · intro _ m start draft
    apply Holds.bind (fun outcome m => outcome = .ok () → Draft pid w tmp.ino (serde.toVecPretty state) m.1)
    · apply Run.context
      refine (writeTmp_holds start draft).mono (fun _ now => now) (fun outcome _ _ ends => ?_)
      cases outcome with
      | ok value => exact fun _ => ends rfl
      | error error => exact nofun
    · intro _ m start written
      have draft := written rfl
      apply Holds.bind (fun _ m => Draft pid w tmp.ino (serde.toVecPretty state) m.1)
      · exact wide _ (Run.context (Run.kept (quiet_of_silent rfl) (keep _) ⟨start,draft⟩))
      · intro _ m start draft
        refine (wide _ (Run.context (Run.kept (quiet_of_silent rfl) (keep _) ⟨start,draft⟩))).mono
          (fun _ now => now) (fun _ _ _ draft _ => draft)
      · exact fun _ _ _ _ => nofun
    · exact fun _ _ _ _ => nofun
  · exact fun _ _ _ _ => nofun

/-- Moved into place or not: the old state is read or the new one. -/
def Saving (pid : Nat) (bytes : Bytes) (w : World) (m : Moment) : Prop :=
  Unsaved pid w m ∨ Saved pid bytes w m

theorem Saving.stable (pid : Nat) (bytes : Bytes) (w : World) :
    Stable (machine tar) Quiet (Saving pid bytes w) :=
  (Unsaved.stable pid w).or (Saved.stable pid bytes w)

/-- How a save ends: with the new state in place, or with an error and the old one. -/
def SaveEnd (pid : Nat) (bytes : Bytes) (w : World) (outcome : Except Error Unit) (m : Moment) : Prop :=
  (outcome = .ok () ∧ Saved pid bytes w m) ∨ (∃ error, outcome = .error error) ∧ Unsaved pid w m

theorem SaveEnd.stable (pid : Nat) (bytes : Bytes) (w : World) (outcome : Except Error Unit) :
    Stable (machine tar) Quiet (SaveEnd pid bytes w outcome) :=
  ((Stable.const _).and (Saved.stable pid bytes w)).or ((Stable.const _).and (Unsaved.stable pid w))

theorem closingOption_holds {file : Option Handle} {body : Prog Error Unit} {during : Moment → Prop}
    {post : Except Error Unit → Moment → Prop} {m : Moment} (stable : Stable (machine tar) Quiet during)
    (ends : ∀ outcome, Stable (machine tar) Quiet (post outcome))
    (holds : Holds (machine tar).record during post body m) :
    Holds (machine tar).record during post (closingOption file body) m := by
  cases file with
  | none => exact holds
  | some file => exact Run.closing (quiet_of_silent rfl) stable ends holds

theorem unlockDest_holds {bytes : Bytes} {destLock : Option Handle} {m : Moment} (saved : Saved pid bytes w m) :
    Holds (machine tar).record (Saved pid bytes w) (SaveEnd pid bytes w) (unlockDest destLock) m := by
  cases destLock with
  | none => exact ⟨saved,.inl ⟨rfl,saved⟩⟩
  | some file =>
    apply Run.ignore
    refine (Run.kept (quiet_of_silent rfl) (Saved.stable pid bytes w) saved).mono (fun _ now => now) ?_
    exact fun _ _ _ saved => .inl ⟨rfl,saved⟩

theorem moveTmp_holds {ino : Nat} {bytes : Bytes} {destLock : Option Handle} {message : String} {m : Moment}
    (start : Unsaved pid w m) (draft : Draft pid w ino bytes m.1) :
    Holds (machine tar).record (Saving pid bytes w) (SaveEnd pid bytes w)
      (do
        context message (Io.rename (.stateTmp pid) .stateJson)
        ignore (Io.syncDir .root)
        unlockDest destLock) m := by
  apply Holds.bind (fun outcome m => (outcome = .ok () ∧ Saved pid bytes w m) ∨
    ((∃ error, outcome = .error error) ∧ Unsaved pid w m))
  · apply Run.context
    refine (renameTmp_holds start draft).mono (fun _ now => now) (fun outcome _ _ ends => ?_)
    rcases ends with ⟨rfl,saved⟩ | ⟨failed,unsaved⟩
    · exact .inl ⟨rfl,saved⟩
    · cases outcome with
      | ok value => exact absurd rfl failed
      | error error => exact .inr ⟨⟨_,rfl⟩,unsaved⟩
  · intro _ m _ ended
    rcases ended with ⟨_,saved⟩ | ⟨⟨_,failed⟩,_⟩
    · apply Holds.bind (fun outcome m => outcome = .ok () ∧ Saved pid bytes w m)
      · apply Run.ignore
        refine (Run.kept (quiet_of_silent rfl) (Saved.stable pid bytes w) saved).mono
          (fun _ => .inr) (fun _ _ _ saved => ⟨rfl,saved⟩)
      · intro _ m _ ended
        exact (unlockDest_holds ended.2).mono (fun _ => .inr) (fun _ _ _ ends => ends)
      · exact fun _ _ _ ended => nomatch ended.1
    · cases failed
  · intro _ m _ ended
    exact ended.elim (fun done => nomatch done.1) (fun failed => .inr failed)

/-- `save` at every step: the old state is read until the rename and the new one from
then on; an error means that there was no rename. -/
theorem save_holds {state : InstallState} {m : Moment} (start : Unsaved pid w m) :
    Holds (machine tar).record (Saving pid (serde.toVecPretty state) w)
      (SaveEnd pid (serde.toVecPretty state) w) (save serde installRoot pid state) m := by
  have keep := @Unsaved.stable tar pid w
  have failed (error : Error) (m : Moment) (unsaved : Unsaved pid w m) :
      SaveEnd pid (serde.toVecPretty state) w (.error error) m := .inr ⟨⟨error,rfl⟩,unsaved⟩
  apply Holds.bind (fun _ m => Unsaved pid w m)
  · apply Run.context
    exact (Run.kept (quiet_of_silent rfl) keep start).mono (fun _ => .inl) (fun _ _ _ unsaved => unsaved)
  · intro _ m _ unsaved
    apply Holds.bind (fun outcome m => Unsaved pid w m ∧ ∀ tmp, outcome = .ok tmp → Draft pid w tmp.ino [] m.1)
    · apply Run.context
      refine (createTmp_holds unsaved).mono (fun _ => .inl) (fun outcome _ now ends => ⟨now,?_⟩)
      cases outcome with
      | ok tmp =>
        intro other same
        cases same
        exact ends tmp rfl
      | error error => exact nofun
    · intro tmp m _ opened
      apply Holds.bind (fun outcome m => Unsaved pid w m ∧ Draft pid w tmp.ino [] m.1)
      · apply Holds.attempt
        exact (openCell_holds opened.1 (opened.2 tmp rfl)).mono (fun _ => .inl) (fun _ _ now ends => ⟨now,ends⟩)
      · intro destLock m _ ready
        apply closingOption_holds (Saving.stable pid _ w) (SaveEnd.stable pid _ w)
        apply Holds.bind (fun outcome m => Unsaved pid w m ∧
          (outcome = .ok () → Draft pid w tmp.ino (serde.toVecPretty state) m.1))
        · apply Holds.mono (Run.closing (quiet_of_silent rfl) keep ?_ (saveBytes_holds ready.1 ready.2))
          · exact fun _ => .inl
          · exact fun _ _ now ends => ⟨now,ends⟩
          · intro outcome
            cases outcome with
            | ok value => exact fun operation choice m quiet ends _ =>
                Draft.stable _ _ w operation choice m quiet (ends rfl)
            | error error => exact fun _ _ _ _ _ => nofun
        · intro _ m _ written
          exact moveTmp_holds written.1 (written.2 rfl)
        · exact fun error m _ ended => failed error m ended.1
      · exact fun error m _ ended => failed error m ended.1
    · exact fun error m _ ended => failed error m ended.1
  · exact fun error m _ ended => failed error m ended

/-- The calls of a save. -/
inductive Saves (pid : Nat) : Call → Prop
  | quiet {operation : Call} (quiet : Quiet operation) : Saves pid operation
  | draft : Saves pid (.openFile (.stateTmp pid) .createNew)
  | cell : Saves pid (.openFile .stateJson .readWriteCreate)
  | write (file : Handle) (bytes : Bytes) : Saves pid (.writeAll file bytes)
  | replace : Saves pid (recorded pid)

theorem Saves.touches {operation : Call} (saves : Saves pid operation) {place : Loc} (own : Touches operation place) :
    stateFiles pid place := by
  cases saves with
  | quiet quiet => exact (quiet.touches place own).elim
  | draft => exact .inl own
  | cell => exact .inr own
  | write => exact own.elim
  | replace => exact own

theorem Saves.keeps {operation : Call} (saves : Saves pid operation) (file : Handle) :
    operation ≠ .setLenZero file := by
  intro same
  subst same
  cases saves with
  | quiet quiet => exact quiet.writes file.ino rfl

theorem Saves.packed {operation : Call} (saves : Saves pid operation) (entry : TarEntry) (place : Loc) (path : RelPath) :
    operation ≠ .unpack entry place path := by
  intro same
  subst same
  cases saves with
  | quiet quiet => exact quiet.touches place rfl

theorem closingOption_uses {allowed : Call → Prop} {file : Option Handle} {body : Prog Error Unit}
    (close : ∀ file, allowed (.close file)) (uses : Uses allowed body) :
    Uses allowed (closingOption file body) := by
  cases file with
  | none => exact uses
  | some file => exact Calls.closing (close file) uses

theorem save_uses (serde : Serde) (installRoot : String) (pid : Nat) (state : InstallState) :
    Uses (Saves pid) (save serde installRoot pid state) := by
  have silently {operation : Call} (quiet : silent operation = true) : Saves pid operation :=
    .quiet (quiet_of_silent quiet)
  have lock (file : Option Handle) : Uses (Saves pid) (lockDest file) := by
    cases file with
    | none => trivial
    | some file => exact Calls.context (Calls.sys (silently rfl))
  have unlock (file : Option Handle) : Uses (Saves pid) (unlockDest file) := by
    cases file with
    | none => trivial
    | some file => exact Calls.ignore (Calls.sys (silently rfl))
  refine (Calls.context (Calls.sys (silently rfl))).bind fun _ => ?_
  refine (Calls.context (Calls.sys .draft)).bind fun tmp => ?_
  refine (Uses.attempt (Calls.sys .cell)).bind fun destLock => ?_
  apply closingOption_uses (fun _ => silently rfl)
  refine (Calls.closing (silently rfl) ?_).bind fun _ => ?_
  · refine (lock _).bind fun _ => ?_
    refine (Calls.context (Calls.sys (.write _ _))).bind fun _ => ?_
    exact (Calls.context (Calls.sys (silently rfl))).bind fun _ => Calls.context (Calls.sys (silently rfl))
  · refine (Calls.context (Calls.sys .replace)).bind fun _ => ?_
    exact (Calls.ignore (Calls.sys (silently rfl))).bind fun _ => unlock _

end GatewaySdk.Upgrade
