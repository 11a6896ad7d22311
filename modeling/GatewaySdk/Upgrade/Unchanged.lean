import GatewaySdk.Upgrade.Armed

/-! What a stage call that ends in an error has changed of the install: nothing, unless
it had removed something of the version's old directory, completed the new one or made
an empty `state.json`. -/
namespace GatewaySdk.Upgrade
open GatewaySdk.Effect GatewaySdk.Host

/-- The links, `state.json` and every version but the partial one are the same. -/
structure Unchanged (v : String) (w w' : World) : Prop where
  current : w'.node .current = w.node .current
  previous : w'.node .previous = w.node .previous
  state : w'.content .stateJson = w.content .stateJson
  versions : ∀ name ≠ v ++ ".partial", w'.node (.version name) = w.node (.version name)

/-- A removal of the version's directory that took something away. -/
def Emptied (v : String) (event : Event Sig Choice World) : Prop :=
  event.operation = .removeDirAll (.version v) ∧
    (succeeded event.operation event.reply = true ∨
      0 < event.choice.amount ∧ event.before.contentOf (.version v) ≠ [])

/-- An open of `state.json` for its lock that made it. -/
def CellMade (event : Event Sig Choice World) : Prop :=
  event.operation = .openFile .stateJson .readWriteCreate ∧ succeeded event.operation event.reply = true ∧
    event.before.node .stateJson = none

/-- A call that can change the entry of `state.json`. -/
def Stated (event : Event Sig Choice World) : Prop := Touches event.operation .stateJson

section Failing

variable {crates : Crates} {coordinator : UpgradeCoordinator} {network : Network} {request : StageRequest}
  {tar : TarCrate} {v : String} {pid : Nat} {w w' : World} {m : Moment}

/-- Something of the version's directory is gone. -/
def Lost (v : String) (w w' : World) : Prop :=
  (∃ entry, w.node (.version v) = some entry) ∧ (w'.node (.version v) = none ∨
    ∃ ino old rest, w.node (.version v) = some (.dir ino old) ∧ w'.node (.version v) = some (.dir ino rest) ∧
      rest.length < old.length)

theorem Lost.ne (lost : Lost v w w') : w'.node (.version v) ≠ w.node (.version v) := by
  intro same
  obtain ⟨⟨entry,found⟩,gone | ⟨ino,old,rest,before,after,less⟩⟩ := lost
  · rw [gone,found] at same
    cases same
  · rw [before,after] at same
    simp only [Option.some.injEq,Node.dir.injEq,true_and] at same
    rw [same] at less
    exact Nat.lt_irrefl _ less

/-- Either the version's directory is what it was, or a removal took of it. -/
def Removals (v : String) (w : World) (m : Moment) : Prop :=
  (m.1.node (.version v) = w.node (.version v) ∧ ¬ Saw (Emptied v) m.2) ∨ Lost v w m.1 ∧ Saw (Emptied v) m.2

theorem Removals.apart (v : String) (w : World) : Stable (machine tar) (Apart (.version v)) (Removals v w) := by
  have lost : Stable (machine tar) (Apart (.version v)) (fun m => Lost v w m.1) :=
    Stable.entry (.version v) fun entry => (∃ held, w.node (.version v) = some held) ∧ (entry = none ∨
      ∃ ino old rest, w.node (.version v) = some (.dir ino old) ∧ entry = some (.dir ino rest) ∧
        rest.length < old.length)
  refine Stable.or (Stable.and (Stable.entry (.version v) fun entry => entry = w.node (.version v)) ?_)
    (lost.and (Stable.saw _))
  apply Stable.not_saw
  intro event apart emptied
  exact apart (emptied.1 ▸ rfl)

theorem Removals.idle (removals : Removals v w m) {event : Event Sig Choice World}
    (still : w'.node (.version v) = m.1.node (.version v)) (idle : ¬ Emptied v event) :
    Removals v w (w',m.2 ++ [event]) := by
  rcases removals with ⟨same,none⟩ | ⟨lost,some⟩
  · refine .inl ⟨still.trans same,fun saw => ?_⟩
    rcases saw_snoc.mp saw with before | now
    · exact none before
    · exact idle now
  · refine .inr ⟨?_,saw_snoc.mpr (.inl some)⟩
    unfold Lost
    rw [still]
    exact lost

theorem Removals.cut (removals : Removals v w m) {event : Event Sig Choice World} {ino : Nat} {content rest : Dir}
    (found : m.1.node (.version v) = some (.dir ino content)) (entry : w'.node (.version v) = some (.dir ino rest))
    (shorter : rest.length < content.length) (emptied : Emptied v event) : Removals v w (w',m.2 ++ [event]) := by
  refine .inr ⟨?_,saw_snoc.mpr (.inr emptied)⟩
  obtain ⟨same,_⟩ | ⟨⟨there,gone | ⟨i,old,left,before,held,less⟩⟩,_⟩ := removals
  · have first := same.symm.trans found
    exact ⟨⟨_,first⟩,.inr ⟨ino,content,rest,first,entry,shorter⟩⟩
  · rw [gone] at found
    cases found
  · rw [held] at found
    obtain ⟨rfl,rfl⟩ : i = ino ∧ left = content := by simpa using found
    exact ⟨there,.inr ⟨i,old,rest,before,entry,Nat.lt_trans shorter less⟩⟩

theorem Removals.remove (removals : Removals v w m) (choice : Choice) :
    Removals v w ((machine tar).record.exec (.removeDirAll (.version v)) choice m).2 := by
  generalize answered : (machine tar).exec (.removeDirAll (.version v)) choice m.1 = result
  obtain ⟨reply,w'⟩ := result
  simp only [Machine.record,Machine.event,answered]
  obtain ⟨rfl,⟨entry,found⟩,rfl⟩ | ⟨error,rfl,rfl,empty⟩ | ⟨error,rfl,rfl⟩ := removeDirAll_cases answered
  · refine .inr ⟨⟨?_,.inl (by simp)⟩,saw_snoc.mpr (.inr ⟨rfl,.inl rfl⟩)⟩
    obtain ⟨same,_⟩ | ⟨lost,_⟩ := removals
    · exact ⟨entry,same.symm.trans found⟩
    · exact lost.1
  · refine removals.idle rfl ?_
    rintro ⟨_,done | ⟨_,full⟩⟩
    · cases done
    · exact full empty
  · have known := World.contentOf.eq_def m.1 (.version v)
    split at known
    next ino content found =>
      have after := World.refill_dir m.1 (.version v) found ((m.1.contentOf (.version v)).drop choice.amount)
      have entry : (m.1.refill (.version v) ((m.1.contentOf (.version v)).drop choice.amount)).node (.version v) =
          some (.dir ino (content.drop choice.amount)) := by
        rw [after,known]
        simp
      by_cases takes : 0 < choice.amount ∧ content ≠ []
      · have shorter : (content.drop choice.amount).length < content.length := by
          have some := List.length_pos_of_ne_nil takes.2
          rw [List.length_drop]
          omega
        exact removals.cut found entry shorter ⟨rfl,.inr ⟨takes.1,known ▸ takes.2⟩⟩
      · have all : content.drop choice.amount = content := by
          rw [not_and_or,Nat.not_lt,Nat.le_zero,not_not] at takes
          obtain none | rfl := takes
          · rw [none,List.drop_zero]
          · exact List.drop_nil
        rw [all] at entry
        refine removals.idle (entry.trans found.symm) ?_
        rintro ⟨_,done | some⟩
        · cases done
        · exact takes ⟨some.1,known ▸ some.2⟩
    next other =>
      have still := World.refill_other m.1 (.version v) (fun ino old found => other ino old found)
        ((m.1.contentOf (.version v)).drop choice.amount)
      refine removals.idle (by rw [still]) ?_
      rintro ⟨_,done | some⟩
      · cases done
      · exact some.2 known

/-- What the phases before the completion touch. -/
def workshop (v : String) (place : Loc) : Prop := place = .versions ∨ place = .partialOf v ∨ place = .version v

/-- The version is not complete and `state.json` was not opened. -/
def Clearing (v : String) (w : World) (m : Moment) : Prop :=
  (Framed (workshop v) w m.1 ∧ Removals v w m) ∧ ¬ Done (completed v) m.2 ∧ ¬ Saw Stated m.2

/-- The same, with a partial directory that was not there before. -/
def Filling (v : String) (w : World) (m : Moment) : Prop :=
  Clearing v w m ∧ ∃ ino content, w.fresh ≤ ino ∧ m.1.node (.partialOf v) = some (.dir ino content)

/-- The version's directory is one that was not there before. -/
def Completed (v : String) (w : World) (m : Moment) : Prop :=
  (∃ ino content, w.fresh ≤ ino ∧ m.1.node (.version v) = some (.dir ino content)) ∧ Done (completed v) m.2

theorem Completed.stable (v : String) (w : World) : Stable (machine tar) (Apart (.version v)) (Completed v w) :=
  Stable.and (Stable.entry (.version v) fun entry => ∃ ino content, w.fresh ≤ ino ∧ entry = some (.dir ino content))
    (Stable.done _)

/-- Calls of the workshop that neither remove the old version nor complete the new one. -/
structure Works (v : String) (operation : Call) : Prop where
  within : Within (workshop v) operation
  apart : Apart (.version v) operation

theorem Works.of_quiet {operation : Call} (quiet : Quiet operation) : Works v operation where
  within := quiet.within _
  apart own := quiet.touches _ own

theorem Works.of_fills {tarballBytes : Bytes} {operation : Call} (fills : Fills tar v tarballBytes operation) :
    Works v operation where
  within := fills.within.mono fun _ same => .inr (.inl same)
  apart := Apart.of_within fills.within (partialOf_ne v).symm

theorem stated_of_made {log : Log} (made : Saw CellMade log) : Saw Stated log :=
  made.mono fun event made => by rw [Stated,made.1]; rfl

theorem stated_of_recorded {log : Log} (done : Done (recorded pid) log) : Saw Stated log :=
  done.mono fun event done => by rw [Stated,done.1]; exact .inr rfl

theorem not_stated_within : Stable (machine tar) (Within (workshop v)) (fun m => ¬ Saw Stated m.2) := by
  apply Stable.not_saw
  intro event within stated
  obtain other | other | other := within.touches .stateJson stated
  all_goals cases other

theorem not_completed_apart : Stable (machine tar) (Apart (.version v)) (fun m => ¬ Done (completed v) m.2) :=
  Stable.not_done fun apart => apart (.inr rfl)

theorem Clearing.works (v : String) (w : World) : Stable (machine tar) (Works v) (Clearing v w) := by
  refine Stable.and (Stable.and ?_ ?_) (Stable.and ?_ ?_)
  · exact (Framed.stable (workshop v) w).mono fun _ works => works.within
  · exact (Removals.apart v w).mono fun _ works => works.apart
  · exact not_completed_apart.mono fun _ works => works.apart
  · exact not_stated_within.mono fun _ works => works.within

theorem Clearing.clears (v : String) (w : World) : Stable (machine tar) (Clears v) (Clearing v w) := by
  intro operation choice m clears clearing
  have works (works : Works v operation) := @Clearing.works tar v w operation choice m works clearing
  have partial_ : Loc.version v ≠ .partialOf v := (partialOf_ne v).symm
  obtain quiet | rfl | rfl | rfl | rfl := clears
  · exact works (.of_quiet quiet)
  · exact works ⟨⟨fun place own => .inl own,nofun⟩,nofun⟩
  · exact works ⟨⟨fun place own => .inr (.inl own),nofun⟩,partial_⟩
  · exact works ⟨⟨fun place own => .inr (.inl own),nofun⟩,partial_⟩
  · have within : Within (workshop v) (.removeDirAll (.version v)) := ⟨fun place own => .inr (.inr own),nofun⟩
    refine ⟨⟨Framed.stable _ w _ choice m within clearing.1.1,clearing.1.2.remove choice⟩,?_,?_⟩
    · exact not_done_other clearing.2.1 nofun
    · exact not_stated_within _ choice m within clearing.2.2

theorem Filling.fills (v : String) (tarballBytes : Bytes) (w : World) :
    Stable (machine tar) (Fills tar v tarballBytes) (Filling v w) := by
  refine Stable.and ((Clearing.works v w).mono fun _ => .of_fills) ?_
  intro operation choice m fills filled
  obtain ⟨ino,content,new,found⟩ := filled
  have refilled (refills : Refills (.partialOf v) operation) :
      ∃ i c, w.fresh ≤ i ∧ ((machine tar).exec operation choice m.1).2.node (.partialOf v) = some (.dir i c) := by
    obtain ⟨after,held⟩ := @exec_refilled tar choice m.1 _ _ refills _ _ found
    exact ⟨ino,after,new,held⟩
  cases fills with
  | looks still =>
    exact ⟨ino,content,new,((exec_effect operation).node fun own => still.touches _ own).trans found⟩
  | unpack | setMode | rename => exact refilled rfl

theorem Filling.moved {choice : Choice} (answered : (machine tar).exec (completed v) choice m.1 = (.ok (),w'))
    (filling : Filling v w m) : Completed v w (w',m.2 ++ [⟨m.1,completed v,choice,.ok ()⟩]) := by
  obtain ⟨_,ino,content,new,found⟩ := filling
  obtain ⟨error,failed,_⟩ | ⟨_,_,rfl⟩ := rename_cases answered
  · cases failed
  · refine ⟨⟨ino,content,new,?_⟩,done_snoc.mpr (.inr ⟨rfl,rfl⟩)⟩
    rw [World.move_node m.1 found,Function.update_self]

theorem Filling.unmoved {choice : Choice} {error : IoError} (filling : Filling v w m) :
    Filling v w (m.1,m.2 ++ [⟨m.1,completed v,choice,.error error⟩]) := by
  obtain ⟨⟨held,absent,unmade⟩,partial_⟩ := filling
  refine ⟨⟨⟨held.1,?_⟩,not_done_failed absent rfl,?_⟩,partial_⟩
  · refine held.2.imp (fun kept => ⟨kept.1,?_⟩) (fun lost => ⟨lost.1,saw_snoc.mpr (.inl lost.2)⟩)
    intro saw
    obtain before | now := saw_snoc.mp saw
    · exact kept.2 before
    · cases now.1
  · intro saw
    obtain before | now := saw_snoc.mp saw
    · exact unmade before
    · obtain other | other := now
      all_goals cases other

theorem failing_phases (tar : TarCrate) (v : String) (tarballBytes : Bytes) (w : World) :
    Phases tar v tarballBytes (Clearing v w) (Filling v w) (Completed v w) (Completed v w) where
  clears := Clearing.clears v w
  made m choice w' answered held := by
    have kept := (Clearing.clears v w).after (.inr (.inr (.inl rfl))) held answered
    obtain ⟨error,failed,_⟩ | ⟨_,_,rfl⟩ := createDir_cases answered
    · cases failed
    · exact ⟨kept,m.1.fresh,[],held.1.1.fresh,by simp⟩
  fills := Filling.fills v tarballBytes w
  moved _ _ _ answered held := held.moved answered
  unmoved _ _ _ _ held := held.unmoved
  links := (Completed.stable v w).mono fun operation links => Apart.of_within links.within (by simp)
  swaps _ _ _ answered held _ _ := (Completed.stable v w).after (by simp [Apart,Touches,swapped]) held answered
  unswapped _ _ _ answered held := (Completed.stable v w).after (by simp [Apart,Touches,swapped]) held answered
  collects := (Completed.stable v w).mono fun operation collects own => by
    obtain quiet | ⟨name,other,rfl⟩ := collects
    · exact quiet.touches _ own
    · exact other (Loc.version.inj own).symm

/-- `state.json` as it was, or made empty, or replaced. -/
def Recorded (pid : Nat) (w : World) (m : Moment) : Prop :=
  (m.1.node .stateJson = w.node .stateJson ∧ ¬ Saw CellMade m.2) ∨
    ((w.node .stateJson = none ∧ (∃ ino, m.1.node .stateJson = some (.file ino)) ∧ Saw CellMade m.2) ∨
      Done (recorded pid) m.2)

theorem Recorded.apart (pid : Nat) (w : World) : Stable (machine tar) (Apart .stateJson) (Recorded pid w) := by
  have unmade : Stable (machine tar) (Apart .stateJson) (fun m => ¬ Saw CellMade m.2) :=
    Stable.not_saw fun event apart made => apart (made.1 ▸ rfl)
  have kept := (@Stable.entry tar .stateJson fun entry => entry = w.node .stateJson).and unmade
  have found := @Stable.entry tar .stateJson fun entry => ∃ ino, entry = some (.file ino)
  exact kept.or (((Stable.const _).and (found.and (Stable.saw _))).or (Stable.done _))

theorem Recorded.opened (choice : Choice) (held : Recorded pid w m) :
    Recorded pid w ((machine tar).record.exec (.openFile .stateJson .readWriteCreate) choice m).2 := by
  generalize answered : (machine tar).exec (.openFile .stateJson .readWriteCreate) choice m.1 = result
  obtain ⟨reply,w'⟩ := result
  simp only [Machine.record,Machine.event,answered]
  obtain kept | made | done := held
  · obtain ⟨error,rfl,rfl⟩ | ⟨ino,found,rfl,rfl⟩ | ⟨free,rfl,rfl⟩ := openCreate_cases answered
    · refine .inl ⟨kept.1,fun saw => ?_⟩
      obtain before | ⟨_,done,_⟩ := saw_snoc.mp saw
      · exact kept.2 before
      · cases done
    · refine .inl ⟨kept.1,fun saw => ?_⟩
      obtain before | ⟨_,_,none⟩ := saw_snoc.mp saw
      · exact kept.2 before
      · rw [found] at none
        cases none
    · refine .inr (.inl ⟨kept.1.symm.trans free,⟨m.1.fresh,by simp⟩,?_⟩)
      exact saw_snoc.mpr (.inr ⟨rfl,rfl,free⟩)
  · obtain ⟨absent,⟨ino,found⟩,saw⟩ := made
    refine .inr (.inl ⟨absent,?_,saw_snoc.mpr (.inl saw)⟩)
    obtain ⟨error,rfl,rfl⟩ | ⟨i,_,rfl,rfl⟩ | ⟨free,rfl,rfl⟩ := openCreate_cases answered
    · exact ⟨ino,found⟩
    · exact ⟨ino,found⟩
    · rw [free] at found
      cases found
  · exact .inr (.inr (done_snoc.mpr (.inl done)))

theorem Recorded.replaced (choice : Choice) (held : Recorded pid w m) :
    Recorded pid w ((machine tar).record.exec (recorded pid) choice m).2 := by
  generalize answered : (machine tar).exec (recorded pid) choice m.1 = result
  obtain ⟨reply,w'⟩ := result
  simp only [Machine.record,Machine.event,answered]
  obtain ⟨error,rfl,rfl⟩ | ⟨rfl,_,rfl⟩ := rename_cases answered
  · refine held.imp (fun kept => ⟨kept.1,fun saw => ?_⟩) (Or.imp ?_ ?_)
    · obtain before | ⟨other,_⟩ := saw_snoc.mp saw
      · exact kept.2 before
      · cases other
    · exact fun made => ⟨made.1,made.2.1,saw_snoc.mpr (.inl made.2.2)⟩
    · exact fun done => done_snoc.mpr (.inl done)
  · exact .inr (.inr (done_snoc.mpr (.inr ⟨rfl,rfl⟩)))

theorem Recorded.stable (pid : Nat) (w : World) : Stable (machine tar) (Saves pid) (Recorded pid w) := by
  intro operation choice m saves held
  cases saves with
  | quiet quiet => exact Recorded.apart pid w operation choice m (fun own => quiet.touches _ own) held
  | draft => exact Recorded.apart pid w _ choice m (fun own => by cases own) held
  | cell => exact held.opened choice
  | write => exact Recorded.apart pid w _ choice m (fun own => own.elim) held
  | replace => exact held.replaced choice

/-- A failed call that did not complete the version. -/
structure Halted (v : String) (w : World) (m : Moment) : Prop where
  links : m.1.node .current = w.node .current ∧ m.1.node .previous = w.node .previous
  others : ∀ name, name ≠ v → name ≠ v ++ ".partial" → m.1.node (.version name) = w.node (.version name)
  removals : Removals v w m
  incomplete : ¬ Done (completed v) m.2
  state : (m.1.content .stateJson = w.content .stateJson ∧ ¬ Saw CellMade m.2) ∨
    m.1.content .stateJson ≠ w.content .stateJson ∧ Saw CellMade m.2

theorem Clearing.halted (clearing : Clearing v w m) : Halted v w m := by
  obtain ⟨⟨framed,removals⟩,absent,unmade⟩ := clearing
  have node (place : Loc) (out : ¬ workshop v place) := framed.node place out
  refine ⟨⟨node _ (by simp [workshop,Loc.partialOf]),node _ (by simp [workshop,Loc.partialOf])⟩,?_,removals,absent,
    .inl ⟨content_same (node _ (by simp [workshop,Loc.partialOf])) framed.data,fun made => unmade (stated_of_made made)⟩⟩
  intro name other partial_
  exact node _ (by simp [workshop,Loc.partialOf,other,partial_])

theorem recordStaged_halted {manifest : Manifest} (start : Clearing v w m) :
    Holds (machine crates.tar).record (fun _ => True) (fun outcome m => ∀ error, outcome = .error error → Halted v w m)
      (recordStaged crates coordinator request manifest) m := by
  have before := start.halted
  have recorded_ : Recorded coordinator.pid w m :=
    .inl ⟨start.1.1.node _ (by simp [workshop,Loc.partialOf]),fun made => start.2.2 (stated_of_made made)⟩
  have apart {operation : Call} (saves : Saves coordinator.pid operation) (place : Loc)
      (out : ¬ stateFiles coordinator.pid place) : Apart place operation := fun own => out (saves.touches own)
  have entry (place : Loc) (out : ¬ stateFiles coordinator.pid place) :
      Stable (machine crates.tar) (Saves coordinator.pid) (fun m => m.1.node place = w.node place) :=
    (Stable.entry place fun held => held = w.node place).mono fun _ saves => apart saves place out
  have links := (entry .current (by simp [stateFiles])).and (entry .previous (by simp [stateFiles]))
  have others : Stable (machine crates.tar) (Saves coordinator.pid)
      (fun m => ∀ name, name ≠ v → name ≠ v ++ ".partial" → m.1.node (.version name) = w.node (.version name)) := by
    intro operation choice m saves held name other partial_
    exact entry (.version name) (by simp [stateFiles]) operation choice m saves (held name other partial_)
  have rest : Stable (machine crates.tar) (Saves coordinator.pid) (fun m => Removals v w m ∧ ¬ Done (completed v) m.2) :=
    ((Removals.apart v w).and not_completed_apart).mono fun _ saves => apart saves _ (by simp [stateFiles])
  have all := (links.and others).and (rest.and (Recorded.stable coordinator.pid w))
  have now := (@recordStaged_uses crates coordinator request manifest).stable all (m := m)
    ⟨⟨before.links,before.others⟩,⟨before.removals,before.incomplete⟩,recorded_⟩
  have unsaved : Unsaved coordinator.pid m.1 m := ⟨.refl _ _,.inl rfl,fun done => start.2.2 (stated_of_recorded done)⟩
  refine (now.and (recordStaged_holds unsaved)).mono (fun _ _ => trivial) ?_
  intro outcome m' _ ended error failed
  obtain ⟨⟨⟨links,others⟩,⟨removals,incomplete⟩,cell⟩,ended⟩ := ended
  obtain ⟨done,_⟩ | ⟨_,unsaved⟩ := ended
  · rw [failed] at done
    cases done
  · refine ⟨links,others,removals,incomplete,?_⟩
    obtain ⟨same,unmade⟩ | ⟨absent,⟨ino,found⟩,made⟩ | done := cell
    · refine .inl ⟨content_same same ?_,unmade⟩
      intro ino old
      have before := start.1.1
      exact (unsaved.1.data ino (Nat.lt_of_lt_of_le old before.fresh)).trans (before.data ino old)
    · refine .inr ⟨?_,made⟩
      simp [World.content,absent,found]
    · exact absurd done unsaved.2.2

/-- How a call that changed something can end in an error. -/
def Failure (v : String) (w : World) {ε α : Type} (outcome : Except ε α) (m : Moment) : Prop :=
  ∀ error, outcome = .error error → Halted v w m ∨ Completed v w m

theorem recordStaged_failure {manifest : Manifest} (start : Completed v w m ∨ Clearing v w m) :
    Holds (machine crates.tar).record (fun _ => True) (Failure v w)
      (recordStaged crates coordinator request manifest) m := by
  obtain done | clearing := start
  · have keep := (@Completed.stable crates.tar v w).mono fun operation (saves : Saves coordinator.pid operation) =>
      show Apart (.version v) operation from fun own => by obtain same | same := saves.touches own <;> cases same
    exact ((recordStaged_uses manifest).stable keep done).mono (fun _ _ => trivial) (fun _ _ _ held _ _ => .inr held)
  · exact (recordStaged_halted clearing).mono (fun _ now => now) (fun _ _ _ ends error same => .inl (ends error same))

theorem install_failure {manifest : Manifest} {tarballBytes : Bytes} (start : Clearing request.version w m) :
    Holds (machine crates.tar).record (fun _ => True) (Failure request.version w)
      (install crates coordinator request manifest tarballBytes) m := by
  have stages := @stageNewVersion_holds crates.tar request.version tarballBytes _ _ _ _ m
    coordinator.config.installRoot coordinator.profile.binaryName manifest
    (failing_phases crates.tar request.version tarballBytes w) start
  apply Holds.bind (fun outcome m => (∀ place, outcome = .ok place → Completed request.version w m ∨
    Clearing request.version w m) ∧ Failure request.version w outcome m)
  · apply Holds.mapError
    refine stages.mono (fun _ _ => trivial) ?_
    intro outcome m _ ended
    obtain ⟨⟨place,rfl⟩,live⟩ | ⟨⟨error,rfl⟩,held⟩ := ended
    · exact ⟨fun _ _ => live.imp id And.left,nofun⟩
    · refine ⟨nofun,fun _ _ => ?_⟩
      obtain clearing | filling | completed := held
      · exact .inl clearing.halted
      · exact .inl filling.1.halted
      · exact .inr completed
  · intro place m _ ended
    refine Holds.bind _ (recordStaged_failure (ended.1 place rfl)) ?_ (fun error _ _ ends _ _ => ends error rfl)
    intro _ m _ _
    have sends (event : UpgradeEvent) : Quiet (.trySend event) := quiet_of_silent rfl
    refine Holds.bind _ (Run.ignored (Calls.sys (sends _)) (Stable.const True) trivial) ?_ (fun _ _ _ ended => nomatch ended.1)
    exact fun _ m _ _ => ⟨trivial,nofun⟩
  · exact fun error m _ ended _ _ => ended.2 error rfl

theorem stage_failure : Holds (machine crates.tar).record (fun _ => True) (Failure request.version w)
    (stage crates coordinator network request) (w,[]) := by
  have start : Clearing request.version w (w,[]) :=
    ⟨⟨.refl _ w,.inl ⟨rfl,not_saw_nil _⟩⟩,not_done_nil _,not_saw_nil _⟩
  have keep := (@Clearing.works crates.tar request.version w).mono fun _ quiet => Works.of_quiet quiet
  apply Holds.bind (fun _ => Clearing request.version w)
  · exact (approve_uses.stable keep start).mono (fun _ _ => trivial) (fun _ _ _ held => held)
  · exact fun admitted m _ held => install_failure held
  · exact fun error m _ held _ _ => .inl held.halted

theorem Halted.unchanged_iff (halted : Halted v w m) :
    Unchanged v w m.1 ↔ ¬ Saw (Emptied v) m.2 ∧ ¬ Done (completed v) m.2 ∧ ¬ Saw CellMade m.2 := by
  have own : v ≠ v ++ ".partial" := fun same => partialOf_ne v (congrArg Loc.version same.symm)
  constructor
  · intro unchanged
    refine ⟨?_,halted.incomplete,?_⟩
    · obtain ⟨_,unemptied⟩ | ⟨lost,_⟩ := halted.removals
      · exact unemptied
      · exact absurd (unchanged.versions v own) lost.ne
    · obtain ⟨_,unmade⟩ | ⟨other,_⟩ := halted.state
      · exact unmade
      · exact absurd unchanged.state other
  · intro orderly
    obtain ⟨unemptied,_,unmade⟩ := orderly
    refine ⟨halted.links.1,halted.links.2,?_,fun name partial_ => ?_⟩
    · obtain ⟨same,_⟩ | ⟨_,made⟩ := halted.state
      · exact same
      · exact absurd made unmade
    · by_cases other : name = v
      · obtain ⟨same,_⟩ | ⟨_,emptied⟩ := halted.removals
        · exact other ▸ same
        · exact absurd emptied unemptied
      · exact halted.others name other partial_

theorem Completed.changed (completed : Completed v w m) : ¬ Unchanged v w m.1 := by
  intro unchanged
  have own : v ≠ v ++ ".partial" := fun same => partialOf_ne v (congrArg Loc.version same.symm)
  obtain ⟨⟨ino,content,new,found⟩,_⟩ := completed
  have old := w.allocated _ _ ((unchanged.versions v own).symm.trans found) ino rfl
  exact absurd old (Nat.not_lt.mpr new)

end Failing
namespace Sample

def fullDisk : List Choice := List.replicate 24 smooth ++ [⟨true,0⟩]

def saveError : UpgradeError :=
  ⟨"upgrade_extract_failed","state.json write failed: creating /opt/bilbycast/gateway/state.json.tmp.7"⟩

theorem stage_failed : (stageRun crates coordinator (network newRelease) (request newRelease) fullDisk
    installed).1.result = some (.error saveError) := by
  rw [stageRun,stage_eq checked_new fetched_new tarball_new rfl]
  decide +kernel

end Sample

end GatewaySdk.Upgrade
