import GatewaySdk.Upgrade.Replay

/-! The manual path beside the automatic one: a stage call that defers the swap, then
`manual_apply_pending`. -/
namespace GatewaySdk.Upgrade
open GatewaySdk.Effect GatewaySdk.Host

/-- The same coordinator with `manual_only` set. -/
def UpgradeCoordinator.byHand (coordinator : UpgradeCoordinator) : UpgradeCoordinator :=
  {coordinator with config := {coordinator.config with manualOnly := true}}

/-- What is under a directory, whatever its inode. -/
def contentAt (w : World) (place : Loc) : Option Dir :=
  match w.node place with
  | some (.dir _ content) => some content
  | _ => none

/-- The same state but for its two times. -/
def TimesAside (s t : InstallState) : Prop := {s with stagedAt := t.stagedAt, lastHealthAt := t.lastHealthAt} = t

/-- The links, the version directories and the state of two installs are the same. -/
structure SameInstall (serde : Serde) (w w' : World) : Prop where
  current : w.node .current = w'.node .current
  previous : w.node .previous = w'.node .previous
  versions : ∀ name, contentAt w (.version name) = contentAt w' (.version name)
  state : ∃ s t, readState serde w = some s ∧ readState serde w' = some t ∧ TimesAside s t

/-- The version is extracted as the automatic path extracts it, and recorded as staged
with `current` where it was. -/
structure HeldBack (serde : Serde) (v : String) (w automatic manual : World) : Prop where
  extracted : ∃ content, contentAt automatic (.version v) = some content ∧ contentAt manual (.version v) = some content
  recorded : ∃ s, readState serde manual = some s ∧ s.status = .stagedManual ∧ s.currentVersion = v
  current : manual.node .current = w.node .current

section Paths

variable (crates : Crates) (coordinator : UpgradeCoordinator) (network : Network) (request : StageRequest)

def applyRun (pid : Nat) (choices : List Choice) (w : World) : Prog Error Unit × Moment :=
  (machine crates.tar).record.run choices (manualApplyPending crates.serde coordinator.config.installRoot pid) (w,[])

/-- The manual stage holds the version back, and applying it ends as the automatic stage does. -/
structure PathsMeet (pid : Nat) (w : World) (automatic manual apply : List Choice) : Prop where
  held : HeldBack crates.serde request.version w (stageRun crates coordinator network request automatic w).2.1
    (stageRun crates coordinator.byHand network request manual w).2.1
  applied : (applyRun crates coordinator pid apply
    (stageRun crates coordinator.byHand network request manual w).2.1).1.result = some (.ok ())
  same : SameInstall crates.serde (stageRun crates coordinator network request automatic w).2.1
    (applyRun crates coordinator pid apply (stageRun crates coordinator.byHand network request manual w).2.1).2.1

variable {crates coordinator network request} {w : World} {m : Moment} {pid : Nat}

theorem byHand_framed (choices : List Choice) :
    Framed (fun _ => False) w (stageRun crates coordinator.byHand network request choices w).2.1 := by
  have keep : Stable (machine crates.tar) Quiet (fun m => Framed (fun _ => False) w m.1) :=
    (Framed.stable _ w).mono fun _ => Quiet.still
  have refused (manifest : Manifest) (tarballBytes : Bytes) :
      ¬ Approved crates coordinator.byHand network request manifest tarballBytes := fun approved => approved.automatic rfl
  exact ((refused_holds keep (m := (w,[])) (.refl _ w) refused).run choices).1

theorem byHand_state (choices : List Choice) :
    readState crates.serde (stageRun crates coordinator.byHand network request choices w).2.1 =
      readState crates.serde w := by
  have framed := @byHand_framed crates coordinator network request w choices
  exact readState_same (framed.node .stateJson id) framed.data

def applied (t : InstallState) : InstallState := {t with status := .pendingHealth, bootAttempts := 0}

/-- Applying succeeds on a state that says a version is held back, and saves that state
as one to be watched. -/
theorem apply_holds (installRoot : String) (record : ¬ Done (recorded pid) m.2) :
    Holds (machine crates.tar).record (fun _ => True)
      (fun outcome m' => outcome = .ok () → ∃ t, readState crates.serde m.1 = some t ∧ t.status = .stagedManual ∧
        readState crates.serde m'.1 = some (applied t))
      (manualApplyPending crates.serde installRoot pid) m := by
  have quiet : Stable (machine crates.tar) Quiet (fun m' => Framed linkPlaces m.1 m'.1 ∧ ¬ Done (recorded pid) m'.2) :=
    ((Framed.stable linkPlaces m.1).mono fun _ quiet => quiet.within _).and (Stable.not_done (recorded_loud pid))
  have relinks : Stable (machine crates.tar) Relinks
      (fun m' => Framed linkPlaces m.1 m'.1 ∧ ¬ Done (recorded pid) m'.2) := by
    refine ((Framed.stable linkPlaces m.1).mono fun _ relinks => relinks.within).and (Stable.not_done fun relinks => ?_)
    obtain own | own | own := relinks.within.1 .stateJson (.inr rfl) <;> cases own
  have same {m' : Moment} (framed : Framed linkPlaces m.1 m'.1) :
      readState crates.serde m'.1 = readState crates.serde m.1 :=
    readState_same (framed.node .stateJson (by simp [linkPlaces])) framed.data
  have loads := ((load_uses crates.serde installRoot).stable quiet ⟨.refl _ _,record⟩).and
    (@load_holds crates.tar crates.serde installRoot _ m quiet ⟨.refl _ _,record⟩)
  refine Holds.bind _ (loads.mono (fun _ _ => trivial) (fun _ _ _ ends => ends)) ?_
    (fun _ _ _ _ failed => by cases failed)
  intro t m' _ loaded
  obtain ⟨held,reported⟩ := loaded
  have read : readState crates.serde m.1 = some t := (same held.1).symm.trans (reported.1 t rfl)
  refine Run.bindExcept trivial (fun _ pending => ?_) (fun _ _ failed => by cases failed)
  have status : t.status = .stagedManual := by
    by_contra other
    rw [bailIf,if_pos other] at pending
    cases pending
  refine Holds.bind _ (((Calls.request (quiet_of_silent rfl)).stable quiet held).mono (fun _ _ => trivial)
    (fun _ _ _ held => held)) ?_ (fun _ _ _ _ failed => by cases failed)
  intro there m' _ held
  refine Run.bindExcept trivial (fun _ _ => ?_) (fun _ _ failed => by cases failed)
  refine Holds.bind _ (((swap_relinks _).stable relinks held).mono (fun _ _ => trivial) (fun _ _ _ held => held)) ?_
    (fun _ _ _ _ failed => by cases failed)
  intro _ m' _ held
  have unsaved : Unsaved pid m'.1 m' := ⟨.refl _ _,.inl rfl,held.2⟩
  refine (save_holds unsaved).mono (fun _ _ => trivial) (fun outcome m'' _ ended done => ?_)
  obtain ⟨_,saved⟩ | ⟨⟨error,failed⟩,_⟩ := ended
  · exact ⟨t,read,status,readState_saved saved⟩
  · cases failed.symm.trans done

theorem apply_state {choices : List Choice}
    (done : (applyRun crates coordinator pid choices w).1.result = some (.ok ())) :
    ∃ t, readState crates.serde w = some t ∧ t.status = .stagedManual ∧
      readState crates.serde (applyRun crates coordinator pid choices w).2.1 = some (applied t) :=
  ((@apply_holds crates (w,[]) pid coordinator.config.installRoot (not_done_nil _)).run choices).2 _ done rfl

/-- A stage call that succeeds, and whose first read of the state did not fail, saves a
sequence above the one there was. -/
theorem staged_sequence {choices : List Choice} {staged : StagedUpgrade}
    (done : (stageRun crates coordinator network request choices w).1.result = some (.ok staged))
    (reads : ¬ Saw FailedRead (checks (stageRun crates coordinator network request choices w).2.2)) :
    ∃ s, readState crates.serde (stageRun crates coordinator network request choices w).2.1 = some s ∧
      ∀ t, readState crates.serde w = some t → t.lastSequence < s.lastSequence := by
  obtain ⟨manifest,prev,now,newer,state,_⟩ := stage_records done
  exact ⟨_,state,fun t read => (newer t read).resolve_right reads⟩

/-- Whatever the manual path ends in, it is not what the automatic one has saved. -/
theorem paths_apart {automatic manual apply : List Choice} {s : InstallState}
    (state : readState crates.serde (stageRun crates coordinator network request automatic w).2.1 = some s)
    (above : ∀ t, readState crates.serde w = some t → t.lastSequence < s.lastSequence) :
    ¬ PathsMeet crates coordinator network request pid w automatic manual apply := by
  intro meet
  obtain ⟨t,read,_,kept⟩ := apply_state meet.applied
  obtain ⟨s',t',state',kept',aside⟩ := meet.same.state
  obtain rfl := Option.some.inj (state.symm.trans state')
  obtain rfl := Option.some.inj (kept.symm.trans kept')
  have sequence := congrArg InstallState.lastSequence aside
  have less : t.lastSequence < t.lastSequence := sequence ▸ above t ((byHand_state manual).symm.trans read)
  exact UInt64.lt_irrefl _ less

/-- Wherever the automatic stage succeeds, the manual path ends elsewhere: nothing is
extracted and nothing is recorded. -/
theorem manual_path_never_meets (crates : Crates) (coordinator : UpgradeCoordinator) (network : Network)
    (request : StageRequest) (pid : Nat) (w : World) (automatic manual apply : List Choice) (staged : StagedUpgrade)
    (done : (stageRun crates coordinator network request automatic w).1.result = some (.ok staged))
    (reads : ¬ Saw FailedRead (checks (stageRun crates coordinator network request automatic w).2.2)) :
    ¬ PathsMeet crates coordinator network request pid w automatic manual apply := by
  obtain ⟨s,state,above⟩ := staged_sequence done reads
  exact paths_apart state above

end Paths

theorem sample_path_never_meets : ¬ PathsMeet Sample.crates Sample.coordinator (Sample.network Sample.newRelease)
    (Sample.request Sample.newRelease) 7 Sample.installed (List.replicate 60 smooth) (List.replicate 9 smooth)
    (List.replicate 60 smooth) :=
  manual_path_never_meets _ _ _ _ _ _ _ _ _ Sample.staged Sample.upgrade_staged (not_failed_of_smooth 60)

/-- With no fault at all the automatic stage succeeds, and the manual path leaves nothing
under `versions` and no state. -/
theorem manual_path_stages_nothing :
    (stageRun Sample.crates Sample.coordinator (Sample.network Sample.newRelease)
        (Sample.request Sample.newRelease) (List.replicate 60 smooth) Sample.installed).1.result =
        some (.ok Sample.staged) ∧
      ¬ PathsMeet Sample.crates Sample.coordinator (Sample.network Sample.newRelease)
        (Sample.request Sample.newRelease) 7 Sample.installed (List.replicate 60 smooth)
        (List.replicate 60 smooth) (List.replicate 60 smooth) := by
  refine ⟨Sample.upgrade_staged,fun meet => ?_⟩
  obtain ⟨content,_,extracted⟩ := meet.held.extracted
  have framed := @byHand_framed Sample.crates Sample.coordinator (Sample.network Sample.newRelease)
    (Sample.request Sample.newRelease) Sample.installed (List.replicate 60 smooth)
  rw [contentAt,framed.node (.version (Sample.request Sample.newRelease).version) id] at extracted
  cases extracted

end GatewaySdk.Upgrade
