import GatewaySdk.Upgrade.Gate

/-! Crash order of an upgrade: whether the version that is live when a stage call ends
or is cut short is also the one the watchdog has been told about. -/
namespace GatewaySdk.Upgrade
open GatewaySdk.Effect GatewaySdk.Host

section Order

variable {crates : Crates} {coordinator : UpgradeCoordinator} {network : Network} {request : StageRequest} {w : World}
  {m : Moment}

/-- The live version and the state are what they were. -/
def Unswapped (pid : Nat) (w : World) (m : Moment) : Prop :=
  Framed (fun place => place ≠ .current ∧ place ≠ .stateJson) w m.1 ∧ ¬ Done swapped m.2 ∧
    ¬ Done (recorded pid) m.2

/-- The new version is live and the state is what it was. -/
def Swapped (v : String) (pid : Nat) (w : World) (m : Moment) : Prop :=
  Framed (fun place => place ≠ .stateJson) w m.1 ∧ m.1.node .current = some (.symlink (.version v)) ∧
    Done swapped m.2 ∧ ¬ Done (recorded pid) m.2

/-- Calls elsewhere than on these two places. -/
def Aside (operation : Call) : Prop := Within (fun place => place ≠ .current ∧ place ≠ .stateJson) operation

theorem Aside.of_quiet {operation : Call} (quiet : Quiet operation) : Aside operation := quiet.within _

theorem Aside.of_clears {v : String} {operation : Call} (clears : Clears v operation) : Aside operation := by
  obtain quiet | rfl | rfl | rfl | rfl := clears
  · exact .of_quiet quiet
  all_goals exact ⟨fun place own => by subst own; simp [Loc.partialOf],nofun⟩

theorem Aside.of_fills {tar : TarCrate} {v : String} {tarballBytes : Bytes} {operation : Call}
    (fills : Fills tar v tarballBytes operation) : Aside operation :=
  fills.within.mono fun place same => by subst same; simp [Loc.partialOf]

theorem Aside.of_links {operation : Call} (links : Links operation) : Aside operation := by
  refine links.within.mono fun place own => ?_
  obtain rfl | rfl := own
  · simp
  · simp

theorem Aside.of_collects {v : String} {operation : Call} (collects : Collects v operation) : Aside operation := by
  obtain quiet | ⟨name,_,rfl⟩ := collects
  · exact .of_quiet quiet
  · exact ⟨fun place own => by subst own; simp,nofun⟩

theorem Aside.completed (v : String) : Aside (completed v) := by
  refine ⟨fun place own => ?_,nofun⟩
  obtain rfl | rfl := own
  · simp [Loc.partialOf]
  · simp

theorem swapped_loud : ¬ Aside swapped := fun aside => (aside.touches .current (.inr rfl)).1 rfl

theorem recorded_not_aside (pid : Nat) : ¬ Aside (recorded pid) :=
  fun aside => (aside.touches .stateJson (.inr rfl)).2 rfl

theorem Unswapped.stable (pid : Nat) (w : World) : Stable (machine crates.tar) Aside (Unswapped pid w) :=
  (Framed.stable _ w).and ((Stable.not_done swapped_loud).and (Stable.not_done (recorded_not_aside pid)))

theorem Swapped.stable (v : String) (pid : Nat) (w : World) :
    Stable (machine crates.tar) Aside (Swapped v pid w) := by
  refine ((Framed.stable (fun place => place ≠ .stateJson) w).mono ?_).and ?_
  · exact fun operation aside => aside.mono fun _ own => own.2
  · refine Stable.and ?_ ((Stable.done swapped).and (Stable.not_done (recorded_not_aside pid)))
    exact Stable.node .current (fun own => own.1 rfl) _

theorem Unswapped.swap {v : String} {pid : Nat} {choice : Choice} {w' : World} (unswapped : Unswapped pid w m)
    (answered : (machine crates.tar).exec swapped choice m.1 = (.ok (),w'))
    (linked : m.1.node .currentTmp = some (.symlink (.version v))) :
    Swapped v pid w (w',m.2 ++ [⟨m.1,swapped,choice,.ok ()⟩]) := by
  obtain ⟨framed,_,absent⟩ := unswapped
  obtain ⟨error,failed,_⟩ | ⟨_,_,rfl⟩ := rename_cases answered
  · cases failed
  · have moved := @World.move_node m.1 _ .current _ linked
    have own : Within (fun place => place ≠ .stateJson) swapped :=
      ⟨fun place own => by obtain rfl | rfl := own <;> simp,nofun⟩
    have kept := @exec_framed crates.tar choice m.1 _ _ own
    rw [answered] at kept
    refine ⟨(framed.mono fun _ own => own.2).trans kept,?_,done_snoc.mpr (.inr ⟨rfl,rfl⟩),?_⟩
    · rw [moved]
      simp
    · exact not_done_other absent (by simp [swapped,recorded])

theorem arming (v : String) (pid : Nat) (w : World) (tarballBytes : Bytes) :
    Phases crates.tar v tarballBytes (Unswapped pid w) (Unswapped pid w) (Unswapped pid w) (Swapped v pid w) where
  clears := (Unswapped.stable pid w).mono fun _ => .of_clears
  made _ _ _ answered held := (Unswapped.stable pid w).after (.of_clears (.inr (.inr (.inl rfl)))) held answered
  fills := (Unswapped.stable pid w).mono fun _ => .of_fills
  moved _ _ _ answered held := (Unswapped.stable pid w).after (Aside.completed v) held answered
  unmoved _ _ _ answered held := (Unswapped.stable pid w).after (Aside.completed v) held answered
  links := (Unswapped.stable pid w).mono fun _ => .of_links
  swaps _ _ _ answered held linked _ := held.swap answered linked
  unswapped _ _ _ _ held := ⟨held.1,not_done_failed held.2.1 rfl,not_done_other held.2.2 (by simp [swapped,recorded])⟩
  collects := (Swapped.stable v pid w).mono fun _ => .of_collects

/-- The old version is still the live one. -/
def Before (w : World) (m : Moment) : Prop := m.1.node .current = w.node .current ∧ ¬ Done swapped m.2

/-- The new version is live and the watchdog would read the old state. -/
def Unarmed (serde : Serde) (v : String) (pid : Nat) (w : World) (m : Moment) : Prop :=
  m.1.node .current = some (.symlink (.version v)) ∧ Done swapped m.2 ∧ ¬ Done (recorded pid) m.2 ∧
    readState serde m.1 = readState serde w

/-- What the next boot has to read for the watchdog to count it. -/
def Watched (serde : Serde) (v : String) (w : World) : Prop :=
  ∃ s, readState serde w = some s ∧ s.currentVersion = v ∧ s.status = .pendingHealth

def Armed (serde : Serde) (v : String) (pid : Nat) (m : Moment) : Prop :=
  m.1.node .current = some (.symlink (.version v)) ∧ Done swapped m.2 ∧ Done (recorded pid) m.2 ∧
    Watched serde v m.1

/-- The three moments of an upgrade as a crash finds them. -/
def Order (serde : Serde) (v : String) (pid : Nat) (w : World) (m : Moment) : Prop :=
  Before w m ∨ Unarmed serde v pid w m ∨ Armed serde v pid m

theorem Order.stable (serde : Serde) (v : String) (pid : Nat) (w : World) :
    Stable (machine crates.tar) Quiet (Order serde v pid w) := by
  have place (found : Option Node) : Stable (machine crates.tar) Quiet (fun m => m.1.node .current = found) :=
    (Stable.node .current id found).mono fun _ => Quiet.still
  have before : Stable (machine crates.tar) Quiet (Before w) :=
    (place _).and (Stable.not_done fun quiet => quiet.touches .current (.inr rfl))
  have unarmed : Stable (machine crates.tar) Quiet (Unarmed serde v pid w) :=
    (place _).and ((Stable.done _).and ((Stable.not_done (recorded_loud pid)).and (readState_stable _)))
  have watched : Stable (machine crates.tar) Quiet (fun m => Watched serde v m.1) := by
    intro operation choice m quiet held
    obtain ⟨s,read,named⟩ := held
    exact ⟨s,readState_stable (some s) operation choice m quiet read,named⟩
  exact before.or (unarmed.or ((place _).and ((Stable.done _).and ((Stable.done _).and watched))))

theorem Unswapped.before {pid : Nat} (unswapped : Unswapped pid w m) : Before w m :=
  ⟨unswapped.1.node .current (by simp),unswapped.2.1⟩

/-- The recording of a swapped version: unarmed until its rename and armed from then on. -/
theorem recordStaged_armed {manifest : Manifest} (start : Swapped request.version coordinator.pid w m) :
    Holds (machine crates.tar).record (Order crates.serde request.version coordinator.pid w)
      (fun _ => Order crates.serde request.version coordinator.pid w)
      (recordStaged crates coordinator request manifest) m := by
  obtain ⟨framed,live,done,absent⟩ := start
  have unsaved : Unsaved coordinator.pid m.1 m := ⟨.refl _ _,.inl rfl,absent⟩
  have moment (m' : Moment) (swap : Done swapped m'.2) (held : Unsaved coordinator.pid m.1 m' ∨
      Recording crates coordinator request manifest m.1 m') :
      Order crates.serde request.version coordinator.pid w m' := by
    have same := @readState_same crates.serde _ _ (framed.node .stateJson (by simp)) framed.data
    obtain kept | ⟨prev,now,_,_,saved⟩ := held
    · have still := (kept.1.node .current (by simp [stateFiles])).trans live
      exact .inr (.inl ⟨still,swap,kept.2.2,(readState_unsaved kept).trans same⟩)
    · have still := (saved.1.node .current (by simp [stateFiles])).trans live
      exact .inr (.inr ⟨still,swap,saved.2.2,_,readState_saved saved,rfl,rfl⟩)
  refine ((recordStaged_holds unsaved).and ((recordStaged_uses manifest).stable (Stable.done swapped) done)).mono ?_ ?_
  · exact fun m' held => moment m' held.2 held.1
  · intro outcome m' held _
    exact moment m' held.2 held.1

/-- A version found to be live already is not new. -/
theorem install_ordered {manifest : Manifest} {tarballBytes : Bytes} {old : String}
    (other : request.version ≠ old) (running : w.node .current = some (.symlink (.version old)))
    (start : Unswapped coordinator.pid w m) :
    Holds (machine crates.tar).record (Order crates.serde request.version coordinator.pid w)
      (fun _ => Order crates.serde request.version coordinator.pid w)
      (install crates coordinator request manifest tarballBytes) m := by
  have early {m : Moment} (held : Unswapped coordinator.pid w m) :
      Order crates.serde request.version coordinator.pid w m := .inl held.before
  have late {m : Moment} (held : Swapped request.version coordinator.pid w m) :
      Order crates.serde request.version coordinator.pid w m :=
    .inr (.inl ⟨held.2.1,held.2.2.1,held.2.2.2,
      readState_same (held.1.node .stateJson (by simp)) held.1.data⟩)
  have stages := @stageNewVersion_holds crates.tar request.version tarballBytes _ _ _ _ m
    coordinator.config.installRoot coordinator.profile.binaryName manifest
    (arming request.version coordinator.pid w tarballBytes) start
  apply Holds.bind (fun outcome m => Order crates.serde request.version coordinator.pid w m ∧
    ∀ place, outcome = .ok place → Swapped request.version coordinator.pid w m)
  · apply Holds.mapError
    refine stages.mono ?_ ?_
    · intro m held
      obtain held | held | held | held := held
      · exact early held
      · exact early held
      · exact early held
      · exact late held
    · intro outcome m _ ended
      obtain ⟨⟨place,rfl⟩,live | ⟨held,found⟩⟩ | ⟨⟨error,rfl⟩,held⟩ := ended
      · exact ⟨late live,fun _ _ => live⟩
      · have same := (held.before.1.trans running).symm.trans found
        simp only [Option.some.injEq,Node.symlink.injEq,Loc.version.injEq] at same
        exact absurd same.symm other
      · have held : Unswapped coordinator.pid w m := by
          obtain held | held | held := held <;> exact held
        exact ⟨early held,nofun⟩
  · intro place m _ ended
    refine Holds.next (recordStaged_armed (ended.2 place rfl)) ?_ (fun _ _ held => held)
    intro _ m held
    refine Holds.next (Run.ignored (Calls.sys (quiet_of_silent rfl)) (Order.stable _ _ _ _) held) ?_
      (fun _ _ held => held)
    exact fun _ m held => ⟨held,held⟩
  · exact fun _ _ held _ => held

theorem Approved.other {manifest : Manifest} {tarballBytes : Bytes}
    (approved : Approved crates coordinator network request manifest tarballBytes) :
    request.version ≠ coordinator.currentVersion := by
  obtain ⟨base,checked,_⟩ := approved.checked
  obtain ⟨_,_,checked⟩ := bind_ok.mp checked
  obtain ⟨_,_,checked⟩ := bind_ok.mp checked
  obtain ⟨_,_,checked⟩ := bind_ok.mp checked
  obtain ⟨target,targetIs,checked⟩ := bind_ok.mp checked
  obtain ⟨current,currentIs,checked⟩ := bind_ok.mp checked
  obtain ⟨_,window,_⟩ := bind_ok.mp checked
  intro same
  have parsed := coded_ok.mp targetIs
  rw [same,coded_ok.mp currentIs] at parsed
  exact checkVersionWindow_ne crates.semver (coded_ok.mp window) (Except.ok.inj parsed).symm

theorem stage_ordered (running : w.node .current = some (.symlink (.version coordinator.currentVersion))) :
    Holds (machine crates.tar).record (Order crates.serde request.version coordinator.pid w)
      (fun _ => Order crates.serde request.version coordinator.pid w)
      (stage crates coordinator network request) (w,[]) := by
  have keep := (@Unswapped.stable crates coordinator.pid w).mono fun _ quiet => Aside.of_quiet quiet
  have start : Unswapped coordinator.pid w (w,[]) := ⟨.refl _ w,not_done_nil _,not_done_nil _⟩
  apply Holds.bind (fun outcome m => Unswapped coordinator.pid w m ∧
    ∀ manifest tarballBytes, outcome = .ok (manifest,tarballBytes) → request.version ≠ coordinator.currentVersion)
  · refine (approve_holds keep start).mono (fun _ held => .inl held.before) ?_
    intro outcome m held accepted
    refine ⟨held,fun manifest tarballBytes same => ?_⟩
    exact (accepted manifest tarballBytes same).1.other
  · intro admitted m _ held
    exact install_ordered (held.2 admitted.1 admitted.2 rfl) running held.1
  · exact fun _ _ _ held => .inl held.1.before

/-- A version that is live is one the next boot counts. -/
def Guarded (serde : Serde) (v : String) (w : World) : Prop :=
  w.node .current = some (.symlink (.version v)) → Watched serde v w

end Order

namespace Sample

def installed : World := World.bare.link .current (.version coordinator.currentVersion)

theorem approved_new : Approved crates coordinator (network newRelease) (request newRelease) newRelease.manifest
    tarball :=
  ⟨⟨newRelease.url,checked_new,fetched_new⟩,tarball_new,by decide⟩

end Sample

end GatewaySdk.Upgrade
