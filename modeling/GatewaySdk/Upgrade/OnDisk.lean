import GatewaySdk.Upgrade.Removals
import GatewaySdk.Upgrade.Replay

/-! The directory a rollback would go back to, over the life of an install. -/
namespace GatewaySdk.Upgrade
open GatewaySdk.Effect GatewaySdk.Host

/-- An install and what is remembered of it: the version of the process that runs, and
the directories that were put in place as complete ones. -/
structure Disk where
  world : World
  running : String
  installed : String → Node → Prop

section OnDisk

variable {crates : Crates} {disk : Disk} {act : Act}

/-- A boot runs the version that is live; other operations leave the process alone. -/
def runningAfter (disk : Disk) (act : Act) : String :=
  match act.action,disk.world.node .current with
  | .boot _ _,some (.symlink (.version v)) => v
  | _,_ => disk.running

def installedBy (crates : Crates) (w : World) (act : Act) (v : String) (entry : Node) : Prop :=
  match act.action with
  | .stage _ _ request => v = request.version ∧ Saw (Put v entry) (act.moment crates w).2
  | _ => False

noncomputable def Disk.after (crates : Crates) (disk : Disk) (act : Act) : Disk where
  world := act.after crates disk.world
  running := runningAfter disk act
  installed v entry := disk.installed v entry ∨ installedBy crates disk.world act v entry

theorem disk_world : (disk.after crates act).world = act.after crates disk.world := rfl

/-- The version's directory is there, and one that was put in place as complete. -/
def Sound (disk : Disk) (v : String) : Prop :=
  ∃ ino content, disk.world.node (.version v) = some (.dir ino content) ∧ disk.installed v (.dir ino content)

/-- The versions whose directories have to stay: the one that runs, the live one, the
one the state names, and the target of a rollback. -/
inductive Needed (serde : Serde) (disk : Disk) : String → Prop
  | running : Needed serde disk disk.running
  | live (v : String) (link : disk.world.node .current = some (.symlink (.version v))) : Needed serde disk v
  | current (s : InstallState) (read : readState serde disk.world = some s) : Needed serde disk s.currentVersion
  | target (s : InstallState) (p : String) (read : readState serde disk.world = some s)
    (pending : s.status = .pendingHealth) (previous : s.previousVersion = some p) : Needed serde disk p

/-- The operation is one that takes no needed directory away, at the modification times
the directories have. An accepted stage call is one of the process that runs; it has no
needed directory for its partial one, its collection takes none, and the version it is
of is not a needed one, or is the live one and the link can be read. -/
def Sparing (crates : Crates) (disk : Disk) (act : Act) : Prop :=
  ∃ times, Timed times (act.moment crates disk.world).2 ∧
    match act.action with
    | .stage coordinator network request => coordinator.currentVersion = disk.running ∧ ∀ manifest tarballBytes,
        Approved crates coordinator network request manifest tarballBytes → ∀ v, Needed crates.serde disk v →
          Loc.version v ≠ .partialOf request.version ∧ ¬ Collected times request.version 3 disk.world v ∧
            (v = request.version → disk.world.node .current = some (.symlink (.version v)) ∧
              ¬ Saw FailedLink (act.moment crates disk.world).2)
    | .gc currentVersion keep => ∀ v, Needed crates.serde disk v → ¬ Collected times currentVersion keep disk.world v
    | _ => True

/-- An install at rest: the version that runs is the live one, and the one the state
names, where there is a state. -/
structure Resting (serde : Serde) (disk : Disk) : Prop where
  whole : Sound disk disk.running
  live : disk.world.node .current = some (.symlink (.version disk.running))
  state : ∀ s, readState serde disk.world = some s → s.currentVersion = disk.running ∧ s.status ≠ .pendingHealth

/-- Whatever is needed is there; a version under watch has one to go back to. -/
structure Stocked (serde : Serde) (disk : Disk) : Prop where
  whole : ∀ v, Needed serde disk v → Sound disk v
  live : ∃ v, disk.world.node .current = some (.symlink (.version v))
  target : ∀ s, readState serde disk.world = some s → s.status = .pendingHealth → ∃ p, s.previousVersion = some p

/-- A version under watch has its rollback target on disk. -/
def TargetOnDisk (serde : Serde) (disk : Disk) : Prop :=
  ∀ s, readState serde disk.world = some s → s.status = .pendingHealth →
    ∃ p, s.previousVersion = some p ∧ disk.world.isDir (.version p) = true ∧ Sound disk p

theorem Resting.stocked (resting : Resting crates.serde disk) : Stocked crates.serde disk where
  whole v needed := by
    cases needed with
    | running => exact resting.whole
    | live _ link =>
      have same := Option.some.inj (resting.live.symm.trans link)
      obtain rfl : disk.running = v := by simpa using same
      exact resting.whole
    | current s read => exact (resting.state s read).1 ▸ resting.whole
    | target s _ read pending previous => exact absurd pending (resting.state s read).2
  live := ⟨disk.running,resting.live⟩
  target s read pending := absurd pending (resting.state s read).2

theorem Stocked.target_there (stocked : Stocked crates.serde disk) : TargetOnDisk crates.serde disk := by
  intro s read pending
  obtain ⟨p,previous⟩ := stocked.target s read pending
  obtain ⟨ino,content,found,put⟩ := stocked.whole p (.target s p read pending previous)
  refine ⟨p,previous,?_,ino,content,found,put⟩
  rw [World.isDir,World.stat_of_no_link disk.world _ _ found nofun]

theorem Sound.after {v : String} (whole : Sound disk v)
    (same : (act.after crates disk.world).node (.version v) = disk.world.node (.version v)) :
    Sound (disk.after crates act) v := by
  obtain ⟨ino,content,found,put⟩ := whole
  exact ⟨ino,content,same.trans found,.inl put⟩

theorem stage_sound {coordinator : UpgradeCoordinator} {network : Network} {request : StageRequest}
    {choices : List Choice} {v : String} (unfollowing : Unfollowing crates coordinator network request)
    (apart : Loc.version v ≠ .partialOf request.version)
    (unremoved : ¬ Saw (Removal v) (Act.moment crates disk.world ⟨.stage coordinator network request,choices⟩).2)
    (whole : Sound disk v) : Sound (disk.after crates ⟨.stage coordinator network request,choices⟩) v := by
  have dirs : VersionDirs request.version disk.world
      (Act.moment crates disk.world ⟨.stage coordinator network request,choices⟩) :=
    (stageRun_holds unfollowing stage_dirs choices).1
  obtain (same | removed) | ⟨rfl,ino,content,found,put⟩ := dirs.left apart
  · exact whole.after same
  · exact absurd removed unremoved
  · exact ⟨ino,content,found,.inr ⟨rfl,put⟩⟩

theorem needed_sound {v : String} (act : Act) (unfollowed : act.Unfollowed crates) (sparing : Sparing crates disk act)
    (stocked : Stocked crates.serde disk) (needed : Needed crates.serde disk v) : Sound (disk.after crates act) v := by
  have whole := stocked.whole v needed
  obtain ⟨action,choices⟩ := act
  obtain ⟨times,told,sparing⟩ := sparing
  cases action with
  | stage coordinator network request =>
    have unfollowing := unfollowed _ _ _ rfl
    by_cases accepted : ∃ manifest tarballBytes, Approved crates coordinator network request manifest tarballBytes
    · obtain ⟨manifest,tarballBytes,approved⟩ := accepted
      obtain ⟨apart,kept,own⟩ := sparing.2 manifest tarballBytes approved v needed
      refine stage_sound unfollowing apart ?_ whole
      by_cases same : v = request.version
      · subst same
        obtain ⟨live,reads⟩ := own rfl
        exact fun removed => reads ((stageRun_holds unfollowing (stage_living live) choices).1 removed)
      · exact (stageRun_holds unfollowing (stage_spares same apart kept) choices).1 told
    · have keep : Stable (machine crates.tar) Quiet
          (fun m => m.1.node (.version v) = disk.world.node (.version v)) :=
        (Stable.node _ id _).mono fun _ => Quiet.still
      have refused (manifest : Manifest) (tarballBytes : Bytes) :
          ¬ Approved crates coordinator network request manifest tarballBytes :=
        fun approved => accepted ⟨manifest,tarballBytes,approved⟩
      exact whole.after ((refused_holds keep (m := (disk.world,[])) rfl refused).run choices).1
  | boot cfg pid => exact whole.after (boot_entry cfg pid (by simp [swapPlaces]) (by simp [stateFiles]))
  | beat installRoot pid => exact whole.after (beat_entry installRoot pid (by simp [stateFiles]))
  | finalize cfg pid => exact whole.after (finalize_entry cfg pid (by simp [stateFiles]))
  | gc currentVersion keep =>
    have left : Stable (machine crates.tar) (Collects currentVersion) (Left v disk.world) :=
      fun operation choice m collects held => held.stable fun own => by
        obtain quiet | ⟨name,_,rfl⟩ := collects
        · exact absurd own (quiet.touches _)
        · obtain rfl : v = name := by simpa [Touches] using own
          rfl
    have spared := (@gcVersions_spares crates.tar _ _ _ _ (disk.world,[]) (sparing v needed)
      fun _ => not_saw_nil _).run choices
    obtain same | removed := (((gcVersions_uses keep).stable left (m := (disk.world,[])) (.inl rfl)).run choices).1
    · exact whole.after same
    · exact absurd removed (spared.1 told)

/-- It is enough to look at what is newly needed. -/
theorem Stocked.of_needs (act : Act) (unfollowed : act.Unfollowed crates) (stocked : Stocked crates.serde disk)
    (sparing : Sparing crates disk act) (needs : ∀ v, Needed crates.serde (disk.after crates act) v →
      Needed crates.serde disk v ∨ Sound (disk.after crates act) v)
    (live : ∃ v, (act.after crates disk.world).node .current = some (.symlink (.version v)))
    (target : ∀ s, readState crates.serde (act.after crates disk.world) = some s → s.status = .pendingHealth →
      ∃ p, s.previousVersion = some p) : Stocked crates.serde (disk.after crates act) where
  whole v needed := (needs v needed).elim (needed_sound act unfollowed sparing stocked) id
  live := live
  target := target

theorem stage_stocked {coordinator : UpgradeCoordinator} {network : Network} {request : StageRequest}
    {choices : List Choice} (unfollowed : Act.Unfollowed crates ⟨.stage coordinator network request,choices⟩)
    (stocked : Stocked crates.serde disk) (sparing : Sparing crates disk ⟨.stage coordinator network request,choices⟩) :
    Stocked crates.serde (disk.after crates ⟨.stage coordinator network request,choices⟩) := by
  have dirs : VersionDirs request.version disk.world
      (Act.moment crates disk.world ⟨.stage coordinator network request,choices⟩) :=
    (stageRun_holds (unfollowed _ _ _ rfl) stage_dirs choices).1
  have own : coordinator.currentVersion = disk.running := sparing.choose_spec.2.1
  have fresh (swap : Done swapped (Act.moment crates disk.world ⟨.stage coordinator network request,choices⟩).2) :
      Sound (disk.after crates ⟨.stage coordinator network request,choices⟩) request.version := by
    obtain ⟨ino,content,found,put⟩ := dirs.stands swap
    exact ⟨ino,content,found,.inr ⟨rfl,put⟩⟩
  cases @stage_moment crates disk.world choices coordinator network request (unfollowed _ _ _ rfl) with
  | before current state swap record =>
    refine stocked.of_needs _ unfollowed sparing (fun v needed => .inl ?_) (current ▸ stocked.live) (fun s read => ?_)
    · cases needed with
      | running => exact .running
      | live _ link => exact .live v (current.symm.trans link)
      | current s read => exact .current s (state.symm.trans read)
      | target s _ read pending previous => exact .target s v (state.symm.trans read) pending previous
    · exact stocked.target s (state.symm.trans read)
  | between manifest accepted current state swap record =>
    refine stocked.of_needs _ unfollowed sparing (fun v needed => ?_) ⟨_,current⟩ (fun s read => ?_)
    · cases needed with
      | running => exact .inl .running
      | live _ link =>
        obtain rfl : request.version = v := by simpa using current.symm.trans link
        exact .inr (fresh swap)
      | current s read => exact .inl (.current s (state.symm.trans read))
      | target s _ read pending previous => exact .inl (.target s v (state.symm.trans read) pending previous)
    · exact stocked.target s (state.symm.trans read)
  | after manifest accepted prev now found current state record live =>
    have placed : Needed crates.serde disk request.version ∨
        Sound (disk.after crates ⟨.stage coordinator network request,choices⟩) request.version := by
      obtain ⟨swap,_⟩ | ⟨_,already,_⟩ := live
      · exact .inr (fresh swap)
      · exact .inl (.live _ already)
    refine stocked.of_needs _ unfollowed sparing (fun v needed => ?_) ⟨_,current⟩ (fun s read pending => ?_)
    · cases needed with
      | running => exact .inl .running
      | live _ link =>
        obtain rfl : request.version = v := by simpa using current.symm.trans link
        exact placed
      | current s read =>
        obtain rfl := Option.some.inj (state.symm.trans read)
        exact placed
      | target s _ read pending previous =>
        obtain rfl := Option.some.inj (state.symm.trans read)
        obtain rfl := Option.some.inj previous
        cases prev with
        | none => exact .inl (own ▸ .running)
        | some s =>
          obtain same | ⟨absent,_⟩ := found
          · exact .inl (.current s same.symm)
          · cases absent
    · obtain rfl := Option.some.inj (state.symm.trans read)
      exact ⟨_,rfl⟩

theorem Stocked.of_named (act : Act) (unfollowed : act.Unfollowed crates) (stocked : Stocked crates.serde disk)
    (sparing : Sparing crates disk act) (runs : Needed crates.serde disk (runningAfter disk act))
    (link : ∃ v, (act.after crates disk.world).node .current = some (.symlink (.version v)) ∧ Needed crates.serde disk v)
    (state : ∀ t, readState crates.serde (act.after crates disk.world) = some t →
      Needed crates.serde disk t.currentVersion ∧
        (t.status = .pendingHealth → ∃ p, t.previousVersion = some p ∧ Needed crates.serde disk p)) :
    Stocked crates.serde (disk.after crates act) := by
  obtain ⟨q,live,known⟩ := link
  refine stocked.of_needs _ unfollowed sparing (fun v needed => .inl ?_) ⟨q,live⟩ (fun t read pending => ?_)
  · cases needed with
    | running => exact runs
    | live _ link =>
      obtain rfl : q = v := by simpa using live.symm.trans link
      exact known
    | current t read => exact (state t read).1
    | target t _ read pending previous =>
      obtain ⟨p,named,known⟩ := (state t read).2 pending
      obtain rfl := Option.some.inj (named.symm.trans previous)
      exact known
  · obtain ⟨p,named,_⟩ := (state t read).2 pending
    exact ⟨p,named⟩

theorem Stocked.link {entry : Option Node} (stocked : Stocked crates.serde disk)
    (same : entry = disk.world.node .current) :
    ∃ v, entry = some (.symlink (.version v)) ∧ Needed crates.serde disk v := by
  obtain ⟨v,live⟩ := stocked.live
  exact ⟨v,same.trans live,.live v live⟩

theorem Stocked.named {s t : InstallState} (stocked : Stocked crates.serde disk)
    (read : readState crates.serde disk.world = some s) (current : t.currentVersion = s.currentVersion)
    (watched : t.status = .pendingHealth → s.status = .pendingHealth ∧ t.previousVersion = s.previousVersion) :
    Needed crates.serde disk t.currentVersion ∧
      (t.status = .pendingHealth → ∃ p, t.previousVersion = some p ∧ Needed crates.serde disk p) := by
  refine ⟨current ▸ .current s read,fun pending => ?_⟩
  obtain ⟨under,same⟩ := watched pending
  obtain ⟨p,previous⟩ := stocked.target s read under
  exact ⟨p,same.trans previous,.target s p read under previous⟩

theorem boot_running {cfg : Option UpgradeConfig} {pid : Nat} {choices : List Choice} :
    Needed crates.serde disk (runningAfter disk ⟨.boot cfg pid,choices⟩) := by
  unfold runningAfter
  split
  next v _ link => exact .live _ link
  next => exact .running

theorem boot_stocked {cfg : Option UpgradeConfig} {pid : Nat} {choices : List Choice}
    (unfollowed : Act.Unfollowed crates ⟨.boot cfg pid,choices⟩) (stocked : Stocked crates.serde disk)
    (sparing : Sparing crates disk ⟨.boot cfg pid,choices⟩) :
    Stocked crates.serde (disk.after crates ⟨.boot cfg pid,choices⟩) := by
  have back {s : InstallState} {p : String} (read : readState crates.serde disk.world = some s)
      (pending : s.status = .pendingHealth)
      (link : Reverted s p disk.world (Act.moment crates disk.world ⟨.boot cfg pid,choices⟩)) :
      Needed crates.serde disk p := .target s p read pending link.1
  cases @boot_moment crates disk.world choices cfg pid with
  | same link state =>
    refine stocked.of_named _ unfollowed sparing boot_running (stocked.link link.1) fun t found => ?_
    exact stocked.named (state.symm.trans found) rfl fun under => ⟨under,rfl⟩
  | torn s read pending link state cut =>
    exact stocked.of_named _ unfollowed sparing boot_running (stocked.link link.1) fun t found => nomatch state.symm.trans found
  | counted s read pending link state =>
    refine stocked.of_named _ unfollowed sparing boot_running (stocked.link link.1) fun t found => ?_
    obtain rfl := Option.some.inj (state.symm.trans found)
    exact stocked.named read rfl fun under => ⟨under,rfl⟩
  | reverting s p read pending spent link state =>
    refine stocked.of_named _ unfollowed sparing boot_running ⟨p,link.2.2.1,back read pending link⟩ fun t found => ?_
    obtain rfl := Option.some.inj (state.symm.trans found)
    exact stocked.named read rfl fun under => ⟨under,rfl⟩
  | rolledBack s p read pending spent link state =>
    refine stocked.of_named _ unfollowed sparing boot_running ⟨p,link.2.2.1,back read pending link⟩ fun t found => ?_
    obtain rfl := Option.some.inj (state.symm.trans found)
    exact ⟨back read pending link,nofun⟩
  | unreverted s read pending spent link state record =>
    refine stocked.of_named _ unfollowed sparing boot_running (stocked.link link.1) fun t found => ?_
    obtain rfl := Option.some.inj (state.symm.trans found)
    exact stocked.named read rfl nofun
  | announced s read status link state =>
    refine stocked.of_named _ unfollowed sparing boot_running (stocked.link link.1) fun t found => ?_
    obtain rfl := Option.some.inj (state.symm.trans found)
    exact stocked.named read rfl nofun

theorem act_stocked (act : Act) (unfollowed : act.Unfollowed crates) (sparing : Sparing crates disk act)
    (stocked : Stocked crates.serde disk) : Stocked crates.serde (disk.after crates act) := by
  obtain ⟨action,choices⟩ := act
  cases action with
  | stage coordinator network request => exact stage_stocked unfollowed stocked sparing
  | boot cfg pid => exact boot_stocked unfollowed stocked sparing
  | beat installRoot pid =>
    refine stocked.of_named _ unfollowed sparing .running (stocked.link (beat_entry installRoot pid (by simp [stateFiles]))) ?_
    intro u found
    obtain state | ⟨s,t,read,noted,state⟩ := @beat_moment crates disk.world choices installRoot pid
    · exact stocked.named (state.symm.trans found) rfl fun under => ⟨under,rfl⟩
    · obtain rfl := Option.some.inj (state.symm.trans found)
      obtain rfl | ⟨_,now,rfl⟩ := noted
      · exact stocked.named read rfl fun under => ⟨under,rfl⟩
      · exact stocked.named read rfl fun under => ⟨under,rfl⟩
  | finalize cfg pid =>
    refine stocked.of_named _ unfollowed sparing .running (stocked.link (finalize_entry cfg pid (by simp [stateFiles]))) ?_
    intro u found
    obtain state | ⟨s,t,read,⟨_,rfl⟩,state⟩ := @finalize_moment crates disk.world choices cfg pid
    · exact stocked.named (state.symm.trans found) rfl fun under => ⟨under,rfl⟩
    · obtain rfl := Option.some.inj (state.symm.trans found)
      exact stocked.named read rfl fun other => by cases other
  | gc currentVersion keep =>
    refine stocked.of_named _ unfollowed sparing .running (stocked.link (gc_entry currentVersion keep (by simp))) ?_
    intro t found
    exact stocked.named ((gc_state currentVersion keep).symm.trans found) rfl fun under => ⟨under,rfl⟩

/-- From an install at rest, over any life in which no operation takes a needed directory
away, a version under watch has its rollback target on disk, as it was installed. -/
theorem target_on_disk (crates : Crates) (disk : Disk) (acts : List Act) (start : Resting crates.serde disk)
    (life : Meets (Disk.after crates) (fun disk act => act.Unfollowed crates ∧ Sparing crates disk act) disk acts) :
    TargetOnDisk crates.serde (acts.foldl (Disk.after crates) disk) :=
  (life.keeps (fun _ act ok stocked => act_stocked act ok.1 ok.2 stocked) start.stocked).target_there

end OnDisk

namespace Sample

def single (v : String) : World :=
  ((World.bare.mkdir .versions).mkdir (.version v)).link .current (.version v)

/-- The version runs, and its directory counts as complete. -/
def diskOf (v : String) : Disk := ⟨single v,v,fun name entry => name = v ∧ entry = .dir 1 []⟩

theorem single_stateless {serde : Serde} {v : String} {s : InstallState}
    (read : readState serde (diskOf v).world = some s) : False := by
  have absent : (diskOf v).world.node .stateJson = none := by simp [diskOf,single,World.bare]
  obtain ⟨ino,found,_⟩ := readState_some read
  cases absent.symm.trans found

theorem resting_single (v : String) (serde : Serde) : Resting serde (diskOf v) where
  whole := ⟨1,[],by simp [diskOf,single,World.bare],rfl,rfl⟩
  live := by simp [diskOf,single]
  state _ read := (single_stateless read).elim

theorem needed_single {serde : Serde} {v q : String} (needed : Needed serde (diskOf v) q) : q = v := by
  cases needed with
  | running => rfl
  | live _ link =>
    have same : v = q := by simpa [diskOf,single] using link
    exact same.symm
  | current s read => exact (single_stateless read).elim
  | target s _ read => exact (single_stateless read).elim

theorem upgrade_told : Timed (fun _ => some 0) (upgrade.moment crates (single "0.45.3")).2 := by
  rw [upgrade,stage_seen,stageRun,stage_eq checked_new fetched_new tarball_new rfl]
  unfold Timed
  decide +kernel

theorem single_uncollected : ¬ Collected (fun _ => some 0) "0.45.4" 3 (single "0.45.3") "0.45.3" := by
  unfold Collected
  decide +kernel

def stagedBack : InstallState := stateOf "0.45.2" (some "0.45.4") .pendingHealth 0 141

noncomputable def knowingBack : Crates := knowing [stagedBack,bumped stagedBack]

/-- The process of the version that was gone back to. -/
def predecessor : UpgradeCoordinator := {coordinator with currentVersion := "0.45.2", pid := 10}

def stepBack : Act := ⟨.stage successor (network oldRelease) (request oldRelease),List.replicate 60 smooth⟩

def bootBack : Act := ⟨.boot (some enabled) 10,List.replicate 40 smooth⟩

/-- The version before is staged again, and the call cut short after it has removed
what was there. -/
def stageAgain : Act := ⟨.stage predecessor (network newRelease) (request newRelease),List.replicate 13 smooth⟩

theorem back_checked : checkRequest knowingBack successor (request oldRelease) = .ok oldRelease.url := replay_checked

theorem back_fetched : fetchManifest knowingBack successor (network oldRelease) (request oldRelease) oldRelease.url =
    .ok oldRelease.manifest := replay_fetched

theorem back_tarball :
    fetchTarball knowingBack successor (network oldRelease) (request oldRelease) oldRelease.manifest = .ok tarball :=
  replay_tarball

/-- Until the version before is staged again, its directory is there. -/
example : (bootBack.after knowingBack (stepBack.after knowingBack (single "0.45.4"))).isDir (.version "0.45.4") = true := by
  rw [stepBack,stage_after,stageRun,stage_eq back_checked back_fetched back_tarball rfl]
  decide +kernel

theorem again_checked : checkRequest knowingBack predecessor (request newRelease) = .ok newRelease.url := by
  decide +kernel

theorem again_fetched : fetchManifest knowingBack predecessor (network newRelease) (request newRelease) newRelease.url =
    .ok newRelease.manifest := fetched_new

theorem again_tarball :
    fetchTarball knowingBack predecessor (network newRelease) (request newRelease) newRelease.manifest = .ok tarball := by
  decide +kernel

theorem again_read : readState knowingBack.serde (stageAgain.after knowingBack (bootBack.after knowingBack
    (stepBack.after knowingBack (single "0.45.4")))) = some (bumped stagedBack) := by
  rw [stepBack,stageAgain,stage_after,stage_after,stageRun,stageRun,stage_eq back_checked back_fetched back_tarball rfl,
    stage_eq again_checked again_fetched again_tarball rfl]
  decide +kernel

theorem again_removed : (stageAgain.after knowingBack (bootBack.after knowingBack
    (stepBack.after knowingBack (single "0.45.4")))).isDir (.version "0.45.4") = false := by
  rw [stepBack,stageAgain,stage_after,stage_after,stageRun,stageRun,stage_eq back_checked back_fetched back_tarball rfl,
    stage_eq again_checked again_fetched again_tarball rfl]
  decide +kernel

end Sample

theorem sample_target_on_disk :
    TargetOnDisk Sample.crates.serde ([Sample.upgrade].foldl (Disk.after Sample.crates) (Sample.diskOf "0.45.3")) := by
  refine target_on_disk Sample.crates (Sample.diskOf "0.45.3") [Sample.upgrade] (Sample.resting_single _ _)
    ⟨⟨Sample.unfollowed rfl _,fun _ => some 0,Sample.upgrade_told,rfl,?_⟩,trivial⟩
  intro manifest tarballBytes _ v needed
  obtain rfl := Sample.needed_single needed
  exact ⟨by decide,Sample.single_uncollected,fun same => absurd same (by decide)⟩

/-- Staging the rollback target again removes it before the new directory is there. -/
theorem restaged_target_gone :
    ¬ TargetOnDisk Sample.knowingBack.serde ([Sample.stepBack,Sample.bootBack,Sample.stageAgain].foldl
      (Disk.after Sample.knowingBack) (Sample.diskOf "0.45.4")) := by
  rw [List.foldl_cons,List.foldl_cons,List.foldl_cons,List.foldl_nil]
  intro target
  have read := Sample.again_read
  have removed := Sample.again_removed
  have start : (Sample.diskOf "0.45.4").world = Sample.single "0.45.4" := rfl
  rw [← start,← disk_world,← disk_world,← disk_world] at read removed
  obtain ⟨p,named,there,_⟩ := target _ read rfl
  obtain rfl := Option.some.inj named
  cases removed.symm.trans there

end GatewaySdk.Upgrade
