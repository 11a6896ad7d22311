import GatewaySdk.Upgrade.OnDisk

/-! The directory of the live version, at every moment of the life of an install. -/
namespace GatewaySdk.Upgrade
open GatewaySdk.Effect GatewaySdk.Host

section Life
variable {crates : Crates} {disk : Disk} {act : Act}

/-- The live version's directory is there, and one that was put in place as complete. -/
def LiveSound (disk : Disk) : Prop :=
  ∃ v, disk.world.node .current = some (.symlink (.version v)) ∧ Sound disk v

/-- The stage call's partial directory is not the live version's, and where that very
version is staged `current` can be read; a rollback finds its target complete, or none;
a collection is told the live version. -/
def Careful (crates : Crates) (disk : Disk) (act : Act) : Prop :=
  match act.action with
  | .stage _ _ request => ∀ v, disk.world.node .current = some (.symlink (.version v)) →
      Loc.version v ≠ .partialOf request.version ∧
        (v = request.version → ¬ Saw FailedLink (act.moment crates disk.world).2)
  | .boot cfg _ => ∀ s p, readState crates.serde disk.world = some s → s.status = .pendingHealth →
      Exhausts cfg s → s.previousVersion = some p → disk.world.isDir (.version p) = true → Sound disk p
  | .gc currentVersion _ => disk.world.node .current = some (.symlink (.version currentVersion))
  | .beat _ _ | .finalize _ _ => True

theorem LiveSound.kept (sound : LiveSound disk)
    (current : (act.after crates disk.world).node .current = disk.world.node .current)
    (there : ∀ v, disk.world.node .current = some (.symlink (.version v)) →
      (act.after crates disk.world).node (.version v) = disk.world.node (.version v)) :
    LiveSound (disk.after crates act) := by
  obtain ⟨v,live,sound⟩ := sound
  exact ⟨v,current.trans live,sound.after (there v live)⟩

theorem stage_liveSound {coordinator : UpgradeCoordinator} {network : Network} {request : StageRequest}
    {choices : List Choice} (unfollowing : Unfollowing crates coordinator network request)
    (careful : Careful crates disk ⟨.stage coordinator network request,choices⟩)
    (sound : LiveSound disk) : LiveSound (disk.after crates ⟨.stage coordinator network request,choices⟩) := by
  have dirs : VersionDirs request.version disk.world
      (Act.moment crates disk.world ⟨.stage coordinator network request,choices⟩) :=
    (stageRun_holds unfollowing stage_dirs choices).1
  have fresh (stands : Stands request.version
      (Act.moment crates disk.world ⟨.stage coordinator network request,choices⟩)) :
      Sound (disk.after crates ⟨.stage coordinator network request,choices⟩) request.version := by
    obtain ⟨ino,content,found,put⟩ := stands
    exact ⟨ino,content,found,.inr ⟨rfl,put⟩⟩
  -- without a swap the live version is what it was, and its directory still stands
  have still (current : (Act.after crates disk.world ⟨.stage coordinator network request,choices⟩).node .current =
        disk.world.node .current)
      (swap : ¬ Done swapped (Act.moment crates disk.world ⟨.stage coordinator network request,choices⟩).2) :
      LiveSound (disk.after crates ⟨.stage coordinator network request,choices⟩) := by
    obtain ⟨v,live,sound⟩ := sound
    obtain ⟨apart,reads⟩ := careful v live
    refine ⟨v,current.trans live,stage_sound unfollowing apart ?_ sound⟩
    by_cases same : v = request.version
    · subst same
      exact fun saw => reads rfl ((stageRun_holds unfollowing (stage_living live) choices).1 saw)
    · exact (stageRun_holds unfollowing (stage_unremoved same apart) choices).1.resolve_right swap
  cases @stage_moment crates disk.world choices coordinator network request unfollowing with
  | before current state swap record => exact still current swap
  | between manifest accepted current state swap record =>
    exact ⟨_,current,fresh (dirs.stands swap)⟩
  | after manifest accepted prev now found current state record live =>
    obtain ⟨swap,_⟩ | ⟨swap,already,_⟩ := live
    · exact ⟨_,current,fresh (dirs.stands swap)⟩
    · exact still (current.trans already.symm) swap

theorem boot_liveSound {cfg : Option UpgradeConfig} {pid : Nat} {choices : List Choice}
    (careful : Careful crates disk ⟨.boot cfg pid,choices⟩) (sound : LiveSound disk) :
    LiveSound (disk.after crates ⟨.boot cfg pid,choices⟩) := by
  have there (v : String) : (Act.after crates disk.world ⟨.boot cfg pid,choices⟩).node (.version v) =
      disk.world.node (.version v) := boot_entry cfg pid (by simp [swapPlaces]) (by simp [stateFiles])
  have back {s : InstallState} {p : String} (read : readState crates.serde disk.world = some s)
      (pending : s.status = .pendingHealth)
      (spent : (cfg.map UpgradeConfig.maxBootAttempts).getD 0 < (bumped s).bootAttempts)
      (link : Reverted s p disk.world (Act.moment crates disk.world ⟨.boot cfg pid,choices⟩)) :
      LiveSound (disk.after crates ⟨.boot cfg pid,choices⟩) :=
    ⟨p,link.2.2.1,(careful s p read pending (boot_exhausts link.2.2.2 spent) link.1 link.2.1).after (there p)⟩
  cases @boot_moment crates disk.world choices cfg pid with
  | same link | torn _ _ _ link | counted _ _ _ link | unreverted _ _ _ _ link | announced _ _ _ link =>
    exact sound.kept link.1 fun v _ => there v
  | reverting s p read pending spent link => exact back read pending spent link
  | rolledBack s p read pending spent link => exact back read pending spent link

theorem act_liveSound (act : Act) (unfollowed : act.Unfollowed crates) (careful : Careful crates disk act) (sound : LiveSound disk) :
    LiveSound (disk.after crates act) := by
  obtain ⟨action,choices⟩ := act
  cases action with
  | stage coordinator network request => exact stage_liveSound (unfollowed _ _ _ rfl) careful sound
  | boot cfg pid => exact boot_liveSound careful sound
  | beat installRoot pid =>
    exact sound.kept (beat_entry installRoot pid (by simp [stateFiles])) fun v _ =>
      beat_entry installRoot pid (by simp [stateFiles])
  | finalize cfg pid =>
    exact sound.kept (finalize_entry cfg pid (by simp [stateFiles])) fun v _ =>
      finalize_entry cfg pid (by simp [stateFiles])
  | gc currentVersion keep =>
    refine sound.kept (gc_entry currentVersion keep (by simp)) fun v live => ?_
    obtain rfl : currentVersion = v := by simpa using (show _ = _ from careful).symm.trans live
    exact run_entry (gcVersions_uses keep) fun operation collects => collects.keeps.2

/-- Over any life whose operations are careful so and follow no links, whatever fails in
them and wherever they are cut short, `current` points at a complete directory. -/
theorem live_never_missing (crates : Crates) (disk : Disk) (acts : List Act) (start : LiveSound disk)
    (life : Meets (Disk.after crates) (fun disk act => act.Unfollowed crates ∧ Careful crates disk act) disk acts) :
    LiveSound (acts.foldl (Disk.after crates) disk) :=
  life.keeps (fun _ act ok sound => act_liveSound act ok.1 ok.2 sound) start

end Life

namespace Sample

def rcRelease : Release where
  version := "0.45.4-rc"
  sequence := 144
  digest :=
    [158,145,144,196,131,82,221,196,89,237,160,162,145,64,182,54,33,77,126,109,221,83,143,176,183,70,212,246,0,221,
      109,139]
  body :=
    "eyJzcGVjIjp7ImRhdGEiOnsiaGFzaCI6eyJ2YWx1ZSI6IjllOTE5MGM0ODM1MmRkYzQ1OWVkYTBhMjkxNDBiNjM2MjE0ZDdlNmRk" ++
    "ZDUzOGZiMGI3NDZkNGY2MDBkZDZkOGIifX0sInNpZ25hdHVyZSI6eyJwdWJsaWNLZXkiOnsiY29udGVudCI6IkxTMHRMUzFDUlVk" ++
    "SlRpQkRSVkpVU1VaSlEwRlVSUzB0TFMwdFFXYzlQUzB0TFMwdFJVNUVJRU5GVWxSSlJrbERRVlJGTFMwdExTMD0ifX19fQ=="

def rcParser {α : Type} (text : Release → String) (value : Release → α) (bytes : Bytes) : Except String α :=
  if bytes = utf8 (text rcRelease) then .ok (value rcRelease) else .error "syntax"

def rcSignatures : List (UInt8 × Bytes) :=
  [(0,[9]),(1,utf8 rcRelease.manifestText),(2,utf8 (canonical rcRelease.payload))]

def rcSigstore : Sigstore :=
  {sigstore with
    Key := UInt8
    parseBundle := rcParser Release.bundleText Release.bundle
    parseJson := rcParser Release.bodyText Release.bodyJson
    keyFromDer := sigstore.keyFromDer
    verifySignature := fun key s m =>
      if s = [key] ∧ rcSignatures.contains (key,m) = true then .ok () else .error "signature"}

def rcSha256 : Bytes → Bytes :=
  (Equiv.swap tarball tarballDigest).trans (Equiv.swap (utf8 rcRelease.manifestText) rcRelease.digest)

noncomputable def rcCrates : Crates :=
  {crates with
    semver := {semver with
      parse := fun text =>
        match [("0.45.4-rc","rc"),("0.45.4-rc.partial","rc.partial")].find? (fun entry => entry.1 == text) with
        | some entry => .ok ⟨0,45,4,entry.2,""⟩
        | none => .error "unexpected character"}
    sha256 := rcSha256
    manifestJson := rcParser Release.manifestText Release.manifest
    sigstore := rcSigstore}

/-- The process of the candidate whose name ends so. -/
def rcCoordinator : UpgradeCoordinator := {coordinator with currentVersion := "0.45.4-rc.partial"}

theorem rc_verified : verifyManifestBundle rcSigstore rcSha256 (utf8 rcRelease.manifestText)
    (utf8 rcRelease.bundleText) allowed = .ok () := by
  apply verified_of
  · exact if_pos rfl
  · exact if_pos rfl
  · decide +kernel
  · decide +kernel
  · exact if_pos (by simp [rcSignatures])
  · exact if_pos (by simp [rcSignatures])
  · exact if_pos (by simp [rcSignatures])

theorem rc_checked : checkRequest rcCrates rcCoordinator (request rcRelease) = .ok rcRelease.url := by
  decide +kernel

theorem rc_fetched : fetchManifest rcCrates rcCoordinator (network rcRelease) (request rcRelease) rcRelease.url =
    .ok rcRelease.manifest := by
  apply fetchManifest_ok
  · exact @fetchText_serve rcRelease.manifestText _ (by decide +kernel) (by decide +kernel)
  · exact @fetchText_serve rcRelease.bundleText _ (by decide +kernel) (by decide +kernel)
  · exact rc_verified
  · simp [rcCrates,rcParser]
  · decide +kernel

theorem rc_tarball : fetchTarball rcCrates rcCoordinator (network rcRelease) (request rcRelease) rcRelease.manifest =
    .ok tarball := by
  decide +kernel

theorem rc_automatic : rcCoordinator.config.manualOnly = false := rfl

def stageRc : Act := ⟨.stage rcCoordinator (network rcRelease) (request rcRelease),List.replicate 7 smooth⟩

theorem careful_upgrade : Careful crates (diskOf "0.45.3") upgrade := by
  intro v live
  have same : "0.45.3" = v := by simpa [diskOf,single] using live
  subst same
  exact ⟨by decide,fun same => absurd same (by decide)⟩

theorem live_single (v : String) : LiveSound (diskOf v) :=
  ⟨v,by simp [diskOf,single],1,[],by simp [diskOf,single,World.bare],rfl,rfl⟩

end Sample

theorem sample_live_sound : LiveSound ([Sample.upgrade].foldl (Disk.after Sample.crates) (Sample.diskOf "0.45.3")) :=
  live_never_missing Sample.crates (Sample.diskOf "0.45.3") [Sample.upgrade] (Sample.live_single _)
    ⟨⟨Sample.unfollowed rfl _,Sample.careful_upgrade⟩,trivial⟩

/-- Staging `0.45.4-rc` removes the directory of the live `0.45.4-rc.partial`. -/
theorem rc_partial_removed : LiveSound (Sample.diskOf "0.45.4-rc.partial") ∧
    ¬ LiveSound ([Sample.stageRc].foldl (Disk.after Sample.rcCrates) (Sample.diskOf "0.45.4-rc.partial")) := by
  refine ⟨Sample.live_single _,?_⟩
  rw [List.foldl_cons,List.foldl_nil]
  rintro ⟨v,live,ino,content,found,_⟩
  have start : (Sample.diskOf "0.45.4-rc.partial").world = Sample.single "0.45.4-rc.partial" := rfl
  rw [disk_world,start] at live found
  have linked : (Sample.stageRc.after Sample.rcCrates (Sample.single "0.45.4-rc.partial")).node .current =
      some (.symlink (.version "0.45.4-rc.partial")) := by
    rw [Sample.stageRc,stage_after,stageRun,stage_eq Sample.rc_checked Sample.rc_fetched Sample.rc_tarball Sample.rc_automatic]
    decide +kernel
  have removed : (Sample.stageRc.after Sample.rcCrates (Sample.single "0.45.4-rc.partial")).node
      (.version "0.45.4-rc.partial") = none := by
    rw [Sample.stageRc,stage_after,stageRun,stage_eq Sample.rc_checked Sample.rc_fetched Sample.rc_tarball Sample.rc_automatic]
    decide +kernel
  rw [linked,Option.some.injEq,Node.symlink.injEq,Loc.version.injEq] at live
  rw [← live,removed] at found
  cases found

end GatewaySdk.Upgrade
