import GatewaySdk.Upgrade.Install
import GatewaySdk.Upgrade.OnDisk
import GatewaySdk.Upgrade.Promotion

/-! A release from its acceptance on: installed over the version on record, it either shows its health and
stays, or its boots go back to that version, which is as it was. -/
namespace GatewaySdk.Upgrade
open GatewaySdk.Effect GatewaySdk.Host

/-- A release that is accepted over the version on record, with nothing in its way and no more than three
versions beside it. -/
structure Upgradable (crates : Crates) (coordinator : UpgradeCoordinator) (network : Network) (request : StageRequest)
    (manifest : Manifest) (prev : InstallState) (w : World) : Prop where
  approved : ∃ tarballBytes entries, Approved crates coordinator network request manifest tarballBytes ∧
    crates.tar.entries tarballBytes = some entries ∧ Packed crates.tar coordinator.profile.binaryName entries []
  recorded : readState crates.serde w = some prev
  newer : prev.lastSequence < manifest.sequence
  there : ∃ ino content, w.node (.version prev.currentVersion) = some (.dir ino content)
  other : prev.currentVersion ≠ request.version
  whole : endsWith prev.currentVersion ".partial" = false
  few : (others request.version w).length ≤ 3
  ready : Ready request.version w

/-- The version is live, its binary in place and executable. -/
structure Deployed (v binaryName : String) (w : World) : Prop where
  live : w.node .current = some (.symlink (.version v))
  binary : ∃ ino content bytes, w.node (.version v) = some (.dir ino content) ∧
    content.get [binaryName] = some (.file 0o755 bytes)

/-- The version that is live in a phase. -/
def Phase.live (v p : String) : Phase → String
  | .watched _ | .promoted => v
  | .rolledBack | .settled => p

section Staged
variable {crates : Crates} {coordinator : UpgradeCoordinator} {network : Network} {request : StageRequest}
  {manifest : Manifest} {prev : InstallState} {w u : World}

theorem Upgraded.deployed (upgraded : Upgraded crates coordinator request manifest w u) :
    Deployed request.version coordinator.profile.binaryName u := ⟨upgraded.live,upgraded.binary⟩

theorem Upgradable.standing (up : Upgradable crates coordinator network request manifest prev w)
    (upgraded : Upgraded crates coordinator request manifest w u) :
    u.node (.version prev.currentVersion) = w.node (.version prev.currentVersion) :=
  upgraded.kept up.few _ up.other up.whole

theorem Upgradable.fresh (up : Upgradable crates coordinator network request manifest prev w)
    (upgraded : Upgraded crates coordinator request manifest w u) :
    ∃ now, Fresh crates.serde (stagedState coordinator request manifest (some prev) now) prev.currentVersion u := by
  obtain ⟨now,read⟩ := upgraded.state
  rw [up.recorded] at read
  refine ⟨now,read,rfl,rfl,rfl,?_,upgraded.orderly⟩
  rw [up.standing upgraded]
  exact up.there

end Staged

section Links
variable {tar : TarCrate} {serde : Serde} {pid : Nat} {s : InstallState} {p v : String} {w : World}
  {maxBootAttempts : UInt32} {phase : Phase}

theorem succ_le_of_lt {a b : UInt32} (less : a < b) : a + 1 ≤ b := by
  have below := UInt32.lt_iff_toNat_lt.mp less
  have bound := b.toNat_lt
  rw [UInt32.le_iff_toNat_le,UInt32.toNat_add]
  exact (Nat.mod_le _ _).trans below

theorem watched_unmoved {attempts : UInt32} {installRoot : String} {t : InstallState}
    (room : maxBootAttempts.toNat < 2 ^ 32 - 1) (few : attempts < maxBootAttempts) (read : readState serde w = some t)
    (shown : (Phase.watched attempts).Shows s p maxBootAttempts t) :
    Ends (steadily tar) (fun _ w' => w'.node = w.node) (countBoot serde installRoot pid maxBootAttempts t) w := by
  obtain ⟨within,health,rfl⟩ := shown
  have counted : bumped {s with bootAttempts := attempts, lastHealthAt := health} =
      {s with bootAttempts := attempts + 1, lastHealthAt := health} :=
    bumped_succ (Nat.lt_of_le_of_lt (UInt32.le_iff_toNat_le.mp within) room)
  refine (countBoot_steady read (by rw [counted]; exact succ_le_of_lt few)).mono ?_
  exact fun _ _ ended => ended.2.1

theorem boot_links (cfg : UpgradeConfig) (enabled : cfg.enabled = true) (bound : cfg.maxBootAttempts = maxBootAttempts)
    (pending : s.status = .pendingHealth) (previous : s.previousVersion = some p)
    (room : maxBootAttempts.toNat < 2 ^ 32 - 1) (course : Course serde s p maxBootAttempts phase w)
    (live : w.node .current = some (.symlink (.version (phase.live v p)))) :
    Ends (steadily tar) (fun _ w' => w'.node .current = some (.symlink (.version ((phase.booted maxBootAttempts).live v p))))
      (runBootWatchdog serde pid (some cfg)) w := by
  obtain ⟨t,read,shown⟩ := course.shown
  have goes : runBootWatchdog serde pid (some cfg) = watch serde pid cfg := if_neg (by simp [enabled])
  rw [goes]
  refine watch_steady read fun v same => ?_
  have found := course.of_same same
  have live := (congrFun same.node _).trans live
  have read' : readState serde v = some t :=
    (readState_same (congrFun same.node _) fun ino _ => congrFun same.data ino).trans read
  rw [bound]
  cases phase with
  | watched attempts =>
    have status : t.status = .pendingHealth := by
      obtain ⟨_,_,rfl⟩ := shown
      exact pending
    simp only [bootFrom,status]
    by_cases few : attempts < maxBootAttempts
    · rw [Phase.booted_few few]
      refine (watched_unmoved room few read' shown).mono ?_
      exact fun _ _ same => (congrFun same _).trans live
    · refine (watched_boots previous room found read' shown).mono ?_
      rintro outcome w' ⟨reports,_⟩
      rw [Phase.Reports,if_neg few] at reports
      rw [Phase.booted,if_neg few]
      exact reports.2
  | rolledBack =>
    obtain ⟨attempts,health,rfl⟩ := shown
    refine (announce_steady read' found.orderly).mono ?_
    rintro outcome w' ⟨_,kept⟩
    exact (kept.framed.node .current (by simp [stateFiles])).trans live
  | settled =>
    obtain ⟨health,rfl⟩ := shown
    exact live
  | promoted =>
    have status : t.status = .stable := shown
    simp only [bootFrom,status]
    exact live

end Links

section Lives
variable {crates : Crates} {s : InstallState} {p v : String} {w : World} {maxBootAttempts : UInt32} {phase : Phase}

theorem fair_versions {act : Act} (fair : Fair crates maxBootAttempts w act) (name : String) :
    (act.after crates w).node (.version name) = w.node (.version name) := by
  obtain ⟨_,_,kind⟩ := fair
  obtain ⟨action,choices⟩ := act
  cases action with
  | stage | gc => exact kind.elim
  | boot cfg pid => exact boot_entry cfg pid (by simp [swapPlaces]) (by simp [stateFiles])
  | beat installRoot pid => exact beat_entry installRoot pid (by simp [stateFiles])
  | finalize cfg pid => exact finalize_entry cfg pid (by simp [stateFiles])

theorem act_links (pending : s.status = .pendingHealth) (previous : s.previousVersion = some p)
    (room : maxBootAttempts.toNat < 2 ^ 32 - 1) {act : Act} (fair : Fair crates maxBootAttempts w act)
    (course : Course crates.serde s p maxBootAttempts phase w)
    (live : w.node .current = some (.symlink (.version (phase.live v p)))) :
    (act.after crates w).node .current = some (.symlink (.version
      ((if act.isBoot = true then phase.booted maxBootAttempts else phase).live v p))) := by
  obtain ⟨faultless,concluded,kind⟩ := fair
  obtain ⟨action,choices⟩ := act
  cases action with
  | stage | gc => exact kind.elim
  | boot cfg pid =>
    obtain ⟨c,rfl,enabled,bound⟩ := kind
    obtain ⟨outcome,ended⟩ := Option.isSome_iff_exists.mp concluded
    exact ends_recorded (boot_links c enabled bound pending previous room course live) faultless ended
  | beat installRoot pid => exact (beat_entry installRoot pid (by simp [stateFiles])).trans live
  | finalize cfg pid => exact (finalize_entry cfg pid (by simp [stateFiles])).trans live

theorem life_links (pending : s.status = .pendingHealth) (previous : s.previousVersion = some p)
    (room : maxBootAttempts.toNat < 2 ^ 32 - 1) {life : List Act}
    (fair : Meets (Act.after crates) (Fair crates maxBootAttempts) w life) (undue : Undue crates w life)
    (course : Course crates.serde s p maxBootAttempts phase w)
    (live : w.node .current = some (.symlink (.version (phase.live v p)))) :
    (life.foldl (Act.after crates) w).node .current = some (.symlink (.version
      (((Phase.booted maxBootAttempts)^[boots life] phase).live v p))) := by
  induction life generalizing w phase with
  | nil => exact live
  | cons act life ih =>
    have next := (act_course pending previous room fair.1 course).2 undue.1
    have linked := act_links pending previous room fair.1 course live
    have far := ih fair.2 undue.2 next linked
    by_cases boot : act.isBoot = true
    · rw [if_pos boot,← Function.iterate_succ_apply] at far
      rw [boots,List.countP_cons_of_pos boot]
      exact far
    · rw [if_neg boot] at far
      rw [boots,List.countP_cons_of_neg boot]
      exact far

theorem life_versions {life : List Act} (fair : Meets (Act.after crates) (Fair crates maxBootAttempts) w life) (name : String) :
    (life.foldl (Act.after crates) w).node (.version name) = w.node (.version name) := by
  have step (u : World) (act : Act) (fair : Fair crates maxBootAttempts u act)
      (held : u.node (.version name) = w.node (.version name)) : (act.after crates u).node (.version name) = w.node (.version name) :=
    (fair_versions fair name).trans held
  exact fair.keeps step rfl

theorem Deployed.watched {binaryName : String} {stagedAt : Int} {window : UInt32} {σ : World × Option Int}
    {vigil : List TimedAct} (deployed : Deployed v binaryName σ.1)
    (kept : Meets (TimedAct.after crates) (Vigilant crates stagedAt window) σ vigil) :
    Deployed v binaryName (vigil.foldl (TimedAct.after crates) σ).1 := by
  have step (σ : World × Option Int) (a : TimedAct) (vigilant : Vigilant crates stagedAt window σ a)
      (held : Deployed v binaryName σ.1) : Deployed v binaryName (a.after crates σ).1 := by
    have entry (place : Loc) (other : ∀ pid, ¬ stateFiles pid place) : (a.after crates σ).1.node place = σ.1.node place := by
      have kind := vigilant.kind
      obtain ⟨begun,action,choices⟩ := a
      cases action with
      | stage | boot | gc => obtain beat | ⟨_,_,same,_⟩ := kind <;> contradiction
      | beat installRoot pid => exact beat_entry installRoot pid (other pid)
      | finalize cfg pid => exact finalize_entry cfg pid (other pid)
    obtain ⟨ino,content,bytes,found,binary⟩ := held.binary
    refine ⟨(entry .current (by simp [stateFiles])).trans held.live,ino,content,bytes,?_,binary⟩
    exact (entry (.version v) (by simp [stateFiles])).trans found
  exact kept.keeps step deployed

end Lives

/-- The life of a staged version that is well: booted within its attempts, then beats and checks as a vigil has
them, the checks no further than a gap apart and one of them behind the window. -/
structure WellLived (crates : Crates) (maxBootAttempts window : UInt32) (gap : Int) (s : InstallState) (w : World)
    (lead : List Act) (vigil : List TimedAct) : Prop where
  fair : Meets (Act.after crates) (Fair crates maxBootAttempts) w lead
  undue : Undue crates w lead
  few : boots lead ≤ maxBootAttempts.toNat
  kept : Meets (TimedAct.after crates) (Vigilant crates s.stagedAt window) (lead.foldl (Act.after crates) w,none) vigil
  often : ∃ start < s.stagedAt + seconds window.toNat, (start::checksOf vigil).IsChain fun x y => y ≤ x + gap
  past : ∃ check ∈ checksOf vigil, s.stagedAt + seconds window.toNat ≤ check

section Decided
variable {crates : Crates} {coordinator : UpgradeCoordinator} {network : Network} {request : StageRequest}
  {manifest : Manifest} {prev s : InstallState} {w : World} {choices : List Choice}

theorem Upgradable.staged (up : Upgradable crates coordinator network request manifest prev w)
    (faultless : ∀ choice ∈ choices, choice.fails = false)
    (ended : (stageRun crates coordinator network request choices w).1.result.isSome = true) :
    (stageRun crates coordinator network request choices w).1.result = some (.ok ⟨coordinator.currentVersion,request.version,
        request.channel,request.variantName,request.archOn coordinator,.version request.version⟩) ∧
      Upgraded crates coordinator request manifest w (stageRun crates coordinator network request choices w).2.1 ∧
      ∃ now, Fresh crates.serde (stagedState coordinator request manifest (some prev) now) prev.currentVersion
        (stageRun crates coordinator network request choices w).2.1 := by
  obtain ⟨tarballBytes,entries,approved,listed,packed⟩ := up.approved
  have newer (t : InstallState) (found : readState crates.serde w = some t) : t.lastSequence < manifest.sequence := by
    obtain rfl := Option.some.inj (up.recorded.symm.trans found)
    exact up.newer
  rw [stageRun_machine (packed.unfollowing approved listed)] at ended ⊢
  obtain ⟨outcome,done⟩ := Option.isSome_iff_exists.mp ended
  obtain ⟨rfl,upgraded⟩ := ends_recorded (stage_goes approved newer listed packed up.ready) faultless done
  exact ⟨done,upgraded,up.fresh upgraded⟩

theorem Fresh.led {binaryName : String} {u : World} {p : String} {maxBootAttempts : UInt32} {lead : List Act}
    (fresh : Fresh crates.serde s p u) (deployed : Deployed request.version binaryName u)
    (room : maxBootAttempts.toNat < 2 ^ 32 - 1) (fair : Meets (Act.after crates) (Fair crates maxBootAttempts) u lead)
    (undue : Undue crates u lead) (few : boots lead ≤ maxBootAttempts.toNat) :
    Deployed request.version binaryName (lead.foldl (Act.after crates) u) ∧
      OnWatch crates.serde {s with bootAttempts := UInt32.ofNat (boots lead)} (lead.foldl (Act.after crates) u,none) := by
  have course := (life_course fresh.pending fresh.previous room fair fresh.course).1 undue
  have live := @life_links crates s p request.version u _ _ fresh.pending fresh.previous room _ fair undue fresh.course
    deployed.live
  rw [Phase.booted_watched few] at course live
  obtain ⟨t,read,_,health,rfl⟩ := course.shown
  obtain ⟨ino,content,bytes,found,binary⟩ := deployed.binary
  exact ⟨⟨live,ino,content,bytes,(life_versions fair _).trans found,binary⟩,course.orderly,health,read,nofun⟩

end Decided

/-- Recorded as stable, and all else of the version as it was staged. -/
structure RolledOut (crates : Crates) (coordinator : UpgradeCoordinator) (request : StageRequest) (s : InstallState)
    (w : World) : Prop where
  deployed : Deployed request.version coordinator.profile.binaryName w
  recorded : ∃ health, readState crates.serde w = some {s with status := .stable, lastHealthAt := health}

/-- The version that was on record before is live again, its directory as it was, and the versions are exchanged. -/
structure WentBack (crates : Crates) (request : StageRequest) (prev : InstallState) (before w : World)
    (status : UpgradeStatus) : Prop where
  live : w.node .current = some (.symlink (.version prev.currentVersion))
  there : w.node (.version prev.currentVersion) = before.node (.version prev.currentVersion)
  recorded : ∃ t, readState crates.serde w = some t ∧ t.currentVersion = prev.currentVersion ∧
    t.previousVersion = some request.version ∧ t.status = status

namespace Sample

def running : InstallState := stateOf "0.45.3" none .stable 0 142

def onRecord : World := ((single "0.45.3").create .stateJson).write 2 (stateText running)

def lively : InstallState := {justStaged with lastHealthAt := some 0}

/-- Staged over the version that runs, and the way back from there with no attempt allowed. -/
noncomputable def rolling : Crates := knowing [running,justStaged,lively,{lively with status := .stable},bumped justStaged,
  {revertedState justStaged "0.45.3" with status := .rolledBack}]

def stagings : List Choice := List.replicate 60 smooth

noncomputable def newlyStaged : World := Act.after rolling onRecord ⟨.stage coordinator (network newRelease) (request newRelease),stagings⟩

theorem readState_onRecord : readState rolling.serde onRecord = some running := by
  have found : onRecord.node .stateJson = some (.file 2) := rfl
  have held : onRecord.data 2 = rolling.serde.toVecPretty running := rfl
  rw [readState_of_file found,held,rolling.serde.fromStr_toVecPretty]

theorem upgradable : Upgradable rolling coordinator (network newRelease) (request newRelease) newRelease.manifest running
    onRecord where
  approved := ⟨tarball,_,⟨⟨_,checked_new,fetched_new⟩,tarball_new,nofun⟩,rfl,new_packed⟩
  recorded := readState_onRecord
  newer := by decide
  there := ⟨1,[],rfl⟩
  other := by decide
  whole := by decide
  few := by decide
  ready := by
    refine ⟨⟨fun _ => rfl,nofun,nofun⟩,nofun,nofun,.inr ⟨0,[],rfl⟩,.inl rfl,.inl rfl,?_⟩
    decide

theorem stageRun_over : stageRun rolling coordinator (network newRelease) (request newRelease) stagings onRecord =
    (host rolling.tar).record.run stagings ((ignore (Io.trySend (stageEvent coordinator (request newRelease)
        "upgrade_started" ("Staging upgrade to " ++ newRelease.version ++ " (stable/x86_64-linux/default)") none))).bind fun _ =>
      (tryLoad rolling.serde "/opt/bilbycast/gateway").bind fun state =>
      (Program.ofExcept (checkSequence newRelease.manifest state)).bind fun _ =>
      (ignore (Io.trySend (stageEvent coordinator (request newRelease) "upgrade_downloaded" ("Downloaded upgrade tarball (" ++
        toString tarball.length ++ " bytes)") (some tarball.length)))).bind fun _ =>
      install rolling coordinator (request newRelease) newRelease.manifest tarball) (onRecord,[]) := by
  rw [stageRun,rolling,stage_known _ checked_new fetched_new tarball_new]
  rfl

theorem newlyStaged_eq : newlyStaged =
    (stageRun rolling coordinator (network newRelease) (request newRelease) stagings onRecord).2.1 := by
  rw [newlyStaged,stage_after]

theorem over_settled : (stageRun rolling coordinator (network newRelease) (request newRelease) stagings
    onRecord).1.result.isSome = true ∧ readState rolling.serde newlyStaged = some justStaged := by
  rw [newlyStaged_eq,stageRun_over]
  constructor
  · decide +kernel
  · decide +kernel

theorem vigil_settled : (beatOnce.act.Concluded rolling newlyStaged ∧ beatOnce.told rolling newlyStaged = [0]) ∧
    checkOnce.act.Concluded rolling (beatOnce.after rolling (newlyStaged,none)).1 ∧
    checkOnce.told rolling (beatOnce.after rolling (newlyStaged,none)).1 = [1000000000,2000000000] := by
  refine ⟨⟨?_,?_⟩,?_,?_⟩
  · change ((machine rolling.tar).record.run (List.replicate 40 smooth)
      (recordHealthyBeat rolling.serde "/opt/app" 8 : Prog Error (Except Error Unit)) (newlyStaged,[])).1.result.isSome = true
    rw [newlyStaged_eq,stageRun_over]
    decide +kernel
  · rw [newlyStaged_eq,stageRun_over]
    decide +kernel
  · change ((machine rolling.tar).record.run (List.replicate 40 (steady 1000000000))
      (finalizeIfStable rolling.serde "/opt/app" 8 oneSecond : Prog Error (Option (Except Error Unit)))
      ((beatOnce.after rolling (newlyStaged,none)).1,[])).1.result.isSome = true
    rw [newlyStaged_eq,stageRun_over]
    decide +kernel
  · rw [newlyStaged_eq,stageRun_over]
    decide +kernel

def noAttempt : Boot := ⟨some {enabled := true, maxBootAttempts := 0},8,List.replicate 40 smooth⟩

theorem boot_concluded : noAttempt.act.Concluded rolling newlyStaged := by
  change ((machine rolling.tar).record.run (List.replicate 40 smooth)
    (runBootWatchdog rolling.serde 8 (some {enabled := true, maxBootAttempts := 0})) (newlyStaged,[])).1.result.isSome = true
  rw [newlyStaged_eq,stageRun_over]
  decide +kernel

-- What follows speaks of the staged world and does not compute it.
attribute [irreducible] newlyStaged

theorem beat_over : Vigilant rolling 0 1 (newlyStaged,none) beatOnce := by
  refine ⟨smooth_faultless _ _,vigil_settled.1.1,.inl rfl,fun time told => ?_,nofun,nofun⟩
  have known : time ∈ [(0 : Int)] := vigil_settled.1.2 ▸ told
  obtain rfl := List.mem_singleton.mp known
  decide

theorem check_over : Vigilant rolling 0 1 (beatOnce.after rolling (newlyStaged,none)) checkOnce := by
  have times (time : Int) (told : time ∈ checkOnce.told rolling (beatOnce.after rolling (newlyStaged,none)).1) :
      1000000000 ≤ time ∧ time ≤ 2000000000 := by
    rw [vigil_settled.2.2] at told
    simp at told
    omega
  refine ⟨fun choice member => ?_,vigil_settled.2.1,.inr ⟨_,_,rfl,rfl⟩,fun time told => ?_,?_,fun _ _ => ⟨0,rfl,fun time told => ?_⟩⟩
  · rw [List.eq_of_mem_replicate member]
    rfl
  · have bounds := times time told
    simp only [checkOnce,seconds]
    omega
  · rintro beat ⟨⟩
    decide
  · have bounds := times time told
    simp only [seconds]
    omega

theorem noAttempt_fair : Fair rolling 0 newlyStaged noAttempt.act :=
  ⟨smooth_faultless _ _,boot_concluded,_,rfl,rfl,rfl⟩

theorem lived_over : WellLived rolling 3 1 (seconds 5) justStaged newlyStaged [] [beatOnce,checkOnce] where
  fair := trivial
  undue := trivial
  few := Nat.zero_le _
  kept := by
    rw [List.foldl_nil]
    exact ⟨beat_over,check_over,trivial⟩
  often := ⟨0,by decide,by decide⟩
  past := by decide

end Sample

end GatewaySdk.Upgrade
