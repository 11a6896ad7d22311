import GatewaySdk.Upgrade.StageView
import GatewaySdk.Upgrade.WatchdogFacts

/-! The life of an install: stage calls, boots, beats, promotions and collections one
after another, each brought to its end, failed in places or cut short by a crash. -/
namespace GatewaySdk.Upgrade
open GatewaySdk.Effect GatewaySdk.Host

inductive Action where
  | stage (coordinator : UpgradeCoordinator) (network : Network) (request : StageRequest)
  | boot (cfg : Option UpgradeConfig) (pid : Nat)
  | beat (installRoot : String) (pid : Nat)
  | finalize (cfg : UpgradeConfig) (pid : Nat)
  | gc (currentVersion : String) (keep : Nat)

/-- An operation and what its calls meet. -/
structure Act where
  action : Action
  choices : List Choice

namespace Act

/-- The moment the operation ends in, or is cut short at. -/
def moment (crates : Crates) (w : World) (act : Act) : Moment :=
  match act.action with
  | .stage coordinator network request => (stageRun crates coordinator network request act.choices w).2
  | .boot cfg pid => ((machine crates.tar).record.run act.choices (runBootWatchdog crates.serde pid cfg) (w,[])).2
  | .beat installRoot pid => ((machine crates.tar).record.run act.choices
      (recordHealthyBeat crates.serde installRoot pid : Prog Error (Except Error Unit)) (w,[])).2
  | .finalize cfg pid => ((machine crates.tar).record.run act.choices
      (finalizeIfStable crates.serde cfg.installRoot pid cfg : Prog Error (Option (Except Error Unit))) (w,[])).2
  | .gc currentVersion keep => ((machine crates.tar).record.run act.choices (gcVersions currentVersion keep) (w,[])).2

def after (crates : Crates) (w : World) (act : Act) : World := (act.moment crates w).1

/-- The operation came to its end, a stage call to a good one. -/
def Concluded (crates : Crates) (w : World) (act : Act) : Prop :=
  match act.action with
  | .stage coordinator network request =>
    ∃ staged, (stageRun crates coordinator network request act.choices w).1.result = some (.ok staged)
  | .boot cfg pid => ((machine crates.tar).record.run act.choices
      (runBootWatchdog crates.serde pid cfg) (w,[])).1.result.isSome = true
  | .beat installRoot pid => ((machine crates.tar).record.run act.choices
      (recordHealthyBeat crates.serde installRoot pid : Prog Error (Except Error Unit)) (w,[])).1.result.isSome = true
  | .finalize cfg pid => ((machine crates.tar).record.run act.choices
      (finalizeIfStable crates.serde cfg.installRoot pid cfg : Prog Error (Option (Except Error Unit)))
      (w,[])).1.result.isSome = true
  | .gc currentVersion keep => ((machine crates.tar).record.run act.choices
      (gcVersions currentVersion keep) (w,[])).1.result.isSome = true

/-- Where it is a stage call, its tarball leaves its links alone. -/
def Unfollowed (crates : Crates) (act : Act) : Prop :=
  ∀ coordinator network request, act.action = .stage coordinator network request →
    Unfollowing crates coordinator network request

def Faultless (act : Act) : Prop := ∀ choice ∈ act.choices, choice.fails = false

variable {crates : Crates} {w : World}

theorem Faultless.not_failing {act : Act} (faultless : act.Faultless) : ¬ Saw Failing (act.moment crates w).2 := by
  have absent {M : Machine Sig Choice World} {ε α : Type} (program : Prog ε α) :
      ¬ Saw Failing (M.record.run act.choices program (w,[])).2.2 := by
    intro saw
    obtain before | ⟨event,failing,member⟩ := saw_run _ _ _ saw
    · exact not_saw_nil _ before
    · have fine := faultless event.choice member
      rw [failing] at fine
      cases fine
  unfold moment
  split
  · exact absent _
  · exact absent _
  · exact absent _
  · exact absent _
  · exact absent _

end Act

section Moments

variable {crates : Crates} {w : World} {choices : List Choice}

theorem stage_moment (coordinator : UpgradeCoordinator) (network : Network) (request : StageRequest)
    (unfollowing : Unfollowing crates coordinator network request) :
    StageCase crates coordinator network request w (Act.moment crates w ⟨.stage coordinator network request,choices⟩) :=
  (stageRun_holds unfollowing stage_view choices).1

theorem stage_after (coordinator : UpgradeCoordinator) (network : Network) (request : StageRequest) :
    Act.after crates w ⟨.stage coordinator network request,choices⟩ =
      (stageRun crates coordinator network request choices w).2.1 := rfl

theorem boot_moment (cfg : Option UpgradeConfig) (pid : Nat) :
    BootCase crates.serde pid ((cfg.map UpgradeConfig.maxBootAttempts).getD 0) w
      (Act.moment crates w ⟨.boot cfg pid,choices⟩) :=
  ((@boot_view crates.tar crates.serde pid w cfg).run choices).1

/-- The watchdog is on, and this boot is one more than a version is given. -/
def Exhausts (cfg : Option UpgradeConfig) (s : InstallState) : Prop :=
  ∃ c, cfg = some c ∧ c.enabled = true ∧ c.maxBootAttempts < (bumped s).bootAttempts

theorem boot_watches {cfg : Option UpgradeConfig} {pid : Nat} {p : Event Sig Choice World → Prop}
    (saw : Saw p (Act.moment crates w ⟨.boot cfg pid,choices⟩).2) : ∃ c, cfg = some c ∧ c.enabled = true := by
  have idle (same : runBootWatchdog crates.serde pid cfg = .pure (.returned .continue none)) : False := by
    simp only [Act.moment,same,Machine.run_pure] at saw
    exact not_saw_nil _ saw
  cases cfg with
  | none => exact (idle rfl).elim
  | some c =>
    cases enabled : c.enabled with
    | true => exact ⟨c,rfl,enabled⟩
    | false => exact (idle (by simp only [runBootWatchdog,enabled,if_true]; rfl)).elim

theorem boot_exhausts {cfg : Option UpgradeConfig} {pid : Nat} {p : Event Sig Choice World → Prop} {s : InstallState}
    (saw : Saw p (Act.moment crates w ⟨.boot cfg pid,choices⟩).2)
    (spent : (cfg.map UpgradeConfig.maxBootAttempts).getD 0 < (bumped s).bootAttempts) : Exhausts cfg s := by
  obtain ⟨c,rfl,enabled⟩ := boot_watches saw
  exact ⟨c,rfl,enabled,spent⟩

theorem beat_moment (installRoot : String) (pid : Nat) :
    UpdateCase crates.serde Noted w (Act.moment crates w ⟨.beat installRoot pid,choices⟩) :=
  ((@beat_view crates.tar crates.serde installRoot pid w Error).run choices).1

theorem finalize_moment (cfg : UpgradeConfig) (pid : Nat) :
    UpdateCase crates.serde Promoted w (Act.moment crates w ⟨.finalize cfg pid,choices⟩) :=
  ((@finalize_view crates.tar crates.serde cfg.installRoot pid w Error cfg).run choices).1

/-- What the calls of a program leave alone is as it was after any run of it. -/
theorem run_entry {ε α : Type} {allowed : Call → Prop} {program : Prog ε α} {place : Loc} (uses : Uses allowed program)
    (apart : ∀ operation, allowed operation → Apart place operation) :
    ((machine crates.tar).record.run choices program (w,[])).2.1.node place = w.node place := by
  have keep := (@Stable.entry crates.tar place fun entry => entry = w.node place).mono apart
  exact ((uses.stable keep (m := (w,[])) rfl).run choices).1

theorem boot_entry (cfg : Option UpgradeConfig) (pid : Nat) {place : Loc} (swap : ¬ swapPlaces place)
    (state : ¬ stateFiles pid place) :
    (Act.moment crates w ⟨.boot cfg pid,choices⟩).1.node place = w.node place :=
  run_entry (boot_uses cfg) fun _ boots => boots.apart swap state

theorem beat_entry (installRoot : String) (pid : Nat) {place : Loc} (state : ¬ stateFiles pid place) :
    (Act.moment crates w ⟨.beat installRoot pid,choices⟩).1.node place = w.node place :=
  run_entry beat_uses fun _ saves own => state (saves.touches own)

theorem finalize_entry (cfg : UpgradeConfig) (pid : Nat) {place : Loc} (state : ¬ stateFiles pid place) :
    (Act.moment crates w ⟨.finalize cfg pid,choices⟩).1.node place = w.node place :=
  run_entry (finalize_uses cfg) fun _ saves own => state (saves.touches own)

theorem gc_entry (currentVersion : String) (keep : Nat) {place : Loc} (version : ∀ name, place ≠ .version name) :
    (Act.moment crates w ⟨.gc currentVersion keep,choices⟩).1.node place = w.node place := by
  refine run_entry (gcVersions_uses keep) fun operation collects own => ?_
  obtain quiet | ⟨name,_,rfl⟩ := collects
  · exact quiet.touches _ own
  · exact version name own

theorem gc_state (currentVersion : String) (keep : Nat) :
    readState crates.serde (Act.moment crates w ⟨.gc currentVersion keep,choices⟩).1 = readState crates.serde w := by
  have within (operation : Call) (collects : Collects currentVersion operation) :
      Within (fun place => ∃ name, place = .version name) operation := by
    obtain quiet | ⟨name,_,rfl⟩ := collects
    · exact quiet.within _
    · exact ⟨fun place own => ⟨name,own⟩,nofun⟩
  have keeps := (@Framed.stable crates.tar (fun place => ∃ name, place = .version name) w).mono within
  have framed := ((gcVersions_uses keep).stable keeps (m := (w,[])) (.refl _ w)).run choices
  exact readState_same (framed.1.node .stateJson nofun) framed.1.data

end Moments

namespace Sample

/-- The sample's crates, with a JSON crate that looks these states up. -/
noncomputable def knowing (known : List InstallState) : Crates := {crates with serde := stateSerde known}

def stateOf (current : String) (previous : Option String) (status : UpgradeStatus) (attempts : UInt32)
    (sequence : UInt64) : InstallState :=
  ⟨current,previous,"stable","default","x86_64-linux",status,attempts,0,none,sequence⟩

/-- Two versions on disk, the newer one live, and this state. -/
def upgraded (s : InstallState) : World :=
  ((((((World.bare.mkdir .versions).mkdir (.version "0.45.3")).mkdir (.version "0.45.4")).link .current
    (.version "0.45.4")).link .previous (.version "0.45.3")).create .stateJson).write 3 (stateText s)

def enabled : UpgradeConfig := {enabled := true}

theorem readState_upgraded (known : List InstallState) (s : InstallState) :
    readState (stateSerde known) (upgraded s) = some s := by
  have found : (upgraded s).node .stateJson = some (.file 3) := rfl
  have held : (upgraded s).data 3 = (stateSerde known).toVecPretty s := rfl
  rw [readState_of_file found,held,(stateSerde known).fromStr_toVecPretty]

theorem parser_old {α : Type} {text : Release → String} {value : Release → α}
    (other : utf8 (text newRelease) ≠ utf8 (text oldRelease)) :
    parser text value (utf8 (text oldRelease)) = .ok (value oldRelease) := by
  simp [parser,releases,other]

theorem verified_old : verifyManifestBundle sigstore sha256 (utf8 oldRelease.manifestText)
    (utf8 oldRelease.bundleText) allowed = .ok () := by
  apply verified_of
  · exact @parser_old _ Release.bundleText Release.bundle (by decide +kernel)
  · exact @parser_old _ Release.bodyText Release.bodyJson (by decide +kernel)
  · decide +kernel
  · decide +kernel
  · exact if_pos (by simp [signatures])
  · exact if_pos (by simp [signatures,releases])
  · exact if_pos (by simp [signatures,releases])

theorem checked_old : checkRequest crates coordinator (request oldRelease) = .ok oldRelease.url := by
  decide +kernel

theorem fetched_old :
    fetchManifest crates coordinator (network oldRelease) (request oldRelease) oldRelease.url =
      .ok oldRelease.manifest := by
  apply fetchManifest_ok
  · exact @fetchText_serve oldRelease.manifestText _ (by decide +kernel) (by decide +kernel)
  · exact @fetchText_serve oldRelease.bundleText _ (by decide +kernel) (by decide +kernel)
  · exact verified_old
  · have other : utf8 newRelease.manifestText ≠ utf8 oldRelease.manifestText := by decide +kernel
    simp [crates,parser,releases,other]
  · decide +kernel

theorem tarball_old : fetchTarball crates coordinator (network oldRelease) (request oldRelease) oldRelease.manifest =
    .ok tarball := by
  decide +kernel

/-- A stage call of the sample, down to its calls, whatever states the JSON crate looks up. -/
theorem stage_known (known : List InstallState) {r : Release}
    (checked : checkRequest crates coordinator (request r) = .ok r.url)
    (fetched : fetchManifest crates coordinator (network r) (request r) r.url = .ok r.manifest)
    (downloaded : fetchTarball crates coordinator (network r) (request r) r.manifest = .ok tarball) :
    stage (knowing known) coordinator (network r) (request r) =
      (ignore (Io.trySend (stageEvent coordinator (request r) "upgrade_started" ("Staging upgrade to " ++
        r.version ++ " (stable/x86_64-linux/default)") none))).bind fun _ =>
      (tryLoad (stateSerde known) "/opt/bilbycast/gateway").bind fun state =>
      (Program.ofExcept (checkSequence r.manifest state)).bind fun _ =>
      (ignore (Io.trySend (stageEvent coordinator (request r) "upgrade_downloaded" ("Downloaded upgrade tarball (" ++
        toString tarball.length ++ " bytes)") (some tarball.length)))).bind fun _ =>
      install (knowing known) coordinator (request r) r.manifest tarball := by
  have words : "Staging upgrade to " ++ r.version ++ " (stable/x86_64-linux/default)" =
      "Staging upgrade to " ++ (request r).version ++ " (" ++ (request r).channel ++ "/" ++
        (request r).archOn coordinator ++ "/" ++ (request r).variantName ++ ")" := by
    simp [request,StageRequest.archOn,StageRequest.variantName,coordinator,String.append_assoc]
  rw [words]
  exact stage_eq checked fetched downloaded rfl

theorem unfollowed {crates : Crates} (tar : crates.tar = tarCrate) (act : Act) : act.Unfollowed crates :=
  fun coordinator network request _ => unfollowing tar coordinator network request

def upgrade : Act := ⟨.stage coordinator (network newRelease) (request newRelease),List.replicate 60 smooth⟩

theorem smooth_faultless (action : Action) (n : Nat) : Act.Faultless ⟨action,List.replicate n smooth⟩ := by
  intro choice member
  rw [List.eq_of_mem_replicate member]
  rfl

end Sample
end GatewaySdk.Upgrade
