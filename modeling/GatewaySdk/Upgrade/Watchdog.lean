import GatewaySdk.Upgrade.State

/-! The boot watchdog, the health beat and the promotion of a staged version. An
outcome that the source discards with `let _` is handed back here beside the result. -/
namespace GatewaySdk.Upgrade
open GatewaySdk.Effect GatewaySdk.Host

inductive WatchdogOutcome where
  | continue
  | rolledBack (fromVersion toVersion : String)
  | pendingHealth (attempt : UInt32)
  deriving DecidableEq, Repr

/-- How a boot goes on: the watchdog returns, or the process exits. -/
inductive BootEnd where
  | returned (outcome : WatchdogOutcome) (saved : Option (Except Error Unit))
  | exited (code : Nat) (saved : Except Error Unit)

variable (serde : Serde) (installRoot : String) (pid : Nat)

/-- Put `current` back on the previous version; the state then names it. -/
def revertToPrevious (state : InstallState) : Prog Error InstallState :=
  match state.previousVersion with
  | none => .fail "no previous_version to revert to"
  | some prevV => do
    let prevTarget := Loc.version prevV
    let there ← Io.isDir prevTarget
    Program.ofExcept (bailIf (there = false)
      ("previous version directory missing: " ++ prevTarget.display installRoot))
    ignore (Io.removeFile .currentTmp)
    bare (Io.symlink prevTarget .currentTmp)
    bare (Io.rename .currentTmp .current)
    return {state with currentVersion := prevV, previousVersion := some state.currentVersion}

def rolledBackEvent (fromVersion toVersion : Option String) (message : String) : UpgradeEvent where
  severity := "critical"
  errorCode := "upgrade_rolled_back"
  fromVersion := fromVersion
  toVersion := toVersion
  channel := none
  message := message
  sizeBytes := none

/-- A boot after a rollback: announce it once. -/
def announceRollback (current : InstallState) : Prog Error BootEnd := do
  let fromVersion := current.previousVersion.getD "unknown"
  let toVersion := current.currentVersion
  ignore (Io.trySend (rolledBackEvent (some fromVersion) (some toVersion)
    ("Upgrade to " ++ fromVersion ++ " rolled back automatically — running on " ++ toVersion)))
  let saved ← (save serde installRoot pid {current with status := .stable, bootAttempts := 0}).attempt
  return .returned (.rolledBack fromVersion toVersion) (some saved)

/-- The error of the revert is logged and nothing else. -/
def rollBack (current : InstallState) : Prog Error BootEnd := do
  let reverted ← (revertToPrevious installRoot current).attempt
  let current := reverted.toOption.getD current
  let saved ← (save serde installRoot pid {current with status := .rolledBack}).attempt
  ignore (Io.trySend (rolledBackEvent (some current.currentVersion) current.previousVersion
    ("Upgrade to " ++ current.currentVersion ++ " failed — reverted symlink to " ++
      debugOption current.previousVersion ++ ", exiting for respawn")))
  return .exited 1 saved

def countBoot (maxBootAttempts : UInt32) (current : InstallState) : Prog Error BootEnd := do
  let attempt ← bumpBootAttempts serde
  if attempt > maxBootAttempts then rollBack serde installRoot pid current
  else return .returned (.pendingHealth attempt) none

def bootFrom (maxBootAttempts : UInt32) (current : InstallState) : Prog Error BootEnd :=
  match current.status with
  | .stable => return .returned .continue none
  | .stagedManual => return .returned .continue none
  | .rolledBack => announceRollback serde installRoot pid current
  | .pendingHealth => countBoot serde installRoot pid maxBootAttempts current

def watch (cfg : UpgradeConfig) : Prog Error BootEnd := do
  let there ← Io.pathExists .stateJson
  if there = false then return .returned .continue none
  else do
    let loaded ← (load serde cfg.installRoot).attempt
    match loaded with
    | .error _ => return .returned .continue none
    | .ok current => bootFrom serde cfg.installRoot pid cfg.maxBootAttempts current

def runBootWatchdog : Option UpgradeConfig → Prog Error BootEnd
  | none => return .returned .continue none
  | some cfg => if cfg.enabled = false then return .returned .continue none else watch serde pid cfg

/-- The closure of a beat: only a version that is being watched has its health noted. -/
def noteHealth (s : InstallState) : Prog Error InstallState :=
  if s.status = .pendingHealth then do
    let now ← Io.now
    return {s with lastHealthAt := some now}
  else return s

def recordHealthyBeat {ε : Type} : Prog ε (Except Error Unit) :=
  (update serde installRoot pid noteHealth).attempt

/-- `Duration::num_seconds` of nanoseconds. -/
def numSeconds (nanoseconds : Int) : Int := nanoseconds.tdiv 1000000000

/-- `.max(0) as u32`. -/
def healthyFor (seconds : Int) : UInt32 := UInt32.ofNat (max seconds 0).toNat

def completedEvent (state : InstallState) (healthyFor : UInt32) : UpgradeEvent where
  severity := "info"
  errorCode := "upgrade_completed"
  fromVersion := some (state.previousVersion.getD "unknown")
  toVersion := some state.currentVersion
  channel := some state.channel
  message := "Upgrade to " ++ state.currentVersion ++ " stable after " ++ toString healthyFor.toNat ++
    "s of healthy beats"
  sizeBytes := none

/-- The promotion itself; what was checked before it is not looked at again. -/
def promote {ε : Type} (state : InstallState) (healthyFor : UInt32) : Prog ε (Option (Except Error Unit)) := do
  let saved ← (update serde installRoot pid (fun s => return {s with status := .stable})).attempt
  ignore (Io.trySend (completedEvent state healthyFor))
  return some saved

/-- The age of the staging, then that of the last beat. -/
def finalizeFrom {ε : Type} (cfg : UpgradeConfig) (state : InstallState) (last : Int) :
    Prog ε (Option (Except Error Unit)) := do
  let now ← Io.now
  let seconds := healthyFor (numSeconds (now - state.stagedAt))
  if seconds < cfg.bootHealthWindowSecs then return none
  else do
    let now ← Io.now
    if numSeconds (now - last) > 60 then return none else promote serde installRoot pid state seconds

def finalizeIfStable {ε : Type} (cfg : UpgradeConfig) : Prog ε (Option (Except Error Unit)) := do
  let loaded ← (load serde installRoot).attempt
  match loaded with
  | .error _ => return none
  | .ok state =>
    if state.status ≠ .pendingHealth then return none
    else match state.lastHealthAt with
      | none => return none
      | some last => finalizeFrom serde installRoot pid cfg state last

end GatewaySdk.Upgrade
