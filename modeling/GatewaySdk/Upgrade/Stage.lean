import GatewaySdk.Upgrade.Apply
import GatewaySdk.Upgrade.Verify

/-! The coordinator's `stage`: the checks of a request, what is fetched and verified,
and the installation with the state that is saved for the next boot. -/
namespace GatewaySdk.Upgrade
open GatewaySdk.Effect GatewaySdk.Host

/-- The third-party code the upgrade module calls. -/
structure Crates where
  serde : Serde
  semver : SemverCrate
  urls : UrlCrate
  sha256 : Bytes → Bytes
  manifestJson : Bytes → Except String Manifest
  sigstore : Sigstore
  tar : TarCrate

/-- A coordinator of one process; `hostArch` is what `detect_arch` answers there. -/
structure UpgradeCoordinator where
  profile : UpgradeProfile
  config : UpgradeConfig
  currentVersion : String
  hostArch : String
  pid : Nat
  deriving DecidableEq, Repr

/-- The arguments of a stage call, and whether another one holds the guard. -/
structure StageRequest where
  version : String
  channel : String
  targetArch : Option String
  variant : Option String
  inFlight : Bool
  deriving DecidableEq, Repr

structure StagedUpgrade where
  fromVersion : String
  toVersion : String
  channel : String
  variant : String
  arch : String
  installDir : Loc
  deriving DecidableEq, Repr

/-- What each of the three fetches of one call meets. -/
structure Network where
  manifest : Http
  bundle : Http
  tarball : Http

namespace StageRequest

def archOn (request : StageRequest) (coordinator : UpgradeCoordinator) : String :=
  request.targetArch.getD coordinator.hostArch

def variantName (request : StageRequest) : String := request.variant.getD "default"

end StageRequest

def bailAs (condition : Prop) [Decidable condition] (code message : String) : Except UpgradeError Unit :=
  if condition then .error ⟨code,message⟩ else .ok ()

theorem bailAs_ok {condition : Prop} [Decidable condition] {code message : String} {u : Unit} :
    bailAs condition code message = .ok u ↔ ¬ condition := by
  unfold bailAs
  split <;> simp_all

/-- An error under a code, its text after some words. -/
def coded {α : Type} (code words : String) (outcome : Except Error α) : Except UpgradeError α :=
  outcome.mapError (fun e => ⟨code,words ++ e⟩)

def mapVerifyError (e : Error) : UpgradeError :=
  if contains e "identity" = true then ⟨ErrorCodes.upgradeIdentityNotAllowed,e⟩
  else if contains e "rekor" = true then ⟨ErrorCodes.upgradeRekorInvalid,e⟩
  else ⟨ErrorCodes.upgradeSignatureInvalid,e⟩

def fetchError (e : Error) : UpgradeError :=
  ⟨if contains e "checksum" = true then ErrorCodes.upgradeChecksumMismatch else ErrorCodes.upgradeNetworkError,e⟩

variable (crates : Crates) (coordinator : UpgradeCoordinator) (network : Network) (request : StageRequest)

/-- The checks before anything is fetched; what they leave is the release's base URL. -/
def checkRequest : Except UpgradeError String := do
  let cfg := coordinator.config
  bailAs (request.inFlight = true) ErrorCodes.upgradeInProgress "another upgrade is already staging"
  bailAs (cfg.enabled = false) ErrorCodes.upgradeDisabled "upgrades.enabled = false on this gateway"
  bailAs (request.channel ∉ cfg.allowedChannels) ErrorCodes.upgradeChannelNotAllowed
    ("channel " ++ debugStr request.channel ++ " not in allowed_channels " ++ debugList cfg.allowedChannels)
  let targetV ← coded ErrorCodes.upgradeVersionInvalid
    ("requested version " ++ debugStr request.version ++ " is not valid semver: ")
    (crates.semver.parse request.version)
  let currentV ← coded ErrorCodes.upgradeVersionInvalid
    ("current version " ++ debugStr coordinator.currentVersion ++ " is not valid semver: ")
    (crates.semver.parse coordinator.currentVersion)
  coded ErrorCodes.upgradeVersionTooOld "" (checkVersionWindow crates.semver targetV currentV cfg)
  coded ErrorCodes.upgradeUrlInvalid ""
    (deriveReleaseBaseUrl crates.semver crates.urls coordinator.profile.repo request.version)

/-- The manifest as fetched, verified, decoded and matched with the request. -/
def fetchManifest (releaseBase : String) : Except UpgradeError Manifest := do
  let manifestBytes ← coded ErrorCodes.upgradeNetworkError "manifest fetch failed: "
    (fetchText crates.urls network.manifest (releaseBase ++ "/manifest.json"))
  let bundleBytes ← coded ErrorCodes.upgradeNetworkError "bundle fetch failed: "
    (fetchText crates.urls network.bundle (releaseBase ++ "/manifest.sig.bundle"))
  (verifyManifestBundle crates.sigstore crates.sha256 manifestBytes bundleBytes
    coordinator.profile.allowedSigners).mapError mapVerifyError
  let manifest ← coded ErrorCodes.upgradeManifestInvalid "manifest is not valid JSON: "
    (crates.manifestJson manifestBytes)
  coded ErrorCodes.upgradeManifestInvalid ""
    (manifest.validateRequest crates.urls request.version request.channel coordinator.profile.deviceType)
  return manifest

def checkSequence (manifest : Manifest) : Option InstallState → Except UpgradeError Unit
  | none => .ok ()
  | some s => bailAs (manifest.sequence ≤ s.lastSequence) ErrorCodes.upgradeSequenceTooOld
      ("manifest sequence " ++ toString manifest.sequence.toNat ++ " ≤ last installed sequence " ++
        toString s.lastSequence.toNat)

def fetchTarball (manifest : Manifest) : Except UpgradeError Bytes := do
  let arch := request.archOn coordinator
  match manifest.pickArtefact arch request.variantName with
  | none => .error ⟨ErrorCodes.upgradeArchMismatch,
      "manifest has no artefact for arch=" ++ arch ++ " variant=" ++ request.variantName⟩
  | some artefact =>
    (fetchWithSha256 crates.urls crates.sha256 network.tarball artefact.url artefact.sha256).mapError fetchError

def stageEvent (errorCode message : String) (sizeBytes : Option Nat) : UpgradeEvent where
  severity := "info"
  errorCode := errorCode
  fromVersion := some coordinator.currentVersion
  toVersion := some request.version
  channel := some request.channel
  message := message
  sizeBytes := sizeBytes

/-- Everything before the installation. -/
def approve : Prog UpgradeError (Manifest × Bytes) := do
  let releaseBase ← Program.ofExcept (checkRequest crates coordinator request)
  ignore (Io.trySend (stageEvent coordinator request "upgrade_started" ("Staging upgrade to " ++ request.version ++
    " (" ++ request.channel ++ "/" ++ request.archOn coordinator ++ "/" ++ request.variantName ++ ")") none))
  let manifest ← Program.ofExcept (fetchManifest crates coordinator network request releaseBase)
  let state ← tryLoad crates.serde coordinator.config.installRoot
  Program.ofExcept (checkSequence manifest state)
  let tarballBytes ← Program.ofExcept (fetchTarball crates coordinator network request manifest)
  ignore (Io.trySend (stageEvent coordinator request "upgrade_downloaded" ("Downloaded upgrade tarball (" ++
    toString tarballBytes.length ++ " bytes)") (some tarballBytes.length)))
  Program.ofExcept (bailAs (coordinator.config.manualOnly = true) "upgrade_staged_manual"
    "staged successfully; manual_only is set and the symlink swap is deferred until SIGUSR1")
  return (manifest,tarballBytes)

/-- The state saved for a new version, over the state there was. -/
def stagedState (manifest : Manifest) (prevState : Option InstallState) (now : Int) : InstallState where
  currentVersion := request.version
  previousVersion := some ((prevState.map InstallState.currentVersion).getD coordinator.currentVersion)
  channel := request.channel
  variant := request.variantName
  arch := request.archOn coordinator
  status := .pendingHealth
  bootAttempts := 0
  stagedAt := now
  lastHealthAt := none
  lastSequence := manifest.sequence

/-- What follows the installation: the state for the next boot. -/
def recordStaged (manifest : Manifest) : Prog UpgradeError Unit := do
  let prevState ← tryLoad crates.serde coordinator.config.installRoot
  let now ← Io.now
  (save crates.serde coordinator.config.installRoot coordinator.pid
    (stagedState coordinator request manifest prevState now)).mapError
    (fun e => ⟨ErrorCodes.upgradeExtractFailed,"state.json write failed: " ++ e⟩)

/-- Everything from the first change on. -/
def install (manifest : Manifest) (tarballBytes : Bytes) : Prog UpgradeError StagedUpgrade := do
  let installDir ← (stageNewVersion crates.tar coordinator.config.installRoot request.version
    coordinator.profile.binaryName tarballBytes manifest).mapError (fun e => ⟨ErrorCodes.upgradeExtractFailed,e⟩)
  recordStaged crates coordinator request manifest
  ignore (Io.trySend (stageEvent coordinator request "upgrade_staged" ("Upgrade staged to " ++ request.version ++
    " — exiting for systemd respawn") none))
  return ⟨coordinator.currentVersion,request.version,request.channel,request.variantName,
    request.archOn coordinator,installDir⟩

def stage : Prog UpgradeError StagedUpgrade := do
  let (manifest,tarballBytes) ← approve crates coordinator network request
  install crates coordinator request manifest tarballBytes

end GatewaySdk.Upgrade
