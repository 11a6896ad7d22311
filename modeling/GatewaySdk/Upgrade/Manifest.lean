import GatewaySdk.Upgrade.Config

/-! The manifest, the checks of a request against it, the URL whitelist and the
version window. The `semver` and `url` crates are parameters. -/
namespace GatewaySdk.Upgrade

structure ManifestArtefact where
  arch : String
  variant : String
  url : String
  sha256 : String
  deriving DecidableEq, Repr

structure Manifest where
  version : String
  deviceType : String
  channel : String
  releasedAt : String
  sequence : UInt64
  artefacts : List ManifestArtefact
  deriving DecidableEq, Repr

structure Version where
  major : UInt64
  minor : UInt64
  patch : UInt64
  pre : String
  build : String
  deriving DecidableEq, Repr

def Version.display (v : Version) : String :=
  let core := toString v.major.toNat ++ "." ++ toString v.minor.toNat ++ "." ++ toString v.patch.toNat
  let pre := if v.pre = "" then "" else "-" ++ v.pre
  let build := if v.build = "" then "" else "+" ++ v.build
  core ++ pre ++ build

/-- The `semver` crate: its parser and its orders of pre-release and build parts. -/
structure SemverCrate where
  parse : String → Except String Version
  comparePre : String → String → Ordering
  compareBuild : String → String → Ordering

def SemverCrate.compare (semver : SemverCrate) (v w : Version) : Ordering :=
  (Ord.compare v.major w.major).then ((Ord.compare v.minor w.minor).then
    ((Ord.compare v.patch w.patch).then
      ((semver.comparePre v.pre w.pre).then (semver.compareBuild v.build w.build))))

structure ParsedUrl where
  scheme : String
  host : Option String
  deriving DecidableEq, Repr

/-- The `url` crate. -/
abbrev UrlCrate := String → Except String ParsedUrl

def allowedUrlHosts : List String :=
  ["github.com","release-assets.githubusercontent.com","objects.githubusercontent.com"]

def validateUrlHost (urls : UrlCrate) (url : String) : Except Error Unit := do
  let parsed ← (urls url).mapError (fun e => "URL " ++ debugStr url ++ " is not a valid URL: " ++ e)
  bailIf (parsed.scheme ≠ "https") ("URL " ++ debugStr url ++ " must use https://")
  match parsed.host with
  | none => .error ("URL " ++ debugStr url ++ " has no host")
  | some host => do
    bailIf (host ∉ allowedUrlHosts) ("URL " ++ debugStr url ++ " host " ++ debugStr host ++
      " is not in the upgrade host whitelist " ++ debugList allowedUrlHosts)
    bailIf (url.utf8ByteSize > 2048) ("URL " ++ debugStr url ++ " exceeds 2048 chars")

def redirectHostAllowed (host : String) : Bool :=
  host == "github.com" || host == "githubusercontent.com" || endsWith host ".githubusercontent.com"

def isAsciiHexDigit (c : Char) : Bool :=
  ('0' ≤ c && c ≤ '9') || ('a' ≤ c && c ≤ 'f') || ('A' ≤ c && c ≤ 'F')

def hexDigest (text : String) : Bool := text.utf8ByteSize == 64 && text.toList.all isAsciiHexDigit

def validateArtefact (urls : UrlCrate) (a : ManifestArtefact) : Except Error Unit := do
  validateUrlHost urls a.url
  bailIf (hexDigest a.sha256 = false)
    ("manifest artefact for arch=" ++ a.arch ++ " has malformed sha256 " ++ debugStr a.sha256)
  bailIf (a.arch = "" ∨ a.arch.utf8ByteSize > 64) "manifest artefact arch is empty or too long"
  bailIf (a.variant = "" ∨ a.variant.utf8ByteSize > 32) "manifest artefact variant is empty or too long"

namespace Manifest

def validateRequest (urls : UrlCrate) (manifest : Manifest)
    (requestedVersion requestedChannel expectedDeviceType : String) : Except Error Unit := do
  bailIf (manifest.version ≠ requestedVersion)
    ("manifest version mismatch: requested " ++ requestedVersion ++ ", got " ++ manifest.version)
  bailIf (manifest.channel ≠ requestedChannel)
    ("manifest channel mismatch: requested " ++ requestedChannel ++ ", got " ++ manifest.channel)
  bailIf (manifest.deviceType ≠ expectedDeviceType)
    ("manifest device_type mismatch: expected " ++ expectedDeviceType ++ ", got " ++ manifest.deviceType)
  bailIf (manifest.artefacts = []) "manifest has no artefacts"
  manifest.artefacts.forM (validateArtefact urls)

def pickArtefact (manifest : Manifest) (arch variant : String) : Option ManifestArtefact :=
  manifest.artefacts.find? (fun a => a.arch == arch && a.variant == variant)

end Manifest

variable (semver : SemverCrate) (urls : UrlCrate)

def deriveReleaseBaseUrl (repo version : String) : Except Error String := do
  let v ← (semver.parse version).mapError
    (fun e => "requested version " ++ debugStr version ++ " is not valid semver: " ++ e)
  let url := "https://github.com/" ++ repo ++ "/releases/download/v" ++ v.display
  validateUrlHost urls url
  return url

/-- The version is not below the operator's least one, where one is set. -/
def checkMinVersion (target : Version) : Option String → Except Error Unit
  | none => return ()
  | some minStr => do
    let min ← (semver.parse minStr).mapError
      (fun e => "min_version " ++ debugStr minStr ++ " is not valid semver: " ++ e)
    bailIf (semver.compare target min = .lt) ("requested " ++ target.display ++ " < min_version " ++
      min.display ++ " configured on this gateway")

/-- The sum of minor version and grace wraps, as it does in a release build. -/
def checkVersionWindow (target current : Version) (cfg : UpgradeConfig) : Except Error Unit := do
  checkMinVersion semver target cfg.minVersion
  bailIf (target = current) ("requested " ++ target.display ++ " matches the currently installed version")
  bailIf (target.major ≠ current.major)
    ("requested " ++ target.display ++ " crosses a major version boundary from " ++ current.display ++
      " — major upgrades require a fresh install, not the auto-upgrader")
  bailIf (target.minor + cfg.rollbackGrace.toUInt64 < current.minor)
    ("requested " ++ target.display ++ " is more than " ++ toString cfg.rollbackGrace.toNat ++
      " minor versions behind current " ++ current.display ++ " (rollback_grace = " ++
      toString cfg.rollbackGrace.toNat ++ ")")

theorem checkVersionWindow_ne {target current : Version} {cfg : UpgradeConfig}
    (accepted : checkVersionWindow semver target current cfg = .ok ()) : target ≠ current := by
  obtain ⟨_,_,accepted⟩ := bind_ok.mp accepted
  obtain ⟨_,apart,_⟩ := bind_ok.mp accepted
  exact bailIf_ok.mp apart

end GatewaySdk.Upgrade
