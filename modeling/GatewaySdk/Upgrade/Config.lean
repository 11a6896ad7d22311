import Mathlib.Data.List.Basic

/-! Data of the upgrade module's front: profile, operator policy, errors, events,
and the text helpers its messages use. -/
namespace GatewaySdk.Upgrade

abbrev Bytes := List UInt8

/-- An `anyhow::Error` as its `to_string` shows it: the outermost context. -/
abbrev Error := String

/-- One row of the identity allowlist. -/
structure AllowedSigner where
  issuer : String
  repo : String
  refPattern : String
  workflow : String
  deriving DecidableEq, Repr

structure UpgradeProfile where
  repo : String
  binaryName : String
  deviceType : String
  allowedSigners : List AllowedSigner
  deriving DecidableEq, Repr

structure UpgradeConfig where
  enabled : Bool := false
  allowedChannels : List String := ["stable"]
  minVersion : Option String := none
  rollbackGrace : UInt32 := 1
  installRoot : String := "/opt/bilbycast/gateway"
  bootHealthWindowSecs : UInt32 := 120
  maxBootAttempts : UInt32 := 3
  manualOnly : Bool := false
  deriving DecidableEq, Repr

namespace ErrorCodes
def upgradeDisabled := "upgrade_disabled"
def upgradeChannelNotAllowed := "upgrade_channel_not_allowed"
def upgradeVersionTooOld := "upgrade_version_too_old"
def upgradeVersionInvalid := "upgrade_version_invalid"
def upgradeSequenceTooOld := "upgrade_sequence_too_old"
def upgradeSignatureInvalid := "upgrade_signature_invalid"
def upgradeIdentityNotAllowed := "upgrade_identity_not_allowed"
def upgradeRekorInvalid := "upgrade_rekor_invalid"
def upgradeInProgress := "upgrade_in_progress"
def upgradeUrlInvalid := "upgrade_url_invalid"
def upgradeChecksumMismatch := "upgrade_checksum_mismatch"
def upgradeExtractFailed := "upgrade_extract_failed"
def upgradeNetworkError := "upgrade_network_error"
def upgradeManifestInvalid := "upgrade_manifest_invalid"
def upgradeArchMismatch := "upgrade_arch_mismatch"
end ErrorCodes

structure UpgradeError where
  code : String
  message : String
  deriving DecidableEq, Repr

structure UpgradeEvent where
  severity : String
  errorCode : String
  fromVersion : Option String
  toVersion : Option String
  channel : Option String
  message : String
  sizeBytes : Option Nat
  deriving DecidableEq, Repr

theorem bind_ok {ε α β : Type} {first : Except ε α} {rest : α → Except ε β} {b : β} :
    (first >>= rest) = .ok b ↔ ∃ a, first = .ok a ∧ rest a = .ok b := by
  cases first <;> simp [bind,Except.bind]

/-- `if condition { bail!(message) }`. -/
def bailIf (condition : Prop) [Decidable condition] (message : Error) : Except Error Unit :=
  if condition then .error message else .ok ()

theorem bailIf_ok {condition : Prop} [Decidable condition] {message : Error} {u : Unit} :
    bailIf condition message = .ok u ↔ ¬ condition := by
  unfold bailIf
  split <;> simp_all

def isControl (c : Char) : Bool := c.toNat < 32 || (127 ≤ c.toNat && c.toNat < 160)

/-- Control characters are written as `Debug` does; any other character counts as printable. -/
def debugChar : Char → List Char
  | '"' => ['\\','"']
  | '\\' => ['\\','\\']
  | '\x00' => ['\\','0']
  | '\n' => ['\\','n']
  | '\r' => ['\\','r']
  | '\t' => ['\\','t']
  | c => if isControl c = true then ['\\','u','\x7b'] ++ Nat.toDigits 16 c.toNat ++ ['\x7d'] else [c]

/-- The `Debug` form of a text. -/
def debugStr (text : String) : String := "\"" ++ String.ofList (text.toList.flatMap debugChar) ++ "\""

def debugList (texts : List String) : String := "[" ++ ", ".intercalate (texts.map debugStr) ++ "]"

def debugOption : Option String → String
  | none => "None"
  | some text => "Some(" ++ debugStr text ++ ")"

def contains (text part : String) : Bool := text.toList.tails.any part.toList.isPrefixOf

def startsWith (text part : String) : Bool := part.toList.isPrefixOf text.toList

def endsWith (text part : String) : Bool := part.toList.isSuffixOf text.toList

end GatewaySdk.Upgrade
