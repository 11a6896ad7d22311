import GatewaySdk.Client.Cadence
import GatewaySdk.Upgrade.Config

/-! The client's configuration: what `connect` accepts of it, and the pause before each
reconnect. The URL crate and the environment variable are parameters. -/
namespace GatewaySdk.Client
open GatewaySdk.Upgrade (debugStr startsWith bind_ok)

inductive SdkError where
  | config (message : String)
  | tls (message : String)
  | webSocket (message : String)
  | auth (message : String)
  | authTimeout
  | credentialsIo (message : String)
  | channel (message : String)
  | json (message : String)
  deriving DecidableEq, Repr

structure ReconnectBackoff where
  stepsSecs : List UInt64
  deriving DecidableEq, Repr

/-- The pause before the retry of this number, counted from 1; the last step stands for all
after it. -/
def ReconnectBackoff.delayForAttempt (backoff : ReconnectBackoff) (attempt : UInt32) : Nat :=
  match backoff.stepsSecs with
  | [] => Duration.fromSecs 5
  | first::rest =>
    Duration.fromSecs ((first::rest).get ⟨min (max attempt.toNat 1 - 1) rest.length,by
      rw [List.length_cons]
      omega⟩).toNat

structure GatewayConfig where
  managerUrls : List String
  deviceType : String
  softwareVersion : String
  nodeId : Option String
  nodeSecret : Option String
  registrationToken : Option String
  acceptSelfSignedCert : Bool
  allowPlaintextWs : Bool
  certFingerprint : Option String
  heartbeatInterval : Nat
  reconnectBackoff : ReconnectBackoff
  deriving DecidableEq, Repr

/-- `if condition { return Err(SdkError::Config(message)) }`. -/
def refuseIf (condition : Prop) [Decidable condition] (message : String) : Except SdkError Unit :=
  if condition then .error (.config message) else .ok ()

theorem refuseIf_ok {condition : Prop} [Decidable condition] {message : String} {u : Unit} :
    refuseIf condition message = .ok u ↔ ¬ condition := by
  unfold refuseIf
  split <;> simp_all

namespace GatewayConfig

def plaintextHint (cfg : GatewayConfig) (plaintextWsEnvSet : Bool) : String :=
  if cfg.allowPlaintextWs = true then
    "`allow_plaintext_ws` is set in the config, but BILBYCAST_SDK_ALLOW_PLAINTEXT_WS=1 is not set in the " ++
      "environment — both are required."
  else if plaintextWsEnvSet = true then
    "BILBYCAST_SDK_ALLOW_PLAINTEXT_WS=1 is set, but `allow_plaintext_ws` is not set in the config — both are required."
  else
    "Integration tests may set `allow_plaintext_ws: true` in the config AND BILBYCAST_SDK_ALLOW_PLAINTEXT_WS=1 in " ++
      "the environment."

variable (parseUrl : String → Except String Unit) (plaintextWsEnvSet : Bool)

/-- The checks of the URL at this place, after those seen before it. -/
def validateUrl (cfg : GatewayConfig) (i : Nat) (seen : List String) (url : String) : Except SdkError Unit := do
  let entry := "manager_urls[" ++ toString i ++ "]"
  refuseIf (2048 < url.utf8ByteSize) (entry ++ " must be at most 2048 characters")
  refuseIf (startsWith url "wss://" = false ∧ ¬ (cfg.allowPlaintextWs = true ∧ plaintextWsEnvSet = true))
    (entry ++ " = " ++ debugStr url ++ " must use wss:// (TLS). Plaintext ws:// connections are not allowed. " ++
      cfg.plaintextHint plaintextWsEnvSet)
  (parseUrl url).mapError (fun e => .config (entry ++ ": " ++ e))
  refuseIf (url ∈ seen) (entry ++ " = " ++ debugStr url ++ " is a duplicate")

def validateUrls (cfg : GatewayConfig) : Nat → List String → List String → Except SdkError Unit
  | _,_,[] => .ok ()
  | i,seen,url::urls => do
    validateUrl parseUrl plaintextWsEnvSet cfg i seen url
    validateUrls cfg (i+1) (url::seen) urls

def validate (cfg : GatewayConfig) : Except SdkError Unit := do
  refuseIf (cfg.managerUrls = []) "manager_urls must contain at least one entry"
  refuseIf (16 < cfg.managerUrls.length)
    ("manager_urls may contain at most 16 entries (got " ++ toString cfg.managerUrls.length ++ ")")
  validateUrls parseUrl plaintextWsEnvSet cfg 0 [] cfg.managerUrls
  refuseIf (cfg.deviceType = "" ∨ 64 < cfg.deviceType.utf8ByteSize) "device_type must be 1..=64 chars"
  refuseIf (cfg.nodeId.isSome ≠ cfg.nodeSecret.isSome)
    "node_id and node_secret must be provided together (or both omitted)"
  refuseIf (cfg.nodeId = none ∧ cfg.registrationToken = none)
    "either (node_id + node_secret) or registration_token must be set"
  let hbSecs := cfg.heartbeatInterval/1000000000
  refuseIf (hbSecs < 5 ∨ 300 < hbSecs)
    ("heartbeat_interval must be 5..=300 seconds (got " ++ toString hbSecs ++ "s). Shorter intervals risk overwhelming " ++
      "the manager's per-node event budget; longer intervals make node health detection too coarse for operator dashboards.")

variable {parseUrl} {plaintextWsEnvSet} {cfg : GatewayConfig}

/-- What an accepted configuration gives the client to go by. -/
structure Accepted (cfg : GatewayConfig) : Prop where
  urls : cfg.managerUrls ≠ []
  paired : cfg.nodeId.isSome = cfg.nodeSecret.isSome
  token : cfg.nodeId = none → cfg.registrationToken.isSome = true

theorem accepted_of_validate (valid : validate parseUrl plaintextWsEnvSet cfg = .ok ()) : cfg.Accepted := by
  obtain ⟨_,filled,valid⟩ := bind_ok.mp valid
  obtain ⟨_,_,valid⟩ := bind_ok.mp valid
  obtain ⟨_,_,valid⟩ := bind_ok.mp valid
  obtain ⟨_,_,valid⟩ := bind_ok.mp valid
  obtain ⟨_,paired,valid⟩ := bind_ok.mp valid
  obtain ⟨_,provided,_⟩ := bind_ok.mp valid
  refine ⟨refuseIf_ok.mp filled,not_not.mp (refuseIf_ok.mp paired),fun absent => ?_⟩
  have some_ : cfg.registrationToken ≠ none := fun none_ => refuseIf_ok.mp provided ⟨absent,none_⟩
  exact Option.isSome_iff_ne_none.mpr some_

end GatewayConfig
end GatewaySdk.Client
