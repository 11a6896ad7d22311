import GatewaySdk.Client.Dial
import GatewaySdk.Client.Formats

/-! The configuration as a file: what a file may leave out, and that what is written of a
configuration is read as one that is checked and acted on alike. -/
namespace GatewaySdk.Client
open GatewaySdk.Upgrade (Json)
open GatewaySdk.Text

namespace Duration

/-- Without the part below a second. -/
def whole (duration : Nat) : Nat := fromSecs (asSecs duration)

theorem asSecs_fromSecs (secs : Nat) : asSecs (fromSecs secs) = secs := Nat.mul_div_cancel secs (by decide)

end Duration

namespace Wire
open Shape

/-- `serde_duration_secs`: whole seconds. -/
def durationSecs : Codec Json Nat where
  write duration := (natural (2 ^ 64)).write (Duration.asSecs duration)
  read v := ((natural (2 ^ 64)).read v).map Duration.fromSecs
  fine duration := Duration.asSecs duration < 2 ^ 64 ∧ Duration.whole duration = duration
  denotes duration v := (natural (2 ^ 64)).denotes (Duration.asSecs duration) v ∧ Duration.whole duration = duration
  written _ fine := ⟨(natural (2 ^ 64)).written _ fine.1,fine.2⟩
  reads duration v denotes := by
    rw [(natural (2 ^ 64)).reads _ _ denotes.1,Option.map_some]
    exact congrArg some denotes.2

def reconnectBackoff : Shape Json ReconnectBackoff :=
  (required "steps_secs" (list u64)).as (fun stepsSecs => ⟨stepsSecs⟩) (fun backoff => backoff.stepsSecs) fun _ => rfl

end Wire

def defaultHeartbeat : Nat := Duration.fromSecs 15

def ReconnectBackoff.default_ : ReconnectBackoff := ⟨[1,2,5,10,30]⟩

def GatewayConfig.minimal (managerUrl deviceType softwareVersion : String) : GatewayConfig where
  managerUrls := [managerUrl]
  deviceType := deviceType
  softwareVersion := softwareVersion
  nodeId := none
  nodeSecret := none
  registrationToken := none
  acceptSelfSignedCert := false
  allowPlaintextWs := false
  certFingerprint := none
  heartbeatInterval := defaultHeartbeat
  reconnectBackoff := .default_

namespace Wire
open Shape

def gatewayConfig : Shape Json GatewayConfig :=
  ((((((((((required "manager_urls" (list string)).both (required "device_type" string) (by decide)).both
    (required "software_version" string) (by decide)).both (optional "node_id" string) (by decide)).both
    (optional "node_secret" string) (by decide)).both (optional "registration_token" string) (by decide)).both
    (defaulted "accept_self_signed_cert" bool false) (by decide)).both (defaulted "allow_plaintext_ws" bool false) (by decide)).both
    (optional "cert_fingerprint" string) (by decide)).both
    (defaulted "heartbeat_interval" durationSecs defaultHeartbeat) (by decide)).both
    (defaulted "reconnect_backoff" (record reconnectBackoff) .default_) (by decide) |>.as
      (fun parts => ⟨parts.1.1.1.1.1.1.1.1.1.1,parts.1.1.1.1.1.1.1.1.1.2,parts.1.1.1.1.1.1.1.1.2,parts.1.1.1.1.1.1.1.2,
        parts.1.1.1.1.1.1.2,parts.1.1.1.1.1.2,parts.1.1.1.1.2,parts.1.1.1.2,parts.1.1.2,parts.1.2,parts.2⟩)
      (fun c => ((((((((((c.managerUrls,c.deviceType),c.softwareVersion),c.nodeId),c.nodeSecret),c.registrationToken),
        c.acceptSelfSignedCert),c.allowPlaintextWs),c.certFingerprint),c.heartbeatInterval),c.reconnectBackoff)) fun _ => rfl

end Wire
/-- A file with the three entries that have no default. -/
example : (Wire.record Wire.gatewayConfig).read (.obj [("software_version",.str "1.0"),("device_type",.str "appear_x"),
      ("manager_urls",.arr [.str "wss://manager"])]) = some (.minimal "wss://manager" "appear_x" "1.0") := rfl

namespace GatewayConfig

/-- What is left of a configuration in its file. -/
def reloaded (cfg : GatewayConfig) : GatewayConfig := {cfg with heartbeatInterval := Duration.whole cfg.heartbeatInterval}

theorem reloaded_put (cfg : GatewayConfig) : Wire.gatewayConfig.put cfg.reloaded = Wire.gatewayConfig.put cfg := by
  have same : Wire.durationSecs.write (Duration.whole cfg.heartbeatInterval) = Wire.durationSecs.write cfg.heartbeatInterval :=
    congrArg (Wire.natural (2 ^ 64)).write (Duration.asSecs_fromSecs _)
  simp only [Wire.gatewayConfig,Shape.as,Shape.both,Shape.defaulted,reloaded,same]

theorem reloaded_fine (cfg : GatewayConfig) (held : Duration.asSecs cfg.heartbeatInterval < 2 ^ 64) :
    Wire.gatewayConfig.fine cfg.reloaded := by
  have interval : Wire.durationSecs.fine (Duration.whole cfg.heartbeatInterval) := by
    have same : Duration.asSecs (Duration.whole cfg.heartbeatInterval) = Duration.asSecs cfg.heartbeatInterval :=
      Duration.asSecs_fromSecs _
    exact ⟨same ▸ held,congrArg Duration.fromSecs same⟩
  have text {name : String} (value : Option String) : (Wire.optional name Wire.string).fine value :=
    Wire.optional_fine (fun _ => ⟨trivial,rfl⟩) value
  exact ⟨⟨⟨⟨⟨⟨⟨⟨⟨⟨fun _ _ => trivial,trivial⟩,trivial⟩,text _⟩,text _⟩,text _⟩,trivial⟩,trivial⟩,text _⟩,interval⟩,
    fun secs _ => secs.toNat_lt⟩

variable {parseUrl : String → Except String Unit} {plaintextWsEnvSet : Bool}

theorem reloaded_validateUrls (cfg : GatewayConfig) (i : Nat) (seen urls : List String) :
    validateUrls parseUrl plaintextWsEnvSet cfg.reloaded i seen urls = validateUrls parseUrl plaintextWsEnvSet cfg i seen urls := by
  induction urls generalizing i seen with
  | nil => rfl
  | cons url urls ih =>
    have first : validateUrl parseUrl plaintextWsEnvSet cfg.reloaded i seen url =
        validateUrl parseUrl plaintextWsEnvSet cfg i seen url := rfl
    rw [validateUrls,validateUrls,first]
    congr 1
    funext _
    exact ih (i+1) (url::seen)

/-- What the file does not keep is not looked at. -/
theorem reloaded_validate (cfg : GatewayConfig) :
    cfg.reloaded.validate parseUrl plaintextWsEnvSet = cfg.validate parseUrl plaintextWsEnvSet := by
  have urls := @reloaded_validateUrls parseUrl plaintextWsEnvSet cfg 0 [] cfg.managerUrls
  have secs : cfg.reloaded.heartbeatInterval/1000000000 = cfg.heartbeatInterval/1000000000 := Duration.asSecs_fromSecs _
  have kept : cfg.reloaded.managerUrls = cfg.managerUrls := rfl
  unfold validate
  rw [kept,urls,secs]
  rfl

end GatewayConfig

/-- A configuration that is written to a file, in which the entries are then put in another order and
entries of no meaning added, is read as one that is accepted or refused as before, for the same
reason, and that differs in the part of its heartbeat below a second alone. -/
theorem config_reloads (cfg : GatewayConfig) (held : Duration.asSecs cfg.heartbeatInterval < 2 ^ 64)
    (file extra : List (String × Json)) (unknown : ∀ entry ∈ extra, entry.1 ∉ Wire.gatewayConfig.names)
    (perm : file.Perm (Wire.gatewayConfig.put cfg ++ extra)) :
    ∃ loaded, (Wire.record Wire.gatewayConfig).read (.obj file) = some loaded ∧
      (∀ parseUrl plaintextWsEnvSet, loaded.validate parseUrl plaintextWsEnvSet = cfg.validate parseUrl plaintextWsEnvSet) ∧
      {loaded with heartbeatInterval := cfg.heartbeatInterval} = cfg ∧
      loaded.heartbeatInterval ≤ cfg.heartbeatInterval ∧ cfg.heartbeatInterval < loaded.heartbeatInterval + Duration.fromSecs 1 := by
  refine ⟨cfg.reloaded,?_,fun _ _ => cfg.reloaded_validate,rfl,?_,?_⟩
  · have stands : Wire.gatewayConfig.stands cfg.reloaded (Wire.gatewayConfig.put cfg) := by
      rw [← cfg.reloaded_put]
      exact Wire.gatewayConfig.written _ (cfg.reloaded_fine held)
    exact Codec.reads _ _ _ ⟨file,_,extra,rfl,perm,stands,unknown⟩
  · exact Nat.div_mul_le_self _ _
  · have rest := Nat.lt_div_mul_add (a := cfg.heartbeatInterval) (b := 1000000000) (by decide)
    simpa [GatewayConfig.reloaded,Duration.whole,Duration.asSecs,Duration.fromSecs] using rest

namespace Sample

def subsecond : GatewayConfig := {GatewayConfig.minimal "wss://manager" "appear_x" "1.0" with
  registrationToken := some "rt-1", heartbeatInterval := 15500000000}

end Sample

theorem sample_config_reloads :
    ∃ loaded, (Wire.record Wire.gatewayConfig).read
        (.obj (("comment",.str "by hand")::Wire.gatewayConfig.put Sample.subsecond)) = some loaded ∧
      (∀ parseUrl plaintextWsEnvSet, loaded.validate parseUrl plaintextWsEnvSet =
        Sample.subsecond.validate parseUrl plaintextWsEnvSet) ∧
      {loaded with heartbeatInterval := Sample.subsecond.heartbeatInterval} = Sample.subsecond ∧
      loaded.heartbeatInterval ≤ Sample.subsecond.heartbeatInterval ∧
      Sample.subsecond.heartbeatInterval < loaded.heartbeatInterval + Duration.fromSecs 1 :=
  config_reloads Sample.subsecond (by decide) _ [("comment",.str "by hand")] (by decide) (List.perm_append_singleton _ _).symm

end GatewaySdk.Client
