import GatewaySdk.Client.Registration

/-! What every connection makes of the configuration: the TLS modes and the dial target, and
for which configurations they agree with what `connect` lets through. -/
namespace GatewaySdk.Client
open GatewaySdk.Upgrade (trim isWhitespace hexDigest isAsciiHexDigit startsWith bind_ok)

inductive TlsConfig where
  | standard
  | insecure
  | pinned (fingerprint : String)
  deriving DecidableEq, Repr

def colonPairs : List Char → List Char
  | a::b::rest =>
    match rest with
    | [] => [a,b]
    | _::_ => a::b:: ':' ::colonPairs rest
  | digits => digits

def fingerprintDigits (input : List Char) : String := String.ofList (input.filter fun c => c != ':' && !isWhitespace c)

def normaliseFingerprint (input : List Char) : Except SdkError String :=
  let clean := fingerprintDigits input
  if clean.utf8ByteSize ≠ 64 then
    .error (.tls ("cert_fingerprint must be 32 bytes (64 hex chars, optional `:` separators); got " ++
      toString clean.utf8ByteSize ++ " hex chars"))
  else if clean.toList.all isAsciiHexDigit = false then .error (.tls "cert_fingerprint contains non-hex characters")
  else .ok (String.ofList (colonPairs (clean.toList.map Char.toLower)))

/-- What the process has beside its configuration: the two variables, and the certificate
verifier that `rustls` builds from the roots it is given. -/
structure Surroundings where
  plaintextWsEnvSet : Bool
  allowInsecureEnvSet : Bool
  verifier : Except String Unit
  deriving DecidableEq, Repr

def buildPinnedConfig (env : Surroundings) (fingerprint : List Char) : Except SdkError TlsConfig := do
  let fp ← normaliseFingerprint fingerprint
  env.verifier.mapError fun e => SdkError.tls ("failed to build certificate verifier: " ++ e)
  return .pinned fp

def buildInsecureConfig (env : Surroundings) : Except SdkError TlsConfig :=
  if env.allowInsecureEnvSet = false then
    .error (.tls ("accept_self_signed_cert is enabled but BILBYCAST_ALLOW_INSECURE=1 is not set. Set this environment " ++
      "variable to confirm you understand the security implications."))
  else .ok .insecure

def buildUnpinnedConfig (env : Surroundings) (acceptSelfSigned : Bool) : Except SdkError TlsConfig :=
  if acceptSelfSigned = true then buildInsecureConfig env else .ok .standard

def buildTlsConfig (env : Surroundings) (acceptSelfSigned : Bool) : Option String → Except SdkError TlsConfig
  | none => buildUnpinnedConfig env acceptSelfSigned
  | some fp =>
    if trim fp.toList ≠ [] then buildPinnedConfig env (trim fp.toList) else buildUnpinnedConfig env acceptSelfSigned

/-- What the `url` crate reads of a manager URL. -/
structure ManagerUrl where
  scheme : String
  host : Option String
  port : Option Nat
  deriving DecidableEq, Repr

/-- `Url::port_or_known_default`. -/
def ManagerUrl.portOrKnownDefault (url : ManagerUrl) : Option Nat :=
  url.port.or <|
    if url.scheme = "http" ∨ url.scheme = "ws" then some 80
    else if url.scheme = "https" ∨ url.scheme = "wss" then some 443
    else if url.scheme = "ftp" then some 21
    else none

variable (parse : String → Except String ManagerUrl)

def managerHostPort (url : String) : Except SdkError (String × Nat) :=
  match parse url with
  | .error e => .error (.config ("invalid URL: " ++ e))
  | .ok parsed =>
    match parsed.host with
    | none => .error (.config ("manager URL " ++ url ++ " has no host"))
    | some host =>
      match parsed.portOrKnownDefault with
      | none => .error (.config ("manager URL " ++ url ++ " has no port and no default one"))
      | some port => .ok (host,port)

/-- What `validate` asks of the crate. -/
def parseUrlOnly (url : String) : Except String Unit := (parse url).map fun _ => ()

/-- Both keys of plaintext are turned. -/
def GatewayConfig.plaintext (cfg : GatewayConfig) (env : Surroundings) : Prop :=
  cfg.allowPlaintextWs = true ∧ env.plaintextWsEnvSet = true

/-- A URL that the client may dial and that can be dialled. -/
structure Diallable (cfg : GatewayConfig) (env : Surroundings) (url : String) : Prop where
  scheme : ∃ parsed, parse url = .ok parsed ∧ (parsed.scheme = "wss" ∨ parsed.scheme = "ws" ∧ cfg.plaintext env)
  target : ∃ target, managerHostPort parse url = .ok target

/-- No connection fails for a reason that lies in the configuration. -/
structure Connectable (cfg : GatewayConfig) (env : Surroundings) : Prop where
  tls : ∃ tlsConfig, buildTlsConfig env cfg.acceptSelfSignedCert cfg.certFingerprint = .ok tlsConfig
  urls : ∀ url ∈ cfg.managerUrls, Diallable parse cfg env url

/-- What `validate` does not look at: the fingerprint's form, the variable a self-signed
certificate needs, and the schemes of a plaintext configuration. -/
structure Unchecked (cfg : GatewayConfig) (env : Surroundings) : Prop where
  fingerprint : ∀ fp, cfg.certFingerprint = some fp → trim fp.toList ≠ [] → hexDigest (fingerprintDigits (trim fp.toList)) = true
  insecure : (∀ fp, cfg.certFingerprint = some fp → trim fp.toList = []) → cfg.acceptSelfSignedCert = true →
    env.allowInsecureEnvSet = true
  schemes : cfg.plaintext env → ∀ url ∈ cfg.managerUrls, ∀ parsed, parse url = .ok parsed →
    parsed.scheme = "wss" ∨ parsed.scheme = "ws"

/-- What the `url` crate says of its results: the scheme is what stands before the colon, and
a URL of one of these schemes has a host. -/
structure UrlDocs : Prop where
  scheme : ∀ url parsed, startsWith url "wss://" = true → parse url = .ok parsed → parsed.scheme = "wss"
  host : ∀ url parsed, parse url = .ok parsed → parsed.scheme = "wss" ∨ parsed.scheme = "ws" → ∃ host, parsed.host = some host

section Facts
variable {parse} {cfg : GatewayConfig} {env : Surroundings} {fp : List Char} {url : String}

theorem normaliseFingerprint_ok : (∃ text, normaliseFingerprint fp = .ok text) ↔ hexDigest (fingerprintDigits fp) = true := by
  unfold normaliseFingerprint hexDigest
  dsimp only
  split
  next wrong => simp [wrong]
  next size =>
    rw [not_not] at size
    split
    next other => simp [size,other]
    next hex => simp_all

theorem buildPinnedConfig_ok (builds : env.verifier = .ok ()) :
    (∃ tlsConfig, buildPinnedConfig env fp = .ok tlsConfig) ↔ hexDigest (fingerprintDigits fp) = true := by
  rw [← normaliseFingerprint_ok]
  simp only [buildPinnedConfig,builds]
  cases normaliseFingerprint fp with
  | error e => exact ⟨fun ⟨_,built⟩ => (by cases built),fun digits => (by obtain ⟨_,absent⟩ := digits; cases absent)⟩
  | ok text => exact ⟨fun _ => ⟨text,rfl⟩,fun _ => ⟨.pinned text,rfl⟩⟩

theorem buildUnpinnedConfig_ok {acceptSelfSigned : Bool} : (∃ tlsConfig, buildUnpinnedConfig env acceptSelfSigned = .ok tlsConfig) ↔
    (acceptSelfSigned = true → env.allowInsecureEnvSet = true) := by
  unfold buildUnpinnedConfig buildInsecureConfig
  cases acceptSelfSigned <;> cases env.allowInsecureEnvSet <;> simp

/-- The TLS configuration is built exactly where the two unchecked values allow it. -/
theorem buildTlsConfig_ok (builds : env.verifier = .ok ()) :
    (∃ tlsConfig, buildTlsConfig env cfg.acceptSelfSignedCert cfg.certFingerprint = .ok tlsConfig) ↔
      (∀ fp, cfg.certFingerprint = some fp → trim fp.toList ≠ [] → hexDigest (fingerprintDigits (trim fp.toList)) = true) ∧
        ((∀ fp, cfg.certFingerprint = some fp → trim fp.toList = []) → cfg.acceptSelfSignedCert = true →
          env.allowInsecureEnvSet = true) := by
  cases given : cfg.certFingerprint with
  | none =>
    rw [buildTlsConfig,buildUnpinnedConfig_ok]
    exact ⟨fun insecure => ⟨fun _ absent => (by cases absent),fun _ => insecure⟩,fun both => both.2 fun _ absent => (by cases absent)⟩
  | some fp =>
    rw [buildTlsConfig]
    by_cases blank : trim fp.toList = []
    · rw [if_neg (not_not.mpr blank),buildUnpinnedConfig_ok]
      constructor
      · intro insecure
        exact ⟨fun other same filled => absurd (Option.some.inj same ▸ blank) filled,fun _ => insecure⟩
      · intro both
        exact both.2 fun other same => Option.some.inj same ▸ blank
    · rw [if_pos blank,buildPinnedConfig_ok builds]
      constructor
      · intro hex
        exact ⟨fun other same _ => Option.some.inj same ▸ hex,fun unset => absurd (unset fp rfl) blank⟩
      · intro both
        exact both.1 fp rfl blank

theorem validateUrl_ok {plaintextWsEnvSet : Bool} {i : Nat} {seen : List String} {parseUrl : String → Except String Unit}
    (valid : cfg.validateUrl parseUrl plaintextWsEnvSet i seen url = .ok ()) :
    (startsWith url "wss://" = true ∨ cfg.allowPlaintextWs = true ∧ plaintextWsEnvSet = true) ∧ parseUrl url = .ok () := by
  obtain ⟨_,_,valid⟩ := bind_ok.mp valid
  obtain ⟨_,scheme,valid⟩ := bind_ok.mp valid
  obtain ⟨_,parsed,_⟩ := bind_ok.mp valid
  refine ⟨?_,?_⟩
  · by_contra neither
    obtain ⟨other,plain⟩ := not_or.mp neither
    exact refuseIf_ok.mp scheme ⟨Bool.not_eq_true _ ▸ other,plain⟩
  · cases found : parseUrl url with
    | error e =>
      rw [found] at parsed
      cases parsed
    | ok _ => rfl

theorem validateUrls_ok {plaintextWsEnvSet : Bool} {parseUrl : String → Except String Unit} {urls : List String} {i : Nat}
    {seen : List String} (valid : cfg.validateUrls parseUrl plaintextWsEnvSet i seen urls = .ok ()) (url : String) (member : url ∈ urls) :
    (startsWith url "wss://" = true ∨ cfg.allowPlaintextWs = true ∧ plaintextWsEnvSet = true) ∧ parseUrl url = .ok () := by
  induction urls generalizing i seen with
  | nil => cases member
  | cons first urls ih =>
    obtain ⟨_,own,rest⟩ := bind_ok.mp valid
    rcases List.mem_cons.mp member with same | later
    · rw [same]
      exact validateUrl_ok own
    · exact ih rest later

theorem validate_urls {plaintextWsEnvSet : Bool} {parseUrl : String → Except String Unit}
    (valid : cfg.validate parseUrl plaintextWsEnvSet = .ok ()) (url : String) (member : url ∈ cfg.managerUrls) :
    (startsWith url "wss://" = true ∨ cfg.allowPlaintextWs = true ∧ plaintextWsEnvSet = true) ∧ parseUrl url = .ok () := by
  obtain ⟨_,_,valid⟩ := bind_ok.mp valid
  obtain ⟨_,_,valid⟩ := bind_ok.mp valid
  obtain ⟨_,urls,_⟩ := bind_ok.mp valid
  exact validateUrls_ok urls url member

theorem managerHostPort_ok {parsed : ManagerUrl} {host : String} (found : parse url = .ok parsed)
    (hosted : parsed.host = some host) (scheme : parsed.scheme = "wss" ∨ parsed.scheme = "ws") :
    ∃ target, managerHostPort parse url = .ok target := by
  obtain ⟨port,known⟩ : ∃ port, parsed.portOrKnownDefault = some port := by
    unfold ManagerUrl.portOrKnownDefault
    cases parsed.port with
    | some port => exact ⟨port,rfl⟩
    | none => rcases scheme with same | same <;> exact ⟨_,by rw [same]; rfl⟩
  exact ⟨(host,port),by simp only [managerHostPort,found,hosted,known]⟩

end Facts

/-- What `connect` lets through can be connected with exactly where what it does not look at
is in order. -/
theorem accepted_connectable_iff (docs : UrlDocs parse) (env : Surroundings) (builds : env.verifier = .ok ()) (cfg : GatewayConfig)
    (onRegister : Bool) : ((∃ built, connect (parseUrlOnly parse) env.plaintextWsEnvSet cfg onRegister = .ok built) →
        Connectable parse cfg env) ↔
      ((∃ built, connect (parseUrlOnly parse) env.plaintextWsEnvSet cfg onRegister = .ok built) → Unchecked parse cfg env) := by
  refine forall_congr' fun accepted => ?_
  obtain ⟨built,accepted⟩ := accepted
  have valid : cfg.validate (parseUrlOnly parse) env.plaintextWsEnvSet = .ok () := by
    unfold connect at accepted
    split at accepted
    · cases accepted
    · assumption
  constructor
  · intro connectable
    obtain ⟨fingerprint,insecure⟩ := (buildTlsConfig_ok builds).mp connectable.tls
    refine ⟨fingerprint,insecure,fun _ url member parsed found => ?_⟩
    obtain ⟨other,again,scheme⟩ := (connectable.urls url member).scheme
    rw [found] at again
    obtain rfl := Except.ok.inj again
    exact scheme.imp id And.left
  · intro unchecked
    refine ⟨(buildTlsConfig_ok builds).mpr ⟨unchecked.fingerprint,unchecked.insecure⟩,fun url member => ?_⟩
    obtain ⟨prefix_,parses⟩ := validate_urls valid url member
    obtain ⟨parsed,found⟩ : ∃ parsed, parse url = .ok parsed := by
      cases found : parse url with
      | error e =>
        rw [parseUrlOnly,found] at parses
        cases parses
      | ok parsed => exact ⟨parsed,rfl⟩
    have scheme : parsed.scheme = "wss" ∨ parsed.scheme = "ws" ∧ cfg.plaintext env := by
      rcases prefix_ with secure | plain
      · exact .inl (docs.scheme url parsed secure found)
      · exact (unchecked.schemes plain url member parsed found).imp id fun same => ⟨same,plain⟩
    obtain ⟨host,hosted⟩ := docs.host url parsed found (scheme.imp id And.left)
    exact ⟨⟨parsed,found,scheme⟩,managerHostPort_ok found hosted (scheme.imp id And.left)⟩

namespace Sample

/-- As much of the crate as two URLs need. -/
def parseManagerUrl (url : String) : Except String ManagerUrl :=
  if startsWith url "wss://" = true then .ok ⟨"wss",some "manager.example.com",none⟩
  else .error "relative URL without a base"

theorem parseManagerUrl_docs : UrlDocs parseManagerUrl where
  scheme url parsed secure found := by
    rw [parseManagerUrl,if_pos secure] at found
    exact Except.ok.inj found ▸ rfl
  host url parsed found _ := by
    unfold parseManagerUrl at found
    split at found
    · exact ⟨"manager.example.com",Except.ok.inj found ▸ rfl⟩
    · cases found

def quiet : Surroundings := ⟨false,false,.ok ()⟩

end Sample

theorem sample_accepted_connectable : ((∃ built, connect (parseUrlOnly Sample.parseManagerUrl) false Sample.config true = .ok built) →
      Connectable Sample.parseManagerUrl Sample.config Sample.quiet) ↔
    ((∃ built, connect (parseUrlOnly Sample.parseManagerUrl) false Sample.config true = .ok built) →
      Unchecked Sample.parseManagerUrl Sample.config Sample.quiet) :=
  accepted_connectable_iff Sample.parseManagerUrl Sample.parseManagerUrl_docs Sample.quiet rfl Sample.config true

/-- A fingerprint of two bytes is let through, and no TLS configuration is ever built from it. -/
theorem short_fingerprint_accepted :
    (∃ built, connect (parseUrlOnly Sample.parseManagerUrl) false {Sample.config with certFingerprint := some "ab:cd"} true = .ok built) ∧
      (∃ e, buildTlsConfig Sample.quiet false (some "ab:cd") = .error e) ∧
      ¬ Connectable Sample.parseManagerUrl {Sample.config with certFingerprint := some "ab:cd"} Sample.quiet := by
  have refused : buildTlsConfig Sample.quiet false (some "ab:cd") = .error (.tls
      "cert_fingerprint must be 32 bytes (64 hex chars, optional `:` separators); got 4 hex chars") := rfl
  refine ⟨⟨_,rfl⟩,⟨_,refused⟩,fun connectable => ?_⟩
  obtain ⟨_,built⟩ := connectable.tls
  rw [show GatewayConfig.acceptSelfSignedCert _ = false from rfl,show GatewayConfig.certFingerprint _ = some "ab:cd" from rfl,
    refused] at built
  cases built

end GatewaySdk.Client
