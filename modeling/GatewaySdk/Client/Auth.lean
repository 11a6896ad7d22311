import GatewaySdk.Client.Config
import GatewaySdk.Client.Frames
import GatewaySdk.Effect.Program

/-! The client's way to a session: the auth frame, the manager's reply, the credentials
both go by, and the loop that connects again. What the network and the operating system
answer is the choice's. -/
namespace GatewaySdk.Client
open GatewaySdk.Effect
open GatewaySdk.Upgrade (Json debugStr bind_ok)

def gatewayWsProtocolVersion : Nat := 1
def authSendTimeoutSecs : Nat := 10

/-- The first frame of a new node. -/
def authRegister (registrationToken softwareVersion deviceType : String) : OutboundFrame :=
  ⟨"auth",.obj [("registration_token",.str registrationToken),("software_version",.str softwareVersion),
    ("device_type",.str deviceType),("protocol_version",.num (toString gatewayWsProtocolVersion))]⟩

/-- The first frame of a node that has its pair. -/
def authReconnect (nodeId nodeSecret softwareVersion deviceType : String) : OutboundFrame :=
  ⟨"auth",.obj [("node_id",.str nodeId),("node_secret",.str nodeSecret),("software_version",.str softwareVersion),
    ("device_type",.str deviceType),("protocol_version",.num (toString gatewayWsProtocolVersion))]⟩

inductive AuthOutcome where
  | registered (nodeId nodeSecret : String)
  | authenticated
  deriving DecidableEq, Repr

/-- A text field of the payload; `missing` names it where there is none. -/
def requiredText (payload : Json) (name missing : String) : Except SdkError String :=
  match (payload.field name).bind Json.asStr with
  | some text => .ok text
  | none => .error (.auth missing)

def parseAuthResponse (fromStr : String → Except String Json) (text : String) : Except SdkError AuthOutcome := do
  let v ← (fromStr text).mapError SdkError.json
  let msgType := ((v.field "type").bind Json.asStr).getD ""
  let payload := (v.field "payload").getD .null
  if msgType = "register_ack" then
    let nodeId ← requiredText payload "node_id" "register_ack missing node_id"
    let nodeSecret ← requiredText payload "node_secret" "register_ack missing node_secret"
    return .registered nodeId nodeSecret
  else if msgType = "auth_ok" then return .authenticated
  else if msgType = "auth_error" then
    throw (.auth (((((payload.field "error").bind Json.asStr).or ((payload.field "message").bind Json.asStr)).or
      ((v.field "message").bind Json.asStr)).getD "unknown auth error"))
  else throw (.auth ("unexpected auth response type: " ++ debugStr msgType))

structure LiveCredentials where
  nodeId : Option String
  nodeSecret : Option String
  registrationToken : Option String
  deriving DecidableEq, Repr

def authFrame (cfg : GatewayConfig) (c : LiveCredentials) : Except SdkError OutboundFrame :=
  match c.nodeId,c.nodeSecret,c.registrationToken with
  | some nid,some nsec,_ => .ok (authReconnect nid nsec cfg.softwareVersion cfg.deviceType)
  | _,_,some token => .ok (authRegister token cfg.softwareVersion cfg.deviceType)
  | _,_,none => .error (.config "no credentials or registration token configured")

inductive Message where
  | text (text : String)
  | binary
  | close
  | other

/-- What `read.next()` comes back with inside its timeout. -/
inductive Arrival where
  | message (message : Message)
  | failed (error : String)
  | ended
  | timedOut

inductive ConnectionResult where
  | authenticatedThenClosed
  | authenticatedThenLost (error : SdkError)
  | shutdownRequested

/-- What a connection asks of its surroundings. -/
inductive LinkCall where
  | isCancelled
  | buildTlsConfig (acceptSelfSigned : Bool) (certFingerprint : Option String)
  | dialManager (url : String)
  | copyCredentials
  | send (frame : OutboundFrame)
  | readNext
  | setCredentials (c : LiveCredentials)
  | onRegister (nodeId nodeSecret : String)
  | setConnected
  | setDisconnected
  | runSession
  | sleep (delay : Nat)

/-- A wait that shutdown may end comes back with `none` then. -/
abbrev LinkCall.Reply : LinkCall → Type
  | isCancelled => Bool
  | buildTlsConfig _ _ => Except SdkError Unit
  | dialManager _ => Option (Except SdkError Unit)
  | copyCredentials => LiveCredentials
  | send _ => Option (Option (Except String Unit))
  | readNext => Option Arrival
  | setCredentials _ => Unit
  | onRegister _ _ => Unit
  | setConnected => Unit
  | setDisconnected => Unit
  | runSession => ConnectionResult
  | sleep _ => Option Unit

abbrev LinkSig : Signature := ⟨LinkCall,LinkCall.Reply⟩

/-- What the client keeps from one connection to the next. -/
structure Link where
  credentials : LiveCredentials
  connected : Bool
  deriving DecidableEq, Repr

/-- An answer to whatever call comes next. -/
abbrev LinkChoice := (operation : LinkCall) → operation.Reply

def link : Machine LinkSig LinkChoice Link where
  exec
    | .copyCredentials,_,l => (l.credentials,l)
    | .setCredentials c,_,l => ((),{l with credentials := c})
    | .setConnected,_,l => ((),{l with connected := true})
    | .setDisconnected,_,l => ((),{l with connected := false})
    | operation,choice,l => (choice operation,l)

section Answers
variable {l : Link} {choice : LinkChoice}

@[simp] theorem link_copyCredentials : link.exec .copyCredentials choice l = (l.credentials,l) := rfl
@[simp] theorem link_setCredentials (c : LiveCredentials) :
    link.exec (.setCredentials c) choice l = ((),{l with credentials := c}) := rfl
@[simp] theorem link_send (frame : OutboundFrame) :
    link.exec (.send frame) choice l = (choice (.send frame),l) := rfl
@[simp] theorem link_readNext : link.exec .readNext choice l = (choice .readNext,l) := rfl
@[simp] theorem link_dialManager (url : String) :
    link.exec (.dialManager url) choice l = (choice (.dialManager url),l) := rfl
@[simp] theorem link_sleep (delay : Nat) : link.exec (.sleep delay) choice l = (choice (.sleep delay),l) := rfl

end Answers

abbrev Linking := Program LinkSig SdkError

/-- A client of an accepted configuration, and whether it has a callback for a new pair. -/
structure LinkClient where
  cfg : GatewayConfig
  onRegister : Bool
  urls : cfg.managerUrls ≠ []

def startCredentials (cfg : GatewayConfig) : LiveCredentials := ⟨cfg.nodeId,cfg.nodeSecret,cfg.registrationToken⟩

/-- The client that is built, with the callback it is then given, and its credentials. -/
def connect (parseUrl : String → Except String Unit) (plaintextWsEnvSet : Bool) (cfg : GatewayConfig)
    (onRegister : Bool) : Except SdkError (LinkClient × Link) :=
  match valid : cfg.validate parseUrl plaintextWsEnvSet with
  | .error e => .error e
  | .ok () => .ok (⟨cfg,onRegister,(GatewayConfig.accepted_of_validate valid).urls⟩,⟨startCredentials cfg,false⟩)

variable (fromStr : String → Except String Json)

/-- What the reply's text means, or the error the connection ends in. -/
def authText : Arrival → Except SdkError String
  | .message (.text t) => .ok t
  | .message .binary => .error (.auth "binary auth response")
  | .message .close => .error (.auth "connection closed during auth")
  | .message .other => .error (.auth "non-text auth frame")
  | .failed e => .error (.webSocket e)
  | .ended => .error (.auth "connection closed before auth response")
  | .timedOut => .error .authTimeout

def ask (operation : LinkCall) : Linking operation.Reply := .call operation .pure

def isCancelled : Linking Bool := ask .isCancelled

/-- The credentials an ack leaves, and the callback. -/
def register (client : LinkClient) : AuthOutcome → Linking Unit
  | .registered nodeId nodeSecret => do
    ask (.setCredentials ⟨some nodeId,some nodeSecret,none⟩)
    if client.onRegister = true then ask (.onRegister nodeId nodeSecret)
  | .authenticated => return ()

/-- What follows once the auth frame has been taken. -/
def awaitAuth (client : LinkClient) : Linking ConnectionResult := do
  match ← ask .readNext with
  | none => return .shutdownRequested
  | some arrival =>
    let authText ← Program.ofExcept (authText arrival)
    let outcome ← Program.ofExcept (parseAuthResponse fromStr authText)
    register client outcome
    ask .setConnected
    ask .runSession

def authenticate (client : LinkClient) : Linking ConnectionResult := do
  let credentials ← ask .copyCredentials
  let frame ← Program.ofExcept (authFrame client.cfg credentials)
  match ← ask (.send frame) with
  | none => return .shutdownRequested
  | some none => Program.fail (.webSocket ("the manager did not take the auth frame within " ++ toString authSendTimeoutSecs ++ "s"))
  | some (some (.error e)) => Program.fail (.webSocket e)
  | some (some (.ok ())) => awaitAuth fromStr client

def oneConnection (client : LinkClient) (url : String) : Linking ConnectionResult := do
  let tlsConfig ← ask (.buildTlsConfig client.cfg.acceptSelfSignedCert client.cfg.certFingerprint)
  Program.ofExcept tlsConfig
  match ← ask (.dialManager url) with
  | none => return .shutdownRequested
  | some dialled =>
    Program.ofExcept dialled
    authenticate fromStr client

/-- The URL whose turn it is. -/
def LinkClient.url (client : LinkClient) (cursor : Nat) : String :=
  client.cfg.managerUrls.get ⟨cursor % client.cfg.managerUrls.length,Nat.mod_lt _ (List.length_pos_iff.mpr client.urls)⟩

/-- The backoff's count after a connection that ended so. -/
def attemptAfter (attempt : UInt32) : Except SdkError ConnectionResult → UInt32
  | .ok .authenticatedThenClosed => 0
  | _ => attempt

def shutDown : Except SdkError ConnectionResult → Bool
  | .ok .shutdownRequested => true
  | _ => false

/-- `attempt.saturating_add(1)`. -/
def nextAttempt (attempt : UInt32) : UInt32 := if attempt = 4294967295 then attempt else attempt+1

/-- The loop of `run` for so many rounds, until shutdown. -/
def connectLoop (client : LinkClient) : Nat → UInt64 → UInt32 → Linking Unit
  | 0,_,_ => return ()
  | rounds+1,urlCursor,attempt => do
    if ← isCancelled then return ()
    let result ← (oneConnection fromStr client (client.url urlCursor.toNat)).attempt
    ask .setDisconnected
    if shutDown result = true then return ()
    if ← isCancelled then return ()
    let attempt := nextAttempt (attemptAfter attempt result)
    match ← ask (.sleep (client.cfg.reconnectBackoff.delayForAttempt attempt)) with
    | none => return ()
    | some () => connectLoop client rounds (urlCursor+1) attempt

end GatewaySdk.Client
