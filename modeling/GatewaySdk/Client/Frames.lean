import GatewaySdk.Upgrade.Verify

/-! What goes over the manager link as the session code sees it: the envelope read, the
frames written, the acks of a command, and the limits on all of them. -/
namespace GatewaySdk.Client
open GatewaySdk.Upgrade (Json)

def outboundChannelSize : Nat := 256
def inboundChannelSize : Nat := 256
def maxInboundWsBytes : Nat := 5*1024*1024
def inboundBudgetBytes : Nat := 4*maxInboundWsBytes
def commandQueueSize : Nat := 64
def commandQueueBytes : Nat := 4*maxInboundWsBytes
def busyErrorCode : String := "gateway_busy"
def panickedErrorCode : String := "handler_panicked"

/-- A text's permits: `u32::try_from(text.len()).unwrap_or(u32::MAX)`. -/
def cost (text : String) : Nat := min text.utf8ByteSize 4294967295

theorem cost_le {text : String} (short : text.utf8ByteSize ≤ maxInboundWsBytes) : cost text = text.utf8ByteSize := by
  unfold maxInboundWsBytes at short
  unfold cost
  omega

structure IncomingMessage where
  msgType : String
  payload : Json

/-- `serde_json` reads the text; a text without a `type` is dropped. -/
def IncomingMessage.parse (fromStr : String → Option Json) (text : String) : Option IncomingMessage := do
  let v ← fromStr text
  let msgType ← (v.field "type").bind Json.asStr
  return ⟨msgType,(v.field "payload").getD .null⟩

def commandId (payload : Json) : String := ((payload.field "command_id").bind Json.asStr).getD ""

/-- The action of a command, parsed again from its frame when it starts. -/
def actionOf (fromStr : String → Option Json) (frame : String) : Json :=
  match IncomingMessage.parse fromStr frame with
  | some message => (message.payload.field "action").getD .null
  | none => .null

/-- The frame is a message whose payload has this action. -/
def Carries (fromStr : String → Option Json) (frame : String) (action : Json) : Prop :=
  ∃ v msgType payload, fromStr frame = some v ∧ v.field "type" = some (.str msgType) ∧ v.field "payload" = some payload ∧
    payload.field "action" = some action

/-- Its type is the one that asks for the config. -/
def AsksConfig (fromStr : String → Option Json) (frame : String) : Prop :=
  ∃ action, Carries fromStr frame action ∧ action.field "type" = some (.str "get_config")

theorem actionOf_carries {fromStr : String → Option Json} {frame : String} {action : Json}
    (carries : Carries fromStr frame action) : actionOf fromStr frame = action := by
  obtain ⟨v,msgType,payload,read,type,loaded,named⟩ := carries
  simp [actionOf,IncomingMessage.parse,read,type,loaded,named,Json.asStr]

theorem parse_fields {fromStr : String → Option Json} {frame : String} {message : IncomingMessage}
    (parsed : IncomingMessage.parse fromStr frame = some message) : ∃ v, fromStr frame = some v ∧
      v.field "type" = some (.str message.msgType) ∧ message.payload = (v.field "payload").getD .null := by
  obtain ⟨v,read,rest⟩ := Option.bind_eq_some_iff.mp parsed
  obtain ⟨msgType,named,built⟩ := Option.bind_eq_some_iff.mp rest
  obtain ⟨field,typed,str⟩ := Option.bind_eq_some_iff.mp named
  cases built
  cases field with
  | str text =>
    cases str
    exact ⟨v,read,typed,rfl⟩
  | _ => cases str

theorem carries_actionOf {fromStr : String → Option Json} {frame : String} (some_ : actionOf fromStr frame ≠ .null) :
    Carries fromStr frame (actionOf fromStr frame) := by
  unfold actionOf at some_ ⊢
  cases parsed : IncomingMessage.parse fromStr frame with
  | none => exact absurd (by rw [parsed]) some_
  | some message =>
    rw [parsed] at some_
    obtain ⟨v,read,typed,loaded⟩ := parse_fields parsed
    cases named : message.payload.field "action" with
    | none => exact absurd (by simp only [named,Option.getD_none]) some_
    | some action =>
      refine ⟨v,message.msgType,message.payload,read,typed,?_,?_⟩
      rotate_left
      · simp only [named,Option.getD_some]
      cases there : v.field "payload" with
      | none =>
        rw [loaded,there] at named
        cases named
      | some payload => rw [loaded,there,Option.getD_some]

def actionIsGetConfig (action : Json) : Bool := (action.field "type").bind Json.asStr == some "get_config"

structure CommandError where
  code : String
  message : String
  details : Option Json

/-- An envelope before it is encoded; its timestamp is left out. -/
structure OutboundFrame where
  msgType : String
  payload : Json

def commandAckPayload (id : String) : Except CommandError Json → Json
  | .ok .null => .obj [("command_id",.str id),("success",.bool true)]
  | .ok data => .obj [("command_id",.str id),("success",.bool true),("data",data)]
  | .error err => .obj ([("command_id",.str id),("success",.bool false),("error",.str err.message),
      ("error_code",.str err.code)] ++ err.details.toList.map fun details => ("details",details))

def commandAck (id : String) (result : Except CommandError Json) : OutboundFrame :=
  ⟨"command_ack",commandAckPayload id result⟩

def configResponse (config : Json) : OutboundFrame := ⟨"config_response",config⟩

def busyAck (id : String) : OutboundFrame :=
  commandAck id (.error ⟨busyErrorCode,"The gateway is still working through earlier commands and did not run " ++
    "this one. Retry once they have finished.",none⟩)

def panickedAck (id : String) : OutboundFrame :=
  commandAck id (.error ⟨panickedErrorCode,"The gateway's handler panicked on this command; see the gateway's log.",none⟩)

/-- An ack that tells the manager that the command of this id was refused as busy. -/
structure TellsBusy (id : String) (ack : OutboundFrame) : Prop where
  isAck : ack.msgType = "command_ack"
  named : ack.payload.field "command_id" = some (.str id)
  failed : ack.payload.field "success" = some (.bool false)
  code : ack.payload.field "error_code" = some (.str "gateway_busy")

theorem busyAck_tells (id : String) : TellsBusy id (busyAck id) := ⟨rfl,rfl,rfl,rfl⟩

/-- What names the command an ack is for. -/
def OutboundFrame.ackedId (frame : OutboundFrame) : Option String :=
  if frame.msgType = "command_ack" then (frame.payload.field "command_id").bind Json.asStr else none

theorem OutboundFrame.ackedId_iff {frame : OutboundFrame} {id : String} : frame.ackedId = some id ↔
    frame.msgType = "command_ack" ∧ frame.payload.field "command_id" = some (.str id) := by
  unfold OutboundFrame.ackedId
  split
  next isAck =>
    cases frame.payload.field "command_id" with
    | none => simp
    | some value => cases value <;> simp [isAck,Json.asStr]
  next other => simp [other]

theorem commandAck_ackedId (id : String) (result : Except CommandError Json) :
    (commandAck id result).ackedId = some id := by
  have named : (commandAckPayload id result).field "command_id" = some (.str id) := by
    cases result with
    | error err => rfl
    | ok data => cases data <;> rfl
  rw [OutboundFrame.ackedId,commandAck,if_pos rfl,named]
  rfl

/-- Which hook of the handler a command goes to. -/
inductive Hook where
  | onConfigRequest
  | handleCommand (id : String) (action : Json)

/-- The hook that a command of this id and frame is for: the one for the config where that is asked for, else the
other with the id and the action. -/
structure HookFor (fromStr : String → Option Json) (id frame : String) (hook : Hook) : Prop where
  config : hook = .onConfigRequest ↔ AsksConfig fromStr frame
  other : hook ≠ .onConfigRequest → ∃ action, hook = .handleCommand id action ∧
    (Carries fromStr frame action ∨ action = .null ∧ ∀ other, ¬ Carries fromStr frame other)

/-- What a hook comes back with. -/
inductive Returned where
  | config (snapshot : Json)
  | result (result : Except CommandError Json)

def Returned.fits : Returned → Hook → Prop
  | .config _,.onConfigRequest => True
  | .result _,.handleCommand _ _ => True
  | _,_ => False

theorem Returned.fits_iff {result : Returned} {hook : Hook} (fits : result.fits hook) :
    (∃ snapshot, result = .config snapshot) ↔ hook = .onConfigRequest := by
  cases result with
  | config snapshot => cases hook with
    | onConfigRequest => exact ⟨fun _ => rfl,fun _ => ⟨_,rfl⟩⟩
    | handleCommand => exact fits.elim
  | result result => cases hook with
    | onConfigRequest => exact fits.elim
    | handleCommand => exact ⟨nofun,nofun⟩

/-- The ack that is then emitted, and what follows it for a config request. -/
def repliesTo (id : String) : Returned → OutboundFrame × Option OutboundFrame
  | .config snapshot => (commandAck id (.ok .null),some (configResponse snapshot))
  | .result result => (commandAck id result,none)

theorem repliesTo_ackedId (id : String) (result : Returned) : (repliesTo id result).1.ackedId = some id := by
  cases result <;> exact commandAck_ackedId id _

end GatewaySdk.Client
