import Mathlib.Data.List.Sort
import GatewaySdk.Client.Config
import GatewaySdk.Client.Frames
import GatewaySdk.Text.Decimal
import GatewaySdk.Text.Record
import GatewaySdk.Upgrade.Pem

/-! What a vendor's messages look like on the wire, and that who parses their frames as this
client parses those of the manager, and then reads by name, has the message again. -/
namespace GatewaySdk.Client
open GatewaySdk.Upgrade (Json Bytes base64Text base64Text_utf8 utf8)
open GatewaySdk.Text

namespace Wire

def isNull : Json → Bool
  | .null => true
  | _ => false

def entries : Json → Option (List (String × Json))
  | .obj fields => some fields
  | _ => none

def items : Json → Option (List Json)
  | .arr items => some items
  | _ => none

def value : Codec Json Json where
  write v := v
  read := some
  fine _ := True
  denotes v w := w = v
  written _ _ := rfl
  reads _ _ denotes := congrArg some denotes

def string : Codec Json String where
  write := .str
  read := Json.asStr
  fine _ := True
  denotes text v := v = .str text
  written _ _ := rfl
  reads _ _ denotes := denotes ▸ rfl

def bool : Codec Json Bool where
  write := .bool
  read
    | .bool b => some b
    | _ => none
  fine _ := True
  denotes b v := v = .bool b
  written _ _ := rfl
  reads _ _ denotes := denotes ▸ rfl

def natural (bound : Nat) : Codec Json Nat where
  write n := .num (String.ofList (Decimal.ofNat n))
  read
    | .num text => (Decimal.toNat text.toList).filter fun n => decide (n < bound)
    | _ => none
  fine n := n < bound
  denotes n v := n < bound ∧ v = .num (String.ofList (Decimal.ofNat n))
  written _ fine := ⟨fine,rfl⟩
  reads n v denotes := by
    obtain ⟨small,rfl⟩ := denotes
    simp only [String.toList_ofList,Decimal.toNat_ofNat,Option.filter_some,small,decide_true,if_true]

def u64 : Codec Json UInt64 := (natural (2 ^ 64)).as UInt64.ofNat UInt64.toNat fun _ => UInt64.ofNat_toNat

def u32 : Codec Json UInt32 := (natural (2 ^ 32)).as UInt32.ofNat UInt32.toNat fun _ => UInt32.ofNat_toNat

def i64 : Codec Json Int64 where
  write n := .num (String.ofList (Decimal.ofInt n.toInt))
  read
    | .num text => ((Decimal.toInt text.toList).filter fun n => decide (-2 ^ 63 ≤ n ∧ n < 2 ^ 63)).map Int64.ofInt
    | _ => none
  fine _ := True
  denotes n v := v = .num (String.ofList (Decimal.ofInt n.toInt))
  written _ _ := rfl
  reads n v denotes := by
    have small : -2 ^ 63 ≤ n.toInt ∧ n.toInt < 2 ^ 63 := ⟨n.le_toInt,n.toInt_lt⟩
    rw [denotes]
    simp only [String.toList_ofList,Decimal.toInt_ofInt,Option.filter_some,decide_eq_true small,if_true,Option.map_some,
      Int64.ofInt_toInt]

def label {ι : Type} (name : ι → String) (named : String → Option ι) (known : ∀ i, named (name i) = some i) : Codec Json ι where
  write i := .str (name i)
  read v := v.asStr.bind named
  fine _ := True
  denotes i v := v = .str (name i)
  written _ _ := rfl
  reads i _ denotes := denotes ▸ known i

/-- Bytes as the text of their standard base64. -/
def base64 : Codec Json Bytes where
  write bytes := .str (String.ofList (base64Text bytes))
  read v := v.asStr.bind fun text => Base64.decode (utf8 text)
  fine _ := True
  denotes bytes v := v = .str (String.ofList (base64Text bytes))
  written _ _ := rfl
  reads bytes v denotes := by
    rw [denotes,Json.asStr,Option.bind_some,base64Text_utf8]
    exact Base64.decode_encode bytes

def list {α : Type} (c : Codec Json α) : Codec Json (List α) := c.list .arr items fun _ => rfl

def record {α : Type} (s : Shape Json α) : Codec Json α := .record .obj entries (fun _ => rfl) s

/-- `Option<T>` under `skip_serializing_if = "Option::is_none"`. -/
def optional {α : Type} (name : String) (c : Codec Json α) : Shape Json (Option α) := .omitted isNull name c

/-- A value that is left out where it is null. -/
def unlessNull (name : String) : Shape Json Json :=
  (optional name value).as (fun v => v.getD .null) (fun v => if isNull v = true then none else some v) fun v => by
    cases v <;> rfl

theorem unlessNull_fine (name : String) (v : Json) : (unlessNull name).fine v := by
  intro w same
  change (if isNull v = true then none else some v) = some w at same
  split at same
  · cases same
  next solid =>
    obtain rfl := Option.some.inj same
    exact ⟨trivial,Bool.not_eq_true _ ▸ solid⟩

theorem optional_fine {α : Type} {name : String} {c : Codec Json α} (solid : ∀ a, c.fine a ∧ isNull (c.write a) = false)
    (value : Option α) : (optional name c).fine value := fun a _ => solid a

section Arranged
variable (arrange : List (String × Json) → List (String × Json))

mutual
/-- A value as the crate holds it, the entries of its objects in the crate's order. -/
def arranged : Json → Json
  | .obj fields => .obj (arrange (arrangedFields fields))
  | .arr items => .arr (arrangedItems items)
  | .null => .null
  | .bool value => .bool value
  | .num text => .num text
  | .str text => .str text

def arrangedFields : List (String × Json) → List (String × Json)
  | [] => []
  | (name,v)::fields => (name,arranged v)::arrangedFields fields

def arrangedItems : List Json → List Json
  | [] => []
  | v::items => arranged v::arrangedItems items
end

/-- Every object in the value has its entries in the crate's order already. -/
inductive InOrder : Json → Prop where
  | null : InOrder .null
  | bool (value : Bool) : InOrder (.bool value)
  | num (text : String) : InOrder (.num text)
  | str (text : String) : InOrder (.str text)
  | arr {items : List Json} (each : ∀ v ∈ items, InOrder v) : InOrder (.arr items)
  | obj {fields : List (String × Json)} (each : ∀ entry ∈ fields, InOrder entry.2) (order : arrange fields = fields) :
    InOrder (.obj fields)

variable {arrange}

theorem arrangedItems_same {items : List Json} (each : ∀ v ∈ items, arranged arrange v = v) :
    arrangedItems arrange items = items := by
  induction items with
  | nil => rfl
  | cons v items ih =>
    rw [arrangedItems,each v List.mem_cons_self,ih fun w member => each w (List.mem_cons_of_mem v member)]

theorem arrangedFields_same {fields : List (String × Json)} (each : ∀ entry ∈ fields, arranged arrange entry.2 = entry.2) :
    arrangedFields arrange fields = fields := by
  induction fields with
  | nil => rfl
  | cons entry fields ih =>
    rw [arrangedFields,each entry List.mem_cons_self,ih fun other member => each other (List.mem_cons_of_mem entry member)]

theorem arrangedFields_append (fields more : List (String × Json)) :
    arrangedFields arrange (fields ++ more) = arrangedFields arrange fields ++ arrangedFields arrange more := by
  induction fields with
  | nil => rfl
  | cons entry fields ih => rw [List.cons_append,arrangedFields,ih,arrangedFields,List.cons_append]

theorem InOrder.same {v : Json} (inOrder : InOrder arrange v) : arranged arrange v = v := by
  induction inOrder with
  | null | bool | num | str => rfl
  | arr _ ih => rw [arranged,arrangedItems_same ih]
  | obj _ order ih => rw [arranged,arrangedFields_same ih,order]

theorem arranged_obj {fields : List (String × Json)} (each : ∀ entry ∈ fields, InOrder arrange entry.2) :
    arranged arrange (.obj fields) = .obj (arrange fields) := by
  rw [arranged,arrangedFields_same fun entry member => (each entry member).same]

/-- What the entries hold is in order. -/
def Tidy (arrange : List (String × Json) → List (String × Json)) {α : Type} (s : Shape Json α) (a : α) : Prop :=
  ∀ entry ∈ s.put a, InOrder arrange entry.2

theorem required_tidy {α : Type} {name : String} {c : Codec Json α} {a : α} (inOrder : InOrder arrange (c.write a)) :
    Tidy arrange (.required name c) a := by
  intro entry member
  rw [List.mem_singleton.mp member]
  exact inOrder

theorem optional_tidy {α : Type} {name : String} {c : Codec Json α} {value : Option α}
    (inOrder : ∀ a ∈ value, InOrder arrange (c.write a)) : Tidy arrange (optional name c) value := by
  intro entry member
  cases value with
  | none => cases member
  | some a =>
    rw [List.mem_singleton.mp member]
    exact inOrder a rfl

theorem unlessNull_tidy {name : String} {v : Json} (inOrder : InOrder arrange v) : Tidy arrange (unlessNull name) v := by
  have held : ∀ w ∈ if isNull v = true then none else some v, InOrder arrange w := by
    intro w same
    split at same
    · cases same
    · cases same
      exact inOrder
  exact optional_tidy held

theorem both_tidy {α β : Type} {s : Shape Json α} {t : Shape Json β} {apart : ∀ name ∈ s.names, name ∉ t.names} {ab : α × β}
    (left : Tidy arrange s ab.1) (right : Tidy arrange t ab.2) : Tidy arrange (s.both t apart) ab :=
  fun entry member => (List.mem_append.mp member).elim (left entry) (right entry)

theorem tagged_tidy {ι : Type} {α : ι → Type} {name : String} {c : Codec Json ι} {parts : List String}
    {s : (i : ι) → Shape Json (α i)} {own : ∀ i, ∀ part ∈ (s i).names, part ∈ parts} {apart : name ∉ parts} {i : ι} {a : α i}
    (inOrder : InOrder arrange (c.write i)) (tidy : Tidy arrange (s i) a) : Tidy arrange (.tagged name c parts s own apart) ⟨i,a⟩ := by
  intro entry member
  obtain same | member := List.mem_cons.mp member
  · rw [same]
    exact inOrder
  · exact tidy entry member

theorem as_tidy {α β : Type} {s : Shape Json α} {make : α → β} {parts : β → α} {whole : ∀ b, make (parts b) = b} {b : β}
    (tidy : Tidy arrange s (parts b)) : Tidy arrange (s.as make parts whole) b := tidy

/-- A record is read back from whatever order its entries are in. -/
theorem record_back {α : Type} {s : Shape Json α} {a : α} (perm : ∀ fields, (arrange fields).Perm fields) (fine : s.fine a)
    (tidy : Tidy arrange s a) : (record s).read (arranged arrange ((record s).write a)) = some a := by
  refine (record s).reads a _ ⟨arrange (s.put a),s.put a,[],arranged_obj tidy,?_,s.written a fine,nofun⟩
  rw [List.append_nil]
  exact perm _

theorem field_lookup {fields : List (String × Json)} {name : String} {v : Json} (found : lookup fields name = .one v) :
    (Json.obj fields).field name = some v := by
  unfold lookup at found
  rw [Json.field,← List.head?_filter]
  generalize fields.filter (fun entry => entry.1 == name) = named at found ⊢
  obtain _ | ⟨entry,_ | ⟨other,more⟩⟩ := named
  · cases found
  · cases found
    rfl
  · cases found

end Arranged

end Wire

inductive EventSeverity where
  | info
  | minor
  | major
  | critical
  deriving DecidableEq, Repr

def EventSeverity.asStr : EventSeverity → String
  | .info => "info"
  | .minor => "minor"
  | .major => "major"
  | .critical => "critical"

structure GatewayEvent where
  severity : EventSeverity
  category : String
  message : String
  details : Json
  flowId : Option String
  inputId : Option String
  outputId : Option String

namespace GatewayEvent

/-- `Map::insert`: the entry under this name is replaced. -/
def insert (name : String) (value : Json) (fields : List (String × Json)) : List (String × Json) :=
  fields.filter (fun entry => entry.1 != name) ++ [(name,value)]

def toPayload (self : GatewayEvent) : Json :=
  .obj ([("severity",.str self.severity.asStr),("category",.str self.category),("message",.str self.message)] ++
    (if Wire.isNull self.details = true then [] else [("details",self.details)]) ++
    (self.flowId.toList.map fun f => ("flow_id",.str f)) ++ (self.inputId.toList.map fun i => ("input_id",.str i)) ++
    self.outputId.toList.map fun o => ("output_id",.str o))

end GatewayEvent

/-- Sub-status of a sidecar. -/
structure GatewayTargetHealth where
  reachable : Bool
  targetAddress : String
  gatewayHost : Option String
  gatewayEgressIp : Option String
  lastSuccessfulPollUnix : Option Int64
  lastErrorCode : Option String
  consecutiveFailures : Option UInt32

namespace Wire
open Shape

def severity : Codec Json EventSeverity :=
  label EventSeverity.asStr (fun text =>
    if text = "info" then some .info else if text = "minor" then some .minor
    else if text = "major" then some .major else if text = "critical" then some .critical else none) fun severity => by
      cases severity <;> rfl

/-- What `to_payload` writes, as a record. -/
def gatewayEvent : Shape Json GatewayEvent :=
  ((((((required "severity" severity).both (required "category" string) (by decide)).both
    (required "message" string) (by decide)).both (unlessNull "details") (by decide)).both
    (optional "flow_id" string) (by decide)).both (optional "input_id" string) (by decide)).both
    (optional "output_id" string) (by decide) |>.as
      (fun parts => ⟨parts.1.1.1.1.1.1,parts.1.1.1.1.1.2,parts.1.1.1.1.2,parts.1.1.1.2,parts.1.1.2,parts.1.2,parts.2⟩)
      (fun e => ((((((e.severity,e.category),e.message),e.details),e.flowId),e.inputId),e.outputId)) fun _ => rfl

def gatewayTargetHealth : Shape Json GatewayTargetHealth :=
  ((((((required "reachable" bool).both (required "target_address" string) (by decide)).both
    (optional "gateway_host" string) (by decide)).both (optional "gateway_egress_ip" string) (by decide)).both
    (optional "last_successful_poll_unix" i64) (by decide)).both (optional "last_error_code" string) (by decide)).both
    (optional "consecutive_failures" u32) (by decide) |>.as
      (fun parts => ⟨parts.1.1.1.1.1.1,parts.1.1.1.1.1.2,parts.1.1.1.1.2,parts.1.1.1.2,parts.1.1.2,parts.1.2,parts.2⟩)
      (fun t => ((((((t.reachable,t.targetAddress),t.gatewayHost),t.gatewayEgressIp),t.lastSuccessfulPollUnix),
        t.lastErrorCode),t.consecutiveFailures)) fun _ => rfl

def thumbnail : Shape Json (String × Bytes) := (required "flow_id" string).both (required "image_base64" base64) (by decide)

/-- What an ack of either kind has beside its command. -/
abbrev AckParts : Bool → Type
  | true => Json
  | false => (String × String) × Option Json

def ackParts : (success : Bool) → Shape Json (AckParts success)
  | true => unlessNull "data"
  | false => ((required "error" string).both (required "error_code" string) (by decide)).both (optional "details" value) (by decide)

def commandAck : Shape Json (String × Except CommandError Json) :=
  (required "command_id" string).both
    (tagged "success" bool ["data","error","error_code","details"] ackParts (fun success => by cases success <;> decide)
      (by decide)) (by decide) |>.as
      (fun parts => (parts.1,match parts.2 with
        | ⟨true,data⟩ => .ok data
        | ⟨false,⟨(message,code),details⟩⟩ => .error ⟨code,message,details⟩))
      (fun ack => (ack.1,match ack.2 with
        | .ok data => ⟨true,data⟩
        | .error err => ⟨false,((err.message,err.code),err.details)⟩)) fun ack => by
      obtain ⟨id,result⟩ := ack
      cases result <;> rfl

end Wire

theorem toPayload_write (e : GatewayEvent) : e.toPayload = (Wire.record Wire.gatewayEvent).write e := by
  obtain ⟨severity,category,message,details,flowId,inputId,outputId⟩ := e
  cases details <;> cases flowId <;> cases inputId <;> cases outputId <;> rfl

theorem commandAckPayload_write (id : String) (result : Except CommandError Json) :
    commandAckPayload id result = (Wire.record Wire.commandAck).write (id,result) := by
  cases result with
  | ok data => cases data <;> rfl
  | error err =>
    obtain ⟨code,message,details⟩ := err
    cases details <;> rfl

theorem gatewayEvent_fine (e : GatewayEvent) : Wire.gatewayEvent.fine e :=
  ⟨⟨⟨⟨⟨⟨trivial,trivial⟩,trivial⟩,Wire.unlessNull_fine "details" e.details⟩,Wire.optional_fine (fun _ => ⟨trivial,rfl⟩) _⟩,
    Wire.optional_fine (fun _ => ⟨trivial,rfl⟩) _⟩,Wire.optional_fine (fun _ => ⟨trivial,rfl⟩) _⟩

theorem gatewayTargetHealth_fine (t : GatewayTargetHealth) : Wire.gatewayTargetHealth.fine t :=
  ⟨⟨⟨⟨⟨⟨trivial,trivial⟩,Wire.optional_fine (fun _ => ⟨trivial,rfl⟩) _⟩,Wire.optional_fine (fun _ => ⟨trivial,rfl⟩) _⟩,
    Wire.optional_fine (fun _ => ⟨trivial,rfl⟩) _⟩,Wire.optional_fine (fun _ => ⟨trivial,rfl⟩) _⟩,
    Wire.optional_fine (fun n => ⟨n.toNat_lt,rfl⟩) _⟩

theorem gatewayEvent_tidy {arrange : List (String × Json) → List (String × Json)} (e : GatewayEvent)
    (ordered : Wire.InOrder arrange e.details) : Wire.Tidy arrange Wire.gatewayEvent e := by
  have text {name : String} (id : Option String) : Wire.Tidy arrange (Wire.optional name Wire.string) id :=
    Wire.optional_tidy fun text _ => .str text
  unfold Wire.gatewayEvent
  refine Wire.as_tidy (Wire.both_tidy (Wire.both_tidy (Wire.both_tidy (Wire.both_tidy (Wire.both_tidy (Wire.both_tidy
    (Wire.required_tidy ?_) (Wire.required_tidy ?_)) (Wire.required_tidy ?_)) ?_) (text _)) (text _)) (text _))
  · exact .str _
  · exact .str _
  · exact .str _
  · exact Wire.unlessNull_tidy ordered

theorem gatewayTargetHealth_tidy {arrange : List (String × Json) → List (String × Json)} (t : GatewayTargetHealth) :
    Wire.Tidy arrange Wire.gatewayTargetHealth t := by
  have text {name : String} (id : Option String) : Wire.Tidy arrange (Wire.optional name Wire.string) id :=
    Wire.optional_tidy fun text _ => .str text
  unfold Wire.gatewayTargetHealth
  refine Wire.as_tidy (Wire.both_tidy (Wire.both_tidy (Wire.both_tidy (Wire.both_tidy (Wire.both_tidy (Wire.both_tidy
    (Wire.required_tidy ?_) (Wire.required_tidy ?_)) (text _)) (text _)) (Wire.optional_tidy ?_)) (text _))
    (Wire.optional_tidy ?_))
  · exact .bool _
  · exact .str _
  · exact fun n _ => .num _
  · exact fun n _ => .num _

theorem commandAck_tidy {arrange : List (String × Json) → List (String × Json)} (id : String)
    {result : Except CommandError Json} (data : ∀ v, result = .ok v → Wire.InOrder arrange v)
    (details : ∀ err, result = .error err → ∀ v ∈ err.details, Wire.InOrder arrange v) :
    Wire.Tidy arrange Wire.commandAck (id,result) := by
  unfold Wire.commandAck
  refine Wire.as_tidy (Wire.both_tidy (Wire.required_tidy ?_) ?_)
  · exact .str _
  cases result with
  | ok v => exact Wire.tagged_tidy (.bool _) (Wire.unlessNull_tidy (data v rfl))
  | error err =>
    have refused : Wire.Tidy arrange (Wire.ackParts false) ((err.message,err.code),err.details) := by
      unfold Wire.ackParts
      refine Wire.both_tidy (Wire.both_tidy (Wire.required_tidy ?_) (Wire.required_tidy ?_)) (Wire.optional_tidy (details err rfl))
      · exact .str _
      · exact .str _
    exact Wire.tagged_tidy (.bool _) refused

/-- What a vendor sends through an `Emitter`. -/
inductive Emission where
  | stats (stats : Json)
  | health (health : Json)
  | healthWithTarget (health : Json) (target : GatewayTargetHealth)
  | event (event : GatewayEvent)
  | eventRaw (payload : Json)
  | thumbnail (flowId : String) (jpeg : Bytes)
  | configResponse (config : Json)
  | commandAck (commandId : String) (result : Except CommandError Json)
  | pong

namespace Emission

/-- The sub-status is put into an object of health; anything else goes as it is. -/
def withTarget (target : GatewayTargetHealth) : Json → Json
  | .obj fields => .obj (GatewayEvent.insert "gateway_target" ((Wire.record Wire.gatewayTargetHealth).write target) fields)
  | other => other

def frame : Emission → OutboundFrame
  | .stats v => ⟨"stats",v⟩
  | .health v => ⟨"health",v⟩
  | .healthWithTarget v target => ⟨"health",withTarget target v⟩
  | .event e => ⟨"event",e.toPayload⟩
  | .eventRaw payload => ⟨"event",payload⟩
  | .thumbnail flowId jpeg =>
    ⟨"thumbnail",.obj [("flow_id",.str flowId),("image_base64",.str (String.ofList (base64Text jpeg)))]⟩
  | .configResponse config => GatewaySdk.Client.configResponse config
  | .commandAck commandId result => GatewaySdk.Client.commandAck commandId result
  | .pong => ⟨"pong",.null⟩

/-- The target's health under its name, and under every other name what was there. -/
def CarriesTarget (target : GatewayTargetHealth) (given payload : Json) : Prop :=
  match given with
  | .obj fields => ∃ entries, payload = .obj entries ∧
      (∃ v, lookup entries "gateway_target" = .one v ∧ (Wire.record Wire.gatewayTargetHealth).read v = some target) ∧
      ∀ name, name ≠ "gateway_target" → lookup entries name = lookup fields name
  | _ => payload = given

/-- Who reads the payload by name has the message. -/
def Understood (payload : Json) : Emission → Prop
  | .stats v | .health v | .eventRaw v | .configResponse v => payload = v
  | .healthWithTarget v target => CarriesTarget target v payload
  | .event e => (Wire.record Wire.gatewayEvent).read payload = some e
  | .thumbnail flowId jpeg => (Wire.record Wire.thumbnail).read payload = some (flowId,jpeg)
  | .commandAck commandId result => (Wire.record Wire.commandAck).read payload = some (commandId,result)
  | .pong => payload = .null

/-- The values a vendor hands over are held as the crate holds values. -/
def Ordered (arrange : List (String × Json) → List (String × Json)) : Emission → Prop
  | .stats v | .health v | .healthWithTarget v _ | .eventRaw v | .configResponse v => Wire.InOrder arrange v
  | .event e => Wire.InOrder arrange e.details
  | .commandAck _ (.ok data) => Wire.InOrder arrange data
  | .commandAck _ (.error err) => ∀ details ∈ err.details, Wire.InOrder arrange details
  | .thumbnail _ _ | .pong => True

/-- The one thing that is lost: a null in the place of an error's details. -/
def Kept : Emission → Prop
  | .commandAck _ (.error err) => ∀ details, err.details = some details → Wire.isNull details = false
  | _ => True

theorem insert_lookup (name : String) (value : Json) (fields : List (String × Json)) :
    lookup (GatewayEvent.insert name value fields) name = .one value := by
  refine (lookup_right fun entry member => ?_).trans lookup_self
  simpa using (List.mem_filter.mp member).2

theorem insert_other {name other : String} (apart : other ≠ name) (value : Json) (fields : List (String × Json)) :
    lookup (GatewayEvent.insert name value fields) other = lookup fields other := by
  refine (lookup_left fun entry member same => ?_).trans ?_
  · rw [List.mem_singleton.mp member] at same
    exact apart same.symm
  · unfold lookup
    rw [List.filter_filter]
    congr 1
    apply List.filter_congr
    intro entry _
    by_cases same : entry.1 = other
    · simp [same,apart]
    · simp [same]

section Frames
variable {arrange : List (String × Json) → List (String × Json)} (perm : ∀ fields, (arrange fields).Perm fields)
include perm

theorem withTarget_carries (target : GatewayTargetHealth) {given : Json} (ordered : Wire.InOrder arrange given) :
    CarriesTarget target given (Wire.arranged arrange (withTarget target given)) := by
  cases given with
  | obj fields =>
    cases ordered with
    | obj each order =>
      have others : ∀ entry ∈ fields.filter fun entry => entry.1 != "gateway_target",
          Wire.arranged arrange entry.2 = entry.2 := fun entry member => (each entry (List.mem_of_mem_filter member)).same
      have whole : Wire.arrangedFields arrange (GatewayEvent.insert "gateway_target"
            ((Wire.record Wire.gatewayTargetHealth).write target) fields) =
          GatewayEvent.insert "gateway_target"
            (Wire.arranged arrange ((Wire.record Wire.gatewayTargetHealth).write target)) fields := by
        rw [GatewayEvent.insert,Wire.arrangedFields_append,Wire.arrangedFields_same others]
        rfl
      rw [withTarget,Wire.arranged,whole]
      refine ⟨_,rfl,⟨_,(lookup_perm (perm _) _).trans (insert_lookup _ _ _),?_⟩,fun name other => ?_⟩
      · exact Wire.record_back perm (gatewayTargetHealth_fine target) (gatewayTargetHealth_tidy target)
      · exact (lookup_perm (perm _) _).trans (insert_other other _ _)
  | _ => exact ordered.same

theorem frame_understood (message : Emission) (ordered : message.Ordered arrange) (kept : message.Kept) :
    message.Understood (Wire.arranged arrange message.frame.payload) := by
  cases message with
  | stats | health | eventRaw | configResponse => exact ordered.same
  | pong => rfl
  | healthWithTarget v target => exact withTarget_carries perm target ordered
  | event e =>
    rw [frame,Understood,toPayload_write]
    exact Wire.record_back perm (gatewayEvent_fine e) (gatewayEvent_tidy e ordered)
  | thumbnail flowId jpeg =>
    exact Wire.record_back perm (s := Wire.thumbnail) (a := (flowId,jpeg)) ⟨trivial,trivial⟩
      (Wire.both_tidy (Wire.required_tidy (.str _)) (Wire.required_tidy (.str _)))
  | commandAck commandId result =>
    rw [frame,Understood,GatewaySdk.Client.commandAck,commandAckPayload_write]
    cases result with
    | ok data =>
      refine Wire.record_back perm ⟨trivial,trivial,Wire.unlessNull_fine "data" data⟩ (commandAck_tidy commandId ?_ fun _ other => by cases other)
      intro v same
      cases same
      exact ordered
    | error err =>
      refine Wire.record_back perm ⟨trivial,trivial,⟨trivial,trivial⟩,fun details same => ⟨trivial,kept details same⟩⟩
        (commandAck_tidy commandId (fun _ other => by cases other) ?_)
      intro other same
      cases same
      exact ordered

end Frames

end Emission

def envelopeValue (timestamp : String) (frame : OutboundFrame) : Json :=
  .obj [("type",.str frame.msgType),("timestamp",.str timestamp),("payload",frame.payload)]

def envelope (toString_ : Json → String) (timestamp : String) (frame : OutboundFrame) : String :=
  toString_ (envelopeValue timestamp frame)

/-- Whatever a vendor emits is understood by who parses its envelope as this client parses its
own and reads the payload by name, in whatever order the crate holds an object's entries. -/
theorem emitted_understood (arrange : List (String × Json) → List (String × Json)) (toString_ : Json → String)
    (fromStr : String → Option Json) (timestamp : String) (message : Emission)
    (perm : ∀ fields, (arrange fields).Perm fields)
    (back : fromStr (toString_ (envelopeValue timestamp message.frame)) =
      some (Wire.arranged arrange (envelopeValue timestamp message.frame)))
    (ordered : message.Ordered arrange) (kept : message.Kept) :
    ∃ got, IncomingMessage.parse fromStr (envelope toString_ timestamp message.frame) = some got ∧
      got.msgType = message.frame.msgType ∧ message.Understood got.payload := by
  have fields : Wire.arranged arrange (envelopeValue timestamp message.frame) = .obj (arrange
      [("type",.str message.frame.msgType),("timestamp",.str timestamp),
        ("payload",Wire.arranged arrange message.frame.payload)]) := rfl
  have typed : (Wire.arranged arrange (envelopeValue timestamp message.frame)).field "type" = some (.str message.frame.msgType) := by
    rw [fields]
    exact Wire.field_lookup (lookup_perm (perm _) _)
  have loaded : (Wire.arranged arrange (envelopeValue timestamp message.frame)).field "payload" =
      some (Wire.arranged arrange message.frame.payload) := by
    rw [fields]
    exact Wire.field_lookup (lookup_perm (perm _) _)
  refine ⟨⟨message.frame.msgType,Wire.arranged arrange message.frame.payload⟩,?_,rfl,
    message.frame_understood perm ordered kept⟩
  simp only [IncomingMessage.parse,envelope,back,Option.bind_eq_bind,Option.bind_some,typed,loaded,Json.asStr,
    Option.getD_some,Option.pure_def]

namespace Sample

def timeout : Emission := .commandAck "c-1" (.error ⟨"timeout","no answer",none⟩)

def byName (fields : List (String × Json)) : List (String × Json) := fields.insertionSort fun a b => a.1 ≤ b.1

def timeoutText : String :=
  "\x7b\"payload\":\x7b\"command_id\":\"c-1\",\"error\":\"no answer\",\"error_code\":\"timeout\"," ++
    "\"success\":false\x7d,\"timestamp\":\"2026-01-01T00:00:00+00:00\",\"type\":\"command_ack\"\x7d"

/-- As much of the crate as this text needs. -/
def readTimeout (text : String) : Option Json :=
  if text = timeoutText then some (.obj [("payload",.obj [("command_id",.str "c-1"),("error",.str "no answer"),
    ("error_code",.str "timeout"),("success",.bool false)]),("timestamp",.str "2026-01-01T00:00:00+00:00"),
    ("type",.str "command_ack")]) else none

end Sample

theorem timeout_understood : ∃ got, IncomingMessage.parse Sample.readTimeout
      (envelope (fun _ => Sample.timeoutText) "2026-01-01T00:00:00+00:00" Sample.timeout.frame) = some got ∧
    got.msgType = "command_ack" ∧ Sample.timeout.Understood got.payload :=
  emitted_understood Sample.byName (fun _ => Sample.timeoutText) Sample.readTimeout "2026-01-01T00:00:00+00:00" Sample.timeout
    (fun fields => List.perm_insertionSort _ fields) (if_pos rfl) nofun nofun

end GatewaySdk.Client
