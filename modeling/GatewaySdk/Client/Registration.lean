import GatewaySdk.Client.Auth
import GatewaySdk.Effect.Trace

/-! The credentials over the life of a client: which frame every connection can send, and
what an ack changes of it. -/
namespace GatewaySdk.Client
open GatewaySdk.Effect
open GatewaySdk.Upgrade (Json)

abbrev LinkEvent := Event LinkSig LinkChoice Link
abbrev LinkMoment := Link × Trace LinkSig LinkChoice Link

def AuthOutcome.pair : AuthOutcome → Option (String × String)
  | .registered nodeId nodeSecret => some (nodeId,nodeSecret)
  | .authenticated => none

def ackOf (fromStr : String → Except String Json) : LinkEvent → Option (String × String)
  | ⟨_,.readNext,_,some arrival⟩ =>
    match (authText arrival).bind (parseAuthResponse fromStr) with
    | .ok outcome => outcome.pair
    | .error _ => none
  | _ => none

def calledOf : LinkEvent → Option (String × String)
  | ⟨_,.onRegister nodeId nodeSecret,_,_⟩ => some (nodeId,nodeSecret)
  | _ => none

def sentOf : LinkEvent → Option OutboundFrame
  | ⟨_,.send frame,_,_⟩ => some frame
  | _ => none

def acks (fromStr : String → Except String Json) (log : Trace LinkSig LinkChoice Link) : List (String × String) :=
  log.filterMap (ackOf fromStr)

def calls (log : Trace LinkSig LinkChoice Link) : List (String × String) := log.filterMap calledOf

/-- A whole pair, or no half of one and a token. -/
structure Usable (c : LiveCredentials) : Prop where
  paired : c.nodeId.isSome = c.nodeSecret.isSome
  token : c.nodeId = none → c.registrationToken.isSome = true

/-- The credentials once these acks have been taken in. -/
def credentialsAfter (start : LiveCredentials) (pairs : List (String × String)) : LiveCredentials :=
  match pairs.getLast? with
  | none => start
  | some (nodeId,nodeSecret) => ⟨some nodeId,some nodeSecret,none⟩

/-- The frame that reconnects with a pair: its payload has the two. -/
structure Reconnects (cfg : GatewayConfig) (frame : OutboundFrame) (nodeId nodeSecret : String) : Prop where
  isFrame : frame = authReconnect nodeId nodeSecret cfg.softwareVersion cfg.deviceType
  isAuth : frame.msgType = "auth"
  node : frame.payload.field "node_id" = some (.str nodeId)
  secret : frame.payload.field "node_secret" = some (.str nodeSecret)

theorem reconnects (cfg : GatewayConfig) (nodeId nodeSecret : String) :
    Reconnects cfg (authReconnect nodeId nodeSecret cfg.softwareVersion cfg.deviceType) nodeId nodeSecret :=
  ⟨rfl,rfl,rfl,rfl⟩

/-- The frame sent is the one for the pair there is, and after an ack the one for its pair. -/
structure RightFrame (fromStr : String → Except String Json) (cfg : GatewayConfig) (past : Trace LinkSig LinkChoice Link)
    (before : LiveCredentials) (frame : OutboundFrame) : Prop where
  pair : ∀ nid nsec, before.nodeId = some nid → before.nodeSecret = some nsec → Reconnects cfg frame nid nsec
  acked : ∀ nid nsec, (acks fromStr past).getLast? = some (nid,nsec) → Reconnects cfg frame nid nsec
  spent : acks fromStr past ≠ [] → frame.payload.field "registration_token" = none

/-- An ack was read just now, and its callback has not been called. -/
def Owed (fromStr : String → Except String Json) (log : Trace LinkSig LinkChoice Link) : Prop :=
  ∃ past ack more pair, log = past ++ ack::more ∧ ackOf fromStr ack = some pair ∧
    acks fromStr log = calls log ++ [pair] ∧
      (more = [] ∨ ∃ stored, more = [stored] ∧ stored.operation = .setCredentials ⟨some pair.1,some pair.2,none⟩)

/-- What is to be true at every moment of a client's life. -/
structure Registered (fromStr : String → Except String Json) (client : LinkClient) (m : LinkMoment) : Prop where
  usable : Usable m.1.credentials
  built : ∃ frame, authFrame client.cfg m.1.credentials = .ok frame
  sent : Along (fun past event => ∀ frame, sentOf event = some frame →
    RightFrame fromStr client.cfg past event.before.credentials frame) m.2
  called : client.onRegister = true → acks fromStr m.2 = calls m.2 ∨ Owed fromStr m.2

theorem authFrame_pair (cfg : GatewayConfig) {c : LiveCredentials} {nid nsec : String} (node : c.nodeId = some nid)
    (secret : c.nodeSecret = some nsec) :
    authFrame cfg c = .ok (authReconnect nid nsec cfg.softwareVersion cfg.deviceType) := by
  rw [authFrame,node,secret]

theorem Usable.builds {c : LiveCredentials} (usable : Usable c) (cfg : GatewayConfig) :
    ∃ frame, authFrame cfg c = .ok frame := by
  have paired := usable.paired
  have token := usable.token
  cases node : c.nodeId with
  | some nid =>
    rw [node,Option.isSome_some] at paired
    obtain ⟨nsec,secret⟩ := Option.isSome_iff_exists.mp paired.symm
    exact ⟨_,authFrame_pair cfg node secret⟩
  | none =>
    obtain ⟨token,kept⟩ := Option.isSome_iff_exists.mp (token node)
    refine ⟨authRegister token cfg.softwareVersion cfg.deviceType,?_⟩
    rw [authFrame,node,kept]

theorem reconnect_spends (nid nsec version device : String) :
    (authReconnect nid nsec version device).payload.field "registration_token" = none := by
  simp [authReconnect,Json.field]

section Life
variable {fromStr : String → Except String Json} {client : LinkClient} {start : LiveCredentials} {m : LinkMoment}
  {event : LinkEvent} {l : Link}

/-- Between two connections, and within one until an ack is read. -/
structure Settled (fromStr : String → Except String Json) (client : LinkClient) (start : LiveCredentials)
    (m : LinkMoment) : Prop where
  usable : Usable m.1.credentials
  sent : Along (fun past event => ∀ frame, sentOf event = some frame →
    RightFrame fromStr client.cfg past event.before.credentials frame) m.2
  current : m.1.credentials = credentialsAfter start (acks fromStr m.2)
  called : client.onRegister = true → acks fromStr m.2 = calls m.2

theorem Settled.registered (settled : Settled fromStr client start m) : Registered fromStr client m where
  usable := settled.usable
  built := settled.usable.builds client.cfg
  sent := settled.sent
  called hooked := .inl (settled.called hooked)

theorem ackOf_event (choice : LinkChoice) : ackOf fromStr (link.event .readNext choice l) =
    match choice .readNext with
    | some arrival =>
      match (authText arrival).bind (parseAuthResponse fromStr) with
      | .ok outcome => outcome.pair
      | .error _ => none
    | none => none := by
  change ackOf fromStr ⟨l,.readNext,choice,choice .readNext⟩ = _
  cases choice .readNext <;> rfl

theorem acks_snoc_none {log : Trace LinkSig LinkChoice Link} (quiet : ackOf fromStr event = none) :
    acks fromStr (log ++ [event]) = acks fromStr log := by
  simp [acks,quiet]

theorem acks_snoc_some {log : Trace LinkSig LinkChoice Link} {pair : String × String}
    (read : ackOf fromStr event = some pair) : acks fromStr (log ++ [event]) = acks fromStr log ++ [pair] := by
  simp [acks,read]

theorem calls_snoc_none {log : Trace LinkSig LinkChoice Link} (quiet : calledOf event = none) :
    calls (log ++ [event]) = calls log := by
  simp [calls,quiet]

theorem calls_snoc_some {log : Trace LinkSig LinkChoice Link} {pair : String × String}
    (call : calledOf event = some pair) : calls (log ++ [event]) = calls log ++ [pair] := by
  simp [calls,call]

theorem Settled.quiet (settled : Settled fromStr client start m) (same : l.credentials = m.1.credentials)
    (unread : ackOf fromStr event = none) (unsent : sentOf event = none) (uncalled : calledOf event = none) :
    Settled fromStr client start (l,m.2 ++ [event]) where
  usable := by
    rw [same]
    exact settled.usable
  sent := along_snoc.mpr ⟨settled.sent,fun frame sends => by
    rw [unsent] at sends
    cases sends⟩
  current := by rw [acks_snoc_none unread,same,settled.current]
  called hooked := by rw [acks_snoc_none unread,calls_snoc_none uncalled,settled.called hooked]

theorem Settled.right (settled : Settled fromStr client start m) {frame : OutboundFrame}
    (given : authFrame client.cfg m.1.credentials = .ok frame) :
    RightFrame fromStr client.cfg m.2 m.1.credentials frame := by
  have pair (nid nsec : String) (node : m.1.credentials.nodeId = some nid)
      (secret : m.1.credentials.nodeSecret = some nsec) : Reconnects client.cfg frame nid nsec := by
    obtain rfl := Except.ok.inj (given.symm.trans (authFrame_pair client.cfg node secret))
    exact reconnects client.cfg nid nsec
  have acked (nid nsec : String) (last : (acks fromStr m.2).getLast? = some (nid,nsec)) :
      Reconnects client.cfg frame nid nsec := by
    have current := settled.current
    rw [credentialsAfter,last] at current
    exact pair nid nsec (by rw [current]) (by rw [current])
  refine ⟨pair,acked,fun some_ => ?_⟩
  rw [(acked _ _ (List.getLast?_eq_some_getLast some_)).isFrame]
  exact reconnect_spends _ _ _ _

theorem Settled.send (settled : Settled fromStr client start m) {frame : OutboundFrame} {choice : LinkChoice}
    (given : authFrame client.cfg m.1.credentials = .ok frame) :
    Settled fromStr client start (m.1,m.2 ++ [link.event (.send frame) choice m.1]) where
  usable := settled.usable
  sent := along_snoc.mpr ⟨settled.sent,fun sent sends => by
    cases sends
    exact settled.right given⟩
  current := by
    rw [acks_snoc_none rfl]
    exact settled.current
  called hooked := by
    rw [acks_snoc_none rfl,calls_snoc_none rfl]
    exact settled.called hooked

section Acked
variable {ack stored : LinkEvent} {pair : String × String}

theorem readNext_unsent (read : ackOf fromStr ack = some pair) : sentOf ack = none ∧ calledOf ack = none := by
  obtain ⟨before,operation,choice,reply⟩ := ack
  cases operation <;> first
    | exact ⟨rfl,rfl⟩
    | cases read

theorem Settled.read (settled : Settled fromStr client start m) (read : ackOf fromStr ack = some pair) :
    Registered fromStr client (m.1,m.2 ++ [ack]) where
  usable := settled.usable
  built := settled.usable.builds client.cfg
  sent := along_snoc.mpr ⟨settled.sent,fun frame sends => by
    rw [(readNext_unsent read).1] at sends
    cases sends⟩
  called hooked := by
    refine .inr ⟨m.2,ack,[],pair,rfl,read,?_,.inl rfl⟩
    rw [acks_snoc_some read,calls_snoc_none (readNext_unsent read).2,settled.called hooked]

theorem Settled.storing (settled : Settled fromStr client start m) (read : ackOf fromStr ack = some pair)
    (stores : stored.operation = .setCredentials ⟨some pair.1,some pair.2,none⟩)
    (kept : l.credentials = ⟨some pair.1,some pair.2,none⟩) :
    Registered fromStr client (l,m.2 ++ [ack] ++ [stored]) := by
  obtain ⟨before,operation,choice,reply⟩ := stored
  cases stores
  have usable : Usable l.credentials := by
    rw [kept]
    exact ⟨rfl,fun absent => by cases absent⟩
  refine ⟨usable,usable.builds client.cfg,?_,fun hooked => .inr ?_⟩
  · refine along_snoc.mpr ⟨(settled.read read).sent,fun frame sends => ?_⟩
    cases sends
  · refine ⟨m.2,ack,_,pair,List.append_assoc _ _ _,read,?_,.inr ⟨_,rfl,rfl⟩⟩
    rw [acks_snoc_none rfl,calls_snoc_none rfl,acks_snoc_some read,calls_snoc_none (readNext_unsent read).2,
      settled.called hooked]

theorem Settled.taken (settled : Settled fromStr client start m) (read : ackOf fromStr ack = some pair)
    (stores : stored.operation = .setCredentials ⟨some pair.1,some pair.2,none⟩)
    (kept : l.credentials = ⟨some pair.1,some pair.2,none⟩) (unhooked : ¬ client.onRegister = true) :
    Settled fromStr client start (l,m.2 ++ [ack] ++ [stored]) := by
  have registered := settled.storing read stores kept
  obtain ⟨before,operation,choice,reply⟩ := stored
  cases stores
  refine ⟨registered.usable,registered.sent,?_,fun hooked => absurd hooked unhooked⟩
  rw [acks_snoc_none rfl,acks_snoc_some read,credentialsAfter,List.getLast?_concat]
  exact kept

theorem Settled.answered {call : LinkEvent} (settled : Settled fromStr client start m)
    (read : ackOf fromStr ack = some pair) (stores : stored.operation = .setCredentials ⟨some pair.1,some pair.2,none⟩)
    (kept : l.credentials = ⟨some pair.1,some pair.2,none⟩) (called : call.operation = .onRegister pair.1 pair.2) :
    Settled fromStr client start (l,m.2 ++ [ack] ++ [stored] ++ [call]) := by
  have registered := settled.storing read stores kept
  obtain ⟨before,operation,choice,reply⟩ := stored
  cases stores
  obtain ⟨before',operation,choice',reply'⟩ := call
  cases called
  refine ⟨registered.usable,?_,?_,fun hooked => ?_⟩
  · refine along_snoc.mpr ⟨registered.sent,fun frame sends => ?_⟩
    cases sends
  · rw [acks_snoc_none rfl,acks_snoc_none rfl,acks_snoc_some read,credentialsAfter,List.getLast?_concat]
    exact kept
  · rw [acks_snoc_none rfl,acks_snoc_none rfl,acks_snoc_some read,calls_snoc_some rfl,calls_snoc_none rfl,
      calls_snoc_none (readNext_unsent read).2,settled.called hooked]

end Acked

section Programs
variable {α β : Type} {during : LinkMoment → Prop} {post : Except SdkError β → LinkMoment → Prop}

theorem ask_holds {operation : LinkCall} {rest : operation.Reply → Linking β} (now : during m)
    (next : ∀ choice, Holds link.record during post (rest (link.exec operation choice m.1).1)
      ((link.exec operation choice m.1).2,m.2 ++ [link.event operation choice m.1])) :
    Holds link.record during post ((ask operation).bind rest) m := ⟨now,next⟩

theorem ofExcept_holds {outcome : Except SdkError α} {rest : α → Linking β} (now : during m)
    (error : ∀ e, outcome = .error e → post (.error e) m)
    (value : ∀ a, outcome = .ok a → Holds link.record during post (rest a) m) :
    Holds link.record during post ((Program.ofExcept outcome).bind rest) m := by
  cases outcome with
  | error e => exact ⟨now,error e rfl⟩
  | ok a => exact value a rfl

/-- The calls that read nothing of the manager, send nothing and leave the credentials alone. -/
def Plain : LinkCall → Prop
  | .send _ | .readNext | .setCredentials _ | .onRegister _ _ => False
  | _ => True

theorem Settled.plain {operation : LinkCall} (settled : Settled fromStr client start m) (plain : Plain operation)
    (choice : LinkChoice) : Settled fromStr client start
      ((link.exec operation choice m.1).2,m.2 ++ [link.event operation choice m.1]) := by
  cases operation <;> first
    | exact settled.quiet rfl rfl rfl rfl
    | exact plain.elim

abbrev Settles (fromStr : String → Except String Json) (client : LinkClient) (start : LiveCredentials)
    (program : Linking β) (m : LinkMoment) : Prop :=
  Holds link.record (Registered fromStr client) (fun _ => Settled fromStr client start) program m

theorem Settled.done (settled : Settled fromStr client start m) :
    Registered fromStr client m ∧ Settled fromStr client start m := ⟨settled.registered,settled⟩

theorem plain_holds {operation : LinkCall} {rest : operation.Reply → Linking β} (plain : Plain operation)
    (settled : Settled fromStr client start m)
    (next : ∀ reply m, Settled fromStr client start m → Settles fromStr client start (rest reply) m) :
    Settles fromStr client start ((ask operation).bind rest) m :=
  ask_holds settled.registered fun choice => next _ _ (settled.plain plain choice)

theorem session_holds (settled : Settled fromStr client start m) :
    Settles fromStr client start ((ask .setConnected).bind fun _ => ask .runSession) m :=
  plain_holds trivial settled fun _ _ settled => plain_holds trivial settled fun _ _ settled => settled.done

theorem register_holds {ack : LinkEvent} {outcome : AuthOutcome} (settled : Settled fromStr client start m)
    (read : ackOf fromStr ack = outcome.pair) (operation : ack.operation = .readNext) :
    Settles fromStr client start (register client outcome) (m.1,m.2 ++ [ack]) := by
  cases outcome with
  | authenticated =>
    obtain ⟨before,_,choice,reply⟩ := ack
    cases operation
    exact (settled.quiet (l := m.1) rfl read rfl rfl).done
  | registered nodeId nodeSecret =>
    refine ask_holds (settled.read read) fun choice => ?_
    have registered := @Settled.storing _ _ _ _ {m.1 with credentials := ⟨some nodeId,some nodeSecret,none⟩} ack
      (link.event (.setCredentials ⟨some nodeId,some nodeSecret,none⟩) choice m.1) (nodeId,nodeSecret) settled read rfl rfl
    by_cases hooked : client.onRegister = true
    · rw [if_pos hooked]
      refine ⟨registered,fun choice' => ?_⟩
      exact (@Settled.answered _ _ _ _ {m.1 with credentials := ⟨some nodeId,some nodeSecret,none⟩} ack
        (link.event (.setCredentials ⟨some nodeId,some nodeSecret,none⟩) choice m.1) (nodeId,nodeSecret)
        (link.event (.onRegister nodeId nodeSecret) choice' {m.1 with credentials := ⟨some nodeId,some nodeSecret,none⟩})
        settled read rfl rfl rfl).done
    · rw [if_neg hooked]
      exact (settled.taken read rfl rfl hooked).done

theorem awaitAuth_holds (settled : Settled fromStr client start m) :
    Settles fromStr client start (awaitAuth fromStr client) m := by
  refine ask_holds settled.registered fun choice => ?_
  rw [link_readNext]
  have unread (nothing : ackOf fromStr (link.event .readNext choice m.1) = none) :
      Settled fromStr client start (m.1,m.2 ++ [link.event .readNext choice m.1]) := settled.quiet rfl nothing rfl rfl
  cases arrived : choice .readNext with
  | none => exact (unread (by rw [ackOf_event,arrived])).done
  | some arrival =>
    cases told : authText arrival with
    | error e =>
      have settled := unread (by simp [ackOf_event,arrived,told,Except.bind])
      simp only [Program.ofExcept,told,Program.bind_eq,Program.fail_bind]
      exact settled.done
    | ok text =>
      cases parsed : parseAuthResponse fromStr text with
      | error e =>
        have settled := unread (by simp [ackOf_event,arrived,told,parsed,Except.bind])
        simp only [Program.ofExcept,told,Program.pure_bind,parsed,Program.bind_eq,Program.fail_bind]
        exact settled.done
      | ok outcome =>
        have read : ackOf fromStr (link.event .readNext choice m.1) = outcome.pair := by
          simp only [ackOf_event,arrived,told,parsed,Except.bind]
        simp only [Program.ofExcept,told,Program.pure_bind,parsed,Program.bind_eq]
        exact (register_holds settled read rfl).bind _ (fun _ _ _ settled => session_holds settled)
          (fun _ _ _ settled => settled)

theorem authenticate_holds (settled : Settled fromStr client start m) :
    Settles fromStr client start (authenticate fromStr client) m := by
  refine ask_holds settled.registered fun choice => ?_
  have settled := @Settled.plain _ _ _ _ .copyCredentials settled trivial choice
  refine ofExcept_holds settled.registered (fun _ _ => settled) fun frame given => ?_
  refine ask_holds settled.registered fun choice => ?_
  have settled := @Settled.send _ _ _ _ settled frame choice given
  rw [link_send]
  rcases choice (.send frame) with _ | _ | e | _
  · exact settled.done
  · exact settled.done
  · exact settled.done
  · exact awaitAuth_holds settled

theorem oneConnection_holds (url : String) (settled : Settled fromStr client start m) :
    Settles fromStr client start (oneConnection fromStr client url) m := by
  refine plain_holds trivial settled fun tlsConfig m settled => ?_
  refine ofExcept_holds settled.registered (fun _ _ => settled) fun _ _ => ?_
  refine plain_holds trivial settled fun dialled m settled => ?_
  cases dialled with
  | none => exact settled.done
  | some dialled => exact ofExcept_holds settled.registered (fun _ _ => settled) fun _ _ => authenticate_holds settled

theorem connectLoop_holds (rounds : Nat) (urlCursor : UInt64) (attempt : UInt32)
    (settled : Settled fromStr client start m) :
    Settles fromStr client start (connectLoop fromStr client rounds urlCursor attempt) m := by
  induction rounds generalizing urlCursor attempt m with
  | zero => exact settled.done
  | succ rounds ih =>
    refine plain_holds trivial settled fun cancelled m settled => ?_
    split
    · exact settled.done
    have connection : Settles fromStr client start
        ((oneConnection fromStr client (client.url urlCursor.toNat)).attempt : Linking _) m :=
      (oneConnection_holds _ settled).attempt
    refine connection.bind _ (fun result m _ settled => ?_) (fun _ _ _ settled => settled)
    refine plain_holds trivial settled fun _ m settled => ?_
    split
    · exact settled.done
    refine plain_holds trivial settled fun cancelled m settled => ?_
    split
    · exact settled.done
    refine plain_holds trivial settled fun woken m settled => ?_
    cases woken with
    | none => exact settled.done
    | some _ => exact ih _ _ settled

end Programs
end Life

theorem connect_ok {parseUrl : String → Except String Unit} {plaintextWsEnvSet : Bool} {cfg : GatewayConfig}
    {onRegister : Bool} {client : LinkClient} {start : Link}
    (built : connect parseUrl plaintextWsEnvSet cfg onRegister = .ok (client,start)) :
    cfg.Accepted ∧ start = ⟨startCredentials cfg,false⟩ := by
  unfold connect at built
  split at built
  · cases built
  · rename_i valid
    cases built
    exact ⟨GatewayConfig.accepted_of_validate valid,rfl⟩

theorem startCredentials_usable {cfg : GatewayConfig} (accepted : cfg.Accepted) : Usable (startCredentials cfg) :=
  ⟨accepted.paired,accepted.token⟩

/-- Over the life of a client of an accepted configuration, whatever becomes of its
connections: a frame can be built at every moment, the pair goes before the token, no frame
after an ack has the token, and every ack is passed on once. -/
theorem registration_sound (parseUrl : String → Except String Unit) (plaintextWsEnvSet : Bool)
    (fromStr : String → Except String Json) (cfg : GatewayConfig) (onRegister : Bool) (client : LinkClient) (start : Link)
    (built : connect parseUrl plaintextWsEnvSet cfg onRegister = .ok (client,start)) (rounds : Nat)
    (choices : List LinkChoice) :
    Registered fromStr client (link.record.run choices (connectLoop fromStr client rounds 0 0) (start,[])).2 ∧
      ((link.record.run choices (connectLoop fromStr client rounds 0 0) (start,[])).1.result ≠ none →
        client.onRegister = true →
        acks fromStr (link.record.run choices (connectLoop fromStr client rounds 0 0) (start,[])).2.2 =
          calls (link.record.run choices (connectLoop fromStr client rounds 0 0) (start,[])).2.2) := by
  obtain ⟨accepted,rfl⟩ := connect_ok built
  have settled : Settled fromStr client (startCredentials cfg) (⟨startCredentials cfg,false⟩,[]) :=
    ⟨startCredentials_usable accepted,along_nil _,rfl,fun _ => rfl⟩
  obtain ⟨registered,ended⟩ := (connectLoop_holds rounds 0 0 settled).run choices
  refine ⟨registered,fun finished hooked => ?_⟩
  obtain ⟨outcome,result⟩ := Option.ne_none_iff_exists'.mp finished
  exact (ended outcome result).called hooked

namespace Sample

def config : GatewayConfig where
  managerUrls := ["wss://manager.example.com"]
  deviceType := "appear_x"
  softwareVersion := "0.45.3"
  nodeId := none
  nodeSecret := none
  registrationToken := some "rt-123"
  acceptSelfSignedCert := false
  allowPlaintextWs := false
  certFingerprint := none
  heartbeatInterval := Duration.fromSecs 15
  reconnectBackoff := ⟨[1,2,5,10,30]⟩

def client : LinkClient := ⟨config,true,List.cons_ne_nil _ _⟩

/-- A manager that acks every auth frame with the same pair. -/
def ack (text : String) : Except String Json :=
  if text = "ack" then
    .ok (.obj [("type",.str "register_ack"),("payload",.obj [("node_id",.str "n1"),("node_secret",.str "s1")])])
  else .error "syntax"

def answers : LinkChoice
  | .isCancelled => false
  | .buildTlsConfig _ _ => .ok ()
  | .dialManager _ => some (.ok ())
  | .copyCredentials => ⟨none,none,none⟩
  | .send _ => some (some (.ok ()))
  | .readNext => some (.message (.text "ack"))
  | .setCredentials _ => ()
  | .onRegister _ _ => ()
  | .setConnected => ()
  | .setDisconnected => ()
  | .runSession => .authenticatedThenClosed
  | .sleep _ => some ()

theorem built : connect (fun _ => .ok ()) false config true = .ok (client,⟨startCredentials config,false⟩) := rfl

/-- The token goes out on the first connection and the pair on the second. -/
example : (link.record.run (List.replicate 20 answers) (connectLoop ack client 2 0 0)
    (⟨startCredentials config,false⟩,[])).2.2.filterMap sentOf =
      [authRegister "rt-123" "0.45.3" "appear_x",authReconnect "n1" "s1" "0.45.3" "appear_x"] := rfl

end Sample

theorem sample_registration_sound :
    Registered Sample.ack Sample.client (link.record.run (List.replicate 20 Sample.answers)
      (connectLoop Sample.ack Sample.client 2 0 0) (⟨startCredentials Sample.config,false⟩,[])).2 :=
  (registration_sound (fun _ => .ok ()) false Sample.ack Sample.config true Sample.client
    ⟨startCredentials Sample.config,false⟩ Sample.built 2 (List.replicate 20 Sample.answers)).1

end GatewaySdk.Client
