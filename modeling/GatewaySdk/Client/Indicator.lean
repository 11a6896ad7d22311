import GatewaySdk.Client.Registration
import GatewaySdk.Effect.Guarded
import GatewaySdk.Effect.Reach

/-! The link indicator, which any task may read while `run` goes on and after its future is
gone, and where that future is then. -/
namespace GatewaySdk.Client
open GatewaySdk.Effect
open GatewaySdk.Upgrade (Json)

/-- The awaits of `run`, at any of which its future can be dropped. -/
inductive Await where
  | dial
  | authSend
  | authReply
  | session
  | closeWrite
  | backoff
  | drain
  deriving DecidableEq, Repr

/-- Those a call waits at; the other calls come back in the poll they are made in. -/
def LinkCall.awaits : LinkCall → List Await
  | .dialManager _ => [.dial]
  | .send _ => [.authSend]
  | .readNext => [.authReply]
  | .runSession => [.session,.closeWrite]
  | .sleep _ => [.backoff]
  | _ => []

/-- Where the future of `run` is. In `leaving`, `one_connection` has its result and the flag
is the next thing to be written. -/
inductive Place where
  | between
  | dialling
  | authenticating
  | session
  | leaving
  | backoff
  | draining
  | returned
  | dropped
  deriving DecidableEq, Repr

def LinkCall.place : LinkCall → Place
  | .isCancelled => .between
  | .buildTlsConfig _ _ | .dialManager _ => .dialling
  | .copyCredentials | .send _ | .readNext | .setCredentials _ | .onRegister _ _ | .setConnected => .authenticating
  | .runSession => .session
  | .setDisconnected => .leaving
  | .sleep _ => .backoff

/-- The future of `run`: what is left of its loop, the drain after it, or neither. -/
inductive RunFuture where
  | looping (rest : Linking Unit)
  | draining
  | returned
  | dropped

def RunFuture.place : RunFuture → Place
  | .looping (.call operation _) => operation.place
  | .looping _ => .between
  | .draining => .draining
  | .returned => .returned
  | .dropped => .dropped

/-- The future, and what it shares with the handles of its `ConnectionState`. -/
structure Running where
  future : RunFuture
  link : Link

/-- `ConnectionState::is_connected`. -/
def Running.isConnected (s : Running) : Bool := s.link.connected

/-- One step of `run`, with the await its future is dropped at where it is. -/
inductive RunStep : Running → List Await → Running → Prop
  | answered {operation : LinkCall} {next : operation.Reply → Linking Unit} {l : Link} (choice : LinkChoice) :
    RunStep ⟨.looping (.call operation next),l⟩ []
      ⟨.looping (next (link.exec operation choice l).1),(link.exec operation choice l).2⟩
  | ended {l : Link} : RunStep ⟨.looping (.pure ()),l⟩ [] ⟨.draining,l⟩
  | drained {l : Link} : RunStep ⟨.draining,l⟩ [] ⟨.returned,l⟩
  | dropped {operation : LinkCall} {next : operation.Reply → Linking Unit} {l : Link} {await : Await}
    (waits : await ∈ operation.awaits) : RunStep ⟨.looping (.call operation next),l⟩ [await] ⟨.dropped,l⟩
  | droppedDraining {l : Link} : RunStep ⟨.draining,l⟩ [.drain] ⟨.dropped,l⟩

/-- The indicator is up only inside the connection that authenticated, and down everywhere
else. -/
structure Honest (s : Running) : Prop where
  inside : s.isConnected = true → s.future.place = .session ∨ s.future.place = .leaving
  down : s.future.place ∈ [.dialling,.authenticating,.backoff,.draining,.returned,.dropped] → s.isConnected = false

theorem honest_of_inside {s : Running} (inside : s.isConnected = true → s.future.place = .session ∨ s.future.place = .leaving) :
    Honest s where
  inside := inside
  down outside := by
    rw [← Bool.not_eq_true]
    intro up
    rcases inside up with place | place
    · simp [place] at outside
    · simp [place] at outside

/-- What the flag is when a call is due. -/
def Flagged : LinkCall → Link → Prop
  | .runSession,l => l.connected = true
  | .setDisconnected,_ => True
  | _,l => l.connected = false

section Flags
variable {fromStr : String → Except String Json} {client : LinkClient} {α : Type} {l : Link}
  {post : Except SdkError α → Link → Prop}

/-- The calls of a link that is down and stays so. -/
def Quiet : LinkCall → Prop
  | .runSession | .setConnected | .setDisconnected => False
  | _ => True

theorem quiet_keeps {operation : LinkCall} (quiet : Quiet operation) (choice : LinkChoice) (l : Link) :
    (link.exec operation choice l).2.connected = l.connected := by
  cases operation <;> first
    | rfl
    | exact quiet.elim

theorem flagged_of_quiet {operation : LinkCall} (quiet : Quiet operation) (down : l.connected = false) :
    Flagged operation l := by
  cases operation <;> first
    | exact down
    | exact quiet.elim

theorem quiet_guarded {operation : LinkCall} {rest : operation.Reply → Linking α} (quiet : Quiet operation)
    (down : l.connected = false) (next : ∀ reply l, l.connected = false → Guarded link Flagged post (rest reply) l) :
    Guarded link Flagged post ((ask operation).bind rest) l :=
  ⟨flagged_of_quiet quiet down,fun choice => next _ _ ((quiet_keeps quiet choice l).trans down)⟩

theorem quiet_call {operation : LinkCall} (quiet : Quiet operation) (down : l.connected = false) :
    Guarded link Flagged (fun _ l => l.connected = false) (ask operation) l :=
  ⟨flagged_of_quiet quiet down,fun choice => (quiet_keeps quiet choice l).trans down⟩

theorem register_guarded (outcome : AuthOutcome) (down : l.connected = false) :
    Guarded link Flagged (fun _ l => l.connected = false) (register client outcome) l := by
  cases outcome with
  | authenticated => exact down
  | registered nodeId nodeSecret =>
    refine quiet_guarded trivial down fun _ l down => ?_
    split
    · exact quiet_call trivial down
    · exact down

theorem session_guarded (down : l.connected = false) :
    Guarded link Flagged (fun _ _ => True) ((ask .setConnected).bind fun _ => ask .runSession) l :=
  ⟨down,fun _ => ⟨rfl,fun _ => trivial⟩⟩

theorem awaitAuth_guarded (down : l.connected = false) :
    Guarded link Flagged (fun _ _ => True) (awaitAuth fromStr client) l := by
  refine quiet_guarded trivial down fun arrived l down => ?_
  cases arrived with
  | none => trivial
  | some arrival =>
    refine .ofExcept (fun text _ => ?_) fun _ _ => trivial
    refine .ofExcept (fun outcome _ => ?_) fun _ _ => trivial
    exact (register_guarded outcome down).bind (fun _ _ down => session_guarded down) fun _ _ _ => trivial

theorem authenticate_guarded (down : l.connected = false) :
    Guarded link Flagged (fun _ _ => True) (authenticate fromStr client) l := by
  refine quiet_guarded trivial down fun credentials l down => ?_
  refine .ofExcept (fun frame _ => ?_) fun _ _ => trivial
  refine quiet_guarded trivial down fun sent l down => ?_
  rcases sent with _ | _ | e | _
  · trivial
  · trivial
  · trivial
  · exact awaitAuth_guarded down

theorem oneConnection_guarded (url : String) (down : l.connected = false) :
    Guarded link Flagged (fun _ _ => True) (oneConnection fromStr client url) l := by
  refine quiet_guarded trivial down fun tlsConfig l down => ?_
  refine .ofExcept (fun _ _ => ?_) fun _ _ => trivial
  refine quiet_guarded trivial down fun dialled l down => ?_
  cases dialled with
  | none => trivial
  | some dialled => exact .ofExcept (fun _ _ => authenticate_guarded down) fun _ _ => trivial

theorem disconnected_guarded {rest : Unit → Linking α}
    (next : ∀ l, l.connected = false → Guarded link Flagged post (rest ()) l) :
    Guarded link Flagged post ((ask .setDisconnected).bind rest) l := ⟨trivial,fun _ => next _ rfl⟩

theorem connectLoop_guarded (rounds : Nat) (urlCursor : UInt64) (attempt : UInt32) (down : l.connected = false) :
    Guarded link Flagged (fun _ l => l.connected = false) (connectLoop fromStr client rounds urlCursor attempt) l := by
  induction rounds generalizing urlCursor attempt l with
  | zero => exact down
  | succ rounds ih =>
    refine quiet_guarded trivial down fun cancelled l down => ?_
    split
    · exact down
    refine (oneConnection_guarded _ down).attempt.bind (fun result l _ => ?_) ?_
    · refine disconnected_guarded fun l down => ?_
      split
      · exact down
      refine quiet_guarded trivial down fun cancelled l down => ?_
      split
      · exact down
      refine quiet_guarded trivial down fun woken l down => ?_
      cases woken with
      | none => exact down
      | some _ => exact ih _ _ down
    · rintro e l ⟨ended,same,_⟩
      cases same

end Flags

def Await.inSession : Await → Bool
  | .session | .closeWrite => true
  | _ => false

/-- What every run keeps. Once the future is gone the flag stays as it was when it went. -/
def Lit (dropped : List Await) : Running → Prop
  | ⟨.looping rest,l⟩ => dropped = [] ∧ Guarded link Flagged (fun _ l => l.connected = false) rest l
  | ⟨.draining,l⟩ => dropped = [] ∧ l.connected = false
  | ⟨.returned,l⟩ => dropped = [] ∧ l.connected = false
  | ⟨.dropped,l⟩ => ∃ await, dropped = [await] ∧ l.connected = await.inSession

/-- The flag of a future that waits is up in a session, and down elsewhere. -/
theorem flagged_awaits {operation : LinkCall} {l : Link} {await : Await} (flagged : Flagged operation l)
    (waits : await ∈ operation.awaits) : l.connected = await.inSession := by
  cases operation with
  | runSession =>
    rcases List.mem_pair.mp waits with rfl | rfl
    · exact flagged
    · exact flagged
  | dialManager _ | send _ | readNext | sleep _ =>
    cases List.mem_singleton.mp waits
    exact flagged
  | _ => cases waits

theorem runStep_lit {dropped more : List Await} {s s' : Running} (lit : Lit dropped s) (step : RunStep s more s') :
    Lit (dropped ++ more) s' := by
  cases step with
  | answered choice =>
    obtain ⟨rfl,guarded⟩ := lit
    exact ⟨rfl,guarded.2 choice⟩
  | ended | drained =>
    obtain ⟨rfl,down⟩ := lit
    exact ⟨rfl,down⟩
  | dropped waits =>
    obtain ⟨rfl,guarded⟩ := lit
    exact ⟨_,rfl,flagged_awaits guarded.1 waits⟩
  | droppedDraining =>
    obtain ⟨rfl,down⟩ := lit
    exact ⟨_,rfl,down⟩

theorem flagged_place {operation : LinkCall} {l : Link} (flagged : Flagged operation l) (up : l.connected = true) :
    operation.place = .session ∨ operation.place = .leaving := by
  cases operation with
  | runSession => exact .inl rfl
  | setDisconnected => exact .inr rfl
  | _ => cases up.symm.trans flagged

theorem lit_honest {dropped : List Await} {s : Running} (lit : Lit dropped s) :
    Honest s ↔ ∀ await ∈ dropped, await.inSession = false := by
  obtain ⟨future,l⟩ := s
  cases future with
  | looping rest =>
    obtain ⟨rfl,guarded⟩ := lit
    refine iff_of_true (honest_of_inside fun up => ?_) (by simp)
    cases rest with
    | pure value => cases up.symm.trans guarded
    | fail error => cases up.symm.trans guarded
    | call operation next => exact flagged_place guarded.1 up
  | draining | returned =>
    obtain ⟨rfl,down⟩ := lit
    exact iff_of_true (honest_of_inside fun up => by cases up.symm.trans down) (by simp)
  | dropped =>
    obtain ⟨await,rfl,left⟩ := lit
    rw [List.forall_mem_singleton]
    constructor
    · intro honest
      exact left.symm.trans (honest.down (by simp [RunFuture.place]))
    · intro outside
      exact honest_of_inside fun up => by cases up.symm.trans (left.trans outside)

/-- Over the life of a client of an accepted configuration, whatever its connections come to
and wherever its future is dropped: the indicator is honest but where the future went inside a
session, and there it stays up. -/
theorem indicator_exact (parseUrl : String → Except String Unit) (plaintextWsEnvSet : Bool)
    (fromStr : String → Except String Json) (cfg : GatewayConfig) (onRegister : Bool) (client : LinkClient) (start : Link)
    (built : connect parseUrl plaintextWsEnvSet cfg onRegister = .ok (client,start)) (rounds : Nat)
    (dropped : List Await) (s : Running)
    (reaches : Reaches RunStep ⟨.looping (connectLoop fromStr client rounds 0 0),start⟩ dropped s) :
    Honest s ↔ ∀ await ∈ dropped, await.inSession = false := by
  obtain ⟨_,rfl⟩ := connect_ok built
  have begins : Lit [] ⟨.looping (connectLoop fromStr client rounds 0 0),⟨startCredentials cfg,false⟩⟩ :=
    ⟨rfl,connectLoop_guarded rounds 0 0 rfl⟩
  exact lit_honest (reaches.keeps begins fun _ _ _ _ lit step => runStep_lit lit step)

/-- The calls of a run can be answered one after another with no drop between them. -/
theorem reaches_run (choices : List LinkChoice) (program : Linking Unit) (l : Link) :
    Reaches RunStep ⟨.looping program,l⟩ [] ⟨.looping (link.run choices program l).1,(link.run choices program l).2⟩ := by
  induction choices generalizing program l with
  | nil =>
    rw [Machine.run_nil]
    exact .start
  | cons choice choices ih =>
    cases program with
    | pure value => exact .start
    | fail error => exact .start
    | call operation next => exact (Reaches.start.next (.answered choice)).trans (ih _ _)

theorem dropped_session {program : Linking Unit} {l : Link} (place : (RunFuture.looping program).place = .session) :
    RunStep ⟨.looping program,l⟩ [.session] ⟨.dropped,l⟩ := by
  cases program with
  | pure value => cases place
  | fail error => cases place
  | call operation next =>
    cases operation <;> first
      | exact .dropped List.mem_cons_self
      | cases place

namespace Sample

/-- The calls up to the first session, all of them answered. -/
abbrev intoSession : Linking Unit × Link :=
  link.run (List.replicate 9 answers) (connectLoop ack client 1 0 0) ⟨startCredentials config,false⟩

theorem intoSession_place : (RunFuture.looping intoSession.1).place = .session := rfl

theorem intoSession_dropped : Reaches RunStep
    ⟨.looping (connectLoop ack client 1 0 0),⟨startCredentials config,false⟩⟩ [.session] ⟨.dropped,intoSession.2⟩ :=
  (reaches_run _ _ _).next (dropped_session intoSession_place)

end Sample

/-- The future goes inside a session, and the handles say connected ever after. -/
theorem stale_indicator : ∃ s, Reaches RunStep
    ⟨.looping (connectLoop Sample.ack Sample.client 1 0 0),⟨startCredentials Sample.config,false⟩⟩ [.session] s ∧
      s.future.place = .dropped ∧ s.isConnected = true ∧ ¬ Honest s := by
  have up : (⟨.dropped,Sample.intoSession.2⟩ : Running).isConnected = true := rfl
  refine ⟨_,Sample.intoSession_dropped,rfl,up,fun honest => ?_⟩
  rcases honest.inside up with place | place
  · cases place
  · cases place

theorem sample_indicator : ¬ Honest ⟨.dropped,Sample.intoSession.2⟩ := by
  intro honest
  have outside := (indicator_exact (fun _ => .ok ()) false Sample.ack Sample.config true Sample.client
    ⟨startCredentials Sample.config,false⟩ Sample.built 1 [.session] _ Sample.intoSession_dropped).mp honest
  cases outside .session List.mem_cons_self

end GatewaySdk.Client
