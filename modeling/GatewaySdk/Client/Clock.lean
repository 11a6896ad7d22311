import GatewaySdk.Client.Dial
import GatewaySdk.Client.Backoff
import GatewaySdk.Effect.Attain

/-! The client's calls on a clock. Every wait of a connection has its own bound and shutdown
may end it; what lies beyond the socket takes as long as it likes, or for ever. Forgetting the
clock gives back the machine `link`. -/
namespace GatewaySdk.Client
open GatewaySdk.Effect
open GatewaySdk.Upgrade (Json)

def authSendTimeout : Nat := Duration.fromSecs authSendTimeoutSecs
def authTimeout : Nat := Duration.fromSecs 10
def closeSendTimeout : Nat := Duration.fromSecs 2

/-- A dial of a URL, as some network has it. -/
structure Dial (Stream : Type) (parse : String → Except String ManagerUrl) (url : String) where
  took : Nat
  result : Except SdkError Stream
  ran : ∃ net choices, dialManager parse net choices url = some (took,result)

/-- What `read.next()` gives. -/
inductive ReadItem where
  | message (message : Message)
  | failed (error : String)
  | ended

/-- How a session ends while nobody shuts down. -/
inductive SessionOver where
  | closed
  | lost (error : SdkError)

/-- What the surroundings do about the call that is being made. -/
structure Around (Stream : Type) (parse : String → Except String ManagerUrl) where
  tls : Bool → Option String → Except SdkError Unit
  dial : (url : String) → Dial Stream parse url
  taken : (url : String) → OutboundFrame → Coming (Except String Unit)
  reply : (url : String) → Coming ReadItem
  callback : String → String → Nat
  session : Nat × SessionOver
  close : Coming Unit
  pick : Bool

/-- The client's state, the clock, and the manager dialled last. -/
structure OnClock where
  link : Link
  now : Nat
  peer : String

/-- A wait of the client that shutdown may end. -/
def OnClock.waits {α : Type} (s : OnClock) (cancelled : Option Nat) (pick : Bool) (wait : Nat × α) : Option α × OnClock :=
  ((raceCancelled cancelled pick s.now wait).2,{s with now := (raceCancelled cancelled pick s.now wait).1})

def arrivalOf : Option ReadItem → Arrival
  | none => .timedOut
  | some (.message message) => .message message
  | some (.failed error) => .failed error
  | some .ended => .ended

def resultOf : SessionOver → ConnectionResult
  | .closed => .authenticatedThenClosed
  | .lost error => .authenticatedThenLost error

variable {Stream α : Type} {parse : String → Except String ManagerUrl}

/-- `run_session`: its select looks at shutdown first, and then the Close frame is written. -/
def OnClock.runsSession (s : OnClock) (cancelled : Option Nat) (w : Around Stream parse) : ConnectionResult × OnClock :=
  match s.waits cancelled false (s.now+w.session.1,w.session.2) with
  | (some ended,s) => (resultOf ended,s)
  | (none,s) => (.shutdownRequested,{s with now := (timeout closeSendTimeout s.now w.close).1})

/-- The machine of a client that is shut down at that instant, if it ever is. -/
def clocked (Stream : Type) (parse : String → Except String ManagerUrl) (cancelled : Option Nat) :
    Machine LinkSig (Around Stream parse) OnClock where
  exec
    | .isCancelled,_,s => (cancelled.any fun instant => instant ≤ s.now,s)
    | .buildTlsConfig acceptSelfSigned certFingerprint,w,s => (w.tls acceptSelfSigned certFingerprint,s)
    | .dialManager url,w,s =>
      {s with peer := url}.waits cancelled w.pick (s.now+(w.dial url).took,(w.dial url).result.map fun _ => ())
    | .copyCredentials,_,s => (s.link.credentials,s)
    | .send frame,w,s => s.waits cancelled w.pick (timeout authSendTimeout s.now (w.taken s.peer frame))
    | .readNext,w,s =>
      s.waits cancelled w.pick ((timeout authTimeout s.now (w.reply s.peer)).1,
        arrivalOf (timeout authTimeout s.now (w.reply s.peer)).2)
    | .setCredentials c,_,s => ((),{s with link := {s.link with credentials := c}})
    | .onRegister nodeId nodeSecret,w,s => ((),{s with now := s.now+w.callback nodeId nodeSecret})
    | .setConnected,_,s => ((),{s with link := {s.link with connected := true}})
    | .setDisconnected,_,s => ((),{s with link := {s.link with connected := false}})
    | .runSession,w,s => s.runsSession cancelled w
    | .sleep delay,w,s => s.waits cancelled w.pick (s.now+delay,())

section Answers
variable {cancelled : Option Nat} {w : Around Stream parse} {s : OnClock}

theorem clocked_dialManager (url : String) : (clocked Stream parse cancelled).exec (.dialManager url) w s =
    {s with peer := url}.waits cancelled w.pick (s.now+(w.dial url).took,(w.dial url).result.map fun _ => ()) := rfl
theorem clocked_send (frame : OutboundFrame) : (clocked Stream parse cancelled).exec (.send frame) w s =
    s.waits cancelled w.pick (timeout authSendTimeout s.now (w.taken s.peer frame)) := rfl
theorem clocked_readNext : (clocked Stream parse cancelled).exec .readNext w s =
    s.waits cancelled w.pick ((timeout authTimeout s.now (w.reply s.peer)).1,
      arrivalOf (timeout authTimeout s.now (w.reply s.peer)).2) := rfl
theorem clocked_sleep (delay : Nat) : (clocked Stream parse cancelled).exec (.sleep delay) w s =
    s.waits cancelled w.pick (s.now+delay,()) := rfl

theorem runsSession_link (s : OnClock) (w : Around Stream parse) : (s.runsSession cancelled w).2.link = s.link := by
  unfold OnClock.runsSession OnClock.waits
  cases (raceCancelled cancelled false s.now (s.now+w.session.1,w.session.2)).2 <;> rfl

theorem clocked_answers : Answers (clocked Stream parse cancelled) link OnClock.link := by
  intro operation w s
  refine ⟨fun operation => ((clocked Stream parse cancelled).exec operation w s).1,?_⟩
  cases operation with
  | runSession => exact Prod.ext rfl (runsSession_link s w).symm
  | _ => rfl

/-- Forgetting the clock: every run on the clock is one of the client's runs, call for call. -/
theorem clocked_refines_link (ws : List (Around Stream parse)) (program : Linking α) (s : OnClock) :
    ∃ choices, (link.record.run choices program (s.link,[])).1 =
        ((clocked Stream parse cancelled).record.run ws program (s,[])).1 ∧
      (link.record.run choices program (s.link,[])).2.1 =
        ((clocked Stream parse cancelled).record.run ws program (s,[])).2.1.link ∧
      SameCalls OnClock.link ((clocked Stream parse cancelled).record.run ws program (s,[])).2.2
        (link.record.run choices program (s.link,[])).2.2 :=
  clocked_answers.run ws program s .nil

end Answers

/-- The longest a connection can take to authenticate, with so long for the callback. -/
def authBudget (callback : Nat) : Nat := dialTimeout+authSendTimeout+authTimeout+callback

/-- The surroundings serve a client at this URL: TLS can be built, a dial comes through, the
auth frame is taken in time and answered in time by an ack. -/
structure Serves (fromStr : String → Except String Json) (client : LinkClient) (url : String) (w : Around Stream parse) : Prop where
  tls : w.tls client.cfg.acceptSelfSignedCert client.cfg.certFingerprint = .ok ()
  dial : ∃ stream, (w.dial url).result = .ok stream
  taken : ∀ frame, ∃ takes ≤ authSendTimeout, w.taken url frame = some (takes,.ok ())
  reply : ∃ takes ≤ authTimeout, ∃ text outcome, w.reply url = some (takes,.message (.text text)) ∧
    parseAuthResponse fromStr text = .ok outcome

section Connection
variable {cancelled : Option Nat} {fromStr : String → Except String Json} {client : LinkClient} {sound : Prop}
  {callback deadline : Nat} {url : String} {kind : Around Stream parse → Prop} {s : OnClock}

/-- The surroundings of these runs: the callback's bound, and service at the URL if they are sound. -/
structure Surrounded (fromStr : String → Except String Json) (client : LinkClient) (callback : Nat) (url : String) (sound : Prop)
    (w : Around Stream parse) : Prop where
  callback : ∀ nodeId nodeSecret, w.callback nodeId nodeSecret ≤ callback
  serves : sound → Serves fromStr client url w

/-- The link comes up by the deadline. -/
def UpBy (deadline : Nat) (operation : LinkCall) (s : OnClock) : Prop := operation = .setConnected ∧ s.now ≤ deadline

/-- The connection has failed by the deadline: the surroundings were not sound, or shutdown came. -/
def OverBy (cancelled : Option Nat) (sound : Prop) (deadline : Nat) (credentials : LiveCredentials)
    (outcome : Except SdkError ConnectionResult) (s : OnClock) : Prop :=
  s.now ≤ deadline ∧ s.link.credentials = credentials ∧
    ((∃ e, outcome = .error e) ∧ ¬ sound ∨
      outcome = .ok .shutdownRequested ∧ ∃ instant, cancelled = some instant ∧ instant ≤ s.now)

/-- A wait is over with what it waits for, or with shutdown no later than that. -/
theorem waits_cases (s : OnClock) (pick : Bool) {wait : Nat × α} (later : s.now ≤ wait.1) :
    s.waits cancelled pick wait = (some wait.2,{s with now := wait.1}) ∨
      ∃ instant now, cancelled = some instant ∧ instant ≤ now ∧ s.now ≤ now ∧ now ≤ wait.1 ∧ now ≤ max s.now instant ∧
        s.waits cancelled pick wait = (none,{s with now := now}) := by
  cases came : (raceCancelled cancelled pick s.now wait).2 with
  | some value =>
    obtain ⟨same,instant⟩ := raceCancelled_some came
    exact .inl (by rw [OnClock.waits,came,instant,same])
  | none =>
    cases cancelled with
    | none => cases came
    | some instant =>
      have bound := @raceCancelled_le _ (some instant) pick s.now wait
      have soon := @raceCancelled_le_cancelled _ pick s.now wait instant
      have over_ : (raceCancelled (some instant) pick s.now wait).1 = max s.now instant := by
        unfold raceCancelled at came ⊢
        dsimp only at came ⊢
        split at came
        · cases came
        next other => rw [if_neg other]
      refine .inr ⟨instant,_,rfl,?_,raceCancelled_now later,bound,soon,by rw [OnClock.waits,came]⟩
      rw [over_]
      exact Nat.le_max_right _ _

theorem ask_attains {awaited : LinkCall → OnClock → Prop} {post : Except SdkError α → OnClock → Prop} {n : Nat}
    {operation : LinkCall} {rest : operation.Reply → Linking α}
    (next : ∀ w, kind w → Attains (clocked Stream parse cancelled) kind awaited post n
      (rest ((clocked Stream parse cancelled).exec operation w s).1) ((clocked Stream parse cancelled).exec operation w s).2) :
    Attains (clocked Stream parse cancelled) kind awaited post (n+1) ((ask operation).bind rest) s := .ask next

theorem Serves.acks {w : Around Stream parse} (serves : Serves fromStr client url w) (now : Nat) :
    ∃ text outcome, arrivalOf (timeout authTimeout now (w.reply url)).2 = .message (.text text) ∧
      parseAuthResponse fromStr text = .ok outcome := by
  obtain ⟨takes,soon,text,outcome,reads,parsed⟩ := serves.reply
  refine ⟨text,outcome,?_,parsed⟩
  rw [reads,timeout,timeoutAt_came (Nat.add_le_add_left soon now)]
  rfl

theorem setConnected_attains {post : Except SdkError ConnectionResult → OnClock → Prop} {n : Nat} (early : s.now ≤ deadline)
    {rest : Unit → Linking ConnectionResult} :
    Attains (clocked Stream parse cancelled) kind (UpBy deadline) post (n+1) ((ask .setConnected).bind rest) s :=
  .inl ⟨rfl,early⟩

/-- Once the credentials are settled the link comes up, the callback's time later at most. -/
theorem register_attains {post : Except SdkError ConnectionResult → OnClock → Prop} (outcome : AuthOutcome)
    (bounded : ∀ w, kind w → ∀ nodeId nodeSecret, w.callback nodeId nodeSecret ≤ callback)
    (early : s.now+callback ≤ deadline) {rest : Unit → Linking ConnectionResult} :
    Attains (clocked Stream parse cancelled) kind (UpBy deadline) post 3
      ((register client outcome).bind fun _ => (ask .setConnected).bind rest) s := by
  have soon : s.now ≤ deadline := Nat.le_of_add_right_le early
  cases outcome with
  | authenticated => exact setConnected_attains soon
  | registered nodeId nodeSecret =>
    refine ask_attains fun w _ => ?_
    by_cases hooked : client.onRegister = true
    · simp only [hooked,if_true]
      refine ask_attains fun w allowed => setConnected_attains ?_
      have bound := bounded w allowed nodeId nodeSecret
      exact Nat.le_trans (Nat.add_le_add_left bound s.now) early
    · simp only [hooked,Bool.false_eq_true,if_false]
      apply setConnected_attains
      exact soon

theorem awaitAuth_attains (here : s.peer = url) (early : s.now+authTimeout+callback ≤ deadline) :
    Attains (clocked Stream parse cancelled) (Surrounded fromStr client callback url sound) (UpBy deadline)
      (OverBy cancelled sound deadline s.link.credentials) 4 (awaitAuth fromStr client) s := by
  refine ask_attains fun w surrounded => ?_
  have bounds := timeout_le authTimeout s.now (w.reply s.peer)
  have soon : (timeout authTimeout s.now (w.reply s.peer)).1+callback ≤ deadline := by omega
  rw [clocked_readNext]
  obtain came | ⟨instant,now,token,after,later,before,_,came⟩ := @waits_cases _ cancelled s w.pick
    ((timeout authTimeout s.now (w.reply s.peer)).1,arrivalOf (timeout authTimeout s.now (w.reply s.peer)).2) bounds.1
  · rw [came]
    dsimp only
    have failed (e : SdkError) (unsound : ¬ sound) : Attains (clocked Stream parse cancelled)
        (Surrounded fromStr client callback url sound) (UpBy deadline) (OverBy cancelled sound deadline s.link.credentials) 3
        (.fail e) {s with now := (timeout authTimeout s.now (w.reply s.peer)).1} :=
      ⟨Nat.le_of_add_right_le soon,rfl,.inl ⟨⟨e,rfl⟩,unsound⟩⟩
    have sure (holds : sound) := (surrounded.serves holds).acks s.now
    rw [← here] at sure
    cases reads : authText (arrivalOf (timeout authTimeout s.now (w.reply s.peer)).2) with
    | error e =>
      refine failed e fun holds => ?_
      obtain ⟨text,outcome,same,_⟩ := sure holds
      rw [same] at reads
      cases reads
    | ok text =>
      change Attains _ _ _ _ 3 ((Program.ofExcept (parseAuthResponse fromStr text)).bind _) _
      cases parsed : parseAuthResponse fromStr text with
      | error e =>
        refine failed e fun holds => ?_
        obtain ⟨text',outcome,same,fine⟩ := sure holds
        rw [same] at reads
        cases reads
        rw [parsed] at fine
        cases fine
      | ok outcome => exact register_attains outcome (fun w allowed => allowed.callback) soon
  · rw [came]
    exact ⟨by dsimp only; dsimp only at before; omega,rfl,.inr ⟨rfl,instant,token,after⟩⟩

theorem authenticate_attains (here : s.peer = url) (early : s.now+authSendTimeout+authTimeout+callback ≤ deadline)
    (usable : sound → Usable s.link.credentials) :
    Attains (clocked Stream parse cancelled) (Surrounded fromStr client callback url sound) (UpBy deadline)
      (OverBy cancelled sound deadline s.link.credentials) 6 (authenticate fromStr client) s := by
  refine ask_attains fun w _ => ?_
  change Attains _ _ _ _ 5 ((Program.ofExcept (authFrame client.cfg s.link.credentials)).bind _) s
  cases given : authFrame client.cfg s.link.credentials with
  | error e =>
    refine ⟨by omega,rfl,.inl ⟨⟨e,rfl⟩,fun holds => ?_⟩⟩
    obtain ⟨frame,built⟩ := (usable holds).builds client.cfg
    rw [built] at given
    cases given
  | ok frame =>
    refine ask_attains fun w surrounded => ?_
    have bounds := timeout_le authSendTimeout s.now (w.taken s.peer frame)
    have soon : (timeout authSendTimeout s.now (w.taken s.peer frame)).1+authTimeout+callback ≤ deadline := by omega
    have soon' : (timeout authSendTimeout s.now (w.taken s.peer frame)).1 ≤ deadline := by omega
    rw [clocked_send]
    obtain came | ⟨instant,now,token,after,later,before,_,came⟩ := @waits_cases _ cancelled s w.pick
      (timeout authSendTimeout s.now (w.taken s.peer frame)) bounds.1
    · rw [came]
      dsimp only
      have failed (e : SdkError) (unsound : ¬ sound) : Attains (clocked Stream parse cancelled)
          (Surrounded fromStr client callback url sound) (UpBy deadline) (OverBy cancelled sound deadline s.link.credentials) 4
          (.fail e) {s with now := (timeout authSendTimeout s.now (w.taken s.peer frame)).1} :=
        ⟨soon',rfl,.inl ⟨⟨e,rfl⟩,unsound⟩⟩
      have sure (holds : sound) : (timeout authSendTimeout s.now (w.taken s.peer frame)).2 = some (.ok ()) := by
        obtain ⟨takes,short,done⟩ := (surrounded.serves holds).taken frame
        rw [here,done,timeout,timeoutAt_came (Nat.add_le_add_left short s.now)]
      rcases sent : (timeout authSendTimeout s.now (w.taken s.peer frame)).2 with _ | e | _
      · exact failed _ fun holds => by cases (sure holds).symm.trans sent
      · exact failed _ fun holds => by cases (sure holds).symm.trans sent
      · exact awaitAuth_attains here soon
    · rw [came]
      exact ⟨by dsimp only; omega,rfl,.inr ⟨rfl,instant,token,after⟩⟩

/-- Whatever the manager and the network do, a connection has come up or is over by the time
its bounds add up to. -/
theorem oneConnection_attains (early : s.now+authBudget callback ≤ deadline) (usable : sound → Usable s.link.credentials) :
    Attains (clocked Stream parse cancelled) (Surrounded fromStr client callback url sound) (UpBy deadline)
      (OverBy cancelled sound deadline s.link.credentials) 8 (oneConnection fromStr client url) s := by
  unfold authBudget at early
  refine ask_attains fun w surrounded => ?_
  change Attains _ _ _ _ 7 ((Program.ofExcept (w.tls client.cfg.acceptSelfSignedCert client.cfg.certFingerprint)).bind _) s
  cases built : w.tls client.cfg.acceptSelfSignedCert client.cfg.certFingerprint with
  | error e =>
    refine ⟨by omega,rfl,.inl ⟨⟨e,rfl⟩,fun holds => ?_⟩⟩
    rw [(surrounded.serves holds).tls] at built
    cases built
  | ok _ =>
    refine ask_attains fun w surrounded => ?_
    obtain ⟨net,choices,ran⟩ := (w.dial url).ran
    have bound := (dialManager_ends ran).bound
    rw [clocked_dialManager]
    obtain came | ⟨instant,now,token,after,later,before,_,came⟩ := @waits_cases _ cancelled {s with peer := url} w.pick
      (s.now+(w.dial url).took,(w.dial url).result.map fun _ => ()) (Nat.le_add_right _ _)
    · rw [came]
      dsimp only
      cases dialled : (w.dial url).result with
      | error e =>
        refine ⟨by dsimp only; omega,rfl,.inl ⟨⟨e,rfl⟩,fun holds => ?_⟩⟩
        obtain ⟨stream,done⟩ := (surrounded.serves holds).dial
        rw [dialled] at done
        cases done
      | ok stream => exact authenticate_attains rfl (by dsimp only; omega) usable
    · rw [came]
      exact ⟨by dsimp only at before ⊢; omega,rfl,.inr ⟨rfl,instant,token,after⟩⟩

end Connection

def ReconnectBackoff.longest (backoff : ReconnectBackoff) : Nat :=
  match backoff.stepsSecs with
  | [] => Duration.fromSecs 5
  | steps => Duration.fromSecs (steps.foldl (fun most step => max most step.toNat) 0)

theorem le_foldl_max (steps : List UInt64) (most : Nat) :
    most ≤ steps.foldl (fun most step => max most step.toNat) most ∧
      ∀ step ∈ steps, step.toNat ≤ steps.foldl (fun most step => max most step.toNat) most := by
  induction steps generalizing most with
  | nil => exact ⟨Nat.le_refl _,List.forall_mem_nil _⟩
  | cons first rest ih =>
    obtain ⟨start,all⟩ := ih (max most first.toNat)
    refine ⟨Nat.le_trans (Nat.le_max_left _ _) start,fun step member => ?_⟩
    rcases List.mem_cons.mp member with rfl | later
    · exact Nat.le_trans (Nat.le_max_right _ _) start
    · exact all step later

theorem delayForAttempt_le (backoff : ReconnectBackoff) (attempt : UInt32) : backoff.delayForAttempt attempt ≤ backoff.longest := by
  unfold ReconnectBackoff.delayForAttempt ReconnectBackoff.longest
  cases backoff.stepsSecs with
  | nil => exact Nat.le_refl _
  | cons first rest =>
    apply Nat.mul_le_mul_right
    exact (le_foldl_max (first::rest) 0).2 _ (List.get_mem _ _)

/-- The longest one round of the loop takes while the link stays down. -/
def roundBudget (client : LinkClient) (callback : Nat) : Nat := authBudget callback+client.cfg.reconnectBackoff.longest

section Rounds
variable {cancelled : Option Nat} {fromStr : String → Except String Json} {client : LinkClient} {sound : Prop}
  {callback deadline n : Nat} {kind : Around Stream parse → Prop} {s : OnClock} {post : Except SdkError Unit → OnClock → Prop}

theorem isCancelled_attains {rest : Bool → Linking Unit}
    (told : ∀ instant, cancelled = some instant → instant ≤ s.now →
      Attains (clocked Stream parse cancelled) kind (UpBy deadline) post n (rest true) s)
    (untold : Attains (clocked Stream parse cancelled) kind (UpBy deadline) post n (rest false) s) :
    Attains (clocked Stream parse cancelled) kind (UpBy deadline) post (n+1) (isCancelled.bind rest) s := by
  refine ask_attains fun w _ => ?_
  change Attains _ _ _ _ n (rest (cancelled.any fun instant => instant ≤ s.now)) s
  cases cancelled with
  | none => exact untold
  | some instant =>
    rw [Option.any_some]
    by_cases after : instant ≤ s.now
    · rw [decide_eq_true after]
      exact told instant rfl after
    · rw [decide_eq_false after]
      exact untold

theorem setDisconnected_attains {rest : Unit → Linking Unit}
    (next : ∀ s', s'.now = s.now → s'.link.credentials = s.link.credentials →
      Attains (clocked Stream parse cancelled) kind (UpBy deadline) post n (rest ()) s') :
    Attains (clocked Stream parse cancelled) kind (UpBy deadline) post (n+1) ((ask .setDisconnected).bind rest) s :=
  ask_attains fun _ _ => next _ rfl rfl

theorem sleep_attains {delay : Nat} {rest : Option Unit → Linking Unit}
    (told : ∀ instant s', cancelled = some instant → instant ≤ s'.now → s'.now ≤ s.now+delay →
      Attains (clocked Stream parse cancelled) kind (UpBy deadline) post n (rest none) s')
    (woken : ∀ s', s'.now = s.now+delay → s'.link.credentials = s.link.credentials →
      Attains (clocked Stream parse cancelled) kind (UpBy deadline) post n (rest (some ())) s') :
    Attains (clocked Stream parse cancelled) kind (UpBy deadline) post (n+1) ((ask (.sleep delay)).bind rest) s := by
  refine ask_attains fun w _ => ?_
  rw [clocked_sleep]
  obtain came | ⟨instant,now,token,after,_,before,_,came⟩ := @waits_cases _ cancelled s w.pick (s.now+delay,())
    (Nat.le_add_right _ _)
  · rw [came]
    exact woken _ rfl rfl
  · rw [came]
    exact told instant _ token after before

/-- A round of the loop: the link comes up in it, shutdown ends it, or the next round follows. -/
theorem round_attains (sound : Prop) (callback n : Nat) {rounds : Nat} {urlCursor : UInt64} {attempt : UInt32} (early : s.now+roundBudget client callback ≤ deadline)
    (usable : sound → Usable s.link.credentials)
    (allowed : ∀ w, kind w → Surrounded fromStr client callback (client.url urlCursor.toNat) sound w)
    (stop : ∀ s', s'.now ≤ s.now+roundBudget client callback → (∃ instant, cancelled = some instant ∧ instant ≤ s'.now) →
      post (.ok ()) s')
    (next : ∀ attempt s', ¬ sound → s'.now ≤ s.now+roundBudget client callback → s'.link.credentials = s.link.credentials →
      Attains (clocked Stream parse cancelled) kind (UpBy deadline) post n
        (connectLoop fromStr client rounds (urlCursor+1) attempt) s') :
    Attains (clocked Stream parse cancelled) kind (UpBy deadline) post (8+(n+3)+1)
      (connectLoop fromStr client (rounds+1) urlCursor attempt) s := by
  have pauses := delayForAttempt_le client.cfg.reconnectBackoff
  unfold roundBudget at early stop next
  refine isCancelled_attains (fun instant token after => stop s (Nat.le_add_right _ _) ⟨instant,token,after⟩) ?_
  have connection : Attains (clocked Stream parse cancelled) kind (UpBy deadline)
      (fun outcome s' => ∃ result, outcome = .ok result ∧
        OverBy cancelled sound (s.now+authBudget callback) s.link.credentials result s')
      8 ((oneConnection fromStr client (client.url urlCursor.toNat)).attempt : Linking _) s := by
    apply Attains.attempt
    refine Attains.mono ((oneConnection_attains (Nat.le_refl _) usable).narrow allowed) (Nat.le_refl _) ?_ ?_
    · exact fun _ _ up => ⟨up.1,Nat.le_trans up.2 (by omega)⟩
    · exact fun outcome _ over_ => ⟨outcome,rfl,over_⟩
  refine Attains.bind connection (fun result s' ended => ?_) (fun _ _ ended => ?_)
  · obtain ⟨_,same,soon,kept,cause⟩ := ended
    obtain rfl := Except.ok.inj same
    refine setDisconnected_attains fun down clock held => ?_
    obtain ⟨⟨e,rfl⟩,unsound⟩ | ⟨rfl,instant,token,after⟩ := cause
    · refine isCancelled_attains (fun instant token after => stop down (by omega) ⟨instant,token,after⟩) ?_
      have pause := pauses (nextAttempt (attemptAfter attempt (.error e)))
      refine sleep_attains (fun instant s' token after before => ?_) fun woken clock' held' => ?_
      · exact .done (stop s' (by omega) ⟨instant,token,after⟩)
      · exact next _ woken unsound (by omega) (held'.trans (held.trans kept))
    · exact stop down (by omega) ⟨instant,token,clock ▸ after⟩
  · obtain ⟨_,same,_⟩ := ended
    cases same

/-- So many rounds without the link coming up take no longer than their bounds add up to. -/
theorem connectLoop_attains (rounds : Nat) (urlCursor : UInt64) (attempt : UInt32)
    (early : s.now+rounds*roundBudget client callback ≤ deadline)
    (bounded : ∀ w, kind w → ∀ nodeId nodeSecret, w.callback nodeId nodeSecret ≤ callback) :
    Attains (clocked Stream parse cancelled) kind (UpBy deadline) (fun _ s' => s'.now ≤ deadline) (12*rounds)
      (connectLoop fromStr client rounds urlCursor attempt) s := by
  induction rounds generalizing urlCursor attempt s with
  | zero => exact .done (by omega)
  | succ rounds ih =>
    rw [Nat.succ_mul] at early
    refine (round_attains False callback (12*rounds) (by omega) False.elim ?_ ?_ ?_).mono
      (by omega) (fun _ _ up => up) (fun _ _ over_ => over_)
    · exact fun w allowed => ⟨bounded w allowed,False.elim⟩
    · exact fun s' soon _ => by omega
    · exact fun attempt s' _ soon _ => ih _ attempt (by omega)

/-- The turn of a manager that serves the client comes within the rounds it takes to get to it. -/
theorem connectLoop_reaches {url : String} (turn rounds : Nat) (urlCursor : UInt64) (attempt : UInt32)
    (later : turn < rounds) (wide : urlCursor.toNat+turn < 18446744073709551616)
    (itsTurn : client.url (urlCursor.toNat+turn) = url)
    (early : s.now+(turn+1)*roundBudget client callback ≤ deadline)
    (calm : ∀ instant, cancelled = some instant → deadline < instant) (usable : Usable s.link.credentials) :
    Attains (clocked Stream parse cancelled) (Surrounded fromStr client callback url True) (UpBy deadline) (fun _ _ => False)
      (12*(turn+1)) (connectLoop fromStr client rounds urlCursor attempt) s := by
  induction turn generalizing rounds urlCursor attempt s with
  | zero =>
    cases rounds with
    | zero => exact absurd later (Nat.not_lt_zero _)
    | succ rounds =>
      rw [Nat.zero_add,Nat.one_mul] at early
      refine (round_attains True callback 0 early (fun _ => usable) ?_ ?_ ?_).mono
        (Nat.le_refl _) (fun _ _ up => up) (fun _ _ never => never)
      · intro w allowed
        rw [Nat.add_zero] at itsTurn
        exact itsTurn ▸ allowed
      · rintro s' soon ⟨instant,token,after⟩
        have never := calm instant token
        omega
      · exact fun _ _ unsound => absurd trivial unsound
  | succ turn ih =>
    cases rounds with
    | zero => exact absurd later (Nat.not_lt_zero _)
    | succ rounds =>
      rw [Nat.succ_mul] at early
      have step : (urlCursor+1).toNat = urlCursor.toNat+1 := by
        rw [UInt64.toNat_add,UInt64.toNat_one,Nat.mod_eq_of_lt (by omega)]
      refine (round_attains False callback (12*(turn+1)) (by omega) False.elim ?_ ?_ ?_).mono
        (by omega) (fun _ _ up => up) (fun _ _ never => never)
      · exact fun w allowed => ⟨allowed.callback,False.elim⟩
      · rintro s' soon ⟨instant,token,after⟩
        have never := calm instant token
        rw [Nat.succ_mul] at early
        omega
      · intro attempt s' _ soon kept
        refine ih rounds (urlCursor+1) attempt (by omega) (by omega) ?_ (by omega) (kept ▸ usable)
        rw [step,← itsTurn]
        congr 1
        omega

/-- No await of the loop hangs. Whatever the network, the managers and the session's surroundings
do, and whether or not shutdown comes, so many rounds of the loop bring the link up or are over
by the time that the bounds of their awaits and their pauses add up to. -/
theorem no_round_hangs (Stream : Type) (parse : String → Except String ManagerUrl) (fromStr : String → Except String Json)
    (client : LinkClient) (cancelled : Option Nat) (callback rounds : Nat) (urlCursor : UInt64) (attempt : UInt32) (s : OnClock)
    (ws : List (Around Stream parse)) (bounded : ∀ w ∈ ws, ∀ nodeId nodeSecret, w.callback nodeId nodeSecret ≤ callback)
    (enough : 12*rounds ≤ ws.length) :
    let run := (clocked Stream parse cancelled).record.run ws (connectLoop fromStr client rounds urlCursor attempt) (s,[])
    Saw (fun event => UpBy (s.now+rounds*roundBudget client callback) event.operation event.before) run.2.2 ∨
      ∃ outcome, run.1.result = some outcome ∧ run.2.1.now ≤ s.now+rounds*roundBudget client callback := by
  have attains : Attains (clocked Stream parse cancelled)
      (fun w => ∀ nodeId nodeSecret, w.callback nodeId nodeSecret ≤ callback)
      (UpBy (s.now+rounds*roundBudget client callback)) (fun _ s' => s'.now ≤ s.now+rounds*roundBudget client callback)
      (12*rounds) (connectLoop fromStr client rounds urlCursor attempt) s :=
    connectLoop_attains rounds urlCursor attempt (Nat.le_refl _) (fun _ allowed => allowed)
  exact attains.run bounded enough []

/-- The gateway comes back by itself. From any round of the loop on, if one manager of the list
serves the client while the others and the network to them do what they like, the link is up
within one round for each URL, each of bounded length. -/
theorem served_client_connects (Stream : Type) (parse : String → Except String ManagerUrl)
    (fromStr : String → Except String Json) (client : LinkClient) (cancelled : Option Nat) (callback rounds : Nat)
    (urlCursor : UInt64) (attempt : UInt32) (s : OnClock) (ws : List (Around Stream parse)) (url : String)
    (listed : url ∈ client.cfg.managerUrls) (usable : Usable s.link.credentials)
    (surrounded : ∀ w ∈ ws, Surrounded fromStr client callback url True w)
    (turns : client.cfg.managerUrls.length ≤ rounds)
    (wide : urlCursor.toNat+client.cfg.managerUrls.length ≤ 18446744073709551616)
    (calm : ∀ instant, cancelled = some instant →
      s.now+client.cfg.managerUrls.length*roundBudget client callback < instant)
    (enough : 12*client.cfg.managerUrls.length ≤ ws.length) :
    Saw (fun event => UpBy (s.now+client.cfg.managerUrls.length*roundBudget client callback) event.operation event.before)
      ((clocked Stream parse cancelled).record.run ws (connectLoop fromStr client rounds urlCursor attempt) (s,[])).2.2 := by
  have member := (client.url_window urlCursor.toNat).mem_iff.mpr listed
  obtain ⟨turn,inside,itsTurn⟩ := List.mem_map.mp member
  have within_ : turn < client.cfg.managerUrls.length := List.mem_range.mp inside
  have enough' : (turn+1)*roundBudget client callback ≤ client.cfg.managerUrls.length*roundBudget client callback :=
    Nat.mul_le_mul_right _ within_
  obtain up | ⟨_,_,never⟩ := (connectLoop_reaches turn rounds urlCursor attempt (by omega) (by omega) itsTurn
    (Nat.add_le_add_left enough' s.now) calm usable).run surrounded (by omega) []
  · exact up
  · exact never.elim

end Rounds

namespace Sample

/-- A host whose name is not answered for. -/
def nameless : Network SocketAddr where
  lookup _ _ := none
  connect _ _ := .silent
  upgrade _ _ := none

theorem nameless_dial (url : String) : dialManager managerUrl nameless [] url = some (dialTimeout,.error (.webSocket
    ("manager DNS lookup for " ++ "manager.example.com" ++ " timed out after " ++
      toString (Duration.asSecs dialTimeout) ++ "s"))) := rfl

/-- The first manager's host is not found; of the other's the first address is dark, and it answers what it is sent. -/
def around : Around SocketAddr managerUrl where
  tls acceptSelfSigned _ := if acceptSelfSigned then .error (.tls "not allowed") else .ok ()
  dial url := if url = "wss://a.example.com" then ⟨_,_,nameless,[],nameless_dial url⟩
    else ⟨_,_,halfDark,[0,0],halfDark_dial url⟩
  taken _ _ := some (1,.ok ())
  reply _ := some (2,.message (.text "ack"))
  callback _ _ := 7
  session := (100,.closed)
  close := none
  pick := true

theorem around_bounded (nodeId nodeSecret : String) : around.callback nodeId nodeSecret ≤ 7 := Nat.le_refl 7

theorem around_surrounded : Surrounded ack twoSided 7 "wss://b.example.com" True around where
  callback := around_bounded
  serves _ := {
    tls := rfl
    dial := ⟨v4a,rfl⟩
    taken := fun _ => ⟨1,by decide,rfl⟩
    reply := ⟨2,by decide,"ack",.registered "n1" "s1",rfl,rfl⟩}

def started : OnClock := ⟨⟨startCredentials twoManagers,false⟩,0,""⟩

end Sample

theorem sample_no_round_hangs :
    let run := (clocked SocketAddr Sample.managerUrl (some 3)).record.run (List.replicate 24 Sample.around)
      (connectLoop Sample.ack Sample.twoSided 2 0 0) (Sample.started,[])
    Saw (fun event => UpBy (0+2*roundBudget Sample.twoSided 7) event.operation event.before) run.2.2 ∨
      ∃ outcome, run.1.result = some outcome ∧ run.2.1.now ≤ 0+2*roundBudget Sample.twoSided 7 :=
  no_round_hangs SocketAddr Sample.managerUrl Sample.ack Sample.twoSided (some 3) 7 2 0 0 Sample.started
    (List.replicate 24 Sample.around) (fun _ member => List.eq_of_mem_replicate member ▸ Sample.around_bounded)
    (Nat.le_refl 24)

/-- The second manager of two is reached, past the first that cannot be. -/
theorem sample_served_client_connects : Saw
    (fun event => UpBy (0+2*roundBudget Sample.twoSided 7) event.operation event.before)
    ((clocked SocketAddr Sample.managerUrl none).record.run (List.replicate 24 Sample.around)
      (connectLoop Sample.ack Sample.twoSided 2 0 0) (Sample.started,[])).2.2 :=
  served_client_connects SocketAddr Sample.managerUrl Sample.ack Sample.twoSided none 7 2 0 0 Sample.started
    (List.replicate 24 Sample.around) "wss://b.example.com" (List.mem_cons_of_mem _ List.mem_cons_self) ⟨rfl,fun _ => rfl⟩
    (fun _ member => List.eq_of_mem_replicate member ▸ Sample.around_surrounded) (Nat.le_refl 2) (by decide) nofun
    (Nat.le_refl 24)

end GatewaySdk.Client
