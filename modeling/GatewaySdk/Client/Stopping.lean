import GatewaySdk.Client.Clock

/-! Shutdown on the clock: when the loop of `run` is over once its token is cancelled, what it
still begins by then, and when `run` returns. -/
namespace GatewaySdk.Client
open GatewaySdk.Effect
open GatewaySdk.Upgrade (Json)

def commandDrainLimit : Nat := Duration.fromSecs 30

/-- When `run` returns: its loop is over then, and the command turn comes when it does. -/
def returnsAt (loopEnd : Nat) (turn : Coming Unit) : Nat := (timeout commandDrainLimit loopEnd turn).1

/-- Surroundings whose callback takes no longer than this. -/
abbrev Obliging (Stream : Type) (parse : String → Except String ManagerUrl) (callback : Nat) :=
  {w : Around Stream parse // ∀ nodeId nodeSecret, w.callback nodeId nodeSecret ≤ callback}

variable {Stream : Type} {parse : String → Except String ManagerUrl}

/-- A client on the clock with such surroundings, shut down at that instant. -/
def stopping (Stream : Type) (parse : String → Except String ManagerUrl) (callback instant : Nat) :
    Machine LinkSig (Obliging Stream parse callback) OnClock :=
  (clocked Stream parse (some instant)).only _

def LinkCall.begins : LinkCall → Bool
  | .buildTlsConfig _ _ | .dialManager _ => true
  | _ => false

section Stop
variable {fromStr : String → Except String Json} {client : LinkClient} {callback instant bound b : Nat}
  {m : OnClock × Trace LinkSig (Obliging Stream parse callback) OnClock} {α : Type}

/-- The clock is no further than this, and every connection was begun before shutdown. -/
structure Upto (instant bound : Nat) (m : OnClock × Trace LinkSig (Obliging Stream parse callback) OnClock) : Prop where
  clock : m.1.now ≤ bound
  begun : ∀ event ∈ m.2, event.operation.begins = true → event.before.now < instant

theorem Upto.mono (upto : Upto instant b m) (more : b ≤ bound) : Upto instant bound m :=
  ⟨Nat.le_trans upto.clock more,upto.begun⟩

/-- What a call may leave the clock at. -/
def reach (callback instant : Nat) : LinkCall → Nat
  | .onRegister _ _ => instant+callback
  | _ => instant

theorem waits_soon (s : OnClock) (pick : Bool) {wait : Nat × α} (soon : s.now ≤ instant) :
    (s.waits (some instant) pick wait).2.now ≤ instant := by
  have bound := @raceCancelled_le_cancelled _ pick s.now wait instant
  rw [Nat.max_eq_right soon] at bound
  exact bound

theorem exec_reach {operation : LinkCall} (unsessioned : operation ≠ .runSession) (w : Obliging Stream parse callback)
    {s : OnClock} (soon : s.now ≤ instant) :
    ((stopping Stream parse callback instant).exec operation w s).2.now ≤ reach callback instant operation := by
  cases operation with
  | dialManager url => exact @waits_soon _ _ {s with peer := url} w.1.pick _ soon
  | send frame => exact waits_soon s w.1.pick soon
  | readNext => exact waits_soon s w.1.pick soon
  | sleep delay => exact waits_soon s w.1.pick soon
  | onRegister nodeId nodeSecret => exact Nat.add_le_add soon (w.2 nodeId nodeSecret)
  | runSession => exact absurd rfl unsessioned
  | _ => exact soon

/-- A session that shutdown ends is over when its Close frame has had its time. -/
theorem runsSession_reach (w : Around Stream parse) {s : OnClock} (soon : s.now ≤ instant+callback) :
    ((s.runsSession (some instant) w).1 = .shutdownRequested ∧
      (s.runsSession (some instant) w).2.now ≤ instant+callback+closeSendTimeout) ∨
    (s.runsSession (some instant) w).2.now ≤ instant := by
  have race := @raceCancelled_le_cancelled _ false s.now (s.now+w.session.1,w.session.2) instant
  unfold OnClock.runsSession OnClock.waits
  cases came : (raceCancelled (some instant) false s.now (s.now+w.session.1,w.session.2)).2 with
  | none =>
    have close := (timeout_le closeSendTimeout
      (raceCancelled (some instant) false s.now (s.now+w.session.1,w.session.2)).1 w.close).2
    refine .inl ⟨rfl,?_⟩
    dsimp only
    omega
  | some ended =>
    refine .inr ?_
    dsimp only
    unfold raceCancelled at came race ⊢
    dsimp only at came race ⊢
    split at came
    next first =>
      rw [if_pos first]
      simp only [Bool.false_eq_true,and_false,or_false] at first
      dsimp only
      omega
    · cases came

/-- Every moment of the program is within the bound, and so is its end. -/
abbrev Stops (callback instant : Nat) (post : Except SdkError α → OnClock × Trace LinkSig (Obliging Stream parse callback) OnClock → Prop)
    (program : Linking α) (m : OnClock × Trace LinkSig (Obliging Stream parse callback) OnClock) : Prop :=
  Holds (stopping Stream parse callback instant).record (Upto instant (instant+callback+closeSendTimeout)) post program m

/-- A connection is over by shutdown, or because of it. -/
def Stopped (callback instant : Nat) (outcome : Except SdkError ConnectionResult)
    (m : OnClock × Trace LinkSig (Obliging Stream parse callback) OnClock) : Prop :=
  Upto instant instant m ∨ outcome = .ok .shutdownRequested ∧ Upto instant (instant+callback+closeSendTimeout) m

theorem Upto.now (upto : Upto instant instant m) : Upto instant (instant+callback+closeSendTimeout) m :=
  upto.mono (by omega)

theorem Upto.snoc {operation : LinkCall} {w : Obliging Stream parse callback} (upto : Upto instant b m)
    (before : operation.begins = true → m.1.now < instant)
    (soon : ((stopping Stream parse callback instant).exec operation w m.1).2.now ≤ bound) :
    Upto instant bound ((stopping Stream parse callback instant).record.exec operation w m).2 := by
  refine ⟨soon,fun event member begins => ?_⟩
  rcases List.mem_append.mp member with earlier | now
  · exact upto.begun event earlier begins
  · obtain rfl := List.mem_singleton.mp now
    exact before begins

theorem ask_stops {post : Except SdkError α → OnClock × Trace LinkSig (Obliging Stream parse callback) OnClock → Prop}
    {operation : LinkCall} {rest : operation.Reply → Linking α} (unsessioned : operation ≠ .runSession)
    (upto : Upto instant instant m) (before : operation.begins = true → m.1.now < instant)
    (next : ∀ w, Upto instant (reach callback instant operation)
        ((stopping Stream parse callback instant).record.exec operation w m).2 →
      Stops callback instant post (rest ((stopping Stream parse callback instant).exec operation w m.1).1)
        ((stopping Stream parse callback instant).record.exec operation w m).2) :
    Stops callback instant post ((ask operation).bind rest) m :=
  ⟨upto.now,fun w => next w (upto.snoc before (exec_reach unsessioned w upto.clock))⟩

theorem ofExcept_stops {β : Type} {post : Except SdkError β → OnClock × Trace LinkSig (Obliging Stream parse callback) OnClock → Prop}
    {outcome : Except SdkError α} {rest : α → Linking β} (upto : Upto instant instant m)
    (error : ∀ e, post (.error e) m) (value : ∀ a, Stops callback instant post (rest a) m) :
    Stops callback instant post ((Program.ofExcept outcome).bind rest) m := by
  cases outcome with
  | error e => exact ⟨upto.now,error e⟩
  | ok a => exact value a

theorem session_stops (upto : Upto instant (instant+callback) m) :
    Stops callback instant (Stopped callback instant) ((ask .setConnected).bind fun _ => ask .runSession) m := by
  have more : instant+callback ≤ instant+callback+closeSendTimeout := Nat.le_add_right _ _
  refine ⟨upto.mono more,fun w => ?_⟩
  have up : Upto instant (instant+callback) ((stopping Stream parse callback instant).record.exec .setConnected w m).2 :=
    upto.snoc nofun upto.clock
  refine ⟨up.mono more,fun w => ?_⟩
  obtain ⟨shut,soon⟩ | soon := @runsSession_reach _ _ callback instant w.1 _ up.clock
  · have upto := @Upto.snoc _ _ _ _ _ _ _ .runSession w up nofun soon
    exact ⟨upto,.inr ⟨congrArg Except.ok shut,upto⟩⟩
  · have upto := @Upto.snoc _ _ _ _ _ _ _ .runSession w up nofun soon
    exact ⟨upto.now,.inl upto⟩

theorem register_stops (outcome : AuthOutcome) (upto : Upto instant instant m) :
    Stops callback instant (Stopped callback instant)
      ((register client outcome).bind fun _ => (ask .setConnected).bind fun _ => ask .runSession) m := by
  have more : instant ≤ instant+callback := Nat.le_add_right _ _
  cases outcome with
  | authenticated => exact session_stops (upto.mono more)
  | registered nodeId nodeSecret =>
    refine ask_stops nofun upto nofun fun w upto => ?_
    by_cases hooked : client.onRegister = true
    · simp only [hooked,if_true]
      exact ask_stops nofun upto nofun fun w upto => session_stops upto
    · simp only [hooked,Bool.false_eq_true,if_false]
      apply session_stops
      exact upto.mono more

theorem oneConnection_stops (url : String) (upto : Upto instant instant m) (before : m.1.now < instant) :
    Stops callback instant (Stopped callback instant) (oneConnection fromStr client url) m := by
  refine ask_stops nofun upto (fun _ => before) fun w upto => ?_
  refine ofExcept_stops upto (fun _ => .inl upto) fun _ => ?_
  refine ask_stops nofun upto (fun _ => before) fun w upto => ?_
  split
  · exact ⟨upto.now,.inl upto⟩
  refine ofExcept_stops upto (fun _ => .inl upto) fun _ => ?_
  refine ask_stops nofun upto nofun fun w upto => ?_
  refine ofExcept_stops upto (fun _ => .inl upto) fun frame => ?_
  refine ask_stops nofun upto nofun fun w upto => ?_
  split
  · exact ⟨upto.now,.inl upto⟩
  · exact ⟨upto.now,.inl upto⟩
  · exact ⟨upto.now,.inl upto⟩
  refine ask_stops nofun upto nofun fun w upto => ?_
  split
  · exact ⟨upto.now,.inl upto⟩
  refine ofExcept_stops upto (fun _ => .inl upto) fun text => ?_
  exact ofExcept_stops upto (fun _ => .inl upto) fun outcome => register_stops outcome upto

theorem connectLoop_stops (rounds : Nat) (urlCursor : UInt64) (attempt : UInt32) (upto : Upto instant instant m) :
    Stops callback instant (fun _ _ => True) (connectLoop fromStr client rounds urlCursor attempt) m := by
  induction rounds generalizing urlCursor attempt m with
  | zero => exact ⟨upto.now,trivial⟩
  | succ rounds ih =>
    refine ask_stops nofun upto nofun fun w upto => ?_
    split
    · exact ⟨upto.now,trivial⟩
    next untold =>
      have before : m.1.now < instant := by
        by_contra after
        exact untold (decide_eq_true (Nat.le_of_not_lt after))
      have connection : Stops callback instant (fun outcome m => ∃ result, outcome = .ok result ∧
          Stopped callback instant result m)
          ((oneConnection fromStr client (client.url urlCursor.toNat)).attempt : Linking _)
          ((stopping Stream parse callback instant).record.exec .isCancelled w m).2 := by
        apply Holds.attempt
        exact (oneConnection_stops _ upto before).mono (fun _ now => now) fun outcome _ _ stopped => ⟨outcome,rfl,stopped⟩
      refine Holds.bind _ connection (fun result m _ ended => ?_) fun _ _ _ _ => trivial
      obtain ⟨_,same,upto | ⟨shut,upto⟩⟩ := ended
      · obtain rfl := Except.ok.inj same
        refine ask_stops nofun upto nofun fun w upto => ?_
        split
        · exact ⟨upto.now,trivial⟩
        refine ask_stops nofun upto nofun fun w upto => ?_
        split
        · exact ⟨upto.now,trivial⟩
        refine ask_stops nofun upto nofun fun w upto => ?_
        split
        · exact ⟨upto.now,trivial⟩
        · exact ih _ _ upto
      · obtain rfl := Except.ok.inj same
        subst shut
        refine ⟨upto,fun w => ?_⟩
        have upto := @Upto.snoc _ _ _ _ _ _ _ .setDisconnected w upto nofun upto.clock
        exact ⟨upto,trivial⟩

def late (instant : Nat) (log : Trace LinkSig (Obliging Stream parse callback) OnClock) : Nat :=
  log.countP fun event => instant ≤ event.before.now

theorem exec_later (operation : LinkCall) (w : Obliging Stream parse callback) (s : OnClock) :
    s.now ≤ ((stopping Stream parse callback instant).exec operation w s).2.now := by
  cases operation with
  | dialManager url => exact raceCancelled_now (Nat.le_add_right _ _)
  | send frame => exact raceCancelled_now (timeout_le _ _ _).1
  | readNext => exact raceCancelled_now (timeout_le _ _ _).1
  | sleep delay => exact raceCancelled_now (Nat.le_add_right _ _)
  | onRegister nodeId nodeSecret => exact Nat.le_add_right _ _
  | runSession =>
    have race := @raceCancelled_now _ (some instant) false s.now (s.now+w.1.session.1,w.1.session.2) (Nat.le_add_right _ _)
    change s.now ≤ (s.runsSession (some instant) w.1).2.now
    unfold OnClock.runsSession OnClock.waits
    cases (raceCancelled (some instant) false s.now (s.now+w.1.session.1,w.1.session.2)).2 with
    | some ended => exact race
    | none => exact Nat.le_trans race (timeout_le _ _ _).1
  | _ => exact Nat.le_refl _

/-- Before shutdown no call counts as late. -/
def Fresh (instant : Nat) (m : OnClock × Trace LinkSig (Obliging Stream parse callback) OnClock) : Prop :=
  m.1.now < instant → late instant m.2 = 0

theorem fresh_stable : Stable (stopping Stream parse callback instant) (fun _ => True) (Fresh instant) := by
  intro operation w m _ fresh before
  have now : m.1.now < instant := Nat.lt_of_le_of_lt (exec_later operation w m.1) before
  change List.countP _ (m.2 ++ [_]) = 0
  rw [List.countP_append]
  have none_ := fresh now
  unfold late at none_
  rw [none_]
  simpa [Machine.event] using now

theorem ask_fits {operation : LinkCall} {rest : operation.Reply → Linking α} {n : Nat} (more : ∀ reply, Fits n (rest reply)) :
    Fits (n+1) ((ask operation).bind rest) := more

theorem ofExcept_fits {β : Type} {outcome : Except SdkError α} {rest : α → Linking β} {n : Nat} (more : ∀ a, Fits n (rest a)) :
    Fits n ((Program.ofExcept outcome).bind rest) := by
  cases outcome with
  | error e => cases n <;> trivial
  | ok a => exact more a

theorem register_fits (outcome : AuthOutcome) : Fits 2 (register client outcome) := by
  cases outcome with
  | authenticated => trivial
  | registered nodeId nodeSecret =>
    refine ask_fits fun _ => ?_
    split
    · exact fun _ => trivial
    · trivial

theorem oneConnection_fits (url : String) : Fits 9 (oneConnection fromStr client url) := by
  refine ask_fits fun _ => ofExcept_fits fun _ => ask_fits fun dialled => ?_
  split
  · trivial
  refine ofExcept_fits fun _ => ask_fits fun _ => ofExcept_fits fun _ => ask_fits fun sent => ?_
  split
  · trivial
  · trivial
  · trivial
  refine ask_fits fun read => ?_
  split
  · trivial
  refine ofExcept_fits fun _ => ofExcept_fits fun outcome => ?_
  have session : Fits 2 ((ask .setConnected).bind fun _ => ask .runSession) := fun _ _ => trivial
  exact (register_fits outcome).bind fun _ => session

theorem connectLoop_fits (rounds : Nat) (urlCursor : UInt64) (attempt : UInt32) :
    Fits (13*rounds) (connectLoop fromStr client rounds urlCursor attempt) := by
  induction rounds generalizing urlCursor attempt with
  | zero => trivial
  | succ rounds ih =>
    have room : 13*(rounds+1) = (9+(13*rounds+1+1+1))+1 := by omega
    rw [room]
    refine ask_fits fun _ => ?_
    split
    · trivial
    refine (oneConnection_fits _).attempt.bind fun result => ask_fits fun _ => ?_
    split
    · trivial
    refine ask_fits fun _ => ?_
    split
    · trivial
    refine ask_fits fun _ => ?_
    split
    · cases 13*rounds <;> trivial
    · exact ih _ _

theorem late_holds {operation : LinkCall} {rest : operation.Reply → Linking α} {n k : Nat}
    {post : Except SdkError α → OnClock × Trace LinkSig (Obliging Stream parse callback) OnClock → Prop}
    (fresh : Fresh instant m) (few : late instant m.2 ≤ n) (room : n ≤ k)
    (next : ∀ w, Fresh instant ((stopping Stream parse callback instant).record.exec operation w m).2 →
      late instant ((stopping Stream parse callback instant).record.exec operation w m).2.2 ≤ n+1 →
      Holds (stopping Stream parse callback instant).record (fun m => late instant m.2 ≤ k) post
        (rest ((stopping Stream parse callback instant).exec operation w m.1).1)
        ((stopping Stream parse callback instant).record.exec operation w m).2) :
    Holds (stopping Stream parse callback instant).record (fun m => late instant m.2 ≤ k) post ((ask operation).bind rest) m := by
  refine ⟨Nat.le_trans few room,fun w => next w (fresh_stable operation w m trivial fresh) ?_⟩
  change List.countP _ (m.2 ++ [_]) ≤ n+1
  rw [List.countP_append]
  exact Nat.add_le_add few List.countP_le_length

/-- A round that is begun before shutdown is all that shutdown can come to. -/
theorem connectLoop_late (rounds : Nat) (urlCursor : UInt64) (attempt : UInt32) (fresh : Fresh instant m)
    (few : late instant m.2 ≤ 12) :
    Holds (stopping Stream parse callback instant).record (fun m => late instant m.2 ≤ 13) (fun _ _ => True)
      (connectLoop fromStr client rounds urlCursor attempt) m := by
  induction rounds generalizing urlCursor attempt m with
  | zero => exact ⟨Nat.le_succ_of_le few,trivial⟩
  | succ rounds ih =>
    refine late_holds fresh few (Nat.le_succ 12) fun w fresh few => ?_
    split
    · exact ⟨few,trivial⟩
    next untold =>
      have before : m.1.now < instant := by
        by_contra after
        exact untold (decide_eq_true (Nat.le_of_not_lt after))
      have fits : Fits 9 ((oneConnection fromStr client (client.url urlCursor.toNat)).attempt : Linking _) :=
        (oneConnection_fits _).attempt
      have none_ : late instant ((stopping Stream parse callback instant).record.exec .isCancelled w m).2.2 ≤ 0 :=
        Nat.le_of_eq (fresh before)
      have counted := (fits.counts _ none_).and ((Uses.any _).stable fresh_stable fresh)
      refine Holds.bind _ (counted.mono (fun _ now => ?_) fun _ _ _ ended => ended) (fun result m' _ ended => ?_)
        fun _ _ _ _ => trivial
      · exact Nat.le_trans now.1 (by decide)
      obtain ⟨few,fresh⟩ := ended
      refine late_holds fresh few (by decide) fun w fresh few => ?_
      split
      · exact ⟨Nat.le_trans few (by decide),trivial⟩
      refine late_holds fresh few (by decide) fun w fresh few => ?_
      split
      · exact ⟨Nat.le_trans few (by decide),trivial⟩
      refine late_holds fresh few (by decide) fun w fresh few => ?_
      split
      · exact ⟨Nat.le_trans few (by decide),trivial⟩
      · exact ih _ _ fresh few

end Stop

/-- Shutdown is prompt wherever it finds the client. Whatever the network, the managers and the
sessions do: no connection is begun once the token is cancelled, few calls are made after it,
the loop is left when a callback and the Close frame have had their time, and `run` returns no
later than the drain's limit after that, even behind a command that never ends. -/
theorem shutdown_is_prompt (Stream : Type) (parse : String → Except String ManagerUrl) (fromStr : String → Except String Json)
    (client : LinkClient) (callback instant rounds : Nat) (urlCursor : UInt64) (attempt : UInt32) (s : OnClock)
    (begun : s.now ≤ instant) (ws : List (Obliging Stream parse callback)) :
    let run := (stopping Stream parse callback instant).record.run ws (connectLoop fromStr client rounds urlCursor attempt) (s,[])
    (∀ event ∈ run.2.2, event.operation.begins = true → event.before.now < instant) ∧ late instant run.2.2 ≤ 13 ∧
      run.2.1.now ≤ instant+callback+closeSendTimeout ∧
      (13*rounds ≤ ws.length → ∃ outcome, run.1.result = some outcome) ∧
      ∀ turn, returnsAt run.2.1.now turn ≤ instant+callback+closeSendTimeout+commandDrainLimit := by
  intro run
  have start : Upto instant instant ((s,[]) : OnClock × Trace LinkSig (Obliging Stream parse callback) OnClock) :=
    ⟨begun,List.forall_mem_nil _⟩
  have none_ : Fresh instant ((s,[]) : OnClock × Trace LinkSig (Obliging Stream parse callback) OnClock) := fun _ => rfl
  have upto : Upto instant (instant+callback+closeSendTimeout) run.2 :=
    ((connectLoop_stops rounds urlCursor attempt start).run ws).1
  have few : late instant run.2.2 ≤ 13 :=
    ((connectLoop_late rounds urlCursor attempt none_ (Nat.zero_le 12)).run ws).1
  refine ⟨upto.begun,few,upto.clock,fun enough => ?_,fun turn => ?_⟩
  · exact (connectLoop_fits rounds urlCursor attempt).run enough _
  · exact Nat.le_trans (timeout_le _ _ _).2 (Nat.add_le_add_right upto.clock _)

namespace Sample

def obliging : Obliging SocketAddr managerUrl 7 := ⟨around,fun _ _ => Nat.le_refl 7⟩

end Sample

theorem sample_shutdown_is_prompt :
    let run := (stopping SocketAddr Sample.managerUrl 7 3).record.run (List.replicate 13 Sample.obliging)
      (connectLoop Sample.ack Sample.client 1 0 0) (Sample.started,[])
    (∀ event ∈ run.2.2, event.operation.begins = true → event.before.now < 3) ∧ late 3 run.2.2 ≤ 13 ∧
      run.2.1.now ≤ 3+7+closeSendTimeout ∧ (13*1 ≤ (List.replicate 13 Sample.obliging).length →
        ∃ outcome, run.1.result = some outcome) ∧
      ∀ turn, returnsAt run.2.1.now turn ≤ 3+7+closeSendTimeout+commandDrainLimit :=
  shutdown_is_prompt SocketAddr Sample.managerUrl Sample.ack Sample.client 7 3 1 0 0 Sample.started (by decide)
    (List.replicate 13 Sample.obliging)

end GatewaySdk.Client
