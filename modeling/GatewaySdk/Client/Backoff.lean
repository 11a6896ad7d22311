import GatewaySdk.Client.Registration
import Mathlib.Data.List.DropRight
import Mathlib.Data.List.Rotate

/-! Which URL every connection dials and how long every pause is, over the whole life of a
client: two counts of what has ended, one that only a clean close sets back. -/
namespace GatewaySdk.Client
open GatewaySdk.Effect
open GatewaySdk.Upgrade (Json)

abbrev LinkLog := Trace LinkSig LinkChoice Link

def dialOf : LinkEvent → Option String
  | ⟨_,.dialManager url,_,_⟩ => some url
  | _ => none

def sleptOf : LinkEvent → Option Nat
  | ⟨_,.sleep delay,_,_⟩ => some delay
  | _ => none

/-- A sleep that shutdown did not cut short. -/
def restedOf : LinkEvent → Option Nat
  | ⟨_,.sleep delay,_,some ()⟩ => some delay
  | _ => none

/-- A connection is over, however it ended. -/
def hasEnded : LinkEvent → Bool
  | ⟨_,.setDisconnected,_,_⟩ => true
  | _ => false

def closedCleanly : LinkEvent → Bool
  | ⟨_,.runSession,_,.authenticatedThenClosed⟩ => true
  | _ => false

/-- No TLS configuration could be built, so nothing was dialled. -/
def tlsFailed : LinkEvent → Bool
  | ⟨_,.buildTlsConfig _ _,_,.error _⟩ => true
  | _ => false

def dials (log : LinkLog) : List String := log.filterMap dialOf

def ended (log : LinkLog) : Nat := log.countP hasEnded

/-- Those that ended since the last clean close, that one included. -/
def streak (log : LinkLog) : Nat := (log.rtakeWhile fun event => !closedCleanly event).countP hasEnded

/-- What has happened since a connection ended last. -/
def lull (log : LinkLog) : LinkLog := log.rtakeWhile fun event => !hasEnded event

/-- The pause before the next dial when `m` connections have ended so. -/
structure Pause (backoff : ReconnectBackoff) (m delay : Nat) : Prop where
  counted : 1 ≤ m
  unset : backoff.stepsSecs = [] → delay = Duration.fromSecs 5
  step : backoff.stepsSecs ≠ [] →
    ∃ secs, backoff.stepsSecs[min m backoff.stepsSecs.length - 1]? = some secs ∧ delay = Duration.fromSecs secs.toNat

/-- Since the last connection ended nothing was dialled, and one pause, the streak's, slept to its end. -/
def Rested (backoff : ReconnectBackoff) (log : LinkLog) : Prop :=
  ended log ≠ 0 ∧ dials (lull log) = [] ∧ ∃ delay, (lull log).filterMap sleptOf = [delay] ∧
    (lull log).filterMap restedOf = [delay] ∧ Pause backoff (streak log) delay

/-- The `i`-th connection dials the `i`-th URL, round and round, each but the first after a pause, and the pauses follow
the streak. -/
structure Paced (client : LinkClient) (log : LinkLog) : Prop where
  cursor : Along (fun past event => ∀ url, dialOf event = some url → url = client.url (ended past)) log
  dialled : (∀ event ∈ log, tlsFailed event = false) → dials log = (List.range (dials log).length).map client.url
  paused : Along (fun past event => ∀ delay, sleptOf event = some delay → Pause client.cfg.reconnectBackoff (streak past) delay) log
  rested : Along (fun past event => ∀ url, dialOf event = some url →
    ended past = 0 ∧ dials past = [] ∨ Rested client.cfg.reconnectBackoff past) log

section Counts

variable {log : LinkLog} {event : LinkEvent}

theorem ended_snoc (log : LinkLog) (event : LinkEvent) :
    ended (log ++ [event]) = ended log + if hasEnded event = true then 1 else 0 := by
  rw [ended,List.countP_append,List.countP_singleton]
  rfl

theorem streak_snoc (log : LinkLog) (event : LinkEvent) :
    streak (log ++ [event]) = if closedCleanly event = true then 0 else streak log + if hasEnded event = true then 1 else 0 := by
  rw [streak,List.rtakeWhile_concat]
  cases closed : closedCleanly event with
  | true => simp
  | false =>
    simp only [Bool.not_false,if_true,List.countP_append,List.countP_singleton,Bool.false_eq_true,if_false]
    rfl

theorem lull_snoc (log : LinkLog) (event : LinkEvent) :
    lull (log ++ [event]) = if hasEnded event = true then [] else lull log ++ [event] := by
  rw [lull,List.rtakeWhile_concat]
  cases hasEnded event <;> rfl

theorem streak_lowered (lower : streak (log ++ [event]) < streak log) : closedCleanly event = true := by
  rw [streak_snoc] at lower
  by_contra other
  rw [if_neg other] at lower
  omega

theorem dials_snoc (log : LinkLog) (event : LinkEvent) : dials (log ++ [event]) = dials log ++ (dialOf event).toList := by
  rw [dials,List.filterMap_append]
  cases found : dialOf event <;> simp [found,dials]

end Counts

/-- Any so many consecutive dials as there are URLs try every URL once. -/
theorem LinkClient.url_window (client : LinkClient) (i : Nat) :
    ((List.range client.cfg.managerUrls.length).map fun j => client.url (i+j)).Perm client.cfg.managerUrls := by
  have turned : (List.range client.cfg.managerUrls.length).map (fun j => client.url (i+j)) = client.cfg.managerUrls.rotate i := by
    apply List.ext_getElem
    · simp
    · intro j left right
      simp only [List.getElem_map,List.getElem_range,LinkClient.url,List.get_eq_getElem,List.getElem_rotate,Nat.add_comm i j]
  rw [turned]
  exact List.rotate_perm _ _

theorem delayForAttempt_pause (backoff : ReconnectBackoff) {attempt : UInt32} (counted : 1 ≤ attempt.toNat) :
    Pause backoff attempt.toNat (backoff.delayForAttempt attempt) := by
  refine ⟨counted,fun unset => ?_,fun set_ => ?_⟩
  · rw [ReconnectBackoff.delayForAttempt,unset]
  · unfold ReconnectBackoff.delayForAttempt
    split
    next unset => exact absurd unset set_
    next first rest same =>
      have place : min (max attempt.toNat 1 - 1) rest.length = min attempt.toNat backoff.stepsSecs.length - 1 := by
        rw [same,List.length_cons]
        omega
      rw [← place]
      refine ⟨_,?_,rfl⟩
      rw [same,List.get_eq_getElem,List.getElem?_eq_getElem]

section Life
variable {α β : Type} {fromStr : String → Except String Json} {client : LinkClient} {m : LinkMoment} {n s d : Nat} {l : Link}
  {event : LinkEvent} {respite : Respite}

/-- How far the way from the end of one connection to the next dial is gone. -/
inductive Respite where
  | linked
  | left
  | rested

def Respite.At (backoff : ReconnectBackoff) (log : LinkLog) : Respite → Prop
  | .linked => True
  | .left => ended log ≠ 0 ∧ dials (lull log) = [] ∧ (lull log).filterMap sleptOf = [] ∧
      (lull log).filterMap restedOf = []
  | .rested => ended log = 0 ∧ dials log = [] ∨ Rested backoff log

/-- Nothing is changed by an event that neither dials nor sleeps and ends nothing. -/
theorem Respite.At.quiet {backoff : ReconnectBackoff} {log : LinkLog} (at_ : respite.At backoff log)
    (undialled : dialOf event = none) (unpaused : sleptOf event = none) (unended : hasEnded event = false)
    (unclosed : closedCleanly event = false) : respite.At backoff (log ++ [event]) := by
  have unrested : restedOf event = none := by
    obtain ⟨before,operation,choice,reply⟩ := event
    cases operation with
    | sleep delay => cases unpaused
    | _ => rfl
  have same : ended (log ++ [event]) = ended log := by
    rw [ended_snoc,unended]
    rfl
  have calm : dials (lull (log ++ [event])) = dials (lull log) ∧
      (lull (log ++ [event])).filterMap sleptOf = (lull log).filterMap sleptOf ∧
      (lull (log ++ [event])).filterMap restedOf = (lull log).filterMap restedOf := by
    rw [lull_snoc,if_neg (by rw [unended]; nofun)]
    simp [dials,List.filterMap_append,undialled,unpaused,unrested]
  have count : streak (log ++ [event]) = streak log := by
    rw [streak_snoc,unclosed,unended]
    rfl
  cases respite with
  | linked => trivial
  | left =>
    simp only [Respite.At,same,calm]
    exact at_
  | rested =>
    refine at_.imp (fun first => ⟨same.trans first.1,?_⟩) fun rested => ?_
    · rw [dials_snoc,undialled,first.2]
      rfl
    · simp only [Rested,same,calm,count]
      exact rested

/-- A moment at which so many connections have ended, so many of them in the streak, and so
many have been dialled. -/
structure Stage (client : LinkClient) (respite : Respite) (n s d : Nat) (m : LinkMoment) : Prop where
  paced : Paced client m.2
  reached : respite.At client.cfg.reconnectBackoff m.2
  finished : ended m.2 = n
  since : streak m.2 = s
  count : (∀ event ∈ m.2, tlsFailed event = false) → (dials m.2).length = d

theorem Stage.start (client : LinkClient) (l : Link) : Stage client .rested 0 0 0 (l,[]) :=
  ⟨⟨along_nil _,fun _ => rfl,along_nil _,along_nil _⟩,.inl ⟨rfl,rfl⟩,rfl,rfl,fun _ => rfl⟩

theorem Paced.undialled {log : LinkLog} (paced : Paced client log) (undialled : dialOf event = none)
    (whole : ∀ other ∈ log ++ [event], tlsFailed other = false) :
    dials (log ++ [event]) = (List.range (dials (log ++ [event])).length).map client.url := by
  rw [dials_snoc,undialled,Option.toList_none,List.append_nil]
  exact paced.dialled fun other member => whole other (List.mem_append_left _ member)

/-- The event dials nothing and pauses for nothing; what it does to the counts is open. -/
theorem Stage.passes (stage : Stage client respite n s d m) (undialled : dialOf event = none) (unpaused : sleptOf event = none) :
    Paced client (m.2 ++ [event]) where
  cursor := along_snoc.mpr ⟨stage.paced.cursor,fun url dialled => by rw [undialled] at dialled; cases dialled⟩
  dialled := stage.paced.undialled undialled
  paused := along_snoc.mpr ⟨stage.paced.paused,fun delay slept => by rw [unpaused] at slept; cases slept⟩
  rested := along_snoc.mpr ⟨stage.paced.rested,fun url dialled => by rw [undialled] at dialled; cases dialled⟩

theorem Stage.count_snoc (stage : Stage client respite n s d m) (undialled : dialOf event = none)
    (whole : ∀ other ∈ m.2 ++ [event], tlsFailed other = false) : (dials (m.2 ++ [event])).length = d := by
  rw [dials_snoc,undialled,Option.toList_none,List.append_nil]
  exact stage.count fun other member => whole other (List.mem_append_left _ member)

theorem Stage.quiet (stage : Stage client respite n s d m) (undialled : dialOf event = none) (unpaused : sleptOf event = none)
    (unended : hasEnded event = false) (unclosed : closedCleanly event = false) : Stage client respite n s d (l,m.2 ++ [event]) where
  paced := stage.passes undialled unpaused
  reached := stage.reached.quiet undialled unpaused unended unclosed
  finished := by
    rw [ended_snoc,stage.finished,unended]
    rfl
  since := by
    rw [streak_snoc,stage.since,unclosed,unended]
    rfl
  count := stage.count_snoc undialled

/-- The configuration that cannot be built stands for any number of dials. -/
theorem Stage.undialled (stage : Stage client respite n s d m) (choice : LinkChoice) {acceptSelfSigned : Bool}
    {certFingerprint : Option String} {e : SdkError} (failed : choice (.buildTlsConfig acceptSelfSigned certFingerprint) = .error e)
    (d' : Nat) : Stage client respite n s d' (l,m.2 ++ [link.event (.buildTlsConfig acceptSelfSigned certFingerprint) choice m.1]) := by
  have quiet := @Stage.quiet client m n s d l (link.event (.buildTlsConfig acceptSelfSigned certFingerprint) choice m.1) _
    stage rfl rfl rfl rfl
  refine ⟨quiet.paced,quiet.reached,quiet.finished,quiet.since,fun whole => ?_⟩
  have built := whole _ (List.mem_append_right _ (List.mem_singleton_self _))
  have reply : tlsFailed (link.event (.buildTlsConfig acceptSelfSigned certFingerprint) choice m.1) = true := by
    change tlsFailed ⟨m.1,.buildTlsConfig acceptSelfSigned certFingerprint,choice,
      choice (.buildTlsConfig acceptSelfSigned certFingerprint)⟩ = true
    rw [failed]
    rfl
  rw [reply] at built
  cases built

theorem Stage.dials (stage : Stage client .rested n s n m) (choice : LinkChoice) :
    Stage client .linked n s (n+1) (l,m.2 ++ [link.event (.dialManager (client.url n)) choice m.1]) where
  paced := {
    cursor := along_snoc.mpr ⟨stage.paced.cursor,fun url dialled => by
      cases dialled
      rw [stage.finished]⟩
    dialled := fun whole => by
      have before : ∀ event ∈ m.2, tlsFailed event = false := fun event member => whole event (List.mem_append_left _ member)
      rw [dials_snoc,stage.paced.dialled before,List.length_append,List.length_map,List.length_range,stage.count before]
      exact (List.map_append ..).symm.trans (congrArg (List.map client.url) List.range_succ.symm)
    paused := along_snoc.mpr ⟨stage.paced.paused,fun delay slept => by cases slept⟩
    rested := along_snoc.mpr ⟨stage.paced.rested,fun _ _ => stage.reached⟩}
  reached := trivial
  finished := by
    rw [ended_snoc,stage.finished]
    rfl
  since := by
    rw [streak_snoc,stage.since]
    rfl
  count whole := by
    rw [dials_snoc,List.length_append,stage.count fun other member => whole other (List.mem_append_left _ member)]
    rfl

/-- The streak after a connection that ended so, its own end not counted yet. -/
def streakAfter (s : Nat) : Except SdkError ConnectionResult → Nat
  | .ok .authenticatedThenClosed => 0
  | _ => s

theorem Stage.session (stage : Stage client .linked n s d m) (choice : LinkChoice) :
    Stage client .linked n (streakAfter s (.ok (choice .runSession))) d (l,m.2 ++ [link.event .runSession choice m.1]) := by
  have event : link.event .runSession choice m.1 = ⟨m.1,.runSession,choice,choice .runSession⟩ := rfl
  rw [event]
  cases choice .runSession with
  | authenticatedThenClosed =>
    refine ⟨stage.passes rfl rfl,trivial,?_,?_,stage.count_snoc rfl⟩
    · rw [ended_snoc,stage.finished]
      rfl
    · rw [streak_snoc]
      rfl
  | authenticatedThenLost error => exact stage.quiet rfl rfl rfl rfl
  | shutdownRequested => exact stage.quiet rfl rfl rfl rfl

theorem Stage.ends (stage : Stage client respite n s d m) (choice : LinkChoice) :
    Stage client .left (n+1) (s+1) d (l,m.2 ++ [link.event .setDisconnected choice m.1]) where
  paced := stage.passes rfl rfl
  reached := by
    have isOver : hasEnded (link.event .setDisconnected choice m.1) = true := rfl
    simp only [Respite.At,ended_snoc,lull_snoc,isOver,if_true]
    exact ⟨Nat.succ_ne_zero _,rfl,rfl,rfl⟩
  finished := by
    rw [ended_snoc,stage.finished]
    rfl
  since := by
    rw [streak_snoc,stage.since]
    rfl
  count := stage.count_snoc rfl

theorem Stage.paused (stage : Stage client .left n s d m) {delay : Nat} (pause : Pause client.cfg.reconnectBackoff s delay)
    (choice : LinkChoice) : Paced client (m.2 ++ [link.event (.sleep delay) choice m.1]) where
  cursor := along_snoc.mpr ⟨stage.paced.cursor,fun url dialled => by cases dialled⟩
  dialled := stage.paced.undialled rfl
  paused := along_snoc.mpr ⟨stage.paced.paused,fun delay slept => by
    cases slept
    rw [stage.since]
    exact pause⟩
  rested := along_snoc.mpr ⟨stage.paced.rested,fun url dialled => by cases dialled⟩

/-- Only a pause that is slept through leads to the next dial. -/
theorem Stage.pauses (stage : Stage client .left n s d m) {delay : Nat} (pause : Pause client.cfg.reconnectBackoff s delay)
    (choice : LinkChoice) (through : choice (.sleep delay) = some ()) :
    Stage client .rested n s d (l,m.2 ++ [link.event (.sleep delay) choice m.1]) where
  paced := stage.paused pause choice
  reached := by
    obtain ⟨some_,undialled,unpaused,unrested⟩ := stage.reached
    have slept : link.event (.sleep delay) choice m.1 = ⟨m.1,.sleep delay,choice,some ()⟩ := by
      rw [← through]
      rfl
    refine .inr ⟨?_,?_,delay,?_,?_,?_⟩
    · rw [ended_snoc]
      exact some_
    · rw [lull_snoc,slept,if_neg nofun,dials_snoc,undialled]
      rfl
    · rw [lull_snoc,slept,if_neg nofun,List.filterMap_append,unpaused]
      rfl
    · rw [lull_snoc,slept,if_neg nofun,List.filterMap_append,unrested]
      rfl
    · rw [streak_snoc,slept,stage.since]
      exact pause
  finished := by
    rw [ended_snoc,stage.finished]
    rfl
  since := by
    rw [streak_snoc,stage.since]
    rfl
  count := stage.count_snoc rfl

abbrev Paces (client : LinkClient) (post : Except SdkError β → LinkMoment → Prop) (program : Linking β) (m : LinkMoment) :
    Prop := Holds link.record (fun m => Paced client m.2) post program m

/-- What is left of a connection that has been dialled, or never will be. -/
abbrev Connects (client : LinkClient) (n s : Nat) (program : Linking ConnectionResult) (m : LinkMoment) : Prop :=
  Paces client (fun outcome m => Stage client .linked n (streakAfter s outcome) (n+1) m) program m

/-- The calls that neither dial nor pause, end nothing and settle nothing. -/
def Idle : LinkCall → Prop
  | .buildTlsConfig _ _ | .dialManager _ | .sleep _ | .setDisconnected | .runSession => False
  | _ => True

theorem idle_holds {operation : LinkCall} {rest : operation.Reply → Linking β} {post : Except SdkError β → LinkMoment → Prop}
    (idle : Idle operation) (stage : Stage client respite n s d m)
    (next : ∀ reply m, Stage client respite n s d m → Paces client post (rest reply) m) :
    Paces client post ((ask operation).bind rest) m := by
  refine ask_holds stage.paced fun choice => next _ _ ?_
  cases operation <;> first
    | exact stage.quiet rfl rfl rfl rfl
    | exact idle.elim

theorem Stage.done {outcome : Except SdkError ConnectionResult} (stage : Stage client respite n s (n+1) m)
    (open_ : streakAfter s outcome = s) : Paced client m.2 ∧ Stage client .linked n (streakAfter s outcome) (n+1) m :=
  ⟨stage.paced,stage.paced,trivial,stage.finished,open_.symm ▸ stage.since,stage.count⟩

theorem runSession_connects (stage : Stage client .linked n s (n+1) m) : Connects client n s (ask .runSession) m :=
  ⟨stage.paced,fun choice => ⟨(stage.session choice).paced,stage.session choice⟩⟩

theorem awaitAuth_connects (stage : Stage client .linked n s (n+1) m) : Connects client n s (awaitAuth fromStr client) m := by
  refine idle_holds trivial stage fun arrived m stage => ?_
  cases arrived with
  | none => exact stage.done rfl
  | some arrival =>
    refine ofExcept_holds stage.paced (fun e _ => (stage.done rfl).2) fun text _ => ?_
    refine ofExcept_holds stage.paced (fun e _ => (stage.done rfl).2) fun outcome _ => ?_
    have session {m : LinkMoment} (stage : Stage client .linked n s (n+1) m) :
        Connects client n s ((ask .setConnected).bind fun _ => ask .runSession) m :=
      idle_holds trivial stage fun _ m stage => runSession_connects stage
    cases outcome with
    | authenticated => exact session stage
    | registered nodeId nodeSecret =>
      refine idle_holds trivial stage fun _ m stage => ?_
      by_cases hooked : client.onRegister = true
      · rw [if_pos hooked]
        exact idle_holds trivial stage fun _ m stage => session stage
      · rw [if_neg hooked]
        exact session stage

theorem authenticate_connects (stage : Stage client .linked n s (n+1) m) : Connects client n s (authenticate fromStr client) m := by
  refine idle_holds trivial stage fun credentials m stage => ?_
  refine ofExcept_holds stage.paced (fun e _ => (stage.done rfl).2) fun frame _ => ?_
  refine idle_holds trivial stage fun sent m stage => ?_
  rcases sent with _ | _ | e | _
  · exact stage.done rfl
  · exact stage.done rfl
  · exact stage.done rfl
  · exact awaitAuth_connects stage

theorem oneConnection_connects (stage : Stage client .rested n s n m) :
    Connects client n s (oneConnection fromStr client (client.url n)) m := by
  refine ask_holds stage.paced fun choice => ?_
  change Connects client n s ((Program.ofExcept (choice (.buildTlsConfig _ _))).bind _) _
  cases built : choice (.buildTlsConfig client.cfg.acceptSelfSignedCert client.cfg.certFingerprint) with
  | error e => exact ((stage.undialled choice built (n+1)).done rfl)
  | ok _ =>
    refine ask_holds (stage.passes rfl rfl) fun choice' => ?_
    have configured := @Stage.quiet client m n s n m.1
      (link.event (.buildTlsConfig client.cfg.acceptSelfSignedCert client.cfg.certFingerprint) choice m.1) _ stage rfl rfl rfl rfl
    have dialled := @Stage.dials client _ n s m.1 configured choice'
    rw [link_dialManager]
    cases choice' (.dialManager (client.url n)) with
    | none => exact dialled.done rfl
    | some outcome => exact ofExcept_holds dialled.paced (fun e _ => (dialled.done rfl).2) fun _ _ => authenticate_connects dialled

theorem attemptAfter_streak {attempt : UInt32} (counts : attempt.toNat = s) (result : Except SdkError ConnectionResult) :
    (attemptAfter attempt result).toNat = streakAfter s result := by
  rcases result with e | _ | _ | _
  · exact counts
  · rfl
  · exact counts
  · exact counts

theorem streakAfter_le (s : Nat) (result : Except SdkError ConnectionResult) : streakAfter s result ≤ s := by
  rcases result with e | _ | _ | _
  · exact Nat.le_refl _
  · exact Nat.zero_le _
  · exact Nat.le_refl _
  · exact Nat.le_refl _

theorem nextAttempt_toNat {attempt : UInt32} (few : attempt.toNat < 4294967295) : (nextAttempt attempt).toNat = attempt.toNat+1 := by
  unfold nextAttempt
  split
  next same =>
    rw [same] at few
    exact absurd few (by decide)
  next => rw [UInt32.toNat_add,UInt32.toNat_one,Nat.mod_eq_of_lt (by omega)]

theorem connectLoop_paces (rounds : Nat) {urlCursor : UInt64} {attempt : UInt32} (stage : Stage client .rested n s n m)
    (cursor : urlCursor.toNat = n) (counts : attempt.toNat = s) (within : s ≤ n) (few : n+rounds < 4294967296) :
    Paces client (fun _ _ => True) (connectLoop fromStr client rounds urlCursor attempt) m := by
  induction rounds generalizing urlCursor attempt n s m with
  | zero => exact ⟨stage.paced,trivial⟩
  | succ rounds ih =>
    refine idle_holds trivial stage fun cancelled m stage => ?_
    split
    · exact ⟨stage.paced,trivial⟩
    rw [cursor]
    have connection : Paces client (fun outcome m => ∃ result, outcome = .ok result ∧
        Stage client .linked n (streakAfter s result) (n+1) m) ((oneConnection fromStr client (client.url n)).attempt : Linking _) m := by
      apply Holds.attempt
      exact (oneConnection_connects stage).mono (fun _ now => now) (fun outcome _ _ stage => ⟨outcome,rfl,stage⟩)
    refine Holds.bind _ connection (fun result m _ closed => ?_) (fun _ _ _ _ => trivial)
    obtain ⟨_,same,stage⟩ := closed
    obtain rfl := Except.ok.inj same
    refine ask_holds stage.paced fun choice => ?_
    have stage := @Stage.ends client m n (streakAfter s result) (n+1) (link.exec .setDisconnected choice m.1).2 _ stage choice
    change Paces client _ (if shutDown result = true then _ else _) _
    split
    · exact ⟨stage.paced,trivial⟩
    refine idle_holds trivial stage fun cancelled m stage => ?_
    split
    · exact ⟨stage.paced,trivial⟩
    have within' := Nat.le_trans (streakAfter_le s result) within
    have streak_ := attemptAfter_streak counts result
    have next : (nextAttempt (attemptAfter attempt result)).toNat = streakAfter s result+1 := by
      rw [nextAttempt_toNat (by omega),streak_]
    have pause : Pause client.cfg.reconnectBackoff (streakAfter s result+1)
        (client.cfg.reconnectBackoff.delayForAttempt (nextAttempt (attemptAfter attempt result))) := by
      rw [← next]
      exact delayForAttempt_pause _ (by omega)
    refine ask_holds stage.paced fun choice => ?_
    have paced := stage.paused pause choice
    rw [link_sleep]
    cases through : choice (.sleep (client.cfg.reconnectBackoff.delayForAttempt (nextAttempt (attemptAfter attempt result)))) with
    | none => exact ⟨paced,trivial⟩
    | some _ =>
      have stage := @Stage.pauses client m (n+1) (streakAfter s result+1) (n+1) m.1 stage _ pause choice through
      have wide : urlCursor.toNat + 1 < 18446744073709551616 := by omega
      have step : (urlCursor+1).toNat = n+1 := by
        rw [UInt64.toNat_add,UInt64.toNat_one,Nat.mod_eq_of_lt wide,cursor]
      exact ih stage step next (by omega) (by omega)

end Life

/-- Over any life of a client with fewer than 2^32 connections: every dial goes to the next URL,
every pause is the streak's, and only a clean close sets the streak back. -/
theorem failover_and_backoff (parseUrl : String → Except String Unit) (plaintextWsEnvSet : Bool)
    (fromStr : String → Except String Json) (cfg : GatewayConfig) (onRegister : Bool) (client : LinkClient) (start : Link)
    (built : connect parseUrl plaintextWsEnvSet cfg onRegister = .ok (client,start)) (rounds : Nat)
    (few : rounds < 4294967296) (choices : List LinkChoice) :
    client.cfg = cfg ∧ Paced client (link.record.run choices (connectLoop fromStr client rounds 0 0) (start,[])).2.2 ∧
      (∀ i, ((List.range cfg.managerUrls.length).map fun j => client.url (i+j)).Perm cfg.managerUrls) ∧
      ∀ (log : LinkLog) (event : LinkEvent), streak (log ++ [event]) < streak log → closedCleanly event = true := by
  have same : client.cfg = cfg := by
    unfold connect at built
    split at built
    · cases built
    · cases built
      rfl
  have paced := ((@connectLoop_paces fromStr client _ 0 0 rounds 0 0 (Stage.start client start) rfl rfl (Nat.le_refl 0)
    (by omega)).run choices).1
  refine ⟨same,paced,?_,fun log event => streak_lowered⟩
  subst cfg
  exact client.url_window

namespace Sample

/-- A session lost to an error each time. -/
def losing : LinkChoice
  | .runSession => .authenticatedThenLost .authTimeout
  | operation => answers operation

/-- The pauses of sessions that are lost climb, of sessions that are closed they do not. -/
example : ((link.record.run (List.replicate 40 losing) (connectLoop ack client 3 0 0)
    (⟨startCredentials config,false⟩,[])).2.2.filterMap sleptOf,
    (link.record.run (List.replicate 40 answers) (connectLoop ack client 3 0 0)
    (⟨startCredentials config,false⟩,[])).2.2.filterMap sleptOf) =
      ([Duration.fromSecs 1,Duration.fromSecs 2,Duration.fromSecs 5],
        [Duration.fromSecs 1,Duration.fromSecs 1,Duration.fromSecs 1]) := rfl

/-- A manager that cannot be dialled, before one that closes each session cleanly. -/
def twoManagers : GatewayConfig := {config with managerUrls := ["wss://a.example.com","wss://b.example.com"]}

def twoSided : LinkClient := ⟨twoManagers,true,List.cons_ne_nil _ _⟩

def firstDark : LinkChoice
  | .dialManager "wss://a.example.com" => some (.error (.webSocket "connection refused"))
  | operation => answers operation

def alternating : LinkLog := (link.record.run (List.replicate 60 firstDark) (connectLoop ack twoSided 4 0 0)
  (⟨startCredentials twoManagers,false⟩,[])).2.2

end Sample

theorem sample_failover_and_backoff : Paced Sample.twoSided Sample.alternating ∧
    dials Sample.alternating = ["wss://a.example.com","wss://b.example.com","wss://a.example.com","wss://b.example.com"] ∧
    Sample.alternating.filterMap restedOf = [Duration.fromSecs 1,Duration.fromSecs 1,Duration.fromSecs 2,Duration.fromSecs 1] :=
  ⟨(failover_and_backoff (fun _ => .ok ()) false Sample.ack Sample.twoManagers true Sample.twoSided
    ⟨startCredentials Sample.twoManagers,false⟩ rfl 4 (by decide) (List.replicate 60 Sample.firstDark)).2.1,rfl,rfl⟩

end GatewaySdk.Client
