import GatewaySdk.Client.Families
import GatewaySdk.Client.Tls
import GatewaySdk.Effect.Deadline

/-! The dial: the lookup, the staggered connect and the upgrade, all under one deadline. What
the network does in each stage and when is arbitrary. Instants count from the dial's start. -/
namespace GatewaySdk.Client
open GatewaySdk.Effect

def dialTimeout : Nat := Duration.fromSecs 30

/-- `Duration::as_secs`. -/
def Duration.asSecs (d : Nat) : Nat := d/1000000000

/-- What becomes of one dial outside the client. -/
structure Network (Stream : Type) where
  lookup : String → Nat → Coming (Except String (List SocketAddr))
  connect : Nat → SocketAddr → Outcome Stream
  upgrade : String → Stream → Coming (Except String Unit)

section Connecting
variable {Addr Stream : Type} (connect : Nat → Addr → Outcome Stream) (limit : Nat)

/-- Nothing is ready by the deadline. -/
def DialMoment.Late (m : DialMoment Addr Stream) : Prop :=
  match m.point with
  | .returned _ => False
  | .selecting d => ∀ offer ∈ d.offers, limit < offer.2

instance (m : DialMoment Addr Stream) : Decidable (m.Late limit) := by
  unfold DialMoment.Late
  cases m.point <;> infer_instance

/-- The instant of the turn that takes this branch. -/
def DialMoment.instant (m : DialMoment Addr Stream) (choice : Nat) : Nat :=
  match m.point with
  | .returned _ => 0
  | .selecting d => ((d.offers[choice]?).map Prod.snd).getD 0

/-- The call under its deadline with these choices, from where it is now on: when it is over
and what it then has. -/
def DialMoment.within : List Nat → Nat → DialMoment Addr Stream →
    Option (Nat × Option (Except ConnectError (Connected Addr Stream)))
  | [],now,m =>
    match m.point with
    | .returned result => some (now,some result)
    | .selecting _ => if m.Late limit then some (limit,none) else none
  | choice::choices,_,m =>
    if m.Late limit then none
    else (m.pass connect choice).bind fun next => DialMoment.within choices (m.instant choice) next

/-- The call after the turns that are chosen so, where it is not late before any of them. -/
def DialMoment.turned : List Nat → DialMoment Addr Stream → Option (DialMoment Addr Stream)
  | [],m => some m
  | choice::choices,m => if m.Late limit then none else (m.pass connect choice).bind (DialMoment.turned choices)

end Connecting

section Stages
variable {Stream : Type} (net : Network Stream) (url host : String)

def upgradeStage (stream : Stream) (now : Nat) : Nat × Except SdkError Stream :=
  match timeoutAt dialTimeout now (net.upgrade url stream) with
  | (now,some (.ok ())) => (now,.ok stream)
  | (now,some (.error e)) => (now,.error (.webSocket ("TLS/WebSocket upgrade with " ++ host ++ " failed: " ++ e)))
  | (now,none) => (now,.error (.webSocket
      ("TLS/WebSocket upgrade with " ++ host ++ " timed out after " ++ toString (Duration.asSecs dialTimeout) ++ "s")))

/-- What follows the connecting stage, which came to this so long after it began. -/
def afterConnect (count began : Nat) : Nat × Option (Except ConnectError (Connected SocketAddr Stream)) →
    Nat × Except SdkError Stream
  | (took,some (.ok connected)) => upgradeStage net url host connected.stream (began+took)
  | (took,some (.error e)) => (began+took,.error (.webSocket
      ("TCP connect to " ++ host ++ " (" ++ toString count ++ " addresses) failed: " ++ e.text)))
  | (took,none) => (began+took,.error (.webSocket ("TCP connect to " ++ host ++ " timed out")))

def connectStage (choices : List Nat) (addrs : List SocketAddr) (now : Nat) : Option (Nat × Except SdkError Stream) :=
  (DialMoment.within net.connect (dialTimeout-now) choices 0
    (connectStaggered net.connect (interleaveFamilies addrs))).map (afterConnect net url host addrs.length now)

def lookupStage (port : Nat) (choices : List Nat) : Option (Nat × Except SdkError Stream) :=
  match timeoutAt dialTimeout 0 (net.lookup host port) with
  | (now,some (.ok addrs)) => connectStage net url host choices addrs now
  | (now,some (.error e)) => some (now,.error (.webSocket ("manager DNS lookup for " ++ host ++ " failed: " ++ e)))
  | (now,none) => some (now,.error (.webSocket
      ("manager DNS lookup for " ++ host ++ " timed out after " ++ toString (Duration.asSecs dialTimeout) ++ "s")))

end Stages

/-- A dial: how long it took and what came of it, where these are the choices of its selects. -/
def dialManager {Stream : Type} (parse : String → Except String ManagerUrl) (net : Network Stream) (choices : List Nat)
    (url : String) : Option (Nat × Except SdkError Stream) :=
  match managerHostPort parse url with
  | .error e => some (0,.error e)
  | .ok (host,port) => lookupStage net url host port choices

section Turns
variable {Addr Stream : Type} {connect : Nat → Addr → Outcome Stream} {addrs : List Addr} {limit now : Nat}
  {choices : List Nat} {m : DialMoment Addr Stream}
  {ended : Nat × Option (Except ConnectError (Connected Addr Stream))}

theorem late_iff {d : Dialing Addr Stream} (here : m.point = .selecting d) :
    m.Late limit ↔ ∀ offer ∈ d.offers, limit < offer.2 := by
  unfold DialMoment.Late
  rw [here]

theorem pass_instant {choice : Nat} {m' : DialMoment Addr Stream} (passed : m.pass connect choice = some m') :
    ∃ d ready, m.point = .selecting d ∧ (ready,m.instant choice) ∈ d.offers ∧
      (∀ other ∈ d.offers, m.instant choice ≤ other.2) ∧
      m' = d.takes connect ready (m.instant choice) m.starts m.taken := by
  unfold DialMoment.pass at passed
  split at passed
  · cases passed
  next d here =>
    obtain ⟨offer,found,passed⟩ := Option.bind_eq_some_iff.mp passed
    have instant : m.instant choice = offer.2 := by
      rw [DialMoment.instant,here]
      dsimp only
      rw [found]
      rfl
    rw [instant]
    split at passed
    next first => exact ⟨d,offer.1,here,List.mem_of_getElem? found,first,(Option.some.inj passed).symm⟩
    next => cases passed

/-- What each turn under the deadline keeps, and what it then is at the end of the call. -/
theorem within_run (inv : Nat → DialMoment Addr Stream → Prop)
    (post : Nat × Option (Except ConnectError (Connected Addr Stream)) → Prop)
    (turn : ∀ now choice m m', inv now m → ¬ m.Late limit → m.pass connect choice = some m' → inv (m.instant choice) m')
    (returned : ∀ now m result, inv now m → m.point = .returned result → post (now,some result))
    (late : ∀ now m, inv now m → m.Late limit → post (limit,none))
    (start : inv now m) (ran : m.within connect limit choices now = some ended) : post ended := by
  induction choices generalizing now m with
  | nil =>
    unfold DialMoment.within at ran
    split at ran
    next result here =>
      obtain rfl := Option.some.inj ran
      exact returned now m result start here
    next here =>
      split at ran
      next tooLate =>
        obtain rfl := Option.some.inj ran
        exact late now m start tooLate
      · cases ran
  | cons choice choices ih =>
    unfold DialMoment.within at ran
    split at ran
    · cases ran
    next inTime =>
      obtain ⟨next,passed,ran⟩ := Option.bind_eq_some_iff.mp ran
      exact ih (turn now choice m next start inTime passed) ran

/-- The choices of every call can be completed, from wherever it is. -/
theorem within_completes (limit now : Nat) (m : DialMoment Addr Stream) :
    ∃ choices ended, m.within connect limit choices now = some ended := by
  induction size : m.left using Nat.strongRecOn generalizing m now with
  | ind n ih =>
    cases here : m.point with
    | returned result => exact ⟨[],(now,some result),by rw [DialMoment.within,here]⟩
    | selecting d =>
      by_cases tooLate : m.Late limit
      · refine ⟨[],(limit,none),?_⟩
        rw [DialMoment.within,here]
        dsimp only
        rw [if_pos tooLate]
      · have offered : d.offers ≠ [] := by
          intro none_
          rw [late_iff here,none_] at tooLate
          exact tooLate (List.forall_mem_nil _)
        obtain ⟨choice,next,passed⟩ := @pass_of_offer _ _ connect _ _ here offered
        obtain ⟨choices,ended,ran⟩ := ih next.left (size ▸ pass_left passed) (m.instant choice) next rfl
        refine ⟨choice::choices,ended,?_⟩
        rw [DialMoment.within,if_neg tooLate,passed,Option.bind_some,ran]

/-- No call takes more turns than are left to it. -/
theorem turned_left {m' : DialMoment Addr Stream} (turned : m.turned connect limit choices = some m') :
    choices.length+m'.left ≤ m.left := by
  induction choices generalizing m with
  | nil =>
    obtain rfl := Option.some.inj turned
    exact Nat.le_of_eq (Nat.zero_add _)
  | cons choice choices ih =>
    unfold DialMoment.turned at turned
    split at turned
    · cases turned
    · obtain ⟨next,passed,rest⟩ := Option.bind_eq_some_iff.mp turned
      have rest := ih rest
      have now := pass_left passed
      rw [List.length_cons]
      omega

/-- After any turns the call goes on from where they have brought it. -/
theorem within_turned {m' : DialMoment Addr Stream} (turned : m.turned connect limit choices = some m') (now : Nat) :
    ∃ later, ∀ more, m.within connect limit (choices ++ more) now = m'.within connect limit more later := by
  induction choices generalizing m now with
  | nil =>
    obtain rfl := Option.some.inj turned
    exact ⟨now,fun _ => rfl⟩
  | cons choice choices ih =>
    unfold DialMoment.turned at turned
    split at turned
    · cases turned
    next inTime =>
      obtain ⟨next,passed,rest⟩ := Option.bind_eq_some_iff.mp turned
      obtain ⟨later,same⟩ := ih rest (m.instant choice)
      refine ⟨later,fun more => ?_⟩
      rw [List.cons_append,DialMoment.within,if_neg inTime,passed,Option.bind_some]
      exact same more

/-- Where something is ready in time, the turn that is taken comes in time. -/
theorem instant_le {bound choice : Nat} {m' : DialMoment Addr Stream} (passed : m.pass connect choice = some m')
    (soon : ∃ d offer, m.point = .selecting d ∧ offer ∈ d.offers ∧ offer.2 ≤ bound) : m.instant choice ≤ bound := by
  obtain ⟨d,ready,here,_,first,_⟩ := pass_instant passed
  obtain ⟨d',offer,here',offered,early⟩ := soon
  obtain rfl : d = d' := DialPoint.selecting.inj (here.symm.trans here')
  exact Nat.le_trans (first offer offered) early

theorem soon_of_not_late (inTime : ¬ m.Late limit) {choice : Nat} {m' : DialMoment Addr Stream}
    (passed : m.pass connect choice = some m') :
    ∃ d offer, m.point = .selecting d ∧ offer ∈ d.offers ∧ offer.2 ≤ limit := by
  obtain ⟨d,_,here,_⟩ := pass_instant passed
  rw [late_iff here] at inTime
  simp only [not_forall,Nat.not_lt] at inTime
  obtain ⟨offer,offered,early⟩ := inTime
  exact ⟨d,offer,here,offered,early⟩

def Timed (now : Nat) (m : DialMoment Addr Stream) : Prop := ∀ d, m.point = .selecting d → d.now = now

theorem top_timed (d : Dialing Addr Stream) (starts : List (Addr × Nat)) (taken : List (Nat × ConnectError)) :
    Timed d.now (d.top connect starts taken) := by
  have same : (d.startNext connect).now = d.now := by
    unfold Dialing.startNext
    split <;> rfl
  intro d' here
  unfold Dialing.top at here
  dsimp only at here
  split at here
  · cases here
  · exact DialPoint.selecting.inj here ▸ same

theorem pass_timed {choice : Nat} {m' : DialMoment Addr Stream} (passed : m.pass connect choice = some m') :
    Timed (m.instant choice) m' := by
  obtain ⟨d,ready,_,offered,_,rfl⟩ := pass_instant passed
  rcases mem_offers.mp offered with ⟨attempt,_,due,rfl⟩ | ⟨_,rfl,_⟩
  · cases comes : attempt.outcome with
    | succeeds after stream =>
      simp only [Dialing.takes,comes]
      intro d' here
      cases here
    | fails after error =>
      simp only [Dialing.takes,comes]
      exact top_timed _ _ _
    | silent => simp [Attempt.due,comes,Outcome.after] at due
  · exact top_timed _ _ _

/-- The call is in time for its `k`-th address, which connects so long after it is tried. -/
structure InTime (connect : Nat → Addr → Outcome Stream) (addrs : List Addr) (k after : Nat) (now : Nat)
    (m : DialMoment Addr Stream) : Prop where
  kept : Kept connect addrs m
  timed : Timed now m
  soon : now ≤ k*connectAttemptDelay+after

variable {k after : Nat} {addr : Addr} {stream : Stream}

/-- Until that address connects, something is ready by the time it would. -/
theorem InTime.ready (inTime : InTime connect addrs k after now m) (found : addrs[k]? = some addr)
    (connects : connect k addr = .succeeds after stream) {d : Dialing Addr Stream} (here : m.point = .selecting d) :
    ∃ offer ∈ d.offers, offer.2 ≤ k*connectAttemptDelay+after := by
  have placed := inTime.kept.placed
  rw [here] at placed
  obtain ⟨tracks,_,last⟩ := placed
  have steps := inTime.kept.steps
  by_cases begun : k < m.starts.length
  · have started : m.starts[k]? = some (m.starts.get ⟨k,begun⟩) := List.getElem?_eq_getElem begun
    obtain ⟨rest,order⟩ := steps.order
    have same : (m.starts.get ⟨k,begun⟩).1 = addr := by
      rw [← order,List.getElem?_append_left (by simpa using begun),List.getElem?_map,started] at found
      exact Option.some.inj found
    have held : ⟨k,addr,(m.starts.get ⟨k,begun⟩).2,connect k addr⟩ ∈ d.attempts := by
      rw [tracks.attempts]
      refine mem_pending.mpr ⟨?_,rfl,fun failure member index => ?_⟩
      · rw [started,← same]
      · obtain ⟨addr',began,after',found',fails⟩ := steps.failed failure member
        rw [index,started] at found'
        have other : addr = addr' := same.symm.trans (congrArg Prod.fst (Option.some.inj found'))
        rw [index,← other,connects] at fails
        cases fails
    refine ⟨(.attempt ⟨k,addr,(m.starts.get ⟨k,begun⟩).2,connect k addr⟩,max d.now ((m.starts.get ⟨k,begun⟩).2+after)),
      mem_offers.mpr (.inl ⟨_,held,?_,rfl⟩),?_⟩
    · simp [Attempt.due,connects,Outcome.after]
    · have early := steps.time_le k _ started
      have clock := inTime.timed d here
      have soon := inTime.soon
      dsimp only
      omega
  · have due : m.starts.length ≤ k := Nat.le_of_not_lt begun
    have left : d.waiting ≠ [] := by
      intro none_
      have whole := tracks.rest
      rw [none_,List.append_nil] at whole
      have bound := (List.getElem?_eq_some_iff.mp found).1
      rw [← whole,List.length_map] at bound
      exact begun bound
    obtain ⟨start,final,now_⟩ := Option.map_eq_some_iff.mp (last left)
    rw [List.getLast?_eq_getElem?] at final
    have some_ : 0 < m.starts.length := Nat.pos_of_ne_zero fun none_ => by simp [none_] at final
    have early := steps.time_le _ _ final
    refine ⟨(.stagger,d.now+connectAttemptDelay),mem_offers.mpr (.inr ⟨left,rfl,rfl⟩),?_⟩
    have next : (m.starts.length-1)*connectAttemptDelay+connectAttemptDelay = m.starts.length*connectAttemptDelay := by
      rw [← Nat.succ_mul,Nat.succ_eq_add_one,Nat.sub_add_cancel some_]
    have all := Nat.mul_le_mul_right connectAttemptDelay due
    dsimp only
    omega

/-- An address that connects is reached by the time the staggers before it allow, whatever comes
of the other addresses. -/
theorem within_connects (found : addrs[k]? = some addr) (connects : connect k addr = .succeeds after stream)
    (enough : k*connectAttemptDelay+after ≤ limit)
    (ran : (connectStaggered connect addrs).within connect limit choices 0 = some ended) :
    ∃ connected, ended.2 = some (.ok connected) ∧ ended.1 ≤ k*connectAttemptDelay+after := by
  have start : InTime connect addrs k after 0 (connectStaggered connect addrs) :=
    ⟨start_kept,top_timed _ _ _,Nat.zero_le _⟩
  apply within_run (InTime connect addrs k after)
    (fun ended => ∃ connected, ended.2 = some (.ok connected) ∧ ended.1 ≤ k*connectAttemptDelay+after) _ _ _ start ran
  · intro now choice m m' inTime _ passed
    refine ⟨pass_kept inTime.kept passed,pass_timed passed,instant_le passed ?_⟩
    obtain ⟨d,_,here,_⟩ := pass_instant passed
    obtain ⟨offer,offered,early⟩ := inTime.ready found connects here
    exact ⟨d,offer,here,offered,early⟩
  · intro now m result inTime here
    cases result with
    | ok connected => exact ⟨connected,rfl,inTime.soon⟩
    | error error =>
      have placed := inTime.kept.placed
      rw [here] at placed
      obtain ⟨whole,none_,_⟩ := placed
      have bound := (List.getElem?_eq_some_iff.mp found).1
      rw [← whole,List.length_map] at bound
      obtain ⟨error,taken⟩ := pending_nil.mp none_ k bound
      obtain ⟨addr',began,after',started,fails⟩ := inTime.kept.steps.failed _ taken
      rw [← whole,List.getElem?_map,started] at found
      obtain rfl := Option.some.inj found
      rw [connects] at fails
      cases fails
  · intro now m inTime tooLate
    cases here : m.point with
    | returned result => simp [DialMoment.Late,here] at tooLate
    | selecting d =>
      obtain ⟨offer,offered,early⟩ := inTime.ready found connects here
      exact absurd ((late_iff here).mp tooLate offer offered) (by omega)

/-- An attempt that connected in time, on the stream the call returns. -/
def Reached (connect : Nat → Addr → Outcome Stream) (addrs : List Addr) (now : Nat) (connected : Connected Addr Stream) : Prop :=
  ∃ seq began after, addrs[seq]? = some connected.addr ∧ began ≤ seq*connectAttemptDelay ∧
    connect seq connected.addr = .succeeds after connected.stream ∧ began+after ≤ now

theorem pass_reached {choice : Nat} {m' : DialMoment Addr Stream} {connected : Connected Addr Stream}
    (kept : Kept connect addrs m) (passed : m.pass connect choice = some m') (here : m'.point = .returned (.ok connected)) :
    Reached connect addrs (m.instant choice) connected := by
  obtain ⟨d,ready,selecting,offered,_,rfl⟩ := pass_instant passed
  have placed := kept.placed
  rw [selecting] at placed
  obtain ⟨tracks,_,_⟩ := placed
  rcases mem_offers.mp offered with ⟨attempt,member,due,rfl⟩ | ⟨_,rfl,_⟩
  · cases comes : attempt.outcome with
    | succeeds after stream =>
      simp only [Dialing.takes,comes] at here
      cases here
      rw [tracks.attempts] at member
      obtain ⟨started,outcome,_⟩ := mem_pending.mp member
      obtain ⟨rest,order⟩ := kept.steps.order
      have bound := (List.getElem?_eq_some_iff.mp started).1
      refine ⟨attempt.seq,attempt.began,after,?_,kept.steps.time_le _ _ started,outcome ▸ comes,?_⟩
      · rw [← order,List.getElem?_append_left (by simpa using bound),List.getElem?_map,started]
        rfl
      · simp only [Attempt.due,comes,Outcome.after,Option.map_some,Option.some.injEq] at due
        exact due ▸ Nat.le_max_right _ _
    | fails after error =>
      simp only [Dialing.takes,comes,Dialing.top] at here
      split at here <;> cases here
    | silent => simp [Attempt.due,comes,Outcome.after] at due
  · simp only [Dialing.takes,Dialing.top] at here
    split at here <;> cases here

/-- What the connecting stage is when it is over. -/
structure ConnectEnd (connect : Nat → Addr → Outcome Stream) (addrs : List Addr) (limit : Nat)
    (ended : Nat × Option (Except ConnectError (Connected Addr Stream))) : Prop where
  bound : ended.1 ≤ limit
  ok : ∀ connected, ended.2 = some (.ok connected) → Reached connect addrs ended.1 connected
  error : ∀ e, ended.2 = some (.error e) → (addrs = [] ∧ e = noAddresses ∨
    ∃ seq addr after, addrs[seq]? = some addr ∧ connect seq addr = .fails after e) ∧
    ∀ seq addr, addrs[seq]? = some addr → ∃ after e, connect seq addr = .fails after e
  late : ended.2 = none → ended.1 = limit

theorem returned_error {e : ConnectError} (kept : Kept connect addrs m) (here : m.point = .returned (.error e)) :
    (addrs = [] ∧ e = noAddresses ∨ ∃ seq addr after, addrs[seq]? = some addr ∧ connect seq addr = .fails after e) ∧
      ∀ seq addr, addrs[seq]? = some addr → ∃ after e, connect seq addr = .fails after e := by
  have placed := kept.placed
  rw [here] at placed
  obtain ⟨whole,none_,same⟩ := placed
  have fails (failure : Nat × ConnectError) (member : failure ∈ m.taken) :
      ∃ addr after, addrs[failure.1]? = some addr ∧ connect failure.1 addr = .fails after failure.2 := by
    obtain ⟨addr,began,after,started,comes⟩ := kept.steps.failed failure member
    refine ⟨addr,after,?_,comes⟩
    rw [← whole,List.getElem?_map,started]
    rfl
  constructor
  · cases final : m.taken.getLast? with
    | none =>
      rw [final] at same
      refine .inl ⟨?_,same⟩
      have nothing : m.taken = [] := List.getLast?_eq_none_iff.mp final
      rw [← whole,List.map_eq_nil_iff]
      by_contra some_
      obtain ⟨error,taken⟩ := pending_nil.mp none_ 0 (List.length_pos_iff.mpr some_)
      rw [nothing] at taken
      cases taken
    | some failure =>
      rw [final] at same
      obtain ⟨addr,after,found,comes⟩ := fails failure (List.mem_of_getLast? final)
      exact .inr ⟨failure.1,addr,after,found,same ▸ comes⟩
  · intro seq addr found
    have bound := (List.getElem?_eq_some_iff.mp found).1
    rw [← whole,List.length_map] at bound
    obtain ⟨error,taken⟩ := pending_nil.mp none_ seq bound
    obtain ⟨addr',after,found',comes⟩ := fails _ taken
    obtain rfl := Option.some.inj (found.symm.trans found')
    exact ⟨after,error,comes⟩

theorem within_ends (ran : (connectStaggered connect addrs).within connect limit choices 0 = some ended) :
    ConnectEnd connect addrs limit ended := by
  apply within_run (fun now m => now ≤ limit ∧ Kept connect addrs m ∧
    ∀ connected, m.point = .returned (.ok connected) → Reached connect addrs now connected) _ _ _ _ _ ran
  · rintro now choice m m' ⟨_,kept,_⟩ inTime passed
    exact ⟨instant_le passed (soon_of_not_late inTime passed),pass_kept kept passed,
      fun connected here => pass_reached kept passed here⟩
  · rintro now m result ⟨bound,kept,reached⟩ here
    refine ⟨bound,fun connected same => ?_,fun e same => ?_,nofun⟩
    · exact reached connected (here.trans (congrArg DialPoint.returned (Option.some.inj same)))
    · exact returned_error kept (here.trans (congrArg DialPoint.returned (Option.some.inj same)))
  · exact fun now m _ _ => ⟨Nat.le_refl _,nofun,nofun,fun _ => rfl⟩
  · refine ⟨Nat.zero_le _,start_kept,fun connected here => ?_⟩
    unfold connectStaggered Dialing.top at here
    dsimp only at here
    split at here <;> cases here

end Turns

section Ends
variable {Stream : Type} (parse : String → Except String ManagerUrl) (net : Network Stream) (url : String)

/-- The name is resolved to these addresses, so long into the dial. -/
def Resolved (host : String) (addrs : List SocketAddr) (looked : Nat) : Prop :=
  ∃ port, managerHostPort parse url = .ok (host,port) ∧ net.lookup host port = some (looked,.ok addrs)

/-- A dial that came through: every stage of it, one after the other. -/
def Dialled (took : Nat) (stream : Stream) : Prop :=
  ∃ host addrs looked addr abandoned connecting upgraded, Resolved parse net url host addrs looked ∧ addr ∈ addrs ∧
    Reached net.connect (interleaveFamilies addrs) connecting ⟨stream,addr,abandoned⟩ ∧
    net.upgrade url stream = some (upgraded,.ok ()) ∧ took = looked+connecting+upgraded

/-- Picks of the selects so far, each a branch that was ready first, by the deadline. -/
inductive Picked : List Nat → Prop
  | none : Picked []
  | turns {host : String} {addrs : List SocketAddr} {looked : Nat} {choices : List Nat} {m : DialMoment SocketAddr Stream}
    (resolved : Resolved parse net url host addrs looked) (soon : looked ≤ dialTimeout)
    (turned : (connectStaggered net.connect (interleaveFamilies addrs)).turned net.connect (dialTimeout-looked) choices =
      some m) : Picked choices

/-- A stage that failed, and the error that names it. -/
inductive StageFailed : SdkError → Prop
  | url (e : SdkError) (bad : managerHostPort parse url = .error e) : StageFailed e
  | lookup (host : String) (port after : Nat) (e : String) (target : managerHostPort parse url = .ok (host,port))
    (failed : net.lookup host port = some (after,.error e)) :
    StageFailed (.webSocket ("manager DNS lookup for " ++ host ++ " failed: " ++ e))
  | connect (host : String) (addrs : List SocketAddr) (looked : Nat) (e : ConnectError)
    (resolved : Resolved parse net url host addrs looked)
    (all : ∀ seq addr, (interleaveFamilies addrs)[seq]? = some addr → ∃ after e, net.connect seq addr = .fails after e)
    (named : addrs = [] ∧ e = noAddresses ∨
      ∃ seq addr after, (interleaveFamilies addrs)[seq]? = some addr ∧ net.connect seq addr = .fails after e) :
    StageFailed (.webSocket ("TCP connect to " ++ host ++ " (" ++ toString addrs.length ++ " addresses) failed: " ++ e.text))
  | upgrade (host : String) (addrs : List SocketAddr) (looked after : Nat) (stream : Stream) (e : String)
    (resolved : Resolved parse net url host addrs looked) (failed : net.upgrade url stream = some (after,.error e)) :
    StageFailed (.webSocket ("TLS/WebSocket upgrade with " ++ host ++ " failed: " ++ e))

/-- A stage that would not have been over by the deadline, and the error that names it. -/
inductive StageLate : SdkError → Prop
  | lookup (host : String) (port : Nat) (target : managerHostPort parse url = .ok (host,port))
    (late : ∀ after reply, net.lookup host port = some (after,reply) → dialTimeout < after) :
    StageLate (.webSocket
      ("manager DNS lookup for " ++ host ++ " timed out after " ++ toString (Duration.asSecs dialTimeout) ++ "s"))
  | connect (host : String) (addrs : List SocketAddr) (looked : Nat) (resolved : Resolved parse net url host addrs looked)
    (late : ∀ seq addr after stream, (interleaveFamilies addrs)[seq]? = some addr →
      net.connect seq addr = .succeeds after stream → dialTimeout < looked+seq*connectAttemptDelay+after) :
    StageLate (.webSocket ("TCP connect to " ++ host ++ " timed out"))
  | upgrade (host : String) (addrs : List SocketAddr) (looked connecting : Nat) (connected : Connected SocketAddr Stream)
    (resolved : Resolved parse net url host addrs looked)
    (reached : Reached net.connect (interleaveFamilies addrs) connecting connected)
    (late : ∀ after reply, net.upgrade url connected.stream = some (after,reply) → dialTimeout < looked+connecting+after) :
    StageLate (.webSocket
      ("TLS/WebSocket upgrade with " ++ host ++ " timed out after " ++ toString (Duration.asSecs dialTimeout) ++ "s"))

/-- What a dial is when it is over: through, failed at a stage, or late in one. -/
structure DialEnd (took : Nat) (result : Except SdkError Stream) : Prop where
  bound : took ≤ dialTimeout
  ok : ∀ stream, result = .ok stream → Dialled parse net url took stream
  error : ∀ e, result = .error e → StageFailed parse net url e ∨ took = dialTimeout ∧ StageLate parse net url e

variable {parse} {net} {url} {host : String} {addrs : List SocketAddr} {looked : Nat}

theorem resolved_time {port : Nat} {now : Nat} (came : timeoutAt dialTimeout 0 (net.lookup host port) = (now,some (.ok addrs))) :
    net.lookup host port = some (now,.ok addrs) ∧ now ≤ dialTimeout := by
  have bounds := timeoutAt_le (Nat.zero_le dialTimeout) (net.lookup host port)
  have value := congrArg Prod.snd came
  obtain ⟨takes,found,_,instant⟩ := (timeoutAt_some (Nat.zero_le dialTimeout)).mp value
  rw [came,Nat.zero_add] at instant
  rw [came] at bounds
  obtain rfl : now = takes := instant
  exact ⟨found,bounds.2⟩

theorem upgradeStage_ends {connecting : Nat} {connected : Connected SocketAddr Stream}
    (resolved : Resolved parse net url host addrs looked)
    (reached : Reached net.connect (interleaveFamilies addrs) connecting connected) (soon : looked+connecting ≤ dialTimeout) :
    DialEnd parse net url (upgradeStage net url host connected.stream (looked+connecting)).1
      (upgradeStage net url host connected.stream (looked+connecting)).2 := by
  have bounds := timeoutAt_le soon (net.upgrade url connected.stream)
  unfold upgradeStage
  split
  next now same =>
    obtain ⟨takes,found,_,instant⟩ := (timeoutAt_some soon).mp (congrArg Prod.snd same)
    rw [same] at bounds instant
    refine ⟨bounds.2,fun stream ok => ?_,nofun⟩
    cases ok
    obtain ⟨seq,began,after,member,early,comes,due⟩ := reached
    refine ⟨host,addrs,looked,connected.addr,[],connecting,takes,resolved,?_,⟨seq,began,after,member,early,comes,due⟩,found,instant⟩
    exact (interleaveFamilies_interleaved addrs).perm.mem_iff.mp (List.mem_of_getElem? member)
  next now e same =>
    obtain ⟨takes,found,_⟩ := (timeoutAt_some soon).mp (congrArg Prod.snd same)
    rw [same] at bounds
    refine ⟨bounds.2,nofun,fun e' error => .inl ?_⟩
    cases error
    exact .upgrade host addrs looked takes connected.stream e resolved found
  next now same =>
    obtain ⟨instant,late⟩ := (timeoutAt_none soon).mp (congrArg Prod.snd same)
    rw [same] at bounds instant
    refine ⟨bounds.2,nofun,fun e' error => .inr ⟨instant,?_⟩⟩
    cases error
    exact .upgrade host addrs looked connecting connected resolved reached late

theorem connectStage_ends {choices : List Nat} {ended : Nat × Except SdkError Stream}
    (resolved : Resolved parse net url host addrs looked) (soon : looked ≤ dialTimeout)
    (ran : connectStage net url host choices addrs looked = some ended) : DialEnd parse net url ended.1 ended.2 := by
  obtain ⟨connecting,within_,rfl⟩ := Option.map_eq_some_iff.mp ran
  have ends := within_ends within_
  obtain ⟨took,outcome⟩ := connecting
  have bound : looked+took ≤ dialTimeout := by
    have bound := ends.bound
    dsimp only at bound
    omega
  match outcome with
  | some (.ok connected) => exact upgradeStage_ends resolved (ends.ok connected rfl) bound
  | some (.error e) =>
    obtain ⟨named,all⟩ := ends.error e rfl
    refine ⟨bound,nofun,fun e' error => .inl ?_⟩
    cases error
    refine .connect host addrs looked e resolved all ?_
    rcases named with ⟨none_,same⟩ | some_
    · refine .inl ⟨?_,same⟩
      have perm := (interleaveFamilies_interleaved addrs).perm
      rw [none_] at perm
      exact perm.symm.eq_nil
    · exact .inr some_
  | none =>
    have instant := ends.late rfl
    dsimp only at instant
    refine ⟨bound,nofun,fun e' error => .inr ⟨?_,?_⟩⟩
    · change looked+took = dialTimeout
      omega
    · cases error
      refine .connect host addrs looked resolved fun seq addr after stream found connects => ?_
      by_contra early
      obtain ⟨connected,came,_⟩ := within_connects found connects (by omega) within_
      cases came

theorem dialManager_resolved (resolved : Resolved parse net url host addrs looked) (soon : looked ≤ dialTimeout)
    (choices : List Nat) : dialManager parse net choices url = connectStage net url host choices addrs looked := by
  obtain ⟨port,target,found⟩ := resolved
  have inTime : timeoutAt dialTimeout 0 (net.lookup host port) = (looked,some (.ok addrs)) := by
    rw [found,timeoutAt_came (by omega),Nat.zero_add]
  simp only [dialManager,target,lookupStage,inTime]

/-- Once the addresses are known any turns of the connecting stage go on to an end, and they are at most two an address. -/
theorem turns_complete {choices : List Nat} {m : DialMoment SocketAddr Stream}
    (resolved : Resolved parse net url host addrs looked) (soon : looked ≤ dialTimeout)
    (turned : (connectStaggered net.connect (interleaveFamilies addrs)).turned net.connect (dialTimeout-looked) choices =
      some m) :
    choices.length ≤ 2*addrs.length ∧ ∃ more ended, dialManager parse net (choices ++ more) url = some ended := by
  constructor
  · have turns := turned_left turned
    have start := @top_left _ _ net.connect ⟨0,interleaveFamilies addrs,[],[],0,none⟩ [] []
    have all := (interleaveFamilies_interleaved addrs).perm.length_eq
    simp only [List.length_nil,Nat.add_zero,all] at start
    have first : (connectStaggered net.connect (interleaveFamilies addrs)).left ≤ 2*addrs.length :=
      Nat.le_of_add_right_le start
    omega
  · obtain ⟨later,same⟩ := within_turned turned 0
    obtain ⟨more,ended,ran⟩ := @within_completes _ _ net.connect (dialTimeout-looked) later m
    refine ⟨more,afterConnect net url host addrs.length looked ended,?_⟩
    rw [dialManager_resolved resolved soon,connectStage,same more,ran,Option.map_some]

/-- What has been picked can be gone on with to an end of the dial. -/
theorem picked_completes {choices : List Nat} (picked : Picked parse net url choices) :
    ∃ more ended, dialManager parse net (choices ++ more) url = some ended := by
  cases picked with
  | turns resolved soon turned => exact (turns_complete resolved soon turned).2
  | none =>
    cases target : managerHostPort parse url with
    | error e => exact ⟨[],_,by simp only [dialManager,target]; rfl⟩
    | ok place =>
      obtain ⟨host,port⟩ := place
      cases came : timeoutAt dialTimeout 0 (net.lookup host port) with
      | mk now reply =>
        cases reply with
        | none => exact ⟨[],_,by simp only [dialManager,target,lookupStage,came]; rfl⟩
        | some answer =>
          cases answer with
          | error e => exact ⟨[],_,by simp only [dialManager,target,lookupStage,came]; rfl⟩
          | ok addrs =>
            obtain ⟨found,soon⟩ := resolved_time came
            exact (@turns_complete _ parse net url host addrs now [] _ ⟨port,target,found⟩ soon rfl).2

theorem dialManager_ends {choices : List Nat} {took : Nat} {result : Except SdkError Stream}
    (ran : dialManager parse net choices url = some (took,result)) : DialEnd parse net url took result := by
  unfold dialManager at ran
  split at ran
  next e bad =>
    cases ran
    refine ⟨Nat.zero_le _,nofun,fun e' error => .inl ?_⟩
    cases error
    exact .url e bad
  next host port target =>
    unfold lookupStage at ran
    have bounds := timeoutAt_le (Nat.zero_le dialTimeout) (net.lookup host port)
    split at ran
    next now addrs came =>
      obtain ⟨found,soon⟩ := resolved_time came
      exact connectStage_ends ⟨port,target,found⟩ soon ran
    next now e came =>
      cases ran
      obtain ⟨takes,found,_⟩ := (timeoutAt_some (Nat.zero_le dialTimeout)).mp (congrArg Prod.snd came)
      rw [came] at bounds
      refine ⟨bounds.2,nofun,fun e' error => .inl ?_⟩
      cases error
      exact .lookup host port takes e target found
    next now came =>
      cases ran
      obtain ⟨instant,late⟩ := (timeoutAt_none (Nat.zero_le dialTimeout)).mp (congrArg Prod.snd came)
      rw [came] at bounds instant
      refine ⟨bounds.2,nofun,fun e' error => .inr ⟨instant,?_⟩⟩
      cases error
      refine .lookup host port target fun after reply comes => ?_
      have over_ := late after reply comes
      omega

/-- However the network behaves and whatever is picked, a dial is over within its 30 seconds: through every stage, or
with an error that names the stage that failed or that the deadline cut off. No picks go on for ever. -/
theorem dial_ends (parse : String → Except String ManagerUrl) (net : Network Stream) (url : String) :
    (∀ choices, Picked parse net url choices →
      (∀ host addrs looked, Resolved parse net url host addrs looked → choices.length ≤ 2*addrs.length) ∧
      ∃ more ended, dialManager parse net (choices ++ more) url = some ended) ∧
    ∀ choices took result, dialManager parse net choices url = some (took,result) → DialEnd parse net url took result := by
  refine ⟨fun choices picked => ⟨fun host addrs looked resolved => ?_,picked_completes picked⟩,
    fun choices took result ran => dialManager_ends ran⟩
  cases picked with
  | none => exact Nat.zero_le _
  | turns own soon turned =>
    have bound := (turns_complete own soon turned).1
    obtain ⟨port,target,found⟩ := own
    obtain ⟨port',target',found'⟩ := resolved
    cases target.symm.trans target'
    cases found.symm.trans found'
    exact bound

/-- A dial comes through when one address of the host connects and what connects can be
upgraded, by the time that the lookup, the staggers before that address, its own connect and
the upgrade add up to; the addresses before it may do what they like, and so may the picks. -/
theorem dial_comes_through {port k after upgrading : Nat} {addr : SocketAddr} {stream : Stream}
    (target : managerHostPort parse url = .ok (host,port))
    (resolves : net.lookup host port = some (looked,.ok addrs)) (found : (interleaveFamilies addrs)[k]? = some addr)
    (connects : net.connect k addr = .succeeds after stream)
    (upgrades : ∀ seq addr after stream, net.connect seq addr = .succeeds after stream →
      ∃ takes ≤ upgrading, net.upgrade url stream = some (takes,.ok ()))
    (enough : looked+k*connectAttemptDelay+after+upgrading ≤ dialTimeout) :
    (∀ choices, Picked parse net url choices → choices.length ≤ 2*addrs.length ∧ ∃ more took stream,
      dialManager parse net (choices ++ more) url = some (took,.ok stream)) ∧
    ∀ choices took result, dialManager parse net choices url = some (took,result) →
      ∃ stream, result = .ok stream ∧ took ≤ looked+k*connectAttemptDelay+after+upgrading := by
  have resolved : Resolved parse net url host addrs looked := ⟨port,target,resolves⟩
  have comes {choices : List Nat} {took : Nat} {result : Except SdkError Stream}
      (ran : dialManager parse net choices url = some (took,result)) :
      ∃ stream, result = .ok stream ∧ took ≤ looked+k*connectAttemptDelay+after+upgrading := by
    rw [dialManager_resolved resolved (by omega)] at ran
    obtain ⟨connecting,within_,ended⟩ := Option.map_eq_some_iff.mp ran
    obtain ⟨connected,came,soon⟩ := within_connects found connects (by omega) within_
    obtain ⟨seq,_,_,_,_,comes,_⟩ := (within_ends within_).ok connected came
    obtain ⟨takes,short,upgraded⟩ := upgrades _ _ _ _ comes
    obtain ⟨took',outcome⟩ := connecting
    dsimp only at came soon
    subst came
    simp only [afterConnect,upgradeStage,upgraded] at ended
    rw [timeoutAt_came (by omega)] at ended
    cases ended
    exact ⟨connected.stream,rfl,by omega⟩
  refine ⟨fun choices picked => ⟨?_,?_⟩,fun choices took result ran => comes ran⟩
  · cases picked with
    | none => exact Nat.zero_le _
    | turns own soon turned =>
      have bound := (turns_complete own soon turned).1
      obtain ⟨_,target',found'⟩ := own
      cases target.symm.trans target'
      cases resolves.symm.trans found'
      exact bound
  · obtain ⟨more,⟨took,result⟩,ran⟩ := picked_completes picked
    obtain ⟨stream,rfl,_⟩ := comes ran
    exact ⟨more,took,stream,ran⟩

end Ends

namespace Sample

def managerUrl (_ : String) : Except String ManagerUrl := .ok ⟨"wss","manager.example.com",none⟩

def halfDark : Network SocketAddr where
  lookup _ _ := some (5,.ok [v6a,v4a])
  connect seq addr := if seq = 0 then .silent else .succeeds 10 addr
  upgrade _ _ := some (20,.ok ())

theorem halfDark_turns : interleaveFamilies [v6a,v4a] = [v6a,v4a] := by
  rw [interleaveFamilies_cons]
  decide

theorem halfDark_dial (url : String) : dialManager managerUrl halfDark [0,0] url =
    some (5+(connectAttemptDelay+10)+20,.ok v4a) := by
  change lookupStage halfDark url "manager.example.com" 443 [0,0] = _
  simp only [lookupStage,halfDark,timeoutAt_came (show 0+5 ≤ dialTimeout by decide),connectStage,halfDark_turns]
  rfl

end Sample

theorem halfDark_comes_through : ∃ took stream, dialManager Sample.managerUrl Sample.halfDark [0,0]
    "wss://manager.example.com" = some (took,.ok stream) ∧ took ≤ 5+1*connectAttemptDelay+10+20 := by
  have found : (interleaveFamilies [Sample.v6a,Sample.v4a])[1]? = some Sample.v4a := by
    rw [Sample.halfDark_turns]
    rfl
  have ran := Sample.halfDark_dial "wss://manager.example.com"
  obtain ⟨stream,ok,soon⟩ := (dial_comes_through rfl rfl found rfl (fun _ _ _ _ _ => ⟨20,Nat.le_refl 20,rfl⟩)
    (by decide)).2 _ _ _ ran
  rw [ok] at ran
  exact ⟨_,stream,ran,soon⟩

end GatewaySdk.Client
