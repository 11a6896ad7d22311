import GatewaySdk.Client.Registration
import GatewaySdk.Client.Run
import GatewaySdk.Order.Counting

/-! The health frames of the session loop, by the clock: when its interval has them due, and
when a loop that is busy writing comes round to start them. -/
namespace GatewaySdk.Client
open GatewaySdk.Effect GatewaySdk.Order
open GatewaySdk.Upgrade (Json bind_ok)

def writeStallLimit : Nat := Duration.fromSecs 300

/-- A health frame of the loop's own: when its tick was due and when its write began. -/
structure HealthFrame where
  started : Nat
  due : Nat
  deriving DecidableEq, Repr

def Loop.isWriting : Loop → Bool
  | .writing _ => true
  | _ => false

/-- The client with the clock of its latest session: when the write it is in began, when the
next tick of `heartbeat` is due, and the health frames started so far. -/
structure Clocked where
  client : GatewayClient
  now : Nat
  began : Nat
  deadline : Nat
  beats : List HealthFrame

def GatewayClient.connected (c : GatewayClient) : GatewayClient :=
  {c.set c.count .fresh with main := .session,count := c.count+1}

namespace Clocked

/-- `drive_session` begins, and skips the immediate tick. -/
def start (c : GatewayClient) (now heartbeatInterval : Nat) : Clocked := ⟨c.connected,now,now,now+heartbeatInterval,[]⟩

/-- The tick that is due is taken: the interval makes up for every one it missed, so the next
is due a period after this one. -/
def tick (s : Clocked) (heartbeatInterval : Nat) (c : GatewayClient) : Clocked :=
  {s with
    client := c
    began := s.now
    deadline := s.deadline+heartbeatInterval
    beats := s.beats ++ [⟨s.now,s.deadline⟩]}

def isWriting (s : Clocked) (k : Nat) : Bool := (s.client.session k).loop.isWriting

def move (s : Clocked) (k : Nat) (c : GatewayClient) : Clocked :=
  {s with client := c,began := if s.isWriting k = true then s.began else s.now}

def startedIn (s : Clocked) (first width : Nat) : Nat :=
  s.beats.countP fun beat => first ≤ beat.started ∧ beat.started ≤ first+width

end Clocked

/-- The loop of session `k` takes the heartbeat's branch. -/
def Beats (k : Nat) (c c' : GatewayClient) : Prop :=
  (c.session k).loop = .idle ∧ (c'.session k).loop = .writing .heartbeat

variable (fromStr : String → Option Json) (k heartbeatInterval : Nat)

/-- A step of the client by the clock. The biased `select!` gets to the tick where nothing is
inbound and nothing outbound. -/
inductive ClockedStep : Clocked → List Fact → Clocked → Prop
  | wait {s : Clocked} (now : Nat) (later : s.now ≤ now)
    (bounded : s.isWriting k = true → now ≤ s.began+writeStallLimit) : ClockedStep s [] {s with now := now}
  | beat {s : Clocked} {facts : List Fact} {c : GatewayClient} (moved : Step fromStr s.client facts c)
    (beats : Beats k s.client c) (drained : s.client.outbound = []) (due : s.deadline ≤ s.now) :
    ClockedStep s facts (s.tick heartbeatInterval c)
  | moves {s : Clocked} {facts : List Fact} {c : GatewayClient} (moved : Step fromStr s.client facts c)
    (other : ¬ Beats k s.client c) : ClockedStep s facts (s.move k c)

/-- A step that, where it takes a tick, takes it before the one after it is overdue. -/
def TimelyStep (s : Clocked) (facts : List Fact) (s' : Clocked) : Prop :=
  ClockedStep fromStr k heartbeatInterval s facts s' ∧
    (Beats k s.client s'.client → s.now ≤ s.deadline+heartbeatInterval)

variable {fromStr} {k heartbeatInterval} {c : GatewayClient} {s s' : Clocked} {facts : List Fact} {started : Nat}

/-- What the clock shows are runs of the client. -/
theorem clocked_client (timed : Reaches (ClockedStep fromStr k heartbeatInterval) (.start c started heartbeatInterval) facts s) :
    Reaches (Step fromStr) c.connected facts s.client := by
  induction timed with
  | start => exact .start
  | next before moved runs =>
    cases moved with
    | wait now later bounded => rwa [List.append_nil]
    | beat moved beats drained due => exact runs.next moved
    | moves moved other => exact runs.next moved

theorem connected_fresh (c : GatewayClient) : c.connected.session c.count = .fresh := set_same c c.count .fresh

/-- The write that the loop is in is within its bound. -/
def Clocked.Bounded (k : Nat) (s : Clocked) : Prop := s.isWriting k = true → s.now ≤ s.began+writeStallLimit

theorem ClockedStep.bounded (moved : ClockedStep fromStr k heartbeatInterval s facts s') (before : s.Bounded k) :
    s'.Bounded k := by
  intro writing
  cases moved with
  | wait now later bounded => exact bounded writing
  | beat moved beats drained due => exact Nat.le_add_right _ _
  | moves moved other =>
    unfold Clocked.move
    dsimp only
    split
    next already => exact before already
    next => exact Nat.le_add_right _ _

theorem write_bounded
    (timed : Reaches (ClockedStep fromStr c.count heartbeatInterval) (.start c started heartbeatInterval) facts s) :
    s.Bounded c.count := by
  refine timed.keeps (fun writing => ?_) fun _ s _ s' before moved => moved.bounded before
  rw [Clocked.isWriting,Clocked.start,connected_fresh] at writing
  cases writing

/-- The health frames so far fell due a period apart, the last of them a period ago at
least, and none of them was overtaken by the next. -/
structure Spread (heartbeatInterval : Nat) (s : Clocked) : Prop where
  spaced : Spaced HealthFrame.due heartbeatInterval s.beats
  past : ∀ beat ∈ s.beats, beat.due + heartbeatInterval ≤ s.deadline
  late : ∀ beat ∈ s.beats, beat.due ≤ beat.started ∧ beat.started ≤ beat.due + heartbeatInterval

theorem start_spread (c : GatewayClient) (started heartbeatInterval : Nat) :
    Spread heartbeatInterval (.start c started heartbeatInterval) where
  spaced := .nil
  past := fun _ none => absurd none List.not_mem_nil
  late := fun _ none => absurd none List.not_mem_nil

theorem TimelyStep.spread (moved : TimelyStep fromStr k heartbeatInterval s facts s')
    (before : Spread heartbeatInterval s) : Spread heartbeatInterval s' := by
  obtain ⟨moved,timely⟩ := moved
  cases moved with
  | wait now later bounded => exact ⟨before.spaced,before.past,before.late⟩
  | moves moved other => exact ⟨before.spaced,before.past,before.late⟩
  | beat moved beats drained due =>
    refine ⟨spaced_snoc before.spaced before.past,fun beat member => ?_,fun beat member => ?_⟩
    · rcases List.mem_append.mp member with earlier | last
      · exact (before.past beat earlier).trans (Nat.le_add_right _ _)
      · rw [List.mem_singleton.mp last]
        exact Nat.le_refl _
    · rcases List.mem_append.mp member with earlier | last
      · exact before.late beat earlier
      · rw [List.mem_singleton.mp last]
        exact ⟨due,timely beats⟩

theorem timely_spread
    (timed : Reaches (TimelyStep fromStr k heartbeatInterval) (.start c started heartbeatInterval) facts s) :
    Spread heartbeatInterval s :=
  timed.keeps (start_spread c started heartbeatInterval) fun _ _ _ _ before moved => moved.spread before

theorem Spread.startedIn_le (spread : Spread heartbeatInterval s) (positive : 0 < heartbeatInterval) (first width : Nat) :
    s.startedIn first width ≤ width/heartbeatInterval + 2 := by
  rw [Clocked.startedIn,List.countP_eq_length_filter]
  refine seen_length HealthFrame.started first positive (spread.spaced.filter _) (fun beat member => ?_) fun beat member => ?_
  · exact spread.late beat (List.mem_of_mem_filter member)
  · exact of_decide_eq_true (List.mem_filter.mp member).2

section Configured

variable {parseUrl : String → Except String Unit} {plaintextWsEnvSet : Bool} {cfg : GatewayConfig}

theorem GatewayConfig.heartbeat_bounds (valid : cfg.validate parseUrl plaintextWsEnvSet = .ok ()) :
    5 ≤ cfg.heartbeatInterval/1000000000 ∧ cfg.heartbeatInterval/1000000000 ≤ 300 := by
  obtain ⟨_,_,valid⟩ := bind_ok.mp valid
  obtain ⟨_,_,valid⟩ := bind_ok.mp valid
  obtain ⟨_,_,valid⟩ := bind_ok.mp valid
  obtain ⟨_,_,valid⟩ := bind_ok.mp valid
  obtain ⟨_,_,valid⟩ := bind_ok.mp valid
  obtain ⟨_,_,valid⟩ := bind_ok.mp valid
  have bounds := refuseIf_ok.mp valid
  omega

theorem heartbeats_rated (valid : cfg.validate parseUrl plaintextWsEnvSet = .ok ())
    (timed : Reaches (TimelyStep fromStr c.count cfg.heartbeatInterval) (.start c started cfg.heartbeatInterval) facts s)
    (first width : Nat) : s.startedIn first width ≤ width/cfg.heartbeatInterval + 2 := by
  have bounds := GatewayConfig.heartbeat_bounds valid
  exact (timely_spread timed).startedIn_le (by omega) first width

end Configured

def Session.beating (σ : Session) : Session := {σ with loop := .writing .heartbeat}

theorem beating_written {σ : Session} (idle : σ.loop = .idle) : σ.beating.written .heartbeat = σ := by
  rw [Session.written,Session.beating,← idle]
  rfl

theorem beat_written (idle : (c.session k).loop = .idle) :
    (c.set k (c.session k).beating).set k (((c.set k (c.session k).beating).session k).written .heartbeat) = c := by
  rw [set_same,beating_written idle,GatewayClient.set,GatewayClient.set,Function.update_idem,Function.update_eq_self]

theorem wrote_beat (born : k < s.client.count) (starts : (s.client.session k).loop = .writing .heartbeat) :
    ClockedStep fromStr k heartbeatInterval s []
      {s with client := s.client.set k ((s.client.session k).written .heartbeat)} := by
  have busy : ¬ Beats k s.client (s.client.set k ((s.client.session k).written .heartbeat)) := by
    intro beats
    have free := beats.1
    rw [starts] at free
    cases free
  have writing : s.isWriting k = true := by
    rw [Clocked.isWriting,starts]
    rfl
  have moved : ClockedStep fromStr k heartbeatInterval s [] (s.move k _) :=
    .moves (.session k born (.loop (.wrote .heartbeat starts)) .quiet) busy
  rwa [Clocked.move,if_pos writing] at moved

theorem beat_goes (born : k < s.client.count) (idle : (s.client.session k).loop = .idle)
    (empty : (s.client.session k).inbound = []) (drained : s.client.outbound = []) (due : s.deadline ≤ s.now) :
    ∃ m, ClockedStep fromStr k heartbeatInterval s [] m ∧ (m.client.session k).loop = .writing .heartbeat ∧
      ClockedStep fromStr k heartbeatInterval m [] (s.tick heartbeatInterval s.client) := by
  have starts : ((s.client.set k (s.client.session k).beating).session k).loop = .writing .heartbeat := by
    rw [set_same]
    rfl
  have ticked : ClockedStep fromStr k heartbeatInterval s []
      (s.tick heartbeatInterval (s.client.set k (s.client.session k).beating)) :=
    .beat (.session k born (.loop (.heartbeat idle empty)) .quiet) ⟨idle,starts⟩ drained due
  have wrote : ClockedStep fromStr k heartbeatInterval
      (s.tick heartbeatInterval (s.client.set k (s.client.session k).beating)) [] _ := wrote_beat born starts
  have same := beat_written idle
  refine ⟨_,ticked,starts,?_⟩
  unfold Clocked.tick at wrote ⊢
  dsimp only at wrote
  rw [same] at wrote
  exact wrote

theorem missed_beat (born : k < s.client.count) (idle : (s.client.session k).loop = .idle)
    (empty : (s.client.session k).inbound = []) (drained : s.client.outbound = []) (due : s.deadline ≤ s.now) :
    Reaches (ClockedStep fromStr k heartbeatInterval) s [] (s.tick heartbeatInterval s.client) := by
  obtain ⟨m,ticked,_,wrote⟩ := @beat_goes fromStr k heartbeatInterval s born idle empty drained due
  exact (Reaches.start.next ticked).next wrote

theorem timely_beat (born : k < s.client.count) (idle : (s.client.session k).loop = .idle)
    (empty : (s.client.session k).inbound = []) (drained : s.client.outbound = []) (due : s.deadline ≤ s.now)
    (soon : s.now ≤ s.deadline+heartbeatInterval) :
    Reaches (TimelyStep fromStr k heartbeatInterval) s [] (s.tick heartbeatInterval s.client) := by
  obtain ⟨m,ticked,writing,wrote⟩ := @beat_goes fromStr k heartbeatInterval s born idle empty drained due
  have first : TimelyStep fromStr k heartbeatInterval s [] m := ⟨ticked,fun _ => soon⟩
  refine (Reaches.start.next first).next ⟨wrote,fun beats => ?_⟩
  rw [beats.1] at writing
  cases writing

/-- The loop that is free makes up at once for all ticks it missed. -/
theorem burst (n : Nat) (born : k < s.client.count) (idle : (s.client.session k).loop = .idle)
    (empty : (s.client.session k).inbound = []) (drained : s.client.outbound = [])
    (missed : s.deadline + n*heartbeatInterval ≤ s.now + heartbeatInterval) :
    ∃ began beats, beats.length = n ∧ (∀ beat ∈ beats, beat.started = s.now) ∧
      Reaches (ClockedStep fromStr k heartbeatInterval) s [] {s with
        began := began
        deadline := s.deadline + n*heartbeatInterval
        beats := s.beats ++ beats} := by
  induction n generalizing s with
  | zero =>
    refine ⟨s.began,[],rfl,fun _ none => absurd none List.not_mem_nil,?_⟩
    rw [Nat.zero_mul,Nat.add_zero,List.append_nil]
    exact .start
  | succ n ih =>
    rw [Nat.succ_mul] at missed
    have once : Reaches (ClockedStep fromStr k heartbeatInterval) s [] _ :=
      missed_beat born idle empty drained (by omega)
    obtain ⟨began,beats,count,now,rest⟩ := ih (s := s.tick heartbeatInterval s.client) born idle empty drained (by
      unfold Clocked.tick
      dsimp only
      omega)
    refine ⟨began,⟨s.now,s.deadline⟩::beats,by rw [List.length_cons,count],fun beat member => ?_,?_⟩
    · rcases List.mem_cons.mp member with first | later
      · rw [first]
      · exact now beat later
    · have all : Reaches (ClockedStep fromStr k heartbeatInterval) s [] {s with
          began := began
          deadline := s.deadline + heartbeatInterval + n*heartbeatInterval
          beats := s.beats ++ [⟨s.now,s.deadline⟩] ++ beats} := once.trans rest
      rw [List.append_assoc,List.singleton_append,Nat.add_assoc,Nat.add_comm heartbeatInterval,← Nat.succ_mul] at all
      exact all

namespace Sample

/-- The shortest interval that `validate` accepts. -/
def quick : GatewayConfig := {config with heartbeatInterval := Duration.fromSecs 5}

theorem config_valid : config.validate (fun _ => .ok ()) false = .ok () := rfl

theorem quick_valid : quick.validate (fun _ => .ok ()) false = .ok () := rfl

def stats : OutboundFrame := ⟨"stats",.obj []⟩

theorem not_beats {c c' : GatewayClient} (other : (c'.session k).loop ≠ .writing .heartbeat) : ¬ Beats k c c' :=
  fun beats => other beats.2

/-- A session that is 300 s old, free again after a write that took all but the first of them. -/
structure Stalled (facts : List Fact) (s : Clocked) : Prop where
  timed : Reaches (ClockedStep parse 0 quick.heartbeatInterval) (.start .start 0 quick.heartbeatInterval) facts s
  now : s.now = Duration.fromSecs 300
  deadline : s.deadline = Duration.fromSecs 5
  silent : s.beats = []
  born : 0 < s.client.count
  idle : (s.client.session 0).loop = .idle
  empty : (s.client.session 0).inbound = []
  drained : s.client.outbound = []

theorem stalled : ∃ facts s, Stalled facts s := by
  have begun : Reaches (ClockedStep parse 0 quick.heartbeatInterval) (.start .start 0 quick.heartbeatInterval) [] _ :=
    .start
  have waited := begun.next (.wait (Duration.fromSecs 1) (Nat.zero_le _) nofun)
  have offered := waited.next (.moves (.emitter (.offers 0 stats rfl)) (not_beats nofun))
  have sent := offered.next (.moves (.emitter (.sends 0 stats rfl rfl (by decide))) (not_beats nofun))
  have taken := sent.next (.moves (.session 0 Nat.one_pos (.loop (.outbound stats rfl rfl)) (.receive stats [] rfl))
    (not_beats nofun))
  have held := taken.next (.wait (Duration.fromSecs 300) (by decide) fun _ => by decide)
  have wrote := held.next (.moves (.session 0 Nat.one_pos (.loop (.wrote (.outbound stats) rfl)) .quiet) (not_beats nofun))
  exact ⟨_,_,wrote,rfl,rfl,rfl,Nat.one_pos,rfl,rfl,rfl⟩

end Sample

/-- Sixty health frames in the second after the write, where the rate allows two. -/
theorem stalled_write_bursts :
    Sample.quick.validate (fun _ => .ok ()) false = .ok () ∧
      ∃ facts s, Reaches (ClockedStep Sample.parse 0 Sample.quick.heartbeatInterval)
          (.start .start 0 Sample.quick.heartbeatInterval) facts s ∧
        s.startedIn (Duration.fromSecs 300) (Duration.fromSecs 1) = 60 ∧
        Duration.fromSecs 1/Sample.quick.heartbeatInterval + 2 < 60 := by
  refine ⟨Sample.quick_valid,?_⟩
  obtain ⟨facts,s,stalled⟩ := Sample.stalled
  have missed : s.deadline + 60*Sample.quick.heartbeatInterval ≤ s.now + Sample.quick.heartbeatInterval := by
    rw [stalled.deadline,stalled.now]
    decide
  obtain ⟨began,beats,count,now,rest⟩ :=
    @burst Sample.parse 0 _ s 60 stalled.born stalled.idle stalled.empty stalled.drained missed
  have all : beats.countP (fun beat => Duration.fromSecs 300 ≤ beat.started ∧
      beat.started ≤ Duration.fromSecs 300 + Duration.fromSecs 1) = beats.length := by
    refine List.countP_eq_length.mpr fun beat member => decide_eq_true ?_
    rw [now beat member,stalled.now]
    exact ⟨Nat.le_refl _,Nat.le_add_right _ _⟩
  refine ⟨_,_,stalled.timed.trans rest,?_,by decide⟩
  rw [Clocked.startedIn,stalled.silent,List.nil_append,all,count]

namespace Sample

/-- A session that is 29 s old, free again after a write of 15 s, and late with its first tick. -/
structure Recovered (facts : List Fact) (s : Clocked) : Prop where
  timed : Reaches (TimelyStep parse 0 config.heartbeatInterval) (.start .start 0 config.heartbeatInterval) facts s
  now : s.now = Duration.fromSecs 29
  deadline : s.deadline = Duration.fromSecs 15
  silent : s.beats = []
  born : 0 < s.client.count
  idle : (s.client.session 0).loop = .idle
  empty : (s.client.session 0).inbound = []
  drained : s.client.outbound = []

theorem recovered : ∃ facts s, Recovered facts s := by
  have calm {facts : List Fact} {s : Clocked} {c : GatewayClient} (moved : Step parse s.client facts c)
      (other : ¬ Beats 0 s.client c) : TimelyStep parse 0 config.heartbeatInterval s facts (s.move 0 c) :=
    ⟨.moves moved other,fun beats => absurd beats other⟩
  have begun : Reaches (TimelyStep parse 0 config.heartbeatInterval) (.start .start 0 config.heartbeatInterval) [] _ :=
    .start
  have waited := begun.next ⟨.wait (Duration.fromSecs 14) (Nat.zero_le _) nofun,fun beats => by cases beats.2⟩
  have offered := waited.next (calm (.emitter (.offers 0 stats rfl)) (not_beats nofun))
  have sent := offered.next (calm (.emitter (.sends 0 stats rfl rfl (by decide))) (not_beats nofun))
  have taken := sent.next (calm (.session 0 Nat.one_pos (.loop (.outbound stats rfl rfl)) (.receive stats [] rfl))
    (not_beats nofun))
  have held := taken.next ⟨.wait (Duration.fromSecs 29) (by decide) fun _ => by decide,fun beats => by cases beats.1⟩
  have wrote := held.next (calm (.session 0 Nat.one_pos (.loop (.wrote (.outbound stats) rfl)) .quiet) (not_beats nofun))
  exact ⟨_,_,wrote,rfl,rfl,rfl,Nat.one_pos,rfl,rfl,rfl⟩

end Sample

/-- The first tick is taken 14 s late, behind a slow write, and the next one when it is due: two in one second, as many
as the rate allows. -/
theorem sample_heartbeats_rated :
    ∃ facts s, Reaches (TimelyStep Sample.parse 0 Sample.config.heartbeatInterval)
        (.start .start 0 Sample.config.heartbeatInterval) facts s ∧
      s.beats = [⟨Duration.fromSecs 29,Duration.fromSecs 15⟩,⟨Duration.fromSecs 30,Duration.fromSecs 30⟩] ∧
      s.startedIn (Duration.fromSecs 29) (Duration.fromSecs 1) = 2 ∧
      s.startedIn (Duration.fromSecs 29) (Duration.fromSecs 1) ≤ Duration.fromSecs 1/Sample.config.heartbeatInterval + 2 := by
  obtain ⟨facts,s,timed,now,deadline,silent,born,idle,empty,drained⟩ := Sample.recovered
  have late := timed.trans (timely_beat born idle empty drained (by rw [deadline,now]; decide) (by rw [deadline,now]; decide))
  have free : ¬ s.isWriting 0 = true := by
    rw [Clocked.isWriting,idle]
    nofun
  have waited := late.next ⟨.wait (Duration.fromSecs 30) (by change s.now ≤ _; rw [now]; decide) fun writes => absurd writes free,
    fun beats => by rw [Beats,Clocked.tick,idle] at beats; cases beats.2⟩
  have second : s.deadline + Sample.config.heartbeatInterval = Duration.fromSecs 30 := by
    rw [deadline]
    rfl
  have ticked := waited.trans (timely_beat born idle empty drained (Nat.le_of_eq second)
    (Nat.le_trans (Nat.le_of_eq second.symm) (Nat.le_add_right _ _)))
  have both : s.beats ++ [HealthFrame.mk s.now s.deadline] ++
      [HealthFrame.mk (Duration.fromSecs 30) (s.deadline + Sample.config.heartbeatInterval)] =
      [⟨Duration.fromSecs 29,Duration.fromSecs 15⟩,⟨Duration.fromSecs 30,Duration.fromSecs 30⟩] := by
    rw [silent,second,now,deadline]
    rfl
  refine ⟨_,_,ticked,both,?_,heartbeats_rated (c := GatewayClient.start) Sample.config_valid ticked _ _⟩
  change (s.beats ++ [HealthFrame.mk s.now s.deadline] ++
    [HealthFrame.mk (Duration.fromSecs 30) (s.deadline + Sample.config.heartbeatInterval)]).countP _ = 2
  rw [both]
  decide

end GatewaySdk.Client
