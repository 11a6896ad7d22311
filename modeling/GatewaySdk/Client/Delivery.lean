import GatewaySdk.Client.Turn

/-! Where the frames are that the outbound channel has accepted: written, in the write of
the live session, or still in the channel, unless a write is broken off. -/
namespace GatewaySdk.Client
open GatewaySdk.Effect GatewaySdk.Upgrade

variable {fromStr : String → Option Json} {k j : Nat} {c c' granted : GatewayClient} {σ τ : Session} {action : Action}
  {facts : List SessionFact} {history more : List Fact}

def writtenOf (history : List Fact) : List (Nat × OutboundFrame) :=
  history.filterMap fun | .of k (.wrote frame) => some (k,frame) | _ => none

def writingOf (c : GatewayClient) : List OutboundFrame := (c.session (c.count-1)).loop.ofChannel

/-- Every accepted frame is in one place, and they are written in the order of acceptance. -/
def Delivered (history : List Fact) (c : GatewayClient) : Prop :=
  acceptedOf history = (writtenOf history).map Prod.snd ++ writingOf c ++ c.outbound

/-- `run` has returned or was dropped, and the receiver of the channel with it. -/
def Main.left : Main → Bool
  | .returned _ => true
  | .dropped => true
  | _ => false

/-- A step that breaks no write off: the write of a frame of the channel goes on or is
completed by it, and `run` is not over after it. -/
structure Unbroken (fromStr : String → Option Json) (c : GatewayClient) (facts : List Fact) (c' : GatewayClient) : Prop where
  moved : Step fromStr c facts c'
  completes : ∀ k frame, (c.session k).loop = .writing (.outbound frame) →
    (c'.session k).loop = .writing (.outbound frame) ∨ Fact.of k (.wrote frame) ∈ facts
  stays : c'.main.left = false

theorem acceptedOf_append (history more : List Fact) :
    acceptedOf (history ++ more) = acceptedOf history ++ acceptedOf more :=
  List.filterMap_append

theorem writtenOf_append (history more : List Fact) :
    writtenOf (history ++ more) = writtenOf history ++ writtenOf more :=
  List.filterMap_append

theorem acceptedOf_session (k : Nat) (facts : List SessionFact) : acceptedOf (facts.map (.of k)) = [] := by
  induction facts with
  | nil => rfl
  | cons fact facts ih => exact ih

def wroteOf (facts : List SessionFact) : List OutboundFrame :=
  facts.filterMap fun | .wrote frame => some frame | _ => none

theorem writtenOf_session (k : Nat) (facts : List SessionFact) :
    (writtenOf (facts.map (.of k))).map Prod.snd = wroteOf facts := by
  induction facts with
  | nil => rfl
  | cons fact facts ih =>
    cases fact with
    | wrote frame =>
      rw [List.map_cons,writtenOf,List.filterMap_cons,wroteOf,List.filterMap_cons,List.map_cons]
      exact congrArg (frame :: ·) ih
    | _ => exact ih

theorem Grants.writes_nothing (grants : Grants k c action more granted) : writtenOf more = [] := by
  cases grants <;> rfl

theorem wroteOf_ofChannel (write : Writing) : wroteOf (write.ofChannel.map .wrote) = write.ofChannel := by
  cases write <;> rfl

theorem wroteOf_dropped (queue : List QueuedCommand) : wroteOf (queue.map .dropped) = [] := by
  induction queue with
  | nil => rfl
  | cons command queue ih => exact ih

theorem mem_wroteOf {frame : OutboundFrame} (wrote : SessionFact.wrote frame ∈ facts) : frame ∈ wroteOf facts :=
  List.mem_filterMap.mpr ⟨_,wrote,rfl⟩

/-- What becomes of the frame a loop is writing: it is written, or written on, or its write
is broken off; and a frame is taken from the channel by an idle loop only. -/
def ChannelOf (σ : Session) (action : Action) (facts : List SessionFact) (τ : Session) : Prop :=
  match action with
  | .receive frame => σ.loop = .idle ∧ τ.loop.ofChannel = [frame] ∧ wroteOf facts = []
  | _ => σ.loop.ofChannel = wroteOf facts ++ τ.loop.ofChannel ∨
      ∃ frame, σ.loop = .writing (.outbound frame) ∧ τ.loop.ofChannel = [] ∧ wroteOf facts = []

theorem ended_channel (σ : Session) : σ.loop.ofChannel = wroteOf [] ++ σ.ended.loop.ofChannel ∨
    ∃ frame, σ.loop = .writing (.outbound frame) ∧ σ.ended.loop.ofChannel = [] ∧ wroteOf [] = [] := by
  cases loop : σ.loop with
  | writing write =>
    cases write with
    | outbound frame => exact .inr ⟨frame,rfl,rfl,rfl⟩
    | _ => exact .inl rfl
  | _ => exact .inl rfl

theorem LoopStep.channel (moved : LoopStep fromStr σ action facts τ) : ChannelOf σ action facts τ := by
  cases moved with
  | ping data idle first => exact .inl (by rw [idle]; rfl)
  | dropped text idle first routing => exact .inl (by rw [idle]; rfl)
  | pong text idle first routing => exact .inl (by rw [idle]; rfl)
  | queued text command idle first routing => exact .inl (by rw [idle]; rfl)
  | busy text command held idle first routing => exact .inl (by rw [idle]; rfl)
  | heartbeat idle empty => exact .inl (by rw [idle]; rfl)
  | stopped text idle first routing => exact ended_channel σ
  | ended item idle first final => exact ended_channel σ
  | writeFailed write writing => exact ended_channel σ
  | outbound frame idle empty => exact ⟨idle,rfl,rfl⟩
  | wrote write writing =>
    refine .inl ?_
    rw [writing,wroteOf_ofChannel]
    exact (List.append_nil _).symm
  | sendAfterClosing write writing =>
    cases write with
    | outbound frame => exact .inr ⟨frame,writing,rfl,rfl⟩
    | _ => exact .inl (by rw [writing]; rfl)

theorem WorkerStep.channel (moved : WorkerStep σ action facts τ) : ChannelOf σ action facts τ := by
  cases moved with
  | neverAsked | gaveUp | stops | letsGo =>
    refine .inl ?_
    rw [wroteOf_dropped]
    rfl
  | _ => exact .inl rfl

theorem TaskStep.channel (moved : TaskStep fromStr σ action facts τ) : ChannelOf σ action facts τ := by
  cases moved with
  | acked command letGo frame response running => cases response <;> exact .inl rfl
  | unacked command letGo frame response running => cases response <;> exact .inl rfl
  | _ => exact .inl rfl

theorem SessionStep.channel (moved : SessionStep fromStr σ action facts τ) : ChannelOf σ action facts τ := by
  cases moved with
  | reader moved => cases moved <;> exact .inl rfl
  | silent reading => exact ended_channel σ
  | loop moved => exact moved.channel
  | worker moved => exact moved.channel
  | task moved => exact moved.channel
  | stopped next outside => exact ended_channel σ
  | cancel => exact .inl rfl

/-- What the surroundings do to the channel, as long as its receiver is there. -/
theorem Grants.channel (grants : Grants k c action more granted) (stays : granted.main.left = false) :
    (∃ frame, action = .receive frame ∧ c.outbound = frame::granted.outbound ∧ acceptedOf more = []) ∨
      ((∀ frame, action ≠ .receive frame) ∧ granted.outbound = c.outbound ++ acceptedOf more) := by
  cases grants with
  | receive frame rest first => exact .inl ⟨frame,rfl,first,rfl⟩
  | send frame opened room => exact .inr ⟨nofun,rfl⟩
  | cancel next ended =>
    cases next with
    | drop => cases stays
    | _ => exact .inr ⟨nofun,(List.append_nil _).symm⟩
  | _ => exact .inr ⟨nofun,(List.append_nil _).symm⟩

/-- What a step of the last session does to the frames, where it breaks no write off. -/
theorem ChannelOf.whole (channel : ChannelOf σ action facts τ) (other : ∀ frame, action ≠ .receive frame)
    (completes : ∀ frame, σ.loop = .writing (.outbound frame) → τ.loop = .writing (.outbound frame) ∨ frame ∈ wroteOf facts) :
    σ.loop.ofChannel = wroteOf facts ++ τ.loop.ofChannel := by
  have whole (either : σ.loop.ofChannel = wroteOf facts ++ τ.loop.ofChannel ∨
      ∃ frame, σ.loop = .writing (.outbound frame) ∧ τ.loop.ofChannel = [] ∧ wroteOf facts = []) :
      σ.loop.ofChannel = wroteOf facts ++ τ.loop.ofChannel := by
    obtain kept | ⟨frame,writing,idle,nothing⟩ := either
    · exact kept
    · obtain stays | wrote := completes frame writing
      · rw [stays] at idle
        cases idle
      · rw [nothing] at wrote
        cases wrote
  cases action with
  | receive frame => exact absurd rfl (other frame)
  | _ => exact whole channel

theorem ChannelOf.gone (channel : ChannelOf σ action facts τ) (gone : σ.loop = .gone) :
    wroteOf facts = [] ∧ ∀ frame, action ≠ .receive frame := by
  have nothing (either : σ.loop.ofChannel = wroteOf facts ++ τ.loop.ofChannel ∨
      ∃ frame, σ.loop = .writing (.outbound frame) ∧ τ.loop.ofChannel = [] ∧ wroteOf facts = []) : wroteOf facts = [] := by
    obtain kept | ⟨frame,writing,_⟩ := either
    · rw [gone] at kept
      exact (List.append_eq_nil_iff.mp kept.symm).1
    · rw [gone] at writing
      cases writing
  cases action with
  | receive frame =>
    rw [channel.1] at gone
    cases gone
  | _ => exact ⟨nothing channel,nofun⟩

theorem session_delivered (phased : Phased c) (born : k < c.count) (moved : SessionStep fromStr (c.session k) action facts σ)
    (grants : Grants k c action more granted) (stays : granted.main.left = false)
    (completes : ∀ frame, (c.session k).loop = .writing (.outbound frame) →
      σ.loop = .writing (.outbound frame) ∨ frame ∈ wroteOf facts)
    (delivered : Delivered history c) : Delivered (history ++ (facts.map (.of k) ++ more)) (granted.set k σ) := by
  have channel := moved.channel
  unfold Delivered writingOf at delivered ⊢
  rw [acceptedOf_append,acceptedOf_append,acceptedOf_session,writtenOf_append,writtenOf_append,grants.writes_nothing,
    List.append_nil,List.map_append,writtenOf_session,List.nil_append,set_outbound,set_count,grants.count,delivered]
  by_cases last : c.count-1 = k
  · rw [last,set_same]
    obtain ⟨frame,rfl,taken,none⟩ | ⟨other,outbound⟩ := grants.channel stays
    · obtain ⟨idle,writing,nothing⟩ := channel
      rw [idle,writing,nothing,none,taken]
      simp [Loop.ofChannel]
    · rw [channel.whole other completes,outbound]
      simp
  · have gone : (c.session k).loop = .gone := by
      by_contra live
      have here := (phased.loops k born).mp live
      omega
    obtain ⟨nothing,other⟩ := channel.gone gone
    rw [set_other _ _ last,grants.session,nothing]
    obtain ⟨frame,same,_⟩ | ⟨_,outbound⟩ := grants.channel stays
    · exact absurd same (other frame)
    · rw [outbound]
      simp

theorem main_delivered (moved : MainStep c c') (phased : Phased c) (stays : c'.main.left = false)
    (delivered : Delivered history c) : Delivered (history ++ []) c' := by
  rw [List.append_nil]
  cases moved with
  | connected between =>
    have idle : (c.session (c.count-1)).loop.ofChannel = [] := by
      by_cases none : c.count = 0
      · rw [phased.unborn _ (by omega)]
        rfl
      · have gone : (c.session (c.count-1)).loop = .gone := by
          by_contra live
          have here := (phased.loops _ (by omega)).mp live
          rw [between] at here
          cases here.2
        rw [gone]
        rfl
    unfold Delivered writingOf at delivered ⊢
    rw [idle] at delivered
    simp only [Nat.add_sub_cancel,set_same,set_outbound]
    exact delivered
  | stopped between => exact delivered
  | closeWritten closing => exact delivered
  | drained draining first => cases stays
  | expired draining => cases stays
  | abandoned waiting => cases stays

theorem emitter_delivered (moved : EmitterStep c more c') (delivered : Delivered history c) :
    Delivered (history ++ more) c' := by
  unfold Delivered writingOf at delivered ⊢
  rw [acceptedOf_append,writtenOf_append,List.map_append]
  cases moved with
  | sends i frame offered opened room =>
    rw [delivered]
    simp [acceptedOf,writtenOf]
  | _ => simpa [acceptedOf,writtenOf] using delivered

theorem step_delivered (unbroken : Unbroken fromStr c more c') (phased : Phased c) (delivered : Delivered history c) :
    Delivered (history ++ more) c' := by
  obtain ⟨moved,completes,stays⟩ := unbroken
  cases moved with
  | @session granted action facts extra σ k born moved grants =>
    refine session_delivered phased born moved grants stays (fun frame writing => ?_) delivered
    obtain written | wrote := completes k frame writing
    · rw [set_same] at written
      exact .inl written
    · refine .inr (mem_wroteOf ?_)
      rcases List.mem_append.mp wrote with own | other
      · obtain ⟨fact,member,same⟩ := List.mem_map.mp own
        cases same
        exact member
      · cases grants <;> simp at other
  | main moved => exact main_delivered moved phased stays delivered
  | emitter moved => exact emitter_delivered moved delivered

/-- In a run that breaks no write off, no frame is lost or written twice. -/
theorem frames_delivered (runs : Reaches (Unbroken fromStr) .start history c) : Delivered history c := by
  induction runs with
  | start => rfl
  | next before moved delivered =>
    exact step_delivered moved (runs_phased (before.mono fun _ _ _ unbroken => unbroken.moved)) delivered

def unwrittenOf (c : GatewayClient) : List OutboundFrame := writingOf c ++ c.outbound

/-- Frames may be lost with a write or with the client, but what is written is so once and in the order of acceptance. -/
def Sifted (history : List Fact) (c : GatewayClient) : Prop :=
  ((writtenOf history).map Prod.snd ++ unwrittenOf c).Sublist (acceptedOf history)

/-- A step that writes these frames takes them from the front, and adds what is accepted behind. -/
theorem Sifted.moves (sifted : Sifted history c)
    (moves : ((writtenOf more).map Prod.snd ++ unwrittenOf c').Sublist (unwrittenOf c ++ acceptedOf more)) :
    Sifted (history ++ more) c' := by
  unfold Sifted at sifted ⊢
  rw [writtenOf_append,acceptedOf_append,List.map_append,List.append_assoc]
  refine (moves.append_left _).trans ?_
  rw [← List.append_assoc]
  exact sifted.append_right _

theorem ChannelOf.sifts (channel : ChannelOf σ action facts τ) (other : ∀ frame, action ≠ .receive frame) :
    (wroteOf facts ++ τ.loop.ofChannel).Sublist σ.loop.ofChannel := by
  have sifts (either : σ.loop.ofChannel = wroteOf facts ++ τ.loop.ofChannel ∨
      ∃ frame, σ.loop = .writing (.outbound frame) ∧ τ.loop.ofChannel = [] ∧ wroteOf facts = []) :
      (wroteOf facts ++ τ.loop.ofChannel).Sublist σ.loop.ofChannel := by
    obtain kept | ⟨frame,_,idle,nothing⟩ := either
    · rw [kept]
    · rw [idle,nothing]
      exact List.nil_sublist _
  cases action with
  | receive frame => exact absurd rfl (other frame)
  | _ => exact sifts channel

theorem Grants.sifts (grants : Grants k c action more granted) :
    (∃ frame, action = .receive frame ∧ c.outbound = frame::granted.outbound ∧ acceptedOf more = []) ∨
      ((∀ frame, action ≠ .receive frame) ∧ granted.outbound.Sublist (c.outbound ++ acceptedOf more)) := by
  cases grants with
  | receive frame rest first => exact .inl ⟨frame,rfl,first,rfl⟩
  | send frame opened room => exact .inr ⟨nofun,List.Sublist.refl _⟩
  | cancel next ended =>
    cases next with
    | drop => exact .inr ⟨nofun,List.nil_sublist _⟩
    | _ => exact .inr ⟨nofun,List.sublist_append_left _ _⟩
  | _ => exact .inr ⟨nofun,List.sublist_append_left _ _⟩

theorem session_sifts (phased : Phased c) (born : k < c.count) (moved : SessionStep fromStr (c.session k) action facts σ)
    (grants : Grants k c action more granted) :
    ((writtenOf (facts.map (.of k) ++ more)).map Prod.snd ++ unwrittenOf (granted.set k σ)).Sublist
      (unwrittenOf c ++ acceptedOf (facts.map (.of k) ++ more)) := by
  have channel := moved.channel
  unfold unwrittenOf writingOf
  rw [writtenOf_append,grants.writes_nothing,List.append_nil,writtenOf_session,acceptedOf_append,acceptedOf_session,
    List.nil_append,set_outbound,set_count,grants.count]
  by_cases last : c.count-1 = k
  · rw [last,set_same]
    obtain ⟨frame,rfl,taken,none⟩ | ⟨other,outbound⟩ := grants.sifts
    · obtain ⟨idle,writing,nothing⟩ := channel
      rw [idle,writing,nothing,none,taken]
      simp [Loop.ofChannel]
    · rw [← List.append_assoc,List.append_assoc (Loop.ofChannel _)]
      exact (channel.sifts other).append outbound
  · have gone : (c.session k).loop = .gone := by
      by_contra live
      have here := (phased.loops k born).mp live
      omega
    obtain ⟨nothing,other⟩ := channel.gone gone
    rw [set_other _ _ last,grants.session,nothing,List.nil_append,List.append_assoc]
    obtain ⟨frame,same,_⟩ | ⟨_,outbound⟩ := grants.sifts
    · exact absurd same (other frame)
    · exact outbound.append_left _

theorem main_sifts (moved : MainStep c c') : (unwrittenOf c').Sublist (unwrittenOf c) := by
  have left {main : Main} : (unwrittenOf (c.leave main)).Sublist (unwrittenOf c) := by
    unfold unwrittenOf
    exact (List.nil_sublist _).append_left _
  cases moved with
  | connected between =>
    unfold unwrittenOf writingOf
    simp only [Nat.add_sub_cancel,set_same,set_outbound]
    exact List.sublist_append_right _ _
  | stopped | closeWritten => exact List.Sublist.refl _
  | drained | expired | abandoned => exact left

theorem step_sifts (moved : Step fromStr c more c') (phased : Phased c) (sifted : Sifted history c) :
    Sifted (history ++ more) c' := by
  refine sifted.moves ?_
  cases moved with
  | session k born moved grants => exact session_sifts phased born moved grants
  | main moved =>
    rw [show acceptedOf [] = [] from rfl,List.append_nil]
    exact main_sifts moved
  | emitter moved =>
    cases moved with
    | sends i frame offered opened room =>
      unfold unwrittenOf
      rw [List.append_assoc]
      exact List.Sublist.refl _
    | _ => exact List.sublist_append_left _ _

/-- Whatever is lost on the way, what sessions write of the channel is in the order of acceptance. -/
theorem runs_sifted (runs : Runs fromStr history c) : Sifted history c := by
  induction runs with
  | start => exact List.Sublist.refl _
  | next before moved sifted => exact step_sifts moved (runs_phased before) sifted

/-- A vendor's frame that is in the channel when its session ends goes out on the next one. -/
theorem first_frame_delivered : ∃ history c, Reaches (Unbroken Sample.parse) .start history c ∧
    writtenOf history = [(1,configResponse .null)] ∧ Delivered history c := by
  have offered : Reaches (Unbroken Sample.parse) .start _ _ := Reaches.start.next
    ⟨.emitter (.offers 0 (configResponse .null) rfl),fun _ _ => nofun,rfl⟩
  have connected := offered.next ⟨.main (.connected rfl),fun _ _ => nofun,rfl⟩
  have accepted := connected.next (.mk (.emitter (.sends 0 (configResponse .null) rfl rfl (by decide)))
    (fun | 0,_ => nofun | k+1,_ => nofun) rfl)
  have silent := accepted.next (.mk (.session 0 Nat.one_pos (.silent rfl) (.finish .reconnect ⟨rfl,rfl⟩))
    (fun | 0,_ => nofun | k+1,_ => nofun) rfl)
  have told := silent.next (.mk (.session 0 Nat.one_pos .cancel (.cancel .reconnect ⟨rfl,rfl⟩))
    (fun | 0,_ => nofun | k+1,_ => nofun) rfl)
  have reconnected := told.next (.mk (.main (.connected rfl)) (fun | 0,_ => nofun | k+1,_ => nofun) rfl)
  have taken := reconnected.next (.mk (.session 1 Nat.one_lt_two (.loop (.outbound _ rfl rfl)) (.receive _ [] rfl))
    (fun | 0,_ => nofun | 1,_ => nofun | k+2,_ => nofun) rfl)
  have wrote := taken.next (.mk (.session 1 Nat.one_lt_two (.loop (.wrote _ rfl)) .quiet)
    (fun | 0,_ => nofun | 1,_ => (fun | rfl => .inr List.mem_cons_self) | k+2,_ => nofun) rfl)
  exact ⟨_,_,wrote,rfl,frames_delivered wrote⟩

/-- The ack of a command that outlived its session is taken from the channel by the next
session, whose write fails: it is nowhere. -/
theorem ack_lost : ∃ history c frame, Runs Sample.parse history c ∧ c.main = .between ∧
    frame.ackedId = some Sample.reboot.id ∧ acceptedOf history = [frame] ∧ writtenOf history = [] ∧ writingOf c = [] ∧
    c.outbound = [] ∧ ¬ Delivered history c := by
  obtain ⟨c,runs,main,count,turn,first,second,empty,opened⟩ := Sample.hung
  have zero : 0 < c.count := by omega
  have one : 1 < c.count := by omega
  have room : c.outbound.length < outboundChannelSize := by
    rw [empty]
    decide
  have queued (frame : OutboundFrame) : c.outbound ++ [frame] = frame::[] := by rw [empty,List.nil_append]
  have done := runs.next (.session 0 zero (.task (.returned Sample.reboot true (.result (.ok .null)) (by rw [first]; rfl)
    trivial)) .quiet)
  have acked := done.next (.session 0 zero (.task (.acked _ _ _ _ rfl)) (.send _ opened room))
  have taken := acked.next (.session 1 one (.loop (.outbound _ (congrArg Session.loop second)
    (congrArg Session.inbound second))) (.receive _ [] (queued _)))
  have failed := taken.next (.session 1 one (.loop (.writeFailed _ rfl)) (.finish .reconnect ⟨main,count⟩))
  have told := failed.next (.session 1 one .cancel (.cancel .reconnect ⟨rfl,count⟩))
  refine ⟨_,_,_,told,rfl,repliesTo_ackedId _ _,rfl,rfl,?_,rfl,fun delivered => ?_⟩
  · unfold writingOf
    simp only [set_count,goOn_count,count]
    rfl
  · unfold Delivered writingOf at delivered
    simp only [set_count,goOn_count,count] at delivered
    cases delivered

end GatewaySdk.Client
