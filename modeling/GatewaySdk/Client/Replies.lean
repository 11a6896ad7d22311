import GatewaySdk.Client.Serial
import GatewaySdk.Client.Delivery
import GatewaySdk.Effect.Baton
import GatewaySdk.Order.Weave

/-! The replies of all commands, on whichever session they ran, are one stream in the order
of the commands, and what the manager makes of it. -/
namespace GatewaySdk.Client
open GatewaySdk.Effect GatewaySdk.Upgrade GatewaySdk.Order

/-- How a command ended: with what its hook returned, or in a panic. -/
abbrev Conclusion := Option Returned

def repliesDue (id : String) : Conclusion → List OutboundFrame
  | none => [panickedAck id]
  | some result => (repliesTo id result).1::(repliesTo id result).2.toList

def outcomesOf (facts : List SessionFact) : List (QueuedCommand × Conclusion) :=
  facts.filterMap fun
    | .returned command result => some (command,some result)
    | .panicked command => some (command,none)
    | _ => none

def offersOf (facts : List SessionFact) : List OutboundFrame :=
  facts.filterMap fun | .acked _ frame => some frame | .responded _ frame => some frame | _ => none

def repliesOf (outcomes : List (QueuedCommand × Conclusion)) : List OutboundFrame :=
  outcomes.flatMap fun outcome => repliesDue outcome.1.id outcome.2

namespace Worker

def owes : Worker → List OutboundFrame
  | .running command .panicked _ => [panickedAck command.id]
  | .running _ (.acking _ (some response)) _ => [response]
  | _ => []

def offering : Worker → List OutboundFrame
  | .running _ (.acking frame _) _ => [frame]
  | .running _ (.responding frame) _ => [frame]
  | .acking _ frame _ => [frame]
  | _ => []

theorem empty_handed {worker : Worker} (waits : worker.holds = false) :
    worker.handled = [] ∧ worker.owes = [] ∧ worker.offering = [] := by
  cases worker with
  | unpolled => exact ⟨rfl,rfl,rfl⟩
  | waiting => exact ⟨rfl,rfl,rfl⟩
  | done => exact ⟨rfl,rfl,rfl⟩
  | _ => cases waits

theorem one_in_hand (worker : Worker) :
    worker.handled.length ≤ 1 ∧ worker.owes.length ≤ 1 ∧ worker.offering.length ≤ 1 := by
  cases worker with
  | running command task letGo =>
    cases task with
    | acking frame response =>
      cases response with
      | none => exact ⟨Nat.zero_le 1,Nat.zero_le 1,Nat.le_refl 1⟩
      | some response => exact ⟨Nat.zero_le 1,Nat.le_refl 1,Nat.le_refl 1⟩
    | handling => exact ⟨Nat.le_refl 1,Nat.zero_le 1,Nat.zero_le 1⟩
    | panicked => exact ⟨Nat.zero_le 1,Nat.le_refl 1,Nat.zero_le 1⟩
    | responding frame => exact ⟨Nat.zero_le 1,Nat.zero_le 1,Nat.le_refl 1⟩
    | _ => exact ⟨Nat.zero_le 1,Nat.zero_le 1,Nat.zero_le 1⟩
  | acking command frame letGo => exact ⟨Nat.zero_le 1,Nat.zero_le 1,Nat.le_refl 1⟩
  | _ => exact ⟨Nat.zero_le 1,Nat.zero_le 1,Nat.zero_le 1⟩

end Worker

variable {fromStr : String → Option Json} {k j : Nat} {c granted c' : GatewayClient} {σ τ : Session} {action : Action}
  {command : QueuedCommand} {facts : List SessionFact} {history more : List Fact}

/-- What becomes of the frame on offer, by what the step asks of the channel. -/
def Settling (action : Action) (before offers after : List OutboundFrame) : Prop :=
  match action with
  | .send frame => before ++ offers = frame::after
  | .refuse => True
  | _ => before ++ offers = after

/-- The books of one worker over one step: commands begun and ended, replies called for and
offered, and what of them the channel took. -/
structure Replied (σ : Session) (action : Action) (facts : List SessionFact) (τ : Session) : Prop where
  begun : σ.worker.handled ++ invokedOf facts = (outcomesOf facts).map Prod.fst ++ τ.worker.handled
  owed : σ.worker.owes ++ repliesOf (outcomesOf facts) = offersOf facts ++ τ.worker.owes
  settled : Settling action σ.worker.offering (offersOf facts) τ.worker.offering
  idle : σ.worker.holds = false → τ.worker.holds = false →
    invokedOf facts = [] ∧ repliesOf (outcomesOf facts) = [] ∧ offersOf facts = []

theorem dropped_tells (queue : List QueuedCommand) : invokedOf (queue.map .dropped) = [] ∧
    outcomesOf (queue.map .dropped) = [] ∧ offersOf (queue.map .dropped) = [] :=
  ⟨dropped_only queue _ fun _ => rfl,dropped_only queue _ fun _ => rfl,dropped_only queue _ fun _ => rfl⟩

theorem Replied.quiet (tells : invokedOf facts = [] ∧ outcomesOf facts = [] ∧ offersOf facts = [])
    (unsent : ∀ frame, action ≠ .send frame) (handled : τ.worker.handled = σ.worker.handled)
    (owes : τ.worker.owes = σ.worker.owes) (offering : τ.worker.offering = σ.worker.offering) : Replied σ action facts τ := by
  obtain ⟨invoked,outcomes,offers⟩ := tells
  refine ⟨?_,?_,?_,fun _ _ => ⟨invoked,by rw [outcomes]; rfl,offers⟩⟩
  · rw [invoked,outcomes,handled,List.append_nil]
    rfl
  · rw [outcomes,offers,owes]
    exact List.append_nil _
  · rw [offers,offering]
    cases action with
    | send frame => exact absurd rfl (unsent frame)
    | refuse => trivial
    | _ => exact List.append_nil _

theorem Replied.holding {worker : Worker} (here : σ.worker = worker) (holds : worker.holds = true)
    (begun : worker.handled ++ invokedOf facts = (outcomesOf facts).map Prod.fst ++ τ.worker.handled)
    (owed : worker.owes ++ repliesOf (outcomesOf facts) = offersOf facts ++ τ.worker.owes)
    (settled : Settling action worker.offering (offersOf facts) τ.worker.offering) : Replied σ action facts τ := by
  subst here
  exact ⟨begun,owed,settled,fun waits => absurd (waits.symm.trans holds) nofun⟩

theorem Replied.phase {worker : Worker} (here : σ.worker = worker)
    (tells : invokedOf facts = [] ∧ outcomesOf facts = [] ∧ offersOf facts = []) (unsent : ∀ frame, action ≠ .send frame)
    (same : τ.worker.handled = worker.handled ∧ τ.worker.owes = worker.owes ∧ τ.worker.offering = worker.offering) :
    Replied σ action facts τ := by
  subst here
  exact .quiet tells unsent same.1 same.2.1 same.2.2

theorem ReaderStep.replied (moved : ReaderStep σ τ) : Replied σ .quiet [] τ := by
  cases moved <;> exact .quiet ⟨rfl,rfl,rfl⟩ nofun rfl rfl rfl

theorem LoopStep.replied (moved : LoopStep fromStr σ action facts τ) : Replied σ action facts τ := by
  cases moved with
  | wrote write writing =>
    refine .quiet ⟨?_,?_,?_⟩ nofun rfl rfl rfl <;> exact wrote_only _ _ fun _ => rfl
  | _ => exact .quiet ⟨rfl,rfl,rfl⟩ nofun rfl rfl rfl

theorem WorkerStep.replied (moved : WorkerStep σ action facts τ) : Replied σ action facts τ := by
  have nothing : invokedOf [] = [] ∧ outcomesOf [] = [] ∧ offersOf [] = [] := ⟨rfl,rfl,rfl⟩
  cases moved with
  | asks unpolled live => exact .phase unpolled nothing nofun ⟨rfl,rfl,rfl⟩
  | neverAsked unpolled isOver => exact .phase unpolled (dropped_tells _) nofun ⟨rfl,rfl,rfl⟩
  | gaveUp waiting isOver => exact .phase waiting (dropped_tells _) nofun ⟨rfl,rfl,rfl⟩
  | turn waiting live => exact .phase waiting nothing nofun ⟨rfl,rfl,rfl⟩
  | takes command idle live first => exact .phase idle ⟨rfl,rfl,rfl⟩ nofun ⟨rfl,rfl,rfl⟩
  | stops idle isOver => exact .phase idle (dropped_tells _) nofun ⟨rfl,rfl,rfl⟩
  | unfed idle live empty gone => exact .phase idle nothing nofun ⟨rfl,rfl,rfl⟩
  | letsGo command task running unfinished isOver =>
    refine .phase running (dropped_tells _) nofun ?_
    cases task with
    | acking frame response => cases response <;> exact ⟨rfl,rfl,rfl⟩
    | _ => exact ⟨rfl,rfl,rfl⟩
  | joined command letGo running => exact .phase running nothing nofun ⟨rfl,rfl,rfl⟩
  | panicked command letGo running => exact .holding running rfl rfl rfl rfl
  | sent command frame letGo acking => exact .holding acking rfl rfl rfl rfl
  | unsent command frame letGo acking => exact .holding acking rfl rfl rfl trivial
  | goesOn seen => exact .phase seen nothing nofun ⟨rfl,rfl,rfl⟩
  | returns seen => exact .phase seen nothing nofun ⟨rfl,rfl,rfl⟩

theorem TaskStep.replied (moved : TaskStep fromStr σ action facts τ) : Replied σ action facts τ := by
  cases moved with
  | starts command letGo running => exact .holding running rfl rfl rfl rfl
  | returned command letGo result running fits => cases result <;> exact .holding running rfl rfl rfl rfl
  | panicked command letGo running => exact .holding running rfl rfl rfl rfl
  | acked command letGo frame response running => cases response <;> exact .holding running rfl rfl rfl rfl
  | unacked command letGo frame response running => cases response <;> exact .holding running rfl rfl rfl trivial
  | responded command letGo frame running => exact .holding running rfl rfl rfl rfl
  | unresponded command letGo frame running => exact .holding running rfl rfl rfl trivial

theorem SessionStep.replied (moved : SessionStep fromStr σ action facts τ) : Replied σ action facts τ := by
  cases moved with
  | reader moved => exact moved.replied
  | silent reading => exact .quiet ⟨rfl,rfl,rfl⟩ nofun rfl rfl rfl
  | loop moved => exact moved.replied
  | worker moved => exact moved.replied
  | task moved => exact moved.replied
  | stopped next outside => exact .quiet ⟨rfl,rfl,rfl⟩ nofun rfl rfl rfl
  | cancel => exact .quiet ⟨rfl,rfl,rfl⟩ nofun rfl rfl rfl

def startsOf (history : List Fact) : List (Nat × QueuedCommand) :=
  history.filterMap fun | .of k (.invoked command _) => some (k,command) | _ => none

def endsOf (history : List Fact) : List ((Nat × QueuedCommand) × Conclusion) :=
  history.filterMap fun
    | .of k (.returned command result) => some ((k,command),some result)
    | .of k (.panicked command) => some ((k,command),none)
    | _ => none

def calledFor (history : List Fact) : List OutboundFrame :=
  (endsOf history).flatMap fun ending => repliesDue ending.1.2.id ending.2

def offeredOf (history : List Fact) : List OutboundFrame :=
  history.filterMap fun
    | .of _ (.acked _ frame) => some frame
    | .of _ (.responded _ frame) => some frame
    | _ => none

theorem startsOf_append (history more : List Fact) : startsOf (history ++ more) = startsOf history ++ startsOf more :=
  List.filterMap_append

theorem endsOf_append (history more : List Fact) : endsOf (history ++ more) = endsOf history ++ endsOf more :=
  List.filterMap_append

theorem offeredOf_append (history more : List Fact) : offeredOf (history ++ more) = offeredOf history ++ offeredOf more :=
  List.filterMap_append

theorem calledFor_append (history more : List Fact) : calledFor (history ++ more) = calledFor history ++ calledFor more := by
  rw [calledFor,endsOf_append,List.flatMap_append]
  rfl

theorem startsOf_session (k : Nat) (facts : List SessionFact) :
    startsOf (facts.map (.of k)) = (invokedOf facts).map (k,·) := by
  rw [startsOf,List.filterMap_map,invokedOf,List.map_filterMap]
  congr 1
  funext fact
  cases fact <;> rfl

theorem endsOf_session (k : Nat) (facts : List SessionFact) :
    endsOf (facts.map (.of k)) = (outcomesOf facts).map fun outcome => ((k,outcome.1),outcome.2) := by
  rw [endsOf,List.filterMap_map,outcomesOf,List.map_filterMap]
  congr 1
  funext fact
  cases fact <;> rfl

theorem offeredOf_session (k : Nat) (facts : List SessionFact) : offeredOf (facts.map (.of k)) = offersOf facts := by
  rw [offeredOf,List.filterMap_map,offersOf]
  congr 1
  funext fact
  cases fact <;> rfl

theorem calledFor_session (k : Nat) (facts : List SessionFact) :
    calledFor (facts.map (.of k)) = repliesOf (outcomesOf facts) := by
  rw [calledFor,endsOf_session,List.flatMap_map]
  rfl

/-- Facts that no command's run left. -/
structure Mute (more : List Fact) : Prop where
  starts : startsOf more = []
  ends : endsOf more = []
  offered : offeredOf more = []

theorem Mute.called (mute : Mute more) : calledFor more = [] := by
  rw [calledFor,mute.ends]
  rfl

theorem Grants.mute (grants : Grants k c action more granted) : Mute more := by
  cases grants <;> exact ⟨rfl,rfl,rfl⟩

theorem EmitterStep.mute (moved : EmitterStep c more c') : Mute more := by
  cases moved <;> exact ⟨rfl,rfl,rfl⟩

/-- A step after which vendors have only such frames on offer. -/
structure Vending (allowed : OutboundFrame → Prop) (fromStr : String → Option Json) (c : GatewayClient) (facts : List Fact)
    (c' : GatewayClient) : Prop where
  moved : Step fromStr c facts c'
  vends : ∀ i frame, c'.emitter i = some frame → allowed frame

def GatewayClient.workers (c : GatewayClient) (k : Nat) : Worker := (c.session k).worker

/-- What the worker that has the turn has in hand. -/
abbrev GatewayClient.Holds {α : Type} (c : GatewayClient) (pick : Nat → Worker → List α) (due : List α) : Prop :=
  InHand Worker.holds pick c.workers due

/-- The books of all workers together, and of the channel. -/
structure Ledger (allowed : OutboundFrame → Prop) (history : List Fact) (c : GatewayClient) : Prop where
  begun : ∃ running, c.Holds (fun k worker => worker.handled.map (k,·)) running ∧
    startsOf history = (endsOf history).map Prod.fst ++ running
  owed : ∃ owed, c.Holds (fun _ worker => worker.owes) owed ∧ calledFor history = offeredOf history ++ owed
  sent : ∃ mine vendors, Merged mine vendors (acceptedOf history) ∧ (∀ frame ∈ vendors, allowed frame) ∧
    mine <+: offeredOf history ∧
    (c.closed = false → ∃ waiting, c.Holds (fun _ worker => worker.offering) waiting ∧ offeredOf history = mine ++ waiting)

variable {allowed : OutboundFrame → Prop}

theorem free_hands {α : Type} (pick : Nat → Worker → List α) : GatewayClient.start.Holds pick [] :=
  ⟨nofun,fun _ => rfl⟩

theorem start_ledger : Ledger allowed [] .start where
  begun := ⟨[],free_hands _,rfl⟩
  owed := ⟨[],free_hands _,rfl⟩
  sent := ⟨[],[],.nil,nofun,List.nil_prefix,fun _ => ⟨[],free_hands _,rfl⟩⟩

/-- A step that leaves the workers alone and tells nothing of commands; a vendor's frame may
be taken by the channel. -/
theorem Ledger.around (ledger : Ledger allowed history c) (sessions : c'.session = c.session) (mute : Mute more)
    (opened : c'.closed = false → c.closed = false)
    (taken : acceptedOf more = [] ∨ ∃ frame, acceptedOf more = [frame] ∧ allowed frame) :
    Ledger allowed (history ++ more) c' := by
  have same : c'.workers = c.workers := by
    funext k
    rw [GatewayClient.workers,sessions]
    rfl
  obtain ⟨⟨running,holds,begun⟩,⟨owed,owes,called⟩,mine,vendors,merged,allVend,sent,waits⟩ := ledger
  refine ⟨⟨running,holds.stays same,?_⟩,⟨owed,owes.stays same,?_⟩,?_⟩
  · rw [startsOf_append,endsOf_append,mute.starts,mute.ends,List.append_nil,List.append_nil]
    exact begun
  · rw [calledFor_append,offeredOf_append,mute.called,mute.offered,List.append_nil,List.append_nil]
    exact called
  · rw [acceptedOf_append,offeredOf_append,mute.offered,List.append_nil]
    have kept (opens : c'.closed = false) :
        ∃ waiting, c'.Holds (fun _ worker => worker.offering) waiting ∧ offeredOf history = mine ++ waiting := by
      obtain ⟨waiting,offers,offered⟩ := waits (opened opens)
      exact ⟨waiting,offers.stays same,offered⟩
    obtain none_ | ⟨frame,one,vended⟩ := taken
    · rw [none_,List.append_nil]
      exact ⟨mine,vendors,merged,allVend,sent,kept⟩
    · rw [one]
      refine ⟨mine,vendors ++ [frame],merged.right frame,fun other member => ?_,sent,kept⟩
      obtain before | now := List.mem_append.mp member
      · exact allVend other before
      · rw [List.mem_singleton.mp now]
        exact vended

theorem Settling.kept {before offers after : List OutboundFrame} (settling : Settling action before offers after)
    (unsent : ∀ frame, action ≠ .send frame) (unrefused : action ≠ .refuse) : before ++ offers = after := by
  cases action with
  | send frame => exact absurd rfl (unsent frame)
  | refuse => exact absurd rfl unrefused
  | _ => exact settling

theorem Grants.opened (grants : Grants k c action more granted) (opens : granted.closed = false) : c.closed = false := by
  cases grants with
  | cancel next ended =>
    cases next with
    | drop => cases opens
    | _ => exact opens
  | _ => exact opens

theorem Grants.takes (grants : Grants k c action more granted) :
    (∃ frame, action = .send frame ∧ c.closed = false ∧ acceptedOf more = [frame]) ∨
      ((∀ frame, action ≠ .send frame) ∧ acceptedOf more = [] ∧ (granted.closed = false → action ≠ .refuse)) := by
  cases grants with
  | send frame opened room => exact .inl ⟨frame,rfl,opened,rfl⟩
  | refuse shut => exact .inr ⟨nofun,rfl,fun opens => absurd (shut.symm.trans opens) nofun⟩
  | _ => exact .inr ⟨nofun,rfl,nofun⟩

theorem Lined.lone (lined : Lined c) : Lone Worker.holds c.workers :=
  fun _ _ first second => lined.one_holds first second

theorem GatewayClient.Holds.moves {α : Type} {pick : Nat → Worker → List α} {due put taken : List α} (holds : c.Holds pick due)
    (sessions : granted.session = c.session) (lone : Lone Worker.holds c.workers)
    (lone' : Lone Worker.holds (granted.set k σ).workers) (empty : ∀ k worker, worker.holds = false → pick k worker = [])
    (idle : (c.session k).worker.holds = false → σ.worker.holds = false → put = [])
    (balance : pick k (c.session k).worker ++ put = taken ++ pick k σ.worker) :
    ∃ due', (granted.set k σ).Holds pick due' ∧ due ++ put = taken ++ due' := by
  have here : (granted.set k σ).workers k = σ.worker := by rw [GatewayClient.workers,set_same]
  have others (j : Nat) (other : j ≠ k) : (granted.set k σ).workers j = c.workers j := by
    rw [GatewayClient.workers,set_other _ _ other,sessions]
    rfl
  refine InHand.moves holds lone lone' others empty (fun before after => idle before (here ▸ after)) ?_
  rw [here]
  exact balance

theorem Ledger.session (ledger : Ledger allowed history c) (moved : SessionStep fromStr (c.session k) action facts σ)
    (grants : Grants k c action more granted) (lone : Lone Worker.holds c.workers)
    (lone' : Lone Worker.holds (granted.set k σ).workers) :
    Ledger allowed (history ++ (facts.map (.of k) ++ more)) (granted.set k σ) := by
  have sessions := grants.session
  have mute := grants.mute
  obtain ⟨begins,owes,settling,idle⟩ := moved.replied
  obtain ⟨⟨running,holds,begun⟩,⟨owed,owing,called⟩,mine,vendors,merged,allVend,sent,waits⟩ := ledger
  refine ⟨?_,?_,?_⟩
  · have balance := congrArg (List.map fun command => (k,command)) begins
    rw [List.map_append,List.map_append] at balance
    have unbegun (before : (c.session k).worker.holds = false) (after : σ.worker.holds = false) :
        (invokedOf facts).map (k,·) = [] := by rw [(idle before after).1,List.map_nil]
    obtain ⟨running',holds',moves⟩ := holds.moves sessions lone lone'
      (fun j worker waits => by rw [(Worker.empty_handed waits).1,List.map_nil]) unbegun balance
    refine ⟨running',holds',?_⟩
    rw [startsOf_append,startsOf_append,endsOf_append,endsOf_append,mute.starts,mute.ends,List.append_nil,List.append_nil,
      startsOf_session,endsOf_session,begun,List.append_assoc,moves,List.map_append,List.append_assoc,List.map_map,
      List.map_map]
    rfl
  · obtain ⟨owed',owing',moves⟩ := owing.moves sessions lone lone' (fun j worker waits => (Worker.empty_handed waits).2.1)
      (fun before after => (idle before after).2.1) owes
    refine ⟨owed',owing',?_⟩
    rw [calledFor_append,calledFor_append,offeredOf_append,offeredOf_append,mute.called,mute.offered,List.append_nil,
      List.append_nil,calledFor_session,offeredOf_session,called,List.append_assoc,moves,List.append_assoc]
  · rw [acceptedOf_append,acceptedOf_append,acceptedOf_session,List.nil_append,offeredOf_append,offeredOf_append,
      mute.offered,List.append_nil,offeredOf_session]
    -- what waits for room and what is offered now is what the channel takes and what waits then
    have moves {taken waiting : List OutboundFrame} (offers : c.Holds (fun _ worker => worker.offering) waiting)
        (balance : (c.session k).worker.offering ++ offersOf facts = taken ++ σ.worker.offering) :
        ∃ waiting', (granted.set k σ).Holds (fun _ worker => worker.offering) waiting' ∧
          waiting ++ offersOf facts = taken ++ waiting' :=
      offers.moves sessions lone lone' (fun j worker waits => (Worker.empty_handed waits).2.2)
        (fun before after => (idle before after).2.2) balance
    obtain ⟨frame,rfl,opened,took⟩ | ⟨unsent,took,unrefused⟩ := grants.takes
    · obtain ⟨waiting,offers,offered⟩ := waits opened
      obtain ⟨waiting',offers',moved⟩ := @moves [frame] waiting offers settling
      have all : offeredOf history ++ offersOf facts = (mine ++ [frame]) ++ waiting' := by
        rw [offered,List.append_assoc,moved,List.append_assoc]
      rw [took]
      exact ⟨mine ++ [frame],vendors,merged.left frame,allVend,all ▸ List.prefix_append _ _,fun _ => ⟨waiting',offers',all⟩⟩
    · rw [took,List.append_nil]
      refine ⟨mine,vendors,merged,allVend,sent.trans (List.prefix_append _ _),fun opens => ?_⟩
      obtain ⟨waiting,offers,offered⟩ := waits (grants.opened opens)
      obtain ⟨waiting',offers',moved⟩ := @moves [] waiting offers (settling.kept unsent (unrefused opens))
      refine ⟨waiting',offers',?_⟩
      rw [offered,List.append_assoc,moved]
      rfl

theorem Vending.ledger (vending : Vending allowed fromStr c more c') (phased : Phased c)
    (offers : ∀ i frame, c.emitter i = some frame → allowed frame) (lone : Lone Worker.holds c.workers)
    (lone' : Lone Worker.holds c'.workers) (ledger : Ledger allowed history c) : Ledger allowed (history ++ more) c' := by
  cases vending.moved with
  | session k born moved grants => exact ledger.session moved grants lone lone'
  | main moved =>
    cases moved with
    | connected between => exact ledger.around phased.set_fresh ⟨rfl,rfl,rfl⟩ id (.inl rfl)
    | stopped between => exact ledger.around rfl ⟨rfl,rfl,rfl⟩ nofun (.inl rfl)
    | closeWritten closing => exact ledger.around rfl ⟨rfl,rfl,rfl⟩ nofun (.inl rfl)
    | drained draining first => exact ledger.around rfl ⟨rfl,rfl,rfl⟩ nofun (.inl rfl)
    | expired draining => exact ledger.around rfl ⟨rfl,rfl,rfl⟩ nofun (.inl rfl)
    | abandoned waiting => exact ledger.around rfl ⟨rfl,rfl,rfl⟩ nofun (.inl rfl)
  | emitter moved =>
    cases moved with
    | sends i frame offered opened room =>
      exact ledger.around rfl ⟨rfl,rfl,rfl⟩ id (.inr ⟨frame,rfl,offers i frame offered⟩)
    | _ => exact ledger.around rfl ⟨rfl,rfl,rfl⟩ id (.inl rfl)

theorem Vending.runs (runs : Reaches (Vending allowed fromStr) .start history c) : Runs fromStr history c :=
  runs.mono fun _ _ _ vending => vending.moved

theorem Vending.offers (runs : Reaches (Vending allowed fromStr) .start history c) (i : Nat) (frame : OutboundFrame)
    (offered : c.emitter i = some frame) : allowed frame := by
  cases runs with
  | start => cases offered
  | next before vending => exact vending.vends i frame offered

theorem runs_ledger (runs : Reaches (Vending allowed fromStr) .start history c) : Ledger allowed history c := by
  induction runs with
  | start => exact start_ledger
  | next before vending ledger =>
    have after := Vending.runs (before.next vending)
    have known := Vending.runs before
    exact vending.ledger (runs_phased known) (Vending.offers before) (runs_lined known).lone (runs_lined after).lone ledger

/-- The frames a vendor sends that are neither acks nor configs. -/
def Unconfiguring (frame : OutboundFrame) : Prop := frame.msgType ≠ "command_ack" ∧ frame.msgType ≠ "config_response"

namespace Sample

def asking : String :=
  "\x7b\"type\":\"command\",\"payload\":\x7b\"command_id\":\"c2\",\"action\":\x7b\"type\":\"get_config\"\x7d\x7d\x7d"

def request : Json := .obj [("command_id",.str "c2"),("action",.obj [("type",.str "get_config")])]

def parseAsking (text : String) : Option Json :=
  if text = asking then some (.obj [("type",.str "command"),("payload",request)]) else none

def getConfig : QueuedCommand := ⟨0,"c2",asking⟩

def snapshot : Json := .obj [("node",.str "n1")]

theorem asking_short : asking.utf8ByteSize ≤ maxInboundWsBytes := by decide

theorem asking_cost : cost asking ≤ commandQueueBytes := by decide

theorem asking_routed {σ : Session} (arrivals : σ.arrivals = 0) (free : σ.commandFree = commandQueueBytes)
    (kept : σ.worker.letGo = false) (empty : σ.queue = []) : routeInbound parseAsking σ asking = .queued getConfig := by
  have parsed : IncomingMessage.parse parseAsking asking = some ⟨"command",request⟩ := rfl
  have enough : ¬ commandQueueBytes < cost asking := Nat.not_lt.mpr asking_cost
  have room : ([] : List QueuedCommand).length < commandQueueSize := by decide
  unfold routeInbound
  rw [parsed]
  simp only [if_true,free,if_neg enough,kept,empty,arrivals,room,Bool.false_eq_true,if_false]
  rfl

theorem asking_hook : hookOf parseAsking getConfig = .onConfigRequest := by
  have action : actionOf parseAsking getConfig.frame = .obj [("type",.str "get_config")] := rfl
  rw [hookOf,action]
  rfl

/-- A `get_config` whose ack goes out on its session and whose config on the next one. -/
theorem answered : ∃ past c,
    Reaches (Vending Unconfiguring parseAsking) .start (past ++ [.of 1 (.wrote (configResponse snapshot))]) c ∧
    endsOf past = [((0,getConfig),some (.config snapshot))] ∧
    writtenOf past = [(0,commandAck "c2" (.ok .null))] := by
  have nobody (c : GatewayClient) (free : c.emitter = fun _ => none) (i : Nat) (frame : OutboundFrame)
      (offered : c.emitter i = some frame) : Unconfiguring frame := by
    rw [free] at offered
    cases offered
  have connected : Reaches (Vending Unconfiguring parseAsking) .start _ _ :=
    Reaches.start.next ⟨.main (.connected rfl),nobody _ rfl⟩
  have read := connected.next ⟨.session 0 Nat.one_pos (.reader (.text asking rfl asking_short)) .quiet,nobody _ rfl⟩
  have granted := read.next ⟨.session 0 Nat.one_pos (.reader (.granted asking rfl asking_cost)) .quiet,nobody _ rfl⟩
  have handed := granted.next
    ⟨.session 0 Nat.one_pos (.reader (.handed (.text asking) rfl (by decide))) .quiet,nobody _ rfl⟩
  have queued := handed.next
    ⟨.session 0 Nat.one_pos (.loop (.queued asking getConfig rfl rfl (asking_routed rfl rfl rfl rfl))) .quiet,nobody _ rfl⟩
  have asked := queued.next ⟨.session 0 Nat.one_pos (.worker (.asks rfl rfl)) .join,nobody _ rfl⟩
  have turned := asked.next ⟨.session 0 Nat.one_pos (.worker (.turn rfl rfl)) (.hold rfl),nobody _ rfl⟩
  have taken := turned.next ⟨.session 0 Nat.one_pos (.worker (.takes getConfig rfl rfl rfl)) .quiet,nobody _ rfl⟩
  have started := taken.next ⟨.session 0 Nat.one_pos (.task (.starts getConfig false rfl)) .quiet,nobody _ rfl⟩
  have returned := started.next ⟨.session 0 Nat.one_pos
    (.task (.returned getConfig false (.config snapshot) rfl (by rw [asking_hook]; trivial))) .quiet,nobody _ rfl⟩
  have acked := returned.next
    ⟨.session 0 Nat.one_pos (.task (.acked getConfig false _ _ rfl)) (.send _ rfl (by decide)),nobody _ rfl⟩
  have responded := acked.next
    ⟨.session 0 Nat.one_pos (.task (.responded getConfig false _ rfl)) (.send _ rfl (by decide)),nobody _ rfl⟩
  have ackTaken := responded.next
    ⟨.session 0 Nat.one_pos (.loop (.outbound _ rfl rfl)) (.receive _ [configResponse snapshot] rfl),nobody _ rfl⟩
  have ackWritten := ackTaken.next ⟨.session 0 Nat.one_pos (.loop (.wrote _ rfl)) .quiet,nobody _ rfl⟩
  have silent := ackWritten.next ⟨.session 0 Nat.one_pos (.silent rfl) (.finish .reconnect ⟨rfl,rfl⟩),nobody _ rfl⟩
  have told := silent.next ⟨.session 0 Nat.one_pos .cancel (.cancel .reconnect ⟨rfl,rfl⟩),nobody _ rfl⟩
  have reconnected := told.next ⟨.main (.connected rfl),nobody _ rfl⟩
  have configTaken := reconnected.next
    ⟨.session 1 Nat.one_lt_two (.loop (.outbound _ rfl rfl)) (.receive _ [] rfl),nobody _ rfl⟩
  have configWritten := configTaken.next ⟨.session 1 Nat.one_lt_two (.loop (.wrote _ rfl)) .quiet,nobody _ rfl⟩
  exact ⟨_,_,configWritten,rfl,rfl⟩

end Sample

/-- What the end of a command calls for: its ack, and the config that was asked for and returned. -/
structure Answers (fromStr : String → Option Json) (command : QueuedCommand) (conclusion : Conclusion)
    (replies : List OutboundFrame) : Prop where
  acks : ∃ ack, replies.head? = some ack ∧ ack.msgType = "command_ack" ∧
    ack.payload.field "command_id" = some (.str command.id)
  config : ∀ snapshot, conclusion = some (.config snapshot) →
    AsksConfig fromStr command.frame ∧ replies.tail = [⟨"config_response",snapshot⟩]
  other : (∀ snapshot, conclusion ≠ some (.config snapshot)) → replies.tail = []

theorem mem_endsOf {ending : (Nat × QueuedCommand) × Conclusion} (ended : ending ∈ endsOf history) :
    (∃ result, Fact.of ending.1.1 (.returned ending.1.2 result) ∈ history ∧ ending.2 = some result) ∨
      Fact.of ending.1.1 (.panicked ending.1.2) ∈ history ∧ ending.2 = none := by
  obtain ⟨fact,told,same⟩ := List.mem_filterMap.mp ended
  cases fact with
  | of k fact =>
    cases fact with
    | returned command result =>
      cases same
      exact .inl ⟨result,told,rfl⟩
    | panicked command =>
      cases same
      exact .inr ⟨told,rfl⟩
    | _ => cases same
  | _ => cases same

theorem ends_asked (runs : Runs fromStr history c) {asked : Nat × QueuedCommand} {snapshot : Json}
    (ended : (asked,some (.config snapshot)) ∈ endsOf history) : AsksConfig fromStr asked.2.frame := by
  obtain ⟨result,told,same⟩ | ⟨_,none_⟩ := mem_endsOf ended
  · cases same
    have own : SessionFact.returned asked.2 (.config snapshot) ∈ factsOf asked.1 history :=
      List.mem_filterMap.mpr ⟨_,told,if_pos rfl⟩
    exact ((alone_proper (session_alone runs asked.1).1).1 _ own).mp ⟨snapshot,rfl⟩
  · cases none_

theorem ends_answered (runs : Runs fromStr history c) {ending : (Nat × QueuedCommand) × Conclusion}
    (ended : ending ∈ endsOf history) :
    Answers fromStr ending.1.2 ending.2 (repliesDue ending.1.2.id ending.2) := by
  obtain ⟨asked,conclusion⟩ := ending
  have acked (result : Except CommandError Json) : (commandAck asked.2.id result).msgType = "command_ack" ∧
      (commandAck asked.2.id result).payload.field "command_id" = some (.str asked.2.id) :=
    OutboundFrame.ackedId_iff.mp (commandAck_ackedId _ _)
  cases conclusion with
  | none => exact ⟨⟨_,rfl,acked _⟩,nofun,fun _ => rfl⟩
  | some result =>
    cases result with
    | config snapshot =>
      refine ⟨⟨_,rfl,acked _⟩,?_,fun none_ => absurd rfl (none_ snapshot)⟩
      rintro _ ⟨⟩
      exact ⟨ends_asked runs ended,rfl⟩
    | result result => exact ⟨⟨_,rfl,acked _⟩,nofun,fun _ => rfl⟩

/-- One command runs at a time, over all sessions; what its end calls for is its ack and the config it asked for,
and is offered to the channel in that order, and taken in that order into whatever vendors send. -/
theorem replies_in_order (runs : Reaches (Vending allowed fromStr) .start history c) :
    (∃ running, startsOf history = (endsOf history).map Prod.fst ++ running ∧ running.length ≤ 1) ∧
      (∀ ending ∈ endsOf history, Answers fromStr ending.1.2 ending.2 (repliesDue ending.1.2.id ending.2)) ∧
      (∃ owed, calledFor history = offeredOf history ++ owed ∧ owed.length ≤ 1) ∧
      ∃ mine vendors, Merged mine vendors (acceptedOf history) ∧ (∀ frame ∈ vendors, allowed frame) ∧
        mine <+: offeredOf history ∧ (c.closed = false → ∃ waiting, offeredOf history = mine ++ waiting ∧ waiting.length ≤ 1) := by
  obtain ⟨⟨running,holds,begun⟩,⟨owed,owes,called⟩,mine,vendors,merged,allVend,sent,waits⟩ := runs_ledger runs
  refine ⟨⟨running,begun,?_⟩,fun ending => ends_answered (Vending.runs runs),⟨owed,called,?_⟩,mine,vendors,merged,allVend,
    sent,fun opened => ?_⟩
  · apply holds.within
    intro k worker
    rw [List.length_map]
    exact worker.one_in_hand.1
  · exact owes.within fun k worker => worker.one_in_hand.2.1
  · obtain ⟨waiting,offers,offered⟩ := waits opened
    exact ⟨waiting,offered,offers.within fun k worker => worker.one_in_hand.2.2⟩

theorem answered_in_order : ∃ history c, Reaches (Vending Unconfiguring Sample.parseAsking) .start history c ∧
    endsOf history = [((0,Sample.getConfig),some (.config Sample.snapshot))] ∧
    Answers Sample.parseAsking Sample.getConfig (some (.config Sample.snapshot))
      (repliesDue Sample.getConfig.id (some (.config Sample.snapshot))) ∧
    ∃ owed, calledFor history = offeredOf history ++ owed ∧ owed.length ≤ 1 := by
  obtain ⟨past,c,runs,ends,_⟩ := Sample.answered
  have ended : endsOf (past ++ [.of 1 (.wrote (configResponse Sample.snapshot))]) =
      [((0,Sample.getConfig),some (.config Sample.snapshot))] := by
    rw [endsOf_append,ends]
    rfl
  have ordered := replies_in_order runs
  exact ⟨_,c,runs,ended,ordered.2.1 _ (ended ▸ List.mem_cons_self),ordered.2.2.1⟩

/-- What sessions put on the wire for a manager's cache to see, in order: the frames of the channel that are written, and
the acks of refused commands, each from where its write begins. -/
def wireOf (history : List Fact) : List OutboundFrame :=
  history.filterMap fun
    | .of _ (.wrote frame) => some frame
    | .of _ (.refused _ ack) => some ack
    | _ => none

/-- A manager's cached config: an ack invalidates it, a `config_response` fills it. -/
def cached (cache : Option Json) (frame : OutboundFrame) : Option Json :=
  if frame.msgType = "command_ack" then none
  else if frame.msgType = "config_response" then some frame.payload
  else cache

def isReply (frame : OutboundFrame) : Bool := frame.msgType = "command_ack" || frame.msgType = "config_response"

theorem Unconfiguring.isReply {frame : OutboundFrame} (vended : Unconfiguring frame) : isReply frame = false := by
  simp [Client.isReply,vended.1,vended.2]

theorem cached_deaf {frames : List OutboundFrame} (none_ : frames.filter isReply = []) (cache : Option Json) :
    frames.foldl cached cache = cache := by
  induction frames with
  | nil => rfl
  | cons frame frames ih =>
    obtain ⟨other,rest⟩ := List.forall_mem_cons.mp (List.filter_eq_nil_iff.mp none_)
    have unmoved : cached cache frame = cache := by
      simp only [isReply,Bool.or_eq_true,decide_eq_true_eq,not_or] at other
      rw [cached,if_neg other.1,if_neg other.2]
    rw [List.foldl_cons,unmoved,ih (List.filter_eq_nil_iff.mpr rest)]

theorem replies_written (runs : Reaches (Vending Unconfiguring fromStr) .start history c) :
    (((writtenOf history).map Prod.snd).filter isReply).Sublist (calledFor history) := by
  obtain ⟨-,⟨owed,-,called⟩,mine,vendors,merged,allVend,sent,-⟩ := runs_ledger runs
  have written : ((writtenOf history).map Prod.snd).Sublist (acceptedOf history) :=
    (List.sublist_append_left _ _).trans (runs_sifted (Vending.runs runs))
  have own : (acceptedOf history).filter isReply = mine.filter isReply :=
    merged.filter fun frame vendor => (allVend frame vendor).isReply
  have replies : (((writtenOf history).map Prod.snd).filter isReply).Sublist mine := by
    have filtered := written.filter isReply
    rw [own] at filtered
    exact filtered.trans List.filter_sublist
  have offered : mine.Sublist (calledFor history) := by
    rw [called]
    exact sent.sublist.trans (List.sublist_append_left _ _)
  exact replies.trans offered

theorem config_due {id : String} {conclusion : Conclusion} {frame : OutboundFrame} {before after : List OutboundFrame}
    (isConfig : frame.msgType = "config_response") (due : repliesDue id conclusion = before ++ frame::after) :
    conclusion = some (.config frame.payload) ∧ after = [] := by
  have no_ack {result : Except CommandError Json} (ack : commandAck id result = frame) : False := by
    rw [← ack] at isConfig
    exact (show "command_ack" ≠ "config_response" by decide) isConfig
  have alone {result : Except CommandError Json} (one : [commandAck id result] = before ++ frame::after) : False := by
    cases before with
    | nil => exact no_ack (List.cons_eq_cons.mp one).1
    | cons first before => cases before <;> cases (List.cons_eq_cons.mp one).2
  cases conclusion with
  | none => exact (alone due).elim
  | some result =>
    cases result with
    | result result => exact (alone due).elim
    | config snapshot =>
      cases before with
      | nil => exact (no_ack (List.cons_eq_cons.mp due).1).elim
      | cons first before =>
        cases before with
        | nil =>
          obtain ⟨same,rest⟩ := List.cons_eq_cons.mp (List.cons_eq_cons.mp due).2
          rw [← same]
          exact ⟨rfl,rest.symm⟩
        | cons second before => cases before <;> cases (List.cons_eq_cons.mp (List.cons_eq_cons.mp due).2).2

theorem wireOf_append (history more : List Fact) : wireOf (history ++ more) = wireOf history ++ wireOf more :=
  List.filterMap_append

theorem wireOf_unrefused (unrefused : ∀ k command ack, Fact.of k (.refused command ack) ∉ history) :
    wireOf history = (writtenOf history).map Prod.snd := by
  induction history with
  | nil => rfl
  | cons fact history ih =>
    have rest := ih fun k command ack told => unrefused k command ack (List.mem_cons_of_mem _ told)
    cases fact with
    | of k fact =>
      cases fact with
      | wrote frame => exact congrArg (frame :: ·) rest
      | refused command ack => exact absurd List.mem_cons_self (unrefused k command ack)
      | _ => exact rest
    | _ => exact rest

/-- A written config is the one a command returned that had asked for it, and the acks written after it are those of
commands that ended later: its own never follows it. So where no command has ended since and none has been refused, it is
the one that a manager holds. -/
theorem config_kept {past rest : List Fact} {frame : OutboundFrame}
    (runs : Reaches (Vending Unconfiguring fromStr) .start (past ++ .of k (.wrote frame)::rest) c)
    (isConfig : frame.msgType = "config_response") : ∃ earlier asked later,
      endsOf (past ++ .of k (.wrote frame)::rest) = earlier ++ (asked,some (.config frame.payload))::later ∧
      AsksConfig fromStr asked.2.frame ∧
      (∀ reply ∈ (writtenOf rest).map Prod.snd, isReply reply = true →
        ∃ ending ∈ later, reply ∈ repliesDue ending.1.2.id ending.2) ∧
      (later = [] → (∀ j command ack, Fact.of j (.refused command ack) ∉ rest) →
        (wireOf (past ++ .of k (.wrote frame)::rest)).foldl cached none = some frame.payload) := by
  have reply : isReply frame = true := by simp [isReply,isConfig]
  have written : (writtenOf (past ++ .of k (.wrote frame)::rest)).map Prod.snd =
      (writtenOf past).map Prod.snd ++ frame::(writtenOf rest).map Prod.snd := by
    rw [writtenOf_append,List.map_append]
    rfl
  have ordered := replies_written runs
  rw [written,List.filter_append,List.filter_cons_of_pos reply] at ordered
  obtain ⟨earlier,⟨asked,conclusion⟩,later,before,after,split,due,replies⟩ :=
    sublist_flatMap ((List.sublist_append_right _ _).trans ordered)
  obtain ⟨rfl,rfl⟩ := config_due isConfig due
  have ended : (asked,some (.config frame.payload)) ∈ endsOf (past ++ .of k (.wrote frame)::rest) := by
    rw [split]
    exact List.mem_append_right _ List.mem_cons_self
  refine ⟨earlier,asked,later,split,ends_asked (Vending.runs runs) ended,fun other written isReply => ?_,
    fun none_ unrefused => ?_⟩
  · exact List.mem_flatMap.mp (replies.subset (List.mem_filter.mpr ⟨written,isReply⟩))
  · rw [none_] at replies
    have deaf : (wireOf rest).filter isReply = [] := by
      rw [wireOf_unrefused unrefused]
      exact List.sublist_nil.mp replies
    have fills (cache : Option Json) : cached cache frame = some frame.payload := by simp [cached,isConfig]
    rw [wireOf_append,List.foldl_append]
    exact (cached_deaf deaf _).trans (fills _)

theorem answered_config_kept : ∃ past c,
    Reaches (Vending Unconfiguring Sample.parseAsking) .start (past ++ [.of 1 (.wrote (configResponse Sample.snapshot))]) c ∧
    (wireOf (past ++ [.of 1 (.wrote (configResponse Sample.snapshot))])).foldl cached none = some Sample.snapshot := by
  obtain ⟨past,c,runs,ends,_⟩ := Sample.answered
  obtain ⟨earlier,asked,later,split,_,_,holds⟩ := config_kept runs rfl
  have last : later = [] := by
    rw [endsOf_append,ends] at split
    cases earlier with
    | nil => exact (List.cons_eq_cons.mp split).2.symm
    | cons first earlier => cases earlier <;> cases (List.cons_eq_cons.mp split).2
  exact ⟨past,c,runs,holds last nofun⟩

end GatewaySdk.Client
