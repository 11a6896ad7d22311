import GatewaySdk.Client.Run

/-! The two byte budgets of a session and the sizes of its two channels. -/
namespace GatewaySdk.Client
open GatewaySdk.Effect GatewaySdk.Upgrade

variable {fromStr : String → Option Json} {σ τ : Session} {action : Action} {facts : List SessionFact} {text : String}
  {command : QueuedCommand}

@[simp] theorem permits_nil : permits [] = 0 := rfl

@[simp] theorem permits_cons (text : String) (texts : List String) :
    permits (text::texts) = cost text + permits texts := rfl

@[simp] theorem permits_append (first rest : List String) :
    permits (first ++ rest) = permits first + permits rest := by
  induction first with
  | nil => exact (Nat.zero_add _).symm
  | cons text first ih => rw [List.cons_append,permits_cons,permits_cons,ih,Nat.add_assoc]

theorem routeInbound_queued (routing : routeInbound fromStr σ text = .queued command) :
    command.arrival = σ.arrivals ∧ command.frame = text ∧ cost text ≤ σ.commandFree ∧
      σ.worker.letGo = false ∧ σ.queue.length < commandQueueSize := by
  unfold routeInbound at routing
  split at routing
  · cases routing
  next message _ =>
    by_cases isCommand : message.msgType = "command"
    · simp only [if_pos isCommand] at routing
      by_cases poor : σ.commandFree < cost text
      · simp [if_pos poor] at routing
      · by_cases closed : σ.worker.letGo = true
        · simp [poor,closed] at routing
        · by_cases room : σ.queue.length < commandQueueSize
          · simp only [poor,closed,room,if_false,if_true,Bool.false_eq_true] at routing
            cases routing
            exact ⟨rfl,rfl,Nat.le_of_not_lt poor,by simpa using closed,room⟩
          · simp [poor,closed,room] at routing
    · simp only [if_neg isCommand] at routing
      split at routing <;> cases routing

theorem routeInbound_busy {held : Bool} (routing : routeInbound fromStr σ text = .busy command held) :
    command.arrival = σ.arrivals ∧ command.frame = text ∧ (held = true → cost text ≤ σ.commandFree) := by
  unfold routeInbound at routing
  split at routing
  · cases routing
  next message _ =>
    by_cases isCommand : message.msgType = "command"
    · simp only [if_pos isCommand] at routing
      by_cases poor : σ.commandFree < cost text
      · simp only [if_pos poor] at routing
        cases routing
        exact ⟨rfl,rfl,nofun⟩
      · by_cases closed : σ.worker.letGo = true
        · simp [poor,closed] at routing
        · by_cases room : σ.queue.length < commandQueueSize
          · simp [poor,closed,room] at routing
          · simp only [poor,closed,room,if_false,Bool.false_eq_true] at routing
            cases routing
            exact ⟨rfl,rfl,fun _ => Nat.le_of_not_lt poor⟩
    · simp only [if_neg isCommand] at routing
      split at routing <;> cases routing

/-- Only a worker that has let its queue go makes a command fail to be routed. -/
theorem routeInbound_stopped (routing : routeInbound fromStr σ text = .stopped) : σ.worker.letGo = true := by
  unfold routeInbound at routing
  split at routing
  · cases routing
  next message _ =>
    by_cases isCommand : message.msgType = "command"
    · simp only [if_pos isCommand] at routing
      by_contra closed
      by_cases poor : σ.commandFree < cost text
      · simp [if_pos poor] at routing
      · by_cases room : σ.queue.length < commandQueueSize
        · simp [poor,closed,room] at routing
        · simp [poor,closed,room] at routing
    · simp only [if_neg isCommand] at routing
      split at routing <;> cases routing

/-- The text the reader has in hand while it waits for permits. -/
def Reader.asked : Reader → List String
  | .budget text => [text]
  | _ => []

@[simp] theorem Reader.asked_after (item : Inbound) : (Reader.after item).asked = [] := by
  unfold after
  split <;> rfl

/-- Every permit is free or held by one frame, and every frame is within its limit. -/
structure Budgets (σ : Session) : Prop where
  inbound : σ.inboundFree + permits σ.texts = inboundBudgetBytes
  commands : σ.commandFree + permits σ.frames = commandQueueBytes
  places : σ.queue.length ≤ commandQueueSize
  room : σ.inbound.length ≤ inboundChannelSize
  shortTexts : ∀ text ∈ σ.texts ++ σ.reader.asked, text.utf8ByteSize ≤ maxInboundWsBytes
  shortFrames : ∀ frame ∈ σ.frames, frame.utf8ByteSize ≤ maxInboundWsBytes

theorem fresh_budgets : Budgets .fresh where
  inbound := rfl
  commands := rfl
  places := Nat.zero_le _
  room := Nat.zero_le _
  shortTexts := nofun
  shortFrames := nofun

/-- A step that takes no permit and gives none back, whatever room it makes. -/
theorem Budgets.same (held : Budgets σ) (inboundFree : τ.inboundFree = σ.inboundFree) (commandFree : τ.commandFree = σ.commandFree)
    (texts : τ.texts = σ.texts) (frames : τ.frames = σ.frames) (reader : τ.reader = σ.reader)
    (queue : τ.queue.length ≤ σ.queue.length) (channel : τ.inbound.length ≤ σ.inbound.length) : Budgets τ where
  inbound := by rw [inboundFree,texts,held.inbound]
  commands := by rw [commandFree,frames,held.commands]
  places := Nat.le_trans queue held.places
  room := Nat.le_trans channel held.room
  shortTexts := by
    rw [texts,reader]
    exact held.shortTexts
  shortFrames := by
    rw [frames]
    exact held.shortFrames

theorem reader_budgets (moved : ReaderStep σ τ) (held : Budgets σ) : Budgets τ := by
  obtain ⟨inbound,commands,places,room,shortTexts,shortFrames⟩ := held
  cases moved with
  | ping data reading free =>
    refine ⟨?_,commands,places,?_,?_,shortFrames⟩
    · simpa [Session.texts,Inbound.texts] using inbound
    · rw [List.length_append]
      exact free
    · simpa [Session.texts,Inbound.texts] using shortTexts
  | pingUnanswered reading full => exact ⟨inbound,commands,places,room,shortTexts,shortFrames⟩
  | text text reading short =>
    refine ⟨?_,commands,places,room,?_,shortFrames⟩
    · simpa [Session.texts,reading,Reader.texts] using inbound
    · intro other member
      simp only [Session.texts,Reader.texts,Reader.asked,List.append_nil,List.mem_append,List.mem_singleton] at member
      obtain before | rfl := member
      · exact shortTexts other (by simp only [Session.texts,List.mem_append]; tauto)
      · exact short
  | ignored reading => exact ⟨inbound,commands,places,room,shortTexts,shortFrames⟩
  | ends item reading final =>
    refine ⟨?_,commands,places,room,?_,shortFrames⟩
    · obtain rfl | rfl | rfl := final <;> simpa [Session.texts,reading,Reader.texts,Inbound.texts] using inbound
    · obtain rfl | rfl | rfl := final <;>
        simpa [Session.texts,reading,Reader.texts,Reader.asked,Inbound.texts] using shortTexts
  | granted text waits enough =>
    refine ⟨?_,commands,places,room,?_,shortFrames⟩
    · simp only [Session.texts,waits,Reader.texts,Inbound.texts,permits_append,permits_cons,permits_nil] at inbound ⊢
      omega
    · simpa [Session.texts,waits,Reader.texts,Reader.asked,Inbound.texts,or_comm,or_assoc,or_left_comm]
        using shortTexts
  | handed item waits free =>
    refine ⟨?_,commands,places,?_,?_,shortFrames⟩
    · simp only [Session.texts,waits,Reader.texts_room,Reader.texts_after,List.flatMap_append,List.flatMap_cons,
        List.flatMap_nil,List.append_nil,permits_append] at inbound ⊢
      omega
    · rw [List.length_append]
      exact free
    · have nothing : (Reader.room item).asked = [] := rfl
      simpa [Session.texts,waits,nothing,or_assoc] using shortTexts

theorem ended_budgets (held : Budgets σ) : Budgets σ.ended where
  inbound := by
    simpa [Session.ended,Session.texts,Reader.texts,Loop.texts] using held.inbound
  commands := by
    have commands := held.commands
    simp only [Session.ended,Session.frames,Loop.frames,permits_append,permits_nil] at commands ⊢
    omega
  places := held.places
  room := Nat.zero_le _
  shortTexts := nofun
  shortFrames frame member := by
    apply held.shortFrames
    simp only [Session.ended,Session.frames,Loop.frames,List.append_nil,List.mem_append] at member ⊢
    tauto

theorem dropQueue_budgets {worker : Worker} (same : worker.uninvoked = σ.worker.uninvoked) (held : Budgets σ) :
    Budgets (σ.dropQueue worker) where
  inbound := held.inbound
  commands := by
    have commands := held.commands
    simp only [Session.dropQueue,Session.frames,same,List.map_nil,permits_append,permits_nil] at commands ⊢
    omega
  places := Nat.zero_le _
  room := held.room
  shortTexts := held.shortTexts
  shortFrames frame member := by
    apply held.shortFrames
    simp only [Session.dropQueue,Session.frames,same,List.map_nil,List.nil_append,List.mem_append] at member ⊢
    tauto

theorem written_budgets {write : Writing} (writing : σ.loop = .writing write) (held : Budgets σ) :
    Budgets (σ.written write) where
  inbound := by
    have inbound := held.inbound
    simp only [Session.written,Session.texts,writing,Loop.texts,permits_append,permits_nil] at inbound ⊢
    omega
  commands := by
    have commands := held.commands
    simp only [Session.written,Session.frames,writing,Loop.frames,permits_append,permits_nil] at commands ⊢
    omega
  places := held.places
  room := held.room
  shortTexts text member := by
    apply held.shortTexts
    simp only [Session.written,Session.texts,writing,Loop.texts,List.append_nil,List.mem_append] at member ⊢
    tauto
  shortFrames frame member := by
    apply held.shortFrames
    simp only [Session.written,Session.frames,writing,Loop.frames,List.append_nil,List.mem_append] at member ⊢
    tauto

/-- The frame of a command that has just been routed is a text within its limit. -/
theorem Budgets.first_short {rest : List Inbound} (held : Budgets σ) (first : σ.inbound = .text text::rest) :
    text.utf8ByteSize ≤ maxInboundWsBytes := by
  apply held.shortTexts
  simp [Session.texts,first,Inbound.texts]

theorem loop_budgets (moved : LoopStep fromStr σ action facts τ) (held : Budgets σ) : Budgets τ := by
  obtain ⟨inbound,commands,places,room,shortTexts,shortFrames⟩ := id held
  cases moved with
  | ping data idle first =>
    refine held.same rfl rfl ?_ ?_ rfl (Nat.le_refl _) ?_
    · simp [Session.texts,first,idle,Inbound.texts,Loop.texts,Writing.texts]
    · simp [Session.frames,idle,Loop.frames,Writing.frames]
    · rw [first,List.length_cons]
      exact Nat.le_succ _
  | dropped text idle first routing =>
    rw [first,List.length_cons] at room
    refine ⟨?_,commands,places,by simp only; omega,fun other member => shortTexts other ?_,shortFrames⟩
    · simp only [Session.texts,first,List.flatMap_cons,Inbound.texts,permits_append,permits_cons,permits_nil] at inbound ⊢
      omega
    · simp only [Session.texts,first,List.flatMap_cons,List.mem_append] at member ⊢
      tauto
  | pong text idle first routing =>
    rw [first,List.length_cons] at room
    refine ⟨?_,?_,places,by simp only; omega,fun other member => shortTexts other ?_,?_⟩
    · simp only [Session.texts,first,idle,List.flatMap_cons,Inbound.texts,Loop.texts,Writing.texts,permits_append,
        permits_cons,permits_nil] at inbound ⊢
      omega
    · simpa [Session.frames,idle,Loop.frames,Writing.frames] using commands
    · simp only [Session.texts,first,List.flatMap_cons,Inbound.texts,Loop.texts,Writing.texts,List.mem_append] at member ⊢
      tauto
    · simpa [Session.frames,idle,Loop.frames,Writing.frames] using shortFrames
  | queued text command idle first routing =>
    obtain ⟨_,frame,enough,_,free⟩ := routeInbound_queued routing
    rw [first,List.length_cons] at room
    refine ⟨?_,?_,?_,by simp only; omega,fun other member => shortTexts other ?_,fun other member => ?_⟩
    · simp only [Session.texts,first,List.flatMap_cons,Inbound.texts,permits_append,permits_cons,permits_nil] at inbound ⊢
      omega
    · simp only [Session.frames,List.map_append,List.map_cons,List.map_nil,permits_append,permits_cons,permits_nil,
        frame] at commands ⊢
      omega
    · rw [List.length_append]
      exact free
    · simp only [Session.texts,first,List.flatMap_cons,List.mem_append] at member ⊢
      tauto
    · simp only [Session.frames,List.map_append,List.map_cons,List.map_nil,List.mem_append,List.mem_singleton] at member
      by_cases new : other = command.frame
      · rw [new,frame]
        exact held.first_short first
      · apply shortFrames
        simp only [Session.frames,List.mem_append]
        tauto
  | busy text command taken idle first routing =>
    obtain ⟨_,frame,enough⟩ := routeInbound_busy routing
    rw [first,List.length_cons] at room
    refine ⟨?_,?_,places,by simp only; omega,fun other member => shortTexts other ?_,fun other member => ?_⟩
    · simp only [Session.texts,first,idle,List.flatMap_cons,Inbound.texts,Loop.texts,Writing.texts,permits_append,
        permits_cons,permits_nil] at inbound ⊢
      omega
    · cases taken with
      | false => simpa [Session.frames,idle,Loop.frames,Writing.frames] using commands
      | true =>
        have enough := enough rfl
        simp only [Session.frames,idle,Loop.frames,Writing.frames,permits_append,permits_cons,permits_nil,
          frame] at commands ⊢
        omega
    · simp only [Session.texts,first,List.flatMap_cons,Inbound.texts,Loop.texts,Writing.texts,List.mem_append] at member ⊢
      tauto
    · by_cases new : other = command.frame
      · rw [new,frame]
        exact held.first_short first
      · apply shortFrames
        cases taken with
        | false =>
          simp only [Session.frames,Loop.frames,Writing.frames,List.append_nil,List.mem_append] at member ⊢
          tauto
        | true =>
          simp only [Session.frames,Loop.frames,Writing.frames,List.mem_append,List.mem_singleton] at member ⊢
          tauto
  | stopped text idle first routing => exact ended_budgets held
  | ended item idle first final => exact ended_budgets held
  | outbound frame idle empty | heartbeat idle empty =>
    refine held.same rfl rfl ?_ ?_ rfl (Nat.le_refl _) (Nat.le_refl _)
    · simp [Session.texts,idle,Loop.texts,Writing.texts]
    · simp [Session.frames,idle,Loop.frames,Writing.frames]
  | wrote write writing => exact written_budgets writing held
  | sendAfterClosing write writing => exact written_budgets writing held
  | writeFailed write writing => exact ended_budgets held

theorem worker_same {worker : Worker} (same : worker.uninvoked = σ.worker.uninvoked) (held : Budgets σ) :
    Budgets {σ with worker := worker} :=
  held.same rfl rfl rfl (by simp [Session.frames,same]) rfl (Nat.le_refl _) (Nat.le_refl _)

theorem worker_budgets (moved : WorkerStep σ action facts τ) (held : Budgets σ) : Budgets τ := by
  cases moved with
  | asks unpolled live => exact worker_same (by rw [unpolled]; rfl) held
  | neverAsked unpolled isOver => exact dropQueue_budgets (by rw [unpolled]; rfl) held
  | gaveUp waiting isOver => exact dropQueue_budgets (by rw [waiting]; rfl) held
  | turn waiting live => exact worker_same (by rw [waiting]; rfl) held
  | takes command idle live first =>
    obtain ⟨inbound,commands,places,room,shortTexts,shortFrames⟩ := held
    rw [first,List.length_cons] at places
    refine ⟨inbound,?_,by simp only; omega,room,shortTexts,fun frame member => shortFrames frame ?_⟩
    · simp only [Session.frames,first,idle,Worker.uninvoked,List.map_cons,List.map_nil,permits_append,permits_cons,
        permits_nil] at commands ⊢
      omega
    · simp only [Session.frames,first,Worker.uninvoked,List.map_cons,List.map_nil,List.mem_append,List.mem_cons] at member ⊢
      tauto
  | stops idle isOver => exact dropQueue_budgets (by rw [idle]; rfl) held
  | unfed idle live empty gone => exact worker_same (by rw [idle]; rfl) held
  | letsGo command task running unfinished isOver =>
    refine dropQueue_budgets ?_ held
    rw [running]
    cases task <;> rfl
  | joined command letGo running => exact worker_same (by rw [running]; rfl) held
  | panicked command letGo running => exact worker_same (by rw [running]; rfl) held
  | sent command frame letGo acking => exact worker_same (by rw [acking]; rfl) held
  | unsent command frame letGo acking => exact worker_same (by rw [acking]; rfl) held
  | goesOn seen => exact worker_same (by rw [seen]; rfl) held
  | returns seen => exact worker_same (by rw [seen]; rfl) held

theorem acked_uninvoked (command : QueuedCommand) (response : Option OutboundFrame) (letGo : Bool) :
    (Worker.running command (Task.acked command response).1 letGo).uninvoked = [] := by
  cases response <;> rfl

theorem task_budgets (moved : TaskStep fromStr σ action facts τ) (held : Budgets σ) : Budgets τ := by
  cases moved with
  | starts command letGo running =>
    obtain ⟨inbound,commands,places,room,shortTexts,shortFrames⟩ := held
    refine ⟨inbound,?_,places,room,shortTexts,fun frame member => shortFrames frame ?_⟩
    · simp only [Session.frames,running,Worker.uninvoked,List.map_cons,List.map_nil,permits_append,permits_cons,
        permits_nil] at commands ⊢
      omega
    · simp only [Session.frames,Worker.uninvoked,List.map_nil,List.append_nil,List.mem_append] at member ⊢
      tauto
  | returned command letGo result running fits => exact worker_same (by rw [running]; rfl) held
  | panicked command letGo running => exact worker_same (by rw [running]; rfl) held
  | acked command letGo frame response running => exact worker_same (by rw [acked_uninvoked,running]; rfl) held
  | unacked command letGo frame response running => exact worker_same (by rw [acked_uninvoked,running]; rfl) held
  | responded command letGo frame running => exact worker_same (by rw [running]; rfl) held
  | unresponded command letGo frame running => exact worker_same (by rw [running]; rfl) held

theorem session_budgets (moved : SessionStep fromStr σ action facts τ) (held : Budgets σ) : Budgets τ := by
  cases moved with
  | reader moved => exact reader_budgets moved held
  | silent reading => exact ended_budgets held
  | loop moved => exact loop_budgets moved held
  | worker moved => exact worker_budgets moved held
  | task moved => exact task_budgets moved held
  | stopped next outside => exact ended_budgets held
  | cancel => exact ⟨held.inbound,held.commands,held.places,held.room,held.shortTexts,held.shortFrames⟩

theorem alone_budgets {history : List SessionFact} (alone : Reaches (SessionStep.Alone fromStr) .fresh history σ) :
    Budgets σ := by
  induction alone with
  | start => exact fresh_budgets
  | next before moved held =>
    obtain ⟨action,moved⟩ := moved
    exact session_budgets moved held

theorem runs_budgets {history : List Fact} {c : GatewayClient} (runs : Runs fromStr history c) (k : Nat) :
    Budgets (c.session k) :=
  alone_budgets (session_alone runs k).1

def bytes : List String → Nat
  | [] => 0
  | text::texts => text.utf8ByteSize + bytes texts

theorem bytes_append (first rest : List String) : bytes (first ++ rest) = bytes first + bytes rest := by
  induction first with
  | nil => exact (Nat.zero_add _).symm
  | cons text first ih => rw [List.cons_append,bytes,bytes,ih,Nat.add_assoc]

theorem permits_bytes {texts : List String} (short : ∀ text ∈ texts, text.utf8ByteSize ≤ maxInboundWsBytes) :
    permits texts = bytes texts := by
  induction texts with
  | nil => rfl
  | cons text texts ih =>
    rw [permits_cons,cost_le (short text List.mem_cons_self),ih fun other member => short other (List.mem_cons_of_mem _ member),
      bytes]

/-- The frames of the commands that wait: queued, or taken and not started yet. -/
def Session.waiting (σ : Session) : List String :=
  σ.queue.map QueuedCommand.frame ++ σ.worker.uninvoked.map QueuedCommand.frame

theorem waiting_le (σ : Session) : bytes σ.waiting ≤ bytes σ.frames := by
  rw [Session.waiting,Session.frames,bytes_append,bytes_append,bytes_append]
  omega

/-- What the reader waits for comes once the texts ahead are routed. -/
theorem Budgets.granted (held : Budgets σ) (waits : σ.reader = .budget text) (routed : σ.texts = []) :
    ∃ τ, ReaderStep σ τ ∧ τ.reader = .room (.text text) := by
  have short : text.utf8ByteSize ≤ maxInboundWsBytes := by
    apply held.shortTexts
    rw [routed,waits]
    exact List.mem_singleton_self text
  have all := held.inbound
  rw [routed,permits_nil,Nat.add_zero] at all
  have enough : cost text ≤ σ.inboundFree := by
    rw [all,cost_le short]
    unfold inboundBudgetBytes
    omega
  exact ⟨_,.granted text waits enough,rfl⟩

/-- In every session both budgets are kept to the byte, every permit is free or held by one
frame that is still waiting, and the reader does not wait for permits that never come. -/
theorem budgets_kept {history : List Fact} {c : GatewayClient} (runs : Runs fromStr history c) (k : Nat) :
    bytes (c.session k).texts ≤ inboundBudgetBytes ∧
      bytes (c.session k).waiting ≤ commandQueueBytes ∧ (c.session k).queue.length ≤ commandQueueSize ∧
      (c.session k).inboundFree + bytes (c.session k).texts = inboundBudgetBytes ∧
      (c.session k).commandFree + bytes (c.session k).frames = commandQueueBytes ∧
      ∀ text, (c.session k).reader = .budget text → (c.session k).texts = [] →
        ∃ τ, ReaderStep (c.session k) τ ∧ τ.reader = .room (.text text) := by
  have held := runs_budgets runs k
  have inbound := held.inbound
  have commands := held.commands
  rw [permits_bytes fun text member => held.shortTexts text (List.mem_append_left _ member)] at inbound
  rw [permits_bytes held.shortFrames] at commands
  have within := waiting_le (c.session k)
  exact ⟨by omega,by omega,held.places,inbound,commands,fun text waits routed => held.granted waits routed⟩

namespace Sample

def Comes (history : List Fact) (σ : Session) : Prop := ∃ c, Runs parse history c ∧ 0 < c.count ∧ c.session 0 = σ

theorem Comes.next {history : List Fact} (comes : Comes history σ) (moved : SessionStep parse σ .quiet facts τ) :
    Comes (history ++ (facts.map (.of 0) ++ [])) τ := by
  obtain ⟨c,runs,born,rfl⟩ := comes
  exact ⟨_,runs.next (.session 0 born moved .quiet),born,set_same c 0 τ⟩

/-- A session that has queued so many commands and whose worker has not been polled. -/
def crowd (n : Nat) : Session := {Session.fresh with
  arrivals := n
  queue := (List.range n).map fun i => ⟨i,"c1",frame⟩
  commandFree := commandQueueBytes - n*cost frame}

theorem crowd_length (n : Nat) : (crowd n).queue.length = n := by
  rw [crowd,List.length_map,List.length_range]

theorem crowd_free {n : Nat} (few : n ≤ commandQueueSize) : cost frame ≤ (crowd n).commandFree := by
  have price : 65*cost frame ≤ commandQueueBytes := by decide
  have some_ : n*cost frame ≤ 64*cost frame := Nat.mul_le_mul_right _ few
  change cost frame ≤ commandQueueBytes - n*cost frame
  omega

theorem Comes.handed {history : List Fact} {n : Nat} (comes : Comes history (crowd n)) : ∃ history', Comes history'
    {crowd n with inbound := [.text frame],inboundFree := inboundBudgetBytes - cost frame} := by
  have read := comes.next (.reader (.text frame rfl frame_short))
  have granted := read.next (.reader (.granted frame rfl frame_cost))
  exact ⟨_,granted.next (.reader (.handed (.text frame) rfl (show 0 < inboundChannelSize by decide)))⟩

theorem crowded {n : Nat} (few : n ≤ commandQueueSize) : ∃ history, Comes history (crowd n) := by
  induction n with
  | zero => exact ⟨_,_,Reaches.start.next (.main (.connected rfl)),Nat.one_pos,rfl⟩
  | succ n ih =>
    obtain ⟨history,comes⟩ := ih (Nat.le_of_succ_le few)
    obtain ⟨history',handed⟩ := comes.handed
    have room : (crowd n).queue.length < commandQueueSize := by
      rw [crowd_length]
      exact few
    have queued := handed.next (.loop (.queued frame ⟨n,"c1",frame⟩ rfl rfl
      ((frame_routing (crowd_free (Nat.le_of_succ_le few)) rfl).trans (if_pos room))))
    have back : inboundBudgetBytes - cost frame + cost frame = inboundBudgetBytes := Nat.sub_add_cancel frame_cost
    have grown : crowd (n+1) = {crowd n with
        arrivals := n+1
        inboundFree := inboundBudgetBytes - cost frame + cost frame
        queue := (crowd n).queue ++ [⟨n,"c1",frame⟩]
        commandFree := (crowd n).commandFree - cost frame} := by
      simp [crowd,Session.fresh,back,List.range_succ,Nat.succ_mul,Nat.sub_sub]
    rw [grown]
    exact ⟨_,queued⟩

end Sample

/-- Behind a full queue, and a command refused there, the next frame is granted its permits. -/
theorem crowded_frame_granted : ∃ history c, Runs Sample.parse history c ∧ (c.session 0).queue.length = commandQueueSize ∧
    (∃ ack, Fact.of 0 (.refused ⟨64,"c1",Sample.frame⟩ ack) ∈ history) ∧ (c.session 0).reader = .budget Sample.frame ∧
    ∃ τ, ReaderStep (c.session 0) τ ∧ τ.reader = .room (.text Sample.frame) := by
  obtain ⟨history,full⟩ := Sample.crowded (Nat.le_refl commandQueueSize)
  obtain ⟨history',handed⟩ := full.handed
  have none_ : ¬ (Sample.crowd commandQueueSize).queue.length < commandQueueSize := by
    rw [Sample.crowd_length]
    exact Nat.lt_irrefl _
  have refused := handed.next (.loop (.busy Sample.frame ⟨64,"c1",Sample.frame⟩ true rfl rfl
    ((Sample.frame_routing (Sample.crowd_free (Nat.le_refl _)) rfl).trans (if_neg none_))))
  have wrote := refused.next (.loop (.wrote _ rfl))
  have read := wrote.next (.reader (.text Sample.frame rfl Sample.frame_short))
  obtain ⟨c,runs,_,here⟩ := read
  have reader : (c.session 0).reader = .budget Sample.frame := by rw [here]
  obtain ⟨_,_,_,_,_,grants⟩ := budgets_kept runs 0
  refine ⟨_,c,runs,?_,⟨busyAck "c1",by simp⟩,reader,grants Sample.frame reader ?_⟩
  · rw [here]
    exact Sample.crowd_length _
  · rw [here]
    rfl

end GatewaySdk.Client
