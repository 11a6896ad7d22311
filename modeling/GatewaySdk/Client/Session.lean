import GatewaySdk.Client.Frames
import GatewaySdk.Effect.Reach

/-! One session of the gateway client: its reader, its loop, its command worker and the
command that runs, stepping in any order. What a step needs of the turn, of the outbound
channel and of the end of the session is its action, which the client grants or not. -/
namespace GatewaySdk.Client
open GatewaySdk.Effect GatewaySdk.Upgrade

/-- A command as it waits for the worker; `arrival` numbers the commands of its session. -/
structure QueuedCommand where
  arrival : Nat
  id : String
  frame : String
  deriving DecidableEq, Repr

/-- What the reader hands the loop. -/
inductive Inbound where
  | text (text : String)
  | ping (data : Bytes)
  | closed
  | failed
  | ended
  deriving DecidableEq, Repr

/-- Where `read_manager` is. -/
inductive Reader where
  | reading
  | budget (text : String)
  | room (item : Inbound)
  | parked
  | gone
  deriving DecidableEq, Repr

/-- The one write `drive_session` is in. A routed text holds its permits until the loop
is done with it, and so does a command that found the queue full. -/
inductive Writing where
  | pong (data : Bytes)
  | routedPong (text : String)
  | busy (text : String) (command : QueuedCommand) (held : Bool)
  | outbound (frame : OutboundFrame)
  | heartbeat

/-- Where `drive_session` is. -/
inductive Loop where
  | idle
  | writing (write : Writing)
  | gone

/-- Where the task of `run_command` is; a frame it has offered may wait for room. -/
inductive Task where
  | spawned
  | handling
  | acking (frame : OutboundFrame) (response : Option OutboundFrame)
  | responding (frame : OutboundFrame)
  | returned
  | panicked

/-- Where `run_commands` is; `letGo` once its queue is. -/
inductive Worker where
  | unpolled
  | waiting
  | idle
  | running (command : QueuedCommand) (task : Task) (letGo : Bool)
  | acking (command : QueuedCommand) (frame : OutboundFrame) (letGo : Bool)
  | seenOut (letGo : Bool)
  | done

structure Session where
  sessionOver : Bool
  arrivals : Nat
  loop : Loop
  reader : Reader
  inbound : List Inbound
  inboundFree : Nat
  queue : List QueuedCommand
  commandFree : Nat
  worker : Worker

def Session.fresh : Session where
  sessionOver := false
  arrivals := 0
  loop := .idle
  reader := .reading
  inbound := []
  inboundFree := inboundBudgetBytes
  queue := []
  commandFree := commandQueueBytes
  worker := .unpolled

namespace Inbound

def texts : Inbound → List String
  | .text held => [held]
  | _ => []

def isText : Inbound → Bool
  | .text _ => true
  | _ => false

end Inbound

namespace Reader

def texts : Reader → List String
  | .room item => item.texts
  | _ => []

/-- Behind anything but a text the reader parks. -/
def after (item : Inbound) : Reader := if item.isText = true then .reading else .parked

@[simp] theorem texts_room (item : Inbound) : (room item).texts = item.texts := rfl

@[simp] theorem texts_after (item : Inbound) : (after item).texts = [] := by
  unfold after
  split <;> rfl

end Reader

namespace Writing

/-- The text whose inbound permits are held during the write. -/
def texts : Writing → List String
  | .routedPong text => [text]
  | .busy text _ _ => [text]
  | _ => []

/-- The command whose permits are held during the write. -/
def frames : Writing → List String
  | .busy _ command true => [command.frame]
  | _ => []

/-- The frame of the outbound channel that is being written. -/
def ofChannel : Writing → List OutboundFrame
  | .outbound frame => [frame]
  | _ => []

end Writing

namespace Loop

def texts : Loop → List String
  | .writing write => write.texts
  | _ => []

def frames : Loop → List String
  | .writing write => write.frames
  | _ => []

def ofChannel : Loop → List OutboundFrame
  | .writing write => write.ofChannel
  | _ => []

end Loop

namespace Worker

/-- It has asked for the turn and not given it up. -/
def inLine : Worker → Bool
  | .unpolled => false
  | .done => false
  | _ => true

/-- It has seen that the turn is its own. -/
def holds : Worker → Bool
  | .idle => true
  | .running _ _ _ => true
  | .acking _ _ _ => true
  | .seenOut _ => true
  | _ => false

/-- The receiving end of its queue has been dropped. -/
def letGo : Worker → Bool
  | .running _ _ letGo => letGo
  | .acking _ _ letGo => letGo
  | .seenOut letGo => letGo
  | .done => true
  | _ => false

/-- The command that was taken and has not been started yet. -/
def uninvoked : Worker → List QueuedCommand
  | .running command .spawned _ => [command]
  | _ => []

def handled : Worker → List QueuedCommand
  | .running command .handling _ => [command]
  | _ => []

/-- The command whose handler panicked and for which that was not seen yet. -/
def unacked : Worker → List QueuedCommand
  | .running command .panicked _ => [command]
  | _ => []

/-- The config request that is acked and whose response was not offered yet. -/
def unanswered : Worker → List QueuedCommand
  | .running command (.acking _ (some _)) _ => [command]
  | _ => []

end Worker

def permits : List String → Nat
  | [] => 0
  | text::texts => cost text + permits texts

namespace Session

/-- The texts handed to the loop and not routed yet: those that hold inbound permits. -/
def texts (σ : Session) : List String := σ.inbound.flatMap Inbound.texts ++ σ.reader.texts ++ σ.loop.texts

/-- The frames that hold command permits: of commands queued, refused for want of a place
and still being answered, or taken and not started yet. -/
def frames (σ : Session) : List String :=
  σ.queue.map QueuedCommand.frame ++ σ.loop.frames ++ σ.worker.uninvoked.map QueuedCommand.frame

/-- The reader and the loop are dropped, and what they hold with them. -/
def ended (σ : Session) : Session :=
  {σ with
    loop := .gone
    reader := .gone
    inbound := []
    inboundFree := σ.inboundFree + permits σ.texts
    commandFree := σ.commandFree + permits σ.loop.frames}

/-- The worker's end of the queue is dropped, and the queue with it. -/
def dropQueue (σ : Session) (worker : Worker) : Session :=
  {σ with
    queue := []
    commandFree := σ.commandFree + permits (σ.queue.map QueuedCommand.frame)
    worker := worker}

/-- A write is over, and what was held for it is let go. -/
def written (σ : Session) (write : Writing) : Session :=
  {σ with
    loop := .idle
    inboundFree := σ.inboundFree + permits write.texts
    commandFree := σ.commandFree + permits write.frames}

end Session

/-- What becomes of a command that is routed. -/
inductive Verdict where
  | queued
  | busy
  deriving DecidableEq, Repr

inductive SessionFact where
  | routed (command : QueuedCommand) (verdict : Verdict)
  | taken (command : QueuedCommand)
  | refused (command : QueuedCommand) (ack : OutboundFrame)
  | dropped (command : QueuedCommand)
  | invoked (command : QueuedCommand) (hook : Hook)
  | returned (command : QueuedCommand) (result : Returned)
  | panicked (command : QueuedCommand)
  | acked (command : QueuedCommand) (frame : OutboundFrame)
  | responded (command : QueuedCommand) (frame : OutboundFrame)
  | wrote (frame : OutboundFrame)

/-- What follows the end of a session: a reconnect, the Close frame of a shutdown, or
nothing where the future of `run` was dropped. -/
inductive Next where
  | reconnect
  | close
  | drop
  deriving DecidableEq, Repr

/-- What a step asks of the world around the session. -/
inductive Action where
  | quiet
  | join
  | hold
  | leave
  | send (frame : OutboundFrame)
  | refuse
  | receive (frame : OutboundFrame)
  | finish (next : Next)
  | cancel

/-- How a text is routed. -/
inductive Routing where
  | dropped
  | pong
  | queued (command : QueuedCommand)
  | busy (command : QueuedCommand) (held : Bool)
  | stopped

variable (fromStr : String → Option Json)

/-- `route_inbound`, up to the write it may end in. -/
def routeInbound (σ : Session) (text : String) : Routing :=
  match IncomingMessage.parse fromStr text with
  | none => .dropped
  | some message =>
    if message.msgType = "command" then
      let command : QueuedCommand := ⟨σ.arrivals,commandId message.payload,text⟩
      if σ.commandFree < cost text then .busy command false
      else if σ.worker.letGo = true then .stopped
      else if σ.queue.length < commandQueueSize then .queued command
      else .busy command true
    else if message.msgType = "ping" then .pong
    else .dropped

def hookOf (command : QueuedCommand) : Hook :=
  let action := actionOf fromStr command.frame
  if actionIsGetConfig action = true then .onConfigRequest else .handleCommand command.id action

theorem actionIsGetConfig_iff (action : Json) :
    actionIsGetConfig action = true ↔ action.field "type" = some (.str "get_config") := by
  unfold actionIsGetConfig
  cases named : action.field "type" with
  | none => simp
  | some value => cases value <;> simp [Json.asStr]

theorem hookOf_for (command : QueuedCommand) : HookFor fromStr command.id command.frame (hookOf fromStr command) := by
  have known : Carries fromStr command.frame (actionOf fromStr command.frame) ∨
      actionOf fromStr command.frame = .null ∧ ∀ other, ¬ Carries fromStr command.frame other := by
    by_cases null : actionOf fromStr command.frame = .null
    · by_cases carries : ∃ other, Carries fromStr command.frame other
      · obtain ⟨other,carries⟩ := carries
        exact .inl (actionOf_carries carries ▸ carries)
      · exact .inr ⟨null,fun other carried => carries ⟨other,carried⟩⟩
    · exact .inl (carries_actionOf null)
  simp only [hookOf]
  split
  next config =>
    have typed := (actionIsGetConfig_iff _).mp config
    refine ⟨⟨fun _ => ⟨_,known.resolve_right fun null => ?_,typed⟩,fun _ => rfl⟩,fun other => absurd rfl other⟩
    rw [null.1] at typed
    cases typed
  next other =>
    refine ⟨⟨nofun,fun ⟨action,carries,typed⟩ => ?_⟩,fun _ => ⟨_,rfl,known⟩⟩
    exact absurd ((actionIsGetConfig_iff _).mpr (actionOf_carries carries ▸ typed)) other

/-- A step of `read_manager`. -/
inductive ReaderStep : Session → Session → Prop
  | ping {σ : Session} (data : Bytes) (reading : σ.reader = .reading) (room : σ.inbound.length < inboundChannelSize) :
    ReaderStep σ {σ with inbound := σ.inbound ++ [.ping data]}
  | pingUnanswered {σ : Session} (reading : σ.reader = .reading) (full : ¬ σ.inbound.length < inboundChannelSize) :
    ReaderStep σ σ
  | text {σ : Session} (text : String) (reading : σ.reader = .reading) (short : text.utf8ByteSize ≤ maxInboundWsBytes) :
    ReaderStep σ {σ with reader := .budget text}
  | ignored {σ : Session} (reading : σ.reader = .reading) : ReaderStep σ σ
  | ends {σ : Session} (item : Inbound) (reading : σ.reader = .reading)
    (final : item = .closed ∨ item = .failed ∨ item = .ended) : ReaderStep σ {σ with reader := .room item}
  | granted {σ : Session} (text : String) (waits : σ.reader = .budget text) (enough : cost text ≤ σ.inboundFree) :
    ReaderStep σ {σ with reader := .room (.text text),inboundFree := σ.inboundFree - cost text}
  | handed {σ : Session} (item : Inbound) (waits : σ.reader = .room item)
    (room : σ.inbound.length < inboundChannelSize) :
    ReaderStep σ {σ with
      inbound := σ.inbound ++ [item]
      reader := .after item}

/-- A step of `drive_session`. -/
inductive LoopStep : Session → Action → List SessionFact → Session → Prop
  | ping {σ : Session} {rest : List Inbound} (data : Bytes) (idle : σ.loop = .idle)
    (first : σ.inbound = .ping data::rest) :
    LoopStep σ .quiet [] {σ with inbound := rest,loop := .writing (.pong data)}
  | dropped {σ : Session} {rest : List Inbound} (text : String) (idle : σ.loop = .idle)
    (first : σ.inbound = .text text::rest) (routing : routeInbound fromStr σ text = .dropped) :
    LoopStep σ .quiet [] {σ with inbound := rest,inboundFree := σ.inboundFree + cost text}
  | pong {σ : Session} {rest : List Inbound} (text : String) (idle : σ.loop = .idle)
    (first : σ.inbound = .text text::rest) (routing : routeInbound fromStr σ text = .pong) :
    LoopStep σ .quiet [] {σ with inbound := rest,loop := .writing (.routedPong text)}
  | queued {σ : Session} {rest : List Inbound} (text : String) (command : QueuedCommand) (idle : σ.loop = .idle)
    (first : σ.inbound = .text text::rest) (routing : routeInbound fromStr σ text = .queued command) :
    LoopStep σ .quiet [.routed command .queued] {σ with
      inbound := rest
      arrivals := σ.arrivals + 1
      inboundFree := σ.inboundFree + cost text
      queue := σ.queue ++ [command]
      commandFree := σ.commandFree - cost command.frame}
  | busy {σ : Session} {rest : List Inbound} (text : String) (command : QueuedCommand) (held : Bool)
    (idle : σ.loop = .idle) (first : σ.inbound = .text text::rest)
    (routing : routeInbound fromStr σ text = .busy command held) :
    LoopStep σ .quiet [.routed command .busy,.refused command (busyAck command.id)] {σ with
      inbound := rest
      arrivals := σ.arrivals + 1
      loop := .writing (.busy text command held)
      commandFree := σ.commandFree - permits (Writing.busy text command held).frames}
  | stopped {σ : Session} {rest : List Inbound} (text : String) (idle : σ.loop = .idle)
    (first : σ.inbound = .text text::rest) (routing : routeInbound fromStr σ text = .stopped) :
    LoopStep σ (.finish .reconnect) [] σ.ended
  | ended {σ : Session} {rest : List Inbound} (item : Inbound) (idle : σ.loop = .idle) (first : σ.inbound = item::rest)
    (final : item = .closed ∨ item = .failed ∨ item = .ended) : LoopStep σ (.finish .reconnect) [] σ.ended
  | outbound {σ : Session} (frame : OutboundFrame) (idle : σ.loop = .idle) (empty : σ.inbound = []) :
    LoopStep σ (.receive frame) [] {σ with loop := .writing (.outbound frame)}
  | heartbeat {σ : Session} (idle : σ.loop = .idle) (empty : σ.inbound = []) :
    LoopStep σ .quiet [] {σ with loop := .writing .heartbeat}
  | wrote {σ : Session} (write : Writing) (writing : σ.loop = .writing write) :
    LoopStep σ .quiet (write.ofChannel.map .wrote) (σ.written write)
  | sendAfterClosing {σ : Session} (write : Writing) (writing : σ.loop = .writing write) :
    LoopStep σ .quiet [] (σ.written write)
  | writeFailed {σ : Session} (write : Writing) (writing : σ.loop = .writing write) :
    LoopStep σ (.finish .reconnect) [] σ.ended

/-- A step of `run_commands`. A poll is one or more of these with nothing in between. -/
inductive WorkerStep : Session → Action → List SessionFact → Session → Prop
  | asks {σ : Session} (unpolled : σ.worker = .unpolled) (live : σ.sessionOver = false) :
    WorkerStep σ .join [] {σ with worker := .waiting}
  | neverAsked {σ : Session} (unpolled : σ.worker = .unpolled) (isOver : σ.sessionOver = true) :
    WorkerStep σ .quiet (σ.queue.map .dropped) (σ.dropQueue .done)
  | gaveUp {σ : Session} (waiting : σ.worker = .waiting) (isOver : σ.sessionOver = true) :
    WorkerStep σ .leave (σ.queue.map .dropped) (σ.dropQueue .done)
  | turn {σ : Session} (waiting : σ.worker = .waiting) (live : σ.sessionOver = false) :
    WorkerStep σ .hold [] {σ with worker := .idle}
  | takes {σ : Session} {rest : List QueuedCommand} (command : QueuedCommand) (idle : σ.worker = .idle)
    (live : σ.sessionOver = false) (first : σ.queue = command::rest) :
    WorkerStep σ .quiet [.taken command] {σ with queue := rest,worker := .running command .spawned false}
  | stops {σ : Session} (idle : σ.worker = .idle) (isOver : σ.sessionOver = true) :
    WorkerStep σ .leave (σ.queue.map .dropped) (σ.dropQueue .done)
  | unfed {σ : Session} (idle : σ.worker = .idle) (live : σ.sessionOver = false) (empty : σ.queue = [])
    (gone : σ.loop = .gone) : WorkerStep σ .leave [] {σ with worker := .done}
  | letsGo {σ : Session} (command : QueuedCommand) (task : Task) (running : σ.worker = .running command task false)
    (unfinished : task ≠ .returned ∧ task ≠ .panicked) (isOver : σ.sessionOver = true) :
    WorkerStep σ .quiet (σ.queue.map .dropped) (σ.dropQueue (.running command task true))
  | joined {σ : Session} (command : QueuedCommand) (letGo : Bool)
    (running : σ.worker = .running command .returned letGo) : WorkerStep σ .quiet [] {σ with worker := .seenOut letGo}
  | panicked {σ : Session} (command : QueuedCommand) (letGo : Bool)
    (running : σ.worker = .running command .panicked letGo) :
    WorkerStep σ .quiet [.acked command (panickedAck command.id)]
      {σ with worker := .acking command (panickedAck command.id) letGo}
  | sent {σ : Session} (command : QueuedCommand) (frame : OutboundFrame) (letGo : Bool)
    (acking : σ.worker = .acking command frame letGo) : WorkerStep σ (.send frame) [] {σ with worker := .seenOut letGo}
  | unsent {σ : Session} (command : QueuedCommand) (frame : OutboundFrame) (letGo : Bool)
    (acking : σ.worker = .acking command frame letGo) : WorkerStep σ .refuse [] {σ with worker := .seenOut letGo}
  | goesOn {σ : Session} (seen : σ.worker = .seenOut false) : WorkerStep σ .quiet [] {σ with worker := .idle}
  | returns {σ : Session} (seen : σ.worker = .seenOut true) : WorkerStep σ .leave [] {σ with worker := .done}

/-- What follows the ack of `run_command`, gone out or failed. -/
def Task.acked (command : QueuedCommand) : Option OutboundFrame → Task × List SessionFact
  | none => (.returned,[])
  | some response => (.responding response,[.responded command response])

/-- A step of the task of `run_command`. -/
inductive TaskStep : Session → Action → List SessionFact → Session → Prop
  | starts {σ : Session} (command : QueuedCommand) (letGo : Bool) (running : σ.worker = .running command .spawned letGo) :
    TaskStep σ .quiet [.invoked command (hookOf fromStr command)] {σ with
      worker := .running command .handling letGo
      commandFree := σ.commandFree + cost command.frame}
  | returned {σ : Session} (command : QueuedCommand) (letGo : Bool) (result : Returned)
    (running : σ.worker = .running command .handling letGo) (fits : result.fits (hookOf fromStr command)) :
    TaskStep σ .quiet [.returned command result,.acked command (repliesTo command.id result).1] {σ with
      worker := .running command (.acking (repliesTo command.id result).1 (repliesTo command.id result).2) letGo}
  | panicked {σ : Session} (command : QueuedCommand) (letGo : Bool)
    (running : σ.worker = .running command .handling letGo) :
    TaskStep σ .quiet [.panicked command] {σ with worker := .running command .panicked letGo}
  | acked {σ : Session} (command : QueuedCommand) (letGo : Bool) (frame : OutboundFrame)
    (response : Option OutboundFrame) (running : σ.worker = .running command (.acking frame response) letGo) :
    TaskStep σ (.send frame) (Task.acked command response).2
      {σ with worker := .running command (Task.acked command response).1 letGo}
  | unacked {σ : Session} (command : QueuedCommand) (letGo : Bool) (frame : OutboundFrame)
    (response : Option OutboundFrame) (running : σ.worker = .running command (.acking frame response) letGo) :
    TaskStep σ .refuse (Task.acked command response).2
      {σ with worker := .running command (Task.acked command response).1 letGo}
  | responded {σ : Session} (command : QueuedCommand) (letGo : Bool) (frame : OutboundFrame)
    (running : σ.worker = .running command (.responding frame) letGo) :
    TaskStep σ (.send frame) [] {σ with worker := .running command .returned letGo}
  | unresponded {σ : Session} (command : QueuedCommand) (letGo : Bool) (frame : OutboundFrame)
    (running : σ.worker = .running command (.responding frame) letGo) :
    TaskStep σ .refuse [] {σ with worker := .running command .returned letGo}

/-- A step of a session. -/
inductive SessionStep : Session → Action → List SessionFact → Session → Prop
  | reader {σ τ : Session} (moved : ReaderStep σ τ) : SessionStep σ .quiet [] τ
  | silent {σ : Session} (reading : σ.reader = .reading) : SessionStep σ (.finish .reconnect) [] σ.ended
  | loop {σ τ : Session} {action : Action} {facts : List SessionFact} (moved : LoopStep fromStr σ action facts τ) :
    SessionStep σ action facts τ
  | worker {σ τ : Session} {action : Action} {facts : List SessionFact} (moved : WorkerStep σ action facts τ) :
    SessionStep σ action facts τ
  | task {σ τ : Session} {action : Action} {facts : List SessionFact} (moved : TaskStep fromStr σ action facts τ) :
    SessionStep σ action facts τ
  | stopped {σ : Session} (next : Next) (outside : next ≠ .reconnect) : SessionStep σ (.finish next) [] σ.ended
  | cancel {σ : Session} : SessionStep σ .cancel [] {σ with sessionOver := true}

/-- A step of a session whose surroundings grant whatever it asks. -/
def SessionStep.Alone (σ : Session) (facts : List SessionFact) (τ : Session) : Prop :=
  ∃ action, SessionStep fromStr σ action facts τ

end GatewaySdk.Client
