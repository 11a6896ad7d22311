import GatewaySdk.Effect.Reach
import GatewaySdk.Upgrade.LoadFacts
import GatewaySdk.Upgrade.Watchdog

/-! The periodic watchdog beside the health beats: ticks one after another and any beats of
the process, a call at a time on one install. A lock is had whenever it is asked for, which
only makes for more runs. -/
namespace GatewaySdk.Upgrade
open GatewaySdk.Effect GatewaySdk.Host

section Split
variable {ε : Type} (serde : Serde) (installRoot : String) (pid : Nat) (cfg : UpgradeConfig)

def checkAges (state : InstallState) (last : Int) : Prog ε (Option (InstallState × UInt32)) := do
  let now ← Io.now
  let seconds := healthyFor (numSeconds (now - state.stagedAt))
  if seconds < cfg.bootHealthWindowSecs then return none
  else do
    let now ← Io.now
    if numSeconds (now - last) > 60 then return none else return some (state,seconds)

/-- What a tick does before it promotes: the state to be promoted and for how long it has
been healthy. -/
def checkStable : Prog ε (Option (InstallState × UInt32)) := do
  let loaded ← (load serde installRoot).attempt
  match loaded with
  | .error _ => return none
  | .ok state =>
    if state.status ≠ .pendingHealth then return none
    else match state.lastHealthAt with
      | none => return none
      | some last => checkAges cfg state last

/-- What a tick does with that. -/
def promoteChecked : Option (InstallState × UInt32) → Prog ε (Option (Except Error Unit))
  | none => return none
  | some (state,seconds) => promote serde installRoot pid state seconds

theorem finalizeIfStable_split : (finalizeIfStable serde installRoot pid cfg : Prog ε (Option (Except Error Unit))) =
    (checkStable serde installRoot cfg).bind (promoteChecked serde installRoot pid) := by
  unfold finalizeIfStable checkStable
  simp only [Program.bind_eq,Program.bind_assoc]
  congr 1
  funext loaded
  cases loaded with
  | error e => rfl
  | ok state =>
    dsimp only
    split
    · rfl
    · cases state.lastHealthAt with
      | none => rfl
      | some last =>
        simp only [finalizeFrom,checkAges,Program.bind_eq,Program.bind_assoc]
        congr 1
        funext now
        split
        · rfl
        · simp only [Program.bind_assoc]
          congr 1
          funext now
          split <;> rfl

end Split

/-- Whose call it is. A tick checks, and may then promote. -/
inductive Who where
  | check
  | promotion
  | beat
  deriving DecidableEq, Repr

/-- The tick: between two, before it promotes, or at it. -/
inductive Tick where
  | idle
  | checking (rest : Prog Error (Option (InstallState × UInt32)))
  | promoting (rest : Prog Error (Option (Except Error Unit)))

structure Vigil where
  world : World
  tick : Tick
  beat : Nat → Option (Prog Error (Except Error Unit))

def Vigil.start (w : World) : Vigil := ⟨w,.idle,fun _ => none⟩

variable (tar : TarCrate) (serde : Serde) (cfg : UpgradeConfig) (pid : Nat)

/-- A step of the tick or of a beat; a call is made where it may be. -/
inductive Vigil.Step (may : Who → Call → Choice → World → Prop) : Vigil → Log → Vigil → Prop
  | ticks {c : Vigil} (idle : c.tick = .idle) :
    Step may c [] {c with tick := .checking (checkStable serde cfg.installRoot cfg)}
  | checks {c : Vigil} {operation : Call} {next : Reply operation → Prog Error (Option (InstallState × UInt32))}
    {choice : Choice} (due : c.tick = .checking (.call operation next)) (permitted : may .check operation choice c.world) :
    Step may c [(machine tar).event operation choice c.world]
      {c with
        world := ((machine tar).exec operation choice c.world).2
        tick := .checking (next ((machine tar).exec operation choice c.world).1)}
  | passes {c : Vigil} (checked : c.tick = .checking (.pure none)) : Step may c [] {c with tick := .idle}
  | decides {c : Vigil} {state : InstallState} {seconds : UInt32}
    (checked : c.tick = .checking (.pure (some (state,seconds)))) :
    Step may c [] {c with tick := .promoting (promote serde cfg.installRoot pid state seconds)}
  | promotes {c : Vigil} {operation : Call} {next : Reply operation → Prog Error (Option (Except Error Unit))}
    {choice : Choice} (due : c.tick = .promoting (.call operation next))
    (permitted : may .promotion operation choice c.world) :
    Step may c [(machine tar).event operation choice c.world]
      {c with
        world := ((machine tar).exec operation choice c.world).2
        tick := .promoting (next ((machine tar).exec operation choice c.world).1)}
  | rests {c : Vigil} {outcome : Option (Except Error Unit)} (promoted : c.tick = .promoting (.pure outcome)) :
    Step may c [] {c with tick := .idle}
  | begins {c : Vigil} (i : Nat) (free : c.beat i = none) :
    Step may c [] {c with beat := Function.update c.beat i (some (recordHealthyBeat serde cfg.installRoot pid))}
  | beats {c : Vigil} (i : Nat) {operation : Call} {next : Reply operation → Prog Error (Except Error Unit)}
    {choice : Choice} (due : c.beat i = some (.call operation next)) (permitted : may .beat operation choice c.world) :
    Step may c [(machine tar).event operation choice c.world]
      {c with
        world := ((machine tar).exec operation choice c.world).2
        beat := Function.update c.beat i (some (next ((machine tar).exec operation choice c.world).1))}
  | finishes {c : Vigil} (i : Nat) {outcome : Except Error Unit} (done : c.beat i = some (.pure outcome)) :
    Step may c [] {c with beat := Function.update c.beat i none}

/-- A run of ticks and beats over an install. -/
abbrev Vigil.Runs (may : Who → Call → Choice → World → Prop) (w : World) (facts : Log) (c : Vigil) : Prop :=
  Reaches (Vigil.Step tar serde cfg pid may) (Vigil.start w) facts c

/-- The completion that a call announces. -/
def completionOf (event : Event Sig Choice World) : Option UpgradeEvent :=
  match event.operation with
  | .trySend told => if told.errorCode = "upgrade_completed" then some told else none
  | _ => none

def completions (log : Log) : List UpgradeEvent := log.filterMap completionOf

/-- What is on disk is this version, in this status. -/
def OnDisk (v : String) (status : UpgradeStatus) (w : World) : Prop :=
  ∃ s, readState serde w = some s ∧ s.currentVersion = v ∧ s.status = status

/-- The call that made this version stable. -/
structure Promotes (v : String) (event : Event Sig Choice World) : Prop where
  before : OnDisk serde v .pendingHealth event.before
  after : OnDisk serde v .stable ((machine tar).exec event.operation event.choice event.before).2

/-- A completion is told of a version that was made stable, by its name, and while it is. -/
def Truthful (past : Log) (event : Event Sig Choice World) : Prop :=
  ∀ told, completionOf event = some told → ∃ v, told.toVersion = some v ∧
    (∃ made ∈ past, Promotes tar serde v made) ∧ OnDisk serde v .stable event.before

/-- Completion is told of truthfully, and once. -/
structure ToldOnce (log : Log) : Prop where
  truthful : Along (Truthful tar serde) log
  once : (completions log).length ≤ 1

/-- The calls that an update cannot do without. -/
def needed : Call → Bool
  | .openFile .stateJson .read | .lockShared _ | .readToString _ | .createDirAll .root | .openFile (.stateTmp _) .createNew
  | .lockExclusive _ | .writeAll _ _ | .flush _ | .syncAll _ | .rename _ _ => true
  | _ => false

/-- No call that a promotion's update needs is made to fail, nor does it find the draft of an
earlier write in its way; and no beat puts back a state whose status has changed since. -/
def Undisturbed (pid : Nat) : Who → Call → Choice → World → Prop
  | .check,_,_,_ => True
  | .promotion,operation,choice,w => (needed operation = true → choice.fails = false) ∧
      (operation = .openFile (.stateTmp pid) .createNew → w.node (.stateTmp pid) = none)
  | .beat,operation,choice,w => operation = recorded pid → choice.fails = false → ∀ s t,
      (w.content (.stateTmp pid)).bind serde.fromStr = some s → readState serde w = some t → s.status = t.status

end GatewaySdk.Upgrade
