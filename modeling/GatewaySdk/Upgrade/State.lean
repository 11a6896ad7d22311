import GatewaySdk.Host.Calls

/-! `state.json`: its schema, its readers and its writers. The JSON crate is a
parameter with the two facts the module relies on: a serialised state is read back,
and a text cut short is not read at all. -/
namespace GatewaySdk.Upgrade
open GatewaySdk.Effect GatewaySdk.Host

inductive UpgradeStatus where
  | stable
  | pendingHealth
  | rolledBack
  | stagedManual
  deriving DecidableEq, Repr

structure InstallState where
  currentVersion : String
  previousVersion : Option String
  channel : String
  variant : String
  arch : String
  status : UpgradeStatus
  bootAttempts : UInt32
  stagedAt : Int
  lastHealthAt : Option Int
  lastSequence : UInt64
  deriving DecidableEq, Repr

structure Serde where
  toVecPretty : InstallState → Bytes
  fromStr : Bytes → Option InstallState
  fromStr_toVecPretty : ∀ state, fromStr (toVecPretty state) = some state
  fromStr_take : ∀ state n, n < (toVecPretty state).length → fromStr ((toVecPretty state).take n) = none

/-- Programs of the upgrade code over the calls of `Host`. -/
abbrev Prog (ε α : Type) := Program Sig ε α

/-- A call whose error goes up as it is. -/
def sys {α : Type} (operation : Call) (reply : Reply operation → Except IoError α) : Prog IoError α :=
  (@Program.request Sig IoError operation).bind (fun answer => Program.ofExcept (reply answer))

namespace Io
def createDirAll (place : Loc) : Prog IoError Unit := sys (.createDirAll place) id
def createDir (place : Loc) : Prog IoError Unit := sys (.createDir place) id
def removeDirAll (place : Loc) : Prog IoError Unit := sys (.removeDirAll place) id
def removeFile (place : Loc) : Prog IoError Unit := sys (.removeFile place) id
def symlink (target place : Loc) : Prog IoError Unit := sys (.symlink target place) id
def rename (source target : Loc) : Prog IoError Unit := sys (.rename source target) id
def syncDir (place : Loc) : Prog IoError Unit := sys (.syncDir place) id
def readLink (place : Loc) : Prog IoError Loc := sys (.readLink place) id
def openFile (place : Loc) (mode : OpenMode) : Prog IoError Handle := sys (.openFile place mode) id
def lockShared (file : Handle) : Prog IoError Unit := sys (.lockShared file) id
def lockExclusive (file : Handle) : Prog IoError Unit := sys (.lockExclusive file) id
def unlock (file : Handle) : Prog IoError Unit := sys (.unlock file) id
def close (file : Handle) : Prog IoError Unit := sys (.close file) id
def readToString (file : Handle) : Prog IoError Bytes := sys (.readToString file) id
def writeAll (file : Handle) (bytes : Bytes) : Prog IoError Unit := sys (.writeAll file bytes) id
def setLenZero (file : Handle) : Prog IoError Unit := sys (.setLenZero file) id
def seekStart (file : Handle) : Prog IoError Unit := sys (.seekStart file) id
def flush (file : Handle) : Prog IoError Unit := sys (.flush file) id
def syncAll (file : Handle) : Prog IoError Unit := sys (.syncAll file) id
def pathExists {ε : Type} (place : Loc) : Prog ε Bool := @Program.request Sig ε (.pathExists place)
def isDir {ε : Type} (place : Loc) : Prog ε Bool := @Program.request Sig ε (.isDir place)
def now {ε : Type} : Prog ε Int := @Program.request Sig ε .now
def trySend (event : UpgradeEvent) : Prog IoError Unit := sys (.trySend event) id
end Io

/-- `?` after `with_context`: the error becomes the context. -/
def context {α : Type} (message : String) (program : Prog IoError α) : Prog Error α :=
  program.mapError (fun _ => message)

/-- A bare `?` on an I/O result. -/
def bare {α : Type} (program : Prog IoError α) : Prog Error α := program.mapError IoError.text

/-- `let _ = ..`: the outcome does not matter. -/
def ignore {ε : Type} {α δ : Type} (program : Prog ε α) : Prog δ Unit := do
  let _ ← program.attempt
  return ()

/-- A file that is closed, its lock let go, whichever way the scope is left. -/
def closing {α : Type} (file : Handle) (body : Prog Error α) : Prog Error α := do
  let outcome ← body.attempt
  ignore (Io.close file)
  Program.ofExcept outcome

def closingOption {α : Type} (file : Option Handle) (body : Prog Error α) : Prog Error α :=
  match file with
  | some file => closing file body
  | none => body

variable (serde : Serde) (installRoot : String)

def load : Prog Error InstallState := do
  let path := Loc.stateJson.display installRoot
  let file ← context ("opening " ++ path) (Io.openFile .stateJson .read)
  closing file do
    context ("flock(LOCK_SH) on " ++ path) (Io.lockShared file)
    let text ← context ("reading " ++ path) (Io.readToString file)
    match serde.fromStr text with
    | none => .fail (path ++ " is not valid InstallState JSON")
    | some state =>
      ignore (Io.unlock file)
      return state

def tryLoad {ε : Type} : Prog ε (Option InstallState) := do
  let found ← Io.pathExists .stateJson
  if found = true then
    let loaded ← (load serde installRoot).attempt
    return loaded.toOption
  else return none

def lockDest : Option Handle → Prog Error Unit
  | some file => context "flock(LOCK_EX) on state.json" (Io.lockExclusive file)
  | none => return ()

def unlockDest : Option Handle → Prog Error Unit
  | some file => ignore (Io.unlock file)
  | none => return ()

/-- The temporary file's bytes, before it is moved: lock, write, flush, sync. -/
def saveBytes (tmp : Handle) (destLock : Option Handle) (tmpPath : String) (state : InstallState) :
    Prog Error Unit := do
  lockDest destLock
  let json := serde.toVecPretty state
  context ("writing " ++ tmpPath) (Io.writeAll tmp json)
  context "tempfile flush" (Io.flush tmp)
  context "tempfile sync_all" (Io.syncAll tmp)

def save (pid : Nat) (state : InstallState) : Prog Error Unit := do
  let path := Loc.stateJson.display installRoot
  let tmpPath := (Loc.stateTmp pid).display installRoot
  context ("creating state parent " ++ installRoot) (Io.createDirAll .root)
  let tmp ← context ("creating " ++ tmpPath) (Io.openFile (.stateTmp pid) .createNew)
  let destLock ← (Io.openFile .stateJson .readWriteCreate).attempt
  closingOption destLock.toOption do
    closing tmp (saveBytes serde tmp destLock.toOption tmpPath state)
    context ("rename " ++ tmpPath ++ " → " ++ path) (Io.rename (.stateTmp pid) .stateJson)
    ignore (Io.syncDir .root)
    unlockDest destLock.toOption

def update (pid : Nat) (mutate : InstallState → Prog Error InstallState) : Prog Error Unit := do
  let state ← load serde installRoot
  let state ← mutate state
  save serde installRoot pid state

def saturatingSucc (n : UInt32) : UInt32 := if n = 4294967295 then n else n + 1

def bumped (state : InstallState) : InstallState := {state with bootAttempts := saturatingSucc state.bootAttempts}

/-- The rewriting of `state.json` in place. -/
def rewrite (file : Handle) (state : InstallState) : Prog Error UInt32 := do
  let json := serde.toVecPretty state
  bare (Io.setLenZero file)
  bare (Io.seekStart file)
  bare (Io.writeAll file json)
  bare (Io.flush file)
  bare (Io.syncAll file)
  ignore (Io.unlock file)
  return state.bootAttempts

def bumpBootAttempts : Prog Error UInt32 := do
  let file ← bare (Io.openFile .stateJson .readWrite)
  closing file do
    bare (Io.lockExclusive file)
    bare (Io.seekStart file)
    let text ← bare (Io.readToString file)
    match serde.fromStr text with
    | none => .fail "not valid InstallState JSON"
    | some state => rewrite serde file (bumped state)

end GatewaySdk.Upgrade
