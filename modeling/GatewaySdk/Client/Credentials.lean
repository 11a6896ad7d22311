import GatewaySdk.Client.Config
import GatewaySdk.Effect.Trace
import GatewaySdk.Host.Modes
import GatewaySdk.Text.Compact
import GatewaySdk.Upgrade.Verify

/-! The credentials file: what `persist_credentials` asks of the system, call by call, and
what `load_credentials` makes of whatever is left of it. -/
namespace GatewaySdk.Client
open GatewaySdk.Effect
open GatewaySdk.Host (File Process Mode)
open GatewaySdk.Text.Compact (quote)
open GatewaySdk.Upgrade (Bytes utf8 fromUtf8 orElse)

structure PersistedCredentials where
  nodeId : Option String
  nodeSecret : Option String
  registrationToken : Option String
  deriving DecidableEq, Repr

instance : Inhabited PersistedCredentials := ⟨⟨none,none,none⟩⟩

/-- `serde_json` at the credentials: what it writes it reads, of no such text a beginning only,
and a secret stands in it between quotes. -/
structure CredentialsJson where
  toStringPretty : PersistedCredentials → String
  fromStr : String → Except String PersistedCredentials
  fromStr_toStringPretty : ∀ creds, fromStr (toStringPretty creds) = .ok creds
  fromStr_prefix : ∀ (creds : PersistedCredentials) (text : String), text.toList <+: (toStringPretty creds).toList →
    text ≠ toStringPretty creds → ∃ error, fromStr text = .error error
  secret_quoted : ∀ creds secret, creds.nodeSecret = some secret → quote secret.toList <:+: (toStringPretty creds).toList

/-- Two texts differ, so each has one that is no beginning of it. -/
theorem CredentialsJson.solid (json : CredentialsJson) (creds : PersistedCredentials) : json.toStringPretty creds ≠ "" := by
  intro none
  obtain ⟨other,differs⟩ : ∃ other : PersistedCredentials, other ≠ creds := by
    by_cases blank : creds = default
    · exact ⟨⟨some "",.none,.none⟩,fun same => by rw [blank] at same; cases same⟩
    · exact ⟨default,fun same => blank same.symm⟩
  have told := json.fromStr_toStringPretty creds
  rw [none] at told
  by_cases same : "" = json.toStringPretty other
  · have again := json.fromStr_toStringPretty other
    rw [← same,told] at again
    cases again
    exact differs rfl
  · obtain ⟨error,failed⟩ := json.fromStr_prefix other "" (List.nil_prefix) same
    rw [told] at failed
    cases failed

/-- The path of a file, as the directories it goes through and the file's name in the last;
`Path::parent` is some of every such path. -/
structure FilePath where
  rooted : Bool
  dirs : List String
  name : String
  deriving DecidableEq, Repr

namespace FilePath

def parent (path : FilePath) : String := (if path.rooted then "/" else "") ++ "/".intercalate path.dirs

def display (path : FilePath) : String := (if path.rooted then "/" else "") ++ "/".intercalate (path.dirs ++ [path.name])

end FilePath

/-- What there is of the path: not even the directory, the directory alone, or the file. -/
inductive Disk where
  | bare
  | vacant
  | held (file : File)
  deriving DecidableEq, Repr

def Disk.file : Disk → Option File
  | .held file => some file
  | _ => none

/-- The calls on the path, the first on its directory. A call that is interrupted is made
again and has done nothing. -/
inductive FileCall where
  | createDirAll
  | create
  | write (bytes : Bytes)
  | setPermissions (mode : Mode)
  deriving DecidableEq, Repr

abbrev FileCall.Reply : FileCall → Type
  | .write _ => Except String Nat
  | _ => Except String Unit

abbrev FileSig : Signature := ⟨FileCall,FileCall.Reply⟩

/-- The error a call is made to fail with, and how many bytes a write takes at most. -/
structure FileChoice where
  fails : Option String
  amount : Nat
  deriving DecidableEq, Repr

def notFound : String := "No such file or directory (os error 2)"
def permissionDenied : String := "Permission denied (os error 13)"
def notPermitted : String := "Operation not permitted (os error 1)"

def FileCall.refused (error : String) : (operation : FileCall) → operation.Reply
  | .createDirAll | .create | .write _ | .setPermissions _ => .error error

/-- The answer to a call that is not made to fail. `create` opens with `O_CREAT` and `O_TRUNC`,
and what is written goes behind what is there. -/
def FileCall.answer (process : Process) : (operation : FileCall) → Nat → Disk → operation.Reply × Disk
  | .createDirAll,_,.bare => (.ok (),.vacant)
  | .createDirAll,_,d => (.ok (),d)
  | .create,_,.bare => (.error notFound,.bare)
  | .create,_,.vacant => (.ok (),.held process.newFile)
  | .create,_,.held f =>
    if process.may .write f then (.ok (),.held {f with bytes := []}) else (.error permissionDenied,.held f)
  | .write bytes,amount,.held f =>
    (.ok (min amount bytes.length),.held {f with bytes := f.bytes ++ bytes.take amount})
  | .write _,_,d => (.error notFound,d)
  | .setPermissions mode,_,.held f =>
    if process.mayChmod f then (.ok (),.held {f with mode := mode}) else (.error notPermitted,.held f)
  | .setPermissions _,_,d => (.error notFound,d)

def fileSystem (process : Process) : Machine FileSig FileChoice Disk where
  exec operation choice d :=
    match choice.fails with
    | some error => (operation.refused error,d)
    | none => operation.answer process choice.amount d

/-- The file as the opening leaves it: the one that was there, emptied, or a new one. -/
def emptied (process : Process) : Option File → File
  | some f => {f with bytes := []}
  | none => process.newFile

section Answers
variable {process : Process} {choice : FileChoice} {d d' : Disk} {f : File}

theorem createDirAll_cases {reply : Except String Unit}
    (answered : (fileSystem process).exec .createDirAll choice d = (reply,d')) : d'.file = d.file := by
  simp only [fileSystem] at answered
  split at answered
  · cases answered
    rfl
  · cases d <;> cases answered <;> rfl

theorem create_cases {reply : Except String Unit} (answered : (fileSystem process).exec .create choice d = (reply,d')) :
    (∃ error, reply = .error error ∧ d' = d) ∨ (reply = .ok () ∧ d' = .held (emptied process d.file)) := by
  simp only [fileSystem] at answered
  split at answered
  · cases answered
    exact .inl ⟨_,rfl,rfl⟩
  · cases d with
    | bare =>
      cases answered
      exact .inl ⟨_,rfl,rfl⟩
    | vacant =>
      cases answered
      exact .inr ⟨rfl,rfl⟩
    | held f =>
      simp only [FileCall.answer] at answered
      split at answered
      · cases answered
        exact .inr ⟨rfl,rfl⟩
      · cases answered
        exact .inl ⟨_,rfl,rfl⟩

theorem write_cases {bytes : Bytes} {reply : Except String Nat}
    (answered : (fileSystem process).exec (.write bytes) choice (.held f) = (reply,d')) :
    (∃ error, reply = .error error ∧ d' = .held f) ∨
    (∃ n ≤ bytes.length, reply = .ok n ∧ d' = .held {f with bytes := f.bytes ++ bytes.take n}) := by
  simp only [fileSystem] at answered
  split at answered
  · cases answered
    exact .inl ⟨_,rfl,rfl⟩
  · cases answered
    refine .inr ⟨min choice.amount bytes.length,Nat.min_le_right _ _,rfl,?_⟩
    rw [List.take_eq_take_min]

theorem setPermissions_cases {mode : Host.Mode} {reply : Except String Unit}
    (answered : (fileSystem process).exec (.setPermissions mode) choice (.held f) = (reply,d')) :
    (∃ error, reply = .error error ∧ d' = .held f) ∨
    (process.mayChmod f ∧ reply = .ok () ∧ d' = .held {f with mode := mode}) := by
  simp only [fileSystem] at answered
  split at answered
  · cases answered
    exact .inl ⟨_,rfl,rfl⟩
  · simp only [FileCall.answer] at answered
    split at answered
    next may =>
      cases answered
      exact .inr ⟨may,rfl,rfl⟩
    next =>
      cases answered
      exact .inl ⟨_,rfl,rfl⟩

end Answers

def createDirAll : Program FileSig String Unit := .call .createDirAll Program.ofExcept
def create : Program FileSig String Unit := .call .create Program.ofExcept
def setPermissions (mode : Mode) : Program FileSig String Unit := .call (.setPermissions mode) Program.ofExcept

/-- `Write::write_all`. -/
def writeAll (bytes : Bytes) : Program FileSig String Unit :=
  if bytes = [] then .pure ()
  else .call (.write bytes) fun reply =>
    match reply with
    | .error error => .fail error
    | .ok 0 => .fail "failed to write whole buffer"
    | .ok (n+1) => writeAll (bytes.drop (n+1))
termination_by bytes.length
decreasing_by
  have some_ : 0 < bytes.length := List.length_pos_of_ne_nil (by assumption)
  rw [List.length_drop]
  omega

/-- What is left to do after the answer to one of the writes. -/
def afterWrite (bytes : Bytes) : Except String Nat → Program FileSig String Unit
  | .error error => .fail error
  | .ok 0 => .fail "failed to write whole buffer"
  | .ok (n+1) => writeAll (bytes.drop (n+1))

theorem writeAll_solid {bytes : Bytes} (solid : bytes ≠ []) : writeAll bytes = .call (.write bytes) (afterWrite bytes) := by
  rw [writeAll,if_neg solid]
  congr 1
  funext reply
  cases reply with
  | error error => rfl
  | ok n => cases n <;> rfl

/-- `std::fs::write`. -/
def write (contents : Bytes) : Program FileSig String Unit := do
  create
  writeAll contents

/-- `map_err` to `CredentialsIo`. -/
def credentialsIo {α : Type} (what : String) (program : Program FileSig String α) : Program FileSig SdkError α :=
  program.mapError (fun e => .credentialsIo (what ++ ": " ++ e))

/-- The directory of a bare file name is the empty path, which is not made. -/
def createParent (path : FilePath) : Program FileSig SdkError Unit :=
  if path.parent = "" then .pure () else credentialsIo ("mkdir " ++ path.parent) createDirAll

def persistCredentials (json : CredentialsJson) (path : FilePath) (creds : PersistedCredentials) : Program FileSig SdkError Unit := do
  createParent path
  credentialsIo ("write " ++ path.display) (write (utf8 (json.toStringPretty creds)))
  credentialsIo ("chmod " ++ path.display) (setPermissions 0o600#9)

def readToString (process : Process) (f : File) : Except String String :=
  if process.may .read f then orElse (fromUtf8 f.bytes) "stream did not contain valid UTF-8"
  else .error permissionDenied

def loadCredentials (json : CredentialsJson) (process : Process) (path : FilePath) (d : Disk) :
    Except SdkError PersistedCredentials :=
  match d.file with
  | none => .ok default
  | some f => do
    let text ← (readToString process f).mapError (fun e => .credentialsIo ("read " ++ path.display ++ ": " ++ e))
    (json.fromStr text).mapError .json

end GatewaySdk.Client
