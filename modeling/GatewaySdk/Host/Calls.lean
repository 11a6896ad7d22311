import GatewaySdk.Effect.Program
import GatewaySdk.Host.World

/-! The system calls of the upgrade code and their answers. A choice may inject a
failure, says how far a failing effect got, and supplies times. A failed call has no
effect but these three: a write stops after a strict prefix of its bytes, a recursive
removal stops after some entries, an archive entry is unpacked as its crate leaves it.
`machine` answers calls whose path leads through no link below a version's directory;
`host` answers all. -/
namespace GatewaySdk.Host
open GatewaySdk.Effect
open GatewaySdk.Upgrade (Bytes UpgradeEvent)

inductive IoError where
  | notFound
  | alreadyExists
  | notADirectory
  | isADirectory
  | directoryNotEmpty
  | tooManyLinks
  | other
  deriving DecidableEq, Repr

def IoError.text : IoError → String
  | .notFound => "No such file or directory (os error 2)"
  | .alreadyExists => "File exists (os error 17)"
  | .notADirectory => "Not a directory (os error 20)"
  | .isADirectory => "Is a directory (os error 21)"
  | .directoryNotEmpty => "Directory not empty (os error 39)"
  | .tooManyLinks => "Too many levels of symbolic links (os error 40)"
  | .other => "Input/output error (os error 5)"

structure Choice where
  fails : Bool
  amount : Nat
  deriving DecidableEq, Repr

/-- A choice under which nothing goes wrong. -/
def smooth : Choice := ⟨false,0⟩

inductive Component where
  | rootDir
  | curDir
  | parentDir
  | normal (name : String)
  deriving DecidableEq, Repr

inductive EntryKind where
  | file (mode : Nat) (bytes : Bytes)
  | dir
  | symlink (target : String)
  | hardLink (target : String)
  | other
  deriving DecidableEq, Repr

structure TarEntry where
  path : List Component
  kind : EntryKind
  deriving DecidableEq, Repr

/-- The entries unpacked as a link. -/
def EntryKind.isLink : EntryKind → Bool
  | .symlink _ | .hardLink _ => true
  | _ => false

/-- The entries unpacked as a file or a directory of their own. -/
def EntryKind.isPlain : EntryKind → Bool
  | .file _ _ | .dir => true
  | _ => false

theorem EntryKind.not_link {kind : EntryKind} (plain : kind.isPlain = true) : kind.isLink = false := by
  cases kind with
  | file | dir => rfl
  | symlink | hardLink | other => cases plain

inductive OpenMode where
  | read
  | readWrite
  | readWriteCreate
  | createNew
  deriving DecidableEq, Repr

inductive Call where
  | pathExists (place : Loc)
  | isDir (place : Loc)
  | readLink (place : Loc)
  | createDirAll (place : Loc)
  | createDir (place : Loc)
  | removeDirAll (place : Loc)
  | removeFile (place : Loc)
  | symlink (target place : Loc)
  | rename (source target : Loc)
  | syncDir (place : Loc)
  | readVersions
  | modified (place : Loc)
  | unpack (entry : TarEntry) (place : Loc) (path : RelPath)
  | isFileIn (place : Loc) (path : RelPath)
  | isDirIn (place : Loc) (path : RelPath)
  | readDirIn (place : Loc)
  | metadataIn (place : Loc) (path : RelPath)
  | setModeIn (place : Loc) (path : RelPath) (mode : Nat)
  | renameIn (place : Loc) (source target : RelPath)
  | openFile (place : Loc) (mode : OpenMode)
  | lockShared (file : Handle)
  | lockExclusive (file : Handle)
  | unlock (file : Handle)
  | close (file : Handle)
  | readToString (file : Handle)
  | writeAll (file : Handle) (bytes : Bytes)
  | setLenZero (file : Handle)
  | seekStart (file : Handle)
  | flush (file : Handle)
  | syncAll (file : Handle)
  | now
  | trySend (event : UpgradeEvent)
  deriving DecidableEq, Repr

@[reducible] def Reply : Call → Type
  | .pathExists _ | .isDir _ | .isFileIn _ _ | .isDirIn _ _ => Bool
  | .readLink _ => Except IoError Loc
  | .readVersions | .readDirIn _ => Except IoError (List String)
  | .modified _ => Except IoError Nat
  | .openFile _ _ => Except IoError Handle
  | .readToString _ => Except IoError Bytes
  | .now => Int
  | .createDirAll _ | .createDir _ | .removeDirAll _ | .removeFile _ | .symlink _ _
  | .rename _ _ | .syncDir _ | .unpack _ _ _ | .metadataIn _ _ | .setModeIn _ _ _
  | .renameIn _ _ _ | .lockShared _ | .lockExclusive _ | .unlock _ | .close _
  | .writeAll _ _ | .setLenZero _ | .seekStart _ | .flush _ | .syncAll _
  | .trySend _ => Except IoError Unit

/-- What a call comes to that the system refuses. -/
def refused : (operation : Call) → Reply operation
  | .pathExists _ | .isDir _ | .isFileIn _ _ | .isDirIn _ _ => false
  | .now => 0
  | .readLink _ | .readVersions | .readDirIn _ | .modified _ | .openFile _ _ | .readToString _ | .createDirAll _
  | .createDir _ | .removeDirAll _ | .removeFile _ | .symlink _ _ | .rename _ _ | .syncDir _ | .unpack _ _ _
  | .metadataIn _ _ | .setModeIn _ _ _ | .renameIn _ _ _ | .lockShared _ | .lockExclusive _ | .unlock _ | .close _
  | .writeAll _ _ | .setLenZero _ | .seekStart _ | .flush _ | .syncAll _ | .trySend _ => .error .tooManyLinks

abbrev Sig : Signature := ⟨Call,Reply⟩

/-- The `tar` and `flate2` crates: the entries of a tarball, an unreadable one as none,
and what unpacking an entry makes of the directory it is unpacked into; a link there is
one of the entry's own or was there. `through` is what a call comes to whose path leads
through a link that was unpacked: the link may point anywhere, so may what is done. -/
structure TarCrate where
  entries : Bytes → Option (List (Option TarEntry))
  unpack : TarEntry → RelPath → Choice → Dir → Dir × Bool
  through : (operation : Call) → Choice → World → Reply operation × World
  links : ∀ entry path choice dir, ∀ held ∈ (unpack entry path choice dir).1, held.2.isLink = true →
    held ∈ dir ∨ held.1 = path ∧ entry.kind.isLink = true

namespace World

def contentOf (w : World) (place : Loc) : Dir :=
  match w.node place with
  | some (.dir _ content) => content
  | _ => []

/-- What `rename` refuses: a missing source or parent, a directory over anything but
an empty directory, anything else over a directory. -/
def renameError (w : World) (source target : Loc) : Option IoError :=
  match w.node source,w.node target with
  | none,_ => some .notFound
  | some _,none => if w.parentOk target then none else some .notFound
  | some (.dir _ _),some (.dir _ content) => if content = [] then none else some .directoryNotEmpty
  | some (.dir _ _),some _ => some .notADirectory
  | some _,some (.dir _ _) => some .isADirectory
  | some _,some _ => none

def handle (w : World) (ino : Nat) : Handle := ⟨w.nextFd,ino⟩

def opened (w : World) : World := {w with nextFd := w.nextFd + 1}

def release (w : World) (file : Handle) : World :=
  {w with locks := w.locks.filter (fun lock => lock.handle.fd != file.fd)}

def acquire (w : World) (file : Handle) (exclusive : Bool) : World :=
  {w.release file with locks := ⟨file,exclusive⟩ :: (w.release file).locks}

/-- Bytes written from offset zero over what a file holds. -/
def overwrite (w : World) (file : Handle) (bytes : Bytes) : World :=
  w.write file.ino (bytes ++ (w.data file.ino).drop bytes.length)

@[simp] theorem opened_node (w : World) : w.opened.node = w.node := rfl
@[simp] theorem opened_data (w : World) : w.opened.data = w.data := rfl
@[simp] theorem opened_fresh (w : World) : w.opened.fresh = w.fresh := rfl
@[simp] theorem overwrite_node (w : World) (file : Handle) (bytes : Bytes) :
    (w.overwrite file bytes).node = w.node := rfl
@[simp] theorem overwrite_data (w : World) (file : Handle) (bytes : Bytes) :
    (w.overwrite file bytes).data =
      Function.update w.data file.ino (bytes ++ (w.data file.ino).drop bytes.length) := rfl
@[simp] theorem overwrite_fresh (w : World) (file : Handle) (bytes : Bytes) :
    (w.overwrite file bytes).fresh = w.fresh := rfl

end World

variable (tar : TarCrate)

def openAnswer (place : Loc) (mode : OpenMode) (w : World) : Except IoError Handle × World :=
  match mode with
  | .createNew =>
    match w.node place with
    | some _ => (.error .alreadyExists,w)
    | none => if w.parentOk place then (.ok (w.handle w.fresh),(w.create place).opened)
        else (.error .notFound,w)
  | .read | .readWrite =>
    match w.node place with
    | some (.file ino) => (.ok (w.handle ino),w.opened)
    | some (.dir _ _) => (.error .isADirectory,w)
    | some (.symlink _) => (.error .tooManyLinks,w)
    | none => (.error .notFound,w)
  | .readWriteCreate =>
    match w.node place with
    | some (.file ino) => (.ok (w.handle ino),w.opened)
    | some (.dir _ _) => (.error .isADirectory,w)
    | some (.symlink _) => (.error .tooManyLinks,w)
    | none => if w.parentOk place then (.ok (w.handle w.fresh),(w.create place).opened)
        else (.error .notFound,w)

/-- The answer to a call that is not made to fail. -/
def answer : (operation : Call) → Choice → World → Reply operation × World
  | .pathExists place,_,w => ((w.stat place).isSome,w)
  | .isDir place,_,w => (w.isDir place,w)
  | .readLink place,_,w =>
    match w.node place with
    | some (.symlink target) => (.ok target,w)
    | some _ => (.error .other,w)
    | none => (.error .notFound,w)
  | .createDirAll .root,_,w => (.ok (),w)
  | .createDirAll place,_,w =>
    if w.isDir place then (.ok (),w)
    else if (w.node place).isSome then (.error .alreadyExists,w)
    else (.ok (),w.mkdir place)
  | .createDir place,_,w =>
    if (w.node place).isSome then (.error .alreadyExists,w)
    else if w.parentOk place then (.ok (),w.mkdir place)
    else (.error .notFound,w)
  | .removeDirAll place,_,w =>
    match w.node place with
    | some (.file _) => (.error .notADirectory,w)
    | some _ => (.ok (),w.drop place)
    | none => (.error .notFound,w)
  | .removeFile place,_,w =>
    match w.node place with
    | some (.dir _ _) => (.error .isADirectory,w)
    | some _ => (.ok (),w.drop place)
    | none => (.error .notFound,w)
  | .symlink target place,_,w =>
    if (w.node place).isSome then (.error .alreadyExists,w)
    else if w.parentOk place then (.ok (),w.link place target)
    else (.error .notFound,w)
  | .rename source target,_,w =>
    match w.renameError source target with
    | some error => (.error error,w)
    | none => (.ok (),w.move source target)
  | .syncDir _,_,w => (.ok (),w)
  | .readVersions,_,w =>
    if w.isDir .versions then
      (.ok (w.names.filter (fun name => (w.node (.version name)).isSome)),w)
    else (.error .notFound,w)
  | .modified place,choice,w =>
    if (w.node place).isSome then (.ok choice.amount,w) else (.error .notFound,w)
  | .unpack entry place path,choice,w =>
    let (content,whole) := tar.unpack entry path choice (w.contentOf place)
    (if whole then .ok () else .error .other,w.refill place content)
  | .isFileIn place path,choice,w =>
    match (w.contentOf place).get path with
    | some (.file _ _) => (true,w)
    | some (.link _) => (choice.amount != 0,w)
    | _ => (false,w)
  | .isDirIn place path,choice,w =>
    match (w.contentOf place).get path with
    | some .dir => (true,w)
    | some (.link _) => (choice.amount != 0,w)
    | _ => (false,w)
  | .readDirIn place,_,w => (.ok (w.contentOf place).top,w)
  | .metadataIn place path,_,w =>
    if ((w.contentOf place).get path).isSome then (.ok (),w) else (.error .notFound,w)
  | .setModeIn place path mode,_,w =>
    match (w.contentOf place).get path with
    | some (.file _ bytes) => (.ok (),w.refill place ((w.contentOf place).set path (.file mode bytes)))
    | some _ => (.ok (),w)
    | none => (.error .notFound,w)
  | .renameIn place source target,_,w =>
    match (w.contentOf place).rename source target with
    | some content => (.ok (),w.refill place content)
    | none => (.error .other,w)
  | .openFile place mode,_,w => openAnswer place mode w
  | .lockShared file,_,w => (.ok (),w.acquire file false)
  | .lockExclusive file,_,w => (.ok (),w.acquire file true)
  | .unlock file,_,w => (.ok (),w.release file)
  | .close file,_,w => (.ok (),w.release file)
  | .readToString file,_,w => (.ok (w.data file.ino),w)
  | .writeAll file bytes,_,w => (.ok (),w.overwrite file bytes)
  | .setLenZero file,_,w => (.ok (),w.write file.ino [])
  | .seekStart _,_,w => (.ok (),w)
  | .flush _,_,w => (.ok (),w)
  | .syncAll _,_,w => (.ok (),w)
  | .now,choice,w => (w.clock + Int.ofNat choice.amount,{w with clock := w.clock + Int.ofNat choice.amount})
  | .trySend event,_,w => (.ok (),{w with events := w.events ++ [event]})

/-- The answer to a call that is made to fail. Reading the clock and closing a file
do not fail; a path test answers false. -/
def failure : (operation : Call) → Choice → World → Reply operation × World
  | .pathExists _,_,w => (false,w)
  | .isDir _,_,w => (false,w)
  | .isFileIn _ _,_,w => (false,w)
  | .isDirIn _ _,_,w => (false,w)
  | .readLink _,_,w => (.error .other,w)
  | .readVersions,_,w => (.error .other,w)
  | .readDirIn _,_,w => (.error .other,w)
  | .modified _,_,w => (.error .other,w)
  | .openFile _ _,_,w => (.error .other,w)
  | .readToString _,_,w => (.error .other,w)
  | .removeDirAll place,choice,w =>
    (.error .other,w.refill place ((w.contentOf place).drop choice.amount))
  | .unpack entry place path,choice,w =>
    (.error .other,w.refill place (tar.unpack entry path choice (w.contentOf place)).1)
  | .writeAll file bytes,choice,w => (.error .other,w.overwrite file (bytes.take (choice.amount % bytes.length)))
  | .now,choice,w => answer tar .now choice w
  | .close file,choice,w => answer tar (.close file) choice w
  | .createDirAll _,_,w | .createDir _,_,w | .removeFile _,_,w | .symlink _ _,_,w
  | .rename _ _,_,w | .syncDir _,_,w | .metadataIn _ _,_,w | .setModeIn _ _ _,_,w
  | .renameIn _ _ _,_,w | .lockShared _,_,w | .lockExclusive _,_,w | .unlock _,_,w
  | .setLenZero _,_,w | .seekStart _,_,w | .flush _,_,w | .syncAll _,_,w
  | .trySend _,_,w => (.error .other,w)

def machine : Machine Sig Choice World where
  exec operation choice w :=
    if choice.fails then failure tar operation choice w else answer tar operation choice w

/-- A link is at the path or above it. -/
def linkOn (dir : Dir) (path : RelPath) : Bool := dir.any fun held => held.2.isLink && held.1.isPrefixOf path

/-- The call goes to or through a link inside the directory it is made in. -/
def World.linked (w : World) : Call → Bool
  | .unpack _ place path | .isFileIn place path | .isDirIn place path | .metadataIn place path
  | .setModeIn place path _ => linkOn (w.contentOf place) path
  | .renameIn place source target => linkOn (w.contentOf place) source || linkOn (w.contentOf place) target
  | _ => false

def host : Machine Sig Choice World where
  exec operation choice w :=
    if w.linked operation then tar.through operation choice w else (machine tar).exec operation choice w

end GatewaySdk.Host
