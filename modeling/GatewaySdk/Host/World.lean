import GatewaySdk.Upgrade.Config
import Mathlib.Logic.Function.Basic

/-! What an install root holds and what the operating system keeps beside it:
directory entries, file contents by inode, advisory locks, clock, event channel.
The install root exists; it, `versions` and `state.json` are not symbolic links. -/
namespace GatewaySdk.Host
open GatewaySdk.Upgrade (Bytes UpgradeEvent)

/-- The paths the upgrade code forms below its install root. -/
inductive Loc where
  | root
  | stateJson
  | stateTmp (pid : Nat)
  | current
  | previous
  | currentTmp
  | versions
  | version (name : String)
  | elsewhere (path : String)
  deriving DecidableEq, Repr

def Loc.display (installRoot : String) : Loc → String
  | .root => installRoot
  | .stateJson => installRoot ++ "/state.json"
  | .stateTmp pid => installRoot ++ "/state.json.tmp." ++ toString pid
  | .current => installRoot ++ "/current"
  | .previous => installRoot ++ "/previous"
  | .currentTmp => installRoot ++ "/current.tmp"
  | .versions => installRoot ++ "/versions"
  | .version name => installRoot ++ "/versions/" ++ name
  | .elsewhere path => path

/-- The place `<name>.partial` under `versions`. -/
def Loc.partialOf (name : String) : Loc := .version (name ++ ".partial")

inductive Item where
  | file (mode : Nat) (bytes : Bytes)
  | dir
  | link (target : String)
  deriving DecidableEq, Repr

def Item.isLink : Item → Bool
  | .link _ => true
  | _ => false

abbrev RelPath := List String

/-- Everything below a directory, in the order the system lists it. -/
abbrev Dir := List (RelPath × Item)

namespace Dir

def get (dir : Dir) (path : RelPath) : Option Item := (dir.find? (fun entry => entry.1 == path)).map (·.2)

def set (dir : Dir) (path : RelPath) (item : Item) : Dir :=
  dir.map (fun entry => if entry.1 = path then (path,item) else entry)

def top (dir : Dir) : List String := dir.filterMap fun entry =>
  match entry.1 with
  | [name] => some name
  | _ => none

/-- `rename` of a file or link inside the directory; a directory is not replaced. -/
def rename (dir : Dir) (source target : RelPath) : Option Dir :=
  match dir.get source,dir.get target with
  | none,_ => none
  | some _,some .dir => none
  | some item,_ => some ((dir.filter (fun entry => entry.1 != source && entry.1 != target)) ++ [(target,item)])

end Dir

inductive Node where
  | dir (ino : Nat) (content : Dir)
  | symlink (target : Loc)
  | file (ino : Nat)
  deriving DecidableEq, Repr

def Node.ino : Node → Option Nat
  | .dir ino _ => some ino
  | .symlink _ => none
  | .file ino => some ino

structure Handle where
  fd : Nat
  ino : Nat
  deriving DecidableEq, Repr

structure Lock where
  handle : Handle
  exclusive : Bool
  deriving DecidableEq, Repr

/-- Inode numbers are handed out once: no entry holds one that is still fresh. -/
structure World where
  node : Loc → Option Node
  data : Nat → Bytes
  fresh : Nat
  names : List String
  locks : List Lock
  nextFd : Nat
  clock : Int
  events : List UpgradeEvent
  allocated : ∀ place entry, node place = some entry → ∀ ino ∈ entry.ino, ino < fresh

namespace World

def put (w : World) (place : Loc) (entry : Node) (ok : ∀ ino ∈ entry.ino, ino < w.fresh) : World :=
  {w with
    node := Function.update w.node place (some entry)
    names := match place with
      | .version name => if name ∈ w.names then w.names else w.names ++ [name]
      | _ => w.names
    allocated := by
      intro other held found ino member
      by_cases same : other = place
      · subst same
        simp only [Function.update_self,Option.some.injEq] at found
        exact ok ino (found ▸ member)
      · rw [Function.update_of_ne same] at found
        exact w.allocated other held found ino member}

def drop (w : World) (place : Loc) : World :=
  {w with
    node := Function.update w.node place none
    allocated := by
      intro other held found ino member
      by_cases same : other = place
      · subst same
        simp at found
      · rw [Function.update_of_ne same] at found
        exact w.allocated other held found ino member}

/-- Take the next inode number, with no bytes under it. -/
def alloc (w : World) : World :=
  {w with
    data := Function.update w.data w.fresh []
    fresh := w.fresh + 1
    allocated := fun place entry found ino member =>
      Nat.lt_succ_of_lt (w.allocated place entry found ino member)}

def write (w : World) (ino : Nat) (bytes : Bytes) : World := {w with data := Function.update w.data ino bytes}

def mkdir (w : World) (place : Loc) : World :=
  w.alloc.put place (.dir w.fresh []) (by simp [Node.ino,alloc])

def link (w : World) (place target : Loc) : World := w.put place (.symlink target) (by simp [Node.ino])

def create (w : World) (place : Loc) : World :=
  w.alloc.put place (.file w.fresh) (by simp [Node.ino,alloc])

/-- New content under a directory that is there; nothing where there is none. -/
def refill (w : World) (place : Loc) (content : Dir) : World :=
  match found : w.node place with
  | some (.dir ino old) => w.put place (.dir ino content) (by
      intro i member
      exact w.allocated place _ found i (by simpa [Node.ino] using member))
  | _ => w

def move (w : World) (source target : Loc) : World :=
  match found : w.node source with
  | some entry => (w.drop source).put target entry (w.allocated source entry found)
  | none => w

variable (w : World) (place : Loc)

@[simp] theorem put_node (entry : Node) (ok) : (w.put place entry ok).node = Function.update w.node place (some entry) := rfl
@[simp] theorem put_data (entry : Node) (ok) : (w.put place entry ok).data = w.data := rfl
@[simp] theorem put_fresh (entry : Node) (ok) : (w.put place entry ok).fresh = w.fresh := rfl
@[simp] theorem drop_node : (w.drop place).node = Function.update w.node place none := rfl
@[simp] theorem drop_data : (w.drop place).data = w.data := rfl
@[simp] theorem drop_fresh : (w.drop place).fresh = w.fresh := rfl
@[simp] theorem alloc_node : w.alloc.node = w.node := rfl
@[simp] theorem alloc_data : w.alloc.data = Function.update w.data w.fresh [] := rfl
@[simp] theorem alloc_fresh : w.alloc.fresh = w.fresh + 1 := rfl
@[simp] theorem write_node (ino : Nat) (bytes : Bytes) : (w.write ino bytes).node = w.node := rfl
@[simp] theorem write_data (ino : Nat) (bytes : Bytes) :
    (w.write ino bytes).data = Function.update w.data ino bytes := rfl
@[simp] theorem write_fresh (ino : Nat) (bytes : Bytes) : (w.write ino bytes).fresh = w.fresh := rfl
@[simp] theorem mkdir_node :
    (w.mkdir place).node = Function.update w.node place (some (.dir w.fresh [])) := rfl
@[simp] theorem mkdir_data : (w.mkdir place).data = Function.update w.data w.fresh [] := rfl
@[simp] theorem mkdir_fresh : (w.mkdir place).fresh = w.fresh + 1 := rfl
@[simp] theorem link_node (target : Loc) :
    (w.link place target).node = Function.update w.node place (some (.symlink target)) := rfl
@[simp] theorem link_data (target : Loc) : (w.link place target).data = w.data := rfl
@[simp] theorem link_fresh (target : Loc) : (w.link place target).fresh = w.fresh := rfl
@[simp] theorem create_node :
    (w.create place).node = Function.update w.node place (some (.file w.fresh)) := rfl
@[simp] theorem create_data : (w.create place).data = Function.update w.data w.fresh [] := rfl
@[simp] theorem create_fresh : (w.create place).fresh = w.fresh + 1 := rfl

theorem refill_dir {ino : Nat} {old : Dir} (found : w.node place = some (.dir ino old)) (content : Dir) :
    (w.refill place content).node = Function.update w.node place (some (.dir ino content)) := by
  unfold refill
  split
  next i o held =>
    have same := held.symm.trans found
    simp only [Option.some.injEq,Node.dir.injEq] at same
    simp [same.1]
  next none => exact absurd found (none ino old)

theorem refill_other (other : ∀ ino old, w.node place ≠ some (.dir ino old)) (content : Dir) :
    w.refill place content = w := by
  unfold refill
  split
  next ino old held => exact absurd held (other ino old)
  next => rfl

theorem refill_node_of_ne {other : Loc} (apart : other ≠ place) (content : Dir) :
    (w.refill place content).node other = w.node other := by
  unfold refill
  split
  · simp [apart]
  · rfl

@[simp] theorem refill_data (content : Dir) : (w.refill place content).data = w.data := by
  unfold refill
  split <;> rfl

@[simp] theorem refill_fresh (content : Dir) : (w.refill place content).fresh = w.fresh := by
  unfold refill
  split <;> rfl

theorem move_node {source target : Loc} {entry : Node} (found : w.node source = some entry) :
    (w.move source target).node =
      Function.update (Function.update w.node source none) target (some entry) := by
  unfold move
  split
  next held =>
    rw [found,Option.some.injEq] at held
    rw [held]
    rfl
  next none => simp [found] at none

theorem move_node_of_ne {source target other : Loc} (left : other ≠ source) (right : other ≠ target) :
    (w.move source target).node other = w.node other := by
  unfold move
  split
  · exact (Function.update_of_ne right ..).trans (Function.update_of_ne left ..)
  · rfl

@[simp] theorem move_data (source target : Loc) : (w.move source target).data = w.data := by
  unfold move
  split <;> rfl

@[simp] theorem move_fresh (source target : Loc) : (w.move source target).fresh = w.fresh := by
  unfold move
  split <;> rfl

def bare : World where
  node _ := none
  data _ := []
  fresh := 0
  names := []
  locks := []
  nextFd := 0
  clock := 0
  events := []
  allocated := nofun

/-- An install root with `state.json` alone. -/
def ofState (bytes : Bytes) : World := (bare.create .stateJson).write 0 bytes

/-- Follow symbolic links from a place, as many as the system does. -/
def follow (node : Loc → Option Node) : Nat → Loc → Loc
  | 0,place => place
  | steps + 1,place =>
    match node place with
    | some (.symlink target) => follow node steps target
    | _ => place

def target (w : World) (place : Loc) : Loc := follow w.node 40 place

def stat (w : World) (place : Loc) : Option Node := w.node (w.target place)

theorem target_of_no_link (entry : Node) (found : w.node place = some entry)
    (plain : ∀ other, entry ≠ .symlink other) : w.target place = place := by
  unfold target
  rw [follow,found]
  split
  next other held =>
    rw [Option.some.injEq] at held
    exact absurd held (plain other)
  next => rfl

theorem stat_of_no_link (entry : Node) (found : w.node place = some entry)
    (plain : ∀ other, entry ≠ .symlink other) : w.stat place = some entry := by
  unfold stat
  rw [target_of_no_link w place entry found plain,found]

def isDir (w : World) (place : Loc) : Bool :=
  match w.stat place with
  | some (.dir _ _) => true
  | _ => false

/-- The directory an entry is made in is there. -/
def parentOk (w : World) : Loc → Bool
  | .version _ => w.isDir .versions
  | _ => true

def content (w : World) (place : Loc) : Option Bytes :=
  match w.node place with
  | some (.file ino) => some (w.data ino)
  | _ => none

end World
end GatewaySdk.Host
