import GatewaySdk.Upgrade.Manifest
import GatewaySdk.Upgrade.State

/-! Tarball extraction, the symlink swap and the collection of old versions. -/
namespace GatewaySdk.Upgrade
open GatewaySdk.Effect GatewaySdk.Host

def Component.text : Component → String
  | .rootDir => "/"
  | .curDir => "."
  | .parentDir => ".."
  | .normal name => name

def pathText (path : List Component) : String := "/".intercalate (path.map Component.text)

/-- What joining the components to a directory reaches below it. -/
def relative (path : List Component) : RelPath := path.filterMap fun part =>
  match part with
  | .normal name => some name
  | _ => none

def checkEntryPath (path : List Component) : Except Error Unit := do
  bailIf (path.head? = some .rootDir) ("tar entry has absolute path " ++ debugStr (pathText path) ++ " — refusing")
  bailIf (Component.parentDir ∈ path) ("tar entry has '..' segment " ++ debugStr (pathText path) ++ " — refusing")

/-- The entries one after another; an unreadable one, a refused path or a failed
unpacking ends the extraction. -/
def unpackAll (dest : Loc) : List (Option TarEntry) → Prog Error Unit
  | [] => return ()
  | none::_ => .fail "failed to iterate over archive"
  | some entry::rest => do
    Program.ofExcept (checkEntryPath entry.path)
    bare (sys (.unpack entry dest (relative entry.path)) id)
    unpackAll dest rest

def extractTarball (tar : TarCrate) (tarballBytes : Bytes) (dest : Loc) : Prog Error Unit :=
  match tar.entries tarballBytes with
  | none => .fail "failed to iterate over archive"
  | some entries => unpackAll dest entries

def findNested (base : Loc) (name : String) : List String → Prog Error (Option RelPath)
  | [] => return none
  | entry::rest => do
    let dir ← @Program.request Sig Error (.isDirIn base [entry])
    if dir = true then do
      let nested ← @Program.request Sig Error (.isFileIn base [entry,name])
      if nested = true then return some [entry,name] else findNested base name rest
    else findNested base name rest

def locateBinary (base : Loc) (name : String) : Prog Error (Option RelPath) := do
  let direct ← @Program.request Sig Error (.isFileIn base [name])
  if direct = true then return some [name]
  else do
    let listed ← (sys (.readDirIn base) id).attempt
    match listed with
    | .error _ => return none
    | .ok entries => findNested base name entries

def moveUp (base : Loc) (binaryName : String) (binarySrc : RelPath) : Prog Error Unit :=
  if binarySrc ≠ [binaryName] then bare (sys (.renameIn base binarySrc [binaryName]) id) else return ()

/-- Find the binary, make it executable, put it at the top. -/
def prepareBinary (base : Loc) (binaryName : String) : Prog Error Unit := do
  let found ← locateBinary base binaryName
  match found with
  | none => .fail ("binary " ++ debugStr binaryName ++ " not found in extracted tarball")
  | some binarySrc => do
    bare (sys (.metadataIn base binarySrc) id)
    bare (sys (.setModeIn base binarySrc 0o755) id)
    moveUp base binaryName binarySrc

/-- `previous` takes over the target `current` has, where it has one. -/
def keepPrevious : Prog Error Unit := do
  let existing ← (Io.readLink .current).attempt
  match existing with
  | .error _ => return ()
  | .ok target => do
    ignore (Io.removeFile .previous)
    bare (Io.symlink target .previous)

def swapCurrentSymlink (newTarget : Loc) : Prog Error Unit := do
  keepPrevious
  ignore (Io.removeFile .currentTmp)
  bare (Io.symlink newTarget .currentTmp)
  bare (Io.rename .currentTmp .current)
  ignore (Io.syncDir .root)

/-- The first pass: the current version is passed over, `.partial` directories go,
the others are kept with their times. -/
def gcEntries (currentVersion : String) : List String → Prog Error (List (String × Nat))
  | [] => return []
  | name::rest =>
    if name = currentVersion then gcEntries currentVersion rest
    else if endsWith name ".partial" = true then do
      ignore (Io.removeDirAll (.version name))
      gcEntries currentVersion rest
    else do
      let mtime ← (sys (.modified (.version name)) id).attempt
      let more ← gcEntries currentVersion rest
      match mtime with
      | .error _ => return more
      | .ok mtime => return (name,mtime)::more

def removeVersions : List String → Prog Error Unit
  | [] => return ()
  | name::rest => do
    ignore (Io.removeDirAll (.version name))
    removeVersions rest

/-- Newest first, in the order of the listing where times agree. -/
def gcVictims (entries : List (String × Nat)) (keep : Nat) : List String :=
  ((entries.mergeSort (fun a b => decide (b.2 ≤ a.2))).drop keep).map Prod.fst

def gcVersions (currentVersion : String) (keep : Nat) : Prog Error Unit := do
  let names ← bare (sys .readVersions id)
  let entries ← gcEntries currentVersion names
  removeVersions (gcVictims entries keep)

def clearPartial (newVersion : String) : Prog Error Unit := do
  let there ← Io.pathExists (.partialOf newVersion)
  if there = true then bare (Io.removeDirAll (.partialOf newVersion)) else return ()

/-- Make room for the new version; true where it is the one `current` points at. -/
def clearFinal (newVersion : String) : Prog Error Bool := do
  let there ← Io.pathExists (.version newVersion)
  if there = true then do
    let link ← (Io.readLink .current).attempt
    if link.toOption ≠ some (.version newVersion) then do
      bare (Io.removeDirAll (.version newVersion))
      return false
    else return true
  else return false

def installVersion (tar : TarCrate) (newVersion binaryName : String) (tarballBytes : Bytes) : Prog Error Loc := do
  bare (Io.createDir (.partialOf newVersion))
  extractTarball tar tarballBytes (.partialOf newVersion)
  prepareBinary (.partialOf newVersion) binaryName
  ignore (Io.syncDir (.partialOf newVersion))
  bare (Io.rename (.partialOf newVersion) (.version newVersion))
  swapCurrentSymlink (.version newVersion)
  ignore (gcVersions newVersion 3)
  return .version newVersion

def stageNewVersion (tar : TarCrate) (installRoot newVersion binaryName : String) (tarballBytes : Bytes)
    (manifest : Manifest) : Prog Error Loc := do
  Program.ofExcept (bailIf (newVersion ≠ manifest.version)
    ("internal error: stage_new_version called with new_version=" ++ newVersion ++ " but manifest.version=" ++
      manifest.version))
  context ("creating " ++ installRoot ++ "/versions") (Io.createDirAll .versions)
  clearPartial newVersion
  let live ← clearFinal newVersion
  if live = true then return .version newVersion
  else installVersion tar newVersion binaryName tarballBytes

def UpgradeStatus.debug : UpgradeStatus → String
  | .stable => "Stable"
  | .pendingHealth => "PendingHealth"
  | .rolledBack => "RolledBack"
  | .stagedManual => "StagedManual"

def manualApplyPending (serde : Serde) (installRoot : String) (pid : Nat) : Prog Error Unit := do
  let state ← load serde installRoot
  Program.ofExcept (bailIf (state.status ≠ .stagedManual)
    ("no manual-staged upgrade pending (state.status = " ++ state.status.debug ++ ")"))
  let target := Loc.version state.currentVersion
  let there ← Io.isDir target
  Program.ofExcept (bailIf (there = false) ("staged version directory missing: " ++ target.display installRoot))
  swapCurrentSymlink target
  save serde installRoot pid {state with status := .pendingHealth, bootAttempts := 0}

end GatewaySdk.Upgrade
