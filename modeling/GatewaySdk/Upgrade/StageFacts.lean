import GatewaySdk.Upgrade.LoadFacts
import GatewaySdk.Upgrade.Stage

/-! The phases of `stage`: which calls each can make, the two renames that end the
first two of them, and the rule that carries a predicate of its own through each. -/
namespace GatewaySdk.Upgrade
open GatewaySdk.Effect GatewaySdk.Host

/-- The calls that make room for a version. -/
def Clears (v : String) (operation : Call) : Prop :=
  Quiet operation ∨ operation = .createDirAll .versions ∨ operation = .createDir (.partialOf v) ∨
    operation = .removeDirAll (.partialOf v) ∨ operation = .removeDirAll (.version v)

/-- The calls that fill its partial directory, from the tarball alone. -/
inductive Fills (tar : TarCrate) (v : String) (tarballBytes : Bytes) : Call → Prop
  | looks {operation : Call} (still : Within (fun _ => False) operation) : Fills tar v tarballBytes operation
  | unpack (entry : TarEntry) (path : RelPath)
    (source : ∃ entries, tar.entries tarballBytes = some entries ∧ some entry ∈ entries) :
    Fills tar v tarballBytes (.unpack entry (.partialOf v) path)
  | setMode (path : RelPath) (mode : Nat) : Fills tar v tarballBytes (.setModeIn (.partialOf v) path mode)
  | rename (source target : RelPath) : Fills tar v tarballBytes (.renameIn (.partialOf v) source target)

/-- The calls that look for the binary. -/
inductive Searches (base : Loc) (name : String) : Call → Prop
  | direct : Searches base name (.isFileIn base [name])
  | list : Searches base name (.readDirIn base)
  | top (entry : String) : Searches base name (.isDirIn base [entry])
  | nested (entry : String) : Searches base name (.isFileIn base [entry,name])

/-- The calls that prepare the links. -/
inductive Links : Call → Prop
  | quiet {operation : Call} (quiet : Quiet operation) : Links operation
  | remove (place : Loc) (own : place = .previous ∨ place = .currentTmp) : Links (.removeFile place)
  | link (target place : Loc) (own : place = .previous ∨ place = .currentTmp) : Links (.symlink target place)

/-- The calls that collect the versions other than this one. -/
def Collects (v : String) (operation : Call) : Prop :=
  Quiet operation ∨ ∃ name, name ≠ v ∧ operation = .removeDirAll (.version name)

/-- The step that completes a version's directory. -/
def completed (v : String) : Call := .rename (.partialOf v) (.version v)

theorem partialOf_ne (v : String) : Loc.partialOf v ≠ .version v := by
  intro same
  have long := congrArg String.length (Loc.version.inj same)
  rw [String.length_append] at long
  simp at long

/-- The step that makes it the live one. -/
def swapped : Call := .rename .currentTmp .current

variable {crates : Crates} {coordinator : UpgradeCoordinator} {network : Network} {request : StageRequest}
  {tar : TarCrate} {v : String} {tarballBytes : Bytes}

theorem Searches.still {base : Loc} {name : String} {operation : Call} (searches : Searches base name operation) :
    Within (fun _ => False) operation := by
  cases searches <;> exact ⟨fun _ own => own,fun _ own => own⟩

theorem Fills.within {operation : Call} (fills : Fills tar v tarballBytes operation) :
    Within (fun place => place = .partialOf v) operation := by
  cases fills with
  | looks still => exact still.mono fun _ => False.elim
  | unpack | setMode | rename => exact ⟨fun place own => own,nofun⟩

theorem Fills.source {operation : Call} (fills : Fills tar v tarballBytes operation) {entry : TarEntry} {place : Loc}
    {path : RelPath} (same : operation = .unpack entry place path) :
    ∃ entries, tar.entries tarballBytes = some entries ∧ some entry ∈ entries := by
  subst same
  cases fills with
  | looks still => exact (still.touches place rfl).elim
  | unpack _ _ source => exact source

theorem Links.within {operation : Call} (links : Links operation) :
    Within (fun place => place = .previous ∨ place = .currentTmp) operation := by
  cases links with
  | quiet quiet => exact quiet.within _
  | remove place own => exact ⟨fun other same => same ▸ own,nofun⟩
  | link target place own => exact ⟨fun other same => same ▸ own,nofun⟩

theorem approve_uses : Uses Quiet (approve crates coordinator network request) := by
  refine (Uses.ofExcept _).bind fun base => ?_
  refine (Calls.ignore (Calls.sys (quiet_of_silent rfl))).bind fun _ => ?_
  refine (Uses.ofExcept _).bind fun manifest => ?_
  refine (tryLoad_uses _ _).bind fun found => ?_
  refine (Uses.ofExcept _).bind fun _ => ?_
  refine (Uses.ofExcept _).bind fun tarball => ?_
  refine (Calls.ignore (Calls.sys (quiet_of_silent rfl))).bind fun _ => ?_
  exact (Uses.ofExcept _).bind fun _ => trivial

/-- What the checks of a call have accepted. -/
structure Approved (crates : Crates) (coordinator : UpgradeCoordinator) (network : Network) (request : StageRequest)
    (manifest : Manifest) (tarballBytes : Bytes) : Prop where
  checked : ∃ releaseBase, checkRequest crates coordinator request = .ok releaseBase ∧
    fetchManifest crates coordinator network request releaseBase = .ok manifest
  fetched : fetchTarball crates coordinator network request manifest = .ok tarballBytes
  automatic : ¬ coordinator.config.manualOnly = true

theorem Approved.same {crates : Crates} {coordinator : UpgradeCoordinator} {network : Network} {request : StageRequest}
    {manifest other : Manifest} {tarballBytes bytes : Bytes}
    (approved : Approved crates coordinator network request manifest tarballBytes)
    (again : Approved crates coordinator network request other bytes) : other = manifest ∧ bytes = tarballBytes := by
  obtain ⟨⟨base,checked,fetched⟩,downloaded,_⟩ := approved
  obtain ⟨⟨base',checked',fetched'⟩,downloaded',_⟩ := again
  obtain rfl := Except.ok.inj (checked.symm.trans checked')
  obtain rfl := Except.ok.inj (fetched.symm.trans fetched')
  exact ⟨rfl,Except.ok.inj (downloaded'.symm.trans downloaded)⟩

/-- The sequence is above the one on disk, unless that could not be read. -/
def Newer (serde : Serde) (manifest : Manifest) (m : Moment) : Prop :=
  ∀ s, readState serde m.1 = some s → s.lastSequence < manifest.sequence ∨ Saw FailedRead m.2

theorem Newer.stable (serde : Serde) (manifest : Manifest) : Stable (machine tar) Quiet (Newer serde manifest) := by
  intro operation choice m quiet newer s read
  have framed := @exec_framed tar choice m.1 _ _ quiet.still
  have same := @readState_same serde m.1 _ (framed.node _ id) framed.data
  exact (newer s (same.symm.trans read)).imp id (Stable.saw FailedRead operation choice m quiet)

theorem Reported.newer {serde : Serde} {manifest : Manifest} {state : Option InstallState} {m : Moment}
    (reported : Reported serde state m) (passed : checkSequence manifest state = .ok ()) :
    Newer serde manifest m := by
  intro s read
  cases state with
  | none =>
    obtain empty | failed := reported.2 rfl
    · rw [empty] at read
      cases read
    · exact .inr failed
  | some t =>
    have same := (reported.1 t rfl).symm.trans read
    obtain rfl := Option.some.inj same
    exact .inl (UInt64.not_le.mp (bailAs_ok.mp passed))

theorem approve_holds {P : Moment → Prop} {m : Moment} (stable : Stable (machine tar) Quiet P) (start : P m) :
    Holds (machine tar).record P
      (fun outcome m => ∀ manifest tarballBytes, outcome = .ok (manifest,tarballBytes) →
        Approved crates coordinator network request manifest tarballBytes ∧ Newer crates.serde manifest m)
      (approve crates coordinator network request) m := by
  have sends (event : UpgradeEvent) : Quiet (.trySend event) := quiet_of_silent rfl
  refine Run.bindExcept start (fun base checked => ?_) (fun _ _ => nofun)
  refine Holds.bind _ (Run.ignored (Calls.sys (sends _)) stable start) ?_ (fun _ _ _ _ => nofun)
  intro _ m start _
  refine Run.bindExcept start (fun manifest fetched => ?_) (fun _ _ => nofun)
  refine Holds.bind _ (tryLoad_holds stable start) ?_ (fun _ _ _ _ => nofun)
  intro state m start loaded
  obtain ⟨found,same,reported⟩ := loaded
  obtain rfl := Except.ok.inj same
  refine Run.bindExcept start (fun _ passed => ?_) (fun _ _ => nofun)
  refine Run.bindExcept start (fun tarballBytes downloaded => ?_) (fun _ _ => nofun)
  have newer := reported.newer passed
  refine Holds.bind _ (Run.ignored (Calls.sys (sends _)) (stable.and (Newer.stable _ _)) ⟨start,newer⟩ |>.mono
    (fun _ held => held.1) (fun _ _ _ held => held.2)) ?_ (fun _ _ _ _ => nofun)
  intro _ m start newer
  refine Run.bindExcept start (fun _ automatic => ?_) (fun _ _ => nofun)
  refine ⟨start,fun other bytes same => ?_⟩
  cases same
  exact ⟨⟨⟨base,checked,fetched⟩,downloaded,bailAs_ok.mp automatic⟩,newer.2⟩

theorem unpackAll_uses {all : List (Option TarEntry)} (read : tar.entries tarballBytes = some all)
    (entries : List (Option TarEntry)) (inside : ∀ entry ∈ entries, entry ∈ all) :
    Uses (Fills tar v tarballBytes) (unpackAll (.partialOf v) entries) := by
  induction entries with
  | nil => trivial
  | cons entry rest ih =>
    cases entry with
    | none => trivial
    | some entry =>
      have own : Fills tar v tarballBytes (.unpack entry (.partialOf v) (relative entry.path)) :=
        .unpack entry _ ⟨all,read,inside _ List.mem_cons_self⟩
      refine (Uses.ofExcept _).bind fun _ => ?_
      exact (Calls.bare (Calls.sys own)).bind fun _ => ih fun e member => inside e (List.mem_cons_of_mem _ member)

theorem extractTarball_uses :
    Uses (Fills tar v tarballBytes) (extractTarball tar tarballBytes (.partialOf v)) := by
  unfold extractTarball
  cases read : tar.entries tarballBytes with
  | none => trivial
  | some entries => exact unpackAll_uses read entries fun _ member => member

theorem findNested_uses (base : Loc) (name : String) (entries : List String) :
    Uses (Searches base name) (findNested base name entries) := by
  induction entries with
  | nil => trivial
  | cons entry rest ih =>
    refine (Calls.request (.top entry)).bind fun dir => ?_
    split
    · refine (Calls.request (.nested entry)).bind fun nested => ?_
      split
      · trivial
      · exact ih
    · exact ih

theorem locateBinary_uses (base : Loc) (name : String) : Uses (Searches base name) (locateBinary base name) := by
  refine (Calls.request .direct).bind fun direct => ?_
  split
  · trivial
  · refine (Uses.attempt (Calls.sys .list)).bind fun listed => ?_
    cases listed with
    | error => trivial
    | ok entries => exact findNested_uses base name entries

theorem prepareBinary_uses (name : String) : Uses (Fills tar v tarballBytes) (prepareBinary (.partialOf v) name) := by
  refine ((locateBinary_uses _ name).mono fun _ searches => .looks searches.still).bind fun found => ?_
  cases found with
  | none => trivial
  | some source =>
    refine (Calls.bare (Calls.sys (.looks ⟨fun _ own => own,fun _ own => own⟩))).bind fun _ => ?_
    refine (Calls.bare (Calls.sys (.setMode _ _))).bind fun _ => ?_
    unfold moveUp
    split
    · exact Calls.bare (Calls.sys (.rename _ _))
    · trivial

theorem keepPrevious_uses : Uses Links keepPrevious := by
  refine (Uses.attempt (Calls.sys (.quiet (quiet_of_silent rfl)))).bind fun existing => ?_
  cases existing with
  | error => trivial
  | ok target =>
    refine (Calls.ignore (Calls.sys (.remove .previous (.inl rfl)))).bind fun _ => ?_
    exact Calls.bare (Calls.sys (.link target .previous (.inl rfl)))

theorem gcEntries_uses (names : List String) : Uses (Collects v) (gcEntries v names) := by
  induction names with
  | nil => trivial
  | cons name rest ih =>
    unfold gcEntries
    split
    · exact ih
    next other =>
      split
      · exact (Calls.ignore (Calls.sys (.inr ⟨name,other,rfl⟩))).bind fun _ => ih
      · refine (Uses.attempt (Calls.sys (.inl (quiet_of_silent rfl)))).bind fun mtime => ?_
        refine ih.bind fun more => ?_
        cases mtime <;> trivial

theorem gcEntries_gives (names : List String) :
    Gives (fun entries => ∀ entry ∈ entries, entry.1 ≠ v) (gcEntries v names) := by
  induction names with
  | nil => exact List.forall_mem_nil _
  | cons name rest ih =>
    unfold gcEntries
    split
    · exact ih
    next other =>
      split
      · exact (Gives.any _).bind fun _ _ => ih
      · refine (Gives.any _).bind fun mtime _ => ih.bind fun more apart => ?_
        cases mtime with
        | error error => exact apart
        | ok time => exact List.forall_mem_cons.mpr ⟨other,apart⟩

theorem removeVersions_uses (names : List String) (others : ∀ name ∈ names, name ≠ v) :
    Uses (Collects v) (removeVersions names) := by
  induction names with
  | nil => trivial
  | cons name rest ih =>
    obtain ⟨other,others⟩ := List.forall_mem_cons.mp others
    exact (Calls.ignore (Calls.sys (.inr ⟨name,other,rfl⟩))).bind fun _ => ih others

theorem gcVictims_mem {entries : List (String × Nat)} {keep : Nat} {name : String}
    (victim : name ∈ gcVictims entries keep) : ∃ entry ∈ entries, entry.1 = name := by
  obtain ⟨entry,member,same⟩ := List.mem_map.mp victim
  exact ⟨entry,(List.mergeSort_perm entries _).mem_iff.mp (List.mem_of_mem_drop member),same⟩

theorem gcVersions_uses (keep : Nat) : Uses (Collects v) (gcVersions v keep) := by
  refine (Calls.bare (Calls.sys (.inl (quiet_of_silent rfl)))).bind fun names => ?_
  refine (gcEntries_uses names).after (gcEntries_gives names) fun entries apart => removeVersions_uses _ ?_
  intro name victim
  obtain ⟨entry,member,rfl⟩ := gcVictims_mem victim
  exact apart entry member

/-- Every call of an installation. -/
inductive Installs (tar : TarCrate) (v : String) (tarballBytes : Bytes) : Call → Prop
  | clears {operation : Call} (clears : Clears v operation) : Installs tar v tarballBytes operation
  | fills {operation : Call} (fills : Fills tar v tarballBytes operation) : Installs tar v tarballBytes operation
  | completes : Installs tar v tarballBytes (completed v)
  | links {operation : Call} (links : Links operation) : Installs tar v tarballBytes operation
  | swaps : Installs tar v tarballBytes swapped
  | collects {operation : Call} (collects : Collects v operation) : Installs tar v tarballBytes operation

theorem Installs.of_quiet {operation : Call} (quiet : Quiet operation) : Installs tar v tarballBytes operation :=
  .collects (.inl quiet)

theorem clearPartial_uses : Uses (Clears v) (clearPartial v) := by
  refine (Calls.request (.inl (quiet_of_silent rfl))).bind fun there => ?_
  split
  · exact Calls.bare (Calls.sys (.inr (.inr (.inr (.inl rfl)))))
  · trivial

theorem clearFinal_uses : Uses (Clears v) (clearFinal v) := by
  refine (Calls.request (.inl (quiet_of_silent rfl))).bind fun there => ?_
  split
  · refine (Uses.attempt (Calls.sys (.inl (quiet_of_silent rfl)))).bind fun link => ?_
    split
    · exact (Calls.bare (Calls.sys (.inr (.inr (.inr (.inr rfl)))))).bind fun _ => trivial
    · trivial
  · trivial

/-- Every call of a swap. -/
def Relinks (operation : Call) : Prop := Links operation ∨ operation = swapped

def linkPlaces (place : Loc) : Prop := place = .current ∨ place = .previous ∨ place = .currentTmp

theorem Relinks.within {operation : Call} (relinks : Relinks operation) : Within linkPlaces operation := by
  obtain links | rfl := relinks
  · exact ⟨fun place own => .inr (links.within.1 place own),links.within.2⟩
  · refine ⟨fun place own => ?_,fun ino own => by cases own⟩
    obtain rfl | rfl := own
    · exact .inr (.inr rfl)
    · exact .inl rfl

theorem swap_relinks (target : Loc) : Uses Relinks (swapCurrentSymlink target) := by
  refine (keepPrevious_uses.mono fun _ => .inl).bind fun _ => ?_
  refine (Calls.ignore (Calls.sys (.inl (.remove .currentTmp (.inr rfl))))).bind fun _ => ?_
  refine (Calls.bare (Calls.sys (.inl (.link target .currentTmp (.inr rfl))))).bind fun _ => ?_
  refine (Calls.bare (Calls.sys (.inr rfl))).bind fun _ => ?_
  exact Calls.ignore (Calls.sys (.inl (.quiet (quiet_of_silent rfl))))

theorem swap_uses (target : Loc) : Uses (Installs tar v tarballBytes) (swapCurrentSymlink target) := by
  refine (swap_relinks target).mono fun operation relinks => ?_
  obtain links | rfl := relinks
  · exact .links links
  · exact .swaps

theorem installVersion_uses (binaryName : String) :
    Uses (Installs tar v tarballBytes) (installVersion tar v binaryName tarballBytes) := by
  refine (Calls.bare (Calls.sys (.clears (.inr (.inr (.inl rfl)))))).bind fun _ => ?_
  refine (extractTarball_uses.mono fun _ => .fills).bind fun _ => ?_
  refine ((prepareBinary_uses binaryName).mono fun _ => .fills).bind fun _ => ?_
  refine (Calls.ignore (Calls.sys (.of_quiet (quiet_of_silent rfl)))).bind fun _ => ?_
  refine (Calls.bare (Calls.sys .completes)).bind fun _ => ?_
  refine (swap_uses _).bind fun _ => ?_
  exact (Calls.ignore ((gcVersions_uses 3).mono fun _ => .collects)).bind fun _ => trivial

theorem stageNewVersion_uses (installRoot binaryName : String) (manifest : Manifest) :
    Uses (Installs tar v tarballBytes) (stageNewVersion tar installRoot v binaryName tarballBytes manifest) := by
  refine (Uses.ofExcept _).bind fun _ => ?_
  refine (Calls.context (Calls.sys (.clears (.inr (.inl rfl))))).bind fun _ => ?_
  refine (clearPartial_uses.mono fun _ => .clears).bind fun _ => ?_
  refine (clearFinal_uses.mono fun _ => .clears).bind fun live => ?_
  split
  · trivial
  · exact installVersion_uses binaryName

theorem recordStaged_uses (manifest : Manifest) :
    Uses (Saves coordinator.pid) (recordStaged crates coordinator request manifest) := by
  refine ((tryLoad_uses _ _).mono fun _ => .quiet).bind fun prev => ?_
  refine (Calls.request (.quiet (quiet_of_silent rfl))).bind fun now => ?_
  exact (save_uses _ _ _ _).mapError

def Failing (event : Event Sig Choice World) : Prop := event.choice.fails = true

/-- `previous` is a link to what `current` is one to, unless a call was made to fail. -/
def LinkKept (m : Moment) : Prop :=
  ∀ target, m.1.node .current = some (.symlink target) →
    m.1.node .previous = some (.symlink target) ∨ Saw Failing m.2

/-- What a predicate has to survive in each phase of `stage_new_version`. -/
structure Phases (tar : TarCrate) (v : String) (tarballBytes : Bytes) (clearing filling linking live : Moment → Prop) : Prop where
  clears : Stable (machine tar) (Clears v) clearing
  made : ∀ m choice w', (machine tar).exec (.createDir (.partialOf v)) choice m.1 = (.ok (),w') → clearing m →
    filling (w',m.2 ++ [⟨m.1,.createDir (.partialOf v),choice,.ok ()⟩])
  fills : Stable (machine tar) (Fills tar v tarballBytes) filling
  moved : ∀ m choice w', (machine tar).exec (completed v) choice m.1 = (.ok (),w') → filling m →
    linking (w',m.2 ++ [⟨m.1,completed v,choice,.ok ()⟩])
  unmoved : ∀ m choice error, (machine tar).exec (completed v) choice m.1 = (.error error,m.1) → filling m →
    filling (m.1,m.2 ++ [⟨m.1,completed v,choice,.error error⟩])
  links : Stable (machine tar) Links linking
  swaps : ∀ m choice w', (machine tar).exec swapped choice m.1 = (.ok (),w') → linking m →
    m.1.node .currentTmp = some (.symlink (.version v)) → LinkKept m →
    live (w',m.2 ++ [⟨m.1,swapped,choice,.ok ()⟩])
  unswapped : ∀ m choice error, (machine tar).exec swapped choice m.1 = (.error error,m.1) → linking m →
    linking (m.1,m.2 ++ [⟨m.1,swapped,choice,.error error⟩])
  collects : Stable (machine tar) (Collects v) live

variable {clearing filling linking live : Moment → Prop} {m : Moment}

theorem LinkKept.stable (operation : Call) (current : Apart .current operation) (previous : Apart .previous operation)
    (choice : Choice) (kept : LinkKept m) : LinkKept ((machine tar).record.exec operation choice m).2 := by
  intro target found
  have same := (@exec_effect tar choice m.1 operation).node current
  obtain linked | failed := kept target (same.symm.trans found)
  · exact .inl (((exec_effect operation).node previous).trans linked)
  · exact .inr (saw_snoc.mpr (.inl failed))

theorem keepPrevious_linked :
    Holds (machine tar).record (fun _ => True) (fun outcome m => outcome = .ok () → LinkKept m) keepPrevious m := by
  apply Holds.bind (fun outcome m => (∃ link, outcome = .ok link) ∧ ∀ link, outcome = .ok link →
    match link with
    | .ok target => m.1.node .current = some (.symlink target)
    | .error _ => LinkKept m)
  · apply Holds.attempt
    refine Run.sys trivial (fun choice answer w' answered => ⟨trivial,⟨_,rfl⟩,fun link same => ?_⟩)
    obtain rfl : answer = link := Except.ok.inj same
    obtain ⟨found,rfl⟩ := readLink_cases answered
    cases answer with
    | ok target => exact found target rfl
    | error error =>
      intro target linked
      obtain failed | plain := exec_answer answered
      · exact .inr (saw_snoc.mpr (.inr failed))
      · have there : m.1.node .current = some (.symlink target) := linked
        simp only [answer,there] at plain
        cases plain
  · intro link m _ read
    have held := read.2 link rfl
    cases link with
    | error error => exact ⟨trivial,fun _ => held⟩
    | ok target =>
      apply Holds.bind (fun _ m => m.1.node .current = some (.symlink target))
      · have apart : Apart .current (.removeFile .previous) := by
          intro own
          cases own
        have keep : Stable (machine tar) (Apart .current) (fun m => m.1.node .current = some (.symlink target)) :=
          Stable.entry .current fun entry => entry = some (.symlink target)
        exact (Run.ignored (Calls.sys apart) keep held).mono (fun _ _ => trivial) (fun _ _ _ held => held.2)
      · intro _ m _ held
        apply Run.bare
        refine Run.sys trivial (fun choice answer w' answered => ⟨trivial,fun made => ?_⟩)
        obtain ⟨error,rfl,rfl⟩ | ⟨rfl,_,rfl⟩ := symlink_cases answered
        · cases made
        · intro other found
          have same : m.1.node .current = some (.symlink other) := by simpa using found
          rw [held] at same
          exact .inl (by simpa using same)
      · intro _ _ _ _ failed
        cases failed
  · intro _ _ _ _ failed
    cases failed

theorem symlink_holds {during P : Moment → Prop} {allowed : Call → Prop} {target place : Loc}
    (own : allowed (.symlink target place)) (stable : Stable (machine tar) allowed P) (within : ∀ m, P m → during m)
    (now : P m) : Holds (machine tar).record during
      (fun outcome m => P m ∧ (outcome = .ok () → m.1.node place = some (.symlink target)))
      (bare (Io.symlink target place)) m := by
  apply Run.bare
  refine Run.sys (within m now) (fun choice answer w' answered => ?_)
  have kept := stable.after own now answered
  refine ⟨within _ kept,kept,fun made => ?_⟩
  obtain ⟨error,rfl,rfl⟩ | ⟨rfl,_,rfl⟩ := symlink_cases answered
  · cases made
  · simp

theorem swap_holds {target : Loc} (links : Stable (machine tar) Links linking)
    (swaps : ∀ m choice w', (machine tar).exec swapped choice m.1 = (.ok (),w') → linking m →
      m.1.node .currentTmp = some (.symlink target) → LinkKept m → live (w',m.2 ++ [⟨m.1,swapped,choice,.ok ()⟩]))
    (unswapped : ∀ m choice error, (machine tar).exec swapped choice m.1 = (.error error,m.1) → linking m →
      linking (m.1,m.2 ++ [⟨m.1,swapped,choice,.error error⟩]))
    (quiet : Stable (machine tar) Quiet live) (start : linking m) :
    Holds (machine tar).record (fun m => linking m ∨ live m)
      (fun outcome m => (outcome = .ok () ∧ live m) ∨ (outcome ≠ .ok () ∧ linking m))
      (swapCurrentSymlink target) m := by
  have refused {ε : Type} {error : ε} {m : Moment} (held : linking m) :
      (Except.error error = .ok () ∧ live m) ∨ (Except.error error ≠ .ok () ∧ linking m) :=
    .inr ⟨nofun,held⟩
  have keep : Stable (machine tar) (fun operation => Links operation ∧ Apart .current operation ∧
      Apart .previous operation) (fun m => linking m ∧ LinkKept m) :=
    fun operation choice m ok held => ⟨links operation choice m ok.1 held.1,held.2.stable operation ok.2.1 ok.2.2 choice⟩
  refine Holds.bind (fun outcome m => linking m ∧ (outcome = .ok () → LinkKept m)) ?_ ?_
    (fun error m _ held => refused held.1)
  · exact ((keepPrevious_uses.stable links start).and keepPrevious_linked).mono (fun _ held => .inl held.1)
      (fun _ _ _ held => held)
  intro _ m _ held
  refine Holds.bind (fun _ m => linking m ∧ LinkKept m) ?_ ?_ (fun error m _ held => refused held.1)
  · have remove : Links (.removeFile .currentTmp) ∧ Apart .current (.removeFile .currentTmp) ∧
        Apart .previous (.removeFile .currentTmp) :=
      ⟨.remove .currentTmp (.inr rfl),by simp [Apart,Touches],by simp [Apart,Touches]⟩
    exact (Run.ignored (Calls.sys remove) keep ⟨held.1,held.2 rfl⟩).mono (fun _ held => .inl held.1)
      (fun _ _ _ held => held.2)
  intro _ m _ held
  have own : Links (.symlink target .currentTmp) ∧ Apart .current (.symlink target .currentTmp) ∧
      Apart .previous (.symlink target .currentTmp) :=
    ⟨.link target .currentTmp (.inr rfl),by simp [Apart,Touches],by simp [Apart,Touches]⟩
  refine Holds.bind _ (symlink_holds own keep (fun _ held => .inl held.1) held) ?_
    (fun error m _ linked => refused linked.1.1)
  intro _ m _ linked
  refine Holds.forward (fun _ => live) linking ?_ ?_ (fun _ _ _ held => refused held)
  · apply Run.bare
    refine Run.sys (.inl linked.1.1) (fun choice answer w' answered => ?_)
    cases answer with
    | ok value =>
      have done := swaps m choice w' answered linked.1.1 (linked.2 rfl) linked.1.2
      exact ⟨.inr done,.inl ⟨(),rfl,done⟩⟩
    | error error =>
      obtain ⟨_,_,rfl⟩ | ⟨same,_⟩ := rename_cases answered
      · have still := unswapped m choice error answered linked.1.1
        exact ⟨.inl still,.inr ⟨⟨_,rfl⟩,still⟩⟩
      · cases same
  intro _ m _ done
  have sync : Quiet (.syncDir .root) := quiet_of_silent rfl
  exact (Run.ignored (Calls.sys sync) quiet done).mono (fun _ => .inr) (fun _ _ _ done => .inl done)

theorem clearFinal_holds (clears : Stable (machine tar) (Clears v) clearing) (start : clearing m) :
    Holds (machine tar).record clearing (fun outcome m => clearing m ∧
        (outcome = .ok true → m.1.node .current = some (.symlink (.version v))))
      (clearFinal v) m := by
  have quiet : Stable (machine tar) Quiet clearing := clears.mono fun _ quiet => .inl quiet
  apply Holds.bind (fun _ => clearing)
  · exact (Calls.request (quiet_of_silent rfl)).stable quiet start
  · intro there m held _
    cases there with
    | false => exact ⟨held,held,nofun⟩
    | true =>
      apply Holds.bind (fun outcome m => clearing m ∧
        ∀ target, outcome = .ok (.ok target) → m.1.node .current = some (.symlink target))
      · apply Holds.attempt
        refine Run.sys held (fun choice answer w' answered => ?_)
        have kept := quiet.after (quiet_of_silent rfl) held answered
        refine ⟨kept,kept,fun target same => ?_⟩
        obtain ⟨found,rfl⟩ := readLink_cases answered
        exact found target (by simpa using same)
      · intro link m _ read
        split
        · have own : Clears v (.removeDirAll (.version v)) := .inr (.inr (.inr (.inr rfl)))
          apply Holds.bind (fun _ => clearing)
          · exact (Calls.bare (Calls.sys own)).stable clears read.1
          · exact fun _ m held _ => ⟨held,held,nofun⟩
          · exact fun error m held _ => ⟨held,nofun⟩
        next live =>
          refine ⟨read.1,read.1,fun _ => ?_⟩
          cases link with
          | error error => simp [Except.toOption] at live
          | ok target =>
            have same : target = .version v := by simpa [Except.toOption] using live
            exact read.2 _ (same ▸ rfl)
      · exact fun error m _ read => ⟨read.1,nofun⟩
  · exact fun error m held _ => ⟨held,nofun⟩

/-- All the moments of `stage_new_version`. -/
def Installing (clearing filling linking live : Moment → Prop) (m : Moment) : Prop :=
  clearing m ∨ filling m ∨ linking m ∨ live m

/-- How it ends: installed, found to be live already, or failed before the swap. -/
def InstallEnd (v : String) (clearing filling linking live : Moment → Prop) {α : Type} (outcome : Except Error α)
    (m : Moment) : Prop :=
  ((∃ place, outcome = .ok place) ∧ (live m ∨ clearing m ∧ m.1.node .current = some (.symlink (.version v)))) ∨
    (∃ error, outcome = .error error) ∧ (clearing m ∨ filling m ∨ linking m)

theorem InstallEnd.failed {α : Type} {error : Error} (held : clearing m ∨ filling m ∨ linking m) :
    InstallEnd v clearing filling linking live (.error error : Except Error α) m := .inr ⟨⟨error,rfl⟩,held⟩

theorem installVersion_holds {binaryName : String} (phases : Phases tar v tarballBytes clearing filling linking live) (start : clearing m) :
    Holds (machine tar).record (Installing clearing filling linking live)
      (InstallEnd v clearing filling linking live) (installVersion tar v binaryName tarballBytes) m := by
  have unfilled {α : Type} (error : Error) (m : Moment) (_ : Installing clearing filling linking live m) (filled : filling m) :
      InstallEnd v clearing filling linking live (.error error : Except Error α) m := .failed (.inr (.inl filled))
  refine Holds.forward (fun _ => filling) clearing ?_ (fun _ m _ filled => ?_) (fun _ _ _ held => .failed (.inl held))
  · apply Run.bare
    refine Run.sys (.inl start) (fun choice answer w' answered => ?_)
    cases answer with
    | ok value =>
      have made := phases.made m choice w' answered start
      exact ⟨.inr (.inl made),.inl ⟨(),rfl,made⟩⟩
    | error error =>
      have kept := phases.clears.after (.inr (.inr (.inl rfl))) start answered
      exact ⟨.inl kept,.inr ⟨⟨_,rfl⟩,kept⟩⟩
  refine Holds.bind (fun _ => filling) ?_ (fun _ m _ filled => ?_) unfilled
  · exact (extractTarball_uses.stable phases.fills filled).mono
      (fun _ held => .inr (.inl held)) (fun _ _ _ held => held)
  refine Holds.bind (fun _ => filling) ?_ (fun _ m _ filled => ?_) unfilled
  · exact ((prepareBinary_uses binaryName).stable phases.fills filled).mono
      (fun _ held => .inr (.inl held)) (fun _ _ _ held => held)
  refine Holds.bind (fun _ => filling) ?_ (fun _ m _ filled => ?_) unfilled
  · have sync : Fills tar v tarballBytes (.syncDir (.partialOf v)) := .looks ⟨fun _ own => own,fun _ own => own⟩
    exact (Run.ignored (Calls.sys sync) phases.fills filled).mono
      (fun _ held => .inr (.inl held)) (fun _ _ _ held => held.2)
  refine Holds.forward (fun _ => linking) filling ?_ (fun _ m _ linked => ?_) unfilled
  · apply Run.bare
    refine Run.sys (.inr (.inl filled)) (fun choice answer w' answered => ?_)
    cases answer with
    | ok value =>
      have moved := phases.moved m choice w' answered filled
      exact ⟨.inr (.inr (.inl moved)),.inl ⟨(),rfl,moved⟩⟩
    | error error =>
      obtain ⟨_,_,rfl⟩ | ⟨same,_⟩ := rename_cases answered
      · have still := phases.unmoved m choice error answered filled
        exact ⟨.inr (.inl still),.inr ⟨⟨_,rfl⟩,still⟩⟩
      · cases same
  apply Holds.bind (fun outcome m => (outcome = .ok () ∧ live m) ∨ (outcome ≠ .ok () ∧ linking m))
  · refine (swap_holds phases.links phases.swaps phases.unswapped
      (phases.collects.mono fun _ quiet => .inl quiet) linked).mono ?_ (fun _ _ _ ends => ends)
    intro m held
    exact held.elim (fun held => .inr (.inr (.inl held))) (fun held => .inr (.inr (.inr held)))
  · intro _ m _ ended
    obtain ⟨_,done⟩ | ⟨failed,_⟩ := ended
    · apply Holds.bind (fun outcome m => outcome = .ok () ∧ live m)
      · exact (Run.ignored (gcVersions_uses 3) phases.collects done).mono
          (fun _ held => .inr (.inr (.inr held))) (fun _ _ _ held => held)
      · exact fun _ m now done => ⟨now,.inl ⟨⟨_,rfl⟩,.inl done.2⟩⟩
      · exact fun _ _ _ done => nomatch done.1
    · exact absurd rfl failed
  · intro error m _ ended
    obtain ⟨same,_⟩ | ⟨_,linked⟩ := ended
    · cases same
    · exact .failed (.inr (.inr linked))

theorem stageNewVersion_holds {installRoot binaryName : String} {manifest : Manifest}
    (phases : Phases tar v tarballBytes clearing filling linking live) (start : clearing m) :
    Holds (machine tar).record (Installing clearing filling linking live)
      (InstallEnd v clearing filling linking live)
      (stageNewVersion tar installRoot v binaryName tarballBytes manifest) m := by
  have early (error : Error) (m : Moment) (held : clearing m) :
      InstallEnd v clearing filling linking live (.error error : Except Error Loc) m := .failed (.inl held)
  have quiet : Stable (machine tar) Quiet clearing := phases.clears.mono fun _ quiet => .inl quiet
  apply Holds.bind (fun _ => clearing)
  · exact (Run.ofExcept start start).mono (fun _ => .inl) (fun _ _ _ held => held)
  · intro _ m _ held
    apply Holds.bind (fun _ => clearing)
    · have own : Clears v (.createDirAll .versions) := .inr (.inl rfl)
      exact ((Calls.context (Calls.sys own)).stable phases.clears held).mono (fun _ => .inl) (fun _ _ _ held => held)
    · intro _ m _ held
      apply Holds.bind (fun _ => clearing)
      · exact (clearPartial_uses.stable phases.clears held).mono (fun _ => .inl) (fun _ _ _ held => held)
      · intro _ m _ held
        refine Holds.bind _ ((clearFinal_holds phases.clears held).mono (fun _ => .inl) (fun _ _ _ ends => ends)) ?_ ?_
        · intro found m _ ended
          split
          next isLive =>
            subst isLive
            exact ⟨.inl ended.1,.inl ⟨⟨_,rfl⟩,.inr ⟨ended.1,ended.2 rfl⟩⟩⟩
          · exact installVersion_holds phases ended.1
        · exact fun error m _ ended => early error m ended.1
      · exact fun error m _ held => early error m held
    · exact fun error m _ held => early error m held
  · exact fun error m _ held => early error m held

/-- The moments of the recording of a staged version, from the world it starts in. -/
def Recording (crates : Crates) (coordinator : UpgradeCoordinator) (request : StageRequest) (manifest : Manifest)
    (w : World) (m : Moment) : Prop :=
  ∃ prev now, (∀ s, prev = some s → readState crates.serde w = some s) ∧
    (prev = none → readState crates.serde w = none ∨ Saw FailedRead m.2) ∧
    Saved coordinator.pid (crates.serde.toVecPretty (stagedState coordinator request manifest prev now)) w m

theorem recordStaged_holds {manifest : Manifest} {w : World} (start : Unsaved coordinator.pid w m) :
    Holds (machine tar).record
      (fun m => Unsaved coordinator.pid w m ∨ Recording crates coordinator request manifest w m)
      (fun outcome m => (outcome = .ok () ∧ Recording crates coordinator request manifest w m) ∨
        (∃ error, outcome = .error error) ∧ Unsaved coordinator.pid w m)
      (recordStaged crates coordinator request manifest) m := by
  have keep := @Unsaved.stable tar coordinator.pid w
  apply Holds.bind (fun outcome m => Unsaved coordinator.pid w m ∧
    ∃ found, outcome = .ok found ∧ Reported crates.serde found m)
  · exact (tryLoad_holds keep start).mono (fun _ => .inl) (fun _ _ now ends => ⟨now,ends⟩)
  · intro prev m _ loaded
    obtain ⟨unsaved,found,same,reported⟩ := loaded
    obtain rfl := Except.ok.inj same
    apply Holds.bind (fun _ m => Unsaved coordinator.pid w m ∧ Reported crates.serde prev m)
    · have now : Quiet .now := quiet_of_silent rfl
      exact ((Calls.request now).stable (keep.and (Reported.stable crates.serde prev)) ⟨unsaved,reported⟩).mono
        (fun _ held => .inl held.1) (fun _ _ _ held => held)
    · intro now m _ held
      obtain ⟨unsaved,reported⟩ := held
      have same := @readState_unsaved crates.serde _ _ _ unsaved
      have missed : Stable (machine tar) (Saves coordinator.pid)
          (fun m => prev = none → readState crates.serde w = none ∨ Saw FailedRead m.2) := by
        intro operation choice m ok held none
        exact (held none).imp id (Stable.saw FailedRead operation choice m ok)
      have before : prev = none → readState crates.serde w = none ∨ Saw FailedRead m.2 :=
        fun none => (reported.2 none).imp (fun empty => same.symm.trans empty) id
      apply Holds.mapError
      refine ((save_holds unsaved).and ((save_uses _ _ _ _).stable missed before)).mono ?_ ?_
      · intro m held
        exact held.1.imp id fun saved => ⟨prev,now,fun s found => same.symm.trans (reported.1 s found),held.2,saved⟩
      · intro outcome m _ ends
        obtain ⟨rfl,saved⟩ | ⟨⟨error,rfl⟩,unsaved⟩ := ends.1
        · exact .inl ⟨rfl,prev,now,fun s found => same.symm.trans (reported.1 s found),ends.2,saved⟩
        · exact .inr ⟨⟨_,rfl⟩,unsaved⟩
    · exact fun error m _ held => .inr ⟨⟨error,rfl⟩,held.1⟩
  · exact fun error m _ loaded => .inr ⟨⟨error,rfl⟩,loaded.1⟩

/-- What reading and saving keep, and `stage_new_version` from where it starts, a stage
call keeps. -/
theorem stage_rule {network : Network} {pre P : Moment → Prop} (quietly : Stable (machine crates.tar) Quiet pre)
    (weaker : ∀ m, pre m → P m) (saves : Stable (machine crates.tar) (Saves coordinator.pid) P) (start : pre m)
    (stages : ∀ manifest tarballBytes m, pre m → Holds (machine crates.tar).record P (fun _ => P)
      (stageNewVersion crates.tar coordinator.config.installRoot request.version coordinator.profile.binaryName
        tarballBytes manifest) m) :
    Holds (machine crates.tar).record P (fun _ => P) (stage crates coordinator network request) m := by
  refine Holds.bind _ ((approve_uses.stable quietly start).mono weaker (fun _ _ _ held => held)) ?_
    (fun _ m held _ => held)
  intro admitted m _ held
  apply Holds.bind (fun _ => P)
  · apply Holds.mapError
    exact stages admitted.1 admitted.2 m held
  · intro place m held _
    have rest : Uses (Saves coordinator.pid) (do
        recordStaged crates coordinator request admitted.1
        ignore (Io.trySend (stageEvent coordinator request "upgrade_staged" ("Upgrade staged to " ++ request.version ++
          " — exiting for systemd respawn") none))
        return (⟨coordinator.currentVersion,request.version,request.channel,request.variantName,
          request.archOn coordinator,place⟩ : StagedUpgrade)) :=
      (recordStaged_uses admitted.1).bind fun _ =>
        (Calls.ignore (Calls.sys (.quiet (quiet_of_silent rfl)))).bind fun _ => trivial
    exact rest.stable saves held
  · exact fun _ _ held _ => held

end GatewaySdk.Upgrade
