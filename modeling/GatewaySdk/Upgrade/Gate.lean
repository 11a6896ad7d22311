import GatewaySdk.Upgrade.Extraction
import GatewaySdk.Upgrade.StateText
import GatewaySdk.Upgrade.VerifySound

/-! The gate in front of an installation: nothing below the install root differs, and
no call succeeds, before every check has accepted the same manifest. -/
namespace GatewaySdk.Upgrade
open GatewaySdk.Effect GatewaySdk.Host

def checks (log : Log) : Log := log.takeWhile (fun event => event.operation ≠ .createDirAll .versions)

theorem checks_grows (log : Log) (event : Event Sig Choice World) : checks log <+: checks (log ++ [event]) := by
  induction log with
  | nil => exact List.nil_prefix
  | cons first rest ih =>
    unfold checks
    rw [List.cons_append,List.takeWhile_cons,List.takeWhile_cons]
    split
    · exact List.cons_prefix_cons.mpr ⟨rfl,ih⟩
    · exact List.nil_prefix

theorem checks_eq {log : Log} (early : ∀ event ∈ log, event.operation ≠ .createDirAll .versions) : checks log = log := by
  induction log with
  | nil => rfl
  | cons first rest ih =>
    have now : decide (first.operation ≠ .createDirAll .versions) = true := by
      simpa using early first List.mem_cons_self
    unfold checks at ih ⊢
    rw [List.takeWhile_cons,if_pos now,ih fun event member => early event (List.mem_cons_of_mem _ member)]

def stageRun (crates : Crates) (coordinator : UpgradeCoordinator) (network : Network) (request : StageRequest)
    (choices : List Choice) (w : World) : Prog UpgradeError StagedUpgrade × Moment :=
  (host crates.tar).record.run choices (stage crates coordinator network request) (w,[])

/-- Where no link is followed the stage call is the machine's. -/
theorem stageRun_machine {crates : Crates} {coordinator : UpgradeCoordinator} {network : Network} {request : StageRequest}
    (unfollowing : Unfollowing crates coordinator network request) (choices : List Choice) (w : World) :
    stageRun crates coordinator network request choices w =
      (machine crates.tar).record.run choices (stage crates coordinator network request) (w,[]) :=
  host_run (stage_direct unfollowing w) (fun _ direct => direct) choices

/-- Where no link is followed, what holds of every run on the machine holds of a stage call. -/
theorem stageRun_holds {crates : Crates} {coordinator : UpgradeCoordinator} {network : Network} {request : StageRequest}
    {w : World} {during : Moment → Prop} {post : Except UpgradeError StagedUpgrade → Moment → Prop}
    (unfollowing : Unfollowing crates coordinator network request)
    (holds : Holds (machine crates.tar).record during post (stage crates coordinator network request) (w,[]))
    (choices : List Choice) : during (stageRun crates coordinator network request choices w).2 ∧
      ∀ outcome, (stageRun crates coordinator network request choices w).1.result = some outcome →
        post outcome (stageRun crates coordinator network request choices w).2 := by
  rw [stageRun_machine unfollowing]
  exact holds.run choices

/-- What has been checked when an installation begins: one manifest throughout. -/
structure Gated (crates : Crates) (coordinator : UpgradeCoordinator) (request : StageRequest) (w : World)
    (log : Log) : Prop where
  enabled : coordinator.config.enabled = true
  channel : request.channel ∈ coordinator.config.allowedChannels
  window : ∃ target current, crates.semver.parse request.version = .ok target ∧
    crates.semver.parse coordinator.currentVersion = .ok current ∧
    checkVersionWindow crates.semver target current coordinator.config = .ok ()
  manifest : ∃ bundleBytes manifestBytes manifest, verifyManifestBundle crates.sigstore crates.sha256 manifestBytes
      bundleBytes coordinator.profile.allowedSigners = .ok () ∧
    crates.manifestJson manifestBytes = .ok manifest ∧
    manifest.version = request.version ∧ manifest.channel = request.channel ∧
    manifest.deviceType = coordinator.profile.deviceType ∧
    (∀ s, readState crates.serde w = some s → s.lastSequence < manifest.sequence) ∧
    ∃ artefact ∈ manifest.artefacts, artefact.arch = request.archOn coordinator ∧
      artefact.variant = request.variantName ∧ ∃ tarballBytes,
        eqIgnoreAsciiCase (hex (crates.sha256 tarballBytes)) artefact.sha256 = true ∧
        ∀ event ∈ log, ∀ entry place path, event.operation = .unpack entry place path →
          ∃ entries, crates.tar.entries tarballBytes = some entries ∧ some entry ∈ entries
  automatic : coordinator.config.manualOnly = false

section Gating

variable {crates : Crates} {coordinator : UpgradeCoordinator} {network : Network} {request : StageRequest} {w : World}

def Checking (w : World) (m : Moment) : Prop :=
  Framed (fun _ => False) w m.1 ∧ ∀ event ∈ m.2, Quiet event.operation

/-- Something may have been, of this manifest and tarball. -/
def Admitted (crates : Crates) (w : World) (manifest : Manifest) (tarballBytes : Bytes) (m : Moment) : Prop :=
  (∀ s, readState crates.serde w = some s → s.lastSequence < manifest.sequence ∨ Saw FailedRead (checks m.2)) ∧
    ∀ event ∈ m.2, ∀ entry place path, event.operation = .unpack entry place path →
      ∃ entries, crates.tar.entries tarballBytes = some entries ∧ some entry ∈ entries

theorem Checking.stable (w : World) : Stable (machine crates.tar) Quiet (Checking w) := by
  intro operation choice m quiet checking
  refine ⟨checking.1.trans (exec_framed quiet.still),fun event member => ?_⟩
  obtain earlier | now := List.mem_append.mp member
  · exact checking.2 event earlier
  · rw [List.mem_singleton.mp now]
    exact quiet

theorem Checking.admitted {manifest : Manifest} {tarballBytes : Bytes} {m : Moment} (checking : Checking w m)
    (newer : Newer crates.serde manifest m) : Admitted crates w manifest tarballBytes m := by
  obtain ⟨framed,quiet⟩ := checking
  have early : checks m.2 = m.2 :=
    checks_eq fun event member same => (quiet event member).touches .versions (same ▸ rfl)
  refine ⟨fun s read => ?_,fun event member entry place path same => ?_⟩
  · have kept := @readState_same crates.serde w m.1 (framed.node _ id) framed.data
    rw [early]
    exact newer s (kept.trans read)
  · exact ((quiet event member).touches place (same ▸ rfl)).elim

def Sourced (tar : TarCrate) (tarballBytes : Bytes) (operation : Call) : Prop :=
  ∀ entry place path, operation = .unpack entry place path →
    ∃ entries, tar.entries tarballBytes = some entries ∧ some entry ∈ entries

theorem Admitted.stable (w : World) (manifest : Manifest) (tarballBytes : Bytes) :
    Stable (host crates.tar) (Sourced crates.tar tarballBytes) (Admitted crates w manifest tarballBytes) := by
  intro operation choice m sourced admitted
  refine ⟨fun s read => ?_,fun event member => ?_⟩
  · obtain newer | ⟨event,member,failed⟩ := admitted.1 s read
    · exact .inl newer
    · exact .inr ⟨event,(checks_grows m.2 _).subset member,failed⟩
  · obtain earlier | now := List.mem_append.mp member
    · exact admitted.2 event earlier
    · rw [List.mem_singleton.mp now]
      exact sourced

theorem Sourced.of_quiet {tar : TarCrate} {tarballBytes : Bytes} {operation : Call} (quiet : Quiet operation) :
    Sourced tar tarballBytes operation :=
  fun _ place _ same => (quiet.touches place (same ▸ rfl)).elim

theorem Sourced.of_installs {tar : TarCrate} {v : String} {tarballBytes : Bytes} {operation : Call}
    (installs : Installs tar v tarballBytes operation) : Sourced tar tarballBytes operation := by
  cases installs with
  | clears clears =>
    obtain quiet | rfl | rfl | rfl | rfl := clears
    · exact .of_quiet quiet
    all_goals exact nofun
  | fills fills => exact fun _ _ _ same => fills.source same
  | completes | swaps => exact nofun
  | links links =>
    cases links with
    | quiet quiet => exact .of_quiet quiet
    | remove | link => exact nofun
  | collects collects =>
    obtain quiet | ⟨name,_,rfl⟩ := collects
    · exact .of_quiet quiet
    · exact nofun

theorem install_admitted {manifest : Manifest} {tarballBytes : Bytes} {m : Moment}
    (start : Admitted crates w manifest tarballBytes m) :
    Holds (host crates.tar).record (Admitted crates w manifest tarballBytes)
      (fun _ => Admitted crates w manifest tarballBytes)
      (install crates coordinator request manifest tarballBytes) m := by
  refine Uses.stable ?_ (Admitted.stable w manifest tarballBytes) start
  have stages := @stageNewVersion_uses crates.tar request.version tarballBytes coordinator.config.installRoot
    coordinator.profile.binaryName manifest
  refine (stages.mono fun operation installs => Sourced.of_installs installs).mapError.bind fun installDir => ?_
  refine ((recordStaged_uses manifest).mono fun operation saves => ?_).bind fun _ => ?_
  · exact fun entry place path same => absurd same (saves.packed entry place path)
  · exact (Calls.ignore (Calls.sys (.of_quiet (quiet_of_silent rfl)))).bind fun _ => trivial

/-- A call that admitted a manifest. -/
def Passed (crates : Crates) (coordinator : UpgradeCoordinator) (network : Network) (request : StageRequest)
    (w : World) (m : Moment) : Prop :=
  ∃ manifest tarballBytes, Approved crates coordinator network request manifest tarballBytes ∧
    Admitted crates w manifest tarballBytes m

theorem stage_holds : Holds (host crates.tar).record
    (fun m => Checking w m ∨ Passed crates coordinator network request w m)
    (fun outcome m => (∃ staged, outcome = .ok staged) → Passed crates coordinator network request w m)
    (stage crates coordinator network request) (w,[]) := by
  have start : Checking w (w,[]) := ⟨.refl _ w,List.forall_mem_nil _⟩
  apply Holds.bind (fun outcome m => Checking w m ∧ ∀ manifest tarballBytes, outcome = .ok (manifest,tarballBytes) →
    Approved crates coordinator network request manifest tarballBytes ∧ Newer crates.serde manifest m)
  · exact (holds_host (approve_uses.mono fun _ => Quiet.outside) (approve_holds (Checking.stable w) start)).mono
      (fun _ => .inl) (fun _ _ now ends => ⟨now,ends⟩)
  · rintro ⟨manifest,tarballBytes⟩ m _ ⟨checking,accepted⟩
    obtain ⟨approved,newer⟩ := accepted manifest tarballBytes rfl
    refine (install_admitted (checking.admitted newer)).mono ?_ ?_
    · exact fun m admitted => .inr ⟨manifest,tarballBytes,approved,admitted⟩
    · exact fun _ m _ admitted _ => ⟨manifest,tarballBytes,approved,admitted⟩
  · rintro error m _ _ ⟨_,same⟩
    cases same

theorem refused_holds {P : Moment → Prop} {m : Moment} (stable : Stable (machine crates.tar) Quiet P) (start : P m)
    (refused : ∀ manifest tarballBytes, ¬ Approved crates coordinator network request manifest tarballBytes) :
    Holds (host crates.tar).record P (fun _ => P) (stage crates coordinator network request) m := by
  have approves := ((@approve_uses crates coordinator network request).stable stable start).and
    (approve_holds stable start)
  refine Holds.bind _ ((holds_host (approve_uses.mono fun _ => Quiet.outside) approves).mono (fun _ held => held.1)
    (fun _ _ _ ends => ends)) ?_ (fun _ _ _ ended => ended.1)
  intro admitted m _ ended
  obtain ⟨approved,_⟩ := ended.2 admitted.1 admitted.2 rfl
  exact absurd approved (refused _ _)

theorem Installs.not_recorded {tar : TarCrate} {v : String} {tarballBytes : Bytes} {pid : Nat} :
    ¬ Installs tar v tarballBytes (recorded pid) := by
  intro installs
  cases installs with
  | clears clears =>
    obtain quiet | other | other | other | other := clears
    · exact recorded_loud pid quiet
    all_goals cases other
  | fills fills =>
    cases fills with
    | looks still => exact still.touches .stateJson (.inr rfl)
  | links links =>
    cases links with
    | quiet quiet => exact recorded_loud pid quiet
  | collects collects =>
    obtain quiet | ⟨name,_,other⟩ := collects
    · exact recorded_loud pid quiet
    · cases other

/-- What is on record after an installation that succeeds, wherever its tarball led. -/
def OnRecord (crates : Crates) (coordinator : UpgradeCoordinator) (request : StageRequest) (manifest : Manifest)
    (m : Moment) : Prop :=
  ∃ prev now, readState crates.serde m.1 = some (stagedState coordinator request manifest prev now) ∧
    Done (recorded coordinator.pid) m.2

theorem install_records {manifest : Manifest} {tarballBytes : Bytes} {m : Moment}
    (record : ¬ Done (recorded coordinator.pid) m.2) : Holds (host crates.tar).record (fun _ => True)
      (fun outcome m => (∃ staged, outcome = .ok staged) → OnRecord crates coordinator request manifest m)
      (install crates coordinator request manifest tarballBytes) m := by
  have failed {α : Type} {error : UpgradeError} {p : Prop} (ended : ∃ value : α, Except.error error = .ok value) : p := by
    obtain ⟨_,same⟩ := ended
    cases same
  have keep : Stable (host crates.tar) (Installs crates.tar request.version tarballBytes)
      (fun m => ¬ Done (recorded coordinator.pid) m.2) :=
    Stable.not_saw fun _ installs done => Installs.not_recorded (done.1 ▸ installs)
  refine Holds.bind (fun _ m => ¬ Done (recorded coordinator.pid) m.2) ?_ ?_ (fun _ _ _ _ => failed)
  · exact Holds.mapError (((stageNewVersion_uses _ _ manifest).stable keep record).mono (fun _ _ => trivial)
      (fun _ _ _ held => held))
  intro place m _ record
  have start : Unsaved coordinator.pid m.1 m := ⟨.refl _ _,.inl rfl,record⟩
  have records := holds_host ((recordStaged_uses manifest).mono fun _ => Saves.outside)
    (@recordStaged_holds crates coordinator request crates.tar m manifest m.1 start)
  refine Holds.bind _ (records.mono (fun _ _ => trivial) (fun _ _ _ ends => ends)) ?_ (fun _ _ _ _ => failed)
  intro _ m _ ended
  obtain ⟨_,prev,now,_,_,saved⟩ | ⟨⟨error,same⟩,_⟩ := ended
  · have sends (event : UpgradeEvent) : Uses Quiet (ignore (Io.trySend event) : Prog UpgradeError Unit) :=
      Calls.ignore (Calls.sys (quiet_of_silent rfl))
    have kept := (@readState_stable crates.tar crates.serde (some (stagedState coordinator request manifest prev now))).and (Stable.done (recorded coordinator.pid))
    refine Holds.bind _ ((holds_host ((sends _).mono fun _ => Quiet.outside) ((sends _).stable kept
      ⟨readState_saved saved,saved.2.2⟩)).mono (fun _ _ => trivial) (fun _ _ _ held => held)) ?_ (fun _ _ _ _ => failed)
    exact fun _ m _ held => ⟨trivial,fun _ => ⟨prev,now,held⟩⟩
  · cases same

theorem stage_records {choices : List Choice} {staged : StagedUpgrade}
    (done : (stageRun crates coordinator network request choices w).1.result = some (.ok staged)) :
    ∃ manifest prev now, (∀ s, readState crates.serde w = some s → s.lastSequence < manifest.sequence ∨
        Saw FailedRead (checks (stageRun crates coordinator network request choices w).2.2)) ∧
      readState crates.serde (stageRun crates coordinator network request choices w).2.1 =
        some (stagedState coordinator request manifest prev now) ∧
      Done (recorded coordinator.pid) (stageRun crates coordinator network request choices w).2.2 := by
  have start : Checking w (w,[]) := ⟨.refl _ w,List.forall_mem_nil _⟩
  have holds : Holds (host crates.tar).record (fun _ => True)
      (fun outcome m => (∃ staged, outcome = .ok staged) → ∃ manifest tarballBytes,
        Admitted crates w manifest tarballBytes m ∧ OnRecord crates coordinator request manifest m)
      (stage crates coordinator network request) (w,[]) := by
    have approves := holds_host (approve_uses.mono fun _ => Quiet.outside)
      (@approve_holds crates coordinator network request crates.tar _ (w,[]) (Checking.stable w) start)
    refine Holds.bind _ ((approves.mono (fun _ _ => trivial) (fun _ _ now ends => And.intro now ends))) ?_ ?_
    · rintro ⟨manifest,tarballBytes⟩ m _ ⟨checking,accepted⟩
      obtain ⟨_,newer⟩ := accepted manifest tarballBytes rfl
      have unrecorded : ¬ Done (recorded coordinator.pid) m.2 :=
        fun ⟨event,member,same,_⟩ => recorded_loud coordinator.pid (same ▸ checking.2 event member)
      exact ((install_admitted (checking.admitted newer)).and (install_records unrecorded)).mono (fun _ _ => trivial)
        (fun _ _ _ ends ok => ⟨manifest,tarballBytes,ends.1,ends.2 ok⟩)
    · rintro error m _ _ ⟨_,same⟩
      cases same
  obtain ⟨manifest,_,admitted,prev,now,state,record⟩ := (holds.run choices).2 _ done ⟨staged,rfl⟩
  exact ⟨manifest,prev,now,admitted.1,state,record⟩

theorem pickArtefact_some {manifest : Manifest} {arch variant : String} {artefact : ManifestArtefact}
    (picked : manifest.pickArtefact arch variant = some artefact) :
    artefact ∈ manifest.artefacts ∧ artefact.arch = arch ∧ artefact.variant = variant := by
  have fits := List.find?_some picked
  simp only [Bool.and_eq_true,beq_iff_eq] at fits
  exact ⟨List.mem_of_find?_eq_some picked,fits.1,fits.2⟩

theorem coded_ok {α : Type} {code words : String} {outcome : Except Error α} {value : α} :
    coded code words outcome = .ok value ↔ outcome = .ok value := mapError_ok

theorem Passed.gated {m : Moment} (passed : Passed crates coordinator network request w m)
    (readable : ¬ Saw FailedRead (checks m.2)) : Gated crates coordinator request w m.2 := by
  obtain ⟨manifest,tarballBytes,approved,newer,sourced⟩ := passed
  obtain ⟨base,checked,fetched⟩ := approved.checked
  obtain ⟨_,_,checked⟩ := bind_ok.mp checked
  obtain ⟨_,enabled,checked⟩ := bind_ok.mp checked
  obtain ⟨_,channel,checked⟩ := bind_ok.mp checked
  obtain ⟨target,targetIs,checked⟩ := bind_ok.mp checked
  obtain ⟨current,currentIs,checked⟩ := bind_ok.mp checked
  obtain ⟨_,window,_⟩ := bind_ok.mp checked
  obtain ⟨manifestBytes,_,fetched⟩ := bind_ok.mp fetched
  obtain ⟨bundleBytes,_,fetched⟩ := bind_ok.mp fetched
  obtain ⟨_,verified,fetched⟩ := bind_ok.mp fetched
  obtain ⟨decoded,parsed,fetched⟩ := bind_ok.mp fetched
  obtain ⟨_,valid,fetched⟩ := bind_ok.mp fetched
  obtain rfl : decoded = manifest := Except.ok.inj fetched
  obtain ⟨_,version,valid⟩ := bind_ok.mp (coded_ok.mp valid)
  obtain ⟨_,sameChannel,valid⟩ := bind_ok.mp valid
  obtain ⟨_,device,_⟩ := bind_ok.mp valid
  have download := approved.fetched
  simp only [fetchTarball] at download
  split at download
  · cases download
  next artefact picked =>
    obtain ⟨member,arch,variant⟩ := pickArtefact_some picked
    have digest := fetchWithSha256_ok (mapError_ok.mp download)
    refine ⟨?_,?_,⟨target,current,?_,?_,?_⟩,⟨bundleBytes,manifestBytes,decoded,?_,?_,?_,?_,?_,?_,?_⟩,?_⟩
    · simpa using bailAs_ok.mp enabled
    · simpa using bailAs_ok.mp channel
    · exact coded_ok.mp targetIs
    · exact coded_ok.mp currentIs
    · exact coded_ok.mp window
    · exact mapError_ok.mp verified
    · exact coded_ok.mp parsed
    · simpa using bailIf_ok.mp version
    · simpa using bailIf_ok.mp sameChannel
    · simpa using bailIf_ok.mp device
    · exact fun s read => (newer s read).resolve_right readable
    · exact ⟨artefact,member,arch,variant,tarballBytes,digest,sourced⟩
    · simpa using approved.automatic

/-- An installation, or the least change below the install root, comes after the whole
chain of checks, whatever the network answers and however the calls of the host end. -/
theorem stage_gated (crates : Crates) (coordinator : UpgradeCoordinator) (network : Network) (request : StageRequest)
    (w : World) (choices : List Choice)
    (readable : ¬ Saw FailedRead (checks (stageRun crates coordinator network request choices w).2.2))
    (did : (∃ staged, (stageRun crates coordinator network request choices w).1.result = some (.ok staged)) ∨
      ¬ Framed (fun _ => False) w (stageRun crates coordinator network request choices w).2.1) :
    Gated crates coordinator request w (stageRun crates coordinator network request choices w).2.2 := by
  obtain ⟨moment,ends⟩ := (@stage_holds crates coordinator network request w).run choices
  obtain ⟨staged,done⟩ | changed := did
  · exact (ends _ done ⟨staged,rfl⟩).gated readable
  · obtain checking | passed := moment
    · exact absurd checking.1 changed
    · exact passed.gated readable

theorem validUtf8_utf8 (text : String) : validUtf8 (utf8 text) = true := by
  have same : (⟨(utf8 text).toArray⟩ : ByteArray) = text.toByteArray := by
    simp [utf8]
  rw [validUtf8,same]
  exact ByteArray.validateUTF8_eq_true_iff.mpr text.isValidUTF8

theorem fetchManifest_ok {base : String} {manifestBytes bundleBytes : Bytes} {manifest : Manifest}
    (first : fetchText crates.urls network.manifest (base ++ "/manifest.json") = .ok manifestBytes)
    (second : fetchText crates.urls network.bundle (base ++ "/manifest.sig.bundle") = .ok bundleBytes)
    (verified : verifyManifestBundle crates.sigstore crates.sha256 manifestBytes bundleBytes
      coordinator.profile.allowedSigners = .ok ())
    (parsed : crates.manifestJson manifestBytes = .ok manifest)
    (valid : manifest.validateRequest crates.urls request.version request.channel
      coordinator.profile.deviceType = .ok ()) :
    fetchManifest crates coordinator network request base = .ok manifest := by
  simp [fetchManifest,first,second,verified,parsed,valid,coded,bind,Except.bind,Except.mapError,pure,Except.pure]

/-- A stage whose pure checks pass, down to its calls. -/
theorem stage_eq {base : String} {manifest : Manifest} {tarballBytes : Bytes}
    (checked : checkRequest crates coordinator request = .ok base)
    (fetched : fetchManifest crates coordinator network request base = .ok manifest)
    (downloaded : fetchTarball crates coordinator network request manifest = .ok tarballBytes)
    (automatic : coordinator.config.manualOnly = false) :
    stage crates coordinator network request =
      (ignore (Io.trySend (stageEvent coordinator request "upgrade_started" ("Staging upgrade to " ++
        request.version ++ " (" ++ request.channel ++ "/" ++ request.archOn coordinator ++ "/" ++
        request.variantName ++ ")") none))).bind fun _ =>
      (tryLoad crates.serde coordinator.config.installRoot).bind fun state =>
      (Program.ofExcept (checkSequence manifest state)).bind fun _ =>
      (ignore (Io.trySend (stageEvent coordinator request "upgrade_downloaded" ("Downloaded upgrade tarball (" ++
        toString tarballBytes.length ++ " bytes)") (some tarballBytes.length)))).bind fun _ =>
      install crates coordinator request manifest tarballBytes := by
  simp only [stage,approve,checked,fetched,downloaded,automatic,Program.ofExcept,Program.bind_eq,Program.pure_bind,
    Program.bind_assoc,bailAs,Bool.false_eq_true,if_false,Program.pure_eq]

theorem not_failed_of_smooth (n : Nat) :
    ¬ Saw FailedRead (checks (stageRun crates coordinator network request (List.replicate n smooth) w).2.2) := by
  intro failed
  obtain ⟨event,member,held⟩ := failed
  have saw := (List.takeWhile_prefix _).subset member
  obtain before | ⟨other,failed,chosen⟩ := saw_run _ _ _ ⟨event,saw,held⟩
  · exact not_saw_nil _ before
  · have calm := failed.2
    rw [(List.mem_replicate.mp chosen).2] at calm
    cases calm

end Gating

namespace Sample

def semver : SemverCrate where
  parse text :=
    match [("0.45.2",2),("0.45.3",3),("0.45.4",4)].find? (fun entry => entry.1 == text) with
    | some entry => .ok ⟨0,45,entry.2,"",""⟩
    | none => .error "unexpected character"
  comparePre _ _ := .eq
  compareBuild _ _ := .eq

def urls : UrlCrate := fun url =>
  if (utf8 "https://github.com/").isPrefixOf (utf8 url) = true then .ok ⟨"https",some "github.com"⟩
  else .error "relative URL without a base"

/-- What a sample's crate makes of an entry: a file where one is asked for. -/
def unpackFile (entry : TarEntry) (path : RelPath) (dir : Dir) : Dir × Bool :=
  match entry.kind with
  | .file mode bytes => (dir.filter (fun held => held.1 != path) ++ [(path,.file mode bytes)],true)
  | _ => (dir,false)

theorem unpackFile_links (entry : TarEntry) (path : RelPath) (dir : Dir) :
    ∀ held ∈ (unpackFile entry path dir).1, held.2.isLink = true →
      held ∈ dir ∨ held.1 = path ∧ entry.kind.isLink = true := by
  intro held member link
  unfold unpackFile at member
  split at member
  · obtain kept | own := List.mem_append.mp member
    · exact .inl (List.mem_filter.mp kept).1
    · rw [List.mem_singleton.mp own] at link
      cases link
  · exact .inl member

def tarCrate : TarCrate where
  entries bytes := if bytes = tarball then some [some ⟨[.normal "gateway"],.file 0o755 [35,33]⟩] else none
  unpack entry path _ dir := unpackFile entry path dir
  through operation _ w := (refused operation,w)
  links entry path _ dir := unpackFile_links entry path dir

noncomputable def crates : Crates where
  serde := stateSerde []
  semver := semver
  urls := urls
  sha256 := sha256
  manifestJson := parser Release.manifestText Release.manifest
  sigstore := sigstore
  tar := tarCrate

theorem unfollowing {crates : Crates} (tar : crates.tar = tarCrate) (coordinator : UpgradeCoordinator) (network : Network)
    (request : StageRequest) : Unfollowing crates coordinator network request := by
  intro manifest tarballBytes _ entries read
  have one : unpacked entries = [⟨[.normal "gateway"],.file 0o755 [35,33]⟩] := by
    rw [tar,tarCrate] at read
    simp only at read
    split at read
    · rw [← Option.some.inj read]
      rfl
    · cases read
  refine one ▸ .of_plain fun entry member => ?_
  rw [List.mem_singleton.mp member]
  rfl

def coordinator : UpgradeCoordinator where
  profile := ⟨"owner/gateway","gateway","appear-x-gateway",allowed⟩
  config := {enabled := true}
  currentVersion := "0.45.3"
  hostArch := "x86_64-linux"
  pid := 7

def serve (bytes : Bytes) : Http := ⟨true,fun _ _ _ => .response ⟨200,"200 OK",none,[some bytes]⟩⟩

def network (r : Release) : Network := ⟨serve (utf8 r.manifestText),serve (utf8 r.bundleText),serve tarball⟩

def request (r : Release) : StageRequest := ⟨r.version,"stable",none,none,false⟩

theorem fetchText_serve {text url : String} (host : validateUrlHost urls url = .ok ())
    (short : (utf8 text).length ≤ maxManifestBytes) : fetchText urls (serve (utf8 text)) url = .ok (utf8 text) := by
  have fits : ¬ maxManifestBytes < (utf8 text).length := Nat.not_lt.mpr short
  simp [fetchText,host,buildClient,serve,attempts,maxAttempts,send,isSuccess,readText,wholeBody,fits,
    validUtf8_utf8,bind,Except.bind]

theorem checked_new :
    checkRequest crates coordinator (request newRelease) = .ok newRelease.url := by
  decide +kernel

theorem fetched_new :
    fetchManifest crates coordinator (network newRelease) (request newRelease) newRelease.url =
      .ok newRelease.manifest := by
  apply fetchManifest_ok
  · exact @fetchText_serve newRelease.manifestText _ (by decide +kernel) (by decide +kernel)
  · exact @fetchText_serve newRelease.bundleText _ (by decide +kernel) (by decide +kernel)
  · exact verified_new
  · simp [crates,parser,releases]
  · decide +kernel

theorem tarball_new :
    fetchTarball crates coordinator (network newRelease) (request newRelease) newRelease.manifest =
      .ok tarball := by
  decide +kernel

end Sample

theorem sample_stage_changes : ¬ Framed (fun _ => False) World.bare
    (stageRun Sample.crates Sample.coordinator (Sample.network Sample.newRelease)
      (Sample.request Sample.newRelease) (List.replicate 4 smooth) World.bare).2.1 := by
  intro framed
  have made : (stageRun Sample.crates Sample.coordinator (Sample.network Sample.newRelease)
      (Sample.request Sample.newRelease) (List.replicate 4 smooth) World.bare).2.1.node .versions =
      some (.dir 0 []) := by
    rw [stageRun,stage_eq Sample.checked_new Sample.fetched_new Sample.tarball_new rfl]
    decide +kernel
  have same : some (Node.dir 0 []) = none := made.symm.trans (framed.node .versions id)
  cases same

theorem sample_stage_gated : Gated Sample.crates Sample.coordinator (Sample.request Sample.newRelease) World.bare
    (stageRun Sample.crates Sample.coordinator (Sample.network Sample.newRelease)
      (Sample.request Sample.newRelease) (List.replicate 4 smooth) World.bare).2.2 :=
  stage_gated _ _ _ _ _ _ (not_failed_of_smooth 4) (.inr sample_stage_changes)

end GatewaySdk.Upgrade
