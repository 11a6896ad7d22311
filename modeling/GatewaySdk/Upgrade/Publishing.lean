import GatewaySdk.Upgrade.Install
import GatewaySdk.Upgrade.Retries
import GatewaySdk.Upgrade.Signing

/-! From a workflow's signature to the version that is live: what is published under a release's
tag and handed over by the servers passes every check of a stage call. -/
namespace GatewaySdk.Upgrade
open GatewaySdk.Effect GatewaySdk.Host

/-- The file at this URL is handed over by one of the attempts; those before it fail in a way that
is tried again. -/
structure Served (http : Http) (url : String) (body : Bytes) : Prop where
  builds : http.builds = true
  answered : ∃ k < 3, (∀ j < k, retried http url j = true) ∧ ∃ response, send (http.server k) 4 1 url = .ok response ∧
    isSuccess response.status = true ∧ wholeBody response.chunks = some body ∧
    ∀ length, response.contentLength = some length → length = body.length

section Fetched
variable {urls : UrlCrate} {http : Http} {url : String} {body : Bytes}

theorem Served.attempts {read : Response → Except Error Bytes} {exhausted : String} (served : Served http url body)
    (reads : ∀ response, wholeBody response.chunks = some body →
      (∀ length, response.contentLength = some length → length = body.length) → read response = .ok body) :
    attempts read exhausted url http maxAttempts 0 none = .ok body := by
  obtain ⟨k,within,before,response,sent,success,whole,announced⟩ := served.answered
  refine attempts_ok_iff.mpr ⟨k,within,fun j earlier => ?_,response,?_,success,reads response whole announced⟩
  · rw [Nat.zero_add]
    exact before j earlier
  · rw [Nat.zero_add]
    exact sent

theorem Served.text (served : Served http url body) (host : validateUrlHost urls url = .ok ()) (good : GoodText body) :
    fetchText urls http url = .ok body := by
  refine bind_ok.mpr ⟨(),host,bind_ok.mpr ⟨(),buildClient_ok served.builds,served.attempts fun response whole _ => ?_⟩⟩
  exact readText_ok_iff.mpr ⟨whole,good⟩

theorem Served.tarball {sha256 : Bytes → Bytes} {expected : String} (served : Served http url body)
    (host : validateUrlHost urls url = .ok ()) (digits : hexDigest expected = true)
    (digest : expected = hex (sha256 body)) (small : body.length ≤ maxTarballBytes) :
    fetchWithSha256 urls sha256 http url expected = .ok body := by
  have digits : ¬ hexDigest expected = false := by simp [digits]
  refine bind_ok.mpr ⟨(),host,bind_ok.mpr ⟨(),bailIf_ok.mpr digits,bind_ok.mpr ⟨(),buildClient_ok served.builds,?_⟩⟩⟩
  refine served.attempts fun response whole announced => readTarball_ok_iff.mpr ⟨?_,whole,small,?_⟩
  · intro length told
    rw [announced length told]
    exact small
  · simp [digest,eqIgnoreAsciiCase]

end Fetched

/-- A request that this gateway takes, and where its release is. -/
structure Eligible (crates : Crates) (coordinator : UpgradeCoordinator) (request : StageRequest) (base : String) : Prop where
  idle : request.inFlight = false
  enabled : coordinator.config.enabled = true
  automatic : coordinator.config.manualOnly = false
  channel : request.channel ∈ coordinator.config.allowedChannels
  window : ∃ target current, crates.semver.parse request.version = .ok target ∧
    crates.semver.parse coordinator.currentVersion = .ok current ∧
    checkVersionWindow crates.semver target current coordinator.config = .ok () ∧
    base = "https://github.com/" ++ coordinator.profile.repo ++ "/releases/download/v" ++ target.display
  onHost : validateUrlHost crates.urls base = .ok ()

/-- What is published of a release and handed over. -/
structure Published (crates : Crates) (coordinator : UpgradeCoordinator) (network : Network) (request : StageRequest)
    (base : String) (manifest : Manifest) (manifestBytes bundleBytes tarballBytes : Bytes) : Prop where
  manifestAt : validateUrlHost crates.urls (base ++ "/manifest.json") = .ok ()
  manifestServed : Served network.manifest (base ++ "/manifest.json") manifestBytes
  manifestText : GoodText manifestBytes
  bundleAt : validateUrlHost crates.urls (base ++ "/manifest.sig.bundle") = .ok ()
  bundleServed : Served network.bundle (base ++ "/manifest.sig.bundle") bundleBytes
  bundleText : GoodText bundleBytes
  decodes : crates.manifestJson manifestBytes = .ok manifest
  version : manifest.version = request.version
  channel : manifest.channel = request.channel
  deviceType : manifest.deviceType = coordinator.profile.deviceType
  sound : ∀ artefact ∈ manifest.artefacts, validateArtefact crates.urls artefact = .ok ()
  artefact : ∃ artefact, manifest.pickArtefact (request.archOn coordinator) request.variantName = some artefact ∧
    artefact.sha256 = hex (crates.sha256 tarballBytes) ∧ Served network.tarball artefact.url tarballBytes
  small : tarballBytes.length ≤ maxTarballBytes

section Approval
variable {crates : Crates} {coordinator : UpgradeCoordinator} {network : Network} {request : StageRequest} {base : String}
  {manifest : Manifest} {manifestBytes bundleBytes tarballBytes : Bytes}

theorem Eligible.checked (eligible : Eligible crates coordinator request base) :
    checkRequest crates coordinator request = .ok base := by
  obtain ⟨target,current,targetIs,currentIs,window,rfl⟩ := eligible.window
  have idle : ¬ request.inFlight = true := by simp [eligible.idle]
  have enabled : ¬ coordinator.config.enabled = false := by simp [eligible.enabled]
  have derived : deriveReleaseBaseUrl crates.semver crates.urls coordinator.profile.repo request.version =
      .ok ("https://github.com/" ++ coordinator.profile.repo ++ "/releases/download/v" ++ target.display) :=
    bind_ok.mpr ⟨target,mapError_ok.mpr targetIs,bind_ok.mpr ⟨(),eligible.onHost,rfl⟩⟩
  refine bind_ok.mpr ⟨(),bailAs_ok.mpr idle,bind_ok.mpr ⟨(),bailAs_ok.mpr enabled,?_⟩⟩
  refine bind_ok.mpr ⟨(),bailAs_ok.mpr (not_not.mpr eligible.channel),bind_ok.mpr ⟨target,coded_ok.mpr targetIs,?_⟩⟩
  refine bind_ok.mpr ⟨current,coded_ok.mpr currentIs,bind_ok.mpr ⟨(),coded_ok.mpr window,coded_ok.mpr derived⟩⟩

namespace Published
variable (published : Published crates coordinator network request base manifest manifestBytes bundleBytes tarballBytes)
include published

theorem valid : manifest.validateRequest crates.urls request.version request.channel coordinator.profile.deviceType = .ok () := by
  obtain ⟨artefact,picked,_,_⟩ := published.artefact
  have some_ : ¬ manifest.artefacts = [] := by
    intro none_
    rw [Manifest.pickArtefact,none_] at picked
    cases picked
  have each : manifest.artefacts.forM (validateArtefact crates.urls) = .ok () := by
    have sound := published.sound
    generalize manifest.artefacts = artefacts at sound
    induction artefacts with
    | nil => rfl
    | cons artefact artefacts ih =>
      exact bind_ok.mpr ⟨(),sound artefact List.mem_cons_self,
        ih fun other member => sound other (List.mem_cons_of_mem artefact member)⟩
  refine bind_ok.mpr ⟨(),bailIf_ok.mpr (not_not.mpr published.version),?_⟩
  refine bind_ok.mpr ⟨(),bailIf_ok.mpr (not_not.mpr published.channel),?_⟩
  exact bind_ok.mpr ⟨(),bailIf_ok.mpr (not_not.mpr published.deviceType),bind_ok.mpr ⟨(),bailIf_ok.mpr some_,each⟩⟩

theorem fetched (verified : verifyManifestBundle crates.sigstore crates.sha256 manifestBytes bundleBytes
      coordinator.profile.allowedSigners = .ok ()) :
    fetchManifest crates coordinator network request base = .ok manifest :=
  fetchManifest_ok (published.manifestServed.text published.manifestAt published.manifestText)
    (published.bundleServed.text published.bundleAt published.bundleText) verified published.decodes published.valid

theorem downloaded : fetchTarball crates coordinator network request manifest = .ok tarballBytes := by
  obtain ⟨artefact,picked,digest,served⟩ := published.artefact
  obtain ⟨_,host,rest⟩ := bind_ok.mp (published.sound artefact (List.mem_of_find?_eq_some picked))
  obtain ⟨_,digits,_⟩ := bind_ok.mp rest
  have digits : hexDigest artefact.sha256 = true := by simpa using bailIf_ok.mp digits
  unfold fetchTarball
  dsimp only
  rw [picked]
  exact mapError_ok.mpr (served.tarball host digits digest published.small)

theorem approved (eligible : Eligible crates coordinator request base)
    (verified : verifyManifestBundle crates.sigstore crates.sha256 manifestBytes bundleBytes
      coordinator.profile.allowedSigners = .ok ()) :
    Approved crates coordinator network request manifest tarballBytes where
  checked := ⟨base,eligible.checked,published.fetched verified⟩
  fetched := published.downloaded
  automatic := by simp [eligible.automatic]

end Published

end Approval

/-- From a workflow's signature to the live version. What a listed workflow signed by everyone's rules, published and had
handed over, is installed by a gateway that takes the request: on a machine that fails no call and has nothing in the way
of the version, whatever times the stage call is told. -/
theorem published_release_installs (crates : Crates) (coordinator : UpgradeCoordinator) (network : Network)
    (request : StageRequest) (manifest : Manifest) (made : crates.sigstore.Key → Bytes → Bytes → Prop) (run : WorkflowRun)
    (s : Signing) (cert base : String) (bundleBytes tarballBytes : Bytes) (w : World)
    (complete : ∀ key signature message, made key signature message →
      crates.sigstore.verifySignature key signature message = .ok ())
    (honest : Honest made crates.sha256 run s) (encodes : s.Encodes cert)
    (bundled : crates.sigstore.parseBundle bundleBytes = .ok (s.bundle cert))
    (listed : ∃ row ∈ coordinator.profile.allowedSigners, run.ListedBy row)
    (eligible : Eligible crates coordinator request base)
    (published : Published crates coordinator network request base manifest s.manifest bundleBytes tarballBytes)
    (newer : ∀ s, readState crates.serde w = some s → s.lastSequence < manifest.sequence)
    (entries : List (Option TarEntry)) (read : crates.tar.entries tarballBytes = some entries)
    (packed : Packed crates.tar coordinator.profile.binaryName entries []) (ready : Ready request.version w)
    (amounts : Nat → Nat) :
    ∃ n, (stageRun crates coordinator network request ((List.range n).map fun i => steady (amounts i)) w).1.result =
        some (.ok ⟨coordinator.currentVersion,request.version,request.channel,request.variantName,request.archOn coordinator,
          .version request.version⟩) ∧
      Upgraded crates coordinator request manifest w
        (stageRun crates coordinator network request ((List.range n).map fun i => steady (amounts i)) w).2.1 := by
  have matched : identityMatchesAllowlist run.claims coordinator.profile.allowedSigners = true := by
    obtain ⟨row,member,row_⟩ := listed
    exact List.any_eq_true.mpr ⟨row,member,rowMatches_iff.mpr (claims_admitted row_)⟩
  have approved := published.approved eligible (honest.verified complete encodes bundled matched)
  obtain ⟨n,_,done,rfl,upgraded⟩ := ends_steadily (stage_goes approved newer read packed ready) amounts
  refine ⟨n,?_⟩
  rw [stageRun_machine (packed.unfollowing approved read)]
  exact ⟨done,upgraded⟩

namespace Sample

noncomputable def runCrates : Crates := {crates with sigstore := runSigstore}

def runNetwork : Network := ⟨serve signing.manifest,serve (utf8 signingText),serve tarball⟩

theorem serve_served (body : Bytes) (url : String) : Served (serve body) url body where
  builds := rfl
  answered := ⟨0,by decide,nofun,⟨200,"200 OK",none,[some body]⟩,rfl,rfl,by simp [wholeBody],nofun⟩

theorem run_eligible : Eligible runCrates coordinator (request newRelease) newRelease.url where
  idle := rfl
  enabled := rfl
  automatic := rfl
  channel := by decide
  window := ⟨⟨0,45,4,"",""⟩,⟨0,45,3,"",""⟩,by decide +kernel,by decide +kernel,by decide +kernel,by decide +kernel⟩
  onHost := by decide +kernel

theorem run_decodes : runCrates.manifestJson signing.manifest = .ok newRelease.manifest := by
  have reader : runCrates.manifestJson = parser Release.manifestText Release.manifest := rfl
  have text : signing.manifest = utf8 newRelease.manifestText := rfl
  rw [reader,text]
  simp [parser,releases]

-- The texts are long for the kernel: each is measured part by part, its base64 by the length it is of.
theorem record_size : recordText.utf8ByteSize = 301 := by
  unfold recordText
  repeat rw [String.utf8ByteSize_append]
  repeat rw [base64String_size]
  decide +kernel

theorem payload_size : signing.payload.body.utf8ByteSize = 404 := by
  have size : signing.payload.body.utf8ByteSize = _ := base64String_size (utf8 recordText)
  rw [size,utf8_length,record_size]

theorem bundle_size : signingText.utf8ByteSize = 631 := by
  unfold signingText canonical
  repeat rw [String.utf8ByteSize_append]
  rw [payload_size]
  repeat rw [base64String_size]
  decide +kernel

theorem bundle_small : (utf8 signingText).length ≤ maxManifestBytes := by
  have size : (utf8 signingText).length = 631 := (utf8_length _).trans bundle_size
  exact Nat.le_trans (Nat.le_of_eq size) (by decide)

theorem run_published : Published runCrates coordinator runNetwork (request newRelease) newRelease.url newRelease.manifest
    signing.manifest (utf8 signingText) tarball where
  manifestAt := by decide +kernel
  manifestServed := serve_served _ _
  manifestText := ⟨by decide +kernel,validUtf8_utf8 _⟩
  bundleAt := by decide +kernel
  bundleServed := serve_served _ _
  bundleText := ⟨bundle_small,validUtf8_utf8 _⟩
  decodes := run_decodes
  version := rfl
  channel := rfl
  deviceType := rfl
  sound := by decide +kernel
  artefact := ⟨_,rfl,by decide +kernel,serve_served _ _⟩
  small := by decide +kernel

end Sample

theorem sample_published_installs : ∃ n, ∃ staged, (stageRun Sample.runCrates Sample.coordinator Sample.runNetwork
    (Sample.request Sample.newRelease) ((List.range n).map fun i => steady i) World.bare).1.result = some (.ok staged) := by
  obtain ⟨n,ended,_⟩ := published_release_installs Sample.runCrates Sample.coordinator Sample.runNetwork
    (Sample.request Sample.newRelease) Sample.newRelease.manifest Sample.madeBy Sample.taggedRun Sample.signing _ _ _ _
    World.bare Sample.run_complete Sample.run_honest (.inr rfl) Sample.run_bundled Sample.run_listed
    Sample.run_eligible Sample.run_published nofun _ rfl Sample.new_packed (Sample.bare_ready _) id
  exact ⟨n,_,ended⟩

end GatewaySdk.Upgrade
