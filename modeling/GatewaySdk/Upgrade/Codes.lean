import GatewaySdk.Text.Separated
import GatewaySdk.Upgrade.Causes
import GatewaySdk.Upgrade.Gate

/-! Which check an error code names. The code is read back from words of the text; what the
words tell is compared with the site that failed. -/
namespace GatewaySdk.Upgrade
open GatewaySdk.Effect GatewaySdk.Host GatewaySdk.Text

theorem contains_iff {text word : String} : contains text word = true ↔ word.toList <:+: text.toList := by
  simp [contains,List.any_eq_true,List.infix_iff_prefix_suffix,and_comm]

/-- Side by side, where a letter that the word lacks stands between. -/
theorem contains_append {a b word : String} (c : Char) (outside : c ∉ word.toList)
    (apart : a.toList.getLast? = some c ∨ b.toList.head? = some c) :
    contains (a ++ b) word = true ↔ contains a word = true ∨ contains b word = true := by
  simp only [contains_iff,String.toList_append]
  exact infix_append outside apart

theorem contains_more {a b word : String} (held : contains a word = true) : contains (a ++ b) word = true := by
  rw [contains_iff,String.toList_append]
  exact infix_of_left (contains_iff.mp held)

theorem contains_number (n : Nat) : contains (toString n) "checksum" = false := by
  rw [Bool.eq_false_iff,ne_eq,contains_iff]
  exact fun inside => not_mem_repr (by decide) n (inside.subset (a := 'c') (by decide))

section Words
variable {a b lead : String}

theorem contains_after (last : lead.toList.getLast? = some ' ') (free : contains lead "checksum" = false) :
    contains (lead ++ a) "checksum" = contains a "checksum" := by
  rw [Bool.eq_iff_iff,contains_append ' ' (by decide) (.inl last),free]
  simp

theorem contains_before (first : lead.toList.head? = some ' ') (free : contains lead "checksum" = false) :
    contains (a ++ lead) "checksum" = contains a "checksum" := by
  rw [Bool.eq_iff_iff,contains_append ' ' (by decide) (.inr first),free]
  simp

theorem contains_between {c : Char} (first : lead.toList.head? = some c) (last : lead.toList.getLast? = some ' ')
    (outside : c ∉ "checksum".toList) (free : contains lead "checksum" = false) :
    contains (a ++ lead ++ b) "checksum" = (contains a "checksum" || contains b "checksum") := by
  have ends : (a ++ lead).toList.getLast? = some ' ' := by
    rw [String.toList_append,List.getLast?_append,last]
    rfl
  rw [Bool.eq_iff_iff,contains_append ' ' (by decide) (.inl ends),contains_append c outside (.inr first),free]
  simp

end Words

/-- The word that the text is searched for stands in it for a mismatch, or where someone
else's text has it. -/
theorem DownloadFailure.contains_checksum (cause : DownloadFailure) : contains cause.text "checksum" = true ↔
    cause.isMismatch = true ∨ ∃ text ∈ cause.foreign, contains text "checksum" = true := by
  cases cause with
  | urlHost said =>
    have plain : contains (urlHost said).text "checksum" = contains said "checksum" := rfl
    simp [plain,isMismatch,foreign]
  | digestText expected =>
    have plain : contains (digestText expected).text "checksum" = contains (debugStr expected) "checksum" :=
      (contains_before rfl rfl).trans (contains_after rfl rfl)
    simp [plain,isMismatch,foreign]
  | client =>
    have plain : contains client.text "checksum" = false := rfl
    simp [plain,isMismatch,foreign]
  | exhausted =>
    have plain : contains exhausted.text "checksum" = false := rfl
    simp [plain,isMismatch,foreign]
  | network url said =>
    have plain : contains (network url said).text "checksum" = (contains url "checksum" || contains said "checksum") := by
      refine (contains_between rfl rfl (by decide) rfl).trans ?_
      exact congrArg (fun found => found || contains said "checksum") (contains_after rfl rfl)
    simp [plain,isMismatch,foreign]
  | status url said =>
    have plain : contains (status url said).text "checksum" = (contains said "checksum" || contains url "checksum") := by
      refine (contains_between rfl rfl (by decide) rfl).trans ?_
      exact congrArg (fun found => found || contains url "checksum") (contains_after rfl rfl)
    simp [plain,isMismatch,foreign,or_comm]
  | contentLength url len =>
    have plain : contains (contentLength url len).text "checksum" = contains url "checksum" := by
      refine (contains_between rfl rfl (by decide) rfl).trans ?_
      rw [contains_number,Bool.or_false]
      refine (contains_between rfl rfl (by decide) rfl).trans ?_
      rw [contains_number,Bool.or_false]
    simp [plain,isMismatch,foreign]
  | chunk url =>
    have plain : contains (chunk url).text "checksum" = contains url "checksum" := contains_after rfl rfl
    simp [plain,isMismatch,foreign]
  | tooLong url =>
    have plain : contains (tooLong url).text "checksum" = contains url "checksum" := by
      refine (contains_before rfl rfl).trans ?_
      refine (contains_between rfl rfl (by decide) rfl).trans ?_
      rw [contains_number,Bool.or_false]
    simp [plain,isMismatch,foreign]
  | mismatch url expected got size =>
    have plain : contains (mismatch url expected got size).text "checksum" = true := by
      iterate 8 apply contains_more
      rfl
    simp [plain,isMismatch]

/-- The code of a verification that failed: the context never has the lower-case word that
the second test looks for. -/
theorem VerifyFailure.code_eq {cause : VerifyFailure} (unread : cause ≠ .claimsUnread) :
    (mapVerifyError cause.text).code =
      if cause.noRow = true then ErrorCodes.upgradeIdentityNotAllowed else ErrorCodes.upgradeSignatureInvalid := by
  cases cause with
  | identity claims =>
    have found : contains (identity claims).text "identity" = true := by
      iterate 3 apply contains_more
      rfl
    simp [mapVerifyError,found,noRow]
  | claimsUnread => exact absurd rfl unread
  | sigstore site =>
    have context : (sigstore site).text = "Sigstore Fulcio + Rekor verification failed" := rfl
    rw [context]
    rfl
  | allowlistEmpty | bundleJson | certMissing | signatureMissing | blob => rfl

/-- How the code of a failure is to name its site. -/
structure Named (failure : StageFailure) (code : String) : Prop where
  rekor : ∀ cause, failure = .verification cause → cause.rekorPart = true → code = ErrorCodes.upgradeRekorInvalid
  identity : code = ErrorCodes.upgradeIdentityNotAllowed ↔ ∃ cause, failure = .verification cause ∧ cause.noRow = true
  signature : ∀ cause, failure = .verification cause → cause.rekorPart = false → cause.noRow = false →
    code = ErrorCodes.upgradeSignatureInvalid
  checksum : code = ErrorCodes.upgradeChecksumMismatch ↔ ∃ cause, failure = .download cause ∧ cause.isMismatch = true
  network : ∀ cause, failure = .download cause → cause.isMismatch = false → code = ErrorCodes.upgradeNetworkError
  fetches : ∀ text, failure = .manifestFetch text ∨ failure = .bundleFetch text → code = ErrorCodes.upgradeNetworkError

/-- A code of neither the allowlist nor the digest. -/
def Beside (error : UpgradeError) : Prop :=
  error.code ≠ ErrorCodes.upgradeIdentityNotAllowed ∧ error.code ≠ ErrorCodes.upgradeChecksumMismatch

theorem beside {code message : String}
    (other : code ≠ ErrorCodes.upgradeIdentityNotAllowed ∧ code ≠ ErrorCodes.upgradeChecksumMismatch) :
    Beside ⟨code,message⟩ := other

/-- A failure whose code is its own. -/
def Telling : StageFailure → Prop
  | .request error | .sequence error | .installation error => Beside error
  | .verification cause => cause ≠ .claimsUnread ∧ cause.rekorPart = false
  | .download cause => cause.isMismatch = false → ∀ text ∈ cause.foreign, contains text "checksum" = false
  | _ => True

theorem Telling.named {failure : StageFailure} (telling : Telling failure) : Named failure failure.error.code := by
  cases failure with
  | request error | sequence error | installation error =>
    constructor
    all_goals simp [StageFailure.error,telling.1,telling.2]
  | manifestFetch text | bundleFetch text | manifestJson text | manifestRequest text | noArtefact text =>
    constructor
    all_goals simp [StageFailure.error,ErrorCodes.upgradeNetworkError,ErrorCodes.upgradeManifestInvalid,
      ErrorCodes.upgradeArchMismatch,ErrorCodes.upgradeIdentityNotAllowed,ErrorCodes.upgradeChecksumMismatch]
  | manualOnly =>
    constructor
    all_goals simp [StageFailure.error,ErrorCodes.upgradeIdentityNotAllowed,ErrorCodes.upgradeChecksumMismatch]
  | verification cause =>
    have code := VerifyFailure.code_eq telling.1
    have logged := telling.2
    constructor
    all_goals simp only [StageFailure.error,code]
    · intro cause same rekor
      cases same
      exact absurd (rekor.symm.trans logged) nofun
    · split
      next none => simpa using none
      next some => simpa [ErrorCodes.upgradeSignatureInvalid,ErrorCodes.upgradeIdentityNotAllowed] using some
    · intro cause same _ row
      cases same
      rw [row]
      rfl
    · split <;> simp [ErrorCodes.upgradeIdentityNotAllowed,ErrorCodes.upgradeSignatureInvalid,ErrorCodes.upgradeChecksumMismatch]
    · exact fun _ same => by cases same
    · exact fun _ same => by rcases same with same | same <;> cases same
  | download cause =>
    have code : (fetchError cause.text).code =
        if contains cause.text "checksum" = true then ErrorCodes.upgradeChecksumMismatch else ErrorCodes.upgradeNetworkError :=
      rfl
    have told : contains cause.text "checksum" = true ↔ cause.isMismatch = true := by
      rw [cause.contains_checksum]
      refine ⟨fun either => either.elim id fun ⟨text,member,held⟩ => ?_,Or.inl⟩
      by_contra other
      exact absurd (held.symm.trans (telling (by simpa using other) text member)) nofun
    constructor
    all_goals simp only [StageFailure.error,code,told]
    · exact fun _ same => by cases same
    · split <;> simp [ErrorCodes.upgradeIdentityNotAllowed,ErrorCodes.upgradeNetworkError,ErrorCodes.upgradeChecksumMismatch]
    · exact fun _ same => by cases same
    · split
      next mismatch => simpa using mismatch
      next other => simpa [ErrorCodes.upgradeNetworkError,ErrorCodes.upgradeChecksumMismatch] using other
    · intro cause same other
      cases same
      rw [other]
      rfl
    · exact fun _ same => by rcases same with same | same <;> cases same

section Told
variable (crates : Crates) (coordinator : UpgradeCoordinator) (network : Network) (request : StageRequest)

/-- The Rekor part never is what fails, and no download that fails otherwise than by its
digest has the word for that in its URL or in the network's own text. -/
def Legible : Prop := ∀ base, checkRequest crates coordinator request = .ok base →
  (∀ cause, fetchManifestCauses crates coordinator network request base = .error (.verification cause) →
    cause.rekorPart = false) ∧
  ∀ manifest, fetchManifestCauses crates coordinator network request base = .ok manifest →
    ∀ cause, fetchTarballCauses crates coordinator network request manifest = .error (.download cause) →
      cause.isMismatch = false → ∀ text ∈ cause.foreign, contains text "checksum" = false

/-- In every run the code that the caller is told names the site that failed. -/
def Told : Prop := ∀ choices w failure error,
  ((host crates.tar).run choices (stageCauses crates coordinator network request) w).1.result = some (.error failure) →
  ((host crates.tar).run choices (stage crates coordinator network request) w).1.result = some (.error error) →
  Named failure error.code

end Told

section Sites
variable {crates : Crates} {coordinator : UpgradeCoordinator} {network : Network} {request : StageRequest}

theorem refuses_bailAs {P : UpgradeError → Prop} {condition : Prop} [Decidable condition] {code message : String}
    (own : P ⟨code,message⟩) : Refuses P (bailAs condition code message) := by
  unfold bailAs
  split
  · intro error same
    cases same
    exact own
  · exact .ok ()

theorem refuses_failIf {ε : Type} {P : ε → Prop} {condition : Prop} [Decidable condition] {cause : ε} (own : P cause) :
    Refuses P (failIf condition cause) := by
  unfold failIf
  split
  · intro error same
    cases same
    exact own
  · exact .ok ()

theorem refuses_someOr {ε α : Type} {P : ε → Prop} {found : Option α} {cause : ε} (own : P cause) :
    Refuses P (someOr cause found) := by
  cases found with
  | none =>
    intro error same
    cases same
    exact own
  | some value => exact .ok value

/-- What a check of the request, or of the state there was, refuses with. -/
theorem checkRequest_refuses : Refuses Beside (checkRequest crates coordinator request) := by
  unfold checkRequest
  refine (refuses_bailAs (beside (by decide))).bind fun _ _ => ?_
  refine (refuses_bailAs (beside (by decide))).bind fun _ _ => ?_
  refine (refuses_bailAs (beside (by decide))).bind fun _ _ => ?_
  refine (Refuses.mapError fun _ _ => beside (by decide)).bind fun _ _ => ?_
  refine (Refuses.mapError fun _ _ => beside (by decide)).bind fun _ _ => ?_
  refine (Refuses.mapError fun _ _ => beside (by decide)).bind fun _ _ => ?_
  exact Refuses.mapError fun _ _ => beside (by decide)

theorem checkSequence_refuses (manifest : Manifest) (state : Option InstallState) :
    Refuses Beside (checkSequence manifest state) := by
  cases state with
  | none => exact .ok ()
  | some s => exact refuses_bailAs (beside (by decide))

/-- The certificate that was read for the chain is read again for its claims. -/
theorem verifyCauses_refuses (sig : Sigstore) (sha256 : Bytes → Bytes) (manifestBytes bundleBytes : Bytes)
    (allowedSigners : List AllowedSigner) :
    Refuses (fun cause => cause ≠ .claimsUnread) (verifyCauses sig sha256 manifestBytes bundleBytes allowedSigners) := by
  unfold verifyCauses
  refine (refuses_failIf (by decide)).bind fun _ _ => ?_
  refine (Refuses.mapError fun _ _ => by decide).bind fun bundle _ => ?_
  refine (refuses_someOr (by decide)).bind fun certPem _ => ?_
  refine (refuses_someOr (by decide)).bind fun signatureB64 _ => ?_
  refine (Refuses.mapError fun site _ => nofun).bind fun _ chained => ?_
  refine (Refuses.mapError fun e unread => ?_).bind fun identity _ => ?_
  · obtain ⟨_,_,chained⟩ := bind_ok.mp (mapError_ok.mp chained)
    obtain ⟨_,_,chained⟩ := bind_ok.mp chained
    obtain ⟨_,_,chained⟩ := bind_ok.mp chained
    obtain ⟨_,_,chained⟩ := bind_ok.mp chained
    obtain ⟨der,decoded,chained⟩ := bind_ok.mp chained
    obtain ⟨_,chain,_⟩ := bind_ok.mp chained
    obtain ⟨leaf,parsed,_⟩ := bind_ok.mp (mapError_ok.mp chain)
    have read : extractIdentityClaims sig certPem = .ok (identityOf sig leaf) := by
      have certificate : (sig.fromDer der).mapError (fun e => "X.509 DER parse error: " ++ e) = .ok leaf :=
        mapError_ok.mpr (mapError_ok.mp parsed)
      exact bind_ok.mpr ⟨der,mapError_ok.mp decoded,bind_ok.mpr ⟨leaf,certificate,rfl⟩⟩
    exact absurd (read.symm.trans unread) nofun
  · refine (refuses_failIf nofun).bind fun _ _ => ?_
    exact Refuses.mapError fun _ _ => by decide

theorem fetchManifestCauses_refuses (base : String)
    (logged : ∀ cause, fetchManifestCauses crates coordinator network request base = .error (.verification cause) →
      cause.rekorPart = false) :
    Refuses Telling (fetchManifestCauses crates coordinator network request base) := by
  have read : Refuses (fun failure => (∀ error, failure ≠ .request error) ∧ (∀ error, failure ≠ .sequence error) ∧
      (∀ error, failure ≠ .installation error) ∧ (∀ cause, failure ≠ .download cause) ∧
      failure ≠ .verification .claimsUnread) (fetchManifestCauses crates coordinator network request base) := by
    unfold fetchManifestCauses
    refine (Refuses.mapError fun _ _ => by simp).bind fun _ _ => ?_
    refine (Refuses.mapError fun _ _ => by simp).bind fun _ _ => ?_
    refine (Refuses.mapError fun cause refused => ?_).bind fun _ _ => ?_
    · simpa using verifyCauses_refuses _ _ _ _ _ cause refused
    · refine (Refuses.mapError fun _ _ => by simp).bind fun _ _ => ?_
      refine (Refuses.mapError fun _ _ => by simp).bind fun _ _ => ?_
      exact .ok _
  intro failure refused
  obtain ⟨request,sequence,installation,download,claims⟩ := read failure refused
  cases failure with
  | request error => exact absurd rfl (request error)
  | sequence error => exact absurd rfl (sequence error)
  | installation error => exact absurd rfl (installation error)
  | download cause => exact absurd rfl (download cause)
  | verification cause => exact ⟨fun same => claims (same ▸ rfl),logged cause refused⟩
  | manifestFetch | bundleFetch | manifestJson | manifestRequest | noArtefact | manualOnly => trivial

theorem fetchTarballCauses_refuses {manifest : Manifest}
    (spoken : ∀ cause, fetchTarballCauses crates coordinator network request manifest = .error (.download cause) →
      cause.isMismatch = false → ∀ text ∈ cause.foreign, contains text "checksum" = false) :
    Refuses Telling (fetchTarballCauses crates coordinator network request manifest) := by
  unfold fetchTarballCauses at spoken ⊢
  split
  · intro failure refused
    cases refused
    trivial
  next artefact picked =>
    rw [picked] at spoken
    refine Refuses.mapError fun cause refused => spoken cause ?_
    exact congrArg (Except.mapError StageFailure.download) refused

theorem errs_ignore {ε α δ : Type} {P : δ → Prop} (program : Prog ε α) : Errs P (ignore program : Prog δ Unit) :=
  (Errs.attempt program).bind fun _ => trivial

theorem errs_tryLoad {ε : Type} {P : ε → Prop} (serde : Serde) (installRoot : String) :
    Errs P (tryLoad serde installRoot : Prog ε (Option InstallState)) := by
  unfold tryLoad
  refine Errs.bind (fun _ => trivial) fun found => ?_
  split
  · exact (Errs.attempt _).bind fun _ => trivial
  · trivial

theorem install_errs (manifest : Manifest) (tarballBytes : Bytes) :
    Errs Beside (install crates coordinator request manifest tarballBytes) := by
  unfold install recordStaged
  refine Errs.bind (Errs.mapError fun _ => beside (by decide)) fun installDir => ?_
  refine Errs.bind ?_ fun _ => (errs_ignore _).bind fun _ => trivial
  refine (errs_tryLoad _ _).bind fun prevState => ?_
  refine Errs.bind (fun _ => trivial) fun now => ?_
  exact Errs.mapError fun _ => beside (by decide)

theorem stageCauses_errs (legible : Legible crates coordinator network request) :
    Errs Telling (stageCauses crates coordinator network request) := by
  unfold stageCauses approveCauses
  refine Errs.bind ?_ fun approved => Errs.renamed (install_errs _ _) fun _ beside => beside
  refine Errs.check (Refuses.mapError checkRequest_refuses) fun base checked => ?_
  obtain ⟨logged,spoken⟩ := legible base (mapError_ok.mp checked)
  refine (errs_ignore _).bind fun _ => ?_
  refine Errs.check (fetchManifestCauses_refuses base logged) fun manifest fetched => ?_
  refine (errs_tryLoad _ _).bind fun state => ?_
  refine Errs.check (Refuses.mapError (checkSequence_refuses manifest state)) fun _ _ => ?_
  refine Errs.check (fetchTarballCauses_refuses (spoken manifest fetched)) fun tarballBytes _ => ?_
  refine (errs_ignore _).bind fun _ => ?_
  exact Errs.check (refuses_failIf trivial) fun _ _ => trivial

/-- What the caller is told, by the site. -/
theorem run_error {choices : List Choice} {w : World} {failure : StageFailure} {error : UpgradeError}
    (site : ((host crates.tar).run choices (stageCauses crates coordinator network request) w).1.result =
      some (.error failure))
    (told : ((host crates.tar).run choices (stage crates coordinator network request) w).1.result =
      some (.error error)) : error = failure.error := by
  rw [stage_causes,Machine.run_mapError,Program.mapError_result,site] at told
  exact (Except.error.inj (Option.some.inj told)).symm


theorem fetch_failed {base : String} {failure : StageFailure} (checked : checkRequest crates coordinator request = .ok base)
    (failed : fetchManifestCauses crates coordinator network request base = .error failure) :
    ((host crates.tar).run [smooth] (stageCauses crates coordinator network request) World.bare).1.result =
      some (.error failure) := by
  unfold stageCauses approveCauses
  rw [checked]
  simp only [Except.mapError,Program.ofExcept,Program.bind_eq,Program.pure_bind,failed]
  rfl

theorem download_failed {base : String} {manifest : Manifest} {failure : StageFailure}
    (checked : checkRequest crates coordinator request = .ok base)
    (fetched : fetchManifestCauses crates coordinator network request base = .ok manifest)
    (failed : fetchTarballCauses crates coordinator network request manifest = .error failure) :
    ((host crates.tar).run [smooth,smooth] (stageCauses crates coordinator network request) World.bare).1.result =
      some (.error failure) := by
  unfold stageCauses approveCauses
  rw [checked]
  simp only [Except.mapError,Program.ofExcept,Program.bind_eq,Program.pure_bind,fetched,failed]
  rfl

/-- A Rekor part that fails is told as a signature that does. -/
theorem not_told_of_rekor {base : String} {cause : VerifyFailure}
    (checked : checkRequest crates coordinator request = .ok base)
    (failed : fetchManifestCauses crates coordinator network request base = .error (.verification cause))
    (rekor : cause.rekorPart = true) : ¬ Told crates coordinator network request := by
  intro told
  have site := fetch_failed checked failed
  have named := told _ _ _ (StageFailure.verification cause).error site (by
    rw [stage_causes,Machine.run_mapError,Program.mapError_result,site]
    rfl)
  have code := named.rekor cause rfl rekor
  cases cause with
  | sigstore part =>
    have other : (mapVerifyError (VerifyFailure.sigstore part).text).code = ErrorCodes.upgradeSignatureInvalid :=
      VerifyFailure.code_eq nofun
    exact absurd (code.symm.trans other) (by decide)
  | allowlistEmpty | bundleJson | certMissing | signatureMissing | claimsUnread | identity | blob => cases rekor

end Sites

/-- The codes name the failed checks exactly where the Rekor part is not what fails and nobody
else's text has the word for a digest. -/
theorem told_iff_legible (crates : Crates) (coordinator : UpgradeCoordinator) (network : Network) (request : StageRequest) :
    Told crates coordinator network request ↔ Legible crates coordinator network request := by
  constructor
  · intro told base checked
    have named {choices : List Choice} {failure : StageFailure}
        (site : ((host crates.tar).run choices (stageCauses crates coordinator network request) World.bare).1.result =
          some (.error failure)) : Named failure failure.error.code := by
      refine told choices World.bare failure failure.error site ?_
      rw [stage_causes,Machine.run_mapError,Program.mapError_result,site]
      rfl
    constructor
    · intro cause failed
      by_contra part
      exact not_told_of_rekor checked failed (Bool.eq_true_of_not_eq_false part) told
    · intro manifest fetched cause failed other text member
      have code := (named (download_failed checked fetched failed)).network cause rfl other
      by_contra held
      have told : contains cause.text "checksum" = true :=
        cause.contains_checksum.mpr (.inr ⟨text,member,by simpa using held⟩)
      simp [StageFailure.error,fetchError,told,ErrorCodes.upgradeChecksumMismatch,ErrorCodes.upgradeNetworkError] at code
  · intro legible choices w failure error site told
    rw [run_error site told]
    exact ((stageCauses_errs legible).run choices w site).named

namespace Sample

def unloggedText : String := "\x7b\"base64Signature\":\"AQ==\",\"cert\":\"Ag==\"\x7d"

noncomputable def unlogged : Crates :=
  {crates with sigstore := {sigstore with
    parseBundle := fun bytes => if bytes = utf8 unloggedText then .ok ⟨some "AQ==",some "Ag==",none⟩ else .error "syntax"}}

def unloggedNetwork : Network := ⟨serve (utf8 "\x7b\x7d"),serve (utf8 unloggedText),serve tarball⟩

theorem unlogged_failed : fetchManifestCauses unlogged coordinator unloggedNetwork (request newRelease) newRelease.url =
    .error (.verification (.sigstore .rekorMissing)) := by
  have first : fetchText unlogged.urls unloggedNetwork.manifest (newRelease.url ++ "/manifest.json") =
      .ok (utf8 "\x7b\x7d") := fetchText_serve (by decide) (by decide)
  have second : fetchText unlogged.urls unloggedNetwork.bundle (newRelease.url ++ "/manifest.sig.bundle") =
      .ok (utf8 unloggedText) := fetchText_serve (by decide) (by decide)
  have parsed : unlogged.sigstore.parseBundle (utf8 unloggedText) = .ok ⟨some "AQ==",some "Ag==",none⟩ := by
    simp [unlogged]
  have listed : failIf (coordinator.profile.allowedSigners = []) VerifyFailure.allowlistEmpty = .ok () := rfl
  have chained : certAndRekorCauses unlogged.sigstore unlogged.sha256 "Ag==" (utf8 "\x7b\x7d") none =
      .error .rekorMissing := rfl
  simp only [fetchManifestCauses,verifyCauses,first,second,parsed,listed,chained,someOr,Except.mapError,bind,Except.bind]

end Sample

theorem unlogged_not_told :
    ¬ Told Sample.unlogged Sample.coordinator Sample.unloggedNetwork (Sample.request Sample.newRelease) :=
  not_told_of_rekor Sample.checked_new Sample.unlogged_failed rfl

end GatewaySdk.Upgrade
