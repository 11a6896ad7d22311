import GatewaySdk.Effect.Errors
import GatewaySdk.Upgrade.Stage

/-! Where a stage call fails: the same checks in the same order, each failure kept by its site
instead of by its text. The texts are those of the code, so the code is this one with the
sites forgotten. -/
namespace GatewaySdk.Upgrade
open GatewaySdk.Effect GatewaySdk.Host GatewaySdk.Text

/-- The checks inside the Sigstore part, whose texts end up under one context. -/
inductive SigstoreFailure where
  | trustRoot
  | fulcioCerts
  | rekorKeys
  | rekorMissing
  | pem
  | certChain
  | validityWindow
  | rekorBody
  | rekorSet
  deriving DecidableEq, Repr

inductive VerifyFailure where
  | allowlistEmpty
  | bundleJson
  | certMissing
  | signatureMissing
  | sigstore (site : SigstoreFailure)
  | claimsUnread
  | identity (claims : CertIdentity)
  | blob
  deriving DecidableEq, Repr

namespace VerifyFailure

def text : VerifyFailure → Error
  | allowlistEmpty => "identity allowlist is empty — refusing to verify any signature"
  | bundleJson => "failed to parse cosign Sigstore bundle JSON"
  | certMissing => "bundle missing 'cert' (X.509 PEM)"
  | signatureMissing => "bundle missing 'base64Signature'"
  | sigstore _ => "Sigstore Fulcio + Rekor verification failed"
  | claimsUnread => "could not extract identity claims from Fulcio cert"
  | identity claims => "Sigstore cert identity " ++ claims.debug ++ " is not in the upgrade ALLOWED_SIGNERS allowlist — " ++
      "refusing to install (the binary may have been signed by an unauthorised workflow)"
  | blob => "manifest signature does not verify under the cert's pubkey"

/-- The Rekor part failed: no entry, one that does not bind, or one whose timestamp does not verify. -/
def rekorPart : VerifyFailure → Bool
  | sigstore .rekorMissing | sigstore .rekorBody | sigstore .rekorSet => true
  | _ => false

/-- The claims were read and match no row, or there is no row. -/
def noRow : VerifyFailure → Bool
  | allowlistEmpty | identity _ => true
  | _ => false

end VerifyFailure

inductive DownloadFailure where
  | urlHost (text : Error)
  | digestText (expected : String)
  | client
  | exhausted
  | network (url text : String)
  | status (url text : String)
  | contentLength (url : String) (len : Nat)
  | chunk (url : String)
  | tooLong (url : String)
  | mismatch (url expected got : String) (size : Nat)
  deriving DecidableEq, Repr

namespace DownloadFailure

def text : DownloadFailure → Error
  | urlHost text => text
  | digestText expected => "expected SHA-256 " ++ debugStr expected ++ " is not 64 hex chars"
  | client => "failed to build reqwest::Client for upgrade fetch"
  | exhausted => "fetch_with_sha256 exhausted retries"
  | network url text => "network error fetching " ++ url ++ ": " ++ text
  | status url text => "HTTP " ++ text ++ " from " ++ url
  | contentLength url len =>
    url ++ " content-length " ++ toString len ++ " exceeds tarball cap " ++ toString maxTarballBytes
  | chunk url => "failed to read chunk from " ++ url
  | tooLong url => url ++ " body exceeds tarball cap " ++ toString maxTarballBytes ++ " mid-stream"
  | mismatch url expected got size => "checksum mismatch for " ++ url ++ ": expected SHA-256 " ++ expected ++ ", got " ++
      got ++ " (size " ++ toString size ++ " bytes)"

/-- The tarball came, and its digest is another. -/
def isMismatch : DownloadFailure → Bool
  | mismatch _ _ _ _ => true
  | _ => false

/-- The texts in it that are not the code's own. -/
def foreign : DownloadFailure → List String
  | urlHost text => [text]
  | digestText expected => [debugStr expected]
  | client | exhausted => []
  | network url text | status url text => [url,text]
  | contentLength url _ | chunk url | tooLong url | mismatch url _ _ _ => [url]

end DownloadFailure

/-- `if condition { return Err(cause) }`. -/
def failIf {ε : Type} (condition : Prop) [Decidable condition] (cause : ε) : Except ε Unit :=
  if condition then .error cause else .ok ()

/-- `.ok_or(cause)`. -/
def someOr {ε α : Type} (cause : ε) : Option α → Except ε α
  | some value => .ok value
  | none => .error cause

section Verify
variable (sig : Sigstore) (sha256 : Bytes → Bytes)

def certAndRekorCauses (certPem : String) (manifestBytes : Bytes) (rekorBundle : Option RekorBundle) :
    Except SigstoreFailure Unit := do
  sig.trustRoot.mapError (fun _ => .trustRoot)
  let fulcioCerts ← sig.fulcioCerts.mapError (fun _ => .fulcioCerts)
  let rekorKeys ← sig.rekorKeys.mapError (fun _ => .rekorKeys)
  let rekor ← someOr .rekorMissing rekorBundle
  let leafDer ← (pemToDer certPem).mapError (fun _ => .pem)
  (verifyCertChain sig leafDer fulcioCerts).mapError (fun _ => .certChain)
  (verifyValidityWindow sig leafDer rekor.payload.integratedTime).mapError (fun _ => .validityWindow)
  (verifyRekorBodyBinding sig sha256 rekor.payload.body manifestBytes leafDer).mapError (fun _ => .rekorBody)
  (verifyRekorSet sig rekor rekorKeys).mapError (fun _ => .rekorSet)

def verifyCauses (manifestBytes bundleBytes : Bytes) (allowedSigners : List AllowedSigner) : Except VerifyFailure Unit := do
  failIf (allowedSigners = []) .allowlistEmpty
  let bundle ← (sig.parseBundle bundleBytes).mapError (fun _ => .bundleJson)
  let certPem ← someOr .certMissing bundle.cert
  let signatureB64 ← someOr .signatureMissing bundle.base64Signature
  (certAndRekorCauses sig sha256 certPem manifestBytes bundle.rekorBundle).mapError .sigstore
  let identity ← (extractIdentityClaims sig certPem).mapError (fun _ => .claimsUnread)
  failIf (identityMatchesAllowlist identity allowedSigners = false) (.identity identity)
  (verifyBlobSignature sig certPem signatureB64 manifestBytes).mapError (fun _ => .blob)

end Verify

section Download
variable (urls : UrlCrate) (sha256 : Bytes → Bytes)

def collectCauses (url : String) : Bytes → List (Option Bytes) → Except DownloadFailure Bytes
  | buf,[] => .ok buf
  | _,none::_ => .error (.chunk url)
  | buf,some chunk::rest =>
    if buf.length + chunk.length > maxTarballBytes then .error (.tooLong url) else collectCauses url (buf ++ chunk) rest

def contentLengthCauses (url : String) : Option Nat → Except DownloadFailure Unit
  | none => .ok ()
  | some len => failIf (len > maxTarballBytes) (.contentLength url len)

def readCauses (url expected : String) (response : Response) : Except DownloadFailure Bytes := do
  contentLengthCauses url response.contentLength
  let buf ← collectCauses url [] response.chunks
  let got := hex (sha256 buf)
  failIf (eqIgnoreAsciiCase got expected = false) (.mismatch url expected got buf.length)
  return buf

def attemptCauses (url expected : String) (http : Http) :
    (left attempt : Nat) → Option DownloadFailure → Except DownloadFailure Bytes
  | 0,_,lastErr => .error (lastErr.getD .exhausted)
  | left + 1,attempt,_ =>
    match send (http.server attempt) 4 1 url with
    | .ok response =>
      if isSuccess response.status = true then readCauses sha256 url expected response
      else if isRetryableStatus response.status = true then
        attemptCauses url expected http left (attempt + 1) (some (.status url response.statusText))
      else .error (.status url response.statusText)
    | .error e => attemptCauses url expected http left (attempt + 1) (some (.network url e))

def downloadCauses (http : Http) (url expected : String) : Except DownloadFailure Bytes := do
  (validateUrlHost urls url).mapError .urlHost
  failIf (hexDigest expected = false) (.digestText expected)
  (buildClient http).mapError (fun _ => .client)
  attemptCauses sha256 url expected http maxAttempts 0 none

end Download

inductive StageFailure where
  | request (error : UpgradeError)
  | manifestFetch (text : Error)
  | bundleFetch (text : Error)
  | verification (cause : VerifyFailure)
  | manifestJson (text : Error)
  | manifestRequest (text : Error)
  | sequence (error : UpgradeError)
  | noArtefact (text : Error)
  | download (cause : DownloadFailure)
  | manualOnly
  | installation (error : UpgradeError)
  deriving DecidableEq, Repr

def StageFailure.error : StageFailure → UpgradeError
  | request error | sequence error | installation error => error
  | manifestFetch text => ⟨ErrorCodes.upgradeNetworkError,"manifest fetch failed: " ++ text⟩
  | bundleFetch text => ⟨ErrorCodes.upgradeNetworkError,"bundle fetch failed: " ++ text⟩
  | verification cause => mapVerifyError cause.text
  | manifestJson text => ⟨ErrorCodes.upgradeManifestInvalid,"manifest is not valid JSON: " ++ text⟩
  | manifestRequest text => ⟨ErrorCodes.upgradeManifestInvalid,"" ++ text⟩
  | noArtefact text => ⟨ErrorCodes.upgradeArchMismatch,text⟩
  | download cause => fetchError cause.text
  | manualOnly => ⟨"upgrade_staged_manual",
      "staged successfully; manual_only is set and the symlink swap is deferred until SIGUSR1"⟩

section Stage
variable (crates : Crates) (coordinator : UpgradeCoordinator) (network : Network) (request : StageRequest)

def fetchManifestCauses (releaseBase : String) : Except StageFailure Manifest := do
  let manifestBytes ← (fetchText crates.urls network.manifest (releaseBase ++ "/manifest.json")).mapError .manifestFetch
  let bundleBytes ← (fetchText crates.urls network.bundle (releaseBase ++ "/manifest.sig.bundle")).mapError .bundleFetch
  (verifyCauses crates.sigstore crates.sha256 manifestBytes bundleBytes coordinator.profile.allowedSigners).mapError .verification
  let manifest ← (crates.manifestJson manifestBytes).mapError .manifestJson
  (manifest.validateRequest crates.urls request.version request.channel coordinator.profile.deviceType).mapError .manifestRequest
  return manifest

def fetchTarballCauses (manifest : Manifest) : Except StageFailure Bytes :=
  match manifest.pickArtefact (request.archOn coordinator) request.variantName with
  | none => .error (.noArtefact ("manifest has no artefact for arch=" ++ request.archOn coordinator ++ " variant=" ++
      request.variantName))
  | some artefact => (downloadCauses crates.urls crates.sha256 network.tarball artefact.url artefact.sha256).mapError .download

def approveCauses : Prog StageFailure (Manifest × Bytes) := do
  let releaseBase ← Program.ofExcept ((checkRequest crates coordinator request).mapError .request)
  ignore (Io.trySend (stageEvent coordinator request "upgrade_started" ("Staging upgrade to " ++ request.version ++
    " (" ++ request.channel ++ "/" ++ request.archOn coordinator ++ "/" ++ request.variantName ++ ")") none))
  let manifest ← Program.ofExcept (fetchManifestCauses crates coordinator network request releaseBase)
  let state ← tryLoad crates.serde coordinator.config.installRoot
  Program.ofExcept ((checkSequence manifest state).mapError .sequence)
  let tarballBytes ← Program.ofExcept (fetchTarballCauses crates coordinator network request manifest)
  ignore (Io.trySend (stageEvent coordinator request "upgrade_downloaded" ("Downloaded upgrade tarball (" ++
    toString tarballBytes.length ++ " bytes)") (some tarballBytes.length)))
  Program.ofExcept (failIf (coordinator.config.manualOnly = true) .manualOnly)
  return (manifest,tarballBytes)

def stageCauses : Prog StageFailure StagedUpgrade := do
  let (manifest,tarballBytes) ← approveCauses crates coordinator network request
  (install crates coordinator request manifest tarballBytes).mapError .installation

end Stage

section Agree
variable {α β ε δ φ : Type} {sig : Sigstore} {sha256 : Bytes → Bytes} {urls : UrlCrate}

theorem mapError_bind (first : Except ε α) (rest : α → Except ε β) (f : ε → δ) :
    (first >>= rest).mapError f = first.mapError f >>= fun a => (rest a).mapError f := by
  cases first <;> rfl

theorem mapError_mapError (outcome : Except ε α) (f : ε → δ) (g : δ → φ) :
    (outcome.mapError f).mapError g = outcome.mapError (g ∘ f) := by
  cases outcome <;> rfl

theorem mapError_failIf (condition : Prop) [Decidable condition] (cause : ε) (f : ε → δ) :
    (failIf condition cause).mapError f = failIf condition (f cause) := by
  unfold failIf
  split <;> rfl

theorem bailIf_eq (condition : Prop) [Decidable condition] (message : Error) : bailIf condition message = failIf condition message := rfl

theorem mapError_someOr (cause : ε) (found : Option α) (f : ε → δ) :
    (someOr cause found).mapError f = someOr (f cause) found := by
  cases found <;> rfl

theorem orElse_eq (found : Option α) (message : Error) : orElse found message = someOr message found := by
  cases found <;> rfl

/-- Under one context every site reads the same. -/
theorem certAndRekor_agrees (certPem : String) (manifestBytes : Bytes) (rekorBundle : Option RekorBundle) (f : Error → φ)
    (g : SigstoreFailure → φ) (message : φ) (left : ∀ e, f e = message) (right : ∀ site, g site = message) :
    (verifyCertAndRekor sig sha256 certPem manifestBytes rekorBundle).mapError f =
      (certAndRekorCauses sig sha256 certPem manifestBytes rekorBundle).mapError g := by
  obtain rfl : f = fun _ => message := funext left
  obtain rfl : g = fun _ => message := funext right
  simp only [verifyCertAndRekor,certAndRekorCauses,mapError_bind,mapError_mapError,mapError_someOr,orElse_eq,
    Function.comp_def]

theorem verify_agrees (manifestBytes bundleBytes : Bytes) (allowedSigners : List AllowedSigner) :
    verifyManifestBundle sig sha256 manifestBytes bundleBytes allowedSigners =
      (verifyCauses sig sha256 manifestBytes bundleBytes allowedSigners).mapError VerifyFailure.text := by
  have inner (certPem : String) (rekorBundle : Option RekorBundle) :=
    @certAndRekor_agrees _ sig sha256 certPem manifestBytes rekorBundle (fun _ => "Sigstore Fulcio + Rekor verification failed")
      (fun site => VerifyFailure.text (.sigstore site)) _ (fun _ => rfl) fun _ => rfl
  simp only [verifyManifestBundle,verifyCauses,mapError_bind,mapError_mapError,mapError_someOr,orElse_eq,mapError_failIf,
    bailIf_eq,Function.comp_def,inner]
  rfl

theorem collect_agrees (url : String) (buf : Bytes) (chunks : List (Option Bytes)) :
    collect url buf chunks = (collectCauses url buf chunks).mapError DownloadFailure.text := by
  induction chunks generalizing buf with
  | nil => rfl
  | cons chunk rest ih =>
    cases chunk with
    | none => rfl
    | some bytes =>
      unfold collect collectCauses
      split
      · rfl
      · exact ih _

theorem read_agrees (url expected : String) (response : Response) :
    readTarball sha256 url expected response = (readCauses sha256 url expected response).mapError DownloadFailure.text := by
  have length : checkContentLength url response.contentLength =
      (contentLengthCauses url response.contentLength).mapError DownloadFailure.text := by
    cases response.contentLength with
    | none => rfl
    | some len =>
      unfold checkContentLength contentLengthCauses
      rw [mapError_failIf]
      rfl
  simp only [readTarball,readCauses,mapError_bind,mapError_failIf,bailIf_eq,length,collect_agrees]
  rfl

theorem attempts_agree (url expected : String) (http : Http) (left attempt : Nat) (lastErr : Option DownloadFailure) :
    attempts (readTarball sha256 url expected) "fetch_with_sha256 exhausted retries" url http left attempt
        (lastErr.map DownloadFailure.text) =
      (attemptCauses sha256 url expected http left attempt lastErr).mapError DownloadFailure.text := by
  induction left generalizing attempt lastErr with
  | zero => cases lastErr <;> rfl
  | succ left ih =>
    unfold attempts attemptCauses
    cases send (http.server attempt) 4 1 url with
    | error e => exact ih (attempt+1) (some (.network url e))
    | ok response =>
      dsimp only
      split
      · exact read_agrees url expected response
      · split
        · exact ih (attempt+1) (some (.status url response.statusText))
        · rfl

theorem download_agrees (http : Http) (url expected : String) : fetchWithSha256 urls sha256 http url expected =
    (downloadCauses urls sha256 http url expected).mapError DownloadFailure.text := by
  have client : buildClient http = (buildClient http).mapError fun _ => DownloadFailure.text .client := by
    unfold buildClient
    split <;> rfl
  have host : validateUrlHost urls url = (validateUrlHost urls url).mapError fun e => DownloadFailure.text (.urlHost e) := by
    cases validateUrlHost urls url <;> rfl
  have rest : attempts (readTarball sha256 url expected) "fetch_with_sha256 exhausted retries" url http maxAttempts 0 none =
      (attemptCauses sha256 url expected http maxAttempts 0 none).mapError DownloadFailure.text :=
    attempts_agree url expected http maxAttempts 0 none
  unfold fetchWithSha256 downloadCauses
  simp only [mapError_bind,mapError_mapError,mapError_failIf,bailIf_eq,Function.comp_def]
  conv_lhs => rw [host,client,rest]
  rfl

section Stage
variable {crates : Crates} {coordinator : UpgradeCoordinator} {network : Network} {request : StageRequest}

theorem fetchManifest_agrees (releaseBase : String) : fetchManifest crates coordinator network request releaseBase =
    (fetchManifestCauses crates coordinator network request releaseBase).mapError StageFailure.error := by
  simp only [fetchManifest,fetchManifestCauses,coded,verify_agrees,mapError_bind,mapError_mapError,Function.comp_def]
  rfl

theorem fetchTarball_agrees (manifest : Manifest) : fetchTarball crates coordinator network request manifest =
    (fetchTarballCauses crates coordinator network request manifest).mapError StageFailure.error := by
  simp only [fetchTarball,fetchTarballCauses]
  cases manifest.pickArtefact (request.archOn coordinator) request.variantName with
  | none => rfl
  | some artefact =>
    simp only [download_agrees,mapError_mapError]
    rfl

theorem ignore_mapError {ε : Type} (program : Prog ε α) (f : δ → φ) :
    (ignore program : Prog δ Unit).mapError f = ignore program := by
  simp only [ignore,Program.bind_eq,Program.mapError_bind,Program.mapError_attempt]
  rfl

theorem tryLoad_mapError (serde : Serde) (installRoot : String) (f : δ → φ) :
    (tryLoad serde installRoot : Prog δ (Option InstallState)).mapError f = tryLoad serde installRoot := by
  simp only [tryLoad,Program.bind_eq,Program.mapError_bind]
  congr 1
  funext found
  split
  · simp only [Program.mapError_bind,Program.mapError_attempt]
    rfl
  · rfl

theorem mapError_back {ε : Type} (program : Prog UpgradeError α) (f : UpgradeError → ε) (g : ε → UpgradeError)
    (back : ∀ error, g (f error) = error) : (program.mapError f).mapError g = program := by
  induction program with
  | pure value => rfl
  | fail error => exact congrArg Program.fail (back error)
  | call operation next ih =>
    simp only [Program.mapError]
    congr 1
    funext reply
    exact ih reply

theorem approve_agrees : approve crates coordinator network request =
    (approveCauses crates coordinator network request).mapError StageFailure.error := by
  have same {α : Type} (outcome : Except UpgradeError α) (f : UpgradeError → StageFailure)
      (back : ∀ error, (f error).error = error) : (outcome.mapError f).mapError StageFailure.error = outcome := by
    cases outcome with
    | ok value => rfl
    | error error => exact congrArg Except.error (back error)
  simp only [approve,approveCauses,Program.bind_eq,Program.mapError_bind,Program.mapError_ofExcept,ignore_mapError,
    tryLoad_mapError,fetchManifest_agrees,fetchTarball_agrees,same _ StageFailure.request fun _ => rfl,
    same _ StageFailure.sequence fun _ => rfl,mapError_failIf]
  rfl

/-- The code is the program of the sites, told by their texts. -/
theorem stage_causes : stage crates coordinator network request =
    (stageCauses crates coordinator network request).mapError StageFailure.error := by
  simp only [stage,stageCauses,approve_agrees,Program.bind_eq,Program.mapError_bind,
    mapError_back _ StageFailure.installation StageFailure.error fun _ => rfl]

end Stage
end Agree
end GatewaySdk.Upgrade
