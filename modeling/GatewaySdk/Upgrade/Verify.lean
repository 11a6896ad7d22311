import GatewaySdk.Text.Base64
import GatewaySdk.Upgrade.Download

/-! Sigstore verification of a manifest. The JSON, X.509 and signature crates and the
trust root are parameters; every check of the source is written out over them. -/
namespace GatewaySdk.Upgrade
open GatewaySdk.Text

/-- The only wildcard is a `*` at the end. -/
def refMatches (pattern actual : String) : Bool :=
  if pattern.toList.getLast? = some '*' then pattern.toList.dropLast.isPrefixOf actual.toList
  else pattern == actual

structure RekorPayload where
  body : String
  integratedTime : Int
  logId : String
  logIndex : Nat
  deriving DecidableEq, Repr

structure RekorBundle where
  signedEntryTimestamp : String
  payload : RekorPayload
  deriving DecidableEq, Repr

structure CosignBundle where
  base64Signature : Option String
  cert : Option String
  rekorBundle : Option RekorBundle
  deriving DecidableEq, Repr

structure CertIdentity where
  issuer : Option String
  repo : Option String
  workflowUri : Option String
  refClaim : Option String
  deriving DecidableEq, Repr

inductive Json where
  | null
  | bool (value : Bool)
  | num (text : String)
  | str (text : String)
  | arr (items : List Json)
  | obj (fields : List (String × Json))

namespace Json

def field (name : String) : Json → Option Json
  | .obj fields => (fields.find? (fun entry => entry.1 == name)).map (·.2)
  | _ => none

/-- `Value::pointer` along object keys. -/
def pointer (value : Json) (path : List String) : Option Json :=
  path.foldl (fun found name => found.bind (field name)) (some value)

def asStr : Json → Option String
  | .str text => some text
  | _ => none

end Json

inductive SigningScheme where
  | ecdsaP256Sha256Asn1
  | ecdsaP384Sha384Asn1
  deriving DecidableEq, Repr

/-- What the source reads of a parsed certificate. -/
structure Certificate where
  tbsDer : Except String Bytes
  signature : Option Bytes
  signatureAlgorithm : String
  spkiDer : Except String Bytes
  notBefore : Int
  notAfter : Int
  extensions : Option (List (String × Bytes))

/-- The crates of the verifier and what the trust root loads. -/
structure Sigstore where
  Key : Type
  parseBundle : Bytes → Except String CosignBundle
  parseJson : Bytes → Except String Json
  fromDer : Bytes → Except String Certificate
  utf8StringFromDer : Bytes → Option String
  keyFromDer : Bytes → SigningScheme → Except String Key
  verifySignature : Key → Bytes → Bytes → Except String Unit
  trustRoot : Except String Unit
  fulcioCerts : Except String (List Bytes)
  rekorKeys : Except String (List (String × Bytes))

def utf8 (text : String) : Bytes := text.toByteArray.data.toList

def fromUtf8 (bytes : Bytes) : Option String := String.fromUTF8? ⟨bytes.toArray⟩

def beginMarker : List Char := "-----BEGIN CERTIFICATE-----".toList
def endMarker : List Char := "-----END CERTIFICATE-----".toList

/-- The characters `char::is_whitespace` accepts. -/
def isWhitespace (c : Char) : Bool :=
  (9 ≤ c.toNat && c.toNat ≤ 13) || c.toNat ∈ [32,133,160,5760,8232,8233,8239,8287,12288] ||
    (8192 ≤ c.toNat && c.toNat ≤ 8202)

def trim (text : List Char) : List Char := ((text.dropWhile isWhitespace).reverse.dropWhile isWhitespace).reverse

def stripPrefix (part text : List Char) : Option (List Char) :=
  if part.isPrefixOf text = true then some (text.drop part.length) else none

def stripSuffix (part text : List Char) : Option (List Char) :=
  if part.isSuffixOf text = true then some (text.take (text.length - part.length)) else none

def orElse {α : Type} (found : Option α) (message : Error) : Except Error α :=
  match found with
  | some value => .ok value
  | none => .error message

/-- `none` where the text is not a PEM block, an error where its body is corrupt. -/
def tryPemBlock (s : List Char) : Option (Except Error Bytes) := do
  let rest ← stripPrefix beginMarker s
  let body ← stripSuffix endMarker rest
  let cleaned := body.filter (fun c => !isWhitespace c)
  some (orElse (Base64.decode (utf8 (String.ofList cleaned))) "PEM body is not valid base64")

def pemToDer (certField : String) : Except Error Bytes :=
  let trimmed := trim certField.toList
  match tryPemBlock trimmed with
  | some der => der
  | none => do
    let inner ← orElse (Base64.decode (utf8 (String.ofList trimmed))) "cert field is neither a PEM CERTIFICATE block nor base64"
    let inner ← orElse (fromUtf8 inner) "base64-decoded cert field is not UTF-8 PEM"
    let block ← orElse (tryPemBlock (trim inner.toList)) "cert field is not a single PEM CERTIFICATE block"
    block

def schemeForOid (oid : String) : Except Error SigningScheme :=
  if oid = "1.2.840.10045.4.3.2" then .ok .ecdsaP256Sha256Asn1
  else if oid = "1.2.840.10045.4.3.3" then .ok .ecdsaP384Sha384Asn1
  else .error ("unsupported certificate signature algorithm OID " ++ oid)

variable (sig : Sigstore)

/-- One signature check: the key loads and the signature verifies. -/
def verifies (spki : Bytes) (scheme : SigningScheme) (signature message : Bytes) : Bool :=
  match sig.keyFromDer spki scheme with
  | .error _ => false
  | .ok key => (sig.verifySignature key signature message).isOk

/-- The key of this CA certificate signs the leaf. -/
def issuedBy (scheme : SigningScheme) (signature tbs ca : Bytes) : Bool :=
  match sig.fromDer ca with
  | .error _ => false
  | .ok ca =>
    match ca.spkiDer with
    | .error _ => false
    | .ok spki => verifies sig spki scheme signature tbs

def parseLeaf (der : Bytes) : Except Error Certificate :=
  (sig.fromDer der).mapError (fun e => "leaf X.509 DER parse error: " ++ e)

def verifyCertChain (leafDer : Bytes) (fulcioCerts : List Bytes) : Except Error Unit := do
  let leaf ← parseLeaf sig leafDer
  let tbs ← leaf.tbsDer.mapError (fun e => "re-encode leaf TBSCertificate: " ++ e)
  let signature ← orElse leaf.signature "leaf signature is not octet-aligned"
  let scheme ← schemeForOid leaf.signatureAlgorithm
  bailIf (fulcioCerts.any (issuedBy sig scheme signature tbs) = false)
    "leaf certificate does not chain to any trusted Fulcio CA (possible forged or self-signed certificate)"

def verifyValidityWindow (leafDer : Bytes) (integratedTime : Int) : Except Error Unit := do
  let leaf ← parseLeaf sig leafDer
  bailIf (integratedTime < leaf.notBefore ∨ integratedTime > leaf.notAfter)
    ("Rekor integratedTime " ++ toString integratedTime ++ " is outside certificate validity [" ++
      toString leaf.notBefore ++ ", " ++ toString leaf.notAfter ++ "]")

def sha256Hex (sha256 : Bytes → Bytes) (data : Bytes) : String := hex (sha256 data)

def verifyRekorBodyBinding (sha256 : Bytes → Bytes) (bodyB64 : String) (manifestBytes leafDer : Bytes) :
    Except Error Unit := do
  let bodyBytes ← orElse (Base64.decode (utf8 bodyB64)) "rekor body is not valid base64"
  let body ← (sig.parseJson bodyBytes).mapError (fun _ => "rekor body is not valid JSON")
  let entryHash ← orElse ((body.pointer ["spec","data","hash","value"]).bind Json.asStr)
    "rekor body missing spec.data.hash.value"
  let wantHash := sha256Hex sha256 manifestBytes
  bailIf (eqIgnoreAsciiCase entryHash wantHash = false)
    ("rekor entry data hash " ++ entryHash ++ " != manifest sha256 " ++ wantHash)
  let pkB64 ← orElse ((body.pointer ["spec","signature","publicKey","content"]).bind Json.asStr)
    "rekor body missing spec.signature.publicKey.content"
  let pkPem ← orElse (Base64.decode (utf8 pkB64)) "rekor body publicKey.content is not valid base64"
  let pkPem ← orElse (fromUtf8 pkPem) "rekor body publicKey is not UTF-8 PEM"
  let entryCertDer ← (pemToDer pkPem).mapError (fun _ => "rekor body publicKey PEM did not parse")
  bailIf (entryCertDer ≠ leafDer) "rekor entry certificate does not match the bundle's signing certificate"

/-- The JSON text that Rekor signs of an entry: keys sorted, no whitespace. -/
def canonical (payload : RekorPayload) : String :=
  "\x7b\"body\":\"" ++ payload.body ++ "\",\"integratedTime\":" ++ toString payload.integratedTime ++
    ",\"logID\":\"" ++ payload.logId ++ "\",\"logIndex\":" ++ toString payload.logIndex ++ "\x7d"

def verifyRekorSet (rekor : RekorBundle) (rekorKeys : List (String × Bytes)) : Except Error Unit := do
  let setSig ← orElse (Base64.decode (utf8 rekor.signedEntryTimestamp)) "SignedEntryTimestamp is not valid base64"
  bailIf (rekorKeys.any (fun entry =>
      verifies sig entry.2 .ecdsaP256Sha256Asn1 setSig (utf8 (canonical rekor.payload))) = false)
    "SignedEntryTimestamp did not verify against any trusted Rekor public key"

def verifyCertAndRekor (sha256 : Bytes → Bytes) (certPem : String) (manifestBytes : Bytes)
    (rekorBundle : Option RekorBundle) : Except Error Unit := do
  sig.trustRoot.mapError (fun _ => "failed to load Sigstore trust root (Fulcio + Rekor)")
  let fulcioCerts ← sig.fulcioCerts.mapError (fun e => "Fulcio cert bundle unavailable: " ++ e)
  let rekorKeys ← sig.rekorKeys.mapError (fun e => "Rekor public key unavailable: " ++ e)
  let rekor ← orElse rekorBundle "rekor bundle missing — every release must be logged in Rekor"
  let leafDer ← pemToDer certPem
  (verifyCertChain sig leafDer fulcioCerts).mapError (fun _ => "Fulcio certificate-chain verification failed")
  (verifyValidityWindow sig leafDer rekor.payload.integratedTime).mapError
    (fun _ => "certificate validity window does not contain the Rekor integrated time")
  (verifyRekorBodyBinding sig sha256 rekor.payload.body manifestBytes leafDer).mapError
    (fun _ => "Rekor entry body does not bind this manifest and certificate")
  (verifyRekorSet sig rekor rekorKeys).mapError (fun _ => "Rekor SignedEntryTimestamp verification failed")

def verifyBlobSignature (certPem signatureB64 : String) (blob : Bytes) : Except Error Unit := do
  let signature ← orElse (Base64.decode (utf8 signatureB64)) "base64Signature is not valid base64"
  let certDer ← (pemToDer certPem).mapError (fun _ => "cert is not valid PEM")
  let cert ← (sig.fromDer certDer).mapError (fun e => "X.509 DER parse error: " ++ e)
  let spki ← cert.spkiDer.mapError (fun e => "SPKI encode error: " ++ e)
  let key ← (sig.keyFromDer spki .ecdsaP256Sha256Asn1).mapError
    (fun _ => "could not load ECDSA-P256 verification key from cert SPKI")
  (sig.verifySignature key signature blob).mapError (fun _ => "signature does not verify under cert SPKI")

def nonEmpty (text : String) : Option String := if text = "" then none else some text

def derUtf8 (bytes : Bytes) : Option String := (sig.utf8StringFromDer bytes).bind nonEmpty

def rawUtf8 (bytes : Bytes) : Option String := (fromUtf8 bytes).bind nonEmpty

/-- `from_utf8_lossy` as far as the URI scan can tell: a byte that is not ASCII ends up
in some character that is not. -/
def lossyChar (b : UInt8) : Char := if b < 128 then Char.ofNat b.toNat else Char.ofNat 65533

def findFrom (part : List Char) : List Char → Option (List Char)
  | [] => if part = [] then some [] else none
  | c::rest => if part.isPrefixOf (c::rest) = true then some (c::rest) else findFrom part rest

def uriChar (c : Char) : Bool := 33 ≤ c.toNat && c.toNat ≤ 126 && c != '"' && c != ' '

def firstSanUri (bytes : Bytes) : Option String :=
  (findFrom "https://".toList (bytes.map lossyChar)).map (fun rest => String.ofList (rest.takeWhile uriChar))

def oidIssuer : String := "1.3.6.1.4.1.57264.1.8"
def oidIssuerV1 : String := "1.3.6.1.4.1.57264.1.1"
def oidRepoUri : String := "1.3.6.1.4.1.57264.1.12"
def oidRepoV1 : String := "1.3.6.1.4.1.57264.1.5"
def oidRef : String := "1.3.6.1.4.1.57264.1.14"
def oidRefV1 : String := "1.3.6.1.4.1.57264.1.6"

/-- The claims read so far: those of the current extensions, then the deprecated ones. -/
structure Claims where
  id : CertIdentity
  issuerV1 : Option String
  repoV1 : Option String
  refV1 : Option String

def readSan (oid : String) (bytes : Bytes) (claims : Claims) : Claims :=
  if oid = "2.5.29.17" then
    match firstSanUri bytes with
    | some uri => {claims with id := {claims.id with workflowUri := some uri}}
    | none => claims
  else claims

def readExtension (claims : Claims) (extension : String × Bytes) : Claims :=
  let (oid,bytes) := extension
  readSan oid bytes <|
    if oid = oidIssuer then {claims with id := {claims.id with issuer := derUtf8 sig bytes}}
    else if oid = oidIssuerV1 then {claims with issuerV1 := rawUtf8 bytes}
    else if oid = oidRepoUri then {claims with id := {claims.id with repo := derUtf8 sig bytes}}
    else if oid = oidRepoV1 then {claims with repoV1 := rawUtf8 bytes}
    else if oid = oidRef then {claims with id := {claims.id with refClaim := derUtf8 sig bytes}}
    else if oid = oidRefV1 then {claims with refV1 := rawUtf8 bytes}
    else claims

def identityOf (cert : Certificate) : CertIdentity :=
  let claims := (cert.extensions.getD []).foldl (readExtension sig) ⟨⟨none,none,none,none⟩,none,none,none⟩
  ⟨claims.id.issuer.or claims.issuerV1,
    claims.id.repo.or (claims.repoV1.map (fun r => "https://github.com/" ++ r)),
    claims.id.workflowUri,claims.id.refClaim.or claims.refV1⟩

def extractIdentityClaims (certPem : String) : Except Error CertIdentity := do
  let der ← pemToDer certPem
  let cert ← (sig.fromDer der).mapError (fun e => "X.509 DER parse error: " ++ e)
  return identityOf sig cert

/-- One row of the allowlist against the claims. -/
def rowMatches (claims : CertIdentity) (row : AllowedSigner) : Bool :=
  match claims.issuer,claims.repo,claims.workflowUri,claims.refClaim with
  | some issuer,some repo,some workflow,some ref =>
    issuer == row.issuer && repo == row.repo &&
      (match stripPrefix row.workflow.toList workflow.toList with
        | some rest => rest.head? == some '@'
        | none => false) &&
      refMatches row.refPattern ref
  | _,_,_,_ => false

def identityMatchesAllowlist (claims : CertIdentity) (allowed : List AllowedSigner) : Bool :=
  allowed.any (rowMatches claims)

def CertIdentity.debug (id : CertIdentity) : String :=
  "CertIdentity \x7b issuer: " ++ debugOption id.issuer ++ ", repo: " ++ debugOption id.repo ++
    ", workflow_uri: " ++ debugOption id.workflowUri ++ ", ref_claim: " ++ debugOption id.refClaim ++ " \x7d"

def verifyManifestBundle (sha256 : Bytes → Bytes) (manifestBytes bundleBytes : Bytes)
    (allowedSigners : List AllowedSigner) : Except Error Unit := do
  bailIf (allowedSigners = []) "identity allowlist is empty — refusing to verify any signature"
  let bundle ← (sig.parseBundle bundleBytes).mapError (fun _ => "failed to parse cosign Sigstore bundle JSON")
  let certPem ← orElse bundle.cert "bundle missing 'cert' (X.509 PEM)"
  let signatureB64 ← orElse bundle.base64Signature "bundle missing 'base64Signature'"
  (verifyCertAndRekor sig sha256 certPem manifestBytes bundle.rekorBundle).mapError
    (fun _ => "Sigstore Fulcio + Rekor verification failed")
  let identity ← (extractIdentityClaims sig certPem).mapError
    (fun _ => "could not extract identity claims from Fulcio cert")
  bailIf (identityMatchesAllowlist identity allowedSigners = false)
    ("Sigstore cert identity " ++ identity.debug ++ " is not in the upgrade ALLOWED_SIGNERS allowlist — " ++
      "refusing to install (the binary may have been signed by an unauthorised workflow)")
  (verifyBlobSignature sig certPem signatureB64 manifestBytes).mapError
    (fun _ => "manifest signature does not verify under the cert's pubkey")

end GatewaySdk.Upgrade
