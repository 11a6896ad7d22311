import GatewaySdk.Upgrade.Allowlist
import GatewaySdk.Upgrade.Entry
import GatewaySdk.Upgrade.Extensions
import GatewaySdk.Upgrade.Pem
import GatewaySdk.Upgrade.San

/-! The other side of verification: what a release workflow makes of a manifest together with
Fulcio, Rekor and cosign, and who accepts it. -/
namespace GatewaySdk.Upgrade
open GatewaySdk.Order (Distinct)
open GatewaySdk.Text

/-- A run of a workflow, as its identity token has it. -/
structure WorkflowRun where
  issuer : String
  repo : String
  workflow : String
  ref : String

namespace WorkflowRun

/-- The URI that a certificate names the run by. -/
def uri (run : WorkflowRun) : String := run.workflow ++ "@" ++ run.ref

def claims (run : WorkflowRun) : CertIdentity := ⟨some run.issuer,some run.repo,some run.uri,some run.ref⟩

/-- A row of an allowlist for this workflow. -/
def ListedBy (run : WorkflowRun) (row : AllowedSigner) : Prop :=
  row.workflow = run.workflow ∧ row.issuer = run.issuer ∧ row.repo = run.repo ∧ Covers row.refPattern run.ref

end WorkflowRun

def base64String (bytes : Bytes) : String := String.ofList (base64Text bytes)

theorem base64String_decodes (bytes : Bytes) : Base64.decode (utf8 (base64String bytes)) = some bytes := by
  rw [base64String,base64Text_utf8,Base64.decode_encode]

theorem utf8_length (text : String) : (utf8 text).length = text.utf8ByteSize := rfl

theorem base64String_size (bytes : Bytes) : (base64String bytes).utf8ByteSize = 4 * ((bytes.length + 2) / 3) := by
  rw [← utf8_length,base64String,base64Text_utf8,Base64.encode_length]

theorem base64Text_unescaped (bytes : Bytes) : Compact.Unescaped (base64Text bytes) := by
  intro c member
  obtain ⟨b,inside,rfl⟩ := List.mem_map.mp member
  have written := Base64.encode_written bytes b inside
  have value : (byteChar b).toNat = b.toNat := toNat_small (written_small written).1
  have low := (written_small written).2.2
  have letter : b.toNat ≠ 92 := by
    intro same
    rw [show b = 92 from UInt8.toNat_inj.mp same] at written
    exact absurd written (by unfold Base64.Written; decide)
  refine ⟨fun same => ?_,fun same => ?_,by omega⟩
  · have quote := congrArg Char.toNat same
    rw [value] at quote
    have thirtyFour : ('"' : Char).toNat = 34 := rfl
    omega
  · have slash := congrArg Char.toNat same
    rw [value] at slash
    exact letter slash

/-- The certificate of a run: its claims by the current extensions and its URI as the only name,
among whatever other extensions. -/
structure Issued (sig : Sigstore) (run : WorkflowRun) (exts : List (String × Bytes)) : Prop where
  distinct : Distinct exts
  issuer : (exts.lookup oidIssuer).bind (derUtf8 sig) = some run.issuer
  repo : (exts.lookup oidRepoUri).bind (derUtf8 sig) = some run.repo
  ref : (exts.lookup oidRef).bind (derUtf8 sig) = some run.ref
  named : ∃ san : San, exts.lookup "2.5.29.17" = some san.value ∧ san.names = [⟨.uri,utf8 run.uri⟩]
  visible : VisibleUri (utf8 run.uri)

theorem Issued.identity {sig : Sigstore} {run : WorkflowRun} {cert : Certificate}
    (issued : Issued sig run (cert.extensions.getD [])) : identityOf sig cert = run.claims := by
  obtain ⟨san,there,only⟩ := issued.named
  have held : utf8 "https://" <:+: (⟨.uri,utf8 run.uri⟩ : GeneralName).encoded :=
    issued.visible.1.isInfix.trans ⟨NameKind.uri.tag::Der.lengthOctets (utf8 run.uri).length,[],by
      rw [List.append_nil]
      rfl⟩
  obtain ⟨uri,found,_,_,whole⟩ := @San.first_name san [] [] _ only nofun held
  have same : uri = run.uri := utf8_injective (whole issued.visible)
  rw [identityOf_merged sig issued.distinct]
  simp only [merged,issued.issuer,issued.repo,issued.ref,there,Option.bind_some,found,Option.some_or,same]
  rfl

/-- What is left of a signing: the manifest, the certificate in both forms, the signature, and the
log's entry with its timestamp. -/
structure Signing where
  manifest : Bytes
  leafDer : Bytes
  leaf : Certificate
  certificate : String
  signature : Bytes
  entry : Bytes
  integratedTime : Int
  logId : String
  logIndex : Nat
  timestamp : Bytes

namespace Signing

/-- The log's record of it, a `hashedrekord`. -/
def hashedRecord (sha256 : Bytes → Bytes) (s : Signing) : Json :=
  .obj [("apiVersion",.str "0.0.1"),("kind",.str "hashedrekord"),("spec",.obj
    [("data",.obj [("hash",.obj [("algorithm",.str "sha256"),("value",.str (sha256Hex sha256 s.manifest))])]),
      ("signature",.obj [("content",.str (base64String s.signature)),
        ("publicKey",.obj [("content",.str (base64String (utf8 s.certificate)))])])])]

def payload (s : Signing) : RekorPayload := ⟨base64String s.entry,s.integratedTime,s.logId,s.logIndex⟩

/-- The bundle that cosign writes, with the certificate in one of its encodings. -/
def bundle (s : Signing) (cert : String) : CosignBundle :=
  ⟨some (base64String s.signature),some cert,some ⟨base64String s.timestamp,s.payload⟩⟩

/-- The certificate's text, or the base64 of it. -/
def Encodes (s : Signing) (cert : String) : Prop := cert = s.certificate ∨ cert = base64String (utf8 s.certificate)

end Signing

section Signed
variable {sig : Sigstore} (made : sig.Key → Bytes → Bytes → Prop)

/-- The holder of a key that loads from this public key made this signature of the message. -/
def MadeUnder (spki : Bytes) (scheme : SigningScheme) (signature message : Bytes) : Prop :=
  ∃ key, sig.keyFromDer spki scheme = .ok key ∧ made key signature message

/-- A trusted CA signed the certificate. -/
def Chained (leaf : Certificate) : Prop :=
  ∃ cas tbs signature scheme, sig.fulcioCerts = .ok cas ∧ leaf.tbsDer = .ok tbs ∧ leaf.signature = some signature ∧
    schemeForOid leaf.signatureAlgorithm = .ok scheme ∧
    ∃ ca ∈ cas, ∃ issuer spki, sig.fromDer ca = .ok issuer ∧ issuer.spkiDer = .ok spki ∧
      MadeUnder made spki scheme signature tbs

/-- A trusted log signed the entry, as compact JSON with its keys in order. -/
def Stamped (s : Signing) : Prop :=
  ∃ keys, sig.rekorKeys = .ok keys ∧ ∃ log ∈ keys,
    MadeUnder made log.2 .ecdsaP256Sha256Asn1 s.timestamp (utf8 (String.ofList (Compact.object s.payload.fields)))

/-- Everyone did their part. -/
structure Honest (sha256 : Bytes → Bytes) (run : WorkflowRun) (s : Signing) : Prop where
  roots : sig.trustRoot = .ok ()
  parsed : sig.fromDer s.leafDer = .ok s.leaf
  pem : PemText s.leafDer s.certificate
  issued : Issued sig run (s.leaf.extensions.getD [])
  chained : Chained made s.leaf
  valid : s.leaf.notBefore ≤ s.integratedTime ∧ s.integratedTime ≤ s.leaf.notAfter
  recorded : sig.parseJson s.entry = .ok (s.hashedRecord sha256)
  logId : Compact.Unescaped s.logId.toList
  stamped : Stamped made s
  signs : ∃ spki, s.leaf.spkiDer = .ok spki ∧ MadeUnder made spki .ecdsaP256Sha256Asn1 s.signature s.manifest

variable {made} {sha256 : Bytes → Bytes} {run : WorkflowRun} {s : Signing}
  (complete : ∀ key signature message, made key signature message → sig.verifySignature key signature message = .ok ())

include complete

theorem MadeUnder.accepted {spki signature message : Bytes} {scheme : SigningScheme}
    (under : MadeUnder made spki scheme signature message) : verifies sig spki scheme signature message = true := by
  obtain ⟨key,loads,by_⟩ := under
  unfold verifies
  rw [loads]
  exact isOk_unit.mpr (complete key signature message by_)

theorem Chained.accepted {leafDer : Bytes} {leaf : Certificate} (parsed : sig.fromDer leafDer = .ok leaf)
    (chained : Chained made leaf) :
    ∃ cas, sig.fulcioCerts = .ok cas ∧ verifyCertChain sig leafDer cas = .ok () := by
  obtain ⟨cas,tbs,signature,scheme,trusted,encoded,carried,known,ca,listed,issuer,spki,readable,key,under⟩ := chained
  have issued : issuedBy sig scheme signature tbs ca = true := by
    unfold issuedBy
    rw [readable]
    dsimp only
    rw [key]
    exact under.accepted complete
  have some_ : ¬ cas.any (issuedBy sig scheme signature tbs) = false := by
    rw [Bool.not_eq_false,List.any_eq_true]
    exact ⟨ca,listed,issued⟩
  refine ⟨cas,trusted,bind_ok.mpr ⟨leaf,mapError_ok.mpr parsed,bind_ok.mpr ⟨tbs,mapError_ok.mpr encoded,?_⟩⟩⟩
  exact bind_ok.mpr ⟨signature,orElse_ok.mpr carried,bind_ok.mpr ⟨scheme,known,bailIf_ok.mpr some_⟩⟩

theorem Stamped.accepted (stamped : Stamped made s) (logId : Compact.Unescaped s.logId.toList) :
    ∃ keys, sig.rekorKeys = .ok keys ∧ verifyRekorSet sig ⟨base64String s.timestamp,s.payload⟩ keys = .ok () := by
  obtain ⟨keys,trusted,log,listed,under⟩ := stamped
  have body : Compact.Unescaped s.payload.body.toList := by
    rw [Signing.payload,base64String,String.toList_ofList]
    exact base64Text_unescaped s.entry
  have text : canonical s.payload = String.ofList (Compact.object s.payload.fields) := by
    apply String.toList_injective
    rw [String.toList_ofList,canonical_object body logId]
  rw [← text] at under
  have some_ : ¬ keys.any (fun entry => verifies sig entry.2 .ecdsaP256Sha256Asn1 s.timestamp
      (utf8 (canonical s.payload))) = false := by
    rw [Bool.not_eq_false,List.any_eq_true]
    exact ⟨log,listed,under.accepted complete⟩
  exact ⟨keys,trusted,bind_ok.mpr ⟨s.timestamp,orElse_ok.mpr (base64String_decodes _),bailIf_ok.mpr some_⟩⟩

omit complete in
theorem Signing.Encodes.decodes {cert : String} (encodes : s.Encodes cert) (pem : PemText s.leafDer s.certificate) :
    pemToDer cert = .ok s.leafDer := by
  obtain rfl | rfl := encodes
  · exact pem.decodes
  · exact pem.wrapped_decodes

omit complete in
theorem Signing.hashedRecord_binds (recorded : sig.parseJson s.entry = .ok (s.hashedRecord sha256))
    (pem : PemText s.leafDer s.certificate) :
    verifyRekorBodyBinding sig sha256 s.payload.body s.manifest s.leafDer = .ok () := by
  have hash : ((s.hashedRecord sha256).pointer ["spec","data","hash","value"]).bind Json.asStr =
      some (sha256Hex sha256 s.manifest) := by
    simp [Signing.hashedRecord,Json.pointer,Json.field,Json.asStr]
  have key : ((s.hashedRecord sha256).pointer ["spec","signature","publicKey","content"]).bind Json.asStr =
      some (base64String (utf8 s.certificate)) := by
    simp [Signing.hashedRecord,Json.pointer,Json.field,Json.asStr]
  have digest : ¬ eqIgnoreAsciiCase (sha256Hex sha256 s.manifest) (sha256Hex sha256 s.manifest) = false := by
    simp [eqIgnoreAsciiCase]
  refine bind_ok.mpr ⟨s.entry,orElse_ok.mpr (base64String_decodes _),bind_ok.mpr ⟨_,mapError_ok.mpr recorded,?_⟩⟩
  refine bind_ok.mpr ⟨_,orElse_ok.mpr hash,bind_ok.mpr ⟨(),bailIf_ok.mpr digest,bind_ok.mpr ⟨_,orElse_ok.mpr key,?_⟩⟩⟩
  refine bind_ok.mpr ⟨_,orElse_ok.mpr (base64String_decodes _),bind_ok.mpr ⟨_,orElse_ok.mpr (fromUtf8_utf8 _),?_⟩⟩
  exact bind_ok.mpr ⟨s.leafDer,mapError_ok.mpr pem.decodes,bailIf_ok.mpr fun other => other rfl⟩

variable (honest : Honest made sha256 run s) {cert : String} (encodes : s.Encodes cert)
include honest encodes

theorem Honest.rooted : verifyCertAndRekor sig sha256 cert s.manifest (some ⟨base64String s.timestamp,s.payload⟩) = .ok () := by
  obtain ⟨cas,trusted,chain⟩ := honest.chained.accepted complete honest.parsed
  obtain ⟨keys,logs,stamp⟩ := honest.stamped.accepted complete honest.logId
  have within : verifyValidityWindow sig s.leafDer s.payload.integratedTime = .ok () := by
    refine bind_ok.mpr ⟨s.leaf,mapError_ok.mpr honest.parsed,bailIf_ok.mpr fun outside => ?_⟩
    have valid := honest.valid
    simp only [Signing.payload] at outside
    omega
  refine bind_ok.mpr ⟨(),mapError_ok.mpr honest.roots,bind_ok.mpr ⟨cas,mapError_ok.mpr trusted,?_⟩⟩
  refine bind_ok.mpr ⟨keys,mapError_ok.mpr logs,bind_ok.mpr ⟨_,orElse_ok.mpr rfl,?_⟩⟩
  refine bind_ok.mpr ⟨s.leafDer,encodes.decodes honest.pem,bind_ok.mpr ⟨(),mapError_ok.mpr chain,?_⟩⟩
  refine bind_ok.mpr ⟨(),mapError_ok.mpr within,bind_ok.mpr ⟨(),mapError_ok.mpr ?_,mapError_ok.mpr stamp⟩⟩
  exact Signing.hashedRecord_binds honest.recorded honest.pem

theorem Honest.blob : verifyBlobSignature sig cert (base64String s.signature) s.manifest = .ok () := by
  obtain ⟨spki,carried,key,loads,under⟩ := honest.signs
  refine bind_ok.mpr ⟨s.signature,orElse_ok.mpr (base64String_decodes _),?_⟩
  refine bind_ok.mpr ⟨s.leafDer,mapError_ok.mpr (encodes.decodes honest.pem),bind_ok.mpr ⟨s.leaf,mapError_ok.mpr honest.parsed,?_⟩⟩
  refine bind_ok.mpr ⟨spki,mapError_ok.mpr carried,bind_ok.mpr ⟨key,mapError_ok.mpr loads,mapError_ok.mpr ?_⟩⟩
  exact complete key s.signature s.manifest under

omit complete in
theorem Honest.identified : extractIdentityClaims sig cert = .ok run.claims := by
  rw [extractIdentityClaims_of sig (encodes.decodes honest.pem) honest.parsed,honest.issued.identity]

theorem Honest.verified {bundleBytes : Bytes} {allowed : List AllowedSigner}
    (bundled : sig.parseBundle bundleBytes = .ok (s.bundle cert)) (matched : identityMatchesAllowlist run.claims allowed = true) :
    verifyManifestBundle sig sha256 s.manifest bundleBytes allowed = .ok () := by
  have rows : ¬ allowed = [] := by
    rintro rfl
    cases matched
  have row : ¬ identityMatchesAllowlist run.claims allowed = false := by simp [matched]
  refine bind_ok.mpr ⟨(),bailIf_ok.mpr rows,bind_ok.mpr ⟨_,mapError_ok.mpr bundled,?_⟩⟩
  refine bind_ok.mpr ⟨cert,orElse_ok.mpr rfl,bind_ok.mpr ⟨_,orElse_ok.mpr rfl,?_⟩⟩
  refine bind_ok.mpr ⟨(),mapError_ok.mpr (honest.rooted complete encodes),?_⟩
  refine bind_ok.mpr ⟨_,mapError_ok.mpr (honest.identified encodes),bind_ok.mpr ⟨(),bailIf_ok.mpr row,?_⟩⟩
  exact mapError_ok.mpr (honest.blob complete encodes)

end Signed

theorem claims_admitted {run : WorkflowRun} {row : AllowedSigner} (listed : run.ListedBy row) : Admits row run.claims := by
  obtain ⟨workflow,issuer,repo,covers⟩ := listed
  exact ⟨congrArg some issuer.symm,congrArg some repo.symm,⟨run.ref,rfl,covers⟩,run.ref,by rw [workflow]; rfl⟩

theorem claims_listed {run : WorkflowRun} (plain : '@' ∉ run.workflow.toList) {row : AllowedSigner}
    (plainRow : '@' ∉ row.workflow.toList) : Admits row run.claims ↔ run.ListedBy row := by
  constructor
  · intro admits
    obtain ⟨rest,uri⟩ := admits.workflow
    obtain ⟨ref,same,covers⟩ := admits.ref
    exact ⟨(path_unique plain plainRow (Option.some.inj uri)).symm,(Option.some.inj admits.issuer).symm,
      (Option.some.inj admits.repo).symm,Option.some.inj same ▸ covers⟩
  · exact claims_admitted

/-- What was signed by everyone's rules is accepted exactly where the allowlist has a row for the
workflow that signed it: whichever way the bundle encodes the certificate and however its PEM text
is laid out, whatever other extensions the certificate has, and in whatever order. -/
theorem signed_verifies_iff (sig : Sigstore) (made : sig.Key → Bytes → Bytes → Prop) (sha256 : Bytes → Bytes)
    (run : WorkflowRun) (s : Signing) (cert : String) (bundleBytes : Bytes) (allowed : List AllowedSigner)
    (complete : ∀ key signature message, made key signature message → sig.verifySignature key signature message = .ok ())
    (honest : Honest made sha256 run s) (encodes : s.Encodes cert)
    (bundled : sig.parseBundle bundleBytes = .ok (s.bundle cert)) (plain : '@' ∉ run.workflow.toList)
    (plainRows : ∀ row ∈ allowed, '@' ∉ row.workflow.toList) :
    verifyManifestBundle sig sha256 s.manifest bundleBytes allowed = .ok () ↔ ∃ row ∈ allowed, run.ListedBy row := by
  have listed : identityMatchesAllowlist run.claims allowed = true ↔ ∃ row ∈ allowed, run.ListedBy row := by
    simp only [identityMatchesAllowlist,List.any_eq_true,rowMatches_iff]
    exact exists_congr fun row => and_congr_right fun member => claims_listed plain (plainRows row member)
  rw [← listed]
  refine ⟨fun accepted => ?_,honest.verified complete encodes bundled⟩
  obtain ⟨_,_,accepted⟩ := bind_ok.mp accepted
  obtain ⟨bundle,parsed,accepted⟩ := bind_ok.mp accepted
  obtain rfl : bundle = s.bundle cert := Except.ok.inj ((mapError_ok.mp parsed).symm.trans bundled)
  obtain ⟨certPem,carried,accepted⟩ := bind_ok.mp accepted
  obtain rfl : cert = certPem := Option.some.inj (orElse_ok.mp carried)
  obtain ⟨_,_,accepted⟩ := bind_ok.mp accepted
  obtain ⟨_,_,accepted⟩ := bind_ok.mp accepted
  obtain ⟨claims,extracted,accepted⟩ := bind_ok.mp accepted
  obtain rfl : claims = run.claims := Except.ok.inj ((mapError_ok.mp extracted).symm.trans (honest.identified encodes))
  obtain ⟨_,matched,_⟩ := bind_ok.mp accepted
  simpa using bailIf_ok.mp matched

namespace Sample

def taggedRun : WorkflowRun where
  issuer := "https://token.actions.githubusercontent.com"
  repo := "https://github.com/owner/gateway"
  workflow := "https://github.com/owner/gateway/release.yml"
  ref := "refs/tags/v0.45"

def derText (text : String) : Bytes := 12::UInt8.ofNat (utf8 text).length::utf8 text

def runSan : San := ⟨[⟨.uri,utf8 taggedRun.uri⟩],by decide +kernel⟩

def runExtensions : List (String × Bytes) :=
  [(oidIssuerV1,utf8 taggedRun.issuer),(oidIssuer,derText taggedRun.issuer),(oidRepoUri,derText taggedRun.repo),
    (oidRef,derText taggedRun.ref),("2.5.29.17",runSan.value)]

def onePem : String := String.ofList (beginMarker ++ base64Text [2] ++ endMarker)

def recordText : String :=
  "\x7b\"apiVersion\":\"0.0.1\",\"kind\":\"hashedrekord\",\"spec\":\x7b\"data\":\x7b\"hash\":\x7b\"algorithm\":" ++
    "\"sha256\",\"value\":\"" ++ sha256Hex sha256 (utf8 newRelease.manifestText) ++ "\"\x7d\x7d,\"signature\":\x7b\"content\":\"" ++
    base64String [1] ++ "\",\"publicKey\":\x7b\"content\":\"" ++ base64String (utf8 onePem) ++ "\"\x7d\x7d\x7d\x7d"

def signing : Signing where
  manifest := utf8 newRelease.manifestText
  leafDer := [2]
  leaf := {leaf with extensions := some runExtensions}
  certificate := onePem
  signature := [1]
  entry := utf8 recordText
  integratedTime := 5
  logId := "c0d2"
  logIndex := 7
  timestamp := [2]

/-- Cosign's file, the certificate in it as the base64 of its PEM text. -/
def signingText : String :=
  "\x7b\"base64Signature\":\"" ++ base64String [1] ++ "\",\"cert\":\"" ++ base64String (utf8 onePem) ++
    "\",\"rekorBundle\":\x7b\"SignedEntryTimestamp\":\"" ++ base64String [2] ++ "\",\"Payload\":" ++
    canonical signing.payload ++ "\x7d\x7d"

/-- What the CA (key 0), the run (key 1) and the log (key 2) have signed. -/
def runSignatures : List (UInt8 × Bytes) :=
  [(0,[9]),(1,signing.manifest),(2,utf8 (String.ofList (Compact.object signing.payload.fields)))]

def madeBy (key : UInt8) (signature message : Bytes) : Prop := signature = [key] ∧ (key,message) ∈ runSignatures

def onlyReads {α : Type} (text : Bytes) (value : α) (bytes : Bytes) : Except String α :=
  if bytes = text then .ok value else .error "syntax"

theorem onlyReads_self {α : Type} (text : Bytes) (value : α) : onlyReads text value text = .ok value := if_pos rfl

def runSigstore : Sigstore :=
  {sigstore with
    Key := UInt8
    keyFromDer := sigstore.keyFromDer
    parseBundle := onlyReads (utf8 signingText) (signing.bundle (base64String (utf8 onePem)))
    parseJson := onlyReads (utf8 recordText) (signing.hashedRecord sha256)
    fromDer := fun der => if der = [1] then .ok ca else if der = [2] then .ok signing.leaf else .error "tag"
    utf8StringFromDer := shortUtf8
    verifySignature := fun key signature message =>
      if (signature == [key] && runSignatures.contains (key,message)) = true then .ok () else .error "signature"}

theorem run_complete (key : UInt8) (signature message : Bytes) (made : madeBy key signature message) :
    runSigstore.verifySignature key signature message = .ok () := by
  obtain ⟨rfl,member⟩ := made
  exact if_pos (by simp [member])

theorem run_issued : Issued runSigstore taggedRun runExtensions where
  distinct := by decide +kernel
  issuer := by decide +kernel
  repo := by decide +kernel
  ref := by decide +kernel
  named := ⟨runSan,rfl,rfl⟩
  visible := ⟨⟨utf8 "github.com/owner/gateway/release.yml@refs/tags/v0.45",by decide +kernel⟩,by decide +kernel⟩

theorem run_recorded : runSigstore.parseJson signing.entry = .ok (signing.hashedRecord sha256) := by
  have reader : runSigstore.parseJson = onlyReads (utf8 recordText) (signing.hashedRecord sha256) := rfl
  have text : signing.entry = utf8 recordText := rfl
  rw [reader,text]
  exact onlyReads_self _ _

theorem run_bundled : runSigstore.parseBundle (utf8 signingText) = .ok (signing.bundle (base64String (utf8 onePem))) := by
  have reader : runSigstore.parseBundle = onlyReads (utf8 signingText) (signing.bundle (base64String (utf8 onePem))) := rfl
  rw [reader]
  exact onlyReads_self _ _

theorem run_honest : @Honest runSigstore madeBy sha256 taggedRun signing where
  roots := rfl
  parsed := rfl
  pem := pemText_line [2]
  issued := run_issued
  chained := ⟨[[1]],[9],[0],.ecdsaP256Sha256Asn1,rfl,rfl,rfl,rfl,[1],List.mem_singleton_self _,ca,[0],rfl,rfl,(0 : UInt8),rfl,rfl,
    List.mem_cons_self⟩
  valid := by decide
  recorded := run_recorded
  logId := by decide +kernel
  stamped := ⟨[("rekor",[2])],rfl,_,List.mem_singleton_self _,(2 : UInt8),rfl,rfl,
    List.mem_cons_of_mem _ (List.mem_cons_of_mem _ List.mem_cons_self)⟩
  signs := ⟨[1],rfl,(1 : UInt8),rfl,rfl,List.mem_cons_of_mem _ List.mem_cons_self⟩

theorem run_listed : ∃ row ∈ allowed, taggedRun.ListedBy row :=
  ⟨_,List.mem_singleton_self _,rfl,rfl,rfl,.inr ⟨"refs/tags/v","0.45",by decide +kernel,by decide +kernel⟩⟩

theorem allowed_plain : ∀ row ∈ allowed, '@' ∉ row.workflow.toList := by decide +kernel

end Sample

theorem sample_signed_verifies :
    verifyManifestBundle Sample.runSigstore Sample.sha256 Sample.signing.manifest (utf8 Sample.signingText) Sample.allowed = .ok () :=
  (signed_verifies_iff Sample.runSigstore Sample.madeBy Sample.sha256 Sample.taggedRun Sample.signing _ _ _
    Sample.run_complete Sample.run_honest (.inr rfl) Sample.run_bundled (by decide +kernel) Sample.allowed_plain).mpr
    Sample.run_listed

end GatewaySdk.Upgrade
