import GatewaySdk.Text.PrefixFree
import GatewaySdk.Upgrade.Verify
import Mathlib.Logic.Equiv.Basic
import Std.Data.String.ToInt

/-! What acceptance of a manifest says once signatures cannot be forged and the digest
has no collisions: the parts of a bundle all come from one certificate and one log entry. -/
namespace GatewaySdk.Upgrade
open GatewaySdk.Text

theorem orElse_ok {α : Type} {found : Option α} {message : Error} {value : α} :
    orElse found message = .ok value ↔ found = some value := by
  cases found <;> simp [orElse]

theorem mapError_ok {ε δ α : Type} {result : Except ε α} {f : ε → δ} {value : α} :
    result.mapError f = .ok value ↔ result = .ok value := by
  cases result <;> simp [Except.mapError]

theorem isOk_unit {ε : Type} {result : Except ε Unit} : result.isOk = true ↔ result = .ok () := by
  cases result <;> simp [Except.isOk,Except.toBool]

theorem hexChar_injective : ∀ n < 16, ∀ m < 16, hexChar n = hexChar m → n = m := by decide

theorem hexChar_lower : ∀ n < 16, (hexChar n).toLower = hexChar n := by decide

theorem hex_prefixFree :
    PrefixFree (fun b : UInt8 => [hexChar (b.toNat / 16),hexChar (b.toNat % 16)]) := by
  intro a b x y same
  simp only [List.cons_append,List.nil_append,List.cons.injEq] at same
  have boundA := a.toNat_lt
  have boundB := b.toNat_lt
  have high := hexChar_injective _ (by omega) _ (by omega) same.1
  have low := hexChar_injective _ (by omega) _ (by omega) same.2.1
  have value : a.toNat = b.toNat := by omega
  exact ⟨UInt8.toNat_inj.mp value,same.2.2⟩

theorem hex_injective : Function.Injective hex := by
  intro a b same
  exact hex_prefixFree.flatMap_injective (by simp) (String.ofList_injective same)

theorem hex_lower (bytes : Bytes) : (hex bytes).toList.map Char.toLower = (hex bytes).toList := by
  rw [hex,String.toList_ofList,List.map_flatMap]
  congr 1
  funext b
  have bound := b.toNat_lt
  simp only [List.map_cons,List.map_nil]
  rw [hexChar_lower _ (by omega),hexChar_lower _ (by omega)]

theorem not_mem_repr {c : Char} (outside : c.isDigit = false) (n : Nat) : c ∉ (toString n).toList := by
  intro inside
  have digit : c ∈ Nat.toDigits 10 n := by simpa using inside
  have yes := Nat.isDigit_of_mem_toDigits (by omega) (by omega) digit
  simp [outside] at yes

theorem not_mem_int {c : Char} (outside : c.isDigit = false) (sign : c ≠ '-') (n : Int) :
    c ∉ (toString n).toList := by
  cases n with
  | ofNat n => exact not_mem_repr outside n
  | negSucc n =>
    have shown : (toString (Int.negSucc n)).toList = '-'::(toString (n + 1)).toList := by
      change ("-" ++ Nat.repr (n + 1)).toList = _
      rw [String.toList_append]
      rfl
    rw [shown]
    exact List.not_mem_cons_of_ne_of_not_mem sign (not_mem_repr outside (n + 1))

/-- The parts of a signed entry after its body: the time up to its comma. -/
theorem integratedTime_free : PrefixFree (fun n : Int => (toString n).toList ++ [',']) :=
  PrefixFree.terminated (fun _ _ same => Int.repr_injective (String.toList_injective same)) ','
    (not_mem_int (by decide) (by decide))

/-- The index, read backwards up to the colon before it. -/
theorem logIndex_free : PrefixFree (fun n : Nat => (toString n).toList.reverse ++ [':']) := by
  apply PrefixFree.terminated
  · intro n m same
    exact Nat.repr_injective (String.toList_injective (List.reverse_injective same))
  · intro n inside
    exact not_mem_repr (by decide) n (List.mem_reverse.mp inside)

/-- A text without quotes, up to the quote after it. -/
theorem quoteless_free : PrefixFree (fun s : {s : String // '"' ∉ s.toList} => s.1.toList ++ ['"']) :=
  PrefixFree.terminated (fun _ _ same => Subtype.ext (String.toList_injective same)) '"' (fun s => s.2)

theorem logged_index {a b : String} {n m : Nat}
    (same : a.toList ++ "\",\"logIndex\":".toList ++ (toString n).toList =
      b.toList ++ "\",\"logIndex\":".toList ++ (toString m).toList) : a = b ∧ n = m := by
  have back := congrArg List.reverse same
  simp only [List.reverse_append,List.append_assoc] at back
  have colon : "\",\"logIndex\":".toList.reverse = ':'::"\",\"logIndex\"".toList.reverse := by decide
  rw [colon] at back
  obtain ⟨index,rest⟩ := logIndex_free n m ("\",\"logIndex\"".toList.reverse ++ a.toList.reverse)
    ("\",\"logIndex\"".toList.reverse ++ b.toList.reverse) (by simpa using back)
  have text := List.reverse_injective (List.append_cancel_left rest)
  exact ⟨String.toList_injective text,index⟩

theorem canonical_toList (p : RekorPayload) : (canonical p).toList =
    "\x7b\"body\":\"".toList ++ (p.body.toList ++ ("\",\"integratedTime\":".toList ++
      ((toString p.integratedTime).toList ++ (",\"logID\":\"".toList ++ (p.logId.toList ++
        ("\",\"logIndex\":".toList ++ ((toString p.logIndex).toList ++ "\x7d".toList))))))) := by
  simp only [← String.toList_append,← String.append_assoc]
  rfl

/-- Entries whose bodies hold no quote are told apart by the text that is signed. -/
theorem canonical_injective {p q : RekorPayload} (cleanP : '"' ∉ p.body.toList) (cleanQ : '"' ∉ q.body.toList)
    (same : canonical p = canonical q) : p = q := by
  have texts := congrArg String.toList same
  rw [canonical_toList,canonical_toList] at texts
  have quote : "\",\"integratedTime\":".toList = '"'::",\"integratedTime\":".toList := by decide
  have comma : ",\"logID\":\"".toList = ','::"\"logID\":\"".toList := by decide
  rw [quote,comma] at texts
  simp only [List.cons_append] at texts
  obtain ⟨body,texts⟩ := quoteless_free.cut (a := ⟨p.body,cleanP⟩) (b := ⟨q.body,cleanQ⟩)
    (List.append_cancel_left texts)
  obtain ⟨time,texts⟩ := integratedTime_free.cut (List.append_cancel_left texts)
  have rest := List.append_cancel_left texts
  simp only [← List.append_assoc] at rest
  obtain ⟨log,index⟩ := logged_index (List.append_cancel_right rest)
  cases p
  cases q
  simp_all

/-- The body of a log entry names this hash and this certificate. -/
def Names (sig : Sigstore) (sha256 : Bytes → Bytes) (body : String) (manifest leafDer : Bytes) : Prop :=
  ∃ bytes json hash content pem text, Base64.decode (utf8 body) = some bytes ∧
    sig.parseJson bytes = .ok json ∧
    (json.pointer ["spec","data","hash","value"]).bind Json.asStr = some hash ∧
    hash.toList.map Char.toLower = (sha256Hex sha256 manifest).toList ∧
    (json.pointer ["spec","signature","publicKey","content"]).bind Json.asStr = some content ∧
    Base64.decode (utf8 content) = some pem ∧ fromUtf8 pem = some text ∧ pemToDer text = .ok leafDer

section Forger

variable {sig : Sigstore} (signed : sig.Key → Bytes → Prop)

/-- The holder of a key that loads from this public key signed the bytes. -/
def SignedUnder (spki : Bytes) (scheme : SigningScheme) (message : Bytes) : Prop :=
  ∃ key, sig.keyFromDer spki scheme = .ok key ∧ signed key message

/-- A trusted CA signed the leaf. -/
def FulcioSigned (cas : List Bytes) (leaf : Certificate) : Prop :=
  ∃ tbs scheme, leaf.tbsDer = .ok tbs ∧ schemeForOid leaf.signatureAlgorithm = .ok scheme ∧
    ∃ ca ∈ cas, ∃ issuer spki, sig.fromDer ca = .ok issuer ∧ issuer.spkiDer = .ok spki ∧
      SignedUnder signed spki scheme tbs

def RekorSigned (keys : List (String × Bytes)) (payload : RekorPayload) : Prop :=
  ∃ entry ∈ keys, SignedUnder signed entry.2 .ecdsaP256Sha256Asn1 (utf8 (canonical payload))

/-- The claims are those of this row: the workflow ends where the `@` begins. -/
structure Identifies (row : AllowedSigner) (claims : CertIdentity) : Prop where
  issuer : claims.issuer = some row.issuer
  repo : claims.repo = some row.repo
  workflow : ∃ after, claims.workflowUri.map String.toList = some (row.workflow.toList ++ '@'::after)
  ref : ∃ ref, claims.refClaim = some ref ∧ refMatches row.refPattern ref = true

variable {signed} {sha256 : Bytes → Bytes}

theorem verifies_signed (ideal : ∀ key s m, sig.verifySignature key s m = .ok () → signed key m)
    {spki s m : Bytes} {scheme : SigningScheme} (accepted : verifies sig spki scheme s m = true) :
    SignedUnder signed spki scheme m := by
  unfold verifies at accepted
  split at accepted
  · cases accepted
  next key loaded => exact ⟨key,loaded,ideal key s m (isOk_unit.mp accepted)⟩

theorem verifyCertChain_signed (ideal : ∀ key s m, sig.verifySignature key s m = .ok () → signed key m)
    {leafDer : Bytes} {cas : List Bytes} {leaf : Certificate} (parsed : sig.fromDer leafDer = .ok leaf)
    (accepted : verifyCertChain sig leafDer cas = .ok ()) : FulcioSigned signed cas leaf := by
  obtain ⟨again,parsed',accepted⟩ := bind_ok.mp accepted
  obtain rfl : again = leaf := by
    have same := (mapError_ok.mp parsed').symm.trans parsed
    exact Except.ok.inj same
  obtain ⟨tbs,encoded,accepted⟩ := bind_ok.mp accepted
  obtain ⟨s,_,accepted⟩ := bind_ok.mp accepted
  obtain ⟨scheme,known,accepted⟩ := bind_ok.mp accepted
  have chained := bailIf_ok.mp accepted
  rw [Bool.not_eq_false,List.any_eq_true] at chained
  obtain ⟨ca,trusted,issued⟩ := chained
  unfold issuedBy at issued
  split at issued
  · cases issued
  next issuer readable =>
    split at issued
    · cases issued
    next spki carried =>
      exact ⟨tbs,scheme,mapError_ok.mp encoded,known,ca,trusted,issuer,spki,readable,carried,
        verifies_signed ideal issued⟩

theorem verifyValidityWindow_within {leafDer : Bytes} {leaf : Certificate} {time : Int}
    (parsed : sig.fromDer leafDer = .ok leaf) (accepted : verifyValidityWindow sig leafDer time = .ok ()) :
    leaf.notBefore ≤ time ∧ time ≤ leaf.notAfter := by
  obtain ⟨again,parsed',accepted⟩ := bind_ok.mp accepted
  obtain rfl : again = leaf := by
    have same := (mapError_ok.mp parsed').symm.trans parsed
    exact Except.ok.inj same
  have inside := bailIf_ok.mp accepted
  omega

theorem verifyRekorBodyBinding_names {body : String} {manifest leafDer : Bytes}
    (accepted : verifyRekorBodyBinding sig sha256 body manifest leafDer = .ok ()) :
    Names sig sha256 body manifest leafDer := by
  obtain ⟨bytes,decoded,accepted⟩ := bind_ok.mp accepted
  obtain ⟨json,parsed,accepted⟩ := bind_ok.mp accepted
  obtain ⟨hash,hashed,accepted⟩ := bind_ok.mp accepted
  obtain ⟨_,same,accepted⟩ := bind_ok.mp accepted
  obtain ⟨content,carried,accepted⟩ := bind_ok.mp accepted
  obtain ⟨pem,unpacked,accepted⟩ := bind_ok.mp accepted
  obtain ⟨text,readable,accepted⟩ := bind_ok.mp accepted
  obtain ⟨der,block,accepted⟩ := bind_ok.mp accepted
  have equal : der = leafDer := by simpa using bailIf_ok.mp accepted
  have digest : hash.toList.map Char.toLower = (sha256Hex sha256 manifest).toList := by
    have folded := bailIf_ok.mp same
    simp only [eqIgnoreAsciiCase,Bool.not_eq_false,beq_iff_eq,sha256Hex,hex_lower] at folded
    exact folded
  exact ⟨bytes,json,hash,content,pem,text,orElse_ok.mp decoded,mapError_ok.mp parsed,orElse_ok.mp hashed,digest,
    orElse_ok.mp carried,orElse_ok.mp unpacked,orElse_ok.mp readable,equal ▸ mapError_ok.mp block⟩

theorem Names.unique (collisionFree : Function.Injective sha256) {body : String} {m₁ m₂ d₁ d₂ : Bytes}
    (first : Names sig sha256 body m₁ d₁) (second : Names sig sha256 body m₂ d₂) :
    m₁ = m₂ ∧ d₁ = d₂ := by
  obtain ⟨bytes,json,hash,content,pem,text,decoded,parsed,hashed,digest,carried,unpacked,readable,block⟩ := first
  obtain ⟨bytes',json',hash',content',pem',text',decoded',parsed',hashed',digest',carried',unpacked',readable',
    block'⟩ := second
  obtain rfl : bytes = bytes' := Option.some.inj (decoded.symm.trans decoded')
  obtain rfl : json = json' := Except.ok.inj (parsed.symm.trans parsed')
  obtain rfl : hash = hash' := Option.some.inj (hashed.symm.trans hashed')
  obtain rfl : content = content' := Option.some.inj (carried.symm.trans carried')
  obtain rfl : pem = pem' := Option.some.inj (unpacked.symm.trans unpacked')
  obtain rfl : text = text' := Option.some.inj (readable.symm.trans readable')
  have hashes := String.toList_injective (digest.symm.trans digest')
  exact ⟨collisionFree (hex_injective hashes),Except.ok.inj (block.symm.trans block')⟩

theorem verifyRekorSet_signed (ideal : ∀ key s m, sig.verifySignature key s m = .ok () → signed key m)
    {rekor : RekorBundle} {keys : List (String × Bytes)} (accepted : verifyRekorSet sig rekor keys = .ok ()) :
    RekorSigned signed keys rekor.payload := by
  obtain ⟨s,_,accepted⟩ := bind_ok.mp accepted
  have some_ := bailIf_ok.mp accepted
  rw [Bool.not_eq_false,List.any_eq_true] at some_
  obtain ⟨entry,trusted,verified⟩ := some_
  exact ⟨entry,trusted,verifies_signed ideal verified⟩

theorem stripPrefix_some {part text rest : List Char} (cut : stripPrefix part text = some rest) :
    text = part ++ rest := by
  unfold stripPrefix at cut
  split at cut
  next front =>
    obtain ⟨more,rfl⟩ := List.isPrefixOf_iff_prefix.mp front
    simp only [List.drop_left,Option.some.injEq] at cut
    rw [cut]
  · cases cut

theorem stripPrefix_append (part rest : List Char) : stripPrefix part (part ++ rest) = some rest := by
  unfold stripPrefix
  rw [if_pos (List.isPrefixOf_iff_prefix.mpr (List.prefix_append part rest)),List.drop_left]

theorem rowMatches_identifies {claims : CertIdentity} {row : AllowedSigner}
    (matched : rowMatches claims row = true) : Identifies row claims := by
  unfold rowMatches at matched
  split at matched
  next issuer repo workflow ref issuerIs repoIs workflowIs refIs =>
    simp only [Bool.and_eq_true,beq_iff_eq] at matched
    obtain ⟨⟨⟨sameIssuer,sameRepo⟩,ends⟩,refOk⟩ := matched
    split at ends
    next rest cut =>
      have at_ : rest.head? = some '@' := beq_iff_eq.mp ends
      obtain ⟨after,rfl⟩ := List.head?_eq_some_iff.mp at_
      exact ⟨by rw [issuerIs,sameIssuer],by rw [repoIs,sameRepo],
        ⟨after,by rw [workflowIs,Option.map_some,stripPrefix_some cut]⟩,⟨ref,refIs,refOk⟩⟩
    · cases ends
  · cases matched

theorem verifyBlobSignature_signed (ideal : ∀ key s m, sig.verifySignature key s m = .ok () → signed key m)
    {certPem signatureB64 : String} {blob der : Bytes} {cert : Certificate} (block : pemToDer certPem = .ok der)
    (parsed : sig.fromDer der = .ok cert) (accepted : verifyBlobSignature sig certPem signatureB64 blob = .ok ()) :
    ∃ spki, cert.spkiDer = .ok spki ∧ SignedUnder signed spki .ecdsaP256Sha256Asn1 blob := by
  obtain ⟨s,_,accepted⟩ := bind_ok.mp accepted
  obtain ⟨der',block',accepted⟩ := bind_ok.mp accepted
  obtain rfl : der' = der := Except.ok.inj ((mapError_ok.mp block').symm.trans block)
  obtain ⟨cert',parsed',accepted⟩ := bind_ok.mp accepted
  obtain rfl : cert' = cert := Except.ok.inj ((mapError_ok.mp parsed').symm.trans parsed)
  obtain ⟨spki,carried,accepted⟩ := bind_ok.mp accepted
  obtain ⟨key,loaded,accepted⟩ := bind_ok.mp accepted
  exact ⟨spki,mapError_ok.mp carried,key,mapError_ok.mp loaded,ideal _ _ _ (mapError_ok.mp accepted)⟩

theorem utf8_injective : Function.Injective utf8 := by
  intro a b same
  have data := Array.toList_inj.mp same
  exact String.toByteArray_inj.mp (ByteArray.ext data)

theorem utf8_eq (text : String) : utf8 text = text.toList.flatMap String.utf8EncodeChar := by
  rw [utf8,← String.utf8Encode_toList,List.utf8Encode]
  simp

theorem toNat_small {n : Nat} (small : n < 128) : (Char.ofNat n).toNat = n := by
  have valid : n.isValidChar := Or.inl (by omega)
  rw [Char.ofNat,dif_pos valid]
  rfl

theorem utf8EncodeChar_small {n : Nat} (small : n < 128) :
    String.utf8EncodeChar (Char.ofNat n) = [UInt8.ofNat n] := by
  have value : (Char.ofNat n).val.toNat = n := toNat_small small
  have single : (Char.ofNat n).utf8Size = 1 := by
    rw [Char.utf8Size_eq_one_iff,UInt32.le_iff_toNat_le,value]
    change n ≤ 127
    omega
  rw [String.utf8EncodeChar_eq_singleton single]
  congr 1
  apply UInt8.toNat_inj.mp
  rw [UInt32.toNat_toUInt8,value,UInt8.toNat_ofNat']

theorem body_clean {body : String} {bytes : Bytes} (decoded : Base64.decode (utf8 body) = some bytes) :
    '"' ∉ body.toList := by
  intro inside
  apply Base64.decode_clean decoded
  rw [utf8_eq]
  exact List.mem_flatMap.mpr ⟨'"',inside,by decide⟩

/-- A quoted body that decodes is told apart by what Rekor signs. -/
theorem canonical_unique {p q : RekorPayload} {bytes more : Bytes} (bodyP : Base64.decode (utf8 p.body) = some bytes)
    (bodyQ : Base64.decode (utf8 q.body) = some more) (same : utf8 (canonical p) = utf8 (canonical q)) : p = q :=
  canonical_injective (body_clean bodyP) (body_clean bodyQ) (utf8_injective same)

end Forger

/-- A bundle for this manifest, all of whose parts are about one certificate and one log entry. -/
structure Genuine (sig : Sigstore) (signed : sig.Key → Bytes → Prop) (sha256 : Bytes → Bytes)
    (allowed : List AllowedSigner) (manifest bundleBytes der : Bytes) (cert : Certificate)
    (payload : RekorPayload) : Prop where
  carried : ∃ bundle certPem timestamp, sig.parseBundle bundleBytes = .ok bundle ∧ bundle.cert = some certPem ∧
    pemToDer certPem = .ok der ∧ bundle.rekorBundle = some ⟨timestamp,payload⟩
  parsed : sig.fromDer der = .ok cert
  chain : ∃ cas, sig.fulcioCerts = .ok cas ∧ FulcioSigned signed cas cert
  identity : ∃ row ∈ allowed, Identifies row (identityOf sig cert)
  blob : ∃ spki, cert.spkiDer = .ok spki ∧ SignedUnder signed spki .ecdsaP256Sha256Asn1 manifest
  logged : ∃ keys, sig.rekorKeys = .ok keys ∧ RekorSigned signed keys payload
  names : Names sig sha256 payload.body manifest der
  window : cert.notBefore ≤ payload.integratedTime ∧ payload.integratedTime ≤ cert.notAfter

/-- An accepted manifest is one that an allowed identity signed and Rekor logged, with one
certificate throughout; the entry names no other manifest and is no other signed entry. -/
theorem verifyManifestBundle_genuine {sig : Sigstore} {signed : sig.Key → Bytes → Prop} {sha256 : Bytes → Bytes}
    (ideal : ∀ key s m, sig.verifySignature key s m = .ok () → signed key m)
    (collisionFree : Function.Injective sha256) {manifest bundleBytes : Bytes} {allowed : List AllowedSigner}
    (accepted : verifyManifestBundle sig sha256 manifest bundleBytes allowed = .ok ()) :
    allowed ≠ [] ∧ ∃ der cert payload, Genuine sig signed sha256 allowed manifest bundleBytes der cert payload ∧
      (∀ manifest' der', Names sig sha256 payload.body manifest' der' → manifest' = manifest ∧ der' = der) ∧
      (∀ other bytes, Base64.decode (utf8 other.body) = some bytes →
        utf8 (canonical other) = utf8 (canonical payload) → other = payload) := by
  obtain ⟨_,filled,accepted⟩ := bind_ok.mp accepted
  obtain ⟨bundle,read,accepted⟩ := bind_ok.mp accepted
  obtain ⟨certPem,given,accepted⟩ := bind_ok.mp accepted
  obtain ⟨signatureB64,_,accepted⟩ := bind_ok.mp accepted
  obtain ⟨_,chained,accepted⟩ := bind_ok.mp accepted
  obtain ⟨identity,extracted,accepted⟩ := bind_ok.mp accepted
  obtain ⟨_,listed,verified⟩ := bind_ok.mp accepted
  have chained := mapError_ok.mp chained
  obtain ⟨_,_,chained⟩ := bind_ok.mp chained
  obtain ⟨cas,trusted,chained⟩ := bind_ok.mp chained
  obtain ⟨keys,rekorKeys,chained⟩ := bind_ok.mp chained
  obtain ⟨rekor,logged,chained⟩ := bind_ok.mp chained
  obtain ⟨der,block,chained⟩ := bind_ok.mp chained
  obtain ⟨_,chain,chained⟩ := bind_ok.mp chained
  obtain ⟨_,window,chained⟩ := bind_ok.mp chained
  obtain ⟨_,body,timestamp⟩ := bind_ok.mp chained
  obtain ⟨der',block',extracted⟩ := bind_ok.mp (mapError_ok.mp extracted)
  obtain rfl : der' = der := Except.ok.inj (block'.symm.trans block)
  obtain ⟨cert,parsed,extracted⟩ := bind_ok.mp extracted
  obtain rfl : identityOf sig cert = identity := Except.ok.inj extracted
  have parsed := mapError_ok.mp parsed
  have matched := bailIf_ok.mp listed
  rw [Bool.not_eq_false,identityMatchesAllowlist,List.any_eq_true] at matched
  obtain ⟨row,inside,matched⟩ := matched
  have names := verifyRekorBodyBinding_names (mapError_ok.mp body)
  refine ⟨bailIf_ok.mp filled,der',cert,rekor.payload,⟨?_,parsed,?_,?_,?_,?_,names,?_⟩,?_,?_⟩
  · exact ⟨bundle,certPem,rekor.signedEntryTimestamp,mapError_ok.mp read,orElse_ok.mp given,block,orElse_ok.mp logged⟩
  · exact ⟨cas,mapError_ok.mp trusted,verifyCertChain_signed ideal parsed (mapError_ok.mp chain)⟩
  · exact ⟨row,inside,rowMatches_identifies matched⟩
  · exact verifyBlobSignature_signed ideal block parsed (mapError_ok.mp verified)
  · exact ⟨keys,mapError_ok.mp rekorKeys,verifyRekorSet_signed ideal (mapError_ok.mp timestamp)⟩
  · exact verifyValidityWindow_within parsed (mapError_ok.mp window)
  · intro manifest' other named
    exact named.unique collisionFree names
  · intro other bytes decoded same
    obtain ⟨bytes',_,_,_,_,_,decoded',_⟩ := names
    exact canonical_unique decoded decoded' same

namespace Sample

/-- A release: its manifest's SHA-256 and the body of its log entry beside what names it. -/
structure Release where
  version : String
  sequence : UInt64
  digest : Bytes
  body : String

def tarball : Bytes :=
  [31,139,8,0,0,0,0,0,2,255,237,205,49,10,194,64,20,4,208,127,20,197,11,44,209,101,207,179,69,176,215,13,226,
    237,253,90,137,125,132,144,247,154,25,166,153,107,31,243,163,63,99,77,37,181,90,63,153,126,51,77,95,253,189,
    183,243,116,137,67,137,63,88,238,163,223,242,50,246,233,116,12,0,0,0,0,0,0,0,0,0,54,232,5,79,88,15,1,0,40,0,
    0]

def tarballDigest : Bytes :=
  [250,115,207,38,147,51,204,214,115,137,219,73,11,138,144,207,107,161,117,161,31,76,225,121,2,124,25,209,83,
    189,181,24]

def newRelease : Release where
  version := "0.45.4"
  sequence := 143
  digest :=
    [75,109,8,233,226,64,154,237,238,186,22,33,73,94,157,239,35,213,37,23,118,79,16,113,151,158,239,158,72,239,
      229,120]
  body :=
    "eyJzcGVjIjp7ImRhdGEiOnsiaGFzaCI6eyJ2YWx1ZSI6IjRiNmQwOGU5ZTI0MDlhZWRlZWJhMTYyMTQ5NWU5ZGVmMjNkNTI1MTc3" ++
    "NjRmMTA3MTk3OWVlZjllNDhlZmU1NzgifX0sInNpZ25hdHVyZSI6eyJwdWJsaWNLZXkiOnsiY29udGVudCI6IkxTMHRMUzFDUlVk" ++
    "SlRpQkRSVkpVU1VaSlEwRlVSUzB0TFMwdFFXYzlQUzB0TFMwdFJVNUVJRU5GVWxSSlJrbERRVlJGTFMwdExTMD0ifX19fQ=="

def oldRelease : Release where
  version := "0.45.2"
  sequence := 141
  digest :=
    [218,215,164,53,112,205,98,97,88,12,25,178,87,154,57,157,99,186,109,13,175,184,47,213,176,26,163,216,128,73,
      198,62]
  body :=
    "eyJzcGVjIjp7ImRhdGEiOnsiaGFzaCI6eyJ2YWx1ZSI6ImRhZDdhNDM1NzBjZDYyNjE1ODBjMTliMjU3OWEzOTlkNjNiYTZkMGRh" ++
    "ZmI4MmZkNWIwMWFhM2Q4ODA0OWM2M2UifX0sInNpZ25hdHVyZSI6eyJwdWJsaWNLZXkiOnsiY29udGVudCI6IkxTMHRMUzFDUlVk" ++
    "SlRpQkRSVkpVU1VaSlEwRlVSUzB0TFMwdFFXYzlQUzB0TFMwdFJVNUVJRU5GVWxSSlJrbERRVlJGTFMwdExTMD0ifX19fQ=="

def pem : String := "-----BEGIN CERTIFICATE-----Ag==-----END CERTIFICATE-----"

def content : String := "LS0tLS1CRUdJTiBDRVJUSUZJQ0FURS0tLS0tQWc9PS0tLS0tRU5EIENFUlRJRklDQVRFLS0tLS0="

namespace Release

def url (r : Release) : String :=
  "https://github.com/owner/gateway/releases/download/v" ++ r.version

def manifestText (r : Release) : String :=
  "\x7b\"version\":\"" ++ r.version ++ "\",\"device_type\":\"appear-x-gateway\",\"channel\":\"stable\"," ++
    "\"released_at\":\"2026-01-02T03:04:05Z\",\"sequence\":" ++ toString r.sequence.toNat ++
    ",\"artefacts\":[\x7b\"arch\":\"x86_64-linux\",\"variant\":\"default\",\"url\":\"" ++ r.url ++
    "/gateway.tar.gz\",\"sha256\":\"" ++ hex tarballDigest ++ "\"\x7d]\x7d"

def manifest (r : Release) : Manifest where
  version := r.version
  deviceType := "appear-x-gateway"
  channel := "stable"
  releasedAt := "2026-01-02T03:04:05Z"
  sequence := r.sequence
  artefacts := [⟨"x86_64-linux","default",r.url ++ "/gateway.tar.gz",hex tarballDigest⟩]

def bodyText (r : Release) : String :=
  "\x7b\"spec\":\x7b\"data\":\x7b\"hash\":\x7b\"value\":\"" ++ hex r.digest ++
    "\"\x7d\x7d,\"signature\":\x7b\"publicKey\":\x7b\"content\":\"" ++ content ++ "\"\x7d\x7d\x7d\x7d"

def bodyJson (r : Release) : Json :=
  .obj [("spec",.obj [("data",.obj [("hash",.obj [("value",.str (hex r.digest))])]),
    ("signature",.obj [("publicKey",.obj [("content",.str content)])])])]

def payload (r : Release) : RekorPayload := ⟨r.body,5,"c0d2",7⟩

def bundleText (r : Release) : String :=
  "\x7b\"base64Signature\":\"AQ==\",\"cert\":\"" ++ pem ++
    "\",\"rekorBundle\":\x7b\"SignedEntryTimestamp\":\"Ag==\",\"Payload\":" ++ canonical r.payload ++ "\x7d\x7d"

def bundle (r : Release) : CosignBundle := ⟨some "AQ==",some pem,some ⟨"Ag==",r.payload⟩⟩

end Release

def releases : List Release := [newRelease,oldRelease]

/-- The parser of these texts: it reads each as what it is the text of. -/
def parser {α : Type} (text : Release → String) (value : Release → α) (bytes : Bytes) : Except String α :=
  match releases.find? (fun r => utf8 (text r) == bytes) with
  | some r => .ok (value r)
  | none => .error "syntax"

def ca : Certificate := ⟨.ok [8],some [0],"1.2.840.10045.4.3.2",.ok [0],0,1000,none⟩

def leaf : Certificate where
  tbsDer := .ok [9]
  signature := some [0]
  signatureAlgorithm := "1.2.840.10045.4.3.2"
  spkiDer := .ok [1]
  notBefore := 0
  notAfter := 10
  extensions := some [(oidIssuerV1,utf8 "https://token.actions.githubusercontent.com"),
    (oidRepoV1,utf8 "owner/gateway"),(oidRefV1,utf8 "refs/tags/v0.45"),
    ("2.5.29.17",134::utf8 "https://github.com/owner/gateway/release.yml@refs/tags/v0.45")]

def allowed : List AllowedSigner :=
  [⟨"https://token.actions.githubusercontent.com","https://github.com/owner/gateway","refs/tags/v*",
    "https://github.com/owner/gateway/release.yml"⟩]

/-- What the CA (key 0), the leaf's holder (key 1) and Rekor (key 2) have signed. -/
def signatures : List (UInt8 × Bytes) :=
  (0,[9])::releases.flatMap (fun r => [(1,utf8 r.manifestText),(2,utf8 (canonical r.payload))])

def sigstore : Sigstore where
  Key := UInt8
  parseBundle := parser Release.bundleText Release.bundle
  parseJson := parser Release.bodyText Release.bodyJson
  fromDer der := if der = [1] then .ok ca else if der = [2] then .ok leaf else .error "tag"
  utf8StringFromDer _ := none
  keyFromDer spki _ := match spki with
    | [key] => .ok key
    | _ => .error "key"
  verifySignature key s m := if s = [key] ∧ (key,m) ∈ signatures then .ok () else .error "signature"
  trustRoot := .ok ()
  fulcioCerts := .ok [[1]]
  rekorKeys := .ok [("rekor",[2])]

/-- SHA-256 on the samples, and a bijection. -/
def sha256 : Bytes → Bytes :=
  (Equiv.swap tarball tarballDigest).trans ((Equiv.swap (utf8 newRelease.manifestText) newRelease.digest).trans
    (Equiv.swap (utf8 oldRelease.manifestText) oldRelease.digest))

theorem sha256_injective : Function.Injective sha256 := Equiv.injective _

theorem pem_der : pemToDer pem = .ok [2] := by decide +kernel

theorem content_pem : (Base64.decode (utf8 content)).bind fromUtf8 = some pem := by decide +kernel

theorem identity_listed : identityMatchesAllowlist (identityOf sigstore leaf) allowed = true := by decide +kernel

/-- The sample's crates with parsers and signatures of their own. -/
def reading (parseBundle : Bytes → Except String CosignBundle) (parseJson : Bytes → Except String Json)
    (verify : UInt8 → Bytes → Bytes → Except String Unit) : Sigstore :=
  {sigstore with Key := UInt8,parseBundle,parseJson,keyFromDer := sigstore.keyFromDer,verifySignature := verify}

section Reading
variable {parseBundle : Bytes → Except String CosignBundle} {parseJson : Bytes → Except String Json}
  {verify : UInt8 → Bytes → Bytes → Except String Unit} {hash : Bytes → Bytes} {r : Release}

theorem rekor_binds (json : parseJson (utf8 r.bodyText) = .ok r.bodyJson)
    (body : Base64.decode (utf8 r.body) = some (utf8 r.bodyText)) (hashed : hash (utf8 r.manifestText) = r.digest) :
    verifyRekorBodyBinding (reading parseBundle parseJson verify) hash r.body (utf8 r.manifestText) [2] = .ok () := by
  obtain ⟨bytes,decoded,text⟩ := Option.bind_eq_some_iff.mp content_pem
  have entry : (r.bodyJson.pointer ["spec","data","hash","value"]).bind Json.asStr = some (hex r.digest) := by
    simp [Release.bodyJson,Json.pointer,Json.field,Json.asStr]
  have key : (r.bodyJson.pointer ["spec","signature","publicKey","content"]).bind Json.asStr = some content := by
    simp [Release.bodyJson,Json.pointer,Json.field,Json.asStr]
  have same : ¬ eqIgnoreAsciiCase (hex r.digest) (sha256Hex hash (utf8 r.manifestText)) = false := by
    simp [eqIgnoreAsciiCase,sha256Hex,hashed]
  refine bind_ok.mpr ⟨_,orElse_ok.mpr body,bind_ok.mpr ⟨_,mapError_ok.mpr json,bind_ok.mpr ⟨_,orElse_ok.mpr entry,?_⟩⟩⟩
  refine bind_ok.mpr ⟨(),bailIf_ok.mpr same,bind_ok.mpr ⟨_,orElse_ok.mpr key,bind_ok.mpr ⟨_,orElse_ok.mpr decoded,?_⟩⟩⟩
  exact bind_ok.mpr ⟨_,orElse_ok.mpr text,bind_ok.mpr ⟨_,mapError_ok.mpr pem_der,bailIf_ok.mpr (fun other => other rfl)⟩⟩

theorem verified_of (bundle : parseBundle (utf8 r.bundleText) = .ok r.bundle)
    (json : parseJson (utf8 r.bodyText) = .ok r.bodyJson)
    (body : Base64.decode (utf8 r.body) = some (utf8 r.bodyText)) (hashed : hash (utf8 r.manifestText) = r.digest)
    (chain : verify 0 [0] [9] = .ok ()) (blob : verify 1 [1] (utf8 r.manifestText) = .ok ())
    (entry : verify 2 [2] (utf8 (canonical r.payload)) = .ok ()) :
    verifyManifestBundle (reading parseBundle parseJson verify) hash (utf8 r.manifestText) (utf8 r.bundleText) allowed =
      .ok () := by
  have first : Base64.decode (utf8 "AQ==") = some [1] := by decide +kernel
  have second : Base64.decode (utf8 "Ag==") = some [2] := by decide +kernel
  have parsed : parseLeaf (reading parseBundle parseJson verify) [2] = .ok leaf := rfl
  have chained : verifyCertChain (reading parseBundle parseJson verify) [2] [[1]] = .ok () := by
    have issued : ¬ [[1]].any (issuedBy (reading parseBundle parseJson verify) .ecdsaP256Sha256Asn1 [0] [9]) = false := by
      have one : issuedBy (reading parseBundle parseJson verify) .ecdsaP256Sha256Asn1 [0] [9] [1] = (verify 0 [0] [9]).isOk := rfl
      simp [one,chain,Except.isOk,Except.toBool]
    exact bind_ok.mpr ⟨_,parsed,bind_ok.mpr ⟨_,rfl,bind_ok.mpr ⟨_,rfl,bind_ok.mpr ⟨_,if_pos rfl,bailIf_ok.mpr issued⟩⟩⟩⟩
  have timely : verifyValidityWindow (reading parseBundle parseJson verify) [2] r.payload.integratedTime = .ok () :=
    bind_ok.mpr ⟨_,parsed,bailIf_ok.mpr (by simp [leaf,Release.payload])⟩
  have logged : verifyRekorSet (reading parseBundle parseJson verify) ⟨"Ag==",r.payload⟩ [("rekor",[2])] = .ok () := by
    refine bind_ok.mpr ⟨_,orElse_ok.mpr second,bailIf_ok.mpr ?_⟩
    have one : verifies (reading parseBundle parseJson verify) [2] .ecdsaP256Sha256Asn1 [2] (utf8 (canonical r.payload)) =
      (verify 2 [2] (utf8 (canonical r.payload))).isOk := rfl
    simp [one,entry,Except.isOk,Except.toBool]
  have signed : verifyBlobSignature (reading parseBundle parseJson verify) pem "AQ==" (utf8 r.manifestText) = .ok () :=
    bind_ok.mpr ⟨_,orElse_ok.mpr first,bind_ok.mpr ⟨_,mapError_ok.mpr pem_der,bind_ok.mpr ⟨leaf,rfl,
      bind_ok.mpr ⟨[1],rfl,bind_ok.mpr ⟨(1 : UInt8),rfl,mapError_ok.mpr blob⟩⟩⟩⟩⟩
  have named : extractIdentityClaims (reading parseBundle parseJson verify) pem = .ok (identityOf sigstore leaf) :=
    bind_ok.mpr ⟨_,pem_der,bind_ok.mpr ⟨leaf,rfl,rfl⟩⟩
  have bound := @rekor_binds parseBundle parseJson verify hash r json body hashed
  have rooted : verifyCertAndRekor (reading parseBundle parseJson verify) hash pem (utf8 r.manifestText)
      (some ⟨"Ag==",r.payload⟩) = .ok () := by
    refine bind_ok.mpr ⟨(),rfl,bind_ok.mpr ⟨[[1]],rfl,bind_ok.mpr ⟨[("rekor",[2])],rfl,bind_ok.mpr ⟨_,rfl,?_⟩⟩⟩⟩
    refine bind_ok.mpr ⟨_,pem_der,bind_ok.mpr ⟨_,mapError_ok.mpr chained,bind_ok.mpr ⟨_,mapError_ok.mpr timely,?_⟩⟩⟩
    exact bind_ok.mpr ⟨_,mapError_ok.mpr bound,mapError_ok.mpr logged⟩
  have listed : ¬ identityMatchesAllowlist (identityOf sigstore leaf) allowed = false := by simp [identity_listed]
  refine bind_ok.mpr ⟨(),bailIf_ok.mpr (List.cons_ne_nil _ _),bind_ok.mpr ⟨_,mapError_ok.mpr bundle,?_⟩⟩
  refine bind_ok.mpr ⟨pem,rfl,bind_ok.mpr ⟨"AQ==",rfl,bind_ok.mpr ⟨_,mapError_ok.mpr rooted,?_⟩⟩⟩
  exact bind_ok.mpr ⟨_,mapError_ok.mpr named,bind_ok.mpr ⟨(),bailIf_ok.mpr listed,mapError_ok.mpr signed⟩⟩

end Reading

theorem verified_new : verifyManifestBundle sigstore sha256 (utf8 newRelease.manifestText)
    (utf8 newRelease.bundleText) allowed = .ok () := by
  apply verified_of
  · simp [parser,releases]
  · simp [parser,releases]
  · decide +kernel
  · decide +kernel
  · exact if_pos (by simp [signatures])
  · exact if_pos (by simp [signatures,releases])
  · exact if_pos (by simp [signatures,releases])

end Sample

theorem sample_manifest_genuine : Sample.allowed ≠ [] ∧ ∃ der cert payload,
    Genuine Sample.sigstore (fun key m => (key,m) ∈ Sample.signatures) Sample.sha256 Sample.allowed
      (utf8 Sample.newRelease.manifestText) (utf8 Sample.newRelease.bundleText) der cert payload ∧
    (∀ manifest' der', Names Sample.sigstore Sample.sha256 payload.body manifest' der' →
      manifest' = utf8 Sample.newRelease.manifestText ∧ der' = der) ∧
    (∀ other bytes, Base64.decode (utf8 other.body) = some bytes →
      utf8 (canonical other) = utf8 (canonical payload) → other = payload) := by
  apply verifyManifestBundle_genuine
  · intro key s m verified
    by_contra unsigned
    have refused : Sample.sigstore.verifySignature key s m = .error "signature" := if_neg (fun both => unsigned both.2)
    rw [refused] at verified
    cases verified
  · exact Sample.sha256_injective
  · exact Sample.verified_new

end GatewaySdk.Upgrade
