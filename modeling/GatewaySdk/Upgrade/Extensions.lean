import GatewaySdk.Order.Keyed
import GatewaySdk.Upgrade.VerifySound

/-! Where the identity claims of a certificate come from: each of three is written twice, by a
current extension and by a deprecated one, in any order. -/
namespace GatewaySdk.Upgrade
open GatewaySdk.Order

variable (sig : Sigstore) {exts : List (String × Bytes)}

/-- What the documents say of a claim: the current extension's value where there is one, and
the deprecated one's, brought to the same form, where there is none. -/
def documented (exts : List (String × Bytes)) (current deprecated : String) (form : String → String) : Option String :=
  match exts.lookup current with
  | some bytes => derUtf8 sig bytes
  | none => ((exts.lookup deprecated).bind rawUtf8).map form

structure FromCurrent (exts : List (String × Bytes)) (id : CertIdentity) : Prop where
  issuer : id.issuer = documented sig exts oidIssuer oidIssuerV1 (fun v => v)
  repo : id.repo = documented sig exts oidRepoUri oidRepoV1 (fun v => "https://github.com/" ++ v)
  refClaim : id.refClaim = documented sig exts oidRef oidRefV1 (fun v => v)

/-- No deprecated value stands behind a current one that cannot be read. -/
def Unrescued (exts : List (String × Bytes)) (current deprecated : String) : Prop :=
  ∀ bytes old, (current,bytes) ∈ exts → derUtf8 sig bytes = none → (deprecated,old) ∈ exts → rawUtf8 old = none

theorem readSan_frame (get : Claims → Option String)
    (blind : ∀ c uri, get {c with id := {c.id with workflowUri := uri}} = get c) (oid : String) (bytes : Bytes) (c : Claims) :
    get (readSan oid bytes c) = get c := by
  unfold readSan
  split_ifs
  · cases firstSanUri bytes with
    | none => rfl
    | some uri => exact blind c (some uri)
  · rfl

section Frame
variable (oid : String) (bytes : Bytes) (c : Claims)

@[simp] theorem readSan_issuer : (readSan oid bytes c).id.issuer = c.id.issuer :=
  readSan_frame (fun c => c.id.issuer) (fun _ _ => rfl) oid bytes c

@[simp] theorem readSan_repo : (readSan oid bytes c).id.repo = c.id.repo :=
  readSan_frame (fun c => c.id.repo) (fun _ _ => rfl) oid bytes c

@[simp] theorem readSan_refClaim : (readSan oid bytes c).id.refClaim = c.id.refClaim :=
  readSan_frame (fun c => c.id.refClaim) (fun _ _ => rfl) oid bytes c

@[simp] theorem readSan_issuerV1 : (readSan oid bytes c).issuerV1 = c.issuerV1 :=
  readSan_frame (fun c => c.issuerV1) (fun _ _ => rfl) oid bytes c

@[simp] theorem readSan_repoV1 : (readSan oid bytes c).repoV1 = c.repoV1 :=
  readSan_frame (fun c => c.repoV1) (fun _ _ => rfl) oid bytes c

@[simp] theorem readSan_refV1 : (readSan oid bytes c).refV1 = c.refV1 :=
  readSan_frame (fun c => c.refV1) (fun _ _ => rfl) oid bytes c

end Frame

theorem claims_slot (get : Claims → Option String) {oid : String} {read : Bytes → Option String}
    (writes : ∀ c b, get (readExtension sig c (oid,b)) = read b)
    (frame : ∀ c e, e.1 ≠ oid → get (readExtension sig c e) = get c) (distinct : Distinct exts)
    {start : Claims} (empty : get start = none) :
    get (exts.foldl (readExtension sig) start) = (exts.lookup oid).bind read := by
  rw [distinct.foldl_slot (readExtension sig) get (fun b _ => read b) writes frame,empty]
  cases exts.lookup oid <;> rfl

/-- The claims once every extension is read. -/
def claimsOf (exts : List (String × Bytes)) : Claims :=
  exts.foldl (readExtension sig) ⟨⟨none,none,none,none⟩,none,none,none⟩

theorem claimsOf_issuer (distinct : Distinct exts) :
    (claimsOf sig exts).id.issuer = (exts.lookup oidIssuer).bind (derUtf8 sig) := by
  apply claims_slot sig (fun c => c.id.issuer) _ _ distinct rfl
  · intro c b
    simp [readExtension]
  · rintro c ⟨oid,b⟩ other
    simp only [readExtension,readSan_issuer]
    split_ifs <;> first | rfl | contradiction

theorem claimsOf_issuerV1 (distinct : Distinct exts) :
    (claimsOf sig exts).issuerV1 = (exts.lookup oidIssuerV1).bind rawUtf8 := by
  apply claims_slot sig (fun c => c.issuerV1) _ _ distinct rfl
  · intro c b
    simp [readExtension,oidIssuer,oidIssuerV1]
  · rintro c ⟨oid,b⟩ other
    simp only [readExtension,readSan_issuerV1]
    split_ifs <;> rfl

theorem claimsOf_repo (distinct : Distinct exts) :
    (claimsOf sig exts).id.repo = (exts.lookup oidRepoUri).bind (derUtf8 sig) := by
  apply claims_slot sig (fun c => c.id.repo) _ _ distinct rfl
  · intro c b
    simp [readExtension,oidIssuer,oidIssuerV1,oidRepoUri]
  · rintro c ⟨oid,b⟩ other
    simp only [readExtension,readSan_repo]
    split_ifs <;> rfl

theorem claimsOf_repoV1 (distinct : Distinct exts) :
    (claimsOf sig exts).repoV1 = (exts.lookup oidRepoV1).bind rawUtf8 := by
  apply claims_slot sig (fun c => c.repoV1) _ _ distinct rfl
  · intro c b
    simp [readExtension,oidIssuer,oidIssuerV1,oidRepoUri,oidRepoV1]
  · rintro c ⟨oid,b⟩ other
    simp only [readExtension,readSan_repoV1]
    split_ifs <;> rfl

theorem claimsOf_refClaim (distinct : Distinct exts) :
    (claimsOf sig exts).id.refClaim = (exts.lookup oidRef).bind (derUtf8 sig) := by
  apply claims_slot sig (fun c => c.id.refClaim) _ _ distinct rfl
  · intro c b
    simp [readExtension,oidIssuer,oidIssuerV1,oidRepoUri,oidRepoV1,oidRef]
  · rintro c ⟨oid,b⟩ other
    simp only [readExtension,readSan_refClaim]
    split_ifs <;> rfl

theorem claimsOf_refV1 (distinct : Distinct exts) :
    (claimsOf sig exts).refV1 = (exts.lookup oidRefV1).bind rawUtf8 := by
  apply claims_slot sig (fun c => c.refV1) _ _ distinct rfl
  · intro c b
    simp [readExtension,oidIssuer,oidIssuerV1,oidRepoUri,oidRepoV1,oidRef,oidRefV1]
  · rintro c ⟨oid,b⟩ other
    simp only [readExtension,readSan_refV1]
    split_ifs <;> rfl

/-- The workflow is what the one SAN extension says. -/
theorem claimsOf_workflowUri (distinct : Distinct exts) :
    (claimsOf sig exts).id.workflowUri = (exts.lookup "2.5.29.17").bind firstSanUri := by
  have slot : (claimsOf sig exts).id.workflowUri =
      (exts.lookup "2.5.29.17").elim none (fun b => (firstSanUri b).or none) := by
    refine distinct.foldl_slot (readExtension sig) (fun c => c.id.workflowUri)
      (fun b before => (firstSanUri b).or before) ?_ ?_ _
    · intro c b
      simp only [readExtension,readSan]
      cases firstSanUri b <;> simp [oidIssuer,oidIssuerV1,oidRepoUri,oidRepoV1,oidRef,oidRefV1]
    · rintro c ⟨oid,b⟩ other
      simp only [readExtension,readSan,if_neg other]
      split_ifs <;> rfl
  rw [slot]
  cases exts.lookup "2.5.29.17" with
  | none => rfl
  | some b => exact Option.or_none

/-- A claim as it is read: the deprecated value also where the current one yields nothing. -/
def merged (exts : List (String × Bytes)) (current deprecated : String) (form : String → String) : Option String :=
  ((exts.lookup current).bind (derUtf8 sig)).or (((exts.lookup deprecated).bind rawUtf8).map form)

theorem identityOf_merged {cert : Certificate} (distinct : Distinct (cert.extensions.getD [])) :
    identityOf sig cert = ⟨merged sig (cert.extensions.getD []) oidIssuer oidIssuerV1 (fun v => v),
      merged sig (cert.extensions.getD []) oidRepoUri oidRepoV1 (fun v => "https://github.com/" ++ v),
      ((cert.extensions.getD []).lookup "2.5.29.17").bind firstSanUri,
      merged sig (cert.extensions.getD []) oidRef oidRefV1 (fun v => v)⟩ := by
  change CertIdentity.mk ((claimsOf sig _).id.issuer.or (claimsOf sig _).issuerV1)
    ((claimsOf sig _).id.repo.or ((claimsOf sig _).repoV1.map _)) (claimsOf sig _).id.workflowUri
    ((claimsOf sig _).id.refClaim.or (claimsOf sig _).refV1) = _
  rw [claimsOf_issuer sig distinct,claimsOf_issuerV1 sig distinct,claimsOf_repo sig distinct,
    claimsOf_repoV1 sig distinct,claimsOf_workflowUri sig distinct,claimsOf_refClaim sig distinct,
    claimsOf_refV1 sig distinct]
  simp only [merged,Option.map_id_fun',id]

theorem merged_perm {other : List (String × Bytes)} (distinct : Distinct exts) (p : exts.Perm other)
    (current deprecated : String) (form : String → String) :
    merged sig other current deprecated form = merged sig exts current deprecated form := by
  unfold merged
  rw [distinct.lookup_perm p,distinct.lookup_perm p]

theorem identityOf_perm {cert other : Certificate} (distinct : Distinct (cert.extensions.getD []))
    (p : (cert.extensions.getD []).Perm (other.extensions.getD [])) : identityOf sig other = identityOf sig cert := by
  rw [identityOf_merged sig distinct,identityOf_merged sig (distinct.perm p)]
  simp only [merged_perm sig distinct p]
  rw [distinct.lookup_perm p]

/-- A claim is read as documented exactly where no deprecated value rescues a current one. -/
theorem merged_documented (distinct : Distinct exts) (current deprecated : String) (form : String → String) :
    merged sig exts current deprecated form = documented sig exts current deprecated form ↔
      Unrescued sig exts current deprecated := by
  unfold merged documented Unrescued
  cases present : exts.lookup current with
  | none =>
    refine iff_of_true (by simp) fun bytes old member => ?_
    have found := distinct.lookup_iff.mpr member
    rw [present] at found
    cases found
  | some bytes =>
    have one (b : Bytes) : (current,b) ∈ exts ↔ b = bytes := by
      rw [← distinct.lookup_iff,present,Option.some.injEq,eq_comm]
    simp only [one,Option.bind_some]
    cases read : derUtf8 sig bytes with
    | some value =>
      refine iff_of_true rfl fun b old same nothing _ => ?_
      rw [same,read] at nothing
      cases nothing
    | none =>
      simp only [Option.none_or,Option.map_eq_none_iff,Option.bind_eq_none_iff,distinct.lookup_iff]
      constructor
      · intro nothing b old _ _ member
        exact nothing old member
      · intro nothing old member
        exact nothing bytes old rfl read member

theorem identityOf_fromCurrent {cert : Certificate} (distinct : Distinct (cert.extensions.getD [])) :
    FromCurrent sig (cert.extensions.getD []) (identityOf sig cert) ↔
      Unrescued sig (cert.extensions.getD []) oidIssuer oidIssuerV1 ∧
      Unrescued sig (cert.extensions.getD []) oidRepoUri oidRepoV1 ∧
      Unrescued sig (cert.extensions.getD []) oidRef oidRefV1 := by
  rw [identityOf_merged sig distinct]
  rw [← merged_documented sig distinct oidIssuer _ (fun v => v),
    ← merged_documented sig distinct oidRepoUri _ (fun v => "https://github.com/" ++ v),
    ← merged_documented sig distinct oidRef _ (fun v => v)]
  exact ⟨fun h => ⟨h.issuer,h.repo,h.refClaim⟩,fun ⟨issuer,repo,ref⟩ => ⟨issuer,repo,ref⟩⟩

theorem extractIdentityClaims_of {pem : String} {der : Bytes} {cert : Certificate} (block : pemToDer pem = .ok der)
    (parsed : sig.fromDer der = .ok cert) : extractIdentityClaims sig pem = .ok (identityOf sig cert) :=
  bind_ok.mpr ⟨der,block,bind_ok.mpr ⟨cert,mapError_ok.mpr parsed,rfl⟩⟩

/-- The claims of a certificate are those of its current extensions, in every order, if and
only if no deprecated extension has a value where the current one is there and has none. -/
theorem extractIdentityClaims_current {pem : String} {der : Bytes} {cert : Certificate}
    (block : pemToDer pem = .ok der) (parsed : sig.fromDer der = .ok cert)
    (distinct : Distinct (cert.extensions.getD [])) :
    (∃ id, extractIdentityClaims sig pem = .ok id ∧ FromCurrent sig (cert.extensions.getD []) id ∧
      ∀ pem' der' cert', pemToDer pem' = .ok der' → sig.fromDer der' = .ok cert' →
        (cert.extensions.getD []).Perm (cert'.extensions.getD []) → extractIdentityClaims sig pem' = .ok id) ↔
    Unrescued sig (cert.extensions.getD []) oidIssuer oidIssuerV1 ∧
      Unrescued sig (cert.extensions.getD []) oidRepoUri oidRepoV1 ∧
      Unrescued sig (cert.extensions.getD []) oidRef oidRefV1 := by
  rw [← identityOf_fromCurrent sig distinct]
  constructor
  · rintro ⟨id,extracted,current,_⟩
    obtain rfl : identityOf sig cert = id := by
      rw [extractIdentityClaims_of sig block parsed] at extracted
      exact Except.ok.inj extracted
    exact current
  · intro current
    refine ⟨identityOf sig cert,extractIdentityClaims_of sig block parsed,current,?_⟩
    intro pem' der' cert' block' parsed' p
    rw [extractIdentityClaims_of sig block' parsed',identityOf_perm sig distinct p]

namespace Sample

def shortUtf8 : Bytes → Option String
  | 12::length::content => if length.toNat = content.length ∧ content.length < 128 then fromUtf8 content else none
  | _ => none

/-- The sample's crates, with a leaf that carries these extensions. -/
def carrying (exts : List (String × Bytes)) : Sigstore :=
  {sigstore with
    utf8StringFromDer := shortUtf8
    fromDer := fun der => if der = [2] then .ok {leaf with extensions := some exts} else .error "tag"}

def rescued : List (String × Bytes) :=
  [(oidIssuer,[12,0]),(oidIssuerV1,utf8 "https://token.actions.githubusercontent.com")]

def plain : List (String × Bytes) :=
  [(oidIssuer,[12,2,104,105]),(oidIssuerV1,utf8 "https://token.actions.githubusercontent.com")]

theorem plain_distinct : Distinct plain := by decide

theorem rescued_distinct : Distinct rescued := by decide

end Sample

theorem sample_extractIdentityClaims_current :
    (∃ id, extractIdentityClaims (Sample.carrying Sample.plain) Sample.pem = .ok id ∧
      FromCurrent (Sample.carrying Sample.plain) Sample.plain id ∧
      ∀ pem' der' cert', pemToDer pem' = .ok der' → (Sample.carrying Sample.plain).fromDer der' = .ok cert' →
        Sample.plain.Perm (cert'.extensions.getD []) →
        extractIdentityClaims (Sample.carrying Sample.plain) pem' = .ok id) ↔
    Unrescued (Sample.carrying Sample.plain) Sample.plain oidIssuer oidIssuerV1 ∧
      Unrescued (Sample.carrying Sample.plain) Sample.plain oidRepoUri oidRepoV1 ∧
      Unrescued (Sample.carrying Sample.plain) Sample.plain oidRef oidRefV1 :=
  @extractIdentityClaims_current (Sample.carrying Sample.plain) _ _
    {Sample.leaf with extensions := some Sample.plain} Sample.pem_der rfl Sample.plain_distinct

/-- An issuer that is there and empty leaves the claim to the deprecated one. -/
theorem rescued_issuer : Distinct Sample.rescued ∧ Sample.rescued.lookup oidIssuer = some [12,0] ∧
    extractIdentityClaims (Sample.carrying Sample.rescued) Sample.pem =
      .ok ⟨some "https://token.actions.githubusercontent.com",none,none,none⟩ ∧
    ¬ FromCurrent (Sample.carrying Sample.rescued) Sample.rescued
      ⟨some "https://token.actions.githubusercontent.com",none,none,none⟩ := by
  refine ⟨Sample.rescued_distinct,rfl,?_,?_⟩
  · rw [extractIdentityClaims_of (Sample.carrying Sample.rescued) Sample.pem_der rfl]
    decide +kernel
  · intro current
    have issuer := current.issuer
    revert issuer
    decide +kernel

end GatewaySdk.Upgrade
