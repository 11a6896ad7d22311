import GatewaySdk.Upgrade.VerifySound

/-! Which claims the allowlist admits: those of one single row, whose workflow is the whole
text before an `@`. -/
namespace GatewaySdk.Upgrade
open GatewaySdk.Text

/-- A ref that a pattern covers: the pattern itself, or any continuation of what stands
before its last `*`. -/
def Covers (pattern ref : String) : Prop := ref = pattern ∨ ∃ stem rest, pattern = stem ++ "*" ∧ ref = stem ++ rest

/-- All four claims are there and are those of this row. -/
structure Admits (row : AllowedSigner) (claims : CertIdentity) : Prop where
  issuer : claims.issuer = some row.issuer
  repo : claims.repo = some row.repo
  ref : ∃ ref, claims.refClaim = some ref ∧ Covers row.refPattern ref
  workflow : ∃ rest, claims.workflowUri = some (row.workflow ++ "@" ++ rest)

theorem text_split {text : String} {a b : List Char} (same : text.toList = a ++ b) :
    text = String.ofList a ++ String.ofList b := by
  apply String.toList_injective
  rw [same,String.toList_append,String.toList_ofList,String.toList_ofList]

theorem refMatches_iff {pattern ref : String} : refMatches pattern ref = true ↔ Covers pattern ref := by
  unfold refMatches Covers
  split_ifs with wild
  · obtain ⟨stem,shape⟩ := List.getLast?_eq_some_iff.mp wild
    rw [shape,List.dropLast_concat,List.isPrefixOf_iff_prefix]
    have pattern_is := text_split shape
    constructor
    · rintro ⟨rest,continued⟩
      exact .inr ⟨String.ofList stem,String.ofList rest,pattern_is,text_split continued.symm⟩
    · rintro (rfl | ⟨stem',rest,rfl,rfl⟩)
      · exact ⟨['*'],shape.symm⟩
      · rw [String.toList_append] at shape
        have front := (List.append_inj' shape rfl).1
        exact ⟨rest.toList,by rw [String.toList_append,front]⟩
  · rw [beq_iff_eq]
    refine ⟨fun same => .inl same.symm,fun either => ?_⟩
    rcases either with same | ⟨stem,rest,rfl,_⟩
    · exact same.symm
    · rw [String.toList_append] at wild
      exact absurd List.getLast?_concat wild

theorem rowMatches_iff {claims : CertIdentity} {row : AllowedSigner} :
    rowMatches claims row = true ↔ Admits row claims := by
  constructor
  · intro matched
    obtain ⟨issuer,repo,⟨after,workflow⟩,ref,present,covered⟩ := rowMatches_identifies matched
    refine ⟨issuer,repo,⟨ref,present,refMatches_iff.mp covered⟩,String.ofList after,?_⟩
    obtain ⟨text,found,same⟩ := Option.map_eq_some_iff.mp workflow
    rw [found,Option.some.injEq]
    apply String.toList_injective
    rw [same,String.toList_append,String.toList_append,List.append_assoc,@String.toList_ofList after]
    rfl
  · rintro ⟨issuer,repo,⟨ref,present,covered⟩,rest,workflow⟩
    have cut : stripPrefix row.workflow.toList (row.workflow ++ "@" ++ rest).toList = some ('@'::rest.toList) := by
      rw [String.toList_append,String.toList_append,List.append_assoc]
      exact stripPrefix_append _ _
    unfold rowMatches
    rw [issuer,repo,workflow,present]
    simp only [beq_self_eq_true,Bool.true_and,cut,List.head?_cons,refMatches_iff.mpr covered]

/-- Two texts with an `@` behind them agree up to their first `@`. -/
theorem path_unique {p q r s : String} (plainP : '@' ∉ p.toList) (plainQ : '@' ∉ q.toList)
    (same : p ++ "@" ++ r = q ++ "@" ++ s) : p = q := by
  have texts := congrArg String.toList same
  simp only [String.toList_append,List.append_assoc] at texts
  have free : PrefixFree (fun t : {t : String // '@' ∉ t.toList} => t.1.toList ++ ['@']) :=
    PrefixFree.terminated (fun _ _ same => Subtype.ext (String.toList_injective same)) '@' (fun t => t.2)
  exact congrArg Subtype.val (free.cut (a := ⟨p,plainP⟩) (b := ⟨q,plainQ⟩) texts).1

/-- The allowlist admits claims exactly where one row does; and a workflow at a ref only where
that very workflow is the row's. -/
theorem identityMatchesAllowlist_exact {allowed : List AllowedSigner}
    (plain : ∀ row ∈ allowed, '@' ∉ row.workflow.toList) (claims : CertIdentity) :
    (identityMatchesAllowlist claims allowed = true ↔ ∃ row ∈ allowed, Admits row claims) ∧
    ∀ p r, '@' ∉ p.toList → claims.workflowUri = some (p ++ "@" ++ r) →
      (identityMatchesAllowlist claims allowed = true ↔ ∃ row ∈ allowed, row.workflow = p ∧
        claims.issuer = some row.issuer ∧ claims.repo = some row.repo ∧
        ∃ ref, claims.refClaim = some ref ∧ Covers row.refPattern ref) := by
  have rows : identityMatchesAllowlist claims allowed = true ↔ ∃ row ∈ allowed, Admits row claims := by
    simp only [identityMatchesAllowlist,List.any_eq_true,rowMatches_iff]
  refine ⟨rows,fun p r clean uri => ?_⟩
  rw [rows]
  constructor
  · rintro ⟨row,listed,admitted⟩
    obtain ⟨rest,workflow⟩ := admitted.workflow
    rw [uri,Option.some.injEq] at workflow
    exact ⟨row,listed,(path_unique clean (plain row listed) workflow).symm,admitted.issuer,admitted.repo,admitted.ref⟩
  · rintro ⟨row,listed,rfl,issuer,repo,ref⟩
    exact ⟨row,listed,issuer,repo,ref,r,uri⟩

theorem sample_allowlist_exact :
    (identityMatchesAllowlist (identityOf Sample.sigstore Sample.leaf) Sample.allowed = true ↔
      ∃ row ∈ Sample.allowed, Admits row (identityOf Sample.sigstore Sample.leaf)) ∧
    ∀ p r, '@' ∉ p.toList → (identityOf Sample.sigstore Sample.leaf).workflowUri = some (p ++ "@" ++ r) →
      (identityMatchesAllowlist (identityOf Sample.sigstore Sample.leaf) Sample.allowed = true ↔
        ∃ row ∈ Sample.allowed, row.workflow = p ∧
          (identityOf Sample.sigstore Sample.leaf).issuer = some row.issuer ∧
          (identityOf Sample.sigstore Sample.leaf).repo = some row.repo ∧
          ∃ ref, (identityOf Sample.sigstore Sample.leaf).refClaim = some ref ∧ Covers row.refPattern ref) := by
  apply identityMatchesAllowlist_exact
  intro row listed
  obtain rfl := List.mem_singleton.mp listed
  decide

end GatewaySdk.Upgrade
