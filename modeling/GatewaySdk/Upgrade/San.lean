import GatewaySdk.Text.Separated
import GatewaySdk.Upgrade.VerifySound
import Mathlib.Data.Nat.Digits.Lemmas

/-! DER elements: a tag, the octets of a length, the content. -/
namespace GatewaySdk.Text.Der

/-- A length below 128 is one octet; any other is the number of its octets, then these, most
significant first. -/
def lengthOctets (n : Nat) : List UInt8 :=
  if n < 128 then [UInt8.ofNat n]
  else UInt8.ofNat (128 + (Nat.digits 256 n).length)::(Nat.digits 256 n).reverse.map UInt8.ofNat

def element (tag : UInt8) (content : List UInt8) : List UInt8 := tag::(lengthOctets content.length ++ content)

theorem lengthOctets_length {n : Nat} (small : n < 2 ^ 32) : (lengthOctets n).length ≤ 5 := by
  unfold lengthOctets
  split_ifs
  · simp
  · have digits : (Nat.digits 256 n).length ≤ 4 := Nat.digits_length_le_iff (by omega) n |>.mpr (by omega)
    simp only [List.length_cons,List.length_map,List.length_reverse]
    omega

end GatewaySdk.Text.Der

/-! The workflow as it is read of a SubjectAltName: a scan of the bytes, told apart name by
name. -/
namespace GatewaySdk.Upgrade
open GatewaySdk.Text

inductive NameKind where
  | otherName
  | rfc822Name
  | dnsName
  | x400Address
  | directoryName
  | ediPartyName
  | uri
  | ipAddress
  | registeredId
  deriving DecidableEq, Repr

/-- The context tag of each kind, with its constructed bit where it has one. -/
def NameKind.tag : NameKind → UInt8
  | .otherName => 160
  | .rfc822Name => 129
  | .dnsName => 130
  | .x400Address => 163
  | .directoryName => 164
  | .ediPartyName => 165
  | .uri => 134
  | .ipAddress => 135
  | .registeredId => 136

structure GeneralName where
  kind : NameKind
  content : Bytes
  deriving DecidableEq, Repr

def GeneralName.encoded (n : GeneralName) : Bytes := Der.element n.kind.tag n.content

/-- The names of a certificate, of a length that a DER reader's 32 bits hold. -/
structure San where
  names : List GeneralName
  sized : (names.flatMap GeneralName.encoded).length < 2 ^ 32

/-- The extension's value: a SEQUENCE of the names. -/
def San.value (san : San) : Bytes := Der.element 48 (san.names.flatMap GeneralName.encoded)

theorem findFrom_nil {part : List Char} (solid : part ≠ []) : findFrom part [] = none := if_neg solid

theorem findFrom_separated {part a b : List Char} {c : Char} (solid : part ≠ []) (outside : c ∉ part) :
    findFrom part (a ++ c::b) = ((findFrom part a).map (fun rest => rest ++ c::b)).or (findFrom part b) := by
  induction a with
  | nil =>
    have front : ¬ part.isPrefixOf (c::b) = true := by
      intro front
      have short := (prefix_separated (a := []) outside).mp (List.isPrefixOf_iff_prefix.mp front)
      exact solid (List.prefix_nil.mp short)
    rw [findFrom_nil solid,List.nil_append,findFrom,if_neg front]
    rfl
  | cons x a ih =>
    have same : part.isPrefixOf (x::a ++ c::b) = part.isPrefixOf (x::a) := by
      rw [Bool.eq_iff_iff,List.isPrefixOf_iff_prefix,List.isPrefixOf_iff_prefix]
      exact prefix_separated outside
    rw [List.cons_append] at same ⊢
    rw [findFrom,findFrom,same,ih]
    split_ifs <;> rfl

theorem takeWhile_separated {α : Type} {p : α → Bool} {a b : List α} {c : α} (stop : p c = false) :
    (a ++ c::b).takeWhile p = a.takeWhile p := by
  rw [List.takeWhile_append]
  split_ifs with all
  · rw [List.takeWhile_cons_of_neg (by simp [stop]),List.append_nil]
    exact ((List.takeWhile_prefix p).eq_of_length all).symm
  · rfl

theorem firstSanUri_separated {a b : Bytes} {tag : UInt8} (high : 128 ≤ tag) :
    firstSanUri (a ++ tag::b) = (firstSanUri a).or (firstSanUri b) := by
  have foreign : lossyChar tag = Char.ofNat 65533 := if_neg (by simpa using high)
  unfold firstSanUri
  rw [List.map_append,List.map_cons,foreign,findFrom_separated (by decide) (by decide)]
  cases findFrom "https://".toList (a.map lossyChar) with
  | none => rfl
  | some rest => simp [takeWhile_separated (show uriChar (Char.ofNat 65533) = false by decide)]

theorem NameKind.tag_high (kind : NameKind) : 128 ≤ kind.tag := by cases kind <;> decide

theorem firstSanUri_flatMap (names : List GeneralName) (before : Bytes) :
    firstSanUri (before ++ names.flatMap GeneralName.encoded) =
      (firstSanUri before).or (names.findSome? (fun n => firstSanUri n.encoded)) := by
  induction names generalizing before with
  | nil => simp
  | cons n names ih =>
    have alone : firstSanUri n.encoded = firstSanUri (Der.lengthOctets n.content.length ++ n.content) := by
      have nothing : firstSanUri [] = none := rfl
      have split := firstSanUri_separated (a := []) (b := Der.lengthOctets n.content.length ++ n.content) n.kind.tag_high
      rw [nothing,List.nil_append,Option.none_or] at split
      exact split
    have parts : before ++ (n::names).flatMap GeneralName.encoded =
        before ++ n.kind.tag::((Der.lengthOctets n.content.length ++ n.content) ++ names.flatMap GeneralName.encoded) := rfl
    rw [parts,firstSanUri_separated n.kind.tag_high,ih,← alone,List.findSome?_cons]
    cases firstSanUri n.encoded <;> rfl

theorem findFrom_short {part text : List Char} (short : text.length < part.length) : findFrom part text = none := by
  induction text with
  | nil =>
    refine findFrom_nil ?_
    rintro rfl
    simp at short
  | cons c text ih =>
    have front : ¬ part.isPrefixOf (c::text) = true := by
      intro front
      have fits := (List.isPrefixOf_iff_prefix.mp front).length_le
      omega
    rw [findFrom,if_neg front]
    exact ih (by simp only [List.length_cons] at short; omega)

theorem header_silent {n : Nat} (small : n < 2 ^ 32) : firstSanUri (48::Der.lengthOctets n) = none := by
  have octets := Der.lengthOctets_length small
  have short : ((48::Der.lengthOctets n).map lossyChar).length < "https://".toList.length := by
    have eight : "https://".toList.length = 8 := by decide
    simp only [List.length_map,List.length_cons]
    omega
  rw [firstSanUri,findFrom_short short]
  rfl

/-- The scan of the whole value is that of the first name in which it finds anything. -/
theorem firstSanUri_value (san : San) :
    firstSanUri san.value = san.names.findSome? (fun n => firstSanUri n.encoded) := by
  have parts : san.value = (48::Der.lengthOctets (san.names.flatMap GeneralName.encoded).length) ++
    san.names.flatMap GeneralName.encoded := rfl
  rw [parts,firstSanUri_flatMap,header_silent san.sized,Option.none_or]

/-- Bytes that are read as ASCII are the UTF-8 of what they are read as. -/
theorem lossyChar_utf8 {bytes : Bytes} (ascii : ∀ c ∈ bytes.map lossyChar, c.toNat < 128) :
    (bytes.map lossyChar).flatMap String.utf8EncodeChar = bytes := by
  have each : ∀ b ∈ bytes, String.utf8EncodeChar (lossyChar b) = [b] := by
    intro b member
    have read := ascii _ (List.mem_map_of_mem member)
    by_cases small : b < 128
    · rw [lossyChar,if_pos small,utf8EncodeChar_small (UInt8.lt_iff_toNat_lt.mp small),UInt8.ofNat_toNat]
    · rw [lossyChar,if_neg small] at read
      exact absurd read (by decide)
  rw [List.flatMap_map,List.flatMap_congr each]
  exact List.flatMap_singleton' bytes

theorem findFrom_some {part text rest : List Char} (found : findFrom part text = some rest) :
    rest <:+ text ∧ part <+: rest := by
  induction text with
  | nil =>
    unfold findFrom at found
    split_ifs at found with empty
    obtain rfl := Option.some.inj found
    exact ⟨List.suffix_refl [],by rw [empty]⟩
  | cons c text ih =>
    unfold findFrom at found
    split_ifs at found with front
    · obtain rfl := Option.some.inj found
      exact ⟨List.suffix_refl _,List.isPrefixOf_iff_prefix.mp front⟩
    · obtain ⟨later,begins⟩ := ih found
      exact ⟨later.trans (List.suffix_cons c text),begins⟩

theorem uriChar_small {c : Char} (visible : uriChar c = true) : c.toNat < 128 := by
  simp only [uriChar,Bool.and_eq_true,decide_eq_true_eq] at visible
  omega

theorem scheme_visible : ∀ c ∈ "https://".toList, uriChar c = true := List.all_eq_true.mp (by decide +kernel)

theorem firstSanUri_within {bytes : Bytes} {u : String} (found : firstSanUri bytes = some u) :
    utf8 u <:+: bytes ∧ "https://".toList <+: u.toList := by
  obtain ⟨rest,search,rfl⟩ := Option.map_eq_some_iff.mp found
  obtain ⟨⟨before,whole⟩,begins⟩ := findFrom_some search
  have run : rest.takeWhile uriChar <:+: bytes.map lossyChar :=
    (List.takeWhile_prefix uriChar).isInfix.trans ⟨before,[],by rw [List.append_nil,whole]⟩
  obtain ⟨left,right,shape⟩ := run
  obtain ⟨front,after,rfl,frontIs,_⟩ := List.map_eq_append_iff.mp shape.symm
  obtain ⟨outer,middle,rfl,_,middleIs⟩ := List.map_eq_append_iff.mp frontIs
  have ascii : ∀ c ∈ middle.map lossyChar, c.toNat < 128 := by
    rw [middleIs]
    exact fun c member => uriChar_small (List.all_eq_true.mp List.all_takeWhile c member)
  constructor
  · rw [utf8_eq,String.toList_ofList,← middleIs,lossyChar_utf8 ascii]
    exact ⟨outer,after,rfl⟩
  · obtain ⟨more,rfl⟩ := begins
    rw [List.takeWhile_append_of_pos scheme_visible,@String.toList_ofList ("https://".toList ++ more.takeWhile uriChar)]
    exact List.prefix_append _ _

theorem findFrom_none {part text : List Char} : findFrom part text = none ↔ ¬ part <:+: text := by
  induction text with
  | nil => simp [findFrom,List.infix_nil]
  | cons c text ih =>
    rw [findFrom,List.infix_cons_iff,not_or,← ih,← List.isPrefixOf_iff_prefix]
    split_ifs with front
    · simp [front]
    · simp [front]

theorem firstSanUri_none {bytes : Bytes} : firstSanUri bytes = none ↔ ¬ utf8 "https://" <:+: bytes := by
  rw [firstSanUri,Option.map_eq_none_iff,findFrom_none,not_iff_not]
  constructor
  · rintro ⟨left,right,shape⟩
    obtain ⟨front,after,rfl,frontIs,_⟩ := List.map_eq_append_iff.mp shape.symm
    obtain ⟨outer,middle,rfl,_,middleIs⟩ := List.map_eq_append_iff.mp frontIs
    have ascii : ∀ c ∈ middle.map lossyChar, c.toNat < 128 := by
      rw [middleIs]
      exact fun c member => uriChar_small (scheme_visible c member)
    rw [utf8_eq,← middleIs,lossyChar_utf8 ascii]
    exact ⟨outer,after,rfl⟩
  · rintro ⟨left,right,rfl⟩
    have scheme : (utf8 "https://").map lossyChar = "https://".toList := by decide +kernel
    exact ⟨left.map lossyChar,right.map lossyChar,by rw [List.map_append,List.map_append,scheme]⟩

/-- No occurrence begins in the octets before one that follows them at once, for want of a
second `h`. -/
theorem findFrom_header {header more : List Char} (short : header.length < 8) :
    findFrom "https://".toList (header ++ ("https://".toList ++ more)) = some ("https://".toList ++ more) := by
  induction header with
  | nil =>
    have front : "https://".toList.isPrefixOf ("https://".toList ++ more) = true :=
      List.isPrefixOf_iff_prefix.mpr (List.prefix_append _ _)
    exact if_pos front
  | cons c header ih =>
    have front : ¬ "https://".toList.isPrefixOf (c::(header ++ ("https://".toList ++ more))) = true := by
      intro front
      have shifted := (List.isPrefixOf_iff_prefix.mp front).drop (header.length + 1)
      rw [List.drop_succ_cons,List.drop_left] at shifted
      have first : ∀ k < 8, 0 < k → ("https://".toList.drop k).head? ≠ none ∧
        ("https://".toList.drop k).head? ≠ some 'h' := by decide
      obtain ⟨there,other⟩ := first (header.length + 1) short (by omega)
      obtain ⟨rest,same⟩ := shifted
      cases tail : "https://".toList.drop (header.length + 1) with
      | nil => exact there (by rw [tail]; rfl)
      | cons x xs =>
        rw [tail] at same other
        have head := congrArg List.head? same
        exact other head
    rw [List.cons_append,findFrom,if_neg front]
    exact ih (by simp only [List.length_cons] at short; omega)

/-- A URI of visible ASCII: no space, no control character, no double quote. -/
def VisibleUri (content : Bytes) : Prop :=
  utf8 "https://" <+: content ∧ ∀ b ∈ content, 33 ≤ b.toNat ∧ b.toNat ≤ 126 ∧ b ≠ 34

theorem lossyChar_visible {b : UInt8} (visible : 33 ≤ b.toNat ∧ b.toNat ≤ 126 ∧ b ≠ 34) : uriChar (lossyChar b) = true := by
  obtain ⟨low,high,unquoted⟩ := visible
  have small : b.toNat < 128 := by omega
  have value : (lossyChar b).toNat = b.toNat := by
    rw [lossyChar,if_pos (UInt8.lt_iff_toNat_lt.mpr small),toNat_small small]
  have quote : lossyChar b ≠ '"' := by
    intro same
    rw [same] at value
    exact unquoted (UInt8.toNat_inj.mp value.symm)
  have blank : lossyChar b ≠ ' ' := by
    intro same
    rw [same] at value
    have thirtyTwo : (' ' : Char).toNat = 32 := rfl
    omega
  simp only [uriChar,value,Bool.and_eq_true,decide_eq_true_eq,bne_iff_ne]
  exact ⟨⟨⟨low,high⟩,quote⟩,blank⟩

theorem firstSanUri_uri {n : GeneralName} (visible : VisibleUri n.content) (sized : n.content.length < 2 ^ 32) :
    ∃ u, firstSanUri n.encoded = some u ∧ utf8 u = n.content := by
  obtain ⟨⟨more,shape⟩,printed⟩ := visible
  have scheme : (utf8 "https://").map lossyChar = "https://".toList := by decide +kernel
  have text : n.content.map lossyChar = "https://".toList ++ more.map lossyChar := by
    rw [← shape,List.map_append,scheme]
  have seen : ∀ c ∈ n.content.map lossyChar, uriChar c = true := by
    intro c member
    obtain ⟨b,inside,rfl⟩ := List.mem_map.mp member
    exact lossyChar_visible (printed b inside)
  have search : findFrom "https://".toList (n.encoded.map lossyChar) = some (n.content.map lossyChar) := by
    have octets := Der.lengthOctets_length sized
    rw [GeneralName.encoded,Der.element,← List.cons_append,List.map_append,text]
    apply findFrom_header
    simp only [List.length_map,List.length_cons]
    omega
  have whole : (n.content.map lossyChar).takeWhile uriChar = n.content.map lossyChar := by
    have run := @List.takeWhile_append_of_pos _ uriChar _ [] seen
    rwa [List.append_nil,List.takeWhile_nil,List.append_nil] at run
  refine ⟨String.ofList (n.content.map lossyChar),by rw [firstSanUri,search,Option.map_some,whole],?_⟩
  rw [utf8_eq,String.toList_ofList]
  exact lossyChar_utf8 (fun c member => uriChar_small (seen c member))

theorem San.content_small (san : San) {n : GeneralName} (member : n ∈ san.names) : n.content.length < 2 ^ 32 := by
  obtain ⟨before,after,shape⟩ := List.append_of_mem member
  have sized := san.sized
  rw [shape,List.flatMap_append,List.flatMap_cons] at sized
  simp only [List.length_append,GeneralName.encoded,Der.element,List.length_cons] at sized
  omega

theorem San.first_name (san : San) {before after : List GeneralName} {name : GeneralName}
    (shape : san.names = before ++ name::after) (silent : ∀ n ∈ before, ¬ utf8 "https://" <:+: n.encoded)
    (holds : utf8 "https://" <:+: name.encoded) :
    ∃ u, firstSanUri san.value = some u ∧ utf8 u <:+: name.encoded ∧ "https://".toList <+: u.toList ∧
      (VisibleUri name.content → utf8 u = name.content) := by
  have earlier : before.findSome? (fun n => firstSanUri n.encoded) = none :=
    List.findSome?_eq_none_iff.mpr (fun n member => firstSanUri_none.mpr (silent n member))
  obtain ⟨u,found⟩ := Option.ne_none_iff_exists'.mp (fun none => firstSanUri_none.mp none holds)
  obtain ⟨within,scheme⟩ := firstSanUri_within found
  refine ⟨u,?_,within,scheme,fun visible => ?_⟩
  · rw [firstSanUri_value,shape,List.findSome?_append,earlier,List.findSome?_cons,found]
    rfl
  · have member : name ∈ san.names := by
      rw [shape]
      exact List.mem_append_right before List.mem_cons_self
    obtain ⟨v,whole,content⟩ := firstSanUri_uri visible (san.content_small member)
    rw [found,Option.some.injEq] at whole
    rw [whole,content]

/-- The scan never leaves the first name that has the scheme in it, of whatever kind, and what it
finds there is the whole of the name if that is a URI of visible ASCII. -/
theorem firstSanUri_first_name (san : San) :
    (firstSanUri san.value = none ↔ ∀ n ∈ san.names, ¬ utf8 "https://" <:+: n.encoded) ∧
    (∀ before name after, san.names = before ++ name::after →
      (∀ n ∈ before, ¬ utf8 "https://" <:+: n.encoded) → utf8 "https://" <:+: name.encoded →
      ∃ u, firstSanUri san.value = some u ∧ utf8 u <:+: name.encoded ∧ "https://".toList <+: u.toList ∧
        (VisibleUri name.content → utf8 u = name.content)) ∧
    ∀ name, san.names = [name] → name.kind = .uri → VisibleUri name.content →
      ∃ u, firstSanUri san.value = some u ∧ utf8 u = name.content := by
  refine ⟨?_,fun before name after shape silent holds => san.first_name shape silent holds,?_⟩
  · simp only [firstSanUri_value,List.findSome?_eq_none_iff,firstSanUri_none]
  · intro name only _ visible
    have inContent : name.content <:+: name.encoded := ⟨name.kind.tag::Der.lengthOctets name.content.length,[],by
      rw [List.append_nil]
      rfl⟩
    obtain ⟨u,found,_,_,whole⟩ := @San.first_name san [] [] name only (by simp) (visible.1.isInfix.trans inContent)
    exact ⟨u,found,whole visible⟩

namespace Sample

def workflowName : GeneralName := ⟨.uri,utf8 "https://github.com/o/r/w.yml@v1"⟩

def workflowOnly : San := ⟨[workflowName],by decide +kernel⟩

def mailed : San := ⟨[⟨.rfc822Name,utf8 "a@https://b"⟩],by decide +kernel⟩

theorem workflow_visible : VisibleUri workflowName.content := by
  refine ⟨⟨utf8 "github.com/o/r/w.yml@v1",by decide +kernel⟩,by decide +kernel⟩

end Sample

theorem sample_first_name : ∃ u, firstSanUri Sample.workflowOnly.value = some u ∧ utf8 u = Sample.workflowName.content :=
  (firstSanUri_first_name Sample.workflowOnly).2.2 Sample.workflowName rfl rfl Sample.workflow_visible

/-- What an e-mail address says is taken for the workflow. -/
theorem mail_read_as_workflow : firstSanUri Sample.mailed.value = some "https://b" ∧
    ¬ ∃ n ∈ Sample.mailed.names, n.kind = .uri ∧ n.content = utf8 "https://b" := by
  refine ⟨by decide +kernel,?_⟩
  rintro ⟨n,member,uri,_⟩
  obtain rfl := List.mem_singleton.mp member
  cases uri

end GatewaySdk.Upgrade
