import GatewaySdk.Client.Tls
import GatewaySdk.Upgrade.VerifySound

/-! Certificate pinning: every way to write a digest is brought to the text that the verifier
prints of a certificate, and the two are compared as texts. -/
namespace GatewaySdk.Client
open GatewaySdk.Upgrade (Bytes hex hexChar isWhitespace hexDigest isAsciiHexDigit hexChar_lower hex_lower hex_injective utf8
  utf8_eq utf8EncodeChar_small bind_ok mapError_ok)

/-- Two lower-case digits of each byte of a certificate's SHA-256, with colons between them. -/
def fingerprintHexColons (sha256 : Bytes → Bytes) (der : Bytes) : String :=
  String.ofList ((sha256 der).zipIdx.flatMap fun entry =>
    (if entry.2 > 0 then [':'] else []) ++ [hexChar (entry.1.toNat / 16),hexChar (entry.1.toNat % 16)])

inductive RustlsError where
  | general (text : String)
  | webpki (text : String)
  deriving DecidableEq, Repr

/-- What a verifier is given: the leaf, its chain, the name, an OCSP response, the time. -/
structure Presented where
  endEntity : Bytes
  intermediates : List Bytes
  serverName : String
  ocspResponse : Bytes
  now : Nat
  deriving DecidableEq, Repr

/-- The webpki verifier inside and the text of the pinned digest. -/
structure PinnedCertVerifier where
  inner : Presented → Except RustlsError Unit
  expectedFingerprint : String

def PinnedCertVerifier.verifyServerCert (sha256 : Bytes → Bytes) (self : PinnedCertVerifier) (cert : Presented) :
    Except RustlsError Unit := do
  self.inner cert
  let fp := fingerprintHexColons sha256 cert.endEntity
  if fp = self.expectedFingerprint then .ok ()
  else .error (.general ("certificate fingerprint mismatch — expected " ++ self.expectedFingerprint ++ ", got " ++ fp ++
    ". Possible MITM or certificate rotation."))

/-- An input that spells these digits: each in either case, colons and blanks anywhere. -/
inductive Spells : List Char → List Char → Prop
  | nil : Spells [] []
  | digit (c : Char) {digits input : List Char} (rest : Spells digits input) : Spells (c.toLower::digits) (c::input)
  | skip (c : Char) {digits input : List Char} (separator : c = ':' ∨ isWhitespace c = true) (rest : Spells digits input) :
    Spells digits (c::input)

/-- A way to write the digest. -/
def Denotes (input : List Char) (digest : Bytes) : Prop := Spells (hex digest).toList input

/-- The characters of the fingerprint that count. -/
def counted (c : Char) : Bool := c != ':' && !isWhitespace c

theorem isAsciiHexDigit_small {c : Char} (digit : isAsciiHexDigit c = true) : c.toNat < 128 := by
  simp only [isAsciiHexDigit,Bool.or_eq_true,Bool.and_eq_true,decide_eq_true_eq,Char.le_def,UInt32.le_iff_toNat_le] at digit
  have nine : ('9' : Char).val.toNat = 57 := rfl
  have f : ('f' : Char).val.toNat = 102 := rfl
  have upperF : ('F' : Char).val.toNat = 70 := rfl
  change c.val.toNat < 128
  omega

theorem hexDigit_value : ∀ n < 128, isAsciiHexDigit (Char.ofNat n) = true →
    ∃ m < 16, hexChar m = (Char.ofNat n).toLower := by decide

theorem hexDigit_counted : ∀ n < 128, isAsciiHexDigit (Char.ofNat n).toLower = true →
    counted (Char.ofNat n) = true ∧ isAsciiHexDigit (Char.ofNat n) = true := by decide

theorem hexChar_digit : ∀ n < 16, isAsciiHexDigit (hexChar n) = true := by decide

theorem toLower_small {c : Char} (digit : isAsciiHexDigit c.toLower = true) : c.toNat < 128 := by
  by_contra large
  have same : c.toLower = c := by
    refine dif_neg fun upper => large ?_
    have high := UInt32.le_iff_toNat_le.mp upper.2
    change c.val.toNat ≤ 90 at high
    change c.val.toNat < 128
    omega
  rw [same] at digit
  exact large (isAsciiHexDigit_small digit)

theorem toLower_digit {c : Char} (digit : isAsciiHexDigit c.toLower = true) :
    counted c = true ∧ isAsciiHexDigit c = true := by
  have found := hexDigit_counted c.toNat (toLower_small digit)
  rw [Char.ofNat_toNat] at found
  exact found digit

theorem hex_digits {bytes : Bytes} {c : Char} (member : c ∈ (hex bytes).toList) : isAsciiHexDigit c = true := by
  rw [hex,String.toList_ofList,List.mem_flatMap] at member
  obtain ⟨b,_,inside⟩ := member
  have bound := b.toNat_lt
  simp only [List.mem_cons,List.not_mem_nil,or_false] at inside
  rcases inside with rfl | rfl <;> exact hexChar_digit _ (by omega)

theorem hex_counted {bytes : Bytes} : ∀ c ∈ (hex bytes).toList, counted c = true := by
  intro c member
  have lower : c.toLower ∈ (hex bytes).toList := by
    rw [← hex_lower]
    exact List.mem_map_of_mem member
  exact (toLower_digit (hex_digits lower)).1

theorem hex_length (bytes : Bytes) : (hex bytes).toList.length = 2 * bytes.length := by
  rw [hex,String.toList_ofList]
  induction bytes with
  | nil => rfl
  | cons b bytes ih =>
    simp only [List.flatMap_cons,List.length_append,List.length_cons,List.length_nil] at ih ⊢
    omega

/-- What an input spells is left when colons and blanks are taken out and case is folded. -/
theorem spells_iff {digits input : List Char} (hexed : ∀ d ∈ digits, isAsciiHexDigit d = true) :
    Spells digits input ↔ (input.filter counted).map Char.toLower = digits := by
  constructor
  · intro spells
    induction spells with
    | nil => rfl
    | digit c rest ih =>
      have own := (toLower_digit (hexed _ List.mem_cons_self)).1
      rw [List.filter_cons_of_pos own,List.map_cons,ih (fun d member => hexed d (List.mem_cons_of_mem _ member))]
    | skip c separator rest ih =>
      have left : ¬ counted c = true := by
        rcases separator with rfl | blank
        · decide
        · simp [counted,blank]
      rw [List.filter_cons_of_neg left]
      exact ih hexed
  · intro same
    clear hexed
    induction input generalizing digits with
    | nil =>
      rw [← same]
      exact .nil
    | cons c input ih =>
      by_cases own : counted c = true
      · rw [List.filter_cons_of_pos own,List.map_cons] at same
        rw [← same]
        exact .digit c (ih rfl)
      · rw [List.filter_cons_of_neg own] at same
        have separator : c = ':' ∨ isWhitespace c = true := by
          simp only [counted,Bool.and_eq_true,bne_iff_ne,Bool.not_eq_true',not_and,Bool.not_eq_false] at own
          exact or_iff_not_imp_left.mpr own
        exact .skip c separator (ih same)

theorem denotes_iff {input : List Char} {digest : Bytes} :
    Denotes input digest ↔ (input.filter counted).map Char.toLower = (hex digest).toList :=
  spells_iff fun _ => hex_digits

theorem Denotes.unique {input : List Char} {first second : Bytes} (one : Denotes input first) (two : Denotes input second) :
    first = second :=
  hex_injective (String.toList_injective ((denotes_iff.mp one).symm.trans (denotes_iff.mp two)))

/-- Digits in pairs are those of some bytes. -/
theorem hex_surjective (n : Nat) {digits : List Char} (size : digits.length = 2 * n)
    (hexed : ∀ c ∈ digits, isAsciiHexDigit c = true) :
    ∃ bytes : Bytes, bytes.length = n ∧ (hex bytes).toList = digits.map Char.toLower := by
  induction n generalizing digits with
  | zero =>
    obtain rfl := List.length_eq_zero_iff.mp size
    exact ⟨[],rfl,rfl⟩
  | succ n ih =>
    obtain ⟨a,b,rest,rfl⟩ : ∃ a b rest, digits = a::b::rest := by
      cases digits with
      | nil => simp at size
      | cons a digits =>
        cases digits with
        | nil => simp only [List.length_singleton] at size; omega
        | cons b rest => exact ⟨a,b,rest,rfl⟩
    obtain ⟨bytes,length,text⟩ := @ih rest (by simp only [List.length_cons] at size; omega)
      (fun c member => hexed c (List.mem_cons_of_mem _ (List.mem_cons_of_mem _ member)))
    have value (c : Char) (digit : isAsciiHexDigit c = true) : ∃ m < 16, hexChar m = c.toLower := by
      have found := hexDigit_value c.toNat (isAsciiHexDigit_small digit)
      rw [Char.ofNat_toNat] at found
      exact found digit
    obtain ⟨high,highSmall,highIs⟩ := value a (hexed a (by simp))
    obtain ⟨low,lowSmall,lowIs⟩ := value b (hexed b (by simp))
    have byte : (UInt8.ofNat (high * 16 + low)).toNat = high * 16 + low := by
      rw [UInt8.toNat_ofNat']
      omega
    refine ⟨UInt8.ofNat (high * 16 + low)::bytes,by rw [List.length_cons,length],?_⟩
    rw [hex,String.toList_ofList] at text ⊢
    rw [List.flatMap_cons,text,byte,List.map_cons,List.map_cons,← highIs,← lowIs]
    have upper : (high * 16 + low) / 16 = high := by omega
    have lower : (high * 16 + low) % 16 = low := by omega
    rw [upper,lower]
    rfl

theorem byteSize_ascii {text : List Char} (small : ∀ c ∈ text, c.toNat < 128) :
    (String.ofList text).utf8ByteSize = text.length := by
  have size : (String.ofList text).utf8ByteSize = (utf8 (String.ofList text)).length := rfl
  have each : ∀ c ∈ text, (String.utf8EncodeChar c).length = 1 := by
    intro c member
    have one := utf8EncodeChar_small (small c member)
    rw [Char.ofNat_toNat] at one
    rw [one]
    rfl
  rw [size,utf8_eq,String.toList_ofList,List.length_flatMap,List.map_congr_left each]
  simp

theorem colonPairs_counted (digits : List Char) (own : ∀ c ∈ digits, counted c = true) :
    (colonPairs digits).filter counted = digits := by
  induction digits using colonPairs.induct with
  | case1 a b => simp [colonPairs,own]
  | case2 a b c rest ih =>
    have colon : ¬ counted ':' = true := by decide
    have first := own a (by simp)
    have second := own b (by simp)
    rw [colonPairs,List.filter_cons_of_pos first,List.filter_cons_of_pos second,List.filter_cons_of_neg colon,
      ih (fun d member => own d (List.mem_cons_of_mem _ (List.mem_cons_of_mem _ member)))]
  | case3 digits short =>
    have same : colonPairs digits = digits := by
      unfold colonPairs
      split
      next a b rest => exact absurd rfl (short a b rest)
      next => rfl
    rw [same]
    exact List.filter_eq_self.mpr own

/-- The printer's text of some bytes. -/
def pinText (digest : Bytes) : String := String.ofList (colonPairs (hex digest).toList)

theorem pinText_denotes (digest : Bytes) : Denotes (pinText digest).toList digest := by
  rw [denotes_iff,pinText,String.toList_ofList,colonPairs_counted _ hex_counted,hex_lower]

theorem pinText_injective : Function.Injective pinText := by
  intro a b same
  have one := pinText_denotes a
  rw [same] at one
  exact one.unique (pinText_denotes b)

theorem colonPairs_hex (b : UInt8) (rest : Bytes) : colonPairs (hex (b::rest)).toList =
    [hexChar (b.toNat / 16),hexChar (b.toNat % 16)] ++
      rest.flatMap (fun c => ':'::[hexChar (c.toNat / 16),hexChar (c.toNat % 16)]) := by
  induction rest generalizing b with
  | nil =>
    rw [hex,String.toList_ofList]
    rfl
  | cons c rest ih =>
    have next := ih c
    rw [hex,String.toList_ofList] at next ⊢
    simp only [List.flatMap_cons,List.cons_append,List.nil_append] at next ⊢
    rw [colonPairs,next]

theorem fingerprintHexColons_text (sha256 : Bytes → Bytes) (der : Bytes) :
    fingerprintHexColons sha256 der = pinText (sha256 der) := by
  have later (rest : Bytes) (n : Nat) : ((rest.zipIdx (n + 1)).flatMap fun entry =>
      (if entry.2 > 0 then [':'] else []) ++ [hexChar (entry.1.toNat / 16),hexChar (entry.1.toNat % 16)]) =
      rest.flatMap (fun c => ':'::[hexChar (c.toNat / 16),hexChar (c.toNat % 16)]) := by
    induction rest generalizing n with
    | nil => rfl
    | cons c rest ih =>
      rw [List.zipIdx_cons,List.flatMap_cons,List.flatMap_cons,ih (n + 1)]
      rfl
  unfold fingerprintHexColons pinText
  cases sha256 der with
  | nil => rfl
  | cons b rest =>
    rw [colonPairs_hex,List.zipIdx_cons,List.flatMap_cons,later rest 0]
    rfl

/-- The digest that an input denotes, and nothing else, decides what it is normalised to. -/
theorem normaliseFingerprint_iff {input : List Char} {text : String} :
    normaliseFingerprint input = .ok text ↔
      ∃ digest : Bytes, digest.length = 32 ∧ Denotes input digest ∧ text = pinText digest := by
  have digits : (fingerprintDigits input).toList = input.filter counted := String.toList_ofList
  unfold normaliseFingerprint
  dsimp only
  constructor
  · intro normalised
    split_ifs at normalised with size digit
    rw [Bool.not_eq_false,List.all_eq_true,digits] at digit
    rw [not_not] at size
    have length : (input.filter counted).length = 2 * 32 := by
      rw [← byteSize_ascii (fun c member => isAsciiHexDigit_small (digit c member))]
      exact size
    obtain ⟨digest,long,shown⟩ := hex_surjective 32 length digit
    refine ⟨digest,long,denotes_iff.mpr shown.symm,?_⟩
    rw [pinText,shown,← digits]
    exact (Except.ok.inj normalised).symm
  · rintro ⟨digest,long,denotes,rfl⟩
    have shown := denotes_iff.mp denotes
    have digit : ∀ c ∈ input.filter counted, isAsciiHexDigit c = true := by
      intro c member
      have lower : c.toLower ∈ (hex digest).toList := by
        rw [← shown]
        exact List.mem_map_of_mem member
      exact (toLower_digit (hex_digits lower)).2
    have size : (fingerprintDigits input).utf8ByteSize = 64 := by
      have lengths := congrArg List.length shown
      rw [List.length_map,hex_length,long] at lengths
      exact (byteSize_ascii (fun c member => isAsciiHexDigit_small (digit c member))).trans lengths
    have all : (fingerprintDigits input).toList.all isAsciiHexDigit = true := by
      rw [digits,List.all_eq_true]
      exact digit
    rw [if_neg (not_not.mpr size),if_neg (by simp [all]),digits,shown]
    rfl

theorem normaliseFingerprint_error {input : List Char} :
    (∃ e, normaliseFingerprint input = .error e) ↔ ¬ ∃ digest : Bytes, digest.length = 32 ∧ Denotes input digest := by
  cases result : normaliseFingerprint input with
  | error e =>
    refine iff_of_true ⟨e,rfl⟩ ?_
    rintro ⟨digest,long,denotes⟩
    rw [normaliseFingerprint_iff.mpr ⟨digest,long,denotes,rfl⟩] at result
    cases result
  | ok text =>
    obtain ⟨digest,long,denotes,_⟩ := normaliseFingerprint_iff.mp result
    exact iff_of_false (by simp) (not_not.mpr ⟨digest,long,denotes⟩)

theorem verifyServerCert_ok {sha256 : Bytes → Bytes} {self : PinnedCertVerifier} {cert : Presented} :
    self.verifyServerCert sha256 cert = .ok () ↔
      self.inner cert = .ok () ∧ fingerprintHexColons sha256 cert.endEntity = self.expectedFingerprint := by
  unfold PinnedCertVerifier.verifyServerCert
  cases self.inner cert with
  | error e => exact iff_of_false (fun accepted => by cases accepted) (fun both => by cases both.1)
  | ok =>
    by_cases same : fingerprintHexColons sha256 cert.endEntity = self.expectedFingerprint
    · exact iff_of_true (if_pos same) ⟨rfl,same⟩
    · refine iff_of_false (fun accepted => ?_) (fun both => same both.2)
      obtain ⟨_,_,accepted⟩ := bind_ok.mp accepted
      rw [if_neg same] at accepted
      cases accepted

/-- Every way to write a digest is normalised to what the verifier prints for it, and everything
else is an error; so a pinned verifier accepts, of what its inner one does, exactly the leaf
with the configured digest. -/
theorem pinning_exact (sha256 : Bytes → Bytes) :
    (∀ (digest : Bytes) input, digest.length = 32 → Denotes input digest → ∀ der, sha256 der = digest →
      normaliseFingerprint input = .ok (fingerprintHexColons sha256 der)) ∧
    (∀ input, (¬ ∃ digest : Bytes, digest.length = 32 ∧ Denotes input digest) → ∃ e, normaliseFingerprint input = .error e) ∧
    (∀ first second text, normaliseFingerprint first = .ok text → normaliseFingerprint second = .ok text →
      ∃ digest : Bytes, digest.length = 32 ∧ Denotes first digest ∧ Denotes second digest ∧
        ∀ other, Denotes first other ∨ Denotes second other → other = digest) ∧
    (∀ input text, normaliseFingerprint input = .ok text → normaliseFingerprint text.toList = .ok text) ∧
    ∀ env input config, buildPinnedConfig env input = .ok config → ∃ (fp : String) (digest : Bytes),
      config = .pinned fp ∧ digest.length = 32 ∧ Denotes input digest ∧ ∀ inner cert,
        (PinnedCertVerifier.mk inner fp).verifyServerCert sha256 cert = .ok () ↔
          inner cert = .ok () ∧ sha256 cert.endEntity = digest := by
  refine ⟨?_,fun input other => normaliseFingerprint_error.mpr other,?_,?_,?_⟩
  · rintro digest input long denotes der rfl
    rw [fingerprintHexColons_text]
    exact normaliseFingerprint_iff.mpr ⟨sha256 der,long,denotes,rfl⟩
  · intro first second text one two
    obtain ⟨digest,long,denotes,rfl⟩ := normaliseFingerprint_iff.mp one
    obtain ⟨digest',_,denotes',same⟩ := normaliseFingerprint_iff.mp two
    obtain rfl := pinText_injective same
    exact ⟨digest,long,denotes,denotes',fun other either => either.elim (fun d => d.unique denotes) (fun d => d.unique denotes')⟩
  · intro input text normalised
    obtain ⟨digest,long,_,rfl⟩ := normaliseFingerprint_iff.mp normalised
    exact normaliseFingerprint_iff.mpr ⟨digest,long,pinText_denotes digest,rfl⟩
  · intro env input config built
    obtain ⟨fp,normalised,built⟩ := bind_ok.mp built
    obtain ⟨_,_,built⟩ := bind_ok.mp built
    obtain ⟨digest,long,denotes,rfl⟩ := normaliseFingerprint_iff.mp normalised
    refine ⟨pinText digest,digest,(Except.ok.inj built).symm,long,denotes,fun inner cert => ?_⟩
    rw [verifyServerCert_ok,fingerprintHexColons_text]
    exact and_congr_right fun _ => pinText_injective.eq_iff

end GatewaySdk.Client
