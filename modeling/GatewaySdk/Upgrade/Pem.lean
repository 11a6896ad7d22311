import GatewaySdk.Upgrade.VerifySound

/-! The two encodings of a certificate: a PEM block in any layout, and the base64 of one. -/
namespace GatewaySdk.Upgrade
open GatewaySdk.Text

def byteChar (b : UInt8) : Char := Char.ofNat b.toNat

/-- Padded standard base64, as text. -/
def base64Text (bytes : Bytes) : List Char := (Base64.encode bytes).map byteChar

/-- A PEM text of these bytes: the two markers around their base64, blanks anywhere between
the markers and around the whole. -/
structure PemText (der : Bytes) (text : String) : Prop where
  laidOut : ∃ before body after, text.toList = before ++ (beginMarker ++ body ++ endMarker) ++ after ∧
    (∀ c ∈ before, isWhitespace c = true) ∧ (∀ c ∈ after, isWhitespace c = true) ∧
    body.filter (fun c => !isWhitespace c) = base64Text der

theorem written_small {b : UInt8} (written : Base64.Written b) : b.toNat < 128 ∧ b.toNat ≠ 45 ∧ 43 ≤ b.toNat := by
  rcases written with letter | rfl
  · unfold Base64.sextet at letter
    simp only at letter
    split_ifs at letter <;> first | omega | exact absurd letter (by simp)
  · decide

theorem byteChar_written {b : UInt8} (written : Base64.Written b) :
    isWhitespace (byteChar b) = false ∧ byteChar b ≠ '-' := by
  obtain ⟨small,dash,printed⟩ := written_small written
  have value : (byteChar b).toNat = b.toNat := toNat_small small
  constructor
  · simp only [isWhitespace,value,List.mem_cons,List.not_mem_nil,or_false,Bool.or_eq_false_iff,Bool.and_eq_false_iff,
      decide_eq_false_iff_not]
    omega
  · intro same
    rw [same] at value
    exact dash value.symm

theorem base64Text_utf8 (bytes : Bytes) : utf8 (String.ofList (base64Text bytes)) = Base64.encode bytes := by
  have each : ∀ b ∈ Base64.encode bytes, String.utf8EncodeChar (byteChar b) = [b] := by
    intro b member
    have small := (written_small (Base64.encode_written bytes b member)).1
    rw [byteChar,utf8EncodeChar_small small,UInt8.ofNat_toNat]
  rw [utf8_eq,String.toList_ofList,base64Text,List.flatMap_map,List.flatMap_congr each]
  exact List.flatMap_singleton' _

theorem base64Text_clean {bytes : Bytes} {c : Char} (member : c ∈ base64Text bytes) :
    isWhitespace c = false ∧ c ≠ '-' := by
  obtain ⟨b,inside,rfl⟩ := List.mem_map.mp member
  exact byteChar_written (Base64.encode_written bytes b inside)

theorem fromUtf8_utf8 (text : String) : fromUtf8 (utf8 text) = some text := by
  have bytes : (⟨(utf8 text).toArray⟩ : ByteArray) = text.toByteArray := rfl
  rw [fromUtf8,bytes,String.fromUTF8?,dif_pos text.isValidUTF8]
  rfl

/-- What is read as UTF-8 is the UTF-8 of what is read. -/
theorem utf8_of_fromUtf8 {bytes : Bytes} {text : String} (read : fromUtf8 bytes = some text) : utf8 text = bytes := by
  unfold fromUtf8 String.fromUTF8? at read
  split at read
  · cases read
    rfl
  · cases read

theorem dropWhile_stop {α : Type} {p : α → Bool} {l : List α} {a : α} (front : l.head? = some a)
    (solid : p a = false) : l.dropWhile p = l := by
  obtain ⟨rest,rfl⟩ := List.head?_eq_some_iff.mp front
  rw [List.dropWhile_cons_of_neg (by simp [solid])]

/-- Blanks around a text that begins and ends with something else. -/
theorem trim_core {before core after : List Char} {a b : Char} (front : core.head? = some a)
    (back : core.getLast? = some b) (first : isWhitespace a = false) (last : isWhitespace b = false)
    (blankBefore : ∀ c ∈ before, isWhitespace c = true) (blankAfter : ∀ c ∈ after, isWhitespace c = true) :
    trim (before ++ core ++ after) = core := by
  have begins : (core ++ after).head? = some a := by rw [List.head?_append,front]; rfl
  have ends : core.reverse.head? = some b := by rw [List.head?_reverse,back]
  have blank : ∀ c ∈ after.reverse, isWhitespace c = true := fun c member => blankAfter c (List.mem_reverse.mp member)
  rw [trim,List.append_assoc,List.dropWhile_append_of_pos blankBefore,dropWhile_stop begins first,List.reverse_append,
    List.dropWhile_append_of_pos blank,dropWhile_stop ends last,List.reverse_reverse]

theorem trim_solid {text : List Char} (solid : ∀ c ∈ text, isWhitespace c = false) : trim text = text := by
  have stays (l : List Char) (all : ∀ c ∈ l, isWhitespace c = false) : l.dropWhile isWhitespace = l := by
    cases l with
    | nil => rfl
    | cons c l => exact dropWhile_stop rfl (all c List.mem_cons_self)
  rw [trim,stays text solid,stays text.reverse (fun c member => solid c (List.mem_reverse.mp member)),
    List.reverse_reverse]

theorem stripSuffix_append (part rest : List Char) : stripSuffix part (rest ++ part) = some rest := by
  unfold stripSuffix
  rw [if_pos (List.isSuffixOf_iff_suffix.mpr (List.suffix_append rest part)),List.length_append,Nat.add_sub_cancel,
    List.take_left]

/-- What a PEM body decodes to, blanks left out. -/
def pemBody (body : List Char) : Except Error Bytes :=
  orElse (Base64.decode (utf8 (String.ofList (body.filter (fun c => !isWhitespace c))))) "PEM body is not valid base64"

theorem tryPemBlock_block (body : List Char) :
    tryPemBlock (beginMarker ++ body ++ endMarker) = some (pemBody body) := by
  rw [tryPemBlock,List.append_assoc,stripPrefix_append]
  simp only [Option.bind_eq_bind,Option.bind_some,stripSuffix_append]
  rfl

theorem tryPemBlock_dashless {text : List Char} (dashless : '-' ∉ text) : tryPemBlock text = none := by
  have cut : stripPrefix beginMarker text = none := by
    unfold stripPrefix
    refine if_neg fun front => dashless ?_
    obtain ⟨rest,rfl⟩ := List.isPrefixOf_iff_prefix.mp front
    exact List.mem_append_left _ (by decide)
  rw [tryPemBlock,cut]
  rfl

theorem trim_block {before body after : List Char} (blankBefore : ∀ c ∈ before, isWhitespace c = true)
    (blankAfter : ∀ c ∈ after, isWhitespace c = true) :
    trim (before ++ (beginMarker ++ body ++ endMarker) ++ after) = beginMarker ++ body ++ endMarker := by
  have front : (beginMarker ++ body ++ endMarker).head? = some '-' := by
    rw [List.append_assoc]
    rfl
  have back : (beginMarker ++ body ++ endMarker).getLast? = some '-' := by
    rw [List.getLast?_append]
    rfl
  exact trim_core front back (by decide) (by decide) blankBefore blankAfter

/-- A text that is one block once trimmed is read as its body and in no other way. -/
theorem pemToDer_block {text : String} {body : List Char}
    (block : trim text.toList = beginMarker ++ body ++ endMarker) : pemToDer text = pemBody body := by
  simp only [pemToDer,block,tryPemBlock_block]

theorem pemBody_base64 {body : List Char} {der : Bytes}
    (carries : body.filter (fun c => !isWhitespace c) = base64Text der) : pemBody body = .ok der := by
  rw [pemBody,carries,base64Text_utf8,Base64.decode_encode]
  rfl

/-- Anything in a body that is neither a blank nor of the alphabet makes it an error. -/
theorem pemBody_corrupt {body : List Char} {c : Char} (inside : c ∈ body) (printed : isWhitespace c = false)
    (foreign : ∃ b ∈ String.utf8EncodeChar c, ¬ Base64.Written b) :
    pemBody body = .error "PEM body is not valid base64" := by
  obtain ⟨b,encoded,outside⟩ := foreign
  have kept : c ∈ body.filter (fun c => !isWhitespace c) := List.mem_filter.mpr ⟨inside,by rw [printed]; rfl⟩
  have present : b ∈ utf8 (String.ofList (body.filter (fun c => !isWhitespace c))) := by
    rw [utf8_eq,String.toList_ofList]
    exact List.mem_flatMap.mpr ⟨c,kept,encoded⟩
  unfold pemBody
  cases decoded : Base64.decode (utf8 (String.ofList (body.filter (fun c => !isWhitespace c)))) with
  | none => rfl
  | some bytes => exact absurd (Base64.decode_written decoded b present) outside

namespace PemText
variable {der : Bytes} {text : String} (pem : PemText der text)

include pem

/-- The one block there is in the text once it is trimmed. -/
theorem trimmed : ∃ body, trim text.toList = beginMarker ++ body ++ endMarker ∧ pemBody body = .ok der := by
  obtain ⟨before,body,after,shape,blankBefore,blankAfter,carries⟩ := pem.laidOut
  exact ⟨body,by rw [shape,trim_block blankBefore blankAfter],pemBody_base64 carries⟩

theorem decodes : pemToDer text = .ok der := by
  obtain ⟨body,block,carries⟩ := pem.trimmed
  rw [pemToDer_block block,carries]

/-- The base64 of a PEM text holds no dash, so it is no block itself, and it decodes to one. -/
theorem wrapped_decodes : pemToDer (String.ofList (base64Text (utf8 text))) = .ok der := by
  obtain ⟨body,block,carries⟩ := pem.trimmed
  have dashless : '-' ∉ base64Text (utf8 text) := fun inside => (base64Text_clean inside).2 rfl
  have whole : trim (base64Text (utf8 text)) = base64Text (utf8 text) :=
    trim_solid (fun c member => (base64Text_clean member).1)
  have unwrapped : Base64.decode (utf8 (String.ofList (base64Text (utf8 text)))) = some (utf8 text) := by
    rw [base64Text_utf8,Base64.decode_encode]
  have inner : tryPemBlock (trim text.toList) = some (pemBody body) := by rw [block,tryPemBlock_block]
  simp only [pemToDer,String.toList_ofList,whole,tryPemBlock_dashless dashless,unwrapped]
  exact bind_ok.mpr ⟨_,orElse_ok.mpr rfl,bind_ok.mpr ⟨_,orElse_ok.mpr (fromUtf8_utf8 text),
    bind_ok.mpr ⟨_,orElse_ok.mpr inner,carries⟩⟩⟩

end PemText

/-- A layout of a PEM text for any bytes: one line. -/
theorem pemText_line (der : Bytes) :
    PemText der (String.ofList (beginMarker ++ base64Text der ++ endMarker)) where
  laidOut := by
    refine ⟨[],base64Text der,[],by simp,by simp,by simp,?_⟩
    rw [List.filter_eq_self]
    intro c member
    rw [(base64Text_clean member).1]
    rfl

/-- Both encodings of a certificate decode to it, in every layout; and a text that is one block
is read as its body alone, which no dash of a further marker gets through. -/
theorem pemToDer_encodings :
    (∀ der text, PemText der text →
      pemToDer text = .ok der ∧ pemToDer (String.ofList (base64Text (utf8 text))) = .ok der) ∧
    ∀ text body, trim text.toList = beginMarker ++ body ++ endMarker →
      pemToDer text = orElse (Base64.decode (utf8 (String.ofList (body.filter (fun c => !isWhitespace c)))))
        "PEM body is not valid base64" ∧
      ('-' ∈ body → pemToDer text = .error "PEM body is not valid base64") := by
  refine ⟨fun der text pem => ⟨pem.decodes,pem.wrapped_decodes⟩,fun text body block => ?_⟩
  rw [pemToDer_block block]
  refine ⟨rfl,fun inside => pemBody_corrupt inside (by decide) ⟨45,by decide,?_⟩⟩
  exact fun written => (written_small written).2.1 rfl

theorem sample_pem_encodings :
    pemToDer "-----BEGIN CERTIFICATE-----\nAg=\t=\n-----END CERTIFICATE-----\n" = .ok [2] ∧
      pemToDer "-----BEGIN CERTIFICATE-----Ag==-----END CERTIFICATE----------BEGIN CERTIFICATE-----Aw==-----END CERTIFICATE-----" =
        .error "PEM body is not valid base64" := by
  constructor
  · have after : ∀ c ∈ ['\n'], isWhitespace c = true := List.forall_mem_singleton.mpr (by decide +kernel)
    refine (pemToDer_encodings.1 [2] _ ⟨[],"\nAg=\t=\n".toList,['\n'],?_,by simp,after,?_⟩).1 <;> decide +kernel
  · refine (pemToDer_encodings.2 _ "Ag==-----END CERTIFICATE----------BEGIN CERTIFICATE-----Aw==".toList ?_).2 ?_ <;>
      decide +kernel

end GatewaySdk.Upgrade
