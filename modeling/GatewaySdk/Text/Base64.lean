import Mathlib.Data.List.Basic

/-! Standard base64 as a strict decoder reads it: the usual alphabet, full padding,
no bits left over. -/
namespace GatewaySdk.Text.Base64

/-- The place in the alphabet: `A` to `Z`, `a` to `z`, `0` to `9`, `+`, `/`. -/
def sextet (c : UInt8) : Option Nat :=
  let n := c.toNat
  if 65 ≤ n ∧ n ≤ 90 then some (n - 65)
  else if 97 ≤ n ∧ n ≤ 122 then some (n - 71)
  else if 48 ≤ n ∧ n ≤ 57 then some (n + 4)
  else if n = 43 then some 62
  else if n = 47 then some 63
  else none

/-- The last group: two characters for one byte, three for two, four for three. -/
def lastGroup (a b c d : UInt8) : Option (List UInt8) := do
  let x ← sextet a
  let y ← sextet b
  if c = 61 ∧ d = 61 then
    if y % 16 = 0 then some [UInt8.ofNat (x * 4 + y / 16)] else none
  else do
    let z ← sextet c
    if d = 61 then
      if z % 4 = 0 then some [UInt8.ofNat (x * 4 + y / 16),UInt8.ofNat (y % 16 * 16 + z / 4)] else none
    else do
      let t ← sextet d
      some [UInt8.ofNat (x * 4 + y / 16),UInt8.ofNat (y % 16 * 16 + z / 4),UInt8.ofNat (z % 4 * 64 + t)]

def decode : List UInt8 → Option (List UInt8)
  | [] => some []
  | [a,b,c,d] => lastGroup a b c d
  | a::b::c::d::rest => do
    let x ← sextet a
    let y ← sextet b
    let z ← sextet c
    let t ← sextet d
    let more ← decode rest
    some (UInt8.ofNat (x * 4 + y / 16)::UInt8.ofNat (y % 16 * 16 + z / 4)::UInt8.ofNat (z % 4 * 64 + t)::more)
  | _ => none

/-- The character at a place of the alphabet. -/
def letter (n : Nat) : UInt8 :=
  if n < 26 then UInt8.ofNat (n + 65)
  else if n < 52 then UInt8.ofNat (n + 71)
  else if n < 62 then UInt8.ofNat (n - 4)
  else if n = 62 then 43
  else 47

def encode : List UInt8 → List UInt8
  | [] => []
  | [a] => [letter (a.toNat / 4),letter (a.toNat % 4 * 16),61,61]
  | [a,b] => [letter (a.toNat / 4),letter (a.toNat % 4 * 16 + b.toNat / 16),letter (b.toNat % 16 * 4),61]
  | a::b::c::rest =>
    letter (a.toNat / 4)::letter (a.toNat % 4 * 16 + b.toNat / 16)::letter (b.toNat % 16 * 4 + c.toNat / 64)::
      letter (c.toNat % 64)::encode rest

theorem encode_length (bytes : List UInt8) : (encode bytes).length = 4 * ((bytes.length + 2) / 3) := by
  induction bytes using encode.induct with
  | case1 => rfl
  | case2 a => simp [encode]
  | case3 a b => simp [encode]
  | case4 a b c rest ih =>
    simp only [encode,List.length_cons,ih]
    omega

theorem sextet_letter : ∀ n < 64, sextet (letter n) = some n := by decide

theorem sextet_pad : sextet 61 = none := by decide

theorem letter_ne_pad {n : Nat} (small : n < 64) : letter n ≠ 61 := by
  intro same
  have found := sextet_letter n small
  rw [same,sextet_pad] at found
  cases found

theorem byte_of {n : Nat} {b : UInt8} (value : n = b.toNat) : UInt8.ofNat n = b := by
  rw [value,UInt8.ofNat_toNat]

/-- Four letters are three bytes, at the end of a text as before more. -/
theorem decode_group {a b c d : UInt8} {x y z t : Nat} (first : sextet a = some x) (second : sextet b = some y)
    (third : sextet c = some z) (fourth : sextet d = some t) (rest : List UInt8) :
    decode (a::b::c::d::rest) = (decode rest).map (fun more =>
      UInt8.ofNat (x * 4 + y / 16)::UInt8.ofNat (y % 16 * 16 + z / 4)::UInt8.ofNat (z % 4 * 64 + t)::more) := by
  cases rest with
  | nil =>
    have thirdLetter : c ≠ 61 := by
      rintro rfl
      cases sextet_pad.symm.trans third
    have fourthLetter : d ≠ 61 := by
      rintro rfl
      cases sextet_pad.symm.trans fourth
    simp [decode,lastGroup,first,second,third,fourth,thirdLetter,fourthLetter]
  | cons e rest =>
    rw [decode]
    · cases decode (e::rest) <;> simp [first,second,third,fourth]
    · simp

theorem decode_encode (bytes : List UInt8) : decode (encode bytes) = some bytes := by
  induction bytes using encode.induct with
  | case1 => rfl
  | case2 a =>
    have bound := a.toNat_lt
    have high := sextet_letter (a.toNat / 4) (by omega)
    have low := sextet_letter (a.toNat % 4 * 16) (by omega)
    have even : a.toNat % 4 * 16 % 16 = 0 := by omega
    have whole : UInt8.ofNat (a.toNat / 4 * 4 + a.toNat % 4 * 16 / 16) = a := byte_of (by omega)
    simp only [encode,decode,lastGroup,high,low,even,whole,and_self,if_true,Option.bind_eq_bind,Option.bind_some]
  | case3 a b =>
    have boundA := a.toNat_lt
    have boundB := b.toNat_lt
    have high := sextet_letter (a.toNat / 4) (by omega)
    have middle := sextet_letter (a.toNat % 4 * 16 + b.toNat / 16) (by omega)
    have low := sextet_letter (b.toNat % 16 * 4) (by omega)
    have unpadded := letter_ne_pad (n := b.toNat % 16 * 4) (by omega)
    have even : b.toNat % 16 * 4 % 4 = 0 := by omega
    have first : UInt8.ofNat (a.toNat / 4 * 4 + (a.toNat % 4 * 16 + b.toNat / 16) / 16) = a := byte_of (by omega)
    have second : UInt8.ofNat ((a.toNat % 4 * 16 + b.toNat / 16) % 16 * 16 + b.toNat % 16 * 4 / 4) = b :=
      byte_of (by omega)
    simp only [encode,decode,lastGroup,high,middle,low,unpadded,even,first,second,false_and,if_true,if_false,
      Option.bind_eq_bind,Option.bind_some]
  | case4 a b c rest ih =>
    have boundA := a.toNat_lt
    have boundB := b.toNat_lt
    have boundC := c.toNat_lt
    have first : UInt8.ofNat (a.toNat / 4 * 4 + (a.toNat % 4 * 16 + b.toNat / 16) / 16) = a := byte_of (by omega)
    have second : UInt8.ofNat ((a.toNat % 4 * 16 + b.toNat / 16) % 16 * 16 +
      (b.toNat % 16 * 4 + c.toNat / 64) / 4) = b := byte_of (by omega)
    have third : UInt8.ofNat ((b.toNat % 16 * 4 + c.toNat / 64) % 4 * 64 + c.toNat % 64) = c := byte_of (by omega)
    rw [encode,decode_group (sextet_letter _ (by omega)) (sextet_letter _ (by omega)) (sextet_letter _ (by omega))
      (sextet_letter _ (by omega)),ih,first,second,third]
    rfl

/-- A letter of the alphabet or the pad. -/
def Written (b : UInt8) : Prop := (sextet b).isSome = true ∨ b = 61

theorem lastGroup_written {a b c d : UInt8} {bytes : List UInt8} (decoded : lastGroup a b c d = some bytes) :
    Written a ∧ Written b ∧ Written c ∧ Written d := by
  simp only [lastGroup,Option.bind_eq_bind,Option.bind_eq_some_iff] at decoded
  obtain ⟨x,first,y,second,rest⟩ := decoded
  refine ⟨.inl (by rw [first]; rfl),.inl (by rw [second]; rfl),?_⟩
  split at rest
  next pads => exact ⟨.inr pads.1,.inr pads.2⟩
  next =>
    obtain ⟨z,third,rest⟩ := Option.bind_eq_some_iff.mp rest
    refine ⟨.inl (by rw [third]; rfl),?_⟩
    split at rest
    next pad => exact .inr pad
    next =>
      obtain ⟨t,fourth,_⟩ := Option.bind_eq_some_iff.mp rest
      exact .inl (by rw [fourth]; rfl)

theorem decode_written {text bytes : List UInt8} (decoded : decode text = some bytes) : ∀ b ∈ text, Written b := by
  induction text using decode.induct generalizing bytes with
  | case1 => simp
  | case2 a b c d =>
    obtain ⟨one,two,three,four⟩ := lastGroup_written decoded
    simp only [List.mem_cons,List.not_mem_nil,or_false]
    rintro e (rfl | rfl | rfl | rfl) <;> assumption
  | case3 a b c d rest proper ih =>
    rw [decode] at decoded
    · simp only [Option.bind_eq_bind,Option.bind_eq_some_iff] at decoded
      obtain ⟨x,first,y,second,z,third,t,fourth,more,later,_⟩ := decoded
      have found {e : UInt8} {n : Nat} (found : sextet e = some n) : Written e := .inl (by rw [found]; rfl)
      intro e member
      simp only [List.mem_cons] at member
      rcases member with rfl | rfl | rfl | rfl | inside
      · exact found first
      · exact found second
      · exact found third
      · exact found fourth
      · exact ih later e inside
    · exact proper
  | case4 => simp [decode] at decoded

theorem decode_clean {text : List UInt8} {bytes : List UInt8} (decoded : decode text = some bytes) :
    34 ∉ text := by
  intro inside
  rcases decode_written decoded 34 inside with letter | pad
  · simp [sextet] at letter
  · simp at pad

theorem encode_written (bytes : List UInt8) : ∀ b ∈ encode bytes, Written b := decode_written (decode_encode bytes)

end GatewaySdk.Text.Base64
