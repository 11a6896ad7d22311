import Mathlib.Tactic.IntervalCases
import Mathlib.Data.List.Sort
import Mathlib.Data.String.Basic
import GatewaySdk.Text.PrefixFree

/-! JSON objects of texts and integers as they are written without whitespace, keys sorted:
what a text needs escaped, and that the rest is written as it stands. -/
namespace GatewaySdk.Text.Compact

inductive Scalar where
  | text (value : String)
  | integer (value : Int)

def hexDigit (n : Nat) : Char := if n < 10 then Char.ofNat (48 + n) else Char.ofNat (87 + n)

/-- A character between quotes. -/
def escapeChar (c : Char) : List Char :=
  if c = '"' then ['\\','"']
  else if c = '\\' then ['\\','\\']
  else if c.toNat = 8 then ['\\','b']
  else if c.toNat = 9 then ['\\','t']
  else if c.toNat = 10 then ['\\','n']
  else if c.toNat = 12 then ['\\','f']
  else if c.toNat = 13 then ['\\','r']
  else if c.toNat < 32 then ['\\','u','0','0',hexDigit (c.toNat / 16),hexDigit (c.toNat % 16)]
  else [c]

/-- Neither a quote nor a backslash nor a control character. -/
def Unescaped (text : List Char) : Prop := ∀ c ∈ text, c ≠ '"' ∧ c ≠ '\\' ∧ 32 ≤ c.toNat

def quote (text : List Char) : List Char := '"'::(text.flatMap escapeChar ++ ['"'])

def Scalar.write : Scalar → List Char
  | .text value => quote value.toList
  | .integer value => (toString value).toList

def member (field : String × Scalar) : List Char := quote field.1.toList ++ ':'::field.2.write

def object (fields : List (String × Scalar)) : List Char :=
  '\x7b'::(List.intercalate [','] ((fields.insertionSort (fun a b => a.1 ≤ b.1)).map member) ++ ['\x7d'])

theorem escapeChar_solid (c : Char) : escapeChar c ≠ [] := by
  unfold escapeChar
  split_ifs <;> exact List.cons_ne_nil _ _

theorem escapeChar_unescaped {c : Char} (quote : c ≠ '"') (slash : c ≠ '\\') (printed : 32 ≤ c.toNat) :
    escapeChar c = [c] := by
  unfold escapeChar
  rw [if_neg quote,if_neg slash]
  split_ifs <;> first | rfl | omega

theorem escape_iff {text : List Char} : text.flatMap escapeChar = text ↔ Unescaped text := by
  have longer (c : Char) : 1 ≤ (escapeChar c).length := List.length_pos_of_ne_nil (escapeChar_solid c)
  have grown (text : List Char) : text.length ≤ (text.flatMap escapeChar).length := by
    induction text with
    | nil => simp
    | cons c text ih =>
      have one := longer c
      simp only [List.flatMap_cons,List.length_append,List.length_cons]
      omega
  induction text with
  | nil => simp [Unescaped]
  | cons c text ih =>
    rw [List.flatMap_cons]
    constructor
    · intro same
      have lengths := congrArg List.length same
      have one := longer c
      have rest := grown text
      simp only [List.length_append,List.length_cons] at lengths
      obtain ⟨d,only⟩ := List.length_eq_one_iff.mp (show (escapeChar c).length = 1 by omega)
      rw [only,List.singleton_append,List.cons.injEq] at same
      intro e member
      rcases List.mem_cons.mp member with rfl | later
      · unfold escapeChar at only
        split_ifs at only with quoted slashed <;> first | exact ⟨quoted,slashed,by omega⟩ | cases only
      · exact ih.mp same.2 e later
    · intro free
      obtain ⟨quoted,slashed,printed⟩ := free c List.mem_cons_self
      rw [escapeChar_unescaped quoted slashed printed,ih.mpr (fun d later => free d (List.mem_cons_of_mem c later))]
      rfl

theorem quote_unescaped {text : List Char} (free : Unescaped text) : quote text = '"'::(text ++ ['"']) := by
  rw [quote,escape_iff.mpr free]

def hexValue (c : Char) : Nat := if c.toNat < 58 then c.toNat-48 else c.toNat-87

/-- The character that an escape at the front of a text stands for, and what comes after it. -/
def unescapeChar : List Char → Option (Char × List Char)
  | '\\' :: '"' :: rest => some ('"',rest)
  | '\\' :: '\\' :: rest => some ('\\',rest)
  | '\\' :: 'b' :: rest => some (Char.ofNat 8,rest)
  | '\\' :: 't' :: rest => some (Char.ofNat 9,rest)
  | '\\' :: 'n' :: rest => some (Char.ofNat 10,rest)
  | '\\' :: 'f' :: rest => some (Char.ofNat 12,rest)
  | '\\' :: 'r' :: rest => some (Char.ofNat 13,rest)
  | '\\' :: 'u' :: '0' :: '0' :: high :: low :: rest => some (Char.ofNat (16*hexValue high+hexValue low),rest)
  | c::rest => some (c,rest)
  | [] => none

theorem hexValue_hexDigit {n : Nat} (digit : n < 16) : hexValue (hexDigit n) = n := by
  interval_cases n <;> rfl

theorem unescapeChar_escapeChar (c : Char) (rest : List Char) : unescapeChar (escapeChar c ++ rest) = some (c,rest) := by
  have named {n : Nat} (code : c.toNat = n) : Char.ofNat n = c := by rw [← code,Char.ofNat_toNat]
  unfold escapeChar
  split_ifs with quote slash back tab line feed carriage control
  · rw [quote]
    rfl
  · rw [slash]
    rfl
  · rw [← named back]
    rfl
  · rw [← named tab]
    rfl
  · rw [← named line]
    rfl
  · rw [← named feed]
    rfl
  · rw [← named carriage]
    rfl
  · have value : 16*hexValue (hexDigit (c.toNat/16))+hexValue (hexDigit (c.toNat%16)) = c.toNat := by
      rw [hexValue_hexDigit (by omega),hexValue_hexDigit (Nat.mod_lt _ (by omega)),Nat.div_add_mod]
    change some (Char.ofNat _,rest) = _
    rw [value,Char.ofNat_toNat]
  · rw [List.singleton_append]
    unfold unescapeChar
    split <;> simp_all

theorem escapeChar_free : PrefixFree escapeChar := PrefixFree.of_reader unescapeChar unescapeChar_escapeChar

/-- A quote that stands for itself is written with a backslash before it. -/
theorem escapeChar_ne_quote (c : Char) (x y : List Char) : escapeChar c ++ x ≠ ['"'] ++ y := by
  intro same
  have read := unescapeChar_escapeChar c x
  rw [same] at read
  have quote : '"' = c := by
    have both := Option.some.inj read
    exact congrArg Prod.fst both
  rw [← quote] at same
  cases same

instance (text : List Char) : Decidable (Unescaped text) := decidable_of_iff (text.flatMap escapeChar = text) escape_iff

end GatewaySdk.Text.Compact
