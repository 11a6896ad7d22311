import GatewaySdk.Text.PrefixFree

/-! Whole numbers as a JSON text has them. -/
namespace GatewaySdk.Text.Decimal

def digit (d : Nat) : Char := Char.ofNat (48 + d)

def value (c : Char) : Option Nat := if 48 ≤ c.toNat ∧ c.toNat < 58 then some (c.toNat-48) else none

def ofNat (n : Nat) : List Char := (digits n).map digit

def toNat : List Char → Option Nat
  | [] => none
  | text => (text.mapM value).map fun ds => Nat.ofDigits 10 ds.reverse

def ofInt : Int → List Char
  | .ofNat n => ofNat n
  | .negSucc n => '-'::ofNat (n+1)

def toInt : List Char → Option Int
  | '-'::text => (toNat text).map fun n => -n
  | text => (toNat text).map fun n => n

theorem value_digit : ∀ d < 10, value (digit d) = some d := by decide

theorem digits_ne_nil (n : Nat) : digits n ≠ [] := by
  unfold digits
  split
  · exact List.cons_ne_nil _ _
  next positive => exact List.reverse_ne_nil_iff.mpr (Nat.digits_ne_nil_iff_ne_zero.mpr positive)

theorem mapM_digits {ds : List Nat} (small : ∀ d ∈ ds, d < 10) : (ds.map digit).mapM value = some ds := by
  induction ds with
  | nil => rfl
  | cons d ds ih =>
    rw [List.map_cons,List.mapM_cons,value_digit d (small d List.mem_cons_self),
      ih fun e member => small e (List.mem_cons_of_mem _ member)]
    rfl

theorem toNat_ofNat (n : Nat) : toNat (ofNat n) = some n := by
  have whole : Nat.ofDigits 10 (digits n).reverse = n := by
    unfold digits
    split
    next zero => simp [zero]
    next => rw [List.reverse_reverse,Nat.ofDigits_digits]
  unfold ofNat
  match found : (digits n).map digit with
  | [] => exact absurd (List.map_eq_nil_iff.mp found) (digits_ne_nil n)
  | c::text =>
    rw [toNat,← found,mapM_digits fun d => digits_lt,Option.map_some,whole]
    exact List.cons_ne_nil _ _

/-- A number without a sign does not begin with one. -/
theorem ofNat_unsigned (n : Nat) (text : List Char) : ofNat n ≠ '-'::text := by
  intro same
  have member : '-' ∈ ofNat n := same ▸ List.mem_cons_self
  obtain ⟨d,inside,equal⟩ := List.mem_map.mp member
  have read := value_digit d (digits_lt inside)
  have unread : value '-' = none := by decide
  rw [equal,unread] at read
  cases read

theorem toInt_ofInt (n : Int) : toInt (ofInt n) = some n := by
  cases n with
  | ofNat n =>
    have plain : toInt (ofNat n) = (toNat (ofNat n)).map fun n => (n : Int) := by
      unfold toInt
      split
      next text same => exact absurd same (ofNat_unsigned n text)
      · rfl
    rw [ofInt,plain,toNat_ofNat]
    rfl
  | negSucc n =>
    rw [ofInt,toInt,toNat_ofNat]
    rfl

end GatewaySdk.Text.Decimal
