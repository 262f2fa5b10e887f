import Mathlib.Algebra.Ring.Int.Defs
import Mathlib.Algebra.Ring.Nat

/-! Amounts of money in fen. An amount is an `int64`, and a sum or a product of amounts
is the exact one or refused. -/
namespace Goshop.Money.Fen

section Words

def FitsInt64 (number : Int) : Prop :=
  -2 ^ 63 ≤ number ∧ number ≤ 2 ^ 63 - 1

instance (number : Int) : Decidable (FitsInt64 number) :=
  inferInstanceAs (Decidable (_ ∧ _))

theorem fitsInt64_toInt (amount : Int64) : FitsInt64 amount.toInt := by
  have hlow := amount.le_toInt
  have hhigh := amount.toInt_lt
  unfold FitsInt64
  omega

theorem toInt_toInt64 (word : UInt64) :
    word.toInt64.toInt =
      if word.toNat < 2 ^ 63 then (word.toNat : Int) else word.toNat - 2 ^ 64 := by
  have hcond := BitVec.toInt_eq_toNat_cond word.toBitVec
  change word.toInt64.toInt = if 2 * word.toNat < 2 ^ 64 then (word.toNat : Int) else
    word.toNat - (2 ^ 64 : Nat) at hcond
  rw [hcond]
  split <;> split <;> omega

theorem toNat_toUInt64 (amount : Int64) (h : 0 ≤ amount.toInt) :
    (amount.toUInt64.toNat : Int) = amount.toInt := by
  have hcond := BitVec.toInt_eq_toNat_cond amount.toBitVec
  change amount.toInt = if 2 * amount.toUInt64.toNat < 2 ^ 64 then (amount.toUInt64.toNat : Int)
    else amount.toUInt64.toNat - (2 ^ 64 : Nat) at hcond
  have hlt := amount.toUInt64.toNat_lt
  split at hcond <;> omega

theorem lt_zero_iff (amount : Int64) : amount < 0 ↔ amount.toInt < 0 :=
  Int64.lt_iff_toInt_lt

end Words

section Magnitudes

def int64Magnitude (v : Int64) : UInt64 :=
  if v < 0 then (-(v + 1)).toUInt64 + 1 else v.toUInt64

def limit (negative : Bool) : UInt64 :=
  let limit := Int64.maxValue.toUInt64
  if negative then limit + 1 else limit

def withSign (negative : Bool) (magnitude : UInt64) : Int64 :=
  let result := magnitude.toInt64
  if negative ∧ magnitude ≠ (1 : UInt64) <<< 63 then -result else result

theorem toNat_int64Magnitude (v : Int64) : (int64Magnitude v).toNat = v.toInt.natAbs := by
  have hlow := v.le_toInt
  have hhigh := v.toInt_lt
  unfold int64Magnitude
  by_cases hneg : v < 0
  · rw [if_pos hneg]
    rw [lt_zero_iff] at hneg
    have hsucc : (v + 1).toInt = v.toInt + 1 := by
      rw [Int64.toInt_add]
      exact Int.bmod_eq_of_le (by change _ ≤ v.toInt + 1; omega) (by change v.toInt + 1 < _; omega)
    have hopposite : (-(v + 1)).toInt = -(v.toInt + 1) := by
      rw [Int64.toInt_neg, hsucc]
      exact Int.bmod_eq_of_le (by omega) (by omega)
    have hword := toNat_toUInt64 (-(v + 1)) (by omega)
    rw [UInt64.toNat_add]
    change ((-(v + 1)).toUInt64.toNat + 1) % 2 ^ 64 = _
    omega
  · rw [if_neg hneg]
    rw [lt_zero_iff] at hneg
    have hword := toNat_toUInt64 v (by omega)
    omega

def signed (negative : Bool) (magnitude : Nat) : Int :=
  if negative then -magnitude else magnitude

theorem fitsInt64_signed {negative : Bool} {magnitude : Nat} :
    FitsInt64 (signed negative magnitude) ↔ magnitude ≤ (limit negative).toNat := by
  unfold FitsInt64 signed
  cases negative with
  | true =>
    change _ ↔ magnitude ≤ 9223372036854775808
    rw [if_pos rfl]
    omega
  | false =>
    change _ ↔ magnitude ≤ 9223372036854775807
    rw [if_neg Bool.false_ne_true]
    omega

theorem toInt_withSign {negative : Bool} {magnitude : UInt64}
    (h : FitsInt64 (signed negative magnitude.toNat)) :
    (withSign negative magnitude).toInt = signed negative magnitude.toNat := by
  have hplain := toInt_toInt64 magnitude
  have hcorner : magnitude ≠ (1 : UInt64) <<< 63 ↔ magnitude.toNat ≠ 2 ^ 63 := by
    rw [ne_eq, ne_eq, ← UInt64.toNat_inj]
    rfl
  unfold FitsInt64 signed at h
  unfold withSign signed
  cases negative with
  | true =>
    by_cases hsmall : magnitude.toNat ≠ 2 ^ 63
    · rw [if_pos ⟨rfl, hcorner.mpr hsmall⟩, Int64.toInt_neg, hplain, if_pos rfl, if_pos (by grind)]
      exact Int.bmod_eq_of_le (by grind) (by omega)
    · rw [if_neg fun hboth => hsmall (hcorner.mp hboth.2), hplain, if_pos rfl, if_neg (by omega)]
      omega
  | false =>
    rw [if_neg fun hboth => Bool.false_ne_true hboth.1, hplain, if_neg Bool.false_ne_true,
      if_pos (by grind)]

end Magnitudes

section Arithmetic

def add (left right : Int64) : Except String Int64 :=
  if (0 < right ∧ Int64.maxValue - right < left) ∨
      (right < 0 ∧ left < Int64.minValue - right) then
    .error ("money add overflow: " ++ toString left ++ " + " ++ toString right)
  else .ok (left + right)

/-- `bits.Mul64`: the high and the low word of a product. -/
def mul64 (x y : UInt64) : UInt64 × UInt64 :=
  (.ofNat (x.toNat * y.toNat / 2 ^ 64), .ofNat (x.toNat * y.toNat))

def multiply (f qty : Int64) : Except String Int64 :=
  if qty = 0 ∨ f = 0 then .ok 0
  else
    let (overflow, product) := mul64 (int64Magnitude f) (int64Magnitude qty)
    let negative := decide (f < 0) != decide (qty < 0)
    if overflow ≠ 0 ∨ limit negative < product then
      .error ("money multiply overflow: " ++ toString f ++ " * " ++ toString qty)
    else .ok (withSign negative product)

/-- The answer is the number, and an error exactly if no `int64` is. -/
def ExactOrRefused (answer : Except String Int64) (number : Int) : Prop :=
  ((∃ message, answer = .error message) ↔ ¬FitsInt64 number) ∧
    ∀ result, answer = .ok result → result.toInt = number

theorem ExactOrRefused.error {message : String} {number : Int} (h : ¬FitsInt64 number) :
    ExactOrRefused (.error message) number :=
  ⟨⟨fun _ => h, fun _ => ⟨message, rfl⟩⟩, fun _ hok => by cases hok⟩

theorem ExactOrRefused.ok {result : Int64} {number : Int} (h : result.toInt = number) :
    ExactOrRefused (.ok result) number := by
  constructor
  · constructor
    · rintro ⟨message, herror⟩
      cases herror
    · intro hrange
      rw [← h] at hrange
      exact absurd (fitsInt64_toInt result) hrange
  · intro other hother
    cases hother
    exact h

theorem ExactOrRefused.exists_ok {answer : Except String Int64} {number : Int}
    (h : ExactOrRefused answer number) (hfits : FitsInt64 number) :
    ∃ result, answer = .ok result := by
  cases answer with
  | error message => exact absurd hfits (h.1.mp ⟨message, rfl⟩)
  | ok result => exact ⟨result, rfl⟩

theorem add_exact (left right : Int64) :
    ExactOrRefused (add left right) (left.toInt + right.toInt) := by
  have hleft := fitsInt64_toInt left
  have hright := fitsInt64_toInt right
  unfold FitsInt64 at hleft hright
  have hmax : 0 < right.toInt →
      (Int64.maxValue - right).toInt = 9223372036854775807 - right.toInt := by
    intro hpos
    rw [Int64.toInt_sub]
    change (9223372036854775807 - right.toInt).bmod (2 ^ 64) = _
    exact Int.bmod_eq_of_le (by omega) (by omega)
  have hmin : right.toInt < 0 →
      (Int64.minValue - right).toInt = -9223372036854775808 - right.toInt := by
    intro hneg
    rw [Int64.toInt_sub]
    change (-9223372036854775808 - right.toInt).bmod (2 ^ 64) = _
    exact Int.bmod_eq_of_le (by omega) (by omega)
  unfold add
  simp only [Int64.lt_iff_toInt_lt, Int64.toInt_zero]
  split
  next hover =>
    apply ExactOrRefused.error
    unfold FitsInt64
    omega
  next hfits =>
    apply ExactOrRefused.ok
    rw [Int64.toInt_add]
    exact Int.bmod_eq_of_le (by omega) (by omega)

/-- The high word is zero exactly if the low word is the product. -/
theorem mul64_fits (x y : UInt64) (bound : UInt64) :
    (¬((mul64 x y).1 ≠ 0 ∨ bound < (mul64 x y).2) ↔ x.toNat * y.toNat ≤ bound.toNat) ∧
      (x.toNat * y.toNat ≤ bound.toNat → (mul64 x y).2.toNat = x.toNat * y.toNat) := by
  have hx := x.toNat_lt
  have hy := y.toNat_lt
  have hbound := bound.toNat_lt
  have hproduct : x.toNat * y.toNat < 2 ^ 64 * 2 ^ 64 := Nat.mul_lt_mul'' hx hy
  have hhigh : x.toNat * y.toNat / 2 ^ 64 < 2 ^ 64 := Nat.div_lt_of_lt_mul hproduct
  have hzero : (mul64 x y).1 = 0 ↔ x.toNat * y.toNat / 2 ^ 64 = 0 := by
    rw [← UInt64.toNat_inj, mul64, UInt64.toNat_ofNat', Nat.mod_eq_of_lt hhigh]
    rfl
  have hlow : (mul64 x y).2.toNat = x.toNat * y.toNat % 2 ^ 64 := UInt64.toNat_ofNat'
  rw [UInt64.lt_iff_toNat_lt, ne_eq, hzero, hlow]
  generalize x.toNat * y.toNat = product at *
  omega

theorem signed_natAbs_mul (f qty : Int) :
    signed (decide (f < 0) != decide (qty < 0)) (f.natAbs * qty.natAbs) = f * qty := by
  have habs (number : Int) : (number.natAbs : Int) = if number < 0 then -number else number := by
    omega
  unfold signed
  rw [Int.natCast_mul, habs, habs]
  by_cases hfneg : f < 0 <;> by_cases hqneg : qty < 0 <;>
    simp [hfneg, hqneg]

theorem multiply_exact (f qty : Int64) :
    ExactOrRefused (multiply f qty) (f.toInt * qty.toInt) := by
  unfold multiply
  split
  next hzero =>
    apply ExactOrRefused.ok
    obtain rfl | rfl := hzero <;> simp
  next =>
    have hnumber := signed_natAbs_mul f.toInt qty.toInt
    simp only [lt_zero_iff]
    generalize (decide (f.toInt < 0) != decide (qty.toInt < 0)) = negative at *
    obtain ⟨hfits, hproduct⟩ := mul64_fits (int64Magnitude f) (int64Magnitude qty) (limit negative)
    rw [toNat_int64Magnitude, toNat_int64Magnitude, ← fitsInt64_signed, hnumber] at hfits hproduct
    split
    next hover => exact ExactOrRefused.error fun h => hfits.mpr h hover
    next hover =>
      apply ExactOrRefused.ok
      have hrange := hfits.mp hover
      rw [toInt_withSign (by rw [hproduct hrange, hnumber]; exact hrange), hproduct hrange,
        hnumber]

/-- Sums and products of amounts are exact or refused. -/
theorem fen_arithmetic_exact (a b : Int64) :
    ExactOrRefused (add a b) (a.toInt + b.toInt) ∧
      ExactOrRefused (multiply a b) (a.toInt * b.toInt) :=
  ⟨add_exact a b, multiply_exact a b⟩

example : ((multiply Int64.minValue 1).toOption, (multiply Int64.minValue (-1)).toOption,
    (multiply 4294967296 (-2147483648)).toOption) =
    (some Int64.minValue, none, some Int64.minValue) := by
  decide +kernel

end Arithmetic

end Goshop.Money.Fen
