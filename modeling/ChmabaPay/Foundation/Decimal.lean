import Mathlib.Tactic

/-! # Decimal arithmetic

Numbers as a decimal context computes with them: a coefficient and a power of ten, or one
of the special values. A context keeps a number of digits; a product with more of them is
rounded, halves to the even neighbour. Comparisons and integer parts are exact.
-/

/-- A decimal number or a special value. -/
inductive Decimal where
  | finite (coefficient exponent : ℤ)
  | infinity (negative : Bool)
  | nan
deriving DecidableEq

namespace Decimal

/-- Why an operation raised. -/
inductive Error where
  | invalidOperation
  | overflow
  | value
deriving DecidableEq

/-! ## Operations -/

/-- Drop the last digits of a coefficient, halves to the even neighbour. -/
def roundOff (places : ℕ) (coefficient : ℤ) : ℤ :=
  let quotient := coefficient.natAbs / 10 ^ places
  let rest := coefficient.natAbs % 10 ^ places
  let down := 2 * rest < 10 ^ places ∨ (2 * rest = 10 ^ places ∧ quotient % 2 = 0)
  coefficient.sign * (if down then quotient else quotient + 1 : ℕ)

/-- The number a context of that precision keeps. -/
def fit (precision : ℕ) (coefficient exponent : ℤ) : Decimal :=
  if coefficient.natAbs < 10 ^ precision then .finite coefficient exponent
  else
    let places := Nat.log 10 coefficient.natAbs + 1 - precision
    let rounded := roundOff places coefficient
    if rounded.natAbs < 10 ^ precision then .finite rounded (exponent + places)
    -- the digits were all nines, and one more place appeared
    else .finite (roundOff 1 rounded) (exponent + places + 1)

/-- The product with an integer. -/
def scale (precision : ℕ) (factor : ℤ) : Decimal → Except Error Decimal
  | .finite coefficient exponent => .ok (fit precision (coefficient * factor) exponent)
  | .infinity negative =>
      if factor = 0 then .error .invalidOperation
      else .ok (.infinity (negative != decide (factor < 0)))
  | .nan => .ok .nan

/-- Whether a number is zero or less. A comparison with a NaN raises. -/
def notPositive : Decimal → Except Error Bool
  | .finite coefficient _ => .ok (decide (coefficient ≤ 0))
  | .infinity negative => .ok negative
  | .nan => .error .invalidOperation

/-- The nearest integer. -/
def toIntegralValue : Decimal → Decimal
  | .finite coefficient exponent =>
      if 0 ≤ exponent then .finite coefficient exponent
      else .finite (roundOff (-exponent).toNat coefficient) 0
  | .infinity negative => .infinity negative
  | .nan => .nan

/-- Equality of values: both coefficients are read at the smaller exponent. -/
def same : Decimal → Decimal → Bool
  | .finite coefficient exponent, .finite coefficient' exponent' =>
      let least := min exponent exponent'
      decide (coefficient * 10 ^ (exponent - least).toNat =
        coefficient' * 10 ^ (exponent' - least).toNat)
  | .infinity negative, .infinity negative' => negative == negative'
  | _, _ => false

/-- The integer part. -/
def toInt : Decimal → Except Error ℤ
  | .finite coefficient exponent =>
      if 0 ≤ exponent then .ok (coefficient * 10 ^ exponent.toNat)
      else .ok (coefficient.tdiv (10 ^ (-exponent).toNat))
  | .infinity _ => .error .overflow
  | .nan => .error .value

/-! ## Values -/

/-- The number a finite decimal stands for. -/
def toRat? : Decimal → Option ℚ
  | .finite coefficient exponent => some ((coefficient : ℚ) * 10 ^ exponent)
  | .infinity _ | .nan => none

section Values

variable {precision : ℕ} {coefficient exponent factor : ℤ}

@[simp] theorem toRat?_finite :
    (finite coefficient exponent).toRat? = some ((coefficient : ℚ) * 10 ^ exponent) := rfl

/-- A product that fits the context is exact. -/
theorem scale_finite (hfits : (coefficient * factor).natAbs < 10 ^ precision) :
    (finite coefficient exponent).scale precision factor =
      .ok (.finite (coefficient * factor) exponent) := by
  simp only [scale, fit, if_pos hfits]

theorem zpow_of_nonneg (hexponent : 0 ≤ exponent) :
    (10 : ℚ) ^ exponent = ((10 ^ exponent.toNat : ℤ) : ℚ) := by
  obtain ⟨places, rfl⟩ := Int.eq_ofNat_of_zero_le hexponent
  simp

/-- A number that equals its nearest integer is read as that integer. -/
theorem toInt_of_integral
    (hintegral : (finite coefficient exponent).same
      (finite coefficient exponent).toIntegralValue = true) :
    ∃ integer : ℤ, (finite coefficient exponent).toInt = .ok integer ∧
      (integer : ℚ) = coefficient * 10 ^ exponent := by
  by_cases hexponent : 0 ≤ exponent
  · refine ⟨coefficient * 10 ^ exponent.toNat, ?_, ?_⟩
    · simp only [toInt, if_pos hexponent]
    · rw [zpow_of_nonneg hexponent]
      push_cast
      rfl
  · have hplaces : exponent = -((-exponent).toNat : ℤ) := by omega
    generalize (-exponent).toNat = places at hplaces
    subst hplaces
    simp only [toIntegralValue, if_neg hexponent, same, decide_eq_true_eq] at hintegral
    generalize roundOff _ coefficient = rounded at hintegral
    -- read at the exponent of the number, the integer has that many zeros
    have hleast : min (-(places : ℤ)) 0 = -places := by omega
    simp only [hleast, sub_self, Int.toNat_zero, pow_zero, mul_one, zero_sub, neg_neg,
      Int.toNat_natCast] at hintegral
    refine ⟨rounded, ?_, ?_⟩
    · have hunit : (10 : ℤ) ^ places ≠ 0 := pow_ne_zero _ (by decide)
      simp only [toInt, if_neg hexponent, neg_neg, Int.toNat_natCast, hintegral,
        Int.mul_tdiv_cancel _ hunit]
    · have hunit : (10 : ℚ) ^ places ≠ 0 := pow_ne_zero _ (by norm_num)
      rw [hintegral, zpow_neg, zpow_natCast]
      push_cast
      rw [mul_assoc, mul_inv_cancel₀ hunit, mul_one]

end Values

end Decimal
