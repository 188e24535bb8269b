import Mathlib.Algebra.Order.Floor.Ring
import Mathlib.Data.Int.Log
import Mathlib.Data.Rat.Floor
import Mathlib.Tactic

/-! # Double arithmetic

A double is an integer of at most 53 bits times a power of two. Every operation on doubles is
the exact one, rounded to the nearest double, and of two that are equally near to the one with
the even last bit. How large a double may be is asked apart: what rounds to 2 ^ 1024 or more
overflows.
-/

namespace Doubles

/-! ## The nearest integer -/

/-- The integer nearest to a number, the even one where two are equally near. -/
def halfEven (number : ℚ) : ℤ :=
  if number - ⌊number⌋ < 1 / 2 then ⌊number⌋
  else if 1 / 2 < number - ⌊number⌋ then ⌊number⌋ + 1
  else if ⌊number⌋ % 2 = 0 then ⌊number⌋ else ⌊number⌋ + 1

section HalfEven

variable {number other : ℚ} {integer : ℤ}

theorem abs_halfEven_sub_le (number : ℚ) : |halfEven number - number| ≤ 1 / 2 := by
  have hlow := Int.floor_le number
  have hhigh := Int.lt_floor_add_one number
  unfold halfEven
  split_ifs <;> push_cast <;> rw [abs_le] <;> constructor <;> linarith

theorem halfEven_of_lt (hnear : |integer - number| < 1 / 2) : halfEven number = integer := by
  have hrounded := abs_le.mp (abs_halfEven_sub_le number)
  have hinteger := abs_lt.mp hnear
  have hlow : (halfEven number : ℚ) < integer + 1 := by linarith
  have hhigh : (integer : ℚ) < halfEven number + 1 := by linarith
  have hlow : halfEven number < integer + 1 := by exact_mod_cast hlow
  have hhigh : integer < halfEven number + 1 := by exact_mod_cast hhigh
  omega

@[simp] theorem halfEven_intCast (integer : ℤ) : halfEven (integer : ℚ) = integer :=
  halfEven_of_lt (by simp)

@[simp] theorem halfEven_zero : halfEven 0 = 0 := by
  have hzero := halfEven_intCast 0
  rwa [Int.cast_zero] at hzero

theorem halfEven_two_pow (places : ℕ) : halfEven (2 ^ places) = 2 ^ places := by
  have hpower := halfEven_intCast (2 ^ places)
  rwa [Int.cast_pow, Int.cast_ofNat] at hpower

theorem halfEven_half (below : ℤ) :
    halfEven ((below : ℚ) + 1 / 2) = if below % 2 = 0 then below else below + 1 := by
  have hfloor : ⌊(below : ℚ) + 1 / 2⌋ = below := by
    rw [Int.floor_eq_iff]
    constructor <;> linarith
  rw [halfEven, hfloor, if_neg (by linarith), if_neg (by linarith)]

/-- Two integers are half away, or the number lies next to one of them. -/
theorem eq_half_of_abs_eq (hhalf : |integer - number| = 1 / 2) :
    number = integer + 1 / 2 ∨ number = ((integer - 1 : ℤ) : ℚ) + 1 / 2 := by
  push_cast
  rcases abs_eq (by norm_num : (0 : ℚ) ≤ 1 / 2) |>.mp hhalf with hbelow | habove
  · exact .inr (by linarith)
  · exact .inl (by linarith)

/-- An even integer is the nearest one also where it is half away. -/
theorem halfEven_of_even (hnear : |integer - number| ≤ 1 / 2) (heven : integer % 2 = 0) :
    halfEven number = integer := by
  rcases hnear.lt_or_eq with hlt | hhalf
  · exact halfEven_of_lt hlt
  · rcases eq_half_of_abs_eq hhalf with habove | hbelow
    · rw [habove, halfEven_half, if_pos heven]
    · rw [hbelow, halfEven_half, if_neg (by omega)]
      omega

theorem even_of_half (hhalf : |halfEven number - number| = 1 / 2) : halfEven number % 2 = 0 := by
  rcases eq_half_of_abs_eq hhalf with habove | hbelow
  · have hrounded := halfEven_half (halfEven number)
    rw [← habove] at hrounded
    split at hrounded
    · assumption
    · omega
  · have hrounded := halfEven_half (halfEven number - 1)
    rw [← hbelow] at hrounded
    split at hrounded <;> omega

theorem halfEven_mono (hle : number ≤ other) : halfEven number ≤ halfEven other := by
  by_contra hnot
  have hrounded := abs_le.mp (abs_halfEven_sub_le number)
  have hrounded' := abs_le.mp (abs_halfEven_sub_le other)
  have hstep : (halfEven other : ℚ) + 1 ≤ halfEven number := by
    exact_mod_cast (not_le.mp hnot : halfEven other < halfEven number)
  -- both are half away, so the numbers are the same
  obtain rfl : number = other := le_antisymm hle (by linarith)
  exact hnot le_rfl

theorem halfEven_nonneg (hnumber : 0 ≤ number) : 0 ≤ halfEven number := by
  have hrounded := halfEven_mono hnumber
  rwa [halfEven_zero] at hrounded

/-- No integer is nearer. -/
theorem abs_halfEven_sub_le_abs (number : ℚ) (integer : ℤ) :
    |halfEven number - number| ≤ |integer - number| := by
  by_cases hsame : integer = halfEven number
  · rw [hsame]
  · have hrounded := abs_halfEven_sub_le number
    by_contra hnot
    exact hsame (halfEven_of_lt ((not_le.mp hnot).trans_le hrounded)).symm

end HalfEven

/-! ## The nearest double -/

/-- The power of two that the last bit of a double near a number stands for. -/
def place (number : ℚ) : ℤ := max (Int.log 2 |number| - 52) (-1074)

def unit (number : ℚ) : ℚ := 2 ^ place number

/-- The double nearest to a number. -/
def nearest (number : ℚ) : ℚ := halfEven (number / unit number) * unit number

/-- What is computed from the number is infinite. -/
def overflows (number : ℚ) : Bool := decide (2 ^ 1024 ≤ |nearest number|)

def IsDouble (number : ℚ) : Prop :=
  ∃ mantissa exponent : ℤ, |mantissa| < 2 ^ 53 ∧ -1074 ≤ exponent ∧
    number = mantissa * 2 ^ exponent

section Places

variable {number other : ℚ}

theorem unit_pos (number : ℚ) : 0 < unit number := by
  unfold unit
  positivity

theorem le_place (number : ℚ) : -1074 ≤ place number := le_max_right _ _

theorem abs_lt_of_place (number : ℚ) : |number| < 2 ^ (place number + 53) := by
  have hlog : |number| < ((2 : ℕ) : ℚ) ^ (Int.log 2 |number| + 1) :=
    Int.lt_zpow_succ_log_self (by norm_num) _
  refine hlog.trans_le ?_
  push_cast
  refine zpow_le_zpow_right₀ (by norm_num) ?_
  have hplace : Int.log 2 |number| - 52 ≤ place number := le_max_left _ _
  omega

/-- Above the least place a number fills its 53 bits. -/
theorem le_abs_of_place (hnumber : number ≠ 0) (hplace : -1074 < place number) :
    2 ^ (place number + 52) ≤ |number| := by
  have hlog : ((2 : ℕ) : ℚ) ^ Int.log 2 |number| ≤ |number| :=
    Int.zpow_log_le_self (by norm_num) (abs_pos.mpr hnumber)
  have heq : place number + 52 = Int.log 2 |number| := by
    unfold place at hplace ⊢
    omega
  rw [heq]
  exact_mod_cast hlog

/-- A number below a power of two has its last bit 53 places below it. -/
theorem place_le {exponent : ℤ} (hnumber : number ≠ 0) (hlt : |number| < 2 ^ (exponent + 53))
    (hexponent : -1074 ≤ exponent) : place number ≤ exponent := by
  by_contra hnot
  have hfilled := le_abs_of_place hnumber (hexponent.trans_lt (not_le.mp hnot))
  have hpower : (2 : ℚ) ^ (exponent + 53) ≤ 2 ^ (place number + 52) :=
    zpow_le_zpow_right₀ (by norm_num) (by omega)
  linarith

theorem unit_le {exponent : ℤ} (hnumber : number ≠ 0) (hlt : |number| < 2 ^ (exponent + 53))
    (hexponent : -1074 ≤ exponent) : unit number ≤ 2 ^ exponent :=
  zpow_le_zpow_right₀ (by norm_num) (place_le hnumber hlt hexponent)

theorem le_place_of_le {exponent : ℤ} (hle : 2 ^ (exponent + 52) ≤ |number|) :
    exponent ≤ place number := by
  by_contra hnot
  have hlt := abs_lt_of_place number
  have hpower : (2 : ℚ) ^ (place number + 53) ≤ 2 ^ (exponent + 52) :=
    zpow_le_zpow_right₀ (by norm_num) (by omega)
  linarith

/-- A factor moves the last bit by no more than its own size. -/
theorem unit_mul_le {factor : ℚ} {places : ℕ} (hnumber : number ≠ 0) (hfactor : 0 < factor)
    (hle : factor ≤ 2 ^ places) : unit (factor * number) ≤ 2 ^ places * unit number := by
  have hlt : |factor * number| < 2 ^ (place number + places + 53) := by
    have hsplit : (2 : ℚ) ^ (place number + places + 53) =
        2 ^ places * 2 ^ (place number + 53) := by
      rw [← zpow_natCast, ← zpow_add₀ (by norm_num)]
      congr 1
      ring
    rw [hsplit, abs_mul, abs_of_pos hfactor]
    have hunit := abs_lt_of_place number
    have hpos : (0 : ℚ) < 2 ^ places := by positivity
    calc factor * |number| ≤ 2 ^ places * |number| :=
          mul_le_mul_of_nonneg_right hle (abs_nonneg _)
      _ < 2 ^ places * 2 ^ (place number + 53) := mul_lt_mul_of_pos_left hunit hpos
  refine (unit_le (mul_ne_zero hfactor.ne' hnumber) hlt ?_).trans_eq ?_
  · have := le_place number
    omega
  · rw [unit, zpow_add₀ (by norm_num), zpow_natCast, mul_comm]

end Places

/-! ## Multiples of a unit -/

section Multiples

variable {number other : ℚ}

/-- A multiple of a power of two is one of every smaller power. -/
theorem exists_multiple {exponent smaller : ℤ} (hle : smaller ≤ exponent) (mantissa : ℤ) :
    ∃ integer : ℤ, (mantissa : ℚ) * 2 ^ exponent = integer * 2 ^ smaller := by
  refine ⟨mantissa * 2 ^ (exponent - smaller).toNat, ?_⟩
  push_cast
  rw [mul_assoc, ← zpow_natCast, ← zpow_add₀ (by norm_num)]
  congr 2
  omega

theorem power_eq_multiple (number : ℚ) :
    (2 : ℚ) ^ (place number + 52) = ((2 ^ 52 : ℤ) : ℚ) * unit number := by
  rw [unit, zpow_add₀ (by norm_num), mul_comm]
  norm_num

theorem abs_mantissa_lt (mantissa exponent : ℤ) (hmantissa : |mantissa| < 2 ^ 53) :
    |(mantissa : ℚ) * 2 ^ exponent| < 2 ^ (exponent + 53) := by
  have hpos : (0 : ℚ) < 2 ^ exponent := by positivity
  have hcast : |(mantissa : ℚ)| < 2 ^ 53 := by exact_mod_cast hmantissa
  rw [abs_mul, abs_of_pos hpos, zpow_add₀ (by norm_num), mul_comm]
  exact mul_lt_mul_of_pos_left (by exact_mod_cast hcast) hpos

/-- A double is a multiple of the unit of a number, or it stands below the power of two that
the number reaches. -/
theorem IsDouble.multiple_or_lt (hother : IsDouble other) (hpos : 0 < number) :
    (∃ integer : ℤ, other = integer * unit number) ∨
      other < 2 ^ (place number + 52) ∧ 2 ^ (place number + 52) ≤ number := by
  obtain ⟨mantissa, exponent, hmantissa, hexponent, rfl⟩ := hother
  by_cases hle : place number ≤ exponent
  · exact .inl (exists_multiple hle mantissa)
  · right
    have hfilled := le_abs_of_place hpos.ne' (hexponent.trans_lt (not_le.mp hle))
    rw [abs_of_pos hpos] at hfilled
    refine ⟨?_, hfilled⟩
    have hpower : (2 : ℚ) ^ (exponent + 53) ≤ 2 ^ (place number + 52) :=
      zpow_le_zpow_right₀ (by norm_num) (by omega)
    exact (le_abs_self _).trans_lt ((abs_mantissa_lt mantissa exponent hmantissa).trans_le hpower)

theorem isDouble_of_le {mantissa exponent : ℤ} (hmantissa : |mantissa| ≤ 2 ^ 53)
    (hexponent : -1074 ≤ exponent) : IsDouble (mantissa * 2 ^ exponent) := by
  rcases hmantissa.lt_or_eq with hlt | heq
  · exact ⟨mantissa, exponent, hlt, hexponent, rfl⟩
  · -- one bit more, and the last one is zero
    have hsigns : mantissa = 2 ^ 53 ∨ mantissa = -2 ^ 53 :=
      (abs_eq (by norm_num : (0 : ℤ) ≤ 2 ^ 53)).mp heq
    obtain ⟨half, rfl, hhalf⟩ : ∃ half, mantissa = 2 * half ∧ |half| < 2 ^ 53 := by
      rcases hsigns with rfl | rfl
      · exact ⟨2 ^ 52, by norm_num, by norm_num⟩
      · exact ⟨-2 ^ 52, by norm_num, by norm_num⟩
    refine ⟨half, exponent + 1, hhalf, by omega, ?_⟩
    rw [zpow_add₀ (by norm_num)]
    push_cast
    ring

/-- An integer of 53 bits is a double. -/
theorem isDouble_intCast {integer : ℤ} (hinteger : |integer| ≤ 2 ^ 53) :
    IsDouble (integer : ℚ) := by
  have hdouble := isDouble_of_le hinteger (by norm_num : (-1074 : ℤ) ≤ 0)
  rwa [zpow_zero, mul_one] at hdouble

end Multiples

/-! ## Rounding -/

section Rounding

variable {number other : ℚ}

@[simp] theorem nearest_zero : nearest 0 = 0 := by
  rw [nearest, zero_div, halfEven_zero, Int.cast_zero, zero_mul]

theorem abs_nearest_sub (number : ℚ) :
    |nearest number - number| =
      |halfEven (number / unit number) - number / unit number| * unit number := by
  have hpos := unit_pos number
  rw [← abs_of_pos hpos, ← abs_mul, abs_of_pos hpos, sub_mul, div_mul_cancel₀ _ hpos.ne', nearest]

/-- Rounding moves a number by half a unit at most. -/
theorem abs_nearest_sub_le (number : ℚ) : |nearest number - number| ≤ unit number / 2 := by
  have hhalf := mul_le_mul_of_nonneg_right (abs_halfEven_sub_le (number / unit number))
    (unit_pos number).le
  rw [abs_nearest_sub]
  linarith

theorem abs_nearest_sub_le_multiple (number : ℚ) (integer : ℤ) :
    |nearest number - number| ≤ |integer * unit number - number| := by
  have hpos := unit_pos number
  have hmultiple : |integer * unit number - number| =
      |integer - number / unit number| * unit number := by
    rw [← abs_of_pos hpos, ← abs_mul, abs_of_pos hpos, sub_mul, div_mul_cancel₀ _ hpos.ne']
  rw [abs_nearest_sub, hmultiple]
  exact mul_le_mul_of_nonneg_right (abs_halfEven_sub_le_abs _ _) hpos.le

/-- No double is nearer. -/
theorem abs_nearest_sub_le_abs (hnumber : 0 ≤ number) (hother : IsDouble other) :
    |nearest number - number| ≤ |other - number| := by
  rcases hnumber.eq_or_lt with rfl | hpos
  · simp
  rcases hother.multiple_or_lt hpos with ⟨integer, rfl⟩ | ⟨hbelow, hreached⟩
  · exact abs_nearest_sub_le_multiple number integer
  · have hnear := abs_nearest_sub_le_multiple number (2 ^ 52)
    refine hnear.trans ?_
    rw [← power_eq_multiple, abs_of_nonpos (by linarith), abs_of_nonpos (by linarith)]
    linarith

theorem isDouble_nearest (number : ℚ) : IsDouble (nearest number) := by
  refine isDouble_of_le ?_ (le_place number)
  have hpos := unit_pos number
  have hquotient : |number / unit number| < 2 ^ 53 := by
    rw [abs_div, abs_of_pos hpos, div_lt_iff₀ hpos, mul_comm]
    have hlt := abs_lt_of_place number
    rw [zpow_add₀ (by norm_num)] at hlt
    exact_mod_cast hlt
  have hhalf := abs_le.mp (abs_halfEven_sub_le (number / unit number))
  have hbounds := abs_lt.mp hquotient
  have hlow : -(2 ^ 53 + 1 : ℚ) < halfEven (number / unit number) := by linarith
  have hhigh : (halfEven (number / unit number) : ℚ) < 2 ^ 53 + 1 := by linarith
  have hlow : -(2 ^ 53 + 1 : ℤ) < halfEven (number / unit number) := by exact_mod_cast hlow
  have hhigh : halfEven (number / unit number) < 2 ^ 53 + 1 := by exact_mod_cast hhigh
  exact abs_le.mpr ⟨by omega, by omega⟩

theorem nearest_of_isDouble (hnumber : 0 ≤ number) (hdouble : IsDouble number) :
    nearest number = number := by
  have hnear := abs_nearest_sub_le_abs hnumber hdouble
  rw [sub_self, abs_zero] at hnear
  exact sub_eq_zero.mp (abs_nonpos_iff.mp hnear)

theorem nearest_two_pow (places : ℕ) : nearest (2 ^ places) = 2 ^ places :=
  nearest_of_isDouble (by positivity) ⟨1, places, by norm_num, by omega, by simp⟩

theorem nearest_nonneg (hnumber : 0 ≤ number) : 0 ≤ nearest number := by
  have hquotient : 0 ≤ number / unit number := div_nonneg hnumber (unit_pos number).le
  have hrounded := halfEven_nonneg hquotient
  exact mul_nonneg (by exact_mod_cast hrounded) (unit_pos number).le

theorem nearest_mono (hnumber : 0 ≤ number) (hle : number ≤ other) :
    nearest number ≤ nearest other := by
  by_contra hnot
  have hlt := not_le.mp hnot
  -- each of the two is the nearest double to its own number
  have hfirst := sq_le_sq.mpr (abs_nearest_sub_le_abs hnumber (isDouble_nearest other))
  have hsecond := sq_le_sq.mpr
    (abs_nearest_sub_le_abs (hnumber.trans hle) (isDouble_nearest number))
  have hmiddle : nearest number + nearest other ≤ 2 * number := by nlinarith
  have hmiddle' : 2 * other ≤ nearest number + nearest other := by nlinarith
  obtain rfl : number = other := by linarith
  exact hnot le_rfl

/-- What stands below a number that does not overflow does not overflow. -/
theorem overflows_eq_false_of_le (hnumber : 0 ≤ number) (hle : number ≤ other)
    (hfinite : overflows other = false) : overflows number = false := by
  have hnearest := nearest_mono hnumber hle
  have hlow := nearest_nonneg hnumber
  rw [overflows, decide_eq_false_iff_not, not_le, abs_of_nonneg (hlow.trans hnearest)] at hfinite
  rw [overflows, decide_eq_false_iff_not, not_le, abs_of_nonneg hlow]
  exact hnearest.trans_lt hfinite

/-- From 2 ^ 52 on the doubles are integers. -/
theorem exists_int_of_le (hle : 2 ^ 52 ≤ |number|) : ∃ integer : ℤ, nearest number = integer := by
  have hplace : 0 ≤ place number := le_place_of_le (by simpa using hle)
  obtain ⟨integer, hinteger⟩ := exists_multiple hplace (halfEven (number / unit number))
  refine ⟨integer, hinteger.trans ?_⟩
  rw [zpow_zero, mul_one]

/-- From 2 ^ 53 on they are even. -/
theorem exists_even_of_le (hle : 2 ^ 53 ≤ |number|) :
    ∃ integer : ℤ, nearest number = (2 * integer : ℤ) := by
  have hplace : 1 ≤ place number := le_place_of_le (by norm_num at hle ⊢; exact hle)
  obtain ⟨integer, hinteger⟩ := exists_multiple hplace (halfEven (number / unit number))
  refine ⟨integer, hinteger.trans ?_⟩
  rw [zpow_one]
  push_cast
  ring

/-- In between they are the integers. -/
theorem nearest_eq_halfEven (hle : 2 ^ 52 ≤ |number|) (hlt : |number| < 2 ^ 53) :
    nearest number = halfEven number := by
  have hlow : 0 ≤ place number := le_place_of_le (by simpa using hle)
  have hne : number ≠ 0 := by
    rintro rfl
    norm_num at hle
  have hhigh : place number ≤ 0 := place_le hne (by simpa using hlt) (by norm_num)
  have hunit : unit number = 1 := by rw [unit, le_antisymm hhigh hlow, zpow_zero]
  rw [nearest, hunit, div_one, mul_one]

/-- A double less than a unit away is the same, unless the unit changes there, at a power of
two. -/
theorem eq_or_eq_power_of_near (hnumber : IsDouble number) (hpos : 0 < number)
    (hother : IsDouble other) (hnear : |other - number| < unit number) :
    other = number ∨ number = 2 ^ (place number + 52) := by
  have hunit := unit_pos number
  rcases hnumber.multiple_or_lt hpos with ⟨integer, hinteger⟩ | ⟨hlt, hle⟩
  swap
  · exact absurd hle (not_le.mpr hlt)
  rcases hother.multiple_or_lt hpos with ⟨integer', hinteger'⟩ | ⟨hbelow, hreached⟩
  · left
    have hfactored : other - number = ((integer' - integer : ℤ) : ℚ) * unit number := by
      push_cast
      rw [sub_mul, ← hinteger, ← hinteger']
    rw [hfactored, abs_mul, abs_of_pos hunit, ← Int.cast_abs] at hnear
    have hgap : ((|integer' - integer| : ℤ) : ℚ) < 1 := by
      by_contra hfar
      have := mul_le_mul_of_nonneg_right (not_lt.mp hfar) hunit.le
      linarith
    have hsame := Int.abs_lt_one_iff.mp (by exact_mod_cast hgap : |integer' - integer| < 1)
    rw [hinteger', (by omega : integer' = integer), ← hinteger]
  · right
    rw [power_eq_multiple] at hbelow hreached ⊢
    by_contra hne
    -- both are multiples of the unit, so the power of two is a unit below
    have hle : (2 ^ 52 : ℤ) ≤ integer := by
      exact_mod_cast le_of_mul_le_mul_right (hreached.trans_eq hinteger) hunit
    have hlt : (2 ^ 52 : ℤ) ≠ integer := fun heq => hne (by rw [heq, ← hinteger])
    have hunits : (((2 ^ 52 : ℤ) : ℚ) + 1) * unit number ≤ integer * unit number := by
      refine mul_le_mul_of_nonneg_right ?_ hunit.le
      exact_mod_cast lt_of_le_of_ne hle hlt
    rw [← hinteger] at hunits
    have := (abs_lt.mp hnear).1
    linarith

end Rounding

end Doubles
