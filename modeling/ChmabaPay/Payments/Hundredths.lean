import ChmabaPay.Payments.Amounts
import ChmabaPay.Payments.Elements
import ChmabaPay.Routers.Khqr

/-! # Cents through doubles

A code for a bare link scales its amount up to cents and prints it scaled down again, and both
times a double is all that is kept. The text asks for the cents it came from as long as the
first product loses no more than half a cent.
-/

namespace ChmabaPay

open Doubles

/-! ## What a text prints -/

/-- The hundredths that the text of an amount has. -/
def printedCents (arithmetic : Arithmetic) (amountCents : Int) : Currency → Int
  | .khr => 100 * halfEven (arithmetic.nearest ((amountCents : ℚ) / 100))
  | .usd => halfEven (100 * arithmetic.nearest (arithmetic.nearest amountCents / 100))

/-- Whole riel are so many hundredths without a decimal. -/
theorem integerText_eq (number : Int) : integerText number = hundredthsText (100 * number) := by
  have hwhole : (100 * number).natAbs = 100 * number.natAbs := Int.natAbs_mul 100 number
  rw [hundredthsText, hwhole, Nat.mul_mod_right, if_pos rfl, Nat.mul_div_cancel_left _ (by omega),
    integerText]
  by_cases hsign : number < 0
  · rw [if_pos hsign, if_pos (by omega), List.singleton_append]
  · rw [if_neg hsign, if_neg (by omega), List.nil_append]

theorem amountText_eq (arithmetic : Arithmetic) (amountCents : Int) (currency : Currency) :
    amountText arithmetic amountCents currency =
      hundredthsText (printedCents arithmetic amountCents currency) := by
  cases currency with
  | khr => exact integerText_eq _
  | usd => rfl

section Texts

variable {hundredths : Int}

theorem length_hundredthsText_le (hlow : 0 ≤ hundredths) (hhigh : hundredths < 10 ^ 19) :
    (hundredthsText hundredths).length ≤ 99 := by
  obtain ⟨count, rfl⟩ := Int.eq_ofNat_of_zero_le hlow
  have hwhole : (Nat.toDigits 10 (count / 100)).length ≤ 18 :=
    Nat.toDigits_length 10 _ 18 (by omega) (by omega)
  have hpart : (zeroPadded 2 (count % 100)).length = 2 :=
    length_zeroPadded (by omega) (by omega)
  simp only [hundredthsText, Int.natAbs_natCast, if_neg (by omega : ¬ (count : Int) < 0),
    List.nil_append]
  split
  · omega
  · simp only [List.length_append, List.length_cons, hpart]
    omega

/-- Whole units fit an element just when they have at most 99 digits. -/
theorem length_hundredthsText_iff (hlow : 0 ≤ hundredths)
    (hwhole : hundredths % 100 ≠ 0 → hundredths < 10 ^ 19) :
    (hundredthsText hundredths).length ≤ 99 ↔ hundredths < 10 ^ 101 := by
  by_cases hpart : hundredths % 100 = 0
  · obtain ⟨count, rfl⟩ := Int.eq_ofNat_of_zero_le hlow
    have hcount : count % 100 = 0 := by exact_mod_cast hpart
    simp only [hundredthsText, Int.natAbs_natCast, if_neg (by omega : ¬ (count : Int) < 0),
      List.nil_append, if_pos hcount]
    rw [Nat.length_toDigits_le_iff (by omega) (by omega)]
    omega
  · have hsmall := hwhole hpart
    exact iff_of_true (length_hundredthsText_le hlow hsmall) (by omega)

end Texts

/-! ## More cents, more in print -/

section Monotone

variable {amountCents more : Int}

theorem printedCents_mono (hlow : 0 ≤ amountCents) (hle : amountCents ≤ more)
    (currency : Currency) :
    printedCents .doubles amountCents currency ≤ printedCents .doubles more currency := by
  have hlow : (0 : ℚ) ≤ amountCents := by exact_mod_cast hlow
  have hle : (amountCents : ℚ) ≤ more := by exact_mod_cast hle
  cases currency with
  | khr =>
      have hquotient : nearest ((amountCents : ℚ) / 100) ≤ nearest ((more : ℚ) / 100) :=
        nearest_mono (by positivity) (by linarith)
      exact mul_le_mul_of_nonneg_left (halfEven_mono hquotient) (by norm_num)
  | usd =>
      have hdividend : nearest (amountCents : ℚ) ≤ nearest (more : ℚ) := nearest_mono hlow hle
      have hpositive : 0 ≤ nearest (amountCents : ℚ) := nearest_nonneg hlow
      have hquotient : nearest (nearest (amountCents : ℚ) / 100) ≤
          nearest (nearest (more : ℚ) / 100) :=
        nearest_mono (by positivity) (by linarith)
      exact halfEven_mono (mul_le_mul_of_nonneg_left hquotient (by norm_num))

theorem printedCents_nonneg (hlow : 0 ≤ amountCents) (currency : Currency) :
    0 ≤ printedCents .doubles amountCents currency := by
  have hzero : printedCents .doubles 0 currency = 0 := by
    cases currency <;> simp [printedCents, Arithmetic.nearest]
  exact hzero.ge.trans (printedCents_mono le_rfl hlow currency)

theorem amountOverflows_mono (hlow : 0 ≤ amountCents) (hle : amountCents ≤ more)
    {currency : Currency} (hfinite : amountOverflows .doubles more currency = false) :
    amountOverflows .doubles amountCents currency = false := by
  have hlow : (0 : ℚ) ≤ amountCents := by exact_mod_cast hlow
  have hle : (amountCents : ℚ) ≤ more := by exact_mod_cast hle
  cases currency with
  | khr => exact overflows_eq_false_of_le (by positivity) (by linarith) hfinite
  | usd => exact overflows_eq_false_of_le hlow hle hfinite

/-- What an integer column holds is printed in a few digits. -/
theorem column_printable (hlow : 0 ≤ amountCents) (hmax : amountCents ≤ integerMax)
    (currency : Currency) : amountOverflows .doubles amountCents currency = false ∧
      (amountText .doubles amountCents currency).length ≤ 99 := by
  refine ⟨amountOverflows_mono hlow hmax (by cases currency <;> decide +kernel), ?_⟩
  have hlimit : printedCents .doubles integerMax currency < 10 ^ 19 := by
    cases currency <;> decide +kernel
  rw [amountText_eq]
  exact length_hundredthsText_le (printedCents_nonneg hlow currency)
    ((printedCents_mono hlow hmax currency).trans_lt hlimit)

/-- An amount is printed with a part of a unit only where the doubles have one. -/
theorem printedCents_lt_of_part (hlow : 0 ≤ amountCents) {currency : Currency}
    (hpart : printedCents .doubles amountCents currency % 100 ≠ 0) :
    printedCents .doubles amountCents currency < 10 ^ 19 := by
  cases currency with
  | khr =>
      refine absurd ?_ hpart
      exact Int.mul_emod_right 100 _
  | usd =>
      have hlow : (0 : ℚ) ≤ amountCents := by exact_mod_cast hlow
      have hdividend : 0 ≤ nearest (amountCents : ℚ) / 100 := by
        have := nearest_nonneg hlow
        positivity
      rcases le_or_gt (2 ^ 52) (nearest (amountCents : ℚ) / 100) with hlarge | hsmall
      · -- a large quotient is an integer
        obtain ⟨integer, hinteger⟩ := exists_int_of_le (hlarge.trans (le_abs_self _))
        refine absurd ?_ hpart
        have hcast : (100 : ℚ) * integer = ((100 * integer : ℤ) : ℚ) := by push_cast; rfl
        simp only [printedCents, Arithmetic.nearest]
        rw [hinteger, hcast, halfEven_intCast]
        exact Int.mul_emod_right 100 _
      · have hquotient : nearest (nearest (amountCents : ℚ) / 100) ≤ nearest (2 ^ 52) :=
          nearest_mono hdividend hsmall.le
        have hbound : halfEven (100 * nearest (2 ^ 52)) < 10 ^ 19 := by decide +kernel
        exact (halfEven_mono (mul_le_mul_of_nonneg_left hquotient (by norm_num))).trans_lt hbound

end Monotone

/-! ## The cents of a request -/

section Cents

variable {body : KhqrFromLinkRequest} {cents : ℤ}

theorem double_eq_ok_iff {amount : FloatText} {double : ℚ} :
    amount.double = .ok double ↔ ∃ value, amount.value.toRat? = some value ∧
      overflows value = false ∧ nearest value = double := by
  unfold FloatText.double Decimal.toRat?
  cases amount.value with
  | finite coefficient exponent =>
      simp only [Option.some.injEq, exists_eq_left']
      cases overflows ((coefficient : ℚ) * 10 ^ exponent) <;> simp
  | infinity negative => simp
  | nan => simp

theorem cents_eq_ok_iff :
    body.cents = .ok cents ↔ ∃ double, body.amount.double = .ok double ∧
      overflows (double * 100) = false ∧ halfEven (nearest (double * 100)) = cents := by
  unfold KhqrFromLinkRequest.cents
  cases body.amount.double with
  | error error => simp
  | ok double =>
      simp only [Except.ok.injEq, exists_eq_left']
      cases overflows (double * 100) <;> simp

/-- An accepted amount that is finite is positive and has two decimals. -/
theorem accepted_value {amount : FloatText} (haccepted : validateAmount amount = .ok amount)
    {value : ℚ} (hvalue : amount.value.toRat? = some value) :
    0 < value ∧ ∃ integer : ℤ, value * 100 = integer := by
  rcases accepted_cents haccepted with ⟨hinfinite, -⟩ | ⟨cents, value', -, hvalue', hexact, hone⟩
  · cases hvalue.symm.trans hinfinite
  · obtain rfl := Option.some.inj (hvalue.symm.trans hvalue')
    have hone : (1 : ℚ) ≤ cents := by exact_mod_cast hone
    exact ⟨by linarith, cents, hexact.symm⟩

theorem nearest_pos_of_accepted {amount : FloatText}
    (haccepted : validateAmount amount = .ok amount) {value : ℚ}
    (hvalue : amount.value.toRat? = some value) : 0 < nearest value := by
  obtain ⟨hpositive, integer, hdecimals⟩ := accepted_value haccepted hvalue
  have hone : 1 ≤ integer := by
    have hcast : (0 : ℚ) < integer := by linarith
    exact_mod_cast hcast
  have hone : (1 : ℚ) ≤ integer := by exact_mod_cast hone
  have hcent : nearest (1 / 100) ≤ nearest value := nearest_mono (by norm_num) (by linarith)
  have hleast : 0 < nearest (1 / 100) := by decide +kernel
  linarith

/-- The cents of an amount, where nothing overflows. -/
def scaledCents (value : ℚ) : ℤ := halfEven (nearest (nearest value * 100))

theorem scaledCents_mono {value more : ℚ} (hlow : 0 ≤ value) (hle : value ≤ more) :
    scaledCents value ≤ scaledCents more := by
  have hdouble := nearest_mono hlow hle
  have hpositive := nearest_nonneg hlow
  exact halfEven_mono (nearest_mono (by positivity) (by linarith))

theorem scaledCents_nonneg {value : ℚ} (hlow : 0 ≤ value) : 0 ≤ scaledCents value := by
  have hpositive := nearest_nonneg hlow
  exact halfEven_nonneg (nearest_nonneg (by positivity))

/-- The digits of a float leave a gap above 10 ^ 99. -/
theorem gap_of_lt {amount : FloatText} {value : ℚ} (hvalue : amount.value.toRat? = some value)
    (hlarge : 10 ^ 99 < value) : 10 ^ 99 + 10 ^ 83 ≤ value := by
  unfold Decimal.toRat? at hvalue
  split at hvalue
  case h_2 => cases hvalue
  case h_3 => cases hvalue
  case h_1 coefficient exponent hfinite =>
    obtain rfl := Option.some.inj hvalue
    have hshort := amount.short coefficient exponent hfinite
    have hcoefficient : (coefficient : ℚ) ≤ 10 ^ 17 := by
      have hbound : coefficient ≤ 10 ^ 17 := by omega
      exact_mod_cast hbound
    obtain ⟨places, rfl⟩ : ∃ places : ℕ, exponent = 83 + places := by
      refine ⟨(exponent - 83).toNat, ?_⟩
      by_contra hnot
      have hpower : (10 : ℚ) ^ exponent ≤ 10 ^ (82 : ℤ) :=
        zpow_le_zpow_right₀ (by norm_num) (by omega)
      have hproduct : (coefficient : ℚ) * 10 ^ exponent ≤ 10 ^ 17 * 10 ^ (82 : ℤ) :=
        mul_le_mul hcoefficient hpower (by positivity) (by norm_num)
      norm_num at hproduct hlarge
      linarith
    -- what is left of the power of ten is an integer
    have hsplit : (coefficient : ℚ) * 10 ^ (83 + places : ℤ) =
        ((coefficient * 10 ^ places : ℤ) : ℚ) * 10 ^ 83 := by
      rw [zpow_add₀ (by norm_num), zpow_natCast]
      push_cast
      norm_num
      ring
    rw [hsplit] at hlarge ⊢
    have hmany : ((10 ^ 16 : ℤ) : ℚ) < ((coefficient * 10 ^ places : ℤ) : ℚ) := by
      have hpos : (0 : ℚ) < 10 ^ 83 := by positivity
      refine lt_of_mul_lt_mul_right ?_ hpos.le
      refine lt_of_eq_of_lt ?_ hlarge
      norm_num
    have hmore : (10 ^ 16 : ℤ) + 1 ≤ coefficient * 10 ^ places := by exact_mod_cast hmany
    have hmore : ((10 ^ 16 : ℤ) + 1 : ℚ) ≤ ((coefficient * 10 ^ places : ℤ) : ℚ) := by
      exact_mod_cast hmore
    calc (10 : ℚ) ^ 99 + 10 ^ 83 = ((10 ^ 16 : ℤ) + 1 : ℚ) * 10 ^ 83 := by norm_num
      _ ≤ ((coefficient * 10 ^ places : ℤ) : ℚ) * 10 ^ 83 :=
        mul_le_mul_of_nonneg_right hmore (by positivity)

/-- An accepted amount is printed in at most 99 characters just when it is finite and at most
10 ^ 99. -/
theorem printable_amount_iff (currency : Currency) :
    (∃ cents, body.cents = .ok cents ∧ amountOverflows .doubles cents currency = false ∧
      (amountText .doubles cents currency).length ≤ 99) ↔
      ∃ value, body.amount.value.toRat? = some value ∧ value ≤ 10 ^ 99 := by
  constructor
  · rintro ⟨cents, hcents, -, hshort⟩
    obtain ⟨double, hdouble, -, rfl⟩ := cents_eq_ok_iff.mp hcents
    obtain ⟨value, hvalue, -, rfl⟩ := double_eq_ok_iff.mp hdouble
    refine ⟨value, hvalue, ?_⟩
    by_contra hlarge
    have hgap := gap_of_lt hvalue (not_le.mp hlarge)
    have hscaled : scaledCents (10 ^ 99 + 10 ^ 83) ≤ scaledCents value :=
      scaledCents_mono (by norm_num) hgap
    have hlow := scaledCents_nonneg (by linarith : 0 ≤ value)
    -- the next accepted amount above the limit is printed too long, and printing is monotone
    have hprinted : 10 ^ 101 ≤
        printedCents .doubles (scaledCents (10 ^ 99 + 10 ^ 83)) currency := by
      cases currency <;> decide +kernel
    have hmore := hprinted.trans (printedCents_mono (by decide +kernel) hscaled currency)
    rw [amountText_eq] at hshort
    have hsmall := (length_hundredthsText_iff (printedCents_nonneg hlow currency)
      (printedCents_lt_of_part hlow)).mp hshort
    exact absurd hmore (not_le.mpr hsmall)
  · rintro ⟨value, hvalue, hsmall⟩
    obtain ⟨hpositive, -⟩ := accepted_value body.accepted hvalue
    have hlow := scaledCents_nonneg hpositive.le
    have hscaled : scaledCents value ≤ scaledCents (10 ^ 99) :=
      scaledCents_mono hpositive.le hsmall
    have hfinite : overflows value = false :=
      overflows_eq_false_of_le hpositive.le hsmall (by decide +kernel)
    have hdouble := nearest_nonneg hpositive.le
    -- the limit itself is scaled without overflow and printed short enough
    have hlimit : overflows (nearest (10 ^ 99) * 100) = false := by decide +kernel
    have hproduct : overflows (nearest value * 100) = false :=
      overflows_eq_false_of_le (by positivity)
        (mul_le_mul_of_nonneg_right (nearest_mono hpositive.le hsmall) (by norm_num)) hlimit
    refine ⟨scaledCents value, ?_, ?_, ?_⟩
    · exact cents_eq_ok_iff.mpr ⟨nearest value, double_eq_ok_iff.mpr
        ⟨value, hvalue, hfinite, rfl⟩, hproduct, rfl⟩
    · exact amountOverflows_mono hlow hscaled (by cases currency <;> decide +kernel)
    · rw [amountText_eq, length_hundredthsText_iff (printedCents_nonneg hlow currency)
        (printedCents_lt_of_part hlow)]
      have hlimit : printedCents .doubles (scaledCents (10 ^ 99)) currency < 10 ^ 101 := by
        cases currency <;> decide +kernel
      exact (printedCents_mono hlow hscaled currency).trans_lt hlimit

end Cents

/-! ## The way back -/

/-- Some double lies within half a cent of the exact hundredfold of a float. -/
def KeepsCents (double : ℚ) : Prop := ∃ near, IsDouble near ∧ |double * 100 - near| ≤ 1 / 2

/-- A float is a whole number of riel, and its hundredfold a double. -/
def KeepsRiel (double : ℚ) : Prop := (∃ riel : ℤ, double = riel) ∧ IsDouble (double * 100)

section Back

variable {double : ℚ} {cents : ℤ}

/-- From 2 ^ 52 on the product is an integer as it is. -/
theorem nearest_eq_cents (hlarge : 2 ^ 52 ≤ double * 100)
    (hcents : halfEven (nearest (double * 100)) = cents) :
    nearest (double * 100) = cents := by
  obtain ⟨integer, hinteger⟩ := exists_int_of_le (hlarge.trans (le_abs_self _))
  rw [hinteger, halfEven_intCast] at hcents
  rw [hinteger, hcents]

theorem cents_le (hpositive : 0 < double) (hsmall : double * 100 < 2 ^ 52)
    (hcents : halfEven (nearest (double * 100)) = cents) : 0 ≤ cents ∧ cents ≤ 2 ^ 52 := by
  rw [← hcents]
  constructor
  · exact halfEven_nonneg (nearest_nonneg (by positivity))
  · have hbound := halfEven_mono (nearest_mono (by positivity) hsmall.le)
    rwa [nearest_two_pow, halfEven_two_pow] at hbound

theorem isDouble_cents (hpositive : 0 < double)
    (hcents : halfEven (nearest (double * 100)) = cents) : IsDouble (cents : ℚ) := by
  rcases le_or_gt (2 ^ 52) (double * 100) with hlarge | hsmall
  · rw [← nearest_eq_cents hlarge hcents]
    exact isDouble_nearest _
  · obtain ⟨hlow, hhigh⟩ := cents_le hpositive hsmall hcents
    exact isDouble_intCast (by rw [abs_of_nonneg hlow]; omega)

theorem nearest_cents (hpositive : 0 < double)
    (hcents : halfEven (nearest (double * 100)) = cents) : nearest (cents : ℚ) = cents := by
  refine nearest_of_isDouble ?_ (isDouble_cents hpositive hcents)
  have hlow := halfEven_nonneg (nearest_nonneg (by positivity : 0 ≤ double * 100))
  rw [hcents] at hlow
  exact_mod_cast hlow

/-- Small cents keep their distance from each other when they are divided. -/
theorem halfEven_quotient_of_le (hlow : 0 ≤ cents) (hhigh : cents ≤ 2 ^ 52) :
    halfEven (100 * nearest ((cents : ℚ) / 100)) = cents := by
  rcases hlow.eq_or_lt with rfl | hpositive
  · simp
  · have hpositive : (0 : ℚ) < cents := by exact_mod_cast hpositive
    have hhigh : (cents : ℚ) ≤ 2 ^ 52 := by exact_mod_cast hhigh
    have hunit : unit ((cents : ℚ) / 100) ≤ 2 ^ (-7 : ℤ) := by
      refine unit_le (by positivity) ?_ (by norm_num)
      rw [abs_of_pos (by positivity)]
      norm_num
      linarith
    have hnear := abs_le.mp (abs_nearest_sub_le ((cents : ℚ) / 100))
    norm_num at hunit
    refine halfEven_of_lt ?_
    rw [abs_lt]
    constructor <;> linarith

/-- A float that is not much nearer to another one than the grain of both. -/
theorem eq_of_product_near (hdouble : IsDouble double) (hpositive : 0 < double) {other : ℚ}
    (hother : IsDouble other) (hnear : |other - double| < unit double)
    (hproduct : ¬ IsDouble (double * 100)) : other = double := by
  rcases eq_or_eq_power_of_near hdouble hpositive hother hnear with hsame | hpower
  · exact hsame
  · refine absurd ?_ hproduct
    refine ⟨100, place double + 52, by norm_num, ?_, ?_⟩
    · have := le_place double
      omega
    · rw [← hpower]
      push_cast
      ring

/-- The product is off by less than a grain of the float it is made from. -/
theorem abs_product_sub_le (hpositive : 0 < double) :
    |nearest (double * 100) - double * 100| ≤ 64 * unit double := by
  have hunit : unit (100 * double) ≤ 2 ^ 7 * unit double :=
    unit_mul_le hpositive.ne' (by norm_num) (by norm_num)
  rw [mul_comm] at hunit
  have hnear := abs_nearest_sub_le (double * 100)
  linarith

theorem abs_hundredfold (number other : ℚ) :
    |100 * number - 100 * other| = 100 * |number - other| := by
  rw [← mul_sub, abs_mul, abs_of_pos (by norm_num : (0 : ℚ) < 100)]

/-- Below 2 ^ 53 the nearest integer is such a double. -/
theorem keepsCents_of_lt (hpositive : 0 < double) (hsmall : double * 100 < 2 ^ 53) :
    KeepsCents double := by
  have hlimit : halfEven (double * 100) ≤ 2 ^ 53 :=
    (halfEven_mono hsmall.le).trans_eq (halfEven_two_pow 53)
  have hlow : 0 ≤ halfEven (double * 100) := halfEven_nonneg (by positivity)
  refine ⟨halfEven (double * 100), ?_, ?_⟩
  · exact isDouble_intCast (by rw [abs_of_nonneg hlow]; exact hlimit)
  · rw [abs_sub_comm]
    exact abs_halfEven_sub_le _

/-- Dollars come back as the cents they were scaled to just when a double lies within half a
cent of the exact product. -/
theorem printedCents_usd_iff (hdouble : IsDouble double) (hpositive : 0 < double)
    (hcents : halfEven (nearest (double * 100)) = cents) :
    printedCents .doubles cents .usd = cents ↔ KeepsCents double := by
  have hprinted : printedCents .doubles cents .usd =
      halfEven (100 * nearest ((cents : ℚ) / 100)) := by
    simp only [printedCents, Arithmetic.nearest, nearest_cents hpositive hcents]
  rw [hprinted]
  constructor
  · intro hback
    rcases lt_or_ge (double * 100) (2 ^ 53) with hsmall | hlarge
    · exact keepsCents_of_lt hpositive hsmall
    · by_contra hnone
      have hfar : ∀ near, IsDouble near → 1 / 2 < |double * 100 - near| := by
        intro near hnear
        by_contra hclose
        exact hnone ⟨near, hnear, not_lt.mp hclose⟩
      have hexact : ¬ IsDouble (double * 100) := fun hproduct => by
        have := hfar _ hproduct
        norm_num at this
      have hq := nearest_eq_cents (by linarith) hcents
      have hunit : 2 ^ (-6 : ℤ) ≤ unit double := by
        refine zpow_le_zpow_right₀ (by norm_num) (le_place_of_le ?_)
        rw [abs_of_pos hpositive]
        norm_num
        linarith
      norm_num at hunit
      have hreturned := abs_halfEven_sub_le (100 * nearest ((cents : ℚ) / 100))
      rw [hback] at hreturned
      have hscaled := abs_product_sub_le hpositive
      rw [hq] at hscaled
      have hsame : nearest ((cents : ℚ) / 100) = double := by
        refine eq_of_product_near hdouble hpositive (isDouble_nearest _) ?_ hexact
        have hfirst := abs_le.mp hreturned
        have hsecond := abs_le.mp hscaled
        rw [abs_lt]
        constructor <;> linarith
      rw [hsame] at hreturned
      have hclose := hfar _ (isDouble_cents hpositive hcents)
      rw [abs_sub_comm, mul_comm] at hclose
      linarith
  · rintro ⟨near, hnear, hclose⟩
    rcases lt_or_ge (double * 100) (2 ^ 52) with hsmall | hlarge
    · obtain ⟨hlow, hhigh⟩ := cents_le hpositive hsmall hcents
      exact halfEven_quotient_of_le hlow hhigh
    · have hq := nearest_eq_cents hlarge hcents
      have hproduct : |nearest (double * 100) - double * 100| ≤ 1 / 2 := by
        refine (abs_nearest_sub_le_abs (by positivity) hnear).trans ?_
        rwa [abs_sub_comm]
      -- the float itself is a quotient that near
      have hquotient : |100 * nearest ((cents : ℚ) / 100) - cents| ≤
          |nearest (double * 100) - double * 100| := by
        have hlow : (0 : ℚ) ≤ cents := by
          rw [← hq]
          exact nearest_nonneg (by positivity)
        have hcloser : |nearest ((cents : ℚ) / 100) - cents / 100| ≤ |double - cents / 100| :=
          abs_nearest_sub_le_abs (by positivity) hdouble
        have hdivided : 100 * ((cents : ℚ) / 100) = cents := mul_div_cancel₀ _ (by norm_num)
        calc |100 * nearest ((cents : ℚ) / 100) - cents|
            = 100 * |nearest ((cents : ℚ) / 100) - cents / 100| := by
              rw [← abs_hundredfold, hdivided]
          _ ≤ 100 * |double - cents / 100| := by linarith
          _ = |nearest (double * 100) - double * 100| := by
              rw [← abs_hundredfold, hdivided, hq, abs_sub_comm, mul_comm]
      rw [abs_sub_comm] at hquotient
      by_cases heven : cents % 2 = 0
      · exact halfEven_of_even (hquotient.trans hproduct) heven
      · refine halfEven_of_lt (hquotient.trans_lt (lt_of_le_of_ne hproduct ?_))
        intro htie
        refine heven ?_
        rcases lt_or_ge (double * 100) (2 ^ 53) with hbelow | habove
        · have hrounded : nearest (double * 100) = halfEven (double * 100) :=
            nearest_eq_halfEven (hlarge.trans (le_abs_self _))
              (by rwa [abs_of_pos (by positivity)])
          rw [hrounded] at htie hq
          have hsame : halfEven (double * 100) = cents := by exact_mod_cast hq
          rw [← hsame]
          exact even_of_half htie
        · obtain ⟨half, hhalf⟩ := exists_even_of_le (habove.trans (le_abs_self _))
          rw [hhalf] at hq
          have hsame : 2 * half = cents := by exact_mod_cast hq
          omega

/-- 4503599627370498 dollars are stated with eight cents less than they are asked for. -/
example : halfEven (nearest (nearest 4503599627370498 * 100)) = 450359962737049792 ∧
    printedCents .doubles 450359962737049792 .usd = 450359962737049800 := by
  decide +kernel

section Riel

variable {riel : ℤ}

/-- A whole number of riel that a code prints is a double. -/
theorem isDouble_riel (hlow : 0 ≤ riel) (hprinted : halfEven (nearest (riel : ℚ)) = riel) :
    IsDouble (riel : ℚ) := by
  rcases le_or_gt riel (2 ^ 53) with hsmall | hlarge
  · exact isDouble_intCast (by rwa [abs_of_nonneg hlow])
  · have hlarge : (2 : ℚ) ^ 52 ≤ |(riel : ℚ)| := by
      have hbound : (2 : ℤ) ^ 52 ≤ riel := by omega
      exact (by exact_mod_cast hbound : (2 : ℚ) ^ 52 ≤ riel).trans (le_abs_self _)
    obtain ⟨integer, hinteger⟩ := exists_int_of_le hlarge
    rw [hinteger, halfEven_intCast] at hprinted
    rw [← hprinted, ← hinteger]
    exact isDouble_nearest _

/-- Where the products are integers, whole riel come from no other float. -/
theorem eq_riel_of_large (hdouble : IsDouble double) (hpositive : 0 < double)
    (hlarge : 2 ^ 52 ≤ double * 100) (hriel : IsDouble (riel : ℚ))
    (hcents : halfEven (nearest (double * 100)) = 100 * riel) : double = riel := by
  have hq := nearest_eq_cents hlarge hcents
  push_cast at hq
  by_cases hproduct : IsDouble (double * 100)
  · rw [nearest_of_isDouble (by positivity) hproduct] at hq
    linarith
  · have hscaled := abs_product_sub_le hpositive
    rw [hq, mul_comm double, abs_hundredfold] at hscaled
    have hunit := unit_pos double
    exact (eq_of_product_near hdouble hpositive hriel (by linarith) hproduct).symm

/-- Below, a large float is nearer to no other whole number. -/
theorem eq_riel_of_middle (hdouble : IsDouble double) (hlarge : 2 ^ 45 ≤ double)
    (hsmall : double * 100 < 2 ^ 52) (hriel : IsDouble (riel : ℚ))
    (hcents : halfEven (nearest (double * 100)) = 100 * riel) : double = riel := by
  have hpositive : 0 < double := by linarith
  have hplace : -7 ≤ place double := by
    refine le_place_of_le ?_
    rw [abs_of_pos hpositive]
    norm_num
    linarith
  have hunit : 2 ^ (-7 : ℤ) ≤ unit double := zpow_le_zpow_right₀ (by norm_num) hplace
  norm_num at hunit
  have hrounded := abs_le.mp (abs_halfEven_sub_le (nearest (double * 100)))
  have hscaled := abs_le.mp (abs_nearest_sub_le (double * 100))
  have hgrain : unit (double * 100) ≤ 2 ^ (-1 : ℤ) := by
    refine unit_le (by positivity) ?_ (by norm_num)
    rw [abs_of_pos (by positivity)]
    norm_num
    linarith
  norm_num at hgrain
  rw [hcents] at hrounded
  push_cast at hrounded
  have hnear : |(riel : ℚ) - double| < unit double := by
    rw [abs_lt]
    constructor <;> linarith
  rcases eq_or_eq_power_of_near hdouble hpositive hriel hnear with hsame | hpower
  · exact hsame.symm
  · -- the float is a power of two, so its cents are exact
    obtain ⟨places, hplaces⟩ : ∃ places : ℕ, place double + 52 = places :=
      ⟨(place double + 52).toNat, by omega⟩
    have hproduct : double * 100 = ((2 ^ places * 100 : ℤ) : ℚ) := by
      rw [hpower, hplaces, zpow_natCast]
      push_cast
      rfl
    have hinteger : (2 ^ places * 100 : ℤ) ≤ 2 ^ 53 := by
      have hbound : ((2 ^ places * 100 : ℤ) : ℚ) ≤ 2 ^ 53 := by
        rw [← hproduct]
        linarith
      exact_mod_cast hbound
    have hexact : IsDouble (double * 100) := by
      rw [hproduct]
      exact isDouble_intCast (by rwa [abs_of_pos (by positivity)])
    rw [nearest_of_isDouble (by positivity) hexact, hproduct, halfEven_intCast] at hcents
    have hcast : ((2 ^ places * 100 : ℤ) : ℚ) = ((100 * riel : ℤ) : ℚ) := by rw [hcents]
    rw [← hproduct] at hcast
    push_cast at hcast
    linarith

/-- A small float still tells which hundredths it was read from. -/
theorem eq_riel_of_small {value : ℚ} (hvalue : 0 < value) {integer : ℤ}
    (hdecimals : value * 100 = integer) (hsmall : nearest value < 2 ^ 45)
    (hriel : IsDouble (riel : ℚ))
    (hcents : halfEven (nearest (nearest value * 100)) = 100 * riel) : nearest value = riel := by
  have hlimit : value < 2 ^ 45 := by
    by_contra hnot
    have hbound := nearest_mono (by norm_num) (not_lt.mp hnot)
    rw [nearest_two_pow] at hbound
    linarith
  -- both roundings together stay within half a cent of the hundredths that were read
  have hgrain : unit value ≤ 2 ^ (-8 : ℤ) := by
    refine unit_le hvalue.ne' ?_ (by norm_num)
    rw [abs_of_pos hvalue]
    norm_num
    linarith
  have hgrain' : unit (nearest value * 100) ≤ 2 ^ (-1 : ℤ) := by
    rcases (nearest_nonneg hvalue.le).eq_or_lt with hzero | hpositive
    · rw [← hzero]
      decide +kernel
    · refine unit_le (by positivity) ?_ (by norm_num)
      rw [abs_of_pos (by positivity)]
      norm_num
      linarith
  norm_num at hgrain hgrain'
  have hrounded := abs_le.mp (abs_nearest_sub_le value)
  have hscaled := abs_le.mp (abs_nearest_sub_le (nearest value * 100))
  have hsame : halfEven (nearest (nearest value * 100)) = integer := by
    refine halfEven_of_lt ?_
    rw [← hdecimals, abs_lt]
    constructor <;> linarith
  have hexact : value = riel := by
    rw [hcents] at hsame
    have hcast : (integer : ℚ) = 100 * riel := by rw [← hsame]; push_cast; rfl
    linarith
  rw [hexact]
  exact nearest_of_isDouble (hexact ▸ hvalue.le) hriel

end Riel

/-- Riel come back as the cents they were scaled to just when the amount is a whole number of
them and its product is a double. -/
theorem printedCents_khr_iff {value : ℚ} (hvalue : 0 < value) {integer : ℤ}
    (hdecimals : value * 100 = integer) (hrounded : nearest value = double)
    (hpositive : 0 < double) (hcents : halfEven (nearest (double * 100)) = cents) :
    printedCents .doubles cents .khr = cents ↔ KeepsRiel double := by
  have hdouble : IsDouble double := hrounded ▸ isDouble_nearest value
  constructor
  · intro hback
    obtain ⟨riel, hprinted⟩ : ∃ riel, halfEven (nearest ((cents : ℚ) / 100)) = riel := ⟨_, rfl⟩
    obtain rfl : 100 * riel = cents := by
      rw [← hprinted]
      exact hback
    have hdivided : ((100 * riel : ℤ) : ℚ) / 100 = riel := by
      push_cast
      ring
    rw [hdivided] at hprinted
    have hlow : 0 ≤ riel := by
      have hzero := halfEven_nonneg (nearest_nonneg (by positivity : 0 ≤ double * 100))
      rw [hcents] at hzero
      omega
    have hriel := isDouble_riel hlow hprinted
    -- from 2 ^ 52 on the product is whole; below it the grain of the float decides
    have hsame : double = riel := by
      rcases le_or_gt (2 ^ 52) (double * 100) with hlarge | hbelow
      · exact eq_riel_of_large hdouble hpositive hlarge hriel hcents
      · rcases le_or_gt (2 ^ 45) double with hmiddle | hsmall
        · exact eq_riel_of_middle hdouble hmiddle hbelow hriel hcents
        · subst hrounded
          exact eq_riel_of_small hvalue hdecimals hsmall hriel hcents
    refine ⟨⟨riel, hsame⟩, ?_⟩
    have hproduct : double * 100 = ((100 * riel : ℤ) : ℚ) := by
      rw [hsame]
      push_cast
      ring
    rw [hproduct]
    exact isDouble_cents hpositive hcents
  · rintro ⟨⟨riel, rfl⟩, hproduct⟩
    have hscaled : (riel : ℚ) * 100 = ((riel * 100 : ℤ) : ℚ) := by push_cast; rfl
    rw [nearest_of_isDouble (by positivity) hproduct, hscaled, halfEven_intCast] at hcents
    have hquotient : (cents : ℚ) / 100 = riel := by
      rw [← hcents]
      push_cast
      ring
    simp only [printedCents, Arithmetic.nearest]
    rw [hquotient, nearest_of_isDouble hpositive.le hdouble, halfEven_intCast]
    omega

end Back

end ChmabaPay
