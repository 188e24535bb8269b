import ChmabaPay.Payments.Rails
import ChmabaPay.Routers.Payments
import ChmabaPay.Specimen

/-! # Amounts and their column

An accepted amount is a positive number of whole cents, or infinite. Its cents are computed
exactly. Nothing compares them with the greatest value of the column before the code is
minted, so what is stored is what fits by itself.
-/

namespace ChmabaPay

open Calendar Relational Fallible

/-! ## The cents of an accepted amount -/

/-- A hundred times the number a float's text reads is exact. -/
theorem hundredfold_finite {amount : FloatText} {coefficient exponent : ℤ}
    (hamount : amount.value = .finite coefficient exponent) :
    hundredfold amount.value = .ok (.finite (coefficient * 100) exponent) := by
  have hshort := amount.short coefficient exponent hamount
  rw [hamount, hundredfold]
  apply Decimal.scale_finite
  simp only [decimalPrecision, Int.natAbs_mul, Int.reduceAbs]
  omega

/-- What an accepted amount is. -/
theorem validateAmount_eq_ok {amount : FloatText} (haccepted : validateAmount amount = .ok amount) :
    amount.value = .infinity false ∨
      ∃ coefficient exponent, amount.value = .finite coefficient exponent ∧ 0 < coefficient ∧
        (Decimal.finite (coefficient * 100) exponent).same
          (Decimal.finite (coefficient * 100) exponent).toIntegralValue = true := by
  cases hvalue : amount.value with
  | finite coefficient exponent =>
      right
      refine ⟨coefficient, exponent, rfl, ?_⟩
      have hscaled := hundredfold_finite hvalue
      rw [hvalue] at hscaled
      simp only [validateAmount, hvalue, Decimal.notPositive, hscaled] at haccepted
      by_cases hpositive : 0 < coefficient
      · simp only [not_le.mpr hpositive, decide_false] at haccepted
        split at haccepted
        next hsame => exact ⟨hpositive, hsame⟩
        next => cases haccepted
      · simp only [not_lt.mp hpositive, decide_true] at haccepted
        cases haccepted
  | infinity negative =>
      cases negative with
      | false => exact .inl rfl
      | true =>
          simp only [validateAmount, hvalue, Decimal.notPositive] at haccepted
          cases haccepted
  | nan =>
      simp only [validateAmount, hvalue, Decimal.notPositive] at haccepted
      cases haccepted

/-- The cents of an infinite amount raise; those of any other are the amount a hundred
times. -/
theorem accepted_cents {amount : FloatText} (haccepted : validateAmount amount = .ok amount) :
    (amount.value.toRat? = none ∧ (hundredfold amount.value >>= Decimal.toInt) =
        .error .overflow) ∨
      ∃ cents value, (hundredfold amount.value >>= Decimal.toInt) = .ok cents ∧
        amount.value.toRat? = some value ∧ (cents : ℚ) = value * 100 ∧ 1 ≤ cents := by
  rcases validateAmount_eq_ok haccepted with hinfinite |
    ⟨coefficient, exponent, hfinite, hpositive, hwhole⟩
  · left
    rw [hinfinite]
    exact ⟨rfl, rfl⟩
  · right
    obtain ⟨cents, hcents, hvalue⟩ := Decimal.toInt_of_integral hwhole
    have hexact : (cents : ℚ) = (coefficient * 10 ^ exponent : ℚ) * 100 := by
      rw [hvalue]
      push_cast
      ring
    refine ⟨cents, coefficient * 10 ^ exponent, ?_, ?_, hexact, ?_⟩
    · rw [hundredfold_finite hfinite]
      exact hcents
    · rw [hfinite, Decimal.toRat?_finite]
    · have hcoefficient : (0 : ℚ) < coefficient := by exact_mod_cast hpositive
      have hnumber : (0 : ℚ) < cents := by
        rw [hexact]
        positivity
      exact_mod_cast hnumber

theorem PaymentCreate.cents_cases (body : PaymentCreate) :
    (body.amount.value.toRat? = none ∧ body.cents = .error .overflow) ∨
      ∃ cents value, body.cents = .ok cents ∧ body.amount.value.toRat? = some value ∧
        (cents : ℚ) = value * 100 ∧ 1 ≤ cents :=
  accepted_cents body.accepted

/-! ## The row -/

section Post

variable {settings : Settings} {rail : Rail} {now : Instant} {tables : Tables}
  {ctx : AuthContext} {body : PaymentCreate} {publicId : String}

/-- A row that does not fit is found out when its code has been minted. -/
theorem postPayment_unstorable
    (hpost : postPayment settings rail now tables ctx body publicId = .error .unstorable) :
    ∃ storeId store linkId link cents minted,
      admitPayment settings now tables ctx body = .ok (storeId, store) ∧
      loadActiveLink tables storeId body.currency = .ok (linkId, link) ∧
      body.cents = .ok cents ∧ refuseAmount link cents = .ok () ∧
      mintQr settings rail store link cents publicId now link.currency body.hostedQr =
        .ok minted ∧
      fitsInteger cents = false := by
  unfold postPayment at hpost
  split at hpost
  · cases hpost
  next storeId store hadmit =>
  split at hpost
  · cases hpost
  next cents hcents =>
  split at hpost
  · cases hpost
  next paymentId created hcreate =>
  split at hpost
  next hnew =>
    subst hnew
    obtain ⟨linkId, link, minted, hlink, hamount, hminted, rfl⟩ := createPayment_minted hcreate
    refine ⟨storeId, store, linkId, link, cents, minted, hadmit, hlink, hcents, hamount,
      hminted, ?_⟩
    unfold storePayment at hpost
    split at hpost
    · cases hpost
    next hfits =>
      rw [Table.get?_insert, if_pos rfl, Option.all_some, Bool.not_eq_true] at hfits
      exact hfits
  · cases hpost

/-- The cents of an accepted amount are computed and lie within the column, and a payment
asked for on the link is stored, exactly when the amount is finite and at most
21474836.47: no limit of the link is needed and none is consulted. -/
theorem accepted_amount_fits_iff (body : PaymentCreate) (link : PaymentLink) :
    ((∃ cents, body.cents = .ok cents ∧ 1 ≤ cents ∧ cents ≤ integerMax) ∧
      ∀ settings rail now tables ctx publicId storeId store linkId,
        admitPayment settings now tables ctx body = .ok (storeId, store) →
        loadActiveLink tables storeId body.currency = .ok (linkId, link) →
        postPayment settings rail now tables ctx body publicId ≠ .error .unstorable) ↔
      ∃ value, body.amount.value.toRat? = some value ∧ value * 100 ≤ integerMax := by
  constructor
  · rintro ⟨⟨cents, hcents, -, hmax⟩, -⟩
    rcases body.cents_cases with ⟨-, hraised⟩ | ⟨cents', value, hcents', hvalue, hexact, -⟩
    · rw [hraised] at hcents
      cases hcents
    · obtain rfl := Except.ok.inj (hcents.symm.trans hcents')
      refine ⟨value, hvalue, ?_⟩
      rw [← hexact]
      exact_mod_cast hmax
  · rintro ⟨value, hvalue, hmax⟩
    rcases body.cents_cases with ⟨hinfinite, -⟩ | ⟨cents, value', hcents, hvalue', hexact, hone⟩
    · rw [hinfinite] at hvalue
      cases hvalue
    · obtain rfl := Option.some.inj (hvalue.symm.trans hvalue')
      rw [← hexact] at hmax
      have hfits : cents ≤ integerMax := by exact_mod_cast hmax
      refine ⟨⟨cents, hcents, hone, hfits⟩, ?_⟩
      intro settings rail now tables ctx publicId storeId store linkId _ _ hpost
      obtain ⟨_, _, _, _, cents', _, _, _, hcents', _, _, hover⟩ := postPayment_unstorable hpost
      obtain rfl := Except.ok.inj (hcents.symm.trans hcents')
      simp only [fitsInteger, Bool.and_eq_false_iff, decide_eq_false_iff_not] at hover
      omega

end Post

section

open Specimen

/-- `{"amount": 30000000}` -/
def thirtyMillion : PaymentCreate where
  amount := ⟨.finite 300000000 (-1), by rintro _ _ ⟨⟩; decide⟩
  accepted := by rfl

/-- `{"amount": Infinity}` -/
def endless : PaymentCreate where
  amount := ⟨.infinity false, by rintro _ _ ⟨⟩⟩
  accepted := by rfl

/-- A link without a limit takes thirty million dollars: ABA issues the code, and the row
does not fit. The cents of an infinite amount are not even computed. -/
theorem accepted_amount_unstorable :
    (∃ linkId link, loadActiveLink hostedTables 1 thirtyMillion.currency = .ok (linkId, link) ∧
      thirtyMillion.cents = .ok 3000000000 ∧ refuseAmount link 3000000000 = .ok () ∧
      ¬ (3000000000 ≤ integerMax) ∧
      (hostedRail.createHostedCheckout link.rawLink
        (moneyToStr 3000000000 link.currency false)).isOk = true ∧
      postPayment {} hostedRail 0 hostedTables ⟨1, none⟩ thirtyMillion "pay_1" =
        .error .unstorable) ∧
    endless.cents = .error .overflow ∧
      postPayment {} hostedRail 0 hostedTables ⟨1, none⟩ endless "pay_1" =
        .error (.raised .overflow) := by
  refine ⟨⟨1, _, rfl, rfl, rfl, by decide, rfl, ?_⟩, rfl, ?_⟩
  · rfl
  · rfl

end

end ChmabaPay
