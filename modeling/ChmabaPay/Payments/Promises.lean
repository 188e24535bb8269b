import ChmabaPay.Payments.Limits
import ChmabaPay.Payments.Renderings

/-! # What a code for a bare link asks for

A response states a currency and an amount, and its code asks for a currency's number and an
amount's text. The currency is any text of the caller, and only two of them have a number of
their own.
-/

namespace ChmabaPay

open Calendar Fallible Doubles

/-- The currency codes of ISO 4217 and their numbers. Codes are capital letters. -/
structure CurrencyRegistry where
  number : String → Option String
  dollar : ∀ code, number code = some "840" ↔ code = "USD"
  riel : number "KHR" = some "116"
  capitals : ∀ code, (number code).isSome → code.toList ≠ [] ∧
    ∀ char ∈ code.toList, char.isUpper = true

/-- Tag 53 is the number of the currency the response states, and tag 54 denotes the amount
it states. -/
def KhqrFromLinkResponse.AsksAsStated (registry : CurrencyRegistry)
    (response : KhqrFromLinkResponse) : Prop :=
  (∃ number, (parseTlv response.qrString.toList).lookup "53" = some number ∧
      registry.number response.currency = some (String.ofList number)) ∧
    ∃ text, (parseTlv response.qrString.toList).lookup "54" = some text ∧
      Denotes text response.amountCents

section Currency

variable {registry : CurrencyRegistry}

/-- Only the dollar and the riel get their own number. -/
theorem currencyIso_registered_iff (currency : String) :
    registry.number currency = some (String.ofList (currencyIso currency)) ↔
      currency = "USD" ∨ currency = "KHR" := by
  rw [currencyIso_eq]
  by_cases husd : currency = "USD"
  · rw [if_pos husd]
    exact iff_of_true ((registry.dollar currency).mpr husd) (.inl husd)
  by_cases hkhr : currency = "KHR"
  · rw [if_neg husd, if_pos hkhr, hkhr]
    exact iff_of_true registry.riel (.inr rfl)
  rw [if_neg husd, if_neg hkhr]
  refine iff_of_false ?_ (by simp [husd, hkhr])
  intro hnumber
  obtain ⟨hne, hcapitals⟩ := registry.capitals currency (hnumber ▸ rfl)
  rw [pythonInt_capitals hne hcapitals] at hnumber
  exact husd ((registry.dollar currency).mp hnumber)

/-- A text of hundredths denotes no others. -/
theorem hundredthsText_denotes_iff {hundredths amountCents : Int} (hlow : 0 ≤ hundredths) :
    Denotes (hundredthsText hundredths) amountCents ↔ hundredths = amountCents := by
  have hown := hundredthsText_denotes hlow
  constructor
  · intro hdenotes
    have hsame := Option.some.inj (hown.symm.trans hdenotes)
    have hcast : (hundredths : ℚ) = amountCents := by linarith
    exact_mod_cast hcast
  · rintro rfl
    exact hown

end Currency

section Response

variable {settings : Settings} {outside : KhqrOutside} {body : KhqrFromLinkRequest}
  {response : KhqrFromLinkResponse} {registry : CurrencyRegistry}

/-- The cents of a response are those of the amount, scaled in doubles. -/
theorem response_cents (hresponse : khqrFromLink settings outside body = .ok response) :
    ∃ value, body.amount.value.toRat? = some value ∧
      halfEven (nearest (nearest value * 100)) = response.amountCents := by
  obtain ⟨_, _, -, -, -, -, hcents, -⟩ := khqrFromLink_eq_ok hresponse
  obtain ⟨double, hdouble, -, hscaled⟩ := cents_eq_ok_iff.mp hcents
  obtain ⟨value, hvalue, -, rfl⟩ := double_eq_ok_iff.mp hdouble
  exact ⟨value, hvalue, hscaled⟩

/-- A response says what its code asks for just when the currency has a number of its own and
the amount is printed as the cents it states. -/
theorem asksAsStated_iff (hresponse : khqrFromLink settings outside body = .ok response) :
    response.AsksAsStated registry ↔
      (response.currency = "USD" ∨ response.currency = "KHR") ∧
        printedCents .doubles response.amountCents (printedCurrency response.currency) =
          response.amountCents := by
  obtain ⟨value, hvalue, hcents⟩ := response_cents hresponse
  obtain ⟨_, _, -, -, -, -, -, -, -, -, hpayload⟩ := khqrFromLink_eq_ok hresponse
  obtain ⟨-, -, -, -, helements, hqr⟩ := fromLinkPayload_eq_ok_iff.mp hpayload
  have hread := parseTlv_printedPayload (printable_of_tagged tagged_fromLinkElements helements)
  rw [← hqr] at hread
  have hnumber : (parseTlv response.qrString.toList).lookup "53" =
      some (currencyIso response.currency) := by
    rw [hread]
    exact lookup_payloadElements.1
  have htext : (parseTlv response.qrString.toList).lookup "54" = some (amountText .doubles
      response.amountCents (printedCurrency response.currency)) := by
    rw [hread]
    exact lookup_payloadElements.2
  have hlow : 0 ≤ response.amountCents := by
    rw [← hcents]
    exact scaledCents_nonneg (accepted_value body.accepted hvalue).1.le
  rw [KhqrFromLinkResponse.AsksAsStated, hnumber, htext]
  simp only [Option.some.injEq, exists_eq_left', currencyIso_registered_iff, amountText_eq,
    hundredthsText_denotes_iff (printedCents_nonneg hlow _)]

/-- A code asks for what its response states just when the currency is the dollar and a double
lies within half a cent of the hundredfold amount, or it is the riel and the amount a whole
number of it whose hundredfold is a double. -/
theorem khqrFromLink_asks_iff (registry : CurrencyRegistry)
    (hresponse : khqrFromLink settings outside body = .ok response) :
    response.AsksAsStated registry ↔ ∃ value, body.amount.value.toRat? = some value ∧
      (pythonUpper body.chosenCurrency = "USD" ∧ KeepsCents (nearest value) ∨
        pythonUpper body.chosenCurrency = "KHR" ∧ KeepsRiel (nearest value)) := by
  obtain ⟨value, hvalue, hcents⟩ := response_cents hresponse
  obtain ⟨_, _, -, -, -, -, -, hcurrency, -⟩ := khqrFromLink_eq_ok hresponse
  obtain ⟨hpositive, integer, hdecimals⟩ := accepted_value body.accepted hvalue
  have hdouble := nearest_pos_of_accepted body.accepted hvalue
  have husd := printedCents_usd_iff (isDouble_nearest value) hdouble hcents
  have hkhr := printedCents_khr_iff hpositive hdecimals rfl hdouble hcents
  have hprinted : printedCurrency "USD" = .usd ∧ printedCurrency "KHR" = .khr := by decide
  rw [asksAsStated_iff hresponse, ← hcurrency]
  simp only [hvalue, Option.some.injEq, exists_eq_left']
  constructor
  · rintro ⟨hname | hname, hsame⟩
    · rw [hname, hprinted.1] at hsame
      exact .inl ⟨hname, husd.mp hsame⟩
    · rw [hname, hprinted.2] at hsame
      exact .inr ⟨hname, hkhr.mp hsame⟩
  · rintro (⟨hname, hkeeps⟩ | ⟨hname, hkeeps⟩)
    · rw [hname, hprinted.1]
      exact ⟨.inl rfl, husd.mpr hkeeps⟩
    · rw [hname, hprinted.2]
      exact ⟨.inr rfl, hkhr.mpr hkeeps⟩

end Response

section

open Specimen

/-- The three rows of the registry that are used here. -/
def Specimen.registry : CurrencyRegistry where
  number code :=
    if code = "USD" then some "840" else if code = "KHR" then some "116"
    else if code = "EUR" then some "978" else none
  dollar := by
    intro code
    by_cases husd : code = "USD"
    · simp [husd]
    · simp only [husd, if_false, iff_false]
      split
      · decide
      · split
        · decide
        · simp
  riel := by decide
  capitals := by
    intro code hsome
    by_cases husd : code = "USD"
    · subst husd
      exact ⟨by decide, List.all_eq_true.mp (by decide)⟩
    by_cases hkhr : code = "KHR"
    · subst hkhr
      exact ⟨by decide, List.all_eq_true.mp (by decide)⟩
    by_cases heur : code = "EUR"
    · subst heur
      exact ⟨by decide, List.all_eq_true.mp (by decide)⟩
    · simp [husd, hkhr, heur] at hsome

theorem khqrFromLink_asks_dollars :
    ∃ response, khqrFromLink {} khqrOutside (linkRequest "CHMABA0000000001" (by decide)) =
      .ok response ∧ response.AsksAsStated registry := by
  obtain ⟨response, hresponse⟩ : ∃ response, khqrFromLink {} khqrOutside
      (linkRequest "CHMABA0000000001" (by decide)) = .ok response :=
    linkRequest_returns (by decide) (by decide)
  have hdollars : pythonUpper (orElse none "USD") = "USD" := by decide +kernel
  have hfive : nearest (50 * 10 ^ (-1 : ℤ)) = 5 := by decide +kernel
  have hkeeps : KeepsCents (nearest (50 * 10 ^ (-1 : ℤ))) := by
    rw [hfive]
    exact keepsCents_of_lt (by norm_num) (by norm_num)
  exact ⟨response, hresponse, (khqrFromLink_asks_iff registry hresponse).mpr
    ⟨_, rfl, .inl ⟨hdollars, hkeeps⟩⟩⟩

/-- The same request, in euros. -/
def Specimen.euroRequest : KhqrFromLinkRequest :=
  { linkRequest "CHMABA0000000001" (by decide) with currency := some "EUR" }

/-- Five euros are asked for as five dollars. -/
theorem khqrFromLink_asks_other :
    ∃ response, khqrFromLink {} khqrOutside euroRequest = .ok response ∧
      response.currency = "EUR" ∧ ¬ response.AsksAsStated registry := by
  have heuros : pythonUpper euroRequest.chosenCurrency = "EUR" := by decide +kernel
  have hfits : FromLinkFits (linkRequest "CHMABA0000000001" (by decide)) ""
      "ABAPAYpe518710Y".toList := linkRequest_fits (by decide)
  have heuroFits : FromLinkFits euroRequest "" "ABAPAYpe518710Y".toList := by
    refine ⟨hfits.account, hfits.reference, ?_, hfits.amount⟩
    rw [heuros]
    have hnone : (pythonInt "EUR".toList).isSome = false := by decide +kernel
    intro hsome
    cases hnone.symm.trans hsome
  have hlink : euroRequest.link = (linkRequest "CHMABA0000000001" (by decide)).link := rfl
  have hslug : normalizeLink euroRequest.link.toList = .ok ("ABAPAYpe518710Y".toList,
      "https://link.payway.com.kh/ABAPAYpe518710Y".toList) := by
    rw [hlink]
    exact linkRequest_slug
  obtain ⟨response, hresponse⟩ : ∃ response, khqrFromLink {} khqrOutside euroRequest =
      .ok response := (admitted_returns_iff clockReading_specimen.1 hslug).mpr heuroFits
  obtain ⟨_, _, -, -, -, -, -, hcurrency, -⟩ := khqrFromLink_eq_ok hresponse
  refine ⟨response, hresponse, hcurrency.trans heuros, ?_⟩
  rw [asksAsStated_iff hresponse, hcurrency.trans heuros]
  have hother : "EUR" ≠ "USD" ∧ "EUR" ≠ "KHR" := by decide
  rintro ⟨husd | hkhr, -⟩
  · exact hother.1 husd
  · exact hother.2 hkhr

end

end ChmabaPay
