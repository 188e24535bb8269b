import ChmabaPay.Payments.Limits

/-! # Whether the copy mirrors the encoder

The two copies try the same fields in the same order. They differ where the fields fill the
last four of the 99 characters, which the header of the template needs, and where a currency
is spelt with blanks around it.
-/

namespace ChmabaPay

open Calendar Packing

/-! ## The two copies -/

/-- A request and a payment that say the same: account, name, amount, currency, bill number
that is the reference as well, client id, and the second in which the code expires. -/
structure SameInputs (settings : Settings) (outside : KhqrOutside) (body : KhqrFromLinkRequest)
    (response : KhqrFromLinkResponse) (store : Store) (link : PaymentLink) (amountCents : Int)
    (billNumber : String) (expiresAt : Instant) (currency : Option String) : Prop where
  account : link.merchantAccountId = response.merchantBakongId
  name : displayName store link = response.merchantName
  amount : amountCents = response.amountCents
  currency : (currency.filter (· ≠ "")).getD link.currency.name = body.chosenCurrency
  bill : billNumber = response.billNumber
  reference : response.externalRef = response.billNumber
  client : link.clientId = (response.paywayClientId.getD "").toList
  expiry : ttlSeconds expiresAt outside.now = body.ttl settings
  template : body.bakongDirect = false

/-- The characters the fields of a private template take, in the order in which they are
tried. -/
def templateWidths (clientId bill expiry now : ℕ) : List ℕ :=
  (if clientId ≠ 0 then [14] else []) ++ [4 + bill, 4 + bill, 4 + expiry] ++
    (if clientId ≠ 0 then [4 + clientId] else []) ++ [13, 4 + now]

/-- The fields that fit 99 characters, one after the other, take at most 95. -/
def LeavesHeaderRoom (clientId bill : List Char) (nowEpoch expiry : Int) : Prop :=
  filled 99 0 (templateWidths clientId.length bill.length (integerText expiry).length
    (integerText nowEpoch).length) ≤ 95

instance (clientId bill : List Char) (nowEpoch expiry : Int) :
    Decidable (LeavesHeaderRoom clientId bill nowEpoch expiry) :=
  inferInstanceAs (Decidable (_ ≤ _))

/-- Tag 62 is printed alike by both copies. -/
def SameAdditional (clientId bill : List Char) (nowEpoch expiry : Int) : Prop :=
  encode (additionalData (encode (pack partWidth 99 0
      (privateParts clientId bill nowEpoch expiry))) bill (terminalId nowEpoch)) =
    encode (fromLinkData (encode (pack partWidth 95 0
      (privateParts clientId bill nowEpoch expiry))) bill (terminalId nowEpoch))

instance (clientId bill : List Char) (nowEpoch expiry : Int) :
    Decidable (SameAdditional clientId bill nowEpoch expiry) :=
  inferInstanceAs (Decidable (_ = _))

section Copies

variable {clientId bill : List Char} {nowEpoch expiry : Int}

theorem leavesHeaderRoom_iff (hbill : bill ≠ []) :
    LeavesHeaderRoom clientId bill nowEpoch expiry ↔
      size partWidth (pack partWidth 99 0 (privateParts clientId bill nowEpoch expiry)) ≤ 95 := by
  have hwidths : (privateParts clientId bill nowEpoch expiry).map partWidth =
      templateWidths clientId.length bill.length (integerText expiry).length
        (integerText nowEpoch).length := by
    have hterminal : (terminalId nowEpoch).length = 9 := length_terminalId
    by_cases hclient : clientId = []
    · simp [privateParts, privateFields, templateWidths, partWidth, hclient, hbill, hterminal]
    · simp [privateParts, privateFields, templateWidths, partWidth, hclient, hbill, hterminal]
  rw [LeavesHeaderRoom, ← hwidths, ← used_add_size_pack, Nat.zero_add]

/-- Some field of the template always fits what tag 62 leaves. -/
theorem fromLinkTemplate_ne_nil (hbill : bill ≠ []) (hlength : bill.length ≤ 64) :
    pack partWidth 95 0 (privateParts clientId bill nowEpoch expiry) ≠ [] := by
  have hnetwork : "PAYWAY@ABA".toList.length = 10 := by decide
  unfold privateParts privateFields
  rw [if_pos hbill]
  by_cases hclient : clientId = []
  · rw [if_neg (not_not.mpr hclient), List.nil_append, List.append_assoc, List.append_assoc,
      List.cons_append, pack_cons_of_le (by simp only [partWidth]; omega)]
    exact List.cons_ne_nil _ _
  · rw [if_pos hclient, List.append_assoc, List.append_assoc, List.append_assoc, List.cons_append,
      pack_cons_of_le (by simp only [partWidth, hnetwork]; omega)]
    exact List.cons_ne_nil _ _

/-- Tag 62 is the same in both copies just when the template of the first keeps its place
in it. -/
theorem sameAdditional_iff (hbill : bill ≠ []) (hlength : bill.length ≤ 64)
    (hshort : Short (privateParts clientId bill nowEpoch expiry)) :
    SameAdditional clientId bill nowEpoch expiry ↔
      LeavesHeaderRoom clientId bill nowEpoch expiry := by
  have htags := tagged_privateParts clientId bill nowEpoch expiry
  have hsame : ∀ inner, additionalData inner bill (terminalId nowEpoch) =
      fromLinkData inner bill (terminalId nowEpoch) := by
    intro inner
    rw [additionalData, fromLinkData, additionalParts, fromLinkAdditional, if_pos hbill,
      List.append_assoc]
    rfl
  rw [SameAdditional, leavesHeaderRoom_iff hbill, ← hsame]
  constructor
  · intro heq
    have hsmall := length_encode_pack 95 htags hshort
    have hlarge := length_encode_pack 99 htags hshort
    have hprintable : ∀ inner : List Char, inner.length ≤ 99 → ∀ part ∈
        additionalData inner bill (terminalId nowEpoch), Printable part := fun inner hinner =>
      printable_pack (tagged_additionalParts _ _ _) (additionalParts_short hinner hshort)
    have hread := congrArg parseTlv heq
    rw [parseTlv_printed (hprintable _ hlarge),
      parseTlv_printed (hprintable _ (by omega))] at hread
    -- the second copy always carries its template
    have hkept : pack partWidth 95 0 (privateParts clientId bill nowEpoch expiry) ≠ [] :=
      fromLinkTemplate_ne_nil hbill hlength
    obtain ⟨part, hpart⟩ := List.exists_mem_of_ne_nil _ hkept
    have hfield : ("50", encode (pack partWidth 95 0 (privateParts clientId bill nowEpoch
        expiry))) ∈ additionalData (encode (pack partWidth 95 0 (privateParts clientId bill
          nowEpoch expiry))) bill (terminalId nowEpoch) :=
      mem_additional_iff.mpr
        ⟨rfl, encode_ne_nil (printable_pack htags hshort) hpart, hsmall⟩
    rw [← hread] at hfield
    obtain ⟨-, -, hroom⟩ := mem_additional_iff.mp hfield
    rwa [length_encode (printable_pack htags hshort)] at hroom
  · intro hroom
    rw [pack_eq_pack (by decide : 95 ≤ 99) (by omega)]

theorem mem_iso_iff {accountId iso amount name number checksum : List Char}
    {t62 window : List (String × List Char)} :
    ("53", number) ∈ payloadElements accountId iso amount name t62 window ++
        [("63", checksum)] ↔ number = iso := by
  unfold payloadElements emvcoElements
  by_cases ht62 : encode t62 = [] <;> by_cases hwindow : window = [] <;> simp [ht62, hwindow]

/-- Two payloads that agree in the rest are equal just when they have the same currency
number and the same tag 62. -/
theorem printedPayload_eq_iff {accountId iso iso' amount name : List Char}
    {t62 t62' window : List (String × List Char)}
    (helements : Short (payloadElements accountId iso amount name t62 window))
    (helements' : Short (payloadElements accountId iso' amount name t62' window)) :
    printedPayload (payloadElements accountId iso amount name t62 window) =
        printedPayload (payloadElements accountId iso' amount name t62' window) ↔
      iso = iso' ∧ encode t62 = encode t62' := by
  constructor
  · intro heq
    have hread := congrArg (fun payload : String => parseTlv payload.toList) heq
    simp only [parseTlv_printedPayload (printable_of_tagged (tagged_payloadElements _ _ _ _ _ _)
      helements), parseTlv_printedPayload (printable_of_tagged
        (tagged_payloadElements _ _ _ _ _ _) helements')] at hread
    refine ⟨mem_iso_iff.mp (hread ▸ mem_iso_iff.mpr rfl), ?_⟩
    by_cases hempty : encode t62 = []
    · by_cases hempty' : encode t62' = []
      · rw [hempty, hempty']
      · exact (mem_payloadElements_iff.mp
          (hread.symm ▸ mem_payloadElements_iff.mpr ⟨rfl, hempty'⟩)).1.symm
    · exact (mem_payloadElements_iff.mp
        (hread ▸ mem_payloadElements_iff.mpr ⟨rfl, hempty⟩)).1
  · rintro ⟨rfl, ht62⟩
    rw [payloadElements, payloadElements, ht62]

end Copies

section Mirrors

variable {settings : Settings} {outside : KhqrOutside} {body : KhqrFromLinkRequest}
  {response : KhqrFromLinkResponse} {store : Store} {link : PaymentLink} {amountCents : Int}
  {billNumber payload : String} {expiresAt : Instant} {currency : Option String}

/-- A bill number is there, and of a length the schema admits. -/
theorem response_bill (hresponse : khqrFromLink settings outside body = .ok response) :
    response.billNumber.toList ≠ [] ∧ response.billNumber.toList.length ≤ 64 := by
  obtain ⟨_, _, -, -, -, -, -, -, hbill, -⟩ := khqrFromLink_eq_ok hresponse
  obtain ⟨hlow, hhigh⟩ := @length_bill body outside.token
  rw [hbill]
  exact ⟨List.ne_nil_of_length_pos hlow, hhigh⟩

/-- The payloads are the same just when the currency's number and tag 62 are. -/
theorem qrString_eq_iff
    (hresponse : khqrFromLink settings outside body = .ok response)
    (hbuild : buildKhqrPayload .doubles outside.now outside.now store link amountCents billNumber
      expiresAt currency = .ok payload)
    (hinputs : SameInputs settings outside body response store link amountCents billNumber
      expiresAt currency) :
    response.qrString = payload ↔
      currencyIso (pythonUpper (stripped body.chosenCurrency)) =
          currencyIso (pythonUpper body.chosenCurrency) ∧
        SameAdditional link.clientId billNumber.toList (epochSeconds outside.now)
          (epochSeconds outside.now + body.ttl settings) := by
  obtain ⟨_, _, -, -, -, -, -, hcurrency, -, -, hpayload⟩ := khqrFromLink_eq_ok hresponse
  obtain ⟨haccount, hname, rfl, hchosen, rfl, href, hclient, hexpiry, htemplate⟩ := hinputs
  have hselected : selectedCurrency currency link =
      pythonUpper (stripped body.chosenCurrency) := by
    rw [selectedCurrency, hchosen, stripped]
  rw [htemplate, href, ← haccount, ← hname, ← hclient, hcurrency] at hpayload
  obtain ⟨-, -, -, -, hprinted, hqr⟩ := fromLinkPayload_eq_ok_iff.mp hpayload
  obtain ⟨-, -, -, -, hprinted', rfl⟩ := buildKhqrPayload_eq_ok_iff.mp hbuild
  simp only [khqrElements, hexpiry, hselected, printedCurrency_stripped] at hprinted' ⊢
  simp only [fromLinkElements, fromLinkTemplate, fromLinkValidity, Bool.false_eq_true, if_false]
    at hprinted hqr
  rw [hqr, printedPayload_eq_iff hprinted hprinted']
  exact and_congr eq_comm eq_comm

/-- The copy builds the same payload for the same inputs just when the currency's number does
not depend on blanks around it, and the private template of the first copy leaves its header
room in tag 62. -/
theorem khqrFromLink_mirrors_iff
    (hresponse : khqrFromLink settings outside body = .ok response)
    (hbuild : buildKhqrPayload .doubles outside.now outside.now store link amountCents billNumber
      expiresAt currency = .ok payload)
    (hinputs : SameInputs settings outside body response store link amountCents billNumber
      expiresAt currency) :
    response.qrString = payload ↔ SpeltAlike body.chosenCurrency ∧
      LeavesHeaderRoom link.clientId billNumber.toList (epochSeconds outside.now)
        (epochSeconds outside.now + body.ttl settings) := by
  obtain ⟨hnonempty, hhigh⟩ := response_bill hresponse
  rw [← hinputs.bill] at hnonempty hhigh
  obtain ⟨-, hprivate, -⟩ := buildKhqrPayload_eq_ok_iff.mp hbuild
  rw [hinputs.expiry] at hprivate
  rw [qrString_eq_iff hresponse hbuild hinputs, currencyIso_stripped_iff,
    sameAdditional_iff hnonempty hhigh hprivate]

end Mirrors

section

open Specimen

/-- The shop's link to the same account. -/
def Specimen.slugLink : PaymentLink :=
  { link 1 with merchantAccountId := "ABAPAYpe518710Y" }

theorem linkRequest_same {billNumber : String} {hbill : billNumber.length ≤ 64}
    {response : KhqrFromLinkResponse} (hne : billNumber ≠ "")
    (hresponse : khqrFromLink {} khqrOutside (linkRequest billNumber hbill) = .ok response) :
    SameInputs {} khqrOutside (linkRequest billNumber hbill) response shopStore slugLink 500
      billNumber (seconds 1790000300) none := by
  obtain ⟨slug, url, hslug, haccount, hname, hclient, hcents, -, hbillNumber, href, -⟩ :=
    khqrFromLink_eq_ok hresponse
  obtain ⟨rfl, rfl⟩ := Prod.mk.inj (Except.ok.inj (linkRequest_slug.symm.trans hslug))
  have hgiven : response.billNumber = billNumber := hbillNumber.trans (linkRequest_bill hne)
  have hstripped : slugLink.merchantAccountId = String.ofList (pythonStrip
      (orElse none (String.ofList "ABAPAYpe518710Y".toList)).toList) := by decide +kernel
  have hshown : displayName shopStore slugLink = ((some "Shop").filter fun text =>
      decide (text ≠ "")).getD (String.ofList "ABAPAYpe518710Y".toList) := by decide +kernel
  have hdollars : ((none : Option String).filter (· ≠ "")).getD slugLink.currency.name =
      orElse none "USD" := by decide +kernel
  have hlifetime : ttlSeconds (seconds 1790000300) (seconds 1790000000) =
      max 30 (min (Option.getD none ({} : Settings).checkoutTtlSeconds) (86400 * 30)) := by
    decide +kernel
  constructor
  case account => rw [haccount]; exact hstripped
  case name => rw [hname]; exact hshown
  case amount => exact Except.ok.inj (linkRequest_cents.symm.trans hcents)
  case currency => exact hdollars
  case bill => exact hgiven.symm
  case reference => exact href.trans (by rw [hbillNumber]; rfl)
  case client => rw [hclient]; rfl
  case expiry => exact hlifetime
  case template => rfl

/-- The shop's code for the same five dollars. -/
def Specimen.slugPayload (billNumber : String) : Except KhqrError String :=
  buildKhqrPayload .doubles (seconds 1790000000) (seconds 1790000000) shopStore slugLink 500
    billNumber (seconds 1790000300) none

/-- A bill number of sixteen characters leaves the header its room. -/
theorem khqrFromLink_mirrors_short :
    ∃ response payload, khqrFromLink {} khqrOutside (linkRequest "CHMABA0000000001" (by decide)) =
        .ok response ∧
      slugPayload "CHMABA0000000001" = .ok payload ∧ response.qrString = payload := by
  obtain ⟨response, hresponse⟩ : ∃ response, khqrFromLink {} khqrOutside
      (linkRequest "CHMABA0000000001" (by decide)) = .ok response :=
    linkRequest_returns (by decide) (by decide)
  obtain ⟨payload, hpayload⟩ : ∃ payload, slugPayload "CHMABA0000000001" = .ok payload :=
    buildKhqrPayload_returns_iff.mpr (by decide +kernel)
  exact ⟨response, payload, hresponse, hpayload, (khqrFromLink_mirrors_iff hresponse hpayload
    (linkRequest_same (by decide) hresponse)).mpr (by decide +kernel)⟩

/-- With a bill number of 24 characters the first encoder drops its template and the copy
keeps one. -/
theorem khqrFromLink_differs :
    ∃ response payload,
      khqrFromLink {} khqrOutside (linkRequest "Zk3vQx9TtB7mLw2RyHn5aPcD" (by decide)) =
        .ok response ∧
      slugPayload "Zk3vQx9TtB7mLw2RyHn5aPcD" = .ok payload ∧
      SameInputs {} khqrOutside (linkRequest "Zk3vQx9TtB7mLw2RyHn5aPcD" (by decide)) response
        shopStore slugLink 500 "Zk3vQx9TtB7mLw2RyHn5aPcD" (seconds 1790000300) none ∧
      response.qrString ≠ payload := by
  obtain ⟨response, hresponse⟩ : ∃ response, khqrFromLink {} khqrOutside
      (linkRequest "Zk3vQx9TtB7mLw2RyHn5aPcD" (by decide)) = .ok response :=
    linkRequest_returns (by decide) (by decide)
  obtain ⟨payload, hpayload⟩ : ∃ payload, slugPayload "Zk3vQx9TtB7mLw2RyHn5aPcD" = .ok payload :=
    buildKhqrPayload_returns_iff.mpr (by decide +kernel)
  have hsame := linkRequest_same (by decide) hresponse
  refine ⟨response, payload, hresponse, hpayload, hsame, ?_⟩
  rw [Ne, qrString_eq_iff hresponse hpayload hsame]
  decide +kernel

end

end ChmabaPay
