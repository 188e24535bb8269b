import ChmabaPay.Payments.Currencies
import ChmabaPay.Payments.Decoding
import ChmabaPay.Routers.Khqr

/-! # The copy of the encoder

`khqr_from_link` builds its payload with a second copy of the encoder. The first copy packs
the private template against 99 characters and drops it as a whole when the header makes it
too long for tag 62. The second packs it against what tag 62 leaves.
-/

namespace ChmabaPay

open Calendar Fallible Packing

/-! ## What the copy prints -/

/-- A text fits tag 62 behind its header just when it has at most 95 characters. -/
theorem fitsTag62_iff {text : List Char} : fitsTag62 text = true ↔ text.length ≤ 95 := by
  have htag : "50".toList.length = 2 := by decide
  rw [fitsTag62, decide_eq_true_iff, List.length_append, List.length_append, htag]
  constructor
  · intro hfits
    have hpadded : 2 ≤ (zeroPadded 2 text.length).length := by
      rw [zeroPadded, List.length_leftpad]
      exact le_max_left _ _
    omega
  · intro hshort
    rw [length_zeroPadded (by omega) (by omega)]
    omega

theorem tagged_fromLinkAdditional (inner bill termId : List Char) :
    Tagged (fromLinkAdditional inner bill termId) := by
  unfold Tagged fromLinkAdditional payloadTags
  by_cases hinner : inner = [] <;> simp [hinner]

/-- The fields of tag 62 are short enough when the bill number is. -/
theorem fromLinkAdditional_short_iff {inner bill : List Char} {nowEpoch : Int}
    (hinner : inner.length ≤ 99) :
    Short (fromLinkAdditional inner bill (terminalId nowEpoch)) ↔ bill.length ≤ 99 := by
  have hterminal : (terminalId nowEpoch).length ≤ 99 := by
    rw [length_terminalId]
    omega
  unfold Short fromLinkAdditional
  by_cases hempty : inner = [] <;> simp [hempty, hinner, hterminal]

/-- The private template of the copy. -/
def fromLinkTemplate (bakongDirect : Bool) (clientId bill reference : List Char)
    (nowEpoch expiry : Int) : List (String × List Char) :=
  if bakongDirect then []
  else pack partWidth 95 0 (privateFields clientId bill reference nowEpoch expiry)

/-- The elements of its tag 62. -/
def fromLinkData (inner bill termId : List Char) : List (String × List Char) :=
  pack partWidth 99 0 (fromLinkAdditional inner bill termId)

def fromLinkValidity (bakongDirect : Bool) (nowEpoch : Int) : List (String × List Char) :=
  if bakongDirect then [] else validityParts nowEpoch

section FromLink

variable {bakongDirect : Bool} {bakongId name clientId bill reference : List Char}
  {amountCents : Int} {currency payload : String} {nowEpoch ttl : Int}

def fromLinkElements (bakongDirect : Bool) (bakongId name clientId bill reference : List Char)
    (amountCents : Int) (currency : String) (nowEpoch ttl : Int) : List (String × List Char) :=
  payloadElements bakongId (currencyIso currency)
    (amountText .doubles amountCents (printedCurrency currency)) name
    (fromLinkData (encode (fromLinkTemplate bakongDirect clientId bill reference nowEpoch
      (nowEpoch + ttl))) bill (terminalId nowEpoch))
    (fromLinkValidity bakongDirect nowEpoch)

theorem tagged_fromLinkElements : Tagged (fromLinkElements bakongDirect bakongId name clientId
    bill reference amountCents currency nowEpoch ttl) :=
  tagged_payloadElements _ _ _ _ _ _

/-- What the copy asks of the fields it packs. -/
def FromLinkShort (bakongDirect : Bool) (clientId bill reference : List Char)
    (nowEpoch ttl : Int) : Prop :=
  bakongDirect = false →
    Short (privateFields clientId bill reference nowEpoch (nowEpoch + ttl)) ∧
      Short (validityParts nowEpoch)

theorem length_encode_fromLinkTemplate
    (hshort : FromLinkShort bakongDirect clientId bill reference nowEpoch ttl) :
    (encode (fromLinkTemplate bakongDirect clientId bill reference nowEpoch
      (nowEpoch + ttl))).length ≤ 95 := by
  cases bakongDirect with
  | true => exact Nat.zero_le _
  | false => exact length_encode_pack 95 (tagged_privateFields _ _ _ _ _) (hshort rfl).1

/-- The copy returns a payload just when the amount can be divided and every element is short
enough, on every level. -/
theorem fromLinkPayload_eq_ok_iff :
    fromLinkPayload bakongDirect bakongId name clientId bill reference amountCents currency
        nowEpoch ttl = .ok payload ↔
      amountOverflows .doubles amountCents (printedCurrency currency) = false ∧
      FromLinkShort bakongDirect clientId bill reference nowEpoch ttl ∧ bill.length ≤ 99 ∧
      Short (accountParts bakongId) ∧
      Short (fromLinkElements bakongDirect bakongId name clientId bill reference amountCents
        currency nowEpoch ttl) ∧
      payload = printedPayload (fromLinkElements bakongDirect bakongId name clientId bill
        reference amountCents currency nowEpoch ttl) := by
  -- a direct code has neither the private template nor the window of validity
  cases bakongDirect with
  | true =>
      have hempty : ([] : List Char).length ≤ 99 := by simp
      simp only [fromLinkPayload, bind_eq_ok, formatAmount_eq_ok_iff, pure_eq_ok, tlvs_eq_ok_iff,
        withChecksum_eq, packElement_eq_ok_iff (tagged_fromLinkAdditional _ _ _), if_true,
        Except.ok.injEq,
        FromLinkShort, fromLinkElements, fromLinkTemplate, fromLinkValidity, payloadElements]
      constructor
      · rintro ⟨_, ⟨hfinite, rfl⟩, _, ⟨haccount, rfl⟩, _, rfl, _, ⟨hadditional, rfl⟩, _,
          ⟨hnamed, rfl⟩, _, rfl, rfl⟩
        refine ⟨hfinite, by simp, (fromLinkAdditional_short_iff hempty).mp hadditional,
          haccount, ?_, ?_⟩
        · rw [List.append_nil]
          exact hnamed
        · simp only [printedPayload, List.append_nil]
          rfl
      · rintro ⟨hfinite, -, hbill, haccount, helements, rfl⟩
        rw [List.append_nil] at helements
        refine ⟨_, ⟨hfinite, rfl⟩, _, ⟨haccount, rfl⟩, _, rfl, _,
          ⟨(fromLinkAdditional_short_iff hempty).mpr hbill, rfl⟩, _, ⟨helements, rfl⟩, _, rfl, ?_⟩
        simp only [printedPayload, List.append_nil]
        rfl
  | false =>
      simp only [fromLinkPayload, bind_eq_ok, formatAmount_eq_ok_iff, tlvs_eq_ok_iff,
        tlv_eq_ok_iff, withChecksum_eq,
        packElement_eq_ok_iff (tagged_fromLinkAdditional _ _ _), Bool.false_eq_true, if_false,
        packFitting_loop 95 (fun text => fitsTag62_iff) (tagged_privateFields _ _ _ _ _),
        Except.ok.injEq, FromLinkShort, fromLinkElements, fromLinkTemplate, fromLinkValidity,
        payloadElements, validityParts_ne_nil, List.nil_append, List.length_nil, true_imp_iff]
      constructor
      · rintro ⟨_, ⟨hfinite, rfl⟩, _, ⟨haccount, rfl⟩, _, ⟨hprivate, rfl⟩, _,
          ⟨hadditional, rfl⟩, _, ⟨hnamed, rfl⟩, _, ⟨hvalidity, rfl⟩, _, ⟨hwindow, rfl⟩, rfl⟩
        have hinner := length_encode_pack 95 (tagged_privateFields _ _ _ _ _) hprivate
        refine ⟨hfinite, ⟨hprivate, hvalidity⟩,
          (fromLinkAdditional_short_iff (by omega)).mp hadditional, haccount, ?_, ?_⟩
        · exact List.forall_mem_append.mpr ⟨hnamed, by simpa using hwindow⟩
        · simp only [printedPayload, encode_append, encode_singleton]
          rfl
      · rintro ⟨hfinite, ⟨hprivate, hvalidity⟩, hbill, haccount, helements, rfl⟩
        have hinner := length_encode_pack 95 (tagged_privateFields _ _ _ _ _) hprivate
        obtain ⟨hnamed, hwindow⟩ := List.forall_mem_append.mp helements
        refine ⟨_, ⟨hfinite, rfl⟩, _, ⟨haccount, rfl⟩, _, ⟨hprivate, rfl⟩, _,
          ⟨(fromLinkAdditional_short_iff (by omega)).mpr hbill, rfl⟩, _, ⟨hnamed, rfl⟩,
          _, ⟨hvalidity, rfl⟩, _, ⟨by simpa using hwindow, rfl⟩, ?_⟩
        simp only [printedPayload, encode_append, encode_singleton]
        rfl

end FromLink

/-! ## The response -/

theorem mapError_eq_ok {α ε ε' : Type} {result : Except ε α} {value : α} {f : ε → ε'} :
    result.mapError f = .ok value ↔ result = .ok value := by
  cases result with
  | error => simp [Except.mapError]
  | ok => simp [Except.mapError]

section Response

variable {settings : Settings} {outside : KhqrOutside} {body : KhqrFromLinkRequest}
  {response : KhqrFromLinkResponse}

/-- What a response reports is what its code was built from. -/
theorem khqrFromLink_eq_ok (hresponse : khqrFromLink settings outside body = .ok response) :
    ∃ slug url, normalizeLink body.link.toList = .ok (slug, url) ∧
      response.merchantBakongId = String.ofList (body.account slug) ∧
      response.merchantName = ((outside.merchantName url).filter (· ≠ "")).getD
        (String.ofList slug) ∧
      response.paywayClientId = body.paywayClientId.filter (· ≠ "") ∧
      body.cents = .ok response.amountCents ∧
      response.currency = pythonUpper body.chosenCurrency ∧
      response.billNumber = body.bill outside.token ∧
      response.externalRef = body.reference outside.token ∧
      fromLinkPayload body.bakongDirect response.merchantBakongId.toList
        response.merchantName.toList (response.paywayClientId.getD "").toList
        response.billNumber.toList response.externalRef.toList response.amountCents
        response.currency (epochSeconds outside.now) (body.ttl settings) =
          .ok response.qrString := by
  simp only [khqrFromLink, bind_eq_ok, pure_eq_ok, mapError_eq_ok] at hresponse
  obtain ⟨⟨slug, url⟩, hslug, cents, hcents, qr, hqr, tags, -, rfl⟩ := hresponse
  refine ⟨slug, url, hslug, rfl, rfl, rfl, hcents, rfl, rfl, rfl, ?_⟩
  rw [String.toList_ofList]
  exact hqr

/-- The elements of a payload can all be dumped. -/
theorem tagsDump_printedPayload {elements : List (String × List Char)}
    (helements : ∀ part ∈ elements, Printable part) :
    ∃ tags, tagsDump (printedPayload elements).toList = .ok tags := by
  have hnumbers : ∀ tag ∈ payloadTags, (tagNumber tag).isOk = true := by decide +kernel
  have hdump : ∀ parts : List (String × List Char), Tagged parts →
      ∃ dumped, parts.mapM dumpTag = .ok dumped := by
    intro parts htags
    induction parts with
    | nil => exact ⟨[], rfl⟩
    | cons part rest ih =>
        obtain ⟨dumped, hdumped⟩ := ih fun other hother => htags other
          (List.mem_cons_of_mem _ hother)
        have hnumber := hnumbers _ (htags part List.mem_cons_self)
        obtain ⟨number, hnumber⟩ : ∃ number, tagNumber part.1 = .ok number := by
          cases htag : tagNumber part.1 with
          | ok number => exact ⟨number, rfl⟩
          | error error =>
              rw [htag] at hnumber
              cases hnumber
        obtain ⟨first, hfirst⟩ : ∃ first, dumpTag part = .ok first := by
          unfold dumpTag
          rw [hnumber]
          by_cases hnested : (26 ≤ number ∧ number ≤ 51) ∨ number = 62 ∨ number = 64
          · exact ⟨_, bind_eq_ok.mpr ⟨number, rfl, by rw [if_pos hnested]; rfl⟩⟩
          · exact ⟨_, bind_eq_ok.mpr ⟨number, rfl, by rw [if_neg hnested]; rfl⟩⟩
        refine ⟨first :: dumped, ?_⟩
        rw [List.mapM_cons, hfirst, hdumped]
        rfl
  obtain ⟨dumped, hdumped⟩ := hdump (elements ++ [("63", payloadChecksum (encode elements))])
    (List.forall_mem_append.mpr ⟨fun part hpart => (helements part hpart).1,
      by simp [payloadTags]⟩)
  refine ⟨tagsByName dumped, ?_⟩
  rw [tagsDump, parseTlv_printedPayload helements, hdumped]
  rfl

/-- A response is returned when the slug is there, the cents can be computed and the encoder
returns. -/
theorem khqrFromLink_returns_iff {slug url : List Char}
    (hslug : normalizeLink body.link.toList = .ok (slug, url)) :
    (∃ response, khqrFromLink settings outside body = .ok response) ↔
      ∃ cents, body.cents = .ok cents ∧ ∃ payload, fromLinkPayload body.bakongDirect
        (body.account slug) (((outside.merchantName url).filter (· ≠ "")).getD
          (String.ofList slug)).toList (orElse body.paywayClientId "").toList
        (body.bill outside.token).toList (body.reference outside.token).toList cents
        (pythonUpper body.chosenCurrency) (epochSeconds outside.now) (body.ttl settings) =
          .ok payload := by
  constructor
  · rintro ⟨response, hresponse⟩
    obtain ⟨slug', url', hslug', haccount, hname, hclient, hcents, hcurrency, hbill, href, hqr⟩ :=
      khqrFromLink_eq_ok hresponse
    obtain ⟨rfl, rfl⟩ := Prod.mk.inj (Except.ok.inj (hslug.symm.trans hslug'))
    rw [haccount, hname, hclient, hcurrency, hbill, href, String.toList_ofList] at hqr
    exact ⟨_, hcents, _, hqr⟩
  · rintro ⟨cents, hcents, payload, hpayload⟩
    obtain ⟨-, -, -, -, helements, rfl⟩ := fromLinkPayload_eq_ok_iff.mp hpayload
    obtain ⟨tags, htags⟩ := tagsDump_printedPayload
      (printable_of_tagged tagged_fromLinkElements helements)
    simp only [khqrFromLink, hslug]
    exact ⟨_, bind_eq_ok.mpr ⟨_, rfl, bind_eq_ok.mpr ⟨_, mapError_eq_ok.mpr hcents,
      bind_eq_ok.mpr ⟨_, mapError_eq_ok.mpr hpayload,
        bind_eq_ok.mpr ⟨_, mapError_eq_ok.mpr htags, rfl⟩⟩⟩⟩⟩

/-- A bill number is never empty, and has at most 64 characters. -/
theorem length_bill (token : String) :
    1 ≤ (body.bill token).toList.length ∧ (body.bill token).toList.length ≤ 64 := by
  unfold KhqrFromLinkRequest.bill orElse
  cases hbill : body.billNumber.filter (· ≠ "") with
  | none =>
      have hprefix : "CHM".toList.length = 3 := by decide
      have htoken := List.length_take_le 20
        (token.toList.filter fun char => char != '-' && char != '_')
      rw [Option.getD_none, String.toList_append, List.length_append, hprefix, toList_pythonUpper,
        List.length_map, String.toList_ofList]
      omega
  | some text =>
      obtain ⟨hgiven, hnonempty⟩ := Option.filter_eq_some_iff.mp hbill
      have hlong := body.billLength text hgiven
      rw [Option.getD_some, String.length_toList]
      have hne : text ≠ "" := by simpa using hnonempty
      have hpos : text.length ≠ 0 := fun hzero => hne (String.length_eq_zero_iff.mp hzero)
      omega

end Response

/-- The copy returns a payload just when the amount can be divided and the fields of every
level are short enough. -/
theorem fromLinkPayload_returns_iff {bakongDirect : Bool} {bakongId name clientId bill
    reference : List Char} {amountCents : Int} {currency : String} {nowEpoch ttl : Int} :
    (∃ payload, fromLinkPayload bakongDirect bakongId name clientId bill reference amountCents
        currency nowEpoch ttl = .ok payload) ↔
      amountOverflows .doubles amountCents (printedCurrency currency) = false ∧
      FromLinkShort bakongDirect clientId bill reference nowEpoch ttl ∧ bill.length ≤ 99 ∧
      bakongId.length ≤ 63 ∧ (currencyIso currency).length ≤ 99 ∧
      (amountText .doubles amountCents (printedCurrency currency)).length ≤ 99 ∧
      (encode (fromLinkValidity bakongDirect nowEpoch)).length ≤ 99 := by
  simp only [fromLinkPayload_eq_ok_iff, exists_and_left, exists_eq, and_true, fromLinkElements,
    short_payloadElements_iff, ← account_short_iff]
  constructor
  · rintro ⟨hfinite, hshort, hbill, haccount, htemplate, hiso, hamount, -, hwindow⟩
    exact ⟨hfinite, hshort, hbill, ⟨haccount, htemplate⟩, hiso, hamount, hwindow⟩
  · rintro ⟨hfinite, hshort, hbill, ⟨haccount, htemplate⟩, hiso, hamount, hwindow⟩
    have hinner := length_encode_fromLinkTemplate hshort
    exact ⟨hfinite, hshort, hbill, haccount, htemplate, hiso, hamount,
      length_encode_pack 99 (tagged_fromLinkAdditional _ _ _)
        ((fromLinkAdditional_short_iff (by omega)).mpr hbill), hwindow⟩

end ChmabaPay
