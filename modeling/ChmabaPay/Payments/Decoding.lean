import ChmabaPay.Payments.Payloads

/-! # Decoding a payload

A wallet takes a payload apart again: the elements of the body, the templates among them
and the private template inside one of those. The checksum closes the text.
-/

namespace ChmabaPay

open Calendar

/-! ## Hex digits -/

def hexDigits : List Char := "0123456789ABCDEF".toList

/-- The number some hex digits say. -/
def hexReading (digits : List Char) : ℕ :=
  digits.foldl (fun number digit => 16 * number + hexDigits.idxOf digit) 0

theorem hexDigit : ∀ value < 16, (Nat.digitChar value).toUpper ∈ hexDigits ∧
    hexDigits.idxOf (Nat.digitChar value).toUpper = value := by
  decide

theorem hexReading_toDigits (number : ℕ) :
    hexReading ((Nat.toDigits 16 number).map Char.toUpper) = number ∧
      ∀ digit ∈ (Nat.toDigits 16 number).map Char.toUpper, digit ∈ hexDigits := by
  induction number using Nat.strong_induction_on with
  | _ number ih =>
      by_cases hsmall : number < 16
      · obtain ⟨hmem, hvalue⟩ := hexDigit number hsmall
        rw [Nat.toDigits_of_lt_base hsmall]
        exact ⟨by simpa [hexReading] using hvalue, by simpa using hmem⟩
      · obtain ⟨hmem, hvalue⟩ := hexDigit (number % 16) (by omega)
        obtain ⟨hreading, hdigits⟩ := ih (number / 16) (by omega)
        rw [Nat.toDigits_of_base_le (by omega) (by omega), List.map_append]
        constructor
        · rw [hexReading, List.foldl_append, ← hexReading, hreading]
          simp only [List.map_cons, List.map_nil, List.foldl_cons, List.foldl_nil, hvalue]
          omega
        · rw [List.forall_mem_append]
          exact ⟨hdigits, by simpa using hmem⟩

/-- Zeros in front do not change the number. -/
theorem hexReading_zeros (count : ℕ) (digits : List Char) :
    hexReading (List.replicate count '0' ++ digits) = hexReading digits := by
  have hzeros : hexReading (List.replicate count '0') = 0 := by
    induction count with
    | zero => rfl
    | succ count ih =>
        rw [List.replicate_succ', hexReading, List.foldl_append, ← hexReading, ih]
        decide
  rw [hexReading, List.foldl_append, ← hexReading, hzeros]
  rfl

theorem hexReading_checksumText (crc : ℕ) :
    hexReading (checksumText crc) = crc ∧ ∀ digit ∈ checksumText crc, digit ∈ hexDigits := by
  obtain ⟨hreading, hdigits⟩ := hexReading_toDigits crc
  rw [checksumText, List.leftpad]
  refine ⟨by rw [hexReading_zeros, hreading], List.forall_mem_append.mpr ⟨?_, hdigits⟩⟩
  intro digit hdigit
  rw [List.eq_of_mem_replicate hdigit]
  decide

/-! ## Every level -/

/-- A payload that a wallet reads as it was meant. -/
structure ReadsBack (accountId iso amount name : List Char)
    (inner t62 window : List (String × List Char)) (body checksum : List Char)
    (payload : String) : Prop where
  text : payload.toList = body ++ "6304".toList ++ checksum
  consumed : encode (parseTlv payload.toList) = payload.toList
  elements : parseTlv payload.toList =
    [("00", "01".toList), ("01", "12".toList), ("30", encode (accountParts accountId)),
      ("52", "8999".toList), ("53", iso), ("54", amount), ("58", "KH".toList),
      ("59", name.take 99), ("60", "N/A".toList)] ++
    (if encode t62 ≠ [] then [("62", encode t62)] else []) ++
    (if window = [] then [] else [("99", encode window)]) ++ [("63", checksum)]
  account : parseTlv (encode (accountParts accountId)) = accountParts accountId
  additional : parseTlv (encode t62) = t62
  template : ∀ value, ("50", value) ∈ t62 → parseTlv value = inner
  validity : parseTlv (encode window) = window
  digits : checksum.length = 4 ∧ ∀ digit ∈ checksum, digit ∈ hexDigits
  crc : hexReading checksum =
    crc16CcittFalse ((body ++ "6304".toList).flatMap String.utf8EncodeChar)

section ReadsBack

variable {accountId iso amount name : List Char} {inner t62 window : List (String × List Char)}

/-- A payload whose elements are short enough on every level reads back. -/
theorem printedPayload_reads_back (haccount : Short (accountParts accountId))
    (hadditional : ∀ part ∈ t62, Printable part) (hinner : ∀ part ∈ inner, Printable part)
    (htemplate : ∀ value, ("50", value) ∈ t62 → value = encode inner)
    (hwindow : ∀ part ∈ window, Printable part)
    (helements : Short (payloadElements accountId iso amount name t62 window)) :
    ReadsBack accountId iso amount name inner t62 window
      (encode (payloadElements accountId iso amount name t62 window))
      (payloadChecksum (encode (payloadElements accountId iso amount name t62 window)))
      (printedPayload (payloadElements accountId iso amount name t62 window)) := by
  have hprintable := printable_of_tagged (tagged_payloadElements _ _ _ _ _ _) helements
  have hread := parseTlv_printedPayload hprintable
  have hlength := length_payloadChecksum
    (encode (payloadElements accountId iso amount name t62 window))
  have hcrc := hexReading_checksumText (crc16CcittFalse
    ((encode (payloadElements accountId iso amount name t62 window) ++ "6304".toList).flatMap
      String.utf8EncodeChar))
  have hheader : zeroPadded 2 4 = "04".toList := by decide
  constructor
  case text =>
    rw [printedPayload, String.toList_ofList, element, hlength, hheader]
    simp
  case consumed =>
    rw [hread, encode_append, encode_singleton, printedPayload, String.toList_ofList]
  case elements =>
    rw [hread]
    rfl
  case account =>
    exact parseTlv_printed (printable_of_tagged (tagged_accountParts accountId) haccount)
  case additional => exact parseTlv_printed hadditional
  case template =>
    intro value hvalue
    rw [htemplate value hvalue, parseTlv_printed hinner]
  case validity => exact parseTlv_printed hwindow
  case digits => exact ⟨hlength, hcrc.2⟩
  case crc => exact hcrc.1

end ReadsBack

section Build

variable {arithmetic : Arithmetic} {nowDt nowTime expiresAt : Instant} {store : Store}
  {link : PaymentLink} {amountCents : Int} {billNumber payload : String}
  {currency : Option String}

theorem template_of_mem {bill : List Char} {nowEpoch expiry : Int} {value : List Char}
    (hmem : ("50", value) ∈ additionalData (encode (privateTemplate link bill nowEpoch expiry))
      bill (terminalId nowEpoch)) :
    value = encode (privateTemplate link bill nowEpoch expiry) :=
  (mem_additional_iff.mp hmem).1

/-- Whatever the builder returns is taken apart into what went into it. -/
theorem buildKhqrPayload_reads_back
    (hbuild : buildKhqrPayload arithmetic nowDt nowTime store link amountCents billNumber
      expiresAt currency = .ok payload) :
    ∃ amount body checksum, formatAmount arithmetic amountCents
        (printedCurrency (selectedCurrency currency link)) = .ok amount ∧
      ReadsBack link.merchantAccountId.toList (currencyIso (selectedCurrency currency link))
      amount (displayName store link).toList
      (privateTemplate link billNumber.toList (epochSeconds nowTime)
        (epochSeconds nowTime + ttlSeconds expiresAt nowDt))
      (additionalData (encode (privateTemplate link billNumber.toList (epochSeconds nowTime)
        (epochSeconds nowTime + ttlSeconds expiresAt nowDt))) billNumber.toList
        (terminalId (epochSeconds nowTime)))
      (validityParts (epochSeconds nowTime)) body checksum payload := by
  obtain ⟨hfinite, hprivate, haccount, hvalidity, helements, rfl⟩ :=
    buildKhqrPayload_eq_ok_iff.mp hbuild
  have hinner := length_encode_pack 99 (tagged_privateParts _ _ _ _) hprivate
  exact ⟨_, _, _, formatAmount_eq_ok_iff.mpr ⟨hfinite, rfl⟩, printedPayload_reads_back haccount
    (printable_pack (tagged_additionalParts _ _ _) (additionalParts_short hinner hprivate))
    (printable_pack (tagged_privateParts _ _ _ _) hprivate) (fun _ => template_of_mem)
    (printable_of_tagged (tagged_validityParts _) hvalidity) helements⟩

/-- The shop's code, a name in Khmer on it. -/
theorem buildKhqrPayload_reads_back_khmer :
    ∃ payload, buildKhqrPayload .doubles (seconds 1790000000) (seconds 1790000000)
        { Specimen.shopStore with name := "ហាងកាហ្វេ 0199" } (Specimen.link 1) 500
        "CHMABA0000000001" (seconds 1790000300) none = .ok payload ∧
      encode (parseTlv payload.toList) = payload.toList := by
  obtain ⟨payload, hbuild⟩ : ∃ payload, buildKhqrPayload .doubles (seconds 1790000000)
      (seconds 1790000000) { Specimen.shopStore with name := "ហាងកាហ្វេ 0199" }
      (Specimen.link 1) 500 "CHMABA0000000001" (seconds 1790000300) none = .ok payload :=
    buildKhqrPayload_returns_iff.mpr (by decide +kernel)
  obtain ⟨amount, body, checksum, -, hread⟩ := buildKhqrPayload_reads_back hbuild
  exact ⟨payload, hbuild, hread.consumed⟩

end Build

end ChmabaPay
