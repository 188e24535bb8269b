import ChmabaPay.Foundation.Doubles
import ChmabaPay.Foundation.Framing
import ChmabaPay.Routers.Billing

/-! # The offline payload builder

`khqr.py` prints a payment as EMVCo elements: a tag of two digits, a length of two digits
and the value. The fields ABA searches by sit three levels deep, in subtag 50 of tag 62.
-/

namespace ChmabaPay

open Calendar

/-- What the builders raise: a `ValueError`, or an `OverflowError`. -/
inductive KhqrError where
  | value (message : String)
  | overflow (message : String)
deriving DecidableEq

/-- A natural number in a fixed width. -/
def zeroPadded (width number : ℕ) : List Char :=
  List.leftpad width '0' (Nat.toDigits 10 number)

/-- `str` of an integer. -/
def integerText (number : Int) : List Char :=
  if number < 0 then '-' :: Nat.toDigits 10 number.natAbs
  else Nat.toDigits 10 number.natAbs

/-! ## Elements -/

def crcBit (crc : ℕ) : ℕ :=
  if crc &&& 0x8000 ≠ 0 then ((crc <<< 1) ^^^ 0x1021) &&& 0xFFFF else (crc <<< 1) &&& 0xFFFF

def crc16CcittFalseFrom (data : List UInt8) (init : ℕ) : ℕ :=
  data.foldl (fun crc byte => crcBit^[8] (crc ^^^ (byte.toNat <<< 8))) init

/-- The checksum from the register the second argument of the function defaults to. -/
def crc16CcittFalse (data : List UInt8) : ℕ := crc16CcittFalseFrom data 0xFFFF

def tlv (tag : String) (value : List Char) : Except KhqrError (List Char) :=
  if 99 < value.length then
    .error (.value ("Tag " ++ tag ++ " value len=" ++ toString value.length ++
      " > 99 (EMVCo 2-digit decimal max)"))
  else .ok (tag.toList ++ zeroPadded 2 value.length ++ value)

/-- Elements printed one behind the other. -/
def tlvs (parts : List (String × List Char)) : Except KhqrError (List Char) :=
  parts.foldlM (fun text part => do return text ++ (← tlv part.1 part.2)) []

/-- One turn of the loop of `parse_tlv`: two digits, a length `int` can read, and that many
characters. -/
def readElement : List Char → Option ((String × List Char) × List Char)
  | first :: second :: tens :: units :: rest =>
      if Digits.isDigit first && Digits.isDigit second then
        match pythonInt [tens, units] with
        | none => none
        | some length =>
            if length < 0 then none
            else if rest.length < length.toNat then none
            else some ((String.ofList [first, second], rest.take length.toNat),
              rest.drop length.toNat)
      else none
  | _ => none

def elementReader : Framing.Reader Char (String × List Char) where
  read := readElement
  shrinks := by
    intro text element rest hread
    unfold readElement at hread
    split at hread
    · repeat' split at hread
      all_goals cases hread
      simp only [List.length_drop, List.length_cons]
      omega
    · cases hread

/-- The elements of a text, up to the first that is not one. -/
def parseTlv (text : List Char) : List (String × List Char) := elementReader.elements text

/-! ## Fields -/

/-- `_CURRENCY_ISO_NUMERIC`. -/
def currencyIsoNumeric : List (String × String) := [("USD", "840"), ("KHR", "116")]

/-- Tag 53: the number of a currency the table has, or its text when it is a number. -/
def currencyIso (currency : String) : List Char :=
  let iso := ((currencyIsoNumeric.lookup currency).getD currency).toList
  if (pythonInt iso).isSome then iso else "840".toList

/-- What `_format_amount` and `money_to_str` take a currency for: riel or dollars. -/
def printedCurrency (currency : String) : Currency :=
  if pythonUpper (String.ofList (pythonStrip currency.toList)) = "KHR" then .khr else .usd

/-- How amounts are divided: as rational numbers, or as doubles are. -/
inductive Arithmetic where
  | exact
  | doubles

def Arithmetic.nearest : Arithmetic → ℚ → ℚ
  | .exact, number => number
  | .doubles, number => Doubles.nearest number

def Arithmetic.overflows : Arithmetic → ℚ → Bool
  | .exact, _ => false
  | .doubles, number => Doubles.overflows number

/-- Hundredths as units, without a zero decimal. -/
def hundredthsText (hundredths : Int) : List Char :=
  let whole := (if hundredths < 0 then ['-'] else []) ++
    Nat.toDigits 10 (hundredths.natAbs / 100)
  if hundredths.natAbs % 100 = 0 then whole
  else whole ++ '.' :: zeroPadded 2 (hundredths.natAbs % 100)

/-- The division itself is too large: that of two integers in riel, and in dollars that of
the cents as a float. -/
def amountOverflows (arithmetic : Arithmetic) (amountCents : Int) : Currency → Bool
  | .khr => arithmetic.overflows ((amountCents : ℚ) / 100)
  | .usd => arithmetic.overflows amountCents

/-- Whole riel, and dollars with two decimals, each rounded half to even. -/
def amountText (arithmetic : Arithmetic) (amountCents : Int) : Currency → List Char
  | .khr => integerText (Doubles.halfEven (arithmetic.nearest ((amountCents : ℚ) / 100)))
  | .usd => hundredthsText
      (Doubles.halfEven (100 * arithmetic.nearest (arithmetic.nearest amountCents / 100)))

/-- `_format_amount`, tag 54. -/
def formatAmount (arithmetic : Arithmetic) (amountCents : Int) (currency : Currency) :
    Except KhqrError (List Char) :=
  if amountOverflows arithmetic amountCents currency then
    match currency with
    | .khr => .error (.overflow "integer division result too large for a float")
    | .usd => .error (.overflow "int too large to convert to float")
  else .ok (amountText arithmetic amountCents currency)

theorem formatAmount_eq_ok_iff {arithmetic : Arithmetic} {amountCents : Int}
    {currency : Currency} {text : List Char} :
    formatAmount arithmetic amountCents currency = .ok text ↔
      amountOverflows arithmetic amountCents currency = false ∧
        amountText arithmetic amountCents currency = text := by
  unfold formatAmount
  cases amountOverflows arithmetic amountCents currency with
  | false => simp
  | true => cases currency <;> simp

/-- `KHQR_VALIDITY_WINDOW_MS`. -/
def khqrValidityWindowMs : Int := 30 * 24 * 60 * 60 * 1000

/-- The whole seconds of a moment. -/
def epochSeconds (moment : Instant) : Int := Int.tdiv moment (seconds 1)

/-- Seconds until a code expires, one at least. -/
def ttlSeconds (expiresAt nowDt : Instant) : Int := max 1 (epochSeconds (expiresAt - nowDt))

def terminalId (nowEpoch : Int) : List Char := zeroPadded 9 (nowEpoch % 1000000000).toNat

/-- The fields of the private template, in the order of their priority. -/
def privateFields (clientId billNumber referenceId : List Char) (nowEpoch expiry : Int) :
    List (String × List Char) :=
  (if clientId ≠ [] then [("00", "PAYWAY@ABA".toList)] else []) ++
    (if billNumber ≠ [] then [("02", billNumber), ("06", referenceId)] else []) ++
    [("05", integerText expiry)] ++
    (if clientId ≠ [] then [("01", clientId)] else []) ++
    [("03", terminalId nowEpoch), ("04", integerText nowEpoch)]

/-- The fields of a payment, which is searched for by its bill number. -/
def privateParts (clientId billNumber : List Char) (nowEpoch expiry : Int) :
    List (String × List Char) :=
  privateFields clientId billNumber billNumber nowEpoch expiry

/-- One more element, where the text with it still fits. -/
def packFitting (fits : List Char → Bool) (text : List Char) (part : String × List Char) :
    Except KhqrError (List Char) := do
  let element ← tlv part.1 part.2
  return if fits (text ++ element) then text ++ element else text

/-- One more element, where the text still has at most 99 characters with it. -/
def packElement : List Char → String × List Char → Except KhqrError (List Char) :=
  packFitting fun text => decide (text.length ≤ 99)

/-- The elements of tag 62: the private template and the copies of bill and terminal. -/
def additionalParts (inner billNumber termId : List Char) : List (String × List Char) :=
  (if inner ≠ [] then [("50", inner)] else []) ++
    (if billNumber ≠ [] then [("01", billNumber)] else []) ++ [("03", termId)]

/-- Tag 30: the account of a merchant at the switch. -/
def accountParts (accountId : List Char) : List (String × List Char) :=
  [("00", "abaakhppxxx@abaa".toList), ("01", accountId), ("02", "ABA Bank".toList)]

/-- The elements in front of the validity window. -/
def emvcoElements (t30 iso amount name t62 : List Char) : List (String × List Char) :=
  [("00", "01".toList), ("01", "12".toList), ("30", t30), ("52", "8999".toList), ("53", iso),
    ("54", amount), ("58", "KH".toList), ("59", name.take 99), ("60", "N/A".toList)] ++
    if t62 ≠ [] then [("62", t62)] else []

/-- Tag 99: issue and expiry in milliseconds. -/
def validityParts (nowEpoch : Int) : List (String × List Char) :=
  [("00", integerText (nowEpoch * 1000)),
    ("01", integerText (nowEpoch * 1000 + khqrValidityWindowMs))]

/-- `f"{crc:04X}"`. -/
def checksumText (crc : ℕ) : List Char :=
  List.leftpad 4 '0' ((Nat.toDigits 16 crc).map Char.toUpper)

/-- The checksum of a body, taken over the header of its own element as well. -/
def payloadChecksum (body : List Char) : List Char :=
  checksumText (crc16CcittFalse ((body ++ "6304".toList).flatMap String.utf8EncodeChar))

def withChecksum (body : List Char) : Except KhqrError String := do
  return String.ofList (body ++ (← tlv "63" (payloadChecksum body)))

/-- The currency of a payment: the one asked for, or that of the link. -/
def selectedCurrency (currency : Option String) (link : PaymentLink) : String :=
  pythonUpper (String.ofList (pythonStrip
    ((currency.filter (· ≠ "")).getD link.currency.name).toList))

/-- The name of a currency selects it. -/
theorem selectedCurrency_name (currency : Currency) (link : PaymentLink) :
    selectedCurrency (some currency.name) link = currency.name := by
  have hkept : (some currency.name).filter (· ≠ "") = some currency.name := by
    cases currency <;> rfl
  have hupper : pythonUpper (String.ofList (pythonStrip currency.name.toList)) = currency.name := by
    cases currency <;> decide
  rw [selectedCurrency, hkept, Option.getD_some, hupper]

/-- The name a code shows: that of the link, or that of the store. -/
def displayName (store : Store) (link : PaymentLink) : String :=
  if link.merchantName.getD "" = "" then store.name else link.merchantName.getD ""

/-- `build_khqr_payload`, with the two readings of the clock it takes. The source divides as
`doubles` do. -/
def buildKhqrPayload (arithmetic : Arithmetic) (nowDt nowTime : Instant) (store : Store)
    (link : PaymentLink) (amountCents : Int) (billNumber : String) (expiresAt : Instant)
    (currency : Option String) : Except KhqrError String := do
  let selected := selectedCurrency currency link
  let nowEpoch := epochSeconds nowTime
  let amount ← formatAmount arithmetic amountCents (printedCurrency selected)
  let t30 ← tlvs (accountParts link.merchantAccountId.toList)
  let clientId := (link.paywayClientId.getD "").toList
  let inner ← (privateParts clientId billNumber.toList nowEpoch
    (nowEpoch + ttlSeconds expiresAt nowDt)).foldlM packElement []
  let t62 ← (additionalParts inner billNumber.toList (terminalId nowEpoch)).foldlM packElement []
  let named ← tlvs (emvcoElements t30 (currencyIso selected) amount
    (displayName store link).toList t62)
  let window ← tlvs (validityParts nowEpoch)
  withChecksum (named ++ (← tlv "99" window))

end ChmabaPay
