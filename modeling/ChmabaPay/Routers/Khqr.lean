import ChmabaPay.Khqr
import ChmabaPay.Routers.Payments
import ChmabaPay.Services.Links

/-! # A code for a bare link

`POST /khqr/from-link` builds a payload for any PayWay link, without a store and without a
payment. Its encoder is a copy of the one in `khqr.py`, with the arguments of the body.
-/

namespace ChmabaPay

open Calendar

/-! ## The body -/

/-- A body that was read: its amount was accepted, and its texts are of the lengths the
schema admits. -/
structure KhqrFromLinkRequest where
  link : String
  amount : FloatText
  billNumber : Option String := none
  referenceId : Option String := none
  currency : Option String := none
  ttlSeconds : Option Int := none
  bakongId : Option String := none
  paywayClientId : Option String := none
  bakongDirect : Bool := false
  linkLength : 6 ≤ link.length ∧ link.length ≤ 512
  accepted : validateAmount amount = .ok amount
  billLength : ∀ text ∈ billNumber, text.length ≤ 64
  referenceLength : ∀ text ∈ referenceId, text.length ≤ 255
  ttlRange : ∀ ttl ∈ ttlSeconds, 30 ≤ ttl ∧ ttl ≤ 86400 * 30
  bakongLength : ∀ text ∈ bakongId, text.length ≤ 120
  clientLength : ∀ text ∈ paywayClientId, text.length ≤ 64

/-- What the request gets from outside: the merchant's name on the page of a link, where the
page can be read, the random part of a bill number, the digest, and its readings of the
clock. -/
structure KhqrOutside where
  merchantName : List Char → Option String
  token : String
  md5 : String → String
  now : Instant
  createdAt : Instant

/-- Why no code is returned. -/
inductive KhqrFailure where
  | http (status : ℕ) (detail : String)
  | builder (error : KhqrError)
  | raised (error : Decimal.Error)
deriving DecidableEq

/-- `text or default`. -/
def orElse (text : Option String) (default : String) : String :=
  (text.filter (· ≠ "")).getD default

/-! ## The link -/

/-- What stands behind the first place where a text reads so. -/
def afterFirst (part : List Char) : List Char → Option (List Char)
  | [] => none
  | char :: rest =>
      if part <+: char :: rest then some ((char :: rest).drop part.length)
      else afterFirst part rest

/-- The slug of a link and its address. -/
def normalizeLink (link : List Char) : Except KhqrFailure (List Char × List Char) :=
  let stripped := pythonStrip link
  let slug :=
    if "http://".toList <+: stripped ∨ "https://".toList <+: stripped then
      match afterFirst "link.payway.com.kh/".toList stripped with
      | some tail => stripSlashes (before '#' (before '?' tail))
      | none => before '?' (before '/' stripped.reverse).reverse
    else stripped
  let slug := pythonStrip slug
  if slug = [] then .error (.http 400 "invalid_link: empty slug")
  else .ok (slug, paywayBase.toList ++ '/' :: slug)

/-! ## The encoder -/

/-- `"50" + f"{len(candidate):02d}" + candidate` has at most 99 characters. -/
def fitsTag62 (candidate : List Char) : Bool :=
  decide (("50".toList ++ zeroPadded 2 candidate.length ++ candidate).length ≤ 99)

/-- The elements of tag 62, the bill number unconditionally among them. -/
def fromLinkAdditional (inner billNumber termId : List Char) : List (String × List Char) :=
  (if inner ≠ [] then [("50", inner)] else []) ++ [("01", billNumber), ("03", termId)]

/-- The encoder of `khqr_from_link`. -/
def fromLinkPayload (bakongDirect : Bool) (bakongId name clientId billNumber referenceId :
    List Char) (amountCents : Int) (currency : String) (nowEpoch ttl : Int) :
    Except KhqrError String := do
  let amount ← formatAmount .doubles amountCents (printedCurrency currency)
  let t30 ← tlvs (accountParts bakongId)
  let inner ← if bakongDirect then pure [] else
    (privateFields clientId billNumber referenceId nowEpoch (nowEpoch + ttl)).foldlM
      (packFitting fitsTag62) []
  let t62 ← (fromLinkAdditional inner billNumber (terminalId nowEpoch)).foldlM packElement []
  let named ← tlvs (emvcoElements t30 (currencyIso currency) amount name t62)
  let window ← if bakongDirect then pure [] else do tlv "99" (← tlvs (validityParts nowEpoch))
  withChecksum (named ++ window)

/-! ## The dump of the elements -/

inductive TagValue where
  | text (value : List Char)
  | nested (length : ℕ) (fields : List (String × List Char))
      (template : Option (List (String × List Char)))

/-- Elements as a dictionary keeps them: the last value of a tag, at its first place. -/
def tagsByName {α : Type} (elements : List (String × α)) : List (String × α) :=
  elements.foldl (fun named element =>
    if named.any fun other => other.1 == element.1 then
      named.map fun other => if other.1 == element.1 then element else other
    else named ++ [element]) []

/-- `int` of a tag of digits. -/
def tagNumber (tag : String) : Except KhqrError Int :=
  if tag.toList.isEmpty || !tag.toList.all Digits.isDigit then .ok (-1)
  else match pythonInt tag.toList with
    | some number => .ok number
    | none => .error (.value ("invalid literal for int() with base 10: '" ++ tag ++ "'"))

def dumpTag (element : String × List Char) : Except KhqrError (String × TagValue) := do
  let number ← tagNumber element.1
  if (26 ≤ number ∧ number ≤ 51) ∨ number = 62 ∨ number = 64 then
    let fields := tagsByName (parseTlv element.2)
    return (element.1, .nested element.2.length fields
      ((fields.lookup "50").map fun value => tagsByName (parseTlv value)))
  return (element.1, .text element.2)

def tagsDump (qr : List Char) : Except KhqrError (List (String × TagValue)) := do
  return tagsByName (← (parseTlv qr).mapM dumpTag)

/-! ## The request -/

structure KhqrFromLinkResponse where
  qrString : String
  qrMd5 : String
  shortHash : String
  instructionRef : String
  externalRef : String
  billNumber : String
  referenceId : Option String
  amount : String
  amountCents : Int
  currency : String
  merchantName : String
  merchantBakongId : String
  paywayClientId : Option String
  expiresAt : Instant
  createdAt : Instant
  linkSlug : String
  linkUrl : String
  merchantSource : String
  tags : List (String × TagValue)

/-- The float that reads as the text; rounding raises for one that is not finite. -/
def FloatText.double (amount : FloatText) : Except Decimal.Error ℚ :=
  match amount.value with
  | .finite coefficient exponent =>
      let number := (coefficient : ℚ) * 10 ^ exponent
      if Doubles.overflows number then .error .overflow else .ok (Doubles.nearest number)
  | .infinity _ => .error .overflow
  | .nan => .error .value

namespace KhqrFromLinkRequest

variable (body : KhqrFromLinkRequest)

/-- `int(round(float(body.amount) * 100))`. An infinite product has no integer. -/
def cents : Except Decimal.Error ℤ :=
  match body.amount.double with
  | .error error => .error error
  | .ok double =>
      if Doubles.overflows (double * 100) then .error .overflow
      else .ok (Doubles.halfEven (Doubles.nearest (double * 100)))

/-- How long the code is meant to last. -/
def ttl (settings : Settings) : Int :=
  max 30 (min (body.ttlSeconds.getD settings.checkoutTtlSeconds) (86400 * 30))

def chosenCurrency : String := orElse body.currency "USD"

/-- The bill number of the body, or a random one. -/
def bill (token : String) : String :=
  orElse body.billNumber ("CHM" ++ pythonUpper (String.ofList
    ((token.toList.filter fun char => char != '-' && char != '_').take 20)))

def reference (token : String) : String := orElse body.referenceId (body.bill token)

def account (slug : List Char) : List Char :=
  pythonStrip (orElse body.bakongId (String.ofList slug)).toList

end KhqrFromLinkRequest

/-- `khqr_from_link`. -/
def khqrFromLink (settings : Settings) (outside : KhqrOutside) (body : KhqrFromLinkRequest) :
    Except KhqrFailure KhqrFromLinkResponse := do
  let (slug, url) ← normalizeLink body.link.toList
  let amountCents ← body.cents.mapError .raised
  let currency := pythonUpper body.chosenCurrency
  let found := (outside.merchantName url).filter (· ≠ "")
  let name := found.getD (String.ofList slug)
  let bill := body.bill outside.token
  let reference := body.reference outside.token
  let clientId := orElse body.paywayClientId ""
  let nowEpoch := epochSeconds outside.now
  let qr ← (fromLinkPayload body.bakongDirect (body.account slug) name.toList clientId.toList
    bill.toList reference.toList amountCents currency nowEpoch
      (body.ttl settings)).mapError .builder
  let tags ← (tagsDump qr.toList).mapError .builder
  return {
    qrString := qr
    qrMd5 := outside.md5 qr
    shortHash := String.ofList ((outside.md5 qr).toList.take 16)
    instructionRef := bill
    externalRef := reference
    billNumber := bill
    referenceId := body.referenceId
    amount := moneyToStr amountCents (printedCurrency currency) false
    amountCents := amountCents
    currency := currency
    merchantName := name
    merchantBakongId := String.ofList (body.account slug)
    paywayClientId := body.paywayClientId.filter (· ≠ "")
    expiresAt := seconds (nowEpoch + body.ttl settings)
    createdAt := outside.createdAt
    linkSlug := String.ofList slug
    linkUrl := String.ofList url
    merchantSource := if found.isSome then "ssr_fetch" else "supplied"
    tags := tags }

end ChmabaPay
