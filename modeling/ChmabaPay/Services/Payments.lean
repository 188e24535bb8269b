import ChmabaPay.Services.Billing
import ChmabaPay.Services.Webhooks

/-! # Payment operations

Creating a payment, replacing a dead code, and the status transitions of
`services/payments.py`. Functions work on the session's tables at one clock
reading and stand for everything up to the caller's commit.
-/

namespace ChmabaPay

open Calendar Relational

/-! ## Synthetic probes -/

/-- The characters `str.strip` removes. -/
def isPythonSpace (char : Char) : Bool :=
  let code := char.toNat
  (9 ≤ code && code ≤ 13) || (28 ≤ code && code ≤ 32) || code = 0x85 || code = 0xa0 ||
    code = 0x1680 || (0x2000 ≤ code && code ≤ 0x200a) || code = 0x2028 || code = 0x2029 ||
    code = 0x202f || code = 0x205f || code = 0x3000

def pythonStrip (text : List Char) : List Char :=
  ((text.dropWhile isPythonSpace).reverse.dropWhile isPythonSpace).reverse

/-- `str.lower` on the characters whose lower case contains an ASCII letter:
the ASCII capitals, the Kelvin sign and the dotted capital I. Every other
character is kept, its lower case holding no ASCII letter either. -/
def pythonLower (text : List Char) : List Char :=
  text.flatMap fun char =>
    if char = '\u212a' then ['k']
    else if char = '\u0130' then ['i', '\u0307']
    else [char.toLower]

/-- `str.upper` on the characters whose upper case is an ASCII letter. -/
def pythonUpper (text : String) : String :=
  String.ofList <| text.toList.map fun char =>
    if char = '\u0131' then 'I' else if char = '\u017f' then 'S' else char.toUpper

def syntheticReferencePrefix : String := "health-smoke:"

/-- Whether a payment is an operational probe rather than a sale. -/
def isSynthetic (referenceId : Option String) (metadata : Option JsonObject) : Bool :=
  (referenceId.any fun reference =>
    syntheticReferencePrefix.toList.isPrefixOf (pythonLower (pythonStrip reference.toList))) ||
  (metadata.any fun entries => entries.lookup "synthetic" = some (.bool true))

def refuseSyntheticOnMerchantStore (store : Store) (referenceId : Option String)
    (metadata : Option JsonObject) : Except Failure Unit :=
  if store.isInternal then .ok ()
  else if isSynthetic referenceId metadata then
    .error (.http 400 "synthetic_payment_requires_internal_store")
  else .ok ()

/-! ## Minting a code -/

/-- The answer of ABA's hosted checkout. -/
structure HostedCheckout where
  qrString : String
  qrMd5 : Option String
  expiresInSeconds : Option Int
  clientId : String
  token : String
  requestTime : String
  tranId : String

/-- What a request gets from outside while it mints a code: the hosted checkout
of the rail, the offline encoder of `khqr.py` and the digest of its payload. -/
structure Rail where
  createHostedCheckout : String → String → Except String HostedCheckout
  buildKhqrPayload : Store → PaymentLink → Int → String → Instant → Currency →
    Except Failure String
  md5 : String → String

/-- A payable code. -/
structure Minted where
  qrString : String
  qrMd5 : Option String
  expiresAt : Instant
  hostedSession : Option HostedSession

def isPaywayLink (link : PaymentLink) : Bool :=
  link.isAbaPayway && decide ("link.payway.com.kh".toList <:+: link.rawLink.toList)

def mintQr (settings : Settings) (rail : Rail) (store : Store) (link : PaymentLink)
    (amountCents : Int) (publicId : String) (now : Instant) (currency : Currency)
    (hostedQr : Option Bool) : Except Failure Minted :=
  if hostedQr.getD (isPaywayLink link) then
    if !isPaywayLink link then .error (.http 400 "not_a_payway_link")
    else if currency ≠ link.currency then
      .error (.http 400 "currency_not_supported_by_hosted_checkout")
    else match rail.createHostedCheckout link.rawLink
        (moneyToStr amountCents currency false) with
      | .error reason => .error (.http 502 ("payway_hosted_error: " ++ reason))
      | .ok checkout =>
          let lifetime := match checkout.expiresInSeconds with
            | some count => if count = 0 then settings.checkoutTtlSeconds else count
            | none => settings.checkoutTtlSeconds
          .ok {
            qrString := checkout.qrString
            qrMd5 := checkout.qrMd5
            expiresAt := now + seconds lifetime
            hostedSession := some {
              clientId := checkout.clientId
              token := checkout.token
              requestTime := checkout.requestTime
              tranId := checkout.tranId
              expiresInSeconds := checkout.expiresInSeconds
              qrString := checkout.qrString } }
  else
    let expiresAt := now + seconds settings.checkoutTtlSeconds
    match rail.buildKhqrPayload store link amountCents publicId expiresAt currency with
    | .error failure => .error failure
    | .ok payload =>
        .ok {
          qrString := payload
          qrMd5 := some (rail.md5 payload)
          expiresAt := expiresAt
          hostedSession := none }

/-- The gateway column of a freshly minted payment. -/
def Minted.gatewayStatusRaw (minted : Minted) : Option GatewayStatus :=
  minted.hostedSession.map fun hosted => { paywayHosted := some hosted, entries := [] }

def refuseUnusableStore (store : Store) : Except Failure Unit :=
  if store.status = .disabled then .error (.http 400 "store_disabled")
  else if store.billingSuspendedAt.isSome then .error (.http 400 "store_billing_suspended")
  else .ok ()

/-- The spelling of a currency in error texts. -/
def Currency.name : Currency → String
  | .usd => "USD"
  | .khr => "KHR"

/-- The store's active link for a currency, or its primary one. -/
def loadActiveLink (tables : Tables) (storeId : ℕ) (currency : Option Currency) :
    Except Failure (ℕ × PaymentLink) :=
  let links := tables.links.select fun _ link =>
    decide (link.storeId = storeId) && link.isActive
  match currency with
  | some wanted =>
      match links.find? fun row => decide (row.2.currency = wanted) with
      | some link => .ok link
      | none => .error (.http 400 ("currency_not_configured: this store has no " ++
          wanted.name ++ " payment link. Add one, or omit `currency` to use the store's " ++
          "default."))
  | none =>
      match links with
      | [] => .error (.http 400 "payment_link_disabled")
      | first :: _ =>
          .ok ((links.find? fun row => decide (row.2.currency = .usd)).getD first)

/-- What a caller asks of `create_payment`. -/
structure PaymentRequest where
  amountCents : Int
  referenceId : Option String
  metadata : Option JsonObject
  idempotencyKey : Option String
  currency : Option Currency := none
  hostedQr : Option Bool := none

/-- The payment a store already has under an idempotency key. -/
def findByIdempotencyKey (tables : Tables) (storeId : ℕ) (key : String) :
    Option (ℕ × Payment) :=
  tables.payments.find? fun _ payment =>
    decide (payment.storeId = storeId) && decide (payment.idempotencyKey = some key)

/-- The limits an amount has to meet before a code is minted for it. -/
def refuseAmount (link : PaymentLink) (amountCents : Int) : Except Failure Unit :=
  if amountCents < 1 then .error (.http 400 "amount_too_low")
  else if link.minAmountCents ≠ 0 ∧ amountCents < link.minAmountCents then
    .error (.http 400 "amount_too_low")
  else if link.maxAmountCents.any fun limit => decide (limit ≠ 0 ∧ limit < amountCents) then
    .error (.http 400 "amount_too_high")
  else .ok ()

/-- The row `create_payment` inserts for a minted code. -/
def requestedPayment (now : Instant) (storeId linkId : ℕ) (link : PaymentLink)
    (request : PaymentRequest) (minted : Minted) (publicId : String) : Payment where
  publicId := publicId
  storeId := storeId
  paymentLinkId := linkId
  amountCents := request.amountCents
  currency := link.currency
  referenceId := request.referenceId
  metadata := request.metadata
  idempotencyKey := request.idempotencyKey
  status := .pending
  qrString := minted.qrString
  qrMd5 := minted.qrMd5
  billNumber := publicId
  expiresAt := minted.expiresAt
  gatewayStatusRaw := minted.gatewayStatusRaw
  createdAt := now

/-- Create a payment, or replay the one under the same idempotency key. -/
def createPayment (settings : Settings) (rail : Rail) (now : Instant) (tables : Tables)
    (storeId : ℕ) (store : Store) (request : PaymentRequest) (publicId : String) :
    Except Failure (ℕ × Tables) := do
  refuseUnusableStore store
  refuseSyntheticOnMerchantStore store request.referenceId request.metadata
  let (linkId, link) ← loadActiveLink tables storeId request.currency
  if link.currency = .khr ∧ request.amountCents % 100 ≠ 0 then
    throw (.http 400 "khr_amount_must_be_whole")
  match (request.idempotencyKey.filter (· ≠ "")).bind
      (findByIdempotencyKey tables storeId) with
  | some (existing, _) => return (existing, tables)
  | none =>
      refuseAmount link request.amountCents
      let minted ← mintQr settings rail store link request.amountCents publicId now
        link.currency request.hostedQr
      return (tables.payments.next,
        { tables with
          payments := tables.payments.insert
            (requestedPayment now storeId linkId link request minted publicId) })

/-- The newest replacement of a payment that is still offered. -/
def liveSuccessor (tables : Tables) (parentId : ℕ) : Option (ℕ × Payment) :=
  (tables.payments.select fun _ payment =>
    decide (payment.reissuedFromId = some parentId) && payment.status.isOpen).getLast?

/-- The row a re-issue inserts: the same sale under a new code. -/
def successorPayment (now : Instant) (parentId : ℕ) (parent : Payment) (minted : Minted)
    (publicId : String) : Payment where
  publicId := publicId
  storeId := parent.storeId
  paymentLinkId := parent.paymentLinkId
  amountCents := parent.amountCents
  currency := parent.currency
  referenceId := parent.referenceId
  metadata := parent.metadata
  idempotencyKey := none
  status := .pending
  qrString := minted.qrString
  qrMd5 := minted.qrMd5
  billNumber := publicId
  expiresAt := minted.expiresAt
  gatewayStatusRaw := minted.gatewayStatusRaw
  reissuedFromId := some parentId
  createdAt := now

/-- A re-issue records its successor in the parent's history. -/
def Payment.recordReissue (publicId : String) (now : Instant) (parent : Payment) : Payment :=
  { parent with
    attemptHistory := some (parent.attemptHistory.getD [] ++ [.reissued publicId now]) }

def mintSuccessor (now : Instant) (tables : Tables) (parentId : ℕ) (parent : Payment)
    (minted : Minted) (publicId : String) : ℕ × Tables :=
  let recorded := tables.payments.update parentId (Payment.recordReissue publicId now)
  (tables.payments.next,
    { tables with
      payments := recorded.insert (successorPayment now parentId parent minted publicId) })

/-- Mint a fresh code for a dead payment by creating a successor row. A live
successor is returned instead of minting a second one. -/
def reissuePayment (settings : Settings) (rail : Rail) (now : Instant) (tables : Tables)
    (parentId : ℕ) (parent : Payment) (publicId : String) : Except Failure (ℕ × Tables) := do
  if parent.status = .paid then throw (.http 409 "payment_already_paid")
  if parent.status = .reversed then throw (.http 409 "payment_reversed")
  if parent.status ≠ .expired ∧ parent.status ≠ .failed then
    throw (.http 409 "payment_not_expired")
  match (liveSuccessor tables parentId).filter fun live => decide (now < live.2.expiresAt) with
  | some (live, _) => return (live, tables)
  | none =>
      match tables.stores.get? parent.storeId with
      | none => throw (.http 400 "store_disabled")
      | some store =>
          refuseUnusableStore store
          refuseSyntheticOnMerchantStore store parent.referenceId parent.metadata
          match tables.links.get? parent.paymentLinkId with
          | none => throw (.http 400 "payment_link_missing")
          | some link =>
              let wasHosted := (parent.gatewayStatusRaw.bind (·.paywayHosted)).isSome
              let minted ← mintQr settings rail store link parent.amountCents publicId now
                parent.currency (some wasHosted)
              return mintSuccessor now tables parentId parent minted publicId

/-! ## Status transitions -/

/-- `UPDATE … WHERE status = pending`, then the event when a row changed. -/
def markScanned (now : Instant) (tables : Tables) (paymentId : ℕ) : Except Failure Tables :=
  match tables.payments.get? paymentId with
  | none => .ok tables
  | some payment =>
      if payment.status ≠ .pending then .ok tables
      else
        let scanned := { payment with status := .scanned, scannedAt := some now }
        match tables.stores.get? payment.storeId with
        | none => .error .missingRow
        | some store =>
            .ok (enqueueEvent now
              { tables with payments := tables.payments.update paymentId fun _ => scanned }
              paymentId scanned store .scanned)

/-- The ledger row of one movement. A reversal is a negative row of its own. -/
def ledgerEntry (now : Instant) (accountId : ℕ) (payment : Payment) (reversal : Bool) :
    PlanLedgerEntry :=
  let amount := if reversal then -payment.amountCents else payment.amountCents
  { accountId := accountId
    periodMonth := periodMonthFor now
    resourceType := if reversal then .paymentReversal else .payment
    resourceId := payment.publicId
    amountCentsDelta := amount
    totalPaymentsCount := if reversal then -1 else 1
    totalVolumeCents := amount
    description := if reversal then "payment reversed" else "payment settled"
    createdAt := now }

/-- `INSERT … ON CONFLICT DO NOTHING` into the usage ledger. -/
def recordPlanLedgerEntry (now : Instant) (tables : Tables) (accountId : ℕ)
    (payment : Payment) (reversal : Bool) : Tables :=
  let entry := ledgerEntry now accountId payment reversal
  match tables.ledger.find? fun _ row => decide (sameResource row entry) with
  | some _ => tables
  | none => { tables with ledger := tables.ledger.insert entry }

/-- The statuses a successor can be retired from. -/
def PaymentStatus.isRetirable : PaymentStatus → Bool
  | .pending | .scanned | .expired => true
  | .paid | .failed | .superseded | .reversed => false

/-- Retire one replacement code. -/
def retireSuccessor (now : Instant) (store : Store) (tables : Tables)
    (successor : ℕ × Payment) : Tables :=
  let retired := { successor.2 with status := .superseded }
  enqueueEvent now
    { tables with
      payments := tables.payments.update successor.1 fun row => { row with status := .superseded } }
    successor.1 retired store .superseded

/-- The replacement codes minted for a payment that are still to be retired. -/
def retirableSuccessors (tables : Tables) (paymentId : ℕ) : List (ℕ × Payment) :=
  tables.payments.select fun _ payment =>
    decide (payment.reissuedFromId = some paymentId) && payment.status.isRetirable

/-- Retire every replacement code minted directly for this payment. -/
def retireSuccessors (now : Instant) (tables : Tables) (paymentId : ℕ) (store : Store) :
    Tables :=
  (retirableSuccessors tables paymentId).foldl (retireSuccessor now store) tables

/-- What `mark_paid` assigns to the payment row. -/
def Payment.settle (now : Instant) (bakongRef : Option String)
    (gatewayRaw : Option GatewayStatus) (payment : Payment) : Payment :=
  { payment with
    status := .paid
    paidAt := some now
    approvedAt := some now
    bakongRef := bakongRef
    gatewayStatusRaw := gatewayRaw }

/-- What the rail reports with a credit. -/
structure Credit where
  bakongRef : Option String
  gatewayRaw : Option GatewayStatus

/-- The part of `mark_paid` after its status check: the payment is settled, the
ledger written, the invoice settled, the replacements retired and the completion
event enqueued. -/
def settlePayment (settings : Settings) (now : Instant) (tables : Tables) (paymentId : ℕ)
    (payment : Payment) (credit : Credit) : Except Failure Tables := do
  let paid := payment.settle now credit.bakongRef credit.gatewayRaw
  let assigned := { tables with payments := tables.payments.update paymentId fun _ => paid }
  match tables.stores.get? payment.storeId with
  | none => throw .missingRow
  | some store =>
      let recorded :=
        if store.isInternal then assigned
        else recordPlanLedgerEntry now assigned store.accountId paid false
      let settled ← settleInvoiceForPayment settings now recorded paymentId now
      let retired := retireSuccessors now settled paymentId store
      return enqueueEvent now retired paymentId paid store .completed

def findByPublicId (tables : Tables) (publicId : String) : Option (ℕ × Payment) :=
  tables.payments.find? fun _ payment => decide (payment.publicId = publicId)

/-- Confirm a credit from the rail. A missing or terminal payment is left
alone. -/
def markPaid (settings : Settings) (now : Instant) (tables : Tables) (publicId : String)
    (credit : Credit) : Except Failure (Option ℕ × Tables) :=
  match findByPublicId tables publicId with
  | none => .ok (none, tables)
  | some (paymentId, payment) =>
      if payment.status.isTerminal then .ok (none, tables)
      else (settlePayment settings now tables paymentId payment credit).map fun settled =>
        (some paymentId, settled)

/-- What `reverse_payment` assigns to the payment row. -/
def Payment.reverse (now : Instant) (reason : Option String) (payment : Payment) : Payment :=
  let cleaned := (pythonStrip (reason.getD "").toList).take 255
  { payment with
    status := .reversed
    reversedAt := some now
    reversalReason := if cleaned = [] then none else some (String.ofList cleaned) }

/-- Record that a settled payment was given back. -/
def reversePayment (now : Instant) (tables : Tables) (paymentId : ℕ) (payment : Payment)
    (reason : Option String) : Except Failure Tables :=
  if payment.status = .reversed then .error (.http 409 "payment_already_reversed")
  else if payment.status ≠ .paid then .error (.http 409 "payment_not_paid")
  else
    let reversed := payment.reverse now reason
    match tables.stores.get? payment.storeId with
    | none => .error .missingRow
    | some store =>
        let assigned := { tables with
          payments := tables.payments.update paymentId fun _ => reversed }
        let recorded := recordPlanLedgerEntry now assigned store.accountId reversed true
        .ok (enqueueEvent now recorded paymentId reversed store .reversed)

/-- The open codes past their lifetime, oldest first, at most 200. -/
def duePayments (now : Instant) (tables : Tables) : List (ℕ × Payment) :=
  (tables.payments.select fun _ payment =>
    payment.status.isOpen && decide (payment.expiresAt ≤ now)).take 200

/-- Expire one code. A probe expires silently. -/
def expirePayment (now : Instant) (tables : Tables) (due : ℕ × Payment) :
    Except Failure Tables :=
  let expired := { due.2 with status := .expired }
  let assigned := { tables with
    payments := tables.payments.update due.1 fun row => { row with status := .expired } }
  if isSynthetic due.2.referenceId due.2.metadata then .ok assigned
  else match assigned.stores.get? due.2.storeId with
    | none => .error .missingRow
    | some store => .ok (enqueueEvent now assigned due.1 expired store .expired)

def expireDuePayments (now : Instant) (tables : Tables) : Except Failure (ℕ × Tables) := do
  let due := duePayments now tables
  let expired ← due.foldlM (expirePayment now) tables
  return (due.length, expired)

end ChmabaPay
