import ChmabaPay.Foundation.Doubles
import ChmabaPay.Services.Bakong
import ChmabaPay.Workers.Detection

/-! # Payment status reconciliation

A payment with a hosted session is confirmed by ABA or not at all; any other one is looked
up at Bakong. ABA's link page is fetched for display and never sets a status. What a source
confirms is handed to `mark_paid`, and whatever that raises ends up in the result.
-/

namespace ChmabaPay

open Calendar Relational

/-! ## What is asked outside -/

/-- `HOSTED_ACTION_APPROVED`. -/
def hostedActionApproved : String := "approved"

/-- ABA's answer for a checkout session. -/
structure HostedStatus where
  action : String
  receiptUrl : Option String := none
  tranId : Option String := none
  raw : String := ""

def HostedStatus.paid (status : HostedStatus) : Bool :=
  decide (status.action = hostedActionApproved)

/-- What the link page says. -/
structure PageStatus where
  status : String
  signals : List String

/-- The calls a reconciliation makes, each with its answer or the text of its exception. -/
structure RailCalls where
  fetchHostedStatus : HostedSession → Except String HostedStatus
  search : BakongSearch
  fetchPaymentStatus : String → Except String PageStatus

/-- How numbers and lookups are printed. -/
structure Printing where
  amountText : LedgerAmount → String
  lookupsJson : List Lookup → String

/-! ## The result -/

inductive RailStatus where
  | paid
  | pending
  | failed
  | unknown
deriving DecidableEq

def RailStatus.name : RailStatus → String
  | .paid => "PAID"
  | .pending => "PENDING"
  | .failed => "FAILED"
  | .unknown => "UNKNOWN"

/-- One piece of the evidence for a status. -/
inductive Signal where
  | hostedAction (action : String)
  | hostedStatusError (message : String)
  | resolvedViaHosted
  | bakongFoundVia (via : String) (status : Option String)
  | bakongUnauthorized
  | bakongCheckError (message : String)
  | resolvedViaBakong
  | amountCheckSkipped (settledIn expected : String)
  | amountMismatch (ledger : LedgerAmount) (expected : ℚ)
  | page (text : String)
  | abaPageStatusIgnored (status : String)
  | abaCheckError (message : String)
deriving DecidableEq

def Signal.text (printing : Printing) : Signal → String
  | .hostedAction action => "hosted_action:" ++ action
  | .hostedStatusError message => "hosted_status_error:" ++ message
  | .resolvedViaHosted => "resolved_via:payway_hosted"
  | .bakongFoundVia via status =>
      "bakong_found_via:" ++ via ++ " status=" ++ status.getD "None"
  | .bakongUnauthorized => "bakong_unauthorized"
  | .bakongCheckError message => "bakong_check_error:" ++ message
  | .resolvedViaBakong => "resolved_via:bakong_open_api"
  | .amountCheckSkipped settledIn expected =>
      "amount_check_skipped:settled_in=" ++ settledIn ++ " expected=" ++ expected
  | .amountMismatch ledger expected =>
      "amount_mismatch:ledger=" ++ printing.amountText ledger ++ " expected=" ++
        printing.amountText (.double expected)
  | .page text => text
  | .abaPageStatusIgnored status => "aba_page_status_ignored:" ++ status
  | .abaCheckError message => "aba_check_error:" ++ message

def Signal.isAmountMismatch : Signal → Bool
  | .amountMismatch _ _ => true
  | _ => false

/-- `STATUS_SOURCE_PAYWAY_HOSTED`. -/
def statusSourcePaywayHosted : String := "payway_hosted_checkout"

/-- `STATUS_SOURCE_BAKONG_OPEN_API`. -/
def statusSourceBakongOpenApi : String := "bakong_open_api"

structure ReconcileResult where
  status : RailStatus := .unknown
  source : Option String := none
  matchedAmount : Option LedgerAmount := none
  signals : List Signal := []
  pageStatus : Option PageStatus := none
  bakongResult : Option ReceiptVerifyResult := none
  transitionedToPaid : Bool := false
  error : Option String := none

/-! ## The call of `mark_paid` -/

/-- What happens to one call of `mark_paid`: an exception before its commit, a ledger entry
that cannot be written, an exception after the commit, and the text of the exception. -/
structure Interruption where
  fault : Option Fault := none
  ledgerFails : Bool := false
  late : Bool := false
  message : String := ""

/-- What a call of `mark_paid` came to: whether it settled the payment or what it raised,
what it committed, and the tables of a session that is still usable. -/
structure MarkPaidCall where
  outcome : Except String Bool
  committed : Option Database := none
  session : Option Tables

def callMarkPaid (settings : Settings) (now : Instant) (tables : Tables) (publicId : String)
    (interruption : Interruption) (credit : Credit) : MarkPaidCall :=
  match findByPublicId tables publicId with
  | none => { outcome := .ok false, session := some tables }
  | some (paymentId, payment) =>
      if payment.status.isTerminal then { outcome := .ok false, session := some tables }
      else
        let walk := settlePaymentWalk settings now paymentId payment credit
          interruption.ledgerFails tables
        match Fault.outcome interruption.fault walk tables with
        | .error _ => { outcome := .error interruption.message, session := none }
        | .ok (some left) => { outcome := .error interruption.message, session := some left }
        | .ok none =>
            match (walk.last tables).commit with
            | .error _ => { outcome := .error interruption.message, session := none }
            | .ok db =>
                { outcome := if interruption.late then .error interruption.message else .ok true
                  committed := some db
                  session := some db.tables }

/-- Hand a credit to `mark_paid`, when there is a session and the row may be promoted. -/
def promote (markPaid : Option (Credit → MarkPaidCall)) (promotable : Bool) (label : String)
    (credit : Credit) (result : ReconcileResult) : ReconcileResult × Option MarkPaidCall :=
  match markPaid.filter fun _ => promotable with
  | none => (result, none)
  | some markPaid =>
      let call := markPaid credit
      match call.outcome with
      | .ok transitioned => ({ result with transitionedToPaid := transitioned }, some call)
      | .error message => ({ result with error := some (label ++ ":" ++ message) }, some call)

/-! ## ABA's hosted checkout -/

/-- The amount as the rail counts it. An amount of zero is none. -/
def expectedAmountUsd (payment : Payment) : Option ℚ :=
  if payment.amountCents = 0 then none
  else some (Doubles.nearest (Doubles.nearest payment.amountCents / 100))

/-- The statuses an approval of ABA promotes: expiry and replacement do not undo money that
moved. -/
def PaymentStatus.isHostedPromotable : PaymentStatus → Bool
  | .pending | .scanned | .expired | .superseded => true
  | .paid | .failed | .reversed => false

def hostedCredit (payment : Payment) (hosted : HostedSession) (answer : HostedStatus) : Credit where
  bakongRef := answer.tranId.filter (· ≠ "") <|> payment.bakongRef
  gatewayRaw := some {
    paywayHosted := some hosted
    entries := [("hosted_action", .text answer.action), ("hosted_status", .nested answer.raw),
      ("receipt_url", answer.receiptUrl.elim .null .text)] }

def hostedUnavailable : String :=
  "payway_hosted_unavailable: ABA did not answer for this session; retry"

/-- Stage 0, which is the only one for a payment with a hosted session. -/
def reconcileHosted (payment : Payment) (hosted : HostedSession) (calls : RailCalls)
    (markPaid : Option (Credit → MarkPaidCall)) : ReconcileResult × Option MarkPaidCall :=
  match calls.fetchHostedStatus hosted with
  | .error message =>
      ({ status := .pending
         source := some statusSourcePaywayHosted
         signals := [.hostedStatusError message]
         error := some hostedUnavailable }, none)
  | .ok answer =>
      if answer.paid then
        promote markPaid payment.status.isHostedPromotable "mark_paid_hosted"
          (hostedCredit payment hosted answer)
          { status := .paid
            source := some statusSourcePaywayHosted
            matchedAmount := (expectedAmountUsd payment).map .double
            signals := [.hostedAction answer.action, .resolvedViaHosted] }
      else
        ({ status := .pending
           source := some statusSourcePaywayHosted
           signals := [.hostedAction answer.action] }, none)

/-! ## Bakong -/

def BakongTransaction.lowerStatus (tx : BakongTransaction) : String :=
  String.ofList (pythonLower (tx.status.getD "").toList)

/-- The ledger reports the transaction as settled. -/
def BakongTransaction.isSettled (tx : BakongTransaction) : Bool :=
  ["success", "completed", "paid"].contains tx.lowerStatus

def BakongTransaction.isRefused (tx : BakongTransaction) : Bool :=
  ["failed", "rejected", "cancelled", "canceled", "refunded"].contains tx.lowerStatus

/-- `float` of an amount, when it has one. -/
def LedgerAmount.reading : LedgerAmount → Option ℚ
  | .integer value => some (Doubles.nearest value)
  | .double value => some value
  | .other reading _ => reading

def LedgerAmount.isTruthy : LedgerAmount → Bool
  | .integer value => decide (value ≠ 0)
  | .double value => decide (value ≠ 0)
  | .other _ truthy => truthy

/-- Two doubles are less than half a cent apart. -/
def withinHalfCent (first second : ℚ) : Bool :=
  decide (|Doubles.nearest (first - second)| < Doubles.nearest (5 / 1000))

/-- Whether the amount of the ledger may stand for ours, and what is noted about it. Amounts
in different currencies are not compared. -/
def checkAmount (payment : Payment) (tx : BakongTransaction) : Bool × List Signal :=
  let txCurrency := pythonUpper (tx.currency.getD "")
  let ourCurrency := payment.currency.name
  if txCurrency ≠ "" ∧ txCurrency ≠ ourCurrency then
    (true, [.amountCheckSkipped txCurrency ourCurrency])
  else
    match expectedAmountUsd payment, tx.amount with
    | some expected, some amount =>
        if amount.reading.any fun value => withinHalfCent value expected then (true, [])
        else (false, [.amountMismatch amount expected])
    | _, _ => (true, [])

def bakongCredit (printing : Printing) (payment : Payment) (verified : ReceiptVerifyResult)
    (tx : BakongTransaction) : Credit where
  bakongRef := tx.hash.filter (· ≠ "") <|> tx.md5.filter (· ≠ "") <|> payment.bakongRef
  gatewayRaw := some {
    paywayHosted := none
    entries := [("reconciled_via", .text ("bakong_open_api:" ++ verified.via.getD "None")),
      ("bakong", .nested tx.raw), ("via", verified.via.elim .null .text),
      ("attempts", .nested (printing.lookupsJson verified.attempts))] }

def receiptOf (payment : Payment) : Receipt where
  amount := expectedAmountUsd payment
  currency := some payment.currency.name
  purchaseNumber := some payment.billNumber
  referenceNumber := payment.referenceId
  md5 := payment.qrMd5
  fullHash := payment.bakongRef

/-- The transaction Bakong has for the payment's code, or the exception of the call. -/
def askBakong (payment : Payment) (calls : RailCalls) :
    Except BakongFailure ReceiptVerifyResult :=
  verifyReceipt calls.search (receiptOf payment) none

/-- A transaction that Bakong reports as settled. -/
def settleFromBakong (printing : Printing) (payment : Payment) (verified : ReceiptVerifyResult)
    (tx : BakongTransaction) (markPaid : Option (Credit → MarkPaidCall))
    (result : ReconcileResult) : ReconcileResult × Option MarkPaidCall :=
  let resolved := { result with
    status := .paid
    source := some statusSourceBakongOpenApi
    matchedAmount := tx.amount.filter (·.isTruthy) <|> (expectedAmountUsd payment).map .double
    signals := result.signals ++ [.resolvedViaBakong] }
  match markPaid.filter fun _ => payment.status.isOpen with
  | none => (resolved, none)
  | some markPaid =>
      let (agrees, noted) := checkAmount payment tx
      promote (some markPaid) agrees "mark_paid_bakong" (bakongCredit printing payment verified tx)
        { resolved with signals := resolved.signals ++ noted }

/-! ## The link page -/

/-- The link the caller named in the metadata. -/
def abaSlugGuess (payment : Payment) : Option String :=
  ["aba_payway_slug", "payway_slug", "link_slug", "aba_payway_url", "payway_url",
    "payway_link_url"].findSome? fun key =>
      match (payment.metadata.getD []).lookup key with
      | some (.text value) => if value = "" then none else some value
      | _ => none

/-- What a caller adds to the payment. -/
structure ReconcileHints where
  abaSlug : Option String := none
  abaClientId : Option String := none
  preferAba : Bool := true

/-- Stage 2: the page contributes signals and never a status. -/
def displayPage (payment : Payment) (calls : RailCalls) (hints : ReconcileHints)
    (result : ReconcileResult) : ReconcileResult :=
  let slug := hints.abaSlug.filter (· ≠ "") <|> abaSlugGuess payment
  if hints.preferAba && (slug.isSome || (hints.abaClientId.filter (· ≠ "")).isSome) then
    match calls.fetchPaymentStatus (slug.getD "") with
    | .error message => { result with signals := result.signals ++ [.abaCheckError message] }
    | .ok page =>
        { result with
          pageStatus := some page
          signals := result.signals ++ page.signals.map .page ++
            [.abaPageStatusIgnored page.status] }
  else result

/-- The status when nothing is settled. -/
def decideStatus (tx : Option BakongTransaction) (result : ReconcileResult) : ReconcileResult :=
  match tx with
  | some tx =>
      { result with
        status := if tx.isRefused then .failed else .pending
        source := some statusSourceBakongOpenApi
        matchedAmount := tx.amount }
  | none => { result with status := .pending }

/-! ## The reconciliation -/

def bakongNotConfigured : String :=
  "bakong_not_configured: the Bakong Open API rejected our credentials, so " ++
    "payment status cannot be determined. Set BAKONG_API_TOKEN, or " ++
    "BAKONG_DEVELOPER_EMAIL so a token can be renewed automatically."

/-- Stage 1 and what follows it, for a payment without a hosted session. -/
def reconcileBakong (printing : Printing) (payment : Payment) (calls : RailCalls)
    (hints : ReconcileHints) (markPaid : Option (Credit → MarkPaidCall)) :
    ReconcileResult × Option MarkPaidCall :=
  match askBakong payment calls with
  | .error (.apiError message code) =>
      let result : ReconcileResult :=
        if code = some bakongErrorUnauthorized then
          { error := some bakongNotConfigured, signals := [.bakongUnauthorized] }
        else { signals := [.bakongCheckError message] }
      (decideStatus none (displayPage payment calls hints result), none)
  | .error (.other message) =>
      (decideStatus none
        (displayPage payment calls hints { signals := [.bakongCheckError message] }), none)
  | .ok verified =>
      match verified.transaction with
      | none =>
          (decideStatus none
            (displayPage payment calls hints { bakongResult := some verified }), none)
      | some tx =>
          let found : ReconcileResult := {
            bakongResult := some verified
            signals := [.bakongFoundVia (verified.via.getD "None") tx.status] }
          if tx.isSettled then settleFromBakong printing payment verified tx markPaid found
          else (decideStatus (some tx) (displayPage payment calls hints found), none)

/-- `reconcile_payment`. Without a session nothing is marked. -/
def reconcilePayment (printing : Printing) (payment : Payment) (calls : RailCalls)
    (hints : ReconcileHints) (markPaid : Option (Credit → MarkPaidCall)) :
    ReconcileResult × Option MarkPaidCall :=
  match payment.gatewayStatusRaw.bind (·.paywayHosted) with
  | some hosted => reconcileHosted payment hosted calls markPaid
  | none => reconcileBakong printing payment calls hints markPaid

end ChmabaPay
