import ChmabaPay.Routers.Billing

/-! # The operator's routes

Closing an invoice by hand, putting an account on a plan without one, and sending
webhooks again. The operator's own authentication happens before any of them and
is not modelled; the acting account is a parameter.
-/

namespace ChmabaPay

open Calendar Relational

/-- The spelling of an invoice status in error texts. -/
def InvoiceStatus.name : InvoiceStatus → String
  | .opened => "open"
  | .draft => "draft"
  | .issued => "issued"
  | .paid => "paid"
  | .void => "void"
  | .waived => "waived"
  | .credited => "credited"

/-- `_RESOLVED_INVOICE_STATUS`: what each resolution leaves on the invoice. -/
def ResolveAction.resolvedStatus : ResolveAction → InvoiceStatus
  | .markPaid => .paid
  | .waive => .waived
  | .credit => .credited
  | .void => .void

/-- The resolved statuses are final for this route. -/
def InvoiceStatus.isResolved (status : InvoiceStatus) : Bool :=
  [ResolveAction.markPaid, .waive, .credit, .void].any fun action =>
    decide (action.resolvedStatus = status)

/-- A waiver and a credit forgive the debt: the coverage it bought is in force
without any money arriving. -/
def forgiveInvoice (now : Instant) (tables : Tables) (invoiceId : ℕ) (invoice : PlanInvoice)
    (status : InvoiceStatus) : Tables :=
  let resolved := { tables with
    invoices := tables.invoices.update invoiceId fun row => { row with status := status } }
  let granted := match invoice.subscriptionId with
    | none => resolved
    | some subscriptionId =>
        extendCoverage (activateSubscription now resolved subscriptionId) invoice
  liftBillingHold granted invoice.accountId

/-- A void withdraws the claim and grants nothing. -/
def withdrawInvoice (now : Instant) (tables : Tables) (invoiceId : ℕ) (invoice : PlanInvoice) :
    Tables :=
  liftBillingHold
    { tables with
      invoices := tables.invoices.update invoiceId (PlanInvoice.withdraw now .operator) }
    invoice.accountId

/-- What a resolution does to the session's tables. -/
def ResolveAction.run (action : ResolveAction) (settings : Settings) (now : Instant)
    (tables : Tables) (invoiceId : ℕ) (invoice : PlanInvoice) : Tables :=
  match action with
  | .markPaid => settleInvoice settings now tables invoiceId invoice none now "admin"
  | .void => withdrawInvoice now tables invoiceId invoice
  | .waive | .credit => forgiveInvoice now tables invoiceId invoice action.resolvedStatus

/-- Close an invoice by hand. -/
def resolveInvoice (settings : Settings) (now : Instant) (tables : Tables) (actorId : ℕ)
    (invoiceId : ℕ) (action : ResolveAction) (reason : String) (amountCents : Option Int) :
    Except Failure Tables :=
  match tables.invoices.get? invoiceId with
  | none => .error (.http 404 "invoice_not_found")
  | some invoice =>
      if invoice.status.isResolved then
        .error (.http 409 ("invoice_already_" ++ invoice.status.name))
      else
        let credited := if action = .credit then
          some (amountCents.getD invoice.totalDueCents) else none
        .ok (recordAudit (action.run settings now tables invoiceId invoice) (some actorId)
          invoiceId (.invoiceResolved action invoice.accountId invoice.periodMonth
            invoice.totalDueCents reason credited))

/-- Put an account on a plan on an operator's authority: the first subscription
in force is canceled and the named plan is active at once. -/
def assignAccountPlan (now : Instant) (tables : Tables) (actorId : ℕ) (accountId : ℕ)
    (planCode : String) (reason : String) : Except Failure (ℕ × Tables) := do
  if tables.accounts.get? accountId = none then throw (.http 404 "account_not_found")
  match findPlanByCode tables planCode with
  | none => throw (.http 404 "plan_not_found")
  | some (planId, plan) =>
      let current := tables.subscriptions.find? fun _ row =>
        decide (row.accountId = accountId) && row.isLive
      if current.any fun row => decide (row.2.planId = planId) then
        throw (.http 400 "plan_unchanged")
      let canceled := match current with
        | none => tables.subscriptions
        | some (currentId, _) =>
            tables.subscriptions.update currentId (PlanSubscription.cancel now)
      let assigned : PlanSubscription :=
        { accountId := accountId
          planId := planId
          status := .active
          startedAt := some now
          nextBillingAt := now + creditPeriod
          createdAt := now }
      let currentPlan := current.bind fun row => tables.plans.get? row.2.planId
      return (canceled.next,
        recordAudit { tables with subscriptions := canceled.insert assigned } (some actorId)
          accountId (.planAssigned (currentPlan.map (·.code)) plan.code plan.monthlyFeeCents
            reason))

/-- A deliberate send: due now, with a fresh budget. -/
def EventDelivery.rearm (now : Instant) (delivery : EventDelivery) : EventDelivery :=
  { delivery with
    status := .retrying
    attempts := 0
    nextAttemptAt := some now
    lastError := none }

/-- `retry_delivery`: whether the delivery was reset, and the tables then. -/
def retryDelivery (now : Instant) (tables : Tables) (actorId deliveryId : ℕ)
    (includeSuccesses : Bool) : Except Failure (Bool × Tables) :=
  match tables.deliveries.get? deliveryId with
  | none => .error (.http 404 "delivery_not_found")
  | some delivery =>
      if delivery.status = .success && !includeSuccesses then .ok (false, tables)
      else if delivery.status = .retrying && delivery.attempts = 0 &&
          delivery.nextAttemptAt.any (· ≤ now) then .ok (false, tables)
      else
        .ok (true, recordAudit
          { tables with deliveries := tables.deliveries.update deliveryId (.rearm now) }
          (some actorId) deliveryId
          (.deliveryRetried delivery.eventId delivery.endpointId delivery.status))

/-- The deliveries of a payment's events, latest first. -/
def paymentDeliveryRows (tables : Tables) (paymentId : ℕ) : List (ℕ × EventDelivery) :=
  (tables.deliveries.select fun _ delivery =>
    (tables.events.get? delivery.eventId).any fun event =>
      decide (event.paymentId = paymentId)).reverse

/-- `redeliver_admin_payment_events`: the deliveries that were reset, and the
tables then. -/
def redeliverPaymentEvents (now : Instant) (tables : Tables) (actorId : ℕ) (publicId : String)
    (includeSuccesses : Bool) : Except Failure (List ℕ × Tables) := do
  let some (paymentId, payment) := findByPublicId tables publicId
    | throw (.http 404 "payment_not_found")
  let some store := tables.stores.get? payment.storeId
    | throw (.http 404 "payment_not_found")
  let rows := paymentDeliveryRows tables paymentId
  if rows.isEmpty then throw (.http 404 "no_deliveries_for_payment")
  let targets := rows.filter fun row => includeSuccesses || decide (row.2.status ≠ .success)
  let deliveryIds := targets.map Prod.fst
  if deliveryIds.isEmpty then return ([], tables)
  return (deliveryIds, recordAudit
    { tables with
      deliveries := tables.deliveries.updateWhere (fun key _ => deliveryIds.contains key)
        (.rearm now) }
    (some actorId) paymentId
    (.paymentRedelivered deliveryIds includeSuccesses store.accountId))

end ChmabaPay
