import ChmabaPay.Services.Stores

/-! # Plan invoicing

What a merchant owes and what a settled invoice unlocks: issuing invoices,
settling them before or after the grace line, freezing and retiring. Every
function reads one clock, `now`, and works on the session's tables; the caller
commits.
-/

namespace ChmabaPay

open Calendar Relational

/-- `CREDIT_PERIOD`: what one paid invoice buys. -/
def creditPeriod : Int := days 30

/-- How long an unpaid invoice may run past its due date. -/
def gracePeriod (settings : Settings) : Int := days (max 0 settings.billingGraceDays)

/-- How far ahead of the period end a renewal is raised. -/
def leadPeriod (settings : Settings) : Int := days (max 0 settings.billingLeadDays)

def periodMonthFor (moment : Instant) : String := monthLabel moment

/-- Net payments and net volume of one account-month, from the ledger. -/
def periodUsage (tables : Tables) (accountId : ℕ) (periodMonth : String) : Int × Int :=
  let entries := tables.ledger.select fun _ entry =>
    decide (entry.accountId = accountId) && decide (entry.periodMonth = periodMonth)
  ((entries.map fun entry => entry.2.totalPaymentsCount).sum,
    (entries.map fun entry => entry.2.amountCentsDelta).sum)

/-! ## Raising invoices -/

/-- The live invoice of a subscription-window. The partial unique index leaves
at most one. -/
def findInvoiceForWindow (tables : Tables) (subscriptionId : ℕ) (periodStart : Instant) :
    Option (ℕ × PlanInvoice) :=
  tables.invoices.find? fun _ invoice =>
    decide (invoice.subscriptionId = some subscriptionId) &&
      decide (invoice.periodStart = some periodStart) && decide (invoice.status ≠ .void)

/-- The oldest unpaid invoice of the account. -/
def findOpenInvoice (tables : Tables) (accountId : ℕ) : Option (ℕ × PlanInvoice) :=
  tables.invoices.find? fun _ invoice =>
    decide (invoice.accountId = accountId) && invoice.isUnpaid

/-- The row `issue_invoice` writes for a window. -/
def newInvoice (now : Instant) (tables : Tables) (subscriptionId : ℕ)
    (subscription : PlanSubscription) (plan : Plan) (periodStart periodEnd dueAt : Instant) :
    PlanInvoice :=
  let label := periodMonthFor periodStart
  let counted := (periodUsage tables subscription.accountId label).1
  { accountId := subscription.accountId
    subscriptionId := some subscriptionId
    periodMonth := label
    periodStart := some periodStart
    periodEnd := some periodEnd
    dueAt := some dueAt
    status := .opened
    baseFeeCents := plan.monthlyFeeCents
    usagePaymentsCount := counted
    overagePaymentsCount := max 0 (counted - plan.basePaymentsIncluded)
    totalDueCents := plan.monthlyFeeCents
    createdAt := now }

/-- What raising an invoice led to. -/
inductive Issued where
  | nothingToBill
  | existing (invoiceId : ℕ)
  | created (invoiceId : ℕ)
deriving DecidableEq

/-- Raise the invoice of one subscription-window, or find the one already there.
A free plan bills nothing. -/
def issueInvoice (now : Instant) (tables : Tables) (subscriptionId : ℕ)
    (subscription : PlanSubscription) (plan : Plan) (periodStart periodEnd dueAt : Instant) :
    Issued × Tables :=
  if plan.monthlyFeeCents ≤ 0 then (.nothingToBill, tables)
  else match findInvoiceForWindow tables subscriptionId periodStart with
    | some (invoiceId, _) => (.existing invoiceId, tables)
    | none => (.created tables.invoices.next,
        { tables with
          invoices := tables.invoices.insert
            (newInvoice now tables subscriptionId subscription plan periodStart periodEnd
              dueAt) })

/-- Subscriptions joined with their plan. -/
def subscriptionPlans (tables : Tables) : List (ℕ × PlanSubscription × Plan) :=
  tables.subscriptions.rows.filterMap fun row =>
    (tables.plans.get? row.2.planId).map fun plan => (row.1, row.2, plan)

/-- The renewals that entered their lead window and have no live invoice yet,
earliest period end first. -/
def dueSubscriptions (settings : Settings) (now : Instant) (tables : Tables) (limit : ℕ) :
    List (ℕ × PlanSubscription × Plan) :=
  let due := (subscriptionPlans tables).filter fun row =>
    row.2.1.isLive && decide (0 < row.2.2.monthlyFeeCents) &&
      decide (row.2.1.nextBillingAt ≤ now + leadPeriod settings) &&
      (findInvoiceForWindow tables row.1 row.2.1.nextBillingAt).isNone
  (due.insertionSort fun first second =>
    first.2.1.nextBillingAt ≤ second.2.1.nextBillingAt).take limit

/-- Raise the renewal of one due subscription. -/
def issueRenewal (now : Instant) (tables : Tables) (due : ℕ × PlanSubscription × Plan) :
    Issued × Tables :=
  issueInvoice now tables due.1 due.2.1 due.2.2 due.2.1.nextBillingAt
    (due.2.1.nextBillingAt + creditPeriod) due.2.1.nextBillingAt

/-- One turn of the sweep: what was raised so far, and the tables it reached. -/
def issueNext (now : Instant) (sweep : List Issued × Tables)
    (due : ℕ × PlanSubscription × Plan) : List Issued × Tables :=
  let raised := issueRenewal now sweep.2 due
  (sweep.1 ++ [raised.1], raised.2)

/-- Raise the renewal invoices that entered their lead window. The subscription
rows are only read. -/
def issueDueInvoices (settings : Settings) (now : Instant) (tables : Tables) (limit : ℕ) :
    List Issued × Tables :=
  (dueSubscriptions settings now tables limit).foldl (issueNext now) ([], tables)

/-! ## Settling -/

def PlanSubscription.cancel (now : Instant) (subscription : PlanSubscription) :
    PlanSubscription :=
  { subscription with status := .canceled, canceledAt := some now }

def PlanInvoice.withdraw (now : Instant) (reason : VoidReason) (invoice : PlanInvoice) :
    PlanInvoice :=
  { invoice with status := .void, voidReason := some reason, voidedAt := some now }

/-- Cancel every subscription in force. -/
def retireLiveSubscriptions (now : Instant) (tables : Tables) (accountId : ℕ) : Tables :=
  { tables with
    subscriptions := tables.subscriptions.updateWhere
      (fun _ row => decide (row.accountId = accountId) && row.isLive)
      (PlanSubscription.cancel now) }

/-- Put a paid-for subscription in force and retire whatever it replaces. A
subscription that is not pending is left alone. -/
def activateSubscription (now : Instant) (tables : Tables) (subscriptionId : ℕ) : Tables :=
  match tables.subscriptions.get? subscriptionId with
  | none => tables
  | some subscription =>
      if subscription.status ≠ .pending then tables
      else
        let others := tables.subscriptions.updateWhere
          (fun key row => decide (row.accountId = subscription.accountId) &&
            decide (key ≠ subscriptionId) && row.isLive)
          (PlanSubscription.cancel now)
        { tables with
          subscriptions := others.update subscriptionId fun row =>
            { row with status := .active, startedAt := row.startedAt <|> some now } }

/-- Coverage ends where the invoice says it does. -/
def extendCoverage (tables : Tables) (invoice : PlanInvoice) : Tables :=
  match invoice.periodEnd, invoice.subscriptionId with
  | some periodEnd, some subscriptionId =>
      { tables with
        subscriptions := tables.subscriptions.update subscriptionId fun row =>
          { row with nextBillingAt := periodEnd } }
  | _, _ => tables

/-- Clear a billing freeze and nothing else: a suspended account stays
suspended. -/
def liftBillingHold (tables : Tables) (accountId : ℕ) : Tables :=
  { tables with
    accounts := tables.accounts.update accountId fun account =>
      if account.status = .restricted then { account with status := .active } else account }

def recordAudit (tables : Tables) (actor : Option ℕ) (targetId : ℕ) (action : AuditAction) :
    Tables :=
  { tables with
    audit := tables.audit.insert
      { actorAccountId := actor, action := action, targetId := targetId } }

/-- The subscription a reinstatement puts in force. -/
def reinstatedSubscription (now : Instant) (accountId planId : ℕ) (paidAt : Instant) :
    PlanSubscription where
  accountId := accountId
  planId := planId
  status := .active
  startedAt := some paidAt
  nextBillingAt := paidAt + creditPeriod
  createdAt := now

/-- The paid invoice of a reinstated subscription. It takes over the payment. -/
def grantedInvoice (now : Instant) (subscriptionId : ℕ) (invoice : PlanInvoice)
    (paymentId : Option ℕ) (paidAt : Instant) : PlanInvoice where
  accountId := invoice.accountId
  subscriptionId := some subscriptionId
  periodMonth := periodMonthFor paidAt
  periodStart := some paidAt
  periodEnd := some (paidAt + creditPeriod)
  dueAt := some paidAt
  status := .paid
  baseFeeCents := invoice.baseFeeCents
  totalDueCents := invoice.totalDueCents
  paidAt := some paidAt
  chmabapayPaymentId := paymentId
  createdAt := now

/-- What becomes of an invoice whose money arrived past its grace line. -/
def PlanInvoice.lapse (now : Instant) (paymentId : Option ℕ) (invoice : PlanInvoice) :
    PlanInvoice :=
  { invoice.withdraw now .graceExpired with
    chmabapayPaymentId := if paymentId.isSome then none else invoice.chmabapayPaymentId }

/-- Grant a fresh window from the payment instant after coverage had lapsed: the
live subscriptions are retired, a new one is put in force with a paid invoice of
its own, and the lapsed invoice is voided and gives up the payment. -/
def reinstate (now : Instant) (tables : Tables) (invoiceId : ℕ) (invoice : PlanInvoice)
    (subscription : PlanSubscription) (paymentId : Option ℕ) (paidAt : Instant)
    (source : String) : Tables :=
  let retired := retireLiveSubscriptions now tables invoice.accountId
  let reinstatedId := retired.subscriptions.next
  let grantedId := retired.invoices.next
  let granted := retired.invoices.insert
    (grantedInvoice now reinstatedId invoice paymentId paidAt)
  recordAudit
    { retired with
      subscriptions := retired.subscriptions.insert
        (reinstatedSubscription now invoice.accountId subscription.planId paidAt)
      invoices := granted.update invoiceId (PlanInvoice.lapse now paymentId) }
    none invoice.accountId
    (.reinstated invoiceId grantedId ((paidAt - invoice.dueAt.getD paidAt) / days 1)
      (paidAt + creditPeriod) source)

/-- The payment instant lies beyond the grace line of the invoice. -/
def isLapsed (settings : Settings) (invoice : PlanInvoice) (paidAt : Instant) : Bool :=
  invoice.dueAt.any fun dueAt => decide (dueAt + gracePeriod settings < paidAt)

/-- Mark the invoice paid and put its window in force. -/
def payInvoice (now : Instant) (tables : Tables) (invoiceId : ℕ) (invoice : PlanInvoice)
    (subscriptionId : ℕ) (paidAt : Instant) : Tables :=
  let paid := { tables with
    invoices := tables.invoices.update invoiceId fun row =>
      { row with status := .paid, paidAt := some paidAt } }
  extendCoverage (activateSubscription now paid subscriptionId) invoice

/-- Unfreeze the account and apply the allowance of the plan that was bought. -/
def welcomeBack (now : Instant) (tables : Tables) (accountId planId : ℕ) : Tables :=
  match tables.accounts.get? accountId with
  | none => tables
  | some _ =>
      let lifted := liftBillingHold tables accountId
      match lifted.plans.get? planId with
      | none => lifted
      | some plan => applyStoreCap now lifted accountId plan.maxStores

/-- Settle one invoice and put the coverage it bought in force. An invoice that
is already paid is left alone. -/
def settleInvoice (settings : Settings) (now : Instant) (tables : Tables) (invoiceId : ℕ)
    (invoice : PlanInvoice) (paymentId : Option ℕ) (paidAt : Instant) (source : String) :
    Tables :=
  if invoice.status = .paid then tables
  else match invoice.subscriptionId.bind fun key =>
      (tables.subscriptions.get? key).map fun row => (key, row) with
    | none =>
        { tables with
          invoices := tables.invoices.update invoiceId fun row =>
            { row with status := .paid, paidAt := some paidAt } }
    | some (subscriptionId, subscription) =>
        let settled :=
          if isLapsed settings invoice paidAt then
            reinstate now tables invoiceId invoice subscription paymentId paidAt source
          else payInvoice now tables invoiceId invoice subscriptionId paidAt
        welcomeBack now settled invoice.accountId subscription.planId

/-- Find the invoice this payment settles, and settle it. -/
def settleInvoiceForPayment (settings : Settings) (now : Instant) (tables : Tables)
    (paymentId : ℕ) (paidAt : Instant) : Except Failure Tables := do
  match ← oneOrNone (tables.invoices.select fun _ invoice =>
      decide (invoice.chmabapayPaymentId = some paymentId)) with
  | none => return tables
  | some (invoiceId, invoice) =>
      return settleInvoice settings now tables invoiceId invoice (some paymentId) paidAt "khqr"

/-! ## Freezing and retiring -/

/-- Unpaid invoices with a dunning clock, on live subscriptions of active
accounts, earliest due date first. -/
def unpaidInvoiceQuery (tables : Tables) (respectAdminExemption : Bool) :
    List (ℕ × PlanInvoice × Account) :=
  let rows := tables.invoices.rows.filterMap fun row => do
    let dueAt ← row.2.dueAt
    let subscription ← row.2.subscriptionId.bind tables.subscriptions.get?
    let account ← tables.accounts.get? row.2.accountId
    if row.2.isUnpaid && subscription.isLive && decide (account.status = .active) &&
        !(respectAdminExemption && account.isPlatformAdmin)
    then some (dueAt, row.1, row.2, account) else none
  (rows.insertionSort fun first second => first.1 ≤ second.1).map Prod.snd

/-- Set one account to `restricted` and record the invoice it was frozen over. -/
def freezeAccount (settings : Settings) (tables : Tables)
    (overdue : ℕ × PlanInvoice × Account) : Tables :=
  let (invoiceId, invoice, _) := overdue
  recordAudit
    { tables with
      accounts := tables.accounts.update invoice.accountId fun account =>
        { account with status := .restricted } }
    none invoice.accountId
    (.accountFrozen invoiceId invoice.periodMonth invoice.totalDueCents invoice.dueAt
      settings.billingGraceDays)

/-- Retire one parked purchase: its unpaid invoices are voided and it is
canceled. -/
def expirePurchase (now : Instant) (tables : Tables) (parked : ℕ × PlanSubscription) : Tables :=
  { tables with
    invoices := tables.invoices.updateWhere
      (fun _ invoice => decide (invoice.subscriptionId = some parked.1) && invoice.isUnpaid)
      (PlanInvoice.withdraw now .superseded)
    subscriptions := tables.subscriptions.update parked.1 (PlanSubscription.cancel now) }

/-- Retire the parked purchases nobody paid for within one credit period. -/
def expireAbandonedPurchases (now : Instant) (tables : Tables) (limit : ℕ) : ℕ × Tables :=
  let parked := (tables.subscriptions.select fun _ row =>
    decide (row.status = .pending) && decide (row.createdAt ≤ now - creditPeriod)).take limit
  (parked.length, parked.foldl (expirePurchase now) tables)

/-- What one enforcement sweep did. -/
structure GraceSummary where
  enforced : Bool
  due : ℕ
  frozen : ℕ
  abandonedPurchases : ℕ
deriving DecidableEq

/-- Freeze the accounts whose grace ran out, when enforcement is on, and retire
abandoned purchases in either case. -/
def enforceGrace (settings : Settings) (now : Instant) (tables : Tables) (limit : ℕ) :
    GraceSummary × Tables :=
  let due := ((unpaidInvoiceQuery tables true).take limit).filter fun row =>
    row.2.1.dueAt.any fun dueAt => decide (dueAt + gracePeriod settings ≤ now)
  let frozen := if settings.billingEnforceEnabled then
    due.foldl (freezeAccount settings) tables else tables
  let abandoned := expireAbandonedPurchases now frozen 500
  ({ enforced := settings.billingEnforceEnabled
     due := due.length
     frozen := if settings.billingEnforceEnabled then due.length else 0
     abandonedPurchases := abandoned.1 },
    abandoned.2)

end ChmabaPay
