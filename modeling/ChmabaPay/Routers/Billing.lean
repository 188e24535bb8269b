import ChmabaPay.Foundation.Digits
import ChmabaPay.Routers.Auth
import ChmabaPay.Services.Payments

/-! # The merchant's billing routes

Changing plan and asking for the code of an invoice. `changePlan` is written as
its first reads followed by the rest of the request, so that the same two parts
can also be run against different snapshots.
-/

namespace ChmabaPay

open Calendar Relational

/-! ## Changing plan -/

/-- The subscription in force with its plan; several are an error. -/
def getActiveSub (tables : Tables) (accountId : ℕ) :
    Except Failure (Option (ℕ × PlanSubscription × Plan)) :=
  oneOrNone ((subscriptionPlans tables).filter fun row =>
    decide (row.2.1.accountId = accountId) && row.2.1.isLive)

/-- Retire every unpaid invoice of the account. -/
def voidOpenInvoices (now : Instant) (tables : Tables) (accountId : ℕ) (reason : VoidReason) :
    Tables :=
  { tables with
    invoices := tables.invoices.updateWhere
      (fun _ invoice => decide (invoice.accountId = accountId) && invoice.isUnpaid)
      (PlanInvoice.withdraw now reason) }

/-- What the first reads of a plan change found. -/
structure PlanChange where
  accountId : ℕ
  account : Account
  planId : ℕ
  plan : Plan
  old : Option (ℕ × PlanSubscription × Plan)

/-- The request up to its first write: the caller's account, the plan asked for
and the subscription in force. -/
def readPlanChange (tables : Tables) (accountId : ℕ) (planCode : String) :
    Except Failure PlanChange := do
  let account ← sessionAccount tables accountId
  match findPlanByCode tables planCode with
  | none => throw (.http 404 "plan_not_found")
  | some (planId, plan) =>
      if !plan.isPublic || !plan.isActive then throw (.http 400 "plan_not_available")
      let old ← getActiveSub tables accountId
      if old.any fun row => decide (row.2.1.planId = planId) then
        throw (.http 400 "plan_unchanged")
      return { accountId, account, planId, plan, old }

structure ChangePlanOut where
  subscriptionId : ℕ
  paymentRequired : Bool
  invoiceId : Option ℕ
deriving DecidableEq

def PlanChange.oldCode (change : PlanChange) : Option String :=
  change.old.map fun row => row.2.2.code

/-- The row both branches insert, in force or parked. -/
def PlanChange.subscription (change : PlanChange) (now : Instant)
    (status : SubscriptionStatus) (startedAt : Option Instant) : PlanSubscription where
  accountId := change.accountId
  planId := change.planId
  status := status
  startedAt := startedAt
  nextBillingAt := now + creditPeriod
  createdAt := now

/-- A move to a free plan applies at once and writes off what is outstanding. -/
def moveToFreePlan (now : Instant) (tables : Tables) (change : PlanChange) :
    ChangePlanOut × Tables :=
  let voided := voidOpenInvoices now tables change.accountId .downgraded
  let lifted := liftBillingHold voided change.accountId
  let canceled := match change.old with
    | none => lifted
    | some (oldId, _, _) =>
        { lifted with
          subscriptions := lifted.subscriptions.update oldId (PlanSubscription.cancel now) }
  let subscriptionId := canceled.subscriptions.next
  let opened := { canceled with
    subscriptions := canceled.subscriptions.insert
      (change.subscription now .active (some now)) }
  let capped := applyStoreCap now opened change.accountId change.plan.maxStores
  ({ subscriptionId, paymentRequired := false, invoiceId := none },
    recordAudit capped (some change.accountId) change.accountId
      (.planChanged change.oldCode change.plan.code))

/-- The refusal of a purchase while an invoice is unpaid. -/
def openInvoiceUnpaid (invoiceId : ℕ) (invoice : PlanInvoice) : Failure :=
  .http 409 ("open_invoice_unpaid: invoice " ++ invoiceId.repr ++ " for " ++
    invoice.periodMonth ++ " is still unpaid")

/-- An unpaid invoice blocks a purchase. A frozen account resolves it by this
purchase instead: the invoices are voided and the coverage retired. -/
def clearOutstanding (now : Instant) (tables : Tables) (change : PlanChange) :
    Except Failure Tables :=
  match findOpenInvoice tables change.accountId with
  | none => .ok tables
  | some (invoiceId, invoice) =>
      if change.account.status ≠ .restricted then .error (openInvoiceUnpaid invoiceId invoice)
      else
        let voided := voidOpenInvoices now tables change.accountId .downgraded
        .ok (retireLiveSubscriptions now voided change.accountId)

/-- A move to a paid plan parks the subscription and raises its first invoice. -/
def purchasePlan (now : Instant) (tables : Tables) (change : PlanChange) :
    Except Failure (ChangePlanOut × Tables) := do
  let cleared ← clearOutstanding now tables change
  let subscriptionId := cleared.subscriptions.next
  let pending := change.subscription now .pending none
  let parked := { cleared with subscriptions := cleared.subscriptions.insert pending }
  let (issued, raised) := issueInvoice now parked subscriptionId pending change.plan now
    (now + creditPeriod) now
  match issued with
  | .nothingToBill => throw (.http 500 "invoice_not_raised")
  | .existing invoiceId | .created invoiceId =>
      let label := ((raised.invoices.get? invoiceId).map (·.periodMonth)).getD ""
      return ({ subscriptionId, paymentRequired := true, invoiceId := some invoiceId },
        recordAudit raised (some change.accountId) change.accountId
          (.planChangeRequested change.oldCode change.plan.code invoiceId label))

/-- The request after its first reads. -/
def applyPlanChange (now : Instant) (tables : Tables) (change : PlanChange) :
    Except Failure (ChangePlanOut × Tables) :=
  if change.plan.monthlyFeeCents ≤ 0 then .ok (moveToFreePlan now tables change)
  else purchasePlan now tables change

/-- Move an account to a plan, collecting for it first. -/
def changePlan (now : Instant) (tables : Tables) (accountId : ℕ) (planCode : String) :
    Except Failure (ChangePlanOut × Tables) := do
  let change ← readPlanChange tables accountId planCode
  applyPlanChange now tables change

/-! ## The platform's own store -/

/-- The white space `int` passes over: that of `str.strip` without the four separators. -/
def isIntSpace (char : Char) : Bool :=
  isPythonSpace char && !(decide (28 ≤ char.toNat) && decide (char.toNat ≤ 31))

def intStrip (text : List Char) : List Char :=
  ((text.dropWhile isIntSpace).reverse.dropWhile isIntSpace).reverse

/-- `sys.int_info.default_max_str_digits`. -/
def maxStrDigits : ℕ := 4300

/-- `int` of a text: an optional sign and decimal digits of any script, single underscores
allowed between them. -/
def pythonInt (text : List Char) : Option Int :=
  let (negative, digits) := match intStrip text with
    | '-' :: rest => (true, rest)
    | '+' :: rest => (false, rest)
    | rest => (false, rest)
  let groups := digits.splitOn '_'
  if groups.all fun group => !group.isEmpty && group.all Digits.isDecimal then
    if maxStrDigits < groups.flatten.length then none
    else (Digits.reading groups.flatten).map fun magnitude =>
      if negative then -(magnitude : Int) else magnitude
  else none

def hqStoreName : String := "ChmabaPay HQ"

/-- The store the settings pin, by key or by public id. -/
def pinnedHqStore (settings : Settings) (tables : Tables) :
    Except Failure (Option (ℕ × Store)) :=
  let text := pythonStrip settings.chmabapayHqStoreId.toList
  if text = [] then .ok none
  else oneOrNone (tables.stores.select fun key store =>
    decide (pythonInt text = some (key : Int)) || decide (store.publicId = String.ofList text))

/-- The store plan fees are collected into: pinned by the settings, or named
under a platform admin, or the first admin's first active store. -/
def resolveHqStore (settings : Settings) (tables : Tables) :
    Except Failure (Option (ℕ × Store)) := do
  let pinned ← pinnedHqStore settings tables
  let isAdmin (accountId : ℕ) : Bool :=
    (tables.accounts.get? accountId).any fun account => account.isPlatformAdmin
  let named := tables.stores.find? fun _ store =>
    decide (store.name = hqStoreName) && isAdmin store.accountId
  let fallback := (tables.accounts.find? fun _ account => account.isPlatformAdmin).bind
    fun admin => tables.stores.find? fun _ store =>
      decide (store.accountId = admin.1) && decide (store.status = .active)
  return pinned <|> named <|> fallback

def getHqStore (settings : Settings) (tables : Tables) : Except Failure (ℕ × Store) := do
  match ← resolveHqStore settings tables with
  | some store => return store
  | none => throw (.http 503 ("billing_not_open: plan payments are not switched on yet, so " ++
      "this invoice cannot be paid. Contact support and we will settle it with you."))

/-! ## The code of an invoice -/

/-- The reference printed on every code of an invoice. -/
def invoiceReference (invoiceId : ℕ) (invoice : PlanInvoice) : String :=
  "INV-" ++ invoiceId.repr ++ "-" ++ invoice.periodMonth

def invoiceMetadata (invoiceId : ℕ) : JsonObject :=
  [("source", .text "billing_invoice"), ("invoice_id", .number invoiceId)]

/-- The payable code of an invoice: the stored one while it is live, a re-issue
of it when it is dead, and otherwise a fresh one under the invoice's own
idempotency key. -/
def invoicePayment (settings : Settings) (rail : Rail) (now : Instant) (tables : Tables)
    (invoiceId : ℕ) (invoice : PlanInvoice) (storeId : ℕ) (store : Store)
    (publicId : String) : Except Failure (ℕ × Tables) :=
  match invoice.chmabapayPaymentId.bind fun key =>
      (tables.payments.get? key).map fun row => (key, row) with
  | some (storedId, stored) =>
      if stored.status = .expired ∨ stored.status = .failed then
        reissuePayment settings rail now tables storedId stored publicId
      else .ok (storedId, tables)
  | none =>
      createPayment settings rail now tables storeId store
        { amountCents := invoice.totalDueCents
          referenceId := some (invoiceReference invoiceId invoice)
          metadata := some (invoiceMetadata invoiceId)
          idempotencyKey := some (invoiceReference invoiceId invoice) }
        publicId

/-- What handing out a code does to the invoice. The legacy statuses are read
as unpaid and become `open`. -/
def PlanInvoice.collect (paymentId : ℕ) (invoice : PlanInvoice) : PlanInvoice :=
  { invoice with
    chmabapayPaymentId := some paymentId
    status := if invoice.status = .draft ∨ invoice.status = .issued then .opened
      else invoice.status }

/-- Hand out the code of one of the account's invoices. Only a paid invoice is
refused; a void one is still payable. -/
def getInvoiceKhqr (settings : Settings) (rail : Rail) (now : Instant) (tables : Tables)
    (accountId invoiceId : ℕ) (publicId : String) : Except Failure (ℕ × Tables) := do
  let _ ← sessionAccount tables accountId
  match (tables.invoices.get? invoiceId).filter fun invoice =>
      decide (invoice.accountId = accountId) with
  | none => throw (.http 404 "invoice_not_found")
  | some invoice =>
      if invoice.status = .paid then throw (.http 400 "invoice_already_paid")
      let (storeId, store) ← getHqStore settings tables
      let (paymentId, minted) ← invoicePayment settings rail now tables invoiceId invoice
        storeId store publicId
      return (paymentId,
        { minted with
          invoices := minted.invoices.update invoiceId (PlanInvoice.collect paymentId) })

end ChmabaPay
