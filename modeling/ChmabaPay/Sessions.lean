import ChmabaPay.Foundation.Interleaving
import ChmabaPay.Foundation.UnitOfWork
import ChmabaPay.Operations

/-! # Transactions side by side

The operations of the platform run in sessions of their own at READ COMMITTED.
A transaction is cut where it awaits the database: every part sees the rows
committed by then under the session's own edits, and the edits are written at
the commit, by primary key, without a lock. Keys of inserted rows come from
sequences, which are drawn at once and never given back.
-/

namespace ChmabaPay

open Calendar Relational Execution

/-! ## Columns -/

instance : Columns PaymentLink := .whole _
instance : Columns WebhookEndpoint := .whole _
instance : Columns Event := .whole _
instance : Columns Plan := .whole _
instance : Columns PlanLedgerEntry := .whole _
instance : Columns AuditLog := .whole _

instance : Columns Account where
  write loaded edited current :=
    { email := assign loaded.email edited.email current.email
      name := assign loaded.name edited.name current.name
      status := assign loaded.status edited.status current.status
      isPlatformAdmin := assign loaded.isPlatformAdmin edited.isPlatformAdmin
        current.isPlatformAdmin
      whitelabelEnabled := assign loaded.whitelabelEnabled edited.whitelabelEnabled
        current.whitelabelEnabled
      termsAcceptedVersion := assign loaded.termsAcceptedVersion edited.termsAcceptedVersion
        current.termsAcceptedVersion }
  write_loaded loaded edited := by simp

instance : Columns Store where
  write loaded edited current :=
    { publicId := assign loaded.publicId edited.publicId current.publicId
      accountId := assign loaded.accountId edited.accountId current.accountId
      name := assign loaded.name edited.name current.name
      externalId := assign loaded.externalId edited.externalId current.externalId
      redirectSuccessUrl := assign loaded.redirectSuccessUrl edited.redirectSuccessUrl
        current.redirectSuccessUrl
      isInternal := assign loaded.isInternal edited.isInternal current.isInternal
      billingSuspendedAt := assign loaded.billingSuspendedAt edited.billingSuspendedAt
        current.billingSuspendedAt
      status := assign loaded.status edited.status current.status
      city := assign loaded.city edited.city current.city
      supportEmail := assign loaded.supportEmail edited.supportEmail current.supportEmail
      redirectFailureUrl := assign loaded.redirectFailureUrl edited.redirectFailureUrl
        current.redirectFailureUrl
      telegramChatId := assign loaded.telegramChatId edited.telegramChatId
        current.telegramChatId
      brandColor := assign loaded.brandColor edited.brandColor current.brandColor
      logoImageUrl := assign loaded.logoImageUrl edited.logoImageUrl current.logoImageUrl
      whitelabelCss := assign loaded.whitelabelCss edited.whitelabelCss current.whitelabelCss }
  write_loaded loaded edited := by simp

instance : Columns Payment where
  write loaded edited current :=
    { publicId := assign loaded.publicId edited.publicId current.publicId
      storeId := assign loaded.storeId edited.storeId current.storeId
      paymentLinkId := assign loaded.paymentLinkId edited.paymentLinkId current.paymentLinkId
      amountCents := assign loaded.amountCents edited.amountCents current.amountCents
      currency := assign loaded.currency edited.currency current.currency
      referenceId := assign loaded.referenceId edited.referenceId current.referenceId
      metadata := assign loaded.metadata edited.metadata current.metadata
      idempotencyKey := assign loaded.idempotencyKey edited.idempotencyKey
        current.idempotencyKey
      status := assign loaded.status edited.status current.status
      qrString := assign loaded.qrString edited.qrString current.qrString
      qrMd5 := assign loaded.qrMd5 edited.qrMd5 current.qrMd5
      billNumber := assign loaded.billNumber edited.billNumber current.billNumber
      expiresAt := assign loaded.expiresAt edited.expiresAt current.expiresAt
      scannedAt := assign loaded.scannedAt edited.scannedAt current.scannedAt
      paidAt := assign loaded.paidAt edited.paidAt current.paidAt
      approvedAt := assign loaded.approvedAt edited.approvedAt current.approvedAt
      bakongRef := assign loaded.bakongRef edited.bakongRef current.bakongRef
      detectionClosedAt := assign loaded.detectionClosedAt edited.detectionClosedAt
        current.detectionClosedAt
      reversedAt := assign loaded.reversedAt edited.reversedAt current.reversedAt
      reversalReason := assign loaded.reversalReason edited.reversalReason
        current.reversalReason
      gatewayStatusRaw := assign loaded.gatewayStatusRaw edited.gatewayStatusRaw
        current.gatewayStatusRaw
      attemptHistory := assign loaded.attemptHistory edited.attemptHistory
        current.attemptHistory
      reissuedFromId := assign loaded.reissuedFromId edited.reissuedFromId
        current.reissuedFromId
      createdAt := assign loaded.createdAt edited.createdAt current.createdAt }
  write_loaded loaded edited := by simp

instance : Columns EventDelivery where
  write loaded edited current :=
    { eventId := assign loaded.eventId edited.eventId current.eventId
      endpointId := assign loaded.endpointId edited.endpointId current.endpointId
      status := assign loaded.status edited.status current.status
      attempts := assign loaded.attempts edited.attempts current.attempts
      nextAttemptAt := assign loaded.nextAttemptAt edited.nextAttemptAt current.nextAttemptAt
      lastResponseStatus := assign loaded.lastResponseStatus edited.lastResponseStatus
        current.lastResponseStatus
      lastError := assign loaded.lastError edited.lastError current.lastError }
  write_loaded loaded edited := by simp

instance : Columns PlanSubscription where
  write loaded edited current :=
    { accountId := assign loaded.accountId edited.accountId current.accountId
      planId := assign loaded.planId edited.planId current.planId
      status := assign loaded.status edited.status current.status
      startedAt := assign loaded.startedAt edited.startedAt current.startedAt
      canceledAt := assign loaded.canceledAt edited.canceledAt current.canceledAt
      nextBillingAt := assign loaded.nextBillingAt edited.nextBillingAt current.nextBillingAt
      createdAt := assign loaded.createdAt edited.createdAt current.createdAt }
  write_loaded loaded edited := by simp

instance : Columns PlanInvoice where
  write loaded edited current :=
    { accountId := assign loaded.accountId edited.accountId current.accountId
      subscriptionId := assign loaded.subscriptionId edited.subscriptionId
        current.subscriptionId
      periodMonth := assign loaded.periodMonth edited.periodMonth current.periodMonth
      periodStart := assign loaded.periodStart edited.periodStart current.periodStart
      periodEnd := assign loaded.periodEnd edited.periodEnd current.periodEnd
      dueAt := assign loaded.dueAt edited.dueAt current.dueAt
      status := assign loaded.status edited.status current.status
      baseFeeCents := assign loaded.baseFeeCents edited.baseFeeCents current.baseFeeCents
      usagePaymentsCount := assign loaded.usagePaymentsCount edited.usagePaymentsCount
        current.usagePaymentsCount
      overagePaymentsCount := assign loaded.overagePaymentsCount edited.overagePaymentsCount
        current.overagePaymentsCount
      overageFeeCents := assign loaded.overageFeeCents edited.overageFeeCents
        current.overageFeeCents
      totalDueCents := assign loaded.totalDueCents edited.totalDueCents current.totalDueCents
      paidAt := assign loaded.paidAt edited.paidAt current.paidAt
      voidedAt := assign loaded.voidedAt edited.voidedAt current.voidedAt
      voidReason := assign loaded.voidReason edited.voidReason current.voidReason
      chmabapayPaymentId := assign loaded.chmabapayPaymentId edited.chmabapayPaymentId
        current.chmabapayPaymentId
      createdAt := assign loaded.createdAt edited.createdAt current.createdAt }
  write_loaded loaded edited := by simp

/-! ## Tables of a session -/

namespace Tables

def empty : Tables where
  accounts := .empty
  stores := .empty
  links := .empty
  payments := .empty
  endpoints := .empty
  events := .empty
  deliveries := .empty
  plans := .empty
  subscriptions := .empty
  invoices := .empty
  ledger := .empty
  audit := .empty

/-- The rows a session remembers having loaded, after it read again. -/
def reload (loaded edited current : Tables) : Tables where
  accounts := .reload loaded.accounts edited.accounts current.accounts
  stores := .reload loaded.stores edited.stores current.stores
  links := .reload loaded.links edited.links current.links
  payments := .reload loaded.payments edited.payments current.payments
  endpoints := .reload loaded.endpoints edited.endpoints current.endpoints
  events := .reload loaded.events edited.events current.events
  deliveries := .reload loaded.deliveries edited.deliveries current.deliveries
  plans := .reload loaded.plans edited.plans current.plans
  subscriptions := .reload loaded.subscriptions edited.subscriptions current.subscriptions
  invoices := .reload loaded.invoices edited.invoices current.invoices
  ledger := .reload loaded.ledger edited.ledger current.ledger
  audit := .reload loaded.audit edited.audit current.audit

/-- The rows a statement of a session sees. -/
def view (loaded edited current : Tables) : Tables where
  accounts := .view loaded.accounts edited.accounts current.accounts
  stores := .view loaded.stores edited.stores current.stores
  links := .view loaded.links edited.links current.links
  payments := .view loaded.payments edited.payments current.payments
  endpoints := .view loaded.endpoints edited.endpoints current.endpoints
  events := .view loaded.events edited.events current.events
  deliveries := .view loaded.deliveries edited.deliveries current.deliveries
  plans := .view loaded.plans edited.plans current.plans
  subscriptions := .view loaded.subscriptions edited.subscriptions current.subscriptions
  invoices := .view loaded.invoices edited.invoices current.invoices
  ledger := .view loaded.ledger edited.ledger current.ledger
  audit := .view loaded.audit edited.audit current.audit

/-- The rows a commit leaves. The ledger insert does nothing on a conflict. -/
def write (loaded edited current : Tables) : Tables where
  accounts := .write loaded.accounts edited.accounts current.accounts
  stores := .write loaded.stores edited.stores current.stores
  links := .write loaded.links edited.links current.links
  payments := .write loaded.payments edited.payments current.payments
  endpoints := .write loaded.endpoints edited.endpoints current.endpoints
  events := .write loaded.events edited.events current.events
  deliveries := .write loaded.deliveries edited.deliveries current.deliveries
  plans := .write loaded.plans edited.plans current.plans
  subscriptions := .write loaded.subscriptions edited.subscriptions current.subscriptions
  invoices := .write loaded.invoices edited.invoices current.invoices
  ledger := .writeAround sameResource loaded.ledger edited.ledger current.ledger
  audit := .write loaded.audit edited.audit current.audit

/-- The sequences after a session drew its keys. -/
def draw (current edited : Tables) : Tables where
  accounts := current.accounts.drawTo edited.accounts.next
  stores := current.stores.drawTo edited.stores.next
  links := current.links.drawTo edited.links.next
  payments := current.payments.drawTo edited.payments.next
  endpoints := current.endpoints.drawTo edited.endpoints.next
  events := current.events.drawTo edited.events.next
  deliveries := current.deliveries.drawTo edited.deliveries.next
  plans := current.plans.drawTo edited.plans.next
  subscriptions := current.subscriptions.drawTo edited.subscriptions.next
  invoices := current.invoices.drawTo edited.invoices.next
  ledger := current.ledger.drawTo edited.ledger.next
  audit := current.audit.drawTo edited.audit.next

end Tables

/-- Drawing keys writes no row, so it breaks no index. -/
def Database.draw (db : Database) (edited : Tables) : Database where
  tables := db.tables.draw edited
  valid := ⟨db.valid.livePeriod, db.valid.idempotencyKey, db.valid.publicId,
    db.valid.ledgerResource, db.valid.planCode⟩

/-! ## Transactions in parts -/

/-- A transaction someone asks for. -/
inductive Request where
  | markPaid (publicId : String) (credit : Credit)
  | reversePayment (paymentId : ℕ) (reason : Option String)
  | expireDuePayments
  | changePlan (accountId : ℕ) (planCode : String)

/-- What a session does next. The data are the rows it holds on to between two
parts. -/
inductive Task where
  | markPaid (publicId : String) (credit : Credit)
  | recordCredit (paymentId : ℕ) (paid : Payment)
  | settleInvoice (paymentId : ℕ) (paid : Payment) (store : Store)
  | retireSuccessors (paymentId : ℕ) (paid : Payment) (store : Store)
  | complete (paymentId : ℕ) (paid : Payment) (store : Store)
  | reversePayment (paymentId : ℕ) (reason : Option String)
  | recordReversal (paymentId : ℕ) (reversed : Payment)
  | expireDuePayments
  | changePlan (accountId : ℕ) (planCode : String)
  | applyPlanChange (change : PlanChange)
  | commitPlanChange (change : PlanChange)
  | commit

def Request.task : Request → Task
  | .markPaid publicId credit => .markPaid publicId credit
  | .reversePayment paymentId reason => .reversePayment paymentId reason
  | .expireDuePayments => .expireDuePayments
  | .changePlan accountId planCode => .changePlan accountId planCode

/-- Nothing is left to do but the commit. -/
def Task.isCommit : Task → Bool
  | .commit | .commitPlanChange _ => true
  | _ => false

/-- The row under a public id is read and, unless it is terminal, assigned. -/
def assignPaid (now : Instant) (view : Tables) (publicId : String) (credit : Credit) :
    Tables × Option Task :=
  match findByPublicId view publicId with
  | none => (view, none)
  | some (paymentId, payment) =>
      if payment.status.isTerminal then (view, none)
      else
        let paid := payment.settle now credit.bakongRef credit.gatewayRaw
        ({ view with payments := view.payments.update paymentId fun _ => paid },
          some (.recordCredit paymentId paid))

/-- The row is read and, when it is paid, assigned. -/
def assignReversed (now : Instant) (view : Tables) (paymentId : ℕ) (reason : Option String) :
    Except Failure (Tables × Option Task) := do
  let payment ← requirePayment view paymentId
  if payment.status = .reversed then throw (.http 409 "payment_already_reversed")
  if payment.status ≠ .paid then throw (.http 409 "payment_not_paid")
  let reversed := payment.reverse now reason
  return ({ view with payments := view.payments.update paymentId fun _ => reversed },
    some (.recordReversal paymentId reversed))

/-- One part of a transaction on what it sees, and the part after it; none when
the call returns without a commit. -/
def Task.execute (settings : Settings) (now : Instant) (view : Tables) :
    Task → Except Failure (Tables × Option Task)
  | .markPaid publicId credit => .ok (assignPaid now view publicId credit)
  | .recordCredit paymentId paid =>
      match view.stores.get? paid.storeId with
      | none => .error .missingRow
      | some store =>
          .ok (if store.isInternal then view
            else recordPlanLedgerEntry now view store.accountId paid false,
            some (.settleInvoice paymentId paid store))
  | .settleInvoice paymentId paid store => do
      let settled ← settleInvoiceForPayment settings now view paymentId (paid.paidAt.getD now)
      return (settled, some (.retireSuccessors paymentId paid store))
  | .retireSuccessors paymentId paid store =>
      .ok (ChmabaPay.retireSuccessors now view paymentId store,
        some (.complete paymentId paid store))
  | .complete paymentId paid store =>
      .ok (enqueueEvent now view paymentId paid store .completed, some .commit)
  | .reversePayment paymentId reason => assignReversed now view paymentId reason
  | .recordReversal paymentId reversed =>
      match view.stores.get? reversed.storeId with
      | none => .error .missingRow
      | some store =>
          let recorded := recordPlanLedgerEntry now view store.accountId reversed true
          .ok (enqueueEvent now recorded paymentId reversed store .reversed, some .commit)
  | .expireDuePayments => do
      let (count, expired) ← ChmabaPay.expireDuePayments now view
      return (expired, if count = 0 then none else some .commit)
  | .changePlan accountId planCode => do
      let change ← readPlanChange view accountId planCode
      return (view, some (.applyPlanChange change))
  | .applyPlanChange change => do
      let (_, changed) ← ChmabaPay.applyPlanChange now view change
      return (changed, some (.commitPlanChange change))
  | .commitPlanChange _ | .commit => .ok (view, none)

/-- A session: the rows it loaded, the rows as it holds them, and its next part.
It is closed when there is none. -/
structure Session where
  loaded : Tables
  edited : Tables
  task : Option Task

def Session.close (session : Session) : Session := { session with task := none }

/-- The tables the session's commit would leave. -/
def Session.written (session : Session) (current : Tables) : Tables :=
  Tables.write session.loaded session.edited current

/-- The session's next part against what is committed now. A failure ends the
session and rolls it back. -/
def Session.advance (settings : Settings) (db : Database) (now : Instant)
    (session : Session) : Database × Session :=
  match session.task with
  | none => (db, session)
  | some task =>
      if task.isCommit then
        match (session.written db.tables).commit with
        | .error _ => (db, session.close)
        | .ok committed => (committed, session.close)
      else
        let view := Tables.view session.loaded session.edited db.tables
        match task.execute settings now view with
        | .error _ => (db, session.close)
        | .ok (edited, following) =>
            (db.draw edited,
              { loaded := Tables.reload session.loaded session.edited db.tables
                edited := edited
                task := following })

/-- The platform's sessions on one database. Every step reads the clock. -/
def server (settings : Settings) : Interleaving.Machine Database Session Request Instant where
  start request := { loaded := .empty, edited := .empty, task := some request.task }
  advance := Session.advance settings

abbrev Server := Interleaving.Pool Database Session

end ChmabaPay
