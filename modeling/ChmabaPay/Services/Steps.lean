import ChmabaPay.Foundation.Walk
import ChmabaPay.Services.Payments

/-! # Settlement and expiry step by step

An exception can leave `mark_paid` or the expiry of due payments between any two of
their steps, with the session holding what was done so far. The walks here pass
through the same tables as the functions they end like.
-/

namespace ChmabaPay

open Calendar Relational

/-! ## One event -/

def outboxEvent (now : Instant) (paymentId : ℕ) (payment : Payment) (store : Store)
    (type : EventType) : Event where
  accountId := store.accountId
  storeId := payment.storeId
  paymentId := paymentId
  type := type
  payload := buildEventPayload now type payment store

/-- The endpoints an event goes to. -/
def wantedEndpoints (tables : Tables) (accountId : ℕ) (type : EventType) :
    List (ℕ × WebhookEndpoint) :=
  (targetEndpoints tables accountId).filter fun endpoint => endpointWants endpoint.2 type

def addEvent (event : Event) (tables : Tables) : Tables :=
  { tables with events := tables.events.insert event }

def addDelivery (eventId : ℕ) (endpoint : ℕ × WebhookEndpoint) (tables : Tables) : Tables :=
  { tables with deliveries := scheduleDelivery eventId tables.deliveries endpoint }

/-- The deliveries that follow an event, one after the other. -/
def deliveryWalk (eventId : ℕ) (endpoints : List (ℕ × WebhookEndpoint)) : Tables → Walk Tables :=
  Walk.each (fun endpoint => Walk.step (addDelivery eventId endpoint)) endpoints

/-- `enqueue_event`. -/
def eventWalk (now : Instant) (paymentId : ℕ) (payment : Payment) (store : Store)
    (type : EventType) (tables : Tables) : Walk Tables :=
  Walk.andThen (Walk.step (addEvent (outboxEvent now paymentId payment store type)))
    (deliveryWalk tables.events.next (wantedEndpoints tables store.accountId type)) tables

theorem foldl_addDelivery (eventId : ℕ) (endpoints : List (ℕ × WebhookEndpoint))
    (tables : Tables) :
    endpoints.foldl (fun tables endpoint => addDelivery eventId endpoint tables) tables =
      { tables with
        deliveries := endpoints.foldl (scheduleDelivery eventId) tables.deliveries } := by
  induction endpoints generalizing tables with
  | nil => rfl
  | cons endpoint rest ih => exact ih (addDelivery eventId endpoint tables)

theorem eventWalk_follows (now : Instant) (paymentId : ℕ) (payment : Payment) (store : Store)
    (type : EventType) :
    Walk.Follows (eventWalk now paymentId payment store type) fun tables =>
      (.ok (enqueueEvent now tables paymentId payment store type) : Except Failure Tables) := by
  intro tables
  have hdeliveries : Walk.Follows
      (deliveryWalk tables.events.next (wantedEndpoints tables store.accountId type)) fun tables' =>
        (.ok _ : Except Failure Tables) :=
    Walk.Follows.each_ok (fun endpoint => .step (addDelivery tables.events.next endpoint)) _
  have hevent := Walk.Follows.step (ε := Failure)
    (addEvent (outboxEvent now paymentId payment store type))
  have hboth := hevent.andThen hdeliveries tables
  simp only [bind, Except.bind, foldl_addDelivery] at hboth
  exact hboth

/-! ## An invoice is settled -/

section Invoice

variable (settings : Settings) (now : Instant)

/-- `_reinstate`. -/
def reinstateWalk (invoiceId : ℕ) (invoice : PlanInvoice) (subscription : PlanSubscription)
    (paymentId : Option ℕ) (paidAt : Instant) (source : String) (tables : Tables) :
    Walk Tables :=
  let reinstatedId := tables.subscriptions.next
  let grantedId := tables.invoices.next
  Walk.andThen (Walk.step fun tables => retireLiveSubscriptions now tables invoice.accountId)
    (Walk.andThen (Walk.step fun tables => { tables with
        subscriptions := tables.subscriptions.insert
          (reinstatedSubscription now invoice.accountId subscription.planId paidAt) })
      (Walk.andThen (Walk.step fun tables => { tables with
          invoices := tables.invoices.insert
            (grantedInvoice now reinstatedId invoice paymentId paidAt) })
        (Walk.andThen (Walk.step fun tables => { tables with
            invoices := tables.invoices.update invoiceId (PlanInvoice.lapse now paymentId) })
          (Walk.step fun tables => recordAudit tables none invoice.accountId
            (.reinstated invoiceId grantedId ((paidAt - invoice.dueAt.getD paidAt) / days 1)
              (paidAt + creditPeriod) source)))))
    tables

/-- The invoice is paid and its window put in force. -/
def payInvoiceWalk (invoiceId : ℕ) (invoice : PlanInvoice) (subscriptionId : ℕ)
    (paidAt : Instant) : Tables → Walk Tables :=
  Walk.andThen (Walk.step fun tables => { tables with
      invoices := tables.invoices.update invoiceId fun row =>
        { row with status := .paid, paidAt := some paidAt } })
    (Walk.andThen (Walk.step fun tables => activateSubscription now tables subscriptionId)
      (Walk.step fun tables => extendCoverage tables invoice))

def welcomeBackWalk (accountId planId : ℕ) (tables : Tables) : Walk Tables :=
  match tables.accounts.get? accountId with
  | none => Walk.pass tables
  | some _ =>
      Walk.andThen (Walk.step fun tables => liftBillingHold tables accountId)
        (fun tables => match tables.plans.get? planId with
          | none => Walk.pass tables
          | some plan =>
              Walk.step (fun tables => applyStoreCap now tables accountId plan.maxStores) tables)
        tables

/-- `settle_invoice`. -/
def settleInvoiceWalk (invoiceId : ℕ) (invoice : PlanInvoice) (paymentId : Option ℕ)
    (paidAt : Instant) (source : String) (tables : Tables) : Walk Tables :=
  if invoice.status = .paid then Walk.pass tables
  else match invoice.subscriptionId.bind fun key =>
      (tables.subscriptions.get? key).map fun row => (key, row) with
    | none =>
        Walk.step (fun tables => { tables with
          invoices := tables.invoices.update invoiceId fun row =>
            { row with status := .paid, paidAt := some paidAt } }) tables
    | some (subscriptionId, subscription) =>
        Walk.andThen
          (if isLapsed settings invoice paidAt then
            reinstateWalk now invoiceId invoice subscription paymentId paidAt source
          else payInvoiceWalk now invoiceId invoice subscriptionId paidAt)
          (welcomeBackWalk now invoice.accountId subscription.planId) tables

/-- `settle_invoice_for_payment`: two invoices with the payment are an exception. -/
def settleInvoiceForPaymentWalk (paymentId : ℕ) (paidAt : Instant) (tables : Tables) :
    Walk Tables :=
  match oneOrNone (tables.invoices.select fun _ invoice =>
      decide (invoice.chmabapayPaymentId = some paymentId)) with
  | .error _ => Walk.fail tables
  | .ok none => Walk.pass tables
  | .ok (some (invoiceId, invoice)) =>
      settleInvoiceWalk settings now invoiceId invoice (some paymentId) paidAt "khqr" tables

theorem reinstateWalk_follows (invoiceId : ℕ) (invoice : PlanInvoice)
    (subscription : PlanSubscription) (paymentId : Option ℕ) (paidAt : Instant) (source : String) :
    Walk.Follows (reinstateWalk now invoiceId invoice subscription paymentId paidAt source)
      fun tables => (.ok (reinstate now tables invoiceId invoice subscription paymentId paidAt
        source) : Except Failure Tables) :=
  fun _ => ⟨rfl, rfl⟩

theorem payInvoiceWalk_follows (invoiceId : ℕ) (invoice : PlanInvoice) (subscriptionId : ℕ)
    (paidAt : Instant) :
    Walk.Follows (payInvoiceWalk now invoiceId invoice subscriptionId paidAt)
      fun tables => (.ok (payInvoice now tables invoiceId invoice subscriptionId paidAt) :
        Except Failure Tables) :=
  fun _ => ⟨rfl, rfl⟩

theorem welcomeBackWalk_follows (accountId planId : ℕ) :
    Walk.Follows (welcomeBackWalk now accountId planId)
      fun tables => (.ok (welcomeBack now tables accountId planId) : Except Failure Tables) := by
  intro tables
  simp only [welcomeBackWalk, welcomeBack]
  cases tables.accounts.get? accountId with
  | none => exact ⟨rfl, rfl⟩
  | some account =>
      refine ⟨(Walk.finished_andThen rfl).trans ?_, (Walk.last_andThen rfl).trans ?_⟩ <;>
        simp only [Walk.last_step] <;>
        cases (liftBillingHold tables accountId).plans.get? planId <;> rfl

theorem settleInvoiceWalk_follows (invoiceId : ℕ) (invoice : PlanInvoice) (paymentId : Option ℕ)
    (paidAt : Instant) (source : String) :
    Walk.Follows (settleInvoiceWalk settings now invoiceId invoice paymentId paidAt source)
      fun tables => (.ok (settleInvoice settings now tables invoiceId invoice paymentId paidAt
        source) : Except Failure Tables) := by
  intro tables
  simp only [settleInvoiceWalk, settleInvoice]
  split
  · exact ⟨rfl, rfl⟩
  · cases invoice.subscriptionId.bind fun key =>
        (tables.subscriptions.get? key).map fun row => (key, row) with
    | none => exact ⟨rfl, rfl⟩
    | some found =>
        simp only
        cases isLapsed settings invoice paidAt with
        | true =>
            exact (reinstateWalk_follows now invoiceId invoice found.2 paymentId paidAt
              source).andThen (welcomeBackWalk_follows now invoice.accountId found.2.planId) tables
        | false =>
            exact (payInvoiceWalk_follows now invoiceId invoice found.1 paidAt).andThen
              (welcomeBackWalk_follows now invoice.accountId found.2.planId) tables

theorem settleInvoiceForPaymentWalk_follows (paymentId : ℕ) (paidAt : Instant) :
    Walk.Follows (settleInvoiceForPaymentWalk settings now paymentId paidAt)
      fun tables => settleInvoiceForPayment settings now tables paymentId paidAt := by
  intro tables
  simp only [settleInvoiceForPaymentWalk, settleInvoiceForPayment]
  cases oneOrNone (tables.invoices.select fun _ invoice =>
      decide (invoice.chmabapayPaymentId = some paymentId)) with
  | error failure => rfl
  | ok found =>
      cases found with
      | none => exact ⟨rfl, rfl⟩
      | some row =>
          exact settleInvoiceWalk_follows settings now row.1 row.2 (some paymentId) paidAt "khqr"
            tables

end Invoice

/-! ## A payment is settled -/

/-- A replacement code is retired. -/
def retireSuccessorWalk (now : Instant) (store : Store) (successor : ℕ × Payment) :
    Tables → Walk Tables :=
  Walk.andThen (Walk.step fun tables => { tables with
      payments := tables.payments.update successor.1 fun row =>
        { row with status := .superseded } })
    (eventWalk now successor.1 { successor.2 with status := .superseded } store .superseded)

/-- `_retire_successors`. -/
def retireSuccessorsWalk (now : Instant) (paymentId : ℕ) (store : Store) (tables : Tables) :
    Walk Tables :=
  Walk.each (retireSuccessorWalk now store) (retirableSuccessors tables paymentId) tables

/-- The ledger entry, written unless the store is the platform's own. A failure to
write it is logged and goes no further. -/
def ledgerWalk (now : Instant) (store : Store) (paid : Payment) (ledgerFails : Bool) :
    Tables → Walk Tables :=
  if store.isInternal || ledgerFails then Walk.pass
  else Walk.step fun tables => recordPlanLedgerEntry now tables store.accountId paid false

section Settlement

variable (settings : Settings) (now : Instant) (paymentId : ℕ) (payment : Payment)
  (credit : Credit) (ledgerFails : Bool)

/-- `mark_paid` from its first assignment up to the completion event. -/
def settlementWalk (store : Store) : Tables → Walk Tables :=
  let paid := payment.settle now credit.bakongRef credit.gatewayRaw
  Walk.andThen (Walk.step fun tables => { tables with
      payments := tables.payments.update paymentId fun _ => paid })
    (Walk.andThen (ledgerWalk now store paid ledgerFails)
      (Walk.andThen (settleInvoiceForPaymentWalk settings now paymentId now)
        (retireSuccessorsWalk now paymentId store)))

/-- `mark_paid` after its status check, up to its commit. -/
def settlePaymentWalk (tables : Tables) : Walk Tables :=
  match tables.stores.get? payment.storeId with
  | none =>
      Walk.andThen (Walk.step fun tables => { tables with
          payments := tables.payments.update paymentId fun _ =>
            payment.settle now credit.bakongRef credit.gatewayRaw })
        Walk.fail tables
  | some store =>
      Walk.andThen
        (settlementWalk settings now paymentId payment credit ledgerFails store)
        (eventWalk now paymentId (payment.settle now credit.bakongRef credit.gatewayRaw) store
          .completed) tables

theorem retireSuccessorsWalk_follows (store : Store) :
    Walk.Follows (retireSuccessorsWalk now paymentId store)
      fun tables =>
        (.ok (retireSuccessors now tables paymentId store) : Except Failure Tables) := by
  have hone : ∀ successor, Walk.Follows (retireSuccessorWalk now store successor) fun tables =>
      (.ok (retireSuccessor now store tables successor) : Except Failure Tables) :=
    fun successor => (Walk.Follows.step _).andThen (eventWalk_follows _ _ _ _ _)
  exact fun tables => Walk.Follows.each_ok hone _ tables

theorem ledgerWalk_follows (store : Store) (paid : Payment) :
    Walk.Follows (ledgerWalk now store paid ledgerFails) fun tables =>
      (.ok (if store.isInternal || ledgerFails then tables
        else recordPlanLedgerEntry now tables store.accountId paid false) :
          Except Failure Tables) := by
  unfold ledgerWalk
  cases store.isInternal || ledgerFails with
  | true => exact .pass
  | false => exact .step _

/-- The tables in which the invoice is looked for. -/
def recordedTables (store : Store) (tables : Tables) : Tables :=
  let paid := payment.settle now credit.bakongRef credit.gatewayRaw
  let assigned := { tables with payments := tables.payments.update paymentId fun _ => paid }
  if store.isInternal || ledgerFails then assigned
  else recordPlanLedgerEntry now assigned store.accountId paid false

theorem recordedTables_eq (store : Store) (tables : Tables) :
    ∃ ledger, recordedTables now paymentId payment credit ledgerFails store tables =
      { tables with
        payments := tables.payments.update paymentId fun _ =>
          payment.settle now credit.bakongRef credit.gatewayRaw
        ledger := ledger } := by
  unfold recordedTables recordPlanLedgerEntry
  dsimp only
  split
  · exact ⟨tables.ledger, rfl⟩
  · split
    · exact ⟨tables.ledger, rfl⟩
    · exact ⟨_, rfl⟩

theorem settlementWalk_follows (store : Store) :
    Walk.Follows (settlementWalk settings now paymentId payment credit ledgerFails store)
      fun tables => settleInvoiceForPayment settings now
        (recordedTables now paymentId payment credit ledgerFails store tables) paymentId now >>=
          fun settled => .ok (retireSuccessors now settled paymentId store) :=
  (Walk.Follows.step _).andThen ((ledgerWalk_follows now ledgerFails store _).andThen
    ((settleInvoiceForPaymentWalk_follows settings now paymentId now).andThen
      (retireSuccessorsWalk_follows now paymentId store)))

/-- The walk comes to its end exactly when `mark_paid` does, in the same tables. -/
theorem settlePaymentWalk_follows :
    Walk.Follows (settlePaymentWalk settings now paymentId payment credit false)
      fun tables => settlePayment settings now tables paymentId payment credit := by
  intro tables
  simp only [settlePaymentWalk, settlePayment]
  cases tables.stores.get? payment.storeId with
  | none => rfl
  | some store =>
      have hsettled := settlementWalk_follows settings now paymentId payment credit false store
      have hall := hsettled.andThen
        (eventWalk_follows now paymentId (payment.settle now credit.bakongRef credit.gatewayRaw)
          store .completed) tables
      simp only [recordedTables, Bool.or_false] at hall
      simp only
      generalize settleInvoiceForPayment settings now _ paymentId now = outcome at hall ⊢
      cases outcome <;> exact hall

end Settlement

/-! ## Due payments expire -/

/-- One due payment expires. A probe expires silently, and a payment without its store
is an exception. -/
def expirePaymentWalk (now : Instant) (due : ℕ × Payment) : Tables → Walk Tables :=
  Walk.andThen (Walk.step fun tables => { tables with
      payments := tables.payments.update due.1 fun row => { row with status := .expired } })
    fun tables =>
      if isSynthetic due.2.referenceId due.2.metadata then Walk.pass tables
      else match tables.stores.get? due.2.storeId with
        | none => Walk.fail tables
        | some store =>
            eventWalk now due.1 { due.2 with status := .expired } store .expired tables

/-- `expire_due_payments`, up to its commit. -/
def expireDuePaymentsWalk (now : Instant) (tables : Tables) : Walk Tables :=
  Walk.each (expirePaymentWalk now) (duePayments now tables) tables

theorem expirePaymentWalk_follows (now : Instant) (due : ℕ × Payment) :
    Walk.Follows (expirePaymentWalk now due) fun tables => expirePayment now tables due := by
  have hreport : Walk.Follows (fun tables =>
      if isSynthetic due.2.referenceId due.2.metadata then Walk.pass tables
      else match tables.stores.get? due.2.storeId with
        | none => Walk.fail tables
        | some store =>
            eventWalk now due.1 { due.2 with status := .expired } store .expired tables)
      (fun tables => if isSynthetic due.2.referenceId due.2.metadata then .ok tables
        else match tables.stores.get? due.2.storeId with
          | none => .error Failure.missingRow
          | some store =>
              .ok (enqueueEvent now tables due.1 { due.2 with status := .expired } store
                .expired)) := by
    intro tables
    cases isSynthetic due.2.referenceId due.2.metadata with
    | true => exact ⟨rfl, rfl⟩
    | false =>
        simp only [Bool.false_eq_true, if_false]
        cases tables.stores.get? due.2.storeId with
        | none => rfl
        | some store => exact eventWalk_follows _ _ _ _ _ tables
  exact (Walk.Follows.step _).andThen hreport

theorem expireDuePaymentsWalk_follows (now : Instant) :
    Walk.Follows (expireDuePaymentsWalk now) fun tables =>
      (duePayments now tables).foldlM (expirePayment now) tables :=
  fun tables => Walk.Follows.each (expirePaymentWalk_follows now) _ tables

end ChmabaPay
