import ChmabaPay.Billing.Invariants
import ChmabaPay.Payments.Transitions
import ChmabaPay.Routers.Admin

/-! # The billing services as moves of the book

Each service function that touches subscriptions or invoices is shown to make
one move of the book, or none.
-/

namespace ChmabaPay

open Calendar Relational Fallible

/-! ## What leaves the book alone -/

section Frame

variable (now : Instant) (tables : Tables)

@[simp] theorem enqueueEvent_book (paymentId : ℕ) (payment : Payment) (store : Store)
    (type : EventType) :
    (enqueueEvent now tables paymentId payment store type).book = tables.book := rfl

@[simp] theorem recordAudit_book (actor : Option ℕ) (targetId : ℕ) (action : AuditAction) :
    (recordAudit tables actor targetId action).book = tables.book := rfl

@[simp] theorem liftBillingHold_book (accountId : ℕ) :
    (liftBillingHold tables accountId).book = tables.book := rfl

@[simp] theorem applyStoreCap_book (accountId : ℕ) (maxStores : Option ℕ) :
    (applyStoreCap now tables accountId maxStores).book = tables.book := by
  obtain ⟨keep, moment, heq⟩ := applyStoreCap_eq now tables accountId maxStores
  rw [heq]
  rfl

@[simp] theorem welcomeBack_book (accountId planId : ℕ) :
    (welcomeBack now tables accountId planId).book = tables.book := by
  unfold welcomeBack
  split
  · rfl
  · dsimp only
    split
    · rfl
    · simp

@[simp] theorem recordPlanLedgerEntry_book (accountId : ℕ) (payment : Payment)
    (reversal : Bool) :
    (recordPlanLedgerEntry now tables accountId payment reversal).book = tables.book := by
  unfold recordPlanLedgerEntry
  dsimp only
  split <;> rfl

theorem recordPlanLedgerEntry_payments (accountId : ℕ) (payment : Payment) (reversal : Bool) :
    (recordPlanLedgerEntry now tables accountId payment reversal).payments =
      tables.payments := by
  unfold recordPlanLedgerEntry
  dsimp only
  split <;> rfl

theorem retireSuccessors_book (paymentId : ℕ) (store : Store) :
    (retireSuccessors now tables paymentId store).book = tables.book := by
  unfold retireSuccessors
  generalize retirableSuccessors tables paymentId = successors
  induction successors generalizing tables with
  | nil => rfl
  | cons successor rest ih =>
      rw [List.foldl_cons, ih]
      rfl

end Frame

/-! ## Edits -/

section Edits

variable (now : Instant) (tables : Tables)

theorem voidOpenInvoices_book (accountId : ℕ) (reason : VoidReason) :
    (voidOpenInvoices now tables accountId reason).book =
      tables.book.withdrawWhere now
        (fun _ invoice => decide (invoice.accountId = accountId) && invoice.isUnpaid)
        reason := by
  ext1 <;> funext key
  · rfl
  · exact Table.get?_updateWhere _ _ _ _

theorem retireLiveSubscriptions_book (accountId : ℕ) :
    (retireLiveSubscriptions now tables accountId).book =
      tables.book.retireWhere now
        (fun _ row => decide (row.accountId = accountId) && row.isLive) := by
  ext1 <;> funext key
  · exact Table.get?_updateWhere _ _ _ _
  · rfl

/-- Activation and extension together put the window in force. -/
theorem extendCoverage_activateSubscription_book {invoice : PlanInvoice} {key : ℕ}
    {start : Instant} (hcovers : invoice.Covers key start) {row : PlanSubscription}
    (hrow : tables.subscriptions.get? key = some row) :
    (extendCoverage (activateSubscription now tables key) invoice).book =
      tables.book.cover now key row (start + creditPeriod) := by
  unfold extendCoverage activateSubscription
  simp only [hcovers.periodEnd, hcovers.subscription, hrow]
  by_cases hpending : row.status = .pending
  · simp only [hpending, ne_eq, not_true_eq_false, if_false]
    ext1 <;> funext current
    · simp only [Tables.book_subscriptions, Table.get?_update, Table.get?_updateWhere,
        Book.cover_subscriptions]
      by_cases heq : current = key
      · subst heq
        simp [hrow, Book.activated, hpending]
      · simp [heq, hpending]
    · rfl
  · simp only [hpending, ne_eq, not_false_eq_true, if_true]
    ext1 <;> funext current
    · simp only [Tables.book_subscriptions, Table.get?_update, Book.cover_subscriptions]
      by_cases heq : current = key
      · subst heq
        simp [hrow, Book.activated, hpending]
      · simp [heq, hpending]
    · rfl

theorem updateInvoice_book {invoiceId : ℕ} {invoice : PlanInvoice}
    (hinvoice : tables.invoices.get? invoiceId = some invoice)
    (change : PlanInvoice → PlanInvoice) :
    Tables.book { tables with invoices := tables.invoices.update invoiceId change } =
      tables.book.putInvoice invoiceId (change invoice) := by
  ext1 <;> funext current
  · rfl
  · simp only [Tables.book_invoices, Table.get?_update, Book.putInvoice_invoices]
    by_cases heq : current = invoiceId
    · subst heq
      simp [hinvoice]
    · simp [heq]

section Grant

variable {invoiceId : ℕ} {invoice : PlanInvoice}
  (hinvoice : tables.invoices.get? invoiceId = some invoice)
  {key : ℕ} {start : Instant} (hcovers : invoice.Covers key start)
  {row : PlanSubscription} (hrow : tables.subscriptions.get? key = some row)

include hinvoice hcovers hrow

/-- Rewriting an invoice and putting its window in force. -/
theorem grantInvoice_book (change : PlanInvoice → PlanInvoice) :
    (extendCoverage (activateSubscription now
        { tables with invoices := tables.invoices.update invoiceId change } key)
      invoice).book =
      (tables.book.putInvoice invoiceId (change invoice)).cover now key row
        (start + creditPeriod) := by
  have hcover := extendCoverage_activateSubscription_book now
    { tables with invoices := tables.invoices.update invoiceId change } hcovers hrow
  rw [hcover, updateInvoice_book tables hinvoice]

theorem payInvoice_book (paidAt : Instant) :
    (payInvoice now tables invoiceId invoice key paidAt).book =
      (tables.book.putInvoice invoiceId (invoice.resolve .paid (some paidAt))).cover now key row
        (start + creditPeriod) :=
  grantInvoice_book now tables hinvoice hcovers hrow (PlanInvoice.resolve .paid (some paidAt))

theorem forgiveInvoice_book (status : InvoiceStatus) :
    (forgiveInvoice now tables invoiceId invoice status).book =
      (tables.book.putInvoice invoiceId (invoice.resolve status invoice.paidAt)).cover now key
        row (start + creditPeriod) := by
  unfold forgiveInvoice
  simp only [hcovers.subscription, liftBillingHold_book]
  exact grantInvoice_book now tables hinvoice hcovers hrow fun row =>
    { row with status := status }

end Grant

theorem reinstate_book {invoiceId : ℕ} {invoice : PlanInvoice}
    (hinvoice : tables.invoices.get? invoiceId = some invoice)
    (subscription : PlanSubscription) (paymentId : Option ℕ) (paidAt : Instant)
    (source : String) :
    (reinstate now tables invoiceId invoice subscription paymentId paidAt source).book =
      (((tables.book.retireWhere now fun _ other =>
            decide (other.accountId = invoice.accountId) && other.isLive).putSubscription
          tables.subscriptions.next
          (reinstatedSubscription now invoice.accountId subscription.planId paidAt)).putInvoice
        tables.invoices.next
        (grantedInvoice now tables.subscriptions.next invoice paymentId paidAt)).putInvoice
      invoiceId (invoice.lapse now paymentId) := by
  have hne : invoiceId ≠ tables.invoices.next := fun heq => by simp [heq] at hinvoice
  ext1 <;> funext current
  · simp only [reinstate, retireLiveSubscriptions, recordAudit, Tables.book_subscriptions,
      Table.get?_insert, Table.get?_updateWhere, Table.next_updateWhere,
      Book.putInvoice_subscriptions, Book.putSubscription_subscriptions,
      Book.retireWhere_subscriptions]
  · simp only [reinstate, retireLiveSubscriptions, recordAudit, Tables.book_invoices,
      Table.get?_update, Table.get?_insert, Table.next_updateWhere, Book.putInvoice_invoices,
      Book.putSubscription_invoices, Book.retireWhere_invoices]
    by_cases heq : current = invoiceId
    · subst heq
      simp [hinvoice, hne]
    · simp [heq]

end Edits

/-! ## Settling as one move -/

/-- In committed tables no second claim stands on the window of a live invoice. -/
theorem Constraints.alone {tables : Tables} (hvalid : Constraints tables) {key : ℕ}
    {invoice : PlanInvoice} (hinvoice : tables.invoices.get? key = some invoice)
    (hlive : invoice.status ≠ .void) {billed : ℕ} {start : Instant}
    (hcovers : invoice.Covers billed start) : tables.book.Alone key invoice := by
  intro other row hrow hne hsubscription hstart
  by_contra hvoid
  refine hne (hvalid.livePeriod_unique hrow hinvoice ⟨hvoid, hlive, ?_, hsubscription, ?_, hstart⟩)
  · rw [hsubscription, hcovers.subscription]
    exact Option.some_ne_none _
  · rw [hstart, hcovers.periodStart]
    exact Option.some_ne_none _

theorem isLapsed_iff (settings : Settings) {invoice : PlanInvoice} {key : ℕ} {start : Instant}
    (hcovers : invoice.Covers key start) (paidAt : Instant) :
    isLapsed settings invoice paidAt = true ↔ start + gracePeriod settings < paidAt := by
  simp [isLapsed, hcovers.dueAt]

section Settle

variable {settings : Settings} {tables : Tables} {invoiceId : ℕ} {invoice : PlanInvoice}
  (hinvoice : tables.invoices.get? invoiceId = some invoice)
  (hunpaid : invoice.status ≠ .paid) {key : ℕ} {start : Instant}
  (hcovers : invoice.Covers key start) {row : PlanSubscription}
  (hrow : tables.subscriptions.get? key = some row)
  (now : Instant) (paymentId : Option ℕ) (source : String)

include hunpaid hcovers hrow

/-- Past the grace line a settlement is a reinstatement. -/
theorem settleInvoice_book_of_lapsed (hlate : start + gracePeriod settings < now) :
    (settleInvoice settings now tables invoiceId invoice paymentId now source).book =
      (reinstate now tables invoiceId invoice row paymentId now source).book := by
  have hlapsed := (isLapsed_iff settings hcovers now).mpr hlate
  simp [settleInvoice, hunpaid, hcovers.subscription, hrow, hlapsed]

/-- Within the grace line a settlement puts the billed window in force. -/
theorem settleInvoice_book_of_grace (hgrace : now ≤ start + gracePeriod settings) :
    (settleInvoice settings now tables invoiceId invoice paymentId now source).book =
      (payInvoice now tables invoiceId invoice key now).book := by
  have hlapsed : ¬ isLapsed settings invoice now = true := by
    rw [isLapsed_iff settings hcovers]
    exact not_lt.mpr hgrace
  simp [settleInvoice, hunpaid, hcovers.subscription, hrow, hlapsed]

include hinvoice

theorem settleInvoice_move {occasion : Occasion} (hnow : occasion.now = now)
    (hgrace : occasion.grace = gracePeriod settings)
    (hsettles : occasion.settles invoiceId invoice)
    (hhands : ∀ granted credited, paymentId = some credited → occasion.hands granted credited)
    (halone : now ≤ start + gracePeriod settings → tables.book.Alone invoiceId invoice) :
    Move occasion tables.book
      (settleInvoice settings now tables invoiceId invoice paymentId now source).book := by
  subst hnow
  rcases lt_or_ge (start + gracePeriod settings) occasion.now with hlate | hearly
  · rw [settleInvoice_book_of_lapsed hunpaid hcovers hrow _ _ _ hlate, reinstate_book _ _ hinvoice]
    exact .regrant tables.book invoiceId invoice start paymentId key row _ _ _ _ hinvoice hunpaid
      hcovers hrow hsettles (hgrace ▸ hlate) (by simp) rfl rfl rfl rfl (by simp) rfl
      ⟨rfl, rfl, rfl, rfl⟩ rfl rfl (hhands _)
  · rw [settleInvoice_book_of_grace hunpaid hcovers hrow _ _ _ hearly,
      payInvoice_book _ _ hinvoice hcovers hrow]
    exact .grant tables.book invoiceId invoice key row start .paid _ hinvoice hrow hcovers
      (.inl ⟨rfl, hunpaid, hsettles, hgrace ▸ hearly⟩) (halone hearly)

end Settle

/-! ## What settling leaves alone -/

/-- The tables of the sales side agree: payments, outbox and ledger. -/
structure Tables.SameSales (before after : Tables) : Prop where
  payments : after.payments = before.payments
  events : after.events = before.events
  deliveries : after.deliveries = before.deliveries
  ledger : after.ledger = before.ledger
  links : after.links = before.links
  endpoints : after.endpoints = before.endpoints

theorem Tables.SameSales.trans {first second third : Tables} (hfirst : first.SameSales second)
    (hsecond : second.SameSales third) : first.SameSales third :=
  ⟨hsecond.payments.trans hfirst.payments, hsecond.events.trans hfirst.events,
    hsecond.deliveries.trans hfirst.deliveries, hsecond.ledger.trans hfirst.ledger,
    hsecond.links.trans hfirst.links, hsecond.endpoints.trans hfirst.endpoints⟩

section Surroundings

variable (settings : Settings) (now : Instant) (tables : Tables)

theorem applyStoreCap_sameSales (accountId : ℕ) (maxStores : Option ℕ) :
    tables.SameSales (applyStoreCap now tables accountId maxStores) := by
  obtain ⟨keep, moment, heq⟩ := applyStoreCap_eq now tables accountId maxStores
  rw [heq]
  exact ⟨rfl, rfl, rfl, rfl, rfl, rfl⟩

theorem liftBillingHold_keeps (accountId : ℕ) :
    tables.Keeps (liftBillingHold tables accountId) := by
  refine ⟨rfl, fun key account haccount => ?_, fun key store hstore => ⟨_, hstore⟩⟩
  by_cases heq : key = accountId
  · exact Option.isSome_iff_exists.mp (by simp [liftBillingHold, ← heq, haccount])
  · exact ⟨account, by simp [liftBillingHold, haccount, heq]⟩

theorem Tables.Keeps.liftBillingHold {before middle : Tables} (hkeeps : before.Keeps middle)
    (accountId : ℕ) : before.Keeps (liftBillingHold middle accountId) :=
  hkeeps.trans (liftBillingHold_keeps middle accountId)

theorem welcomeBack_keeps (accountId planId : ℕ) :
    tables.Keeps (welcomeBack now tables accountId planId) ∧
      tables.SameSales (welcomeBack now tables accountId planId) := by
  have hlift := liftBillingHold_keeps tables accountId
  have hsales : tables.SameSales (liftBillingHold tables accountId) :=
    ⟨rfl, rfl, rfl, rfl, rfl, rfl⟩
  unfold welcomeBack
  split
  · exact ⟨.refl tables, rfl, rfl, rfl, rfl, rfl, rfl⟩
  · dsimp only
    split
    · exact ⟨hlift, hsales⟩
    · exact ⟨hlift.trans (applyStoreCap_keeps _ _ _ _),
        hsales.trans (applyStoreCap_sameSales _ _ _ _)⟩

theorem activateSubscription_eq (subscriptionId : ℕ) :
    ∃ subscriptions, activateSubscription now tables subscriptionId =
      { tables with subscriptions := subscriptions } := by
  unfold activateSubscription
  split
  · exact ⟨_, rfl⟩
  · split
    · exact ⟨_, rfl⟩
    · exact ⟨_, rfl⟩

theorem extendCoverage_eq (invoice : PlanInvoice) :
    ∃ subscriptions, extendCoverage tables invoice =
      { tables with subscriptions := subscriptions } := by
  unfold extendCoverage
  split
  · exact ⟨_, rfl⟩
  · exact ⟨_, rfl⟩

theorem payInvoice_eq (invoiceId : ℕ) (invoice : PlanInvoice) (subscriptionId : ℕ)
    (paidAt : Instant) :
    ∃ subscriptions invoices, payInvoice now tables invoiceId invoice subscriptionId paidAt =
      { tables with subscriptions := subscriptions, invoices := invoices } := by
  unfold payInvoice
  dsimp only
  obtain ⟨activated, hactivated⟩ := activateSubscription_eq now
    { tables with
      invoices := tables.invoices.update invoiceId fun row =>
        { row with status := .paid, paidAt := some paidAt } } subscriptionId
  rw [hactivated]
  obtain ⟨extended, hextended⟩ := extendCoverage_eq
    { tables with
      invoices := tables.invoices.update invoiceId fun row =>
        { row with status := .paid, paidAt := some paidAt }
      subscriptions := activated } invoice
  exact ⟨extended, _, hextended⟩

theorem settleInvoice_keeps (invoiceId : ℕ) (invoice : PlanInvoice) (paymentId : Option ℕ)
    (paidAt : Instant) (source : String) :
    tables.Keeps (settleInvoice settings now tables invoiceId invoice paymentId paidAt source) ∧
      tables.SameSales
        (settleInvoice settings now tables invoiceId invoice paymentId paidAt source) := by
  unfold settleInvoice
  split
  · exact ⟨.refl tables, rfl, rfl, rfl, rfl, rfl, rfl⟩
  split
  · exact ⟨.of_eq rfl rfl rfl, rfl, rfl, rfl, rfl, rfl, rfl⟩
  next subscriptionId subscription hsubscription =>
    dsimp only
    split
    · have hkeeps : tables.Keeps
          (reinstate now tables invoiceId invoice subscription paymentId paidAt source) :=
        .of_eq rfl rfl rfl
      have hsales : tables.SameSales
          (reinstate now tables invoiceId invoice subscription paymentId paidAt source) :=
        ⟨rfl, rfl, rfl, rfl, rfl, rfl⟩
      have hwelcome := welcomeBack_keeps now
        (reinstate now tables invoiceId invoice subscription paymentId paidAt source)
        invoice.accountId subscription.planId
      exact ⟨hkeeps.trans hwelcome.1, hsales.trans hwelcome.2⟩
    · obtain ⟨subscriptions, invoices, heq⟩ :=
        payInvoice_eq now tables invoiceId invoice subscriptionId paidAt
      have hkeeps : tables.Keeps
          { tables with subscriptions := subscriptions, invoices := invoices } :=
        .of_eq rfl rfl rfl
      have hsales : tables.SameSales
          { tables with subscriptions := subscriptions, invoices := invoices } :=
        ⟨rfl, rfl, rfl, rfl, rfl, rfl⟩
      rw [heq]
      have hwelcome := welcomeBack_keeps now
        { tables with subscriptions := subscriptions, invoices := invoices }
        invoice.accountId subscription.planId
      exact ⟨hkeeps.trans hwelcome.1, hsales.trans hwelcome.2⟩

end Surroundings

def PlanInvoice.pay (paidAt : Instant) (invoice : PlanInvoice) : PlanInvoice :=
  { invoice with status := .paid, paidAt := some paidAt }

theorem welcomeBack_invoices (now : Instant) (tables : Tables) (accountId planId : ℕ) :
    (welcomeBack now tables accountId planId).invoices = tables.invoices := by
  unfold welcomeBack
  split
  · rfl
  · dsimp only
    split
    · rfl
    next plan _ =>
      obtain ⟨keep, moment, hcap⟩ := applyStoreCap_eq now (liftBillingHold tables accountId)
        accountId plan.maxStores
      rw [hcap]
      rfl

/-- What settling does to the invoices: the invoice is paid in place, or lapses
beside a granted one. -/
theorem settleInvoice_invoices (settings : Settings) (now : Instant) (tables : Tables)
    (invoiceId : ℕ) (invoice : PlanInvoice) (paymentId : Option ℕ) (paidAt : Instant)
    (source : String) :
    (settleInvoice settings now tables invoiceId invoice paymentId paidAt source).invoices =
        tables.invoices ∨
      ((∀ subscriptionId row, invoice.subscriptionId = some subscriptionId →
          tables.subscriptions.get? subscriptionId = some row →
          isLapsed settings invoice paidAt = false) ∧
        (settleInvoice settings now tables invoiceId invoice paymentId paidAt source).invoices =
          tables.invoices.update invoiceId (PlanInvoice.pay paidAt)) ∨
      (settleInvoice settings now tables invoiceId invoice paymentId paidAt source).invoices =
        (tables.invoices.insert (grantedInvoice now tables.subscriptions.next invoice paymentId
          paidAt)).update invoiceId (PlanInvoice.lapse now paymentId) := by
  unfold settleInvoice
  split
  · exact .inl rfl
  split
  next hnone =>
    refine .inr (.inl ⟨fun subscriptionId row hnamed hrow => ?_, rfl⟩)
    simp [hnamed, hrow] at hnone
  next subscriptionId subscription hsome =>
    simp only [welcomeBack_invoices]
    split
    next => exact .inr (.inr rfl)
    next hlapsed =>
      refine .inr (.inl ⟨fun _ _ _ _ => by simpa using hlapsed, ?_⟩)
      unfold payInvoice
      obtain ⟨activated, hactivated⟩ := activateSubscription_eq now
        { tables with invoices := tables.invoices.update invoiceId (PlanInvoice.pay paidAt) }
        subscriptionId
      obtain ⟨extended, hextended⟩ := extendCoverage_eq
        { tables with
          invoices := tables.invoices.update invoiceId (PlanInvoice.pay paidAt)
          subscriptions := activated } invoice
      change (extendCoverage (activateSubscription now { tables with
        invoices := tables.invoices.update invoiceId (PlanInvoice.pay paidAt) } subscriptionId)
        invoice).invoices = _
      rw [hactivated, hextended]

/-! ## Settling a payment -/

section Payment

variable {settings : Settings} {now : Instant} {tables tables' : Tables} {paymentId : ℕ}
  {payment : Payment} {credit : Credit}

/-- The payments table after a settlement: one row paid, its replacements
retired. -/
def settledPayments (payments : Table Payment) (paymentId : ℕ) (paid : Payment) :
    Table Payment :=
  (payments.update paymentId fun _ => paid).updateWhere
    (fun _ other => decide (other.reissuedFromId = some paymentId) && other.status.isRetirable)
    Payment.supersede

/-- The tables a settlement has reached when it turns to the invoice: the payment
is assigned and the ledger written. -/
def recordSettlement (now : Instant) (tables : Tables) (paymentId : ℕ) (paid : Payment)
    (store : Store) : Tables :=
  let assigned := { tables with payments := tables.payments.update paymentId fun _ => paid }
  if store.isInternal then assigned
  else recordPlanLedgerEntry now assigned store.accountId paid false

theorem recordSettlement_eq (now : Instant) (tables : Tables) (paymentId : ℕ)
    (paid : Payment) (store : Store) :
    ∃ ledger, recordSettlement now tables paymentId paid store =
      { tables with
        payments := tables.payments.update paymentId fun _ => paid
        ledger := ledger } := by
  unfold recordSettlement recordPlanLedgerEntry
  dsimp only
  split
  · exact ⟨tables.ledger, rfl⟩
  · split
    · exact ⟨tables.ledger, rfl⟩
    · exact ⟨_, rfl⟩

/-- A settlement in three parts: the record, the invoice, the announcement. -/
theorem settlePayment_eq_ok
    (hsettle : settlePayment settings now tables paymentId payment credit = .ok tables') :
    ∃ store settled, tables.stores.get? payment.storeId = some store ∧
      settleInvoiceForPayment settings now
        (recordSettlement now tables paymentId
          (payment.settle now credit.bakongRef credit.gatewayRaw) store) paymentId now =
        .ok settled ∧
      tables' = enqueueEvent now (retireSuccessors now settled paymentId store) paymentId
        (payment.settle now credit.bakongRef credit.gatewayRaw) store .completed := by
  simp only [settlePayment] at hsettle
  split at hsettle
  · simp at hsettle
  next store hstore =>
    simp only [bind_eq_ok, pure_eq_ok] at hsettle
    obtain ⟨settled, hinvoice, rfl⟩ := hsettle
    exact ⟨store, settled, hstore, hinvoice, rfl⟩

/-- The invoice a payment settles is the only one that points at it. -/
theorem settleInvoiceForPayment_eq_ok {settled : Tables} {paidAt : Instant}
    (hsettle : settleInvoiceForPayment settings now tables paymentId paidAt = .ok settled) :
    ((∀ key invoice, tables.invoices.get? key = some invoice →
        invoice.chmabapayPaymentId ≠ some paymentId) ∧ settled = tables) ∨
      ∃ invoiceId invoice, tables.invoices.get? invoiceId = some invoice ∧
        invoice.chmabapayPaymentId = some paymentId ∧
        (∀ key other, tables.invoices.get? key = some other →
          other.chmabapayPaymentId = some paymentId → key = invoiceId) ∧
        settled = settleInvoice settings now tables invoiceId invoice (some paymentId) paidAt
          "khqr" := by
  simp only [settleInvoiceForPayment, bind_eq_ok] at hsettle
  obtain ⟨found, hfound, hsettle⟩ := hsettle
  rcases found with _ | ⟨invoiceId, invoice⟩
  · have hrows := oneOrNone_eq_none hfound
    refine .inl ⟨fun key invoice hinvoice hpointer => ?_, (pure_eq_ok.mp hsettle).symm⟩
    have hmem : (key, invoice) ∈ tables.invoices.select fun _ row =>
        decide (row.chmabapayPaymentId = some paymentId) :=
      Table.mem_select.mpr ⟨hinvoice, decide_eq_true hpointer⟩
    rw [hrows] at hmem
    cases hmem
  · have hrows := oneOrNone_eq_some hfound
    have hiff : ∀ key other, (tables.invoices.get? key = some other ∧
        other.chmabapayPaymentId = some paymentId) ↔ (key, other) = (invoiceId, invoice) := by
      intro key other
      have hmem : (key, other) ∈ [(invoiceId, invoice)] ↔ (key, other) = (invoiceId, invoice) :=
        List.mem_singleton
      rw [← hmem, ← hrows, Table.mem_select, decide_eq_true_eq]
    obtain ⟨hinvoice, hpointer⟩ := (hiff invoiceId invoice).mpr rfl
    refine .inr ⟨invoiceId, invoice, hinvoice, hpointer, fun key other hother hpointer => ?_,
      (pure_eq_ok.mp hsettle).symm⟩
    exact congrArg Prod.fst ((hiff key other).mp ⟨hother, hpointer⟩)

theorem settleInvoiceForPayment_keeps {settled : Tables} {paidAt : Instant}
    (hsettle : settleInvoiceForPayment settings now tables paymentId paidAt = .ok settled) :
    tables.Keeps settled ∧ tables.SameSales settled := by
  rcases settleInvoiceForPayment_eq_ok hsettle with ⟨-, rfl⟩ | ⟨_, _, -, -, -, rfl⟩
  · exact ⟨.refl settled, rfl, rfl, rfl, rfl, rfl, rfl⟩
  · exact settleInvoice_keeps _ _ _ _ _ _ _ _

/-- What a settlement does to the payments table and to its surroundings. -/
theorem settlePayment_payments
    (hsettle : settlePayment settings now tables paymentId payment credit = .ok tables') :
    tables'.payments = settledPayments tables.payments paymentId
        (payment.settle now credit.bakongRef credit.gatewayRaw) ∧
      tables.Keeps tables' := by
  obtain ⟨store, settled, -, hinvoice, rfl⟩ := settlePayment_eq_ok hsettle
  obtain ⟨hkeeps, hsales⟩ := settleInvoiceForPayment_keeps hinvoice
  obtain ⟨ledger, hrecord⟩ := recordSettlement_eq now tables paymentId
    (payment.settle now credit.bakongRef credit.gatewayRaw) store
  obtain ⟨events, deliveries, hretire⟩ := retireSuccessors_eq now settled paymentId store
  rw [hrecord] at hkeeps hsales
  refine ⟨?_, ?_⟩
  · rw [enqueueEvent_payments, hretire]
    simp only [hsales.payments, settledPayments]
  · have hstart : tables.Keeps
        { tables with
          payments := tables.payments.update paymentId fun _ =>
            payment.settle now credit.bakongRef credit.gatewayRaw
          ledger := ledger } := .of_eq rfl rfl rfl
    have hend : settled.Keeps (enqueueEvent now (retireSuccessors now settled paymentId store)
        paymentId (payment.settle now credit.bakongRef credit.gatewayRaw) store .completed) := by
      rw [hretire]
      exact .of_eq rfl rfl rfl
    exact hstart.trans (hkeeps.trans hend)

/-- What a settlement does to the book: nothing, or the settlement of the one
invoice that points at the payment. -/
theorem settlePayment_book
    (hsettle : settlePayment settings now tables paymentId payment credit = .ok tables') :
    ((∀ key invoice, tables.invoices.get? key = some invoice →
        invoice.chmabapayPaymentId ≠ some paymentId) ∧ tables'.book = tables.book) ∨
      ∃ recorded invoiceId invoice, recorded.book = tables.book ∧
        tables.invoices.get? invoiceId = some invoice ∧
        invoice.chmabapayPaymentId = some paymentId ∧
        (∀ key other, tables.invoices.get? key = some other →
          other.chmabapayPaymentId = some paymentId → key = invoiceId) ∧
        tables'.book = (settleInvoice settings now recorded invoiceId invoice (some paymentId) now
          "khqr").book := by
  obtain ⟨store, settled, -, hinvoice, rfl⟩ := settlePayment_eq_ok hsettle
  obtain ⟨ledger, hrecord⟩ := recordSettlement_eq now tables paymentId
    (payment.settle now credit.bakongRef credit.gatewayRaw) store
  rw [hrecord] at hinvoice
  rw [enqueueEvent_book, retireSuccessors_book]
  rcases settleInvoiceForPayment_eq_ok hinvoice with
    ⟨hnone, rfl⟩ | ⟨invoiceId, invoice, hget, hpointer, hunique, rfl⟩
  · exact .inl ⟨hnone, rfl⟩
  · refine .inr ⟨{ tables with
      payments := tables.payments.update paymentId fun _ =>
        payment.settle now credit.bakongRef credit.gatewayRaw
      ledger := ledger }, invoiceId, invoice, rfl, hget, hpointer, hunique, rfl⟩

end Payment

end ChmabaPay
