import ChmabaPay.Payments.Commits
import ChmabaPay.Concurrency.Settled

/-! # How far a settlement has come

What the parts of `mark_paid` leave behind one after the other: the indexes
hold throughout, the ledger row, the paid invoice and the completion event each
appear once and at their own part.
-/

namespace ChmabaPay

open Calendar Relational Execution Fallible

/-! ## Tables with the same rows -/

/-- Two states hold the same rows in the tables a settlement is judged by. Their
sequences may differ. -/
structure Tables.Agrees (first second : Tables) : Prop where
  stores : ∀ key, second.stores.get? key = first.stores.get? key
  payments : ∀ key, second.payments.get? key = first.payments.get? key
  events : ∀ key, second.events.get? key = first.events.get? key
  plans : ∀ key, second.plans.get? key = first.plans.get? key
  subscriptions : ∀ key, second.subscriptions.get? key = first.subscriptions.get? key
  invoices : ∀ key, second.invoices.get? key = first.invoices.get? key
  ledger : ∀ key, second.ledger.get? key = first.ledger.get? key

namespace Tables.Agrees

variable {first second third : Tables}

theorem refl (tables : Tables) : tables.Agrees tables :=
  ⟨fun _ => rfl, fun _ => rfl, fun _ => rfl, fun _ => rfl, fun _ => rfl, fun _ => rfl,
    fun _ => rfl⟩

theorem trans (hfirst : first.Agrees second) (hsecond : second.Agrees third) :
    first.Agrees third where
  stores key := (hsecond.stores key).trans (hfirst.stores key)
  payments key := (hsecond.payments key).trans (hfirst.payments key)
  events key := (hsecond.events key).trans (hfirst.events key)
  plans key := (hsecond.plans key).trans (hfirst.plans key)
  subscriptions key := (hsecond.subscriptions key).trans (hfirst.subscriptions key)
  invoices key := (hsecond.invoices key).trans (hfirst.invoices key)
  ledger key := (hsecond.ledger key).trans (hfirst.ledger key)

theorem symm (hagrees : first.Agrees second) : second.Agrees first where
  stores key := (hagrees.stores key).symm
  payments key := (hagrees.payments key).symm
  events key := (hagrees.events key).symm
  plans key := (hagrees.plans key).symm
  subscriptions key := (hagrees.subscriptions key).symm
  invoices key := (hagrees.invoices key).symm
  ledger key := (hagrees.ledger key).symm

/-- The indexes read rows alone. -/
theorem constraints (hagrees : first.Agrees second) (hvalid : Constraints first) :
    Constraints second where
  livePeriod := hvalid.livePeriod.of_get? (fun _ _ => samePeriod_symm) hagrees.invoices
  idempotencyKey := by
    refine hvalid.idempotencyKey.of_get? ?_ hagrees.payments
    rintro row row' ⟨hstore, hkey, hsame⟩
    exact ⟨hstore.symm, hsame ▸ hkey, hsame.symm⟩
  publicId := hvalid.publicId.of_get? (fun _ _ => Eq.symm) hagrees.payments
  ledgerResource := by
    refine hvalid.ledgerResource.of_get? ?_ hagrees.ledger
    rintro row row' ⟨hmonth, htype, hresource⟩
    exact ⟨hmonth.symm, htype.symm, hresource.symm⟩
  planCode := hvalid.planCode.of_get? (fun _ _ => Eq.symm) hagrees.plans

theorem draw (current edited : Tables) : current.Agrees (current.draw edited) :=
  ⟨fun _ => rfl, fun _ => rfl, fun _ => rfl, fun _ => rfl, fun _ => rfl, fun _ => rfl,
    fun _ => rfl⟩

section Session

variable {loaded edited current : Tables} (hcurrent : loaded.Agrees current)
include hcurrent

/-- A session that reads again what it had loaded sees its own edits. -/
theorem view : edited.Agrees (Tables.view loaded edited current) where
  stores key := by simp [Tables.view, hcurrent.stores]
  payments key := by simp [Tables.view, hcurrent.payments]
  events key := by simp [Tables.view, hcurrent.events]
  plans key := by simp [Tables.view, hcurrent.plans]
  subscriptions key := by simp [Tables.view, hcurrent.subscriptions]
  invoices key := by simp [Tables.view, hcurrent.invoices]
  ledger key := by simp [Tables.view, hcurrent.ledger]

theorem reload : loaded.Agrees (Tables.reload loaded edited current) where
  stores key := by simp [Tables.reload, hcurrent.stores]
  payments key := by simp [Tables.reload, hcurrent.payments]
  events key := by simp [Tables.reload, hcurrent.events]
  plans key := by simp [Tables.reload, hcurrent.plans]
  subscriptions key := by simp [Tables.reload, hcurrent.subscriptions]
  invoices key := by simp [Tables.reload, hcurrent.invoices]
  ledger key := by simp [Tables.reload, hcurrent.ledger]

/-- A commit that finds what the session loaded leaves what it holds, when its
ledger rows meet no conflict. -/
theorem write
    (hledger : ∀ key added other row, loaded.ledger.get? key = none →
      edited.ledger.get? key = some added → current.ledger.get? other = some row →
      ¬ sameResource row added) :
    edited.Agrees (Tables.write loaded edited current) where
  stores key := by simp [Tables.write, hcurrent.stores, writeRow_loaded]
  payments key := by simp [Tables.write, hcurrent.payments, writeRow_loaded]
  events key := by simp [Tables.write, hcurrent.events, writeRow_loaded]
  plans key := by simp [Tables.write, hcurrent.plans, writeRow_loaded]
  subscriptions key := by simp [Tables.write, hcurrent.subscriptions, writeRow_loaded]
  invoices key := by simp [Tables.write, hcurrent.invoices, writeRow_loaded]
  ledger key := by
    rw [Tables.write, Table.get?_writeAround, hcurrent.ledger]
    refine writeRow_loaded fun added hnone hadded => ?_
    rw [Option.isSome_eq_false_iff, Option.isNone_iff_eq_none, Table.find?_eq_none_iff]
    intro other row hrow
    simp [hledger key added other row hnone hadded hrow]

end Session

end Tables.Agrees

/-! ## What a settlement leaves once -/

/-- The completion event of a payment. -/
def Event.Completes (paymentId : ℕ) (event : Event) : Prop :=
  event.paymentId = paymentId ∧ event.type = .completed

instance (paymentId : ℕ) (event : Event) : Decidable (event.Completes paymentId) :=
  inferInstanceAs (Decidable (_ ∧ _))

/-- A ledger row that counts a payment in. -/
def PlanLedgerEntry.Credits (publicId : String) (row : PlanLedgerEntry) : Prop :=
  row.resourceId = publicId ∧ 0 < row.amountCentsDelta

/-- The invoice a payment settled. -/
def PlanInvoice.SettledBy (paymentId : ℕ) (invoice : PlanInvoice) : Prop :=
  invoice.chmabapayPaymentId = some paymentId ∧ invoice.status = .paid

/-! ## The parts -/

section Parts

variable {settings : Settings} {now : Instant} {tables tables' : Tables} {paymentId : ℕ}

/-- An edit that keeps what payments are unique by keeps the indexes. -/
theorem Constraints.modifyPayments (hvalid : Constraints tables)
    {change : ℕ → Payment → Payment}
    (hchange : ∀ key row, tables.payments.get? key = some row →
      (change key row).publicId = row.publicId ∧ (change key row).storeId = row.storeId ∧
        (change key row).idempotencyKey = row.idempotencyKey)
    (hpayments : tables'.payments = tables.payments.modify change)
    (hplans : tables'.plans = tables.plans) (hinvoices : tables'.invoices = tables.invoices)
    (hledger : tables'.ledger = tables.ledger) : Constraints tables' where
  livePeriod := hinvoices ▸ hvalid.livePeriod
  idempotencyKey := by
    rw [hpayments]
    refine hvalid.idempotencyKey.modify fun key row key' row' hrow hrow' hconflict => ?_
    obtain ⟨-, hstore, hidempotency⟩ := hchange key row hrow
    obtain ⟨-, hstore', hidempotency'⟩ := hchange key' row' hrow'
    unfold sameIdempotencyKey at hconflict
    rwa [hstore, hstore', hidempotency, hidempotency'] at hconflict
  publicId := by
    rw [hpayments]
    refine hvalid.publicId.modify fun key row key' row' hrow hrow' hconflict => ?_
    unfold samePublicId at hconflict
    rwa [(hchange key row hrow).1, (hchange key' row' hrow').1] at hconflict
  ledgerResource := hledger ▸ hvalid.ledgerResource
  planCode := hplans ▸ hvalid.planCode

theorem assigned_constraints (hvalid : Constraints tables) {payment : Payment}
    (hpayment : tables.payments.get? paymentId = some payment) (bakongRef : Option String)
    (gatewayRaw : Option GatewayStatus) :
    Constraints { tables with
      payments := tables.payments.update paymentId fun _ =>
        payment.settle now bakongRef gatewayRaw } := by
  have hpayments : (tables.payments.update paymentId fun _ =>
      payment.settle now bakongRef gatewayRaw) = tables.payments.modify fun key row =>
        if key = paymentId then payment.settle now bakongRef gatewayRaw else row := rfl
  refine hvalid.modifyPayments (fun key row hrow => ?_) hpayments rfl rfl rfl
  split
  next heq =>
    subst heq
    obtain rfl := Option.some.inj (hpayment.symm.trans hrow)
    exact ⟨rfl, rfl, rfl⟩
  next => exact ⟨rfl, rfl, rfl⟩

theorem retireSuccessors_constraints (hvalid : Constraints tables) (store : Store) :
    Constraints (retireSuccessors now tables paymentId store) := by
  obtain ⟨events, deliveries, hretire⟩ := retireSuccessors_eq now tables paymentId store
  have hpayments : (retireSuccessors now tables paymentId store).payments =
      tables.payments.modify fun _ row =>
        if decide (row.reissuedFromId = some paymentId) && row.status.isRetirable
        then row.supersede else row := by
    rw [hretire]
    rfl
  refine hvalid.modifyPayments (fun key row _ => ?_) hpayments (by rw [hretire])
    (by rw [hretire]) (by rw [hretire])
  split <;> exact ⟨rfl, rfl, rfl⟩

theorem recordPlanLedgerEntry_constraints (hvalid : Constraints tables) (accountId : ℕ)
    (payment : Payment) (reversal : Bool) :
    Constraints (recordPlanLedgerEntry now tables accountId payment reversal) := by
  have hledger := recordPlanLedgerEntry_unique now tables accountId payment reversal
    hvalid.ledgerResource
  unfold recordPlanLedgerEntry at hledger ⊢
  dsimp only at hledger ⊢
  split at hledger <;>
    exact ⟨hvalid.livePeriod, hvalid.idempotencyKey, hvalid.publicId, hledger, hvalid.planCode⟩

/-- The first settlement of a payment is counted in once. -/
theorem recordPlanLedgerEntry_once (now : Instant) (accountId : ℕ) {payment : Payment}
    (hamount : 0 < payment.amountCents)
    (hnever : tables.ledger.Never fun row => row.resourceId = payment.publicId) :
    recordPlanLedgerEntry now tables accountId payment false =
        { tables with
          ledger := tables.ledger.insert (ledgerEntry now accountId payment false) } ∧
      (recordPlanLedgerEntry now tables accountId payment false).ledger.Once
        (PlanLedgerEntry.Credits payment.publicId) := by
  have hfree : (tables.ledger.find? fun _ row => decide (sameResource row
      (ledgerEntry now accountId payment false))) = none := by
    refine Table.find?_eq_none_iff.mpr fun key row hrow => ?_
    have hother := hnever key row hrow
    simp only [decide_eq_false_iff_not]
    exact fun hsame => hother hsame.2.2
  have hrecord : recordPlanLedgerEntry now tables accountId payment false =
      { tables with
        ledger := tables.ledger.insert (ledgerEntry now accountId payment false) } := by
    simp [recordPlanLedgerEntry, hfree]
  refine ⟨hrecord, ?_⟩
  rw [hrecord]
  have hcredits : tables.ledger.Never (PlanLedgerEntry.Credits payment.publicId) :=
    fun key row hrow hcredit => hnever key row hrow hcredit.1
  exact hcredits.insert ⟨rfl, hamount⟩

/-- Retirement announces superseded codes and nothing else. -/
theorem retireSuccessors_events (now : Instant) (tables : Tables) (paymentId : ℕ)
    (store : Store) {key : ℕ} {event : Event}
    (hevent : (retireSuccessors now tables paymentId store).events.get? key = some event) :
    event.type = .superseded ∨ tables.events.get? key = some event := by
  unfold retireSuccessors at hevent
  generalize retirableSuccessors tables paymentId = successors at hevent
  induction successors generalizing tables with
  | nil => exact .inr hevent
  | cons successor rest ih =>
      rw [List.foldl_cons] at hevent
      rcases ih (retireSuccessor now store tables successor) hevent with hsuperseded | hbefore
      · exact .inl hsuperseded
      · simp only [retireSuccessor, enqueueEvent, Table.get?_insert] at hbefore
        split at hbefore
        · obtain rfl := Option.some.inj hbefore
          exact .inl rfl
        · exact .inr hbefore

theorem never_retireSuccessors
    (hnever : tables.events.Never (Event.Completes paymentId)) (now : Instant)
    (store : Store) :
    (retireSuccessors now tables paymentId store).events.Never
      (Event.Completes paymentId) := by
  intro key event hevent hcompletes
  rcases retireSuccessors_events now tables paymentId store hevent with hsuperseded | hbefore
  · rw [hcompletes.2] at hsuperseded
    cases hsuperseded
  · exact hnever key event hbefore hcompletes

/-! ### The invoice -/

/-- A void invoice within its grace line whose window was billed again. -/
def PlanInvoice.Blocked (settings : Settings) (tables : Tables) (paidAt : Instant)
    (invoice : PlanInvoice) : Prop :=
  invoice.status = .void ∧ isLapsed settings invoice paidAt = false ∧ WindowRetaken tables invoice

instance (settings : Settings) (tables : Tables) (paidAt : Instant) (invoice : PlanInvoice) :
    Decidable (invoice.Blocked settings tables paidAt) := inferInstanceAs (Decidable (_ ∧ _))

/-- Every invoice that names a subscription names one that exists. -/
def Tables.InvoicesOwned (tables : Tables) : Prop :=
  ∀ key invoice subscriptionId, tables.invoices.get? key = some invoice →
    invoice.subscriptionId = some subscriptionId →
    ∃ row, tables.subscriptions.get? subscriptionId = some row

section Invoice

variable {invoiceId : ℕ} {invoice : PlanInvoice} {paidAt : Instant}
  (hvalid : Constraints tables) (howned : tables.InvoicesOwned)
  (hinvoice : tables.invoices.get? invoiceId = some invoice)
include hvalid howned hinvoice

/-- Paying an invoice in place meets a conflict only when it is blocked. -/
theorem payInPlace_unique (hfree : ¬ invoice.Blocked settings tables paidAt)
    (hintime : ∀ subscriptionId row, invoice.subscriptionId = some subscriptionId →
      tables.subscriptions.get? subscriptionId = some row →
      isLapsed settings invoice paidAt = false) :
    (tables.invoices.update invoiceId (PlanInvoice.pay paidAt)).Unique samePeriod := by
  -- a live row on the window of the paid invoice was in conflict with it before, or retook it
  have hself : ∀ other row, tables.invoices.get? other = some row → other ≠ invoiceId →
      ¬ samePeriod (invoice.pay paidAt) row := by
    rintro other row hrow hne ⟨-, hlive, hsome, hsubscription, hstart, hperiod⟩
    by_cases hvoid : invoice.status = .void
    · obtain ⟨subscriptionId, hnamed⟩ := Option.ne_none_iff_exists'.mp hsome
      obtain ⟨owner, howner⟩ := howned invoiceId invoice subscriptionId hinvoice hnamed
      exact hfree ⟨hvoid, hintime subscriptionId owner hnamed howner, other, row, hrow, hlive,
        hsubscription.symm, hperiod.symm⟩
    · exact hne (hvalid.livePeriod_unique hinvoice hrow
        ⟨hvoid, hlive, hsome, hsubscription, hstart, hperiod⟩).symm
  refine (Table.unique_iff fun _ _ => samePeriod_symm).mpr
    fun key key' row row' hrow hrow' hsame => ?_
  rw [Table.get?_update] at hrow hrow'
  split at hrow <;> split at hrow'
  next heq heq' => exact heq.trans heq'.symm
  next heq hne =>
    subst heq
    rw [hinvoice] at hrow
    obtain rfl := Option.some.inj hrow
    exact absurd hsame (hself key' row' hrow' hne)
  next hne heq =>
    subst heq
    rw [hinvoice] at hrow'
    obtain rfl := Option.some.inj hrow'
    exact absurd (samePeriod_symm hsame) (hself key row hrow hne)
  next => exact hvalid.livePeriod_unique hrow hrow' hsame

omit hinvoice in
/-- A granted invoice stands on a window of its own, and the lapsed one is void. -/
theorem grant_unique (now : Instant) (paymentId : Option ℕ) :
    ((tables.invoices.insert (grantedInvoice now tables.subscriptions.next invoice paymentId
      paidAt)).update invoiceId (PlanInvoice.lapse now paymentId)).Unique samePeriod := by
  have hinserted : (tables.invoices.insert (grantedInvoice now tables.subscriptions.next invoice
      paymentId paidAt)).Unique samePeriod := by
    refine hvalid.livePeriod.insert fun key row hrow hsame => ?_
    obtain ⟨owner, howner⟩ := howned key row tables.subscriptions.next hrow hsame.2.2.2.1
    simp at howner
  refine hinserted.modify fun key row key' row' _ _ hsame => ?_
  have hvoid : ∀ row : PlanInvoice, (row.lapse now paymentId).status = .void := fun _ => rfl
  obtain ⟨hlive, hlive', -⟩ := id hsame
  split at hlive
  · exact absurd (hvoid row) hlive
  split at hlive'
  · exact absurd (hvoid row') hlive'
  next hne hne' => simpa [hne, hne'] using hsame

end Invoice

section Pointer

variable {invoiceId : ℕ} {invoice : PlanInvoice}
  (hpointer : tables.invoices.AtMostOnce fun row => row.chmabapayPaymentId = some paymentId)
  (hinvoice : tables.invoices.get? invoiceId = some invoice)
  (hpoints : invoice.chmabapayPaymentId = some paymentId)
include hpointer hinvoice hpoints

/-- The granted invoice takes the payment over from the lapsed one. -/
theorem grant_pointer (now paidAt : Instant) (subscriptionId : ℕ) :
    ((tables.invoices.insert (grantedInvoice now subscriptionId invoice (some paymentId)
      paidAt)).update invoiceId (PlanInvoice.lapse now (some paymentId))).AtMostOnce
        fun row => row.chmabapayPaymentId = some paymentId := by
  have hgranted : ∀ key row, ((tables.invoices.insert (grantedInvoice now subscriptionId invoice
      (some paymentId) paidAt)).update invoiceId (PlanInvoice.lapse now (some paymentId))).get?
        key = some row → row.chmabapayPaymentId = some paymentId → key = tables.invoices.next := by
    intro key row hrow hpointed
    by_contra hne
    rw [Table.get?_update, Table.get?_insert, if_neg hne] at hrow
    split at hrow
    · obtain ⟨old, -, rfl⟩ := Option.map_eq_some_iff.mp hrow
      simp [PlanInvoice.lapse] at hpointed
    next hother => exact hother (hpointer key invoiceId row invoice hrow hinvoice hpointed hpoints)
  intro key key' row row' hrow hrow' hpointed hpointed'
  exact (hgranted key row hrow hpointed).trans (hgranted key' row' hrow' hpointed').symm

omit hinvoice hpoints in
theorem payInPlace_pointer (invoiceId : ℕ) (paidAt : Instant) :
    (tables.invoices.update invoiceId (PlanInvoice.pay paidAt)).AtMostOnce
      fun row => row.chmabapayPaymentId = some paymentId := by
  have hbefore : ∀ key row, (tables.invoices.update invoiceId (PlanInvoice.pay paidAt)).get? key =
      some row → row.chmabapayPaymentId = some paymentId → ∃ old,
        tables.invoices.get? key = some old ∧ old.chmabapayPaymentId = some paymentId := by
    intro key row hrow hpointed
    rw [Table.get?_update] at hrow
    split at hrow
    · obtain ⟨old, hold, rfl⟩ := Option.map_eq_some_iff.mp hrow
      exact ⟨old, hold, hpointed⟩
    · exact ⟨row, hrow, hpointed⟩
  intro key key' row row' hrow hrow' hpointed hpointed'
  obtain ⟨old, hold, holdPoints⟩ := hbefore key row hrow hpointed
  obtain ⟨old', hold', holdPoints'⟩ := hbefore key' row' hrow' hpointed'
  exact hpointer key key' old old' hold hold' holdPoints holdPoints'

end Pointer

/-- The invoice part of a settlement goes through when no invoice of the payment
is blocked, and leaves one invoice to it. -/
theorem settleInvoiceForPayment_goes_through (hvalid : Constraints tables)
    (howned : tables.InvoicesOwned)
    (hpointer : tables.invoices.AtMostOnce fun row => row.chmabapayPaymentId = some paymentId)
    {paidAt : Instant}
    (hfree : tables.invoices.Never fun row => row.chmabapayPaymentId = some paymentId ∧
      row.Blocked settings tables paidAt) (now : Instant) :
    ∃ settled, settleInvoiceForPayment settings now tables paymentId paidAt = .ok settled ∧
      Constraints settled ∧
      settled.invoices.AtMostOnce fun row => row.chmabapayPaymentId = some paymentId := by
  obtain ⟨found, hfound⟩ := oneOrNone_select tables.invoices
    (fun _ row => decide (row.chmabapayPaymentId = some paymentId))
    fun key key' row row' hrow hrow' hpoints hpoints' =>
      hpointer key key' row row' hrow hrow' (of_decide_eq_true hpoints)
        (of_decide_eq_true hpoints')
  have hok : ∃ settled, settleInvoiceForPayment settings now tables paymentId paidAt =
      .ok settled := by
    rcases found with _ | ⟨invoiceId, invoice⟩
    · exact ⟨_, bind_eq_ok.mpr ⟨none, hfound, rfl⟩⟩
    · exact ⟨_, bind_eq_ok.mpr ⟨some (invoiceId, invoice), hfound, rfl⟩⟩
  obtain ⟨settled, hsettle⟩ := hok
  refine ⟨settled, hsettle, ?_⟩
  obtain ⟨hkeeps, hsales⟩ := settleInvoiceForPayment_keeps hsettle
  have hrest : settled.invoices.Unique samePeriod → Constraints settled := fun hperiod =>
    ⟨hperiod, hsales.payments ▸ hvalid.idempotencyKey, hsales.payments ▸ hvalid.publicId,
      hsales.ledger ▸ hvalid.ledgerResource, hkeeps.plans ▸ hvalid.planCode⟩
  rcases settleInvoiceForPayment_eq_ok hsettle with
    ⟨-, rfl⟩ | ⟨invoiceId, invoice, hinvoice, hpoints, -, rfl⟩
  · exact ⟨hvalid, hpointer⟩
  rcases settleInvoice_invoices settings now tables invoiceId invoice (some paymentId) paidAt
    "khqr" with hsame | ⟨hintime, hpaid⟩ | hgranted
  · rw [hsame] at hrest ⊢
    exact ⟨hrest hvalid.livePeriod, hpointer⟩
  · rw [hpaid] at hrest ⊢
    have hunblocked : ¬ invoice.Blocked settings tables paidAt :=
      fun hblocked => hfree invoiceId invoice hinvoice ⟨hpoints, hblocked⟩
    exact ⟨hrest (payInPlace_unique hvalid howned hinvoice hunblocked hintime),
      payInPlace_pointer hpointer invoiceId paidAt⟩
  · rw [hgranted] at hrest ⊢
    exact ⟨hrest (grant_unique hvalid howned now (some paymentId)),
      grant_pointer hpointer hinvoice hpoints now paidAt _⟩

end Parts

end ChmabaPay
