import ChmabaPay.Payments.Codes

/-! # When a settlement commits

A credit that arrived is recorded by one transaction. Its rows are found, its
ledger row is written around a conflict, and its payments keep the columns they
are unique by. What is left to refuse the commit is the index on live
subscription-windows: a void invoice that is settled in time after its window
was billed again.
-/

namespace ChmabaPay

open Calendar Relational Execution Fallible

/-- A live invoice stands on the window of this one. -/
def WindowRetaken (tables : Tables) (invoice : PlanInvoice) : Prop :=
  ∃ other row, tables.invoices.get? other = some row ∧ row.status ≠ .void ∧
    row.subscriptionId = invoice.subscriptionId ∧ row.periodStart = invoice.periodStart

instance (tables : Tables) (invoice : PlanInvoice) : Decidable (WindowRetaken tables invoice) :=
  decidable_of_iff (∃ row ∈ tables.invoices.rows, row.2.status ≠ .void ∧
      row.2.subscriptionId = invoice.subscriptionId ∧ row.2.periodStart = invoice.periodStart)
    ⟨fun ⟨row, hrow, hwindow⟩ => ⟨row.1, row.2, Table.get?_eq_some_iff.mpr hrow, hwindow⟩,
      fun ⟨other, row, hrow, hwindow⟩ =>
        ⟨(other, row), Table.get?_eq_some_iff.mp hrow, hwindow⟩⟩

section Commit

variable {settings : Settings} {now : Instant} {tables tables' : Tables} {paymentId : ℕ}
  {payment : Payment} {credit : Credit}

/-! ## Before the commit -/

/-- An open payment is the code of every invoice that points at it. -/
theorem Tables.Coded.isCodeOf (hcoded : tables.Coded)
    (hpayment : tables.payments.get? paymentId = some payment)
    (hopen : payment.status.isTerminal = false) {key : ℕ} {invoice : PlanInvoice}
    (hinvoice : tables.invoices.get? key = some invoice)
    (hpointer : invoice.chmabapayPaymentId = some paymentId) : payment.IsCodeOf key := by
  obtain ⟨row, hrow, hserves⟩ := hcoded.pointer key invoice paymentId hinvoice hpointer
  obtain rfl := Option.some.inj (hpayment.symm.trans hrow)
  refine hserves.resolve_left fun hsettled => ?_
  revert hopen hsettled
  cases payment.status <;> simp [PaymentStatus.isTerminal, PaymentStatus.isSettled]

/-- An open payment has at most one invoice. -/
theorem Tables.Coded.pointer_unique (hcoded : tables.Coded)
    (hpayment : tables.payments.get? paymentId = some payment)
    (hopen : payment.status.isTerminal = false) {key key' : ℕ} {invoice invoice' : PlanInvoice}
    (hinvoice : tables.invoices.get? key = some invoice)
    (hinvoice' : tables.invoices.get? key' = some invoice')
    (hpointer : invoice.chmabapayPaymentId = some paymentId)
    (hpointer' : invoice'.chmabapayPaymentId = some paymentId) : key = key' :=
  (hcoded.isCodeOf hpayment hopen hinvoice hpointer).unique
    (hcoded.isCodeOf hpayment hopen hinvoice' hpointer')

/-- Nothing is in the way of a settlement before its commit. -/
theorem Tables.Coded.settlePayment_ok (hcoded : tables.Coded) (settings : Settings)
    (now : Instant) (credit : Credit)
    (hpayment : tables.payments.get? paymentId = some payment)
    (hopen : payment.status.isTerminal = false) :
    ∃ tables', settlePayment settings now tables paymentId payment credit = .ok tables' := by
  obtain ⟨store, hstore⟩ := hcoded.store paymentId payment hpayment
  obtain ⟨ledger, hrecord⟩ := recordSettlement_eq now tables paymentId
    (payment.settle now credit.bakongRef credit.gatewayRaw) store
  obtain ⟨found, hfound⟩ := oneOrNone_select tables.invoices
    (fun _ invoice => decide (invoice.chmabapayPaymentId = some paymentId))
    fun key key' row row' hrow hrow' hpointer hpointer' =>
      hcoded.pointer_unique hpayment hopen hrow hrow' (of_decide_eq_true hpointer)
        (of_decide_eq_true hpointer')
  have hsettled : ∃ settled, settleInvoiceForPayment settings now
      (recordSettlement now tables paymentId
        (payment.settle now credit.bakongRef credit.gatewayRaw) store) paymentId now =
        .ok settled := by
    rw [hrecord]
    rcases found with _ | ⟨invoiceId, invoice⟩
    · exact ⟨_, bind_eq_ok.mpr ⟨none, hfound, rfl⟩⟩
    · exact ⟨_, bind_eq_ok.mpr ⟨some (invoiceId, invoice), hfound, rfl⟩⟩
  obtain ⟨settled, hsettled⟩ := hsettled
  refine ⟨enqueueEvent now (retireSuccessors now settled paymentId store) paymentId
    (payment.settle now credit.bakongRef credit.gatewayRaw) store .completed, ?_⟩
  simp only [settlePayment, hstore]
  exact bind_eq_ok.mpr ⟨settled, hsettled, rfl⟩

/-! ## At the commit -/

/-- The ledger is written around a conflict. -/
theorem recordPlanLedgerEntry_unique (now : Instant) (tables : Tables) (accountId : ℕ)
    (payment : Payment) (reversal : Bool) (hunique : tables.ledger.Unique sameResource) :
    (recordPlanLedgerEntry now tables accountId payment reversal).ledger.Unique
      sameResource := by
  unfold recordPlanLedgerEntry
  dsimp only
  split
  · exact hunique
  next hnone =>
    refine hunique.insert fun key other hother hconflict => ?_
    have hfree := Table.find?_eq_none_iff.mp hnone key other hother
    simp [hconflict] at hfree

theorem recordSettlement_unique (now : Instant) (tables : Tables) (paymentId : ℕ)
    (paid : Payment) (store : Store) (hunique : tables.ledger.Unique sameResource) :
    (recordSettlement now tables paymentId paid store).ledger.Unique sameResource := by
  unfold recordSettlement
  dsimp only
  split
  · exact hunique
  · exact recordPlanLedgerEntry_unique _ _ _ _ _ hunique

/-- A settlement keeps every index but the one on live windows. -/
theorem settlePayment_constraints (hvalid : Constraints tables)
    (hpayment : tables.payments.get? paymentId = some payment)
    (hsettle : settlePayment settings now tables paymentId payment credit = .ok tables') :
    Constraints tables' ↔ tables'.invoices.Unique samePeriod := by
  refine ⟨fun hvalid' => hvalid'.livePeriod, fun hperiod => ?_⟩
  have hpayments := (settlePayment_payments hsettle).1.trans (settledPayments_eq_modify _ _ _)
  have hkeeps := (settlePayment_payments hsettle).2
  have hevolve : ∀ key old, tables.payments.get? key = some old → old.Evolves True
      (settledChange paymentId (payment.settle now credit.bakongRef credit.gatewayRaw) key
        old) := by
    intro key old hold
    have hpersists : PaymentsEvolve ⟨False, fun _ => True, fun _ => False⟩ tables tables' :=
      settlePayment_evolves hpayment trivial hsettle
    obtain ⟨new, hnew, hevolves⟩ := hpersists.persists key old hold
    rw [hpayments, Table.get?_modify, hold] at hnew
    exact Option.some.inj hnew ▸ hevolves
  refine ⟨hperiod, ?_, ?_, ?_, ?_⟩
  · rw [hpayments]
    refine hvalid.idempotencyKey.modify fun key row key' row' hrow hrow' hconflict => ?_
    have hfirst := hevolve key row hrow
    have hsecond := hevolve key' row' hrow'
    unfold sameIdempotencyKey at hconflict
    rwa [hfirst.store, hsecond.store, hfirst.idempotencyKey, hsecond.idempotencyKey] at hconflict
  · rw [hpayments]
    refine hvalid.publicId.modify fun key row key' row' hrow hrow' hconflict => ?_
    unfold samePublicId at hconflict
    rwa [(hevolve key row hrow).publicId, (hevolve key' row' hrow').publicId] at hconflict
  · obtain ⟨store, settled, -, hinvoice, rfl⟩ := settlePayment_eq_ok hsettle
    obtain ⟨events, deliveries, hretire⟩ := retireSuccessors_eq now settled paymentId store
    rw [enqueueEvent_ledger, hretire]
    dsimp only
    rw [(settleInvoiceForPayment_keeps hinvoice).2.ledger]
    exact recordSettlement_unique _ _ _ _ _ hvalid.ledgerResource
  · rw [hkeeps.plans]
    exact hvalid.planCode

/-- The index on live windows, read off the book. -/
def Book.PeriodsUnique (book : Book) : Prop :=
  ∀ key key' row row', book.invoices key = some row → book.invoices key' = some row' →
    samePeriod row row' → key = key'

theorem periodsUnique_iff :
    tables.invoices.Unique samePeriod ↔ tables.book.PeriodsUnique :=
  Table.unique_iff fun _ _ => samePeriod_symm

/-- Writing one invoice keeps the index when it is void or nothing live stands on
its window. -/
theorem Book.PeriodsUnique.putInvoice {book : Book} (hunique : book.PeriodsUnique) {key : ℕ}
    {row : PlanInvoice} (halone : row.status ≠ .void → book.Alone key row) :
    (book.putInvoice key row).PeriodsUnique := by
  have hself : ∀ other row', book.invoices other = some row' → other ≠ key →
      ¬ samePeriod row row' := by
    rintro other row' hrow' hne ⟨hlive, hlive', -, hsubscription, -, hstart⟩
    exact hlive' (halone hlive other row' hrow' hne hsubscription.symm hstart.symm)
  intro first second row₁ row₂ hrow₁ hrow₂ hsame
  by_cases heq₁ : first = key <;> by_cases heq₂ : second = key
  · exact heq₁.trans heq₂.symm
  · obtain rfl : row = row₁ := by simpa [heq₁] using hrow₁
    exact absurd hsame (hself second row₂ (by simpa [heq₂] using hrow₂) heq₂)
  · obtain rfl : row = row₂ := by simpa [heq₂] using hrow₂
    exact absurd (samePeriod_symm hsame) (hself first row₁ (by simpa [heq₁] using hrow₁) heq₁)
  · exact hunique first second row₁ row₂ (by simpa [heq₁] using hrow₁)
      (by simpa [heq₂] using hrow₂) hsame

/-- The index after a settlement: it refuses a void invoice settled in time on a
window that was billed again, and nothing else. -/
theorem settlePayment_livePeriod {account plan : ℕ → Prop} (hvalid : Constraints tables)
    (hbook : tables.book.Wellformed account plan) {key : ℕ} {invoice : PlanInvoice}
    (hinvoice : tables.invoices.get? key = some invoice)
    (hpointer : invoice.chmabapayPaymentId = some paymentId)
    (hsettle : settlePayment settings now tables paymentId payment credit = .ok tables') :
    tables'.invoices.Unique samePeriod ↔ ¬ (invoice.status = .void ∧
      isLapsed settings invoice now = false ∧ WindowRetaken tables invoice) := by
  have hperiods : tables.book.PeriodsUnique := periodsUnique_iff.mp hvalid.livePeriod
  obtain ⟨billed, row, start, hcovers, hrow, -⟩ := hbook.backed key invoice hinvoice
  rcases settlePayment_book hsettle with
    ⟨hnone, -⟩ | ⟨recorded, found, settledInvoice, hrecorded, hget, -, hunique, hafter⟩
  · exact absurd hpointer (hnone key invoice hinvoice)
  obtain rfl := hunique key invoice hinvoice hpointer
  obtain rfl := Option.some.inj (hinvoice.symm.trans hget)
  have hinvoice' : recorded.invoices.get? key = some invoice := by
    rw [← Tables.book_invoices, hrecorded]
    exact hinvoice
  have hrow' : recorded.subscriptions.get? billed = some row := by
    rw [← Tables.book_subscriptions, hrecorded]
    exact hrow
  rw [periodsUnique_iff, hafter]
  by_cases hpaid : invoice.status = .paid
  · have hsame : settleInvoice settings now recorded key invoice (some paymentId) now "khqr" =
        recorded := by simp [settleInvoice, hpaid]
    rw [hsame, hrecorded]
    simp [hperiods, hpaid]
  rcases lt_or_ge (start + gracePeriod settings) now with hlate | hearly
  -- a window past its grace line is billed on a new row, which no other invoice covers
  · have hlapsed := (isLapsed_iff settings hcovers now).mpr hlate
    rw [settleInvoice_book_of_lapsed hpaid hcovers hrow' _ _ _ hlate,
      reinstate_book _ _ hinvoice', hrecorded]
    refine iff_of_true ?_ (by simp [hlapsed])
    refine Book.PeriodsUnique.putInvoice (Book.PeriodsUnique.putInvoice ?_ ?_) ?_
    · exact hperiods
    · intro _ other row' hother hne hsubscription _
      obtain ⟨owner, ownerRow, _, hcovers', howner, -⟩ := hbook.backed other row' hother
      rw [hcovers'.subscription] at hsubscription
      have howner' : recorded.subscriptions.get? owner = some ownerRow := by
        rw [← Tables.book_subscriptions, hrecorded]
        exact howner
      rw [Option.some.inj hsubscription] at howner'
      simp at howner'
    · intro hlive
      exact absurd rfl hlive
  · have hintime : isLapsed settings invoice now = false := by
      rw [Bool.eq_false_iff, ne_eq, isLapsed_iff settings hcovers]
      exact not_lt.mpr hearly
    rw [settleInvoice_book_of_grace hpaid hcovers hrow' _ _ _ hearly,
      payInvoice_book _ _ hinvoice' hcovers hrow', hrecorded]
    -- in time the invoice keeps its window, so it must be the only live one there
    have hiff : ((tables.book.putInvoice key (invoice.resolve .paid (some now))).cover now billed
        row (start + creditPeriod)).PeriodsUnique ↔ tables.book.Alone key invoice := by
      refine ⟨fun hafter => ?_, fun halone => ?_⟩
      · intro other row' hother hne hsubscription hstart
        by_contra hlive
        refine hne (hafter other key row' (invoice.resolve .paid (some now))
          (by simpa [hne] using hother) (by simp) ?_)
        exact ⟨hlive, by simp [PlanInvoice.resolve], by
          simp [hsubscription, hcovers.subscription], hsubscription, by
          simp [hstart, hcovers.periodStart], hstart⟩
      · have hput : (tables.book.putInvoice key (invoice.resolve .paid (some now))).PeriodsUnique :=
          hperiods.putInvoice fun _ => halone
        exact hput
    rw [hiff]
    constructor
    · rintro halone ⟨hvoid, -, other, row', hother, hlive, hsubscription, hstart⟩
      refine hlive (halone other row' hother ?_ hsubscription hstart)
      rintro rfl
      obtain rfl := Option.some.inj (hinvoice.symm.trans hother)
      exact hlive hvoid
    · intro hfree
      by_cases hvoid : invoice.status = .void
      · intro other row' hother hne hsubscription hstart
        by_contra hlive
        exact hfree ⟨hvoid, hintime, other, row', hother, hlive, hsubscription, hstart⟩
      · exact hvalid.alone hinvoice hvoid hcovers

end Commit

/-! ## Runs -/

theorem findByPublicId_of_get? {tables : Tables} (hvalid : Constraints tables) {paymentId : ℕ}
    {payment : Payment} (hpayment : tables.payments.get? paymentId = some payment) :
    findByPublicId tables payment.publicId = some (paymentId, payment) := by
  cases hfind : findByPublicId tables payment.publicId with
  | none =>
      have hmiss := Table.find?_eq_none_iff.mp hfind paymentId payment hpayment
      simp at hmiss
  | some found =>
      obtain ⟨key, row⟩ := found
      obtain ⟨hrow, hpublic⟩ := findByPublicId_eq_some hfind
      obtain rfl := (Table.unique_iff fun _ _ => Eq.symm).mp hvalid.publicId key paymentId row
        payment hrow hpayment hpublic
      rw [Option.some.inj (hrow.symm.trans hpayment)]

/-- An operation is answered exactly when its tables pass the commit. -/
theorem step_ok_iff {settings : Settings} {world : World} {input : Timed} :
    (∃ response, (step settings world input).2 = .ok response) ↔
      ∃ response tables', perform settings (input.moment world) world.db.tables input.op =
        .ok (response, tables') ∧ Constraints tables' := by
  unfold step transact
  cases hperform : perform settings (input.moment world) world.db.tables input.op with
  | error failure => simp [bind, Except.bind]
  | ok outcome =>
      obtain ⟨response, tables'⟩ := outcome
      by_cases hvalid : Constraints tables' <;>
        simp [Tables.commit, hvalid, bind, Except.bind, pure, Except.pure]

/-- In every reachable state, the code an invoice points at can be marked paid
except when the code is still open, the invoice is void and within its grace
line, and its window has been billed again. -/
theorem invoice_payment_commits {settings : Settings} {world : World}
    (hinitial : Initial world) {inputs : List Timed}
    (hdirect : ∀ input ∈ inputs, ¬ input.op.isDirect) {key paymentId : ℕ}
    {invoice : PlanInvoice}
    (hinvoice : (run (step settings) world inputs).db.tables.invoices.get? key = some invoice)
    (hpointer : invoice.chmabapayPaymentId = some paymentId) :
    ∃ payment,
      (run (step settings) world inputs).db.tables.payments.get? paymentId = some payment ∧
      ∀ credit elapsed,
        (∃ response, (step settings (run (step settings) world inputs)
          ⟨elapsed, .markPaid payment.publicId credit⟩).2 = .ok response) ↔
        ¬ (payment.status.isTerminal = false ∧ invoice.status = .void ∧
          isLapsed settings invoice ((run (step settings) world inputs).clock + elapsed) = false ∧
          WindowRetaken (run (step settings) world inputs).db.tables invoice) := by
  have hcoded : (run (step settings) world inputs).db.tables.Coded := run_coded hinitial hdirect
  have hbook := run_wellformed settings hinitial inputs
  generalize run (step settings) world inputs = reached at *
  obtain ⟨payment, hpayment, -⟩ := hcoded.pointer key invoice paymentId hinvoice hpointer
  refine ⟨payment, hpayment, fun credit elapsed => ?_⟩
  have hfind := findByPublicId_of_get? reached.db.valid hpayment
  rw [step_ok_iff]
  by_cases hterminal : payment.status.isTerminal = true
  · refine iff_of_true ⟨.settled none, reached.db.tables, ?_, reached.db.valid⟩
      (by simp [hterminal])
    simp [perform, markPaid, hfind, hterminal, bind, Except.bind, pure, Except.pure]
  have hopen : payment.status.isTerminal = false := by simpa using hterminal
  obtain ⟨tables', hsettle⟩ := hcoded.settlePayment_ok settings (reached.clock + elapsed) credit
    hpayment hopen
  have hperform : perform settings (reached.clock + elapsed) reached.db.tables
      (.markPaid payment.publicId credit) = .ok (.settled (some paymentId), tables') := by
    simp [perform, markPaid, hfind, hopen, hsettle, Except.map, bind, Except.bind, pure,
      Except.pure]
  have hcommits : (∃ response tables', perform settings (reached.clock + elapsed)
      reached.db.tables (.markPaid payment.publicId credit) = .ok (response, tables') ∧
        Constraints tables') ↔ Constraints tables' := by
    rw [hperform]
    simp
  change (∃ response tables', perform settings (reached.clock + elapsed)
      reached.db.tables (.markPaid payment.publicId credit) = .ok (response, tables') ∧
        Constraints tables') ↔ _
  rw [hcommits, settlePayment_constraints reached.db.valid hpayment hsettle,
    settlePayment_livePeriod reached.db.valid hbook hinvoice hpointer hsettle]
  simp [hopen]

/-- The first code of a purchase. -/
theorem invoice_payment_commits_purchase :
    (∀ input ∈ purchaseRun.take 3, ¬ input.op.isDirect) ∧
      ∃ response, (step {} (run (step {}) Specimen.world (purchaseRun.take 3))
        (Specimen.after 60 (.markPaid "pay_1" Specimen.credit))).2 = .ok response := by
  have hdirect : ∀ input ∈ purchaseRun.take 3, ¬ input.op.isDirect := by
    simp [purchaseRun, Specimen.after, Op.isDirect]
  refine ⟨hdirect, ?_⟩
  set reached := run (step {}) Specimen.world (purchaseRun.take 3) with hreached
  have hopened : (reached.db.tables.invoices.get? 0).map
      (fun row => (row.status, row.chmabapayPaymentId)) = some (.opened, some 0) := by
    decide +kernel
  have hpublic : (reached.db.tables.payments.get? 0).map Payment.publicId = some "pay_1" := by
    decide +kernel
  obtain ⟨invoice, hinvoice, heq⟩ := Option.map_eq_some_iff.mp hopened
  obtain ⟨hstatus, hpointer⟩ := Prod.mk.inj heq
  obtain ⟨payment, hpayment, hiff⟩ :=
    invoice_payment_commits Specimen.initial_world hdirect hinvoice hpointer
  have hname : payment.publicId = "pay_1" := by
    rw [← hreached] at hpayment
    simpa [hpayment] using hpublic
  rw [hname] at hiff
  exact (hiff Specimen.credit (60 * 1000000)).mpr (by simp [hstatus])

/-- A renewal is billed and its code handed out; the operator voids it, the next
sweep bills the window again, and then the first code is paid. -/
def rebilledRun : List Timed :=
  [Specimen.after 0 (.assignAccountPlan 0 1 "starter" "comped"),
    Specimen.afterDays 25 (.issueDueInvoices 100),
    Specimen.after 60 (.getInvoiceKhqr Specimen.rail 1 0 "pay_1"),
    Specimen.after 60 (.resolveInvoice 0 0 .void "wrong amount" none),
    Specimen.after 60 (.issueDueInvoices 100)]

/-- The index refuses the settlement of money that has arrived. -/
theorem invoice_payment_refused :
    Initial Specimen.world ∧
      ((run (step {}) Specimen.world rebilledRun).db.tables.invoices.get? 0).map
        PlanInvoice.chmabapayPaymentId = some (some 0) ∧
      ((run (step {}) Specimen.world rebilledRun).db.tables.payments.get? 0).map
        (fun payment => (payment.publicId, payment.status)) = some ("pay_1", .pending) ∧
      (step {} (run (step {}) Specimen.world rebilledRun)
        (Specimen.after 60 (.markPaid "pay_1" Specimen.credit))).2 = .error .integrity :=
  ⟨Specimen.initial_world, by decide +kernel, by decide +kernel, by decide +kernel⟩

end ChmabaPay
