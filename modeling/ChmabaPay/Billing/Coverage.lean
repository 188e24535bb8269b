import ChmabaPay.Billing.Runs
import ChmabaPay.Payments.Evolution

/-! # Coverage after a settlement

Settling an invoice puts an end of coverage in force: the end of the billed
window within the grace line, one credit period from now beyond it. Neither looks
at the coverage already there. An invoice that lost its window (withdrawn,
waived, credited) can still be paid, and its settlement then takes back what was
granted since.
-/

namespace ChmabaPay

open Calendar Relational Execution Fallible

/-- The account is covered at least up to an instant. -/
def Book.CoveredUntil (book : Book) (accountId : ℕ) (moment : Instant) : Prop :=
  ∃ key row, book.subscriptions key = some row ∧ row.accountId = accountId ∧
    row.isLive = true ∧ moment ≤ row.nextBillingAt

theorem Book.Wellformed.coveredUntil_iff {account plan : ℕ → Prop} {book : Book}
    (hbook : book.Wellformed account plan) {key : ℕ} {row : PlanSubscription}
    (hrow : book.subscriptions key = some row) (hlive : row.isLive = true) (moment : Instant) :
    book.CoveredUntil row.accountId moment ↔ moment ≤ row.nextBillingAt := by
  constructor
  · rintro ⟨other, found, hfound, haccount, hislive, hend⟩
    have hsame : other = key := by
      by_contra hne
      have hidle := hbook.live key row hrow hlive other found hfound hne haccount
      rw [hidle] at hislive
      cases hislive
    subst hsame
    obtain rfl := Option.some.inj (hrow.symm.trans hfound)
    exact hend
  · exact fun hend => ⟨key, row, hrow, rfl, hlive, hend⟩

/-! ## What a settlement leaves -/

section Settlement

variable {settings : Settings} {world : World} {input : Timed} {response : Response}
  {invoiceId : ℕ} {invoice : PlanInvoice}

/-- The book after a settlement that went through. -/
theorem step_settles_book (hok : (step settings world input).2 = .ok response)
    (hinvoice : world.db.tables.invoices.get? invoiceId = some invoice)
    (hsettles : input.op.settles world.db.tables invoiceId invoice) :
    ∃ recorded paymentId source, recorded.book = world.book ∧
      (next (step settings) world input).book =
        (settleInvoice settings (input.moment world) recorded invoiceId invoice paymentId
          (input.moment world) source).book := by
  rcases next_step settings world input with
    ⟨failure, hstep⟩ | ⟨response, tables, hperform, hvalid, hstep⟩
  · rw [hstep] at hok
    cases hok
  have hbook : (next (step settings) world input).book = tables.book := by
    simp [World.book, next, hstep]
  rw [hbook]
  cases hop : input.op with
  | markPaid publicId credit =>
      rw [hop] at hsettles
      obtain ⟨paymentId, payment, hfind, hopen, hpointer, hunpaid⟩ := hsettles
      simp only [hop, perform, bind_eq_ok, pure_eq_ok, Prod.mk.injEq] at hperform
      obtain ⟨⟨settledId, settled⟩, hmark, -, rfl⟩ := hperform
      simp only [markPaid, hfind, hopen, Bool.false_eq_true, if_false] at hmark
      cases hsettle : settlePayment settings (input.moment world) world.db.tables paymentId payment
          credit with
      | error failure => simp [hsettle, Except.map] at hmark
      | ok result =>
          simp only [hsettle, Except.map, Except.ok.injEq, Prod.mk.injEq] at hmark
          obtain ⟨-, rfl⟩ := hmark
          rcases settlePayment_book hsettle with
            ⟨hnone, -⟩ | ⟨recorded, found, foundRow, hrecorded, hfound, -, hunique, hafter⟩
          · exact absurd hpointer (hnone invoiceId invoice hinvoice)
          · obtain rfl := hunique invoiceId invoice hinvoice hpointer
            obtain rfl := Option.some.inj (hfound.symm.trans hinvoice)
            exact ⟨recorded, some paymentId, "khqr", hrecorded, hafter⟩
  | resolveInvoice actorId resolvedId action reason amountCents =>
      rw [hop] at hsettles
      cases action with
      | markPaid =>
          obtain ⟨rfl, hopen⟩ := hsettles
          simp only [hop, perform, bind_eq_ok, pure_eq_ok, Prod.mk.injEq] at hperform
          obtain ⟨resolved, hresolve, -, rfl⟩ := hperform
          simp only [resolveInvoice, hinvoice, hopen, Bool.false_eq_true, if_false,
            Except.ok.injEq] at hresolve
          refine ⟨world.db.tables, none, "admin", rfl, ?_⟩
          rw [← hresolve]
          rfl
      | waive | credit | void => cases hsettles
  | signUp | createPayment | reissuePayment | markScanned | reversePayment | expireDuePayments
  | changePlan | getInvoiceKhqr | issueDueInvoices | enforceGrace | assignAccountPlan =>
      rw [hop] at hsettles
      cases hsettles

theorem Op.ne_paid_of_settles {tables : Tables} {op : Op}
    (hsettles : op.settles tables invoiceId invoice) : invoice.status ≠ .paid := by
  cases op with
  | markPaid publicId credit =>
      obtain ⟨_, _, -, -, -, hunpaid⟩ := hsettles
      exact hunpaid
  | resolveInvoice actorId resolvedId action reason amountCents =>
      cases action with
      | markPaid =>
          exact PlanInvoice.ne_paid_of_isUnpaid
            (InvoiceStatus.isUnpaid_of_not_isResolved hsettles.2)
      | waive | credit | void => cases hsettles
  | signUp | createPayment | reissuePayment | markScanned | reversePayment | expireDuePayments
  | changePlan | getInvoiceKhqr | issueDueInvoices | enforceGrace | assignAccountPlan =>
      cases hsettles

/-- Where a settlement puts the end of coverage, and when it leaves it alone: past
the grace line one credit period from now, within it the end of the billed
window, unless the billed subscription was canceled. -/
def PlanInvoice.Extends (settings : Settings) (now : Instant) (invoice : PlanInvoice)
    (billed live : PlanSubscription) : Prop :=
  if isLapsed settings invoice now then live.nextBillingAt ≤ now + creditPeriod
  else billed.status = .canceled ∨ ∀ periodEnd, invoice.periodEnd = some periodEnd →
    live.nextBillingAt ≤ periodEnd

instance (settings : Settings) (now : Instant) (invoice : PlanInvoice)
    (billed live : PlanSubscription) : Decidable (invoice.Extends settings now billed live) :=
  inferInstanceAs (Decidable (if isLapsed settings invoice now then _ else _ ∨
    ∀ periodEnd ∈ invoice.periodEnd, live.nextBillingAt ≤ periodEnd))

variable {key liveKey : ℕ} {row live : PlanSubscription} {start : Instant}
  (hworld : world.Wellformed) (hok : (step settings world input).2 = .ok response)
  (hinvoice : world.db.tables.invoices.get? invoiceId = some invoice)
  (hsettles : input.op.settles world.db.tables invoiceId invoice)
  (hcovers : invoice.Covers key start) (hrow : world.db.tables.subscriptions.get? key = some row)
  (haccount : row.accountId = invoice.accountId)
  (hlive : world.db.tables.subscriptions.get? liveKey = some live)
  (hsame : live.accountId = invoice.accountId) (hislive : live.isLive = true)

include hworld hok hinvoice hsettles hcovers hrow

/-- Past the grace line the account is covered for one credit period. -/
theorem coveredUntil_of_lapsed (hlate : start + gracePeriod settings < input.moment world)
    (moment : Instant) :
    (next (step settings) world input).book.CoveredUntil invoice.accountId moment ↔
      moment ≤ input.moment world + creditPeriod := by
  obtain ⟨recorded, paymentId, source, hrecorded, hafter⟩ :=
    step_settles_book hok hinvoice hsettles
  have hinvoice' : recorded.invoices.get? invoiceId = some invoice := by
    rw [← Tables.book_invoices, hrecorded]
    exact hinvoice
  have hrow' : recorded.subscriptions.get? key = some row := by
    rw [← Tables.book_subscriptions, hrecorded]
    exact hrow
  rw [settleInvoice_book_of_lapsed (Op.ne_paid_of_settles hsettles) hcovers hrow' _ _ _ hlate,
    reinstate_book _ _ hinvoice'] at hafter
  have hnew : (next (step settings) world input).book.subscriptions recorded.subscriptions.next =
      some (reinstatedSubscription (input.moment world) invoice.accountId row.planId
        (input.moment world)) := by
    rw [hafter]
    simp
  exact (step_wellformed settings hworld input).coveredUntil_iff hnew
    (PlanSubscription.isLive_of_active rfl) moment

omit hworld in
theorem step_grants_book (hearly : input.moment world ≤ start + gracePeriod settings) :
    (next (step settings) world input).book.subscriptions =
      (world.book.cover (input.moment world) key row (start + creditPeriod)).subscriptions := by
  obtain ⟨recorded, paymentId, source, hrecorded, hafter⟩ :=
    step_settles_book hok hinvoice hsettles
  have hinvoice' : recorded.invoices.get? invoiceId = some invoice := by
    rw [← Tables.book_invoices, hrecorded]
    exact hinvoice
  have hrow' : recorded.subscriptions.get? key = some row := by
    rw [← Tables.book_subscriptions, hrecorded]
    exact hrow
  rw [settleInvoice_book_of_grace (Op.ne_paid_of_settles hsettles) hcovers hrow' _ _ _ hearly,
    payInvoice_book _ _ hinvoice' hcovers hrow', hrecorded] at hafter
  rw [hafter]
  rfl

include haccount

/-- Within it the account is covered to the end of the window, when the billed
subscription was waiting or in force. -/
theorem coveredUntil_of_grace (hearly : input.moment world ≤ start + gracePeriod settings)
    (hstands : row.status ≠ .canceled) (moment : Instant) :
    (next (step settings) world input).book.CoveredUntil invoice.accountId moment ↔
      moment ≤ start + creditPeriod := by
  have hafter := step_grants_book hok hinvoice hsettles hcovers hrow hearly
  have hnew : (next (step settings) world input).book.subscriptions key =
      some { Book.activated (input.moment world) row with
        nextBillingAt := start + creditPeriod } := by
    have hrow' : world.book.subscriptions key = some row := hrow
    rw [hafter, Book.cover_subscriptions, hrow']
    simp
  have hevolves := Book.evolves_activated (input.moment world) row (start + creditPeriod)
  have hislive : PlanSubscription.isLive { Book.activated (input.moment world) row with
      nextBillingAt := start + creditPeriod } = true := by
    cases hstatus : row.status with
    | canceled => exact absurd hstatus hstands
    | pending | active | trial => simp [Book.activated, hstatus, PlanSubscription.isLive]
  rw [← haccount, ← hevolves.account]
  exact (step_wellformed settings hworld input).coveredUntil_iff hnew hislive moment

include hlive hsame hislive

omit hworld in
/-- A canceled subscription is not put in force again, and what is in force
stays. -/
theorem coveredUntil_of_canceled (hearly : input.moment world ≤ start + gracePeriod settings)
    (hcanceled : row.status = .canceled) :
    (next (step settings) world input).book.CoveredUntil invoice.accountId
      live.nextBillingAt := by
  have hafter := step_grants_book hok hinvoice hsettles hcovers hrow hearly
  have hne : liveKey ≠ key := by
    rintro rfl
    obtain rfl := Option.some.inj (hlive.symm.trans hrow)
    simp [PlanSubscription.isLive, hcanceled] at hislive
  refine ⟨liveKey, live, ?_, hsame, hislive, le_rfl⟩
  have hlive' : world.book.subscriptions liveKey = some live := hlive
  rw [hafter, Book.cover_subscriptions, hlive']
  simp [hne, hcanceled]

end Settlement

/-! ## Runs -/

/-- In every reachable state, a settlement that goes through keeps the coverage of
an account exactly when the end it grants is not before the end already there. -/
theorem settlement_keeps_coverage_iff {settings : Settings} {world : World}
    (hinitial : Initial world) (inputs : List Timed) {state : World}
    (hstate : state = run (step settings) world inputs) {input : Timed} {response : Response}
    (hok : (step settings state input).2 = .ok response) {invoiceId : ℕ} {invoice : PlanInvoice}
    (hinvoice : state.db.tables.invoices.get? invoiceId = some invoice)
    (hsettles : input.op.settles state.db.tables invoiceId invoice) {key : ℕ}
    (hbilled : invoice.subscriptionId = some key) {row : PlanSubscription}
    (hrow : state.db.tables.subscriptions.get? key = some row) {liveKey : ℕ}
    {live : PlanSubscription} (hlive : state.db.tables.subscriptions.get? liveKey = some live)
    (haccount : live.accountId = invoice.accountId) (hislive : live.isLive = true) :
    (next (step settings) state input).book.CoveredUntil invoice.accountId live.nextBillingAt ↔
      invoice.Extends settings (input.moment state) row live := by
  have hworld : state.Wellformed := hstate ▸ run_wellformed settings hinitial inputs
  obtain ⟨owner, ownerRow, start, hcovers, howner, hsame⟩ :=
    hworld.backed invoiceId invoice hinvoice
  obtain rfl := Option.some.inj (hcovers.subscription.symm.trans hbilled)
  obtain rfl := Option.some.inj (howner.symm.trans hrow)
  unfold PlanInvoice.Extends
  rcases lt_or_ge (start + gracePeriod settings) (input.moment state) with hlate | hearly
  · rw [if_pos ((isLapsed_iff settings hcovers _).mpr hlate)]
    exact coveredUntil_of_lapsed hworld hok hinvoice hsettles hcovers howner hlate _
  · have hgrace : ¬ isLapsed settings invoice (input.moment state) = true := by
      rw [isLapsed_iff settings hcovers]
      exact not_lt.mpr hearly
    rw [if_neg hgrace]
    by_cases hcanceled : ownerRow.status = .canceled
    · exact iff_of_true (coveredUntil_of_canceled hok hinvoice hsettles hcovers howner
        hsame hlive haccount hislive hearly hcanceled) (.inl hcanceled)
    · rw [coveredUntil_of_grace hworld hok hinvoice hsettles hcovers howner hsame hearly hcanceled]
      simp [hcanceled, hcovers.periodEnd]

/-- A renewal is raised ahead of its window. -/
def renewalRun : List Timed :=
  [Specimen.after 0 (.assignAccountPlan 0 1 "starter" "comped"),
    Specimen.afterDays 25 (.issueDueInvoices 100)]

/-- The operator books a transfer for it. -/
def bookTransfer : Timed := Specimen.after 60 (.resolveInvoice 0 0 .markPaid "bank transfer" none)

theorem settlement_keeps_coverage_renewal :
    ∃ invoice live,
      (run (step {}) Specimen.world renewalRun).db.tables.invoices.get? 0 = some invoice ∧
      (run (step {}) Specimen.world renewalRun).db.tables.subscriptions.get? 0 = some live ∧
      live.isLive = true ∧
      (next (step {}) (run (step {}) Specimen.world renewalRun) bookTransfer).book.CoveredUntil
        invoice.accountId live.nextBillingAt := by
  set state := run (step {}) Specimen.world renewalRun with hstate
  have hok : (step {} state bookTransfer).2 = .ok .done := by decide +kernel
  have hrows : ((state.db.tables.invoices.get? 0).bind fun invoice =>
      (state.db.tables.subscriptions.get? 0).map fun live =>
        (invoice.subscriptionId, decide (live.accountId = invoice.accountId), live.isLive,
          invoice.status.isResolved,
          decide (invoice.Extends {} (bookTransfer.moment state) live live))) =
      some (some 0, true, true, false, true) := by decide +kernel
  obtain ⟨invoice, hinvoice, hmap⟩ := Option.bind_eq_some_iff.mp hrows
  obtain ⟨live, hlive, heq⟩ := Option.map_eq_some_iff.mp hmap
  simp only [Prod.mk.injEq, decide_eq_true_eq] at heq
  obtain ⟨hbilled, haccount, hislive, hopen, hextends⟩ := heq
  have hsettles : bookTransfer.op.settles state.db.tables 0 invoice := ⟨rfl, hopen⟩
  refine ⟨invoice, live, hinvoice, hlive, hislive, ?_⟩
  exact (settlement_keeps_coverage_iff Specimen.initial_world renewalRun hstate hok hinvoice
    hsettles hbilled hlive hlive haccount hislive).mpr hextends

/-- A code is handed out for a renewal, the renewal is waived, and the next one is
booked as paid ahead of its window. -/
def waivedRenewalRun : List Timed :=
  renewalRun ++
  [Specimen.after 60 (.getInvoiceKhqr Specimen.rail 1 0 "pay_1"),
    Specimen.after 60 (.resolveInvoice 0 0 .waive "goodwill" none),
    Specimen.afterDays 29 (.issueDueInvoices 100),
    Specimen.after 60 (.resolveInvoice 0 1 .markPaid "bank transfer" none)]

/-- Then the old code is paid after all. -/
def lateCode : Timed := Specimen.after 60 (.markPaid "pay_1" Specimen.credit)

/-- The coverage already paid for ended later than the coverage after it. -/
theorem settlement_shortens_coverage :
    Initial Specimen.world ∧ ∃ invoice live,
      (run (step {}) Specimen.world waivedRenewalRun).db.tables.invoices.get? 0 = some invoice ∧
      lateCode.op.settles (run (step {}) Specimen.world waivedRenewalRun).db.tables 0 invoice ∧
      invoice.subscriptionId = some 0 ∧
      (run (step {}) Specimen.world waivedRenewalRun).db.tables.subscriptions.get? 0 = some live ∧
      live.isLive = true ∧
      (step {} (run (step {}) Specimen.world waivedRenewalRun) lateCode).2 =
        .ok (.settled (some 0)) ∧
      ¬ (next (step {}) (run (step {}) Specimen.world waivedRenewalRun) lateCode).book.CoveredUntil
        invoice.accountId live.nextBillingAt := by
  set state := run (step {}) Specimen.world waivedRenewalRun with hstate
  have hworld : state.Wellformed := run_wellformed {} Specimen.initial_world waivedRenewalRun
  have hok : (step {} state lateCode).2 = .ok (.settled (some 0)) := by decide +kernel
  have hcode : (findByPublicId state.db.tables "pay_1").map (fun found =>
      (found.1, found.2.status.isTerminal)) = some (0, false) := by decide +kernel
  have hrows : ((state.db.tables.invoices.get? 0).bind fun invoice =>
      (state.db.tables.subscriptions.get? 0).map fun live =>
        (invoice.subscriptionId, invoice.chmabapayPaymentId, decide (invoice.status = .paid),
          live.isLive, isLapsed {} invoice (lateCode.moment state),
          decide (live.nextBillingAt ≤ lateCode.moment state + creditPeriod))) =
      some (some 0, some 0, false, true, true, false) := by decide +kernel
  obtain ⟨invoice, hinvoice, hmap⟩ := Option.bind_eq_some_iff.mp hrows
  obtain ⟨live, hlive, heq⟩ := Option.map_eq_some_iff.mp hmap
  simp only [Prod.mk.injEq, decide_eq_false_iff_not] at heq
  obtain ⟨hbilled, hpointer, hunpaid, hislive, hlapsed, hshort⟩ := heq
  obtain ⟨⟨paymentId, payment⟩, hfind, hfound⟩ := Option.map_eq_some_iff.mp hcode
  obtain ⟨rfl, hopen⟩ := Prod.mk.inj hfound
  have hsettles : lateCode.op.settles state.db.tables 0 invoice :=
    ⟨0, payment, hfind, hopen, hpointer, hunpaid⟩
  obtain ⟨key, row, start, hcovers, hrow, -⟩ := hworld.backed 0 invoice hinvoice
  refine ⟨Specimen.initial_world, invoice, live, hinvoice, hsettles, hbilled, hlive, hislive, hok,
    fun hcovered => hshort ?_⟩
  exact (coveredUntil_of_lapsed hworld hok hinvoice hsettles hcovers hrow
    ((isLapsed_iff {} hcovers _).mp hlapsed) _).mp hcovered

end ChmabaPay
