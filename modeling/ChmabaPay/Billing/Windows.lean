import ChmabaPay.Billing.Schedule

/-! # The windows a subscription is billed for

What the schedule means for the rows: the windows of one subscription follow one
another without gap or overlap, at most one is unpaid, and the end of the
coverage only ever moves forward, when an invoice is settled.
-/

namespace ChmabaPay

open Calendar Relational Execution

/-! ## What the rows say -/

/-- Of two live invoices of one subscription the earlier ends before the later
starts, and where it ends a live one starts. -/
def WindowsInSequence (tables : Tables) : Prop :=
  ∀ key key' invoice invoice' billed start start' stop,
    tables.invoices.get? key = some invoice → tables.invoices.get? key' = some invoice' →
    key ≠ key' → invoice.subscriptionId = some billed → invoice'.subscriptionId = some billed →
    invoice.status ≠ .void → invoice'.status ≠ .void →
    invoice.periodStart = some start → invoice.periodEnd = some stop →
    invoice'.periodStart = some start' → start ≤ start' →
    stop ≤ start' ∧ ∃ following row, tables.invoices.get? following = some row ∧
      row.subscriptionId = some billed ∧ row.status ≠ .void ∧ row.periodStart = some stop

def OneUnpaid (tables : Tables) : Prop :=
  ∀ key key' invoice invoice' billed,
    tables.invoices.get? key = some invoice → tables.invoices.get? key' = some invoice' →
    invoice.subscriptionId = some billed → invoice'.subscriptionId = some billed →
    invoice.isUnpaid = true → invoice'.isUnpaid = true → key = key'

/-- The end of the coverage never moves back, and moves on only when an invoice
of the subscription becomes paid, waived or credited. -/
def CoverageKept (before after : Tables) : Prop :=
  ∀ key row, before.subscriptions.get? key = some row →
    ∃ row', after.subscriptions.get? key = some row' ∧
      row.nextBillingAt ≤ row'.nextBillingAt ∧
      (row'.nextBillingAt ≠ row.nextBillingAt → ∃ invoiceKey invoice invoice',
        before.invoices.get? invoiceKey = some invoice ∧ invoice.status.isSettled = false ∧
        after.invoices.get? invoiceKey = some invoice' ∧ invoice'.subscriptionId = some key ∧
        invoice'.status.isSettled = true)

section Rows

variable {grace lead : Int} {clock : Instant} {tables : Tables} {account plan : ℕ → Prop}
  (hscheduled : tables.book.Scheduled grace lead clock)
  (hbook : tables.book.Wellformed account plan) (hvalid : Constraints tables)

theorem InvoiceStatus.ne_void_of_isUnpaid {status : InvoiceStatus}
    (hunpaid : status.isUnpaid = true) : status ≠ .void := by
  rintro rfl
  cases hunpaid

include hvalid in
/-- Two live invoices on one window are one invoice. -/
theorem Constraints.window_unique {key key' : ℕ} {invoice invoice' : PlanInvoice} {billed : ℕ}
    {start : Instant} (hinvoice : tables.invoices.get? key = some invoice)
    (hinvoice' : tables.invoices.get? key' = some invoice') (hlive : invoice.status ≠ .void)
    (hlive' : invoice'.status ≠ .void) (hcovers : invoice.Covers billed start)
    (hcovers' : invoice'.Covers billed start) : key = key' :=
  hvalid.livePeriod_unique hinvoice hinvoice' ⟨hlive, hlive', by simp [hcovers.subscription],
    hcovers.subscription.trans hcovers'.subscription.symm, by simp [hcovers.periodStart],
    hcovers.periodStart.trans hcovers'.periodStart.symm⟩

include hscheduled hbook hvalid

theorem Book.Scheduled.windowsInSequence : WindowsInSequence tables := by
  intro key key' invoice invoice' billed start start' stop hinvoice hinvoice' hne hbilled hbilled'
    hlive hlive' hstart hstop hstart' hle
  obtain ⟨owner, row, begun, hcovers, hrow, -⟩ := hbook.backed key invoice hinvoice
  obtain ⟨owner', row', begun', hcovers', hrow', -⟩ := hbook.backed key' invoice' hinvoice'
  obtain rfl := Option.some.inj (hcovers.subscription.symm.trans hbilled)
  obtain rfl := Option.some.inj (hcovers'.subscription.symm.trans hbilled')
  obtain rfl := Option.some.inj (hrow.symm.trans hrow')
  obtain rfl := Option.some.inj (hcovers.periodStart.symm.trans hstart)
  obtain rfl := Option.some.inj (hcovers'.periodStart.symm.trans hstart')
  obtain rfl := Option.some.inj (hcovers.periodEnd.symm.trans hstop)
  have hfits := hscheduled.fits key invoice owner' begun row hinvoice hcovers hrow
  have hfits' := hscheduled.fits key' invoice' owner' begun' row hinvoice' hcovers' hrow
  have hpos := creditPeriod_pos
  have hapart : begun ≠ begun' := fun heq =>
    hne (hvalid.window_unique hinvoice hinvoice' hlive hlive' hcovers (heq ▸ hcovers'))
  have hlt : begun < begun' := lt_of_le_of_ne hle hapart
  by_cases hpending : row.status = .pending
  · have hend := (hfits.parked hpending).1
    have hend' := (hfits'.parked hpending).1
    linarith
  have hclass : ∀ status : InvoiceStatus, status ≠ .void →
      status.isUnpaid = true ∨ status.isSettled = true := by
    intro status hstatus
    cases status <;> simp_all [InvoiceStatus.isUnpaid, InvoiceStatus.isSettled]
  -- The later window starts at the timestamp or ends at or before it.
  have hlater : begun' ≤ row.nextBillingAt ∧ (begun' = row.nextBillingAt ∨
      (begun' + creditPeriod ≤ row.nextBillingAt ∧
        creditPeriod ∣ row.nextBillingAt - begun')) := by
    rcases hclass invoice'.status hlive' with hopen | hsettled
    · have heq := hfits'.unpaid hpending hopen
      exact ⟨heq.le, .inl heq⟩
    · obtain ⟨hends, hdvd, -⟩ := hfits'.settled hsettled
      exact ⟨by linarith, .inr ⟨hends, hdvd⟩⟩
  rcases hclass invoice.status hlive with hopen | hsettled
  · have heq := hfits.unpaid hpending hopen
    linarith [hlater.1]
  obtain ⟨hends, hdvd, hchain⟩ := hfits.settled hsettled
  refine ⟨?_, ?_⟩
  · rcases hlater.2 with heq | ⟨-, hdvd'⟩
    · linarith
    · have hgap : creditPeriod ∣ begun' - begun := by
        have hsum := dvd_sub hdvd hdvd'
        rwa [sub_sub_sub_cancel_left] at hsum
      have hlong := Int.le_of_dvd (sub_pos.mpr hlt) hgap
      linarith
  · rcases hchain with hlast | ⟨following, later, hfollowing, hbills, hsettled'⟩
    · rcases hlater.2 with heq | ⟨hends', -⟩
      · exact ⟨key', invoice', hinvoice', hcovers'.subscription, hlive', by
          rw [hcovers'.periodStart, heq, hlast]⟩
      · linarith
    · refine ⟨following, later, hfollowing, hbills.subscription, ?_, hbills.periodStart⟩
      rintro hvoid
      simp [hvoid, InvoiceStatus.isSettled] at hsettled'

theorem Book.Scheduled.oneUnpaid : OneUnpaid tables := by
  intro key key' invoice invoice' billed hinvoice hinvoice' hbilled hbilled' hopen hopen'
  obtain ⟨owner, row, begun, hcovers, hrow, -⟩ := hbook.backed key invoice hinvoice
  obtain ⟨owner', row', begun', hcovers', hrow', -⟩ := hbook.backed key' invoice' hinvoice'
  obtain rfl := Option.some.inj (hcovers.subscription.symm.trans hbilled)
  obtain rfl := Option.some.inj (hcovers'.subscription.symm.trans hbilled')
  obtain rfl := Option.some.inj (hrow.symm.trans hrow')
  have hfits := hscheduled.fits key invoice owner' begun row hinvoice hcovers hrow
  have hfits' := hscheduled.fits key' invoice' owner' begun' row hinvoice' hcovers' hrow
  have hsame : begun = begun' := by
    by_cases hpending : row.status = .pending
    · have hend := (hfits.parked hpending).1
      have hend' := (hfits'.parked hpending).1
      linarith
    · exact (hfits.unpaid hpending hopen).trans (hfits'.unpaid hpending hopen').symm
  exact hvalid.window_unique hinvoice hinvoice' (InvoiceStatus.ne_void_of_isUnpaid hopen)
    (InvoiceStatus.ne_void_of_isUnpaid hopen') hcovers (hsame ▸ hcovers')

end Rows

/-! ## Runs -/

/-- No waived or credited invoice is settled past its grace line. -/
def ForgivenStaySettled (settings : Settings) (world : World) (input : Timed) : Prop :=
  ∀ key invoice, world.db.tables.invoices.get? key = some invoice →
    input.op.settles world.db.tables key invoice →
    invoice.status = .waived ∨ invoice.status = .credited →
    isLapsed settings invoice (input.moment world) = false

/-- What the billing schedule promises of every step. -/
structure KeepsSchedule (op : Op) (before after : Tables) : Prop where
  windows : WindowsInSequence after
  unpaid : OneUnpaid after
  sweep : ∀ limit, op = .issueDueInvoices limit → after.subscriptions = before.subscriptions
  coverage : CoverageKept before after

section Runs

variable {settings : Settings} {world : World}

def World.Scheduled (settings : Settings) (world : World) : Prop :=
  world.book.Scheduled (gracePeriod settings) (leadPeriod settings) world.clock

theorem leadPeriod_nonneg (settings : Settings) : 0 ≤ leadPeriod settings :=
  mul_nonneg (mul_nonneg (le_max_left _ _) (by norm_num)) (by norm_num)

theorem Op.settles_not_paid {tables : Tables} {op : Op} {key : ℕ} {invoice : PlanInvoice}
    (hsettles : op.settles tables key invoice) (hsettled : invoice.status.isSettled = true) :
    invoice.status = .waived ∨ invoice.status = .credited := by
  have hunpaid : invoice.status ≠ .paid := by
    cases op with
    | markPaid =>
        obtain ⟨_, _, -, -, -, hunpaid⟩ := hsettles
        exact hunpaid
    | resolveInvoice actorId invoiceId action =>
        cases action with
        | markPaid =>
            exact PlanInvoice.ne_paid_of_isUnpaid
              (InvoiceStatus.isUnpaid_of_not_isResolved hsettles.2)
        | _ => exact absurd hsettles id
    | _ => exact absurd hsettles id
  revert hsettled hunpaid
  cases invoice.status <;> simp [InvoiceStatus.isSettled]

theorem ForgivenStaySettled.settlesInGrace {input : Timed} {response : Response}
    (hinput : ForgivenStaySettled settings world input) :
    world.book.SettlesInGrace (world.occasion settings input response) := by
  intro key invoice billed start hinvoice hsettles hsettled hcovers
  have hintime := hinput key invoice hinvoice hsettles (Op.settles_not_paid hsettles hsettled)
  rw [Bool.eq_false_iff, ne_eq, isLapsed_iff settings hcovers] at hintime
  exact not_lt.mp hintime

theorem moment_ge (world : World) (input : Timed) : world.clock ≤ input.moment world :=
  le_add_of_nonneg_right (Int.natCast_nonneg _)

/-- One step keeps the schedule and the coverage. -/
theorem step_scheduled (hsettings : leadPeriod settings + gracePeriod settings < creditPeriod)
    (hworld : world.Wellformed) (hscheduled : world.Scheduled settings) {input : Timed}
    (hinput : ForgivenStaySettled settings world input) :
    (next (step settings) world input).Scheduled settings ∧
      CoverageKept world.db.tables (next (step settings) world input).db.tables := by
  unfold World.Scheduled
  rw [next_clock]
  rcases step_moves settings hworld input with
    ⟨-, hdb⟩ | ⟨response, -, -, hmoves, hidle | hsame | hmove, hkeeps⟩
  · unfold World.book
    rw [hdb]
    exact ⟨hscheduled.later (moment_ge world input), fun key row hrow =>
      ⟨row, hrow, le_rfl, fun hne => absurd rfl hne⟩⟩
  · obtain ⟨hafter, hnext⟩ := Moves.scheduled_of_idle hmoves hidle hscheduled
      (hworld.mono fun _ => hkeeps.hasAccount) (moment_ge world input)
      (leadPeriod_nonneg settings) hsettings
    refine ⟨hafter, fun key row hrow => ?_⟩
    obtain ⟨row', hrow', heq⟩ := hnext key row hrow
    exact ⟨row', hrow', heq.ge, fun hne => absurd heq hne⟩
  · rw [hsame]
    refine ⟨hscheduled.later (moment_ge world input), fun key row hrow => ?_⟩
    have hrow' : (next (step settings) world input).book.subscriptions key = some row := by
      rw [hsame]
      exact hrow
    exact ⟨row, hrow', le_rfl, fun hne => absurd rfl hne⟩
  · have hbook : world.book.Wellformed (world.occasion settings input response).account
        (world.occasion settings input response).plan := hworld.mono fun _ => hkeeps.hasAccount
    refine ⟨hmove.scheduled hscheduled hbook (moment_ge world input)
      (leadPeriod_nonneg settings) hinput.settlesInGrace hsettings, fun key row hrow => ?_⟩
    obtain ⟨row', hrow', heq | ⟨hle, invoiceKey, invoice, invoice', -, hgranted⟩⟩ :=
      hmove.next_persists hscheduled (moment_ge world input) hsettings hrow
    · exact ⟨row', hrow', heq.ge, fun hne => absurd heq hne⟩
    · exact ⟨row', hrow', hle, fun _ => ⟨invoiceKey, invoice, invoice', hgranted⟩⟩

theorem step_issueDueInvoices {input : Timed} {limit : ℕ}
    (hop : input.op = .issueDueInvoices limit) :
    (next (step settings) world input).db.tables.subscriptions =
      world.db.tables.subscriptions := by
  rcases next_step settings world input with
    ⟨failure, hstep⟩ | ⟨response, tables, hperform, hvalid, hstep⟩
  · simp [next, hstep]
  · rw [hop] at hperform
    simp only [perform, Except.ok.injEq, Prod.mk.injEq] at hperform
    obtain ⟨-, rfl⟩ := hperform
    obtain ⟨invoices, heq⟩ := issueDueInvoices_eq settings (input.moment world) world.db.tables
      limit
    simp [next, hstep, heq]

end Runs

/-- With lead and grace together shorter than a credit period, every run that
settles no waived or credited invoice past its grace line keeps the schedule: the
live windows of a subscription follow one another, at most one is unpaid, the
renewal sweep writes no subscription, and coverage only moves on with a
settlement. -/
theorem billing_schedule {settings : Settings}
    (hsettings : leadPeriod settings + gracePeriod settings < creditPeriod) {world : World}
    (hinitial : Initial world) {inputs : List Timed}
    (halong : Along (step settings) (ForgivenStaySettled settings) world inputs) :
    Along (step settings) (fun state input => KeepsSchedule input.op state.db.tables
      (next (step settings) state input).db.tables) world inputs := by
  have hinvoices := Initial.get?_eq_none hinitial.invoices
  have hsubscriptions := Initial.get?_eq_none hinitial.subscriptions
  have hstart : world.Scheduled settings :=
    ⟨by simp [World.book, hinvoices], by simp [World.book, hinvoices],
      by simp [World.book, hsubscriptions]⟩
  refine along_of_invariant (fun state : World => state.Wellformed ∧ state.Scheduled settings)
    (ForgivenStaySettled settings) _ ?_ ?_ ⟨hinitial.wellformed, hstart⟩ halong
  · rintro state input ⟨hstate, hscheduled⟩ hinput
    exact ⟨step_wellformed settings hstate input,
      (step_scheduled hsettings hstate hscheduled hinput).1⟩
  · rintro state input ⟨hstate, hscheduled⟩ hinput
    obtain ⟨hafter, hcoverage⟩ := step_scheduled hsettings hstate hscheduled hinput
    have hbook := step_wellformed settings hstate input
    exact ⟨hafter.windowsInSequence hbook (next (step settings) state input).db.valid,
      hafter.oneUnpaid hbook (next (step settings) state input).db.valid,
      fun limit hop => step_issueDueInvoices hop, hcoverage⟩

/-- Nothing has been forgiven yet. -/
theorem ForgivenStaySettled.of_none_forgiven {settings : Settings} {world : World} {input : Timed}
    (hnone : world.db.tables.invoices.rows.all
      (fun row => decide (row.2.status ≠ .waived ∧ row.2.status ≠ .credited)) = true) :
    ForgivenStaySettled settings world input := by
  intro key invoice hinvoice _ hforgiven
  have hrow := List.all_eq_true.mp hnone _ (Table.get?_eq_some_iff.mp hinvoice)
  simp only [ne_eq, decide_eq_true_eq] at hrow
  exact (hforgiven.elim hrow.1 hrow.2).elim

/-- A comped plan is renewed, the renewal is paid by hand, and the next one is
billed. -/
def renewedRun : List Timed :=
  [Specimen.after 0 (.assignAccountPlan 0 1 "starter" "comped"),
    Specimen.afterDays 25 (.issueDueInvoices 100),
    Specimen.after 60 (.resolveInvoice 0 0 .markPaid "bank transfer" none),
    Specimen.afterDays 30 (.issueDueInvoices 100)]

theorem billing_schedule_renewed :
    leadPeriod {} + gracePeriod {} < creditPeriod ∧
      Along (step {}) (ForgivenStaySettled {}) Specimen.world renewedRun ∧
      Along (step {}) (fun state input => KeepsSchedule input.op state.db.tables
        (next (step {}) state input).db.tables) Specimen.world renewedRun := by
  have halong : Along (step {}) (ForgivenStaySettled {}) Specimen.world renewedRun :=
    ⟨.of_none_forgiven (by decide +kernel), .of_none_forgiven (by decide +kernel),
      .of_none_forgiven (by decide +kernel), .of_none_forgiven (by decide +kernel), trivial⟩
  exact ⟨by decide, halong, billing_schedule (by decide) Specimen.initial_world halong⟩

/-- Two renewals are waived, the second after its code was handed out; a third
is billed, and then the code of the second is paid, past its grace line. -/
def waivedThenPaidRun : List Timed :=
  [Specimen.after 0 (.assignAccountPlan 0 1 "starter" "comped"),
    Specimen.afterDays 25 (.issueDueInvoices 100),
    Specimen.after 60 (.resolveInvoice 0 0 .waive "goodwill" none),
    Specimen.afterDays 30 (.issueDueInvoices 100),
    Specimen.after 60 (.getInvoiceKhqr Specimen.rail 1 1 "pay_1"),
    Specimen.after 60 (.resolveInvoice 0 1 .waive "goodwill" none),
    Specimen.afterDays 30 (.issueDueInvoices 100),
    Specimen.after 60 (.markPaid "pay_1" Specimen.credit)]

/-- The waived window between two live ones is voided and leaves a gap. -/
theorem billing_schedule_gap :
    Initial Specimen.world ∧ leadPeriod {} + gracePeriod {} < creditPeriod ∧
      ¬ WindowsInSequence (run (step {}) Specimen.world waivedThenPaidRun).db.tables := by
  refine ⟨Specimen.initial_world, by decide, fun hsequence => ?_⟩
  set final := run (step {}) Specimen.world waivedThenPaidRun with hfinal
  have hfirst : (final.db.tables.invoices.get? 0).map (fun row =>
      (row.subscriptionId, row.status, row.periodStart, row.periodEnd)) =
      some (some 0, .waived, some (days 30), some (days 60)) := by decide +kernel
  have hthird : (final.db.tables.invoices.get? 2).map (fun row =>
      (row.subscriptionId, row.status, row.periodStart)) =
      some (some 0, .opened, some (days 90)) := by decide +kernel
  have hgap : final.db.tables.invoices.rows.all (fun row => decide (row.2.status = .void ∨
      row.2.periodStart ≠ some (days 60))) = true := by decide +kernel
  obtain ⟨first, hget, heq⟩ := Option.map_eq_some_iff.mp hfirst
  obtain ⟨third, hget', heq'⟩ := Option.map_eq_some_iff.mp hthird
  simp only [Prod.mk.injEq] at heq heq'
  obtain ⟨-, following, row, hrow, -, hlive, hstart⟩ := hsequence 0 2 first third 0 (days 30)
    (days 90) (days 60) hget hget' (by decide) heq.1 heq'.1 (by simp [heq.2.1])
    (by simp [heq'.2.1]) heq.2.2.1 heq.2.2.2 heq'.2.2 (by decide)
  have hnone := List.all_eq_true.mp hgap _ (Table.get?_eq_some_iff.mp hrow)
  simp [hlive, hstart] at hnone

end ChmabaPay
