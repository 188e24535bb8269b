import ChmabaPay.Billing.Runs

/-! # A paid invoice and the plan it bought

An invoice becomes paid in two ways: settled within its grace line, where its
own subscription is extended, or granted anew past it. In the first case nothing
revives a subscription that was canceled in the meantime, so the plan is in
force exactly when its subscription was still to be had.
-/

namespace ChmabaPay

open Calendar Relational Execution

variable {occasion : Occasion} {before after : Book}

/-- How an invoice comes to read `paid` by one move. -/
theorem Move.paid_origin (hmove : Move occasion before after) {key : ℕ}
    {invoice' : PlanInvoice} (hinvoice' : after.invoices key = some invoice')
    (hpaid : invoice'.status = .paid)
    (hnew : ∀ invoice, before.invoices key = some invoice → invoice.status ≠ .paid) :
    (∃ invoice billed row start, before.invoices key = some invoice ∧
        occasion.settles key invoice ∧ before.subscriptions billed = some row ∧
        invoice.Covers billed start ∧ occasion.now ≤ start + occasion.grace ∧
        invoice'.Covers billed start ∧ invoice'.accountId = invoice.accountId ∧
        after.subscriptions billed =
          some { Book.activated occasion.now row with nextBillingAt := start + creditPeriod }) ∨
      ∃ lapsedKey lapsed billed row, occasion.settles lapsedKey lapsed ∧
        invoice'.Covers billed occasion.now ∧ row.status = .active ∧
        row.accountId = invoice'.accountId ∧
        row.nextBillingAt = occasion.now + creditPeriod ∧
        after.subscriptions billed = some row := by
  cases hmove with
  | retire | openLive => exact absurd hpaid (hnew invoice' (by simpa using hinvoice'))
  | withdraw keep reason =>
      obtain ⟨invoice, hinvoice, rfl⟩ := Option.map_eq_some_iff.mp hinvoice'
      by_cases hselected : keep key invoice = true
      · simp [hselected, PlanInvoice.withdraw] at hpaid
      · exact absurd (by simpa [hselected] using hpaid) (hnew invoice hinvoice)
  | park _ _ invoiceKey invoice _ _ _ _ _ _ _ hopen | raise _ _ invoiceKey invoice _ _ _ _ hopen =>
      by_cases heq : key = invoiceKey
      · obtain rfl : invoice = invoice' := by simpa [heq] using hinvoice'
        simp [hopen] at hpaid
      · exact absurd hpaid (hnew invoice' (by simpa [heq] using hinvoice'))
  | collect collectedKey collected paymentId hcollected hunpaid =>
      by_cases heq : key = collectedKey
      · obtain rfl : collected.collect paymentId = invoice' := by simpa [heq] using hinvoice'
        simp only [PlanInvoice.collect] at hpaid
        split at hpaid
        · cases hpaid
        · exact absurd hpaid hunpaid
      · exact absurd hpaid (hnew invoice' (by simpa [heq] using hinvoice'))
  | grant grantedKey granted billed row start status paidAt hgranted hrow hcovers hgrounds =>
      by_cases heq : key = grantedKey
      · subst heq
        obtain rfl : granted.resolve status paidAt = invoice' := by simpa using hinvoice'
        obtain rfl : status = .paid := hpaid
        rcases hgrounds with ⟨-, -, hsettles, hearly⟩ | ⟨hstatus | hstatus, -⟩
        · refine .inl ⟨granted, billed, row, start, hgranted, hsettles, hrow, hcovers, hearly,
            ⟨hcovers.1, hcovers.2, hcovers.3, hcovers.4⟩, rfl, ?_⟩
          simp [hrow]
        · cases hstatus
        · cases hstatus
      · exact absurd hpaid (hnew invoice' (by simpa [heq] using hinvoice'))
  | regrant lapsedKey lapsed start paymentId oldKey old billed row grantedKey granted
      hlapsed hunpaid hcovers hold hsettles hlate hfresh hstatus hnext hplan hrowAccount
      hfreshInvoice hgrantedPaid hgranted haccount =>
      by_cases hvoid : key = lapsedKey
      · obtain rfl : lapsed.lapse occasion.now paymentId = invoice' := by
          simpa [hvoid] using hinvoice'
        simp [PlanInvoice.lapse, PlanInvoice.withdraw] at hpaid
      · by_cases heq : key = grantedKey
        · have hrow : granted = invoice' := by simpa [hvoid, heq, heq ▸ hvoid] using hinvoice'
          subst hrow
          exact .inr ⟨lapsedKey, lapsed, billed, row, hsettles, hgranted, hstatus,
            hrowAccount.trans haccount.symm, hnext, by simp⟩
        · exact absurd hpaid (hnew invoice' (by simpa [hvoid, heq] using hinvoice'))

/-- Without a settlement no invoice becomes paid. -/
theorem Moves.paid_before (hmoves : Moves occasion before after)
    (hidle : ∀ key invoice, ¬ occasion.settles key invoice) {key : ℕ} {invoice' : PlanInvoice}
    (hinvoice' : after.invoices key = some invoice') (hpaid : invoice'.status = .paid) :
    ∃ invoice, before.invoices key = some invoice ∧ invoice.status = .paid := by
  induction hmoves generalizing invoice' with
  | refl => exact ⟨invoice', hinvoice', hpaid⟩
  | tail _ hmove ih =>
      by_contra hnone
      rcases hmove.paid_origin hinvoice' hpaid
        (fun invoice hinvoice hwas => hnone (ih hinvoice hwas)) with
        ⟨invoice, _, _, _, -, hsettles, -⟩ | ⟨lapsedKey, lapsed, _, _, hsettles, -⟩
      · exact hidle _ _ hsettles
      · exact hidle _ _ hsettles

/-! ## The plan a paid invoice bought -/

/-- The invoice's subscription is in force, is the account's only one, and is
covered to the end of the invoice's period. -/
def InForce (tables : Tables) (invoice : PlanInvoice) : Prop :=
  ∃ key row periodEnd, invoice.subscriptionId = some key ∧
    tables.subscriptions.get? key = some row ∧ row.accountId = invoice.accountId ∧
    row.isLive = true ∧
    (∀ other row', tables.subscriptions.get? other = some row' →
      row'.accountId = invoice.accountId → row'.isLive = true → other = key) ∧
    invoice.periodEnd = some periodEnd ∧ periodEnd ≤ row.nextBillingAt

/-- Every invoice that became paid between two states is in force in the second. -/
def PaidInForce (before after : Tables) : Prop :=
  ∀ key invoice', after.invoices.get? key = some invoice' → invoice'.status = .paid →
    (∀ invoice, before.invoices.get? key = some invoice → invoice.status ≠ .paid) →
    InForce after invoice'

/-- No invoice is settled within its grace line after its subscription was
canceled. -/
def SettlesInForce (settings : Settings) (world : World) (input : Timed) : Prop :=
  ∀ key invoice billed row, world.db.tables.invoices.get? key = some invoice →
    input.op.settles world.db.tables key invoice → invoice.subscriptionId = some billed →
    world.db.tables.subscriptions.get? billed = some row → row.status = .canceled →
    isLapsed settings invoice (input.moment world) = true

theorem Book.Wellformed.inForce {account plan : ℕ → Prop} {tables : Tables}
    (hbook : tables.book.Wellformed account plan) {invoice : PlanInvoice} {key : ℕ}
    {start : Instant} (hcovers : invoice.Covers key start) {row : PlanSubscription}
    (hrow : tables.subscriptions.get? key = some row)
    (haccount : row.accountId = invoice.accountId) (hlive : row.isLive = true)
    (hnext : row.nextBillingAt = start + creditPeriod) : InForce tables invoice := by
  refine ⟨key, row, start + creditPeriod, hcovers.subscription, hrow, haccount, hlive, ?_,
    hcovers.periodEnd, hnext.ge⟩
  intro other row' hrow' haccount' hlive'
  by_contra hne
  have hidle := hbook.live key row hrow hlive other row' hrow' hne
    (haccount'.trans haccount.symm)
  rw [hidle] at hlive'
  cases hlive'

theorem step_paidInForce {settings : Settings} {world : World} (hworld : world.Wellformed)
    {input : Timed} (hinput : SettlesInForce settings world input) :
    PaidInForce world.db.tables (next (step settings) world input).db.tables := by
  intro key invoice' hinvoice' hpaid hnew
  rcases step_moves settings hworld input with
    ⟨-, hdb⟩ | ⟨response, -, -, hmoves, hidle | hsame | hmove, hkeeps⟩
  · rw [hdb] at hinvoice'
    exact absurd hpaid (hnew invoice' hinvoice')
  · obtain ⟨invoice, hinvoice, hwas⟩ := Moves.paid_before hmoves
      (fun key invoice => (hidle key invoice).1) hinvoice' hpaid
    exact absurd hwas (hnew invoice hinvoice)
  · have hinvoice : world.book.invoices key = some invoice' := hsame ▸ hinvoice'
    exact absurd hpaid (hnew invoice' hinvoice)
  · have hafter := step_wellformed settings hworld input
    rcases hmove.paid_origin hinvoice' hpaid hnew with
      ⟨invoice, billed, row, start, hinvoice, hsettles, hrow, hcovers, hearly, hcovers', haccount,
        hrow'⟩ | ⟨lapsedKey, lapsed, billed, row, -, hcovers', hstatus, haccount, hnext, hrow'⟩
    · obtain ⟨owner, ownerRow, ownerStart, hbacked, howner, hsame⟩ :=
        hworld.backed key invoice hinvoice
      obtain ⟨rfl, rfl⟩ := hbacked.unique hcovers
      obtain rfl := Option.some.inj (howner.symm.trans hrow)
      have hevolves := Book.evolves_activated (world.occasion settings input response).now ownerRow
        (ownerStart + creditPeriod)
      refine hafter.inForce hcovers' hrow' (hevolves.account.trans (hsame.trans haccount.symm)) ?_
        rfl
      have hhad : ownerRow.status ≠ .canceled := by
        intro hcanceled
        have hlapsed := hinput key invoice owner ownerRow hinvoice hsettles hcovers.subscription
          howner hcanceled
        rw [isLapsed_iff settings hcovers] at hlapsed
        exact absurd hlapsed (not_lt.mpr hearly)
      cases hstatus : ownerRow.status with
      | canceled => exact absurd hstatus hhad
      | pending | active | trial =>
          simp [Book.activated, hstatus, PlanSubscription.isLive]
    · exact hafter.inForce hcovers' hrow' haccount (PlanSubscription.isLive_of_active hstatus)
        hnext

/-- In every run that settles no invoice in time for a canceled subscription,
every invoice that becomes paid has its plan in force at that moment. -/
theorem paid_invoice_in_force {settings : Settings} {world : World} (hinitial : Initial world)
    {inputs : List Timed}
    (halong : Along (step settings) (SettlesInForce settings) world inputs) :
    Along (step settings) (fun state input =>
      PaidInForce state.db.tables (next (step settings) state input).db.tables) world inputs :=
  along_of_invariant World.Wellformed (SettlesInForce settings) _
    (fun _ input hstate _ => step_wellformed settings hstate input)
    (fun _ _ hstate hinput => step_paidInForce hstate hinput) hinitial.wellformed halong

/-- Nothing has been canceled yet. -/
theorem SettlesInForce.of_none_canceled {settings : Settings} {world : World} {input : Timed}
    (hnone : world.db.tables.subscriptions.rows.all
      (fun row => decide (row.2.status ≠ .canceled)) = true) :
    SettlesInForce settings world input := by
  intro key invoice billed row _ _ _ hrow hcanceled
  have hrow' := List.all_eq_true.mp hnone _ (Table.get?_eq_some_iff.mp hrow)
  exact absurd hcanceled (by simpa using hrow')

theorem paid_invoice_in_force_purchase :
    Along (step {}) (SettlesInForce {}) Specimen.world purchaseRun ∧
      Along (step {}) (fun state input =>
        PaidInForce state.db.tables (next (step {}) state input).db.tables) Specimen.world
          purchaseRun := by
  have halong : Along (step {}) (SettlesInForce {}) Specimen.world purchaseRun :=
    ⟨.of_none_canceled (by decide +kernel), .of_none_canceled (by decide +kernel),
      .of_none_canceled (by decide +kernel), .of_none_canceled (by decide +kernel), trivial⟩
  exact ⟨halong, paid_invoice_in_force Specimen.initial_world halong⟩

/-- A renewal is billed, its code is handed out, the operator moves the account
to another plan, and the code is paid within the grace line. -/
def assignedAwayRun : List Timed :=
  [Specimen.after 0 (.assignAccountPlan 0 1 "starter" "comped"),
    Specimen.afterDays 25 (.issueDueInvoices 100),
    Specimen.after 60 (.getInvoiceKhqr Specimen.rail 1 0 "pay_1"),
    Specimen.after 60 (.assignAccountPlan 0 1 "pro" "upgrade"),
    Specimen.after 60 (.markPaid "pay_1" Specimen.credit)]

/-- The invoice reads `paid` while the subscription it bills is canceled. -/
theorem paid_invoice_out_of_force :
    Initial Specimen.world ∧
      ¬ Along (step {}) (fun state input =>
        PaidInForce state.db.tables (next (step {}) state input).db.tables) Specimen.world
          assignedAwayRun := by
  refine ⟨Specimen.initial_world, fun halong => ?_⟩
  have hlast := halong.2.2.2.2.1
  set before := run (step {}) Specimen.world (assignedAwayRun.take 4) with hbefore
  set final := run (step {}) Specimen.world assignedAwayRun with hfinal
  have hunpaid : (before.db.tables.invoices.get? 0).map PlanInvoice.status = some .opened := by
    decide +kernel
  have hpaid : (final.db.tables.invoices.get? 0).map (fun row => (row.status, row.subscriptionId)) =
      some (.paid, some 0) := by decide +kernel
  have hcanceled : (final.db.tables.subscriptions.get? 0).map PlanSubscription.isLive =
      some false := by decide +kernel
  obtain ⟨invoice', hinvoice', heq⟩ := Option.map_eq_some_iff.mp hpaid
  obtain ⟨hstatus, hbilled⟩ := Prod.mk.inj heq
  obtain ⟨key, row, periodEnd, hkey, hrow, -, hlive, -⟩ :=
    hlast 0 invoice' hinvoice' hstatus fun invoice hinvoice hwas => by
      change before.db.tables.invoices.get? 0 = some invoice at hinvoice
      simp [hinvoice, hwas] at hunpaid
  obtain rfl : key = 0 := Option.some.inj (hkey.symm.trans hbilled)
  change final.db.tables.subscriptions.get? 0 = some row at hrow
  simp [hrow, hlive] at hcanceled

end ChmabaPay
