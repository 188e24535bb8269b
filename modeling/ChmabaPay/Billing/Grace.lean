import ChmabaPay.Billing.Dunning
import ChmabaPay.Billing.Overdue

/-! # The grace period before a freeze

An account is frozen once an unpaid invoice is a grace period past its due date.
The due date of a renewal is the end of the period before it, whenever the sweep
gets to raise it. A renewal raised ahead of that date leaves the account its
grace; one raised behind it, such as the second invoice of a window whose first
was withdrawn, has used some or all of it up on the day it is written.
-/

namespace ChmabaPay

open Calendar Relational Execution Fallible

/-! ## Invoices raised in time -/

/-- The invoice was there by its due date. -/
def PlanInvoice.Timely (invoice : PlanInvoice) : Prop :=
  ∀ dueAt, invoice.dueAt = some dueAt → invoice.createdAt ≤ dueAt

def Book.Timely (book : Book) : Prop :=
  ∀ key invoice, book.invoices key = some invoice → invoice.Timely

section Edits

variable {book : Book} (htimely : book.Timely)

include htimely

theorem Book.Timely.of_invoices {after : Book} (hsame : after.invoices = book.invoices) :
    after.Timely := by
  intro key invoice hinvoice
  rw [hsame] at hinvoice
  exact htimely key invoice hinvoice

theorem Book.Timely.withdrawWhere (now : Instant) (keep : ℕ → PlanInvoice → Bool)
    (reason : VoidReason) : (book.withdrawWhere now keep reason).Timely := by
  intro key invoice hinvoice
  obtain ⟨old, hold, rfl⟩ := Option.map_eq_some_iff.mp hinvoice
  split
  · exact htimely key old hold
  · exact htimely key old hold

theorem Book.Timely.putInvoice (key : ℕ) (row : PlanInvoice) (hrow : row.Timely) :
    (book.putInvoice key row).Timely := by
  intro current invoice hinvoice
  by_cases heq : current = key
  · obtain rfl : row = invoice := by simpa [heq] using hinvoice
    exact hrow
  · exact htimely current invoice (by simpa [heq] using hinvoice)

end Edits

/-! ## Operations -/

/-- The sweep raises no renewal behind its due date. -/
def RaisesInTime (settings : Settings) (world : World) (input : Timed) : Prop :=
  ∀ limit, input.op = .issueDueInvoices limit →
    ∀ due ∈ dueSubscriptions settings (input.moment world) world.db.tables limit,
      input.moment world ≤ due.2.1.nextBillingAt

section Operations

variable {settings : Settings} {now : Instant} {tables tables' : Tables}

theorem issueInvoice_timely (htimely : tables.book.Timely) (now : Instant) (key : ℕ)
    (row : PlanSubscription) (plan : Plan) (periodStart periodEnd : Instant) {dueAt : Instant}
    (hdue : now ≤ dueAt) :
    (issueInvoice now tables key row plan periodStart periodEnd dueAt).2.book.Timely := by
  unfold issueInvoice
  split
  · exact htimely
  · split
    · exact htimely
    · rw [insertInvoice_book]
      refine htimely.putInvoice _ _ fun due heq => ?_
      obtain rfl := Option.some.inj heq
      exact hdue

theorem issueDueInvoices_timely (htimely : tables.book.Timely) {limit : ℕ}
    (hearly : ∀ due ∈ dueSubscriptions settings now tables limit, now ≤ due.2.1.nextBillingAt) :
    (issueDueInvoices settings now tables limit).2.book.Timely := by
  unfold issueDueInvoices
  generalize ([] : List Issued) = raised
  generalize dueSubscriptions settings now tables limit = due at hearly
  induction due generalizing raised tables with
  | nil => exact htimely
  | cons head rest ih =>
      rw [List.foldl_cons]
      refine ih ?_ _ fun later hlater => hearly later (List.mem_cons_of_mem _ hlater)
      exact issueInvoice_timely htimely _ _ _ _ _ _ (hearly head List.mem_cons_self)

theorem changePlan_timely (htimely : tables.book.Timely) {accountId : ℕ} {planCode : String}
    {out : ChangePlanOut}
    (hchange : changePlan now tables accountId planCode = .ok (out, tables')) :
    tables'.book.Timely := by
  simp only [changePlan, bind_eq_ok] at hchange
  obtain ⟨change, -, happly⟩ := hchange
  unfold applyPlanChange at happly
  split at happly
  · obtain rfl : (moveToFreePlan now tables change).2 = tables' := by rw [Except.ok.inj happly]
    rw [moveToFreePlan_book]
    exact (htimely.withdrawWhere now _ _).of_invoices rfl
  · simp only [purchasePlan, bind_eq_ok] at happly
    obtain ⟨cleared, hclear, happly⟩ := happly
    have hcleared : cleared.book.Timely := by
      unfold clearOutstanding at hclear
      split at hclear
      · exact Except.ok.inj hclear ▸ htimely
      · split at hclear
        · cases hclear
        · rw [← Except.ok.inj hclear, retireLiveSubscriptions_book, voidOpenInvoices_book]
          exact (htimely.withdrawWhere now _ _).of_invoices rfl
    have hparked : (Tables.book { cleared with
        subscriptions := cleared.subscriptions.insert
          (change.subscription now .pending none) }).Timely := hcleared.of_invoices rfl
    have hraised := issueInvoice_timely hparked now cleared.subscriptions.next
      (change.subscription now .pending none) change.plan now (now + creditPeriod) le_rfl
    split at happly
    · simp at happly
    all_goals
      simp only [pure_eq_ok, Prod.mk.injEq] at happly
      obtain ⟨-, rfl⟩ := happly
      exact hraised

theorem settleInvoice_timely (htimely : tables.book.Timely) {invoiceId : ℕ}
    {invoice : PlanInvoice} (hinvoice : tables.invoices.get? invoiceId = some invoice)
    (paymentId : Option ℕ) (source : String) :
    (settleInvoice settings now tables invoiceId invoice paymentId now source).book.Timely := by
  rcases settleInvoice_invoices settings now tables invoiceId invoice paymentId now source with
    hsame | ⟨-, hpaid⟩ | hlapsed
  · refine htimely.of_invoices ?_
    rw [Tables.book_invoices, hsame, Tables.book_invoices]
  · refine (htimely.putInvoice invoiceId
      (invoice.pay now) (htimely invoiceId invoice hinvoice)).of_invoices ?_
    rw [← updateInvoice_book tables hinvoice]
    exact congrArg Table.get? hpaid
  · -- the granted invoice is due on the day it is written
    have hgranted : (tables.book.putInvoice tables.invoices.next
        (grantedInvoice now tables.subscriptions.next invoice paymentId now)).Timely := by
      refine htimely.putInvoice _ _ fun due heq => ?_
      obtain rfl := Option.some.inj heq
      exact le_rfl
    rw [← insertInvoice_book] at hgranted
    have hkept : (tables.invoices.insert (grantedInvoice now tables.subscriptions.next invoice
        paymentId now)).get? invoiceId = some invoice := by
      have hne : invoiceId ≠ tables.invoices.next := fun heq => by simp [heq] at hinvoice
      simp [hne, hinvoice]
    refine (hgranted.putInvoice invoiceId (invoice.lapse now paymentId)
      (htimely invoiceId invoice hinvoice)).of_invoices ?_
    rw [← updateInvoice_book _ hkept]
    exact congrArg Table.get? hlapsed

theorem resolveInvoice_timely (hbook : tables.book.Wellformed tables.hasAccount tables.hasPlan)
    (htimely : tables.book.Timely) {actorId invoiceId : ℕ} {action : ResolveAction}
    {reason : String} {amountCents : Option Int}
    (hresolve : resolveInvoice settings now tables actorId invoiceId action reason amountCents =
      .ok tables') : tables'.book.Timely := by
  unfold resolveInvoice at hresolve
  split at hresolve
  · cases hresolve
  next invoice hinvoice =>
    have hforgive : ∀ status, (forgiveInvoice now tables invoiceId invoice status).book.Timely := by
      intro status
      obtain ⟨key, row, start, hcovers, hrow, -⟩ := hbook.backed invoiceId invoice hinvoice
      rw [forgiveInvoice_book _ _ hinvoice hcovers hrow]
      exact (htimely.putInvoice invoiceId (invoice.resolve status invoice.paidAt)
        (htimely invoiceId invoice hinvoice)).of_invoices rfl
    split at hresolve
    · cases hresolve
    · obtain rfl := Except.ok.inj hresolve
      rw [recordAudit_book]
      cases action with
      | markPaid => exact settleInvoice_timely htimely hinvoice none "admin"
      | void =>
          have hvoid : (withdrawInvoice now tables invoiceId invoice).book =
              tables.book.putInvoice invoiceId (invoice.withdraw now .operator) :=
            updateInvoice_book tables hinvoice _
          exact hvoid ▸ htimely.putInvoice invoiceId (invoice.withdraw now .operator)
            (htimely invoiceId invoice hinvoice)
      | waive => exact hforgive .waived
      | credit => exact hforgive .credited

end Operations

/-- Every operation keeps the book timely when the sweep does. -/
theorem step_timely {settings : Settings} {world : World} (hworld : world.Wellformed)
    (htimely : world.book.Timely) {input : Timed} (hinput : RaisesInTime settings world input) :
    (next (step settings) world input).book.Timely := by
  rcases step_moves settings hworld input with ⟨-, hdb⟩ | ⟨response, -, hperform, -, -, -⟩
  · simpa only [World.book, hdb] using htimely
  change Book.Timely (next (step settings) world input).db.tables.book
  generalize (next (step settings) world input).db.tables = tables' at hperform ⊢
  cases hop : input.op with
  | signUp email name renameExisting =>
      simp only [hop, perform, Except.ok.injEq, Prod.mk.injEq] at hperform
      obtain ⟨-, rfl⟩ := hperform
      refine htimely.of_invoices ?_
      unfold upsertAccount
      split
      · dsimp only [ensureFreeSubscription]
        split
        · rfl
        · rfl
      · rfl
  | createPayment | reissuePayment | markScanned | reversePayment | expireDuePayments =>
      rw [(perform_of_isSale (by rw [hop]; rfl) hperform).1]
      exact htimely
  | markPaid publicId credit =>
      simp only [hop, perform, bind_eq_ok, pure_eq_ok, Prod.mk.injEq] at hperform
      obtain ⟨⟨settledId, settled⟩, hmark, -, rfl⟩ := hperform
      obtain ⟨-, rfl⟩ | ⟨paymentId, payment, -, -, -, hsettle⟩ := markPaid_eq_ok hmark
      · exact htimely
      rcases settlePayment_book hsettle with
        ⟨-, hsame⟩ | ⟨recorded, invoiceId, invoice, hrecorded, hinvoice, -, -, hafter⟩
      · rw [hsame]
        exact htimely
      · rw [hafter]
        refine settleInvoice_timely (hrecorded ▸ htimely) ?_ _ _
        rw [← Tables.book_invoices, hrecorded]
        exact hinvoice
  | changePlan accountId planCode =>
      simp only [hop, perform, bind_eq_ok, pure_eq_ok, Prod.mk.injEq] at hperform
      obtain ⟨⟨out, changed⟩, hchange, -, rfl⟩ := hperform
      exact changePlan_timely htimely hchange
  | getInvoiceKhqr rail accountId invoiceId publicId =>
      simp only [hop, perform, bind_eq_ok, pure_eq_ok, Prod.mk.injEq] at hperform
      obtain ⟨⟨paymentId, minted⟩, hkhqr, -, rfl⟩ := hperform
      obtain ⟨invoice, hinvoice, -, hafter, -⟩ := getInvoiceKhqr_book hkhqr
      rw [hafter]
      exact htimely.putInvoice invoiceId _ (htimely invoiceId invoice hinvoice)
  | issueDueInvoices limit =>
      simp only [hop, perform, Except.ok.injEq, Prod.mk.injEq] at hperform
      obtain ⟨-, rfl⟩ := hperform
      exact issueDueInvoices_timely htimely (hinput limit hop)
  | enforceGrace limit =>
      simp only [hop, perform, Except.ok.injEq, Prod.mk.injEq] at hperform
      obtain ⟨-, rfl⟩ := hperform
      refine enforceGrace_book htimely (fun current parked hcurrent => ?_) settings limit
      rw [expirePurchase_book]
      exact (hcurrent.withdrawWhere _ _ _).of_invoices rfl
  | resolveInvoice actorId invoiceId action reason amountCents =>
      simp only [hop, perform, bind_eq_ok, pure_eq_ok, Prod.mk.injEq] at hperform
      obtain ⟨resolved, hresolve, -, rfl⟩ := hperform
      exact resolveInvoice_timely hworld htimely hresolve
  | assignAccountPlan actorId accountId planCode reason =>
      simp only [hop, perform, bind_eq_ok, pure_eq_ok, Prod.mk.injEq] at hperform
      obtain ⟨⟨subscriptionId, assigned⟩, hassign, -, rfl⟩ := hperform
      refine htimely.of_invoices ?_
      exact congrArg Table.get? (assignAccountPlan_invoices hassign)

/-! ## Freezing -/

/-- Between two states an account was frozen over an invoice: the sweep recorded
it. -/
def FrozenOver (before after : Tables) (accountId invoiceId : ℕ) : Prop :=
  ∃ key entry periodMonth totalDueCents dueAt graceDays, after.audit.get? key = some entry ∧
    before.audit.get? key = none ∧ entry.targetId = accountId ∧
    entry.action = .accountFrozen invoiceId periodMonth totalDueCents dueAt graceDays

/-- Every freeze of an enforcement sweep is over an invoice of the account that
has been there for a whole grace period. -/
def FreezesAfterGrace (settings : Settings) (world : World) (input : Timed) : Prop :=
  ∀ limit, input.op = .enforceGrace limit → ∀ accountId invoiceId,
    FrozenOver world.db.tables (next (step settings) world input).db.tables accountId invoiceId →
    ∃ invoice, world.db.tables.invoices.get? invoiceId = some invoice ∧
      invoice.accountId = accountId ∧
      invoice.createdAt + gracePeriod settings ≤ input.moment world

section Freezing

variable {settings : Settings} {now : Instant} {tables : Tables}

theorem foldl_freezeAccount_audit (overdue : List (ℕ × PlanInvoice × Account)) {key : ℕ}
    {entry : AuditLog}
    (hentry : (overdue.foldl (freezeAccount settings) tables).audit.get? key = some entry) :
    tables.audit.get? key = some entry ∨ ∃ row ∈ overdue,
      entry.targetId = row.2.1.accountId ∧
      entry.action = .accountFrozen row.1 row.2.1.periodMonth row.2.1.totalDueCents
        row.2.1.dueAt settings.billingGraceDays := by
  induction overdue generalizing tables with
  | nil => exact .inl hentry
  | cons head rest ih =>
      rcases ih hentry with hrest | ⟨row, hrow, htarget, haction⟩
      · simp only [freezeAccount, recordAudit, Table.get?_insert] at hrest
        split at hrest
        · obtain rfl := Option.some.inj hrest
          exact .inr ⟨head, List.mem_cons_self, rfl, rfl⟩
        · exact .inl hrest
      · exact .inr ⟨row, List.mem_cons_of_mem _ hrow, htarget, haction⟩

theorem expireAbandonedPurchases_audit (limit : ℕ) :
    (expireAbandonedPurchases now tables limit).2.audit = tables.audit := by
  unfold expireAbandonedPurchases
  dsimp only
  generalize (tables.subscriptions.select _).take limit = parked
  induction parked generalizing tables with
  | nil => rfl
  | cons head rest ih =>
      rw [List.foldl_cons, ih]
      rfl

/-- A sweep over a timely book freezes nobody before the grace period is over. -/
theorem enforceGrace_aged (htimely : tables.book.Timely) {limit accountId invoiceId : ℕ}
    (hfrozen : FrozenOver tables (enforceGrace settings now tables limit).2 accountId
      invoiceId) :
    ∃ invoice, tables.invoices.get? invoiceId = some invoice ∧ invoice.accountId = accountId ∧
      invoice.createdAt + gracePeriod settings ≤ now := by
  obtain ⟨key, entry, periodMonth, totalDueCents, dueAt, graceDays, hentry, hnew, htarget,
    haction⟩ := hfrozen
  unfold enforceGrace at hentry
  dsimp only at hentry
  rw [expireAbandonedPurchases_audit] at hentry
  split at hentry
  · rcases foldl_freezeAccount_audit _ hentry with hold | ⟨row, hrow, hrowTarget, hrowAction⟩
    · rw [hnew] at hold
      cases hold
    · obtain ⟨rowId, invoice, account⟩ := row
      rw [List.mem_filter] at hrow
      obtain ⟨hmem, hover⟩ := hrow
      rw [hrowAction] at haction
      obtain rfl : rowId = invoiceId := by injection haction
      obtain ⟨_, hdunned⟩ := mem_unpaidInvoiceQuery_iff.mp (List.mem_of_mem_take hmem)
      have hinvoice := hdunned.row
      refine ⟨invoice, hinvoice, hrowTarget.symm.trans htarget, ?_⟩
      obtain ⟨due, hdue, hpast⟩ := (Option.any_eq_true _ _).mp hover
      have hcreated := htimely rowId invoice hinvoice due hdue
      rw [decide_eq_true_eq] at hpast
      linarith
  · rw [hnew] at hentry
    cases hentry

end Freezing

/-! ## Runs -/

/-- In every run whose sweep raises no renewal behind its due date, no account is
frozen over an invoice that has not been there for the grace period. -/
theorem freezes_after_grace {settings : Settings} {world : World} (hinitial : Initial world)
    {inputs : List Timed}
    (halong : Along (step settings) (RaisesInTime settings) world inputs) :
    Along (step settings) (FreezesAfterGrace settings) world inputs := by
  have hnone := Initial.get?_eq_none hinitial.invoices
  refine along_of_invariant (fun state : World => state.Wellformed ∧ state.book.Timely)
    (RaisesInTime settings) _ ?_ ?_ ⟨hinitial.wellformed, ?_⟩ halong
  · rintro state input ⟨hstate, htimely⟩ hinput
    exact ⟨step_wellformed settings hstate input, step_timely hstate htimely hinput⟩
  · rintro state input ⟨hstate, htimely⟩ - limit hop accountId invoiceId hfrozen
    rcases step_moves settings hstate input with ⟨-, hdb⟩ | ⟨response, -, hperform, -, -, -⟩
    · -- nothing was committed, so nothing was recorded
      obtain ⟨key, entry, -, -, -, -, hentry, hnew, -⟩ := hfrozen
      rw [hdb, hnew] at hentry
      cases hentry
    · simp only [hop, perform, Except.ok.injEq, Prod.mk.injEq] at hperform
      rw [← hperform.2] at hfrozen
      exact enforceGrace_aged htimely hfrozen
  · intro key invoice hinvoice
    exact absurd hinvoice (by simp [World.book, hnone])

theorem RaisesInTime.of_all {settings : Settings} {world : World} {input : Timed}
    (hall : (match input.op with
      | .issueDueInvoices limit =>
          (dueSubscriptions settings (input.moment world) world.db.tables limit).all fun due =>
            decide (input.moment world ≤ due.2.1.nextBillingAt)
      | _ => true) = true) : RaisesInTime settings world input := by
  intro limit hop due hdue
  rw [hop] at hall
  exact of_decide_eq_true (List.all_eq_true.mp hall due hdue)

/-- The renewal is raised five days ahead, and its grace runs out unpaid. -/
def unpaidRenewalRun : List Timed :=
  [Specimen.after 0 (.assignAccountPlan 0 1 "starter" "comped"),
    Specimen.afterDays 25 (.issueDueInvoices 100),
    Specimen.afterDays 12 (.enforceGrace 500)]

theorem freezes_after_grace_unpaid_renewal :
    (((run (step { billingEnforceEnabled := true }) Specimen.world
        unpaidRenewalRun).db.tables.accounts.get? 1).map Account.status = some .restricted) ∧
      Along (step { billingEnforceEnabled := true })
        (RaisesInTime { billingEnforceEnabled := true }) Specimen.world unpaidRenewalRun ∧
      Along (step { billingEnforceEnabled := true })
        (FreezesAfterGrace { billingEnforceEnabled := true }) Specimen.world
          unpaidRenewalRun := by
  have halong : Along (step { billingEnforceEnabled := true })
      (RaisesInTime { billingEnforceEnabled := true }) Specimen.world unpaidRenewalRun :=
    ⟨.of_all (by decide +kernel), .of_all (by decide +kernel), .of_all (by decide +kernel),
      trivial⟩
  exact ⟨by decide +kernel, halong, freezes_after_grace Specimen.initial_world halong⟩

/-- The operator withdraws the renewal ten days past its due date, and the sweep
bills the window again. -/
def withdrawnRenewalRun : List Timed :=
  [Specimen.after 0 (.assignAccountPlan 0 1 "starter" "comped"),
    Specimen.afterDays 25 (.issueDueInvoices 100),
    Specimen.afterDays 15 (.resolveInvoice 0 0 .void "billed in error" none),
    Specimen.after 3600 (.issueDueInvoices 100),
    Specimen.after 3600 (.enforceGrace 500)]

/-- The account is frozen over an invoice that is one hour old. -/
theorem frozen_within_the_hour :
    Initial Specimen.world ∧
      ¬ Along (step { billingEnforceEnabled := true })
        (FreezesAfterGrace { billingEnforceEnabled := true }) Specimen.world
          withdrawnRenewalRun := by
  refine ⟨Specimen.initial_world, fun halong => ?_⟩
  have hlast := halong.2.2.2.2.1 500 rfl 1 1
  set before := run (step { billingEnforceEnabled := true }) Specimen.world
    (withdrawnRenewalRun.take 4) with hbefore
  set final := run (step { billingEnforceEnabled := true }) Specimen.world withdrawnRenewalRun
    with hfinal
  have hrecorded : (final.db.tables.audit.get? 2).map (fun entry => (entry.targetId,
      match entry.action with
      | .accountFrozen invoiceId _ _ _ _ => some invoiceId
      | _ => none)) = some (1, some 1) := by decide +kernel
  have hnew : before.db.tables.audit.get? 2 = none := by decide +kernel
  have hage : ((before.db.tables.invoices.get? 1).map fun invoice =>
      decide (invoice.createdAt + gracePeriod { billingEnforceEnabled := true } ≤
        final.clock)) = some false := by decide +kernel
  obtain ⟨entry, hentry, heq⟩ := Option.map_eq_some_iff.mp hrecorded
  obtain ⟨htarget, haction⟩ := Prod.mk.inj heq
  obtain ⟨invoice, hinvoice, -, haged⟩ := hlast (by
    split at haction
    next invoiceId month total due days hfrozen =>
      obtain rfl := Option.some.inj haction
      exact ⟨2, entry, month, total, due, days, hentry, hnew, htarget, hfrozen⟩
    next => cases haction)
  change before.db.tables.invoices.get? 1 = some invoice at hinvoice
  rw [hinvoice, Option.map_some, Option.some.injEq, decide_eq_false_iff_not] at hage
  exact hage haged

end ChmabaPay
