import ChmabaPay.Billing.Settlement

/-! # The billing sweeps as moves of the book

The renewal sweep raises invoices one by one; the enforcement sweep freezes
accounts, which the book does not see, and retires abandoned purchases.
-/

namespace ChmabaPay

open Calendar Relational

section Sweeps

variable {settings : Settings} {now : Instant} {occasion : Occasion}

theorem mem_subscriptionPlans {tables : Tables} {key : ℕ} {row : PlanSubscription}
    {plan : Plan} : (key, row, plan) ∈ subscriptionPlans tables ↔
      tables.subscriptions.get? key = some row ∧ tables.plans.get? row.planId = some plan := by
  simp only [subscriptionPlans, List.mem_filterMap, Option.map_eq_some_iff, Prod.mk.injEq,
    Prod.exists]
  constructor
  · rintro ⟨_, _, hmem, _, hplan, rfl, rfl, rfl⟩
    exact ⟨Table.get?_eq_some_iff.mpr hmem, hplan⟩
  · rintro ⟨hrow, hplan⟩
    exact ⟨key, row, Table.get?_eq_some_iff.mp hrow, plan, hplan, rfl, rfl, rfl⟩

/-- No live invoice of the window means nothing stands in its way. -/
theorem findInvoiceForWindow_eq_none {tables : Tables} {key : ℕ} {start : Instant}
    (hnone : findInvoiceForWindow tables key start = none) (invoiceKey : ℕ)
    {invoice : PlanInvoice} (hcovers : invoice.Covers key start) :
    tables.book.Alone invoiceKey invoice := by
  intro other row hrow hne hsubscription hstart
  have hfalse := Table.find?_eq_none_iff.mp hnone other row hrow
  rw [hcovers.subscription] at hsubscription
  rw [hcovers.periodStart] at hstart
  simpa [hsubscription, hstart] using hfalse

/-- The invoice of a fresh window, wherever it is inserted. -/
theorem newInvoice_covers (now : Instant) (tables : Tables) (key : ℕ) (row : PlanSubscription)
    (plan : Plan) (start : Instant) :
    (newInvoice now tables key row plan start (start + creditPeriod) start).Covers key start :=
  ⟨rfl, rfl, rfl, rfl⟩

theorem insertInvoice_book (tables : Tables) (invoice : PlanInvoice) :
    Tables.book { tables with invoices := tables.invoices.insert invoice } =
      tables.book.putInvoice tables.invoices.next invoice := by
  ext1 <;> funext key
  · rfl
  · simp

theorem insertSubscription_book (tables : Tables) (row : PlanSubscription) :
    Tables.book { tables with subscriptions := tables.subscriptions.insert row } =
      tables.book.putSubscription tables.subscriptions.next row := by
  ext1 <;> funext key
  · simp
  · rfl

theorem insertPurchase_book (tables : Tables) (row : PlanSubscription) (invoice : PlanInvoice) :
    Tables.book { tables with
      subscriptions := tables.subscriptions.insert row
      invoices := tables.invoices.insert invoice } =
      (tables.book.putSubscription tables.subscriptions.next row).putInvoice
        tables.invoices.next invoice := by
  ext1 <;> funext key
  · simp
  · simp

theorem issueInvoice_eq (now : Instant) (tables : Tables) (key : ℕ) (row : PlanSubscription)
    (plan : Plan) (periodStart periodEnd dueAt : Instant) :
    ∃ invoices, (issueInvoice now tables key row plan periodStart periodEnd dueAt).2 =
      { tables with invoices := invoices } := by
  unfold issueInvoice
  split
  · exact ⟨_, rfl⟩
  · split
    · exact ⟨_, rfl⟩
    · exact ⟨_, rfl⟩

/-- The renewal sweep writes invoices and touches nothing else. -/
theorem issueDueInvoices_eq (settings : Settings) (now : Instant) (tables : Tables)
    (limit : ℕ) :
    ∃ invoices, (issueDueInvoices settings now tables limit).2 =
      { tables with invoices := invoices } := by
  unfold issueDueInvoices
  generalize ([] : List Issued) = raised
  generalize dueSubscriptions settings now tables limit = due
  induction due generalizing raised tables with
  | nil => exact ⟨tables.invoices, rfl⟩
  | cons head rest ih =>
      obtain ⟨invoices, heq⟩ := issueInvoice_eq now tables head.1 head.2.1 head.2.2
        head.2.1.nextBillingAt (head.2.1.nextBillingAt + creditPeriod) head.2.1.nextBillingAt
      obtain ⟨invoices', heq'⟩ := ih (issueRenewal now tables head).2
        (raised ++ [(issueRenewal now tables head).1])
      refine ⟨invoices', ?_⟩
      rw [List.foldl_cons, issueNext, heq', issueRenewal, heq]

/-- One renewal is one move or none. -/
theorem issueRenewal_moves (hnow : occasion.now = now)
    (hlead : occasion.lead = leadPeriod settings) (hplatform : occasion.platform)
    {tables : Tables} {key : ℕ} {row : PlanSubscription} (plan : Plan)
    (hrow : tables.subscriptions.get? key = some row)
    (hlive : row.isLive = true) (hdue : row.nextBillingAt ≤ now + leadPeriod settings) :
    Moves occasion tables.book (issueRenewal now tables (key, row, plan)).2.book := by
  unfold issueRenewal issueInvoice
  dsimp only
  split
  · exact .refl
  · split
    · exact .refl
    next hnone =>
      refine .single ?_
      have hcovers := newInvoice_covers now tables key row plan row.nextBillingAt
      rw [insertInvoice_book]
      exact .raise tables.book key row tables.invoices.next _ hrow hlive (by
          rw [hnow, hlead]
          exact hdue) (by simp) rfl hcovers rfl rfl
        (findInvoiceForWindow_eq_none hnone _ hcovers) hplatform

theorem mem_dueSubscriptions {tables : Tables} {limit key : ℕ} {row : PlanSubscription}
    {plan : Plan} (hmem : (key, row, plan) ∈ dueSubscriptions settings now tables limit) :
    tables.subscriptions.get? key = some row ∧ row.isLive = true ∧
      row.nextBillingAt ≤ now + leadPeriod settings := by
  have hsorted := List.mem_of_mem_take hmem
  rw [List.mem_insertionSort, List.mem_filter] at hsorted
  obtain ⟨hjoined, hfilter⟩ := hsorted
  simp only [Bool.and_eq_true, decide_eq_true_eq] at hfilter
  exact ⟨(mem_subscriptionPlans.mp hjoined).1, hfilter.1.1.1, hfilter.1.2⟩

/-- The renewal sweep raises invoices one by one. -/
theorem issueDueInvoices_moves (hnow : occasion.now = now)
    (hlead : occasion.lead = leadPeriod settings) (hplatform : occasion.platform)
    (tables : Tables) (limit : ℕ) :
    Moves occasion tables.book (issueDueInvoices settings now tables limit).2.book := by
  have hrows : ∀ key row plan, (key, row, plan) ∈ dueSubscriptions settings now tables limit →
      tables.subscriptions.get? key = some row ∧ row.isLive = true ∧
        row.nextBillingAt ≤ now + leadPeriod settings := fun _ _ _ => mem_dueSubscriptions
  unfold issueDueInvoices
  generalize ([] : List Issued) = raised
  generalize dueSubscriptions settings now tables limit = due at hrows
  induction due generalizing raised tables with
  | nil => exact .refl
  | cons head rest ih =>
      obtain ⟨key, row, plan⟩ := head
      obtain ⟨hrow, hlive, hsoon⟩ := hrows key row plan List.mem_cons_self
      obtain ⟨invoices, heq⟩ := issueInvoice_eq now tables key row plan row.nextBillingAt
        (row.nextBillingAt + creditPeriod) row.nextBillingAt
      refine (issueRenewal_moves hnow hlead hplatform plan hrow hlive hsoon).trans
        (ih (issueRenewal now tables (key, row, plan)).2 _ fun other later plan hmem => ?_)
      rw [issueRenewal, heq]
      exact hrows other later plan (List.mem_cons_of_mem _ hmem)

theorem freezeAccount_book (settings : Settings) (tables : Tables)
    (overdue : ℕ × PlanInvoice × Account) :
    (freezeAccount settings tables overdue).book = tables.book := rfl

theorem freezeAccount_keeps (settings : Settings) (tables : Tables)
    (overdue : ℕ × PlanInvoice × Account) :
    tables.Keeps (freezeAccount settings tables overdue) := by
  refine ⟨rfl, fun key account haccount => ?_, fun key store hstore => ⟨_, hstore⟩⟩
  exact Option.isSome_iff_exists.mp (by
    simp only [freezeAccount, recordAudit, Table.get?_update, haccount]
    split <;> rfl)

theorem updateSubscription_book (tables : Tables) (key : ℕ) (now : Instant) :
    Tables.book { tables with
      subscriptions := tables.subscriptions.update key (PlanSubscription.cancel now) } =
      tables.book.retireWhere now fun current _ => decide (current = key) := by
  ext1 <;> funext current
  · simp only [Tables.book_subscriptions, Table.get?_update, Book.retireWhere_subscriptions,
      decide_eq_true_eq]
    split <;> simp
  · rfl

/-- A parked purchase gives up its unpaid invoices and is then retired. -/
theorem expirePurchase_moves (hnow : occasion.now = now) (hplatform : occasion.platform)
    {tables : Tables} {key : ℕ} {row : PlanSubscription}
    (hrow : tables.subscriptions.get? key = some row)
    (hpending : row.status = .pending) (hold : row.createdAt + creditPeriod ≤ now) :
    Moves occasion tables.book (expirePurchase now tables (key, row)).book := by
  subst hnow
  have hvoid : Tables.book { tables with
        invoices := tables.invoices.updateWhere
          (fun _ invoice => decide (invoice.subscriptionId = some key) && invoice.isUnpaid)
          (PlanInvoice.withdraw occasion.now .superseded) } =
      tables.book.withdrawWhere occasion.now
        (fun _ invoice => decide (invoice.subscriptionId = some key) && invoice.isUnpaid)
        .superseded := by
    ext1 <;> funext current
    · rfl
    · exact Table.get?_updateWhere _ _ _ _
  have hretire := updateSubscription_book { tables with
    invoices := tables.invoices.updateWhere
      (fun _ invoice => decide (invoice.subscriptionId = some key) && invoice.isUnpaid)
      (PlanInvoice.withdraw occasion.now .superseded) } key occasion.now
  unfold expirePurchase
  rw [hretire, hvoid]
  refine .tail (.single (.withdraw _ _ _ ?_)) (.retire _ _ ?_)
  · intro current invoice hinvoice hselected
    exact (Bool.and_eq_true _ _ ▸ hselected).2
  · intro current parked hparked hselected
    obtain rfl : current = key := by simpa using hselected
    obtain rfl := Option.some.inj (hrow.symm.trans hparked)
    refine .inr ⟨⟨hpending, hold, fun invoiceKey invoice hinvoice hsubscription => ?_⟩, hplatform⟩
    obtain ⟨original, horiginal, rfl⟩ := Option.map_eq_some_iff.mp hinvoice
    by_cases hselected : original.subscriptionId = some current ∧ original.isUnpaid = true
    · simp only [Bool.and_eq_true, decide_eq_true_eq, if_pos hselected]
      rfl
    · simp only [Bool.and_eq_true, decide_eq_true_eq, if_neg hselected] at hsubscription ⊢
      simpa [hsubscription] using hselected

/-- Retiring one purchase leaves the other subscriptions in place. -/
theorem expirePurchase_get? {tables : Tables} {key other : ℕ} {row : PlanSubscription}
    (hne : other ≠ key) :
    (expirePurchase now tables (key, row)).subscriptions.get? other =
      tables.subscriptions.get? other := by
  simp [expirePurchase, hne]

theorem expireAbandonedPurchases_moves (hnow : occasion.now = now)
    (hplatform : occasion.platform) (tables : Tables) (limit : ℕ) :
    Moves occasion tables.book (expireAbandonedPurchases now tables limit).2.book ∧
      tables.Keeps (expireAbandonedPurchases now tables limit).2 := by
  unfold expireAbandonedPurchases
  dsimp only
  generalize hparked : (tables.subscriptions.select fun _ row =>
    decide (row.status = .pending) && decide (row.createdAt ≤ now - creditPeriod)).take limit =
      parked
  have hdistinct : parked.Pairwise fun first second => first.1 ≠ second.1 := by
    rw [← hparked]
    have hsorted := tables.subscriptions.sorted.imp (fun {first second : ℕ × PlanSubscription}
      (hlt : first.1 < second.1) => Nat.ne_of_lt hlt)
    exact (hsorted.filter _).take
  have hrows : ∀ key row, (key, row) ∈ parked → tables.subscriptions.get? key = some row ∧
      row.status = .pending ∧ row.createdAt + creditPeriod ≤ now := by
    intro key row hmem
    rw [← hparked] at hmem
    have hselected := List.mem_of_mem_take hmem
    simp only [Table.mem_select, Bool.and_eq_true, decide_eq_true_eq] at hselected
    exact ⟨hselected.1, hselected.2.1, le_sub_iff_add_le.mp hselected.2.2⟩
  clear hparked
  induction parked generalizing tables with
  | nil => exact ⟨.refl, .refl tables⟩
  | cons head rest ih =>
      obtain ⟨key, row⟩ := head
      obtain ⟨hhead, hrest⟩ := List.pairwise_cons.mp hdistinct
      obtain ⟨hrow, hpending, hold⟩ := hrows key row List.mem_cons_self
      have hmoves := expirePurchase_moves hnow hplatform hrow hpending hold
      obtain ⟨hmoves', hkeeps⟩ := ih (expirePurchase now tables (key, row)) hrest
        fun other later hmem => by
          rw [expirePurchase_get? (hhead _ hmem).symm]
          exact hrows other later (List.mem_cons_of_mem _ hmem)
      exact ⟨hmoves.trans hmoves', (Tables.Keeps.of_eq rfl rfl rfl : tables.Keeps
        (expirePurchase now tables (key, row))).trans hkeeps⟩

theorem enforceGrace_moves (hnow : occasion.now = now) (hplatform : occasion.platform)
    (tables : Tables) (limit : ℕ) :
    Moves occasion tables.book (enforceGrace settings now tables limit).2.book ∧
      tables.Keeps (enforceGrace settings now tables limit).2 := by
  have hfreeze : ∀ (overdue : List (ℕ × PlanInvoice × Account)) (current : Tables),
      (overdue.foldl (freezeAccount settings) current).book = current.book ∧
        current.Keeps (overdue.foldl (freezeAccount settings) current) := by
    intro overdue
    induction overdue with
    | nil => exact fun current => ⟨rfl, .refl current⟩
    | cons head rest ih =>
        intro current
        obtain ⟨hbook, hkeeps⟩ := ih (freezeAccount settings current head)
        exact ⟨hbook.trans (freezeAccount_book settings current head),
          (freezeAccount_keeps settings current head).trans hkeeps⟩
  unfold enforceGrace
  dsimp only
  split
  · obtain ⟨hbook, hkeeps⟩ := hfreeze (((unpaidInvoiceQuery tables true).take limit).filter
      fun row => row.2.1.dueAt.any fun dueAt => decide (dueAt + gracePeriod settings ≤ now)) tables
    obtain ⟨hmoves, hkeeps'⟩ := expireAbandonedPurchases_moves hnow hplatform
      ((((unpaidInvoiceQuery tables true).take limit).filter fun row =>
        row.2.1.dueAt.any fun dueAt => decide (dueAt + gracePeriod settings ≤ now)).foldl
          (freezeAccount settings) tables) 500
    exact ⟨hbook ▸ hmoves, hkeeps.trans hkeeps'⟩
  · exact expireAbandonedPurchases_moves hnow hplatform tables 500

end Sweeps

end ChmabaPay
