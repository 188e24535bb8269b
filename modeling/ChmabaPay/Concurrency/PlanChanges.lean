import ChmabaPay.Billing.Dunning
import ChmabaPay.Concurrency.Settled
import ChmabaPay.Services.Allowance
import ChmabaPay.Stores.Places

/-! # Plan changes side by side

A plan change reads the subscription in force and the open invoices, and writes later
without a lock. Two requests of one account may read the same subscription: each cancels
it and opens one of its own. Runs in which every commit still finds what its request had
read keep one subscription in force.
-/

namespace ChmabaPay

open Calendar Relational Execution Fallible Interleaving

/-! ## What one account may have -/

def PlanSubscription.InForce (accountId : ℕ) (row : PlanSubscription) : Prop :=
  row.accountId = accountId ∧ row.isLive = true

instance (accountId : ℕ) : DecidablePred (PlanSubscription.InForce accountId) :=
  fun row => inferInstanceAs (Decidable (row.accountId = accountId ∧ row.isLive = true))

/-- The keys of the account's unpaid invoices. -/
def Tables.unpaidInvoices (tables : Tables) (accountId : ℕ) : Finset ℕ :=
  ((tables.invoices.select fun _ invoice =>
    decide (invoice.accountId = accountId) && invoice.isUnpaid).map Prod.fst).toFinset

/-- One subscription in force at most, and at most one unpaid invoice more than a number
given. -/
structure SinglePlan (tables : Tables) (accountId unpaid : ℕ) : Prop where
  live : tables.subscriptions.AtMostOnce (PlanSubscription.InForce accountId)
  invoices : (tables.unpaidInvoices accountId).card ≤ unpaid + 1

/-- The reads that expect a single row do not meet two. -/
structure SingleReads (now : Instant) (tables : Tables) (accountId : ℕ) : Prop where
  active : getActiveSub tables accountId ≠ .error .multipleResults
  stores : planMaxStores tables accountId ≠ .error .multipleResults
  quota : ∀ mode, checkPlanQuota now tables accountId mode ≠ .error .multipleResults

section Reads

variable {tables : Tables} {accountId key : ℕ}

theorem mem_unpaidInvoices : key ∈ tables.unpaidInvoices accountId ↔
    ∃ invoice, tables.invoices.get? key = some invoice ∧ invoice.accountId = accountId ∧
      invoice.isUnpaid = true := by
  simp only [Tables.unpaidInvoices, List.mem_toFinset, mem_map_select, Bool.and_eq_true,
    decide_eq_true_eq]

/-- A list whose rows carry distinct keys, all of them one, has a row at most. -/
theorem oneOrNone_of_single {β : Type} {rows : List β} (keyOf : β → ℕ)
    (hsorted : rows.Pairwise fun first second => keyOf first < keyOf second)
    (hsame : ∀ first ∈ rows, ∀ second ∈ rows, keyOf first = keyOf second) :
    ∃ found, oneOrNone rows = .ok found := by
  rcases rows with _ | ⟨first, _ | ⟨second, rest⟩⟩
  · exact ⟨none, rfl⟩
  · exact ⟨some first, rfl⟩
  · have hlt := List.rel_of_pairwise_cons hsorted List.mem_cons_self
    have heq := hsame first List.mem_cons_self second (by simp)
    omega

/-- The subscriptions in force with their plans. -/
theorem activeSubs_single
    (hlive : tables.subscriptions.AtMostOnce (PlanSubscription.InForce accountId)) :
    ∃ found, oneOrNone ((subscriptionPlans tables).filter fun row =>
      decide (row.2.1.accountId = accountId) && row.2.1.isLive) = .ok found := by
  refine oneOrNone_of_single Prod.fst ?_ fun first hfirst second hsecond => ?_
  · have hsorted : (subscriptionPlans tables).Pairwise fun first second =>
        first.1 < second.1 := by
      refine List.Pairwise.filterMap _ ?_ tables.subscriptions.sorted
      intro first second hlt entry hentry entry' hentry'
      obtain ⟨plan, -, rfl⟩ := Option.map_eq_some_iff.mp hentry
      obtain ⟨plan', -, rfl⟩ := Option.map_eq_some_iff.mp hentry'
      exact hlt
    exact hsorted.filter _
  · simp only [List.mem_filter, Bool.and_eq_true, decide_eq_true_eq] at hfirst hsecond
    exact hlive _ _ _ _ (mem_subscriptionPlans.mp hfirst.1).1
      (mem_subscriptionPlans.mp hsecond.1).1 hfirst.2 hsecond.2

theorem SinglePlan.reads {unpaid : ℕ} (hsingle : SinglePlan tables accountId unpaid)
    (now : Instant) : SingleReads now tables accountId := by
  obtain ⟨found, hfound⟩ := activeSubs_single hsingle.live
  have hplans : ∃ plan, oneOrNone (livePlans tables accountId) = .ok plan := by
    unfold livePlans
    rcases hrows : (subscriptionPlans tables).filter fun row =>
        decide (row.2.1.accountId = accountId) && row.2.1.isLive with _ | ⟨first, _ | ⟨_, _⟩⟩
    · exact ⟨none, by rw [hrows]; rfl⟩
    · exact ⟨some first.2.2, by rw [hrows]; rfl⟩
    · rw [hrows] at hfound
      cases hfound
  obtain ⟨plan, hplan⟩ := hplans
  refine ⟨?_, ?_, fun mode => ?_⟩
  · rw [getActiveSub, hfound]
    exact fun hcontra => by cases hcontra
  · simp [planMaxStores, hplan, bind, Except.bind, pure, Except.pure]
  · unfold checkPlanQuota
    simp only [hplan, bind, Except.bind, pure, Except.pure]
    split
    · exact fun hcontra => by cases hcontra
    · split
      · exact fun hcontra => by cases hcontra
      · exact fun hcontra => by cases hcontra

end Reads

/-! ## What a plan change writes -/

/-- A row of a subscription is left alone or canceled. -/
def PlanSubscription.Kept (before after : Option PlanSubscription) : Prop :=
  after = before ∨ ∃ row now, before = some row ∧ after = some (row.cancel now)

/-- A row of an invoice is left alone or voided. -/
def PlanInvoice.Kept (before after : Option PlanInvoice) : Prop :=
  after = before ∨ ∃ row now reason, before = some row ∧ after = some (row.withdraw now reason)

/-- What a plan change does to the book: it opens one subscription, in force when the plan
is free, and for a plan that is not free it raises one invoice once no other is unpaid. -/
structure PlanChange.Writes (change : PlanChange) (before after : Book) : Prop where
  subscriptions : ∃ opened, before.subscriptions opened = none ∧
    (∀ row, after.subscriptions opened = some row → row.isLive = true →
      change.plan.monthlyFeeCents ≤ 0) ∧
    ∀ key, key ≠ opened →
      PlanSubscription.Kept (before.subscriptions key) (after.subscriptions key)
  left : change.plan.monthlyFeeCents ≤ 0 → ∀ key row, change.old.map Prod.fst = some key →
    before.subscriptions key = some row →
    ∃ now, after.subscriptions key = some (row.cancel now)
  invoices : ∃ raised, before.invoices raised = none ∧
    (change.plan.monthlyFeeCents ≤ 0 → after.invoices raised = none) ∧
    ∀ key, key ≠ raised → PlanInvoice.Kept (before.invoices key) (after.invoices key)
  cleared : 0 < change.plan.monthlyFeeCents → ∀ key row, before.invoices key = some row →
    row.accountId = change.accountId → row.isUnpaid = true →
    ∃ now reason, after.invoices key = some (row.withdraw now reason)

section Writes

variable {now : Instant} {tables tables' : Tables} {change : PlanChange} {out : ChangePlanOut}

theorem Book.kept_of_retireWhere (book : Book) (now : Instant)
    (keep : ℕ → PlanSubscription → Bool) (key : ℕ) :
    PlanSubscription.Kept (book.subscriptions key)
      ((book.retireWhere now keep).subscriptions key) := by
  rw [Book.retireWhere_subscriptions]
  cases book.subscriptions key with
  | none => exact .inl rfl
  | some row =>
      rw [Option.map_some]
      split
      · exact .inr ⟨row, now, rfl, rfl⟩
      · exact .inl rfl

theorem Book.kept_of_withdrawWhere (book : Book) (now : Instant)
    (keep : ℕ → PlanInvoice → Bool) (reason : VoidReason) (key : ℕ) :
    PlanInvoice.Kept (book.invoices key) ((book.withdrawWhere now keep reason).invoices key) := by
  rw [Book.withdrawWhere_invoices]
  cases book.invoices key with
  | none => exact .inl rfl
  | some row =>
      rw [Option.map_some]
      split
      · exact .inr ⟨row, now, reason, rfl, rfl⟩
      · exact .inl rfl

theorem moveToFreePlan_writes (hfree : change.plan.monthlyFeeCents ≤ 0) :
    change.Writes tables.book (moveToFreePlan now tables change).2.book := by
  rw [moveToFreePlan_book]
  refine ⟨⟨tables.subscriptions.next, by simp, fun _ _ _ => hfree, fun key hne => ?_⟩,
    fun _ key row hold hrow => ⟨now, ?_⟩,
    ⟨tables.invoices.next, by simp, fun _ => by simp, fun key _ => ?_⟩, fun hpaid => ?_⟩
  · rw [Book.putSubscription_subscriptions, if_neg hne]
    exact Book.kept_of_retireWhere _ now _ key
  · have hne : key ≠ tables.subscriptions.next := by
      rintro rfl
      simp at hrow
    rw [Book.putSubscription_subscriptions, if_neg hne]
    simp [hold, show tables.subscriptions.get? key = some row from hrow]
  · rw [Book.putSubscription_invoices, Book.retireWhere_invoices]
    exact Book.kept_of_withdrawWhere _ now _ _ key
  · omega

/-- Before it parks the new subscription a purchase leaves no invoice unpaid. -/
theorem clearOutstanding_book {cleared : Tables}
    (hclear : clearOutstanding now tables change = .ok cleared) :
    (∀ key, PlanSubscription.Kept (tables.book.subscriptions key)
        (cleared.book.subscriptions key)) ∧
      (∀ key, PlanInvoice.Kept (tables.book.invoices key) (cleared.book.invoices key)) ∧
      ∀ key row, tables.book.invoices key = some row → row.accountId = change.accountId →
        row.isUnpaid = true → ∃ now reason,
          cleared.book.invoices key = some (row.withdraw now reason) := by
  unfold clearOutstanding at hclear
  split at hclear
  · next hnone =>
    obtain rfl := Except.ok.inj hclear
    refine ⟨fun _ => .inl rfl, fun _ => .inl rfl, fun key row hrow haccount hunpaid => ?_⟩
    have hkeep := Table.find?_eq_none_iff.mp hnone key row hrow
    simp [haccount, hunpaid] at hkeep
  · split at hclear
    · cases hclear
    · obtain rfl := Except.ok.inj hclear
      rw [retireLiveSubscriptions_book, voidOpenInvoices_book]
      refine ⟨fun key => Book.kept_of_retireWhere _ now _ key, fun key => ?_,
        fun key row hrow haccount hunpaid => ⟨now, .downgraded, ?_⟩⟩
      · rw [Book.retireWhere_invoices]
        exact Book.kept_of_withdrawWhere _ now _ _ key
      · rw [Book.retireWhere_invoices, Book.withdrawWhere_invoices, hrow, Option.map_some, if_pos]
        simp [haccount, hunpaid]

/-- An invoice is raised under the next key only. -/
theorem issueInvoice_book_invoices (now : Instant) (tables : Tables) (subscriptionId : ℕ)
    (subscription : PlanSubscription) (plan : Plan) (periodStart periodEnd dueAt : Instant)
    (key : ℕ) (hne : key ≠ tables.invoices.next) :
    (issueInvoice now tables subscriptionId subscription plan periodStart periodEnd
      dueAt).2.book.invoices key = tables.book.invoices key := by
  unfold issueInvoice
  split
  · rfl
  · split
    · rfl
    · rw [insertInvoice_book, Book.putInvoice_invoices, if_neg hne]

theorem PlanSubscription.Kept.eq_none {before after : Option PlanSubscription}
    (hkept : PlanSubscription.Kept before after) (hafter : after = none) : before = none := by
  rcases hkept with hsame | ⟨row, now, -, hcanceled⟩
  · rw [← hsame, hafter]
  · rw [hafter] at hcanceled
    cases hcanceled

theorem PlanInvoice.Kept.eq_none {before after : Option PlanInvoice}
    (hkept : PlanInvoice.Kept before after) (hafter : after = none) : before = none := by
  rcases hkept with hsame | ⟨row, now, reason, -, hvoided⟩
  · rw [← hsame, hafter]
  · rw [hafter] at hvoided
    cases hvoided

theorem purchasePlan_writes (hpaid : 0 < change.plan.monthlyFeeCents)
    (hpurchase : purchasePlan now tables change = .ok (out, tables')) :
    change.Writes tables.book tables'.book := by
  simp only [purchasePlan, bind_eq_ok] at hpurchase
  obtain ⟨cleared, hclear, hpurchase⟩ := hpurchase
  obtain ⟨hsubscriptions, hinvoices, hcleared⟩ := clearOutstanding_book hclear
  set parked : Tables := { cleared with
    subscriptions := cleared.subscriptions.insert (change.subscription now .pending none) }
    with hparked
  have hraised := issueInvoice_book_invoices now parked cleared.subscriptions.next
    (change.subscription now .pending none) change.plan now (now + creditPeriod) now
  obtain ⟨invoices, hissue⟩ := issueInvoice_eq now parked cleared.subscriptions.next
    (change.subscription now .pending none) change.plan now (now + creditPeriod) now
  have hbook : tables'.book = (issueInvoice now parked cleared.subscriptions.next
      (change.subscription now .pending none) change.plan now (now + creditPeriod) now).2.book := by
    split at hpurchase
    · simp at hpurchase
    all_goals
      simp only [pure_eq_ok, Prod.mk.injEq] at hpurchase
      obtain ⟨-, rfl⟩ := hpurchase
      rw [recordAudit_book]
  have hsubscription : ∀ key, tables'.book.subscriptions key =
      if key = cleared.subscriptions.next then some (change.subscription now .pending none)
      else cleared.book.subscriptions key := by
    intro key
    rw [hbook, hissue, hparked]
    exact Table.get?_insert _ _ _
  have hkept : ∀ key, key ≠ cleared.invoices.next →
      tables'.book.invoices key = cleared.book.invoices key := by
    intro key hne
    rw [hbook, hraised key hne]
    rfl
  refine ⟨⟨cleared.subscriptions.next, (hsubscriptions _).eq_none (by simp), ?_, ?_⟩,
    fun hfree => ?_, ⟨cleared.invoices.next, (hinvoices _).eq_none (by simp), fun hfree => ?_, ?_⟩,
    fun _ key row hrow haccount hunpaid => ?_⟩
  · intro row hrow hlive
    rw [hsubscription, if_pos rfl] at hrow
    obtain rfl := Option.some.inj hrow
    cases hlive
  · intro key hne
    rw [hsubscription, if_neg hne]
    exact hsubscriptions key
  · omega
  · omega
  · intro key hne
    rw [hkept key hne]
    exact hinvoices key
  · obtain ⟨moment, reason, hvoided⟩ := hcleared key row hrow haccount hunpaid
    have hne : key ≠ cleared.invoices.next := by
      rintro rfl
      simp at hvoided
    exact ⟨moment, reason, (hkept key hne).trans hvoided⟩

theorem applyPlanChange_writes (happly : applyPlanChange now tables change = .ok (out, tables')) :
    change.Writes tables.book tables'.book := by
  unfold applyPlanChange at happly
  split at happly
  · next hfree =>
    obtain rfl : (moveToFreePlan now tables change).2 = tables' := by rw [Except.ok.inj happly]
    exact moveToFreePlan_writes hfree
  · next hpaid => exact purchasePlan_writes (not_le.mp hpaid) happly

end Writes

/-! ## What a commit leaves -/

section Rows

variable {accountId : ℕ}

theorem writeRow_canceled {before row : PlanSubscription} (now : Instant)
    (hlive : before.isLive = true)
    {current : Option PlanSubscription}
    (hwritten : writeRow (fun _ => false) (some before) (some (before.cancel now)) current =
      some row) : row.isLive = false := by
  have hne : before.cancel now ≠ before := by
    intro hsame
    rw [← hsame] at hlive
    cases hlive
  cases current with
  | none => simp [writeRow, hne] at hwritten
  | some found =>
      rw [writeRow_of_ne _ hne] at hwritten
      obtain rfl := Option.some.inj hwritten
      have hchanged : SubscriptionStatus.canceled ≠ before.status := by
        intro hsame
        simp [PlanSubscription.isLive, ← hsame] at hlive
      simp [Columns.write, PlanSubscription.cancel, assign_of_ne hchanged,
        PlanSubscription.isLive]

/-- A subscription that is left alone or canceled keeps its account, and is in force
afterwards only if it was. -/
theorem PlanSubscription.Kept.written {loaded edited : Option PlanSubscription}
    (hkept : PlanSubscription.Kept loaded edited) (current : Option PlanSubscription) :
    writeRow (fun _ => false) loaded edited current = current ∨
      ∃ row row', current = some row ∧
        writeRow (fun _ => false) loaded edited current = some row' ∧
        row'.accountId = row.accountId ∧ (row'.isLive = true → row.isLive = true) := by
  rcases hkept with rfl | ⟨before, now, rfl, rfl⟩
  · exact .inl (writeRow_self _ _ _)
  by_cases hsame : before.cancel now = before
  · rw [hsame]
    exact .inl (writeRow_self _ _ _)
  cases current with
  | none => exact .inl (by simp [writeRow, hsame])
  | some row =>
      refine .inr ⟨row, _, rfl, writeRow_of_ne _ hsame row, ?_, fun hwritten => ?_⟩
      · simp [Columns.write, PlanSubscription.cancel, assign]
      · rcases assign_cases before.status SubscriptionStatus.canceled row.status with
          hstatus | hstatus
        · rwa [PlanSubscription.isLive, ← hstatus]
        · change (decide (assign before.status .canceled row.status = .trial) ||
            decide (assign before.status .canceled row.status = .active)) = true at hwritten
          rw [hstatus] at hwritten
          cases hwritten

theorem PlanSubscription.Kept.inForce {loaded edited current : Option PlanSubscription}
    (hkept : PlanSubscription.Kept loaded edited) {row' : PlanSubscription}
    (hwritten : writeRow (fun _ => false) loaded edited current = some row')
    (hforce : row'.InForce accountId) : ∃ row, current = some row ∧ row.InForce accountId := by
  rcases hkept.written current with hsame | ⟨row, found, hrow, hfound, howner, hlive⟩
  · exact ⟨row', hsame ▸ hwritten, hforce⟩
  · obtain rfl := Option.some.inj (hfound.symm.trans hwritten)
    exact ⟨row, hrow, howner ▸ hforce.1, hlive hforce.2⟩

theorem PlanSubscription.Kept.outlives {loaded edited current : Option PlanSubscription}
    (hkept : PlanSubscription.Kept loaded edited) {row : PlanSubscription}
    (hrow : current = some row) :
    ∃ row', writeRow (fun _ => false) loaded edited current = some row' ∧
      (row'.isLive = true → row.isLive = true) := by
  rcases hkept.written current with hsame | ⟨found, row', hfound, hrow', -, hlive⟩
  · exact ⟨row, hsame.trans hrow, id⟩
  · obtain rfl := Option.some.inj (hfound.symm.trans hrow)
    exact ⟨row', hrow', hlive⟩

theorem writeRow_withdrawn {before row : PlanInvoice} (now : Instant) (reason : VoidReason)
    (hunpaid : before.isUnpaid = true) {current : Option PlanInvoice}
    (hwritten : writeRow (fun _ => false) (some before) (some (before.withdraw now reason))
      current = some row) : row.isUnpaid = false := by
  have hchanged : InvoiceStatus.void ≠ before.status := by
    intro hsame
    simp [PlanInvoice.isUnpaid, ← hsame, InvoiceStatus.isUnpaid] at hunpaid
  have hne : before.withdraw now reason ≠ before := fun hsame =>
    hchanged (congrArg PlanInvoice.status hsame)
  cases current with
  | none => simp [writeRow, hne] at hwritten
  | some found =>
      rw [writeRow_of_ne _ hne] at hwritten
      obtain rfl := Option.some.inj hwritten
      simp [Columns.write, PlanInvoice.withdraw, assign_of_ne hchanged, PlanInvoice.isUnpaid,
        InvoiceStatus.isUnpaid]

/-- An invoice that is left alone or voided is unpaid afterwards only if it was. -/
theorem PlanInvoice.Kept.written {loaded edited current : Option PlanInvoice}
    (hkept : PlanInvoice.Kept loaded edited) {row' : PlanInvoice}
    (hwritten : writeRow (fun _ => false) loaded edited current = some row') :
    ∃ row, current = some row ∧ row'.accountId = row.accountId ∧
      (row'.isUnpaid = true → row.isUnpaid = true) := by
  rcases hkept with rfl | ⟨before, now, reason, rfl, rfl⟩
  · rw [writeRow_self] at hwritten
    exact ⟨row', hwritten, rfl, id⟩
  by_cases hsame : before.withdraw now reason = before
  · rw [hsame, writeRow_self] at hwritten
    exact ⟨row', hwritten, rfl, id⟩
  cases current with
  | none => simp [writeRow, hsame] at hwritten
  | some row =>
      rw [writeRow_of_ne _ hsame] at hwritten
      obtain rfl := Option.some.inj hwritten
      refine ⟨row, rfl, by simp [Columns.write, PlanInvoice.withdraw, assign], ?_⟩
      intro hwritten
      rcases assign_cases before.status InvoiceStatus.void row.status with hstatus | hstatus
      · rwa [PlanInvoice.isUnpaid, ← hstatus]
      · change (assign before.status .void row.status).isUnpaid = true at hwritten
        rw [hstatus] at hwritten
        cases hwritten

end Rows

/-! ## Sessions that change plan -/

/-- The request changes the plan of an account. -/
def Request.ChangesPlan (accountId : ℕ) : Request → Prop
  | .changePlan requester _ => requester = accountId
  | _ => False

instance (accountId : ℕ) : DecidablePred (Request.ChangesPlan accountId)
  | .changePlan requester _ => inferInstanceAs (Decidable (requester = accountId))
  | .markPaid _ _ | .reversePayment _ _ | .expireDuePayments => isFalse id

def Task.commitsChange : Task → Option PlanChange
  | .commitPlanChange change => some change
  | _ => none

/-- A move to a free plan is committed while nothing but the subscription its request had
read is in force; a purchase is committed while no more invoices are unpaid than a number
given, apart from those its request had seen. -/
def Session.FindsPlan (accountId unpaid : ℕ) (db : Database) (_ : Instant) (session : Session) :
    Prop :=
  ∀ change ∈ session.task.bind Task.commitsChange,
    (change.plan.monthlyFeeCents ≤ 0 → ∀ row ∈ db.tables.subscriptions.rows,
      row.2.InForce accountId → change.old.map Prod.fst = some row.1) ∧
    (0 < change.plan.monthlyFeeCents →
      (db.tables.unpaidInvoices accountId \ session.loaded.unpaidInvoices accountId).card ≤ unpaid)

instance (accountId unpaid : ℕ) (db : Database) (now : Instant) (session : Session) :
    Decidable (session.FindsPlan accountId unpaid db now) :=
  inferInstanceAs (Decidable (∀ change ∈ session.task.bind Task.commitsChange, _ ∧ _))

/-- The subscriptions a session had loaded are still there, and none came into force. -/
def Tables.Outlives (loaded current : Tables) : Prop :=
  ∀ key row, loaded.subscriptions.get? key = some row →
    ∃ row', current.subscriptions.get? key = some row' ∧
      (row'.isLive = true → row.isLive = true)

/-- The subscription a request found in force is on record. -/
def PlanChange.OldKnown (change : PlanChange) (tables : Tables) : Prop :=
  ∀ key, change.old.map Prod.fst = some key → ∃ row, tables.subscriptions.get? key = some row

/-- How far a plan change of the account has come. -/
def Session.ChangesPlan (accountId : ℕ) (db : Database) (session : Session) : Prop :=
  match session.task with
  | none => True
  | some (.changePlan requester _) =>
      requester = accountId ∧ session.edited.book = session.loaded.book
  | some (.applyPlanChange change) => change.accountId = accountId ∧
      session.edited.book = session.loaded.book ∧ change.OldKnown db.tables
  | some (.commitPlanChange change) => change.accountId = accountId ∧
      change.Writes session.loaded.book session.edited.book ∧ change.OldKnown session.loaded ∧
      session.loaded.Outlives db.tables
  | some _ => False

section Commit

variable {change : PlanChange} {accountId unpaid : ℕ} {session : Session} {current : Tables}

/-- Rows of subscriptions survive a commit, and none comes into force but the new one. -/
theorem PlanChange.Writes.outlives
    (hwrites : change.Writes session.loaded.book session.edited.book) :
    current.Outlives (session.written current) := by
  obtain ⟨opened, hnone, hfree, hkept⟩ := hwrites.subscriptions
  intro key row hrow
  simp only [Session.written, Tables.write, Table.get?_write]
  by_cases hkey : key = opened
  · -- the commit does not touch a row that is already there
    subst hkey
    have hloaded : session.loaded.subscriptions.get? key = none := hnone
    rw [hloaded, hrow]
    refine ⟨row, ?_, id⟩
    cases session.edited.subscriptions.get? key <;> simp [writeRow]
  · exact (hkept key hkey).outlives hrow

/-- What is in force after a commit was in force before, or is what a free plan opens. -/
theorem PlanChange.Writes.inForce (current : Tables)
    (hwrites : change.Writes session.loaded.book session.edited.book) :
    ∃ opened, session.loaded.subscriptions.get? opened = none ∧ ∀ key row,
      (session.written current).subscriptions.get? key = some row → row.InForce accountId →
      (∃ row', current.subscriptions.get? key = some row' ∧ row'.InForce accountId) ∨
        (key = opened ∧ change.plan.monthlyFeeCents ≤ 0) := by
  obtain ⟨opened, hnone, hfree, hkept⟩ := hwrites.subscriptions
  have hloaded : session.loaded.subscriptions.get? opened = none := hnone
  refine ⟨opened, hloaded, fun key row hrow hforce => ?_⟩
  simp only [Session.written, Tables.write, Table.get?_write] at hrow
  by_cases hkey : key = opened
  · subst hkey
    rw [hloaded] at hrow
    cases hcurrent : current.subscriptions.get? key with
    | some row' =>
        rw [hcurrent] at hrow
        obtain rfl : row' = row := by
          cases hedited : session.edited.subscriptions.get? key <;>
            simpa [hedited, writeRow] using hrow
        exact .inl ⟨row', rfl, hforce⟩
    | none =>
        cases hedited : session.edited.subscriptions.get? key with
        | none => simp [hedited, hcurrent, writeRow] at hrow
        | some added =>
            obtain rfl : added = row := by simpa [hedited, hcurrent, writeRow] using hrow
            exact .inr ⟨rfl, hfree added hedited hforce.2⟩
  · exact .inl ((hkept key hkey).inForce hrow hforce)

/-- A move to a free plan ends the subscription its request had read. -/
theorem PlanChange.Writes.ends_old
    (hwrites : change.Writes session.loaded.book session.edited.book)
    (hfree : change.plan.monthlyFeeCents ≤ 0) (hknown : change.OldKnown session.loaded)
    (houtlives : session.loaded.Outlives current) {key : ℕ} {row row' : PlanSubscription}
    (hold : change.old.map Prod.fst = some key)
    (hrow : current.subscriptions.get? key = some row) (hlive : row.isLive = true)
    (hwritten : (session.written current).subscriptions.get? key = some row') :
    row'.isLive = false := by
  obtain ⟨before, hbefore⟩ := hknown key hold
  obtain ⟨found, hfound, hcame⟩ := houtlives key before hbefore
  obtain rfl := Option.some.inj (hrow.symm.trans hfound)
  obtain ⟨moment, hcanceled⟩ := hwrites.left hfree key before hold hbefore
  have hedited : session.edited.subscriptions.get? key = some (before.cancel moment) := hcanceled
  simp only [Session.written, Tables.write, Table.get?_write, hbefore, hedited] at hwritten
  exact writeRow_canceled moment (hcame hlive) hwritten

/-- What is unpaid after a commit was unpaid before and, when something was bought, was
not seen unpaid by the request, or is the invoice it raised. -/
theorem PlanChange.Writes.unpaidInvoices (current : Tables)
    (hwrites : change.Writes session.loaded.book session.edited.book)
    (haccount : change.accountId = accountId) :
    (change.plan.monthlyFeeCents ≤ 0 →
      (session.written current).unpaidInvoices accountId ⊆ current.unpaidInvoices accountId) ∧
    (0 < change.plan.monthlyFeeCents → ∃ raised,
      (session.written current).unpaidInvoices accountId ⊆ insert raised
        (current.unpaidInvoices accountId \ session.loaded.unpaidInvoices accountId)) := by
  obtain ⟨raised, hnone, hfree, hkept⟩ := hwrites.invoices
  have hloaded : session.loaded.invoices.get? raised = none := hnone
  have hcurrent : ∀ key, key ≠ raised → key ∈ (session.written current).unpaidInvoices accountId →
      key ∈ current.unpaidInvoices accountId := by
    intro key hkey hmem
    obtain ⟨row', hrow', howner, hunpaid⟩ := mem_unpaidInvoices.mp hmem
    simp only [Session.written, Tables.write, Table.get?_write] at hrow'
    obtain ⟨row, hrow, hsame, hwas⟩ := (hkept key hkey).written hrow'
    exact mem_unpaidInvoices.mpr ⟨row, hrow, hsame ▸ howner, hwas hunpaid⟩
  constructor
  · intro hplan key hmem
    by_cases hkey : key = raised
    · subst hkey
      have hedited : session.edited.invoices.get? key = none := hfree hplan
      obtain ⟨row', hrow', howner, hunpaid⟩ := mem_unpaidInvoices.mp hmem
      simp only [Session.written, Tables.write, Table.get?_write, hloaded, hedited] at hrow'
      exact mem_unpaidInvoices.mpr ⟨row', hrow', howner, hunpaid⟩
    · exact hcurrent key hkey hmem
  · intro hplan
    refine ⟨raised, fun key hmem => ?_⟩
    by_cases hkey : key = raised
    · exact Finset.mem_insert.mpr (.inl hkey)
    refine Finset.mem_insert_of_mem (Finset.mem_sdiff.mpr ⟨hcurrent key hkey hmem, fun hseen => ?_⟩)
    -- what the request saw unpaid it voided
    obtain ⟨before, hbefore, howned, hwas⟩ := mem_unpaidInvoices.mp hseen
    obtain ⟨moment, reason, hvoided⟩ :=
      hwrites.cleared hplan key before hbefore (howned.trans haccount.symm) hwas
    have hedited : session.edited.invoices.get? key = some (before.withdraw moment reason) :=
      hvoided
    obtain ⟨row', hrow', -, hunpaid⟩ := mem_unpaidInvoices.mp hmem
    simp only [Session.written, Tables.write, Table.get?_write, hbefore, hedited] at hrow'
    rw [writeRow_withdrawn moment reason hwas hrow'] at hunpaid
    cases hunpaid

/-- A commit that finds what its request had read keeps the account single. -/
theorem SinglePlan.commit (hsingle : SinglePlan current accountId unpaid)
    (haccount : change.accountId = accountId)
    (hwrites : change.Writes session.loaded.book session.edited.book)
    (hknown : change.OldKnown session.loaded) (houtlives : session.loaded.Outlives current)
    (hfree : change.plan.monthlyFeeCents ≤ 0 → ∀ row ∈ current.subscriptions.rows,
      row.2.InForce accountId → change.old.map Prod.fst = some row.1)
    (hpaid : 0 < change.plan.monthlyFeeCents →
      (current.unpaidInvoices accountId \ session.loaded.unpaidInvoices accountId).card ≤
        unpaid) : SinglePlan (session.written current) accountId unpaid := by
  constructor
  · obtain ⟨opened, -, hforce⟩ := hwrites.inForce current
    intro key key' row row' hrow hrow' hin hin'
    by_cases hplan : change.plan.monthlyFeeCents ≤ 0
    · -- only the subscription the move opens is in force
      have honly : ∀ key row, (session.written current).subscriptions.get? key = some row →
          row.InForce accountId → key = opened := by
        intro key row hrow hin
        rcases hforce key row hrow hin with ⟨before, hbefore, hwas⟩ | ⟨hkey, -⟩
        · have hold := hfree hplan (key, before) (Table.get?_eq_some_iff.mp hbefore) hwas
          have hended := hwrites.ends_old hplan hknown houtlives hold hbefore hwas.2 hrow
          rw [hin.2] at hended
          cases hended
        · exact hkey
      rw [honly key row hrow hin, honly key' row' hrow' hin']
    · obtain ⟨before, hbefore, hwas⟩ :=
        (hforce key row hrow hin).resolve_right fun hopened => hplan hopened.2
      obtain ⟨before', hbefore', hwas'⟩ :=
        (hforce key' row' hrow' hin').resolve_right fun hopened => hplan hopened.2
      exact hsingle.live key key' before before' hbefore hbefore' hwas hwas'
  · obtain ⟨hfewer, hraised⟩ := hwrites.unpaidInvoices current haccount
    rcases le_or_gt change.plan.monthlyFeeCents 0 with hplan | hplan
    · exact (Finset.card_le_card (hfewer hplan)).trans hsingle.invoices
    · obtain ⟨raised, hsubset⟩ := hraised hplan
      calc ((session.written current).unpaidInvoices accountId).card
          ≤ _ := Finset.card_le_card hsubset
        _ ≤ _ := Finset.card_insert_le _ _
        _ ≤ unpaid + 1 := Nat.add_le_add_right (hpaid hplan) 1

end Commit

/-! ## Runs -/

section Runs

variable {settings : Settings} {accountId unpaid : ℕ}

theorem SinglePlan.congr {tables tables' : Tables} (hbook : tables'.book = tables.book)
    (hsingle : SinglePlan tables accountId unpaid) : SinglePlan tables' accountId unpaid := by
  have hsubscriptions : tables'.subscriptions.get? = tables.subscriptions.get? :=
    congrArg Book.subscriptions hbook
  have hinvoices : tables'.invoices.get? = tables.invoices.get? := congrArg Book.invoices hbook
  refine ⟨hsingle.live.of_get? (congrFun hsubscriptions), ?_⟩
  have hsame : tables'.unpaidInvoices accountId = tables.unpaidInvoices accountId := by
    ext key
    rw [mem_unpaidInvoices, mem_unpaidInvoices, hinvoices]
  rw [hsame]
  exact hsingle.invoices

theorem Tables.Outlives.trans {first second third : Tables} (hfirst : first.Outlives second)
    (hsecond : second.Outlives third) : first.Outlives third := by
  intro key row hrow
  obtain ⟨row', hrow', hlive⟩ := hfirst key row hrow
  obtain ⟨row'', hrow'', hlive'⟩ := hsecond key row' hrow'
  exact ⟨row'', hrow'', fun hlast => hlive (hlive' hlast)⟩

theorem Tables.Outlives.of_book {tables tables' : Tables} (hbook : tables'.book = tables.book) :
    tables.Outlives tables' := by
  intro key row hrow
  have hsame : tables'.subscriptions.get? = tables.subscriptions.get? :=
    congrArg Book.subscriptions hbook
  exact ⟨row, hsame ▸ hrow, id⟩

theorem PlanChange.OldKnown.outlives {change : PlanChange} {tables tables' : Tables}
    (hknown : change.OldKnown tables) (houtlives : tables.Outlives tables') :
    change.OldKnown tables' := by
  intro key hold
  obtain ⟨row, hrow⟩ := hknown key hold
  obtain ⟨row', hrow', -⟩ := houtlives key row hrow
  exact ⟨row', hrow'⟩

/-- A session stays where it is while the rows it had loaded outlive another's step. -/
theorem Session.ChangesPlan.outlives {db db' : Database} {session : Session}
    (hsession : session.ChangesPlan accountId db) (houtlives : db.tables.Outlives db'.tables) :
    session.ChangesPlan accountId db' := by
  unfold Session.ChangesPlan at hsession ⊢
  cases htask : session.task with
  | none => trivial
  | some task =>
      rw [htask] at hsession
      cases task with
      | changePlan requester planCode => exact hsession
      | applyPlanChange change =>
          exact ⟨hsession.1, hsession.2.1, hsession.2.2.outlives houtlives⟩
      | commitPlanChange change =>
          exact ⟨hsession.1, hsession.2.1, hsession.2.2.1, hsession.2.2.2.trans houtlives⟩
      | _ => exact hsession.elim

/-- A session that has edited nothing sees the rows committed by now. -/
theorem view_book {loaded edited : Tables} (current : Tables)
    (hsame : edited.book = loaded.book) :
    (Tables.view loaded edited current).book = current.book ∧
      (Tables.reload loaded edited current).book = current.book := by
  have hsubscriptions : ∀ key, edited.subscriptions.get? key = loaded.subscriptions.get? key :=
    congrFun (congrArg Book.subscriptions hsame)
  have hinvoices : ∀ key, edited.invoices.get? key = loaded.invoices.get? key :=
    congrFun (congrArg Book.invoices hsame)
  constructor
  · ext1 <;> funext key
    · simp [Tables.view, viewRow, hsubscriptions key]
    · simp [Tables.view, viewRow, hinvoices key]
  · ext1 <;> funext key
    · simp [Tables.reload, reloadRow, hsubscriptions key]
    · simp [Tables.reload, reloadRow, hinvoices key]

theorem Database.draw_book (db : Database) (edited : Tables) :
    (db.draw edited).tables.book = db.tables.book := rfl

/-- One step of a session that changes the plan: its rows outlive it, the account stays
single, and the session has come further. -/
theorem Session.ChangesPlan.advance {db : Database} {session : Session}
    (hsession : session.ChangesPlan accountId db) (hsingle : SinglePlan db.tables accountId unpaid)
    (now : Instant) (hfinds : session.FindsPlan accountId unpaid db now) :
    db.tables.Outlives (session.advance settings db now).1.tables ∧
      SinglePlan (session.advance settings db now).1.tables accountId unpaid ∧
      (session.advance settings db now).2.ChangesPlan accountId
        (session.advance settings db now).1 := by
  rcases session.advance_cases settings db now with
    ⟨hdb, hsame | hclosed⟩ | ⟨task, htask, hcommit, hvalid, heq⟩ |
      ⟨task, edited, following, htask, hpart, hexecute, heq⟩
  · rw [hdb, hsame]
    exact ⟨.of_book rfl, hsingle, hsession⟩
  · rw [hdb, hclosed]
    exact ⟨.of_book rfl, hsingle, trivial⟩
  · rw [heq]
    unfold Session.ChangesPlan at hsession
    rw [htask] at hsession
    cases task with
    | commitPlanChange change =>
        obtain ⟨haccount, hwrites, hknown, houtlives⟩ := hsession
        obtain ⟨hfree, hpaid⟩ := hfinds change (by simp [htask, Task.commitsChange])
        exact ⟨hwrites.outlives,
          hsingle.commit haccount hwrites hknown houtlives hfree hpaid, trivial⟩
    | commit => exact hsession.elim
    | _ => cases hcommit
  · rw [heq]
    refine ⟨.of_book (db.draw_book edited), hsingle.congr (db.draw_book edited), ?_⟩
    unfold Session.ChangesPlan at hsession
    rw [htask] at hsession
    cases task with
    | changePlan requester planCode =>
        obtain ⟨rfl, hsame⟩ := hsession
        obtain ⟨hview, hreload⟩ := view_book db.tables hsame
        simp only [Task.execute, bind_eq_ok, pure_eq_ok, Prod.mk.injEq] at hexecute
        obtain ⟨change, hread, rfl, rfl⟩ := hexecute
        obtain ⟨hself, hfrom⟩ := readPlanChange_eq_ok hread
        refine ⟨hself, hview.trans hreload.symm, fun key hold => ?_⟩
        obtain ⟨⟨_, row, plan⟩, hfound, rfl⟩ := Option.map_eq_some_iff.mp hold
        have hrow := ((getActiveSub_eq_ok hfrom.old).1 _ _ _ hfound).1
        have hrows : (Tables.view session.loaded session.edited db.tables).subscriptions.get? =
            db.tables.subscriptions.get? := congrArg Book.subscriptions hview
        rw [hrows] at hrow
        exact ⟨row, hrow⟩
    | applyPlanChange change =>
        obtain ⟨haccount, hsame, hknown⟩ := hsession
        obtain ⟨hview, hreload⟩ := view_book db.tables hsame
        simp only [Task.execute, bind_eq_ok, pure_eq_ok, Prod.mk.injEq] at hexecute
        obtain ⟨⟨out, changed⟩, happly, rfl, rfl⟩ := hexecute
        have hwrites := applyPlanChange_writes happly
        rw [hview, ← hreload] at hwrites
        exact ⟨haccount, hwrites, hknown.outlives (.of_book hreload),
          .of_book ((db.draw_book changed).trans hreload.symm)⟩
    | commitPlanChange change => cases hpart
    | _ => exact hsession.elim

theorem planChanges_preserved :
    Preserved (server settings) (Request.ChangesPlan accountId)
      (Session.FindsPlan accountId unpaid)
      (fun db => SinglePlan db.tables accountId unpaid)
      (fun db session => session.ChangesPlan accountId db) where
  start db request hsingle hrequest := by
    cases request with
    | changePlan requester planCode => exact ⟨hrequest, rfl⟩
    | markPaid | reversePayment | expireDuePayments => exact hrequest.elim
  own db now session hsingle hsession hfinds := (hsession.advance hsingle now hfinds).2
  other db now session bystander hsingle hsession hfinds hbystander :=
    hbystander.outlives (hsession.advance hsingle now hfinds).1

end Runs

/-- In a run of plan changes of one account, in any order of their steps, in which every
commit finds what its request had read, one subscription at most is in force, at most one
invoice more than before is unpaid, and the reads of a single row meet no two. -/
theorem plan_changes_single {settings : Settings} {pool : Server} {accountId : ℕ}
    (hidle : pool.sessions = [])
    (hlive : pool.shared.tables.subscriptions.AtMostOnce (PlanSubscription.InForce accountId))
    {turns : List (Turn Request Instant)}
    (hfinds : Along (server settings).step
      (Meets (Request.ChangesPlan accountId)
        (Session.FindsPlan accountId (pool.shared.tables.unpaidInvoices accountId).card))
      pool turns) (now : Instant) :
    SinglePlan (run (server settings).step pool turns).shared.tables accountId
        (pool.shared.tables.unpaidInvoices accountId).card ∧
      SingleReads now (run (server settings).step pool turns).shared.tables accountId := by
  have hstart : SinglePlan pool.shared.tables accountId
      (pool.shared.tables.unpaidInvoices accountId).card := ⟨hlive, Nat.le_succ _⟩
  have hrun := (planChanges_preserved.run (Pool.holds_of_idle hstart hidle) hfinds).1
  exact ⟨hrun, hrun.reads now⟩

namespace Specimen

/-- The platform with nobody connected. -/
def quietServer : Server := ⟨world.db, []⟩

/-- The shop moves to the free plan and then buys another, one request after the other. -/
def changesInTurn : List (Turn Request Instant) :=
  [.start (.changePlan 1 "free"), .advance 0 (seconds 60), .advance 0 (seconds 60),
    .advance 0 (seconds 60), .start (.changePlan 1 "pro"), .advance 1 (seconds 120),
    .advance 1 (seconds 120), .advance 1 (seconds 120)]

/-- Two clicks on the free plan: both requests read before either commits. -/
def changesTogether : List (Turn Request Instant) :=
  [.start (.changePlan 1 "free"), .start (.changePlan 1 "free"), .advance 0 (seconds 60),
    .advance 1 (seconds 60), .advance 0 (seconds 60), .advance 1 (seconds 60),
    .advance 0 (seconds 60), .advance 1 (seconds 60)]

end Specimen

theorem plan_changes_single_in_turn :
    SinglePlan (run (server {}).step Specimen.quietServer
        Specimen.changesInTurn).shared.tables 1 0 ∧
      SingleReads (seconds 180) (run (server {}).step Specimen.quietServer
        Specimen.changesInTurn).shared.tables 1 := by
  have hlive : Specimen.quietServer.shared.tables.subscriptions.AtMostOnce
      (PlanSubscription.InForce 1) := by
    intro key key' row row' hrow
    have hnone : Specimen.quietServer.shared.tables.subscriptions.get? key = none := rfl
    rw [hnone] at hrow
    cases hrow
  exact plan_changes_single rfl hlive (by decide +kernel) (seconds 180)

/-- Both clicks open a subscription, and the account can no longer be read. -/
theorem plan_changes_doubled :
    ¬ (SinglePlan (run (server {}).step Specimen.quietServer
        Specimen.changesTogether).shared.tables 1 0 ∧
      SingleReads (seconds 180) (run (server {}).step Specimen.quietServer
        Specimen.changesTogether).shared.tables 1) := by
  rintro ⟨-, hreads⟩
  have hactive : planMaxStores (run (server {}).step Specimen.quietServer
      Specimen.changesTogether).shared.tables 1 = .error .multipleResults := by decide +kernel
  exact hreads.stores hactive

end ChmabaPay
