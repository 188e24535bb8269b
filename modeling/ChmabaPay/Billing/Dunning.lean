import ChmabaPay.Billing.Runs
import ChmabaPay.Payments.Evolution

/-! # Unpaid invoices and the subscriptions they bill

An unpaid invoice is dunned through a live subscription and given up with a
parked one. Once its subscription is canceled nothing collects it and nothing
writes it off, and it refuses every later purchase of the account. A plan change
and the abandonment sweep withdraw what is unpaid before they cancel. An
assignment, and a settlement that puts another subscription in force, do not:
runs in which these find nothing unpaid keep every claim collectable.
-/

namespace ChmabaPay

open Calendar Relational Execution Fallible

/-! ## The book -/

/-- The subscription is waiting to start or in force. -/
def Book.Stands (book : Book) (key : ℕ) : Prop :=
  ∃ row, book.subscriptions key = some row ∧ (row.status = .pending ∨ row.isLive = true)

/-- Nothing is unpaid on the subscription. -/
def Book.Clear (book : Book) (key : ℕ) : Prop :=
  ∀ invoiceKey invoice, book.invoices invoiceKey = some invoice →
    invoice.subscriptionId = some key → invoice.isUnpaid = false

/-- Every unpaid invoice of a subscription can still be collected. -/
def Book.Collectable (book : Book) : Prop :=
  ∀ key invoice billed, book.invoices key = some invoice → invoice.isUnpaid = true →
    invoice.subscriptionId = some billed → book.Stands billed

theorem PlanSubscription.stands_iff {row : PlanSubscription} :
    row.status = .pending ∨ row.isLive = true ↔ row.status ≠ .canceled := by
  rw [PlanSubscription.isLive_iff]
  cases row.status <;> simp

section Edits

variable {book : Book} (hcollectable : book.Collectable) (now : Instant)

include hcollectable

theorem Book.Collectable.withdrawWhere (keep : ℕ → PlanInvoice → Bool) (reason : VoidReason) :
    (book.withdrawWhere now keep reason).Collectable := by
  intro key invoice billed hinvoice hunpaid hbilled
  obtain ⟨old, hold, rfl⟩ := Option.map_eq_some_iff.mp hinvoice
  split at hunpaid
  · cases hunpaid
  next hkept =>
    rw [if_neg hkept] at hbilled
    exact hcollectable key old billed hold hunpaid hbilled

theorem Book.Collectable.retireWhere {keep : ℕ → PlanSubscription → Bool}
    (hclear : ∀ key row, book.subscriptions key = some row → keep key row = true →
      book.Clear key) : (book.retireWhere now keep).Collectable := by
  intro key invoice billed hinvoice hunpaid hbilled
  obtain ⟨row, hrow, hstands⟩ := hcollectable key invoice billed hinvoice hunpaid hbilled
  have hkept : ¬ keep billed row = true := by
    intro hselected
    have hpaid := hclear billed row hrow hselected key invoice hinvoice hbilled
    rw [hpaid] at hunpaid
    cases hunpaid
  exact ⟨row, by simp [hrow, hkept], hstands⟩

theorem Book.Collectable.putSubscription {key : ℕ} {row : PlanSubscription}
    (hfresh : book.subscriptions key = none) : (book.putSubscription key row).Collectable := by
  intro invoiceKey invoice billed hinvoice hunpaid hbilled
  obtain ⟨old, hold, hstands⟩ := hcollectable invoiceKey invoice billed hinvoice hunpaid hbilled
  have hne : billed ≠ key := by
    rintro rfl
    rw [hfresh] at hold
    cases hold
  exact ⟨old, by simp [hne, hold], hstands⟩

/-- A claim that is written is collectable itself. -/
theorem Book.Collectable.putInvoice {key : ℕ} {row : PlanInvoice}
    (hrow : row.isUnpaid = true → ∀ billed, row.subscriptionId = some billed →
      book.Stands billed) : (book.putInvoice key row).Collectable := by
  intro invoiceKey invoice billed hinvoice hunpaid hbilled
  by_cases heq : invoiceKey = key
  · obtain rfl : row = invoice := by simpa [heq] using hinvoice
    exact hrow hunpaid billed hbilled
  · exact hcollectable invoiceKey invoice billed (by simpa [heq] using hinvoice) hunpaid hbilled

/-- Putting a subscription in force cancels what it replaces only when it was
waiting to start. -/
theorem Book.Collectable.cover {key : ℕ} {row : PlanSubscription} (periodEnd : Instant)
    (hrow : book.subscriptions key = some row)
    (hclear : row.status = .pending → ∀ other live, book.subscriptions other = some live →
      other ≠ key → live.accountId = row.accountId → live.isLive = true → book.Clear other) :
    (book.cover now key row periodEnd).Collectable := by
  intro invoiceKey invoice billed hinvoice hunpaid hbilled
  obtain ⟨old, hold, hstands⟩ := hcollectable invoiceKey invoice billed hinvoice hunpaid hbilled
  by_cases heq : billed = key
  · subst heq
    obtain rfl := Option.some.inj (hrow.symm.trans hold)
    refine ⟨{ Book.activated now row with nextBillingAt := periodEnd }, by simp [hrow], ?_⟩
    rcases hstands with hpending | hlive
    · exact .inr (by simp [Book.activated, hpending, PlanSubscription.isLive])
    · have hstarted : row.status ≠ .pending := fun hpending => by
        simp [PlanSubscription.not_isLive_of_pending hpending] at hlive
      simp only [Book.activated, if_neg hstarted]
      exact .inr hlive
  · have hkept : ¬ (row.status = .pending ∧ old.accountId = row.accountId ∧
        old.isLive = true) := by
      rintro ⟨hpending, haccount, hlive⟩
      have hpaid := hclear hpending billed old hold heq haccount hlive invoiceKey invoice
        hinvoice hbilled
      rw [hpaid] at hunpaid
      cases hunpaid
    exact ⟨old, by simp [hold, heq, hkept], hstands⟩

end Edits

/-! ## Operations that withdraw first -/

section Withdrawing

variable {settings : Settings} {now : Instant} {tables : Tables} {change : PlanChange}

/-- After its invoices were withdrawn, nothing is unpaid on a subscription of the
account. -/
theorem Book.Wellformed.clear_of_withdrawn {account plan : ℕ → Prop} {book : Book}
    (hbook : book.Wellformed account plan) {accountId : ℕ} {reason : VoidReason} {key : ℕ}
    {row : PlanSubscription} (hrow : book.subscriptions key = some row)
    (haccount : row.accountId = accountId) :
    (book.withdrawWhere now
      (fun _ invoice => decide (invoice.accountId = accountId) && invoice.isUnpaid)
      reason).Clear key := by
  intro invoiceKey invoice hinvoice hbilled
  obtain ⟨old, hold, rfl⟩ := Option.map_eq_some_iff.mp hinvoice
  obtain ⟨billed, owner, start, hcovers, howner, hsame⟩ := hbook.backed invoiceKey old hold
  split
  · rfl
  next hkept =>
    rw [if_neg hkept] at hbilled
    obtain rfl := Option.some.inj (hcovers.subscription.symm.trans hbilled)
    obtain rfl := Option.some.inj (howner.symm.trans hrow)
    simpa [hsame.symm.trans haccount] using hkept

theorem moveToFreePlan_book (now : Instant) (tables : Tables) (change : PlanChange) :
    (moveToFreePlan now tables change).2.book =
      ((tables.book.withdrawWhere now
          (fun _ invoice => decide (invoice.accountId = change.accountId) && invoice.isUnpaid)
          .downgraded).retireWhere now
        (fun key _ => decide (change.old.map Prod.fst = some key))).putSubscription
          tables.subscriptions.next (change.subscription now .active (some now)) := by
  unfold moveToFreePlan
  simp only [recordAudit_book, applyStoreCap_book]
  rw [insertSubscription_book]
  cases hold : change.old with
  | none =>
      simp only [liftBillingHold_book, voidOpenInvoices_book]
      congr 1
      ext1 <;> funext key
      · simp
      · rfl
  | some found =>
      simp only [updateSubscription_book, liftBillingHold_book, voidOpenInvoices_book]
      congr 1
      ext1 <;> funext key
      · simp [eq_comm]
      · rfl

theorem expirePurchase_book (now : Instant) (tables : Tables) (parked : ℕ × PlanSubscription) :
    (expirePurchase now tables parked).book =
      (tables.book.withdrawWhere now (fun _ invoice =>
        decide (invoice.subscriptionId = some parked.1) && invoice.isUnpaid)
        .superseded).retireWhere now fun key _ => decide (key = parked.1) := by
  ext1 <;> funext key
  · simp only [expirePurchase, Tables.book_subscriptions, Table.get?_update,
      Book.retireWhere_subscriptions, Book.withdrawWhere_subscriptions, decide_eq_true_eq]
    split <;> simp
  · exact Table.get?_updateWhere _ _ _ _

/-- What an enforcement sweep keeps, as far as the book sees it. -/
theorem enforceGrace_book {invariant : Book → Prop} (hbook : invariant tables.book)
    (hexpire : ∀ (current : Tables) parked, invariant current.book →
      invariant (expirePurchase now current parked).book) (settings : Settings) (limit : ℕ) :
    invariant (enforceGrace settings now tables limit).2.book := by
  have hfreeze : ∀ (overdue : List (ℕ × PlanInvoice × Account)) (current : Tables),
      (overdue.foldl (freezeAccount settings) current).book = current.book := by
    intro overdue
    induction overdue with
    | nil => exact fun current => rfl
    | cons head rest ih => exact fun current => ih (freezeAccount settings current head)
  have hretire : ∀ (parked : List (ℕ × PlanSubscription)) (current : Tables),
      invariant current.book → invariant (parked.foldl (expirePurchase now) current).book := by
    intro parked
    induction parked with
    | nil => exact fun current hcurrent => hcurrent
    | cons head rest ih => exact fun current hcurrent => ih _ (hexpire current head hcurrent)
  unfold enforceGrace expireAbandonedPurchases
  dsimp only
  refine hretire _ _ ?_
  split
  · rw [hfreeze]
    exact hbook
  · exact hbook

variable (hbook : tables.book.Wellformed tables.hasAccount tables.hasPlan)
  (hcollectable : tables.book.Collectable)

include hbook hcollectable

theorem moveToFreePlan_collectable (hread : change.ReadFrom tables) :
    (moveToFreePlan now tables change).2.book.Collectable := by
  rw [moveToFreePlan_book]
  have hwithdrawn := hcollectable.withdrawWhere now
    (fun _ invoice => decide (invoice.accountId = change.accountId) && invoice.isUnpaid)
    .downgraded
  refine (hwithdrawn.retireWhere now fun key row hrow hselected => ?_).putSubscription (by simp)
  -- the subscription given up is the account's own
  obtain ⟨old, plan, hfound⟩ : ∃ old plan, change.old = some (key, old, plan) := by
    simpa using hselected
  obtain ⟨hold, haccount, -⟩ := (getActiveSub_eq_ok hread.old).1 key old plan hfound
  exact hbook.clear_of_withdrawn hold haccount

theorem clearOutstanding_collectable {cleared : Tables}
    (hclear : clearOutstanding now tables change = .ok cleared) : cleared.book.Collectable := by
  unfold clearOutstanding at hclear
  split at hclear
  · obtain rfl := Except.ok.inj hclear
    exact hcollectable
  · split at hclear
    · cases hclear
    · obtain rfl := Except.ok.inj hclear
      rw [retireLiveSubscriptions_book, voidOpenInvoices_book]
      refine (hcollectable.withdrawWhere now _ _).retireWhere now fun key row hrow hselected => ?_
      rw [Bool.and_eq_true, decide_eq_true_eq] at hselected
      exact hbook.clear_of_withdrawn hrow hselected.1

omit hbook in
/-- Raising an invoice for a subscription that stands. -/
theorem issueInvoice_collectable (now : Instant) {key : ℕ} (hstands : tables.book.Stands key)
    (row : PlanSubscription) (plan : Plan) (periodStart periodEnd dueAt : Instant) :
    (issueInvoice now tables key row plan periodStart periodEnd dueAt).2.book.Collectable := by
  unfold issueInvoice
  split
  · exact hcollectable
  · split
    · exact hcollectable
    · rw [insertInvoice_book]
      refine hcollectable.putInvoice fun _ billed hbilled => ?_
      obtain rfl := Option.some.inj hbilled
      exact hstands

theorem purchasePlan_collectable {out : ChangePlanOut} {tables' : Tables}
    (hpurchase : purchasePlan now tables change = .ok (out, tables')) :
    tables'.book.Collectable := by
  simp only [purchasePlan, bind_eq_ok] at hpurchase
  obtain ⟨cleared, hclear, hpurchase⟩ := hpurchase
  have hcleared := clearOutstanding_collectable hbook hcollectable hclear
  have hparked : Book.Collectable (Tables.book { cleared with
      subscriptions := cleared.subscriptions.insert (change.subscription now .pending none) }) := by
    rw [insertSubscription_book]
    exact hcleared.putSubscription (by simp)
  have hstands : Book.Stands (Tables.book { cleared with
      subscriptions := cleared.subscriptions.insert (change.subscription now .pending none) })
      cleared.subscriptions.next := ⟨change.subscription now .pending none, by simp, .inl rfl⟩
  have hraised := issueInvoice_collectable hparked now hstands
    (change.subscription now .pending none) change.plan now (now + creditPeriod) now
  split at hpurchase
  · simp at hpurchase
  all_goals
    simp only [pure_eq_ok, Prod.mk.injEq] at hpurchase
    obtain ⟨-, rfl⟩ := hpurchase
    rw [recordAudit_book]
    exact hraised

omit hbook in
theorem ensureFreeSubscription_collectable (accountId : ℕ) :
    (ensureFreeSubscription now tables accountId).book.Collectable := by
  unfold ensureFreeSubscription
  split
  · exact hcollectable
  · rw [insertSubscription_book]
    exact hcollectable.putSubscription (by simp)

omit hbook in
theorem issueDueInvoices_collectable (settings : Settings) (limit : ℕ) :
    (issueDueInvoices settings now tables limit).2.book.Collectable := by
  have hrows : ∀ key row plan, (key, row, plan) ∈ dueSubscriptions settings now tables limit →
      tables.book.Stands key := by
    intro key row plan hmem
    obtain ⟨hrow, hlive, -⟩ := mem_dueSubscriptions hmem
    exact ⟨row, hrow, .inr hlive⟩
  unfold issueDueInvoices
  generalize ([] : List Issued) = raised
  generalize dueSubscriptions settings now tables limit = due at hrows
  induction due generalizing raised tables with
  | nil => exact hcollectable
  | cons head rest ih =>
      obtain ⟨key, row, plan⟩ := head
      rw [List.foldl_cons]
      refine ih ?_ _ fun other later plan' hmem => ?_
      · have hrow := hrows key row plan List.mem_cons_self
        exact issueInvoice_collectable hcollectable now hrow _ _ _ _ _
      · -- the sweep writes no subscription
        obtain ⟨invoices, heq⟩ := issueInvoice_eq now tables key row plan row.nextBillingAt
          (row.nextBillingAt + creditPeriod) row.nextBillingAt
        have hstands := hrows other later plan' (List.mem_cons_of_mem _ hmem)
        change (issueRenewal now tables (key, row, plan)).2.book.Stands other
        rw [issueRenewal, heq]
        exact hstands

omit hbook in
theorem expirePurchase_collectable (parked : ℕ × PlanSubscription) :
    (expirePurchase now tables parked).book.Collectable := by
  rw [expirePurchase_book]
  refine (hcollectable.withdrawWhere now _ _).retireWhere now fun key row hrow hselected => ?_
  obtain rfl : key = parked.1 := by simpa using hselected
  intro invoiceKey invoice hinvoice hbilled
  obtain ⟨old, hold, rfl⟩ := Option.map_eq_some_iff.mp hinvoice
  split
  · rfl
  next hkept =>
    rw [if_neg hkept] at hbilled
    simpa [hbilled] using hkept

end Withdrawing

/-! ## Operations that cancel what they find -/

/-- No unpaid invoice but the given one is on a live subscription of the
account. -/
def Book.NothingDue (book : Book) (accountId : ℕ) (settled : ℕ) : Prop :=
  ∀ key invoice billed row, book.invoices key = some invoice → key ≠ settled →
    invoice.isUnpaid = true → invoice.subscriptionId = some billed →
    book.subscriptions billed = some row → row.accountId = accountId → row.isLive = false

/-- Whatever becomes of the settled invoice, it is not unpaid any more, and
nothing else was due on the live subscriptions. -/
theorem Book.NothingDue.clear {book : Book} {accountId invoiceId : ℕ}
    (hdue : book.NothingDue accountId invoiceId) {resolved : PlanInvoice}
    (hresolved : resolved.isUnpaid = false) {key : ℕ} {row : PlanSubscription}
    (hrow : book.subscriptions key = some row) (haccount : row.accountId = accountId)
    (hlive : row.isLive = true) : (book.putInvoice invoiceId resolved).Clear key := by
  intro otherKey other hother hbilled
  by_cases heq : otherKey = invoiceId
  · obtain rfl : resolved = other := by simpa [heq] using hother
    exact hresolved
  · by_contra hunpaid
    have hidle := hdue otherKey other key row (by simpa [heq] using hother) heq
      (by simpa using hunpaid) hbilled hrow haccount
    rw [hidle] at hlive
    cases hlive

section Granting

variable {book : Book} (hcollectable : book.Collectable) (now : Instant) {invoiceId : ℕ}
  {invoice : PlanInvoice}

include hcollectable

theorem Book.Collectable.putResolved (key : ℕ) {resolved : PlanInvoice}
    (hresolved : resolved.isUnpaid = false) : (book.putInvoice key resolved).Collectable := by
  refine hcollectable.putInvoice fun hunpaid => ?_
  rw [hresolved] at hunpaid
  cases hunpaid

/-- A window is granted, in time or by forgiving it. -/
theorem grant_collectable {key : ℕ} {row : PlanSubscription}
    (hrow : book.subscriptions key = some row) {status : InvoiceStatus}
    (hstatus : status.isUnpaid = false) (paidAt : Option Instant) (periodEnd : Instant)
    (hdue : row.status = .pending → book.NothingDue row.accountId invoiceId) :
    ((book.putInvoice invoiceId (invoice.resolve status paidAt)).cover now key row
      periodEnd).Collectable := by
  have hresolved : (invoice.resolve status paidAt).isUnpaid = false := hstatus
  refine (hcollectable.putResolved invoiceId hresolved).cover now periodEnd hrow ?_
  intro hpending other live hlive _ haccount hislive
  exact (hdue hpending).clear hresolved hlive haccount hislive

/-- A lapsed invoice is settled by a subscription of its own. -/
theorem regrant_collectable {key grantedKey : ℕ} {row : PlanSubscription}
    {granted lapsed : PlanInvoice} (hfresh : book.subscriptions key = none)
    (hne : grantedKey ≠ invoiceId) (hgranted : granted.isUnpaid = false)
    (hlapsed : lapsed.isUnpaid = false)
    (hdue : book.NothingDue invoice.accountId invoiceId) :
    ((((book.retireWhere now fun _ other =>
          decide (other.accountId = invoice.accountId) && other.isLive).putSubscription
        key row).putInvoice grantedKey granted).putInvoice invoiceId lapsed).Collectable := by
  -- the lapsed invoice is written off before anything is retired
  have hreorder : ((((book.retireWhere now fun _ other =>
          decide (other.accountId = invoice.accountId) && other.isLive).putSubscription
        key row).putInvoice grantedKey granted).putInvoice invoiceId lapsed) =
      ((((book.putInvoice invoiceId lapsed).retireWhere now fun _ other =>
          decide (other.accountId = invoice.accountId) && other.isLive).putSubscription
        key row).putInvoice grantedKey granted) := by
    ext1 <;> funext current
    · rfl
    · simp only [Book.putInvoice_invoices, Book.putSubscription_invoices,
        Book.retireWhere_invoices]
      by_cases hold : current = invoiceId
      · simp [hold, hne.symm]
      · simp [hold]
  have hretired : ((book.putInvoice invoiceId lapsed).retireWhere now fun _ other =>
      decide (other.accountId = invoice.accountId) && other.isLive).Collectable := by
    refine (hcollectable.putResolved invoiceId hlapsed).retireWhere now ?_
    intro other live hlive hselected
    rw [Bool.and_eq_true, decide_eq_true_eq] at hselected
    exact hdue.clear hlapsed hlive hselected.1 hselected.2
  rw [hreorder]
  exact (hretired.putSubscription (by simp [hfresh])).putResolved grantedKey hgranted

end Granting

/-- What an operation finds before it cancels a subscription without looking at
its invoices: a settlement past the grace line or of a parked purchase, and the
waiver of one, find nothing else due on the account's live subscriptions, and an
assignment finds nothing unpaid on the one it replaces. -/
structure CancelsClear (settings : Settings) (world : World) (input : Timed) : Prop where
  settles : ∀ key invoice billed row, world.db.tables.invoices.get? key = some invoice →
    invoice.subscriptionId = some billed →
    world.db.tables.subscriptions.get? billed = some row →
    (input.op.settles world.db.tables key invoice ∧
        (isLapsed settings invoice (input.moment world) = true ∨ row.status = .pending)) ∨
      (input.op.forgives key invoice ∧ row.status = .pending) →
    world.book.NothingDue invoice.accountId key
  assigns : ∀ actorId accountId planCode reason planId plan key row,
    input.op = .assignAccountPlan actorId accountId planCode reason →
    findPlanByCode world.db.tables planCode = some (planId, plan) →
    world.db.tables.subscriptions.get? key = some row → row.accountId = accountId →
    row.isLive = true → row.planId ≠ planId → world.book.Clear key

section Performing

variable {settings : Settings} {world : World} {input : Timed} {tables' : Tables}
  (hbook : world.Wellformed) (hcollectable : world.book.Collectable)
  (hclear : CancelsClear settings world input)

include hbook hcollectable hclear

theorem settleInvoice_collectable {recorded : Tables} (hrecorded : recorded.book = world.book)
    {invoiceId : ℕ} {invoice : PlanInvoice}
    (hinvoice : world.db.tables.invoices.get? invoiceId = some invoice)
    (hunpaid : invoice.status ≠ .paid)
    (hsettles : input.op.settles world.db.tables invoiceId invoice) (paymentId : Option ℕ)
    (source : String) :
    (settleInvoice settings (input.moment world) recorded invoiceId invoice paymentId
      (input.moment world) source).book.Collectable := by
  obtain ⟨key, row, start, hcovers, hrow, haccount⟩ := hbook.backed invoiceId invoice hinvoice
  have hinvoice' : recorded.invoices.get? invoiceId = some invoice := by
    rw [← Tables.book_invoices, hrecorded]
    exact hinvoice
  have hrow' : recorded.subscriptions.get? key = some row := by
    rw [← Tables.book_subscriptions, hrecorded]
    exact hrow
  have hdue := hclear.settles invoiceId invoice key row hinvoice hcovers.subscription hrow
  rcases lt_or_ge (start + gracePeriod settings) (input.moment world) with hlate | hearly
  · rw [settleInvoice_book_of_lapsed hunpaid hcovers hrow' _ _ _ hlate,
      reinstate_book _ _ hinvoice', hrecorded]
    have hne : recorded.invoices.next ≠ invoiceId := fun heq => by simp [← heq] at hinvoice'
    refine regrant_collectable hcollectable _ ?_ hne rfl rfl
      (hdue (.inl ⟨hsettles, .inl ((isLapsed_iff settings hcovers _).mpr hlate)⟩))
    rw [← hrecorded]
    simp
  · rw [settleInvoice_book_of_grace hunpaid hcovers hrow' _ _ _ hearly,
      payInvoice_book _ _ hinvoice' hcovers hrow', hrecorded]
    refine grant_collectable hcollectable _ hrow rfl _ _ fun hpending => ?_
    rw [haccount]
    exact hdue (.inl ⟨hsettles, .inr hpending⟩)

theorem forgiveInvoice_collectable {invoiceId : ℕ} {invoice : PlanInvoice}
    (hinvoice : world.db.tables.invoices.get? invoiceId = some invoice)
    {status : InvoiceStatus} (hstatus : status.isUnpaid = false)
    (hforgives : input.op.forgives invoiceId invoice) :
    (forgiveInvoice (input.moment world) world.db.tables invoiceId invoice
      status).book.Collectable := by
  obtain ⟨key, row, start, hcovers, hrow, haccount⟩ := hbook.backed invoiceId invoice hinvoice
  rw [forgiveInvoice_book _ _ hinvoice hcovers hrow]
  refine grant_collectable hcollectable _ hrow hstatus _ _ fun hpending => ?_
  rw [haccount]
  exact hclear.settles invoiceId invoice key row hinvoice hcovers.subscription hrow
    (.inr ⟨hforgives, hpending⟩)

theorem markPaid_collectable {publicId : String} {credit : Credit} {settledId : Option ℕ}
    (hop : input.op = .markPaid publicId credit)
    (hmark : markPaid settings (input.moment world) world.db.tables publicId credit =
      .ok (settledId, tables')) : tables'.book.Collectable := by
  obtain ⟨-, rfl⟩ | ⟨paymentId, payment, -, hfind, hopen, hsettle⟩ := markPaid_eq_ok hmark
  · exact hcollectable
  rcases settlePayment_book hsettle with
    ⟨-, hsame⟩ | ⟨recorded, invoiceId, invoice, hrecorded, hinvoice, hpointer, -, hafter⟩
  · rw [hsame]
    exact hcollectable
  · rw [hafter]
    by_cases hpaid : invoice.status = .paid
    · rw [settleInvoice, if_pos hpaid, hrecorded]
      exact hcollectable
    · refine settleInvoice_collectable hbook hcollectable hclear hrecorded hinvoice hpaid ?_ _ _
      rw [hop]
      exact ⟨paymentId, payment, hfind, hopen, hpointer, hpaid⟩

theorem resolveInvoice_collectable {actorId invoiceId : ℕ} {action : ResolveAction}
    {reason : String} {amountCents : Option Int}
    (hop : input.op = .resolveInvoice actorId invoiceId action reason amountCents)
    (hresolve : resolveInvoice settings (input.moment world) world.db.tables actorId invoiceId
      action reason amountCents = .ok tables') : tables'.book.Collectable := by
  unfold resolveInvoice at hresolve
  split at hresolve
  · cases hresolve
  next invoice hinvoice =>
    split at hresolve
    · cases hresolve
    next hresolved =>
      have hopen : invoice.status.isResolved = false := by simpa using hresolved
      have hunpaid := InvoiceStatus.isUnpaid_of_not_isResolved hopen
      obtain rfl := Except.ok.inj hresolve
      rw [recordAudit_book]
      cases action with
      | markPaid =>
          refine settleInvoice_collectable hbook hcollectable hclear rfl hinvoice
            (PlanInvoice.ne_paid_of_isUnpaid hunpaid) ?_ _ _
          rw [hop]
          exact ⟨rfl, hopen⟩
      | void =>
          have hvoid : (withdrawInvoice (input.moment world) world.db.tables invoiceId
              invoice).book = world.book.putInvoice invoiceId
                (invoice.withdraw (input.moment world) .operator) :=
            updateInvoice_book world.db.tables hinvoice _
          exact hvoid ▸ hcollectable.putResolved invoiceId rfl
      | waive =>
          refine forgiveInvoice_collectable hbook hcollectable hclear hinvoice rfl ?_
          rw [hop]
          exact ⟨rfl, hopen⟩
      | credit =>
          refine forgiveInvoice_collectable hbook hcollectable hclear hinvoice rfl ?_
          rw [hop]
          exact ⟨rfl, hopen⟩

omit hbook in
theorem assignAccountPlan_collectable {actorId accountId subscriptionId : ℕ}
    {planCode reason : String}
    (hop : input.op = .assignAccountPlan actorId accountId planCode reason)
    (hassign : assignAccountPlan (input.moment world) world.db.tables actorId accountId planCode
      reason = .ok (subscriptionId, tables')) : tables'.book.Collectable := by
  simp only [assignAccountPlan] at hassign
  split at hassign
  · simp [bind_eq_ok] at hassign
  split at hassign
  · simp at hassign
  next planId plan hplan =>
    split at hassign
    · exact absurd hassign throw_bind_ne_ok
    next hchanged =>
      simp only [pure_eq_ok, Prod.mk.injEq] at hassign
      obtain ⟨-, rfl⟩ := hassign
      rw [recordAudit_book]
      cases hcurrent : world.db.tables.subscriptions.find? fun _ row =>
          decide (row.accountId = accountId) && row.isLive with
      | none =>
          rw [insertSubscription_book]
          exact hcollectable.putSubscription (by simp [World.book])
      | some found =>
          obtain ⟨currentId, current⟩ := found
          obtain ⟨hrow, hmatch⟩ := Table.find?_eq_some hcurrent
          simp only [Bool.and_eq_true, decide_eq_true_eq] at hmatch
          have hother : current.planId ≠ planId := by
            simpa [hcurrent] using hchanged
          have hinsert := insertSubscription_book { world.db.tables with
            subscriptions := world.db.tables.subscriptions.update currentId
              (PlanSubscription.cancel (input.moment world)) }
            { accountId := accountId
              planId := planId
              status := .active
              startedAt := some (input.moment world)
              nextBillingAt := input.moment world + creditPeriod
              createdAt := input.moment world }
          rw [hinsert, updateSubscription_book]
          refine (hcollectable.retireWhere _ fun key row hkey hselected => ?_).putSubscription
            (by simp [World.book])
          obtain rfl : key = currentId := by simpa using hselected
          exact hclear.assigns actorId accountId planCode reason planId plan key current hop
            hplan hrow hmatch.1 hmatch.2 hother

/-- No operation that finds nothing due where it cancels leaves an unpaid invoice
behind. -/
theorem perform_collectable {response : Response}
    (hperform : perform settings (input.moment world) world.db.tables input.op =
      .ok (response, tables')) : tables'.book.Collectable := by
  cases hop : input.op with
  | signUp email name renameExisting =>
      simp only [hop, perform, Except.ok.injEq, Prod.mk.injEq] at hperform
      obtain ⟨-, rfl⟩ := hperform
      unfold upsertAccount
      split
      · dsimp only
        refine ensureFreeSubscription_collectable ?_ _
        exact hcollectable
      · exact hcollectable
  | createPayment | reissuePayment | markScanned | reversePayment | expireDuePayments =>
      rw [(perform_of_isSale (by rw [hop]; rfl) hperform).1]
      exact hcollectable
  | markPaid publicId credit =>
      simp only [hop, perform, bind_eq_ok, pure_eq_ok, Prod.mk.injEq] at hperform
      obtain ⟨⟨settledId, settled⟩, hmark, -, rfl⟩ := hperform
      exact markPaid_collectable hbook hcollectable hclear hop hmark
  | changePlan accountId planCode =>
      simp only [hop, perform, changePlan, bind_eq_ok, pure_eq_ok, Prod.mk.injEq] at hperform
      obtain ⟨⟨out, changed⟩, ⟨change, hread, happly⟩, -, rfl⟩ := hperform
      obtain ⟨-, hread⟩ := readPlanChange_eq_ok hread
      unfold applyPlanChange at happly
      split at happly
      · obtain rfl : (moveToFreePlan (input.moment world) world.db.tables change).2 = changed := by
          rw [Except.ok.inj happly]
        exact moveToFreePlan_collectable hbook hcollectable hread
      · exact purchasePlan_collectable hbook hcollectable happly
  | getInvoiceKhqr rail accountId invoiceId publicId =>
      simp only [hop, perform, bind_eq_ok, pure_eq_ok, Prod.mk.injEq] at hperform
      obtain ⟨⟨paymentId, minted⟩, hkhqr, -, rfl⟩ := hperform
      obtain ⟨invoice, hinvoice, -, hafter, -⟩ := getInvoiceKhqr_book hkhqr
      rw [hafter]
      -- a claim is unpaid with a code only when it was unpaid without
      refine hcollectable.putInvoice fun hunpaid billed hbilled => ?_
      refine hcollectable invoiceId invoice billed hinvoice ?_ hbilled
      unfold PlanInvoice.isUnpaid
      rw [← (invoice.collect_status paymentId).1]
      exact hunpaid
  | issueDueInvoices limit =>
      simp only [hop, perform, Except.ok.injEq, Prod.mk.injEq] at hperform
      obtain ⟨-, rfl⟩ := hperform
      exact issueDueInvoices_collectable hcollectable settings limit
  | enforceGrace limit =>
      simp only [hop, perform, Except.ok.injEq, Prod.mk.injEq] at hperform
      obtain ⟨-, rfl⟩ := hperform
      exact enforceGrace_book hcollectable
        (fun _ parked hcurrent => expirePurchase_collectable hcurrent parked) settings limit
  | resolveInvoice actorId invoiceId action reason amountCents =>
      simp only [hop, perform, bind_eq_ok, pure_eq_ok, Prod.mk.injEq] at hperform
      obtain ⟨resolved, hresolve, -, rfl⟩ := hperform
      exact resolveInvoice_collectable hbook hcollectable hclear hop hresolve
  | assignAccountPlan actorId accountId planCode reason =>
      simp only [hop, perform, bind_eq_ok, pure_eq_ok, Prod.mk.injEq] at hperform
      obtain ⟨⟨subscriptionId, assigned⟩, hassign, -, rfl⟩ := hperform
      exact assignAccountPlan_collectable hcollectable hclear hop hassign

end Performing

/-! ## Runs -/

section Runs

variable {settings : Settings} {world : World}

theorem step_collectable (hworld : world.Wellformed) (hcollectable : world.book.Collectable)
    {input : Timed} (hclear : CancelsClear settings world input) :
    (next (step settings) world input).book.Collectable := by
  rcases step_moves settings hworld input with ⟨-, hdb⟩ | ⟨response, -, hperform, -, -, -⟩
  · simpa only [World.book, hdb] using hcollectable
  · exact perform_collectable hworld hcollectable hclear hperform

/-- In every run that cancels no subscription with something unpaid on it, except
where it withdraws what is unpaid, every unpaid invoice can be collected in every
state reached. -/
theorem unpaid_invoices_collectable (hinitial : Initial world) {inputs : List Timed}
    (halong : Along (step settings) (CancelsClear settings) world inputs) :
    (run (step settings) world inputs).book.Collectable := by
  have hnone := Initial.get?_eq_none hinitial.invoices
  refine (run_invariant_of_along (fun state : World => state.Wellformed ∧ state.book.Collectable)
    (CancelsClear settings) ?_ ⟨hinitial.wellformed, ?_⟩ halong).2
  · rintro state input ⟨hstate, hcollectable⟩ hclear
    exact ⟨step_wellformed settings hstate input, step_collectable hstate hcollectable hclear⟩
  · intro key invoice billed hinvoice
    exact absurd hinvoice (by simp [World.book, hnone])

end Runs

/-- Nothing is unpaid on a live subscription. -/
def Tables.nothingDue (tables : Tables) : Bool :=
  tables.invoices.rows.all fun row => !row.2.isUnpaid ||
    (row.2.subscriptionId.bind tables.subscriptions.get?).all fun billed => !billed.isLive

theorem CancelsClear.of_nothingDue {settings : Settings} {world : World} {input : Timed}
    (hnone : world.db.tables.nothingDue = true) : CancelsClear settings world input := by
  have hidle : ∀ key invoice billed row, world.book.invoices key = some invoice →
      invoice.isUnpaid = true → invoice.subscriptionId = some billed →
      world.book.subscriptions billed = some row → row.isLive = false := by
    intro key invoice billed row hinvoice hunpaid hbilled hrow
    have hfree := List.all_eq_true.mp hnone _ (Table.get?_eq_some_iff.mp hinvoice)
    have hrow' : world.db.tables.subscriptions.get? billed = some row := hrow
    simpa [hunpaid, hbilled, hrow'] using hfree
  refine ⟨fun key invoice billed row _ _ _ _ other unpaid live liveRow hother _ hunpaid => ?_,
    fun actorId accountId planCode reason planId plan key row _ _ hrow _ hlive _ invoiceKey
      invoice hinvoice hbilled => ?_⟩
  · exact fun hbilled hrow _ => hidle other unpaid live liveRow hother hunpaid hbilled hrow
  · by_contra hunpaid
    have hnotLive := hidle invoiceKey invoice key row hinvoice (by simpa using hunpaid) hbilled hrow
    rw [hnotLive] at hlive
    cases hlive

/-- The merchant is on a paid plan and buys a larger one, and is paid for it. -/
def upgradeRun : List Timed :=
  [Specimen.after 0 (.assignAccountPlan 0 1 "starter" "comped"),
    Specimen.afterDays 20 (.changePlan 1 "pro"),
    Specimen.after 60 (.getInvoiceKhqr Specimen.rail 1 0 "pay_1"),
    Specimen.after 60 (.markPaid "pay_1" Specimen.credit)]

theorem unpaid_invoices_collectable_upgrade :
    Along (step {}) (CancelsClear {}) Specimen.world upgradeRun ∧
      (run (step {}) Specimen.world upgradeRun).book.Collectable := by
  have halong : Along (step {}) (CancelsClear {}) Specimen.world upgradeRun :=
    ⟨.of_nothingDue (by decide +kernel), .of_nothingDue (by decide +kernel),
      .of_nothingDue (by decide +kernel), .of_nothingDue (by decide +kernel), trivial⟩
  exact ⟨halong, unpaid_invoices_collectable Specimen.initial_world halong⟩

/-- The sweep raises the renewal of the smaller plan before the purchase is
paid. -/
def overtakenRun : List Timed :=
  [Specimen.after 0 (.assignAccountPlan 0 1 "starter" "comped"),
    Specimen.afterDays 20 (.changePlan 1 "pro"),
    Specimen.afterDays 5 (.issueDueInvoices 100),
    Specimen.after 60 (.getInvoiceKhqr Specimen.rail 1 0 "pay_1"),
    Specimen.after 60 (.markPaid "pay_1" Specimen.credit)]

/-- The renewal is left unpaid on the canceled subscription, and the next
purchase is refused over it. -/
theorem unpaid_invoice_stranded :
    Initial Specimen.world ∧
      ¬ (run (step {}) Specimen.world overtakenRun).book.Collectable ∧
      (step {} (run (step {}) Specimen.world overtakenRun)
        (Specimen.after 60 (.changePlan 1 "starter"))).2 =
          .error (.http 409 "open_invoice_unpaid: invoice 1 for 1970-01 is still unpaid") := by
  refine ⟨Specimen.initial_world, fun hcollectable => ?_, by decide +kernel⟩
  set final := run (step {}) Specimen.world overtakenRun with hfinal
  have hopen : (final.db.tables.invoices.get? 1).map
      (fun row => (row.isUnpaid, row.subscriptionId)) = some (true, some 0) := by decide +kernel
  have hcanceled : (final.db.tables.subscriptions.get? 0).map PlanSubscription.status =
      some .canceled := by decide +kernel
  obtain ⟨invoice, hinvoice, heq⟩ := Option.map_eq_some_iff.mp hopen
  obtain ⟨hunpaid, hbilled⟩ := Prod.mk.inj heq
  obtain ⟨row, hrow, hstands⟩ := hcollectable 1 invoice 0 hinvoice hunpaid hbilled
  change final.db.tables.subscriptions.get? 0 = some row at hrow
  rw [hrow, Option.map_some, Option.some.injEq] at hcanceled
  exact PlanSubscription.stands_iff.mp hstands hcanceled

end ChmabaPay
