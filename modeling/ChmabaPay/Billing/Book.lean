import ChmabaPay.Routers.Billing

/-! # The billing book

What billing is for, without sessions, sweeps or requests: subscriptions and
invoices by key, and the moves that may be made on them. A move says what must
hold before it and what it leaves. Every committed operation of the platform is
a sequence of these moves, so an invariant of the book is proved once per move.
-/

namespace ChmabaPay

open Calendar Relational

/-- Subscriptions and invoices by key. -/
@[ext] structure Book where
  subscriptions : ℕ → Option PlanSubscription
  invoices : ℕ → Option PlanInvoice

/-- The book kept in the tables. -/
def Tables.book (tables : Tables) : Book :=
  ⟨tables.subscriptions.get?, tables.invoices.get?⟩

@[simp] theorem Tables.book_subscriptions (tables : Tables) :
    tables.book.subscriptions = tables.subscriptions.get? := rfl

@[simp] theorem Tables.book_invoices (tables : Tables) :
    tables.book.invoices = tables.invoices.get? := rfl

/-- Paid, waived or credited: the window was granted. -/
def InvoiceStatus.isSettled : InvoiceStatus → Bool
  | .paid | .waived | .credited => true
  | .opened | .draft | .issued | .void => false

/-- The invoice bills one credit period of a subscription, due at its start. -/
structure PlanInvoice.Covers (invoice : PlanInvoice) (key : ℕ) (start : Instant) : Prop where
  subscription : invoice.subscriptionId = some key
  periodStart : invoice.periodStart = some start
  periodEnd : invoice.periodEnd = some (start + creditPeriod)
  dueAt : invoice.dueAt = some start

/-- Two rows bill the same window exactly when they share its subscription and
its start. -/
theorem PlanInvoice.Covers.unique {invoice : PlanInvoice} {key key' : ℕ}
    {start start' : Instant} (hcovers : invoice.Covers key start)
    (hcovers' : invoice.Covers key' start') : key = key' ∧ start = start' :=
  ⟨Option.some.inj (hcovers.subscription.symm.trans hcovers'.subscription),
    Option.some.inj (hcovers.periodStart.symm.trans hcovers'.periodStart)⟩

/-- The invoice after a settlement in time or a waiver. -/
def PlanInvoice.resolve (status : InvoiceStatus) (paidAt : Option Instant)
    (invoice : PlanInvoice) : PlanInvoice :=
  { invoice with status := status, paidAt := paidAt }

/-! ## Edits of the book -/

namespace Book

variable (book : Book)

/-- Void the selected invoices. -/
def withdrawWhere (now : Instant) (keep : ℕ → PlanInvoice → Bool) (reason : VoidReason) :
    Book where
  subscriptions := book.subscriptions
  invoices := fun key => (book.invoices key).map fun row =>
    if keep key row then row.withdraw now reason else row

/-- Cancel the selected subscriptions. -/
def retireWhere (now : Instant) (keep : ℕ → PlanSubscription → Bool) : Book where
  subscriptions := fun key => (book.subscriptions key).map fun row =>
    if keep key row then row.cancel now else row
  invoices := book.invoices

def putSubscription (key : ℕ) (row : PlanSubscription) : Book where
  subscriptions := Function.update book.subscriptions key (some row)
  invoices := book.invoices

def putInvoice (key : ℕ) (row : PlanInvoice) : Book where
  subscriptions := book.subscriptions
  invoices := Function.update book.invoices key (some row)

/-- The subscription a granted invoice bought, in force unless it was canceled. -/
def activated (now : Instant) (row : PlanSubscription) : PlanSubscription :=
  if row.status = .pending then
    { row with status := .active, startedAt := row.startedAt <|> some now }
  else row

/-- Put one subscription in force until an instant. What it replaces is canceled,
but only when it was waiting to start. -/
def cover (now : Instant) (key : ℕ) (row : PlanSubscription) (periodEnd : Instant) : Book where
  subscriptions := fun current => (book.subscriptions current).map fun other =>
    if current = key then { activated now row with nextBillingAt := periodEnd }
    else if row.status = .pending ∧ other.accountId = row.accountId ∧ other.isLive then
      other.cancel now
    else other
  invoices := book.invoices

section Lookups

variable (now : Instant) (key current : ℕ)

@[simp] theorem withdrawWhere_subscriptions (keep : ℕ → PlanInvoice → Bool)
    (reason : VoidReason) :
    (book.withdrawWhere now keep reason).subscriptions = book.subscriptions := rfl

@[simp] theorem withdrawWhere_invoices (keep : ℕ → PlanInvoice → Bool) (reason : VoidReason) :
    (book.withdrawWhere now keep reason).invoices key = (book.invoices key).map fun row =>
      if keep key row then row.withdraw now reason else row := rfl

@[simp] theorem retireWhere_subscriptions (keep : ℕ → PlanSubscription → Bool) :
    (book.retireWhere now keep).subscriptions key = (book.subscriptions key).map fun row =>
      if keep key row then row.cancel now else row := rfl

@[simp] theorem retireWhere_invoices (keep : ℕ → PlanSubscription → Bool) :
    (book.retireWhere now keep).invoices = book.invoices := rfl

@[simp] theorem putSubscription_subscriptions (row : PlanSubscription) :
    (book.putSubscription key row).subscriptions current =
      if current = key then some row else book.subscriptions current :=
  Function.update_apply _ _ _ _

@[simp] theorem putSubscription_invoices (row : PlanSubscription) :
    (book.putSubscription key row).invoices = book.invoices := rfl

@[simp] theorem putInvoice_subscriptions (row : PlanInvoice) :
    (book.putInvoice key row).subscriptions = book.subscriptions := rfl

@[simp] theorem putInvoice_invoices (row : PlanInvoice) :
    (book.putInvoice key row).invoices current =
      if current = key then some row else book.invoices current :=
  Function.update_apply _ _ _ _

@[simp] theorem cover_subscriptions (row : PlanSubscription) (periodEnd : Instant) :
    (book.cover now key row periodEnd).subscriptions current =
      (book.subscriptions current).map fun other =>
        if current = key then { activated now row with nextBillingAt := periodEnd }
        else if row.status = .pending ∧ other.accountId = row.accountId ∧ other.isLive then
          other.cancel now
        else other := rfl

@[simp] theorem cover_invoices (row : PlanSubscription) (periodEnd : Instant) :
    (book.cover now key row periodEnd).invoices = book.invoices := rfl

end Lookups

end Book

/-! ## Moves -/

/-- What the operation making a move brings to it: its clock, the grace and lead
periods, the accounts and plans there are and which plans are free, whether it
is a sweep or an operator's rather than the merchant's, the subscriptions an
operator assigns by it, the invoices it may settle or forgive, and the payments
it may give an invoice to point at. -/
structure Occasion where
  now : Instant
  grace : Int
  lead : Int
  account : ℕ → Prop
  plan : ℕ → Prop
  free : ℕ → Prop
  platform : Prop
  assigned : ℕ → Prop
  settles : ℕ → PlanInvoice → Prop
  forgives : ℕ → PlanInvoice → Prop
  hands : ℕ → ℕ → Prop

/-- A parked purchase nobody paid for within one credit period, with nothing
left to pay. -/
def Book.Abandoned (book : Book) (now : Instant) (key : ℕ) (row : PlanSubscription) : Prop :=
  row.status = .pending ∧ row.createdAt + creditPeriod ≤ now ∧
    ∀ invoiceKey invoice, book.invoices invoiceKey = some invoice →
      invoice.subscriptionId = some key → invoice.isUnpaid = false

def Book.NoneLive (book : Book) (accountId : ℕ) : Prop :=
  ∀ key row, book.subscriptions key = some row → row.accountId = accountId →
    row.isLive = false

/-- No other claim stands on the window of this invoice. -/
def Book.Alone (book : Book) (key : ℕ) (invoice : PlanInvoice) : Prop :=
  ∀ other row, book.invoices other = some row → other ≠ key →
    row.subscriptionId = invoice.subscriptionId → row.periodStart = invoice.periodStart →
    row.status = .void

inductive Move (occasion : Occasion) : Book → Book → Prop where
  | withdraw (book : Book) (keep : ℕ → PlanInvoice → Bool) (reason : VoidReason)
      (hunpaid : ∀ key row, book.invoices key = some row → keep key row = true →
        row.isUnpaid = true) :
      Move occasion book (book.withdrawWhere occasion.now keep reason)
  | retire (book : Book) (keep : ℕ → PlanSubscription → Bool)
      (hkeep : ∀ key row, book.subscriptions key = some row → keep key row = true →
        row.isLive = true ∨ (book.Abandoned occasion.now key row ∧ occasion.platform)) :
      Move occasion book (book.retireWhere occasion.now keep)
  /-- A subscription starts at once, on a free plan or by an operator's word. -/
  | openLive (book : Book) (key : ℕ) (row : PlanSubscription)
      (hfresh : book.subscriptions key = none) (hstatus : row.status = .active)
      (hnext : row.nextBillingAt = occasion.now + creditPeriod)
      (hplan : occasion.plan row.planId) (haccount : occasion.account row.accountId)
      (hnone : book.NoneLive row.accountId)
      (hgrounds : occasion.free row.planId ∨ occasion.assigned key) :
      Move occasion book (book.putSubscription key row)
  /-- A purchase: a parked subscription with its first invoice. -/
  | park (book : Book) (key : ℕ) (row : PlanSubscription) (invoiceKey : ℕ)
      (invoice : PlanInvoice) (hfresh : book.subscriptions key = none)
      (hstatus : row.status = .pending) (hcreated : row.createdAt = occasion.now)
      (hnext : row.nextBillingAt = occasion.now + creditPeriod)
      (hplan : occasion.plan row.planId) (hknown : occasion.account row.accountId)
      (hfreshInvoice : book.invoices invoiceKey = none) (hopen : invoice.status = .opened)
      (hcovers : invoice.Covers key occasion.now)
      (haccount : invoice.accountId = row.accountId)
      (hpointer : invoice.chmabapayPaymentId = none) :
      Move occasion book ((book.putSubscription key row).putInvoice invoiceKey invoice)
  /-- A renewal, within the lead period and where no claim stands yet. -/
  | raise (book : Book) (key : ℕ) (row : PlanSubscription) (invoiceKey : ℕ)
      (invoice : PlanInvoice) (hrow : book.subscriptions key = some row)
      (hlive : row.isLive = true) (hdue : row.nextBillingAt ≤ occasion.now + occasion.lead)
      (hfreshInvoice : book.invoices invoiceKey = none) (hopen : invoice.status = .opened)
      (hcovers : invoice.Covers key row.nextBillingAt)
      (haccount : invoice.accountId = row.accountId)
      (hpointer : invoice.chmabapayPaymentId = none)
      (halone : book.Alone invoiceKey invoice) (hplatform : occasion.platform) :
      Move occasion book (book.putInvoice invoiceKey invoice)
  /-- A code is handed out for an invoice. -/
  | collect (book : Book) (key : ℕ) (row : PlanInvoice) (paymentId : ℕ)
      (hrow : book.invoices key = some row) (hunpaid : row.status ≠ .paid)
      (hhands : occasion.hands key paymentId) :
      Move occasion book (book.putInvoice key (row.collect paymentId))
  /-- An invoice is settled in time, or forgiven, and its window is in force. -/
  | grant (book : Book) (invoiceKey : ℕ) (invoice : PlanInvoice) (key : ℕ)
      (row : PlanSubscription) (start : Instant) (status : InvoiceStatus)
      (paidAt : Option Instant) (hinvoice : book.invoices invoiceKey = some invoice)
      (hrow : book.subscriptions key = some row) (hcovers : invoice.Covers key start)
      (hgrounds : (status = .paid ∧ invoice.status ≠ .paid ∧
          occasion.settles invoiceKey invoice ∧ occasion.now ≤ start + occasion.grace) ∨
        ((status = .waived ∨ status = .credited) ∧ invoice.isUnpaid = true ∧
          occasion.platform ∧ occasion.forgives invoiceKey invoice))
      (halone : book.Alone invoiceKey invoice) :
      Move occasion book
        ((book.putInvoice invoiceKey (invoice.resolve status paidAt)).cover
          occasion.now key row (start + creditPeriod))
  /-- An invoice is settled after its grace ran out: a new subscription starts
  now with a paid invoice of its own, and the old invoice is void. -/
  | regrant (book : Book) (lapsedKey : ℕ) (lapsed : PlanInvoice) (start : Instant)
      (paymentId : Option ℕ) (oldKey : ℕ) (old : PlanSubscription)
      (key : ℕ) (row : PlanSubscription)
      (grantedKey : ℕ) (granted : PlanInvoice)
      (hlapsed : book.invoices lapsedKey = some lapsed) (hunpaid : lapsed.status ≠ .paid)
      (hcovers : lapsed.Covers oldKey start) (hold : book.subscriptions oldKey = some old)
      (hsettles : occasion.settles lapsedKey lapsed)
      (hlate : start + occasion.grace < occasion.now)
      (hfresh : book.subscriptions key = none) (hstatus : row.status = .active)
      (hnext : row.nextBillingAt = occasion.now + creditPeriod)
      (hplan : row.planId = old.planId) (hrowAccount : row.accountId = lapsed.accountId)
      (hfreshInvoice : book.invoices grantedKey = none) (hpaid : granted.status = .paid)
      (hgranted : granted.Covers key occasion.now)
      (haccount : granted.accountId = lapsed.accountId)
      (hpointer : granted.chmabapayPaymentId = paymentId)
      (hhands : ∀ credited, paymentId = some credited → occasion.hands grantedKey credited) :
      Move occasion book
        ((((book.retireWhere occasion.now fun _ other =>
              decide (other.accountId = lapsed.accountId) && other.isLive).putSubscription
            key row).putInvoice grantedKey granted).putInvoice lapsedKey
          (lapsed.lapse occasion.now paymentId))

/-- A sequence of moves on one occasion. -/
abbrev Moves (occasion : Occasion) : Book → Book → Prop :=
  Relation.ReflTransGen (Move occasion)

end ChmabaPay
