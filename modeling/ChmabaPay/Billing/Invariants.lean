import ChmabaPay.Billing.Book

/-! # What every move keeps

Rows are never deleted and keep their identity: the account, the plan, the
window. A canceled subscription stays canceled, a paid invoice stays paid, an
account has at most one subscription in force, and whatever is in force was
free, assigned or granted.
-/

namespace ChmabaPay

open Calendar Relational

variable {occasion : Occasion} {before after : Book}

/-! ## Rows -/

/-- What a move may do to a subscription row. -/
structure PlanSubscription.Evolves (old new : PlanSubscription) : Prop where
  account : new.accountId = old.accountId
  plan : new.planId = old.planId
  created : new.createdAt = old.createdAt
  status : new.status = old.status ∨ new.status = .canceled ∨
    (old.status = .pending ∧ new.status = .active)

/-- What a move may do to an invoice row. -/
structure PlanInvoice.Evolves (old new : PlanInvoice) : Prop where
  account : new.accountId = old.accountId
  subscription : new.subscriptionId = old.subscriptionId
  periodMonth : new.periodMonth = old.periodMonth
  periodStart : new.periodStart = old.periodStart
  periodEnd : new.periodEnd = old.periodEnd
  dueAt : new.dueAt = old.dueAt
  paid : old.status = .paid → new.status = .paid

theorem PlanSubscription.Evolves.refl (row : PlanSubscription) : row.Evolves row :=
  ⟨rfl, rfl, rfl, .inl rfl⟩

theorem PlanSubscription.Evolves.trans {first second third : PlanSubscription}
    (hfirst : first.Evolves second) (hsecond : second.Evolves third) : first.Evolves third := by
  refine ⟨hsecond.account.trans hfirst.account, hsecond.plan.trans hfirst.plan,
    hsecond.created.trans hfirst.created, ?_⟩
  have hone := hfirst.status
  have htwo := hsecond.status
  grind

theorem PlanSubscription.evolves_cancel (now : Instant) (row : PlanSubscription) :
    row.Evolves (row.cancel now) :=
  ⟨rfl, rfl, rfl, .inr (.inl rfl)⟩

theorem PlanInvoice.Evolves.refl (row : PlanInvoice) : row.Evolves row :=
  ⟨rfl, rfl, rfl, rfl, rfl, rfl, id⟩

theorem PlanInvoice.Evolves.trans {first second third : PlanInvoice}
    (hfirst : first.Evolves second) (hsecond : second.Evolves third) : first.Evolves third :=
  ⟨hsecond.account.trans hfirst.account, hsecond.subscription.trans hfirst.subscription,
    hsecond.periodMonth.trans hfirst.periodMonth, hsecond.periodStart.trans hfirst.periodStart,
    hsecond.periodEnd.trans hfirst.periodEnd, hsecond.dueAt.trans hfirst.dueAt,
    fun hpaid => hsecond.paid (hfirst.paid hpaid)⟩

theorem PlanInvoice.Evolves.covers {old new : PlanInvoice} (hevolves : old.Evolves new)
    {key : ℕ} {start : Instant} (hcovers : old.Covers key start) : new.Covers key start :=
  ⟨hevolves.subscription.trans hcovers.subscription,
    hevolves.periodStart.trans hcovers.periodStart,
    hevolves.periodEnd.trans hcovers.periodEnd, hevolves.dueAt.trans hcovers.dueAt⟩

theorem Book.evolves_activated (now : Instant) (row : PlanSubscription) (periodEnd : Instant) :
    row.Evolves { Book.activated now row with nextBillingAt := periodEnd } := by
  by_cases hpending : row.status = .pending
  · refine ⟨?_, ?_, ?_, .inr (.inr ⟨hpending, ?_⟩)⟩ <;> simp [Book.activated, hpending]
  · refine ⟨?_, ?_, ?_, .inl ?_⟩ <;> simp [Book.activated, hpending]

/-- Handing out a code leaves the class of the status alone. -/
theorem PlanInvoice.collect_status (invoice : PlanInvoice) (paymentId : ℕ) :
    (invoice.collect paymentId).status.isUnpaid = invoice.status.isUnpaid ∧
      (invoice.collect paymentId).status.isSettled = invoice.status.isSettled ∧
      ((invoice.collect paymentId).status = .void ↔ invoice.status = .void) := by
  unfold PlanInvoice.collect
  cases invoice.status <;> simp [InvoiceStatus.isUnpaid, InvoiceStatus.isSettled]

/-- No move deletes a subscription. -/
theorem Move.subscription_persists (hmove : Move occasion before after) {key : ℕ}
    {row : PlanSubscription} (hrow : before.subscriptions key = some row) :
    ∃ row', after.subscriptions key = some row' ∧ row.Evolves row' := by
  cases hmove with
  | withdraw | raise | collect => exact ⟨row, by simpa using hrow, .refl row⟩
  | retire keep hkeep =>
      by_cases hselected : keep key row = true
      · exact ⟨row.cancel occasion.now, by simp [hrow, hselected], row.evolves_cancel _⟩
      · exact ⟨row, by simp [hrow, hselected], .refl row⟩
  | openLive new _ hfresh | park new _ _ _ hfresh =>
      have hne : key ≠ new := fun heq => by simp [heq, hfresh] at hrow
      exact ⟨row, by simp [hne, hrow], .refl row⟩
  | grant invoiceKey invoice granted bought start status paidAt hinvoice hbought =>
      by_cases heq : key = granted
      · subst heq
        obtain rfl := Option.some.inj (hrow.symm.trans hbought)
        exact ⟨{ Book.activated occasion.now row with nextBillingAt := start + creditPeriod },
          by simp [hrow], Book.evolves_activated occasion.now row _⟩
      · by_cases hreplaced : bought.status = .pending ∧ row.accountId = bought.accountId ∧
            row.isLive = true
        · exact ⟨row.cancel occasion.now, by simp [hrow, heq, hreplaced],
            row.evolves_cancel _⟩
        · exact ⟨row, by simp [hrow, heq, hreplaced], .refl row⟩
  | regrant lapsedKey lapsed start paymentId oldKey old new opened grantedKey granted
      hlapsed hunpaid hcovers hold hsettles hlate hfresh =>
      have hne : key ≠ new := fun heq => by simp [heq, hfresh] at hrow
      by_cases hselected : row.accountId = lapsed.accountId ∧ row.isLive = true
      · exact ⟨row.cancel occasion.now, by simp [hne, hrow, hselected], row.evolves_cancel _⟩
      · refine ⟨row, ?_, .refl row⟩
        simp only [Book.putInvoice_subscriptions, Book.putSubscription_subscriptions, if_neg hne,
          Book.retireWhere_subscriptions, hrow, Option.map_some, Bool.and_eq_true,
          decide_eq_true_eq, if_neg hselected]

theorem PlanInvoice.evolves_withdraw (now : Instant) (reason : VoidReason)
    {invoice : PlanInvoice} (hunpaid : invoice.status ≠ .paid) :
    invoice.Evolves (invoice.withdraw now reason) :=
  ⟨rfl, rfl, rfl, rfl, rfl, rfl, fun hpaid => absurd hpaid hunpaid⟩

theorem PlanInvoice.ne_paid_of_isUnpaid {invoice : PlanInvoice}
    (hunpaid : invoice.isUnpaid = true) : invoice.status ≠ .paid := by
  intro hpaid
  simp [PlanInvoice.isUnpaid, InvoiceStatus.isUnpaid, hpaid] at hunpaid

/-- No move deletes an invoice or makes a paid one unpaid. -/
theorem Move.invoice_persists (hmove : Move occasion before after) {key : ℕ}
    {invoice : PlanInvoice} (hinvoice : before.invoices key = some invoice) :
    ∃ invoice', after.invoices key = some invoice' ∧ invoice.Evolves invoice' := by
  cases hmove with
  | retire | openLive => exact ⟨invoice, by simpa using hinvoice, .refl invoice⟩
  | withdraw keep reason hunpaid =>
      by_cases hselected : keep key invoice = true
      · refine ⟨invoice.withdraw occasion.now reason, by simp [hinvoice, hselected], ?_⟩
        exact PlanInvoice.evolves_withdraw _ _
          (PlanInvoice.ne_paid_of_isUnpaid (hunpaid key invoice hinvoice hselected))
      · exact ⟨invoice, by simp [hinvoice, hselected], .refl invoice⟩
  | park _ _ new raised _ _ _ _ _ _ hfresh | raise _ _ new raised _ _ _ hfresh =>
      have hne : key ≠ new := fun heq => by simp [heq, hfresh] at hinvoice
      exact ⟨invoice, by simp [hne, hinvoice], .refl invoice⟩
  | collect collectedKey collected paymentId hcollected hunpaid =>
      by_cases heq : key = collectedKey
      · subst heq
        obtain rfl := Option.some.inj (hinvoice.symm.trans hcollected)
        exact ⟨invoice.collect paymentId, by simp, rfl, rfl, rfl, rfl, rfl, rfl,
          fun hpaid => absurd hpaid hunpaid⟩
      · exact ⟨invoice, by simp [heq, hinvoice], .refl invoice⟩
  | grant settledKey settled granted bought start status paidAt hsettled hbought hcovers
      hgrounds =>
      by_cases heq : key = settledKey
      · subst heq
        obtain rfl := Option.some.inj (hinvoice.symm.trans hsettled)
        refine ⟨invoice.resolve status paidAt, by simp, rfl, rfl, rfl, rfl, rfl, rfl,
          fun hpaid => ?_⟩
        rcases hgrounds with ⟨hstatus, -⟩ | ⟨-, hunpaid, -⟩
        · exact hstatus
        · exact absurd hpaid (PlanInvoice.ne_paid_of_isUnpaid hunpaid)
      · exact ⟨invoice, by simp [heq, hinvoice], .refl invoice⟩
  | regrant lapsedKey lapsed start paymentId oldKey old new opened grantedKey granted
      hlapsed hunpaid hcovers hold hsettles hlate hfresh hstatus hnext hplan hrowAccount
      hfreshInvoice =>
      have hne : key ≠ grantedKey := fun heq => by simp [heq, hfreshInvoice] at hinvoice
      by_cases heq : key = lapsedKey
      · subst heq
        obtain rfl := Option.some.inj (hinvoice.symm.trans hlapsed)
        exact ⟨invoice.lapse occasion.now paymentId, by simp, rfl, rfl, rfl, rfl, rfl, rfl,
          fun hpaid => absurd hpaid hunpaid⟩
      · exact ⟨invoice, by simp [heq, hne, hinvoice], .refl invoice⟩

theorem Moves.subscription_persists (hmoves : Moves occasion before after) {key : ℕ}
    {row : PlanSubscription} (hrow : before.subscriptions key = some row) :
    ∃ row', after.subscriptions key = some row' ∧ row.Evolves row' := by
  induction hmoves with
  | refl => exact ⟨row, hrow, .refl row⟩
  | tail _ hmove ih =>
      obtain ⟨middle, hmiddle, hevolves⟩ := ih
      obtain ⟨row', hrow', hevolves'⟩ := hmove.subscription_persists hmiddle
      exact ⟨row', hrow', hevolves.trans hevolves'⟩

theorem Moves.invoice_persists (hmoves : Moves occasion before after) {key : ℕ}
    {invoice : PlanInvoice} (hinvoice : before.invoices key = some invoice) :
    ∃ invoice', after.invoices key = some invoice' ∧ invoice.Evolves invoice' := by
  induction hmoves with
  | refl => exact ⟨invoice, hinvoice, .refl invoice⟩
  | tail _ hmove ih =>
      obtain ⟨middle, hmiddle, hevolves⟩ := ih
      obtain ⟨invoice', hinvoice', hevolves'⟩ := hmove.invoice_persists hmiddle
      exact ⟨invoice', hinvoice', hevolves.trans hevolves'⟩

/-! ## Subscriptions in force -/

theorem PlanSubscription.isLive_iff {row : PlanSubscription} :
    row.isLive = true ↔ row.status = .trial ∨ row.status = .active := by
  simp [PlanSubscription.isLive]

@[simp] theorem PlanSubscription.isLive_cancel (now : Instant) (row : PlanSubscription) :
    (row.cancel now).isLive = false := by
  simp [PlanSubscription.isLive, PlanSubscription.cancel]

theorem PlanSubscription.isLive_of_active {row : PlanSubscription}
    (hstatus : row.status = .active) : row.isLive = true := by
  simp [PlanSubscription.isLive, hstatus]

theorem PlanSubscription.not_isLive_of_pending {row : PlanSubscription}
    (hstatus : row.status = .pending) : row.isLive = false := by
  simp [PlanSubscription.isLive, hstatus]

theorem PlanSubscription.ne_canceled_of_isLive {row : PlanSubscription}
    (hlive : row.isLive = true) : row.status ≠ .canceled := by
  intro hcanceled
  simp [PlanSubscription.isLive, hcanceled] at hlive

/-- No other subscription of the account is in force. -/
def Book.OnlyLive (book : Book) (key accountId : ℕ) : Prop :=
  ∀ other row, book.subscriptions other = some row → other ≠ key →
    row.accountId = accountId → row.isLive = false

/-- Why a subscription may be in force: its plan is free, an operator assigned
it, or an invoice of its own was settled. -/
def Book.Grounds (book : Book) (free assigned : ℕ → Prop) (key : ℕ)
    (row : PlanSubscription) : Prop :=
  free row.planId ∨ assigned key ∨
    ∃ invoiceKey invoice, book.invoices invoiceKey = some invoice ∧
      invoice.subscriptionId = some key ∧ invoice.status.isSettled = true

/-- A subscription in force after a move was in force before it, or started by
it, alone and for a reason. -/
theorem Move.live_cases (hmove : Move occasion before after) {key : ℕ}
    {row' : PlanSubscription} (hrow' : after.subscriptions key = some row')
    (hlive : row'.isLive = true) :
    (∃ row, before.subscriptions key = some row ∧ row.isLive = true ∧ row.Evolves row') ∨
      (after.OnlyLive key row'.accountId ∧
        after.Grounds occasion.free occasion.assigned key row') := by
  cases hmove with
  | withdraw | raise | collect =>
      exact .inl ⟨row', by simpa using hrow', hlive, .refl row'⟩
  | retire keep hkeep =>
      obtain ⟨row, hrow, rfl⟩ := Option.map_eq_some_iff.mp hrow'
      by_cases hselected : keep key row = true
      · simp [hselected] at hlive
      · simp only [if_neg hselected] at hlive ⊢
        exact .inl ⟨row, hrow, hlive, .refl row⟩
  | openLive new opened hfresh hstatus hnext hplan haccount hnone hgrounds =>
      by_cases heq : key = new
      · subst heq
        obtain rfl : opened = row' := by simpa using hrow'
        refine .inr ⟨fun other row hother hne haccount => ?_, hgrounds.imp_right .inl⟩
        exact hnone other row (by simpa [hne] using hother) haccount
      · exact .inl ⟨row', by simpa [heq] using hrow', hlive, .refl row'⟩
  | park new parked invoiceKey invoice hfresh hstatus =>
      by_cases heq : key = new
      · subst heq
        obtain rfl : parked = row' := by simpa using hrow'
        simp [PlanSubscription.not_isLive_of_pending hstatus] at hlive
      · exact .inl ⟨row', by simpa [heq] using hrow', hlive, .refl row'⟩
  | grant invoiceKey invoice granted bought start status paidAt hinvoice hbought hcovers
      hgrounds =>
      obtain ⟨row, hrow, rfl⟩ := Option.map_eq_some_iff.mp hrow'
      by_cases heq : key = granted
      · subst heq
        obtain rfl := Option.some.inj (hrow.symm.trans hbought)
        simp only [if_true] at hlive ⊢
        -- a parked row takes the place of what is in force, a running one is only extended
        by_cases hpending : row.status = .pending
        · refine .inr ⟨fun other sibling hother hne haccount => ?_, .inr (.inr
            ⟨invoiceKey, invoice.resolve status paidAt, by simp, hcovers.subscription, ?_⟩)⟩
          · obtain ⟨current, hcurrent, rfl⟩ := Option.map_eq_some_iff.mp hother
            rw [(Book.evolves_activated occasion.now row (start + creditPeriod)).account]
              at haccount
            by_cases hreplaced : row.status = .pending ∧ current.accountId = row.accountId ∧
                current.isLive = true
            · simp [hne, hreplaced]
            · have hidle : current.isLive = false := by
                simp only [if_neg hne, if_neg hreplaced] at haccount
                simpa [hpending, haccount] using hreplaced
              simpa [hne, hreplaced] using hidle
          · rcases hgrounds with ⟨rfl, -⟩ | ⟨rfl | rfl, -⟩ <;> rfl
        · refine .inl ⟨row, hrow, ?_, Book.evolves_activated _ _ _⟩
          simpa [Book.activated, hpending, PlanSubscription.isLive] using hlive
      · by_cases hreplaced : bought.status = .pending ∧ row.accountId = bought.accountId ∧
            row.isLive = true
        · simp [heq, hreplaced] at hlive
        · simp only [if_neg heq, if_neg hreplaced] at hlive ⊢
          exact .inl ⟨row, hrow, hlive, .refl row⟩
  | regrant lapsedKey lapsed start paymentId oldKey old new opened grantedKey granted
      hlapsed hunpaid hcovers hold hsettles hlate hfresh hstatus hnext hplan hrowAccount
      hfreshInvoice hpaid hgranted haccount =>
      -- everything of the account is retired before the new row is opened
      have hidle : ∀ other row, ((before.retireWhere occasion.now fun _ other =>
            decide (other.accountId = lapsed.accountId) && other.isLive).subscriptions other =
              some row) → row.accountId = lapsed.accountId → row.isLive = false := by
        intro other row hother haccount
        obtain ⟨current, -, rfl⟩ := Option.map_eq_some_iff.mp hother
        by_cases hselected : current.accountId = lapsed.accountId ∧ current.isLive = true
        · simp [hselected]
        · simp only [Bool.and_eq_true, decide_eq_true_eq, if_neg hselected] at haccount ⊢
          simpa [haccount] using hselected
      by_cases heq : key = new
      · subst heq
        obtain rfl : opened = row' := by simpa using hrow'
        refine .inr ⟨fun other row hother hne haccount => ?_, .inr (.inr
          ⟨grantedKey, granted, ?_, hgranted.subscription, by rw [hpaid]; rfl⟩)⟩
        · refine hidle other row ?_ (haccount.trans hrowAccount)
          simpa [hne] using hother
        · have hne : grantedKey ≠ lapsedKey := fun heq => by
            simp [heq, hlapsed] at hfreshInvoice
          simp [hne]
      · simp only [Book.putInvoice_subscriptions, Book.putSubscription_subscriptions,
          if_neg heq, Book.retireWhere_subscriptions] at hrow'
        obtain ⟨row, hrow, rfl⟩ := Option.map_eq_some_iff.mp hrow'
        by_cases hselected : row.accountId = lapsed.accountId ∧ row.isLive = true
        · simp [hselected] at hlive
        · simp only [Bool.and_eq_true, decide_eq_true_eq, if_neg hselected] at hlive ⊢
          exact .inl ⟨row, hrow, hlive, .refl row⟩

/-! ## The standing invariant -/

/-- The invoice bills a window of an existing subscription of its account. -/
def Book.Backed (book : Book) (invoice : PlanInvoice) : Prop :=
  ∃ key row start, invoice.Covers key start ∧ book.subscriptions key = some row ∧
    row.accountId = invoice.accountId

/-- What holds of the book between any two operations. -/
structure Book.Wellformed (account plan : ℕ → Prop) (book : Book) : Prop where
  live : ∀ key row, book.subscriptions key = some row → row.isLive = true →
    book.OnlyLive key row.accountId
  account : ∀ key row, book.subscriptions key = some row → account row.accountId
  plan : ∀ key row, book.subscriptions key = some row → plan row.planId
  backed : ∀ key invoice, book.invoices key = some invoice → book.Backed invoice

theorem Book.Wellformed.mono {account account' plan : ℕ → Prop} {book : Book}
    (hbook : book.Wellformed account plan) (haccount : ∀ key, account key → account' key) :
    book.Wellformed account' plan :=
  ⟨hbook.live, fun key row hrow => haccount _ (hbook.account key row hrow), hbook.plan,
    hbook.backed⟩

/-- A new subscription is on a known plan of a known account, or continues an
old one. -/
theorem Move.subscription_origin (hmove : Move occasion before after) {key : ℕ}
    {row' : PlanSubscription} (hnone : before.subscriptions key = none)
    (hrow' : after.subscriptions key = some row') :
    (occasion.account row'.accountId ∧ occasion.plan row'.planId) ∨
      ∃ oldKey old lapsedKey lapsed, before.subscriptions oldKey = some old ∧
        before.invoices lapsedKey = some lapsed ∧ row'.accountId = lapsed.accountId ∧
        row'.planId = old.planId := by
  cases hmove with
  | withdraw | raise | collect | retire | grant => simp [hnone] at hrow'
  | openLive new opened hfresh hstatus hnext hplan haccount =>
      by_cases heq : key = new
      · obtain rfl : opened = row' := by simpa [heq] using hrow'
        exact .inl ⟨haccount, hplan⟩
      · simp [heq, hnone] at hrow'
  | park new parked _ _ hfresh hstatus hcreated hnext hplan haccount =>
      by_cases heq : key = new
      · obtain rfl : parked = row' := by simpa [heq] using hrow'
        exact .inl ⟨haccount, hplan⟩
      · simp [heq, hnone] at hrow'
  | regrant lapsedKey lapsed start paymentId oldKey old new opened grantedKey granted
      hlapsed hunpaid hcovers hold hsettles hlate hfresh hstatus hnext hplan hrowAccount =>
      by_cases heq : key = new
      · obtain rfl : opened = row' := by simpa [heq] using hrow'
        exact .inr ⟨oldKey, old, lapsedKey, lapsed, hold, hlapsed, hrowAccount, hplan⟩
      · simp [heq, hnone] at hrow'

/-- A new invoice bills a window of a subscription that is there. -/
theorem Move.invoice_origin (hmove : Move occasion before after) {key : ℕ}
    {invoice' : PlanInvoice} (hnone : before.invoices key = none)
    (hinvoice' : after.invoices key = some invoice') : after.Backed invoice' := by
  cases hmove with
  | withdraw | retire | openLive => simp [hnone] at hinvoice'
  | park new parked invoiceKey invoice hfresh hstatus hcreated hnext hplan hknown hfreshInvoice
      hopen hcovers haccount =>
      by_cases heq : key = invoiceKey
      · obtain rfl : invoice = invoice' := by simpa [heq] using hinvoice'
        exact ⟨new, parked, occasion.now, hcovers, by simp, haccount.symm⟩
      · simp [heq, hnone] at hinvoice'
  | raise billed row invoiceKey invoice hrow hlive hdue hfreshInvoice hopen hcovers haccount =>
      by_cases heq : key = invoiceKey
      · obtain rfl : invoice = invoice' := by simpa [heq] using hinvoice'
        exact ⟨billed, row, row.nextBillingAt, hcovers, by simpa using hrow, haccount.symm⟩
      · simp [heq, hnone] at hinvoice'
  | collect collectedKey collected paymentId hcollected =>
      have hne : key ≠ collectedKey := fun heq => by simp [← heq, hnone] at hcollected
      simp [hne, hnone] at hinvoice'
  | grant settledKey settled granted bought start status paidAt hsettled =>
      have hne : key ≠ settledKey := fun heq => by simp [← heq, hnone] at hsettled
      simp [hne, hnone] at hinvoice'
  | regrant lapsedKey lapsed start paymentId oldKey old new opened grantedKey granted
      hlapsed hunpaid hcovers hold hsettles hlate hfresh hstatus hnext hplan hrowAccount
      hfreshInvoice hpaid hgranted haccount =>
      have hne : key ≠ lapsedKey := fun heq => by simp [← heq, hnone] at hlapsed
      by_cases heq : key = grantedKey
      · have hrow : granted = invoice' := by simpa [hne, heq, heq ▸ hne] using hinvoice'
        subst hrow
        exact ⟨new, opened, occasion.now, hgranted, by simp,
          hrowAccount.trans haccount.symm⟩
      · simp [hne, heq, hnone] at hinvoice'

theorem Move.wellformed (hmove : Move occasion before after)
    (hbefore : before.Wellformed occasion.account occasion.plan) :
    after.Wellformed occasion.account occasion.plan := by
  have hrows : ∀ key row', after.subscriptions key = some row' →
      occasion.account row'.accountId ∧ occasion.plan row'.planId := by
    intro key row' hrow'
    cases hrow : before.subscriptions key with
    | none =>
        rcases hmove.subscription_origin hrow hrow' with
          hknown | ⟨oldKey, old, lapsedKey, lapsed, hold, hlapsed, haccount, hplan⟩
        · exact hknown
        · obtain ⟨billed, row, start, hcovers, hbilled, hsame⟩ :=
            hbefore.backed lapsedKey lapsed hlapsed
          rw [haccount, hplan, ← hsame]
          exact ⟨hbefore.account billed row hbilled, hbefore.plan oldKey old hold⟩
    | some row =>
        obtain ⟨current, hcurrent, hevolves⟩ := hmove.subscription_persists hrow
        obtain rfl := Option.some.inj (hcurrent.symm.trans hrow')
        rw [hevolves.account, hevolves.plan]
        exact ⟨hbefore.account key row hrow, hbefore.plan key row hrow⟩
  refine ⟨?_, fun key row' hrow' => (hrows key row' hrow').1,
    fun key row' hrow' => (hrows key row' hrow').2, ?_⟩
  · intro key row' hrow' hlive other sibling' hsibling' hne haccount
    rcases hmove.live_cases hrow' hlive with ⟨row, hrow, hwas, hevolves⟩ | ⟨honly, -⟩
    · by_contra hsiblingLive
      rw [Bool.not_eq_false] at hsiblingLive
      rcases hmove.live_cases hsibling' hsiblingLive with
        ⟨sibling, hsibling, hsiblingWas, hsiblingEvolves⟩ | ⟨honly, -⟩
      · have hidle := hbefore.live key row hrow hwas other sibling hsibling hne
          (hsiblingEvolves.account.symm.trans (haccount.trans hevolves.account))
        rw [hidle] at hsiblingWas
        cases hsiblingWas
      · have hidle := honly key row' hrow' hne.symm haccount.symm
        rw [hidle] at hlive
        cases hlive
    · exact honly other sibling' hsibling' hne haccount
  · intro key invoice' hinvoice'
    cases hinvoice : before.invoices key with
    | none => exact hmove.invoice_origin hinvoice hinvoice'
    | some invoice =>
        obtain ⟨current, hcurrent, hevolves⟩ := hmove.invoice_persists hinvoice
        obtain rfl := Option.some.inj (hcurrent.symm.trans hinvoice')
        obtain ⟨billed, row, start, hcovers, hrow, haccount⟩ :=
          hbefore.backed key invoice hinvoice
        obtain ⟨row', hrow', hrowEvolves⟩ := hmove.subscription_persists hrow
        exact ⟨billed, row', start, hevolves.covers hcovers, hrow',
          hrowEvolves.account.trans (haccount.trans hevolves.account.symm)⟩

/-- Every subscription in force has its grounds. -/
def Book.Grounded (free assigned : ℕ → Prop) (book : Book) : Prop :=
  ∀ key row, book.subscriptions key = some row → row.isLive = true →
    book.Grounds free assigned key row

/-- A settled invoice stays settled, unless a late payment of it replaced its
subscription. -/
theorem Move.settled_persists (hmove : Move occasion before after)
    (hbefore : before.Wellformed occasion.account occasion.plan)
    {invoiceKey : ℕ} {invoice : PlanInvoice}
    (hinvoice : before.invoices invoiceKey = some invoice)
    (hsettled : invoice.status.isSettled = true) {key : ℕ}
    (hsubscription : invoice.subscriptionId = some key) {row' : PlanSubscription}
    (hrow' : after.subscriptions key = some row') (hlive : row'.isLive = true) :
    ∃ invoice', after.invoices invoiceKey = some invoice' ∧
      invoice'.subscriptionId = some key ∧ invoice'.status.isSettled = true := by
  cases hmove with
  | retire | openLive => exact ⟨invoice, by simpa using hinvoice, hsubscription, hsettled⟩
  | withdraw keep reason hunpaid =>
      have hkeep : keep invoiceKey invoice = false := by
        by_contra hkeep
        have hstatus := hunpaid invoiceKey invoice hinvoice (by simpa using hkeep)
        revert hstatus hsettled
        cases hstatus : invoice.status <;>
          simp [PlanInvoice.isUnpaid, InvoiceStatus.isUnpaid, InvoiceStatus.isSettled, hstatus]
      exact ⟨invoice, by simp [hinvoice, hkeep], hsubscription, hsettled⟩
  | park _ _ new _ _ _ _ _ _ _ hfresh | raise _ _ new _ _ _ _ hfresh =>
      have hne : invoiceKey ≠ new := fun heq => by simp [heq, hfresh] at hinvoice
      exact ⟨invoice, by simp [hne, hinvoice], hsubscription, hsettled⟩
  | collect collectedKey collected paymentId hcollected =>
      by_cases heq : invoiceKey = collectedKey
      · subst heq
        obtain rfl := Option.some.inj (hinvoice.symm.trans hcollected)
        refine ⟨invoice.collect paymentId, by simp, hsubscription, ?_⟩
        have hstatus : ¬ (invoice.status = .draft ∨ invoice.status = .issued) := by
          rintro (hstatus | hstatus) <;> simp [hstatus, InvoiceStatus.isSettled] at hsettled
        simpa [PlanInvoice.collect, hstatus] using hsettled
      · exact ⟨invoice, by simp [heq, hinvoice], hsubscription, hsettled⟩
  | grant grantedKey granted _ _ _ status paidAt hgranted _ _ hgrounds =>
      by_cases heq : invoiceKey = grantedKey
      · subst heq
        obtain rfl := Option.some.inj (hinvoice.symm.trans hgranted)
        refine ⟨invoice.resolve status paidAt, by simp, hsubscription, ?_⟩
        rcases hgrounds with ⟨rfl, -⟩ | ⟨rfl | rfl, -⟩ <;> rfl
      · exact ⟨invoice, by simp [heq, hinvoice], hsubscription, hsettled⟩
  | regrant lapsedKey lapsed start paymentId oldKey old new opened grantedKey granted
      hlapsed hunpaid hcovers hold hsettles hlate hfresh hstatus hnext hplan hrowAccount
      hfreshInvoice =>
      have hne : invoiceKey ≠ grantedKey := fun heq => by
        simp [heq, hfreshInvoice] at hinvoice
      by_cases heq : invoiceKey = lapsedKey
      · -- The subscription of the lapsed invoice belongs to the account whose
        -- subscriptions were all retired.
        subst heq
        obtain rfl := Option.some.inj (hinvoice.symm.trans hlapsed)
        obtain ⟨billed, row, start, hbilled, hrow, haccount⟩ :=
          hbefore.backed invoiceKey invoice hinvoice
        obtain rfl := Option.some.inj (hsubscription.symm.trans hbilled.subscription)
        have hnew : key ≠ new := fun heq => by simp [heq, hfresh] at hrow
        simp only [Book.putInvoice_subscriptions, Book.putSubscription_subscriptions,
          if_neg hnew, Book.retireWhere_subscriptions, hrow, Option.map_some, haccount,
          decide_true, Bool.true_and, Option.some.injEq] at hrow'
        subst hrow'
        split at hlive <;> simp_all
      · exact ⟨invoice, by simp [heq, hne, hinvoice], hsubscription, hsettled⟩

theorem Move.grounded (hmove : Move occasion before after)
    (hbefore : before.Wellformed occasion.account occasion.plan) {assigned : ℕ → Prop}
    (hgrounded : before.Grounded occasion.free assigned) :
    after.Grounded occasion.free fun key => assigned key ∨ occasion.assigned key := by
  intro key row' hrow' hlive
  rcases hmove.live_cases hrow' hlive with ⟨row, hrow, hwas, hevolves⟩ | ⟨-, hgrounds⟩
  · rcases hgrounded key row hrow hwas with hfree | hassigned |
      ⟨invoiceKey, invoice, hinvoice, hsubscription, hsettled⟩
    · exact .inl (hevolves.plan ▸ hfree)
    · exact .inr (.inl (.inl hassigned))
    · obtain ⟨invoice', hinvoice', hsubscription', hsettled'⟩ :=
        hmove.settled_persists hbefore hinvoice hsettled hsubscription hrow' hlive
      exact .inr (.inr ⟨invoiceKey, invoice', hinvoice', hsubscription', hsettled'⟩)
  · exact hgrounds.imp_right (Or.imp_left .inr)

theorem Moves.wellformed (hmoves : Moves occasion before after)
    (hbefore : before.Wellformed occasion.account occasion.plan) :
    after.Wellformed occasion.account occasion.plan := by
  induction hmoves with
  | refl => exact hbefore
  | tail _ hmove ih => exact hmove.wellformed ih

theorem Moves.grounded (hmoves : Moves occasion before after)
    (hbefore : before.Wellformed occasion.account occasion.plan) {assigned : ℕ → Prop}
    (hgrounded : before.Grounded occasion.free assigned) :
    after.Grounded occasion.free fun key => assigned key ∨ occasion.assigned key := by
  induction hmoves with
  | refl =>
      intro key row hrow hlive
      exact (hgrounded key row hrow hlive).imp_right (Or.imp_left .inl)
  | tail hmoves hmove ih =>
      have hmiddle := Moves.wellformed hmoves hbefore
      intro key row hrow hlive
      refine (hmove.grounded hmiddle ih key row hrow hlive).imp_right (Or.imp_left ?_)
      rintro (hassigned | hassigned)
      · exact hassigned
      · exact .inr hassigned

end ChmabaPay
