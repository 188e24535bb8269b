import ChmabaPay.Billing.Runs

/-! # The schedule of a subscription

A subscription keeps one timestamp, the end of what it has been granted. The
windows it was billed for line up below it: a settled window ends there or where
the next settled one starts, an unpaid window starts there, and a void one may
lie anywhere a claim can no longer be granted in time.
-/

namespace ChmabaPay

open Calendar Relational Execution

/-! ## The invariant -/

/-- A settled invoice of the subscription starts at this instant. -/
def Book.SettledAt (book : Book) (billed : ℕ) (start : Instant) : Prop :=
  ∃ key invoice, book.invoices key = some invoice ∧ invoice.Covers billed start ∧
    invoice.status.isSettled = true

/-- Where a window stands in the schedule of its subscription. -/
structure Book.Fits (book : Book) (grace : Int) (clock : Instant) (billed : ℕ)
    (row : PlanSubscription) (status : InvoiceStatus) (start : Instant) : Prop where
  parked : row.status = .pending →
    row.nextBillingAt = start + creditPeriod ∧ status.isSettled = false
  unpaid : row.status ≠ .pending → status.isUnpaid = true → start = row.nextBillingAt
  settled : status.isSettled = true → start + creditPeriod ≤ row.nextBillingAt ∧
    creditPeriod ∣ row.nextBillingAt - start ∧
    (start + creditPeriod = row.nextBillingAt ∨ book.SettledAt billed (start + creditPeriod))
  void : row.status ≠ .pending → status = .void →
    start = row.nextBillingAt ∨ book.SettledAt billed start ∨ start + grace < clock

/-- Every window of the book stands in its schedule. -/
structure Book.Scheduled (grace lead : Int) (clock : Instant) (book : Book) : Prop where
  soon : ∀ key invoice billed start, book.invoices key = some invoice →
    invoice.Covers billed start → start ≤ clock + lead
  fits : ∀ key invoice billed start row, book.invoices key = some invoice →
    invoice.Covers billed start → book.subscriptions billed = some row →
    book.Fits grace clock billed row invoice.status start
  parked : ∀ key row, book.subscriptions key = some row → row.status = .pending →
    row.nextBillingAt = row.createdAt + creditPeriod

/-- An invoice that was already paid, waived or credited is settled again only
within its grace line. -/
def Book.SettlesInGrace (book : Book) (occasion : Occasion) : Prop :=
  ∀ key invoice billed start, book.invoices key = some invoice →
    occasion.settles key invoice → invoice.status.isSettled = true →
    invoice.Covers billed start → occasion.now ≤ start + occasion.grace

/-- What a window needs to keep its place: nothing settled is lost, time goes
on, and the subscription keeps its timestamp. -/
theorem Book.Fits.frame {before after : Book} {grace : Int} {clock clock' : Instant}
    {billed : ℕ} {row row' : PlanSubscription} {status status' : InvoiceStatus} {start : Instant}
    (hfits : before.Fits grace clock billed row status start)
    (hsettled : ∀ moment, before.SettledAt billed moment → after.SettledAt billed moment)
    (hclock : clock ≤ clock') (hnext : row'.nextBillingAt = row.nextBillingAt)
    (hpending : row'.status = .pending ↔ row.status = .pending)
    (hunpaid : status'.isUnpaid = status.isUnpaid)
    (hgranted : status'.isSettled = status.isSettled)
    (hvoid : status' = .void ↔ status = .void) :
    after.Fits grace clock' billed row' status' start := by
  refine ⟨fun hparked => ?_, fun hparked hopen => ?_, fun hpaid => ?_, fun hparked hdead => ?_⟩
  · rw [hnext, hgranted]
    exact hfits.parked (hpending.mp hparked)
  · rw [hnext]
    exact hfits.unpaid (fun h => hparked (hpending.mpr h)) (hunpaid ▸ hopen)
  · rw [hnext]
    obtain ⟨hle, hdvd, hchain⟩ := hfits.settled (hgranted ▸ hpaid)
    exact ⟨hle, hdvd, hchain.imp_right (hsettled _)⟩
  · rw [hnext]
    refine (hfits.void (fun h => hparked (hpending.mpr h)) (hvoid.mp hdead)).imp_right ?_
    exact Or.imp (hsettled _) fun hpast => hpast.trans_le hclock

/-- A window keeps its place in a subscription that is retired or left as it is. -/
theorem Book.Fits.retired {before after : Book} {grace : Int} {clock clock' : Instant}
    {billed : ℕ} {row : PlanSubscription} {status : InvoiceStatus} {start : Instant}
    (hfits : before.Fits grace clock billed row status start)
    (hsettled : ∀ moment, before.SettledAt billed moment → after.SettledAt billed moment)
    (hclock : clock ≤ clock') {retires : Prop} [Decidable retires]
    (hlive : retires → row.isLive = true) (now : Instant) :
    after.Fits grace clock' billed (if retires then row.cancel now else row) status start := by
  split
  · next hretires =>
    refine hfits.frame hsettled hclock rfl (iff_of_false (by simp [PlanSubscription.cancel]) ?_)
      rfl rfl Iff.rfl
    intro hpending
    have hlive := hlive hretires
    rw [PlanSubscription.not_isLive_of_pending hpending] at hlive
    cases hlive
  · exact hfits.frame hsettled hclock rfl Iff.rfl rfl rfl Iff.rfl

/-- An unpaid window ends at the timestamp of a parked subscription and starts at that of
any other. -/
theorem Book.Fits.opened {book : Book} {grace : Int} {clock : Instant} {billed : ℕ}
    {row : PlanSubscription} {start : Instant}
    (hparked : row.status = .pending → row.nextBillingAt = start + creditPeriod)
    (hplace : row.status ≠ .pending → start = row.nextBillingAt) :
    book.Fits grace clock billed row .opened start := by
  refine ⟨fun hpending => ⟨hparked hpending, rfl⟩, fun hstarted _ => hplace hstarted,
    fun hsettled => ?_, fun _ hvoid => ?_⟩
  · cases hsettled
  · cases hvoid

theorem Book.Fits.voided {book : Book} {grace : Int} {clock : Instant} {billed : ℕ}
    {row : PlanSubscription} {start : Instant}
    (hparked : row.status = .pending → row.nextBillingAt = start + creditPeriod)
    (hplace : row.status ≠ .pending →
      start = row.nextBillingAt ∨ book.SettledAt billed start ∨ start + grace < clock) :
    book.Fits grace clock billed row .void start := by
  refine ⟨fun hpending => ⟨hparked hpending, rfl⟩, fun _ hopen => ?_, fun hsettled => ?_,
    fun hstarted _ => hplace hstarted⟩
  · cases hopen
  · cases hsettled

section Moves

variable {occasion : Occasion} {before after : Book}

theorem InvoiceStatus.isUnpaid_of_isSettled {status : InvoiceStatus}
    (hsettled : status.isSettled = true) : status.isUnpaid = false := by
  cases status <;> simp_all [InvoiceStatus.isSettled, InvoiceStatus.isUnpaid]

/-- No settled window is lost. -/
theorem Move.settledAt (hmove : Move occasion before after)
    (hgrace : before.SettlesInGrace occasion) {billed : ℕ} {start : Instant}
    (hsettled : before.SettledAt billed start) : after.SettledAt billed start := by
  obtain ⟨key, invoice, hinvoice, hcovers, hstatus⟩ := hsettled
  cases hmove with
  | retire | openLive => exact ⟨key, invoice, hinvoice, hcovers, hstatus⟩
  | withdraw keep reason hunpaid =>
      refine ⟨key, invoice, ?_, hcovers, hstatus⟩
      have hkeep : keep key invoice ≠ true := fun hselected => by
        have hopen := hunpaid key invoice hinvoice hselected
        simp [PlanInvoice.isUnpaid, InvoiceStatus.isUnpaid_of_isSettled hstatus] at hopen
      simp [hinvoice, hkeep]
  | park _ _ invoiceKey _ _ _ _ _ _ _ hfresh
  | raise _ _ invoiceKey _ _ _ _ hfresh =>
      have hne : key ≠ invoiceKey := fun heq => by simp [heq, hfresh] at hinvoice
      exact ⟨key, invoice, by simpa [hne] using hinvoice, hcovers, hstatus⟩
  | collect collectedKey collected paymentId hcollected =>
      by_cases heq : key = collectedKey
      · subst heq
        obtain rfl := Option.some.inj (hcollected.symm.trans hinvoice)
        refine ⟨key, collected.collect paymentId, by simp,
          ⟨hcovers.1, hcovers.2, hcovers.3, hcovers.4⟩, ?_⟩
        rw [(collected.collect_status paymentId).2.1]
        exact hstatus
      · exact ⟨key, invoice, by simpa [heq] using hinvoice, hcovers, hstatus⟩
  | grant grantedKey granted _ _ _ status paidAt hgranted _ _ hgrounds =>
      by_cases heq : key = grantedKey
      · subst heq
        obtain rfl := Option.some.inj (hgranted.symm.trans hinvoice)
        refine ⟨key, granted.resolve status paidAt, by simp,
          ⟨hcovers.1, hcovers.2, hcovers.3, hcovers.4⟩, ?_⟩
        rcases hgrounds with ⟨rfl, -⟩ | ⟨rfl | rfl, -⟩ <;> rfl
      · exact ⟨key, invoice, by simpa [heq] using hinvoice, hcovers, hstatus⟩
  | regrant lapsedKey lapsed lapsedStart paymentId oldKey old newKey row grantedKey granted
      hlapsed hunpaid hlapsedCovers hold hsettles hlate hfresh hactive hnext hplan hrowAccount
      hfreshInvoice =>
      have hne : key ≠ lapsedKey := by
        rintro rfl
        obtain rfl := Option.some.inj (hlapsed.symm.trans hinvoice)
        have hearly := hgrace key lapsed oldKey lapsedStart hlapsed hsettles hstatus hlapsedCovers
        exact absurd hlate (not_lt.mpr hearly)
      have hnew : key ≠ grantedKey := fun heq => by simp [heq, hfreshInvoice] at hinvoice
      exact ⟨key, invoice, by simpa [hne, hnew] using hinvoice, hcovers, hstatus⟩

theorem creditPeriod_pos : 0 < creditPeriod := by decide

/-- An invoice that can be granted bills the window its subscription's timestamp
starts or ends. -/
theorem Book.Scheduled.granted_place {book : Book} {clock : Instant}
    (hscheduled : book.Scheduled occasion.grace occasion.lead clock)
    (hclock : clock ≤ occasion.now)
    (hperiod : occasion.lead + occasion.grace < creditPeriod) {invoiceKey : ℕ}
    {invoice : PlanInvoice} {key : ℕ} {row : PlanSubscription} {start : Instant}
    (hinvoice : book.invoices invoiceKey = some invoice)
    (hrow : book.subscriptions key = some row) (hcovers : invoice.Covers key start)
    (hintime : invoice.isUnpaid = true ∨
      (occasion.settles invoiceKey invoice ∧ occasion.now ≤ start + occasion.grace))
    (halone : book.Alone invoiceKey invoice) :
    row.nextBillingAt = start + creditPeriod ∨
      (row.status ≠ .pending ∧ row.nextBillingAt = start) := by
  have hfits := hscheduled.fits invoiceKey invoice key start row hinvoice hcovers hrow
  by_cases hpending : row.status = .pending
  · exact .inl (hfits.parked hpending).1
  cases hunpaid : invoice.status.isUnpaid with
  | true => exact .inr ⟨hpending, (hfits.unpaid hpending hunpaid).symm⟩
  | false =>
      obtain ⟨hsettles, hearly⟩ := hintime.resolve_left (by simp [PlanInvoice.isUnpaid, hunpaid])
      cases hstatus : invoice.status.isSettled with
      | true =>
          refine .inl ((hfits.settled hstatus).2.2.resolve_right ?_).symm
          rintro ⟨other, later, hlater, hlaterCovers, -⟩
          have hsoon := hscheduled.soon other later key _ hlater hlaterCovers
          linarith
      | false =>
          have hvoid : invoice.status = .void := by
            revert hunpaid hstatus
            cases invoice.status <;> simp [InvoiceStatus.isUnpaid, InvoiceStatus.isSettled]
          rcases hfits.void hpending hvoid with
            hhere | ⟨other, paid, hpaid, hpaidCovers, hpaidStatus⟩ | hpast
          · exact .inr ⟨hpending, hhere.symm⟩
          · have hne : other ≠ invoiceKey := by
              rintro rfl
              obtain rfl := Option.some.inj (hpaid.symm.trans hinvoice)
              simp [hstatus] at hpaidStatus
            have hdead := halone other paid hpaid hne
              (hpaidCovers.subscription.trans hcovers.subscription.symm)
              (hpaidCovers.periodStart.trans hcovers.periodStart.symm)
            simp [hdead, InvoiceStatus.isSettled] at hpaidStatus
          · exact absurd (hpast.trans_le hclock) (not_lt.mpr hearly)

/-- The granted window is the last one below the timestamp it moves. -/
theorem Book.Fits.granted {book : Book} {grace : Int} {clock : Instant} {billed : ℕ}
    {row : PlanSubscription} {status : InvoiceStatus} {start : Instant}
    (hpending : row.status ≠ .pending) (hnext : row.nextBillingAt = start + creditPeriod)
    (hstatus : status.isSettled = true) : book.Fits grace clock billed row status start := by
  refine ⟨fun h => absurd h hpending, fun _ hunpaid => ?_, fun _ => ?_, fun _ hvoid => ?_⟩
  · rw [InvoiceStatus.isUnpaid_of_isSettled hstatus] at hunpaid
    cases hunpaid
  · refine ⟨hnext.ge, ?_, .inl hnext.symm⟩
    rw [hnext, add_sub_cancel_left]
  · simp [hvoid, InvoiceStatus.isSettled] at hstatus

/-- A window beside the granted one keeps its place as the timestamp moves. -/
theorem Book.Fits.beside {before after : Book} {grace : Int} {clock clock' : Instant}
    {billed : ℕ} {row row' : PlanSubscription} {status : InvoiceStatus} {start granted : Instant}
    (hfits : before.Fits grace clock billed row status start)
    (hsettled : ∀ moment, before.SettledAt billed moment → after.SettledAt billed moment)
    (hclock : clock ≤ clock') (hpending : row'.status ≠ .pending)
    (hplace : row.nextBillingAt = granted + creditPeriod ∨
      (row.status ≠ .pending ∧ row.nextBillingAt = granted))
    (hnext : row'.nextBillingAt = granted + creditPeriod)
    (hgranted : after.SettledAt billed granted) (halone : start = granted → status = .void) :
    after.Fits grace clock' billed row' status start := by
  have hopen : row.status ≠ .pending → status.isUnpaid = true → start = row.nextBillingAt :=
    hfits.unpaid
  by_cases hwas : row.status = .pending
  · -- A parked subscription was billed for one window only, so this one is void.
    obtain ⟨hparked, hnever⟩ := hfits.parked hwas
    have hend := hplace.resolve_right fun hmoved => hmoved.1 hwas
    obtain rfl : start = granted := by linarith
    have hvoid := halone rfl
    refine ⟨fun h => absurd h hpending, fun _ hunpaid => ?_, fun hpaid => ?_,
      fun _ _ => .inr (.inl hgranted)⟩
    · simp [hvoid, InvoiceStatus.isUnpaid] at hunpaid
    · simp [hnever] at hpaid
  rcases hplace with hend | ⟨-, hstart⟩
  · refine hfits.frame hsettled hclock (hnext.trans hend.symm) ?_ rfl rfl Iff.rfl
    exact iff_of_false hpending hwas
  · refine ⟨fun h => absurd h hpending, fun _ hunpaid => ?_, fun hpaid => ?_, fun _ hvoid => ?_⟩
    · have hvoid := halone ((hopen hwas hunpaid).trans hstart)
      simp [hvoid, InvoiceStatus.isUnpaid] at hunpaid
    · obtain ⟨hle, hdvd, hchain⟩ := hfits.settled hpaid
      have hpos := creditPeriod_pos
      rw [hnext]
      refine ⟨by linarith, ?_, .inr ?_⟩
      · rw [hstart] at hdvd
        have hsum := dvd_add hdvd (dvd_refl creditPeriod)
        rwa [sub_add_eq_add_sub] at hsum
      · rcases hchain with hchain | hchain
        · rw [hchain, hstart]
          exact hgranted
        · exact hsettled _ hchain
    · rcases hfits.void hwas hvoid with hhere | hpaid | hpast
      · exact .inr (.inl (hhere.trans hstart ▸ hgranted))
      · exact .inr (.inl (hsettled _ hpaid))
      · exact .inr (.inr (hpast.trans_le hclock))

section Step

variable {clock : Instant} (hmove : Move occasion before after)
  (hscheduled : before.Scheduled occasion.grace occasion.lead clock)
  (hbook : before.Wellformed occasion.account occasion.plan) (hclock : clock ≤ occasion.now)
  (hlead : 0 ≤ occasion.lead)

include hmove hscheduled hclock hlead

theorem Move.soon {key : ℕ} {invoice' : PlanInvoice} {billed : ℕ} {start : Instant}
    (hinvoice' : after.invoices key = some invoice') (hcovers : invoice'.Covers billed start) :
    start ≤ occasion.now + occasion.lead := by
  cases hinvoice : before.invoices key with
  | some invoice =>
      obtain ⟨row, hrow, hevolves⟩ := hmove.invoice_persists hinvoice
      obtain rfl := Option.some.inj (hrow.symm.trans hinvoice')
      have hsoon := hscheduled.soon key invoice billed start hinvoice
        ⟨hevolves.subscription.symm.trans hcovers.subscription,
          hevolves.periodStart.symm.trans hcovers.periodStart,
          hevolves.periodEnd.symm.trans hcovers.periodEnd,
          hevolves.dueAt.symm.trans hcovers.dueAt⟩
      linarith
  | none =>
      cases hmove with
      | withdraw | retire | openLive => simp [hinvoice] at hinvoice'
      | park opened _ invoiceKey invoice _ _ _ _ _ _ _ _ hbills =>
          obtain rfl : invoice = invoice' := by
            by_cases heq : key = invoiceKey
            · simpa [heq] using hinvoice'
            · simp [heq, hinvoice] at hinvoice'
          rw [(hbills.unique hcovers).2.symm]
          linarith
      | raise _ row invoiceKey invoice _ _ hdue _ _ hbills =>
          obtain rfl : invoice = invoice' := by
            by_cases heq : key = invoiceKey
            · simpa [heq] using hinvoice'
            · simp [heq, hinvoice] at hinvoice'
          rw [(hbills.unique hcovers).2.symm]
          exact hdue
      | collect collectedKey collected paymentId hcollected =>
          have hne : key ≠ collectedKey := fun heq => by simp [heq, hcollected] at hinvoice
          simp [hne, hinvoice] at hinvoice'
      | grant grantedKey granted _ _ _ _ _ hgranted =>
          have hne : key ≠ grantedKey := fun heq => by simp [heq, hgranted] at hinvoice
          simp [hne, hinvoice] at hinvoice'
      | regrant lapsedKey lapsed _ _ _ _ _ _ grantedKey granted hlapsed _ _ _ _ _ _ _ _ _ _ _ _
          hbills =>
          have hne : key ≠ lapsedKey := fun heq => by simp [heq, hlapsed] at hinvoice
          obtain rfl : granted = invoice' := by
            by_cases heq : key = grantedKey
            · simpa [heq, heq ▸ hne] using hinvoice'
            · simp [hne, heq, hinvoice] at hinvoice'
          rw [(hbills.unique hcovers).2.symm]
          linarith

omit hclock hlead in
theorem Move.parked {key : ℕ} {row' : PlanSubscription}
    (hrow' : after.subscriptions key = some row') (hpending : row'.status = .pending) :
    row'.nextBillingAt = row'.createdAt + creditPeriod := by
  cases hmove with
  | withdraw | raise | collect =>
      exact hscheduled.parked key row' (by simpa using hrow') hpending
  | retire keep =>
      obtain ⟨row, hrow, rfl⟩ := Option.map_eq_some_iff.mp hrow'
      split at hpending
      · cases hpending
      next hkept =>
        rw [if_neg hkept]
        exact hscheduled.parked key row hrow hpending
  | openLive opened row _ hactive =>
      by_cases heq : key = opened
      · obtain rfl : row = row' := by simpa [heq] using hrow'
        simp [hactive] at hpending
      · exact hscheduled.parked key row' (by simpa [heq] using hrow') hpending
  | park opened row _ _ _ _ hcreated hnext =>
      by_cases heq : key = opened
      · obtain rfl : row = row' := by simpa [heq] using hrow'
        rw [hnext, hcreated]
      · exact hscheduled.parked key row' (by simpa [heq] using hrow') hpending
  | grant _ _ billed bought _ _ _ _ hbought =>
      obtain ⟨row, hrow, rfl⟩ := Option.map_eq_some_iff.mp hrow'
      by_cases heq : key = billed
      · rw [if_pos heq] at hpending
        unfold Book.activated at hpending
        split at hpending
        · cases hpending
        next hnever => exact absurd hpending hnever
      · rw [if_neg heq] at hpending ⊢
        split at hpending
        · cases hpending
        next hkept =>
          rw [if_neg hkept]
          exact hscheduled.parked key row hrow hpending
  | regrant _ _ _ _ _ _ opened row _ _ _ _ _ _ _ _ _ hactive =>
      by_cases heq : key = opened
      · obtain rfl : row = row' := by simpa [heq] using hrow'
        simp [hactive] at hpending
      · simp only [Book.putInvoice_subscriptions, Book.putSubscription_subscriptions, if_neg heq,
          Book.retireWhere_subscriptions] at hrow'
        obtain ⟨old, hold, rfl⟩ := Option.map_eq_some_iff.mp hrow'
        split at hpending
        · cases hpending
        next hkept =>
          rw [if_neg hkept]
          exact hscheduled.parked key old hold hpending

variable (hgrace : before.SettlesInGrace occasion)
  (hperiod : occasion.lead + occasion.grace < creditPeriod)

include hgrace hperiod hbook

/-- Every move keeps every window in its place. -/
theorem Move.fits {key : ℕ} {invoice' : PlanInvoice} {billed : ℕ} {start : Instant}
    {row' : PlanSubscription} (hinvoice' : after.invoices key = some invoice')
    (hcovers : invoice'.Covers billed start) (hrow' : after.subscriptions billed = some row') :
    after.Fits occasion.grace occasion.now billed row' invoice'.status start := by
  have hsettled : ∀ moment, before.SettledAt billed moment → after.SettledAt billed moment :=
    fun _ => hmove.settledAt hgrace
  have hfits := hscheduled.fits
  -- Old invoices bill subscriptions that were there before.
  have hknown : ∀ other invoice, before.invoices other = some invoice →
      invoice.Covers billed start → before.subscriptions billed ≠ none := by
    intro other invoice hinvoice hbills hnone
    obtain ⟨owner, row, _, hbacked, hrow, -⟩ := hbook.backed other invoice hinvoice
    obtain ⟨rfl, -⟩ := hbacked.unique hbills
    simp [hrow] at hnone
  cases hmove with
  | withdraw keep reason hunpaid =>
      obtain ⟨invoice, hinvoice, rfl⟩ := Option.map_eq_some_iff.mp hinvoice'
      by_cases hselected : keep key invoice = true
      · rw [if_pos hselected] at hcovers ⊢
        have hbefore := hfits key invoice billed start row' hinvoice
          ⟨hcovers.1, hcovers.2, hcovers.3, hcovers.4⟩ hrow'
        refine .voided (fun hpending => (hbefore.parked hpending).1) fun hstarted => .inl ?_
        exact hbefore.unpaid hstarted (hunpaid key invoice hinvoice hselected)
      · rw [if_neg hselected] at hcovers ⊢
        exact (hfits key invoice billed start row' hinvoice hcovers hrow').frame hsettled hclock rfl
          Iff.rfl rfl rfl Iff.rfl
  | retire keep hkeep =>
      obtain ⟨row, hrow, rfl⟩ := Option.map_eq_some_iff.mp hrow'
      have hbefore := hfits key invoice' billed start row hinvoice' hcovers hrow
      by_cases habandoned : keep billed row = true ∧ row.status = .pending
      · obtain ⟨hselected, hpending⟩ := habandoned
        have hnothing := hkeep billed row hrow hselected
        rw [PlanSubscription.not_isLive_of_pending hpending] at hnothing
        obtain ⟨⟨-, hold, hnothing⟩, -⟩ := hnothing.resolve_left (by simp)
        -- An abandoned purchase has only void invoices, and they are long past.
        obtain ⟨hend, hnever⟩ := hbefore.parked hpending
        have hcreated := hscheduled.parked billed row hrow hpending
        rw [if_pos hselected]
        refine ⟨fun h => ?_, fun _ hopen => ?_, fun hpaid => ?_, fun _ _ => .inr (.inr ?_)⟩
        · cases h
        · have hdead := hnothing key invoice' hinvoice' hcovers.subscription
          simp [PlanInvoice.isUnpaid, hopen] at hdead
        · simp [hnever] at hpaid
        · linarith
      · refine hbefore.retired hsettled hclock (fun hselected => ?_) occasion.now
        refine (hkeep billed row hrow hselected).resolve_right ?_
        rintro ⟨⟨hpending, -⟩, -⟩
        exact habandoned ⟨hselected, hpending⟩
  | openLive opened row hfresh =>
      have hne : billed ≠ opened := fun heq => hknown key invoice' hinvoice' hcovers (heq ▸ hfresh)
      exact (hfits key invoice' billed start row' hinvoice' hcovers
        (by simpa [hne] using hrow')).frame hsettled hclock rfl Iff.rfl rfl rfl Iff.rfl
  | park opened row invoiceKey invoice hfresh hstatus hcreated hnext _ _ hfreshInvoice hopen
      hbills =>
      by_cases heq : key = invoiceKey
      · obtain rfl : invoice = invoice' := by simpa [heq] using hinvoice'
        obtain ⟨rfl, rfl⟩ := hbills.unique hcovers
        obtain rfl : row = row' := by simpa using hrow'
        rw [hopen]
        exact .opened (fun _ => hnext) fun hstarted => absurd hstatus hstarted
      · have hinvoice : before.invoices key = some invoice' := by simpa [heq] using hinvoice'
        have hne : billed ≠ opened := fun heq => hknown key invoice' hinvoice hcovers (heq ▸ hfresh)
        exact (hfits key invoice' billed start row' hinvoice hcovers
          (by simpa [hne] using hrow')).frame hsettled hclock rfl Iff.rfl rfl rfl Iff.rfl
  | raise raised row invoiceKey invoice hrow hlive hdue hfreshInvoice hopen hbills =>
      by_cases heq : key = invoiceKey
      · obtain rfl : invoice = invoice' := by simpa [heq] using hinvoice'
        obtain ⟨rfl, rfl⟩ := hbills.unique hcovers
        obtain rfl := Option.some.inj (hrow.symm.trans (by simpa using hrow'))
        have hstarted : row.status ≠ .pending := fun hpending => by
          simp [PlanSubscription.not_isLive_of_pending hpending] at hlive
        rw [hopen]
        exact .opened (fun hpending => absurd hpending hstarted) fun _ => rfl
      · exact (hfits key invoice' billed start row' (by simpa [heq] using hinvoice') hcovers
          (by simpa using hrow')).frame hsettled hclock rfl Iff.rfl rfl rfl Iff.rfl
  | collect collectedKey collected paymentId hcollected =>
      by_cases heq : key = collectedKey
      · subst heq
        obtain rfl : collected.collect paymentId = invoice' := by simpa using hinvoice'
        obtain ⟨hunpaid, hgranted, hvoid⟩ := collected.collect_status paymentId
        exact (hfits key collected billed start row' hcollected
          ⟨hcovers.1, hcovers.2, hcovers.3, hcovers.4⟩ hrow').frame hsettled hclock rfl Iff.rfl
          hunpaid hgranted hvoid
      · exact (hfits key invoice' billed start row' (by simpa [heq] using hinvoice') hcovers
          hrow').frame hsettled hclock rfl Iff.rfl rfl rfl Iff.rfl
  | grant grantedKey granted bought row grantedStart status paidAt hgranted hrow hbills hgrounds
      halone =>
      have hstatus : status.isSettled = true := by
        rcases hgrounds with ⟨rfl, -⟩ | ⟨rfl | rfl, -⟩ <;> rfl
      have hplace := hscheduled.granted_place hclock hperiod hgranted hrow hbills
        (hgrounds.symm.imp (fun h => h.2.1) fun h => h.2.2) halone
      by_cases hbilled : billed = bought
      · subst hbilled
        have hrowAfter : { Book.activated occasion.now row with
            nextBillingAt := grantedStart + creditPeriod } = row' := by
          simpa [hrow] using hrow'
        have hstarted : row'.status ≠ .pending := by
          rw [← hrowAfter]
          unfold Book.activated
          split
          · simp
          next hnever => exact hnever
        have hnext : row'.nextBillingAt = grantedStart + creditPeriod := by rw [← hrowAfter]
        by_cases heq : key = grantedKey
        · obtain rfl : granted.resolve status paidAt = invoice' := by simpa [heq] using hinvoice'
          obtain ⟨-, rfl⟩ := hbills.unique
            (⟨hcovers.1, hcovers.2, hcovers.3, hcovers.4⟩ : granted.Covers billed start)
          exact .granted hstarted hnext hstatus
        · have hinvoice : before.invoices key = some invoice' := by simpa [heq] using hinvoice'
          refine (hfits key invoice' billed start row hinvoice hcovers hrow).beside hsettled hclock
            hstarted hplace hnext ?_ fun hsame => ?_
          · exact ⟨grantedKey, granted.resolve status paidAt, by simp,
              ⟨hbills.1, hbills.2, hbills.3, hbills.4⟩, hstatus⟩
          · exact halone key invoice' hinvoice heq
              (hcovers.subscription.trans hbills.subscription.symm)
              (hcovers.periodStart.trans (hsame ▸ hbills.periodStart.symm))
      · have hne : key ≠ grantedKey := by
          rintro rfl
          obtain rfl : granted.resolve status paidAt = invoice' := by simpa using hinvoice'
          exact hbilled (hbills.unique
            (⟨hcovers.1, hcovers.2, hcovers.3, hcovers.4⟩ : granted.Covers billed start)).1.symm
        have hinvoice : before.invoices key = some invoice' := by simpa [hne] using hinvoice'
        obtain ⟨other, hother, rfl⟩ := Option.map_eq_some_iff.mp hrow'
        rw [if_neg hbilled]
        have hbefore := hfits key invoice' billed start other hinvoice hcovers hother
        exact hbefore.retired hsettled hclock (fun hreplaced => hreplaced.2.2) occasion.now
  | regrant lapsedKey lapsed lapsedStart paymentId oldKey old opened row grantedKey granted
      hlapsed hunpaid hlapsedCovers hold hsettles hlate hfresh hactive hnext hplan hrowAccount
      hfreshInvoice hpaid hgranted =>
      have hdiffer : grantedKey ≠ lapsedKey := fun heq => by simp [← heq, hfreshInvoice] at hlapsed
      by_cases hnew : key = grantedKey
      · obtain rfl : granted = invoice' := by simpa [hnew, hdiffer] using hinvoice'
        obtain ⟨rfl, rfl⟩ := hgranted.unique hcovers
        obtain rfl : row = row' := by simpa using hrow'
        exact .granted (by simp [hactive]) hnext (by simp [hpaid, InvoiceStatus.isSettled])
      have hinvoice : ∃ invoice, before.invoices key = some invoice ∧
          invoice.Covers billed start ∧ (invoice' = invoice ∨
            (key = lapsedKey ∧ invoice = lapsed ∧ invoice'.status = .void)) := by
        by_cases heq : key = lapsedKey
        · obtain rfl : lapsed.lapse occasion.now paymentId = invoice' := by
            simpa [heq] using hinvoice'
          exact ⟨lapsed, heq ▸ hlapsed, ⟨hcovers.1, hcovers.2, hcovers.3, hcovers.4⟩,
            .inr ⟨heq, rfl, rfl⟩⟩
        · exact ⟨invoice', by simpa [heq, hnew] using hinvoice', hcovers, .inl rfl⟩
      obtain ⟨invoice, hinvoice, hbills, hchange⟩ := hinvoice
      have hne : billed ≠ opened := fun heq => hknown key invoice hinvoice hbills (heq ▸ hfresh)
      simp only [Book.putInvoice_subscriptions, Book.putSubscription_subscriptions, if_neg hne,
        Book.retireWhere_subscriptions] at hrow'
      obtain ⟨other, hother, hrowAfter⟩ := Option.map_eq_some_iff.mp hrow'
      have hbefore := hfits key invoice billed start other hinvoice hbills hother
      have hkept := hbefore.retired hsettled hclock
        (fun hretired : (decide (other.accountId = lapsed.accountId) && other.isLive) = true =>
          (Bool.and_eq_true_iff.mp hretired).2) occasion.now
      rw [hrowAfter] at hkept
      rcases hchange with rfl | ⟨rfl, rfl, hvoid⟩
      · exact hkept
      · -- The lapsed claim can no longer be granted in time.
        obtain ⟨-, rfl⟩ := hlapsedCovers.unique hbills
        rw [hvoid]
        exact .voided (fun hpending => (hkept.parked hpending).1) fun _ => .inr (.inr hlate)

theorem Move.scheduled : after.Scheduled occasion.grace occasion.lead occasion.now :=
  ⟨fun _ _ _ _ hinvoice hcovers => hmove.soon hscheduled hclock hlead hinvoice hcovers,
    fun _ _ _ _ _ hinvoice hcovers hrow =>
      hmove.fits hscheduled hbook hclock hlead hgrace hperiod hinvoice hcovers hrow,
    fun _ _ hrow hpending => hmove.parked hscheduled hrow hpending⟩

omit hlead hgrace hbook in
/-- The timestamp of a subscription stays, or moves on because an invoice of it
became settled. -/
theorem Move.next_persists {key : ℕ} {row : PlanSubscription}
    (hrow : before.subscriptions key = some row) :
    ∃ row', after.subscriptions key = some row' ∧ (row'.nextBillingAt = row.nextBillingAt ∨
      (row.nextBillingAt ≤ row'.nextBillingAt ∧ ∃ invoiceKey invoice invoice',
        (occasion.settles invoiceKey invoice ∨ occasion.forgives invoiceKey invoice) ∧
        before.invoices invoiceKey = some invoice ∧ invoice.status.isSettled = false ∧
        after.invoices invoiceKey = some invoice' ∧ invoice'.subscriptionId = some key ∧
        invoice'.status.isSettled = true)) := by
  cases hmove with
  | withdraw | raise | collect => exact ⟨row, by simpa using hrow, .inl rfl⟩
  | retire keep =>
      refine ⟨if keep key row then row.cancel occasion.now else row, by simp [hrow], .inl ?_⟩
      split <;> rfl
  | openLive opened _ hfresh | park opened _ _ _ hfresh =>
      have hne : key ≠ opened := fun heq => by simp [heq, hfresh] at hrow
      exact ⟨row, by simp [hne, hrow], .inl rfl⟩
  | grant grantedKey granted billed bought start status paidAt hgranted hbought hbills hgrounds
      halone =>
      by_cases heq : key = billed
      · subst heq
        obtain rfl := Option.some.inj (hrow.symm.trans hbought)
        refine ⟨{ Book.activated occasion.now row with nextBillingAt := start + creditPeriod },
          by simp [hrow], ?_⟩
        rcases hscheduled.granted_place hclock hperiod hgranted hrow hbills
          (hgrounds.symm.imp (fun h => h.2.1) fun h => h.2.2) halone with hend | ⟨-, hstart⟩
        · exact .inl hend.symm
        · have hpos := creditPeriod_pos
          refine .inr ⟨by rw [hstart]; exact le_add_of_nonneg_right hpos.le, grantedKey, granted,
            granted.resolve status paidAt, hgrounds.imp (fun h => h.2.2.1) fun h => h.2.2.2,
            hgranted, ?_, by simp, hbills.subscription, ?_⟩
          · by_contra hpaid
            have hle := ((hscheduled.fits grantedKey granted key start row hgranted hbills
              hrow).settled (by simpa using hpaid)).1
            linarith
          · rcases hgrounds with ⟨rfl, -⟩ | ⟨rfl | rfl, -⟩ <;> rfl
      · refine ⟨if bought.status = .pending ∧ row.accountId = bought.accountId ∧ row.isLive then
          row.cancel occasion.now else row, by simp [heq, hrow], .inl ?_⟩
        split <;> rfl
  | regrant _ lapsed _ _ _ _ opened _ _ _ _ _ _ _ _ _ hfresh =>
      have hne : key ≠ opened := fun heq => by simp [heq, hfresh] at hrow
      refine ⟨if decide (row.accountId = lapsed.accountId) && row.isLive then
        row.cancel occasion.now else row, by simp [hne, hrow], .inl ?_⟩
      split <;> rfl

end Step

theorem Book.Scheduled.later {grace lead : Int} {clock clock' : Instant} {book : Book}
    (hscheduled : book.Scheduled grace lead clock) (hclock : clock ≤ clock') :
    book.Scheduled grace lead clock' := by
  refine ⟨fun key invoice billed start hinvoice hcovers => ?_,
    fun key invoice billed start row hinvoice hcovers hrow => ?_, hscheduled.parked⟩
  · have hsoon := hscheduled.soon key invoice billed start hinvoice hcovers
    linarith
  · exact (hscheduled.fits key invoice billed start row hinvoice hcovers hrow).frame
      (fun _ => id) hclock rfl Iff.rfl rfl rfl Iff.rfl

/-- Moves that settle and forgive nothing. -/
theorem Moves.scheduled_of_idle (hmoves : Moves occasion before after)
    (hidle : ∀ key invoice, ¬ occasion.settles key invoice ∧ ¬ occasion.forgives key invoice)
    {clock : Instant} (hscheduled : before.Scheduled occasion.grace occasion.lead clock)
    (hbook : before.Wellformed occasion.account occasion.plan) (hclock : clock ≤ occasion.now)
    (hlead : 0 ≤ occasion.lead) (hperiod : occasion.lead + occasion.grace < creditPeriod) :
    after.Scheduled occasion.grace occasion.lead occasion.now ∧
      ∀ key row, before.subscriptions key = some row →
        ∃ row', after.subscriptions key = some row' ∧
          row'.nextBillingAt = row.nextBillingAt := by
  induction hmoves with
  | refl => exact ⟨hscheduled.later hclock, fun key row hrow => ⟨row, hrow, rfl⟩⟩
  | @tail middle after hearlier hmove ih =>
      obtain ⟨hmiddle, hkept⟩ := ih
      have hgrace : middle.SettlesInGrace occasion := fun key invoice _ _ _ hsettles =>
        absurd hsettles (hidle key invoice).1
      have hbook' := Moves.wellformed hearlier hbook
      refine ⟨hmove.scheduled hmiddle hbook' le_rfl hlead hgrace hperiod, fun key row hrow => ?_⟩
      obtain ⟨waypoint, hwaypoint, hnext⟩ := hkept key row hrow
      obtain ⟨row', hrow', hsame | ⟨-, invoiceKey, invoice, _, hgrants, -⟩⟩ :=
        hmove.next_persists hmiddle le_rfl hperiod hwaypoint
      · exact ⟨row', hrow', hsame.trans hnext⟩
      · exact (hgrants.elim (hidle invoiceKey invoice).1 (hidle invoiceKey invoice).2).elim

end Moves

end ChmabaPay
