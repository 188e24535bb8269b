import ChmabaPay.Billing.InForce
import ChmabaPay.Payments.Commits

/-! # Codes handed out for an invoice

A merchant may be handed several codes for one invoice, each re-issue leaving
the earlier ones payable. In runs of the merchant and the rail alone, with no
sweep of the book and no operator, every invoice that is not paid bills a parked
subscription of its own, so a credit that reaches its invoice always puts the
plan in force. Which credits reach their invoice is the main result.
-/

namespace ChmabaPay

open Calendar Relational Execution Fallible

/-! ## Parked purchases -/

/-- Every subscription is billed once, and one whose invoice is not paid is still
parked. -/
structure Book.Waiting (book : Book) : Prop where
  single : ∀ key key' invoice invoice', book.invoices key = some invoice →
    book.invoices key' = some invoice' → invoice.subscriptionId = invoice'.subscriptionId →
    key = key'
  pending : ∀ key invoice billed row, book.invoices key = some invoice →
    invoice.status ≠ .paid → invoice.subscriptionId = some billed →
    book.subscriptions billed = some row → row.status = .pending

section Waiting

variable {occasion : Occasion} {before after : Book}

/-- An invoice raised outside the sweeps bills a subscription that starts with
it. -/
theorem Move.fresh_invoice (hmove : Move occasion before after)
    (hplatform : ¬ occasion.platform) {key : ℕ} {invoice' : PlanInvoice}
    (hnone : before.invoices key = none) (hinvoice' : after.invoices key = some invoice') :
    ∃ billed row', invoice'.subscriptionId = some billed ∧ before.subscriptions billed = none ∧
      after.subscriptions billed = some row' ∧
      (invoice'.status = .paid ∨ row'.status = .pending) ∧
      ∀ other, before.invoices other = none → after.invoices other ≠ none → other = key := by
  cases hmove with
  | withdraw | retire | openLive => simp [hnone] at hinvoice'
  | raise _ _ _ _ _ _ _ _ _ _ _ _ _ hsweep => exact absurd hsweep hplatform
  | park billed row invoiceKey invoice hfresh hstatus _ _ _ _ hfreshInvoice hopen hcovers =>
      obtain rfl : key = invoiceKey := by
        by_contra hne
        simp [hne, hnone] at hinvoice'
      obtain rfl : invoice = invoice' := by simpa using hinvoice'
      refine ⟨billed, row, hcovers.subscription, hfresh, by simp, .inr hstatus, ?_⟩
      intro other hother hsome
      by_contra hne
      simp [hne, hother] at hsome
  | collect collectedKey collected paymentId hcollected =>
      have hne : key ≠ collectedKey := fun heq => by simp [heq, hcollected] at hnone
      simp [hne, hnone] at hinvoice'
  | grant grantedKey granted billed row start status paidAt hgranted =>
      have hne : key ≠ grantedKey := fun heq => by simp [heq, hgranted] at hnone
      simp [hne, hnone] at hinvoice'
  | regrant lapsedKey lapsed start paymentId oldKey old billed row grantedKey granted
      hlapsed hunpaid hcovers hold hsettles hlate hfresh hstatus hnext hplan hrowAccount
      hfreshInvoice hpaid hgranted =>
      have hne : key ≠ lapsedKey := fun heq => by simp [heq, hlapsed] at hnone
      obtain rfl : key = grantedKey := by
        by_contra hother
        simp [hne, hother, hnone] at hinvoice'
      obtain rfl : granted = invoice' := by simpa [hne] using hinvoice'
      refine ⟨billed, row, hgranted.subscription, hfresh, by simp, .inl hpaid, ?_⟩
      intro other hother hsome
      by_contra hdiffer
      have hold' : other ≠ lapsedKey := fun heq => by simp [heq, hlapsed] at hother
      simp [hold', hdiffer, hother] at hsome

/-- A parked subscription stays parked until an invoice of it is paid. -/
theorem Move.pending_persists (hmove : Move occasion before after)
    (hplatform : ¬ occasion.platform) {key : ℕ} {row : PlanSubscription}
    (hrow : before.subscriptions key = some row) (hpending : row.status = .pending)
    {row' : PlanSubscription} (hrow' : after.subscriptions key = some row') :
    row'.status = .pending ∨ ∃ invoiceKey invoice', after.invoices invoiceKey = some invoice' ∧
      invoice'.status = .paid ∧ invoice'.subscriptionId = some key := by
  have hidle := PlanSubscription.not_isLive_of_pending hpending
  cases hmove with
  | withdraw | raise | collect =>
      obtain rfl : row = row' := by simpa [hrow] using hrow'
      exact .inl hpending
  | retire keep hkeep =>
      simp only [Book.retireWhere_subscriptions, hrow, Option.map_some, Option.some.injEq] at hrow'
      subst hrow'
      split
      next hselected =>
        rcases hkeep key row hrow hselected with hlive | ⟨-, hsweep⟩
        · simp [hidle] at hlive
        · exact absurd hsweep hplatform
      next => exact .inl hpending
  | openLive opened _ hfresh =>
      have hne : key ≠ opened := fun heq => by simp [heq, hfresh] at hrow
      obtain rfl : row = row' := by simpa [hne, hrow] using hrow'
      exact .inl hpending
  | park opened _ _ _ hfresh =>
      have hne : key ≠ opened := fun heq => by simp [heq, hfresh] at hrow
      obtain rfl : row = row' := by simpa [hne, hrow] using hrow'
      exact .inl hpending
  | grant grantedKey granted billed bought start status paidAt hgranted hbought hcovers hgrounds =>
      rcases hgrounds with ⟨rfl, -⟩ | ⟨-, -, hsweep, -⟩
      · by_cases heq : key = billed
        · subst heq
          exact .inr ⟨grantedKey, granted.resolve .paid paidAt, by simp, rfl,
            hcovers.subscription⟩
        · simp only [Book.cover_subscriptions, Book.putInvoice_subscriptions, hrow,
            Option.map_some, if_neg heq, hidle, Bool.false_eq_true, and_false, if_false,
            Option.some.injEq] at hrow'
          exact .inl (hrow' ▸ hpending)
      · exact absurd hsweep hplatform
  | regrant lapsedKey lapsed start paymentId oldKey old opened _ _ _ _ _ _ _ _ _ hfresh =>
      have hne : key ≠ opened := fun heq => by simp [heq, hfresh] at hrow
      simp only [Book.putInvoice_subscriptions, Book.putSubscription_subscriptions, if_neg hne,
        Book.retireWhere_subscriptions, hrow, Option.map_some, hidle, Bool.and_false,
        Bool.false_eq_true, if_false, Option.some.injEq] at hrow'
      exact .inl (hrow' ▸ hpending)

theorem Move.waiting (hmove : Move occasion before after) (hplatform : ¬ occasion.platform)
    (hbook : before.Wellformed occasion.account occasion.plan) (hwaiting : before.Waiting) :
    after.Waiting := by
  -- Every invoice was there before under the same subscription, or starts one.
  have horigin : ∀ key invoice', after.invoices key = some invoice' →
      (∃ invoice, before.invoices key = some invoice ∧ invoice.Evolves invoice') ∨
        before.invoices key = none := by
    intro key invoice' hinvoice'
    cases hinvoice : before.invoices key with
    | none => exact .inr rfl
    | some invoice =>
        obtain ⟨row, hrow, hevolves⟩ := hmove.invoice_persists hinvoice
        obtain rfl := Option.some.inj (hrow.symm.trans hinvoice')
        exact .inl ⟨invoice, rfl, hevolves⟩
  have hknown : ∀ key invoice, before.invoices key = some invoice →
      ∀ billed, invoice.subscriptionId = some billed → before.subscriptions billed ≠ none := by
    intro key invoice hinvoice billed hbilled
    obtain ⟨owner, row, start, hcovers, hrow, -⟩ := hbook.backed key invoice hinvoice
    obtain rfl := Option.some.inj (hcovers.subscription.symm.trans hbilled)
    simp [hrow]
  have hsingle : ∀ key key' invoice invoice', after.invoices key = some invoice →
      after.invoices key' = some invoice' → invoice.subscriptionId = invoice'.subscriptionId →
      key = key' := by
    intro key key' invoice invoice' hinvoice hinvoice' hsame
    rcases horigin key invoice hinvoice with ⟨old, hold, hevolves⟩ | hnone <;>
      rcases horigin key' invoice' hinvoice' with ⟨old', hold', hevolves'⟩ | hnone'
    · exact hwaiting.single key key' old old' hold hold'
        (hevolves.subscription.symm.trans (hsame.trans hevolves'.subscription))
    · obtain ⟨billed, row', hbilled, hfresh, -⟩ :=
        hmove.fresh_invoice hplatform hnone' hinvoice'
      exact absurd hfresh (hknown key old hold billed
        (hevolves.subscription.symm.trans (hsame.trans hbilled)))
    · obtain ⟨billed, row', hbilled, hfresh, -⟩ := hmove.fresh_invoice hplatform hnone hinvoice
      exact absurd hfresh (hknown key' old' hold' billed
        (hevolves'.subscription.symm.trans (hsame.symm.trans hbilled)))
    · obtain ⟨billed, row', -, -, -, -, honly⟩ :=
        hmove.fresh_invoice hplatform hnone' hinvoice'
      exact honly key hnone (by simp [hinvoice])
  refine ⟨hsingle, fun key invoice' billed row' hinvoice' hunpaid hbilled hrow' => ?_⟩
  rcases horigin key invoice' hinvoice' with ⟨invoice, hinvoice, hevolves⟩ | hnone
  · have hbilled' := hevolves.subscription.symm.trans hbilled
    have hgranted := hknown key invoice hinvoice billed hbilled'
    obtain ⟨row, hrow⟩ := Option.ne_none_iff_exists'.mp hgranted
    have hpending := hwaiting.pending key invoice billed row hinvoice
      (fun hpaid => hunpaid (hevolves.paid hpaid)) hbilled' hrow
    rcases hmove.pending_persists hplatform hrow hpending hrow' with
      hstill | ⟨paidKey, paid, hpaidRow, hpaid, hown⟩
    · exact hstill
    · obtain rfl := hsingle key paidKey invoice' paid hinvoice' hpaidRow (hbilled.trans hown.symm)
      obtain rfl := Option.some.inj (hinvoice'.symm.trans hpaidRow)
      exact absurd hpaid hunpaid
  · obtain ⟨owner, row, howner, -, hrow, hpaid | hpending, -⟩ :=
      hmove.fresh_invoice hplatform hnone hinvoice'
    · exact absurd hpaid hunpaid
    · obtain rfl := Option.some.inj (howner.symm.trans hbilled)
      obtain rfl := Option.some.inj (hrow.symm.trans hrow')
      exact hpending

theorem Moves.waiting (hmoves : Moves occasion before after) (hplatform : ¬ occasion.platform)
    (hbook : before.Wellformed occasion.account occasion.plan) (hwaiting : before.Waiting) :
    after.Waiting := by
  induction hmoves with
  | refl => exact hwaiting
  | tail hearlier hmove ih =>
      exact hmove.waiting hplatform (Moves.wellformed hearlier hbook) ih

end Waiting

/-! ## What the merchant was handed -/

/-- The code was answered to a request for the code of this invoice. -/
def HandedOutIn (history : List (Timed × Except Failure Response)) (key paymentId : ℕ) : Prop :=
  ∃ elapsed rail accountId publicId,
    (⟨elapsed, .getInvoiceKhqr rail accountId key publicId⟩, .ok (.payment paymentId)) ∈ history

/-- The merchant's own requests and the rail: no sweep of the book, no operator,
and no payment created by hand. -/
def Op.isCheckout (op : Op) : Prop := ¬ op.isDirect ∧ ¬ op.isPlatform

/-- The invariant behind `handed_out_payment_settles`. -/
structure CheckoutSoFar (world : World) (history : List (Timed × Except Failure Response)) :
    Prop where
  wellformed : world.Wellformed
  coded : world.db.tables.Coded
  waiting : world.book.Waiting
  handed : ∀ key paymentId, HandedOutIn history key paymentId →
    world.db.tables.Serves key paymentId

section Runs

variable {settings : Settings} {world : World}

theorem CheckoutSoFar.step {history : List (Timed × Except Failure Response)}
    (hworld : CheckoutSoFar world history) {input : Timed} (hcheckout : input.op.isCheckout) :
    CheckoutSoFar (next (step settings) world input)
      (history ++ [(input, (ChmabaPay.step settings world input).2)]) := by
  refine ⟨step_wellformed settings hworld.wellformed input,
    step_coded hworld.wellformed hworld.coded hcheckout.1, ?_, ?_⟩
  · rcases step_moves settings hworld.wellformed input with
      ⟨-, hdb⟩ | ⟨response, -, -, hmoves, -, hkeeps⟩
    · simpa only [World.book, hdb] using hworld.waiting
    · exact Moves.waiting hmoves hcheckout.2
        (hworld.wellformed.mono fun _ => hkeeps.hasAccount) hworld.waiting
  · rintro key paymentId ⟨elapsed, rail, accountId, publicId, hmem⟩
    rcases step_moves settings hworld.wellformed input with
      ⟨⟨failure, hfailure⟩, hdb⟩ | ⟨response, hresponse, hperform, -⟩
    · rw [hfailure, List.mem_append, List.mem_singleton] at hmem
      rw [hdb]
      rcases hmem with hearlier | hnow
      · exact hworld.handed key paymentId ⟨elapsed, rail, accountId, publicId, hearlier⟩
      · cases congrArg Prod.snd hnow
    · rw [hresponse, List.mem_append, List.mem_singleton] at hmem
      rcases hmem with hearlier | hnow
      · exact (perform_payments hperform).serves
          (hworld.handed key paymentId ⟨elapsed, rail, accountId, publicId, hearlier⟩)
      · obtain ⟨rfl, hanswer⟩ := Prod.mk.inj hnow
        exact hworld.coded.hands hperform ⟨rfl, (Except.ok.inj hanswer).symm⟩

theorem run_checkout (hinitial : Initial world) {inputs : List Timed}
    (hinputs : ∀ input ∈ inputs, input.op.isCheckout) :
    CheckoutSoFar (run (step settings) world inputs) (trace (step settings) world inputs) := by
  have hinvoices := Initial.get?_eq_none hinitial.invoices
  have hstart : CheckoutSoFar world [] := by
    refine ⟨hinitial.wellformed, hinitial.coded, ⟨?_, ?_⟩, ?_⟩
    · simp [World.book, hinvoices]
    · simp [World.book, hinvoices]
    · rintro key paymentId ⟨_, _, _, _, hmem⟩
      cases hmem
  exact run_invariant_trace CheckoutSoFar (fun input => input.op.isCheckout)
    (fun _ _ _ hstate hinput => hstate.step hinput) hstart hinputs

end Runs

/-! ## Money taken against an invoice -/

/-- The settled invoice is the given one, or a new one that took its payment
over; it is paid, and it bills the same plan. -/
structure PaidFor (before after : Book) (key : ℕ) (invoice : PlanInvoice)
    (paymentId settledKey : ℕ) (settled : PlanInvoice) : Prop where
  row : after.invoices settledKey = some settled
  paid : settled.status = .paid
  account : settled.accountId = invoice.accountId
  origin : settledKey = key ∨
    (before.invoices settledKey = none ∧ settled.chmabapayPaymentId = some paymentId)
  plan : ∃ billed bought granted bought', invoice.subscriptionId = some billed ∧
    before.subscriptions billed = some bought ∧ settled.subscriptionId = some granted ∧
    after.subscriptions granted = some bought' ∧ bought'.planId = bought.planId

/-- The invoice, or a new one that took its payment over, is paid, and the plan
that was bought is the account's one subscription in force. -/
def SettledBy (before after : Tables) (key : ℕ) (invoice : PlanInvoice) (paymentId : ℕ) : Prop :=
  ∃ settledKey settled, PaidFor before.book after.book key invoice paymentId settledKey settled ∧
    InForce after settled

section Credit

variable {settings : Settings} {now : Instant} {tables tables' : Tables} {paymentId : ℕ}
  {payment : Payment} {credit : Credit}

/-- Where every subscription is billed once, a credit always commits. -/
theorem Book.Waiting.commits {account plan : ℕ → Prop} (hwaiting : tables.book.Waiting)
    (hvalid : Constraints tables) (hbook : tables.book.Wellformed account plan)
    (hpayment : tables.payments.get? paymentId = some payment)
    (hsettle : settlePayment settings now tables paymentId payment credit = .ok tables') :
    Constraints tables' := by
  rw [settlePayment_constraints hvalid hpayment hsettle]
  by_cases hpointed : ∃ key invoice, tables.invoices.get? key = some invoice ∧
      invoice.chmabapayPaymentId = some paymentId
  · obtain ⟨key, invoice, hinvoice, hpointer⟩ := hpointed
    rw [settlePayment_livePeriod hvalid hbook hinvoice hpointer hsettle]
    rintro ⟨hvoid, -, other, row, hother, hlive, hsubscription, -⟩
    obtain rfl := hwaiting.single other key row invoice hother hinvoice hsubscription
    obtain rfl := Option.some.inj (hinvoice.symm.trans hother)
    exact hlive hvoid
  · rcases settlePayment_book hsettle with ⟨-, hsame⟩ | ⟨_, key, invoice, -, hinvoice, hpointer, -⟩
    · rw [periodsUnique_iff, hsame]
      exact periodsUnique_iff.mp hvalid.livePeriod
    · exact absurd ⟨key, invoice, hinvoice, hpointer⟩ hpointed

/-- The credit of the code an invoice points at pays the invoice, or a new one
for the same plan that takes the payment over. -/
theorem settlePayment_pays {account plan : ℕ → Prop}
    (hbook : tables.book.Wellformed account plan) {key : ℕ} {invoice : PlanInvoice}
    (hinvoice : tables.invoices.get? key = some invoice) (hunpaid : invoice.status ≠ .paid)
    (hpointer : invoice.chmabapayPaymentId = some paymentId)
    (hsettle : settlePayment settings now tables paymentId payment credit = .ok tables') :
    ∃ settledKey settled,
      PaidFor tables.book tables'.book key invoice paymentId settledKey settled := by
  obtain ⟨billed, row, start, hcovers, hrow, -⟩ := hbook.backed key invoice hinvoice
  rcases settlePayment_book hsettle with
    ⟨hnone, -⟩ | ⟨recorded, found, settledInvoice, hrecorded, hget, -, hunique, hafter⟩
  · exact absurd hpointer (hnone key invoice hinvoice)
  obtain rfl := hunique key invoice hinvoice hpointer
  obtain rfl := Option.some.inj (hinvoice.symm.trans hget)
  have hinvoice' : recorded.invoices.get? key = some invoice := by
    rw [← Tables.book_invoices, hrecorded]
    exact hinvoice
  have hrow' : recorded.subscriptions.get? billed = some row := by
    rw [← Tables.book_subscriptions, hrecorded]
    exact hrow
  have hfresh : tables.invoices.get? recorded.invoices.next = none := by
    rw [← Tables.book_invoices, ← hrecorded]
    simp
  rw [hafter]
  rcases lt_or_ge (start + gracePeriod settings) now with hlate | hearly
  · rw [settleInvoice_book_of_lapsed hunpaid hcovers hrow' _ _ _ hlate,
      reinstate_book _ _ hinvoice']
    have hne : recorded.invoices.next ≠ key := fun heq => by simp [heq, hinvoice] at hfresh
    exact ⟨recorded.invoices.next, grantedInvoice now recorded.subscriptions.next invoice
      (some paymentId) now, by simp [hne], rfl, rfl, .inr ⟨hfresh, rfl⟩, billed, row,
      recorded.subscriptions.next,
      reinstatedSubscription now invoice.accountId row.planId now, hcovers.subscription, hrow,
      rfl, by simp, rfl⟩
  · rw [settleInvoice_book_of_grace hunpaid hcovers hrow' _ _ _ hearly,
      payInvoice_book _ _ hinvoice' hcovers hrow']
    exact ⟨key, invoice.resolve .paid (some now), by simp, rfl, rfl, .inl rfl, billed, row,
      billed, { Book.activated now row with nextBillingAt := start + creditPeriod },
      hcovers.subscription, hrow, hcovers.subscription, by simp [hrow'],
      (Book.evolves_activated now row _).plan⟩

end Credit

/-- In every run of the merchant and the rail, a code that was handed out for an
invoice and is marked paid before the invoice is settles it exactly when the
invoice still points at that code. -/
theorem handed_out_payment_settles {settings : Settings} {world : World}
    (hinitial : Initial world) {inputs : List Timed}
    (hinputs : ∀ input ∈ inputs, input.op.isCheckout) {key paymentId : ℕ}
    (hhanded : HandedOutIn (trace (step settings) world inputs) key paymentId)
    {invoice : PlanInvoice} {payment : Payment}
    (hinvoice : (run (step settings) world inputs).db.tables.invoices.get? key = some invoice)
    (hunpaid : invoice.status ≠ .paid)
    (hpayment : (run (step settings) world inputs).db.tables.payments.get? paymentId =
      some payment)
    (hopen : payment.status.isTerminal = false) (credit : Credit) (elapsed : ℕ) :
    ((next (step settings) (run (step settings) world inputs)
        ⟨elapsed, .markPaid payment.publicId credit⟩).db.tables.payments.get? paymentId).map
        Payment.status = some .paid ∧
      (SettledBy (run (step settings) world inputs).db.tables
          (next (step settings) (run (step settings) world inputs)
            ⟨elapsed, .markPaid payment.publicId credit⟩).db.tables key invoice paymentId ↔
        invoice.chmabapayPaymentId = some paymentId) := by
  have hreached : CheckoutSoFar (run (step settings) world inputs)
      (trace (step settings) world inputs) := run_checkout hinitial hinputs
  generalize run (step settings) world inputs = reached at *
  generalize trace (step settings) world inputs = history at *
  obtain ⟨tables', hsettle⟩ := hreached.coded.settlePayment_ok settings
    (reached.clock + elapsed) credit hpayment hopen
  have hvalid' := hreached.waiting.commits reached.db.valid hreached.wellformed hpayment hsettle
  have hafter := step_wellformed settings hreached.wellformed
    ⟨elapsed, .markPaid payment.publicId credit⟩
  -- what an unpaid invoice waits for is still parked, so its settlement starts it
  have hinforce : PaidInForce reached.db.tables (next (step settings) reached
      ⟨elapsed, .markPaid payment.publicId credit⟩).db.tables := by
    refine step_paidInForce hreached.wellformed ?_
    rintro invoiceKey settled billed row hsettled ⟨_, _, -, -, -, hwas⟩ hbilled hrow hcanceled
    rw [hreached.waiting.pending invoiceKey settled billed row hsettled hwas hbilled hrow]
      at hcanceled
    cases hcanceled
  have hnext : (next (step settings) reached
      ⟨elapsed, .markPaid payment.publicId credit⟩).db.tables = tables' := by
    have hfind := findByPublicId_of_get? reached.db.valid hpayment
    simp [next, step, transact, perform, markPaid, Timed.moment, hfind, hopen, hsettle,
      Except.map, bind, Except.bind, pure, Except.pure, Tables.commit_of_valid hvalid']
  rw [hnext] at hinforce ⊢
  refine ⟨by rw [settlePayment_paid hpayment hsettle]; rfl, ?_, fun hpointer => ?_⟩
  · rintro ⟨settledKey, settled, hsettled, -⟩
    by_contra hpointer
    -- the code was minted for this invoice, and a code serves one invoice only
    have hcode : payment.IsCodeOf key := by
      obtain ⟨row, hrow, hserves⟩ := hreached.handed key paymentId hhanded
      obtain rfl := Option.some.inj (hpayment.symm.trans hrow)
      refine hserves.resolve_left fun hsettled => ?_
      revert hopen hsettled
      cases payment.status <;> simp [PaymentStatus.isTerminal, PaymentStatus.isSettled]
    rcases settlePayment_book hsettle with
      ⟨-, hsame⟩ | ⟨_, found, row, -, hfound, hpointed, -⟩
    · have hrow := hsettled.row
      rw [hsame] at hrow
      rcases hsettled.origin with rfl | ⟨hnone, -⟩
      · obtain rfl := Option.some.inj (hinvoice.symm.trans hrow)
        exact hunpaid hsettled.paid
      · rw [hnone] at hrow
        cases hrow
    · have hother := hreached.coded.isCodeOf hpayment hopen hfound hpointed
      obtain rfl := hcode.unique hother
      obtain rfl := Option.some.inj (hinvoice.symm.trans hfound)
      exact hpointer hpointed
  · obtain ⟨settledKey, settled, hsettled⟩ :=
      settlePayment_pays hreached.wellformed hinvoice hunpaid hpointer hsettle
    refine ⟨settledKey, settled, hsettled, ?_⟩
    refine hinforce settledKey settled hsettled.row hsettled.paid fun old hold hwas => ?_
    rcases hsettled.origin with rfl | ⟨hnone, -⟩
    · obtain rfl := Option.some.inj (hinvoice.symm.trans hold)
      exact hunpaid hwas
    · rw [Tables.book_invoices, hold] at hnone
      cases hnone

/-- The code handed out last, on the specimen platform. -/
theorem handed_out_payment_settles_purchase :
    ∃ invoice, (run (step {}) Specimen.world (purchaseRun.take 3)).db.tables.invoices.get? 0 =
        some invoice ∧
      SettledBy (run (step {}) Specimen.world (purchaseRun.take 3)).db.tables
        (next (step {}) (run (step {}) Specimen.world (purchaseRun.take 3))
          (Specimen.after 60 (.markPaid "pay_1" Specimen.credit))).db.tables 0 invoice 0 := by
  have hinputs : ∀ input ∈ purchaseRun.take 3, input.op.isCheckout := by
    simp [purchaseRun, Specimen.after, Op.isCheckout, Op.isDirect, Op.isPlatform]
  have hanswer : (step {} (run (step {}) Specimen.world (purchaseRun.take 2))
      (Specimen.after 60 (.getInvoiceKhqr Specimen.rail 2 0 "pay_1"))).2 = .ok (.payment 0) := by
    decide +kernel
  have hhanded : HandedOutIn (trace (step {}) Specimen.world (purchaseRun.take 3)) 0 0 :=
    ⟨60 * 1000000, Specimen.rail, 2, "pay_1", hanswer ▸ mem_trace Specimen.world
      (purchaseRun.take 2) (Specimen.after 60 (.getInvoiceKhqr Specimen.rail 2 0 "pay_1")) []⟩
  have hopened : ((run (step {}) Specimen.world (purchaseRun.take 3)).db.tables.invoices.get?
      0).map (fun row => (row.status, row.chmabapayPaymentId)) = some (.opened, some 0) := by
    decide +kernel
  have hpending : ((run (step {}) Specimen.world (purchaseRun.take 3)).db.tables.payments.get?
      0).map (fun row => (row.publicId, row.status)) = some ("pay_1", .pending) := by
    decide +kernel
  obtain ⟨invoice, hinvoice, heq⟩ := Option.map_eq_some_iff.mp hopened
  obtain ⟨hstatus, hpointer⟩ := Prod.mk.inj heq
  obtain ⟨payment, hpayment, heq'⟩ := Option.map_eq_some_iff.mp hpending
  obtain ⟨hname, hopen⟩ := Prod.mk.inj heq'
  refine ⟨invoice, hinvoice, ?_⟩
  have hsettles := (handed_out_payment_settles Specimen.initial_world hinputs hhanded hinvoice
    (by simp [hstatus]) hpayment (by simp [hopen, PaymentStatus.isTerminal]) Specimen.credit
    (60 * 1000000)).2.mpr hpointer
  rw [hname] at hsettles
  exact hsettles

/-- The first code expires, a second one is handed out for the same invoice, and
then the first one is reported paid. -/
def staleCodeRun : List Timed :=
  purchaseRun.take 3 ++
    [Specimen.after 400 .expireDuePayments,
      Specimen.after 60 (.getInvoiceKhqr Specimen.rail 2 0 "pay_2")]

/-- The money is taken and the invoice stays open. -/
theorem handed_out_payment_unsettled :
    Initial Specimen.world ∧ (∀ input ∈ staleCodeRun, input.op.isCheckout) ∧
      HandedOutIn (trace (step {}) Specimen.world staleCodeRun) 0 0 ∧
      ∃ invoice payment,
        (run (step {}) Specimen.world staleCodeRun).db.tables.invoices.get? 0 = some invoice ∧
        invoice.isUnpaid = true ∧
        (run (step {}) Specimen.world staleCodeRun).db.tables.payments.get? 0 = some payment ∧
        payment.publicId = "pay_1" ∧
        ((next (step {}) (run (step {}) Specimen.world staleCodeRun)
          (Specimen.after 60 (.markPaid "pay_1" Specimen.credit))).db.tables.payments.get? 0).map
          Payment.status = some .paid ∧
        ¬ SettledBy (run (step {}) Specimen.world staleCodeRun).db.tables
          (next (step {}) (run (step {}) Specimen.world staleCodeRun)
            (Specimen.after 60 (.markPaid "pay_1" Specimen.credit))).db.tables 0 invoice 0 := by
  have hinputs : ∀ input ∈ staleCodeRun, input.op.isCheckout := by
    simp [staleCodeRun, purchaseRun, Specimen.after, Op.isCheckout, Op.isDirect, Op.isPlatform]
  have hanswer : (step {} (run (step {}) Specimen.world (purchaseRun.take 2))
      (Specimen.after 60 (.getInvoiceKhqr Specimen.rail 2 0 "pay_1"))).2 = .ok (.payment 0) := by
    decide +kernel
  have hhanded : HandedOutIn (trace (step {}) Specimen.world staleCodeRun) 0 0 :=
    ⟨60 * 1000000, Specimen.rail, 2, "pay_1", hanswer ▸ mem_trace Specimen.world
      (purchaseRun.take 2) (Specimen.after 60 (.getInvoiceKhqr Specimen.rail 2 0 "pay_1"))
      (staleCodeRun.drop 3)⟩
  have hopened : ((run (step {}) Specimen.world staleCodeRun).db.tables.invoices.get? 0).map
      PlanInvoice.isUnpaid = some true := by decide +kernel
  have hname : ((run (step {}) Specimen.world staleCodeRun).db.tables.payments.get? 0).map
      Payment.publicId = some "pay_1" := by decide +kernel
  obtain ⟨invoice, hinvoice, hunpaid⟩ := Option.map_eq_some_iff.mp hopened
  obtain ⟨payment, hpayment, hname⟩ := Option.map_eq_some_iff.mp hname
  refine ⟨Specimen.initial_world, hinputs, hhanded, invoice, payment, hinvoice, hunpaid,
    hpayment, hname, by decide +kernel, ?_⟩
  rintro ⟨settledKey, settled, hsettled, -⟩
  -- There is one invoice after the credit, and it is not paid.
  have hnone : (next (step {}) (run (step {}) Specimen.world staleCodeRun)
      (Specimen.after 60 (.markPaid "pay_1" Specimen.credit))).db.tables.invoices.rows.all
        (fun row => decide (row.2.status ≠ .paid)) = true := by decide +kernel
  have hrow := List.all_eq_true.mp hnone _ (Table.get?_eq_some_iff.mp hsettled.row)
  simp [hsettled.paid] at hrow

end ChmabaPay
