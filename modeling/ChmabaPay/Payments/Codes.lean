import ChmabaPay.Billing.Runs
import ChmabaPay.Payments.Evolution

/-! # The codes of plan invoices

An invoice finds its payment by a pointer, and the payment names its invoice by
a reference. While no caller writes such references by hand the two agree: the
code an invoice points at was minted for that invoice, or is settled already.
-/

namespace ChmabaPay

open Calendar Relational Execution Fallible

/-! ## References -/

/-- Text before the first separator determines what was written there. -/
theorem append_separator_inj {α : Type} {separator : α} {first second rest rest' : List α}
    (hfirst : separator ∉ first) (hsecond : separator ∉ second)
    (heq : first ++ separator :: rest = second ++ separator :: rest') : first = second := by
  induction first generalizing second with
  | nil =>
      cases second with
      | nil => rfl
      | cons head tail =>
          obtain ⟨rfl, -⟩ := List.cons.inj heq
          exact absurd List.mem_cons_self hsecond
  | cons head tail ih =>
      cases second with
      | nil =>
          obtain ⟨rfl, -⟩ := List.cons.inj heq
          exact absurd List.mem_cons_self hfirst
      | cons head' tail' =>
          obtain ⟨rfl, htail⟩ := List.cons.inj heq
          rw [ih (fun hmem => hfirst (List.mem_cons_of_mem _ hmem))
            (fun hmem => hsecond (List.mem_cons_of_mem _ hmem)) htail]

theorem separator_notMem_repr (key : ℕ) : '-' ∉ key.repr.toList := by
  intro hmem
  rw [Nat.toList_repr] at hmem
  have hdigit := Nat.isDigit_of_mem_toDigits (by decide) (by decide) hmem
  exact absurd hdigit (by decide)

/-- A reference determines the invoice it was printed for. -/
theorem invoiceReference_inj {key key' : ℕ} {invoice invoice' : PlanInvoice}
    (heq : invoiceReference key invoice = invoiceReference key' invoice') : key = key' := by
  have hlist := congrArg String.toList heq
  simp only [invoiceReference, String.toList_append, List.append_assoc] at hlist
  have hdigits : key.repr.toList = key'.repr.toList :=
    append_separator_inj (separator_notMem_repr key) (separator_notMem_repr key')
      (List.append_cancel_left hlist)
  rw [Nat.toList_repr, Nat.toList_repr] at hdigits
  have hread : ∀ number, Nat.ofDigitChars 10 (Nat.toDigits 10 number) 0 = number := fun _ =>
    Nat.ofDigitChars_toDigits (by decide) (by decide)
  rw [← hread key, hdigits, hread]

/-- The payment carries the reference of this invoice. -/
def Payment.IsCodeOf (payment : Payment) (key : ℕ) : Prop :=
  ∃ invoice, payment.referenceId = some (invoiceReference key invoice)

theorem Payment.IsCodeOf.unique {payment : Payment} {key key' : ℕ}
    (hcode : payment.IsCodeOf key) (hcode' : payment.IsCodeOf key') : key = key' := by
  obtain ⟨invoice, hreference⟩ := hcode
  obtain ⟨invoice', hreference'⟩ := hcode'
  exact invoiceReference_inj (Option.some.inj (hreference.symm.trans hreference'))

/-! ## Pointers -/

section Pointers

variable {occasion : Occasion} {before after : Book}

/-- An invoice keeps its pointer, loses it, or is handed one. -/
theorem Move.pointer_origin (hmove : Move occasion before after) {key paymentId : ℕ}
    {invoice' : PlanInvoice} (hinvoice' : after.invoices key = some invoice')
    (hpointer : invoice'.chmabapayPaymentId = some paymentId) :
    (∃ invoice, before.invoices key = some invoice ∧
        invoice.chmabapayPaymentId = some paymentId) ∨ occasion.hands key paymentId := by
  cases hmove with
  | retire | openLive => exact .inl ⟨invoice', by simpa using hinvoice', hpointer⟩
  | withdraw keep reason =>
      obtain ⟨invoice, hinvoice, rfl⟩ := Option.map_eq_some_iff.mp hinvoice'
      refine .inl ⟨invoice, hinvoice, ?_⟩
      split at hpointer
      · exact hpointer
      · exact hpointer
  | park _ _ invoiceKey invoice _ _ _ _ _ _ _ _ _ _ hnone
  | raise _ _ invoiceKey invoice _ _ _ _ _ _ _ hnone =>
      by_cases heq : key = invoiceKey
      · obtain rfl : invoice = invoice' := by simpa [heq] using hinvoice'
        rw [hnone] at hpointer
        cases hpointer
      · exact .inl ⟨invoice', by simpa [heq] using hinvoice', hpointer⟩
  | collect collectedKey collected handed hcollected hunpaid hhands =>
      by_cases heq : key = collectedKey
      · subst heq
        obtain rfl : collected.collect handed = invoice' := by simpa using hinvoice'
        obtain rfl := Option.some.inj hpointer
        exact .inr hhands
      · exact .inl ⟨invoice', by simpa [heq] using hinvoice', hpointer⟩
  | grant grantedKey granted billed row start status paidAt hgranted =>
      by_cases heq : key = grantedKey
      · subst heq
        obtain rfl : granted.resolve status paidAt = invoice' := by simpa using hinvoice'
        exact .inl ⟨granted, hgranted, hpointer⟩
      · exact .inl ⟨invoice', by simpa [heq] using hinvoice', hpointer⟩
  | regrant lapsedKey lapsed start credited oldKey old billed row grantedKey granted
      hlapsed hunpaid hcovers hold hsettles hlate hfresh hstatus hnext hplan hrowAccount
      hfreshInvoice hgrantedPaid hgranted haccount hcredited hhands =>
      by_cases hvoid : key = lapsedKey
      · subst hvoid
        obtain rfl : lapsed.lapse occasion.now credited = invoice' := by
          simpa using hinvoice'
        simp only [PlanInvoice.lapse] at hpointer
        split at hpointer
        · cases hpointer
        · exact .inl ⟨lapsed, hlapsed, hpointer⟩
      · by_cases heq : key = grantedKey
        · have hrow : granted = invoice' := by simpa [hvoid, heq, heq ▸ hvoid] using hinvoice'
          subst hrow
          exact .inr (heq ▸ hhands paymentId (hcredited.symm.trans hpointer))
        · exact .inl ⟨invoice', by simpa [hvoid, heq] using hinvoice', hpointer⟩

theorem Moves.pointer_origin (hmoves : Moves occasion before after) {key paymentId : ℕ}
    {invoice' : PlanInvoice} (hinvoice' : after.invoices key = some invoice')
    (hpointer : invoice'.chmabapayPaymentId = some paymentId) :
    (∃ invoice, before.invoices key = some invoice ∧
        invoice.chmabapayPaymentId = some paymentId) ∨ occasion.hands key paymentId := by
  induction hmoves generalizing invoice' with
  | refl => exact .inl ⟨invoice', hinvoice', hpointer⟩
  | tail _ hmove ih =>
      rcases hmove.pointer_origin hinvoice' hpointer with
        ⟨middle, hmiddle, hpointer'⟩ | hhands
      · exact ih hmiddle hpointer'
      · exact .inr hhands

end Pointers

/-! ## What ties payments to invoices -/

/-- The payment is settled, or was minted for the invoice. -/
def Tables.Serves (tables : Tables) (key paymentId : ℕ) : Prop :=
  ∃ payment, tables.payments.get? paymentId = some payment ∧
    (payment.status.isSettled = true ∨ payment.IsCodeOf key)

structure Tables.Coded (tables : Tables) : Prop where
  store : ∀ key payment, tables.payments.get? key = some payment →
    ∃ store, tables.stores.get? payment.storeId = some store
  keyed : ∀ key payment name, tables.payments.get? key = some payment →
    payment.idempotencyKey = some name → payment.referenceId = some name
  lineage : ∀ key payment parentKey, tables.payments.get? key = some payment →
    payment.reissuedFromId = some parentKey →
    ∃ parent, tables.payments.get? parentKey = some parent ∧
      payment.referenceId = parent.referenceId
  pointer : ∀ key invoice paymentId, tables.invoices.get? key = some invoice →
    invoice.chmabapayPaymentId = some paymentId → tables.Serves key paymentId

section Coded

variable {settings : Settings} {now : Instant} {tables tables' : Tables}

theorem PaymentsEvolve.serves {mandate : Mandate} (hevolve : PaymentsEvolve mandate tables tables')
    {key paymentId : ℕ} (hserves : tables.Serves key paymentId) :
    tables'.Serves key paymentId := by
  obtain ⟨payment, hpayment, hsettled | ⟨invoice, hreference⟩⟩ := hserves
  all_goals obtain ⟨payment', hpayment', hevolves⟩ := hevolve.persists paymentId payment hpayment
  · exact ⟨payment', hpayment', .inl (hevolves.settled hsettled)⟩
  · exact ⟨payment', hpayment', .inr ⟨invoice, hevolves.reference.trans hreference⟩⟩

/-- Re-issuing the code of an invoice yields a code of the same invoice. -/
theorem Tables.Coded.reissue (hcoded : tables.Coded) {rail : Rail} {parentId : ℕ}
    {parent : Payment} {publicId : String} {paymentId key : ℕ}
    (hserves : parent.status.isSettled = true ∨ parent.IsCodeOf key)
    (hparent : tables.payments.get? parentId = some parent)
    (hreissue : reissuePayment settings rail now tables parentId parent publicId =
      .ok (paymentId, tables')) : tables'.Serves key paymentId := by
  obtain ⟨hdead, hsuccessor⟩ := reissuePayment_eq_ok hreissue
  have hcode : parent.IsCodeOf key := by
    rcases hserves with hsettled | hcode
    · rcases hdead with hdead | hdead <;> simp [hdead, PaymentStatus.isSettled] at hsettled
    · exact hcode
  obtain ⟨invoice, hreference⟩ := hcode
  rcases hsuccessor with
    ⟨rfl, payment, hpayment, hlink, -⟩ | ⟨payment, rfl, hissued, -, rfl⟩
  · obtain ⟨parent', hparent', hsame⟩ := hcoded.lineage paymentId payment parentId hpayment hlink
    obtain rfl := Option.some.inj (hparent.symm.trans hparent')
    exact ⟨payment, hpayment, .inr ⟨invoice, hsame.trans hreference⟩⟩
  · exact ⟨payment, by simp, .inr ⟨invoice, hissued.reference.trans hreference⟩⟩

/-- The payment handed out for an invoice serves it. -/
theorem Tables.Coded.getInvoiceKhqr (hcoded : tables.Coded) {rail : Rail}
    {accountId invoiceId : ℕ} {publicId : String} {paymentId : ℕ}
    (hkhqr : getInvoiceKhqr settings rail now tables accountId invoiceId publicId =
      .ok (paymentId, tables')) : tables'.Serves invoiceId paymentId := by
  obtain ⟨invoice, minted, hqId, hq, hinvoice, -, -, -, hminted, rfl⟩ := getInvoiceKhqr_eq_ok hkhqr
  change minted.Serves invoiceId paymentId
  rcases invoicePayment_eq_ok hminted with
    ⟨storedId, stored, hpointer, hstored, ⟨rfl, rfl⟩ | hreissue⟩ |
      ⟨request, hreference, hidempotency, hcreate⟩
  · exact hcoded.pointer invoiceId invoice paymentId hinvoice hpointer
  · obtain ⟨payment, hpayment, hserves⟩ :=
      hcoded.pointer invoiceId invoice storedId hinvoice hpointer
    obtain rfl := Option.some.inj (hstored.symm.trans hpayment)
    exact hcoded.reissue hserves hstored hreissue
  · rcases createPayment_eq_ok hcreate with
      ⟨rfl, name, payment, hname, hpayment, -, hkey⟩ | ⟨payment, rfl, hcreated, rfl⟩
    · obtain rfl := Option.some.inj (hidempotency.symm.trans hname)
      exact ⟨payment, hpayment, .inr ⟨invoice, hcoded.keyed _ _ _ hpayment hkey⟩⟩
    · exact ⟨payment, by simp, .inr ⟨invoice, hcreated.reference.trans hreference⟩⟩

/-- Whatever an operation gives an invoice to point at serves it. -/
theorem Tables.Coded.hands (hcoded : tables.Coded) {op : Op} {response : Response}
    (hperform : perform settings now tables op = .ok (response, tables')) {key paymentId : ℕ}
    (hhands : op.hands response key paymentId) : tables'.Serves key paymentId := by
  cases op with
  | markPaid publicId credit =>
      simp only [perform, bind_eq_ok, pure_eq_ok, Prod.mk.injEq] at hperform
      obtain ⟨⟨settledId, settled⟩, hmark, hresponse, rfl⟩ := hperform
      obtain rfl : settledId = some paymentId := by
        simpa using hresponse.trans hhands
      rcases markPaid_eq_ok hmark with ⟨hnone, -⟩ | ⟨found, payment, hfound, hfind, -, hsettle⟩
      · cases hnone
      · obtain rfl := Option.some.inj hfound
        exact ⟨_, settlePayment_paid (findByPublicId_eq_some hfind).1 hsettle, .inl rfl⟩
  | getInvoiceKhqr rail accountId invoiceId publicId =>
      simp only [perform, bind_eq_ok, pure_eq_ok, Prod.mk.injEq] at hperform
      obtain ⟨⟨handed, minted⟩, hkhqr, hresponse, rfl⟩ := hperform
      obtain ⟨rfl, hhands⟩ := hhands
      obtain rfl : handed = paymentId := by simpa using hresponse.trans hhands
      exact hcoded.getInvoiceKhqr hkhqr
  | _ => exact absurd hhands id

theorem Tables.Coded.perform (hcoded : tables.Coded) {op : Op} {response : Response}
    (hdirect : ¬ op.isDirect)
    (hperform : perform settings now tables op = .ok (response, tables'))
    (hmoves : Moves (occasionOf settings now tables tables' op response) tables.book
      tables'.book)
    (hkeeps : tables.Keeps tables') : tables'.Coded := by
  have hevolve := perform_payments hperform
  have hstores : ∀ key, (∃ store, tables.stores.get? key = some store) →
      ∃ store, tables'.stores.get? key = some store := by
    rintro key ⟨store, hstore⟩
    obtain ⟨moment, hheld⟩ := hkeeps.stores key store hstore
    exact ⟨_, hheld⟩
  refine ⟨fun key payment' hpayment' => ?_, fun key payment' name hpayment' hname => ?_,
    fun key payment' parentKey hpayment' hlink => ?_,
    fun key invoice' paymentId hinvoice' hpointer => ?_⟩
  · cases hpayment : tables.payments.get? key with
    | none => exact hstores _ (hevolve.origin key payment' hpayment hpayment').store
    | some payment =>
        obtain ⟨row, hrow, hevolves⟩ := hevolve.persists key payment hpayment
        obtain rfl := Option.some.inj (hrow.symm.trans hpayment')
        exact hevolves.store ▸ hstores _ (hcoded.store key payment hpayment)
  · cases hpayment : tables.payments.get? key with
    | none => exact (hevolve.origin key payment' hpayment hpayment').keyed hdirect name hname
    | some payment =>
        obtain ⟨row, hrow, hevolves⟩ := hevolve.persists key payment hpayment
        obtain rfl := Option.some.inj (hrow.symm.trans hpayment')
        rw [hevolves.reference]
        exact hcoded.keyed key payment name hpayment (hevolves.idempotencyKey ▸ hname)
  · have hparent : ∃ parent, tables.payments.get? parentKey = some parent ∧
        payment'.referenceId = parent.referenceId := by
      cases hpayment : tables.payments.get? key with
      | none =>
          obtain ⟨-, parent, hparent, hsame, -⟩ :=
            (hevolve.origin key payment' hpayment hpayment').parent parentKey hlink
          exact ⟨parent, hparent, hsame⟩
      | some payment =>
          obtain ⟨row, hrow, hevolves⟩ := hevolve.persists key payment hpayment
          obtain rfl := Option.some.inj (hrow.symm.trans hpayment')
          rw [hevolves.reference]
          exact hcoded.lineage key payment parentKey hpayment (hevolves.parent ▸ hlink)
    obtain ⟨parent, hparent, hsame⟩ := hparent
    obtain ⟨parent', hparent', hevolves⟩ := hevolve.persists parentKey parent hparent
    exact ⟨parent', hparent', hsame.trans hevolves.reference.symm⟩
  · rcases Moves.pointer_origin hmoves hinvoice' hpointer with
      ⟨invoice, hinvoice, hpointer'⟩ | hhands
    · exact hevolve.serves (hcoded.pointer key invoice paymentId hinvoice hpointer')
    · exact hcoded.hands hperform hhands

end Coded

/-! ## Runs -/

section Runs

variable {settings : Settings} {world : World}

theorem Initial.coded (hinitial : Initial world) : world.db.tables.Coded := by
  have hpayments := Initial.get?_eq_none hinitial.payments
  have hinvoices := Initial.get?_eq_none hinitial.invoices
  refine ⟨?_, ?_, ?_, ?_⟩
  all_goals simp [hpayments, hinvoices]

theorem step_coded (hworld : world.Wellformed) (hcoded : world.db.tables.Coded) {input : Timed}
    (hdirect : ¬ input.op.isDirect) :
    (next (step settings) world input).db.tables.Coded := by
  rcases step_moves settings hworld input with
    ⟨-, hdb⟩ | ⟨response, -, hperform, hmoves, -, hkeeps⟩
  · rw [hdb]
    exact hcoded
  · exact hcoded.perform hdirect hperform hmoves hkeeps

/-- Payments and invoices agree in every run without hand-written references. -/
theorem run_coded (hinitial : Initial world) {inputs : List Timed}
    (hdirect : ∀ input ∈ inputs, ¬ input.op.isDirect) :
    (run (step settings) world inputs).db.tables.Coded :=
  (run_invariant (fun state : World => state.Wellformed ∧ state.db.tables.Coded)
    (fun input => ¬ input.op.isDirect)
    (fun _ input hstate hinput =>
      ⟨step_wellformed settings hstate.1 input, step_coded hstate.1 hstate.2 hinput⟩)
    ⟨hinitial.wellformed, hinitial.coded⟩ hdirect).2

end Runs

end ChmabaPay
