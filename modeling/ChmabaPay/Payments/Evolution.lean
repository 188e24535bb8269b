import ChmabaPay.Billing.Sales

/-! # How payment rows evolve over a run

No operation deletes a payment or rewrites what identifies it, money that
arrived stays recorded, and a code that was closed is not opened again. A new
row is a pending code of an existing store, on its own or as a re-issue.
-/

namespace ChmabaPay

open Calendar Relational Fallible

/-- What the operation making a change brings to it: whether a caller named the
reference and the key of the payment itself, the payment a credit arrived for,
and the payments it may re-issue. -/
structure Mandate where
  direct : Prop
  credits : ℕ → Prop
  reissues : ℕ → Prop

/-- What was asked for with a payment: its link, amount, currency and metadata, and when. -/
def Payment.terms (payment : Payment) : ℕ × Int × Currency × Option JsonObject × Instant :=
  (payment.paymentLinkId, payment.amountCents, payment.currency, payment.metadata,
    payment.createdAt)

/-- What an operation may do to a payment row. -/
structure Payment.Evolves (credited : Prop) (old new : Payment) : Prop where
  publicId : new.publicId = old.publicId
  store : new.storeId = old.storeId
  reference : new.referenceId = old.referenceId
  idempotencyKey : new.idempotencyKey = old.idempotencyKey
  parent : new.reissuedFromId = old.reissuedFromId
  settled : old.status.isSettled = true → new.status.isSettled = true
  settles : new.status.isSettled = true → old.status.isSettled = true ∨ credited
  opened : new.status.isOpen = true → old.status.isOpen = true
  terms : new.terms = old.terms
  gateway : new.status.isSettled = true ∨ new.gatewayStatusRaw = old.gatewayStatusRaw

/-- What an operation may insert. Unless a caller named the reference and the key
itself, a row with an idempotency key carries it as its reference. -/
structure Payment.Origin (mandate : Mandate) (tables : Tables) (new : Payment) : Prop where
  status : new.status = .pending
  keyed : ¬ mandate.direct → ∀ key, new.idempotencyKey = some key → new.referenceId = some key
  store : ∃ store, tables.stores.get? new.storeId = some store
  parent : ∀ parentKey, new.reissuedFromId = some parentKey →
    mandate.reissues parentKey ∧ ∃ parent, tables.payments.get? parentKey = some parent ∧
      new.referenceId = parent.referenceId ∧
      (parent.status = .expired ∨ parent.status = .failed)

/-- The payments table of one state grows into that of another. -/
structure PaymentsEvolve (mandate : Mandate) (before after : Tables) : Prop where
  persists : ∀ key old, before.payments.get? key = some old →
    ∃ new, after.payments.get? key = some new ∧ old.Evolves (mandate.credits key) new
  origin : ∀ key new, before.payments.get? key = none → after.payments.get? key = some new →
    new.Origin mandate before

theorem Payment.Evolves.refl (credited : Prop) (payment : Payment) :
    payment.Evolves credited payment :=
  ⟨rfl, rfl, rfl, rfl, rfl, id, .inl, id, rfl, .inr rfl⟩

/-! ## Single edits -/

section Edits

variable {mandate : Mandate} {tables tables' : Tables}

theorem PaymentsEvolve.of_eq (hsame : tables'.payments = tables.payments) :
    PaymentsEvolve mandate tables tables' := by
  refine ⟨fun key old hold => ⟨old, hsame ▸ hold, .refl _ old⟩, fun key new hnone hnew => ?_⟩
  rw [hsame, hnone] at hnew
  cases hnew

/-- An edit of existing rows. -/
theorem PaymentsEvolve.of_modify {change : ℕ → Payment → Payment}
    (hpayments : tables'.payments = tables.payments.modify change)
    (hchange : ∀ key old, tables.payments.get? key = some old →
      old.Evolves (mandate.credits key) (change key old)) :
    PaymentsEvolve mandate tables tables' := by
  refine ⟨fun key old hold => ⟨change key old, ?_, hchange key old hold⟩,
    fun key new hnone hnew => ?_⟩
  · rw [hpayments, Table.get?_modify, hold]
    rfl
  · rw [hpayments, Table.get?_modify, hnone] at hnew
    cases hnew

/-- An edit of the row under one key. -/
theorem PaymentsEvolve.of_update (paymentId : ℕ) (change : Payment → Payment)
    (hpayments : tables'.payments = tables.payments.update paymentId change)
    (hchange : ∀ old, tables.payments.get? paymentId = some old →
      old.Evolves (mandate.credits paymentId) (change old)) :
    PaymentsEvolve mandate tables tables' := by
  refine .of_modify hpayments fun key old hold => ?_
  split
  next heq =>
    subst heq
    exact hchange old hold
  next => exact .refl _ old

/-- A new row beside an edit of existing ones. -/
theorem PaymentsEvolve.of_insert {change : ℕ → Payment → Payment} {payment : Payment}
    (hpayments : tables'.payments = (tables.payments.modify change).insert payment)
    (hchange : ∀ key old, tables.payments.get? key = some old →
      old.Evolves (mandate.credits key) (change key old))
    (horigin : payment.Origin mandate tables) : PaymentsEvolve mandate tables tables' := by
  refine ⟨fun key old hold => ⟨change key old, ?_, hchange key old hold⟩,
    fun key new hnone hnew => ?_⟩
  · have hne : key ≠ tables.payments.next := fun heq => by simp [heq] at hold
    rw [hpayments, Table.get?_insert, Table.next_modify, if_neg hne, Table.get?_modify, hold]
    rfl
  · rw [hpayments, Table.get?_insert, Table.next_modify] at hnew
    split at hnew
    · obtain rfl := Option.some.inj hnew
      exact horigin
    · rw [Table.get?_modify, hnone] at hnew
      cases hnew

/-- A new row and nothing else. -/
theorem PaymentsEvolve.of_insert_only {payment : Payment}
    (hpayments : tables'.payments = tables.payments.insert payment)
    (horigin : payment.Origin mandate tables) : PaymentsEvolve mandate tables tables' := by
  have hidle : tables.payments = tables.payments.modify fun _ row => row :=
    Table.ext_get? rfl fun key => by simp
  rw [hidle] at hpayments
  exact .of_insert hpayments (fun _ old _ => .refl _ old) horigin

end Edits

/-! ## The operations -/

/-- A caller asked for this payment with a reference and a key of its own. -/
def Op.isDirect : Op → Prop
  | .createPayment _ _ _ _ => True
  | _ => False

/-- The payment whose credit an operation confirmed. -/
def Op.credits (op : Op) (response : Response) (key : ℕ) : Prop :=
  match op with
  | .markPaid _ _ => response = .settled (some key)
  | _ => False

/-- The payment an operation asks a fresh code for: the one named by the caller,
or the one the invoice points at. -/
def Op.reissues (op : Op) (tables : Tables) (key : ℕ) : Prop :=
  match op with
  | .reissuePayment _ parentId _ => key = parentId
  | .getInvoiceKhqr _ _ invoiceId _ => ∃ invoice,
      tables.invoices.get? invoiceId = some invoice ∧ invoice.chmabapayPaymentId = some key
  | _ => False

def Op.mandate (op : Op) (tables : Tables) (response : Response) : Mandate :=
  ⟨op.isDirect, op.credits response, op.reissues tables⟩

section Operations

variable {mandate : Mandate} {settings : Settings} {now : Instant} {tables tables' : Tables}

theorem createPayment_evolves {rail : Rail} {storeId : ℕ} {store : Store}
    {request : PaymentRequest} {publicId : String} {paymentId : ℕ}
    (hstore : tables.stores.get? storeId = some store)
    (hkeyed : ¬ mandate.direct → ∀ key, request.idempotencyKey = some key →
      request.referenceId = some key)
    (hcreate : createPayment settings rail now tables storeId store request publicId =
      .ok (paymentId, tables')) : PaymentsEvolve mandate tables tables' := by
  rcases createPayment_eq_ok hcreate with ⟨rfl, -⟩ | ⟨payment, -, hcreated, rfl⟩
  · exact .of_eq rfl
  · refine .of_insert_only rfl
      ⟨hcreated.status, ?_, ⟨store, hcreated.store ▸ hstore⟩, ?_⟩
    · rw [hcreated.idempotencyKey, hcreated.reference]
      exact hkeyed
    intro parentKey hparent
    rw [hcreated.parent] at hparent
    cases hparent

theorem Payment.evolves_recordReissue (credited : Prop) (publicId : String) (now : Instant)
    (payment : Payment) : payment.Evolves credited (payment.recordReissue publicId now) :=
  ⟨rfl, rfl, rfl, rfl, rfl, id, .inl, id, rfl, .inr rfl⟩

theorem reissuePayment_evolves {rail : Rail} {parentId : ℕ} {parent : Payment}
    {publicId : String} {paymentId : ℕ}
    (hparent : tables.payments.get? parentId = some parent) (hmandate : mandate.reissues parentId)
    (hreissue : reissuePayment settings rail now tables parentId parent publicId =
      .ok (paymentId, tables')) : PaymentsEvolve mandate tables tables' := by
  obtain ⟨hdead, ⟨rfl, -⟩ | ⟨payment, -, hissued, ⟨store, hstore⟩, rfl⟩⟩ :=
    reissuePayment_eq_ok hreissue
  · exact .of_eq rfl
  · refine .of_insert rfl (fun key old _ => ?_)
      ⟨hissued.status, ?_, ⟨store, hissued.store ▸ hstore⟩, ?_⟩
    · split
      · exact old.evolves_recordReissue _ _ _
      · exact .refl _ old
    · intro _ key hkey
      rw [hissued.idempotencyKey] at hkey
      cases hkey
    · intro parentKey hlink
      obtain rfl := Option.some.inj (hissued.parent.symm.trans hlink)
      exact ⟨hmandate, parent, hparent, hissued.reference, hdead⟩

theorem Payment.evolves_expire (credited : Prop) {payment : Payment}
    (hopen : payment.status.isOpen = true) : payment.Evolves credited payment.expire := by
  refine ⟨rfl, rfl, rfl, rfl, rfl, fun hsettled => ?_, nofun, fun hopened => ?_, rfl, .inr rfl⟩
  · revert hopen hsettled
    cases payment.status <;> simp [PaymentStatus.isOpen, PaymentStatus.isSettled]
  · simp [Payment.expire, PaymentStatus.isOpen] at hopened

theorem Payment.evolves_supersede (credited : Prop) {payment : Payment}
    (hretirable : payment.status.isRetirable = true) :
    payment.Evolves credited payment.supersede := by
  refine ⟨rfl, rfl, rfl, rfl, rfl, fun hsettled => ?_, nofun, fun hopened => ?_, rfl, .inr rfl⟩
  · revert hretirable hsettled
    cases payment.status <;> simp [PaymentStatus.isRetirable, PaymentStatus.isSettled]
  · simp [Payment.supersede, PaymentStatus.isOpen] at hopened

theorem Payment.evolves_settle {credited : Prop} (hcredited : credited) (now : Instant)
    (bakongRef : Option String) (gatewayRaw : Option GatewayStatus) (payment : Payment) :
    payment.Evolves credited (payment.settle now bakongRef gatewayRaw) :=
  ⟨rfl, rfl, rfl, rfl, rfl, fun _ => rfl, fun _ => .inr hcredited, fun hopened => by
    simp [Payment.settle, PaymentStatus.isOpen] at hopened, rfl, .inl rfl⟩

theorem Payment.evolves_reverse (credited : Prop) (now : Instant) (reason : Option String)
    {payment : Payment} (hpaid : payment.status = .paid) :
    payment.Evolves credited (payment.reverse now reason) :=
  ⟨rfl, rfl, rfl, rfl, rfl, fun _ => rfl, fun _ => .inl (by rw [hpaid]; rfl), fun hopened => by
    simp [Payment.reverse, PaymentStatus.isOpen] at hopened, rfl, .inl rfl⟩

theorem Payment.evolves_scan (credited : Prop) (now : Instant) {payment : Payment}
    (hpending : payment.status = .pending) : payment.Evolves credited (payment.scan now) :=
  ⟨rfl, rfl, rfl, rfl, rfl, fun hsettled => by
    simp [hpending, PaymentStatus.isSettled] at hsettled, nofun, fun _ => by rw [hpending]; rfl,
    rfl, .inr rfl⟩

/-- A settlement as one edit of the payments table. -/
def settledChange (paymentId : ℕ) (paid : Payment) (key : ℕ) (payment : Payment) : Payment :=
  if key = paymentId then
    if paid.reissuedFromId = some paymentId ∧ paid.status.isRetirable then paid.supersede
    else paid
  else if payment.reissuedFromId = some paymentId ∧ payment.status.isRetirable then
    payment.supersede
  else payment

theorem settledPayments_eq_modify (payments : Table Payment) (paymentId : ℕ) (paid : Payment) :
    settledPayments payments paymentId paid = payments.modify (settledChange paymentId paid) := by
  refine Table.ext_get? rfl fun key => ?_
  simp only [settledPayments, Table.get?_updateWhere, Table.get?_update, Table.get?_modify]
  cases payments.get? key with
  | none => simp
  | some payment => by_cases heq : key = paymentId <;> simp [heq, settledChange]

theorem settledChange_self (paymentId : ℕ) (now : Instant) (bakongRef : Option String)
    (gatewayRaw : Option GatewayStatus) (payment old : Payment) :
    settledChange paymentId (payment.settle now bakongRef gatewayRaw) paymentId old =
      payment.settle now bakongRef gatewayRaw := by
  simp [settledChange, Payment.settle, PaymentStatus.isRetirable]

/-- The settled payment reads paid. -/
theorem settlePayment_paid {paymentId : ℕ} {payment : Payment} {credit : Credit}
    (hpayment : tables.payments.get? paymentId = some payment)
    (hsettle : settlePayment settings now tables paymentId payment credit = .ok tables') :
    tables'.payments.get? paymentId =
      some (payment.settle now credit.bakongRef credit.gatewayRaw) := by
  rw [(settlePayment_payments hsettle).1, settledPayments_eq_modify, Table.get?_modify, hpayment,
    Option.map_some, settledChange_self]

theorem settlePayment_evolves {paymentId : ℕ} {payment : Payment} {credit : Credit}
    (hpayment : tables.payments.get? paymentId = some payment)
    (hcredited : mandate.credits paymentId)
    (hsettle : settlePayment settings now tables paymentId payment credit = .ok tables') :
    PaymentsEvolve mandate tables tables' := by
  refine .of_modify ((settlePayment_payments hsettle).1.trans (settledPayments_eq_modify _ _ _))
    fun key old hold => ?_
  by_cases heq : key = paymentId
  · subst heq
    obtain rfl := Option.some.inj (hpayment.symm.trans hold)
    rw [settledChange_self]
    exact payment.evolves_settle hcredited _ _ _
  · rw [settledChange, if_neg heq]
    split
    next hsuccessor => exact Payment.evolves_supersede _ hsuccessor.2
    next => exact .refl _ old

/-- No replacement minted directly for a settled payment stays open. -/
theorem settlePayment_retires {paymentId : ℕ} {payment : Payment} {credit : Credit}
    (hsettle : settlePayment settings now tables paymentId payment credit = .ok tables')
    {key : ℕ} {successor : Payment} (hkey : key ≠ paymentId)
    (hsuccessor : tables'.payments.get? key = some successor)
    (hlink : successor.reissuedFromId = some paymentId) : successor.status.isOpen = false := by
  rw [(settlePayment_payments hsettle).1, settledPayments_eq_modify,
    Table.get?_modify] at hsuccessor
  obtain ⟨old, -, rfl⟩ := Option.map_eq_some_iff.mp hsuccessor
  unfold settledChange at hlink ⊢
  rw [if_neg hkey] at hlink ⊢
  split
  next => rfl
  next hkept =>
    rw [if_neg hkept] at hlink
    have hstatus : old.status.isRetirable ≠ true := fun hretirable => hkept ⟨hlink, hretirable⟩
    revert hstatus
    cases old.status <;> simp [PaymentStatus.isRetirable, PaymentStatus.isOpen]

theorem invoicePayment_evolves {rail : Rail} {invoiceId : ℕ} {invoice : PlanInvoice}
    {storeId : ℕ} {store : Store} {publicId : String} {paymentId : ℕ}
    (hstore : tables.stores.get? storeId = some store)
    (hmandate : ∀ storedId, invoice.chmabapayPaymentId = some storedId → mandate.reissues storedId)
    (hminted : invoicePayment settings rail now tables invoiceId invoice storeId store publicId =
      .ok (paymentId, tables')) : PaymentsEvolve mandate tables tables' := by
  rcases invoicePayment_eq_ok hminted with
    ⟨storedId, stored, hpointer, hstored, ⟨-, rfl⟩ | hreissue⟩ |
      ⟨request, hreference, hidempotency, hcreate⟩
  · exact .of_eq rfl
  · exact reissuePayment_evolves hstored (hmandate storedId hpointer) hreissue
  · refine createPayment_evolves hstore (fun _ key hkey => ?_) hcreate
    exact hreference.trans (hidempotency.symm.trans hkey)

theorem requireStore_eq_ok {storeId : ℕ} {store : Store}
    (hstore : requireStore tables storeId = .ok store) :
    tables.stores.get? storeId = some store := by
  unfold requireStore at hstore
  split at hstore
  · cases hstore
  next found hfound => rw [hfound, Except.ok.inj hstore]

theorem requirePayment_eq_ok {paymentId : ℕ} {payment : Payment}
    (hpayment : requirePayment tables paymentId = .ok payment) :
    tables.payments.get? paymentId = some payment := by
  unfold requirePayment at hpayment
  split at hpayment
  · cases hpayment
  next found hfound => rw [hfound, Except.ok.inj hpayment]

/-- A confirmed credit is ignored, or settles the payment of its public id. -/
theorem markPaid_eq_ok {publicId : String} {credit : Credit} {settledId : Option ℕ}
    (hmark : markPaid settings now tables publicId credit = .ok (settledId, tables')) :
    (settledId = none ∧ tables' = tables) ∨ ∃ paymentId payment, settledId = some paymentId ∧
      findByPublicId tables publicId = some (paymentId, payment) ∧
      payment.status.isTerminal = false ∧
      settlePayment settings now tables paymentId payment credit = .ok tables' := by
  unfold markPaid at hmark
  split at hmark
  · simp only [Except.ok.injEq, Prod.mk.injEq] at hmark
    exact .inl ⟨hmark.1.symm, hmark.2.symm⟩
  next paymentId payment hfind =>
    split at hmark
    · simp only [Except.ok.injEq, Prod.mk.injEq] at hmark
      exact .inl ⟨hmark.1.symm, hmark.2.symm⟩
    next hopen =>
      cases hsettle : settlePayment settings now tables paymentId payment credit with
      | error failure => simp [hsettle, Except.map] at hmark
      | ok settled =>
          simp only [hsettle, Except.map, Except.ok.injEq, Prod.mk.injEq] at hmark
          obtain ⟨rfl, rfl⟩ := hmark
          exact .inr ⟨paymentId, payment, rfl, hfind, by simpa using hopen, hsettle⟩

theorem findByPublicId_eq_some {publicId : String} {paymentId : ℕ} {payment : Payment}
    (hfind : findByPublicId tables publicId = some (paymentId, payment)) :
    tables.payments.get? paymentId = some payment ∧ payment.publicId = publicId := by
  obtain ⟨hget, hmatch⟩ := Table.find?_eq_some hfind
  exact ⟨hget, by simpa using hmatch⟩

/-- Every operation lets the payments table evolve. -/
theorem perform_payments {op : Op} {response : Response}
    (hperform : perform settings now tables op = .ok (response, tables')) :
    PaymentsEvolve (op.mandate tables response) tables tables' := by
  cases op with
  | signUp email name renameExisting =>
      simp only [perform, Except.ok.injEq, Prod.mk.injEq] at hperform
      obtain ⟨-, rfl⟩ := hperform
      exact .of_eq (upsertAccount_sameSales _ _ _ _ _).payments
  | createPayment rail storeId request publicId =>
      simp only [perform, bind_eq_ok, pure_eq_ok, Prod.mk.injEq] at hperform
      obtain ⟨store, hstore, ⟨paymentId, created⟩, hcreate, -, rfl⟩ := hperform
      exact createPayment_evolves (requireStore_eq_ok hstore) (absurd trivial) hcreate
  | reissuePayment rail parentId publicId =>
      simp only [perform, bind_eq_ok, pure_eq_ok, Prod.mk.injEq] at hperform
      obtain ⟨parent, hparent, ⟨paymentId, created⟩, hreissue, -, rfl⟩ := hperform
      exact reissuePayment_evolves (requirePayment_eq_ok hparent) rfl hreissue
  | markScanned paymentId =>
      simp only [perform, bind_eq_ok, pure_eq_ok, Prod.mk.injEq] at hperform
      obtain ⟨scanned, hscan, -, rfl⟩ := hperform
      rcases markScanned_eq_ok hscan with
        rfl | ⟨payment, events, deliveries, hpayment, hpending, rfl⟩
      · exact .of_eq rfl
      · refine .of_update paymentId (fun _ => payment.scan now) rfl fun old hold => ?_
        obtain rfl := Option.some.inj (hpayment.symm.trans hold)
        exact Payment.evolves_scan _ now hpending
  | markPaid publicId credit =>
      simp only [perform, bind_eq_ok, pure_eq_ok, Prod.mk.injEq] at hperform
      obtain ⟨⟨settledId, settled⟩, hmark, hresponse, rfl⟩ := hperform
      rcases markPaid_eq_ok hmark with ⟨-, rfl⟩ | ⟨paymentId, payment, rfl, hfind, -, hsettle⟩
      · exact .of_eq rfl
      · exact settlePayment_evolves (findByPublicId_eq_some hfind).1 hresponse.symm hsettle
  | reversePayment paymentId reason =>
      simp only [perform, bind_eq_ok, pure_eq_ok, Prod.mk.injEq] at hperform
      obtain ⟨payment, hpayment, reversed, hreverse, -, rfl⟩ := hperform
      obtain ⟨hpaid, events, deliveries, ledger, rfl⟩ := reversePayment_eq_ok hreverse
      refine .of_update paymentId (fun _ => payment.reverse now reason) rfl fun old hold => ?_
      obtain rfl := Option.some.inj ((requirePayment_eq_ok hpayment).symm.trans hold)
      exact Payment.evolves_reverse _ now reason hpaid
  | expireDuePayments =>
      simp only [perform, bind_eq_ok, pure_eq_ok, Prod.mk.injEq] at hperform
      obtain ⟨⟨count, expired⟩, hexpire, -, rfl⟩ := hperform
      obtain ⟨events, deliveries, rfl⟩ := expireDuePayments_eq_ok hexpire
      have hpayments : { tables with
          payments := tables.payments.updateWhere
            (fun key _ => ((duePayments now tables).map Prod.fst).contains key) Payment.expire
          events := events
          deliveries := deliveries }.payments = tables.payments.modify fun key row =>
            if ((duePayments now tables).map Prod.fst).contains key then row.expire else row :=
        rfl
      refine .of_modify hpayments fun key old hold => ?_
      split
      next hdue =>
        rw [List.contains_iff_mem, List.mem_map] at hdue
        obtain ⟨⟨_, due⟩, hmem, rfl⟩ := hdue
        obtain ⟨hget, hopen, -⟩ := mem_duePayments hmem
        obtain rfl := Option.some.inj (hget.symm.trans hold)
        exact Payment.evolves_expire _ hopen
      next => exact .refl _ old
  | changePlan accountId planCode =>
      simp only [perform, bind_eq_ok, pure_eq_ok, Prod.mk.injEq] at hperform
      obtain ⟨⟨out, changed⟩, hchange, -, rfl⟩ := hperform
      exact .of_eq (changePlan_sameSales hchange).payments
  | getInvoiceKhqr rail accountId invoiceId publicId =>
      simp only [perform, bind_eq_ok, pure_eq_ok, Prod.mk.injEq] at hperform
      obtain ⟨⟨paymentId, collected⟩, hkhqr, -, rfl⟩ := hperform
      obtain ⟨invoice, minted, hqId, hq, hinvoice, -, -, hhq, hminted, rfl⟩ :=
        getInvoiceKhqr_eq_ok hkhqr
      have hevolve : PaymentsEvolve
          ((Op.getInvoiceKhqr rail accountId invoiceId publicId).mandate tables response) tables
          minted :=
        invoicePayment_evolves hhq (fun _ hpointer => ⟨invoice, hinvoice, hpointer⟩) hminted
      exact ⟨hevolve.persists, hevolve.origin⟩
  | issueDueInvoices limit =>
      simp only [perform, Except.ok.injEq, Prod.mk.injEq] at hperform
      obtain ⟨-, rfl⟩ := hperform
      obtain ⟨invoices, heq⟩ := issueDueInvoices_eq settings now tables limit
      exact .of_eq (by rw [heq])
  | enforceGrace limit =>
      simp only [perform, Except.ok.injEq, Prod.mk.injEq] at hperform
      obtain ⟨-, rfl⟩ := hperform
      exact .of_eq (enforceGrace_sameSales settings now tables limit).payments
  | resolveInvoice actorId invoiceId action reason amountCents =>
      simp only [perform, bind_eq_ok, pure_eq_ok, Prod.mk.injEq] at hperform
      obtain ⟨resolved, hresolve, -, rfl⟩ := hperform
      exact .of_eq (resolveInvoice_sameSales hresolve).payments
  | assignAccountPlan actorId accountId planCode reason =>
      simp only [perform, bind_eq_ok, pure_eq_ok, Prod.mk.injEq] at hperform
      obtain ⟨⟨subscriptionId, assigned⟩, hassign, -, rfl⟩ := hperform
      exact .of_eq (assignAccountPlan_sameSales hassign).payments

end Operations

end ChmabaPay
