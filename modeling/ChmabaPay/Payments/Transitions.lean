import ChmabaPay.Foundation.Fallible
import ChmabaPay.Routers.Billing

/-! # What the payment operations do to the payments table

One inversion lemma for each operation: the rows it adds and the rows it
rewrites. Later proofs read these and never the operations themselves.
-/

namespace ChmabaPay

open Calendar Relational Fallible

section Minting

variable {settings : Settings} {rail : Rail} {now : Instant} {tables tables' : Tables}
  {storeId : ℕ} {store : Store} {request : PaymentRequest} {publicId : String}
  {paymentId : ℕ}

/-- What `create_payment` inserts. -/
structure Payment.CreatedFor (payment : Payment) (storeId : ℕ) (request : PaymentRequest)
    (publicId : String) : Prop where
  publicId : payment.publicId = publicId
  store : payment.storeId = storeId
  reference : payment.referenceId = request.referenceId
  idempotencyKey : payment.idempotencyKey = request.idempotencyKey
  status : payment.status = .pending
  parent : payment.reissuedFromId = none

/-- What `create_payment` does: it replays the row under the same idempotency key, or
inserts the row of a code minted on the store's active link. -/
theorem createPayment_spec
    (hcreate : createPayment settings rail now tables storeId store request publicId =
      .ok (paymentId, tables')) :
    ∃ linkId link, loadActiveLink tables storeId request.currency = .ok (linkId, link) ∧
      ((∃ key payment, request.idempotencyKey = some key ∧
          tables.payments.get? paymentId = some payment ∧ payment.storeId = storeId ∧
          payment.idempotencyKey = some key ∧ tables' = tables) ∨
        (paymentId = tables.payments.next ∧ ∃ minted,
          refuseAmount link request.amountCents = .ok () ∧
          mintQr settings rail store link request.amountCents publicId now link.currency
            request.hostedQr = .ok minted ∧
          tables' = { tables with
            payments := tables.payments.insert
              (requestedPayment now storeId linkId link request minted publicId) })) := by
  simp only [createPayment, bind_eq_ok] at hcreate
  obtain ⟨-, -, -, -, ⟨linkId, link⟩, hlink, hcreate⟩ := hcreate
  refine ⟨linkId, link, hlink, ?_⟩
  simp only at hcreate
  split at hcreate
  · simp [bind_eq_ok] at hcreate
  · split at hcreate
    next existing payment hfind =>
      obtain ⟨key, hkey, hfind⟩ := Option.bind_eq_some_iff.mp hfind
      obtain ⟨hget, hmatch⟩ := Table.find?_eq_some hfind
      simp only [pure_eq_ok, Prod.mk.injEq] at hcreate
      obtain ⟨rfl, rfl⟩ := hcreate
      simp only [Bool.and_eq_true, decide_eq_true_eq] at hmatch
      exact .inl ⟨key, payment, (Option.filter_eq_some_iff.mp hkey).1, hget, hmatch.1, hmatch.2,
        rfl⟩
    next =>
      simp only [bind_eq_ok, pure_eq_ok, Prod.mk.injEq] at hcreate
      obtain ⟨_, hamount, minted, hminted, rfl, rfl⟩ := hcreate
      exact .inr ⟨rfl, minted, hamount, hminted, rfl⟩

/-- Creating a payment inserts one pending row, or replays the row under the
same idempotency key. -/
theorem createPayment_eq_ok
    (hcreate : createPayment settings rail now tables storeId store request publicId =
      .ok (paymentId, tables')) :
    (tables' = tables ∧ ∃ key payment, request.idempotencyKey = some key ∧
        tables.payments.get? paymentId = some payment ∧ payment.storeId = storeId ∧
        payment.idempotencyKey = some key) ∨
      ∃ payment, paymentId = tables.payments.next ∧
        payment.CreatedFor storeId request publicId ∧
        tables' = { tables with payments := tables.payments.insert payment } := by
  obtain ⟨linkId, link, -, hcases⟩ := createPayment_spec hcreate
  rcases hcases with ⟨key, payment, hkey, hget, hstore, hsame, rfl⟩ | ⟨rfl, minted, -, -, rfl⟩
  · exact .inl ⟨rfl, key, payment, hkey, hget, hstore, hsame⟩
  · exact .inr ⟨requestedPayment now storeId linkId link request minted publicId, rfl,
      ⟨rfl, rfl, rfl, rfl, rfl, rfl⟩, rfl⟩

/-- What `reissue_payment` inserts. -/
structure Payment.ReissueOf (payment : Payment) (parentId : ℕ) (parent : Payment)
    (publicId : String) : Prop where
  publicId : payment.publicId = publicId
  store : payment.storeId = parent.storeId
  reference : payment.referenceId = parent.referenceId
  idempotencyKey : payment.idempotencyKey = none
  status : payment.status = .pending
  parent : payment.reissuedFromId = some parentId

/-- Re-issuing a dead payment inserts one pending child of it, or finds a live
one. -/
theorem reissuePayment_eq_ok {parentId : ℕ} {parent : Payment}
    (hreissue : reissuePayment settings rail now tables parentId parent publicId =
      .ok (paymentId, tables')) :
    (parent.status = .expired ∨ parent.status = .failed) ∧
      ((tables' = tables ∧ ∃ payment, tables.payments.get? paymentId = some payment ∧
          payment.reissuedFromId = some parentId ∧ payment.status.isOpen = true) ∨
        ∃ payment, paymentId = tables.payments.next ∧
          payment.ReissueOf parentId parent publicId ∧
          (∃ store, tables.stores.get? parent.storeId = some store) ∧
          tables' = { tables with
            payments := (tables.payments.update parentId
              (Payment.recordReissue publicId now)).insert payment }) := by
  simp only [reissuePayment] at hreissue
  split at hreissue
  · simp [bind_eq_ok] at hreissue
  split at hreissue
  · simp [bind_eq_ok] at hreissue
  split at hreissue
  · simp [bind_eq_ok] at hreissue
  next hdead =>
    refine ⟨by grind, ?_⟩
    split at hreissue
    next live payment hlive =>
      obtain ⟨hlast, -⟩ := Option.filter_eq_some_iff.mp hlive
      have hmem := List.mem_of_getLast? hlast
      simp only [Table.mem_select, Bool.and_eq_true, decide_eq_true_eq] at hmem
      simp only [pure_eq_ok, Prod.mk.injEq] at hreissue
      obtain ⟨rfl, rfl⟩ := hreissue
      exact .inl ⟨rfl, payment, hmem.1, hmem.2⟩
    next =>
      split at hreissue
      · simp at hreissue
      next store hstore =>
        simp only [bind_eq_ok] at hreissue
        obtain ⟨-, -, -, -, hreissue⟩ := hreissue
        split at hreissue
        · simp at hreissue
        · simp only [bind_eq_ok, pure_eq_ok, mintSuccessor, Prod.mk.injEq] at hreissue
          obtain ⟨minted, -, rfl, rfl⟩ := hreissue
          exact .inr ⟨successorPayment now parentId parent minted publicId, rfl,
            ⟨rfl, rfl, rfl, rfl, rfl, rfl⟩, ⟨store, hstore⟩, rfl⟩

/-- Plan fees are collected into a store that exists. -/
theorem resolveHqStore_eq_ok
    (hhq : resolveHqStore settings tables = .ok (some (storeId, store))) :
    tables.stores.get? storeId = some store := by
  simp only [resolveHqStore, bind_eq_ok, pure_eq_ok] at hhq
  obtain ⟨pinned, hpinned, hchoice⟩ := hhq
  rcases pinned with _ | pinned
  · simp only [Option.orElse_eq_orElse, Option.orElse_eq_or, Option.none_or,
      Option.or_eq_some_iff] at hchoice
    rcases hchoice with hnamed | ⟨-, hfallback⟩
    · exact (Table.find?_eq_some hnamed).1
    · obtain ⟨admin, -, hfind⟩ := Option.bind_eq_some_iff.mp hfallback
      exact (Table.find?_eq_some hfind).1
  · obtain rfl : pinned = (storeId, store) := by simpa using hchoice
    unfold pinnedHqStore at hpinned
    dsimp only at hpinned
    split at hpinned
    · simp at hpinned
    · have hrows := oneOrNone_eq_some hpinned
      have hmem : (storeId, store) ∈ [(storeId, store)] := List.mem_singleton_self _
      rw [← hrows, Table.mem_select] at hmem
      exact hmem.1

theorem getHqStore_eq_ok (hhq : getHqStore settings tables = .ok (storeId, store)) :
    tables.stores.get? storeId = some store := by
  simp only [getHqStore, bind_eq_ok] at hhq
  obtain ⟨resolved, hresolved, hhq⟩ := hhq
  split at hhq
  · rw [pure_eq_ok] at hhq
    exact resolveHqStore_eq_ok (hhq ▸ hresolved)
  · simp at hhq

/-- The code of an invoice is the one it points at, a re-issue of it, or a
payment under the invoice's own key. -/
theorem invoicePayment_eq_ok {invoiceId : ℕ} {invoice : PlanInvoice}
    (hminted : invoicePayment settings rail now tables invoiceId invoice storeId store publicId =
      .ok (paymentId, tables')) :
    (∃ storedId stored, invoice.chmabapayPaymentId = some storedId ∧
        tables.payments.get? storedId = some stored ∧
        ((paymentId = storedId ∧ tables' = tables) ∨
          reissuePayment settings rail now tables storedId stored publicId =
            .ok (paymentId, tables'))) ∨
      ∃ request : PaymentRequest,
        request.referenceId = some (invoiceReference invoiceId invoice) ∧
        request.idempotencyKey = some (invoiceReference invoiceId invoice) ∧
        createPayment settings rail now tables storeId store request publicId =
          .ok (paymentId, tables') := by
  unfold invoicePayment at hminted
  split at hminted
  next storedId stored hstored =>
    obtain ⟨key, hkey, hrow⟩ := Option.bind_eq_some_iff.mp hstored
    obtain ⟨row, hget, heq⟩ := Option.map_eq_some_iff.mp hrow
    obtain ⟨rfl, rfl⟩ := Prod.mk.inj heq
    refine .inl ⟨key, row, hkey, hget, ?_⟩
    split at hminted
    · exact .inr hminted
    · simp only [Except.ok.injEq, Prod.mk.injEq] at hminted
      exact .inl ⟨hminted.1.symm, hminted.2.symm⟩
  next => exact .inr ⟨_, rfl, rfl, hminted⟩

/-- Handing out a code points one unpaid invoice of the account at it. -/
theorem getInvoiceKhqr_eq_ok {accountId invoiceId : ℕ}
    (hkhqr : getInvoiceKhqr settings rail now tables accountId invoiceId publicId =
      .ok (paymentId, tables')) :
    ∃ invoice minted hqId hq, tables.invoices.get? invoiceId = some invoice ∧
      invoice.accountId = accountId ∧ invoice.status ≠ .paid ∧
      tables.stores.get? hqId = some hq ∧
      invoicePayment settings rail now tables invoiceId invoice hqId hq publicId =
        .ok (paymentId, minted) ∧
      tables' = { minted with
        invoices := minted.invoices.update invoiceId (PlanInvoice.collect paymentId) } := by
  simp only [getInvoiceKhqr, bind_eq_ok] at hkhqr
  obtain ⟨-, -, hkhqr⟩ := hkhqr
  split at hkhqr
  · simp at hkhqr
  next invoice hinvoice =>
    obtain ⟨hget, haccount⟩ := Option.filter_eq_some_iff.mp hinvoice
    split at hkhqr
    · simp [bind_eq_ok] at hkhqr
    next hunpaid =>
      simp only [bind_eq_ok, pure_eq_ok, Prod.mk.injEq] at hkhqr
      obtain ⟨⟨hqId, hq⟩, hhq, ⟨mintedId, minted⟩, hminted, rfl, rfl⟩ := hkhqr
      exact ⟨invoice, minted, hqId, hq, hget, by simpa using haccount, hunpaid,
        getHqStore_eq_ok hhq, hminted, rfl⟩

end Minting

/-! ## Status changes -/

section Status

variable {settings : Settings} {now : Instant} {tables tables' : Tables}

def Payment.supersede (payment : Payment) : Payment := { payment with status := .superseded }

theorem Payment.supersede_supersede (payment : Payment) :
    payment.supersede.supersede = payment.supersede := rfl

def Payment.expire (payment : Payment) : Payment := { payment with status := .expired }

theorem Payment.expire_expire (payment : Payment) : payment.expire.expire = payment.expire := rfl

def Payment.scan (now : Instant) (payment : Payment) : Payment :=
  { payment with status := .scanned, scannedAt := some now }

/-- Retirement supersedes the direct replacements that were still open or
expired. -/
theorem retireSuccessors_eq (now : Instant) (tables : Tables) (paymentId : ℕ) (store : Store) :
    ∃ events deliveries, retireSuccessors now tables paymentId store =
      { tables with
        payments := tables.payments.updateWhere
          (fun _ payment => decide (payment.reissuedFromId = some paymentId) &&
            payment.status.isRetirable)
          Payment.supersede
        events := events
        deliveries := deliveries } := by
  have hfold : ∀ (successors : List (ℕ × Payment)) (tables : Tables), ∃ events deliveries,
      successors.foldl (retireSuccessor now store) tables =
        { tables with
          payments := tables.payments.updateWhere
            (fun key _ => (successors.map Prod.fst).contains key) Payment.supersede
          events := events
          deliveries := deliveries } := by
    intro successors
    induction successors with
    | nil =>
        intro tables
        refine ⟨tables.events, tables.deliveries, ?_⟩
        have hidle : tables.payments.updateWhere (fun _ _ => false) Payment.supersede =
            tables.payments := Table.ext_get? rfl fun key => by simp
        simp [hidle]
    | cons successor rest ih =>
        intro tables
        obtain ⟨events, deliveries, hrest⟩ := ih (retireSuccessor now store tables successor)
        refine ⟨events, deliveries, ?_⟩
        rw [List.foldl_cons, hrest, List.map_cons,
          ← Table.updateWhere_cons _ _ _ Payment.supersede_supersede]
        rfl
  obtain ⟨events, deliveries, hretired⟩ := hfold (retirableSuccessors tables paymentId) tables
  refine ⟨events, deliveries, ?_⟩
  rw [retireSuccessors, hretired, retirableSuccessors, Table.updateWhere_select]

/-- The sweep expires open codes past their lifetime. -/
theorem expireDuePayments_eq_ok {count : ℕ}
    (hexpire : expireDuePayments now tables = .ok (count, tables')) :
    ∃ events deliveries, tables' =
      { tables with
        payments := tables.payments.updateWhere
          (fun key _ => ((duePayments now tables).map Prod.fst).contains key) Payment.expire
        events := events
        deliveries := deliveries } := by
  simp only [expireDuePayments, bind_eq_ok, pure_eq_ok, Prod.mk.injEq] at hexpire
  obtain ⟨expired, hfold, -, rfl⟩ := hexpire
  generalize duePayments now tables = due at hfold ⊢
  induction due generalizing tables with
  | nil =>
      simp only [List.foldlM_nil, pure_eq_ok] at hfold
      subst hfold
      refine ⟨tables.events, tables.deliveries, ?_⟩
      have hidle : tables.payments.updateWhere (fun _ _ => false) Payment.expire =
          tables.payments := Table.ext_get? rfl fun key => by simp
      simp [hidle]
  | cons payment rest ih =>
      simp only [List.foldlM_cons, bind_eq_ok] at hfold
      obtain ⟨middle, hmiddle, hfold⟩ := hfold
      obtain ⟨events, deliveries, hrest⟩ := ih hfold
      have hone : ∃ events deliveries, middle =
          { tables with
            payments := tables.payments.update payment.1 Payment.expire
            events := events
            deliveries := deliveries } := by
        simp only [expirePayment] at hmiddle
        split at hmiddle
        · exact ⟨_, _, (Except.ok.inj hmiddle).symm⟩
        · split at hmiddle
          · cases hmiddle
          · exact ⟨_, _, (Except.ok.inj hmiddle).symm⟩
      obtain ⟨events', deliveries', rfl⟩ := hone
      refine ⟨events, deliveries, ?_⟩
      rw [hrest, List.map_cons, ← Table.updateWhere_cons _ _ _ Payment.expire_expire]

/-- What the sweep selects is open. -/
theorem mem_duePayments {key : ℕ} {payment : Payment}
    (hmem : (key, payment) ∈ duePayments now tables) :
    tables.payments.get? key = some payment ∧ payment.status.isOpen = true ∧
      payment.expiresAt ≤ now := by
  have hselected := List.mem_of_mem_take hmem
  simpa using hselected

theorem markScanned_eq_ok {paymentId : ℕ}
    (hscan : markScanned now tables paymentId = .ok tables') :
    tables' = tables ∨ ∃ payment events deliveries,
      tables.payments.get? paymentId = some payment ∧ payment.status = .pending ∧
        tables' = { tables with
          payments := tables.payments.update paymentId fun _ => payment.scan now
          events := events
          deliveries := deliveries } := by
  unfold markScanned at hscan
  split at hscan
  · exact .inl (Except.ok.inj hscan).symm
  next payment hpayment =>
    split at hscan
    · exact .inl (Except.ok.inj hscan).symm
    next hpending =>
      simp only at hscan
      split at hscan
      · cases hscan
      · exact .inr ⟨payment, _, _, hpayment, not_not.mp hpending,
          (Except.ok.inj hscan).symm⟩

theorem reversePayment_eq_ok {paymentId : ℕ} {payment : Payment} {reason : Option String}
    (hreverse : reversePayment now tables paymentId payment reason = .ok tables') :
    payment.status = .paid ∧ ∃ events deliveries ledger, tables' =
      { tables with
        payments := tables.payments.update paymentId fun _ => payment.reverse now reason
        events := events
        deliveries := deliveries
        ledger := ledger } := by
  unfold reversePayment at hreverse
  split at hreverse
  · cases hreverse
  split at hreverse
  · cases hreverse
  next hpaid =>
    refine ⟨not_not.mp hpaid, ?_⟩
    simp only at hreverse
    split at hreverse
    · cases hreverse
    · obtain rfl := Except.ok.inj hreverse
      unfold recordPlanLedgerEntry
      dsimp only
      split
      · exact ⟨_, _, _, rfl⟩
      · exact ⟨_, _, _, rfl⟩

end Status

end ChmabaPay
