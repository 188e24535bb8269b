import ChmabaPay.Payments.Ledger
import ChmabaPay.Stores.Effects

/-! # What the ledger holds of each payment

A payment of a merchant store is posted to the ledger in the month it was settled, and
any payment once more, with the opposite sign, in the month it was given back. The ledger
holds these postings and nothing else, so every sum over it can be read off the payments.
-/

namespace ChmabaPay

open Calendar Relational Fallible

/-! ## Postings -/

/-- The ledger rows of a payment taken in this store. -/
def Payment.entries (payment : Payment) (store : Store) : List PlanLedgerEntry :=
  (if payment.status.isSettled && !store.isInternal then
    payment.paidAt.toList.map fun moment => ledgerEntry moment store.accountId payment false
  else []) ++
  (if payment.status = .reversed then
    payment.reversedAt.toList.map fun moment => ledgerEntry moment store.accountId payment true
  else [])

theorem ledgerEntry_congr {old new : Payment} (hpublic : new.publicId = old.publicId)
    (hamount : new.amountCents = old.amountCents) (now : Instant) (accountId : ℕ)
    (reversal : Bool) :
    ledgerEntry now accountId new reversal = ledgerEntry now accountId old reversal := by
  unfold ledgerEntry
  rw [hpublic, hamount]

theorem Payment.entries_of_unsettled {payment : Payment}
    (hopen : payment.status.isSettled = false) (store : Store) : payment.entries store = [] := by
  have hkept : payment.status ≠ .reversed := fun hreversed => by
    rw [hreversed] at hopen
    cases hopen
  rw [Payment.entries, hopen, Bool.false_and, if_neg Bool.false_ne_true, if_neg hkept,
    List.nil_append]

/-- A payment that counts as before has the postings it had. -/
theorem Payment.SameCredit.entries {old new : Payment} (hsame : old.SameCredit new)
    {store store' : Store} (haccount : store'.accountId = store.accountId)
    (hinternal : store'.isInternal = store.isInternal) :
    new.entries store' = old.entries store := by
  rcases hsame.status with hstatus | ⟨hold, hnew⟩
  · have hentry := ledgerEntry_congr hsame.publicId hsame.amount
    simp only [Payment.entries, hstatus, hsame.paidAt, hsame.reversedAt, haccount, hinternal,
      hentry]
  · rw [Payment.entries_of_unsettled hold, Payment.entries_of_unsettled hnew]

theorem Payment.mem_entries {payment : Payment} {store : Store} {entry : PlanLedgerEntry}
    (hentry : entry ∈ payment.entries store) :
    payment.publicId = entry.resourceId ∧ payment.status.isSettled = true ∧
      (entry.resourceType = .paymentReversal → payment.status = .reversed) := by
  rcases List.mem_append.mp hentry with hcredit | hreversal
  · split at hcredit
    next hsettled =>
      obtain ⟨moment, -, rfl⟩ := List.mem_map.mp hcredit
      refine ⟨rfl, (Bool.and_eq_true_iff.mp hsettled).1, fun htype => ?_⟩
      cases htype
    next => cases hcredit
  · split at hreversal
    next hreversed =>
      obtain ⟨moment, -, rfl⟩ := List.mem_map.mp hreversal
      refine ⟨rfl, ?_, fun _ => hreversed⟩
      rw [hreversed]
      rfl
    next => cases hreversal

/-- A measure of ledger rows, added up over the postings of a payment. -/
def Tables.posted (tables : Tables) (value : PlanLedgerEntry → ℤ) (payment : Payment) : ℤ :=
  (tables.stores.get? payment.storeId).elim 0 fun store =>
    ((payment.entries store).map value).sum

theorem Tables.posted_of_store {tables : Tables} {payment : Payment} {store : Store}
    (hstore : tables.stores.get? payment.storeId = some store) (value : PlanLedgerEntry → ℤ) :
    tables.posted value payment = ((payment.entries store).map value).sum := by
  rw [Tables.posted, hstore]
  rfl

/-- The ledger holds the postings of the payments: every measure adds up to the same over
both. -/
structure Tables.Booked (tables : Tables) : Prop where
  stored : ∀ key payment, tables.payments.get? key = some payment →
    ∃ store, tables.stores.get? payment.storeId = some store
  posted : ∀ value : PlanLedgerEntry → ℤ,
    tables.ledger.total (fun _ entry => value entry) =
      tables.payments.total fun _ payment => tables.posted value payment

/-- Every row of the ledger is a posting of some payment. -/
theorem Tables.Booked.named {tables : Tables} (hbooked : tables.Booked) :
    tables.NamesSettled := by
  intro key entry hentry
  -- the rows equal to this one are counted on both sides
  have hsum := hbooked.posted fun other => if other = entry then 1 else 0
  have hone : (1 : ℤ) ≤ tables.ledger.total fun _ other => if other = entry then 1 else 0 := by
    refine List.single_le_sum (fun count hcount => ?_) 1 ?_
    · obtain ⟨row, -, rfl⟩ := List.mem_map.mp hcount
      dsimp only
      split
      · exact zero_le_one
      · exact le_rfl
    · exact List.mem_map.mpr ⟨(key, entry), Table.get?_eq_some_iff.mp hentry, if_pos rfl⟩
  rw [hsum] at hone
  obtain ⟨_, hposted, hne⟩ := List.exists_mem_ne_zero_of_sum_ne_zero (zero_lt_one.trans_le hone).ne'
  obtain ⟨⟨paymentId, payment⟩, hrow, rfl⟩ := List.mem_map.mp hposted
  have hpayment := Table.get?_eq_some_iff.mpr hrow
  obtain ⟨store, hstore⟩ := hbooked.stored paymentId payment hpayment
  dsimp only at hne
  rw [Tables.posted_of_store hstore] at hne
  obtain ⟨_, hcounted, hne⟩ := List.exists_mem_ne_zero_of_sum_ne_zero hne
  obtain ⟨other, hother, rfl⟩ := List.mem_map.mp hcounted
  obtain rfl : other = entry := by
    by_contra hdiffers
    exact hne (if_neg hdiffers)
  exact ⟨paymentId, payment, hpayment, Payment.mem_entries hother⟩

/-! ## What a change of the tables does to it -/

/-- No store changes hands or kind. -/
def Tables.KeepsOwners (before after : Tables) : Prop :=
  ∀ key store, before.stores.get? key = some store →
    ∃ store', after.stores.get? key = some store' ∧ store'.accountId = store.accountId ∧
      store'.isInternal = store.isInternal

theorem Tables.Keeps.keepsOwners {before after : Tables} (hkeeps : before.Keeps after) :
    before.KeepsOwners after := by
  intro key store hstore
  obtain ⟨moment, hstore'⟩ := hkeeps.stores key store hstore
  exact ⟨_, hstore', rfl, rfl⟩

theorem Tables.KeepsOwners.of_eq {before after : Tables} (hstores : after.stores = before.stores) :
    before.KeepsOwners after :=
  fun _ store hstore => ⟨store, hstores ▸ hstore, rfl, rfl⟩

section Changes

variable {before after : Tables} (hbooked : before.Booked) (hkeeps : before.KeepsOwners after)

include hbooked hkeeps

theorem SameAt.posted {key : ℕ} (hsame : SameAt before after key)
    (value : PlanLedgerEntry → ℤ) :
    after.payments.share (fun _ payment => after.posted value payment) key =
      before.payments.share (fun _ payment => before.posted value payment) key := by
  cases hget : before.payments.get? key with
  | some old =>
      obtain ⟨new, hnew, hcredit⟩ := hsame.persists old hget
      obtain ⟨store, hstore⟩ := hbooked.stored key old hget
      obtain ⟨store', hstore', haccount, hinternal⟩ := hkeeps _ store hstore
      rw [Table.share_of_get? hnew, Table.share_of_get? hget, Tables.posted_of_store hstore,
        Tables.posted_of_store (hcredit.store ▸ hstore'), hcredit.entries haccount hinternal]
  | none =>
      rw [Table.share_of_none hget]
      cases hget' : after.payments.get? key with
      | none => exact Table.share_of_none hget'
      | some new =>
          obtain ⟨hpending, store, hstore⟩ := hsame.origin hget new hget'
          obtain ⟨store', hstore', -⟩ := hkeeps _ store hstore
          have hopen : new.status.isSettled = false := by
            rw [hpending]
            rfl
          rw [Table.share_of_get? hget', Tables.posted_of_store hstore',
            Payment.entries_of_unsettled hopen]
          rfl

theorem SameAt.hasStore {key : ℕ} (hsame : SameAt before after key) {new : Payment}
    (hnew : after.payments.get? key = some new) :
    ∃ store, after.stores.get? new.storeId = some store := by
  have hstore : ∃ store, before.stores.get? new.storeId = some store := by
    cases hget : before.payments.get? key with
    | some old =>
        obtain ⟨found, hfound, hcredit⟩ := hsame.persists old hget
        obtain rfl := Option.some.inj (hfound.symm.trans hnew)
        rw [hcredit.store]
        exact hbooked.stored key old hget
    | none => exact (hsame.origin hget new hnew).2
  obtain ⟨store, hget⟩ := hstore
  obtain ⟨store', hget', -⟩ := hkeeps _ store hget
  exact ⟨store', hget'⟩

theorem Tables.Booked.idle (hsame : ∀ key, SameAt before after key)
    (hledger : after.ledger = before.ledger) : after.Booked := by
  refine ⟨fun key payment hpayment => (hsame key).hasStore hbooked hkeeps hpayment,
    fun value => ?_⟩
  rw [hledger, hbooked.posted value]
  exact (Table.total_congr fun key => (hsame key).posted hbooked hkeeps value).symm

/-- One payment is posted once more, and the others count as before. -/
theorem Tables.Booked.post {paymentId : ℕ} {payment moved : Payment} {store : Store}
    (hpayment : before.payments.get? paymentId = some payment)
    (hstore : before.stores.get? payment.storeId = some store)
    (hmoved : after.payments.get? paymentId = some moved)
    (hsame : moved.storeId = payment.storeId) {added : List PlanLedgerEntry}
    (hentries : ∀ store', store'.accountId = store.accountId →
      store'.isInternal = store.isInternal → moved.entries store' = payment.entries store ++ added)
    (hledger : ∀ value : PlanLedgerEntry → ℤ, after.ledger.total (fun _ entry => value entry) =
      before.ledger.total (fun _ entry => value entry) + (added.map value).sum)
    (hother : ∀ key, key ≠ paymentId → SameAt before after key) : after.Booked := by
  obtain ⟨store', hstore', haccount, hinternal⟩ := hkeeps _ store hstore
  rw [← hsame] at hstore'
  refine ⟨fun key found hfound => ?_, fun value => ?_⟩
  · by_cases heq : key = paymentId
    · subst heq
      obtain rfl := Option.some.inj (hmoved.symm.trans hfound)
      exact ⟨store', hstore'⟩
    · exact (hother key heq).hasStore hbooked hkeeps hfound
  · rw [hledger, hbooked.posted value]
    refine (Table.total_add ?_ fun key hne => (hother key hne).posted hbooked hkeeps value).symm
    rw [Table.share_of_get? hmoved, Table.share_of_get? hpayment, Tables.posted_of_store hstore',
      Tables.posted_of_store hstore, hentries store' haccount hinternal, List.map_append,
      List.sum_append]

end Changes

/-! ## Settlements and reversals -/

/-- What a change of the tables books: nothing, a settlement or a reversal. -/
inductive Booking (settles reverses : ℕ → Prop) (before after : Tables) : Prop where
  | idle (hsame : ∀ key, SameAt before after key) (hledger : after.ledger = before.ledger)
  | settle (now : Instant) (bakongRef : Option String) (gatewayRaw : Option GatewayStatus)
      (paymentId : ℕ) (payment : Payment) (store : Store) (hsettles : settles paymentId)
      (hpayment : before.payments.get? paymentId = some payment)
      (hopen : payment.status.isTerminal = false)
      (hstore : before.stores.get? payment.storeId = some store)
      (hsettled : after.payments.get? paymentId =
        some (payment.settle now bakongRef gatewayRaw))
      (hother : ∀ key, key ≠ paymentId → SameAt before after key)
      (hledger : after.ledger = if store.isInternal then before.ledger else
        before.ledger.insert
          (ledgerEntry now store.accountId (payment.settle now bakongRef gatewayRaw) false))
  | reverse (now : Instant) (reason : Option String) (paymentId : ℕ) (payment : Payment)
      (store : Store) (hreverses : reverses paymentId)
      (hpayment : before.payments.get? paymentId = some payment)
      (hpaid : payment.status = .paid)
      (hstore : before.stores.get? payment.storeId = some store)
      (hreversed : after.payments.get? paymentId = some (payment.reverse now reason))
      (hother : ∀ key, key ≠ paymentId → SameAt before after key)
      (hledger : after.ledger = before.ledger.insert
        (ledgerEntry now store.accountId (payment.reverse now reason) true))

theorem PaymentStatus.isSettled_of_not_terminal {status : PaymentStatus}
    (hopen : status.isTerminal = false) : status.isSettled = false := by
  cases status with
  | pending | scanned | expired | superseded => rfl
  | paid | failed | reversed => cases hopen

section Bookings

variable {settles reverses : ℕ → Prop} {before after : Tables}

/-- Whatever is booked, the ledger goes on holding the postings of the payments. -/
theorem Booking.booked (hbooking : Booking settles reverses before after)
    (hbooked : before.Booked) (hkeeps : before.KeepsOwners after) : after.Booked := by
  cases hbooking with
  | idle hsame hledger => exact hbooked.idle hkeeps hsame hledger
  | settle now bakongRef gatewayRaw paymentId payment store _ hpayment hopen hstore hsettled
      hother hledger =>
      set settled := payment.settle now bakongRef gatewayRaw
      have hunsettled := PaymentStatus.isSettled_of_not_terminal hopen
      have hentries : ∀ store', store'.accountId = store.accountId →
          store'.isInternal = store.isInternal → settled.entries store' =
            payment.entries store ++ if store.isInternal then [] else
              [ledgerEntry now store.accountId settled false] := by
        intro store' haccount hinternal
        rw [Payment.entries_of_unsettled hunsettled, List.nil_append, Payment.entries, haccount,
          hinternal]
        cases store.isInternal with
        | true => rfl
        | false => rfl
      refine hbooked.post hkeeps hpayment hstore hsettled rfl hentries (fun value => ?_) hother
      rw [hledger]
      split
      · simp
      · simp [Table.total_insert]
  | reverse now reason paymentId payment store _ hpayment hpaid hstore hreversed hother hledger =>
      set reversed := payment.reverse now reason
      have hsame : ∀ moment accountId, ledgerEntry moment accountId reversed false =
          ledgerEntry moment accountId payment false :=
        fun moment accountId => ledgerEntry_congr rfl rfl moment accountId false
      have hentries : ∀ store', store'.accountId = store.accountId →
          store'.isInternal = store.isInternal → reversed.entries store' =
            payment.entries store ++ [ledgerEntry now store.accountId reversed true] := by
        intro store' haccount hinternal
        have hgiven : reversed.status = .reversed := rfl
        have hwhen : reversed.reversedAt = some now := rfl
        have hpaidAt : reversed.paidAt = payment.paidAt := rfl
        simp only [Payment.entries, haccount, hinternal, hgiven, hwhen, hpaidAt, hpaid, hsame,
          PaymentStatus.isSettled, Option.toList_some, List.map_cons, List.map_nil, if_true,
          reduceCtorEq, if_false, List.append_nil]
      refine hbooked.post hkeeps hpayment hstore hreversed rfl hentries (fun value => ?_) hother
      rw [hledger]
      simp [Table.total_insert]

end Bookings

/-! ## The operations -/

section Operations

variable {settings : Settings} {now : Instant} {tables tables' : Tables} {paymentId : ℕ}
  {payment : Payment}

/-- A payment that a call of `mark_paid` with this public id settles. -/
def Tables.settleable (tables : Tables) (publicId : String) (paymentId : ℕ) : Bool :=
  (findByPublicId tables publicId).any fun row =>
    decide (row.1 = paymentId) && !row.2.status.isTerminal

/-- The payment an operation settles. -/
def Op.settlesPayment (op : Op) (tables : Tables) (paymentId : ℕ) : Bool :=
  match op with
  | .markPaid publicId _ => tables.settleable publicId paymentId
  | _ => false

/-- The payment an operation gives back. -/
def Op.reversesPayment (op : Op) (tables : Tables) (paymentId : ℕ) : Bool :=
  match op with
  | .reversePayment reversedId _ => decide (reversedId = paymentId) &&
      (tables.payments.get? paymentId).any fun payment => decide (payment.status = .paid)
  | _ => false

theorem settlePayment_booking {settles reverses : ℕ → Prop} {credit : Credit}
    (hbooked : tables.Booked) (hvalid : Constraints tables)
    (hsettles : settles paymentId) (hpayment : tables.payments.get? paymentId = some payment)
    (hopen : payment.status.isTerminal = false)
    (hsettle : settlePayment settings now tables paymentId payment credit = .ok tables') :
    Booking settles reverses tables tables' := by
  obtain ⟨store, hstore, hledger⟩ :=
    settlePayment_ledger hbooked.named hvalid hpayment hopen hsettle
  refine .settle now credit.bakongRef credit.gatewayRaw paymentId payment store hsettles hpayment
    hopen hstore (settlePayment_paid hpayment hsettle) (fun key hne => ?_) hledger
  exact settlePayment_sameAt hsettle hne

theorem perform_booking {op : Op} {response : Response} (hbooked : tables.Booked)
    (hvalid : Constraints tables)
    (hperform : perform settings now tables op = .ok (response, tables')) :
    Booking (fun paymentId => op.settlesPayment tables paymentId = true)
      (fun paymentId => op.reversesPayment tables paymentId = true) tables tables' := by
  have hidle : (∀ publicId credit, op ≠ .markPaid publicId credit) →
      (∀ paymentId reason, op ≠ .reversePayment paymentId reason) →
      Booking (fun paymentId => op.settlesPayment tables paymentId = true)
        (fun paymentId => op.reversesPayment tables paymentId = true) tables tables' := by
    intro hcredit hreversal
    obtain ⟨hledger, hsame⟩ := perform_sameAt hcredit hreversal hperform
    exact .idle hsame hledger
  cases op with
  | markPaid publicId credit =>
      simp only [perform, bind_eq_ok, pure_eq_ok, Prod.mk.injEq] at hperform
      obtain ⟨⟨settledId, settled⟩, hmark, -, rfl⟩ := hperform
      rcases markPaid_eq_ok hmark with ⟨-, rfl⟩ | ⟨paymentId, payment, -, hfind, hopen, hsettle⟩
      · exact .idle (.of_eq rfl) rfl
      · refine settlePayment_booking hbooked hvalid ?_ (findByPublicId_eq_some hfind).1 hopen
          hsettle
        simp [Op.settlesPayment, Tables.settleable, hfind, hopen]
  | reversePayment paymentId reason =>
      simp only [perform, bind_eq_ok, pure_eq_ok, Prod.mk.injEq] at hperform
      obtain ⟨payment, hpayment, reversed, hreverse, -, rfl⟩ := hperform
      have hget := requirePayment_eq_ok hpayment
      obtain ⟨store, hstore⟩ := hbooked.stored paymentId payment hget
      have hledger := reversePayment_ledger hbooked.named hvalid hget hstore hreverse
      obtain ⟨hpaid, events, deliveries, ledger, hafter⟩ := reversePayment_eq_ok hreverse
      have hpayments : reversed.payments =
          tables.payments.update paymentId fun _ => payment.reverse now reason := by rw [hafter]
      refine .reverse now reason paymentId payment store ?_ hget hpaid hstore ?_
        (fun key hne => ?_) hledger
      · simp [Op.reversesPayment, hget, hpaid]
      · rw [hpayments, Table.get?_update, if_pos rfl, hget]
        rfl
      · refine .of_modify hpayments fun old hold => ?_
        rw [if_neg hne]
        exact .refl old
  | signUp | createPayment | reissuePayment | markScanned | expireDuePayments | changePlan
  | getInvoiceKhqr | issueDueInvoices | enforceGrace | resolveInvoice | assignAccountPlan =>
      refine hidle ?_ ?_ <;> simp

/-- No operation moves a store to another account or changes its kind. -/
theorem perform_keepsOwners {op : Op} {response : Response}
    (hperform : perform settings now tables op = .ok (response, tables')) :
    tables.KeepsOwners tables' := by
  rcases (perform_housed hperform).stores with hsame | ⟨accountId, maxStores, -, hcapped⟩
  · exact .of_eq hsame
  · have hcap := (applyStoreCap_keeps now tables accountId maxStores).keepsOwners
    intro key store hstore
    rw [hcapped]
    exact hcap key store hstore

end Operations

end ChmabaPay
