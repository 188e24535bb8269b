import ChmabaPay.Billing.Runs
import ChmabaPay.Payments.Evolution

/-! # The usage ledger

Every settlement in a merchant store appends a credit to the ledger and every
reversal appends its negative, whichever month it falls in. Over all months the
ledger of an account adds up to what is paid in its merchant stores now. The two
movements are written under different conditions: a settlement in one of the
platform's own stores is left out and its reversal is not, so the ledger adds up
as long as no such payment is reversed.
-/

namespace ChmabaPay

open Calendar Relational Execution Fallible

/-! ## What is recorded and what is paid -/

/-- A column of the ledger and what one payment contributes to it. -/
structure LedgerColumn where
  entry : PlanLedgerEntry → ℤ
  payment : Payment → ℤ

def LedgerColumn.volume : LedgerColumn := ⟨PlanLedgerEntry.amountCentsDelta, Payment.amountCents⟩

def LedgerColumn.count : LedgerColumn := ⟨PlanLedgerEntry.totalPaymentsCount, fun _ => 1⟩

/-- A credit adds the payment to the column and a reversal takes it away. -/
structure LedgerColumn.Measures (column : LedgerColumn) : Prop where
  credit : ∀ now accountId payment,
    column.entry (ledgerEntry now accountId payment false) = column.payment payment
  reversal : ∀ now accountId payment,
    column.entry (ledgerEntry now accountId payment true) = -column.payment payment
  amount : ∀ old new : Payment, new.amountCents = old.amountCents →
    column.payment new = column.payment old

theorem LedgerColumn.measures_volume : LedgerColumn.volume.Measures :=
  ⟨fun _ _ _ => rfl, fun _ _ _ => rfl, fun _ _ hamount => hamount⟩

theorem LedgerColumn.measures_count : LedgerColumn.count.Measures :=
  ⟨fun _ _ _ => rfl, fun _ _ _ => rfl, fun _ _ _ => rfl⟩

/-- The payment is paid, in a merchant store of the account. -/
def Tables.counts (tables : Tables) (accountId : ℕ) (payment : Payment) : Bool :=
  decide (payment.status = .paid) && (tables.stores.get? payment.storeId).any fun store =>
    decide (store.accountId = accountId) && !store.isInternal

/-- The column added up over all ledger rows of the account. -/
def Tables.recorded (tables : Tables) (column : LedgerColumn) (accountId : ℕ) : ℤ :=
  tables.ledger.total fun _ entry => if entry.accountId = accountId then column.entry entry else 0

/-- The column added up over all payments that count for the account. -/
def Tables.taken (tables : Tables) (column : LedgerColumn) (accountId : ℕ) : ℤ :=
  tables.payments.total fun _ payment =>
    if tables.counts accountId payment then column.payment payment else 0

/-- The rows of the ledger name payments that were settled. -/
def Tables.NamesSettled (tables : Tables) : Prop :=
  ∀ key entry, tables.ledger.get? key = some entry →
    ∃ paymentId payment, tables.payments.get? paymentId = some payment ∧
      payment.publicId = entry.resourceId ∧ payment.status.isSettled = true ∧
      (entry.resourceType = .paymentReversal → payment.status = .reversed)

/-- The ledger adds up, and its rows name payments that were settled. -/
structure Tables.Ledgered (tables : Tables) : Prop where
  stored : ∀ key payment, tables.payments.get? key = some payment →
    ∃ store, tables.stores.get? payment.storeId = some store
  named : ∀ key entry, tables.ledger.get? key = some entry →
    ∃ paymentId payment, tables.payments.get? paymentId = some payment ∧
      payment.publicId = entry.resourceId ∧ payment.status.isSettled = true ∧
      (entry.resourceType = .paymentReversal → payment.status = .reversed)
  balanced : ∀ column : LedgerColumn, column.Measures → ∀ accountId,
    tables.recorded column accountId = tables.taken column accountId

/-! ## Rows that count as before -/

/-- The row is the same sale and, when it is settled, has the same status. When it was
settled and given back stands in it as before. -/
structure Payment.SameCredit (old new : Payment) : Prop where
  publicId : new.publicId = old.publicId
  store : new.storeId = old.storeId
  amount : new.amountCents = old.amountCents
  status : new.status = old.status ∨
    (old.status.isSettled = false ∧ new.status.isSettled = false)
  paidAt : new.paidAt = old.paidAt
  reversedAt : new.reversedAt = old.reversedAt

theorem Payment.SameCredit.refl (payment : Payment) : payment.SameCredit payment :=
  ⟨rfl, rfl, rfl, .inl rfl, rfl, rfl⟩

theorem Payment.SameCredit.of_unsettled {payment : Payment} {status : PaymentStatus}
    (hold : payment.status.isSettled = false) (hnew : status.isSettled = false) :
    payment.SameCredit { payment with status := status } :=
  ⟨rfl, rfl, rfl, .inr ⟨hold, hnew⟩, rfl, rfl⟩

theorem Payment.SameCredit.paid_iff {old new : Payment} (hsame : old.SameCredit new) :
    new.status = .paid ↔ old.status = .paid := by
  rcases hsame.status with hstatus | ⟨hold, hnew⟩
  · rw [hstatus]
  · constructor
    · intro hpaid
      simp [hpaid, PaymentStatus.isSettled] at hnew
    · intro hpaid
      simp [hpaid, PaymentStatus.isSettled] at hold

theorem Payment.SameCredit.settled {old new : Payment} (hsame : old.SameCredit new)
    (hsettled : old.status.isSettled = true) : new.status = old.status := by
  rcases hsame.status with hstatus | ⟨hold, -⟩
  · exact hstatus
  · rw [hold] at hsettled
    cases hsettled

/-- Under one key the payment counts as before, or there is a new one that does
not count yet. -/
structure SameAt (before after : Tables) (key : ℕ) : Prop where
  persists : ∀ old, before.payments.get? key = some old →
    ∃ new, after.payments.get? key = some new ∧ old.SameCredit new
  origin : before.payments.get? key = none → ∀ new, after.payments.get? key = some new →
    new.status = .pending ∧ ∃ store, before.stores.get? new.storeId = some store

section SameAt

variable {before after : Tables}

theorem SameAt.of_eq (hsame : after.payments = before.payments) (key : ℕ) :
    SameAt before after key := by
  refine ⟨fun old hold => ⟨old, hsame ▸ hold, .refl old⟩, fun hnone new hnew => ?_⟩
  rw [hsame, hnone] at hnew
  cases hnew

theorem SameAt.of_modify {change : ℕ → Payment → Payment}
    (hpayments : after.payments = before.payments.modify change) {key : ℕ}
    (hchange : ∀ old, before.payments.get? key = some old → old.SameCredit (change key old)) :
    SameAt before after key := by
  refine ⟨fun old hold => ⟨change key old, ?_, hchange old hold⟩, fun hnone new hnew => ?_⟩
  · rw [hpayments, Table.get?_modify, hold]
    rfl
  · rw [hpayments, Table.get?_modify, hnone] at hnew
    cases hnew

theorem SameAt.of_updateWhere (keep : ℕ → Payment → Bool) (change : Payment → Payment)
    (hpayments : after.payments = before.payments.updateWhere keep change)
    (hchange : ∀ key old, before.payments.get? key = some old → keep key old = true →
      old.SameCredit (change old)) (key : ℕ) : SameAt before after key := by
  refine .of_modify hpayments fun old hold => ?_
  split
  next hkeep => exact hchange key old hold hkeep
  next => exact .refl old

theorem SameAt.of_insert {change : ℕ → Payment → Payment} {payment : Payment}
    (hpayments : after.payments = (before.payments.modify change).insert payment) {key : ℕ}
    (hchange : ∀ old, before.payments.get? key = some old → old.SameCredit (change key old))
    (hpending : payment.status = .pending)
    (hstore : ∃ store, before.stores.get? payment.storeId = some store) :
    SameAt before after key := by
  refine ⟨fun old hold => ⟨change key old, ?_, hchange old hold⟩, fun hnone new hnew => ?_⟩
  · have hne : key ≠ before.payments.next := fun heq => by simp [heq] at hold
    rw [hpayments, Table.get?_insert, Table.next_modify, if_neg hne, Table.get?_modify, hold]
    rfl
  · rw [hpayments, Table.get?_insert, Table.next_modify] at hnew
    split at hnew
    · obtain rfl := Option.some.inj hnew
      exact ⟨hpending, hstore⟩
    · rw [Table.get?_modify, hnone] at hnew
      cases hnew

/-- Whether a payment counts depends on the store as far as it never changes. -/
theorem Tables.Keeps.counts (hkeeps : before.Keeps after) {old new : Payment}
    (hstored : ∃ store, before.stores.get? old.storeId = some store)
    (hstore : new.storeId = old.storeId) (hpaid : new.status = .paid ↔ old.status = .paid)
    (accountId : ℕ) : after.counts accountId new = before.counts accountId old := by
  obtain ⟨store, hget⟩ := hstored
  obtain ⟨moment, hget'⟩ := hkeeps.stores old.storeId store hget
  unfold Tables.counts
  rw [hstore, hget, hget', decide_eq_decide.mpr hpaid]
  rfl

variable (hkeeps : before.Keeps after) (hledgered : before.Ledgered)

include hkeeps hledgered

theorem SameAt.share {key : ℕ} (hsame : SameAt before after key) {column : LedgerColumn}
    (hcolumn : column.Measures) (accountId : ℕ) :
    (after.payments.share (fun _ payment =>
        if after.counts accountId payment then column.payment payment else 0) key) =
      before.payments.share (fun _ payment =>
        if before.counts accountId payment then column.payment payment else 0) key := by
  cases hget : before.payments.get? key with
  | some old =>
      obtain ⟨new, hnew, hcredit⟩ := hsame.persists old hget
      rw [Table.share_of_get? hnew, Table.share_of_get? hget,
        hkeeps.counts (hledgered.stored key old hget) hcredit.store hcredit.paid_iff,
        hcolumn.amount old new hcredit.amount]
  | none =>
      rw [Table.share_of_none hget]
      cases hget' : after.payments.get? key with
      | none => exact Table.share_of_none hget'
      | some new =>
          obtain ⟨hpending, -⟩ := hsame.origin hget new hget'
          rw [Table.share_of_get? hget']
          simp [Tables.counts, hpending]

theorem SameAt.stored {key : ℕ} (hsame : SameAt before after key) {new : Payment}
    (hnew : after.payments.get? key = some new) :
    ∃ store, after.stores.get? new.storeId = some store := by
  have hstore : ∃ store, before.stores.get? new.storeId = some store := by
    cases hget : before.payments.get? key with
    | some old =>
        obtain ⟨found, hfound, hcredit⟩ := hsame.persists old hget
        obtain rfl := Option.some.inj (hfound.symm.trans hnew)
        rw [hcredit.store]
        exact hledgered.stored key old hget
    | none => exact (hsame.origin hget new hnew).2
  obtain ⟨store, hget⟩ := hstore
  obtain ⟨moment, hget'⟩ := hkeeps.stores new.storeId store hget
  exact ⟨_, hget'⟩

/-- What names a settled payment goes on naming it. -/
theorem SameAt.named (hsame : ∀ key, SameAt before after key)
    (hledger : after.ledger = before.ledger) : after.Ledgered := by
  refine ⟨fun key payment hpayment => (hsame key).stored hkeeps hledgered hpayment, ?_, ?_⟩
  · intro key entry hentry
    rw [hledger] at hentry
    obtain ⟨paymentId, payment, hpayment, hname, hsettled, hreversed⟩ :=
      hledgered.named key entry hentry
    obtain ⟨new, hnew, hcredit⟩ := (hsame paymentId).persists payment hpayment
    refine ⟨paymentId, new, hnew, hcredit.publicId.trans hname, ?_, fun htype => ?_⟩
    · rw [hcredit.settled hsettled]
      exact hsettled
    · rw [hcredit.settled hsettled]
      exact hreversed htype
  · intro column hcolumn accountId
    have htaken : after.taken column accountId = before.taken column accountId :=
      Table.total_congr fun key => (hsame key).share hkeeps hledgered hcolumn accountId
    rw [htaken, ← hledgered.balanced column hcolumn accountId, Tables.recorded, hledger]
    rfl

end SameAt

/-! ## The two movements -/

section Movements

variable {settings : Settings} {now : Instant} {tables tables' : Tables} {paymentId : ℕ}
  {payment : Payment}

/-- A ledger insert that meets no row of the same movement. -/
theorem recordPlanLedgerEntry_of_fresh (now : Instant) (tables : Tables) (accountId : ℕ)
    (payment : Payment) (reversal : Bool)
    (hfresh : ∀ key entry, tables.ledger.get? key = some entry →
      entry.resourceId = payment.publicId →
      entry.resourceType ≠ (ledgerEntry now accountId payment reversal).resourceType) :
    (recordPlanLedgerEntry now tables accountId payment reversal).ledger =
      tables.ledger.insert (ledgerEntry now accountId payment reversal) := by
  have hnone : (tables.ledger.find? fun _ row =>
      decide (sameResource row (ledgerEntry now accountId payment reversal))) = none := by
    refine Table.find?_eq_none_iff.mpr fun key entry hentry => decide_eq_false ?_
    rintro ⟨-, htype, hname⟩
    exact hfresh key entry hentry hname htype
  simp [recordPlanLedgerEntry, hnone]

theorem recorded_insert {after : Tables} {entry : PlanLedgerEntry}
    (hledger : after.ledger = tables.ledger.insert entry) (column : LedgerColumn)
    (accountId : ℕ) :
    after.recorded column accountId = tables.recorded column accountId +
      if entry.accountId = accountId then column.entry entry else 0 := by
  rw [Tables.recorded, hledger, Table.total_insert]
  rfl

/-- What a payment adds to a column of the account. -/
def Tables.contribution (tables : Tables) (column : LedgerColumn) (accountId : ℕ)
    (payment : Payment) : ℤ :=
  if tables.counts accountId payment then column.payment payment else 0

/-- One payment is settled or given back, the others count as before, and the
ledger moves by what the payment adds or takes away. -/
theorem Tables.Ledgered.movement {after : Tables} (hledgered : tables.Ledgered)
    (hkeeps : tables.Keeps after) (hpayment : tables.payments.get? paymentId = some payment)
    {moved : Payment} (hmoved : after.payments.get? paymentId = some moved)
    (hpublic : moved.publicId = payment.publicId) (hstore : moved.storeId = payment.storeId)
    (hsettled : moved.status.isSettled = true)
    (hreversed : payment.status = .reversed → moved.status = .reversed)
    (hother : ∀ key, key ≠ paymentId → SameAt tables after key)
    (hledger : ∀ key entry, after.ledger.get? key = some entry →
      tables.ledger.get? key = some entry ∨ (entry.resourceId = payment.publicId ∧
        (entry.resourceType = .paymentReversal → moved.status = .reversed)))
    (hmove : ∀ column : LedgerColumn, column.Measures → ∀ accountId,
      after.recorded column accountId = tables.recorded column accountId +
        (after.contribution column accountId moved -
          tables.contribution column accountId payment)) : after.Ledgered := by
  refine ⟨fun key found hfound => ?_, fun key entry hentry => ?_,
    fun column hcolumn accountId => ?_⟩
  · by_cases heq : key = paymentId
    · subst heq
      obtain rfl := Option.some.inj (hmoved.symm.trans hfound)
      obtain ⟨store, hget⟩ := hledgered.stored key payment hpayment
      obtain ⟨moment, hget'⟩ := hkeeps.stores payment.storeId store hget
      exact ⟨_, hstore ▸ hget'⟩
    · exact (hother key heq).stored hkeeps hledgered hfound
  · rcases hledger key entry hentry with hold | ⟨hname, htype⟩
    · obtain ⟨foundId, found, hfound, hname, hwas, hwasReversed⟩ :=
        hledgered.named key entry hold
      by_cases heq : foundId = paymentId
      · subst heq
        obtain rfl := Option.some.inj (hpayment.symm.trans hfound)
        exact ⟨foundId, moved, hmoved, hpublic.trans hname, hsettled,
          fun htype => hreversed (hwasReversed htype)⟩
      · obtain ⟨new, hnew, hcredit⟩ := (hother foundId heq).persists found hfound
        refine ⟨foundId, new, hnew, hcredit.publicId.trans hname, ?_, fun htype => ?_⟩
        · rw [hcredit.settled hwas]
          exact hwas
        · rw [hcredit.settled hwas]
          exact hwasReversed htype
    · exact ⟨paymentId, moved, hmoved, hpublic.trans hname.symm, hsettled, htype⟩
  · have htaken : after.taken column accountId = tables.taken column accountId +
        (after.contribution column accountId moved -
          tables.contribution column accountId payment) := by
      refine Table.total_add ?_ fun key hne => (hother key hne).share hkeeps hledgered hcolumn _
      rw [Table.share_of_get? hmoved, Table.share_of_get? hpayment]
      exact (add_sub_cancel _ _).symm
    rw [hmove column hcolumn accountId, htaken, hledgered.balanced column hcolumn accountId]

/-- The ledger names this payment only as far as it has been settled. -/
theorem Tables.NamesSettled.entry_of_publicId (hnamed : tables.NamesSettled)
    (hvalid : Constraints tables) (hpayment : tables.payments.get? paymentId = some payment)
    {key : ℕ} {entry : PlanLedgerEntry} (hentry : tables.ledger.get? key = some entry)
    (hname : entry.resourceId = payment.publicId) :
    payment.status.isSettled = true ∧
      (entry.resourceType = .paymentReversal → payment.status = .reversed) := by
  obtain ⟨foundId, found, hfound, hpublic, hsettled, hreversed⟩ :=
    hnamed key entry hentry
  have hsame : samePublicId found payment := hpublic.trans hname
  obtain rfl := (Table.unique_iff fun _ _ heq => Eq.symm heq).mp hvalid.publicId foundId paymentId
    found payment hfound hpayment hsame
  obtain rfl := Option.some.inj (hpayment.symm.trans hfound)
  exact ⟨hsettled, hreversed⟩

theorem Tables.contribution_of_store (tables : Tables) (payment : Payment) {store : Store}
    (hstore : tables.stores.get? payment.storeId = some store) (column : LedgerColumn)
    (accountId : ℕ) :
    tables.contribution column accountId payment =
      if payment.status = .paid ∧ store.accountId = accountId ∧ store.isInternal = false then
        column.payment payment
      else 0 := by
  simp [Tables.contribution, Tables.counts, hstore]

theorem get?_insert_cases {α : Type} {table : Table α} {row found : α} {key : ℕ}
    (hfound : (table.insert row).get? key = some found) :
    table.get? key = some found ∨ found = row := by
  rw [Table.get?_insert] at hfound
  split at hfound
  · exact .inr (Option.some.inj hfound).symm
  · exact .inl hfound

/-- A settlement retires open replacements and leaves every other payment as it is. -/
theorem settlePayment_sameAt {credit : Credit}
    (hsettle : settlePayment settings now tables paymentId payment credit = .ok tables') {key : ℕ}
    (hne : key ≠ paymentId) : SameAt tables tables' key := by
  refine .of_modify ((settlePayment_payments hsettle).1.trans (settledPayments_eq_modify _ _ _))
    fun old hold => ?_
  rw [settledChange, if_neg hne]
  split
  next hsuccessor =>
    refine .of_unsettled ?_ rfl
    have hretirable := hsuccessor.2
    revert hretirable
    cases old.status <;> simp [PaymentStatus.isRetirable, PaymentStatus.isSettled]
  next => exact .refl old

/-- A settlement is recorded in a merchant store and left out in the platform's
own. -/
theorem settlePayment_ledger (hnamed : tables.NamesSettled) (hvalid : Constraints tables)
    {credit : Credit}
    (hpayment : tables.payments.get? paymentId = some payment)
    (hopen : payment.status.isTerminal = false)
    (hsettle : settlePayment settings now tables paymentId payment credit = .ok tables') :
    ∃ store, tables.stores.get? payment.storeId = some store ∧
      tables'.ledger = if store.isInternal then tables.ledger else tables.ledger.insert
        (ledgerEntry now store.accountId
          (payment.settle now credit.bakongRef credit.gatewayRaw) false) := by
  obtain ⟨store, settled, hstore, hinvoice, rfl⟩ := settlePayment_eq_ok hsettle
  refine ⟨store, hstore, ?_⟩
  obtain ⟨events, deliveries, hretire⟩ := retireSuccessors_eq now settled paymentId store
  rw [enqueueEvent_ledger, hretire]
  refine (settleInvoiceForPayment_keeps hinvoice).2.ledger.trans ?_
  unfold recordSettlement
  dsimp only
  split
  · rfl
  · refine recordPlanLedgerEntry_of_fresh _ _ _ _ _ fun key entry hentry hname => ?_
    have hsettled := (hnamed.entry_of_publicId hvalid hpayment hentry hname).1
    exfalso
    revert hopen hsettled
    cases payment.status <;> decide

/-- A reversal is recorded wherever the payment was taken. -/
theorem reversePayment_ledger (hnamed : tables.NamesSettled) (hvalid : Constraints tables)
    {reason : Option String} {store : Store}
    (hpayment : tables.payments.get? paymentId = some payment)
    (hstore : tables.stores.get? payment.storeId = some store)
    (hreverse : reversePayment now tables paymentId payment reason = .ok tables') :
    tables'.ledger = tables.ledger.insert
      (ledgerEntry now store.accountId (payment.reverse now reason) true) := by
  obtain ⟨hpaid, -⟩ := reversePayment_eq_ok hreverse
  simp only [reversePayment, hpaid, hstore, reduceCtorEq, if_false, ne_eq, not_true_eq_false,
    Except.ok.injEq] at hreverse
  rw [← hreverse, enqueueEvent_ledger]
  refine recordPlanLedgerEntry_of_fresh _ _ _ _ _ fun key entry hentry hname htype => ?_
  have hgiven := (hnamed.entry_of_publicId hvalid hpayment hentry hname).2 htype
  rw [hpaid] at hgiven
  cases hgiven

variable (hledgered : tables.Ledgered) (hvalid : Constraints tables)

include hledgered hvalid

theorem settlePayment_ledgered {credit : Credit}
    (hpayment : tables.payments.get? paymentId = some payment)
    (hopen : payment.status.isTerminal = false)
    (hsettle : settlePayment settings now tables paymentId payment credit = .ok tables') :
    tables'.Ledgered := by
  have hkeeps : tables.Keeps tables' := (settlePayment_payments hsettle).2
  have hnotPaid : payment.status ≠ .paid := by
    intro hpaid
    simp [hpaid, PaymentStatus.isTerminal] at hopen
  obtain ⟨store, hstore, hledger⟩ :=
    settlePayment_ledger hledgered.named hvalid hpayment hopen hsettle
  obtain ⟨moment, hstore'⟩ := hkeeps.stores payment.storeId store hstore
  refine hledgered.movement hkeeps hpayment (settlePayment_paid hpayment hsettle) rfl rfl rfl ?_ ?_
    ?_ ?_
  · intro hreversed
    simp [hreversed, PaymentStatus.isTerminal] at hopen
  · intro key hne
    exact settlePayment_sameAt hsettle hne
  · intro key entry hentry
    rw [hledger] at hentry
    split at hentry
    · exact .inl hentry
    · rcases get?_insert_cases hentry with hold | rfl
      · exact .inl hold
      · refine .inr ⟨rfl, fun hreversal => ?_⟩
        cases hreversal
  · intro column hcolumn accountId
    rw [tables.contribution_of_store payment hstore,
      tables'.contribution_of_store (payment.settle now credit.bakongRef credit.gatewayRaw) hstore']
    by_cases hinternal : store.isInternal = true
    · rw [if_pos hinternal] at hledger
      simp [Tables.recorded, hledger, hinternal, hnotPaid, Store.hold]
    · rw [if_neg hinternal] at hledger
      rw [recorded_insert hledger, hcolumn.credit]
      simp [ledgerEntry, hinternal, hnotPaid, Store.hold, Payment.settle]

theorem reversePayment_ledgered {reason : Option String}
    (hpayment : tables.payments.get? paymentId = some payment)
    (hmerchant : ∀ store, tables.stores.get? payment.storeId = some store →
      payment.status = .paid → store.isInternal = false)
    (hreverse : reversePayment now tables paymentId payment reason = .ok tables') :
    tables'.Ledgered := by
  obtain ⟨store, hstore⟩ := hledgered.stored paymentId payment hpayment
  have hledger := reversePayment_ledger hledgered.named hvalid hpayment hstore hreverse
  obtain ⟨hpaid, events, deliveries, ledger, hafter⟩ := reversePayment_eq_ok hreverse
  have hinternal := hmerchant store hstore hpaid
  have hkeeps : tables.Keeps tables' := hafter ▸ .of_eq rfl rfl rfl
  have hpayments : tables'.payments =
      tables.payments.update paymentId fun _ => payment.reverse now reason := by rw [hafter]
  have hstore' : tables'.stores.get? (payment.reverse now reason).storeId = some store := by
    rw [hafter]
    exact hstore
  have hmoved : tables'.payments.get? paymentId = some (payment.reverse now reason) := by
    rw [hpayments, Table.get?_update, if_pos rfl, hpayment]
    rfl
  refine hledgered.movement hkeeps hpayment hmoved rfl rfl rfl (fun _ => rfl) ?_ ?_ ?_
  · intro key hne
    refine .of_modify hpayments fun old hold => ?_
    rw [if_neg hne]
    exact .refl old
  · intro key entry hentry
    rw [hledger] at hentry
    rcases get?_insert_cases hentry with hold | rfl
    · exact .inl hold
    · exact .inr ⟨rfl, fun _ => rfl⟩
  · intro column hcolumn accountId
    rw [tables.contribution_of_store payment hstore,
      tables'.contribution_of_store (payment.reverse now reason) hstore', recorded_insert hledger,
      hcolumn.reversal, hcolumn.amount payment (payment.reverse now reason) rfl]
    by_cases haccount : store.accountId = accountId
    · simp [ledgerEntry, hpaid, hinternal, haccount, Payment.reverse]
    · simp [ledgerEntry, hpaid, hinternal, haccount, Payment.reverse]

end Movements

/-! ## The other operations -/

section Idle

variable {settings : Settings} {now : Instant} {tables tables' : Tables}

theorem createPayment_sameAt {rail : Rail} {storeId : ℕ} {store : Store}
    {request : PaymentRequest} {publicId : String} {paymentId : ℕ}
    (hstore : tables.stores.get? storeId = some store)
    (hcreate : createPayment settings rail now tables storeId store request publicId =
      .ok (paymentId, tables')) :
    tables'.ledger = tables.ledger ∧ ∀ key, SameAt tables tables' key := by
  rcases createPayment_eq_ok hcreate with ⟨rfl, -⟩ | ⟨payment, -, hcreated, rfl⟩
  · exact ⟨rfl, .of_eq rfl⟩
  · have hidle : tables.payments = tables.payments.modify fun _ row => row :=
      Table.ext_get? rfl fun key => by simp
    refine ⟨rfl, fun key => .of_insert (congrArg (Table.insert · payment) hidle)
      (fun old _ => .refl old) hcreated.status ?_⟩
    rw [hcreated.store]
    exact ⟨store, hstore⟩

theorem reissuePayment_sameAt {rail : Rail} {parentId : ℕ} {parent : Payment}
    {publicId : String} {paymentId : ℕ}
    (hreissue : reissuePayment settings rail now tables parentId parent publicId =
      .ok (paymentId, tables')) :
    tables'.ledger = tables.ledger ∧ ∀ key, SameAt tables tables' key := by
  rcases (reissuePayment_eq_ok hreissue).2 with ⟨rfl, -⟩ | ⟨payment, -, hchild, hstore, rfl⟩
  · exact ⟨rfl, .of_eq rfl⟩
  · refine ⟨rfl, fun key => .of_insert rfl (fun old hold => ?_) hchild.status ?_⟩
    · split
      · exact ⟨rfl, rfl, rfl, .inl rfl, rfl, rfl⟩
      · exact .refl old
    · rw [hchild.store]
      exact hstore

/-- Every operation but a settlement and a reversal leaves the ledger and what
counts alone. -/
theorem perform_sameAt {op : Op} {response : Response}
    (hcredit : ∀ publicId credit, op ≠ .markPaid publicId credit)
    (hreversal : ∀ paymentId reason, op ≠ .reversePayment paymentId reason)
    (hperform : perform settings now tables op = .ok (response, tables')) :
    tables'.ledger = tables.ledger ∧ ∀ key, SameAt tables tables' key := by
  have hsales : tables.SameSales tables' →
      tables'.ledger = tables.ledger ∧ ∀ key, SameAt tables tables' key :=
    fun hsame => ⟨hsame.ledger, .of_eq hsame.payments⟩
  cases op with
  | signUp email name renameExisting =>
      simp only [perform, Except.ok.injEq, Prod.mk.injEq] at hperform
      obtain ⟨-, rfl⟩ := hperform
      exact hsales (upsertAccount_sameSales _ _ _ _ _)
  | createPayment rail storeId request publicId =>
      simp only [perform, bind_eq_ok, pure_eq_ok, Prod.mk.injEq] at hperform
      obtain ⟨store, hstore, ⟨paymentId, created⟩, hcreate, -, rfl⟩ := hperform
      exact createPayment_sameAt (requireStore_eq_ok hstore) hcreate
  | reissuePayment rail parentId publicId =>
      simp only [perform, bind_eq_ok, pure_eq_ok, Prod.mk.injEq] at hperform
      obtain ⟨parent, -, ⟨paymentId, created⟩, hreissue, -, rfl⟩ := hperform
      exact reissuePayment_sameAt hreissue
  | markScanned paymentId =>
      simp only [perform, bind_eq_ok, pure_eq_ok, Prod.mk.injEq] at hperform
      obtain ⟨scanned, hscan, -, rfl⟩ := hperform
      rcases markScanned_eq_ok hscan with
        rfl | ⟨payment, events, deliveries, hpayment, hpending, rfl⟩
      · exact ⟨rfl, .of_eq rfl⟩
      · have hpayments : tables.payments.update paymentId (fun _ => payment.scan now) =
            tables.payments.updateWhere (fun key _ => decide (key = paymentId))
              fun _ => payment.scan now :=
          Table.ext_get? rfl fun key => by
            cases hget : tables.payments.get? key <;> by_cases heq : key = paymentId <;>
              simp [hget, heq]
        refine ⟨rfl, .of_updateWhere _ _ hpayments fun key old hold hkey => ?_⟩
        obtain rfl : key = paymentId := by simpa using hkey
        obtain rfl := Option.some.inj (hpayment.symm.trans hold)
        exact ⟨rfl, rfl, rfl, .inr ⟨by rw [hpending]; rfl, rfl⟩, rfl, rfl⟩
  | expireDuePayments =>
      simp only [perform, bind_eq_ok, pure_eq_ok, Prod.mk.injEq] at hperform
      obtain ⟨⟨count, expired⟩, hexpire, -, rfl⟩ := hperform
      obtain ⟨events, deliveries, rfl⟩ := expireDuePayments_eq_ok hexpire
      refine ⟨rfl, .of_updateWhere
        (fun key _ => ((duePayments now tables).map Prod.fst).contains key) Payment.expire rfl
        fun key old hold hdue => ?_⟩
      rw [List.contains_iff_mem, List.mem_map] at hdue
      obtain ⟨⟨_, due⟩, hmem, rfl⟩ := hdue
      obtain ⟨hget, hopen, -⟩ := mem_duePayments hmem
      obtain rfl := Option.some.inj (hget.symm.trans hold)
      refine .of_unsettled ?_ rfl
      revert hopen
      cases due.status <;> decide
  | changePlan accountId planCode =>
      simp only [perform, bind_eq_ok, pure_eq_ok, Prod.mk.injEq] at hperform
      obtain ⟨⟨out, changed⟩, hchange, -, rfl⟩ := hperform
      exact hsales (changePlan_sameSales hchange)
  | getInvoiceKhqr rail accountId invoiceId publicId =>
      simp only [perform, bind_eq_ok, pure_eq_ok, Prod.mk.injEq] at hperform
      obtain ⟨⟨paymentId, collected⟩, hkhqr, -, rfl⟩ := hperform
      obtain ⟨invoice, minted, hqId, hq, -, -, -, hhq, hminted, rfl⟩ := getInvoiceKhqr_eq_ok hkhqr
      have hcode : minted.ledger = tables.ledger ∧ ∀ key, SameAt tables minted key := by
        rcases invoicePayment_eq_ok hminted with
          ⟨storedId, stored, -, -, ⟨-, rfl⟩ | hreissue⟩ | ⟨request, -, -, hcreate⟩
        · exact ⟨rfl, .of_eq rfl⟩
        · exact reissuePayment_sameAt hreissue
        · exact createPayment_sameAt hhq hcreate
      exact ⟨hcode.1, fun key => ⟨(hcode.2 key).persists, (hcode.2 key).origin⟩⟩
  | issueDueInvoices limit =>
      simp only [perform, Except.ok.injEq, Prod.mk.injEq] at hperform
      obtain ⟨-, rfl⟩ := hperform
      obtain ⟨invoices, heq⟩ := issueDueInvoices_eq settings now tables limit
      rw [heq]
      exact ⟨rfl, .of_eq rfl⟩
  | enforceGrace limit =>
      simp only [perform, Except.ok.injEq, Prod.mk.injEq] at hperform
      obtain ⟨-, rfl⟩ := hperform
      exact hsales (enforceGrace_sameSales settings now tables limit)
  | resolveInvoice actorId invoiceId action reason amountCents =>
      simp only [perform, bind_eq_ok, pure_eq_ok, Prod.mk.injEq] at hperform
      obtain ⟨resolved, hresolve, -, rfl⟩ := hperform
      exact hsales (resolveInvoice_sameSales hresolve)
  | assignAccountPlan actorId accountId planCode reason =>
      simp only [perform, bind_eq_ok, pure_eq_ok, Prod.mk.injEq] at hperform
      obtain ⟨⟨subscriptionId, assigned⟩, hassign, -, rfl⟩ := hperform
      exact hsales (assignAccountPlan_sameSales hassign)
  | markPaid publicId credit => exact absurd rfl (hcredit publicId credit)
  | reversePayment paymentId reason => exact absurd rfl (hreversal paymentId reason)

end Idle

/-! ## Runs -/

/-- No payment taken in one of the platform's own stores is given back. -/
def ReversesMerchantSale (world : World) (input : Timed) : Prop :=
  ∀ paymentId reason payment store, input.op = .reversePayment paymentId reason →
    world.db.tables.payments.get? paymentId = some payment → payment.status = .paid →
    world.db.tables.stores.get? payment.storeId = some store → store.isInternal = false

theorem step_ledgered {settings : Settings} {world : World} (hworld : world.Wellformed)
    (hledgered : world.db.tables.Ledgered) {input : Timed}
    (hinput : ReversesMerchantSale world input) :
    (next (step settings) world input).db.tables.Ledgered := by
  rcases step_moves settings hworld input with ⟨-, hdb⟩ | ⟨response, -, hperform, -, -, hkeeps⟩
  · rw [hdb]
    exact hledgered
  have hvalid := world.db.valid
  generalize (next (step settings) world input).db.tables = tables' at hperform hkeeps ⊢
  have hidle : (∀ publicId credit, input.op ≠ .markPaid publicId credit) →
      (∀ paymentId reason, input.op ≠ .reversePayment paymentId reason) → tables'.Ledgered := by
    intro hcredit hreversal
    obtain ⟨hledger, hsame⟩ := perform_sameAt hcredit hreversal hperform
    exact SameAt.named hkeeps hledgered hsame hledger
  cases hop : input.op with
  | markPaid publicId credit =>
      simp only [hop, perform, bind_eq_ok, pure_eq_ok, Prod.mk.injEq] at hperform
      obtain ⟨⟨settledId, settled⟩, hmark, -, rfl⟩ := hperform
      rcases markPaid_eq_ok hmark with ⟨-, rfl⟩ | ⟨paymentId, payment, -, hfind, hopen, hsettle⟩
      · exact hledgered
      · exact settlePayment_ledgered hledgered hvalid (findByPublicId_eq_some hfind).1 hopen hsettle
  | reversePayment paymentId reason =>
      simp only [hop, perform, bind_eq_ok, pure_eq_ok, Prod.mk.injEq] at hperform
      obtain ⟨payment, hpayment, reversed, hreverse, -, rfl⟩ := hperform
      have hget := requirePayment_eq_ok hpayment
      exact reversePayment_ledgered hledgered hvalid hget
        (fun store hstore hpaid => hinput paymentId reason payment store hop hget hpaid hstore)
        hreverse
  | signUp | createPayment | reissuePayment | markScanned | expireDuePayments | changePlan
  | getInvoiceKhqr | issueDueInvoices | enforceGrace | resolveInvoice | assignAccountPlan =>
      refine hidle ?_ ?_ <;> simp [hop]

theorem Initial.ledgered {world : World} (hinitial : Initial world) :
    world.db.tables.Ledgered := by
  have hpayments := Initial.get?_eq_none hinitial.payments
  have hledger := Initial.get?_eq_none hinitial.ledger
  refine ⟨fun key payment hpayment => ?_, fun key entry hentry => ?_, fun column _ accountId => ?_⟩
  · rw [hpayments] at hpayment
    cases hpayment
  · rw [hledger] at hentry
    cases hentry
  · simp [Tables.recorded, Tables.taken, Table.total, hinitial.payments, hinitial.ledger]

/-- In every run that reverses no payment of the platform's own stores, the ledger
of every account adds up to what is paid in its merchant stores, in volume and in
number. -/
theorem ledger_adds_up {settings : Settings} {world : World} (hinitial : Initial world)
    {inputs : List Timed} (halong : Along (step settings) ReversesMerchantSale world inputs)
    (accountId : ℕ) :
    (run (step settings) world inputs).db.tables.recorded .volume accountId =
        (run (step settings) world inputs).db.tables.taken .volume accountId ∧
      (run (step settings) world inputs).db.tables.recorded .count accountId =
        (run (step settings) world inputs).db.tables.taken .count accountId := by
  have hledgered := (run_invariant_of_along
    (fun state : World => state.Wellformed ∧ state.db.tables.Ledgered) ReversesMerchantSale
    (fun state input hstate hinput => ⟨step_wellformed settings hstate.1 input,
      step_ledgered hstate.1 hstate.2 hinput⟩)
    ⟨hinitial.wellformed, hinitial.ledgered⟩ halong).2
  exact ⟨hledgered.balanced .volume LedgerColumn.measures_volume accountId,
    hledgered.balanced .count LedgerColumn.measures_count accountId⟩

/-- The shop takes two payments and gives one back two months later. -/
def refundRun : List Timed :=
  [Specimen.after 60 (.createPayment Specimen.rail 1 Specimen.order "pay_1"),
    Specimen.after 60 (.markPaid "pay_1" Specimen.credit),
    Specimen.after 60 (.createPayment Specimen.rail 1 Specimen.order "pay_2"),
    Specimen.after 60 (.markPaid "pay_2" Specimen.credit),
    Specimen.afterDays 60 (.reversePayment 0 none)]

theorem ReversesMerchantSale.of_store {world : World} {input : Timed}
    (hstores : (match input.op with
      | .reversePayment paymentId _ =>
          (world.db.tables.payments.get? paymentId).all fun payment =>
            (world.db.tables.stores.get? payment.storeId).all fun store => !store.isInternal
      | _ => true) = true) : ReversesMerchantSale world input := by
  intro paymentId reason payment store hop hpayment hpaid hstore
  simpa [hop, hpayment, hstore] using hstores

theorem ledger_adds_up_refund :
    (run (step {}) Specimen.world refundRun).db.tables.ledger.rows.length = 3 ∧
      (run (step {}) Specimen.world refundRun).db.tables.recorded .volume 1 = 500 ∧
      Along (step {}) ReversesMerchantSale Specimen.world refundRun ∧
      (run (step {}) Specimen.world refundRun).db.tables.recorded .count 1 =
        (run (step {}) Specimen.world refundRun).db.tables.taken .count 1 := by
  have halong : Along (step {}) ReversesMerchantSale Specimen.world refundRun :=
    ⟨.of_store (by decide +kernel), .of_store (by decide +kernel), .of_store (by decide +kernel),
      .of_store (by decide +kernel), .of_store (by decide +kernel), trivial⟩
  exact ⟨by decide +kernel, by decide +kernel, halong,
    (ledger_adds_up Specimen.initial_world halong 1).2⟩

/-- A payment into the platform's own store is given back. -/
def internalRefundRun : List Timed :=
  [Specimen.after 60 (.createPayment Specimen.rail 0 Specimen.order "pay_1"),
    Specimen.after 60 (.markPaid "pay_1" Specimen.credit),
    Specimen.after 60 (.reversePayment 0 none)]

/-- The account of that store is left with a negative balance and nothing paid. -/
theorem ledger_does_not_add_up :
    Initial Specimen.world ∧
      (run (step {}) Specimen.world internalRefundRun).db.tables.recorded .volume 0 = -500 ∧
      (run (step {}) Specimen.world internalRefundRun).db.tables.taken .volume 0 = 0 :=
  ⟨Specimen.initial_world, by decide +kernel, by decide +kernel⟩

end ChmabaPay
