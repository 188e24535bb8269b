import ChmabaPay.Payments.Postings
import ChmabaPay.Payments.Replays

/-! # Payments of test keys

A payment asked for with a test key is settled by W1 without a rail. Neither the quota nor
the ledger asks with which key a payment was made, so it stays out of both only as long as
nothing settles it.
-/

namespace ChmabaPay

open Calendar Relational Execution Fallible

/-! ## Runs with two kinds of keys -/

/-- Another commit of the platform. Payments count as before, new ones are not settled yet,
the ledger stays and no store changes hands. -/
structure OtherCommit where
  edit : Tables → Tables
  ledger : ∀ tables : Tables, (edit tables).ledger = tables.ledger
  payments : ∀ (tables : Tables) (key : ℕ), SameAt tables (edit tables) key
  stores : ∀ tables : Tables, tables.KeepsOwners (edit tables)

/-- A merchant puts a store into another status. -/
def OtherCommit.storeStatus (storeId : ℕ) (status : StoreStatus) : OtherCommit where
  edit tables :=
    { tables with stores := tables.stores.update storeId fun store => { store with status } }
  ledger _ := rfl
  payments tables key := by
    apply SameAt.of_eq
    rfl
  stores tables key store hstore := by
    rw [Table.get?_update, hstore]
    split
    · exact ⟨_, rfl, rfl, rfl⟩
    · exact ⟨store, rfl, rfl, rfl⟩

/-- An operation, a request of a key, a job of W1 in test mode, or another commit. -/
inductive KeyEvent where
  | operate (op : Op)
  | post (rail : Rail) (ctx : AuthContext) (body : PaymentCreate) (publicId : String)
  | reissue (rail : Rail) (ctx : AuthContext) (parentPublicId publicId : String)
  | testMode (publicId jobId : String) (interruption : Interruption)
  | elsewhere (commit : OtherCommit)

/-- The world, and the payments that were made with a test key. -/
structure KeyedWorld where
  world : World
  tested : List ℕ

namespace KeyedWorld

def tables (state : KeyedWorld) : Tables := state.world.db.tables

/-- The world when nothing was committed. -/
def wait (state : KeyedWorld) (moment : Instant) : KeyedWorld :=
  { state with world := { state.world with clock := moment } }

/-- A session commits, with the payments it made for a test key. -/
def commit (state : KeyedWorld) (moment : Instant) (made : List ℕ) (tables : Tables) :
    KeyedWorld :=
  match tables.commit with
  | .error _ => state.wait moment
  | .ok db => { world := { clock := moment, db := db }, tested := made ++ state.tested }

/-- The payment a key made, if it is a test key and the payment is new. -/
def made (state : KeyedWorld) (ctx : AuthContext) (paymentId : ℕ) : List ℕ :=
  if ctxMode ctx = "test" ∧ paymentId = state.tables.payments.next then [paymentId] else []

end KeyedWorld

/-- The world after an event, some microseconds after the previous one. -/
def keyedStep (settings : Settings) (state : KeyedWorld) (input : ℕ × KeyEvent) :
    KeyedWorld × Unit :=
  let moment := state.world.clock + input.1
  match input.2 with
  | .operate op => ({ state with world := next (step settings) state.world ⟨input.1, op⟩ }, ())
  | .post rail ctx body publicId =>
      match postPayment settings rail moment state.tables ctx body publicId with
      | .error _ => (state.wait moment, ())
      | .ok (paymentId, created) => (state.commit moment (state.made ctx paymentId) created, ())
  | .reissue rail ctx parentPublicId publicId =>
      match postReissue settings rail moment state.tables ctx parentPublicId publicId with
      | .error _ => (state.wait moment, ())
      | .ok (paymentId, reissued) => (state.commit moment (state.made ctx paymentId) reissued, ())
  | .testMode publicId jobId interruption =>
      match testModeBypass settings moment state.world.db publicId jobId interruption with
      | .error _ => (state.wait moment, ())
      | .ok handled => ({ state with world := { clock := moment, db := handled.db } }, ())
  | .elsewhere commit => (state.commit moment [] (commit.edit state.tables), ())

/-- The payment is taken in one of the platform's own stores. -/
def Tables.internalSale (tables : Tables) (paymentId : ℕ) : Bool :=
  (tables.payments.get? paymentId).any fun payment =>
    (tables.stores.get? payment.storeId).any fun store => store.isInternal

/-- The event leaves a payment of a test key alone: an operation settles it in one of the
platform's own stores only and does not give it back, and W1 finds it settled or dead. -/
def KeyEvent.spares (event : KeyEvent) (tables : Tables) (tested : List ℕ) : Bool :=
  match event with
  | .operate op => tested.all fun paymentId =>
      (!op.settlesPayment tables paymentId || tables.internalSale paymentId) &&
        !op.reversesPayment tables paymentId
  | .testMode publicId _ _ => (findByPublicId tables publicId).all fun row => !row.2.status.isOpen
  | .post .. | .reissue .. | .elsewhere .. => true

/-- No payment of a test key is settled in a merchant store, and none is given back. -/
def SparesTests (state : KeyedWorld) (input : ℕ × KeyEvent) : Prop :=
  input.2.spares state.tables state.tested = true

/-! ## What the payments of an account come to -/

/-- What a payment is to the quota and to the ledger. -/
structure Charge where
  status : PaymentStatus
  amountCents : Int
  paidAt : Option Instant
  reversedAt : Option Instant
  isInternal : Bool
deriving DecidableEq

def Payment.charge (payment : Payment) (store : Store) : Charge where
  status := payment.status
  amountCents := payment.amountCents
  paidAt := payment.paidAt
  reversedAt := payment.reversedAt
  isInternal := store.isInternal

/-- The charge of a payment of the account that was made with no test key. -/
def KeyedWorld.liveCharge (state : KeyedWorld) (accountId : ℕ) (paymentId : ℕ)
    (payment : Payment) : Option Charge :=
  if paymentId ∈ state.tested then none
  else ((state.tables.stores.get? payment.storeId).filter fun store =>
    decide (store.accountId = accountId)).map payment.charge

/-- The live payments of the account. -/
def KeyedWorld.liveCharges (state : KeyedWorld) (accountId : ℕ) : List Charge :=
  state.tables.payments.rows.filterMap fun row => state.liveCharge accountId row.1 row.2

/-- The plans the account subscribed to: since when, until when and on which terms. -/
def KeyedWorld.planTerms (state : KeyedWorld) (accountId : ℕ) :
    List (SubscriptionStatus × Option Instant × Plan) :=
  ((subscriptionPlans state.tables).filter fun row => decide (row.2.1.accountId = accountId)).map
    fun row => (row.2.1.status, row.2.1.canceledAt, row.2.2)

/-! ## Test payments stay out -/

/-- The payment is not settled, or it is one of the platform's own and was not given back. -/
def Tables.Uncounted (tables : Tables) (paymentId : ℕ) : Prop :=
  ∃ payment store, tables.payments.get? paymentId = some payment ∧
    tables.stores.get? payment.storeId = some store ∧
    (payment.status.isSettled = true → store.isInternal = true ∧ payment.status ≠ .reversed)

/-- The ledger holds the postings of the payments, and no payment of a test key counts. -/
structure KeyedWorld.Spared (state : KeyedWorld) : Prop where
  booked : state.tables.Booked
  tests : ∀ paymentId ∈ state.tested, state.tables.Uncounted paymentId

section Uncounted

variable {before after : Tables} {paymentId : ℕ}

theorem SameAt.uncounted (hsame : SameAt before after paymentId)
    (hkeeps : before.KeepsOwners after) (huncounted : before.Uncounted paymentId) :
    after.Uncounted paymentId := by
  obtain ⟨payment, store, hpayment, hstore, hsettled⟩ := huncounted
  obtain ⟨new, hnew, hcredit⟩ := hsame.persists payment hpayment
  obtain ⟨store', hstore', -, hinternal⟩ := hkeeps _ store hstore
  refine ⟨new, store', hnew, hcredit.store ▸ hstore', fun hcounts => ?_⟩
  rcases hcredit.status with hstatus | ⟨-, hopen⟩
  · rw [hstatus] at hcounts ⊢
    rw [hinternal]
    exact hsettled hcounts
  · rw [hopen] at hcounts
    cases hcounts

/-- A payment that was not there before is not settled yet. -/
theorem SameAt.uncounted_new (hsame : SameAt before after paymentId)
    (hkeeps : before.KeepsOwners after) (hfresh : before.payments.get? paymentId = none)
    {payment : Payment} (hpayment : after.payments.get? paymentId = some payment) :
    after.Uncounted paymentId := by
  obtain ⟨hpending, store, hstore⟩ := hsame.origin hfresh payment hpayment
  obtain ⟨store', hstore', -⟩ := hkeeps _ store hstore
  refine ⟨payment, store', hpayment, hstore', fun hsettled => ?_⟩
  rw [hpending] at hsettled
  cases hsettled

theorem Booking.uncounted {settles reverses : ℕ → Prop}
    (hbooking : Booking settles reverses before after)
    (hkeeps : before.KeepsOwners after)
    (hsettles : settles paymentId → before.internalSale paymentId = true)
    (hreverses : ¬ reverses paymentId) (huncounted : before.Uncounted paymentId) :
    after.Uncounted paymentId := by
  cases hbooking with
  | idle hsame hledger => exact (hsame paymentId).uncounted hkeeps huncounted
  | settle now bakongRef gatewayRaw settledId payment store hallowed hpayment hopen hstore hsettled
      hother hledger =>
      by_cases heq : paymentId = settledId
      · subst heq
        obtain ⟨store', hstore', -, hinternal⟩ := hkeeps _ store hstore
        have hown := hsettles hallowed
        rw [Tables.internalSale, hpayment, Option.any_some, hstore, Option.any_some] at hown
        exact ⟨_, store', hsettled, hstore', fun _ =>
          ⟨hinternal.trans hown, fun heq => by cases heq⟩⟩
      · exact (hother paymentId heq).uncounted hkeeps huncounted
  | reverse now reason reversedId payment store hallowed hpayment hpaid hstore hreversed hother
      hledger =>
      by_cases heq : paymentId = reversedId
      · subst heq
        exact absurd hallowed hreverses
      · exact (hother paymentId heq).uncounted hkeeps huncounted

end Uncounted

/-! ## Requests of a key -/

section Requests

variable {settings : Settings} {rail : Rail} {now : Instant} {tables tables' : Tables}
  {ctx : AuthContext} {body : PaymentCreate} {publicId : String} {paymentId : ℕ}

theorem resolveTarget_get? {accountId storeId : ℕ} {storePublicId merchantId : Option String}
    {store : Store}
    (htarget : resolveTarget tables accountId storePublicId merchantId = .ok (storeId, store)) :
    tables.stores.get? storeId = some store := by
  have hselected : ∀ keep, (storeId, store) ∈ tables.stores.select keep →
      tables.stores.get? storeId = some store :=
    fun keep hrow => (Table.mem_select.mp hrow).1
  unfold resolveTarget at htarget
  split at htarget
  next externalId _ =>
    simp only [loadStoreByMerchant, bind_eq_ok] at htarget
    obtain ⟨found, hfound, htarget⟩ := htarget
    split at htarget
    · cases htarget
    next row =>
      split at htarget
      · cases htarget
      · obtain rfl := Except.ok.inj htarget
        exact hselected _ (oneOrNone_eq_some hfound ▸ List.mem_singleton_self _)
  next storeCode _ _ =>
    simp only [loadStoreByPublic, bind_eq_ok] at htarget
    obtain ⟨found, hfound, htarget⟩ := htarget
    split at htarget
    · cases htarget
    next row =>
      obtain rfl := Except.ok.inj htarget
      exact hselected _ (oneOrNone_eq_some hfound ▸ List.mem_singleton_self _)
  next =>
    split at htarget
    · cases htarget
    next row hsingle =>
      obtain rfl := Except.ok.inj htarget
      unfold singleActiveStore at hsingle
      split at hsingle
      next only hrows =>
        obtain rfl := Option.some.inj hsingle
        exact hselected _ (hrows ▸ List.mem_singleton_self _)
      · cases hsingle

/-- The mark of a test key changes nothing that counts. -/
theorem enqueueOrSkipTestModeBypass_sameCredit (mode : String) (payment : Payment) :
    payment.SameCredit (enqueueOrSkipTestModeBypass now mode payment) ∧
      (enqueueOrSkipTestModeBypass now mode payment).status = payment.status := by
  unfold enqueueOrSkipTestModeBypass
  split
  · exact ⟨⟨rfl, rfl, rfl, .inl rfl, rfl, rfl⟩, rfl⟩
  · exact ⟨.refl payment, rfl⟩

theorem SameAt.marked {middle : Tables} {key : ℕ} (hsame : SameAt tables middle key)
    {change : Payment → Payment}
    (hpayments : tables'.payments = middle.payments.update paymentId change)
    (hchange : ∀ payment, payment.SameCredit (change payment) ∧
      (change payment).status = payment.status) : SameAt tables tables' key := by
  refine ⟨fun old hold => ?_, fun hnone new hnew => ?_⟩
  · obtain ⟨kept, hkept, hcredit⟩ := hsame.persists old hold
    rw [hpayments, Table.get?_update, hkept]
    split
    · refine ⟨_, rfl, ?_⟩
      obtain ⟨hmarked, hstatus⟩ := hchange kept
      exact ⟨hmarked.publicId.trans hcredit.publicId, hmarked.store.trans hcredit.store,
        hmarked.amount.trans hcredit.amount, by rw [hstatus]; exact hcredit.status,
        hmarked.paidAt.trans hcredit.paidAt, hmarked.reversedAt.trans hcredit.reversedAt⟩
    · exact ⟨kept, rfl, hcredit⟩
  · rw [hpayments, Table.get?_update] at hnew
    split at hnew
    · obtain ⟨kept, hkept, rfl⟩ := Option.map_eq_some_iff.mp hnew
      obtain ⟨hmarked, hstatus⟩ := hchange kept
      rw [hstatus, hmarked.store]
      exact hsame.origin hnone kept hkept
    · exact hsame.origin hnone new hnew

/-- A request of a key settles nothing. -/
structure SettlesNothing (before after : Tables) : Prop where
  ledger : after.ledger = before.ledger
  stores : after.stores = before.stores
  payments : ∀ key, SameAt before after key

theorem postPayment_settlesNothing
    (hpost : postPayment settings rail now tables ctx body publicId = .ok (paymentId, tables')) :
    SettlesNothing tables tables' ∧ ∃ payment, tables'.payments.get? paymentId = some payment := by
  unfold postPayment at hpost
  split at hpost
  · cases hpost
  next storeId store hadmit =>
  split at hpost
  · cases hpost
  next cents _ =>
  split at hpost
  · cases hpost
  next createdId created hcreate =>
  have hstore := resolveTarget_get? (admitPayment_eq_ok_iff.mp hadmit).1
  obtain ⟨hledger, hsame⟩ := createPayment_sameAt hstore hcreate
  obtain ⟨hstores, payment, hpayment⟩ : created.stores = tables.stores ∧
      ∃ payment, created.payments.get? createdId = some payment := by
    rcases createPayment_eq_ok hcreate with
      ⟨rfl, key, payment, -, hpayment, -⟩ | ⟨payment, rfl, -, rfl⟩
    · exact ⟨rfl, payment, hpayment⟩
    · exact ⟨rfl, payment, by rw [Table.get?_insert, if_pos rfl]⟩
  split at hpost
  · unfold storePayment at hpost
    split at hpost
    · obtain ⟨rfl, rfl⟩ := Prod.mk.inj (Except.ok.inj hpost)
      refine ⟨⟨hledger, hstores, fun key => (hsame key).marked rfl
        (enqueueOrSkipTestModeBypass_sameCredit (ctxMode ctx))⟩,
        enqueueOrSkipTestModeBypass now (ctxMode ctx) payment, ?_⟩
      rw [Table.get?_update, if_pos rfl, hpayment]
      rfl
    · cases hpost
  · obtain ⟨rfl, rfl⟩ := Prod.mk.inj (Except.ok.inj hpost)
    exact ⟨⟨hledger, hstores, hsame⟩, payment, hpayment⟩

theorem postReissue_settlesNothing {parentPublicId : String}
    (hpost : postReissue settings rail now tables ctx parentPublicId publicId =
      .ok (paymentId, tables')) :
    SettlesNothing tables tables' ∧ ∃ payment, tables'.payments.get? paymentId = some payment := by
  simp only [postReissue, bind_eq_ok] at hpost
  obtain ⟨found, -, hpost⟩ := hpost
  split at hpost
  · cases hpost
  next parentId parent =>
  simp only [bind_eq_ok] at hpost
  obtain ⟨⟨successorId, reissued⟩, hreissue, hpost⟩ := hpost
  obtain ⟨hledger, hsame⟩ := reissuePayment_sameAt hreissue
  obtain ⟨hstores, payment, hpayment⟩ : reissued.stores = tables.stores ∧
      ∃ payment, reissued.payments.get? successorId = some payment := by
    rcases (reissuePayment_eq_ok hreissue).2 with
      ⟨rfl, payment, hpayment, -⟩ | ⟨payment, rfl, -, -, rfl⟩
    · exact ⟨rfl, payment, hpayment⟩
    · exact ⟨rfl, payment, by rw [Table.get?_insert, Table.next_update, if_pos rfl]⟩
  dsimp only at hpost
  split at hpost
  · obtain ⟨rfl, rfl⟩ := Prod.mk.inj (Except.ok.inj hpost)
    refine ⟨⟨hledger, hstores, fun key => (hsame key).marked rfl
      (enqueueOrSkipTestModeBypass_sameCredit (ctxMode ctx))⟩,
        enqueueOrSkipTestModeBypass now (ctxMode ctx) payment, ?_⟩
    rw [Table.get?_update, if_pos rfl, hpayment]
    rfl
  · obtain ⟨rfl, rfl⟩ := Prod.mk.inj (Except.ok.inj hpost)
    exact ⟨⟨hledger, hstores, hsame⟩, payment, hpayment⟩

/-- A job of W1 that finds the payment settled or dead writes its attempt and nothing else. -/
theorem testModeBypass_settlesNothing {db : Database} {jobId : String}
    {interruption : Interruption} {handled : Handled}
    (hspares : (findByPublicId db.tables publicId).all fun row => !row.2.status.isOpen)
    (hjob : testModeBypass settings now db publicId jobId interruption = .ok handled) :
    SettlesNothing db.tables handled.db.tables := by
  unfold testModeBypass at hjob
  split at hjob
  · obtain rfl := Except.ok.inj hjob
    exact ⟨rfl, rfl, .of_eq rfl⟩
  next attempted payment hfind =>
  rw [hfind, Option.all_some, Bool.not_eq_true'] at hspares
  dsimp only at hjob hspares
  rw [hspares, if_neg Bool.false_ne_true] at hjob
  simp only [bind_eq_ok, pure_eq_ok] at hjob
  obtain ⟨saved, hsaved, rfl⟩ := hjob
  obtain ⟨left, hleft, hsaved⟩ := saveAttempt_eq_ok hsaved
  obtain rfl := Option.some.inj hleft
  dsimp only
  rw [hsaved]
  have hnoted : ∀ attempt payment, Payment.SameCredit payment (payment.recordAttempt attempt none) ∧
      (payment.recordAttempt attempt none).status = payment.status :=
    fun attempt payment => ⟨⟨rfl, rfl, rfl, .inl rfl, rfl, rfl⟩, rfl⟩
  exact ⟨rfl, rfl, fun key => (SameAt.of_eq rfl key).marked rfl (hnoted _)⟩

end Requests

/-! ## Every step -/

section Steps

variable {settings : Settings} {state : KeyedWorld}

theorem SettlesNothing.keepsOwners {before after : Tables}
    (hnothing : SettlesNothing before after) : before.KeepsOwners after := .of_eq hnothing.stores

theorem KeyedWorld.Spared.wait (hspared : state.Spared) (moment : Instant) :
    (state.wait moment).Spared := ⟨hspared.booked, hspared.tests⟩

/-- A change that books no test payment keeps them out, with whatever payments it made for a
test key. -/
theorem KeyedWorld.Spared.booking (hspared : state.Spared) {world : World} {made : List ℕ}
    {settles reverses : ℕ → Prop} (hbooking : Booking settles reverses state.tables world.db.tables)
    (hkeeps : state.tables.KeepsOwners world.db.tables)
    (htests : ∀ paymentId ∈ state.tested,
      (settles paymentId → state.tables.internalSale paymentId = true) ∧ ¬ reverses paymentId)
    (hmade : ∀ paymentId ∈ made, world.db.tables.Uncounted paymentId) :
    KeyedWorld.Spared ⟨world, made ++ state.tested⟩ := by
  refine ⟨hbooking.booked hspared.booked hkeeps, fun paymentId htested => ?_⟩
  rcases List.mem_append.mp htested with hnew | hold
  · exact hmade paymentId hnew
  · obtain ⟨hsettles, hreverses⟩ := htests paymentId hold
    exact hbooking.uncounted hkeeps hsettles hreverses (hspared.tests paymentId hold)

/-- Neither does a commit that settles nothing. -/
theorem KeyedWorld.Spared.commit (hspared : state.Spared) {moment : Instant} {made : List ℕ}
    {edited : Tables} (hledger : edited.ledger = state.tables.ledger)
    (hsame : ∀ key, SameAt state.tables edited key) (hkeeps : state.tables.KeepsOwners edited)
    (hmade : ∀ paymentId ∈ made, edited.Uncounted paymentId) :
    (state.commit moment made edited).Spared := by
  unfold KeyedWorld.commit
  split
  · exact hspared.wait moment
  next db hcommit =>
    have htables := Tables.commit_eq_ok hcommit
    rw [← htables] at hledger hsame hkeeps hmade
    have hbooking : Booking (fun _ => False) (fun _ => False) state.tables db.tables :=
      .idle hsame hledger
    have hkept : KeyedWorld.Spared ⟨⟨moment, db⟩, made ++ state.tested⟩ :=
      hspared.booking hbooking hkeeps (fun _ _ => ⟨False.elim, id⟩) hmade
    exact hkept

/-- The payment a key made is not settled yet. -/
theorem SettlesNothing.made {edited : Tables} {ctx : AuthContext} {paymentId : ℕ}
    (hnothing : SettlesNothing state.tables edited)
    (hpayment : ∃ payment, edited.payments.get? paymentId = some payment) :
    ∀ madeId ∈ state.made ctx paymentId, edited.Uncounted madeId := by
  intro madeId hmade
  unfold KeyedWorld.made at hmade
  split at hmade
  next hnew =>
    obtain rfl := List.mem_singleton.mp hmade
    obtain ⟨payment, hpayment⟩ := hpayment
    refine (hnothing.payments madeId).uncounted_new hnothing.keepsOwners ?_ hpayment
    rw [hnew.2]
    exact Table.get?_next _
  · cases hmade

theorem KeyedWorld.Spared.step (hspared : state.Spared) {input : ℕ × KeyEvent}
    (hspares : SparesTests state input) : (next (keyedStep settings) state input).Spared := by
  obtain ⟨elapsed, event⟩ := input
  cases event with
  | operate op =>
      change KeyedWorld.Spared
        ⟨next (ChmabaPay.step settings) state.world ⟨elapsed, op⟩, state.tested⟩
      rcases next_step settings state.world ⟨elapsed, op⟩ with
        ⟨failure, hstep⟩ | ⟨response, tables, hperform, hvalid, hstep⟩
      · rw [next, hstep]
        exact ⟨hspared.booked, hspared.tests⟩
      · rw [next, hstep]
        have hbooking := perform_booking hspared.booked state.world.db.valid hperform
        have htests : ∀ paymentId ∈ state.tested,
            (op.settlesPayment state.tables paymentId = true →
              state.tables.internalSale paymentId = true) ∧
              ¬ op.reversesPayment state.tables paymentId = true := by
          intro paymentId htested
          have hleft := List.all_eq_true.mp hspares paymentId htested
          rw [Bool.and_eq_true, Bool.or_eq_true, Bool.not_eq_true', Bool.not_eq_true'] at hleft
          refine ⟨fun hsettles => ?_, fun hreverses => ?_⟩
          · rcases hleft.1 with hnone | hown
            · rw [hsettles] at hnone
              cases hnone
            · exact hown
          · rw [hreverses] at hleft
            cases hleft.2
        have hkept : KeyedWorld.Spared
            ⟨⟨state.world.clock + elapsed, ⟨tables, hvalid⟩⟩, [] ++ state.tested⟩ :=
          hspared.booking hbooking (perform_keepsOwners hperform) htests
            fun _ hnone => by cases hnone
        exact hkept
  | post rail ctx body publicId =>
      unfold next keyedStep
      dsimp only
      split
      · exact hspared.wait _
      next paymentId created hpost =>
        obtain ⟨hnothing, hpayment⟩ := postPayment_settlesNothing hpost
        exact hspared.commit hnothing.ledger hnothing.payments hnothing.keepsOwners
          (hnothing.made hpayment)
  | reissue rail ctx parentPublicId publicId =>
      unfold next keyedStep
      dsimp only
      split
      · exact hspared.wait _
      next paymentId reissued hpost =>
        obtain ⟨hnothing, hpayment⟩ := postReissue_settlesNothing hpost
        exact hspared.commit hnothing.ledger hnothing.payments hnothing.keepsOwners
          (hnothing.made hpayment)
  | testMode publicId jobId interruption =>
      unfold next keyedStep
      dsimp only
      split
      · exact hspared.wait _
      next handled hjob =>
        have hnothing := testModeBypass_settlesNothing hspares hjob
        have hbooking : Booking (fun _ => False) (fun _ => False) state.tables handled.db.tables :=
          .idle hnothing.payments hnothing.ledger
        have hkept : KeyedWorld.Spared
            ⟨⟨state.world.clock + elapsed, handled.db⟩, [] ++ state.tested⟩ :=
          hspared.booking hbooking hnothing.keepsOwners (fun _ _ => ⟨False.elim, id⟩)
            fun _ hnone => by cases hnone
        exact hkept
  | elsewhere commit =>
      exact hspared.commit (commit.ledger _) (commit.payments _) (commit.stores _)
        fun _ hnone => by cases hnone

/-- Nothing was sold yet, with either kind of key. -/
structure KeyedWorld.Fresh (state : KeyedWorld) : Prop where
  initial : Initial state.world
  tested : state.tested = []

theorem KeyedWorld.Fresh.spared (hfresh : state.Fresh) : state.Spared := by
  refine ⟨⟨fun key payment hpayment => ?_, fun value => ?_⟩, fun paymentId htested => ?_⟩
  · rw [KeyedWorld.tables, Initial.get?_eq_none hfresh.initial.payments] at hpayment
    cases hpayment
  · simp [KeyedWorld.tables, Table.total, hfresh.initial.payments, hfresh.initial.ledger]
  · rw [hfresh.tested] at htested
    cases htested

theorem KeyedWorld.Fresh.run (hfresh : state.Fresh) {inputs : List (ℕ × KeyEvent)}
    (halong : Along (keyedStep settings) SparesTests state inputs) :
    (run (keyedStep settings) state inputs).Spared :=
  run_invariant_of_along KeyedWorld.Spared SparesTests (fun _ _ hspared => hspared.step)
    hfresh.spared halong

end Steps

/-! ## What the quota and the ledger read -/

/-- The charge counts against this month's quota. -/
def Charge.isCounted (now : Instant) (charge : Charge) : Bool :=
  decide (charge.status = .paid) &&
    (charge.paidAt.any fun paidAt => decide (monthStart now ≤ paidAt)) && !charge.isInternal

/-- A size, if the moment is one of the month. -/
def sizeIn (month : String) (size : ℤ) (moment : Option Instant) : ℤ :=
  moment.elim 0 fun moment => if periodMonthFor moment = month then size else 0

/-- What the charge adds to a month of the ledger. -/
def Charge.posted (month : String) (size : Charge → ℤ) (charge : Charge) : ℤ :=
  (if charge.status.isSettled && !charge.isInternal then
    sizeIn month (size charge) charge.paidAt else 0) -
  (if charge.status = .reversed then sizeIn month (size charge) charge.reversedAt else 0)

theorem sum_filterMap {α β : Type} (f : α → Option β) (g : β → ℤ) (rows : List α) :
    ((rows.filterMap f).map g).sum = (rows.map fun row => (f row).elim 0 g).sum := by
  induction rows with
  | nil => rfl
  | cons row rows ih =>
      rw [List.filterMap_cons, List.map_cons, List.sum_cons, ← ih]
      cases f row with
      | none => exact (zero_add _).symm
      | some value => rfl

section Sums

variable {state : KeyedWorld} {accountId : ℕ}

/-- A sum over the payments that only live ones of the account enter. -/
theorem KeyedWorld.total_liveCharges {weight : ℕ → Payment → ℤ} {measure : Charge → ℤ}
    (hweight : ∀ paymentId payment, state.tables.payments.get? paymentId = some payment →
      weight paymentId payment = (state.liveCharge accountId paymentId payment).elim 0 measure) :
    state.tables.payments.total weight = ((state.liveCharges accountId).map measure).sum := by
  rw [KeyedWorld.liveCharges, sum_filterMap, Table.total]
  refine congrArg List.sum (List.map_congr_left fun row hrow => ?_)
  exact hweight row.1 row.2 (Table.get?_eq_some_iff.mpr hrow)

/-- How a payment enters such a sum: not at all when it is of a test key or of another account,
and with its charge otherwise. -/
theorem KeyedWorld.Spared.weight_eq (hspared : state.Spared) {weight : Payment → ℤ}
    {measure : Charge → ℤ} {paymentId : ℕ} {payment : Payment}
    (hpayment : state.tables.payments.get? paymentId = some payment)
    (huncounted : ∀ store, state.tables.stores.get? payment.storeId = some store →
      (payment.status.isSettled = true → store.isInternal = true ∧ payment.status ≠ .reversed) →
      weight payment = 0)
    (helsewhere : ∀ store, state.tables.stores.get? payment.storeId = some store →
      store.accountId ≠ accountId → weight payment = 0)
    (hcharge : ∀ store, state.tables.stores.get? payment.storeId = some store →
      store.accountId = accountId → weight payment = measure (payment.charge store)) :
    weight payment = (state.liveCharge accountId paymentId payment).elim 0 measure := by
  unfold KeyedWorld.liveCharge
  split
  next htested =>
    obtain ⟨found, store, hfound, hstore, hsettled⟩ := hspared.tests paymentId htested
    obtain rfl := Option.some.inj (hfound.symm.trans hpayment)
    exact huncounted store hstore hsettled
  · obtain ⟨store, hstore⟩ := hspared.booked.stored paymentId payment hpayment
    rw [hstore]
    by_cases haccount : store.accountId = accountId
    · rw [Option.filter_some, if_pos (decide_eq_true haccount)]
      exact hcharge store hstore haccount
    · rw [Option.filter_some, if_neg (by simpa using haccount)]
      exact helsewhere store hstore haccount

theorem KeyedWorld.Spared.countPaid (hspared : state.Spared) (now : Instant) :
    (countPaidPaymentsThisMonth now state.tables accountId : ℤ) =
      ((state.liveCharges accountId).map fun charge =>
        if charge.isCounted now then 1 else 0).sum := by
  rw [countPaidPaymentsThisMonth, Table.length_select]
  refine KeyedWorld.total_liveCharges fun paymentId payment hpayment => ?_
  let counted (payment : Payment) : Bool := decide (payment.status = .paid) &&
    (payment.paidAt.any fun paidAt => decide (monthStart now ≤ paidAt)) &&
    ((state.tables.stores.get? payment.storeId).any fun store =>
      decide (store.accountId = accountId) && !store.isInternal)
  let weight (payment : Payment) : ℤ := if counted payment then 1 else 0
  have hcounted : ∀ store, state.tables.stores.get? payment.storeId = some store →
      counted payment = (decide (payment.status = .paid) &&
        (payment.paidAt.any fun paidAt => decide (monthStart now ≤ paidAt)) &&
        (decide (store.accountId = accountId) && !store.isInternal)) := by
    intro store hstore
    dsimp only [counted]
    rw [hstore, Option.any_some]
  have hzero : counted payment = false → weight payment = 0 := fun hnone => by
    dsimp only [weight]
    rw [hnone]
    rfl
  have hweight : weight payment = (state.liveCharge accountId paymentId payment).elim 0
      fun charge => if charge.isCounted now then 1 else 0 := by
    refine hspared.weight_eq hpayment (fun store hstore hsettled => hzero ?_)
      (fun store hstore haccount => hzero ?_) fun store hstore haccount => ?_
    · rw [hcounted store hstore]
      by_cases hpaid : payment.status = .paid
      · have hinternal := (hsettled (by rw [hpaid]; rfl)).1
        rw [hinternal, Bool.not_true, Bool.and_false, Bool.and_false]
      · rw [decide_eq_false hpaid, Bool.false_and, Bool.false_and]
    · rw [hcounted store hstore, decide_eq_false haccount, Bool.false_and, Bool.and_false]
    · dsimp only [weight]
      rw [hcounted store hstore, decide_eq_true haccount, Bool.true_and]
      rfl
  exact hweight

/-- A measure of the ledger that tells the months and the accounts apart. -/
def LedgerColumn.usage (column : LedgerColumn) (accountId : ℕ) (month : String)
    (entry : PlanLedgerEntry) : ℤ :=
  if entry.accountId = accountId ∧ entry.periodMonth = month then column.entry entry else 0

theorem LedgerColumn.usage_ledgerEntry (column : LedgerColumn) (month : String) (moment : Instant)
    (payment : Payment) (reversal : Bool) :
    column.usage accountId month (ledgerEntry moment accountId payment reversal) =
      if periodMonthFor moment = month then
        column.entry (ledgerEntry moment accountId payment reversal)
      else 0 := by
  unfold LedgerColumn.usage
  refine if_congr ?_ rfl rfl
  exact and_iff_right rfl

/-- The postings of a payment, by month. -/
theorem Payment.usage_entries {column : LedgerColumn} (hmeasures : column.Measures)
    {size : Charge → ℤ} {payment : Payment} {store : Store}
    (hsize : column.payment payment = size (payment.charge store))
    (haccount : store.accountId = accountId) (month : String) :
    ((payment.entries store).map (column.usage accountId month)).sum =
      (payment.charge store).posted month size := by
  have hcredit : ∀ moment : Option Instant,
      ((moment.toList.map fun moment => ledgerEntry moment accountId payment false).map
        (column.usage accountId month)).sum =
          sizeIn month (size (payment.charge store)) moment := by
    intro moment
    cases moment with
    | none => rfl
    | some moment =>
        rw [Option.toList_some, List.map_singleton, List.map_singleton, List.sum_singleton,
          LedgerColumn.usage_ledgerEntry, hmeasures.credit, hsize]
        rfl
  have hreversal : ∀ moment : Option Instant,
      ((moment.toList.map fun moment => ledgerEntry moment accountId payment true).map
        (column.usage accountId month)).sum =
          -sizeIn month (size (payment.charge store)) moment := by
    intro moment
    cases moment with
    | none => rfl
    | some moment =>
        rw [Option.toList_some, List.map_singleton, List.map_singleton, List.sum_singleton,
          LedgerColumn.usage_ledgerEntry, hmeasures.reversal, hsize, sizeIn, Option.elim_some]
        split
        · rfl
        · rfl
  have hstatus : (payment.charge store).status = payment.status := rfl
  have hinternal : (payment.charge store).isInternal = store.isInternal := rfl
  rw [Payment.entries, haccount, List.map_append, List.sum_append, Charge.posted, sub_eq_add_neg,
    hstatus, hinternal]
  congr 1
  · split
    · exact hcredit payment.paidAt
    · rfl
  · split
    · exact hreversal payment.reversedAt
    · rfl

theorem Payment.entries_elsewhere {payment : Payment} {store : Store}
    (haccount : store.accountId ≠ accountId) (column : LedgerColumn) (month : String) :
    ((payment.entries store).map (column.usage accountId month)).sum = 0 := by
  refine List.sum_eq_zero fun usage husage => ?_
  obtain ⟨entry, hentry, rfl⟩ := List.mem_map.mp husage
  have howner : entry.accountId = store.accountId := by
    rcases List.mem_append.mp hentry with hcredit | hreversal
    · split at hcredit
      · obtain ⟨moment, -, rfl⟩ := List.mem_map.mp hcredit
        rfl
      · cases hcredit
    · split at hreversal
      · obtain ⟨moment, -, rfl⟩ := List.mem_map.mp hreversal
        rfl
      · cases hreversal
  rw [LedgerColumn.usage, if_neg]
  rintro ⟨hsame, -⟩
  exact haccount (howner.symm.trans hsame)

theorem Payment.entries_of_uncounted {payment : Payment} {store : Store}
    (huncounted : payment.status.isSettled = true →
      store.isInternal = true ∧ payment.status ≠ .reversed) : payment.entries store = [] := by
  cases hsettled : payment.status.isSettled with
  | false => exact Payment.entries_of_unsettled hsettled store
  | true =>
      obtain ⟨hinternal, hkept⟩ := huncounted hsettled
      rw [Payment.entries, hinternal, Bool.not_true, Bool.and_false, if_neg Bool.false_ne_true,
        if_neg hkept, List.nil_append]

theorem KeyedWorld.Spared.usage (hspared : state.Spared) {column : LedgerColumn}
    (hmeasures : column.Measures) {size : Charge → ℤ}
    (hsize : ∀ (payment : Payment) store, column.payment payment = size (payment.charge store))
    (month : String) :
    state.tables.ledger.total (fun _ entry => column.usage accountId month entry) =
      ((state.liveCharges accountId).map (Charge.posted month size)).sum := by
  rw [hspared.booked.posted]
  refine KeyedWorld.total_liveCharges fun paymentId payment hpayment => ?_
  refine hspared.weight_eq hpayment (fun store hstore hsettled => ?_)
    (fun store hstore haccount => ?_) fun store hstore haccount => ?_
  · rw [Tables.posted_of_store hstore, Payment.entries_of_uncounted hsettled]
    rfl
  · rw [Tables.posted_of_store hstore]
    exact Payment.entries_elsewhere haccount column month
  · rw [Tables.posted_of_store hstore]
    exact Payment.usage_entries hmeasures (hsize payment store) haccount month

theorem KeyedWorld.Spared.periodUsage (hspared : state.Spared) (month : String) :
    periodUsage state.tables accountId month =
      (((state.liveCharges accountId).map (Charge.posted month fun _ => 1)).sum,
        ((state.liveCharges accountId).map (Charge.posted month Charge.amountCents)).sum) := by
  have hselect : ∀ column : LedgerColumn,
      ((state.tables.ledger.select fun _ entry => decide (entry.accountId = accountId) &&
        decide (entry.periodMonth = month)).map fun row => column.entry row.2).sum =
        state.tables.ledger.total fun _ entry => column.usage accountId month entry := by
    intro column
    rw [Table.sum_select state.tables.ledger _ fun _ entry => column.entry entry]
    simp only [LedgerColumn.usage, Bool.and_eq_true, decide_eq_true_eq]
  have hcount : state.tables.ledger.total
      (fun _ entry => LedgerColumn.count.usage accountId month entry) =
        ((state.liveCharges accountId).map (Charge.posted month fun _ => 1)).sum :=
    hspared.usage LedgerColumn.measures_count (fun _ _ => rfl) month
  have hvolume : state.tables.ledger.total
      (fun _ entry => LedgerColumn.volume.usage accountId month entry) =
        ((state.liveCharges accountId).map (Charge.posted month Charge.amountCents)).sum :=
    hspared.usage LedgerColumn.measures_volume (fun _ _ => rfl) month
  exact Prod.ext ((hselect .count).trans hcount) ((hselect .volume).trans hvolume)

end Sums

/-! ## Plans -/

theorem oneOrNone_perm {β : Type} {rows others : List β} (hperm : rows.Perm others) :
    oneOrNone rows = oneOrNone others := by
  rcases rows with _ | ⟨row, _ | ⟨second, rest⟩⟩
  · rw [hperm.nil_eq]
  · rw [hperm.singleton_eq]
  · rcases others with _ | ⟨other, _ | ⟨_, _⟩⟩
    · cases hperm.eq_nil
    · cases hperm.eq_singleton
    · rfl

theorem livePlans_planTerms (state : KeyedWorld) (accountId : ℕ) :
    livePlans state.tables accountId = ((state.planTerms accountId).filter fun terms =>
      decide (terms.1 = .trial) || decide (terms.1 = .active)).map fun terms => terms.2.2 := by
  rw [livePlans, KeyedWorld.planTerms, List.filter_map, List.map_map, List.filter_filter]
  refine congrArg (List.map _) (List.filter_congr fun row _ => ?_)
  rw [Bool.and_comm]
  rfl

theorem downgradedThisMonth_planTerms (now : Instant) (state : KeyedWorld) (accountId : ℕ) :
    downgradedThisMonth now state.tables accountId = (state.planTerms accountId).any fun terms =>
      decide (terms.1 = .canceled) && decide (0 < terms.2.2.monthlyFeeCents) &&
        terms.2.1.any fun canceledAt => decide (monthStart now ≤ canceledAt) := by
  rw [downgradedThisMonth, KeyedWorld.planTerms, List.any_map, List.any_filter]
  refine congrArg (List.any _) (funext fun row => ?_)
  simp only [Bool.and_assoc, Function.comp_apply]

/-- What a live request is told depends on the plans of the account and on what counts. -/
theorem checkPlanQuota_congr {first second : KeyedWorld} {accountId : ℕ} {now : Instant}
    (hplans : (first.planTerms accountId).Perm (second.planTerms accountId))
    (hcount : countPaidPaymentsThisMonth now first.tables accountId =
      countPaidPaymentsThisMonth now second.tables accountId) :
    checkPlanQuota now first.tables accountId "live" =
      checkPlanQuota now second.tables accountId "live" := by
  have hlive : oneOrNone (livePlans first.tables accountId) =
      oneOrNone (livePlans second.tables accountId) := by
    rw [livePlans_planTerms, livePlans_planTerms]
    exact oneOrNone_perm ((hplans.filter _).map _)
  have hdowngraded : downgradedThisMonth now first.tables accountId =
      downgradedThisMonth now second.tables accountId := by
    rw [downgradedThisMonth_planTerms, downgradedThisMonth_planTerms]
    exact hplans.any_eq
  unfold checkPlanQuota
  rw [hlive, hdowngraded, hcount]

/-! ## Two runs -/

/-- Two runs in which no payment of a test key is settled in a merchant store or given back,
with the same live payments and the same plans of an account, agree on its quota and on its
usage. -/
theorem tests_do_not_count {settings : Settings} {first second : KeyedWorld}
    (hfirst : first.Fresh) (hsecond : second.Fresh) {inputs inputs' : List (ℕ × KeyEvent)}
    (halong : Along (keyedStep settings) SparesTests first inputs)
    (halong' : Along (keyedStep settings) SparesTests second inputs') {accountId : ℕ}
    (hcharges : ((run (keyedStep settings) first inputs).liveCharges accountId).Perm
      ((run (keyedStep settings) second inputs').liveCharges accountId))
    (hplans : ((run (keyedStep settings) first inputs).planTerms accountId).Perm
      ((run (keyedStep settings) second inputs').planTerms accountId)) (now : Instant) :
    checkPlanQuota now (run (keyedStep settings) first inputs).tables accountId "live" =
        checkPlanQuota now (run (keyedStep settings) second inputs').tables accountId "live" ∧
      ∀ month, periodUsage (run (keyedStep settings) first inputs).tables accountId month =
        periodUsage (run (keyedStep settings) second inputs').tables accountId month := by
  have hspared := hfirst.run halong
  have hspared' := hsecond.run halong'
  refine ⟨checkPlanQuota_congr hplans ?_, fun month => ?_⟩
  · refine Int.ofNat.inj ((hspared.countPaid now).trans (Eq.trans ?_ (hspared'.countPaid now).symm))
    exact (hcharges.map _).sum_eq
  · rw [hspared.periodUsage, hspared'.periodUsage, (hcharges.map _).sum_eq, (hcharges.map _).sum_eq]

namespace Specimen

/-- The free plan allows one payment a month. -/
def meteredWorld : KeyedWorld where
  world := ⟨0, { tables with plans := .ofList [{ plan "free" 0 with basePaymentsIncluded := 1 }] },
    by decide⟩
  tested := []

theorem meteredWorld_fresh : meteredWorld.Fresh := ⟨⟨rfl, rfl, rfl, rfl, rfl⟩, rfl⟩

/-- An operator puts the shop on the free plan. -/
def subscribe : ℕ × KeyEvent := (1000000, .operate (.assignAccountPlan 0 1 "free" "signup"))

/-- `{"amount": 5}` -/
def fiveDollarBody : PaymentCreate where
  amount := statedFive
  accepted := statedFive_accepted

/-- The shop asks for a payment with a key of this mode. -/
def ask (mode publicId : String) : ℕ × KeyEvent :=
  (1000000, .post rail ⟨1, some mode⟩ fiveDollarBody publicId)

def settleTest (publicId : String) : ℕ × KeyEvent := (5000000, .testMode publicId "job_1" {})

def settleLive (publicId : String) : ℕ × KeyEvent :=
  (1000000, .operate (.markPaid publicId credit))

/-- One live payment is settled, and a test payment is asked for. -/
def soldBeside : List (ℕ × KeyEvent) :=
  [subscribe, ask "test" "pay_1", ask "live" "pay_2", settleLive "pay_2"]

/-- The same live payment at the same moment, after the shop's status is set again. -/
def soldAlone : List (ℕ × KeyEvent) :=
  [subscribe, (1000000, .elsewhere (.storeStatus 1 .active)), ask "live" "pay_2",
    settleLive "pay_2"]

def keyedRun (inputs : List (ℕ × KeyEvent)) : KeyedWorld := run (keyedStep {}) meteredWorld inputs

end Specimen

section

open Specimen

instance (state : KeyedWorld) (input : ℕ × KeyEvent) : Decidable (SparesTests state input) :=
  inferInstanceAs (Decidable (_ = true))

theorem tests_do_not_count_unsettled :
    Along (keyedStep {}) SparesTests meteredWorld soldBeside ∧
      (keyedRun soldBeside).tested = [0] ∧
      periodUsage (keyedRun soldBeside).tables 1 "1970-01" = (1, 500) ∧
      checkPlanQuota 0 (keyedRun soldBeside).tables 1 "live" =
        checkPlanQuota 0 (keyedRun soldAlone).tables 1 "live" := by
  have halong : Along (keyedStep {}) SparesTests meteredWorld soldBeside := by decide +kernel
  have halong' : Along (keyedStep {}) SparesTests meteredWorld soldAlone := by decide +kernel
  have hcharges : ((keyedRun soldBeside).liveCharges 1).Perm
      ((keyedRun soldAlone).liveCharges 1) := by
    decide +kernel
  have hplans : ((keyedRun soldBeside).planTerms 1).Perm ((keyedRun soldAlone).planTerms 1) := by
    decide +kernel
  refine ⟨halong, by decide +kernel, by decide +kernel, ?_⟩
  exact (tests_do_not_count meteredWorld_fresh meteredWorld_fresh halong halong' hcharges
    hplans 0).1

/-- A test payment that W1 settles uses up the month's only payment. -/
theorem tests_count :
    (keyedRun [subscribe]).liveCharges 1 =
        (keyedRun [subscribe, ask "test" "pay_1", settleTest "pay_1"]).liveCharges 1 ∧
      (keyedRun [subscribe]).planTerms 1 =
        (keyedRun [subscribe, ask "test" "pay_1", settleTest "pay_1"]).planTerms 1 ∧
      checkPlanQuota 0 (keyedRun [subscribe]).tables 1 "live" = .ok () ∧
      checkPlanQuota 0 (keyedRun [subscribe, ask "test" "pay_1", settleTest "pay_1"]).tables 1
        "live" = .error (.http 402 "quota_exceeded") ∧
      periodUsage (keyedRun [subscribe]).tables 1 "1970-01" = (0, 0) ∧
      periodUsage (keyedRun [subscribe, ask "test" "pay_1", settleTest "pay_1"]).tables 1
        "1970-01" = (1, 500) := by
  refine ⟨?_, ?_, ?_, ?_, ?_, ?_⟩ <;> decide +kernel

end

end ChmabaPay
