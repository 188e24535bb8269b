import ChmabaPay.Detection.Promotion
import ChmabaPay.Minting
import ChmabaPay.Payments.Successors

/-! # Requests that are sent again

A payment stays under its store and its idempotency key whatever happens to it. A request
that is sent again is resolved and metered anew, and its store and link are checked anew,
before the payment under the key is looked for.
-/

namespace ChmabaPay

open Calendar Relational Execution Fallible

/-! ## What happens in between -/

/-- Something that happens to the platform: an operation, a purge or a call on a store, a
payment asked for, a job of W1, or any other commit, which leaves payments alone. -/
inductive AccountEvent where
  | chore (chore : Chore)
  | post (rail : Rail) (ctx : AuthContext) (body : PaymentCreate) (publicId : String)
  | detect (printing : Printing) (calls : RailCalls) (interruption : Interruption)
      (job : DetectionJob)
  | testMode (publicId jobId : String) (interruption : Interruption)
  | elsewhere (edit : Tables → Tables)

/-- The world after an event, some microseconds after the previous one. -/
def eventStep (settings : Settings) (world : World) (input : ℕ × AccountEvent) : World × Unit :=
  let moment := world.clock + input.1
  match input.2 with
  | .chore chore => (next (choreStep settings) world (input.1, chore), ())
  | .post rail ctx body publicId =>
      match postPayment settings rail moment world.db.tables ctx body publicId with
      | .error _ => ({ world with clock := moment }, ())
      | .ok (paymentId, tables) => ((conclude world moment tables (.payment paymentId)).1, ())
  | .detect printing calls interruption job =>
      match processOne settings printing moment world.db calls interruption job with
      | .error _ => ({ world with clock := moment }, ())
      | .ok handled => ({ clock := moment, db := handled.db }, ())
  | .testMode publicId jobId interruption =>
      match testModeBypass settings moment world.db publicId jobId interruption with
      | .error _ => ({ world with clock := moment }, ())
      | .ok handled => ({ clock := moment, db := handled.db }, ())
  | .elsewhere edit =>
      let tables := { edit world.db.tables with payments := world.db.tables.payments }
      ((conclude world moment tables .done).1, ())

/-! ## A payment under its key -/

/-- The payment is one of the store, under the key. -/
def Keyed (paymentId storeId : ℕ) (key : String) (tables : Tables) : Prop :=
  ∃ payment, tables.payments.get? paymentId = some payment ∧ payment.storeId = storeId ∧
    payment.idempotencyKey = some key

section Settlement

variable {settings : Settings} {now : Instant} {tables : Tables} {paymentId : ℕ}
  {payment : Payment} {credit : Credit} {ledgerFails : Bool}

/-- What a settlement keeps: a property of payments that survives the assignment to the row
and the retirement of replacements. -/
theorem settlePaymentWalk_keeps {property : Tables → Prop} (hreads : ReadsPayments property)
    (hassigned : property { tables with
      payments := tables.payments.update paymentId fun _ =>
        payment.settle now credit.bakongRef credit.gatewayRaw })
    (hretired : ∀ state key, property state → property { state with
      payments := state.payments.update key fun row => { row with status := .superseded } }) :
    ∀ state ∈ (settlePaymentWalk settings now paymentId payment credit ledgerFails tables).states,
      property state := by
  unfold settlePaymentWalk
  cases hstore : tables.stores.get? payment.storeId with
  | none =>
      intro state hstate
      rw [Walk.states_andThen rfl] at hstate
      rcases List.mem_append.mp hstate with hfirst | hnone
      · rw [List.mem_singleton.mp hfirst]
        exact hassigned
      · cases hnone
  | some store =>
      have hretires : Walk.Keeps property (retireSuccessorsWalk now paymentId store) := by
        refine ⟨fun start hstart => ?_⟩
        unfold retireSuccessorsWalk
        refine (Walk.Keeps.each fun successor _ => ?_).states start hstart
        exact .andThen (.step fun state hstate => hretired state successor.1 hstate)
          (eventWalk_frame hreads now _ _ store _)
      have hlater : Walk.Keeps property
          (Walk.andThen (ledgerWalk now store
              (payment.settle now credit.bakongRef credit.gatewayRaw) ledgerFails)
            (Walk.andThen (settleInvoiceForPaymentWalk settings now paymentId now)
              (retireSuccessorsWalk now paymentId store))) :=
        (ledgerWalk_keeps hreads.readsSales now store _ ledgerFails).andThen
          ((settleInvoiceForPaymentWalk_keeps hreads.readsSales settings now now paymentId).andThen
            hretires)
      have hsettles : ∀ state ∈ (settlementWalk settings now paymentId payment credit ledgerFails
          store tables).states, property state := by
        intro state hstate
        rw [settlementWalk, Walk.states_andThen rfl] at hstate
        rcases List.mem_append.mp hstate with hfirst | hrest
        · rw [List.mem_singleton.mp hfirst]
          exact hassigned
        · exact hlater.states _ hassigned state hrest
      dsimp only
      cases hfinished : (settlementWalk settings now paymentId payment credit ledgerFails store
          tables).finished with
      | false =>
          rw [Walk.andThen_of_not_finished hfinished]
          exact hsettles
      | true =>
          have hsteps := settlementWalk_steps settings now paymentId payment credit ledgerFails
            store tables
          have hlast := hsettles _ (Walk.last_mem_states hsteps tables)
          intro state hstate
          rw [Walk.states_andThen hfinished] at hstate
          rcases List.mem_append.mp hstate with hearly | hevent
          · exact hsettles state hearly
          · exact (eventWalk_frame hreads now paymentId _ store .completed).states _ hlast state
              hevent

end Settlement

section Keeping

variable {settings : Settings} {printing : Printing} {now : Instant} {tables left : Tables}
  {db : Database} {world : World} {paymentId storeId : ℕ} {key : String}

theorem readsPayments_keyed : ReadsPayments (Keyed paymentId storeId key) := by
  rintro state state' hpayments ⟨payment, hget, howns⟩
  exact ⟨payment, hpayments ▸ hget, howns⟩

/-- An edit that does not touch the store and the key of a row. -/
theorem Keyed.update (hkeyed : Keyed paymentId storeId key tables) (edited : ℕ)
    (change : Payment → Payment) (hpayments : left.payments = tables.payments.update edited change)
    (hchange : ∀ payment, tables.payments.get? edited = some payment →
      (change payment).storeId = payment.storeId ∧
        (change payment).idempotencyKey = payment.idempotencyKey) :
    Keyed paymentId storeId key left := by
  obtain ⟨payment, hget, hstore, hkey⟩ := hkeyed
  by_cases hself : paymentId = edited
  · subst hself
    obtain ⟨hsameStore, hsameKey⟩ := hchange payment hget
    refine ⟨change payment, ?_, hsameStore.trans hstore, hsameKey.trans hkey⟩
    rw [hpayments, Table.get?_update, if_pos rfl, hget]
    rfl
  · refine ⟨payment, ?_, hstore, hkey⟩
    rw [hpayments, Table.get?_update, if_neg hself, hget]

theorem Keyed.insert (hkeyed : Keyed paymentId storeId key tables) {payment : Payment}
    (hpayments : left.payments = tables.payments.insert payment) :
    Keyed paymentId storeId key left := by
  obtain ⟨row, hget, howns⟩ := hkeyed
  refine ⟨row, ?_, howns⟩
  rw [hpayments, Table.get?_insert, if_neg (Table.lt_next hget).ne, hget]

/-- A session that called `mark_paid` still has the payment under its key. -/
theorem Keyed.callMarkPaid (hkeyed : Keyed paymentId storeId key tables) {publicId : String}
    {interruption : Interruption} {credit : Credit}
    (hsession : (callMarkPaid settings now tables publicId interruption credit).session =
      some left) : Keyed paymentId storeId key left := by
  cases hfind : findByPublicId tables publicId with
  | none =>
      simp only [ChmabaPay.callMarkPaid, hfind] at hsession
      rw [← Option.some.inj hsession]
      exact hkeyed
  | some found =>
      obtain ⟨settledId, payment⟩ := found
      obtain ⟨hget, hsame⟩ := Table.find?_eq_some hfind
      obtain rfl : payment.publicId = publicId := of_decide_eq_true hsame
      cases hopen : payment.status.isTerminal with
      | true =>
          simp only [ChmabaPay.callMarkPaid, hfind, hopen, if_true] at hsession
          rw [← Option.some.inj hsession]
          exact hkeyed
      | false =>
          have hassigned : Keyed paymentId storeId key { tables with
              payments := tables.payments.update settledId fun _ =>
                payment.settle now credit.bakongRef credit.gatewayRaw } := by
            let settled := payment.settle now credit.bakongRef credit.gatewayRaw
            refine hkeyed.update settledId (fun _ => settled) rfl fun row hrow => ?_
            obtain rfl := Option.some.inj (hget.symm.trans hrow)
            exact ⟨rfl, rfl⟩
          have hretired : ∀ state retired, Keyed paymentId storeId key state →
              Keyed paymentId storeId key { state with
                payments := state.payments.update retired fun row =>
                  { row with status := .superseded } } := by
            intro state retired hstate
            exact hstate.update retired (fun row => { row with status := .superseded }) rfl
              fun _ _ => ⟨rfl, rfl⟩
          have hstates : ∀ state ∈ (settlePaymentWalk settings now settledId payment credit
              interruption.ledgerFails tables).states, Keyed paymentId storeId key state :=
            settlePaymentWalk_keeps readsPayments_keyed hassigned hretired
          rw [callMarkPaid_session hfind hopen hsession]
          rcases Walk.reached_cases _ tables (interruption.fault.map Fault.steps)
            (List.nil_append _).symm with ⟨-, hreached⟩ | ⟨-, -, hreached⟩ | ⟨-, hreached⟩
          · rw [hreached]
            exact hkeyed
          · cases hreached
          · exact hstates _ hreached

theorem Keyed.saveAttempt {session : Option Tables} {attempted : ℕ} {attempt : Attempt}
    {closedAt : Option Instant} {saved : Database}
    (hsession : ∀ left, session = some left → Keyed paymentId storeId key left)
    (hsave : saveAttempt session attempted attempt closedAt = .ok saved) :
    Keyed paymentId storeId key saved.tables := by
  obtain ⟨left, hleft, htables⟩ := saveAttempt_eq_ok hsave
  rw [htables]
  exact (hsession left hleft).update attempted (Payment.recordAttempt attempt closedAt) rfl
    fun _ _ => ⟨rfl, rfl⟩

/-- A job of W1 keeps the payment under its key. -/
theorem Keyed.processOne (hkeyed : Keyed paymentId storeId key db.tables) {calls : RailCalls}
    {interruption : Interruption} {job : DetectionJob} {handled : Handled}
    (hjob : processOne settings printing now db calls interruption job = .ok handled) :
    Keyed paymentId storeId key handled.db.tables := by
  unfold ChmabaPay.processOne at hjob
  split at hjob
  · obtain rfl := Except.ok.inj hjob
    exact hkeyed
  next attempted payment hfind =>
  split at hjob
  · obtain rfl := Except.ok.inj hjob
    exact hkeyed
  split at hjob
  · obtain rfl := Except.ok.inj hjob
    exact hkeyed
  cases hanswer : reconcilePayment printing payment calls {}
      (sessionMarkPaid settings now db.tables payment.publicId interruption) with
  | mk result call =>
    have hsession : ∀ left, sessionAfter db.tables call = some left →
        Keyed paymentId storeId key left := by
      intro left hleft
      rcases reconcilePayment_call hanswer with rfl | ⟨credit, rfl⟩
      · obtain rfl := Option.some.inj hleft
        exact hkeyed
      · exact hkeyed.callMarkPaid hleft
    rw [hanswer] at hjob
    dsimp only at hjob
    split at hjob
    · simp only [bind_eq_ok, pure_eq_ok] at hjob
      obtain ⟨saved, hsaved, rfl⟩ := hjob
      exact .saveAttempt hsession hsaved
    · simp only [bind_eq_ok, pure_eq_ok] at hjob
      obtain ⟨saved, hsaved, rfl⟩ := hjob
      exact .saveAttempt hsession hsaved

/-- What a call commits is what its session holds then. -/
theorem callMarkPaid_committed {publicId : String} {interruption : Interruption}
    {credit : Credit} {settled : Database}
    (hcommitted : (callMarkPaid settings now tables publicId interruption credit).committed =
      some settled) :
    (callMarkPaid settings now tables publicId interruption credit).session =
      some settled.tables := by
  unfold callMarkPaid at hcommitted ⊢
  split at hcommitted
  · cases hcommitted
  next attempted payment hfind =>
    split at hcommitted
    · cases hcommitted
    next hopen =>
      rw [if_neg hopen]
      dsimp only at hcommitted ⊢
      split at hcommitted
      · cases hcommitted
      · cases hcommitted
      · split at hcommitted
        · cases hcommitted
        · rw [Option.some.inj hcommitted]

/-- So does a settlement in test mode. -/
theorem Keyed.testModeBypass (hkeyed : Keyed paymentId storeId key db.tables)
    {publicId jobId : String} {interruption : Interruption} {handled : Handled}
    (hjob : testModeBypass settings now db publicId jobId interruption = .ok handled) :
    Keyed paymentId storeId key handled.db.tables := by
  unfold ChmabaPay.testModeBypass at hjob
  split at hjob
  · obtain rfl := Except.ok.inj hjob
    exact hkeyed
  next attempted payment hfind =>
  dsimp only at hjob
  split at hjob
  · split at hjob
    next message houtcome =>
      obtain rfl := Except.ok.inj hjob
      generalize hcommitted : MarkPaidCall.committed _ = committed
      cases committed with
      | none => exact hkeyed
      | some settled => exact hkeyed.callMarkPaid (callMarkPaid_committed hcommitted)
    next =>
      simp only [bind_eq_ok, pure_eq_ok] at hjob
      obtain ⟨saved, hsaved, rfl⟩ := hjob
      exact .saveAttempt (fun left hleft => hkeyed.callMarkPaid hleft) hsaved
  · simp only [bind_eq_ok, pure_eq_ok] at hjob
    obtain ⟨saved, hsaved, rfl⟩ := hjob
    refine .saveAttempt (fun left hleft => ?_) hsaved
    rw [← Option.some.inj hleft]
    exact hkeyed

end Keeping

/-! ## The checks in front of the key -/

section Checks

variable {settings : Settings} {rail : Rail} {now : Instant} {tables tables' : Tables}
  {ctx : AuthContext} {body : PaymentCreate} {publicId : String} {storeId paymentId : ℕ}
  {store : Store}

theorem openSale_eq_ok_iff {request : PaymentRequest} {linkId : ℕ} {link : PaymentLink} :
    openSale tables storeId store request = .ok (linkId, link) ↔
      store.status ≠ .disabled ∧ store.billingSuspendedAt = none ∧
        (store.isInternal = true ∨ isSynthetic request.referenceId request.metadata = false) ∧
        loadActiveLink tables storeId request.currency = .ok (linkId, link) ∧
        (link.currency = .khr → request.amountCents % 100 = 0) := by
  have husable : refuseUnusableStore store = .ok () ↔
      store.status ≠ .disabled ∧ store.billingSuspendedAt = none := by
    unfold refuseUnusableStore
    by_cases hdisabled : store.status = .disabled
    · simp [hdisabled]
    · cases store.billingSuspendedAt <;> simp [hdisabled]
  have hgenuine : refuseSyntheticOnMerchantStore store request.referenceId request.metadata =
      .ok () ↔
        store.isInternal = true ∨ isSynthetic request.referenceId request.metadata = false := by
    unfold refuseSyntheticOnMerchantStore
    cases store.isInternal <;> cases isSynthetic request.referenceId request.metadata <;> simp
  unfold openSale
  simp only [bind_eq_ok]
  constructor
  · rintro ⟨_, hstore, _, hsynthetic, ⟨foundId, found⟩, hload, hrest⟩
    split at hrest
    · cases hrest
    next hwhole =>
      simp only [pure_eq_ok, Prod.mk.injEq] at hrest
      obtain ⟨rfl, rfl⟩ := hrest
      obtain ⟨hactive, hheld⟩ := husable.mp hstore
      exact ⟨hactive, hheld, hgenuine.mp hsynthetic, hload, by simpa using hwhole⟩
  · rintro ⟨hactive, hheld, hsynthetic, hload, hwhole⟩
    refine ⟨(), husable.mpr ⟨hactive, hheld⟩, (), hgenuine.mpr hsynthetic, (linkId, link), hload,
      ?_⟩
    rw [if_neg (by simpa using hwhole)]
    rfl

theorem meterPayment_eq_ok_iff :
    meterPayment now tables ctx store = .ok () ↔
      store.isInternal = true ∨ checkPlanQuota now tables ctx.accountId (ctxMode ctx) = .ok () := by
  unfold meterPayment
  cases store.isInternal <;> simp

theorem admitPayment_eq_ok_iff :
    admitPayment settings now tables ctx body = .ok (storeId, store) ↔
      resolveTarget tables ctx.accountId body.store body.merchant = .ok (storeId, store) ∧
        refuseUnconfirmable settings (ctxMode ctx) body.hostedQr = .ok () ∧
        meterPayment now tables ctx store = .ok () := by
  unfold admitPayment
  simp only [bind_eq_ok, pure_eq_ok]
  constructor
  · rintro ⟨target, htarget, _, hconfirmable, _, hmetered, rfl⟩
    exact ⟨htarget, hconfirmable, hmetered⟩
  · rintro ⟨htarget, hconfirmable, hmetered⟩
    exact ⟨_, htarget, (), hconfirmable, (), hmetered, rfl⟩

/-- A request is answered with the payment under its key, or with a new one. -/
theorem createPayment_cases {request : PaymentRequest}
    (hcreate : createPayment settings rail now tables storeId store request publicId =
      .ok (paymentId, tables')) :
    ∃ linkId link, openSale tables storeId store request = .ok (linkId, link) ∧
      ((∃ payment, replayedPayment tables storeId request = some (paymentId, payment) ∧
          tables' = tables) ∨
        (paymentId = tables.payments.next ∧ ∃ payment, tables' = insertPayment tables payment ∧
          payment.storeId = storeId ∧ payment.idempotencyKey = request.idempotencyKey)) := by
  rw [createPayment_eq_parts] at hcreate
  simp only [bind_eq_ok] at hcreate
  obtain ⟨⟨linkId, link⟩, hopen, hcreate⟩ := hcreate
  refine ⟨linkId, link, hopen, ?_⟩
  dsimp only at hcreate
  split at hcreate
  next existing payment hreplayed =>
    simp only [pure_eq_ok, Prod.mk.injEq] at hcreate
    obtain ⟨rfl, rfl⟩ := hcreate
    exact .inl ⟨payment, hreplayed, rfl⟩
  next =>
    simp only [bind_eq_ok, pure_eq_ok, Prod.mk.injEq, mintRequested] at hcreate
    obtain ⟨-, -, payment, ⟨minted, -, rfl⟩, rfl, rfl⟩ := hcreate
    exact .inr ⟨rfl, _, rfl, rfl, rfl⟩

/-- What `POST /payments` comes to when it succeeds. -/
theorem postPayment_cases
    (hpost : postPayment settings rail now tables ctx body publicId = .ok (paymentId, tables')) :
    ∃ storeId store cents linkId link,
      admitPayment settings now tables ctx body = .ok (storeId, store) ∧
      body.cents = .ok cents ∧
      openSale tables storeId store (body.request cents) = .ok (linkId, link) ∧
      ((∃ payment, replayedPayment tables storeId (body.request cents) =
          some (paymentId, payment) ∧ tables' = tables) ∨
        (paymentId = tables.payments.next ∧ ∃ payment, payment.storeId = storeId ∧
          payment.idempotencyKey = body.idempotencyKey ∧
          tables'.payments = (tables.payments.insert payment).update paymentId
            (enqueueOrSkipTestModeBypass now (ctxMode ctx)))) := by
  unfold postPayment at hpost
  split at hpost
  · cases hpost
  next storeId store hadmit =>
  split at hpost
  · cases hpost
  next cents hcents =>
  split at hpost
  · cases hpost
  next createdId created hcreate =>
  obtain ⟨linkId, link, hopen, houtcome⟩ := createPayment_cases hcreate
  refine ⟨storeId, store, cents, linkId, link, hadmit, hcents, hopen, ?_⟩
  rcases houtcome with ⟨payment, hreplayed, rfl⟩ | ⟨rfl, payment, rfl, hstore, hkey⟩
  · have hold : createdId ≠ created.payments.next := by
      obtain ⟨key, -, hfound⟩ := Option.bind_eq_some_iff.mp hreplayed
      exact (Table.lt_next (Table.find?_eq_some hfound).1).ne
    rw [if_neg hold] at hpost
    obtain ⟨rfl, rfl⟩ := Prod.mk.inj (Except.ok.inj hpost)
    exact .inl ⟨payment, hreplayed, rfl⟩
  · rw [if_pos rfl] at hpost
    unfold storePayment at hpost
    split at hpost
    · obtain ⟨rfl, rfl⟩ := Prod.mk.inj (Except.ok.inj hpost)
      exact .inr ⟨rfl, payment, hstore, hkey, rfl⟩
    · cases hpost

end Checks

/-! ## Runs -/

section Runs

variable {settings : Settings} {world : World} {paymentId storeId : ℕ} {key : String}

theorem Keyed.conclude (hkeyed : Keyed paymentId storeId key world.db.tables) {moment : Instant}
    {tables : Tables} {response : Response} (hedited : Keyed paymentId storeId key tables) :
    Keyed paymentId storeId key (conclude world moment tables response).1.db.tables := by
  unfold ChmabaPay.conclude
  split
  · exact hkeyed
  next db hcommit =>
    rw [Tables.commit_eq_ok hcommit]
    exact hedited

theorem Keyed.chore (hkeyed : Keyed paymentId storeId key world.db.tables)
    (input : ℕ × Chore) :
    Keyed paymentId storeId key (next (choreStep settings) world input).db.tables := by
  obtain ⟨elapsed, chore⟩ := input
  cases chore with
  | operate op =>
      change Keyed paymentId storeId key (step settings world ⟨elapsed, op⟩).1.db.tables
      rcases next_step settings world ⟨elapsed, op⟩ with
        ⟨failure, hstep⟩ | ⟨response, tables, hperform, hvalid, hstep⟩
      · rw [hstep]
        exact hkeyed
      · rw [hstep]
        obtain ⟨payment, hget, hstore, hkey⟩ := hkeyed
        obtain ⟨new, hnew, hevolves⟩ := (perform_payments hperform).persists paymentId payment hget
        exact ⟨new, hnew, hevolves.store.trans hstore, hevolves.idempotencyKey.trans hkey⟩
  | purge olderThanDays =>
      obtain ⟨payment, hget, hstore, hkey⟩ := hkeyed
      refine ⟨if 0 < olderThanDays ∧ isPurgeable (world.clock + elapsed) olderThanDays payment =
        true then payment.clearGateway else payment, ?_, ?_, ?_⟩
      · rw [purge_payments, purgeGatewayPayloads_payments, Table.get?_modify, hget]
        rfl
      · split
        · exact hstore
        · exact hstore
      · split
        · exact hkey
        · exact hkey
  | provision request =>
      exact readsPayments_keyed _ _ (provision_payments world elapsed request) hkeyed

theorem Keyed.post (hkeyed : Keyed paymentId storeId key world.db.tables) {rail : Rail}
    {now : Instant} {ctx : AuthContext} {body : PaymentCreate} {publicId : String}
    {postedId : ℕ} {tables : Tables}
    (hpost : postPayment settings rail now world.db.tables ctx body publicId =
      .ok (postedId, tables)) : Keyed paymentId storeId key tables := by
  obtain ⟨_, _, _, _, _, -, -, -, ⟨_, -, rfl⟩ | ⟨-, payment, -, -, hpayments⟩⟩ :=
    postPayment_cases hpost
  · exact hkeyed
  · have hinserted : Keyed paymentId storeId key (insertPayment world.db.tables payment) :=
      hkeyed.insert rfl
    refine hinserted.update postedId _ hpayments fun row _ => ?_
    unfold enqueueOrSkipTestModeBypass
    split
    · exact ⟨rfl, rfl⟩
    · exact ⟨rfl, rfl⟩

/-- Every event keeps the payment under its store and its key. -/
theorem Keyed.eventStep (hkeyed : Keyed paymentId storeId key world.db.tables)
    (input : ℕ × AccountEvent) :
    Keyed paymentId storeId key (next (eventStep settings) world input).db.tables := by
  obtain ⟨elapsed, event⟩ := input
  cases event with
  | chore chore => exact hkeyed.chore (elapsed, chore)
  | post rail ctx body publicId =>
      unfold next ChmabaPay.eventStep
      dsimp only
      split
      · exact hkeyed
      next postedId tables hpost => exact hkeyed.conclude (hkeyed.post hpost)
  | detect printing calls interruption job =>
      unfold next ChmabaPay.eventStep
      dsimp only
      split
      · exact hkeyed
      next handled hjob => exact hkeyed.processOne hjob
  | testMode publicId jobId interruption =>
      unfold next ChmabaPay.eventStep
      dsimp only
      split
      · exact hkeyed
      next handled hjob => exact hkeyed.testModeBypass hjob
  | elsewhere edit =>
      unfold next ChmabaPay.eventStep
      dsimp only
      exact hkeyed.conclude (readsPayments_keyed world.db.tables _ rfl hkeyed)

theorem Keyed.run (hkeyed : Keyed paymentId storeId key world.db.tables)
    (inputs : List (ℕ × AccountEvent)) :
    Keyed paymentId storeId key
      (Execution.run (ChmabaPay.eventStep settings) world inputs).db.tables := by
  induction inputs generalizing world with
  | nil => exact hkeyed
  | cons input rest ih => exact ih (hkeyed.eventStep input)

end Runs

/-! ## A request sent again -/

/-- The request still resolves to the store of the payment, is within the quota, and finds
the store and a link of its currency in use. -/
def Replayable (now : Instant) (tables : Tables) (ctx : AuthContext) (body : PaymentCreate)
    (paymentId : ℕ) : Prop :=
  ∃ payment store linkId link, tables.payments.get? paymentId = some payment ∧
    resolveTarget tables ctx.accountId body.store body.merchant = .ok (payment.storeId, store) ∧
    (store.isInternal = true ∨ checkPlanQuota now tables ctx.accountId (ctxMode ctx) = .ok ()) ∧
    store.status ≠ .disabled ∧ store.billingSuspendedAt = none ∧
    (store.isInternal = true ∨ isSynthetic body.referenceId body.metadata = false) ∧
    loadActiveLink tables payment.storeId body.currency = .ok (linkId, link) ∧
    (link.currency = .khr → ∀ cents, body.cents = .ok cents → cents % 100 = 0)

section Replay

variable {settings : Settings} {rail : Rail} {now : Instant} {ctx : AuthContext}
  {body : PaymentCreate} {publicId : String} {paymentId storeId : ℕ} {key : String}

/-- The payment under a key is the one that is replayed. -/
theorem Keyed.replayed {db : Database} (hkeyed : Keyed paymentId storeId key db.tables)
    {request : PaymentRequest} (hkey : request.idempotencyKey.filter (· ≠ "") = some key) :
    ∃ payment, replayedPayment db.tables storeId request = some (paymentId, payment) := by
  obtain ⟨payment, hget, hstore, howns⟩ := hkeyed
  unfold replayedPayment
  rw [hkey, Option.bind_some]
  cases hfind : findByIdempotencyKey db.tables storeId key with
  | none =>
      have hnone := Table.find?_eq_none_iff.mp hfind paymentId payment hget
      simp [hstore, howns] at hnone
  | some found =>
      obtain ⟨foundId, row⟩ := found
      obtain ⟨hrow, hmatches⟩ := Table.find?_eq_some hfind
      simp only [Bool.and_eq_true, decide_eq_true_eq] at hmatches
      have hsame : sameIdempotencyKey row payment :=
        ⟨hmatches.1.trans hstore.symm, by simp [hmatches.2], hmatches.2.trans howns.symm⟩
      rw [db.valid.idempotencyKey_unique hrow hget hsame]
      exact ⟨row, rfl⟩

/-- Sent again, a request is answered with the payment under its key, and changes nothing,
exactly when the checks in front of the key let it through. -/
theorem postPayment_replays_iff {db : Database}
    (hkeyed : Keyed paymentId storeId key db.tables)
    (hkey : body.idempotencyKey.filter (· ≠ "") = some key)
    (hconfirmable : refuseUnconfirmable settings (ctxMode ctx) body.hostedQr = .ok ())
    {cents : ℤ} (hcents : body.cents = .ok cents) :
    postPayment settings rail now db.tables ctx body publicId = .ok (paymentId, db.tables) ↔
      Replayable now db.tables ctx body paymentId := by
  obtain ⟨payment, hget, hstore, howns⟩ := hkeyed
  have hother : paymentId ≠ db.tables.payments.next := (Table.lt_next hget).ne
  constructor
  · intro hpost
    obtain ⟨targetId, store, cents', linkId, link, hadmit, hcents', hopen, houtcome⟩ :=
      postPayment_cases hpost
    obtain rfl := Except.ok.inj (hcents.symm.trans hcents')
    rcases houtcome with ⟨row, hreplayed, -⟩ | ⟨hnew, -⟩
    · obtain ⟨replayedKey, -, hfound⟩ := Option.bind_eq_some_iff.mp hreplayed
      obtain ⟨hrow, hmatches⟩ := Table.find?_eq_some hfound
      obtain rfl := Option.some.inj (hget.symm.trans hrow)
      simp only [Bool.and_eq_true, decide_eq_true_eq] at hmatches
      obtain rfl := hmatches.1
      obtain ⟨htarget, -, hmetered⟩ := admitPayment_eq_ok_iff.mp hadmit
      obtain ⟨hactive, hheld, hgenuine, hload, hwhole⟩ := openSale_eq_ok_iff.mp hopen
      refine ⟨payment, store, linkId, link, hget, htarget, meterPayment_eq_ok_iff.mp hmetered,
        hactive, hheld, hgenuine, hload, fun hriel cents' hcents' => ?_⟩
      obtain rfl := Except.ok.inj (hcents.symm.trans hcents')
      exact hwhole hriel
    · exact absurd hnew hother
  · rintro ⟨row, store, linkId, link, hrow, htarget, hmetered, hactive, hheld, hgenuine, hload,
      hwhole⟩
    obtain rfl := Option.some.inj (hget.symm.trans hrow)
    have hadmit : admitPayment settings now db.tables ctx body = .ok (payment.storeId, store) :=
      admitPayment_eq_ok_iff.mpr ⟨htarget, hconfirmable, meterPayment_eq_ok_iff.mpr hmetered⟩
    have hopen : openSale db.tables payment.storeId store (body.request cents) =
        .ok (linkId, link) :=
      openSale_eq_ok_iff.mpr ⟨hactive, hheld, hgenuine, hload, fun hriel =>
        hwhole hriel cents hcents⟩
    have hkeyed : Keyed paymentId payment.storeId key db.tables := ⟨payment, hget, rfl, howns⟩
    have hkey' : (body.request cents).idempotencyKey.filter (· ≠ "") = some key := hkey
    obtain ⟨replayed, hreplayed⟩ := hkeyed.replayed hkey'
    have hcreate : createPayment settings rail now db.tables payment.storeId store
        (body.request cents) publicId = .ok (paymentId, db.tables) := by
      rw [createPayment_eq_parts, hopen]
      simp only [bind, Except.bind, hreplayed]
      rfl
    simp only [postPayment, hadmit, hcents, hcreate, if_neg hother]

/-- A payment that was created under a key is returned when its request is sent again,
whatever happened in between, exactly when the request is still admitted. -/
theorem replay_returns_iff {rail' : Rail} {now' : Instant} {publicId' : String}
    {db created : Database} {tables : Tables} {clock : Instant}
    (hkey : body.idempotencyKey.filter (· ≠ "") = some key)
    (hpost : postPayment settings rail now db.tables ctx body publicId = .ok (paymentId, tables))
    (hnew : db.tables.payments.get? paymentId = none) (hcommit : tables.commit = .ok created)
    (inputs : List (ℕ × AccountEvent)) :
    postPayment settings rail' now'
        (run (eventStep settings) ⟨clock, created⟩ inputs).db.tables ctx body publicId' =
        .ok (paymentId, (run (eventStep settings) ⟨clock, created⟩ inputs).db.tables) ↔
      Replayable now' (run (eventStep settings) ⟨clock, created⟩ inputs).db.tables ctx body
        paymentId := by
  obtain ⟨storeId, store, cents, linkId, link, hadmit, hcents, hopen, houtcome⟩ :=
    postPayment_cases hpost
  obtain ⟨-, hconfirmable, -⟩ := admitPayment_eq_ok_iff.mp hadmit
  rcases houtcome with ⟨row, hreplayed, -⟩ | ⟨rfl, payment, hstore, howns, hpayments⟩
  · obtain ⟨replayedKey, -, hfound⟩ := Option.bind_eq_some_iff.mp hreplayed
    rw [(Table.find?_eq_some hfound).1] at hnew
    cases hnew
  · have hidem : payment.idempotencyKey = some key :=
      howns.trans (Option.filter_eq_some_iff.mp hkey).1
    have hinserted : Keyed db.tables.payments.next storeId key
        (insertPayment db.tables payment) := by
      refine ⟨payment, ?_, hstore, hidem⟩
      rw [insertPayment, Table.get?_insert, if_pos rfl]
    have hcreated : Keyed db.tables.payments.next storeId key created.tables := by
      rw [Tables.commit_eq_ok hcommit]
      refine hinserted.update _ _ hpayments fun row _ => ?_
      unfold enqueueOrSkipTestModeBypass
      split
      · exact ⟨rfl, rfl⟩
      · exact ⟨rfl, rfl⟩
    have hlater : Keyed db.tables.payments.next storeId key
        (run (eventStep settings) ⟨clock, created⟩ inputs).db.tables := hcreated.run inputs
    exact postPayment_replays_iff hlater hkey hconfirmable hcents

end Replay

namespace Specimen

/-- The shop has a second store, which it does not use yet. -/
def twoStores : Database :=
  ⟨{ tables with
      stores := .ofList [hqStore, shopStore,
        { shopStore with publicId := "store_two", status := .disabled }]
      links := .ofList [link 0, link 1, link 2] }, by decide⟩

/-- `{"amount": 5, "idempotency_key": "order-1"}` -/
def resent : PaymentCreate where
  amount := statedFive
  accepted := statedFive_accepted
  idempotencyKey := some "order-1"

/-- The request, with a live key of the shop. -/
def send (now : Instant) (tables : Tables) (publicId : String) : Except Refusal (ℕ × Tables) :=
  postPayment {} rail now tables ⟨1, some "live"⟩ resent publicId

/-- What the first request commits. -/
def sent : Database :=
  ⟨{ twoStores.tables with
      payments := .ofList [{ offered with
        idempotencyKey := some "order-1", referenceId := none, expiresAt := seconds 300
        createdAt := 0 }] }, by decide⟩

theorem send_eq_ok : send 0 twoStores.tables "pay_1" = .ok (0, sent.tables) := by rfl

/-- The merchant closes its store and opens the other one. -/
def closeShop : ℕ × AccountEvent := (1000000, .chore (.provision (.disable 1 "store_shop")))

def openOther : ℕ × AccountEvent := (1000000, .chore (.provision (.enable 1 "store_two")))

def lapseCode : ℕ × AccountEvent := (600000000, .chore (.operate .expireDuePayments))

def later (inputs : List (ℕ × AccountEvent)) : World := run (eventStep {}) ⟨0, sent⟩ inputs

end Specimen

section

open Specimen

/-- Its code has expired, and the payment is still returned. -/
theorem replay_returns_expired :
    ((later [lapseCode]).db.tables.payments.get? 0).map (·.status) = some .expired ∧
      send (seconds 700) (later [lapseCode]).db.tables "pay_2" =
        .ok (0, (later [lapseCode]).db.tables) := by
  refine ⟨rfl, ?_⟩
  have hkey : resent.idempotencyKey.filter (· ≠ "") = some "order-1" := by decide
  have hadmitted : Replayable (seconds 700) (later [lapseCode]).db.tables ⟨1, some "live"⟩
      resent 0 := by
    refine ⟨_, _, _, _, rfl, rfl, .inr rfl, by decide, rfl, .inr rfl, rfl, fun hriel => ?_⟩
    cases hriel
  exact (replay_returns_iff hkey send_eq_ok rfl (Tables.commit_of_valid sent.valid)
    [lapseCode]).mpr hadmitted

/-- Sent again after the merchant closed its store, the request is refused; after it opened
another one, a second payment is minted. -/
theorem replay_refused_and_minted :
    send 0 twoStores.tables "pay_1" = .ok (0, sent.tables) ∧
      send (seconds 60) (later [closeShop]).db.tables "pay_2" =
        .error (.failed (.http 400 "store_required_or_merchant_required")) ∧
      ∃ minted, send (seconds 60) (later [closeShop, openOther]).db.tables "pay_2" =
        .ok (1, minted) := by
  refine ⟨rfl, rfl, _, rfl⟩

end

end ChmabaPay
