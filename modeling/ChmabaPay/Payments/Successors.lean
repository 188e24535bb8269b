import ChmabaPay.Payments.Evolution
import ChmabaPay.Payments.Rails
import ChmabaPay.Services.Retention
import ChmabaPay.Stores.Links

/-! # The rail of a replacement

A re-issue mints on the rail of the code it replaces, and knows that rail from the
gateway payload of the payment alone. Every operation leaves that payload of an unpaid
payment alone, but the purge clears it on a clock: a code of ABA's that was purged before
it is re-issued is replaced by an offline one.
-/

namespace ChmabaPay

open Calendar Relational Execution Fallible

/-- The payment is the one that was asked for, and its gateway payload is the one named
here, as long as no money arrived for it. -/
def Remembers (paymentId : ℕ) (asked : Payment) (gateway : Option GatewayStatus)
    (world : World) : Prop :=
  ∃ payment, world.db.tables.payments.get? paymentId = some payment ∧
    payment.storeId = asked.storeId ∧ payment.referenceId = asked.referenceId ∧
    payment.terms = asked.terms ∧
    (payment.status.isSettled = true ∨ payment.gatewayStatusRaw = gateway)

/-- A chore is no purge whose window a payment of this moment has left. -/
def Spares (createdAt : Instant) (world : World) : ℕ × Chore → Prop
  | (elapsed, .purge olderThanDays) =>
      olderThanDays ≤ 0 ∨ world.clock + elapsed - days olderThanDays ≤ createdAt
  | (_, .operate _) | (_, .provision _) => True

instance (createdAt : Instant) (world : World) :
    ∀ input, Decidable (Spares createdAt world input)
  | (elapsed, .purge olderThanDays) => inferInstanceAs (Decidable
      (olderThanDays ≤ 0 ∨ world.clock + elapsed - days olderThanDays ≤ createdAt))
  | (_, .operate _) => inferInstanceAs (Decidable True)
  | (_, .provision _) => inferInstanceAs (Decidable True)

/-! ## One chore -/

section Step

variable {settings : Settings} {world : World} {paymentId : ℕ} {asked : Payment}
  {gateway : Option GatewayStatus}

theorem Remembers.of_payments {world' : World}
    (hremembers : Remembers paymentId asked gateway world)
    (hsame : world'.db.tables.payments = world.db.tables.payments) :
    Remembers paymentId asked gateway world' := by
  obtain ⟨payment, hget, hrest⟩ := hremembers
  exact ⟨payment, hsame ▸ hget, hrest⟩

/-- The platform's operations write the gateway payload of a payment only when money
arrives for it. -/
theorem Remembers.operate (hremembers : Remembers paymentId asked gateway world) (elapsed : ℕ)
    (op : Op) : Remembers paymentId asked gateway
      (next (choreStep settings) world (elapsed, .operate op)) := by
  change Remembers paymentId asked gateway (step settings world ⟨elapsed, op⟩).1
  rcases next_step settings world ⟨elapsed, op⟩ with
    ⟨failure, hstep⟩ | ⟨response, tables, hperform, hvalid, hstep⟩
  · rw [hstep]
    exact hremembers
  · rw [hstep]
    obtain ⟨payment, hget, hstore, hreference, hterms, hgateway⟩ := hremembers
    obtain ⟨new, hnew, hevolves⟩ := (perform_payments hperform).persists paymentId payment hget
    refine ⟨new, hnew, hevolves.store.trans hstore, hevolves.reference.trans hreference,
      hevolves.terms.trans hterms, ?_⟩
    rcases hevolves.gateway with hsettled | hsame
    · exact .inl hsettled
    · exact hgateway.imp hevolves.settled fun hgateway => hsame.trans hgateway

theorem conclude_of_valid {moment : Instant} {tables : Tables} {response : Response}
    (hvalid : Constraints tables) :
    conclude world moment tables response =
      ({ clock := moment, db := ⟨tables, hvalid⟩ }, .ok response) := by
  unfold conclude
  rw [Tables.commit_of_valid hvalid]

/-- Calls on stores and links touch no payment. -/
theorem provision_payments (world : World) (elapsed : ℕ) (request : StoreRequest) :
    (next (choreStep settings) world (elapsed, .provision request)).db.tables.payments =
      world.db.tables.payments := by
  have hwrites : Tables.KeptByWrites fun tables =>
      tables.payments = world.db.tables.payments := by
    refine ⟨fun _ _ hsame => hsame, fun _ _ hsame => hsame, ?_⟩
    intro tables attached storeId payload verification hsame hattach
    rcases attachLinkToStore_eq_ok hattach with ⟨-, rfl⟩ | ⟨linkId, link, -, -, -, -, rfl⟩
    · exact hsame
    · exact hsame
  have hpayments : (next (provisionStep settings) world.db.tables request).payments =
      world.db.tables.payments := provisionStep_keeps hwrites rfl request
  unfold next choreStep
  dsimp only
  unfold next at hpayments
  split
  · rfl
  · next tables storeId hprovision =>
    rw [hprovision] at hpayments
    unfold conclude
    split
    · rfl
    · next db hcommit =>
      rw [Tables.commit_eq_ok hcommit]
      exact hpayments

theorem purgeGatewayPayloads_payments (now : Instant) (tables : Tables) (olderThanDays : Int) :
    (purgeGatewayPayloads now tables olderThanDays).2.payments =
      tables.payments.modify fun _ payment =>
        if 0 < olderThanDays ∧ isPurgeable now olderThanDays payment = true then
          payment.clearGateway
        else payment := by
  unfold purgeGatewayPayloads
  split
  · next hdisabled =>
    refine Table.ext_get? rfl fun key => ?_
    simp [not_lt.mpr hdisabled]
  · next henabled =>
    refine Table.ext_get? rfl fun key => ?_
    simp [not_le.mp henabled]

/-- A purge breaks no index. -/
theorem purgeGatewayPayloads_constraints (now : Instant) (olderThanDays : Int) {tables : Tables}
    (hvalid : Constraints tables) :
    Constraints (purgeGatewayPayloads now tables olderThanDays).2 := by
  have hpayments := purgeGatewayPayloads_payments now tables olderThanDays
  have hothers : ∃ payments, (purgeGatewayPayloads now tables olderThanDays).2 =
      { tables with payments } := by
    unfold purgeGatewayPayloads
    split
    · exact ⟨_, rfl⟩
    · exact ⟨_, rfl⟩
  obtain ⟨payments, heq⟩ := hothers
  rw [heq] at hpayments ⊢
  refine ⟨hvalid.livePeriod, ?_, ?_, hvalid.ledgerResource, hvalid.planCode⟩
  · rw [hpayments]
    refine hvalid.idempotencyKey.modify fun key row key' row' _ _ hconflict => ?_
    split at hconflict <;> split at hconflict <;> exact hconflict
  · rw [hpayments]
    refine hvalid.publicId.modify fun key row key' row' _ _ hconflict => ?_
    split at hconflict <;> split at hconflict <;> exact hconflict

/-- The purge commits what it clears. -/
theorem purge_payments (world : World) (elapsed : ℕ) (olderThanDays : Int) :
    (next (choreStep settings) world (elapsed, .purge olderThanDays)).db.tables.payments =
      (purgeGatewayPayloads (world.clock + elapsed) world.db.tables olderThanDays).2.payments := by
  unfold next choreStep
  dsimp only
  rw [conclude_of_valid (purgeGatewayPayloads_constraints _ _ world.db.valid)]

/-- What a purge leaves of a payment. -/
theorem Remembers.purge (hremembers : Remembers paymentId asked gateway world) (elapsed : ℕ)
    (olderThanDays : Int) :
    Remembers paymentId asked
      (if Spares asked.createdAt world (elapsed, .purge olderThanDays) then gateway else none)
      (next (choreStep settings) world (elapsed, .purge olderThanDays)) := by
  obtain ⟨payment, hget, hstore, hreference, hterms, hgateway⟩ := hremembers
  have hcreated : payment.createdAt = asked.createdAt :=
    congrArg (fun terms => terms.2.2.2.2) hterms
  have hafter :
      (next (choreStep settings) world (elapsed, .purge olderThanDays)).db.tables.payments.get?
        paymentId =
      some (if 0 < olderThanDays ∧
        isPurgeable (world.clock + elapsed) olderThanDays payment = true then
          payment.clearGateway else payment) := by
    rw [purge_payments, purgeGatewayPayloads_payments, Table.get?_modify, hget]
    rfl
  refine ⟨_, hafter, ?_⟩
  by_cases hspares : Spares asked.createdAt world (elapsed, .purge olderThanDays)
  · -- the payment is younger than the window, or nothing is purged
    have hkept : ¬ (0 < olderThanDays ∧
        isPurgeable (world.clock + elapsed) olderThanDays payment = true) := by
      rintro ⟨hpositive, hpurged⟩
      simp only [isPurgeable, Bool.and_eq_true, decide_eq_true_eq, hcreated] at hpurged
      rcases hspares with hdisabled | hyoung
      · omega
      · exact absurd hpurged.1 (not_lt.mpr hyoung)
    rw [if_neg hkept, if_pos hspares]
    exact ⟨hstore, hreference, hterms, hgateway⟩
  · rw [if_neg hspares]
    obtain ⟨hpositive, hold⟩ := not_or.mp hspares
    split
    · exact ⟨hstore, hreference, hterms, .inr rfl⟩
    · next hkept =>
      -- an old payment that is not cleared has nothing to clear
      refine ⟨hstore, hreference, hterms, .inr ?_⟩
      by_contra hsome
      refine hkept ⟨not_le.mp hpositive, ?_⟩
      simp only [isPurgeable, Bool.and_eq_true, decide_eq_true_eq, hcreated]
      exact ⟨not_le.mp hold, Option.isSome_iff_ne_none.mpr hsome⟩

end Step

/-! ## Runs -/

section Runs

variable {world : World} {paymentId : ℕ} {asked : Payment} {gateway : Option GatewayStatus}

theorem Remembers.step (settings : Settings) (hremembers : Remembers paymentId asked gateway world)
    (input : ℕ × Chore) :
    Remembers paymentId asked (if Spares asked.createdAt world input then gateway else none)
      (next (choreStep settings) world input) := by
  obtain ⟨elapsed, chore⟩ := input
  cases chore with
  | operate op => exact hremembers.operate elapsed op
  | purge olderThanDays => exact hremembers.purge elapsed olderThanDays
  | provision request => exact hremembers.of_payments (provision_payments world elapsed request)

/-- What a run leaves of a payment: its gateway payload, unless a purge reached it. -/
theorem Remembers.run (settings : Settings) (hremembers : Remembers paymentId asked gateway world)
    (inputs : List (ℕ × Chore)) :
    Remembers paymentId asked
      (if Along (choreStep settings) (Spares asked.createdAt) world inputs then gateway else none)
      (run (choreStep settings) world inputs) := by
  induction inputs generalizing world gateway with
  | nil =>
      have hnil : Along (choreStep settings) (Spares asked.createdAt) world [] := trivial
      rw [if_pos hnil]
      exact hremembers
  | cons input rest ih =>
      have hrest := ih (hremembers.step settings input)
      rw [run_cons]
      by_cases hspares : Spares asked.createdAt world input
      · rw [if_pos hspares] at hrest
        simpa [Along, hspares] using hrest
      · rw [if_neg hspares, ite_self] at hrest
        simpa [Along, hspares] using hrest

end Runs

/-! ## Re-issuing -/

/-- The successor is the same sale on the same rail, and all that changed of the payment it
replaces is the history of attempts. -/
structure Payment.ReplacedBy (original parent successor : Payment) (after : Option Payment) :
    Prop where
  rail : successor.isHosted = original.isHosted
  store : successor.storeId = original.storeId
  amount : successor.amountCents = original.amountCents
  currency : successor.currency = original.currency
  reference : successor.referenceId = original.referenceId
  metadata : successor.metadata = original.metadata
  parent : ∃ attemptHistory, after = some { parent with attemptHistory }

section Reissue

variable {settings : Settings} {world created reissued : World}

/-- An operation that answered has performed its part on the tables it found. -/
theorem choreStep_operate {elapsed : ℕ} {op : Op} {response : Response}
    (hstep : choreStep settings world (elapsed, .operate op) = (reissued, .ok response)) :
    perform settings (world.clock + elapsed) world.db.tables op =
      .ok (response, reissued.db.tables) := by
  change step settings world ⟨elapsed, op⟩ = (reissued, .ok response) at hstep
  rcases next_step settings world ⟨elapsed, op⟩ with
    ⟨failure, hfailed⟩ | ⟨answer, tables, hperform, hvalid, hstepped⟩
  · rw [hfailed] at hstep
    cases hstep
  · rw [hstepped] at hstep
    obtain ⟨rfl, hanswer⟩ := Prod.mk.inj hstep
    obtain rfl := Except.ok.inj hanswer
    exact hperform

/-- A payment is re-issued on its rail, whatever happened to it in between, exactly when
its code is not ABA's or no purge has reached it. -/
theorem reissued_on_its_rail_iff {elapsed : ℕ} {rail : Rail} {storeId : ℕ}
    {request : PaymentRequest} {publicId : String} {paymentId : ℕ}
    (hcreate : choreStep settings world
      (elapsed, .operate (.createPayment rail storeId request publicId)) =
        (created, .ok (.payment paymentId)))
    (hnew : paymentId = world.db.tables.payments.next) {inputs : List (ℕ × Chore)}
    {later : ℕ} {laterRail : Rail} {laterId : String} {successorId : ℕ}
    (hreissue : choreStep settings (run (choreStep settings) created inputs)
      (later, .operate (.reissuePayment laterRail paymentId laterId)) =
        (reissued, .ok (.payment successorId)))
    (hminted : successorId =
      (run (choreStep settings) created inputs).db.tables.payments.next) :
    ∃ original parent successor,
      created.db.tables.payments.get? paymentId = some original ∧
      (run (choreStep settings) created inputs).db.tables.payments.get? paymentId = some parent ∧
      reissued.db.tables.payments.get? successorId = some successor ∧
      (original.ReplacedBy parent successor (reissued.db.tables.payments.get? paymentId) ↔
        original.isHosted = false ∨
          Along (choreStep settings) (Spares original.createdAt) created inputs) := by
  have hperformed := choreStep_operate hcreate
  simp only [perform, bind_eq_ok, pure_eq_ok, Prod.mk.injEq, Response.payment.injEq]
    at hperformed
  obtain ⟨store, -, ⟨createdId, createdTables⟩, hcreated, hcreatedId, htables⟩ := hperformed
  obtain rfl : createdId = paymentId := hcreatedId
  obtain rfl : createdTables = created.db.tables := htables
  subst hnew
  obtain ⟨linkId, link, minted, -, -, -, htables⟩ := createPayment_minted hcreated
  generalize horiginal : requestedPayment (world.clock + elapsed) storeId linkId link request
    minted publicId = original at htables
  have hget : created.db.tables.payments.get? world.db.tables.payments.next = some original := by
    rw [htables, Table.get?_insert, if_pos rfl]
  have hremembers : Remembers world.db.tables.payments.next original original.gatewayStatusRaw
      created := ⟨original, hget, rfl, rfl, rfl, .inr rfl⟩
  obtain ⟨parent, hparent, hstore, hreference, hterms, hgateway⟩ :=
    hremembers.run settings inputs
  have hreperformed := choreStep_operate hreissue
  simp only [perform, bind_eq_ok, pure_eq_ok, Prod.mk.injEq, Response.payment.injEq]
    at hreperformed
  obtain ⟨found, hfound, ⟨reissuedId, reissuedTables⟩, hreissued, hreissuedId, hretables⟩ :=
    hreperformed
  obtain rfl := Option.some.inj (hparent.symm.trans (requirePayment_eq_ok hfound))
  obtain rfl : reissuedId = successorId := hreissuedId
  obtain rfl : reissuedTables = reissued.db.tables := hretables
  subst hminted
  obtain ⟨reminted, hrail, hafter⟩ := reissuePayment_minted hreissued
  -- only a dead payment is re-issued, so no money has arrived for it
  have hunpaid : parent.status.isSettled ≠ true := by
    rcases (reissuePayment_eq_ok hreissued).1 with hdead | hdead
    · simp [hdead, PaymentStatus.isSettled]
    · simp [hdead, PaymentStatus.isSettled]
  have hraw := hgateway.resolve_left hunpaid
  generalize hsuccessor : successorPayment _ _ parent reminted laterId = successor at hafter
  have hhosted : successor.isHosted = parent.isHosted := by
    rw [← hsuccessor, successorPayment_isHosted, hrail]
  refine ⟨original, parent, successor, hget, hparent, ?_, ?_⟩
  · rw [hafter, Table.get?_insert, Table.next_update, if_pos rfl]
  constructor
  · rintro hreplaced
    refine or_iff_not_imp_right.mpr fun hpurged => ?_
    rw [if_neg hpurged] at hraw
    rw [← hreplaced.rail, hhosted, Payment.isHosted, hraw]
    rfl
  · intro hkept
    have hsame : parent.isHosted = original.isHosted := by
      rcases hkept with hoffline | hspared
      · -- an offline code has no session to lose
        rw [hoffline, Payment.isHosted, hraw]
        split
        · exact hoffline
        · rfl
      · rw [if_pos hspared] at hraw
        rw [Payment.isHosted, hraw]
        rfl
    simp only [Payment.terms, Prod.mk.injEq] at hterms
    obtain ⟨-, hamount, hcurrency, hmetadata, -⟩ := hterms
    refine ⟨hhosted.trans hsame, ?_, ?_, ?_, ?_, ?_, ?_⟩
    · exact hsuccessor ▸ hstore
    · exact hsuccessor ▸ hamount
    · exact hsuccessor ▸ hcurrency
    · exact hsuccessor ▸ hreference
    · exact hsuccessor ▸ hmetadata
    · have hother : world.db.tables.payments.next ≠
          (Execution.run (choreStep settings) created inputs).db.tables.payments.next :=
        (Table.lt_next hparent).ne
      rw [hafter, Table.get?_insert, Table.next_update, if_neg hother, Table.get?_update,
        if_pos rfl, hparent]
      exact ⟨_, rfl⟩

end Reissue

namespace Specimen

/-- A code is asked for, expires, and is still to be had a hundred days later. -/
def offerHosted : ℕ × Chore := (0, .operate (.createPayment hostedRail 1 order "pay_1"))

def lapse : ℕ × Chore := (600000000, .operate .expireDuePayments)

/-- A retention sweep of the default window, a hundred days on. -/
def sweepPayloads : ℕ × Chore := (8640000000000, .purge 90)

def askAgain : ℕ × Chore := (0, .operate (.reissuePayment hostedRail 0 "pay_2"))

def offeredHosted : World := next (choreStep {}) hostedWorld offerHosted

end Specimen

section

open Specimen

theorem reissued_on_its_rail_expired :
    ∃ original parent successor,
      offeredHosted.db.tables.payments.get? 0 = some original ∧
      (run (choreStep {}) offeredHosted [lapse]).db.tables.payments.get? 0 = some parent ∧
      (next (choreStep {}) (run (choreStep {}) offeredHosted [lapse])
        askAgain).db.tables.payments.get? 1 = some successor ∧
      (original.ReplacedBy parent successor ((next (choreStep {})
          (run (choreStep {}) offeredHosted [lapse]) askAgain).db.tables.payments.get? 0) ↔
        original.isHosted = false ∨
          Along (choreStep {}) (Spares original.createdAt) offeredHosted [lapse]) := by
  have hcreate : choreStep {} hostedWorld offerHosted = (offeredHosted, .ok (.payment 0)) :=
    Prod.ext rfl (by rfl)
  have hreissue : choreStep {} (run (choreStep {}) offeredHosted [lapse]) askAgain =
      (next (choreStep {}) (run (choreStep {}) offeredHosted [lapse]) askAgain,
        .ok (.payment 1)) := Prod.ext rfl (by rfl)
  exact reissued_on_its_rail_iff hcreate rfl hreissue (by rfl)

/-- A code of ABA's that a purge has reached is replaced by an offline one. -/
theorem reissued_off_its_rail :
    (offeredHosted.db.tables.payments.get? 0).map Payment.isHosted = some true ∧
      (choreStep {} (run (choreStep {}) offeredHosted [lapse, sweepPayloads]) askAgain).2 =
        .ok (.payment 1) ∧
      ((next (choreStep {}) (run (choreStep {}) offeredHosted [lapse, sweepPayloads])
        askAgain).db.tables.payments.get? 1).map Payment.isHosted = some false := by
  refine ⟨?_, ?_, ?_⟩
  · rfl
  · rfl
  · rfl

end

end ChmabaPay
