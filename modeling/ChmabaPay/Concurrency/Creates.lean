import ChmabaPay.Concurrency.Tills

/-! # One payment under one key

`create_payment` looks for the payment made under the caller's key, mints for seconds
when there is none, inserts and commits. The unique index keeps a second row out, but
the call that meets it is not answered with the row that won: its commit fails. So the
calls under one key agree exactly as long as none of them comes to insert after
another has committed.
-/

namespace ChmabaPay

open Calendar Relational Execution Interleaving

/-! ## What calls under one key owe each other -/

/-- The payment was made for the store of the call and under its key. -/
def CreateCall.Owns (call : CreateCall) (payment : Payment) : Prop :=
  payment.storeId = call.storeId ∧ payment.idempotencyKey = call.request.idempotencyKey

instance (call : CreateCall) : DecidablePred call.Owns :=
  fun _ => inferInstanceAs (Decidable (_ ∧ _))

/-- The call was not refused at its commit, and the payment it returned is the only
one under its key. -/
structure CreateCall.Agrees (tables : Tables) (call : CreateCall) : Prop where
  accepted : ∀ failure, call.phase ≠ .refused failure
  only : ∀ paymentId, call.phase = .returned paymentId → ∀ key,
    (∃ payment, tables.payments.get? key = some payment ∧ call.Owns payment) ↔ key = paymentId

/-- All calls that came with a key agree. -/
def Tills.Agree (pool : Tills) : Prop :=
  ∀ call, TillSession.create call ∈ pool.sessions → call.request.idempotencyKey ≠ none →
    call.Agrees pool.shared.db.tables

/-- The call that inserts a payment under a key in its next step. -/
def TillSession.inserting : TillSession → Option CreateCall
  | .create call =>
      match call.phase with
      | .insert _ => some call
      | .begin | .seek _ _ _ | .mint _ _ _ | .returned _ | .failed _ | .refused _ => none
  | .reissue _ | .sweep _ => none

/-- No payment is under the key of a call as it inserts one. -/
def Tills.KeyFree (pool : Tills) : Turn TillRequest ℕ → Prop
  | .start _ => True
  | .advance index _ => ∀ session ∈ pool.sessions[index]?, ∀ call ∈ session.inserting,
      call.request.idempotencyKey ≠ none → pool.shared.db.tables.payments.Never call.Owns

/-- The public id drawn for a payment is not in use. -/
def Tills.FreshId (pool : Tills) : Turn TillRequest ℕ → Prop
  | .start _ => True
  | .advance index _ => ∀ session ∈ pool.sessions[index]?, ∀ call ∈ session.inserting,
      pool.shared.db.tables.payments.Never fun payment => payment.publicId = call.publicId

instance (pool : Tills) : ∀ turn, Decidable (pool.KeyFree turn)
  | .start _ => inferInstanceAs (Decidable True)
  | .advance index _ => inferInstanceAs (Decidable
      (∀ session ∈ pool.sessions[index]?, ∀ call ∈ session.inserting,
        call.request.idempotencyKey ≠ none → pool.shared.db.tables.payments.Never call.Owns))

instance (pool : Tills) : ∀ turn, Decidable (pool.FreshId turn)
  | .start _ => inferInstanceAs (Decidable True)
  | .advance index _ => inferInstanceAs (Decidable
      (∀ session ∈ pool.sessions[index]?, ∀ call ∈ session.inserting,
        pool.shared.db.tables.payments.Never fun payment => payment.publicId = call.publicId))

/-! ## What a session holds -/

/-- The rows of the first tables are rows of the second, for the same store and under
the same key. -/
def Tables.KeepsKeys (before after : Tables) : Prop :=
  ∀ key payment, before.payments.get? key = some payment → ∃ payment',
    after.payments.get? key = some payment' ∧ payment'.storeId = payment.storeId ∧
      payment'.idempotencyKey = payment.idempotencyKey

theorem Tables.KeepsKeys.refl (tables : Tables) : tables.KeepsKeys tables :=
  fun _ payment hget => ⟨payment, hget, rfl, rfl⟩

/-- A call holds a payment of its own, in memory or in the table. -/
def TillSession.Keyed (tables : Tables) : TillSession → Prop
  | .create call =>
      (∀ payment, call.phase = .insert payment →
        call.Owns payment ∧ payment.publicId = call.publicId) ∧
      ∀ paymentId, call.phase = .returned paymentId → call.request.idempotencyKey ≠ none →
        ∃ payment, tables.payments.get? paymentId = some payment ∧ call.Owns payment
  | .reissue _ => True
  | .sweep session => session.Sweeping

theorem TillSession.Keyed.mono {before after : Tables} (hkeeps : before.KeepsKeys after)
    {session : TillSession} (hkeyed : session.Keyed before) : session.Keyed after := by
  cases session with
  | create call =>
      refine ⟨hkeyed.1, fun paymentId hreturned hkey => ?_⟩
      obtain ⟨payment, hget, hstore, hidem⟩ := hkeyed.2 paymentId hreturned hkey
      obtain ⟨payment', hget', hstore', hidem'⟩ := hkeeps paymentId payment hget
      exact ⟨payment', hget', hstore'.trans hstore, hidem'.trans hidem⟩
  | reissue call => trivial
  | sweep session => exact hkeyed

theorem TillSession.keyed_start (tables : Tables) (request : TillRequest) :
    (TillSession.start request).Keyed tables := by
  cases request with
  | createPayment rail storeId request publicId =>
      refine ⟨fun payment hinsert => ?_, fun paymentId hreturned => ?_⟩
      · cases hinsert
      · cases hreturned
  | reissuePayment rail parentId publicId => trivial
  | expireDuePayments => exact .inl ⟨rfl, rfl, rfl⟩

/-- The payment a lookup by key finds. -/
theorem replayedPayment_eq_some {tables : Tables} {call : CreateCall} {paymentId : ℕ}
    {payment : Payment}
    (hfound : replayedPayment tables call.storeId call.request = some (paymentId, payment)) :
    tables.payments.get? paymentId = some payment ∧ call.Owns payment := by
  obtain ⟨key, hkey, hfind⟩ := Option.bind_eq_some_iff.mp hfound
  obtain ⟨hidem, -⟩ := Option.filter_eq_some_iff.mp hkey
  obtain ⟨hget, hmatch⟩ := Table.find?_eq_some hfind
  rw [Bool.and_eq_true, decide_eq_true_eq, decide_eq_true_eq] at hmatch
  exact ⟨hget, hmatch.1, hmatch.2.trans hidem.symm⟩

/-! ## One step -/

section Step

variable (settings : Settings) (now : Instant) (db : Database)

theorem CreateCall.keyed_advance {call : CreateCall}
    (hkeyed : (TillSession.create call).Keyed db.tables) :
    db.tables.KeepsKeys (call.advance settings now db).1.tables ∧
      (TillSession.create (call.advance settings now db).2).Keyed
        (call.advance settings now db).1.tables := by
  have hmoved := call.moved settings now db
  generalize call.advance settings now db = moved at hmoved
  -- a call that neither inserts next nor has returned holds nothing
  have hidle : ∀ phase, (∀ payment, phase ≠ .insert payment) →
      (∀ paymentId, phase ≠ .returned paymentId) →
      (TillSession.create { call with phase := phase }).Keyed db.tables :=
    fun phase hinsert hreturned => ⟨fun payment hphase => absurd hphase (hinsert payment),
      fun paymentId hphase => absurd hphase (hreturned paymentId)⟩
  cases hmoved with
  | ended hphase => exact ⟨.refl _, hkeyed⟩
  | failed failure hunderway =>
      exact ⟨.refl _, hidle _ (fun _ hphase => by cases hphase) fun _ hphase => by cases hphase⟩
  | opened store linkId link hphase =>
      exact ⟨.refl _, hidle _ (fun _ hphase => by cases hphase) fun _ hphase => by cases hphase⟩
  | unknown store linkId link hphase hnone =>
      exact ⟨.refl _, hidle _ (fun _ hphase => by cases hphase) fun _ hphase => by cases hphase⟩
  | refused payment hphase hinvalid =>
      exact ⟨.refl _, hidle _ (fun _ hphase => by cases hphase) fun _ hphase => by cases hphase⟩
  | replayed paymentId payment hunderway hfound =>
      refine ⟨.refl _, fun _ hinsert => ?_, fun found hreturned _ => ?_⟩
      · cases hinsert
      · cases hreturned
        exact ⟨payment, replayedPayment_eq_some hfound⟩
  | minted store linkId link minted hphase =>
      refine ⟨.refl _, fun payment hinsert => ?_, fun _ hreturned => ?_⟩
      · cases hinsert
        exact ⟨⟨rfl, rfl⟩, rfl⟩
      · cases hreturned
  | inserted payment hphase hvalid =>
      refine ⟨fun key old hget => ⟨old, ?_, rfl, rfl⟩, fun _ hinsert => ?_,
        fun paymentId hreturned _ => ⟨payment, ?_, (hkeyed.1 payment hphase).1⟩⟩
      · rw [get?_insertPayment, if_neg (Nat.ne_of_lt (Table.lt_next hget))]
        exact hget
      · cases hinsert
      · cases hreturned
        rw [get?_insertPayment, if_pos rfl]

theorem ReissueCall.keepsKeys_advance (call : ReissueCall) :
    db.tables.KeepsKeys (call.advance settings now db).1.tables := by
  have hmoved := call.moved settings now db
  generalize call.advance settings now db = moved at hmoved
  cases hmoved with
  | inserted parent successor mintedAt hphase hvalid =>
      intro key payment hget
      simp only [get?_insertSuccessor, if_neg (Nat.ne_of_lt (Table.lt_next hget)), hget,
        Option.map_some]
      refine ⟨_, rfl, ?_, ?_⟩
      · split <;> rfl
      · split <;> rfl
  | _ => exact .refl _

theorem TillSession.keyed_advance {session : TillSession} (hkeyed : session.Keyed db.tables) :
    db.tables.KeepsKeys (session.advance settings now db).1.tables ∧
      (session.advance settings now db).2.Keyed (session.advance settings now db).1.tables := by
  cases session with
  | create call => exact CreateCall.keyed_advance settings now db hkeyed
  | reissue call => exact ⟨call.keepsKeys_advance settings now db, trivial⟩
  | sweep session =>
      have hsweeping : session.Sweeping := hkeyed
      obtain ⟨hexpires, hsweeping'⟩ := hsweeping.advance settings now db
      refine ⟨fun key payment hget => ?_, hsweeping'⟩
      obtain ⟨payment', hget', rfl | rfl⟩ := hexpires.get? hget
      · exact ⟨_, hget', rfl, rfl⟩
      · exact ⟨_, hget', rfl, rfl⟩

end Step

/-- Every session of the pool holds what it says it holds. -/
def Tills.Keyed (pool : Tills) : Prop :=
  pool.Holds (fun _ => True) fun world session => session.Keyed world.db.tables

theorem keyed_preserved (settings : Settings) :
    Preserved (tills settings) (fun _ => True) (fun _ _ _ => True) (fun _ => True)
      fun world session => session.Keyed world.db.tables where
  start world request _ _ := TillSession.keyed_start world.db.tables request
  own world _ _ _ hkeyed _ :=
    ⟨trivial, (TillSession.keyed_advance settings _ world.db hkeyed).2⟩
  other world _ _ _ _ hkeyed _ hbystander :=
    hbystander.mono (TillSession.keyed_advance settings _ world.db hkeyed).1

theorem Tills.Keyed.step {pool : Tills} (settings : Settings) (hkeyed : pool.Keyed)
    (turn : Turn TillRequest ℕ) : Tills.Keyed (next (tills settings).step pool turn) := by
  refine (keyed_preserved settings).step pool turn hkeyed ?_
  cases turn with
  | start request => trivial
  | advance index elapsed => exact fun _ _ => trivial

/-! ## What the commit refuses -/

/-- A payment under a key goes in when no other one is under it. -/
theorem constraints_insertPayment_iff {db : Database} {call : CreateCall} {payment : Payment}
    (howns : call.Owns payment) (hkey : call.request.idempotencyKey ≠ none)
    (hfresh : db.tables.payments.Never fun other => other.publicId = payment.publicId) :
    Constraints (insertPayment db.tables payment) ↔ db.tables.payments.Never call.Owns := by
  constructor
  · intro hvalid key other hget howns'
    have hconflict : sameIdempotencyKey other payment :=
      ⟨howns'.1.trans howns.1.symm, fun hnone => hkey (howns'.2.symm.trans hnone),
        howns'.2.trans howns.2.symm⟩
    have hold : (insertPayment db.tables payment).payments.get? key = some other := by
      rw [get?_insertPayment, if_neg (Nat.ne_of_lt (Table.lt_next hget))]
      exact hget
    have hnew : (insertPayment db.tables payment).payments.get? db.tables.payments.next =
        some payment := by
      rw [get?_insertPayment, if_pos rfl]
    exact Nat.ne_of_lt (Table.lt_next hget) (hvalid.idempotencyKey_unique hold hnew hconflict)
  · intro hnever
    refine ⟨db.valid.livePeriod, db.valid.idempotencyKey.insert fun key other hget hconflict => ?_,
      db.valid.publicId.insert fun key other hget hconflict => ?_, db.valid.ledgerResource,
      db.valid.planCode⟩
    · refine hnever key other hget ⟨hconflict.1.trans howns.1, ?_⟩
      exact hconflict.2.2.trans howns.2
    · exact hfresh key other hget hconflict

/-- The commit of the call was refused. -/
def TillSession.Refused : TillSession → Prop
  | .create call => call.request.idempotencyKey ≠ none ∧ ∃ failure, call.phase = .refused failure
  | .reissue _ | .sweep _ => False

theorem TillSession.not_refused {call : CreateCall}
    (hphase : ∀ failure, call.phase ≠ .refused failure) :
    ¬ (TillSession.create call).Refused := by
  rintro ⟨-, failure, hrefused⟩
  exact hphase failure hrefused

theorem TillSession.inserting_eq_none {call : CreateCall}
    (hphase : ∀ payment, call.phase ≠ .insert payment) :
    (TillSession.create call).inserting = none := by
  simp only [TillSession.inserting]
  cases hcall : call.phase with
  | insert payment => exact absurd hcall (hphase payment)
  | _ => rfl

theorem TillSession.inserting_eq_some {call : CreateCall} {payment : Payment}
    (hphase : call.phase = .insert payment) :
    (TillSession.create call).inserting = some call := by
  simp only [TillSession.inserting, hphase]

/-- A step leaves a call unrefused when it had not been refused before and does not
come to insert under a key that is taken. -/
theorem TillSession.refused_advance (settings : Settings) (now : Instant) {db : Database}
    {session : TillSession} (hkeyed : session.Keyed db.tables)
    (hfresh : ∀ call ∈ session.inserting,
      db.tables.payments.Never fun payment => payment.publicId = call.publicId) :
    ¬ (session.advance settings now db).2.Refused ↔ ¬ session.Refused ∧
      ∀ call ∈ session.inserting, call.request.idempotencyKey ≠ none →
        db.tables.payments.Never call.Owns := by
  cases session with
  | reissue call => simp [TillSession.advance, TillSession.Refused, TillSession.inserting]
  | sweep session => simp [TillSession.advance, TillSession.Refused, TillSession.inserting]
  | create call =>
      have hmoved := call.moved settings now db
      simp only [TillSession.advance]
      generalize call.advance settings now db = moved at hmoved
      -- a call that is not at its insert can only be refused if it was before
      have hgoesOn : ∀ phase, (∀ failure, phase ≠ .refused failure) →
          call.phase.isUnderway = true →
          (¬ (TillSession.create { call with phase := phase }).Refused ↔
            ¬ (TillSession.create call).Refused ∧ ∀ inserting ∈ (TillSession.create call).inserting,
              inserting.request.idempotencyKey ≠ none →
                db.tables.payments.Never inserting.Owns) := by
        intro phase hphase hunderway
        have hnot : ¬ (TillSession.create call).Refused :=
          not_refused fun failure hrefused => by
            rw [hrefused] at hunderway
            cases hunderway
        have hnone : (TillSession.create call).inserting = none :=
          inserting_eq_none fun payment hinsert => by
            rw [hinsert] at hunderway
            cases hunderway
        rw [hnone]
        refine iff_of_true (not_refused hphase) ⟨hnot, ?_⟩
        intro inserting hinserting
        cases hinserting
      cases hmoved with
      | ended hphase =>
          rw [inserting_eq_none hphase]
          simp
      | failed failure hunderway => exact hgoesOn _ (fun _ hrefused => by cases hrefused) hunderway
      | opened store linkId link hphase =>
          exact hgoesOn _ (fun _ hrefused => by cases hrefused) (hphase ▸ rfl)
      | replayed paymentId payment hunderway hfound =>
          exact hgoesOn _ (fun _ hrefused => by cases hrefused) hunderway
      | unknown store linkId link hphase hnone =>
          exact hgoesOn _ (fun _ hrefused => by cases hrefused) (hphase ▸ rfl)
      | minted store linkId link minted hphase =>
          exact hgoesOn _ (fun _ hrefused => by cases hrefused) (hphase ▸ rfl)
      | inserted payment hphase hvalid =>
          obtain ⟨howns, hid⟩ := hkeyed.1 payment hphase
          have hinserting := inserting_eq_some hphase
          have hfree := hfresh call hinserting
          rw [← hid] at hfree
          refine iff_of_true (not_refused fun _ hrefused => by cases hrefused)
            ⟨not_refused fun _ hrefused => by simp [hphase] at hrefused, ?_⟩
          intro inserting hsome hkey
          obtain rfl := Option.some.inj (hinserting.symm.trans hsome)
          exact (constraints_insertPayment_iff howns hkey hfree).mp hvalid
      | refused payment hphase hinvalid =>
          obtain ⟨howns, hid⟩ := hkeyed.1 payment hphase
          have hinserting := inserting_eq_some hphase
          have hfree := hfresh call hinserting
          rw [← hid] at hfree
          by_cases hkey : call.request.idempotencyKey = none
          · refine iff_of_true (fun hrefused => hrefused.1 hkey)
              ⟨fun hrefused => hrefused.1 hkey, fun inserting hsome hsomeKey => ?_⟩
            obtain rfl := Option.some.inj (hinserting.symm.trans hsome)
            exact absurd hkey hsomeKey
          · refine iff_of_false (fun hnot => hnot ⟨hkey, _, rfl⟩) fun hall => hinvalid ?_
            exact (constraints_insertPayment_iff howns hkey hfree).mpr (hall.2 call hinserting hkey)

/-! ## Every run -/

/-- No call that came with a key was refused. -/
def Tills.NoneRefused (pool : Tills) : Prop := ∀ session ∈ pool.sessions, ¬ session.Refused

theorem Tills.noneRefused_step {pool : Tills} (settings : Settings) (hkeyed : pool.Keyed)
    {turn : Turn TillRequest ℕ} (hfresh : pool.FreshId turn) :
    Tills.NoneRefused (next (tills settings).step pool turn) ↔
      pool.NoneRefused ∧ pool.KeyFree turn := by
  cases turn with
  | start request =>
      have hnew : ¬ (TillSession.start request).Refused := by
        cases request with
        | createPayment rail storeId request publicId =>
            exact TillSession.not_refused fun failure hrefused => by cases hrefused
        | reissuePayment rail parentId publicId => exact id
        | expireDuePayments => exact id
      constructor
      · intro hall
        exact ⟨fun session hsession => hall session (List.mem_append_left _ hsession), trivial⟩
      · rintro ⟨hall, -⟩ session hsession
        rcases List.mem_append.mp hsession with hold | hlast
        · exact hall session hold
        · rw [List.mem_singleton.mp hlast]
          exact hnew
  | advance index elapsed =>
      cases hat : pool.sessions[index]? with
      | none =>
          rw [next_advance_of_none hat]
          refine (and_iff_left fun session hsession => ?_).symm
          rw [hat] at hsession
          cases hsession
      | some session =>
          rw [next_advance_of_some hat]
          have hstep := TillSession.refused_advance settings (pool.shared.clock + elapsed)
            (hkeyed.2 session (List.mem_of_getElem? hat)) (hfresh session hat)
          refine (Pool.forall_mem_set_iff hat hstep).trans (and_congr_right fun _ => ?_)
          constructor
          · intro hfree found hfound
            rw [hat] at hfound
            exact Option.some.inj hfound ▸ hfree
          · exact fun hfree => hfree session hat

/-- The calls of a pool agree when none has been refused. -/
theorem Tills.Keyed.agree_iff {pool : Tills} (hkeyed : pool.Keyed) :
    pool.Agree ↔ pool.NoneRefused := by
  constructor
  · intro hagree session hsession hrefused
    cases session with
    | create call =>
        obtain ⟨hkey, failure, hphase⟩ := hrefused
        exact (hagree call hsession hkey).accepted failure hphase
    | reissue call => exact hrefused
    | sweep session => exact hrefused
  · intro hnone call hcall hkey
    refine ⟨fun failure hphase => hnone _ hcall ⟨hkey, failure, hphase⟩,
      fun paymentId hreturned key => ?_⟩
    obtain ⟨payment, hget, howns⟩ := (hkeyed.2 _ hcall).2 paymentId hreturned hkey
    constructor
    · rintro ⟨other, hother, howns'⟩
      have hsame : sameIdempotencyKey other payment :=
        ⟨howns'.1.trans howns.1.symm, fun hempty => hkey (howns'.2.symm.trans hempty),
          howns'.2.trans howns.2.symm⟩
      exact pool.shared.db.valid.idempotencyKey_unique hother hget hsame
    · rintro rfl
      exact ⟨payment, hget, howns⟩

/-- The calls of every run agree, under every key, exactly when none of them comes to
insert a payment under a key that has been taken since it looked. -/
theorem created_payments_agree {settings : Settings} {pool : Tills} (hidle : pool.sessions = [])
    {turns : List (Turn TillRequest ℕ)}
    (hfresh : Along (tills settings).step Tills.FreshId pool turns) :
    Tills.Agree (run (tills settings).step pool turns) ↔
      Along (tills settings).step Tills.KeyFree pool turns := by
  have hkeyed : pool.Keyed := Pool.holds_of_idle trivial hidle
  have hnone : pool.NoneRefused := by
    intro session hsession
    rw [hidle] at hsession
    cases hsession
  have hkeyed' : Tills.Keyed (run (tills settings).step pool turns) :=
    run_invariant Tills.Keyed (fun _ => True)
      (fun _ turn hpool _ => hpool.step settings turn) hkeyed fun _ _ => trivial
  rw [hkeyed'.agree_iff, run_iff_along Tills.Keyed Tills.NoneRefused Tills.FreshId Tills.KeyFree
    (fun _ turn hpool => hpool.step settings turn)
    (fun _ _ hpool hfresh => Tills.noneRefused_step settings hpool hfresh) hkeyed hfresh]
  exact and_iff_right hnone

/-- The order as the shop sends it, with a key. -/
def Specimen.keyedOrder : PaymentRequest := { order with idempotencyKey := some "order-1" }

/-- The shop sends its order again after the first call has returned. -/
def sentAgain : List (Turn TillRequest ℕ) :=
  (.start (.createPayment Specimen.rail 1 Specimen.keyedOrder "pay_2") ::
      List.replicate 4 (.advance 0 1000000)) ++
    .start (.createPayment Specimen.rail 1 Specimen.keyedOrder "pay_3") ::
      List.replicate 4 (.advance 1 1000000)

/-- The shop sends its order twice at once: both calls look before either inserts. -/
def sentTwice : List (Turn TillRequest ℕ) :=
  [.start (.createPayment Specimen.rail 1 Specimen.keyedOrder "pay_2"),
    .start (.createPayment Specimen.rail 1 Specimen.keyedOrder "pay_3"),
    .advance 0 1000000, .advance 1 0, .advance 0 0, .advance 1 0, .advance 0 2000000,
    .advance 1 0, .advance 0 0, .advance 1 0]

theorem created_payments_agree_sent_again :
    Along (ChmabaPay.tills {}).step Tills.FreshId Specimen.tills sentAgain ∧
      Tills.Agree (run (ChmabaPay.tills {}).step Specimen.tills sentAgain) := by
  have hfresh : Along (ChmabaPay.tills {}).step Tills.FreshId Specimen.tills sentAgain := by
    decide +kernel
  exact ⟨hfresh, (created_payments_agree rfl hfresh).mpr (by decide +kernel)⟩

/-- How the commit of a call that came with a key was refused. -/
def TillSession.refusal : TillSession → Option Failure
  | .create call =>
      match call.phase with
      | .refused failure => call.request.idempotencyKey.map fun _ => failure
      | .begin | .seek _ _ _ | .mint _ _ _ | .insert _ | .returned _ | .failed _ => none
  | .reissue _ | .sweep _ => none

theorem TillSession.refused_of_refusal {session : TillSession} {failure : Failure}
    (hrefusal : session.refusal = some failure) : session.Refused := by
  cases session with
  | create call =>
      simp only [TillSession.refusal] at hrefusal
      split at hrefusal
      · next failure hphase =>
        obtain ⟨key, hkey, -⟩ := Option.map_eq_some_iff.mp hrefusal
        exact ⟨by simp [hkey], failure, hphase⟩
      all_goals cases hrefusal
  | reissue call => cases hrefusal
  | sweep session => cases hrefusal

theorem created_payments_disagree_sent_twice :
    ¬ Tills.Agree (run (ChmabaPay.tills {}).step Specimen.tills sentTwice) := by
  have hrefusal : (run (ChmabaPay.tills {}).step Specimen.tills sentTwice).sessions[1]?.bind
      TillSession.refusal = some .integrity := by decide +kernel
  obtain ⟨session, hat, hrefused⟩ := Option.bind_eq_some_iff.mp hrefusal
  intro hagree
  have hsession := List.mem_of_getElem? hat
  have hcall := TillSession.refused_of_refusal hrefused
  cases session with
  | create call =>
      obtain ⟨hkey, failure, hphase⟩ := hcall
      exact (hagree call hsession hkey).accepted failure hphase
  | reissue call => exact hcall
  | sweep session => exact hcall

end ChmabaPay
