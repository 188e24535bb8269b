import ChmabaPay.Sessions

/-! # Codes minted side by side

`create_payment` and `reissue_payment` in sessions of their own at READ COMMITTED.
Each reads what it needs, awaits the rail for seconds while it mints a code, and
then inserts the row and commits; nothing is locked in between. The expiry sweep
runs beside them. Stores and links are read with the first part of a call: no
session here writes them. The clock belongs to the shared world and only moves on.
-/

namespace ChmabaPay

open Calendar Relational Execution

/-! ## The parts of `create_payment` -/

/-- The store's own state, the probe rule, and the link the sale is settled on. -/
def openSale (tables : Tables) (storeId : ℕ) (store : Store) (request : PaymentRequest) :
    Except Failure (ℕ × PaymentLink) := do
  refuseUnusableStore store
  refuseSyntheticOnMerchantStore store request.referenceId request.metadata
  let (linkId, link) ← loadActiveLink tables storeId request.currency
  if link.currency = .khr ∧ request.amountCents % 100 ≠ 0 then
    throw (.http 400 "khr_amount_must_be_whole")
  return (linkId, link)

/-- The payment a request replays. An empty key is no key. -/
def replayedPayment (tables : Tables) (storeId : ℕ) (request : PaymentRequest) :
    Option (ℕ × Payment) :=
  (request.idempotencyKey.filter (· ≠ "")).bind (findByIdempotencyKey tables storeId)

/-- The row a request mints. -/
def mintRequested (settings : Settings) (rail : Rail) (now : Instant) (storeId : ℕ)
    (store : Store) (linkId : ℕ) (link : PaymentLink) (request : PaymentRequest)
    (publicId : String) : Except Failure Payment := do
  let minted ← mintQr settings rail store link request.amountCents publicId now link.currency
    request.hostedQr
  return requestedPayment now storeId linkId link request minted publicId

def insertPayment (tables : Tables) (payment : Payment) : Tables :=
  { tables with payments := tables.payments.insert payment }

/-- The parts one after the other are `create_payment`. -/
theorem createPayment_eq_parts (settings : Settings) (rail : Rail) (now : Instant)
    (tables : Tables) (storeId : ℕ) (store : Store) (request : PaymentRequest)
    (publicId : String) :
    createPayment settings rail now tables storeId store request publicId = (do
      let (linkId, link) ← openSale tables storeId store request
      match replayedPayment tables storeId request with
      | some (existing, _) => return (existing, tables)
      | none =>
          refuseAmount link request.amountCents
          let payment ← mintRequested settings rail now storeId store linkId link request publicId
          return (tables.payments.next, insertPayment tables payment)) := by
  unfold createPayment openSale replayedPayment mintRequested
  cases refuseUnusableStore store with
  | error failure => rfl
  | ok =>
      cases refuseSyntheticOnMerchantStore store request.referenceId request.metadata with
      | error failure => rfl
      | ok =>
          cases loadActiveLink tables storeId request.currency with
          | error failure => rfl
          | ok found =>
              obtain ⟨linkId, link⟩ := found
              simp only [bind, Except.bind]
              split
              · rfl
              · simp only [pure, Except.pure]
                cases (request.idempotencyKey.filter (· ≠ "")).bind
                  (findByIdempotencyKey tables storeId) with
                | some existing => rfl
                | none =>
                    simp only [insertPayment]
                    cases refuseAmount link request.amountCents with
                    | error failure => rfl
                    | ok =>
                        cases mintQr settings rail store link request.amountCents publicId now
                          link.currency request.hostedQr with
                        | error failure => rfl
                        | ok minted => rfl

/-! ## The parts of `reissue_payment` -/

/-- Only a code that died without being paid is replaced. -/
def refuseReissue (parent : Payment) : Except Failure Unit := do
  if parent.status = .paid then throw (.http 409 "payment_already_paid")
  if parent.status = .reversed then throw (.http 409 "payment_reversed")
  if parent.status ≠ .expired ∧ parent.status ≠ .failed then
    throw (.http 409 "payment_not_expired")

/-- The live replacement a call finds: the newest one that is still offered, if its
code has not lapsed. -/
def payableSuccessor (now : Instant) (tables : Tables) (parentId : ℕ) : Option (ℕ × Payment) :=
  (liveSuccessor tables parentId).filter fun live => decide (now < live.2.expiresAt)

/-- The row a re-issue mints, on the rail the parent was minted on. -/
def mintReissued (settings : Settings) (rail : Rail) (now : Instant) (tables : Tables)
    (parentId : ℕ) (parent : Payment) (publicId : String) : Except Failure Payment :=
  match tables.stores.get? parent.storeId with
  | none => throw (.http 400 "store_disabled")
  | some store => do
      refuseUnusableStore store
      refuseSyntheticOnMerchantStore store parent.referenceId parent.metadata
      match tables.links.get? parent.paymentLinkId with
      | none => throw (.http 400 "payment_link_missing")
      | some link =>
          let wasHosted := (parent.gatewayStatusRaw.bind (·.paywayHosted)).isSome
          let minted ← mintQr settings rail store link parent.amountCents publicId now
            parent.currency (some wasHosted)
          return successorPayment now parentId parent minted publicId

/-- The successor is inserted, and the parent's history, as the call loaded it, is
written with one more entry. -/
def insertSuccessor (tables : Tables) (parentId : ℕ) (parent successor : Payment)
    (mintedAt : Instant) : Tables :=
  { tables with
    payments := (tables.payments.update parentId fun row =>
      { row with
        attemptHistory := (parent.recordReissue successor.publicId mintedAt).attemptHistory
        }).insert successor }

theorem insertSuccessor_of_loaded {tables : Tables} {parentId : ℕ} {parent : Payment}
    (hparent : tables.payments.get? parentId = some parent) (now : Instant) (minted : Minted)
    (publicId : String) :
    insertSuccessor tables parentId parent
        (successorPayment now parentId parent minted publicId) now =
      (mintSuccessor now tables parentId parent minted publicId).2 := by
  have hupdate : (tables.payments.update parentId fun row =>
      { row with attemptHistory := (parent.recordReissue publicId now).attemptHistory }) =
        tables.payments.update parentId (Payment.recordReissue publicId now) := by
    refine Table.update_congr fun row hrow => ?_
    rw [hparent] at hrow
    cases hrow
    rfl
  simp only [insertSuccessor, mintSuccessor, successorPayment]
  rw [hupdate]

/-- The parts one after the other are `reissue_payment`. -/
theorem reissuePayment_eq_parts (settings : Settings) (rail : Rail) (now : Instant)
    (tables : Tables) {parentId : ℕ} {parent : Payment}
    (hparent : tables.payments.get? parentId = some parent) (publicId : String) :
    reissuePayment settings rail now tables parentId parent publicId = (do
      refuseReissue parent
      match payableSuccessor now tables parentId with
      | some (live, _) => return (live, tables)
      | none =>
          let successor ← mintReissued settings rail now tables parentId parent publicId
          return (tables.payments.next,
            insertSuccessor tables parentId parent successor now)) := by
  have hinsert := insertSuccessor_of_loaded hparent now
  unfold reissuePayment refuseReissue payableSuccessor
  by_cases hpaid : parent.status = .paid
  · rw [if_pos hpaid, if_pos hpaid]
    rfl
  by_cases hreversed : parent.status = .reversed
  · rw [if_neg hpaid, if_neg hpaid, if_pos hreversed, if_pos hreversed]
    rfl
  by_cases hdead : parent.status ≠ .expired ∧ parent.status ≠ .failed
  · rw [if_neg hpaid, if_neg hpaid, if_neg hreversed, if_neg hreversed, if_pos hdead, if_pos hdead]
    rfl
  rw [if_neg hpaid, if_neg hpaid, if_neg hreversed, if_neg hreversed, if_neg hdead, if_neg hdead]
  simp only [bind, Except.bind, pure, Except.pure]
  cases (liveSuccessor tables parentId).filter fun live => decide (now < live.2.expiresAt) with
  | some live => rfl
  | none =>
      simp only [mintReissued]
      cases tables.stores.get? parent.storeId with
      | none => rfl
      | some store =>
          cases hunusable : refuseUnusableStore store with
          | error failure => simp [hunusable, bind, Except.bind]
          | ok =>
              cases hsynthetic : refuseSyntheticOnMerchantStore store parent.referenceId
                parent.metadata with
              | error failure => simp [hunusable, hsynthetic, bind, Except.bind]
              | ok =>
                  cases tables.links.get? parent.paymentLinkId with
                  | none => simp [hunusable, hsynthetic, bind, Except.bind]; rfl
                  | some link =>
                      cases hmint : mintQr settings rail store link parent.amountCents publicId
                        now parent.currency
                        (some (parent.gatewayStatusRaw.bind (·.paywayHosted)).isSome) with
                      | error failure =>
                          simp [hunusable, hsynthetic, hmint, bind, Except.bind]
                      | ok minted =>
                          simp [hunusable, hsynthetic, hmint, bind, Except.bind, pure,
                            Except.pure, hinsert]
                          rfl

/-! ## Sessions -/

/-- What is left of a `create_payment` call, with the rows it holds on to. A call
that failed did so by its own checks or at the rail; one that was refused, at its
commit. -/
inductive CreatePhase where
  | begin
  | seek (store : Store) (linkId : ℕ) (link : PaymentLink)
  | mint (store : Store) (linkId : ℕ) (link : PaymentLink)
  | insert (payment : Payment)
  | returned (paymentId : ℕ)
  | failed (failure : Failure)
  | refused (failure : Failure)

/-- A `create_payment` call. The rail answers it anew, and its public id is drawn
at random. -/
structure CreateCall where
  rail : Rail
  storeId : ℕ
  request : PaymentRequest
  publicId : String
  phase : CreatePhase

/-- The inserted row is committed under the next key, or the commit is refused. -/
def commitInsert (db : Database) (tables : Tables) : Except Failure (ℕ × Database) := do
  let committed ← tables.commit
  return (db.tables.payments.next, committed)

/-- The next part of the call. -/
def CreateCall.advance (settings : Settings) (now : Instant) (db : Database)
    (call : CreateCall) : Database × CreateCall :=
  match call.phase with
  | .begin =>
      match (do
        let store ← requireStore db.tables call.storeId
        let (linkId, link) ← openSale db.tables call.storeId store call.request
        return (store, linkId, link) : Except Failure (Store × ℕ × PaymentLink)) with
      | .error failure => (db, { call with phase := .failed failure })
      | .ok (store, linkId, link) => (db, { call with phase := .seek store linkId link })
  | .seek store linkId link =>
      match replayedPayment db.tables call.storeId call.request with
      | some (existing, _) => (db, { call with phase := .returned existing })
      | none =>
          match refuseAmount link call.request.amountCents with
          | .error failure => (db, { call with phase := .failed failure })
          | .ok () => (db, { call with phase := .mint store linkId link })
  | .mint store linkId link =>
      match mintRequested settings call.rail now call.storeId store linkId link call.request
          call.publicId with
      | .error failure => (db, { call with phase := .failed failure })
      | .ok payment => (db, { call with phase := .insert payment })
  | .insert payment =>
      match commitInsert db (insertPayment db.tables payment) with
      | .error failure => (db, { call with phase := .refused failure })
      | .ok (paymentId, committed) =>
          (committed, { call with phase := .returned paymentId })
  | .returned _ | .failed _ | .refused _ => (db, call)

/-- What is left of a `reissue_payment` call, with the rows it holds on to. -/
inductive ReissuePhase where
  | begin
  | look (parent : Payment)
  | mint (parent : Payment)
  | insert (parent successor : Payment) (mintedAt : Instant)
  | returned (paymentId : ℕ)
  | failed (failure : Failure)
  | refused (failure : Failure)

structure ReissueCall where
  rail : Rail
  parentId : ℕ
  publicId : String
  phase : ReissuePhase

def ReissueCall.advance (settings : Settings) (now : Instant) (db : Database)
    (call : ReissueCall) : Database × ReissueCall :=
  match call.phase with
  | .begin =>
      match (do
        let parent ← requirePayment db.tables call.parentId
        refuseReissue parent
        return parent : Except Failure Payment) with
      | .error failure => (db, { call with phase := .failed failure })
      | .ok parent => (db, { call with phase := .look parent })
  | .look parent =>
      match payableSuccessor now db.tables call.parentId with
      | some (live, _) => (db, { call with phase := .returned live })
      | none => (db, { call with phase := .mint parent })
  | .mint parent =>
      match mintReissued settings call.rail now db.tables call.parentId parent
          call.publicId with
      | .error failure => (db, { call with phase := .failed failure })
      | .ok successor => (db, { call with phase := .insert parent successor now })
  | .insert parent successor mintedAt =>
      match commitInsert db
          (insertSuccessor db.tables call.parentId parent successor mintedAt) with
      | .error failure => (db, { call with phase := .refused failure })
      | .ok (paymentId, committed) =>
          (committed, { call with phase := .returned paymentId })
  | .returned _ | .failed _ | .refused _ => (db, call)

/-- A call that mints a code, or the expiry sweep. -/
inductive TillSession where
  | create (call : CreateCall)
  | reissue (call : ReissueCall)
  | sweep (session : Session)

inductive TillRequest where
  | createPayment (rail : Rail) (storeId : ℕ) (request : PaymentRequest) (publicId : String)
  | reissuePayment (rail : Rail) (parentId : ℕ) (publicId : String)
  | expireDuePayments

def TillSession.start : TillRequest → TillSession
  | .createPayment rail storeId request publicId =>
      .create ⟨rail, storeId, request, publicId, .begin⟩
  | .reissuePayment rail parentId publicId => .reissue ⟨rail, parentId, publicId, .begin⟩
  | .expireDuePayments =>
      .sweep { loaded := .empty, edited := .empty, task := some .expireDuePayments }

def TillSession.advance (settings : Settings) (now : Instant) (db : Database) :
    TillSession → Database × TillSession
  | .create call => ((call.advance settings now db).1, .create (call.advance settings now db).2)
  | .reissue call => ((call.advance settings now db).1, .reissue (call.advance settings now db).2)
  | .sweep session =>
      ((session.advance settings db now).1, .sweep (session.advance settings db now).2)

/-- Calls and sweeps on one database. Every step says how much time has passed. -/
def tills (settings : Settings) : Interleaving.Machine World TillSession TillRequest ℕ where
  start := TillSession.start
  advance world elapsed session :=
    ({ clock := world.clock + elapsed
       db := (session.advance settings (world.clock + elapsed) world.db).1 },
      (session.advance settings (world.clock + elapsed) world.db).2)

abbrev Tills := Interleaving.Pool World TillSession

end ChmabaPay
