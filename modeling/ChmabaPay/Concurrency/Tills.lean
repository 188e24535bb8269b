import ChmabaPay.Concurrency.Parts
import ChmabaPay.Minting
import ChmabaPay.Payments.Evolution
import ChmabaPay.Specimen

/-! # What a part of a minting call does

Every part of a call is one of a few moves. What is proved about interleaved calls
is proved move by move.
-/

namespace ChmabaPay

open Calendar Relational Fallible

theorem commitInsert_of_valid {db : Database} {tables : Tables} (hvalid : Constraints tables) :
    commitInsert db tables = .ok (db.tables.payments.next, ⟨tables, hvalid⟩) := by
  rw [commitInsert, Tables.commit_of_valid hvalid]
  rfl

theorem commitInsert_of_invalid {db : Database} {tables : Tables}
    (hinvalid : ¬ Constraints tables) : commitInsert db tables = .error .integrity := by
  rw [commitInsert, Tables.commit, dif_neg hinvalid]
  rfl

theorem get?_insertPayment (tables : Tables) (payment : Payment) (key : ℕ) :
    (insertPayment tables payment).payments.get? key =
      if key = tables.payments.next then some payment else tables.payments.get? key :=
  Table.get?_insert _ _ _

theorem get?_insertSuccessor (tables : Tables) (parentId : ℕ) (parent successor : Payment)
    (mintedAt : Instant) (key : ℕ) :
    (insertSuccessor tables parentId parent successor mintedAt).payments.get? key =
      if key = tables.payments.next then some successor
      else (tables.payments.get? key).map fun row => if key = parentId then
          { row with attemptHistory :=
            (parent.recordReissue successor.publicId mintedAt).attemptHistory }
        else row := by
  simp only [insertSuccessor, Table.get?_insert, Table.next_update, Table.get?_update]
  split
  · rfl
  · split
    · rfl
    · rw [Option.map_id']

/-- The call has yet to come to its insert. -/
def CreatePhase.isUnderway : CreatePhase → Bool
  | .begin | .seek _ _ _ | .mint _ _ _ => true
  | .insert _ | .returned _ | .failed _ | .refused _ => false

/-- What one part of a `create_payment` call does. -/
inductive CreateCall.Moved (settings : Settings) (now : Instant) (db : Database)
    (call : CreateCall) : Database × CreateCall → Prop
  | ended (hphase : ∀ payment, call.phase ≠ .insert payment) :
      Moved settings now db call (db, call)
  | failed (failure : Failure) (hunderway : call.phase.isUnderway = true) :
      Moved settings now db call (db, { call with phase := .failed failure })
  | opened (store : Store) (linkId : ℕ) (link : PaymentLink) (hphase : call.phase = .begin) :
      Moved settings now db call (db, { call with phase := .seek store linkId link })
  | replayed (paymentId : ℕ) (payment : Payment) (hunderway : call.phase.isUnderway = true)
      (hfound : replayedPayment db.tables call.storeId call.request = some (paymentId, payment)) :
      Moved settings now db call (db, { call with phase := .returned paymentId })
  | unknown (store : Store) (linkId : ℕ) (link : PaymentLink)
      (hphase : call.phase = .seek store linkId link)
      (hnone : replayedPayment db.tables call.storeId call.request = none) :
      Moved settings now db call (db, { call with phase := .mint store linkId link })
  | minted (store : Store) (linkId : ℕ) (link : PaymentLink) (minted : Minted)
      (hphase : call.phase = .mint store linkId link) :
      Moved settings now db call (db, { call with
        phase := .insert (requestedPayment now call.storeId linkId link call.request minted
          call.publicId) })
  | inserted (payment : Payment) (hphase : call.phase = .insert payment)
      (hvalid : Constraints (insertPayment db.tables payment)) :
      Moved settings now db call
        (⟨insertPayment db.tables payment, hvalid⟩,
          { call with phase := .returned db.tables.payments.next })
  | refused (payment : Payment) (hphase : call.phase = .insert payment)
      (hinvalid : ¬ Constraints (insertPayment db.tables payment)) :
      Moved settings now db call (db, { call with phase := .refused .integrity })

theorem CreateCall.moved (settings : Settings) (now : Instant) (db : Database)
    (call : CreateCall) : call.Moved settings now db (call.advance settings now db) := by
  unfold CreateCall.advance
  split
  next hphase =>
    split
    · exact .failed _ (hphase ▸ rfl)
    · exact .opened _ _ _ hphase
  next store linkId link hphase =>
    split
    · next hfound => exact .replayed _ _ (hphase ▸ rfl) hfound
    · next hnone =>
      split
      · exact .failed _ (hphase ▸ rfl)
      · exact .unknown store linkId link hphase hnone
  next store linkId link hphase =>
    cases hmint : mintQr settings call.rail store link call.request.amountCents call.publicId now
      link.currency call.request.hostedQr with
    | error failure =>
        simp only [mintRequested, hmint, bind, Except.bind]
        exact .failed failure (hphase ▸ rfl)
    | ok minted =>
        simp only [mintRequested, hmint, bind, Except.bind, pure, Except.pure]
        exact .minted store linkId link minted hphase
  next payment hphase =>
    by_cases hvalid : Constraints (insertPayment db.tables payment)
    · rw [commitInsert_of_valid hvalid]
      exact .inserted payment hphase hvalid
    · rw [commitInsert_of_invalid hvalid]
      exact .refused payment hphase hvalid
  all_goals
    next hphase =>
      refine .ended fun payment hinsert => ?_
      rw [hphase] at hinsert
      cases hinsert

/-- What one part of a `reissue_payment` call does. -/
inductive ReissueCall.Moved (now : Instant) (db : Database) (call : ReissueCall) :
    Database × ReissueCall → Prop
  | ended (hphase : ∀ parent successor mintedAt, call.phase ≠ .insert parent successor mintedAt) :
      Moved now db call (db, call)
  | failed (failure : Failure) : Moved now db call (db, { call with phase := .failed failure })
  | loaded (parent : Payment) (hphase : call.phase = .begin)
      (hparent : db.tables.payments.get? call.parentId = some parent) :
      Moved now db call (db, { call with phase := .look parent })
  | replayed (paymentId : ℕ) : Moved now db call
      (db, { call with phase := .returned paymentId })
  | found (parent : Payment) (hphase : call.phase = .look parent)
      (hnone : payableSuccessor now db.tables call.parentId = none) :
      Moved now db call (db, { call with phase := .mint parent })
  | minted (parent : Payment) (minted : Minted) (hphase : call.phase = .mint parent) :
      Moved now db call (db, { call with
        phase := .insert parent
          (successorPayment now call.parentId parent minted call.publicId) now })
  | inserted (parent successor : Payment) (mintedAt : Instant)
      (hphase : call.phase = .insert parent successor mintedAt)
      (hvalid : Constraints
        (insertSuccessor db.tables call.parentId parent successor mintedAt)) :
      Moved now db call
        (⟨insertSuccessor db.tables call.parentId parent successor mintedAt, hvalid⟩,
          { call with phase := .returned db.tables.payments.next })
  | refused : Moved now db call (db, { call with phase := .refused .integrity })

theorem mintReissued_eq_ok {settings : Settings} {rail : Rail} {now : Instant} {tables : Tables}
    {parentId : ℕ} {parent successor : Payment} {publicId : String}
    (hmint : mintReissued settings rail now tables parentId parent publicId = .ok successor) :
    ∃ minted, successor = successorPayment now parentId parent minted publicId := by
  unfold mintReissued at hmint
  split at hmint
  · exact absurd hmint throw_ne_ok
  · simp only [bind_eq_ok] at hmint
    obtain ⟨-, -, -, -, hmint⟩ := hmint
    split at hmint
    · exact absurd hmint throw_ne_ok
    · simp only [bind_eq_ok, pure_eq_ok] at hmint
      obtain ⟨minted, -, rfl⟩ := hmint
      exact ⟨minted, rfl⟩

theorem ReissueCall.moved (settings : Settings) (now : Instant) (db : Database)
    (call : ReissueCall) : call.Moved now db (call.advance settings now db) := by
  unfold ReissueCall.advance
  split
  next hphase =>
    split
    · exact .failed _
    · next parent hload =>
      simp only [bind_eq_ok, pure_eq_ok] at hload
      obtain ⟨found, hparent, -, -, rfl⟩ := hload
      exact .loaded found hphase (requirePayment_eq_ok hparent)
  next parent hphase =>
    split
    · exact .replayed _
    · next hnone => exact .found parent hphase hnone
  next parent hphase =>
    split
    · exact .failed _
    · next successor hmint =>
      obtain ⟨minted, rfl⟩ := mintReissued_eq_ok hmint
      exact .minted parent minted hphase
  next parent successor mintedAt hphase =>
    by_cases hvalid : Constraints
      (insertSuccessor db.tables call.parentId parent successor mintedAt)
    · rw [commitInsert_of_valid hvalid]
      exact .inserted parent successor mintedAt hphase hvalid
    · rw [commitInsert_of_invalid hvalid]
      exact .refused
  all_goals
    next hphase =>
      refine .ended fun parent successor mintedAt hinsert => ?_
      rw [hphase] at hinsert
      cases hinsert

/-! ## The sweep -/

/-- The rows of the second table are the rows of the first, some of them expired. -/
def OnlyExpires (before after : Table Payment) : Prop :=
  ∀ key, after.get? key = before.get? key ∨
    after.get? key = (before.get? key).map Payment.expire

/-- A sweep that has read nothing yet, or one that has expired rows of those it
loaded. -/
def Session.Sweeping (session : Session) : Prop :=
  (session.task = some .expireDuePayments ∧ session.loaded = .empty ∧
    session.edited = .empty) ∨
  ((session.task = some .commit ∨ session.task = none) ∧
    OnlyExpires session.loaded.payments session.edited.payments)

section Sweep

variable {before after : Table Payment}

theorem OnlyExpires.of_get? (hsame : ∀ key, after.get? key = before.get? key) :
    OnlyExpires before after := fun key => .inl (hsame key)

/-- What the sweep leaves of a row. -/
theorem OnlyExpires.get? (hexpires : OnlyExpires before after) {key : ℕ} {payment : Payment}
    (hget : before.get? key = some payment) :
    ∃ payment', after.get? key = some payment' ∧
      (payment' = payment ∨ payment' = payment.expire) := by
  rcases hexpires key with hsame | hexpired
  · exact ⟨payment, hsame.trans hget, .inl rfl⟩
  · rw [hget] at hexpired
    exact ⟨payment.expire, hexpired, .inr rfl⟩

theorem OnlyExpires.get?_none (hexpires : OnlyExpires before after) {key : ℕ}
    (hnone : before.get? key = none) : after.get? key = none := by
  rcases hexpires key with hsame | hexpired
  · exact hsame.trans hnone
  · rw [hexpired, hnone]
    rfl

/-- A row written by the sweep is the committed one, as it is or expired. -/
theorem OnlyExpires.write (hexpires : OnlyExpires before after) (current : Table Payment) :
    OnlyExpires current (Table.write before after current) := by
  intro key
  rw [Table.get?_write]
  rcases hexpires key with hunchanged | hexpired
  · rw [hunchanged, writeRow_self]
    exact .inl rfl
  · rw [hexpired]
    cases before.get? key with
    | none => exact .inl (writeRow_self _ none _)
    | some old =>
        by_cases hne : old.expire = old
        · rw [Option.map_some, hne, writeRow_self]
          exact .inl rfl
        · have hstatus : old.expire.status ≠ old.status := by
            intro hsame
            refine hne ?_
            cases old
            simp only [Payment.expire] at hsame ⊢
            rw [hsame]
          refine .inr ?_
          cases current.get? key with
          | none => simp [writeRow, hne]
          | some payment =>
              rw [Option.map_some, writeRow_of_ne _ hne]
              simp only [Columns.write, assign_of_ne hstatus]
              simp [Payment.expire, assign]

/-- A step of a sweep only expires committed payments. -/
theorem Session.Sweeping.advance {session : Session} (hsweeping : session.Sweeping)
    (settings : Settings) (now : Instant) (db : Database) :
    OnlyExpires db.tables.payments (session.advance settings db now).1.tables.payments ∧
      (session.advance settings db now).2.Sweeping := by
  rcases session.advance_cases settings db now with
    ⟨hsame, hstays | hclosed⟩ | ⟨task, htask, hcommit, hvalid, hadvance⟩ |
      ⟨task, edited, following, htask, hcommit, hexecute, hadvance⟩
  · rw [hsame, hstays]
    exact ⟨.of_get? fun _ => rfl, hsweeping⟩
  · rw [hsame, hclosed]
    refine ⟨.of_get? fun _ => rfl, .inr ⟨.inr rfl, ?_⟩⟩
    rcases hsweeping with ⟨-, hloaded, hedited⟩ | ⟨-, hexpires⟩
    · exact .of_get? fun key => by simp [Session.close, hloaded, hedited]
    · exact hexpires
  · rw [hadvance]
    rcases hsweeping with ⟨hfirst, -⟩ | ⟨-, hexpires⟩
    · rw [hfirst] at htask
      cases htask
      cases hcommit
    · exact ⟨hexpires.write _, .inr ⟨.inr rfl, hexpires⟩⟩
  · rw [hadvance]
    refine ⟨.of_get? fun key => Table.get?_drawTo _ _ _, ?_⟩
    rcases hsweeping with ⟨hfirst, hloaded, hedited⟩ | ⟨hlast | hlast, -⟩
    · rw [hfirst] at htask
      cases htask
      simp only [Task.execute, bind_eq_ok, pure_eq_ok, Prod.mk.injEq] at hexecute
      obtain ⟨⟨count, expired⟩, hexpire, rfl, hfollowing⟩ := hexecute
      obtain ⟨events, deliveries, hexpired⟩ := expireDuePayments_eq_ok hexpire
      refine .inr ⟨?_, fun key => ?_⟩
      · rw [← hfollowing]
        split
        · exact .inr rfl
        · exact .inl rfl
      · -- the sweep had read nothing before: it sees what is committed
        have hview : (Tables.view session.loaded session.edited db.tables).payments.get? key =
            db.tables.payments.get? key := by
          rw [hloaded, hedited]
          exact (Table.get?_view _ _ _ key).trans (if_pos rfl)
        have hreload : (Tables.reload session.loaded session.edited db.tables).payments.get? key =
            db.tables.payments.get? key := by
          rw [hloaded, hedited]
          exact (Table.get?_reload _ _ _ key).trans (if_pos rfl)
        rw [hexpired, hreload, Table.get?_updateWhere, hview]
        cases db.tables.payments.get? key with
        | none => exact .inl rfl
        | some payment =>
            simp only [Option.map_some]
            split
            · exact .inr rfl
            · exact .inl rfl
    · rw [hlast] at htask
      cases htask
      cases hcommit
    · rw [hlast] at htask
      cases htask

end Sweep

/-- The shop with its code on offer, and nobody at work. -/
def Specimen.tills : Tills := ⟨⟨seconds 60, Specimen.sale⟩, []⟩

end ChmabaPay
