import ChmabaPay.Concurrency.Parts
import ChmabaPay.Specimen

/-! # Settled payments under interleaving

A transaction decides by the status it loaded and writes the new status by
primary key. The two agree on a settled payment only while the committed row is
still the one the decision was made on: a sweep, a retirement or a second
settlement that commits over a row settled since it was loaded overwrites it.
Runs in which no commit does so keep every settled payment.
-/

namespace ChmabaPay

open Calendar Relational Execution Fallible Interleaving

/-! ## What a transaction makes of the rows it holds -/

/-- Money that arrived is only given back. -/
def Payment.Moves (before after : Payment) : Prop :=
  after = before ∨ before.status.isSettled = false ∨
    (before.status = .paid ∧ after.status = .reversed)

theorem Payment.Moves.trans {first second third : Payment} (hfirst : first.Moves second)
    (hsecond : second.Moves third) : first.Moves third := by
  rcases hfirst with rfl | hopen | ⟨hpaid, hreversed⟩
  · exact hsecond
  · exact .inr (.inl hopen)
  · rcases hsecond with rfl | hopen | ⟨hpaid', -⟩
    · exact .inr (.inr ⟨hpaid, hreversed⟩)
    · simp [hreversed, PaymentStatus.isSettled] at hopen
    · simp [hreversed] at hpaid'

structure Tables.PaymentsMove (before after : Tables) : Prop where
  none_iff : ∀ key, after.payments.get? key = none ↔ before.payments.get? key = none
  rows : ∀ key old new, before.payments.get? key = some old →
    after.payments.get? key = some new → old.Moves new

section Moves

variable {settings : Settings} {now : Instant} {before after : Tables}

theorem Tables.PaymentsMove.of_eq (hsame : after.payments = before.payments) :
    before.PaymentsMove after := by
  refine ⟨fun key => by rw [hsame], fun key old new hold hnew => .inl ?_⟩
  rw [hsame, hold] at hnew
  exact (Option.some.inj hnew).symm

/-- An edit of the rows a filter selects. -/
theorem Tables.PaymentsMove.of_updateWhere {keep : ℕ → Payment → Bool}
    {change : Payment → Payment}
    (hpayments : after.payments = before.payments.updateWhere keep change)
    (hchange : ∀ key old, before.payments.get? key = some old → keep key old = true →
      old.Moves (change old)) : before.PaymentsMove after := by
  refine ⟨fun key => ?_, fun key old new hold hnew => ?_⟩
  · rw [hpayments, Table.get?_updateWhere, Option.map_eq_none_iff]
  · rw [hpayments, Table.get?_updateWhere, hold] at hnew
    obtain rfl := Option.some.inj hnew
    dsimp only
    split
    next hkeep => exact hchange key old hold hkeep
    next => exact .inl rfl

/-- An edit of the row under one key. -/
theorem Tables.PaymentsMove.of_update {paymentId : ℕ} {payment new : Payment}
    (hpayments : after.payments = before.payments.update paymentId fun _ => new)
    (hpayment : before.payments.get? paymentId = some payment) (hmoves : payment.Moves new) :
    before.PaymentsMove after := by
  have hwhere : after.payments =
      before.payments.updateWhere (fun key _ => decide (key = paymentId)) fun _ => new := by
    rw [hpayments]
    exact Table.ext_get? rfl fun key => by
      cases hget : before.payments.get? key <;> by_cases heq : key = paymentId <;>
        simp [hget, heq]
  refine .of_updateWhere hwhere fun key old hold hkey => ?_
  obtain rfl : key = paymentId := by simpa using hkey
  obtain rfl := Option.some.inj (hpayment.symm.trans hold)
  exact hmoves

theorem Tables.PaymentsMove.trans {first second third : Tables}
    (hfirst : first.PaymentsMove second) (hsecond : second.PaymentsMove third) :
    first.PaymentsMove third := by
  refine ⟨fun key => (hsecond.none_iff key).trans (hfirst.none_iff key), ?_⟩
  intro key old new hold hnew
  cases hmiddle : second.payments.get? key with
  | none =>
      rw [(hsecond.none_iff key).mpr hmiddle] at hnew
      cases hnew
  | some middle =>
      have hfirst := hfirst.rows key old middle hold hmiddle
      exact hfirst.trans (hsecond.rows key middle new hmiddle hnew)

theorem PaymentStatus.isSettled_of_isTerminal {status : PaymentStatus}
    (hopen : status.isTerminal = false) : status.isSettled = false := by
  revert hopen
  cases status <;> simp [PaymentStatus.isTerminal, PaymentStatus.isSettled]

theorem PaymentStatus.isSettled_of_isOpen {status : PaymentStatus}
    (hopen : status.isOpen = true) : status.isSettled = false := by
  revert hopen
  cases status <;> simp [PaymentStatus.isOpen, PaymentStatus.isSettled]

theorem PaymentStatus.isSettled_of_isRetirable {status : PaymentStatus}
    (hretirable : status.isRetirable = true) : status.isSettled = false := by
  revert hretirable
  cases status <;> simp [PaymentStatus.isRetirable, PaymentStatus.isSettled]

/-- Reading the row and assigning it moves a payment that was not settled. -/
theorem assignPaid_moves (now : Instant) (view : Tables) (publicId : String)
    (credit : Credit) : view.PaymentsMove (assignPaid now view publicId credit).1 := by
  unfold assignPaid
  split
  · exact .of_eq rfl
  next paymentId payment hfind =>
    split
    · exact .of_eq rfl
    next hterminal =>
      have hopen : payment.status.isTerminal = false := by simpa using hterminal
      exact .of_update rfl (findByPublicId_eq_some hfind).1
        (.inr (.inl (PaymentStatus.isSettled_of_isTerminal hopen)))

theorem assignReversed_eq_ok {view edited : Tables} {paymentId : ℕ} {reason : Option String}
    {following : Option Task}
    (hassign : assignReversed now view paymentId reason = .ok (edited, following)) :
    ∃ payment, view.payments.get? paymentId = some payment ∧ payment.status = .paid ∧
      edited = { view with
        payments := view.payments.update paymentId fun _ => payment.reverse now reason } ∧
      following = some (.recordReversal paymentId (payment.reverse now reason)) := by
  simp only [assignReversed, bind_eq_ok] at hassign
  obtain ⟨payment, hpayment, hassign⟩ := hassign
  split at hassign
  · exact absurd hassign throw_bind_ne_ok
  split at hassign
  · exact absurd hassign throw_bind_ne_ok
  next hpaid =>
    simp only [pure_eq_ok, Prod.mk.injEq] at hassign
    exact ⟨payment, requirePayment_eq_ok hpayment, not_not.mp hpaid, hassign.1.symm,
      hassign.2.symm⟩

/-- No part of a transaction moves a settled payment anywhere but to reversed. -/
theorem Task.execute_moves {task : Task} {view edited : Tables} {following : Option Task}
    (hexecute : task.execute settings now view = .ok (edited, following)) :
    view.PaymentsMove edited := by
  cases task with
  | markPaid publicId credit =>
      simp only [Task.execute, Except.ok.injEq] at hexecute
      have hmoves := assignPaid_moves now view publicId credit
      rwa [hexecute] at hmoves
  | recordCredit paymentId paid =>
      simp only [Task.execute] at hexecute
      split at hexecute
      · cases hexecute
      · obtain ⟨rfl, -⟩ := Prod.mk.inj (Except.ok.inj hexecute)
        refine .of_eq ?_
        split
        · rfl
        · exact recordPlanLedgerEntry_payments _ _ _ _ _
  | settleInvoice paymentId paid store =>
      simp only [Task.execute, bind_eq_ok, pure_eq_ok, Prod.mk.injEq] at hexecute
      obtain ⟨settled, hsettle, rfl, -⟩ := hexecute
      exact .of_eq (settleInvoiceForPayment_keeps hsettle).2.payments
  | retireSuccessors paymentId paid store =>
      simp only [Task.execute, Except.ok.injEq, Prod.mk.injEq] at hexecute
      obtain ⟨rfl, -⟩ := hexecute
      obtain ⟨events, deliveries, hretire⟩ := retireSuccessors_eq now view paymentId store
      have hpayments : (ChmabaPay.retireSuccessors now view paymentId store).payments =
          view.payments.updateWhere (fun _ payment =>
            decide (payment.reissuedFromId = some paymentId) && payment.status.isRetirable)
            Payment.supersede := by rw [hretire]
      refine .of_updateWhere hpayments fun key old _ hsuccessor => ?_
      have hretirable : old.status.isRetirable = true := by
        rw [Bool.and_eq_true] at hsuccessor
        exact hsuccessor.2
      exact .inr (.inl (PaymentStatus.isSettled_of_isRetirable hretirable))
  | complete paymentId paid store =>
      simp only [Task.execute, Except.ok.injEq, Prod.mk.injEq] at hexecute
      obtain ⟨rfl, -⟩ := hexecute
      exact .of_eq rfl
  | reversePayment paymentId reason =>
      obtain ⟨payment, hpayment, hpaid, rfl, -⟩ := assignReversed_eq_ok hexecute
      exact .of_update rfl hpayment (.inr (.inr ⟨hpaid, rfl⟩))
  | recordReversal paymentId reversed =>
      simp only [Task.execute] at hexecute
      split at hexecute
      · cases hexecute
      · obtain ⟨rfl, -⟩ := Prod.mk.inj (Except.ok.inj hexecute)
        exact .of_eq (recordPlanLedgerEntry_payments _ _ _ _ _)
  | expireDuePayments =>
      simp only [Task.execute, bind_eq_ok, pure_eq_ok, Prod.mk.injEq] at hexecute
      obtain ⟨⟨count, expired⟩, hexpire, rfl, -⟩ := hexecute
      obtain ⟨events, deliveries, hexpired⟩ := expireDuePayments_eq_ok hexpire
      have hpayments : expired.payments = view.payments.updateWhere
          (fun key _ => ((duePayments now view).map Prod.fst).contains key) Payment.expire := by
        rw [hexpired]
      refine .of_updateWhere hpayments fun key old hold hdue => ?_
      rw [List.contains_iff_mem, List.mem_map] at hdue
      obtain ⟨⟨_, due⟩, hmem, rfl⟩ := hdue
      obtain ⟨hget, hopen, -⟩ := mem_duePayments hmem
      obtain rfl := Option.some.inj (hget.symm.trans hold)
      exact .inr (.inl (PaymentStatus.isSettled_of_isOpen hopen))
  | changePlan accountId planCode =>
      simp only [Task.execute, bind_eq_ok, pure_eq_ok, Prod.mk.injEq] at hexecute
      obtain ⟨change, -, rfl, -⟩ := hexecute
      exact .of_eq rfl
  | applyPlanChange change =>
      simp only [Task.execute, bind_eq_ok, pure_eq_ok, Prod.mk.injEq] at hexecute
      obtain ⟨⟨out, changed⟩, happly, rfl, -⟩ := hexecute
      exact .of_eq (applyPlanChange_sameSales happly).payments
  | commitPlanChange change =>
      simp only [Task.execute, Except.ok.injEq, Prod.mk.injEq] at hexecute
      exact .of_eq (by rw [hexecute.1])
  | commit =>
      simp only [Task.execute, Except.ok.injEq, Prod.mk.injEq] at hexecute
      exact .of_eq (by rw [hexecute.1])

/-- Reading again neither adds nor loses an edit. -/
theorem Tables.PaymentsMove.view {loaded edited : Tables} (hmoves : loaded.PaymentsMove edited)
    (current : Tables) :
    (Tables.reload loaded edited current).PaymentsMove (Tables.view loaded edited current) := by
  refine ⟨fun key => ?_, fun key old new => ?_⟩
  · simp only [Tables.reload, Tables.view, Table.get?_reload, Table.get?_view, reloadRow, viewRow]
    split
    · exact Iff.rfl
    · exact hmoves.none_iff key
  · simp only [Tables.reload, Tables.view, Table.get?_reload, Table.get?_view, reloadRow, viewRow]
    split
    · intro hold hnew
      exact .inl (Option.some.inj (hnew.symm.trans hold))
    · exact hmoves.rows key old new

end Moves

/-! ## At the commit -/

/-- No payment the session is about to write was settled or given back since it
loaded it. -/
def Session.Undisturbed (session : Session) (db : Database) : Prop :=
  ∀ task, session.task = some task → task.isCommit = true → ∀ key loaded edited current,
    session.loaded.payments.get? key = some loaded →
    session.edited.payments.get? key = some edited → edited ≠ loaded →
    db.tables.payments.get? key = some current → current.status.isSettled = true →
    current.status = loaded.status

/-- A paid row stays as it is or becomes reversed, a reversed row stays as it
is. -/
def KeepsSettled (before after : Table Payment) : Prop :=
  ∀ key row, before.get? key = some row →
    (row.status = .paid → ∃ row', after.get? key = some row' ∧
      (row' = row ∨ row'.status = .reversed)) ∧
    (row.status = .reversed → after.get? key = some row)

theorem Session.undisturbed_iff {session : Session} {db : Database} :
    session.Undisturbed db ↔ ∀ task ∈ session.task, task.isCommit = true →
      ∀ current ∈ db.tables.payments.rows, current.2.status.isSettled = true →
        ∀ loaded ∈ session.loaded.payments.get? current.1,
          ∀ edited ∈ session.edited.payments.get? current.1, edited ≠ loaded →
            current.2.status = loaded.status := by
  constructor
  · intro hundisturbed task htask hcommit current hcurrent hsettled loaded hloaded edited
      hedited hne
    exact hundisturbed task htask hcommit current.1 loaded edited current.2 hloaded hedited hne
      (Table.get?_eq_some_iff.mpr hcurrent) hsettled
  · intro hrows task htask hcommit key loaded edited current hloaded hedited hne hcurrent hsettled
    exact hrows task htask hcommit (key, current) (Table.get?_eq_some_iff.mp hcurrent) hsettled
      loaded hloaded edited hedited hne

instance (session : Session) (db : Database) : Decidable (session.Undisturbed db) :=
  decidable_of_iff' _ Session.undisturbed_iff

theorem keepsSettled_iff {before after : Table Payment} :
    KeepsSettled before after ↔ ∀ row ∈ before.rows,
      (row.2.status = .paid → ∃ row' ∈ after.get? row.1,
        row' = row.2 ∨ row'.status = .reversed) ∧
      (row.2.status = .reversed → after.get? row.1 = some row.2) :=
  ⟨fun hkeeps row hrow => hkeeps row.1 row.2 (Table.get?_eq_some_iff.mpr hrow),
    fun hrows key row hrow => hrows (key, row) (Table.get?_eq_some_iff.mp hrow)⟩

instance (before after : Table Payment) : Decidable (KeepsSettled before after) :=
  decidable_of_iff' _ keepsSettled_iff

theorem KeepsSettled.of_get? {before after : Table Payment}
    (hsame : ∀ key, after.get? key = before.get? key) : KeepsSettled before after :=
  fun key row hrow => ⟨fun _ => ⟨row, (hsame key).trans hrow, .inl rfl⟩,
    fun _ => (hsame key).trans hrow⟩

/-- What a commit leaves of a settled row it found undisturbed. -/
theorem Session.written_keepsSettled {session : Session} {db : Database} {task : Task}
    (hmoves : session.loaded.PaymentsMove session.edited)
    (hundisturbed : session.Undisturbed db) (htask : session.task = some task)
    (hcommit : task.isCommit = true) :
    KeepsSettled db.tables.payments (session.written db.tables).payments := by
  intro key current hcurrent
  have hget : (session.written db.tables).payments.get? key =
      writeRow (fun _ => false) (session.loaded.payments.get? key)
        (session.edited.payments.get? key) (some current) := by
    rw [← hcurrent]
    exact Table.get?_write _ _ _ _
  have hkept : (session.written db.tables).payments.get? key = some current →
      (current.status = .paid → ∃ row, (session.written db.tables).payments.get? key = some row ∧
        (row = current ∨ row.status = .reversed)) ∧
      (current.status = .reversed →
        (session.written db.tables).payments.get? key = some current) :=
    fun hsame => ⟨fun _ => ⟨current, hsame, .inl rfl⟩, fun _ => hsame⟩
  cases hloaded : session.loaded.payments.get? key with
  | none =>
      rw [hloaded, (hmoves.none_iff key).mpr hloaded] at hget
      exact hkept hget
  | some loaded =>
      cases hedited : session.edited.payments.get? key with
      | none =>
          rw [(hmoves.none_iff key).mp hedited] at hloaded
          cases hloaded
      | some edited =>
          rw [hloaded, hedited] at hget
          by_cases hsame : edited = loaded
          · rw [hsame, writeRow_self] at hget
            exact hkept hget
          -- the row is written: it was loaded in the status it is committed in
          have hstatus : current.status.isSettled = true → current.status = loaded.status :=
            hundisturbed task htask hcommit key loaded edited current hloaded hedited hsame
              hcurrent
          have hwritten : (session.written db.tables).payments.get? key =
              some (Columns.write loaded edited current) := by
            rw [hget, writeRow_of_ne _ hsame]
          have hsettled : current.status.isSettled = true →
              loaded.status = .paid ∧ edited.status = .reversed := by
            intro hsettled
            rcases hmoves.rows key loaded edited hloaded hedited with rfl | hopen | hgiven
            · exact absurd rfl hsame
            · rw [← hstatus hsettled, hsettled] at hopen
              cases hopen
            · exact hgiven
          refine ⟨fun hpaid => ⟨_, hwritten, .inr ?_⟩, fun hreversed => ?_⟩
          · obtain ⟨hbefore, hafter⟩ := hsettled (by rw [hpaid]; rfl)
            change assign loaded.status edited.status current.status = .reversed
            rw [assign_of_ne (by rw [hbefore, hafter]; nofun), hafter]
          · have hsettles : current.status.isSettled = true := by rw [hreversed]; rfl
            have hloadedPaid := (hsettled hsettles).1
            rw [← hstatus hsettles, hreversed] at hloadedPaid
            cases hloadedPaid

/-! ## Runs -/

/-- The step keeps the settled payments it finds. -/
def Server.KeepsSettled (settings : Settings) (pool : Server)
    (turn : Turn Request Instant) : Prop :=
  ChmabaPay.KeepsSettled pool.shared.tables.payments
    (next (server settings).step pool turn).shared.tables.payments

instance (settings : Settings) (pool : Server) (turn : Turn Request Instant) :
    Decidable (Server.KeepsSettled settings pool turn) :=
  inferInstanceAs (Decidable (ChmabaPay.KeepsSettled _ _))

theorem preserved_moves (settings : Settings) :
    Preserved (server settings) (fun _ => True) (fun db _ session => session.Undisturbed db)
      (fun _ => True) (fun _ session => session.loaded.PaymentsMove session.edited) where
  start _ _ _ _ := .of_eq rfl
  own db now session _ hmoves _ := by
    refine ⟨trivial, ?_⟩
    change (session.advance settings db now).2.loaded.PaymentsMove
      (session.advance settings db now).2.edited
    rcases session.advance_cases settings db now with
      ⟨-, hsame | hclosed⟩ | ⟨task, -, -, hvalid, hadvance⟩ |
        ⟨task, edited, following, -, -, hexecute, hadvance⟩
    · rw [hsame]
      exact hmoves
    · rw [hclosed]
      exact hmoves
    · rw [hadvance]
      exact hmoves
    · rw [hadvance]
      exact (hmoves.view db.tables).trans (Task.execute_moves hexecute)
  other _ _ _ _ _ _ _ hmoves := hmoves

/-- In every interleaving of transactions none of which commits over a payment
that was settled or given back since it was loaded, a paid payment is only ever
changed to reversed and a reversed one is never changed again. -/
theorem settled_payments_kept {settings : Settings} {pool : Server}
    (hidle : pool.sessions = []) {turns : List (Turn Request Instant)}
    (hundisturbed : Along (server settings).step
      (Meets (fun _ => True) fun db _ session => session.Undisturbed db) pool turns) :
    Along (server settings).step (Server.KeepsSettled settings) pool turns := by
  refine along_of_invariant _ _ _ (preserved_moves settings).step ?_
    (Pool.holds_of_idle trivial hidle) hundisturbed
  rintro pool turn ⟨-, hmoves⟩ hmeets
  cases turn with
  | start request => exact .of_get? fun key => rfl
  | advance index now =>
      unfold Server.KeepsSettled
      cases hat : pool.sessions[index]? with
      | none =>
          rw [next_advance_of_none hat]
          exact .of_get? fun key => rfl
      | some session =>
          rw [next_advance_of_some hat]
          have hsession := hmoves session (List.mem_of_getElem? hat)
          change ChmabaPay.KeepsSettled _
            (session.advance settings pool.shared now).1.tables.payments
          rcases session.advance_cases settings pool.shared now with
            ⟨hsame, -⟩ | ⟨task, htask, hcommit, hvalid, hadvance⟩ |
              ⟨task, edited, following, -, -, -, hadvance⟩
          · rw [hsame]
            exact .of_get? fun key => rfl
          · rw [hadvance]
            exact Session.written_keepsSettled hsession (hmeets session hat) htask hcommit
          · rw [hadvance]
            exact .of_get? fun key => rfl

/-- The sweep finds the code lapsed and commits; the credit arrives late and
settles it all the same. -/
def lateCredit : List (Turn Request Instant) :=
  [.start .expireDuePayments, .start (.markPaid "pay_1" Specimen.credit),
    .advance 0 (seconds 400), .advance 0 (seconds 400)] ++
  List.replicate 6 (.advance 1 (seconds 410))

/-- The same two transactions, but the credit is committed between the sweep's
read and its commit. -/
def staleSweep : List (Turn Request Instant) :=
  [.start .expireDuePayments, .start (.markPaid "pay_1" Specimen.credit),
    .advance 0 (seconds 400)] ++
  List.replicate 6 (.advance 1 (seconds 400)) ++ [.advance 0 (seconds 401)]

theorem settled_payments_kept_late_credit :
    ((run (server {}).step ⟨Specimen.sale, []⟩ lateCredit).shared.tables.payments.get? 0).map
        (·.status) = some .paid ∧
      Along (server {}).step (Server.KeepsSettled {}) ⟨Specimen.sale, []⟩ lateCredit := by
  refine ⟨by decide +kernel, settled_payments_kept rfl ?_⟩
  decide +kernel

theorem settled_payment_expired :
    ¬ Along (server {}).step (Server.KeepsSettled {}) ⟨Specimen.sale, []⟩ staleSweep := by
  decide +kernel

end ChmabaPay
