import ChmabaPay.Payments.Evolution
import ChmabaPay.Sessions

/-! # The parts of a transaction

A transaction whose parts run one after the other, with nothing in between, is
the operation. Interleaved, one turn of a session is a statement or a commit,
and what it does is read off here.
-/

namespace ChmabaPay

open Calendar Relational Execution Fallible Interleaving

/-! ## Serially -/

def Request.op : Request → Op
  | .markPaid publicId credit => .markPaid publicId credit
  | .reversePayment paymentId reason => .reversePayment paymentId reason
  | .expireDuePayments => .expireDuePayments
  | .changePlan accountId planCode => .changePlan accountId planCode

/-- The parts of a transaction up to its commit, each on what the one before it
left. -/
def serially (settings : Settings) (now : Instant) : ℕ → Task → Tables → Except Failure Tables
  | 0, _, tables => .ok tables
  | fuel + 1, task, tables =>
      if task.isCommit then .ok tables
      else do
        let (edited, following) ← task.execute settings now tables
        match following with
        | none => return edited
        | some later => serially settings now fuel later edited

theorem serially_markPaid (settings : Settings) (now : Instant) (tables : Tables)
    (publicId : String) (credit : Credit) :
    serially settings now 6 (.markPaid publicId credit) tables =
      (markPaid settings now tables publicId credit).map Prod.snd := by
  simp only [serially, Task.isCommit, Task.execute, assignPaid, markPaid, Bool.false_eq_true,
    if_false]
  cases hfind : findByPublicId tables publicId with
  | none => rfl
  | some found =>
      obtain ⟨paymentId, payment⟩ := found
      by_cases hterminal : payment.status.isTerminal = true
      · simp [hterminal, Except.map, bind, Except.bind, pure, Except.pure]
      · have hstore : (payment.settle now credit.bakongRef credit.gatewayRaw).storeId =
            payment.storeId := rfl
        simp only [hterminal, settlePayment, hstore, bind, Except.bind, Bool.false_eq_true,
          if_false]
        cases hget : tables.stores.get? payment.storeId with
        | none => rfl
        | some store =>
            simp only [Payment.settle, Option.getD_some]
            cases settleInvoiceForPayment settings now
              (if store.isInternal = true then _ else _) paymentId now with
            | error failure => rfl
            | ok settled => rfl

theorem serially_reversePayment (settings : Settings) (now : Instant) (tables : Tables)
    (paymentId : ℕ) (reason : Option String) :
    serially settings now 6 (.reversePayment paymentId reason) tables =
      (perform settings now tables (.reversePayment paymentId reason)).map Prod.snd := by
  simp only [serially, Task.isCommit, Task.execute, assignReversed, perform, reversePayment,
    Bool.false_eq_true, if_false]
  cases hpayment : requirePayment tables paymentId with
  | error failure => rfl
  | ok payment =>
      by_cases hreversed : payment.status = .reversed
      · simp [hreversed, bind, Except.bind, throw, throwThe, MonadExceptOf.throw, Except.map]
      by_cases hpaid : payment.status = .paid
      · have hstore : (payment.reverse now reason).storeId = payment.storeId := rfl
        cases hget : tables.stores.get? payment.storeId with
        | none =>
            simp [hpaid, hstore, hget, Except.map, bind, Except.bind, pure, Except.pure]
        | some store =>
            simp [hpaid, hstore, hget, Except.map, bind, Except.bind, pure, Except.pure]
      · simp [hreversed, hpaid, bind, Except.bind, throw, throwThe, MonadExceptOf.throw, Except.map]

/-- Run without interruption, the parts of a transaction are the operation. -/
theorem serially_eq_perform (settings : Settings) (now : Instant) (tables : Tables)
    (request : Request) :
    serially settings now 6 request.task tables =
      (perform settings now tables request.op).map Prod.snd := by
  cases request with
  | markPaid publicId credit =>
      rw [Request.task, serially_markPaid]
      simp only [Request.op, perform]
      cases markPaid settings now tables publicId credit with
      | error failure => rfl
      | ok outcome => rfl
  | reversePayment paymentId reason => exact serially_reversePayment _ _ _ _ _
  | expireDuePayments =>
      simp only [Request.task, Request.op, perform, serially, Task.isCommit, Task.execute,
        Bool.false_eq_true, if_false]
      cases expireDuePayments now tables with
      | error failure => rfl
      | ok outcome =>
          by_cases hnone : outcome.1 = 0 <;>
            simp [hnone, bind, Except.bind, pure, Except.pure, Except.map]
  | changePlan accountId planCode =>
      simp only [Request.task, Request.op, perform, changePlan, serially, Task.isCommit,
        Task.execute, Bool.false_eq_true, if_false]
      cases readPlanChange tables accountId planCode with
      | error failure => rfl
      | ok change =>
          simp only [bind, Except.bind, pure, Except.pure]
          cases applyPlanChange now tables change with
          | error failure => rfl
          | ok outcome => rfl

/-! ## One turn of a session -/

section Turn

variable {settings : Settings} {db : Database} {now : Instant} {session : Session} {task : Task}

theorem Session.advance_of_closed (hclosed : session.task = none) :
    session.advance settings db now = (db, session) := by
  simp [Session.advance, hclosed]

theorem Session.advance_of_commit (htask : session.task = some task)
    (hcommit : task.isCommit = true) (hvalid : Constraints (session.written db.tables)) :
    session.advance settings db now = (⟨session.written db.tables, hvalid⟩, session.close) := by
  simp [Session.advance, htask, hcommit, Tables.commit_of_valid hvalid]

theorem Session.advance_of_refusal (htask : session.task = some task)
    (hcommit : task.isCommit = true) (hinvalid : ¬ Constraints (session.written db.tables)) :
    session.advance settings db now = (db, session.close) := by
  simp [Session.advance, htask, hcommit, Tables.commit, hinvalid]

theorem Session.advance_of_failure {failure : Failure} (htask : session.task = some task)
    (hpart : task.isCommit = false)
    (hexecute : task.execute settings now
      (Tables.view session.loaded session.edited db.tables) = .error failure) :
    session.advance settings db now = (db, session.close) := by
  simp [Session.advance, htask, hpart, hexecute]

theorem Session.advance_of_statement {edited : Tables} {following : Option Task}
    (htask : session.task = some task) (hpart : task.isCommit = false)
    (hexecute : task.execute settings now
      (Tables.view session.loaded session.edited db.tables) = .ok (edited, following)) :
    session.advance settings db now =
      (db.draw edited,
        ⟨Tables.reload session.loaded session.edited db.tables, edited, following⟩) := by
  simp [Session.advance, htask, hpart, hexecute]

/-- A turn leaves the database alone, commits what the session holds, or runs one
statement, which draws keys and nothing else. -/
theorem Session.advance_cases (settings : Settings) (db : Database) (now : Instant)
    (session : Session) :
    ((session.advance settings db now).1 = db ∧
        ((session.advance settings db now).2 = session ∨
          (session.advance settings db now).2 = session.close)) ∨
      (∃ task, session.task = some task ∧ task.isCommit = true ∧
        ∃ hvalid : Constraints (session.written db.tables),
          session.advance settings db now =
            (⟨session.written db.tables, hvalid⟩, session.close)) ∨
      ∃ task edited following, session.task = some task ∧ task.isCommit = false ∧
        task.execute settings now (Tables.view session.loaded session.edited db.tables) =
          .ok (edited, following) ∧
        session.advance settings db now =
          (db.draw edited,
            ⟨Tables.reload session.loaded session.edited db.tables, edited, following⟩) := by
  cases htask : session.task with
  | none => exact .inl (by simp [Session.advance_of_closed htask])
  | some task =>
      cases hcommit : task.isCommit with
      | true =>
          by_cases hvalid : Constraints (session.written db.tables)
          · exact .inr (.inl ⟨task, rfl, hcommit, hvalid,
              Session.advance_of_commit htask hcommit hvalid⟩)
          · exact .inl (by simp [Session.advance_of_refusal htask hcommit hvalid])
      | false =>
          cases hexecute : task.execute settings now
              (Tables.view session.loaded session.edited db.tables) with
          | error failure =>
              exact .inl (by simp [Session.advance_of_failure htask hcommit hexecute])
          | ok outcome =>
              obtain ⟨edited, following⟩ := outcome
              exact .inr (.inr ⟨task, edited, following, rfl, hcommit, hexecute,
                Session.advance_of_statement htask hcommit hexecute⟩)

end Turn

end ChmabaPay
