import ChmabaPay.Services.Steps

/-! # Workers that catch what they call

Two workers go on after an exception in the service they called, with the same
session. Detection saves its attempt record in any case; the expiry sweep falls back
to an UPDATE of its own. An exception of the database makes the session unusable, so
what follows it fails too and nothing is committed.
-/

namespace ChmabaPay

open Calendar Relational

/-- An exception raised after some steps of an operation. -/
structure Fault where
  steps : ℕ
  database : Bool
deriving DecidableEq

/-- The tables a session is left with when its operation is broken off by an
exception that it survives, and whether there is one it does not survive. -/
def Fault.outcome (fault : Option Fault) (walk : Walk Tables) (tables : Tables) :
    Except Failure (Option Tables) :=
  match walk.brokenOff tables (fault.map Fault.steps) with
  | none => .ok none
  | some left =>
      if fault.any fun fault => decide (fault.steps < walk.states.length) && fault.database then
        .error .integrity
      else .ok (some left)

/-! ## W1 -/

/-- `_append_attempt`, with the closing of the detection window. -/
def Payment.recordAttempt (attempt : Attempt) (closedAt : Option Instant) (payment : Payment) :
    Payment :=
  { payment with
    detectionClosedAt := closedAt <|> payment.detectionClosedAt
    attemptHistory := some (payment.attemptHistory.getD [] ++ [attempt]) }

def appendAttempt (paymentId : ℕ) (attempt : Attempt) (closedAt : Option Instant)
    (tables : Tables) : Tables :=
  { tables with
    payments := tables.payments.update paymentId (Payment.recordAttempt attempt closedAt) }

/-- `_process_one` for a payment the rail reports as settled: `reconcile_payment`
catches whatever `mark_paid` raises, and the job commits its attempt record. -/
def processDetection (settings : Settings) (now : Instant) (db : Database) (publicId : String)
    (credit : Credit) (attempt : Attempt) (closedAt : Option Instant) (ledgerFails : Bool)
    (fault : Option Fault) : Except Failure Database :=
  match findByPublicId db.tables publicId with
  | none => .ok db
  | some (paymentId, payment) =>
      if payment.status.isTerminal then .ok db
      else do
        let walk := settlePaymentWalk settings now paymentId payment credit ledgerFails db.tables
        match ← Fault.outcome fault walk db.tables with
        | some left => (appendAttempt paymentId attempt closedAt left).commit
        | none =>
            -- `mark_paid` commits by itself, and the job once more
            let settled ← (walk.last db.tables).commit
            (appendAttempt paymentId attempt closedAt settled.tables).commit

/-! ## W4 -/

/-- The UPDATE the sweep falls back to. -/
def expireAllDue (now : Instant) (tables : Tables) : Tables :=
  { tables with
    payments := tables.payments.updateWhere
      (fun _ payment => payment.status.isOpen && decide (payment.expiresAt ≤ now))
      fun payment => { payment with status := .expired } }

/-- `_sweep`. -/
def sweepExpired (now : Instant) (db : Database) (fault : Option Fault) :
    Except Failure Database := do
  let walk := expireDuePaymentsWalk now db.tables
  match ← Fault.outcome fault walk db.tables with
  | some left => (expireAllDue now left).commit
  | none => (walk.last db.tables).commit

end ChmabaPay
