import ChmabaPay.Payments.Rails
import ChmabaPay.Routers.Payments
import ChmabaPay.Services.StatusReconciler
import ChmabaPay.Workers.OrphanScan

/-! # The jobs of W1

A job reconciles one payment and commits its attempt record in the same session, whatever
the reconciliation came to. The last job of a payment also closes its detection window, and
alerts an operator after the commit when it has no answer. A payment of a test key is
settled without asking anybody.
-/

namespace ChmabaPay

open Calendar Relational

/-- What a job leaves behind: the committed state, the closing mark it committed, the alert
it sent and the exception it ended with. -/
structure Handled where
  db : Database
  closedAt : Option Instant := none
  alert : Option (String × String) := none
  raised : Option String := none

/-! ## The attempt record -/

/-- The matched amount in cents. What is not a number cannot be rounded. -/
def matchedAmountCents : Option LedgerAmount → Except String (Option Int)
  | none => .ok none
  | some (.integer value) => .ok (some (value * 100))
  | some (.double value) => .ok (some (Doubles.halfEven (Doubles.nearest (value * 100))))
  | some (.other _ _) => .error "matched_amount cannot be rounded"

def shorten (count : ℕ) (text : String) : String := String.ofList (text.toList.take count)

/-- `_close_detection_window`: what is noted, and whom it wakes. -/
def closeDetectionWindow (publicId : String) (result : ReconcileResult) :
    String × Option (String × String) :=
  if result.status = .paid then ("closed: settled", none)
  else
    match result.error with
    | some error =>
        ("closed unresolved: " ++ shorten 160 error,
          some ("payment outcome unknown",
            publicId ++ " left the detection window without a usable " ++
              "answer from the rail (" ++ shorten 200 error ++ "). The customer may " ++
              "have paid: check the merchant's ABA account before treating this " ++
              "sale as lost."))
    | none => ("closed: rail answered, not paid", none)

/-- The note of a job that closes nothing. -/
def attemptNote (result : ReconcileResult) : String :=
  match result.error with
  | some error => shorten 120 error
  | none => result.status.name

def attemptOf (printing : Printing) (now : Instant) (result : ReconcileResult)
    (matchedCents : Option Int) (note : String) (closedAt : Option Instant) : Attempt :=
  .detection (result.source.getD statusSourceBakongOpenApi) now matchedCents
    (result.signals.map (Signal.text printing)) note result.transitionedToPaid closedAt

/-! ## A job -/

/-- `mark_paid` as one session calls it. -/
def sessionMarkPaid (settings : Settings) (now : Instant) (tables : Tables) (publicId : String)
    (interruption : Interruption) : Option (Credit → MarkPaidCall) :=
  some (callMarkPaid settings now tables publicId interruption)

/-- What the session holds after a reconciliation. -/
def sessionAfter (tables : Tables) (call : Option MarkPaidCall) : Option Tables :=
  match call with
  | none => some tables
  | some call => call.session

/-- The attempt is appended and the job commits. A session that is no longer usable commits
nothing. -/
def saveAttempt (session : Option Tables) (paymentId : ℕ) (attempt : Attempt)
    (closedAt : Option Instant) : Except Failure Database :=
  match session with
  | none => .error .integrity
  | some tables => (appendAttempt paymentId attempt closedAt tables).commit

def credentialsMissing : String :=
  "bakong credentials missing; cannot reconcile in live mode. " ++
    "Use ApiKey.mode='test' for local development."

/-- `_process_one`, past the test-mode branch. -/
def processOne (settings : Settings) (printing : Printing) (now : Instant) (db : Database)
    (calls : RailCalls) (interruption : Interruption) (job : DetectionJob) :
    Except Failure Handled :=
  match findByPublicId db.tables job.paymentPublicId with
  | none => .ok { db := db }
  | some (paymentId, payment) =>
      if payment.status.isTerminal then .ok { db := db }
      else if payment.isHosted = false ∧
          (settings.bakongApiToken.filter (· ≠ "")).isNone ∧
          (settings.bakongDeveloperEmail.filter (· ≠ "")).isNone then
        .ok { db := db, raised := some credentialsMissing }
      else
        let (result, call) := reconcilePayment printing payment calls {}
          (sessionMarkPaid settings now db.tables payment.publicId interruption)
        let session := sessionAfter db.tables call
        match matchedAmountCents result.matchedAmount with
        | .error message => do
            let saved ← saveAttempt session paymentId
              (attemptOf printing now { result with transitionedToPaid := false } none "" none) none
            return { db := saved, raised := some message }
        | .ok matchedCents => do
            let (note, alert) := if job.final then closeDetectionWindow payment.publicId result
              else (attemptNote result, none)
            let closedAt := if job.final then some now else none
            let saved ← saveAttempt session paymentId
              (attemptOf printing now result matchedCents note closedAt) closedAt
            return { db := saved, closedAt := closedAt, alert := alert }

/-! ## Test mode -/

/-- `_test_mode_bypass`. -/
def testModeBypass (settings : Settings) (now : Instant) (db : Database) (publicId : String)
    (jobId : String) (interruption : Interruption) : Except Failure Handled :=
  match findByPublicId db.tables publicId with
  | none => .ok { db := db }
  | some (paymentId, payment) =>
      let attempt := Attempt.detection "test-mode-fake-delay" now (some payment.amountCents)
        ["mock_delay_5s", "ttl_bypassed"] "dev test mode; no Bakong/ABA network call made" false
        none
      if payment.status.isOpen then
        let call := callMarkPaid settings now db.tables publicId interruption
          { bakongRef := some ("test:" ++ publicId)
            gatewayRaw := some {
              paywayHosted := none
              entries := [("source", .text "test-mode-fake-delay"),
                ("slept_for_seconds", .number 5), ("job_id", .text jobId)] } }
        match call.outcome with
        | .error message => .ok { db := call.committed.getD db, raised := some message }
        | .ok _ => do
            let saved ← saveAttempt call.session paymentId attempt none
            return { db := saved }
      else do
        let saved ← saveAttempt (some db.tables) paymentId attempt none
        return { db := saved }

end ChmabaPay
