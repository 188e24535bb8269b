import ChmabaPay.Database

/-! # The sweep over unsettled payments

W1 polls again what nothing else is watching: on each heartbeat the oldest payments of
the detection window, and the ones that have just left it for a last look. Both are
read by a fixed order and a cap.
-/

namespace ChmabaPay

open Calendar Relational

/-- The statuses a poll can still settle. -/
def PaymentStatus.isUnsettled : PaymentStatus → Bool
  | .pending | .scanned | .expired | .superseded => true
  | .paid | .failed | .reversed => false

/-- `_ORPHAN_BATCH`. -/
def orphanBatch : ℕ := 20

/-- `_FINAL_BATCH`. -/
def finalBatch : ℕ := 20

/-- The keys of a heartbeat that narrow the sweep. -/
structure ScanPayload where
  maxAgeSeconds : Option ℕ := none
  batchSize : Option ℕ := none
deriving DecidableEq

/-- A missing batch size, or none at all, is the default. -/
def ScanPayload.batch (payload : ScanPayload) : ℕ :=
  match payload.batchSize with
  | none => orphanBatch
  | some size => if size = 0 then orphanBatch else size

/-- The payments of the window, oldest first. -/
def backlog (settings : Settings) (now : Instant) (payments : Table Payment)
    (payload : ScanPayload) : List String :=
  (payments.select fun _ payment =>
    payment.status.isUnsettled &&
      decide (now - seconds settings.detectionWindowSeconds ≤ payment.createdAt) &&
      (payload.maxAgeSeconds.all fun age =>
        decide (age = 0) || decide (now - seconds age ≤ payment.createdAt))).map
    fun row => row.2.publicId

/-- The payments that left the window within the last window's length and have not had
their last look. -/
def crossing (settings : Settings) (now : Instant) (payments : Table Payment) : List String :=
  (payments.select fun _ payment =>
    payment.status.isUnsettled && decide (payment.detectionClosedAt = none) &&
      decide (payment.createdAt < now - seconds settings.detectionWindowSeconds) &&
      decide (now - seconds settings.detectionWindowSeconds -
        seconds settings.detectionWindowSeconds ≤ payment.createdAt)).map
    fun row => row.2.publicId

/-- A job for the detection queue. -/
structure DetectionJob where
  paymentPublicId : String
  final : Bool
deriving DecidableEq

/-- Enqueue what the queue takes; a job it refuses is skipped. -/
def enqueueAll (accepts : DetectionJob → Bool) (final : Bool) (publicIds : List String) :
    List DetectionJob :=
  (publicIds.map fun publicId => ⟨publicId, final⟩).filter accepts

/-- The jobs of the payments in the window. -/
def scanJobs (settings : Settings) (now : Instant) (payments : Table Payment)
    (payload : ScanPayload) (accepts : DetectionJob → Bool) : List DetectionJob :=
  enqueueAll accepts false ((backlog settings now payments payload).take payload.batch)

/-- `_close_crossed_window`. -/
def closeCrossedWindow (settings : Settings) (now : Instant) (payments : Table Payment)
    (accepts : DetectionJob → Bool) : List DetectionJob :=
  enqueueAll accepts true ((crossing settings now payments).take finalBatch)

/-- `_orphan_scan`: the jobs one sweep enqueues. Without a transport there are none. -/
def orphanScan (settings : Settings) (now : Instant) (payments : Table Payment)
    (payload : ScanPayload) (transport : Option (DetectionJob → Bool)) : List DetectionJob :=
  match transport with
  | none => []
  | some accepts =>
      scanJobs settings now payments payload accepts ++
        closeCrossedWindow settings now payments accepts

end ChmabaPay
