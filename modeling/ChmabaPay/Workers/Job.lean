import ChmabaPay.Foundation.Redis
import ChmabaPay.Models

/-! # Jobs

A job, the record it is stored as, and the policy of `_run_one`: how often a job
may be tried and how long it waits after a failure. Both transports keep the same
counters and report them in the same shape.
-/

namespace ChmabaPay

open Calendar

/-- Job identities are drawn one after the other, so no two jobs share one. -/
structure Job where
  queueName : String
  payload : JsonObject
  dedupKey : Option String := none
  jobId : ℕ
  attempts : ℕ := 0
  maxAttempts : ℕ := 10
deriving DecidableEq

/-- The JSON object `_record` writes. -/
structure Record where
  id : ℕ
  queue : String
  dedupKey : Option String
  attempts : ℕ
  maxAttempts : ℕ
  payload : JsonObject
deriving DecidableEq

def Job.record (job : Job) : Record where
  id := job.jobId
  queue := job.queueName
  dedupKey := job.dedupKey
  attempts := job.attempts
  maxAttempts := job.maxAttempts
  payload := job.payload

/-- `_decode`. A maximum of zero reads as missing and falls back to ten. -/
def Record.decode (record : Record) : Job where
  queueName := record.queue
  payload := record.payload
  dedupKey := record.dedupKey
  jobId := record.id
  attempts := record.attempts
  maxAttempts := if record.maxAttempts = 0 then 10 else record.maxAttempts

/-- Encoding loses nothing of a job that may be tried at all. -/
theorem Job.decode_record {job : Job} (hmax : job.maxAttempts ≠ 0) :
    job.record.decode = job := by
  simp [Job.record, Record.decode, hmax]

@[simp] theorem Record.decode_jobId (record : Record) : record.decode.jobId = record.id := rfl

@[simp] theorem Record.decode_queueName (record : Record) :
    record.decode.queueName = record.queue := rfl

@[simp] theorem Record.decode_attempts (record : Record) :
    record.decode.attempts = record.attempts := rfl

/-! ## The policy of `_run_one` -/

/-- The job as `process` receives it. -/
def Job.tried (job : Job) : Job := { job with attempts := job.attempts + 1 }

/-- The backoff `_run_one` asks for after a failure: none once the attempts are
used up. -/
def Job.retryAfter (job : Job) : Option ℕ :=
  if job.maxAttempts ≤ job.attempts then none else some (min 600 (2 ^ job.attempts))

/-- How a call of `process` ends: it returns, it raises, or it raises
`asyncio.CancelledError`, which `_run_one` lets through. -/
inductive Outcome
  | returns
  | raises
  | cancelled
deriving DecidableEq

def Outcome.raised (outcome : Outcome) : Bool := decide (outcome ≠ .returns)

/-- How long `mark_done` holds a retry back. -/
def retryDelay (retryAfter : ℕ) : Int := seconds (max 1 retryAfter)

theorem retryDelay_pos (retryAfter : ℕ) : 0 < retryDelay retryAfter := by
  simp only [retryDelay, seconds]
  omega

/-! ## Counters -/

structure Counters where
  enqueued : ℕ := 0
  success : ℕ := 0
  retry : ℕ := 0
  dead : ℕ := 0
deriving DecidableEq

def Counters.bumpEnqueued (counters : Counters) : Counters :=
  { counters with enqueued := counters.enqueued + 1 }

def Counters.bumpSuccess (counters : Counters) : Counters :=
  { counters with success := counters.success + 1 }

def Counters.bumpRetry (counters : Counters) : Counters :=
  { counters with retry := counters.retry + 1 }

def Counters.bumpDead (counters : Counters) : Counters :=
  { counters with dead := counters.dead + 1 }

/-- What a dequeue returns, and when. -/
structure Batch where
  jobs : List Job
  returnedAt : Instant

/-- What `metrics` reports for a queue. -/
structure QueueMetrics where
  pending : ℕ
  counters : Counters
deriving DecidableEq

end ChmabaPay
