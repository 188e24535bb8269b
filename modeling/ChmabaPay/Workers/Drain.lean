import ChmabaPay.Foundation.Execution
import ChmabaPay.Workers.InProcess
import ChmabaPay.Workers.RedisTransport

/-! # The drain loops of one process

`run_workers` drains every queue in a loop of its own over one transport. A loop
asks for a batch, hands every job of the batch to `process`, marks each of them
done and asks again when the whole batch has ended. Callers enqueue jobs at any
time. The loops do not care which transport they run over.
-/

namespace ChmabaPay

open Calendar Execution

/-- The interface both transports implement. -/
class QueueTransport (σ : Type) where
  accepts : Instant → Option String → σ → Bool
  enqueue : Instant → Job → σ → σ
  dequeue : Instant → String → ℕ → Int → σ → Batch × σ
  markDone : Instant → Job → Bool → Option ℕ → σ → σ
  metrics : Instant → String → σ → QueueMetrics

instance : QueueTransport InProcessTransport where
  accepts := InProcessTransport.accepts
  enqueue := InProcessTransport.enqueue
  dequeue := InProcessTransport.dequeue
  markDone := InProcessTransport.markDone
  metrics := InProcessTransport.metrics

instance : QueueTransport RedisTransport where
  accepts := RedisTransport.accepts
  enqueue := RedisTransport.enqueue
  dequeue := RedisTransport.dequeue
  markDone := RedisTransport.markDone
  metrics _ := RedisTransport.metrics

/-- A job of a batch, before or during its call of `process`. -/
structure Running where
  job : Job
  deliveredAt : Instant
  called : Bool := false
deriving DecidableEq

/-- A call of `process` that has ended: the job as it was handed over, and by how
much marking it done moved the counters of success and death. -/
structure ProcessCall where
  job : Job
  deliveredAt : Instant
  raised : Bool
  endedAt : Instant
  success : ℕ
  dead : ℕ
deriving DecidableEq

/-- The process with its transport. `queued` and `calls` only record what happened. -/
structure Drain (σ : Type) where
  transport : σ
  now : Instant := 0
  drawn : ℕ := 0
  batch : String → List Running := fun _ => []
  queued : String → List Job := fun _ => []
  calls : String → List ProcessCall := fun _ => []

inductive DrainInput
  | wait (span : ℕ)
  | enqueue (queue : String) (payload : JsonObject) (dedupKey : Option String)
  | poll (queue : String)
  | call (queue : String) (index : ℕ)
  | finish (queue : String) (index : ℕ) (outcome : Outcome)
deriving DecidableEq

/-- How long a loop waits for work, in microseconds. -/
def tick : Int := 50000

variable {σ : Type} [QueueTransport σ]

/-- The end of `_run_one`: the job is marked done unless its call was cancelled. -/
def settleJob (now : Instant) (job : Job) (outcome : Outcome) (transport : σ) : σ :=
  match outcome with
  | .returns => QueueTransport.markDone now job true none transport
  | .raises => QueueTransport.markDone now job false job.retryAfter transport
  | .cancelled => transport

def Drain.step (prefetch : String → ℕ) (drain : Drain σ) : DrainInput → Drain σ × Unit
  | .wait span => ({ drain with now := drain.now + span }, ())
  | .enqueue queue payload dedupKey =>
      let job : Job :=
        { queueName := queue, payload := payload, dedupKey := dedupKey, jobId := drain.drawn }
      ({ drain with
        transport := QueueTransport.enqueue drain.now job drain.transport
        drawn := drain.drawn + 1
        queued := if QueueTransport.accepts drain.now dedupKey drain.transport then
            Function.update drain.queued queue (drain.queued queue ++ [job])
          else drain.queued }, ())
  | .poll queue =>
      -- a loop asks for more only when its batch has ended
      if drain.batch queue = [] then
        let (batch, transport) :=
          QueueTransport.dequeue drain.now queue (prefetch queue) tick drain.transport
        ({ drain with
          transport := transport
          now := batch.returnedAt
          batch := Function.update drain.batch queue
            (batch.jobs.map fun job => ⟨job, batch.returnedAt, false⟩) }, ())
      else (drain, ())
  | .call queue index =>
      match (drain.batch queue)[index]? with
      | some ⟨job, deliveredAt, false⟩ =>
          ({ drain with
            batch := Function.update drain.batch queue
              ((drain.batch queue).set index ⟨job.tried, deliveredAt, true⟩) }, ())
      | _ => (drain, ())
  | .finish queue index outcome =>
      match (drain.batch queue)[index]? with
      | some ⟨job, deliveredAt, true⟩ =>
          let transport := settleJob drain.now job outcome drain.transport
          let before := (QueueTransport.metrics drain.now queue drain.transport).counters
          let after := (QueueTransport.metrics drain.now queue transport).counters
          ({ drain with
            transport := transport
            batch := Function.update drain.batch queue ((drain.batch queue).eraseIdx index)
            calls := Function.update drain.calls queue (drain.calls queue ++
              [⟨job, deliveredAt, outcome.raised, drain.now, after.success - before.success,
                after.dead - before.dead⟩]) }, ())
      | _ => (drain, ())

/-- The input does not end a call of `process` that runs by cancelling it. -/
def Drain.LetsEnd (drain : Drain σ) : DrainInput → Prop
  | .finish queue index .cancelled =>
      ∀ job deliveredAt, (drain.batch queue)[index]? ≠ some ⟨job, deliveredAt, true⟩
  | _ => True

/-- The process after the first inputs of a schedule that goes on for ever. -/
def Drain.after (prefetch : String → ℕ) (drain : Drain σ) (schedule : ℕ → DrainInput) :
    ℕ → Drain σ
  | 0 => drain
  | count + 1 => next (Drain.step prefetch) (drain.after prefetch schedule count) (schedule count)

end ChmabaPay
