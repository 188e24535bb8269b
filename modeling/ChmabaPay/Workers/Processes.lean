import ChmabaPay.Foundation.Interleaving
import ChmabaPay.Workers.RedisTransport

/-! # Worker processes side by side

Any number of processes enqueue jobs and drain queues over one server. A coroutine
is cut between its commands, so that every step is one command or one move that
needs none, and a process may crash at any cut: its coroutines end where they are
and what they remember is gone. A drain loop polls, runs the jobs of the batch
side by side and polls again when all of them have ended.

The journal is not part of the program: it records which jobs were added, which
were handed to `process` and which were counted as successful or dead.
-/

namespace ChmabaPay

open Calendar Redis Execution Interleaving

/-! ## Coroutines -/

/-- How far `_run_one` and `mark_done` have come with a job. -/
inductive RunStage
  | waiting
  | processing
  /-- Counted; the acknowledgement is next. -/
  | acknowledging (entry : Option ℕ)
  /-- Acknowledged; the retry is about to be put behind its delay. -/
  | delaying (retryAfter : ℕ)
  /-- Behind its delay; the retry is about to be counted. -/
  | counting
  | done
deriving DecidableEq

structure JobRun where
  job : Job
  stage : RunStage := .waiting
deriving DecidableEq

/-- How far a drain loop has come. -/
inductive DrainStage
  | top
  | scanning
  /-- The due retries still to be moved. -/
  | promoting (due : List Record)
  /-- Out of the delayed set; about to be added to the stream. -/
  | moving (record : Record) (due : List Record)
  | reading
  | claiming (jobs : List Job)
  | running (tasks : List JobRun)

/-- `_drain_queue` in one process. -/
structure DrainLoop where
  queue : String
  prefetch : ℕ
  consumer : Consumer
  stage : DrainStage := .top

inductive Coroutine
  | enqueueing (queue : String) (payload : JsonObject) (dedupKey : Option String)
  | adding (job : Job)
  | added (queue : String)
  | draining (loop : DrainLoop)
  /-- Returned, stopped or crashed. -/
  | ended

/-! ## The world they share -/

structure Journal where
  added : List ℕ := []
  handed : List Job := []
  finished : List ℕ := []

/-- The server, the next job identity and a journal for every queue. -/
structure QueueWorld where
  server : QueueServer := .empty
  drawn : ℕ := 0
  journal : String → Journal := fun _ => {}

def QueueWorld.change (world : QueueWorld) (queue : String) (lane : Lane) (journal : Journal) :
    QueueWorld :=
  { world with
    server := world.server.change queue fun _ => lane
    journal := Function.update world.journal queue journal }

/-- What the scheduler decides about the coroutine it lets go on: that its process
crashes, that it goes on, or which job of the batch goes on and how its `process`
ends. -/
inductive Choice
  | crash
  | proceed
  | task (index : ℕ) (outcome : Outcome)
deriving DecidableEq

structure Reading where
  now : Instant
  choice : Choice := .proceed

/-! ## Steps -/

/-- The first command of `mark_done`. -/
def JobRun.settle (raises : Bool) (consumer : Consumer) (job : Job) (lane : Lane)
    (journal : Journal) : JobRun × Lane × Journal :=
  let entry := consumer.entryOf job.jobId
  let finished := { journal with finished := journal.finished ++ [job.jobId] }
  if raises then
    match job.retryAfter with
    | some delay =>
        if job.attempts < job.maxAttempts then
          (⟨job, .delaying delay⟩, lane.ack entry, journal)
        else (⟨job, .acknowledging entry⟩, lane.count Counters.bumpDead, finished)
    | none => (⟨job, .acknowledging entry⟩, lane.count Counters.bumpDead, finished)
  else (⟨job, .acknowledging entry⟩, lane.count Counters.bumpSuccess, finished)

/-- The next command of `_run_one` and `mark_done` for a job of the batch. -/
def JobRun.advance (now : Instant) (outcome : Outcome) (consumer : Consumer) (task : JobRun)
    (lane : Lane) (journal : Journal) : JobRun × Consumer × Lane × Journal :=
  match task.stage with
  | .waiting =>
      (⟨task.job.tried, .processing⟩, consumer, lane,
        { journal with handed := journal.handed ++ [task.job.tried] })
  | .processing =>
      -- a job whose call was cancelled is not marked done
      if outcome = .cancelled then (⟨task.job, .done⟩, consumer, lane, journal)
      else
        let (settled, lane, journal) :=
          JobRun.settle outcome.raised consumer task.job lane journal
        (settled, consumer.forget task.job.jobId, lane, journal)
  | .acknowledging entry => (⟨task.job, .done⟩, consumer, lane.ack entry, journal)
  | .delaying delay =>
      (⟨task.job, .counting⟩, consumer,
        lane.delay (now + retryDelay delay) task.job.record, journal)
  | .counting => (⟨task.job, .done⟩, consumer, lane.count Counters.bumpRetry, journal)
  | .done => (task, consumer, lane, journal)

def DrainLoop.start (jobs : List Job) : DrainStage := .running (jobs.map fun job => ⟨job, .waiting⟩)

/-- The next command of `dequeue`. -/
def DrainLoop.poll (settings : RedisSettings) (now : Instant) (loop : DrainLoop) (lane : Lane) :
    DrainLoop × Lane :=
  match loop.stage with
  | .top => ({ loop with stage := .scanning }, { lane with stream := lane.stream.xgroupCreate })
  | .scanning =>
      ({ loop with stage := .promoting (lane.delayed.zrangebyscore now promoteBatch) }, lane)
  | .promoting [] => ({ loop with stage := .reading }, lane)
  | .promoting (record :: due) =>
      if record ∈ lane.delayed.members then
        ({ loop with stage := .moving record due }, lane.release record)
      else ({ loop with stage := .promoting due }, lane)
  | .moving record due => ({ loop with stage := .promoting due }, lane.add record)
  | .reading =>
      let (jobs, consumer, lane) := readNew now loop.prefetch loop.consumer lane
      ({ loop with
        consumer := consumer
        stage := if jobs.length < loop.prefetch then .claiming jobs else DrainLoop.start jobs },
        lane)
  | .claiming jobs =>
      let (stale, consumer, lane) :=
        claimStale settings now loop.queue (loop.prefetch - jobs.length) loop.consumer lane
      ({ loop with consumer := consumer, stage := DrainLoop.start (jobs ++ stale) }, lane)
  | .running tasks =>
      (if tasks.all fun task => decide (task.stage = .done) then { loop with stage := .top }
        else loop, lane)

/-- A step of the loop: of one job of the batch, or of `dequeue`. -/
def DrainLoop.advance (settings : RedisSettings) (world : QueueWorld) (reading : Reading)
    (loop : DrainLoop) : QueueWorld × DrainLoop :=
  match loop.stage, reading.choice with
  | .running tasks, .task index outcome =>
      match tasks[index]? with
      | none => (world, loop)
      | some task =>
          let queue := task.job.queueName
          let (task, consumer, lane, journal) := task.advance reading.now outcome loop.consumer
            (world.server.lanes queue) (world.journal queue)
          (world.change queue lane journal,
            { loop with consumer := consumer, stage := .running (tasks.set index task) })
  | _, _ =>
      let (polled, lane) := loop.poll settings reading.now (world.server.lanes loop.queue)
      (world.change loop.queue lane (world.journal loop.queue), polled)

/-- `enqueue` after its dedup key was taken: the job gets its identity. -/
def QueueWorld.draw (world : QueueWorld) (queue : String) (payload : JsonObject)
    (dedupKey : Option String) : QueueWorld × Coroutine :=
  ({ world with drawn := world.drawn + 1 },
    .adding
      { queueName := queue, payload := payload, dedupKey := dedupKey, jobId := world.drawn })

def Coroutine.advance (settings : RedisSettings) (world : QueueWorld) (reading : Reading)
    (coroutine : Coroutine) : QueueWorld × Coroutine :=
  if reading.choice = .crash then (world, .ended) else
  match coroutine with
  | .enqueueing queue payload none => world.draw queue payload none
  | .enqueueing queue payload (some key) =>
      let (acquired, keys) := world.server.dedup.setNx reading.now key settings.dedupTtl
      if acquired then
        ({ world with server := { world.server with dedup := keys } }).draw queue payload
          (some key)
      else (world, .ended)
  | .adding job =>
      let queue := job.queueName
      let journal := world.journal queue
      (world.change queue ((world.server.lanes queue).add job.record)
        { journal with added := journal.added ++ [job.jobId] }, .added queue)
  | .added queue =>
      (world.change queue ((world.server.lanes queue).count Counters.bumpEnqueued)
        (world.journal queue), .ended)
  | .draining loop =>
      let (world, loop) := loop.advance settings world reading
      (world, .draining loop)
  | .ended => (world, .ended)

/-- A caller enqueues a job, or a process starts to drain a queue. -/
inductive QueueRequest
  | enqueue (queue : String) (payload : JsonObject) (dedupKey : Option String)
  | drain (queue : String) (prefetch : ℕ) (consumer : String)

def QueueRequest.coroutine : QueueRequest → Coroutine
  | .enqueue queue payload dedupKey => .enqueueing queue payload dedupKey
  | .drain queue prefetch consumer =>
      .draining { queue := queue, prefetch := prefetch, consumer := { name := consumer } }

/-- The processes over a server. -/
def processes (settings : RedisSettings) :
    Machine QueueWorld Coroutine QueueRequest Reading where
  start := QueueRequest.coroutine
  advance world reading coroutine := coroutine.advance settings world reading

/-- An empty server and no process. -/
def idleProcesses : Pool QueueWorld Coroutine where
  shared := {}
  sessions := []

end ChmabaPay
