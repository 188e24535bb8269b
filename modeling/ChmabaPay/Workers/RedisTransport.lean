import ChmabaPay.Workers.Job

/-! # The queue over a shared server

Every queue has a stream of jobs with one consumer group, a sorted set of retries
behind their delay and a hash of counters. All processes share the server and the
table of dedup keys; the entry a job came in is remembered by the process that
read it.
-/

namespace ChmabaPay

open Calendar Redis

structure RedisSettings where
  dedupTtl : Int := seconds 3600
  claimIdle : Int := seconds 60
  claimInterval : Int := seconds 10
deriving Repr

/-- The keys of one queue. -/
structure Lane where
  stream : Stream Record := {}
  delayed : SortedSet Record := {}
  counters : Counters := {}

structure QueueServer where
  lanes : String → Lane := fun _ => {}
  dedup : Keyspace := []

/-- No stream, no delayed job and no key. -/
def QueueServer.empty : QueueServer := {}

@[simp] theorem QueueServer.empty_lanes (queue : String) : QueueServer.empty.lanes queue = {} :=
  rfl

@[simp] theorem QueueServer.empty_dedup : QueueServer.empty.dedup = [] := rfl

def QueueServer.change (server : QueueServer) (queue : String) (change : Lane → Lane) :
    QueueServer :=
  { server with
    lanes := Function.update server.lanes queue (change (server.lanes queue)) }

@[simp] theorem QueueServer.change_lanes (server : QueueServer) (queue : String)
    (change : Lane → Lane) :
    (server.change queue change).lanes queue = change (server.lanes queue) := by
  simp [QueueServer.change]

@[simp] theorem QueueServer.change_dedup (server : QueueServer) (queue : String)
    (change : Lane → Lane) :
    (server.change queue change).dedup = server.dedup := rfl

theorem QueueServer.change_lanes_of_ne (server : QueueServer) {queue other : String}
    (hother : other ≠ queue) (change : Lane → Lane) :
    (server.change queue change).lanes other = server.lanes other := by
  simp [QueueServer.change, Function.update_of_ne hother]

/-! ## Single commands -/

/-- XADD of a record. -/
def Lane.add (lane : Lane) (record : Record) : Lane :=
  { lane with stream := lane.stream.xadd record }

/-- XACK of the entry a job came in, when the process knows it. -/
def Lane.ack (lane : Lane) (entry : Option ℕ) : Lane :=
  { lane with stream := entry.elim lane.stream lane.stream.xack }

/-- ZADD of a retry. -/
def Lane.delay (lane : Lane) (due : Instant) (record : Record) : Lane :=
  { lane with delayed := lane.delayed.zadd due record }

/-- ZREM of a retry. -/
def Lane.release (lane : Lane) (record : Record) : Lane :=
  { lane with delayed := lane.delayed.zrem record }

/-- HINCRBY of a counter. -/
def Lane.count (lane : Lane) (bump : Counters → Counters) : Lane :=
  { lane with counters := bump lane.counters }

/-! ## What a process remembers -/

/-- The transport object of one process: its consumer name, the entry every job it
holds came in, and when it last swept each queue for stale entries. -/
structure Consumer where
  name : String
  entryIds : List (ℕ × ℕ) := []
  lastClaim : String → Instant := fun _ => 0

def Consumer.remember (consumer : Consumer) (read : List (Record × ℕ)) : Consumer :=
  { consumer with
    entryIds := read.foldl (fun known entry =>
      (entry.1.id, entry.2) :: known.filter fun item => decide (item.1 ≠ entry.1.id))
      consumer.entryIds }

def Consumer.entryOf (consumer : Consumer) (jobId : ℕ) : Option ℕ :=
  consumer.entryIds.lookup jobId

def Consumer.forget (consumer : Consumer) (jobId : ℕ) : Consumer :=
  { consumer with entryIds := consumer.entryIds.filter fun item => decide (item.1 ≠ jobId) }

/-- `_read_new`. -/
def readNew (now : Instant) (count : ℕ) (consumer : Consumer) (lane : Lane) :
    List Job × Consumer × Lane :=
  let (read, stream) := lane.stream.xreadgroup now consumer.name count
  (read.map (·.1.decode), consumer.remember read, { lane with stream := stream })

/-- Whether `_claim_stale` sweeps at all: it is throttled, and asked for nothing
when the batch is full. -/
def claims (settings : RedisSettings) (now : Instant) (queue : String) (room : ℕ)
    (consumer : Consumer) : Bool :=
  decide (0 < room ∧ settings.claimInterval ≤ now - consumer.lastClaim queue)

/-- `_claim_stale`. -/
def claimStale (settings : RedisSettings) (now : Instant) (queue : String) (room : ℕ)
    (consumer : Consumer) (lane : Lane) : List Job × Consumer × Lane :=
  if claims settings now queue room consumer then
    let (claimed, stream) := lane.stream.xautoclaim now consumer.name settings.claimIdle room
    (claimed.map (·.1.decode),
      { consumer.remember claimed with
        lastClaim := Function.update consumer.lastClaim queue now },
      { lane with stream := stream })
  else ([], consumer, lane)

/-! ## The methods -/

def promoteBatch : ℕ := 100

/-- One turn of the loop of `_promote_due`: a retry another process has taken
meanwhile is left to it. -/
def promoteOne (lane : Lane) (record : Record) : Lane :=
  if record ∈ lane.delayed.members then (lane.release record).add record else lane

/-- `_promote_due`. -/
def promoteDue (now : Instant) (lane : Lane) : Lane :=
  (lane.delayed.zrangebyscore now promoteBatch).foldl promoteOne lane

/-- The transport of one process with the server it talks to. -/
structure RedisTransport where
  settings : RedisSettings := {}
  consumer : Consumer
  server : QueueServer := .empty

namespace RedisTransport

/-- Whether an enqueue with this key adds a job. -/
def accepts (now : Instant) (dedupKey : Option String) (transport : RedisTransport) : Bool :=
  dedupKey.all fun key => !transport.server.dedup.holds now key

/-- The job is returned also when the dedup key is taken and nothing is queued. -/
def enqueue (now : Instant) (job : Job) (transport : RedisTransport) : RedisTransport :=
  if transport.accepts now job.dedupKey then
    let keys := job.dedupKey.elim transport.server.dedup fun key =>
      (transport.server.dedup.setNx now key transport.settings.dedupTtl).2
    { transport with
      server := ({ transport.server with dedup := keys }).change job.queueName fun lane =>
        (lane.add job.record).count Counters.bumpEnqueued }
  else transport

/-- The read waits for the timeout when there is nothing to read; the sweep for
stale entries comes after it. -/
def dequeue (now : Instant) (queue : String) (count : ℕ) (timeout : Int)
    (transport : RedisTransport) : Batch × RedisTransport :=
  let lane := transport.server.lanes queue
  let grouped := { lane with stream := lane.stream.xgroupCreate }
  let (jobs, consumer, read) := readNew now count transport.consumer (promoteDue now grouped)
  let readAt := if jobs = [] then now + max 0 timeout else now
  let (stale, consumer, lane) :=
    if jobs.length < count then
      claimStale transport.settings readAt queue (count - jobs.length) consumer read
    else ([], consumer, read)
  (⟨jobs ++ stale, readAt⟩,
    { transport with
      consumer := consumer
      server := transport.server.change queue fun _ => lane })

def markDone (now : Instant) (job : Job) (success : Bool) (retryAfter : Option ℕ)
    (transport : RedisTransport) : RedisTransport :=
  let entry := transport.consumer.entryOf job.jobId
  let settle : Lane → Lane := fun lane =>
    if success then (lane.count Counters.bumpSuccess).ack entry
    else match retryAfter with
      | some delay =>
          if job.attempts < job.maxAttempts then
            ((lane.ack entry).delay (now + retryDelay delay) job.record).count
              Counters.bumpRetry
          else (lane.count Counters.bumpDead).ack entry
      | none => (lane.count Counters.bumpDead).ack entry
  { transport with
    consumer := transport.consumer.forget job.jobId
    server := transport.server.change job.queueName settle }

/-- `_backlog`: what the group has not been handed, and the retries behind their
delay. Before the first dequeue there is no group to ask. -/
def backlog (lane : Lane) : ℕ :=
  (if lane.stream.hasGroup then lane.stream.lag else 0) + lane.delayed.zcard

def metrics (queue : String) (transport : RedisTransport) : QueueMetrics where
  pending := backlog (transport.server.lanes queue)
  counters := (transport.server.lanes queue).counters

end RedisTransport

end ChmabaPay
