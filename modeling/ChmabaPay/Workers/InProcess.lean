import ChmabaPay.Foundation.DelayQueue
import ChmabaPay.Workers.Job

/-! # The queue in memory

One process keeps a queue of jobs for every queue name, a timer for every retry
that waits for its delay, and the dedup keys in a cache that holds a bounded number
of them for a bounded time.
-/

namespace ChmabaPay

open Calendar Redis

structure InProcessSettings where
  dedupTtl : Int := seconds 3600
  dedupMaxSize : ℕ := 200000

/-- A queue name's jobs, the retries on timers and the counters. -/
structure InProcessLane where
  jobs : DelayQueue Job := {}
  counters : Counters := {}

/-- The timers that have run out put their jobs into the queue, the earliest first. -/
def InProcessLane.fire (lane : InProcessLane) (now : Instant) : InProcessLane :=
  { lane with jobs := lane.jobs.promote (lane.jobs.waiting.dueBy now).length }

structure InProcessTransport where
  settings : InProcessSettings := {}
  lanes : String → InProcessLane := fun _ => {}
  dedup : Keyspace := []

/-- Storing a key in the cache drops the expired ones and, when the cache is full,
the oldest. -/
def cacheKey (keys : Keyspace) (now : Instant) (key : String) (ttl : Int) (maxSize : ℕ) :
    Keyspace :=
  let alive := keys.alive now
  alive.drop (alive.length + 1 - maxSize) ++ [(key, now + ttl)]

namespace InProcessTransport

def change (transport : InProcessTransport) (queue : String)
    (change : InProcessLane → InProcessLane) : InProcessTransport :=
  { transport with
    lanes := Function.update transport.lanes queue (change (transport.lanes queue)) }

@[simp] theorem change_lanes (transport : InProcessTransport) (queue : String)
    (alter : InProcessLane → InProcessLane) :
    (transport.change queue alter).lanes queue = alter (transport.lanes queue) := by
  simp [change]

theorem change_lanes_of_ne (transport : InProcessTransport) {queue other : String}
    (hother : other ≠ queue) (alter : InProcessLane → InProcessLane) :
    (transport.change queue alter).lanes other = transport.lanes other := by
  simp [change, Function.update_of_ne hother]

def accepts (now : Instant) (dedupKey : Option String) (transport : InProcessTransport) : Bool :=
  dedupKey.all fun key => !transport.dedup.holds now key

def enqueue (now : Instant) (job : Job) (transport : InProcessTransport) : InProcessTransport :=
  if transport.accepts now job.dedupKey then
    let keys := job.dedupKey.elim transport.dedup fun key =>
      cacheKey transport.dedup now key transport.settings.dedupTtl transport.settings.dedupMaxSize
    ({ transport with dedup := keys }).change job.queueName fun lane =>
      let fired := lane.fire now
      { jobs := fired.jobs.put job, counters := fired.counters.bumpEnqueued }
  else transport

/-- The retries that come due while a dequeue with room for more still waits. -/
def late (now : Instant) (count : ℕ) (timeout : Int) (lane : InProcessLane) : List (Int × Job) :=
  (lane.jobs.waiting.dueBy (now + timeout)).take (count - lane.jobs.ready.length)

/-- Waits until it has `count` jobs or its time is up; without a timeout it does not
even look. -/
def dequeue (now : Instant) (queue : String) (count : ℕ) (timeout : Int)
    (transport : InProcessTransport) : Batch × InProcessTransport :=
  let lane := (transport.lanes queue).fire now
  if timeout ≤ 0 then (⟨[], now⟩, transport.change queue fun _ => lane)
  else
    let late := late now count timeout lane
    let jobs := (lane.jobs.promote late.length).ready.take count
    let returnedAt :=
      if jobs.length < count then now + timeout
      else (late.getLast?).elim now fun last => max now last.1
    (⟨jobs, returnedAt⟩, transport.change queue fun _ =>
      { lane with jobs := (lane.jobs.promote late.length).skip count })

def markDone (now : Instant) (job : Job) (success : Bool) (retryAfter : Option ℕ)
    (transport : InProcessTransport) : InProcessTransport :=
  transport.change job.queueName fun lane =>
    if success then { lane with counters := lane.counters.bumpSuccess }
    else match retryAfter with
      | some delay =>
          if job.attempts < job.maxAttempts then
            { jobs := lane.jobs.defer (now + retryDelay delay) job
              counters := lane.counters.bumpRetry }
          else { lane with counters := lane.counters.bumpDead }
      | none => { lane with counters := lane.counters.bumpDead }

/-- The depth of the queue itself: a retry on a timer is not in it. -/
def metrics (now : Instant) (queue : String) (transport : InProcessTransport) : QueueMetrics :=
  let lane := (transport.lanes queue).fire now
  { pending := lane.jobs.ready.length, counters := lane.counters }

end InProcessTransport

end ChmabaPay
