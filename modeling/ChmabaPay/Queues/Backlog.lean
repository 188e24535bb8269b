import ChmabaPay.Queues.Transports

/-! # The same calls over both transports

One sequence of calls is made on a fresh queue in memory and on a fresh queue on the
server, under one clock. The counters tell the same story as long as both remember
the same dedup keys. The backlog is another matter: a retry behind its delay is in
the backlog of the server and not in that of the memory, and before the first
dequeue the server has no group to ask for what it has not been handed.
-/

namespace ChmabaPay

open Calendar Redis Execution

inductive ReplayCall
  | wait (span : ℕ)
  | enqueue (queue : String) (payload : JsonObject) (dedupKey : Option String)
  | dequeue (queue : String) (count : ℕ) (milliseconds : Int)
  | markDone (job : Job) (success : Bool) (retryAfter : Option ℕ)
deriving DecidableEq

/-- Both transports, and the moment of the next call. -/
structure Replay where
  memory : InProcessTransport
  server : RedisTransport
  now : Instant := 0
  drawn : ℕ := 0

/-- The next call is made when both have returned. -/
def Replay.step (replay : Replay) : ReplayCall → Replay × Unit
  | .wait span => ({ replay with now := replay.now + span }, ())
  | .enqueue queue payload dedupKey =>
      let job : Job :=
        { queueName := queue, payload := payload, dedupKey := dedupKey, jobId := replay.drawn }
      ({ replay with
        memory := replay.memory.enqueue replay.now job
        server := replay.server.enqueue replay.now job
        drawn := replay.drawn + 1 }, ())
  | .dequeue queue count milliseconds =>
      let (batch, memory) := replay.memory.dequeue replay.now queue count (1000 * milliseconds)
      let (batch', server) := replay.server.dequeue replay.now queue count (1000 * milliseconds)
      ({ replay with
        memory := memory
        server := server
        now := max batch.returnedAt batch'.returnedAt }, ())
  | .markDone job success retryAfter =>
      ({ replay with
        memory := replay.memory.markDone replay.now job success retryAfter
        server := replay.server.markDone replay.now job success retryAfter }, ())

/-- `metrics` reports the same for every queue. -/
def Replay.Agree (replay : Replay) : Prop :=
  ∀ queue, replay.memory.metrics replay.now queue = replay.server.metrics queue

/-- What a call must not do for the reports to stay the same: no job is added that
only one of the two takes for a duplicate, or before the server has a group for its
queue; nothing is asked for without time to wait while there is something to have;
and no failure leads to a retry. -/
def ReplayCall.Even (replay : Replay) : ReplayCall → Prop
  | .wait _ => True
  | .enqueue queue _ dedupKey =>
      replay.memory.accepts replay.now dedupKey = replay.server.accepts replay.now dedupKey ∧
        (replay.memory.accepts replay.now dedupKey = true →
          (replay.server.server.lanes queue).stream.hasGroup = true)
  | .dequeue queue count milliseconds =>
      0 < milliseconds ∨ count = 0 ∨ (replay.memory.lanes queue).jobs.ready = []
  | .markDone job success retryAfter =>
      success = true ∨ retryAfter = none ∨ job.maxAttempts ≤ job.attempts

/-! ## What holds while every call is even -/

/-- The two sides of a queue. -/
structure SameLane (memory : InProcessLane) (server : Lane) : Prop where
  waiting : memory.jobs.waiting.items = []
  delayed : server.delayed.items = []
  counters : memory.counters = server.counters
  ready : memory.jobs.ready.length = server.stream.undelivered.length
  group : server.stream.hasGroup = false → server.stream.undelivered = []

def Replay.Same (replay : Replay) : Prop :=
  ∀ queue, SameLane (replay.memory.lanes queue) (replay.server.server.lanes queue)

section Lanes

variable {memory : InProcessLane} {server : Lane}

theorem InProcessLane.fire_of_waiting_nil (lane : InProcessLane)
    (hwaiting : lane.jobs.waiting.items = []) (now : Instant) : lane.fire now = lane := by
  simp [InProcessLane.fire, Agenda.dueBy, hwaiting]

theorem Lane.promoteDue_of_delayed_nil (lane : Lane) (hdelayed : lane.delayed.items = [])
    (now : Instant) : promoteDue now lane = lane := by
  simp [promoteDue, SortedSet.zrangebyscore, Agenda.dueBy, hdelayed]

theorem stream_lag_eq {α : Type*} (stream : Stream α) :
    stream.lag = stream.undelivered.length := by
  simp [Stream.lag, Stream.undelivered]

/-- What a queue without retries reports on the server. -/
theorem SameLane.backlog (hsame : SameLane memory server) :
    RedisTransport.backlog server = memory.jobs.ready.length := by
  simp only [RedisTransport.backlog, SortedSet.zcard, hsame.delayed, stream_lag_eq,
    hsame.ready, List.length_nil, Nat.add_zero]
  split
  · rfl
  · next hgroup =>
    rw [hsame.group (Bool.eq_false_iff.mpr hgroup), List.length_nil]

theorem SameLane.enqueue (hsame : SameLane memory server)
    (hgroup : server.stream.hasGroup = true) (now : Instant) (job : Job) :
    SameLane
      { jobs := (memory.fire now).jobs.put job
        counters := (memory.fire now).counters.bumpEnqueued }
      ((server.add job.record).count Counters.bumpEnqueued) := by
  rw [InProcessLane.fire_of_waiting_nil _ hsame.waiting]
  refine ⟨hsame.waiting, hsame.delayed, congrArg Counters.bumpEnqueued hsame.counters, ?_,
    fun hnone => ?_⟩
  · simp [DelayQueue.put, Lane.add, Lane.count, hsame.ready]
  · exact absurd (hgroup.symm.trans hnone) (by decide)

/-- Marking a job done without a retry only counts. -/
theorem SameLane.count (hsame : SameLane memory server) (bump : Counters → Counters)
    (entry : Option ℕ) :
    SameLane { memory with counters := bump memory.counters } ((server.count bump).ack entry) := by
  have hstream : ((server.count bump).ack entry).stream.undelivered = server.stream.undelivered ∧
      ((server.count bump).ack entry).stream.hasGroup = server.stream.hasGroup := by
    cases entry <;> exact ⟨rfl, rfl⟩
  refine ⟨hsame.waiting, hsame.delayed, congrArg bump hsame.counters, ?_, ?_⟩
  · rw [hstream.1]
    exact hsame.ready
  · rw [hstream.1, hstream.2]
    exact hsame.group

/-- A retry behind its delay counts on the server. -/
theorem SameLane.backlog_delay (hsame : SameLane memory server) (entry : Option ℕ) (due : Instant)
    (record : Record) (bump : Counters → Counters) :
    RedisTransport.backlog (((server.ack entry).delay due record).count bump) =
      memory.jobs.ready.length + 1 := by
  have hdelayed : (server.delayed.zadd due record).items.length = 1 := by
    simp [SortedSet.zadd, SortedSet.zrem, Agenda.keep, Agenda.add, hsame.delayed]
  rw [← hsame.backlog]
  cases hgroup : server.stream.hasGroup <;> cases entry <;>
    simp [RedisTransport.backlog, Lane.count, Lane.delay, Lane.ack, hdelayed, Stream.xack,
      Stream.lag, hgroup, SortedSet.zcard, hsame.delayed]

/-- In memory it does not. -/
theorem SameLane.fire_defer (hsame : SameLane memory server) {now due : Instant}
    (hlater : now < due) (job : Job) (counters : Counters) :
    (InProcessLane.fire { jobs := memory.jobs.defer due job, counters := counters }
      now).jobs.ready = memory.jobs.ready := by
  simp [InProcessLane.fire, DelayQueue.defer, DelayQueue.promote, Agenda.add, Agenda.dueBy,
    hsame.waiting, not_le.mpr hlater]

end Lanes

/-! ## The reports -/

section Reports

variable {replay : Replay}

theorem Replay.Same.agree (hsame : replay.Same) : replay.Agree := by
  intro queue
  have hlane := hsame queue
  simp only [InProcessTransport.metrics, RedisTransport.metrics,
    InProcessLane.fire_of_waiting_nil _ hlane.waiting, hlane.backlog, hlane.counters]

/-- A change of one queue. -/
theorem Replay.Same.change (hsame : replay.Same) {memory : InProcessTransport}
    {server : RedisTransport} {now : Instant} {drawn : ℕ} (queue : String)
    (hlane : SameLane (memory.lanes queue) (server.server.lanes queue))
    (hmemory : ∀ other, other ≠ queue → memory.lanes other = replay.memory.lanes other)
    (hserver : ∀ other, other ≠ queue →
      server.server.lanes other = replay.server.server.lanes other) :
    Replay.Same ⟨memory, server, now, drawn⟩ := by
  intro other
  by_cases hother : other = queue
  · rw [hother]
    exact hlane
  · simp only [hmemory other hother, hserver other hother]
    exact hsame other

theorem Replay.Same.enqueue (hsame : replay.Same) {queue : String} (payload : JsonObject)
    {dedupKey : Option String}
    (haccepts : replay.memory.accepts replay.now dedupKey =
      replay.server.accepts replay.now dedupKey)
    (hgroup : replay.memory.accepts replay.now dedupKey = true →
      (replay.server.server.lanes queue).stream.hasGroup = true) :
    (next Replay.step replay (.enqueue queue payload dedupKey)).Same := by
  simp only [next, Replay.step, InProcessTransport.enqueue, RedisTransport.enqueue, ← haccepts]
  split
  · next htaken =>
    refine hsame.change queue ?_ (fun other hother => ?_) (fun other hother => ?_)
    · rw [InProcessTransport.change_lanes, QueueServer.change_lanes]
      exact (hsame queue).enqueue (hgroup htaken) _ _
    · simp only [InProcessTransport.change_lanes_of_ne _ hother]
    · simp only [QueueServer.change_lanes_of_ne _ hother]
  · exact hsame

theorem Replay.Same.markDone (hsame : replay.Same) {job : Job} {success : Bool}
    {retryAfter : Option ℕ}
    (hfinal : success = true ∨ retryAfter = none ∨ job.maxAttempts ≤ job.attempts) :
    (next Replay.step replay (.markDone job success retryAfter)).Same := by
  have hlane := hsame job.queueName
  simp only [next, Replay.step, InProcessTransport.markDone, RedisTransport.markDone]
  refine hsame.change job.queueName ?_ (fun other hother => ?_) (fun other hother => ?_)
  · simp only [InProcessTransport.change_lanes, QueueServer.change_lanes]
    cases success with
    | true => exact hlane.count _ _
    | false =>
        cases retryAfter with
        | none => exact hlane.count _ _
        | some delay =>
            have hused : ¬job.attempts < job.maxAttempts := by simpa using hfinal
            simp only [Bool.false_eq_true, if_false, if_neg hused]
            exact hlane.count _ _
  · simp only [InProcessTransport.change_lanes_of_ne _ hother]
  · simp only [QueueServer.change_lanes_of_ne _ hother]

/-! ### A batch is asked for -/

theorem claimStale_lane (settings : RedisSettings) (now : Instant) (queue : String) (room : ℕ)
    (consumer : Consumer) (lane : Lane) :
    let swept := (claimStale settings now queue room consumer lane).2.2
    swept.delayed = lane.delayed ∧ swept.counters = lane.counters ∧
      swept.stream.undelivered = lane.stream.undelivered ∧
      swept.stream.hasGroup = lane.stream.hasGroup := by
  unfold claimStale
  split <;> exact ⟨rfl, rfl, rfl, rfl⟩

/-- On the server a dequeue creates the group and hands out the front of the stream,
whatever it sweeps up besides. -/
theorem RedisTransport.dequeue_lane (now : Instant) {queue : String} (count : ℕ) (timeout : Int)
    {transport : RedisTransport}
    (hdelayed : (transport.server.lanes queue).delayed.items = []) :
    let lane := transport.server.lanes queue
    let lane' := (transport.dequeue now queue count timeout).2.server.lanes queue
    lane'.delayed = lane.delayed ∧ lane'.counters = lane.counters ∧
      lane'.stream.undelivered = lane.stream.undelivered.drop count ∧
      lane'.stream.hasGroup = true := by
  intro lane lane'
  have hgrouped : promoteDue now { lane with stream := lane.stream.xgroupCreate } =
      { lane with stream := lane.stream.xgroupCreate } :=
    Lane.promoteDue_of_delayed_nil { lane with stream := lane.stream.xgroupCreate } hdelayed now
  have hread : ∀ name, (lane.stream.xgroupCreate.xreadgroup now name count).2.undelivered =
      lane.stream.undelivered.drop count := fun name => Stream.undelivered_xreadgroup _ _ _ _
  simp only [lane', RedisTransport.dequeue, QueueServer.change_lanes]
  rw [show transport.server.lanes queue = lane from rfl, hgrouped]
  split
  · refine ⟨(claimStale_lane _ _ _ _ _ _).1, (claimStale_lane _ _ _ _ _ _).2.1, ?_,
      (claimStale_lane _ _ _ _ _ _).2.2.2⟩
    exact (claimStale_lane _ _ _ _ _ _).2.2.1.trans (hread _)
  · exact ⟨rfl, rfl, hread _, rfl⟩

theorem RedisTransport.dequeue_lane_of_ne (now : Instant) {queue other : String}
    (hother : other ≠ queue) (count : ℕ) (timeout : Int) (transport : RedisTransport) :
    (transport.dequeue now queue count timeout).2.server.lanes other =
      transport.server.lanes other := by
  simp only [RedisTransport.dequeue, QueueServer.change_lanes_of_ne _ hother]

/-- In memory a dequeue takes the front of the queue, if it has time to look. -/
theorem InProcessTransport.dequeue_lane (now : Instant) {queue : String} (count : ℕ)
    (timeout : Int) {transport : InProcessTransport}
    (hwaiting : (transport.lanes queue).jobs.waiting.items = []) :
    (transport.dequeue now queue count timeout).2.lanes queue =
      if timeout ≤ 0 then transport.lanes queue
      else { transport.lanes queue with jobs := (transport.lanes queue).jobs.skip count } := by
  simp only [dequeue, InProcessLane.fire_of_waiting_nil _ hwaiting]
  split
  · simp
  · simp [late, Agenda.dueBy, hwaiting]

theorem InProcessTransport.dequeue_lane_of_ne (now : Instant) {queue other : String}
    (hother : other ≠ queue) (count : ℕ) (timeout : Int) (transport : InProcessTransport) :
    (transport.dequeue now queue count timeout).2.lanes other = transport.lanes other := by
  simp only [dequeue]
  split <;> simp only [change_lanes_of_ne _ hother]

theorem Replay.Same.dequeue (hsame : replay.Same) {queue : String} {count : ℕ}
    {milliseconds : Int}
    (heven : 0 < milliseconds ∨ count = 0 ∨ (replay.memory.lanes queue).jobs.ready = []) :
    (next Replay.step replay (.dequeue queue count milliseconds)).Same := by
  have hlane := hsame queue
  obtain ⟨hdelayed, hcounters, hready, hgroup⟩ := RedisTransport.dequeue_lane replay.now count
    (1000 * milliseconds) hlane.delayed
  simp only [next, Replay.step]
  refine hsame.change queue ?_
    (fun other hother => InProcessTransport.dequeue_lane_of_ne _ hother _ _ _)
    (fun other hother => RedisTransport.dequeue_lane_of_ne _ hother _ _ _)
  rw [InProcessTransport.dequeue_lane _ _ _ hlane.waiting]
  refine ⟨?_, ?_, ?_, ?_, fun hnone => absurd (hgroup.symm.trans hnone) (by decide)⟩
  · split <;> exact hlane.waiting
  · rw [hdelayed]
    exact hlane.delayed
  · rw [hcounters]
    split <;> exact hlane.counters
  · rw [hready, List.length_drop, ← hlane.ready]
    split
    · next htimeout =>
      -- nobody looks in memory, and the server has nothing to hand out
      rcases heven with htime | rfl | hnothing
      · omega
      · simp
      · simp [hnothing]
    · simp [DelayQueue.skip]

theorem Replay.Same.after_even (hsame : replay.Same) {call : ReplayCall}
    (heven : call.Even replay) :
    (next Replay.step replay call).Same := by
  cases call with
  | wait span => exact hsame
  | enqueue queue payload dedupKey => exact hsame.enqueue payload heven.1 heven.2
  | dequeue queue count milliseconds => exact hsame.dequeue heven
  | markDone job success retryAfter => exact hsame.markDone heven

/-! ## A call that is not even shows at once -/

/-- What the reports of a queue say, once they agree. -/
theorem Replay.Agree.pending (hagree : replay.Agree) (queue : String) :
    (replay.memory.metrics replay.now queue).pending =
      RedisTransport.backlog (replay.server.server.lanes queue) :=
  congrArg QueueMetrics.pending (hagree queue)

theorem Replay.Agree.counters (hagree : replay.Agree) (queue : String) :
    (replay.memory.lanes queue).counters = (replay.server.server.lanes queue).counters :=
  congrArg QueueMetrics.counters (hagree queue)

theorem Replay.Same.enqueue_even (hsame : replay.Same) {queue : String} {payload : JsonObject}
    {dedupKey : Option String}
    (hagree : (next Replay.step replay (.enqueue queue payload dedupKey)).Agree) :
    ReplayCall.Even replay (.enqueue queue payload dedupKey) := by
  have hlane := hsame queue
  have henqueued := congrArg Counters.enqueued hlane.counters
  have hcounters := congrArg Counters.enqueued (hagree.counters queue)
  have hpending := hagree.pending queue
  simp only [next, Replay.step, InProcessTransport.enqueue, RedisTransport.enqueue]
    at hcounters hpending
  cases hmemory : replay.memory.accepts replay.now dedupKey <;>
    cases hserver : replay.server.accepts replay.now dedupKey
  · exact ⟨hmemory.trans hserver.symm, fun htaken => by simp [hmemory] at htaken⟩
  · simp [hmemory, hserver, Lane.count, Lane.add, Counters.bumpEnqueued, henqueued] at hcounters
  · simp [hmemory, hserver, Counters.bumpEnqueued, henqueued,
      InProcessLane.fire_of_waiting_nil _ hlane.waiting] at hcounters
  · refine ⟨hmemory.trans hserver.symm, fun _ => ?_⟩
    -- without a group the server reports nothing of what has just been added
    by_contra hgroup
    have hgroup : (replay.server.server.lanes queue).stream.hasGroup = false :=
      Bool.eq_false_iff.mpr hgroup
    simp only [hmemory, hserver, if_true, InProcessTransport.metrics,
      InProcessTransport.change_lanes, QueueServer.change_lanes,
      InProcessLane.fire_of_waiting_nil _ hlane.waiting] at hpending
    rw [InProcessLane.fire_of_waiting_nil _ (by exact hlane.waiting)] at hpending
    simp [DelayQueue.put, RedisTransport.backlog, Lane.count, Lane.add, Stream.xadd, hgroup,
      SortedSet.zcard, hlane.delayed] at hpending

theorem Replay.Same.dequeue_even (hsame : replay.Same) {queue : String} {count : ℕ}
    {milliseconds : Int}
    (hagree : (next Replay.step replay (.dequeue queue count milliseconds)).Agree) :
    ReplayCall.Even replay (.dequeue queue count milliseconds) := by
  have hlane := hsame queue
  obtain ⟨hdelayed, -, hready, hgroup⟩ := RedisTransport.dequeue_lane replay.now count
    (1000 * milliseconds) hlane.delayed
  by_contra huneven
  simp only [ReplayCall.Even, not_or] at huneven
  obtain ⟨htime, hcount, hsome⟩ := huneven
  have hpending := hagree.pending queue
  simp only [next, Replay.step, InProcessTransport.metrics,
    InProcessTransport.dequeue_lane _ _ _ hlane.waiting] at hpending
  rw [if_pos (by omega), InProcessLane.fire_of_waiting_nil _ hlane.waiting] at hpending
  simp only [RedisTransport.backlog, hgroup, if_true, stream_lag_eq, hready, hdelayed,
    SortedSet.zcard, hlane.delayed, List.length_nil, Nat.add_zero, List.length_drop,
    ← hlane.ready] at hpending
  have := List.length_pos_of_ne_nil hsome
  omega

theorem Replay.Same.markDone_even (hsame : replay.Same) {job : Job} {success : Bool}
    {retryAfter : Option ℕ}
    (hagree : (next Replay.step replay (.markDone job success retryAfter)).Agree) :
    ReplayCall.Even replay (.markDone job success retryAfter) := by
  have hlane := hsame job.queueName
  by_contra huneven
  simp only [ReplayCall.Even, not_or, Bool.not_eq_true, not_le] at huneven
  obtain ⟨hfailed, hretry, hroom⟩ := huneven
  obtain ⟨delay, rfl⟩ := Option.ne_none_iff_exists'.mp hretry
  have hpending := hagree.pending job.queueName
  have hlater : replay.now < replay.now + retryDelay delay :=
    lt_add_of_pos_right _ (retryDelay_pos delay)
  simp only [next, Replay.step, InProcessTransport.metrics, InProcessTransport.markDone,
    InProcessTransport.change_lanes, RedisTransport.markDone, QueueServer.change_lanes, hfailed,
    Bool.false_eq_true, if_false, if_pos hroom, hlane.backlog_delay, hlane.fire_defer hlater]
    at hpending
  omega

theorem Replay.Same.agree_iff (hsame : replay.Same) (call : ReplayCall) :
    (next Replay.step replay call).Agree ↔ call.Even replay := by
  refine ⟨fun hagree => ?_, fun heven => (hsame.after_even heven).agree⟩
  cases call with
  | wait span => trivial
  | enqueue queue payload dedupKey => exact hsame.enqueue_even hagree
  | dequeue queue count milliseconds => exact hsame.dequeue_even hagree
  | markDone job success retryAfter => exact hsame.markDone_even hagree

end Reports

/-! ## Dedup keys -/

/-- Whether the cache in memory can take one more key without dropping one. -/
def ReplayCall.HasRoom (replay : Replay) : ReplayCall → Prop
  | .enqueue _ _ (some _) =>
      (replay.memory.dedup.alive replay.now).length < replay.memory.settings.dedupMaxSize
  | _ => True

/-- Both sides hold the same keys, for the same time. -/
structure Replay.SameKeys (replay : Replay) : Prop where
  ttl : replay.memory.settings.dedupTtl = replay.server.settings.dedupTtl
  keys : replay.memory.dedup = replay.server.server.dedup

theorem Replay.SameKeys.accepts {replay : Replay} (hsame : replay.SameKeys)
    (dedupKey : Option String) :
    replay.memory.accepts replay.now dedupKey = replay.server.accepts replay.now dedupKey := by
  rw [InProcessTransport.accepts, RedisTransport.accepts, hsame.keys]

theorem Replay.SameKeys.enqueue {replay : Replay} (hsame : replay.SameKeys) {queue : String}
    {payload : JsonObject} {dedupKey : Option String}
    (hroom : ReplayCall.HasRoom replay (.enqueue queue payload dedupKey)) :
    (next Replay.step replay (.enqueue queue payload dedupKey)).SameKeys := by
  have haccepts := hsame.accepts dedupKey
  simp only [next, Replay.step, InProcessTransport.enqueue, RedisTransport.enqueue, ← haccepts]
  split
  · next htaken =>
    refine ⟨hsame.ttl, ?_⟩
    cases dedupKey with
    | none => exact hsame.keys
    | some key =>
        have hfree : replay.server.server.dedup.holds replay.now key = false := by
          simpa [haccepts, RedisTransport.accepts] using htaken
        have hnone : (replay.memory.dedup.alive replay.now).length + 1 -
            replay.memory.settings.dedupMaxSize = 0 := Nat.sub_eq_zero_of_le hroom
        simp only [InProcessTransport.change, QueueServer.change, Option.elim_some, cacheKey,
          hnone, List.drop_zero, Keyspace.setNx, hfree, Bool.false_eq_true, if_false, hsame.ttl]
        rw [hsame.keys]
  · exact ⟨hsame.ttl, hsame.keys⟩

/-- As long as the cache in memory is never full, the same jobs are taken for
duplicates. -/
theorem Replay.SameKeys.run {replay : Replay} (hsame : replay.SameKeys) {calls : List ReplayCall}
    (hroom : Along Replay.step (fun replay call => call.HasRoom replay) replay calls) :
    (run Replay.step replay calls).SameKeys := by
  refine run_invariant_of_along Replay.SameKeys _ (fun replay call hsame hroom => ?_) hsame hroom
  cases call with
  | wait span => exact ⟨hsame.ttl, hsame.keys⟩
  | enqueue queue payload dedupKey => exact hsame.enqueue hroom
  | dequeue queue count milliseconds =>
      refine ⟨?_, ?_⟩
      · simp only [next, Replay.step, InProcessTransport.dequeue, RedisTransport.dequeue]
        split <;> exact hsame.ttl
      · simp only [next, Replay.step, InProcessTransport.dequeue, RedisTransport.dequeue]
        split <;> exact hsame.keys
  | markDone job success retryAfter => exact ⟨hsame.ttl, hsame.keys⟩

/-! ## Whole replays -/

/-- Both transports before the first call. -/
def freshReplay (inProcess : InProcessSettings) (redis : RedisSettings) (name : String) :
    Replay where
  memory := { settings := inProcess }
  server := { settings := redis, consumer := { name := name } }

theorem freshReplay_same (inProcess : InProcessSettings) (redis : RedisSettings) (name : String) :
    (freshReplay inProcess redis name).Same := by
  intro queue
  constructor <;> simp [freshReplay, Stream.undelivered]

/-- The reports are the same at every moment exactly when every call is even. -/
theorem metrics_agree_iff_even (inProcess : InProcessSettings) (redis : RedisSettings)
    (name : String) (calls : List ReplayCall) :
    (∀ first, first <+: calls →
      (run Replay.step (freshReplay inProcess redis name) first).Agree) ↔
      Along Replay.step (fun replay call => call.Even replay) (freshReplay inProcess redis name)
        calls := by
  have hfresh := freshReplay_same inProcess redis name
  rw [forall_run_iff_along, and_iff_right hfresh.agree]
  exact along_congr_of_invariant Replay.Same _ _ (fun _ call hsame => hsame.agree_iff call)
    (fun _ _ hsame heven => hsame.after_even heven) hfresh calls

/-- A job that is handed out and fails for the first time: in memory nothing is
pending, on the server one job is. -/
theorem metrics_differ_for_retry :
    ¬∀ first, first <+: [ReplayCall.dequeue "w1" 1 50, .enqueue "w1" [] none, .dequeue "w1" 1 50,
        .markDone ⟨"w1", [], none, 0, 1, 10⟩ false (some 2)] →
      (run Replay.step (freshReplay {} {} "worker") first).Agree := by
  intro hagree
  have hlast := hagree _ List.prefix_rfl "w1"
  revert hlast
  decide +kernel

end ChmabaPay
