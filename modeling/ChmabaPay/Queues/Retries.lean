import ChmabaPay.Queues.Delivery

/-! # The retry policy over either transport

What a transport has to do for the drain loops: hand out jobs from the front of a
queue that retries join when they are due, and count what is marked done. A process
over such a transport does, queue by queue, what the steps of a bench allow, so the
life of a job is the same over both.
-/

namespace ChmabaPay

open Calendar Redis Execution

/-- What a drain loop may rely on. `hands` are the identities of the jobs in the
batches; `view` is what a queue amounts to. -/
class LawfulTransport (σ : Type) [QueueTransport σ] where
  view : σ → String → DelayQueue Job
  counters : σ → String → Counters
  Valid : (String → List ℕ) → σ → Prop
  counters_metrics (now : Instant) (queue : String) (transport : σ) :
    (QueueTransport.metrics now queue transport).counters = counters transport queue
  enqueue_rejected {now : Instant} {job : Job} {transport : σ}
    (hrejects : QueueTransport.accepts now job.dedupKey transport = false) :
    QueueTransport.enqueue now job transport = transport
  enqueue_accepted {hands : String → List ℕ} {now : Instant} (job : Job) {transport : σ}
    (hvalid : Valid hands transport) (hmax : job.maxAttempts = 10)
    (haccepts : QueueTransport.accepts now job.dedupKey transport = true) :
    Valid hands (QueueTransport.enqueue now job transport) ∧
      (∃ count, (view transport job.queueName).Due now count ∧
        view (QueueTransport.enqueue now job transport) job.queueName =
          ((view transport job.queueName).promote count).put job) ∧
      ∀ other, other ≠ job.queueName →
        view (QueueTransport.enqueue now job transport) other = view transport other
  dequeue_idle {hands : String → List ℕ} (now : Instant) {queue : String} {prefetch : ℕ}
    {timeout : Int} {transport : σ} (hvalid : Valid hands transport) (hidle : hands queue = [])
    (hprefetch : 0 < prefetch) (htimeout : 0 < timeout)
    (hnodup : ((view transport queue).all.map Job.jobId).Nodup)
    (hapart : ∀ jobId ∈ (view transport queue).all.map Job.jobId, ∀ other, jobId ∉ hands other) :
    Valid (Function.update hands queue
        ((QueueTransport.dequeue now queue prefetch timeout transport).1.jobs.map Job.jobId))
      (QueueTransport.dequeue now queue prefetch timeout transport).2 ∧
      now ≤ (QueueTransport.dequeue now queue prefetch timeout transport).1.returnedAt ∧
      (∃ count,
        (view transport queue).Due
          (QueueTransport.dequeue now queue prefetch timeout transport).1.returnedAt count ∧
        (count = 0 → ∀ entry ∈ (view transport queue).waiting.items, now < entry.1) ∧
        (QueueTransport.dequeue now queue prefetch timeout transport).1.jobs =
          ((view transport queue).promote count).ready.take prefetch ∧
        view (QueueTransport.dequeue now queue prefetch timeout transport).2 queue =
          ((view transport queue).promote count).skip prefetch) ∧
      ∀ other, other ≠ queue →
        view (QueueTransport.dequeue now queue prefetch timeout transport).2 other =
          view transport other
  markDone_held {hands : String → List ℕ} (now : Instant) {job : Job} {transport : σ}
    (success : Bool) (retryAfter : Option ℕ) (hvalid : Valid hands transport)
    (hmax : job.maxAttempts = 10) (hheld : job.jobId ∈ hands job.queueName)
    (hapart : ∀ other, other ≠ job.queueName → job.jobId ∉ hands other)
    (hgone : job.jobId ∉ (view transport job.queueName).all.map Job.jobId) :
    Valid (Function.update hands job.queueName ((hands job.queueName).erase job.jobId))
      (QueueTransport.markDone now job success retryAfter transport) ∧
      view (QueueTransport.markDone now job success retryAfter transport) job.queueName =
        (if success then view transport job.queueName
        else match retryAfter with
          | some delay =>
              if job.attempts < job.maxAttempts then
                (view transport job.queueName).defer (now + retryDelay delay) job
              else view transport job.queueName
          | none => view transport job.queueName) ∧
      counters (QueueTransport.markDone now job success retryAfter transport) job.queueName =
        (if success then (counters transport job.queueName).bumpSuccess
        else match retryAfter with
          | some _ =>
              if job.attempts < job.maxAttempts then (counters transport job.queueName).bumpRetry
              else (counters transport job.queueName).bumpDead
          | none => (counters transport job.queueName).bumpDead) ∧
      ∀ other, other ≠ job.queueName →
        view (QueueTransport.markDone now job success retryAfter transport) other =
          view transport other

/-! ## The policy -/

section Policy

variable {σ : Type} [QueueTransport σ]

/-- The loop of the queue keeps coming round, and time goes on. -/
structure KeepsPolling (prefetch : String → ℕ) (drain : Drain σ) (schedule : ℕ → DrainInput)
    (queue : String) : Prop where
  polls : ∀ index, ∃ later, index ≤ later ∧ schedule later = .poll queue ∧
    (drain.after prefetch schedule later).batch queue = []
  clock : ∀ moment, ∃ index, moment ≤ (drain.after prefetch schedule index).now

/-- A queued job has only failed so far or has come to its end, and it does come to its
end when its loop keeps coming round. -/
def RetriesInOrder (prefetch : String → ℕ) (transport : σ) (schedule : ℕ → DrainInput) : Prop :=
  ∀ (queue : String) (index : ℕ) (job : Job),
    job ∈ (Drain.after prefetch { transport := transport } schedule index).queued queue →
      (Failed (callsOf
          ((Drain.after prefetch { transport := transport } schedule index).calls queue)
          job.jobId) ∨
        Ended job.maxAttempts (callsOf
          ((Drain.after prefetch { transport := transport } schedule index).calls queue)
          job.jobId)) ∧
      (KeepsPolling prefetch { transport := transport } schedule queue →
        ∃ ended calls, Ended job.maxAttempts calls ∧ ∀ later, ended ≤ later →
          callsOf ((Drain.after prefetch { transport := transport } schedule later).calls queue)
            job.jobId = calls)

/-- Whatever the schedule and however the calls of `process` end, jobs are retried in
order. -/
def KeepsRetryPolicy (prefetch : String → ℕ) (transport : σ) : Prop :=
  ∀ schedule, RetriesInOrder prefetch transport schedule

/-- No call of `process` is ended by a cancellation. -/
def Uncancelled (prefetch : String → ℕ) (drain : Drain σ) (schedule : ℕ → DrainInput) : Prop :=
  ∀ index, (drain.after prefetch schedule index).LetsEnd (schedule index)

end Policy

/-! ## A process over a lawful transport -/

section Lawful

variable {σ : Type} [QueueTransport σ] [LawfulTransport σ]

open LawfulTransport

def Drain.hands (drain : Drain σ) (queue : String) : List ℕ :=
  (drain.batch queue).map fun run => run.job.jobId

/-- One queue of the process. -/
def Drain.bench (drain : Drain σ) (queue : String) : Bench where
  now := drain.now
  jobs := view drain.transport queue
  batch := drain.batch queue
  queued := drain.queued queue
  calls := drain.calls queue

structure Drain.InOrder (drain : Drain σ) : Prop where
  valid : Valid drain.hands drain.transport
  sound : ∀ queue, (drain.bench queue).Sound
  fresh : ∀ queue, ∀ job ∈ drain.queued queue, job.jobId < drain.drawn
  apart : ∀ queue other, ∀ jobId ∈ (drain.queued queue).map Job.jobId,
    jobId ∈ (drain.queued other).map Job.jobId → queue = other
  named : ∀ queue, ∀ run ∈ drain.batch queue, run.job.queueName = queue
  namedStored : ∀ queue, ∀ job ∈ (view drain.transport queue).all, job.queueName = queue

/-- A step that leaves a queue alone may let time pass. -/
theorem BenchStep.of_same {prefetch : ℕ} {bench bench' : Bench} (hnow : bench.now ≤ bench'.now)
    (hjobs : bench'.jobs = bench.jobs) (hbatch : bench'.batch = bench.batch)
    (hqueued : bench'.queued = bench.queued) (hcalls : bench'.calls = bench.calls) :
    BenchStep prefetch bench bench' := by
  obtain ⟨now', jobs', batch', queued', calls'⟩ := bench'
  subst hjobs hbatch hqueued hcalls
  exact .wait now' hnow

variable {prefetch : String → ℕ} {drain : Drain σ}

/-- A step of the process: it stays in order, and every queue makes a step. -/
structure DrainSpec (prefetch : String → ℕ) (drain drain' : Drain σ) : Prop where
  inOrder : drain'.InOrder
  steps : ∀ queue, BenchStep (prefetch queue) (drain.bench queue) (drain'.bench queue)

theorem Drain.InOrder.still (hdrain : drain.InOrder) : DrainSpec prefetch drain drain where
  inOrder := hdrain
  steps _ := .of_same le_rfl rfl rfl rfl rfl

theorem Drain.InOrder.wait (hdrain : drain.InOrder) (span : ℕ) :
    DrainSpec prefetch drain { drain with now := drain.now + span } where
  inOrder :=
    { hdrain with
      sound := fun queue =>
        (hdrain.sound queue).wait (le_add_of_nonneg_right (Int.natCast_nonneg span)) }
  steps _ := .of_same (le_add_of_nonneg_right (Int.natCast_nonneg span)) rfl rfl rfl rfl

/-- The identities of unfinished jobs are among those queued. -/
theorem Drain.InOrder.known_stored (hdrain : drain.InOrder) {queue : String} {jobId : ℕ}
    (hstored : jobId ∈ (view drain.transport queue).all.map Job.jobId) :
    jobId ∈ (drain.queued queue).map Job.jobId :=
  (hdrain.sound queue).known jobId (List.mem_append_left _ hstored)

theorem Drain.InOrder.known_held (hdrain : drain.InOrder) {queue : String} {jobId : ℕ}
    (hheld : jobId ∈ drain.hands queue) : jobId ∈ (drain.queued queue).map Job.jobId :=
  (hdrain.sound queue).known jobId (List.mem_append_right _ hheld)

/-- What a step has to keep besides the steps of the single queues. -/
theorem Drain.InOrder.of_steps {drain' : Drain σ} (hdrain : drain.InOrder)
    (hvalid : Valid drain'.hands drain'.transport)
    (hsteps : ∀ queue, BenchStep (prefetch queue) (drain.bench queue) (drain'.bench queue))
    (hqueued : drain'.queued = drain.queued) (hdrawn : drain'.drawn = drain.drawn)
    (hnamed : ∀ queue, ∀ run ∈ drain'.batch queue, run.job.queueName = queue)
    (hstored : ∀ queue, ∀ job ∈ (view drain'.transport queue).all, job.queueName = queue) :
    DrainSpec prefetch drain drain' where
  inOrder :=
    { valid := hvalid
      sound := fun queue => (hsteps queue).sound (hdrain.sound queue)
      fresh := by
        rw [hqueued, hdrawn]
        exact hdrain.fresh
      apart := by
        rw [hqueued]
        exact hdrain.apart
      named := hnamed
      namedStored := hstored }
  steps := hsteps

/-! ### A job is added -/

/-- A queue's new job is the only one with its identity. -/
theorem Drain.InOrder.drawn_not_mem (hdrain : drain.InOrder) (queue : String) :
    drain.drawn ∉ (drain.queued queue).map Job.jobId := by
  intro hmem
  obtain ⟨old, hold, hid⟩ := List.mem_map.mp hmem
  exact absurd (hdrain.fresh queue old hold) (by omega)

/-- The process after a job has been accepted. -/
def Drain.accepted (drain : Drain σ) (job : Job) : Drain σ :=
  { drain with
    transport := QueueTransport.enqueue drain.now job drain.transport
    drawn := drain.drawn + 1
    queued := Function.update drain.queued job.queueName (drain.queued job.queueName ++ [job]) }

omit [LawfulTransport σ] in
theorem Drain.InOrder.mem_accepted {job old : Job} {queue : String}
    (hold : old ∈ (drain.accepted job).queued queue) :
    old ∈ drain.queued queue ∨ old = job ∧ queue = job.queueName := by
  simp only [Drain.accepted] at hold
  by_cases hqueue : queue = job.queueName
  · subst hqueue
    rw [Function.update_self, List.mem_append, List.mem_singleton] at hold
    exact hold.imp_right fun heq => ⟨heq, rfl⟩
  · rw [Function.update_of_ne hqueue] at hold
    exact .inl hold

theorem Drain.InOrder.accepted (hdrain : drain.InOrder) {job : Job} (hid : job.jobId = drain.drawn)
    (hattempts : job.attempts = 0) (hmax : job.maxAttempts = 10)
    (haccepts : QueueTransport.accepts drain.now job.dedupKey drain.transport = true) :
    DrainSpec prefetch drain (drain.accepted job) := by
  obtain ⟨hvalid, ⟨count, hdue, hview⟩, hothers⟩ :=
    enqueue_accepted job hdrain.valid hmax haccepts
  -- the id was drawn for this job
  have hfresh : ∀ queue, job.jobId ∉ (drain.queued queue).map Job.jobId := by
    rw [hid]
    exact hdrain.drawn_not_mem
  have hsteps : ∀ queue, BenchStep (prefetch queue) (drain.bench queue)
      ((drain.accepted job).bench queue) := by
    intro queue
    by_cases hqueue : queue = job.queueName
    · subst hqueue
      have hstep : BenchStep (prefetch job.queueName) (drain.bench job.queueName) _ :=
        .enqueue count hdue job (hfresh job.queueName) hattempts hmax
      simpa [Drain.bench, Drain.accepted, hview] using hstep
    · refine .of_same le_rfl (hothers queue hqueue) rfl ?_ rfl
      simp [Drain.bench, Drain.accepted, Function.update_of_ne hqueue]
  refine ⟨⟨hvalid, fun queue => (hsteps queue).sound (hdrain.sound queue), ?_, ?_,
    hdrain.named, ?_⟩, hsteps⟩
  · intro queue old hold
    rcases Drain.InOrder.mem_accepted hold with hold | ⟨rfl, -⟩
    · exact (hdrain.fresh queue old hold).trans (Nat.lt_succ_self _)
    · rw [hid]
      exact Nat.lt_succ_self _
  · intro queue other jobId hmem hmem'
    obtain ⟨old, hold, rfl⟩ := List.mem_map.mp hmem
    obtain ⟨old', hold', hsame⟩ := List.mem_map.mp hmem'
    rcases Drain.InOrder.mem_accepted hold with hold | ⟨hnew, hqueue⟩ <;>
      rcases Drain.InOrder.mem_accepted hold' with hold' | ⟨hnew', hqueue'⟩
    · exact hdrain.apart queue other _ (List.mem_map_of_mem hold)
        (hsame ▸ List.mem_map_of_mem hold')
    · rw [hnew'] at hsame
      exact absurd (hsame ▸ List.mem_map_of_mem hold) (hfresh queue)
    · rw [hnew] at hsame
      exact absurd (hsame ▸ List.mem_map_of_mem hold') (hfresh other)
    · rw [hqueue, hqueue']
  · intro queue stored hstored
    simp only [Drain.accepted] at hstored
    by_cases hqueue : queue = job.queueName
    · subst hqueue
      rw [hview] at hstored
      rcases List.mem_cons.mp ((DelayQueue.all_put _ job).mem_iff.mp hstored) with rfl | hold
      · rfl
      · rw [DelayQueue.all_promote] at hold
        exact hdrain.namedStored _ stored hold
    · rw [hothers queue hqueue] at hstored
      exact hdrain.namedStored queue stored hstored

theorem Drain.InOrder.enqueue (hdrain : drain.InOrder) (queue : String) (payload : JsonObject)
    (dedupKey : Option String) :
    DrainSpec prefetch drain
      (next (Drain.step prefetch) drain (.enqueue queue payload dedupKey)) := by
  cases haccepts : QueueTransport.accepts drain.now dedupKey drain.transport with
  | true =>
      have hspec : DrainSpec prefetch drain (drain.accepted
          { queueName := queue, payload := payload, dedupKey := dedupKey, jobId := drain.drawn }) :=
        hdrain.accepted rfl rfl rfl haccepts
      simpa only [next, Drain.step, haccepts, if_true, Drain.accepted] using hspec
  | false =>
      have hsame : QueueTransport.enqueue drain.now
          { queueName := queue, payload := payload, dedupKey := dedupKey, jobId := drain.drawn }
          drain.transport = drain.transport := enqueue_rejected haccepts
      have hnext : next (Drain.step prefetch) drain (.enqueue queue payload dedupKey) =
          { drain with drawn := drain.drawn + 1 } := by
        simp only [next, Drain.step, haccepts, Bool.false_eq_true, if_false]
        rw [hsame]
      rw [hnext]
      refine ⟨?_, fun other => .of_same le_rfl rfl rfl rfl rfl⟩
      exact { hdrain with
        fresh := fun other job hjob => (hdrain.fresh other job hjob).trans (Nat.lt_succ_self _) }

/-! ### A batch is asked for -/

theorem Drain.InOrder.hands_apart (hdrain : drain.InOrder) {queue other : String}
    (hother : other ≠ queue) {jobId : ℕ} (hknown : jobId ∈ (drain.queued queue).map Job.jobId) :
    jobId ∉ drain.hands other :=
  fun hheld => hother (hdrain.apart other queue jobId (hdrain.known_held hheld) hknown)

/-- The process after a loop whose batch has ended has asked for the next. -/
def Drain.polled (prefetch : String → ℕ) (drain : Drain σ) (queue : String) : Drain σ :=
  let taken := QueueTransport.dequeue drain.now queue (prefetch queue) tick drain.transport
  { drain with
    transport := taken.2
    now := taken.1.returnedAt
    batch := Function.update drain.batch queue
      (taken.1.jobs.map fun job => ⟨job, taken.1.returnedAt, false⟩) }

omit [LawfulTransport σ] in
theorem Drain.hands_polled (queue : String) :
    (drain.polled prefetch queue).hands = Function.update drain.hands queue
      ((QueueTransport.dequeue drain.now queue (prefetch queue) tick
        drain.transport).1.jobs.map Job.jobId) := by
  funext other
  by_cases hother : other = queue
  · subst hother
    simp [Drain.hands, Drain.polled, Function.comp_def]
  · simp [Drain.hands, Drain.polled, Function.update_of_ne hother]

theorem Drain.InOrder.polled (hdrain : drain.InOrder) {queue : String}
    (hprefetch : 0 < prefetch queue) (hbatch : drain.batch queue = []) :
    DrainSpec prefetch drain (drain.polled prefetch queue) ∧
      Polls (prefetch queue) (drain.bench queue) ((drain.polled prefetch queue).bench queue) := by
  have hidle : drain.hands queue = [] := by simp [Drain.hands, hbatch]
  have hnodup : ((view drain.transport queue).all.map Job.jobId).Nodup :=
    (List.nodup_append.mp (hdrain.sound queue).nodup).1
  -- an id lives in one queue, and this loop holds nothing
  have hapart : ∀ jobId ∈ (view drain.transport queue).all.map Job.jobId,
      ∀ other, jobId ∉ drain.hands other := by
    intro jobId hstored other
    by_cases hother : other = queue
    · simp [hother, hidle]
    · exact hdrain.hands_apart hother (hdrain.known_stored hstored)
  have htick : 0 < tick := by norm_num [tick]
  obtain ⟨hvalid, hnow, ⟨count, hdue, hprogress, hjobs, hview⟩, hothers⟩ :=
    dequeue_idle drain.now hdrain.valid hidle hprefetch htick hnodup hapart
  have hbench : (drain.polled prefetch queue).bench queue =
      { drain.bench queue with
        now := (drain.polled prefetch queue).now
        jobs := ((view drain.transport queue).promote count).skip (prefetch queue)
        batch := (((view drain.transport queue).promote count).ready.take (prefetch queue)).map
          fun job => ⟨job, (drain.polled prefetch queue).now, false⟩ } := by
    simp only [Drain.bench, Drain.polled, Function.update_self, hview, ← hjobs]
  refine ⟨hdrain.of_steps ?_ (fun other => ?_) rfl rfl (fun other run hrun => ?_)
    (fun other stored hstored => ?_), ⟨count, _, hnow, hbatch, hdue, hprogress, hbench⟩⟩
  · rw [Drain.hands_polled]
    exact hvalid
  · by_cases hother : other = queue
    · subst hother
      rw [hbench]
      exact .poll count _ hnow hbatch hdue hprogress
    · refine .of_same hnow (hothers other hother) ?_ rfl rfl
      simp [Drain.bench, Drain.polled, Function.update_of_ne hother]
  · by_cases hother : other = queue
    · subst hother
      simp only [Drain.polled, Function.update_self, hjobs] at hrun
      obtain ⟨job, hjob, rfl⟩ := List.mem_map.mp hrun
      refine hdrain.namedStored other job ?_
      rw [← DelayQueue.all_promote _ count]
      exact List.mem_append_left _ (List.mem_of_mem_take hjob)
    · simp only [Drain.polled, Function.update_of_ne hother] at hrun
      exact hdrain.named other run hrun
  · by_cases hother : other = queue
    · subst hother
      simp only [Drain.polled, hview] at hstored
      refine hdrain.namedStored other stored ?_
      rw [← DelayQueue.all_promote _ count, ← DelayQueue.take_append_all_skip _ (prefetch other)]
      exact List.mem_append_right _ hstored
    · simp only [Drain.polled, hothers other hother] at hstored
      exact hdrain.namedStored other stored hstored

omit [LawfulTransport σ] in
theorem Drain.next_poll {queue : String} (hbatch : drain.batch queue = []) :
    next (Drain.step prefetch) drain (.poll queue) = drain.polled prefetch queue := by
  simp [next, Drain.step, hbatch, Drain.polled]

theorem Drain.InOrder.poll (hdrain : drain.InOrder) {queue : String}
    (hprefetch : 0 < prefetch queue) :
    DrainSpec prefetch drain (next (Drain.step prefetch) drain (.poll queue)) := by
  by_cases hbatch : drain.batch queue = []
  · rw [Drain.next_poll hbatch]
    exact (hdrain.polled hprefetch hbatch).1
  · simpa [next, Drain.step, hbatch] using hdrain.still

/-! ### A call begins -/

theorem eq_append_of_getElem? {α : Type*} {list : List α} {index : ℕ} {item : α}
    (hitem : list[index]? = some item) :
    ∃ front back, list = front ++ item :: back ∧
      (∀ other, list.set index other = front ++ other :: back) ∧
      list.eraseIdx index = front ++ back := by
  obtain ⟨hlt, rfl⟩ := List.getElem?_eq_some_iff.mp hitem
  refine ⟨list.take index, list.drop (index + 1), ?_, fun other => ?_,
    List.eraseIdx_eq_take_drop_succ list index⟩
  · rw [List.getElem_cons_drop, List.take_append_drop]
  · rw [List.set_eq_take_append_cons_drop, if_pos hlt]

theorem Drain.InOrder.called (hdrain : drain.InOrder) {queue : String} {job : Job}
    {deliveredAt : Instant} {front back : List Running}
    (hbatch : drain.batch queue = front ++ ⟨job, deliveredAt, false⟩ :: back) :
    DrainSpec prefetch drain
      { drain with
        batch := Function.update drain.batch queue
          (front ++ ⟨job.tried, deliveredAt, true⟩ :: back) } := by
  refine hdrain.of_steps ?_ (fun other => ?_) rfl rfl (fun other run hrun => ?_) hdrain.namedStored
  · convert hdrain.valid using 1
    funext other
    by_cases hother : other = queue
    · subst hother
      simp [Drain.hands, hbatch, Job.tried]
    · simp [Drain.hands, Function.update_of_ne hother]
  · by_cases hother : other = queue
    · subst hother
      have hstep : BenchStep (prefetch other) (drain.bench other) _ :=
        .call front back job deliveredAt hbatch
      simpa [Drain.bench] using hstep
    · refine .of_same le_rfl rfl ?_ rfl rfl
      simp [Drain.bench, Function.update_of_ne hother]
  · by_cases hother : other = queue
    · subst hother
      simp only [Function.update_self, List.mem_append, List.mem_cons] at hrun
      have hnamed := hdrain.named other
      rw [hbatch] at hnamed
      rcases hrun with hfront | rfl | hback
      · exact hnamed run (List.mem_append_left _ hfront)
      · exact hnamed ⟨job, deliveredAt, false⟩ (by simp)
      · exact hnamed run (by simp [hback])
    · simp only [Function.update_of_ne hother] at hrun
      exact hdrain.named other run hrun

theorem Drain.InOrder.call (hdrain : drain.InOrder) (queue : String) (index : ℕ) :
    DrainSpec prefetch drain (next (Drain.step prefetch) drain (.call queue index)) := by
  simp only [next, Drain.step]
  split
  · next job deliveredAt hrun =>
    obtain ⟨front, back, hbatch, hset, -⟩ := eq_append_of_getElem? hrun
    rw [hset]
    exact hdrain.called hbatch
  · exact hdrain.still

/-! ### A call ends -/

/-- The process after a call has ended and its job has been marked done. -/
def Drain.settled (drain : Drain σ) (transport : σ) (queue : String) (batch : List Running)
    (call : ProcessCall) : Drain σ :=
  { drain with
    transport := transport
    batch := Function.update drain.batch queue batch
    calls := Function.update drain.calls queue (drain.calls queue ++ [call]) }

section Settled

variable {queue : String} {job : Job} {deliveredAt : Instant} {front back : List Running}

theorem Drain.hands_settled (hdrain : drain.InOrder)
    (hbatch : drain.batch queue = front ++ ⟨job, deliveredAt, true⟩ :: back) (transport : σ)
    (call : ProcessCall) :
    (drain.settled transport queue (front ++ back) call).hands =
      Function.update drain.hands queue ((drain.hands queue).erase job.jobId) := by
  have hnodup : (drain.hands queue).Nodup :=
    (List.nodup_append.mp (hdrain.sound queue).nodup).2.1
  have hhands : drain.hands queue =
      front.map (fun run => run.job.jobId) ++ job.jobId :: back.map fun run => run.job.jobId := by
    simp [Drain.hands, hbatch]
  funext other
  by_cases hother : other = queue
  · subst hother
    rw [hhands] at hnodup
    have hfront : job.jobId ∉ front.map fun run => run.job.jobId := fun hmem =>
      (List.nodup_append.mp hnodup).2.2 _ hmem _ List.mem_cons_self rfl
    rw [Function.update_self, hhands, List.erase_append_right _ hfront, List.erase_cons_head]
    simp [Drain.hands, Drain.settled]
  · simp [Drain.hands, Drain.settled, Function.update_of_ne hother]

theorem Drain.InOrder.settled (hdrain : drain.InOrder)
    (hbatch : drain.batch queue = front ++ ⟨job, deliveredAt, true⟩ :: back) {transport : σ}
    {call : ProcessCall}
    (hvalid : Valid (Function.update drain.hands queue ((drain.hands queue).erase job.jobId))
      transport)
    (hothers : ∀ other, other ≠ queue → view transport other = view drain.transport other)
    (hstored : ∀ stored ∈ (view transport queue).all,
      stored = job ∨ stored ∈ (view drain.transport queue).all)
    (hstep : BenchStep (prefetch queue) (drain.bench queue)
      { drain.bench queue with
        jobs := view transport queue
        batch := front ++ back
        calls := drain.calls queue ++ [call] }) :
    DrainSpec prefetch drain (drain.settled transport queue (front ++ back) call) := by
  have hnamed := hdrain.named queue
  rw [hbatch] at hnamed
  refine hdrain.of_steps ?_ (fun other => ?_) rfl rfl (fun other run hrun => ?_)
    (fun other stored hmem => ?_)
  · rw [Drain.hands_settled hdrain hbatch]
    exact hvalid
  · by_cases hother : other = queue
    · subst hother
      simpa [Drain.bench, Drain.settled] using hstep
    · refine .of_same le_rfl (hothers other hother) ?_ rfl ?_ <;>
        simp [Drain.bench, Drain.settled, Function.update_of_ne hother]
  · by_cases hother : other = queue
    · subst hother
      simp only [Drain.settled, Function.update_self, List.mem_append] at hrun
      rcases hrun with hfront | hback
      · exact hnamed run (List.mem_append_left _ hfront)
      · exact hnamed run (by simp [hback])
    · simp only [Drain.settled, Function.update_of_ne hother] at hrun
      exact hdrain.named other run hrun
  · by_cases hother : other = queue
    · subst hother
      rcases hstored stored hmem with rfl | hold
      · exact hnamed ⟨stored, deliveredAt, true⟩ (by simp)
      · exact hdrain.namedStored other stored hold
    · simp only [Drain.settled, hothers other hother] at hmem
      exact hdrain.namedStored other stored hmem

theorem attempts_lt_of_retryAfter {delay : ℕ} (hretry : job.retryAfter = some delay) :
    job.attempts < job.maxAttempts := by
  unfold Job.retryAfter at hretry
  split at hretry
  · cases hretry
  · omega

/-- Marking a job done, as the loop does it. -/
theorem Drain.InOrder.settleJob (hdrain : drain.InOrder)
    (hbatch : drain.batch queue = front ++ ⟨job, deliveredAt, true⟩ :: back) {outcome : Outcome}
    (hends : outcome ≠ .cancelled) :
    DrainSpec prefetch drain
      (drain.settled (ChmabaPay.settleJob drain.now job outcome drain.transport) queue
        (front ++ back)
        ⟨job, deliveredAt, outcome.raised, drain.now,
          (counters (ChmabaPay.settleJob drain.now job outcome drain.transport) queue).success -
            (counters drain.transport queue).success,
          (counters (ChmabaPay.settleJob drain.now job outcome drain.transport) queue).dead -
            (counters drain.transport queue).dead⟩) := by
  have hrun : (⟨job, deliveredAt, true⟩ : Running) ∈ drain.batch queue := by simp [hbatch]
  have hname : job.queueName = queue := hdrain.named queue _ hrun
  have hheld : job.jobId ∈ drain.hands queue := List.mem_map_of_mem hrun
  have hmax : job.maxAttempts = 10 := ((hdrain.sound queue).held _ hrun).maxAttempts
  have hnodup := List.nodup_append.mp (hdrain.sound queue).nodup
  have hgone : job.jobId ∉ (view drain.transport queue).all.map Job.jobId :=
    fun hmem => hnodup.2.2 _ hmem _ hheld rfl
  have hapart : ∀ other, other ≠ queue → job.jobId ∉ drain.hands other :=
    fun other hother => hdrain.hands_apart hother (hdrain.known_held hheld)
  subst hname
  have hmarked := fun success retryAfter =>
    markDone_held drain.now success retryAfter hdrain.valid hmax hheld hapart hgone
  -- counted as a success, counted as dead, or put behind its delay
  cases outcome with
  | cancelled => exact absurd rfl hends
  | returns =>
      obtain ⟨hvalid, hview, hcounters, hothers⟩ := hmarked true none
      simp only [if_true] at hview hcounters
      refine hdrain.settled hbatch hvalid hothers (fun stored hmem => ?_) ?_
      · exact .inr (hview ▸ hmem)
      · have hstep : BenchStep (prefetch job.queueName) (drain.bench job.queueName) _ :=
          .succeed front back job deliveredAt hbatch
        simp only [ChmabaPay.settleJob, hview, hcounters]
        simpa [Counters.bumpSuccess, Drain.bench, Outcome.raised] using hstep
  | raises =>
      obtain ⟨hvalid, hview, hcounters, hothers⟩ := hmarked false job.retryAfter
      simp only [Bool.false_eq_true, if_false] at hview hcounters
      cases hretry : job.retryAfter with
      | none =>
          rw [hretry] at hview hcounters hvalid hothers
          refine hdrain.settled hbatch ?_ ?_ (fun stored hmem => ?_) ?_
          · simpa [ChmabaPay.settleJob, hretry] using hvalid
          · simpa [ChmabaPay.settleJob, hretry] using hothers
          · simp only [ChmabaPay.settleJob, hretry, hview] at hmem
            exact .inr hmem
          · have hstep : BenchStep (prefetch job.queueName) (drain.bench job.queueName) _ :=
              .die front back job deliveredAt hbatch hretry
            simp only [ChmabaPay.settleJob, hretry, hview, hcounters]
            simpa [Counters.bumpDead, Drain.bench, Outcome.raised] using hstep
      | some delay =>
          have hroom := attempts_lt_of_retryAfter hretry
          rw [hretry] at hview hcounters hvalid hothers
          simp only [hroom, if_true] at hview hcounters
          refine hdrain.settled hbatch ?_ ?_ (fun stored hmem => ?_) ?_
          · simpa [ChmabaPay.settleJob, hretry] using hvalid
          · simpa [ChmabaPay.settleJob, hretry] using hothers
          · simp only [ChmabaPay.settleJob, hretry, hview] at hmem
            exact List.mem_cons.mp ((DelayQueue.all_defer _ _ job).mem_iff.mp hmem)
          · have hstep : BenchStep (prefetch job.queueName) (drain.bench job.queueName) _ :=
              .retry front back job deliveredAt delay hbatch hretry
            simp only [ChmabaPay.settleJob, hretry, hview, hcounters]
            simpa [Counters.bumpRetry, Drain.bench, Outcome.raised] using hstep

end Settled

theorem Drain.InOrder.finish (hdrain : drain.InOrder) {queue : String} {index : ℕ}
    {outcome : Outcome} (hlets : drain.LetsEnd (.finish queue index outcome)) :
    DrainSpec prefetch drain (next (Drain.step prefetch) drain (.finish queue index outcome)) := by
  simp only [next, Drain.step]
  split
  · next job deliveredAt hrun =>
    obtain ⟨front, back, hbatch, -, herase⟩ := eq_append_of_getElem? hrun
    have hends : outcome ≠ .cancelled := by
      rintro rfl
      exact hlets job deliveredAt hrun
    rw [herase]
    simpa only [Drain.settled, counters_metrics] using hdrain.settleJob hbatch hends
  · exact hdrain.still

/-! ### Whole runs -/

theorem Drain.InOrder.step (hdrain : drain.InOrder) (hprefetch : ∀ queue, 0 < prefetch queue)
    {input : DrainInput} (hlets : drain.LetsEnd input) :
    DrainSpec prefetch drain (next (Drain.step prefetch) drain input) := by
  cases input with
  | wait span => exact hdrain.wait span
  | enqueue queue payload dedupKey => exact hdrain.enqueue queue payload dedupKey
  | poll queue => exact hdrain.poll (hprefetch queue)
  | call queue index => exact hdrain.call queue index
  | finish queue index outcome => exact hdrain.finish hlets

theorem Drain.InOrder.after (hdrain : drain.InOrder) (hprefetch : ∀ queue, 0 < prefetch queue)
    {schedule : ℕ → DrainInput} (hends : Uncancelled prefetch drain schedule) (index : ℕ) :
    (drain.after prefetch schedule index).InOrder := by
  induction index with
  | zero => exact hdrain
  | succ index ih => exact (ih.step hprefetch (hends index)).inOrder

theorem Drain.InOrder.ongoing (hdrain : drain.InOrder) (hprefetch : ∀ queue, 0 < prefetch queue)
    {schedule : ℕ → DrainInput} {queue : String}
    (hends : Uncancelled prefetch drain schedule)
    (hpolling : KeepsPolling prefetch drain schedule queue) :
    Ongoing (prefetch queue) fun index => (drain.after prefetch schedule index).bench queue where
  sound := hdrain.sound queue
  steps index :=
    ((hdrain.after hprefetch hends index).step hprefetch (hends index)).steps queue
  polls index := by
    obtain ⟨later, hlater, hpoll, hbatch⟩ := hpolling.polls index
    refine ⟨later, hlater, ?_⟩
    simp only [Drain.after, hpoll, Drain.next_poll hbatch]
    exact ((hdrain.after hprefetch hends later).polled (hprefetch queue) hbatch).2
  clock := hpolling.clock

/-- What is known of a queued job at any time: its calls so far all failed, or it
has come to its end. -/
theorem Drain.InOrder.failed_or_ended (hdrain : drain.InOrder) {queue : String} {job : Job}
    (hjob : job ∈ drain.queued queue) :
    Failed (callsOf (drain.calls queue) job.jobId) ∨
      Ended 10 (callsOf (drain.calls queue) job.jobId) := by
  have hsound := hdrain.sound queue
  by_cases hopen : job.jobId ∈ (drain.bench queue).unfinished
  · rcases List.mem_append.mp hopen with hmem | hmem
    · obtain ⟨stored, hstored, hid⟩ := List.mem_map.mp hmem
      exact .inl (hid ▸ (hsound.stored stored hstored).failed)
    · obtain ⟨run, hrun, hid⟩ := List.mem_map.mp hmem
      exact .inl (hid ▸ (hsound.held run hrun).failed)
  · exact .inr (hsound.ended job hjob hopen)

omit [LawfulTransport σ] in
/-- Callers leave the number of attempts at its default. -/
theorem Drain.mem_queued_next {input : DrainInput} {queue : String} {job : Job}
    (hjob : job ∈ (next (Drain.step prefetch) drain input).queued queue) :
    job ∈ drain.queued queue ∨ job.maxAttempts = 10 := by
  cases input with
  | wait span => exact .inl hjob
  | enqueue name payload dedupKey =>
      simp only [next, Drain.step] at hjob
      split at hjob
      · by_cases hname : queue = name
        · subst hname
          rw [Function.update_self, List.mem_append, List.mem_singleton] at hjob
          rcases hjob with hold | rfl
          · exact .inl hold
          · exact .inr rfl
        · rw [Function.update_of_ne hname] at hjob
          exact .inl hjob
      · exact .inl hjob
  | poll name =>
      simp only [next, Drain.step] at hjob
      split at hjob <;> exact .inl hjob
  | call name position =>
      simp only [next, Drain.step] at hjob
      split at hjob <;> exact .inl hjob
  | finish name position outcome =>
      simp only [next, Drain.step] at hjob
      split at hjob <;> exact .inl hjob

omit [LawfulTransport σ] in
theorem maxAttempts_of_queued {transport : σ} {schedule : ℕ → DrainInput} {queue : String}
    {index : ℕ} {job : Job}
    (hjob : job ∈ (Drain.after prefetch { transport := transport } schedule index).queued queue) :
    job.maxAttempts = 10 := by
  induction index with
  | zero => cases hjob
  | succ index ih => exact (Drain.mem_queued_next hjob).elim ih id

theorem Drain.inOrder_fresh {transport : σ} (hvalid : Valid (fun _ => []) transport)
    (hempty : ∀ queue, view transport queue = {}) :
    Drain.InOrder ({ transport := transport } : Drain σ) where
  valid := hvalid
  sound queue := by
    constructor <;> simp [Drain.bench, Bench.unfinished, hempty, DelayQueue.all]
  fresh := by simp
  apart := by simp
  named := by simp
  namedStored := by simp [hempty, DelayQueue.all]

/-- Over a lawful transport that starts empty jobs are retried in order as long as no call is
cancelled. -/
theorem retriesInOrder_of_lawful (hprefetch : ∀ queue, 0 < prefetch queue) {transport : σ}
    (hvalid : Valid (fun _ => []) transport) (hempty : ∀ queue, view transport queue = {})
    {schedule : ℕ → DrainInput} (hends : Uncancelled prefetch { transport := transport } schedule) :
    RetriesInOrder prefetch transport schedule := by
  intro queue index job hjob
  have hfresh := Drain.inOrder_fresh hvalid hempty
  rw [maxAttempts_of_queued hjob]
  refine ⟨(hfresh.after hprefetch hends index).failed_or_ended hjob, fun hpolling => ?_⟩
  exact (hfresh.ongoing hprefetch hends hpolling).job_ends (hprefetch queue) hjob

/-! ## A loop that comes round -/

/-- One job that always fails, and a loop that takes up one job a second. -/
def failingRounds (queue : String) : ℕ → DrainInput
  | 0 => .enqueue queue [] none
  | index + 1 =>
      match index % 4 with
      | 0 => .poll queue
      | 1 => .call queue 0
      | 2 => .finish queue 0 .raises
      | _ => .wait 1000000

omit [LawfulTransport σ] in
theorem uncancelled_failingRounds (drain : Drain σ) (queue : String) :
    Uncancelled prefetch drain (failingRounds queue) := by
  intro index
  generalize drain.after prefetch (failingRounds queue) index = reached
  cases index with
  | zero => trivial
  | succ index =>
      simp only [failingRounds]
      split <;> trivial

/-- A batch of one job is over when its call has ended. -/
theorem Drain.InOrder.round (hdrain : drain.InOrder) {queue : String} (hone : prefetch queue = 1)
    (hbatch : drain.batch queue = []) :
    (next (Drain.step prefetch) (next (Drain.step prefetch)
      (next (Drain.step prefetch) drain (.poll queue)) (.call queue 0))
      (.finish queue 0 .raises)).batch queue = [] := by
  have hprefetch : 0 < prefetch queue := by omega
  obtain ⟨count, now, -, -, -, -, hbench⟩ := (hdrain.polled hprefetch hbatch).2
  have htaken : (drain.polled prefetch queue).batch queue = _ := congrArg Bench.batch hbench
  rw [Drain.next_poll hbatch]
  generalize drain.polled prefetch queue = polled at htaken
  rw [hone] at htaken
  cases hready : ((drain.bench queue).jobs.promote count).ready with
  | nil =>
      rw [hready] at htaken
      simp [next, Drain.step, htaken]
  | cons job rest =>
      rw [hready] at htaken
      simp [next, Drain.step, htaken]

theorem Drain.InOrder.now_le (hdrain : drain.InOrder) (hprefetch : ∀ queue, 0 < prefetch queue)
    {input : DrainInput} (hlets : drain.LetsEnd input) :
    drain.now ≤ (next (Drain.step prefetch) drain input).now :=
  ((hdrain.step hprefetch hlets).steps "").now_le

/-- At the start of every round the batch is empty and the rounds before have taken
their second each. -/
theorem Drain.InOrder.failingRounds (hdrain : drain.InOrder) {queue : String}
    (hone : ∀ queue, prefetch queue = 1) (hbatch : drain.batch queue = []) (hnow : 0 ≤ drain.now)
    (rounds : ℕ) :
    (drain.after prefetch (ChmabaPay.failingRounds queue) (4 * rounds + 1)).batch queue = [] ∧
      (rounds : Int) * 1000000 ≤
        (drain.after prefetch (ChmabaPay.failingRounds queue) (4 * rounds + 1)).now := by
  have hprefetch : ∀ queue, 0 < prefetch queue := fun queue => by
    rw [hone]
    exact Nat.one_pos
  have hends := @uncancelled_failingRounds σ _ prefetch drain queue
  have hinOrder := hdrain.after hprefetch hends
  induction rounds with
  | zero =>
      refine ⟨hbatch, ?_⟩
      rw [Nat.cast_zero, zero_mul]
      exact hnow
  | succ rounds ih =>
      obtain ⟨hidle, hclock⟩ := ih
      have hpoll : ChmabaPay.failingRounds queue (4 * rounds + 1) = .poll queue := by
        simp [ChmabaPay.failingRounds]
      have hcall : ChmabaPay.failingRounds queue (4 * rounds + 2) = .call queue 0 := by
        simp [ChmabaPay.failingRounds, Nat.add_mod]
      have hfinish : ChmabaPay.failingRounds queue (4 * rounds + 3) = .finish queue 0 .raises := by
        simp [ChmabaPay.failingRounds, Nat.add_mod]
      have hwait : ChmabaPay.failingRounds queue (4 * rounds + 4) = .wait 1000000 := by
        simp [ChmabaPay.failingRounds, Nat.add_mod]
      have hround := (hinOrder (4 * rounds + 1)).round (hone queue) hidle
      have hfirst := (hinOrder (4 * rounds + 1)).now_le hprefetch (hends (4 * rounds + 1))
      have hsecond := (hinOrder (4 * rounds + 2)).now_le hprefetch (hends (4 * rounds + 2))
      have hthird := (hinOrder (4 * rounds + 3)).now_le hprefetch (hends (4 * rounds + 3))
      refine ⟨?_, ?_⟩
      · rw [← hpoll, ← hcall, ← hfinish] at hround
        show (next (Drain.step prefetch) _ (ChmabaPay.failingRounds queue (4 * rounds + 4))).batch
          queue = []
        rw [hwait]
        exact hround
      · show _ ≤ (next (Drain.step prefetch) _
          (ChmabaPay.failingRounds queue (4 * rounds + 4))).now
        rw [hwait]
        show _ ≤ (drain.after prefetch (ChmabaPay.failingRounds queue) (4 * rounds + 4)).now +
          ((1000000 : ℕ) : Int)
        have hlater : (drain.after prefetch (ChmabaPay.failingRounds queue) (4 * rounds + 1)).now ≤
            (drain.after prefetch (ChmabaPay.failingRounds queue) (4 * rounds + 4)).now :=
          hfirst.trans (hsecond.trans hthird)
        push_cast
        linarith

theorem Drain.InOrder.keepsPolling (hdrain : drain.InOrder) {queue : String}
    (hone : ∀ queue, prefetch queue = 1) (hbatch : drain.batch queue = []) (hnow : 0 ≤ drain.now) :
    KeepsPolling prefetch drain (ChmabaPay.failingRounds queue) queue where
  polls index := by
    refine ⟨4 * index + 1, by omega, ?_, (hdrain.failingRounds hone hbatch hnow index).1⟩
    simp [ChmabaPay.failingRounds]
  clock moment := by
    refine ⟨4 * moment.toNat + 1, ?_⟩
    have hclock := (hdrain.failingRounds hone hbatch hnow moment.toNat).2
    have hmoment := Int.self_le_toNat moment
    linarith

end Lawful

end ChmabaPay
