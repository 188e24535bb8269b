import ChmabaPay.Queues.Retries

/-! # Both transports are lawful

In memory the timers that have run out put their jobs into the queue before anything
else happens. On the server the retries that are due move from the sorted set to the
stream when somebody asks for a batch, and a job is what its record decodes to.
-/

namespace ChmabaPay

open Calendar Redis Execution

/-! ## In memory -/

section InProcess

variable {now : Instant} {count : ℕ} {timeout : Int} {lane : InProcessLane}

/-- A dequeue in memory does not return before the last retry it waited for. -/
theorem late_le_last {entry last : Int × Job}
    (hentry : entry ∈ InProcessTransport.late now count timeout lane)
    (hlast : last ∈ (InProcessTransport.late now count timeout lane).getLast?) :
    entry.1 ≤ last.1 := by
  have hsorted : (InProcessTransport.late now count timeout lane).Pairwise
      fun first second => first.1 ≤ second.1 :=
    lane.jobs.waiting.sorted.sublist
      ((List.take_sublist _ _).trans (List.takeWhile_sublist _))
  obtain ⟨front, hfront⟩ := List.getLast?_eq_some_iff.mp hlast
  rw [hfront, List.pairwise_append] at hsorted
  rw [hfront, List.mem_append, List.mem_singleton] at hentry
  rcases hentry with hold | rfl
  · exact hsorted.2.2 entry hold last (List.mem_singleton_self _)
  · exact le_rfl

/-- The waiting retries that are not due yet come first after those that are. -/
theorem late_eq_take : InProcessTransport.late now count timeout lane =
    lane.jobs.waiting.items.take (InProcessTransport.late now count timeout lane).length := by
  have hprefix : InProcessTransport.late now count timeout lane <+: lane.jobs.waiting.items :=
    (List.take_prefix _ _).trans (List.takeWhile_prefix _)
  exact List.prefix_iff_eq_take.mp hprefix

/-- When a dequeue with a timeout returns, everything it took has come due. -/
theorem InProcessTransport.dequeue_due (now : Instant) (queue : String) (count : ℕ) {timeout : Int}
    (htimeout : 0 < timeout) (transport : InProcessTransport) :
    let lane := (transport.lanes queue).fire now
    now ≤ (transport.dequeue now queue count timeout).1.returnedAt ∧
      ∀ entry ∈ late now count timeout lane,
        entry.1 ≤ (transport.dequeue now queue count timeout).1.returnedAt := by
  have hwait : ¬timeout ≤ 0 := by omega
  simp only [dequeue, if_neg hwait]
  set lane := (transport.lanes queue).fire now
  split
  · refine ⟨by linarith, fun entry hentry => ?_⟩
    exact Agenda.dueBy_le (List.mem_of_mem_take hentry)
  · cases hlast : (late now count timeout lane).getLast? with
    | none =>
        refine ⟨le_rfl, fun entry hentry => ?_⟩
        rw [List.getLast?_eq_none_iff.mp hlast] at hentry
        cases hentry
    | some last =>
        refine ⟨le_max_left _ _, fun entry hentry => ?_⟩
        exact (late_le_last hentry hlast).trans (le_max_right _ _)

theorem InProcessTransport.dequeue_view (now : Instant) (queue : String) (count : ℕ)
    {timeout : Int} (htimeout : 0 < timeout) (transport : InProcessTransport) :
    let jobs := (transport.lanes queue).jobs
    let taken := transport.dequeue now queue count timeout
    ∃ promoted, jobs.Due taken.1.returnedAt promoted ∧
      (promoted = 0 → ∀ entry ∈ jobs.waiting.items, now < entry.1) ∧
      taken.1.jobs = (jobs.promote promoted).ready.take count ∧
      (taken.2.lanes queue).jobs = (jobs.promote promoted).skip count := by
  intro jobs taken
  obtain ⟨hnow, hdue⟩ := dequeue_due now queue count htimeout transport
  have hwait : ¬timeout ≤ 0 := by omega
  set lane := (transport.lanes queue).fire now with hlane
  have hpromote : lane.jobs.promote (late now count timeout lane).length =
      jobs.promote ((jobs.waiting.dueBy now).length + (late now count timeout lane).length) :=
    jobs.promote_promote _ _
  refine ⟨(jobs.waiting.dueBy now).length + (late now count timeout lane).length, ?_, ?_, ?_, ?_⟩
  · intro entry hentry
    rw [List.take_add, List.mem_append] at hentry
    rcases hentry with hearly | hlate
    · exact ((jobs.due_dueBy now) entry hearly).trans hnow
    · refine hdue entry ?_
      rw [late_eq_take]
      exact hlate
  · intro hnone entry hentry
    have hnone : (jobs.waiting.dueBy now).length = 0 := by omega
    have hbehind : entry ∈ jobs.waiting.items.drop (jobs.waiting.dueBy now).length := by
      rw [hnone]
      exact hentry
    exact Agenda.lt_of_mem_drop hbehind
  · rw [← hpromote]
    simp only [taken, dequeue, if_neg hwait, hlane]
  · rw [← hpromote]
    simp only [taken, dequeue, if_neg hwait, hlane, change_lanes]

end InProcess

instance : LawfulTransport InProcessTransport where
  view transport queue := (transport.lanes queue).jobs
  counters transport queue := (transport.lanes queue).counters
  Valid _ _ := True
  counters_metrics _ _ _ := rfl
  enqueue_rejected {now job transport} hrejects := by
    have hrejects : transport.accepts now job.dedupKey = false := hrejects
    simp [QueueTransport.enqueue, InProcessTransport.enqueue, hrejects]
  enqueue_accepted {hands now} job {transport} _ _ haccepts := by
    have haccepts : transport.accepts now job.dedupKey = true := haccepts
    refine ⟨trivial, ⟨_, DelayQueue.due_dueBy _ now, ?_⟩, fun other hother => ?_⟩
    · simp [QueueTransport.enqueue, InProcessTransport.enqueue, haccepts, InProcessLane.fire]
    · simp [QueueTransport.enqueue, InProcessTransport.enqueue, haccepts,
        InProcessTransport.change_lanes_of_ne _ hother]
  dequeue_idle {hands} now {queue prefetch timeout transport} _ _ _ htimeout _ _ := by
    refine ⟨trivial, (InProcessTransport.dequeue_due now queue prefetch htimeout transport).1,
      InProcessTransport.dequeue_view now queue prefetch htimeout transport,
      fun other hother => ?_⟩
    simp only [QueueTransport.dequeue, InProcessTransport.dequeue]
    split <;> simp [InProcessTransport.change_lanes_of_ne _ hother]
  markDone_held {hands} now {job transport} success retryAfter _ _ _ _ _ := by
    refine ⟨trivial, ?_, ?_, fun other hother => ?_⟩
    · simp only [QueueTransport.markDone, InProcessTransport.markDone,
        InProcessTransport.change_lanes]
      split
      · rfl
      · split
        · split <;> rfl
        · rfl
    · simp only [QueueTransport.markDone, InProcessTransport.markDone,
        InProcessTransport.change_lanes]
      split
      · rfl
      · split
        · split <;> rfl
        · rfl
    · simp only [QueueTransport.markDone, InProcessTransport.markDone,
        InProcessTransport.change_lanes_of_ne _ hother]

/-! ## On the server -/

section Server

/-- Retries from the front of the sorted set move to the end of the stream. -/
theorem foldl_promoteOne {moved rest : List (Int × Record)} {lane : Lane}
    (hitems : lane.delayed.items = moved ++ rest) :
    let lane' := (moved.map Prod.snd).foldl promoteOne lane
    lane'.delayed.items = rest ∧
      lane'.stream.undelivered = lane.stream.undelivered ++ moved.map Prod.snd ∧
      lane'.stream.pending = lane.stream.pending ∧ lane'.counters = lane.counters := by
  induction moved generalizing lane with
  | nil => exact ⟨hitems, by simp, rfl, rfl⟩
  | cons head moved ih =>
      have hmember : head.2 ∈ lane.delayed.members := by
        simp [SortedSet.members, hitems]
      have hdistinct := lane.delayed.distinct
      rw [hitems, List.cons_append, List.map_cons, List.nodup_cons] at hdistinct
      -- the head is the only item with its member
      have hfirst : (promoteOne lane head.2).delayed.items = moved ++ rest := by
        simp only [promoteOne, if_pos hmember, Lane.add, Lane.release, SortedSet.zrem,
          Agenda.keep, hitems, List.cons_append, List.filter_cons, ne_eq, not_true_eq_false,
          decide_false, Bool.false_eq_true, if_false]
        rw [List.filter_eq_self]
        intro other hother
        simp only [decide_not, Bool.not_eq_eq_eq_not, Bool.not_true, decide_eq_false_iff_not]
        rintro hsame
        exact hdistinct.1 (hsame ▸ List.mem_map_of_mem hother)
      obtain ⟨hdelayed, hready, hpending, hcounters⟩ := ih hfirst
      refine ⟨hdelayed, hready.trans ?_, hpending.trans ?_, hcounters.trans ?_⟩
      · simp [promoteOne, hmember, Lane.add, Lane.release]
      · simp [promoteOne, hmember, Lane.add, Lane.release]
      · simp [promoteOne, hmember, Lane.add, Lane.release]

/-- How many retries `_promote_due` moves. -/
def promotable (now : Instant) (lane : Lane) : ℕ :=
  min promoteBatch (lane.delayed.dueBy now).length

theorem promoteDue_spec (now : Instant) (lane : Lane) :
    (promoteDue now lane).delayed.items = lane.delayed.items.drop (promotable now lane) ∧
      (promoteDue now lane).stream.undelivered = lane.stream.undelivered ++
        (lane.delayed.items.take (promotable now lane)).map Prod.snd ∧
      (promoteDue now lane).stream.pending = lane.stream.pending ∧
      (promoteDue now lane).counters = lane.counters := by
  have hmoved : (lane.delayed.dueBy now).take promoteBatch =
      lane.delayed.items.take (promotable now lane) := by
    rw [Agenda.dueBy_eq_take, List.take_take, promotable]
  simp only [promoteDue, SortedSet.zrangebyscore, hmoved]
  exact foldl_promoteOne (List.take_append_drop _ _).symm

/-! ### What the process remembers -/

theorem lookup_filter_ne (known : List (ℕ × ℕ)) {jobId other : ℕ} (hother : jobId ≠ other) :
    (known.filter fun item => decide (item.1 ≠ other)).lookup jobId = known.lookup jobId := by
  induction known with
  | nil => rfl
  | cons head known ih =>
      by_cases hhead : head.1 = other
      · have hne : jobId ≠ head.1 := by omega
        rw [List.filter_cons_of_neg (by simp [hhead]), ih, List.lookup_cons,
          beq_false_of_ne hne]
      · rw [List.filter_cons_of_pos (by simp [hhead]), List.lookup_cons, List.lookup_cons, ih]

theorem Consumer.entryOf_forget (consumer : Consumer) {jobId other : ℕ} (hother : jobId ≠ other) :
    (consumer.forget other).entryOf jobId = consumer.entryOf jobId :=
  lookup_filter_ne _ hother

theorem Consumer.remember_cons (consumer : Consumer) (head : Record × ℕ)
    (read : List (Record × ℕ)) :
    consumer.remember (head :: read) = (consumer.remember [head]).remember read := rfl

theorem Consumer.entryOf_remember_of_not_mem (consumer : Consumer) {read : List (Record × ℕ)}
    {jobId : ℕ} (hjobId : jobId ∉ read.map fun item => item.1.id) :
    (consumer.remember read).entryOf jobId = consumer.entryOf jobId := by
  induction read generalizing consumer with
  | nil => rfl
  | cons head read ih =>
      simp only [List.map_cons, List.mem_cons, not_or] at hjobId
      rw [Consumer.remember_cons, ih _ hjobId.2]
      simp only [Consumer.entryOf, Consumer.remember, List.foldl_cons, List.foldl_nil,
        List.lookup_cons, beq_false_of_ne hjobId.1]
      exact lookup_filter_ne _ hjobId.1

theorem Consumer.entryOf_remember_of_mem (consumer : Consumer) {read : List (Record × ℕ)}
    (hnodup : (read.map fun item => item.1.id).Nodup) {item : Record × ℕ} (hitem : item ∈ read) :
    (consumer.remember read).entryOf item.1.id = some item.2 := by
  induction read generalizing consumer with
  | nil => cases hitem
  | cons head read ih =>
      rw [List.map_cons, List.nodup_cons] at hnodup
      rw [Consumer.remember_cons]
      rcases List.mem_cons.mp hitem with rfl | hrest
      · rw [Consumer.entryOf_remember_of_not_mem _ hnodup.1]
        simp [Consumer.entryOf, Consumer.remember]
      · exact ih _ hnodup.2 hrest

/-! ### A queue of jobs on the server -/

/-- What the keys of a queue amount to. -/
def Lane.view (lane : Lane) : DelayQueue Job where
  ready := lane.stream.undelivered.map Record.decode
  waiting := lane.delayed.toAgenda.map Record.decode

theorem Lane.view_promoteDue (now : Instant) (lane : Lane) :
    (promoteDue now lane).view = lane.view.promote (promotable now lane) := by
  obtain ⟨hdelayed, hready, -, -⟩ := promoteDue_spec now lane
  apply DelayQueue.ext
  · simp [Lane.view, hready, DelayQueue.promote, Agenda.map, Function.comp_def]
  · apply Agenda.ext
    simp [Lane.view, hdelayed, DelayQueue.promote, Agenda.map]

theorem Lane.due_promotable (now : Instant) (lane : Lane) :
    lane.view.Due now (promotable now lane) := by
  intro entry hentry
  simp only [Lane.view, Agenda.map] at hentry
  rw [← List.map_take, List.mem_map] at hentry
  obtain ⟨item, hitem, rfl⟩ := hentry
  have hdue : item ∈ lane.delayed.items.take (lane.delayed.dueBy now).length :=
    List.take_subset_take_left _ (Nat.min_le_right _ _) hitem
  rw [← Agenda.dueBy_eq_take] at hdue
  show item.1 ≤ now
  exact Agenda.dueBy_le hdue

theorem Lane.lt_of_promotable_eq_zero {now : Instant} (lane : Lane)
    (hnone : promotable now lane = 0) {entry : Int × Job}
    (hentry : entry ∈ lane.view.waiting.items) : now < entry.1 := by
  obtain ⟨item, hitem, rfl⟩ := List.mem_map.mp hentry
  have hnone : (lane.delayed.dueBy now).length = 0 := by
    simp only [promotable, promoteBatch] at hnone
    omega
  have hbehind : item ∈ lane.delayed.items.drop (lane.delayed.dueBy now).length := by
    rw [hnone]
    exact hitem
  show now < item.1
  exact Agenda.lt_of_mem_drop hbehind

/-- The jobs `_read_new` returns leave the front of the queue. -/
theorem Lane.view_xreadgroup (lane : Lane) (now : Instant) (name : String) (count : ℕ) :
    Lane.view { lane with stream := (lane.stream.xreadgroup now name count).2 } =
      lane.view.skip count := by
  simp [Lane.view, DelayQueue.skip]

/-- Every unacknowledged entry is of a job in somebody's hands, who remembers it. -/
structure RedisTransport.Held (hands : String → List ℕ) (transport : RedisTransport) : Prop where
  claimIdle : 0 < transport.settings.claimIdle
  pending : ∀ queue, ∀ waiting ∈ (transport.server.lanes queue).stream.pending,
    ∃ jobId ∈ hands queue, transport.consumer.entryOf jobId = some waiting.entry

/-- A sweep that finds every entry recently handed out leaves everything alone. -/
theorem claimStale_eq_self {settings : RedisSettings} {now : Instant} {queue : String} {room : ℕ}
    {consumer : Consumer} {lane : Lane}
    (hrecent : ∀ waiting ∈ lane.stream.pending, now - waiting.deliveredAt < settings.claimIdle) :
    ∃ lastClaim, claimStale settings now queue room consumer lane =
      ([], { consumer with lastClaim := lastClaim }, lane) := by
  unfold claimStale
  split
  · rw [Stream.xautoclaim_eq_self _ _ _ _ _ hrecent]
    exact ⟨_, rfl⟩
  · exact ⟨consumer.lastClaim, rfl⟩

/-- A dequeue of a loop that holds nothing finds no stale entries: what is
unacknowledged has just been read. -/
theorem RedisTransport.dequeue_idle (now : Instant) (queue : String) (count : ℕ) (timeout : Int)
    {transport : RedisTransport} (hidle : 0 < transport.settings.claimIdle)
    (hpending : (transport.server.lanes queue).stream.pending = []) :
    let lane := promoteDue now { transport.server.lanes queue with
      stream := (transport.server.lanes queue).stream.xgroupCreate }
    let read := lane.stream.xreadgroup now transport.consumer.name count
    let jobs := read.1.map (·.1.decode)
    ∃ lastClaim, transport.dequeue now queue count timeout =
      (⟨jobs, if jobs = [] then now + max 0 timeout else now⟩,
        { transport with
          consumer := { transport.consumer.remember read.1 with lastClaim := lastClaim }
          server := transport.server.change queue fun _ => { lane with stream := read.2 } }) := by
  intro lane read jobs
  set readAt := if jobs = [] then now + max 0 timeout else now with hreadAt
  -- where something was read the clock has not moved, and nothing older was unacknowledged
  have hrecent : ∀ waiting ∈ read.2.pending,
      readAt - waiting.deliveredAt < transport.settings.claimIdle := by
    intro waiting hwaiting
    have hnone : lane.stream.pending = [] := (promoteDue_spec now _).2.2.1.trans hpending
    rcases Stream.mem_pending_xreadgroup _ _ _ _ hwaiting with hold | ⟨hdelivered, item, hitem, -⟩
    · rw [hnone] at hold
      cases hold
    · have hread : jobs ≠ [] := List.ne_nil_of_mem (List.mem_map_of_mem hitem)
      rw [hreadAt, if_neg hread, hdelivered, sub_self]
      exact hidle
  have hsweep : ∃ lastClaim,
      (if jobs.length < count then
        claimStale transport.settings readAt queue (count - jobs.length)
          (transport.consumer.remember read.1) { lane with stream := read.2 }
      else ([], transport.consumer.remember read.1, { lane with stream := read.2 })) =
      ([], { transport.consumer.remember read.1 with lastClaim := lastClaim },
        { lane with stream := read.2 }) := by
    split
    · exact claimStale_eq_self hrecent
    · exact ⟨_, rfl⟩
  obtain ⟨lastClaim, hsweep⟩ := hsweep
  refine ⟨lastClaim, ?_⟩
  have hdequeue : transport.dequeue now queue count timeout =
      let sweep :=
        if jobs.length < count then
          claimStale transport.settings readAt queue (count - jobs.length)
            (transport.consumer.remember read.1) { lane with stream := read.2 }
        else ([], transport.consumer.remember read.1, { lane with stream := read.2 })
      (⟨jobs ++ sweep.1, readAt⟩,
        { transport with
          consumer := sweep.2.1
          server := transport.server.change queue fun _ => sweep.2.2 }) := rfl
  rw [hdequeue, hsweep]
  simp

/-- A loop that holds nothing has nothing unacknowledged. -/
theorem RedisTransport.Held.pending_eq_nil {hands : String → List ℕ} {transport : RedisTransport}
    (hheld : transport.Held hands) {queue : String} (hidle : hands queue = []) :
    (transport.server.lanes queue).stream.pending = [] := by
  rw [List.eq_nil_iff_forall_not_mem]
  intro waiting hwaiting
  obtain ⟨jobId, hjobId, -⟩ := hheld.pending queue waiting hwaiting
  rw [hidle] at hjobId
  cases hjobId

theorem RedisTransport.Held.enqueue {hands : String → List ℕ} {transport : RedisTransport}
    (hheld : transport.Held hands) (now : Instant) (job : Job) :
    (transport.enqueue now job).Held hands := by
  unfold RedisTransport.enqueue
  split
  · refine ⟨hheld.claimIdle, fun queue waiting hwaiting => hheld.pending queue waiting ?_⟩
    by_cases hqueue : queue = job.queueName
    · subst hqueue
      simpa [Lane.add, Lane.count] using hwaiting
    · simpa [QueueServer.change_lanes_of_ne _ hqueue] using hwaiting
  · exact hheld

/-- The jobs read are those at the front, and each of them is remembered. -/
theorem RedisTransport.Held.dequeue {hands : String → List ℕ} {transport : RedisTransport}
    (hheld : transport.Held hands) (now : Instant) {queue : String} (hidle : hands queue = [])
    (count : ℕ) (timeout : Int)
    (hnodup : ((transport.server.lanes queue).view.all.map Job.jobId).Nodup)
    (hapart : ∀ jobId ∈ (transport.server.lanes queue).view.all.map Job.jobId,
      ∀ other, jobId ∉ hands other) :
    (transport.dequeue now queue count timeout).2.Held
      (Function.update hands queue
        ((transport.dequeue now queue count timeout).1.jobs.map Job.jobId)) := by
  have hpending := hheld.pending_eq_nil hidle
  obtain ⟨lastClaim, hdequeue⟩ := dequeue_idle now queue count timeout hheld.claimIdle hpending
  set grouped : Lane := { transport.server.lanes queue with
    stream := (transport.server.lanes queue).stream.xgroupCreate }
  set read := (promoteDue now grouped).stream.xreadgroup now transport.consumer.name count
  have hids : read.1.map (fun item => item.1.id) =
      ((promoteDue now grouped).view.ready.take count).map Job.jobId := by
    have hrecords : read.1.map Prod.fst = (promoteDue now grouped).stream.undelivered.take count :=
      Stream.records_xreadgroup _ _ _ _
    rw [Lane.view, ← List.map_take, ← hrecords, List.map_map, List.map_map]
    rfl
  -- what is read was stored, so its ids are distinct and held by no other loop
  have hsubset : (read.1.map fun item => item.1.id).Sublist
      ((transport.server.lanes queue).view.all.map Job.jobId) := by
    have hall : (transport.server.lanes queue).view.all = (promoteDue now grouped).view.all := by
      rw [Lane.view_promoteDue, DelayQueue.all_promote]
      rfl
    rw [hids, hall]
    exact ((List.take_sublist _ _).trans (List.sublist_append_left _ _)).map _
  rw [hdequeue]
  refine ⟨hheld.claimIdle, fun other waiting hwaiting => ?_⟩
  by_cases hother : other = queue
  · subst hother
    simp only [QueueServer.change_lanes] at hwaiting
    rcases Stream.mem_pending_xreadgroup _ _ _ _ hwaiting with hold | ⟨-, item, hitem, hentry⟩
    · rw [show (promoteDue now grouped).stream.pending = [] from
        (promoteDue_spec now _).2.2.1.trans hpending] at hold
      cases hold
    · refine ⟨item.1.id, ?_, ?_⟩
      · rw [Function.update_self, List.map_map]
        exact List.mem_map_of_mem hitem
      · rw [← hentry]
        exact transport.consumer.entryOf_remember_of_mem (hnodup.sublist hsubset) hitem
  · simp only [QueueServer.change_lanes_of_ne _ hother] at hwaiting
    obtain ⟨jobId, hjobId, hentry⟩ := hheld.pending other waiting hwaiting
    refine ⟨jobId, ?_, ?_⟩
    · rw [Function.update_of_ne hother]
      exact hjobId
    · rw [← hentry]
      exact transport.consumer.entryOf_remember_of_not_mem fun hmem =>
        hapart jobId (hsubset.subset hmem) other hjobId

theorem RedisTransport.Held.markDone {hands : String → List ℕ} {transport : RedisTransport}
    (hheld : transport.Held hands) (now : Instant) {job : Job} (success : Bool)
    (retryAfter : Option ℕ)
    (hapart : ∀ other, other ≠ job.queueName → job.jobId ∉ hands other) :
    (transport.markDone now job success retryAfter).Held
      (Function.update hands job.queueName ((hands job.queueName).erase job.jobId)) := by
  refine ⟨hheld.claimIdle, fun queue waiting hwaiting => ?_⟩
  by_cases hqueue : queue = job.queueName
  · subst hqueue
    -- whatever else happens to the job, its entry is acknowledged
    have hacked : waiting ∈ ((transport.server.lanes job.queueName).ack
        (transport.consumer.entryOf job.jobId)).stream.pending := by
      simp only [RedisTransport.markDone, QueueServer.change_lanes] at hwaiting
      split at hwaiting
      · exact hwaiting
      · split at hwaiting
        · split at hwaiting <;> exact hwaiting
        · exact hwaiting
    have hold : waiting ∈ (transport.server.lanes job.queueName).stream.pending ∧
        transport.consumer.entryOf job.jobId ≠ some waiting.entry := by
      cases hentry : transport.consumer.entryOf job.jobId with
      | none =>
          rw [hentry] at hacked
          exact ⟨hacked, by simp⟩
      | some entry =>
          rw [hentry] at hacked
          obtain ⟨hmem, hne⟩ := List.mem_filter.mp hacked
          refine ⟨hmem, fun hsame => ?_⟩
          simp [Option.some.inj hsame] at hne
    obtain ⟨jobId, hjobId, hentry⟩ := hheld.pending _ waiting hold.1
    have hne : jobId ≠ job.jobId := by
      rintro rfl
      exact hold.2 hentry
    refine ⟨jobId, ?_, ?_⟩
    · rw [Function.update_self]
      exact (List.mem_erase_of_ne hne).mpr hjobId
    · rw [← hentry]
      exact transport.consumer.entryOf_forget hne
  · simp only [RedisTransport.markDone, QueueServer.change_lanes_of_ne _ hqueue] at hwaiting
    obtain ⟨jobId, hjobId, hentry⟩ := hheld.pending queue waiting hwaiting
    have hne : jobId ≠ job.jobId := by
      rintro rfl
      exact hapart queue hqueue hjobId
    refine ⟨jobId, ?_, ?_⟩
    · rw [Function.update_of_ne hqueue]
      exact hjobId
    · rw [← hentry]
      exact transport.consumer.entryOf_forget hne

@[simp] theorem Lane.view_ack (lane : Lane) (entry : Option ℕ) :
    (lane.ack entry).view = lane.view := by
  cases entry <;> rfl

@[simp] theorem Lane.view_count (lane : Lane) (bump : Counters → Counters) :
    (lane.count bump).view = lane.view := rfl

/-- A retry whose record is not in the sorted set is added to it. -/
theorem Lane.view_delay {lane : Lane} {job : Job} (due : Instant) (hmax : job.maxAttempts ≠ 0)
    (hgone : job.jobId ∉ lane.view.all.map Job.jobId) :
    (lane.delay due job.record).view = lane.view.defer due job := by
  have habsent : job.record ∉ lane.delayed.members := by
    intro hmember
    obtain ⟨item, hitem, hrecord⟩ := List.mem_map.mp hmember
    refine hgone ?_
    rw [DelayQueue.all, List.map_append, List.mem_append]
    refine .inr (List.mem_map.mpr ⟨item.2.decode, ?_, ?_⟩)
    · simp only [Lane.view, Agenda.map, List.map_map]
      exact List.mem_map_of_mem hitem
    · rw [hrecord]
      rfl
  apply DelayQueue.ext
  · rfl
  · show ((lane.delayed.zrem job.record).toAgenda.add due job.record).map Record.decode = _
    rw [SortedSet.toAgenda_zrem_of_not_mem habsent, Agenda.map_add, Job.decode_record hmax]
    rfl

end Server

instance : LawfulTransport RedisTransport where
  view transport queue := (transport.server.lanes queue).view
  counters transport queue := (transport.server.lanes queue).counters
  Valid hands transport := transport.Held hands
  counters_metrics _ _ _ := rfl
  enqueue_rejected {now job transport} hrejects := by
    have hrejects : transport.accepts now job.dedupKey = false := hrejects
    simp [QueueTransport.enqueue, RedisTransport.enqueue, hrejects]
  enqueue_accepted {hands now} job {transport} hheld hmax haccepts := by
    have haccepts : transport.accepts now job.dedupKey = true := haccepts
    have hdecode : job.record.decode = job := Job.decode_record (by omega)
    refine ⟨hheld.enqueue now job, ⟨0, DelayQueue.due_zero _ now, ?_⟩, fun other hother => ?_⟩
    · simp [QueueTransport.enqueue, RedisTransport.enqueue, haccepts, Lane.view, Lane.add,
        Lane.count, DelayQueue.put, hdecode]
    · simp [QueueTransport.enqueue, RedisTransport.enqueue, haccepts,
        QueueServer.change_lanes_of_ne _ hother]
  dequeue_idle {hands} now {queue prefetch timeout transport} hheld hidle _ htimeout hnodup
      hapart := by
    refine ⟨hheld.dequeue now hidle prefetch timeout hnodup hapart, ?_⟩
    obtain ⟨lastClaim, hdequeue⟩ := RedisTransport.dequeue_idle now queue prefetch timeout
      hheld.claimIdle (hheld.pending_eq_nil hidle)
    simp only [QueueTransport.dequeue]
    rw [hdequeue]
    set grouped : Lane := { transport.server.lanes queue with
      stream := (transport.server.lanes queue).stream.xgroupCreate }
    have hview : (promoteDue now grouped).view =
        (transport.server.lanes queue).view.promote (promotable now grouped) :=
      Lane.view_promoteDue now grouped
    have hnow : now ≤ if ((promoteDue now grouped).stream.xreadgroup now transport.consumer.name
        prefetch).1.map (·.1.decode) = [] then now + max 0 timeout else now := by
      split
      · exact le_add_of_nonneg_right (le_max_left _ _)
      · exact le_rfl
    refine ⟨hnow, ⟨promotable now grouped, ?_, ?_, ?_, ?_⟩, fun other hother => ?_⟩
    · exact (Lane.due_promotable now grouped).mono hnow
    · intro hnone entry hentry
      exact Lane.lt_of_promotable_eq_zero grouped hnone hentry
    · have hrecords := Stream.records_xreadgroup (promoteDue now grouped).stream now
        transport.consumer.name prefetch
      rw [← hview, Lane.view, ← List.map_take, ← hrecords, List.map_map]
      rfl
    · rw [← hview]
      simp only [QueueServer.change_lanes]
      exact Lane.view_xreadgroup _ _ _ _
    · simp only [QueueServer.change_lanes_of_ne _ hother]
  markDone_held {hands} now {job transport} success retryAfter hheld hmax _ hapart hgone := by
    refine ⟨hheld.markDone now success retryAfter hapart, ?_, ?_, fun other hother => ?_⟩
    · simp only [QueueTransport.markDone, RedisTransport.markDone, QueueServer.change_lanes]
      split
      · simp
      · split
        · split
          · rw [Lane.view_count, Lane.view_delay _ (by omega) (by simpa using hgone),
              Lane.view_ack]
          · simp
        · simp
    · simp only [QueueTransport.markDone, RedisTransport.markDone, QueueServer.change_lanes]
      split
      · rfl
      · split
        · split <;> rfl
        · rfl
    · simp only [QueueTransport.markDone, RedisTransport.markDone,
        QueueServer.change_lanes_of_ne _ hother]

/-! ## The retry policy -/

theorem RedisTransport.held_fresh {settings : RedisSettings} (hidle : 0 < settings.claimIdle)
    (name : String) :
    RedisTransport.Held (fun _ => []) { settings := settings, consumer := { name := name } } where
  claimIdle := hidle
  pending _ _ hwaiting := by cases hwaiting

/-- Over either transport every queued job is tried, from the first attempt on, until
it succeeds or its attempts are used up, as long as no call is cancelled. -/
theorem job_ends_over_both_transports (prefetch : String → ℕ)
    (hprefetch : ∀ queue, 0 < prefetch queue) (inProcess : InProcessSettings)
    (redis : RedisSettings) (hidle : 0 < redis.claimIdle) (name : String)
    (schedule : ℕ → DrainInput) :
    (Uncancelled prefetch { transport := ({ settings := inProcess } : InProcessTransport) }
        schedule →
      RetriesInOrder prefetch ({ settings := inProcess } : InProcessTransport) schedule) ∧
    (Uncancelled prefetch
        { transport := ({ settings := redis, consumer := { name := name } } : RedisTransport) }
        schedule →
      RetriesInOrder prefetch
        ({ settings := redis, consumer := { name := name } } : RedisTransport) schedule) :=
  ⟨retriesInOrder_of_lawful hprefetch trivial fun _ => rfl,
    retriesInOrder_of_lawful hprefetch (RedisTransport.held_fresh hidle name) fun _ => rfl⟩

/-- A job that always fails uses up its ten attempts over either transport. -/
theorem job_ends_over_both_transports_failing :
    (∃ ended calls, Ended 10 calls ∧ ∀ later, ended ≤ later →
      callsOf ((Drain.after (fun _ => 1) { transport := ({} : InProcessTransport) }
        (failingRounds "billing") later).calls "billing") 0 = calls) ∧
    ∃ ended calls, Ended 10 calls ∧ ∀ later, ended ≤ later →
      callsOf ((Drain.after (fun _ => 1)
        { transport := ({ consumer := { name := "worker" } } : RedisTransport) }
        (failingRounds "billing") later).calls "billing") 0 = calls := by
  obtain ⟨hmemory, hserver⟩ := job_ends_over_both_transports (fun _ => 1) (fun _ => Nat.one_pos)
    {} {} (by decide) "worker" (failingRounds "billing")
  have hfresh : Drain.InOrder { transport := ({} : InProcessTransport) } :=
    Drain.inOrder_fresh trivial fun _ => rfl
  have hfresh' : Drain.InOrder
      { transport := ({ consumer := { name := "worker" } } : RedisTransport) } :=
    Drain.inOrder_fresh (RedisTransport.held_fresh (by decide) "worker") fun _ => rfl
  refine ⟨(hmemory (uncancelled_failingRounds _ _) "billing" 1
        ⟨"billing", [], none, 0, 0, 10⟩ ?_).2
      (hfresh.keepsPolling (fun _ => rfl) rfl le_rfl),
    (hserver (uncancelled_failingRounds _ _) "billing" 1
        ⟨"billing", [], none, 0, 0, 10⟩ ?_).2
      (hfresh'.keepsPolling (fun _ => rfl) rfl le_rfl)⟩
  · simp [Drain.after, next, Drain.step, failingRounds, QueueTransport.accepts,
      InProcessTransport.accepts]
  · simp [Drain.after, next, Drain.step, failingRounds, QueueTransport.accepts,
      RedisTransport.accepts]

/-! ### A cancelled call -/

/-- One job whose first call is cancelled, and a loop that goes on asking. -/
def cancelledRounds : ℕ → DrainInput
  | 0 => .enqueue "billing" [] none
  | 1 => .poll "billing"
  | 2 => .call "billing" 0
  | 3 => .finish "billing" 0 .cancelled
  | index + 4 => if index % 2 = 0 then .poll "billing" else .wait 1000000

/-- The job is nowhere any more, and its only call was not counted. -/
structure Forgotten (drain : Drain InProcessTransport) : Prop where
  batch : drain.batch "billing" = []
  jobs : (drain.transport.lanes "billing").jobs = {}
  calls : ∃ moment ended, drain.calls "billing" =
    [⟨⟨"billing", [], none, 0, 1, 10⟩, moment, true, ended, 0, 0⟩]

section Forgotten

variable {drain : Drain InProcessTransport}

theorem Forgotten.wait (hforgotten : Forgotten drain) (span : ℕ) :
    Forgotten (next (Drain.step fun _ => 1) drain (.wait span)) :=
  ⟨hforgotten.batch, hforgotten.jobs, hforgotten.calls⟩

theorem Forgotten.poll (hforgotten : Forgotten drain) :
    Forgotten (next (Drain.step fun _ => 1) drain (.poll "billing")) ∧
      drain.now ≤ (next (Drain.step fun _ => 1) drain (.poll "billing")).now := by
  have htick : 0 < tick := by norm_num [tick]
  obtain ⟨hnow, -⟩ := InProcessTransport.dequeue_due drain.now "billing" 1 htick drain.transport
  obtain ⟨count, -, -, hjobs, hleft⟩ :=
    InProcessTransport.dequeue_view drain.now "billing" 1 htick drain.transport
  rw [hforgotten.jobs] at hjobs hleft
  rw [Drain.next_poll hforgotten.batch]
  refine ⟨⟨?_, ?_, hforgotten.calls⟩, hnow⟩
  · simp only [Drain.polled, Function.update_self]
    exact List.map_eq_nil_iff.mpr (hjobs.trans (by simp [DelayQueue.promote]))
  · refine hleft.trans (DelayQueue.ext ?_ (Agenda.ext ?_)) <;>
      simp [DelayQueue.promote, DelayQueue.skip]

theorem forgotten_after (rounds : ℕ) :
    Forgotten (Drain.after (fun _ => 1) { transport := ({} : InProcessTransport) }
        cancelledRounds (4 + 2 * rounds)) ∧
      (rounds : Int) * 1000000 ≤ (Drain.after (fun _ => 1)
        { transport := ({} : InProcessTransport) } cancelledRounds (4 + 2 * rounds)).now := by
  induction rounds with
  | zero =>
      refine ⟨⟨by decide +kernel, ?_, ⟨_, _, rfl⟩⟩, by decide +kernel⟩
      rfl
  | succ rounds ih =>
      obtain ⟨hforgotten, hclock⟩ := ih
      obtain ⟨hpolled, hnow⟩ := hforgotten.poll
      have hpoll : cancelledRounds (4 + 2 * rounds) = .poll "billing" := by
        rw [Nat.add_comm]
        simp [cancelledRounds]
      have hwait : cancelledRounds (4 + 2 * rounds + 1) = .wait 1000000 := by
        rw [Nat.add_right_comm, Nat.add_comm]
        simp [cancelledRounds, Nat.add_mod]
      rw [← hpoll] at hpolled hnow
      have hwaited := Forgotten.wait hpolled 1000000
      rw [← hwait] at hwaited
      refine ⟨hwaited, ?_⟩
      show _ ≤ (next (Drain.step fun _ => 1) _ (cancelledRounds (4 + 2 * rounds + 1))).now
      rw [hwait]
      refine le_trans ?_ (Int.add_le_add_right (hclock.trans hnow) ((1000000 : ℕ) : Int))
      push_cast
      linarith

end Forgotten

/-- A job whose call is cancelled is neither tried again nor counted. -/
theorem cancelled_job_lost :
    ¬ KeepsRetryPolicy (fun _ => 1) ({} : InProcessTransport) := by
  intro hkeeps
  obtain ⟨-, hends⟩ := hkeeps cancelledRounds "billing" 1 ⟨"billing", [], none, 0, 0, 10⟩ (by
    simp [Drain.after, next, Drain.step, cancelledRounds, QueueTransport.accepts,
      InProcessTransport.accepts])
  obtain ⟨ended, calls, hended, hafter⟩ := hends {
    polls := fun index => ⟨4 + 2 * index, by omega, by
      rw [Nat.add_comm]
      simp [cancelledRounds], (forgotten_after index).1.batch⟩
    clock := fun moment => ⟨4 + 2 * moment.toNat, by
      have hclock := (forgotten_after moment.toNat).2
      have hmoment := Int.self_le_toNat moment
      linarith⟩ }
  obtain ⟨moment, endedAt, hcalls⟩ := (forgotten_after ended).1.calls
  have hsame := hafter (4 + 2 * ended) (by omega)
  rw [hcalls] at hsame
  have hcounted := hended.counted
  rw [← hsame] at hcounted
  simp [callsOf] at hcounted

end ChmabaPay
