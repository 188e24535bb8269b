import ChmabaPay.Workers.Drain

/-! # The life of a job

One queue seen from its drain loop: the jobs that are ready or behind their delay,
the batch in hand, and what has happened. Whatever a transport does, it shows as
one of the steps here. Over them a job is tried once at every count of attempts,
rests after every failure, and ends exactly once; and it does end, when the loop
keeps coming round and time goes on.
-/

namespace ChmabaPay

open Calendar

structure Bench where
  now : Instant
  jobs : DelayQueue Job
  batch : List Running
  queued : List Job
  calls : List ProcessCall

/-- What can happen to a queue and its loop. Items whose delay has passed may join
the queue whenever a job is added or asked for. -/
inductive BenchStep (prefetch : ℕ) (bench : Bench) : Bench → Prop
  | wait (now : Instant) (hnow : bench.now ≤ now) :
      BenchStep prefetch bench { bench with now := now }
  | enqueue (count : ℕ) (hdue : bench.jobs.Due bench.now count) (job : Job)
      (hfresh : job.jobId ∉ bench.queued.map Job.jobId) (hattempts : job.attempts = 0)
      (hmax : job.maxAttempts = 10) :
      BenchStep prefetch bench
        { bench with
          jobs := (bench.jobs.promote count).put job
          queued := bench.queued ++ [job] }
  | poll (count : ℕ) (now : Instant) (hnow : bench.now ≤ now) (hbatch : bench.batch = [])
      (hdue : bench.jobs.Due now count)
      (hprogress : count = 0 → ∀ entry ∈ bench.jobs.waiting.items, bench.now < entry.1) :
      BenchStep prefetch bench
        { bench with
          now := now
          jobs := (bench.jobs.promote count).skip prefetch
          batch := ((bench.jobs.promote count).ready.take prefetch).map
            fun job => ⟨job, now, false⟩ }
  | call (front back : List Running) (job : Job) (deliveredAt : Instant)
      (hbatch : bench.batch = front ++ ⟨job, deliveredAt, false⟩ :: back) :
      BenchStep prefetch bench
        { bench with batch := front ++ ⟨job.tried, deliveredAt, true⟩ :: back }
  | succeed (front back : List Running) (job : Job) (deliveredAt : Instant)
      (hbatch : bench.batch = front ++ ⟨job, deliveredAt, true⟩ :: back) :
      BenchStep prefetch bench
        { bench with
          batch := front ++ back
          calls := bench.calls ++ [⟨job, deliveredAt, false, bench.now, 1, 0⟩] }
  | retry (front back : List Running) (job : Job) (deliveredAt : Instant) (delay : ℕ)
      (hbatch : bench.batch = front ++ ⟨job, deliveredAt, true⟩ :: back)
      (hretry : job.retryAfter = some delay) :
      BenchStep prefetch bench
        { bench with
          jobs := bench.jobs.defer (bench.now + retryDelay delay) job
          batch := front ++ back
          calls := bench.calls ++ [⟨job, deliveredAt, true, bench.now, 0, 0⟩] }
  | die (front back : List Running) (job : Job) (deliveredAt : Instant)
      (hbatch : bench.batch = front ++ ⟨job, deliveredAt, true⟩ :: back)
      (hretry : job.retryAfter = none) :
      BenchStep prefetch bench
        { bench with
          batch := front ++ back
          calls := bench.calls ++ [⟨job, deliveredAt, true, bench.now, 0, 1⟩] }

/-! ## The calls of one job -/

def callsOf (calls : List ProcessCall) (jobId : ℕ) : List ProcessCall :=
  calls.filter fun call => decide (call.job.jobId = jobId)

/-- How long a job rests after a failed attempt. -/
def backoff (attempts : ℕ) : Int := seconds (max 1 (min 600 (2 ^ attempts)))

/-- The last of these calls lies far enough back. -/
def Rested (calls : List ProcessCall) (moment : Instant) : Prop :=
  ∀ call ∈ calls.getLast?, call.endedAt + backoff call.job.attempts ≤ moment

/-- Attempts that were counted one by one and failed, each a rest after the one
before. -/
structure Failed (calls : List ProcessCall) : Prop where
  attempts : calls.map (fun call => call.job.attempts) = List.range' 1 calls.length
  raised : ∀ call ∈ calls, call.raised = true ∧ call.success = 0 ∧ call.dead = 0
  spaced : calls.IsChain fun call later =>
    call.endedAt + backoff call.job.attempts ≤ later.deliveredAt

/-- All attempts of a job that has come to its end. -/
structure Ended (maxAttempts : ℕ) (calls : List ProcessCall) : Prop where
  nonempty : 1 ≤ calls.length
  bounded : calls.length ≤ maxAttempts
  attempts : calls.map (fun call => call.job.attempts) = List.range' 1 calls.length
  failed : ∀ call ∈ calls.dropLast, call.raised = true
  last : ∀ call ∈ calls.getLast?, call.raised = true → calls.length = maxAttempts
  spaced : calls.IsChain fun call later =>
    call.endedAt + backoff call.job.attempts ≤ later.deliveredAt
  counted : (calls.map fun call => call.success + call.dead).sum = 1

theorem backoff_eq_retryDelay {job : Job} {delay : ℕ} (hretry : job.retryAfter = some delay) :
    retryDelay delay = backoff job.attempts := by
  unfold Job.retryAfter at hretry
  split at hretry
  · cases hretry
  · rw [← Option.some.inj hretry]
    simp [retryDelay, backoff]

theorem Rested.mono {calls : List ProcessCall} {moment later : Instant}
    (hrested : Rested calls moment) (hlater : moment ≤ later) : Rested calls later :=
  fun call hcall => (hrested call hcall).trans hlater

theorem Failed.nil : Failed [] where
  attempts := rfl
  raised := by simp
  spaced := .nil

section Chains

variable {calls : List ProcessCall} {call : ProcessCall}

theorem spaced_append
    (hspaced : calls.IsChain fun call later =>
      call.endedAt + backoff call.job.attempts ≤ later.deliveredAt)
    (hrested : Rested calls call.deliveredAt) :
    (calls ++ [call]).IsChain fun call later =>
      call.endedAt + backoff call.job.attempts ≤ later.deliveredAt := by
  rw [List.isChain_append]
  refine ⟨hspaced, .singleton _, fun last hlast next hnext => ?_⟩
  obtain rfl : call = next := by simpa using hnext
  exact hrested last hlast

theorem attempts_append (hattempts : calls.map (fun call => call.job.attempts) =
      List.range' 1 calls.length) (hcall : call.job.attempts = calls.length + 1) :
    (calls ++ [call]).map (fun call => call.job.attempts) =
      List.range' 1 (calls ++ [call]).length := by
  rw [List.map_append, hattempts, List.length_append, List.length_singleton,
    List.range'_concat]
  simp [hcall, Nat.add_comm]

/-- One more failure. -/
theorem Failed.append (hfailed : Failed calls) (hcall : call.job.attempts = calls.length + 1)
    (hrested : Rested calls call.deliveredAt) (hraised : call.raised = true)
    (hcounted : call.success = 0 ∧ call.dead = 0) : Failed (calls ++ [call]) where
  attempts := attempts_append hfailed.attempts hcall
  raised other hother := by
    rcases List.mem_append.mp hother with hold | hnew
    · exact hfailed.raised other hold
    · rw [List.mem_singleton.mp hnew]
      exact ⟨hraised, hcounted⟩
  spaced := spaced_append hfailed.spaced hrested

/-- The last attempt: it returned, or no other is left. -/
theorem Failed.ended {maxAttempts : ℕ} (hfailed : Failed calls)
    (hcall : call.job.attempts = calls.length + 1)
    (hrested : Rested calls call.deliveredAt) (hbounded : calls.length < maxAttempts)
    (hlast : call.raised = true → calls.length + 1 = maxAttempts)
    (hcounted : call.success + call.dead = 1) : Ended maxAttempts (calls ++ [call]) where
  nonempty := by simp
  bounded := by simpa using hbounded
  attempts := attempts_append hfailed.attempts hcall
  failed other hother := by
    rw [List.dropLast_concat] at hother
    exact (hfailed.raised other hother).1
  last other hother hraised := by
    obtain rfl : call = other := by simpa using hother
    simpa using hlast hraised
  spaced := spaced_append hfailed.spaced hrested
  counted := by
    have hzero : (calls.map fun call => call.success + call.dead).sum = 0 := by
      rw [List.sum_eq_zero_iff]
      intro total htotal
      obtain ⟨other, hother, rfl⟩ := List.mem_map.mp htotal
      obtain ⟨-, hsuccess, hdead⟩ := hfailed.raised other hother
      omega
    simp [hzero, hcounted]

end Chains

/-! ## What always holds -/

/-- A job on its way to a batch. -/
structure JobOk (calls : List ProcessCall) (job : Job) : Prop where
  failed : Failed calls
  attempts : job.attempts = calls.length
  room : calls.length < 10
  maxAttempts : job.maxAttempts = 10

/-- A job in the batch. -/
structure RunOk (calls : List ProcessCall) (run : Running) : Prop where
  failed : Failed calls
  attempts : run.job.attempts = calls.length + run.called.toNat
  room : calls.length < 10
  maxAttempts : run.job.maxAttempts = 10
  rested : Rested calls run.deliveredAt

/-- The jobs that have not come to their end, wherever they are. -/
def Bench.unfinished (bench : Bench) : List ℕ :=
  (bench.jobs.all.map Job.jobId) ++ bench.batch.map fun run => run.job.jobId

structure Bench.Sound (bench : Bench) : Prop where
  queued : (bench.queued.map Job.jobId).Nodup
  nodup : bench.unfinished.Nodup
  known : ∀ jobId ∈ bench.unfinished, jobId ∈ bench.queued.map Job.jobId
  called : ∀ call ∈ bench.calls, call.job.jobId ∈ bench.queued.map Job.jobId
  stored : ∀ job ∈ bench.jobs.all, JobOk (callsOf bench.calls job.jobId) job
  held : ∀ run ∈ bench.batch, RunOk (callsOf bench.calls run.job.jobId) run
  ready : ∀ job ∈ bench.jobs.ready, Rested (callsOf bench.calls job.jobId) bench.now
  waiting : ∀ entry ∈ bench.jobs.waiting.items,
    Rested (callsOf bench.calls entry.2.jobId) entry.1
  ended : ∀ job ∈ bench.queued, job.jobId ∉ bench.unfinished →
    Ended 10 (callsOf bench.calls job.jobId)

section Steps

variable {bench : Bench}

theorem Bench.Sound.wait (hsound : bench.Sound) {now : Instant} (hnow : bench.now ≤ now) :
    Bench.Sound { bench with now := now } :=
  { hsound with ready := fun job hjob => (hsound.ready job hjob).mono hnow }

theorem Bench.Sound.callsOf_eq_nil (hsound : bench.Sound) {jobId : ℕ}
    (hfresh : jobId ∉ bench.queued.map Job.jobId) : callsOf bench.calls jobId = [] := by
  rw [callsOf, List.filter_eq_nil_iff]
  intro call hcall hid
  exact hfresh (of_decide_eq_true hid ▸ hsound.called call hcall)

/-- Jobs whose delay has passed join the queue. -/
theorem Bench.Sound.promote (hsound : bench.Sound) {count : ℕ}
    (hdue : bench.jobs.Due bench.now count) :
    Bench.Sound { bench with jobs := bench.jobs.promote count } where
  queued := hsound.queued
  nodup := by simpa [Bench.unfinished] using hsound.nodup
  known := by simpa [Bench.unfinished] using hsound.known
  called := hsound.called
  stored := by simpa using hsound.stored
  held := hsound.held
  ready job hjob := by
    rcases List.mem_append.mp hjob with hold | hnew
    · exact hsound.ready job hold
    · obtain ⟨entry, hentry, rfl⟩ := List.mem_map.mp hnew
      exact (hsound.waiting entry (List.mem_of_mem_take hentry)).mono (hdue entry hentry)
  waiting entry hentry := hsound.waiting entry (List.mem_of_mem_drop hentry)
  ended := by simpa [Bench.unfinished] using hsound.ended

theorem Bench.Sound.put (hsound : bench.Sound) {job : Job}
    (hfresh : job.jobId ∉ bench.queued.map Job.jobId) (hattempts : job.attempts = 0)
    (hmax : job.maxAttempts = 10) :
    Bench.Sound { bench with jobs := bench.jobs.put job, queued := bench.queued ++ [job] } := by
  have hnone := hsound.callsOf_eq_nil hfresh
  have hopen : (Bench.unfinished { bench with jobs := bench.jobs.put job }).Perm
      (job.jobId :: bench.unfinished) := by
    exact ((bench.jobs.all_put job).map Job.jobId).append_right _
  refine ⟨?_, ?_, ?_, ?_, ?_, hsound.held, ?_, hsound.waiting, ?_⟩
  · rw [List.map_append, List.nodup_append]
    refine ⟨hsound.queued, by simp, ?_⟩
    rintro _ hold _ hnew rfl
    simp only [List.map_cons, List.map_nil, List.mem_singleton] at hnew
    exact hfresh (hnew ▸ hold)
  · refine hopen.nodup_iff.mpr (List.nodup_cons.mpr ⟨fun hopened => ?_, hsound.nodup⟩)
    exact hfresh (hsound.known _ hopened)
  · intro jobId hopened
    rw [List.map_append, List.mem_append]
    rcases List.mem_cons.mp (hopen.mem_iff.mp hopened) with rfl | hold
    · exact .inr (by simp)
    · exact .inl (hsound.known jobId hold)
  · intro call hcall
    rw [List.map_append, List.mem_append]
    exact .inl (hsound.called call hcall)
  · intro other hother
    rcases List.mem_cons.mp ((bench.jobs.all_put job).mem_iff.mp hother) with rfl | hold
    · refine ⟨?_, ?_, ?_, hmax⟩ <;> rw [hnone]
      · exact .nil
      · exact hattempts
      · decide
    · exact hsound.stored other hold
  · intro other hother
    rcases List.mem_append.mp hother with hold | hnew
    · exact hsound.ready other hold
    · rw [List.mem_singleton.mp hnew]
      simp [Rested, hnone]
  · intro other hother hclosed
    rcases List.mem_append.mp hother with hold | hnew
    · exact hsound.ended other hold fun hopened =>
        hclosed (hopen.mem_iff.mpr (List.mem_cons_of_mem _ hopened))
    · rw [List.mem_singleton.mp hnew] at hclosed
      exact absurd (hopen.mem_iff.mpr List.mem_cons_self) hclosed

/-- A batch is taken off the queue. -/
theorem Bench.Sound.take (hsound : bench.Sound) (hbatch : bench.batch = []) (prefetch : ℕ) :
    Bench.Sound
      { bench with
        jobs := bench.jobs.skip prefetch
        batch := (bench.jobs.ready.take prefetch).map fun job => ⟨job, bench.now, false⟩ } := by
  have hsplit := bench.jobs.take_append_all_skip prefetch
  have hopen : (Bench.unfinished { bench with
      jobs := bench.jobs.skip prefetch
      batch := (bench.jobs.ready.take prefetch).map fun job => ⟨job, bench.now, false⟩ }).Perm
      bench.unfinished := by
    simp only [Bench.unfinished, hbatch, List.map_nil, List.append_nil, List.map_map,
      Function.comp_def]
    rw [← List.map_append]
    exact (List.perm_append_comm.trans (.of_eq hsplit)).map _
  have hmem : ∀ job ∈ (bench.jobs.skip prefetch).all, job ∈ bench.jobs.all := by
    intro job hjob
    rw [← hsplit]
    exact List.mem_append_right _ hjob
  refine ⟨hsound.queued, hopen.nodup_iff.mpr hsound.nodup, ?_, hsound.called,
    fun job hjob => hsound.stored job (hmem job hjob), ?_, ?_, hsound.waiting, ?_⟩
  · exact fun jobId hopened => hsound.known jobId (hopen.mem_iff.mp hopened)
  · intro run hrun
    obtain ⟨job, hjob, rfl⟩ := List.mem_map.mp hrun
    have hready := List.mem_of_mem_take hjob
    have hok := hsound.stored job (List.mem_append_left _ hready)
    exact ⟨hok.failed, hok.attempts, hok.room, hok.maxAttempts, hsound.ready job hready⟩
  · exact fun job hjob => hsound.ready job (List.mem_of_mem_drop hjob)
  · exact fun job hjob hclosed => hsound.ended job hjob fun hopened =>
      hclosed (hopen.mem_iff.mpr hopened)

theorem Bench.Sound.call (hsound : bench.Sound) {front back : List Running} {job : Job}
    {deliveredAt : Instant} (hbatch : bench.batch = front ++ ⟨job, deliveredAt, false⟩ :: back) :
    Bench.Sound { bench with batch := front ++ ⟨job.tried, deliveredAt, true⟩ :: back } := by
  have hopen : Bench.unfinished { bench with
      batch := front ++ ⟨job.tried, deliveredAt, true⟩ :: back } = bench.unfinished := by
    simp [Bench.unfinished, hbatch, Job.tried]
  refine ⟨hsound.queued, hopen ▸ hsound.nodup, hopen ▸ hsound.known, hsound.called,
    hsound.stored, ?_, hsound.ready, hsound.waiting, hopen ▸ hsound.ended⟩
  intro run hrun
  rcases List.mem_append.mp hrun with hfront | hback
  · exact hsound.held run (by simp [hbatch, hfront])
  · rcases List.mem_cons.mp hback with rfl | hback
    · have hok := hsound.held ⟨job, deliveredAt, false⟩ (by simp [hbatch])
      exact ⟨hok.failed, by simpa [Job.tried] using hok.attempts, hok.room, hok.maxAttempts,
        hok.rested⟩
    · exact hsound.held run (by simp [hbatch, hback])

theorem callsOf_append_self {calls : List ProcessCall} {call : ProcessCall} {jobId : ℕ}
    (hid : call.job.jobId = jobId) :
    callsOf (calls ++ [call]) jobId = callsOf calls jobId ++ [call] := by
  simp [callsOf, hid]

theorem callsOf_append_of_ne {calls : List ProcessCall} {call : ProcessCall} {jobId : ℕ}
    (hid : call.job.jobId ≠ jobId) :
    callsOf (calls ++ [call]) jobId = callsOf calls jobId := by
  simp [callsOf, hid]

section Finish

variable {front back : List Running} {job : Job} {deliveredAt : Instant}

theorem unfinished_batch (hbatch : bench.batch = front ++ ⟨job, deliveredAt, true⟩ :: back) :
    bench.unfinished.Perm
      (job.jobId :: Bench.unfinished { bench with batch := front ++ back }) := by
  simp only [Bench.unfinished, hbatch, List.map_append, List.map_cons]
  rw [← List.append_assoc, ← List.append_assoc]
  exact List.perm_middle

/-- The other jobs are not touched by the end of a call. -/
theorem Bench.Sound.ne_of_mem (hsound : bench.Sound)
    (hbatch : bench.batch = front ++ ⟨job, deliveredAt, true⟩ :: back) {jobId : ℕ}
    (hother : jobId ∈ Bench.unfinished { bench with batch := front ++ back }) :
    job.jobId ≠ jobId := by
  rintro rfl
  exact (List.nodup_cons.mp ((unfinished_batch hbatch).nodup_iff.mp hsound.nodup)).1 hother

/-- What the other jobs have behind them stays the same. -/
theorem Bench.Sound.callsOf_others (hsound : bench.Sound)
    (hbatch : bench.batch = front ++ ⟨job, deliveredAt, true⟩ :: back) (call : ProcessCall)
    (hjob : call.job = job) :
    (∀ stored ∈ bench.jobs.all,
      callsOf (bench.calls ++ [call]) stored.jobId = callsOf bench.calls stored.jobId) ∧
    ∀ run ∈ front ++ back, run ∈ bench.batch ∧
      callsOf (bench.calls ++ [call]) run.job.jobId = callsOf bench.calls run.job.jobId := by
  have hother : ∀ {jobId}, jobId ∈ Bench.unfinished { bench with batch := front ++ back } →
      callsOf (bench.calls ++ [call]) jobId = callsOf bench.calls jobId := by
    intro jobId hjobId
    refine callsOf_append_of_ne ?_
    rw [hjob]
    exact hsound.ne_of_mem hbatch hjobId
  refine ⟨fun stored hmem => hother (List.mem_append_left _ (List.mem_map_of_mem hmem)),
    fun run hmem => ⟨?_, hother (List.mem_append_right _ (List.mem_map_of_mem hmem))⟩⟩
  rw [hbatch]
  rcases List.mem_append.mp hmem with hfront | hback
  · exact List.mem_append_left _ hfront
  · exact List.mem_append_right _ (List.mem_cons_of_mem _ hback)

/-- A call ends and the job leaves the batch for good. -/
theorem Bench.Sound.finish (hsound : bench.Sound)
    (hbatch : bench.batch = front ++ ⟨job, deliveredAt, true⟩ :: back) {call : ProcessCall}
    (hjob : call.job = job) (hdelivered : call.deliveredAt = deliveredAt)
    (hlast : call.raised = true → job.attempts = 10)
    (hcounted : call.success + call.dead = 1) :
    Bench.Sound { bench with batch := front ++ back, calls := bench.calls ++ [call] } := by
  have hopen := unfinished_batch hbatch
  obtain ⟨hstored, hheld⟩ := hsound.callsOf_others hbatch call hjob
  have hrun := hsound.held ⟨job, deliveredAt, true⟩ (by simp [hbatch])
  refine ⟨hsound.queued, (List.nodup_cons.mp (hopen.nodup_iff.mp hsound.nodup)).2,
    fun jobId hjobId => hsound.known jobId (hopen.mem_iff.mpr (List.mem_cons_of_mem _ hjobId)),
    ?_, ?_, ?_, ?_, ?_, ?_⟩
  · intro other hmem
    rcases List.mem_append.mp hmem with hold | hnew
    · exact hsound.called other hold
    · rw [List.mem_singleton.mp hnew, hjob]
      exact hsound.known _ (hopen.mem_iff.mpr List.mem_cons_self)
  · intro stored hmem
    simp only [hstored _ hmem]
    exact hsound.stored stored hmem
  · intro run hmem
    obtain ⟨hmember, hcalls⟩ := hheld run hmem
    simp only [hcalls]
    exact hsound.held run hmember
  · intro stored hmem
    simp only [hstored _ (List.mem_append_left _ hmem)]
    exact hsound.ready stored hmem
  · intro entry hmem
    simp only [hstored _ (List.mem_append_right _ (List.mem_map_of_mem hmem))]
    exact hsound.waiting entry hmem
  · intro queued hmem hclosed
    by_cases hid : job.jobId = queued.jobId
    · simp only [← hid, callsOf_append_self (congrArg Job.jobId hjob)]
      refine hrun.failed.ended ?_ ?_ hrun.room (fun hraised => ?_) hcounted
      · rw [hjob]
        exact hrun.attempts
      · rw [hdelivered]
        exact hrun.rested
      · rw [← hlast hraised]
        exact hrun.attempts.symm
    · have hne : call.job.jobId ≠ queued.jobId := hjob ▸ hid
      simp only [callsOf_append_of_ne hne]
      refine hsound.ended queued hmem fun hopened => ?_
      rcases List.mem_cons.mp (hopen.mem_iff.mp hopened) with heq | hstill
      · exact hid heq.symm
      · exact hclosed hstill

/-- A call fails and the job goes behind its delay. -/
theorem Bench.Sound.retry (hsound : bench.Sound)
    (hbatch : bench.batch = front ++ ⟨job, deliveredAt, true⟩ :: back) {delay : ℕ}
    (hretry : job.retryAfter = some delay) :
    Bench.Sound
      { bench with
        jobs := bench.jobs.defer (bench.now + retryDelay delay) job
        batch := front ++ back
        calls := bench.calls ++ [⟨job, deliveredAt, true, bench.now, 0, 0⟩] } := by
  have hrun := hsound.held ⟨job, deliveredAt, true⟩ (by simp [hbatch])
  obtain ⟨hstored, hheld⟩ :=
    hsound.callsOf_others hbatch ⟨job, deliveredAt, true, bench.now, 0, 0⟩ rfl
  have hself : callsOf (bench.calls ++ [⟨job, deliveredAt, true, bench.now, 0, 0⟩]) job.jobId =
      callsOf bench.calls job.jobId ++ [⟨job, deliveredAt, true, bench.now, 0, 0⟩] :=
    callsOf_append_self rfl
  have hall := bench.jobs.all_defer (bench.now + retryDelay delay) job
  have hopen : (Bench.unfinished
      { bench with
        jobs := bench.jobs.defer (bench.now + retryDelay delay) job
        batch := front ++ back }).Perm bench.unfinished :=
    ((hall.map Job.jobId).append_right _).trans (unfinished_batch hbatch).symm
  have hroom : job.attempts < 10 := by
    unfold Job.retryAfter at hretry
    split at hretry
    · cases hretry
    · have := hrun.maxAttempts
      simp only at this
      omega
  refine ⟨hsound.queued, hopen.nodup_iff.mpr hsound.nodup,
    fun jobId hjobId => hsound.known jobId (hopen.mem_iff.mp hjobId), ?_, ?_, ?_, ?_, ?_, ?_⟩
  · intro other hmem
    rcases List.mem_append.mp hmem with hold | hnew
    · exact hsound.called other hold
    · rw [List.mem_singleton.mp hnew]
      refine hsound.known _ ((unfinished_batch hbatch).mem_iff.mpr List.mem_cons_self)
  · intro stored hmem
    rcases List.mem_cons.mp (hall.mem_iff.mp hmem) with rfl | hold
    · simp only [hself]
      refine ⟨hrun.failed.append hrun.attempts hrun.rested rfl ⟨rfl, rfl⟩, ?_, ?_,
        hrun.maxAttempts⟩
      · simpa using hrun.attempts
      · have := hrun.attempts
        simp only [List.length_append, List.length_singleton, Bool.toNat_true] at this ⊢
        omega
    · simp only [hstored stored hold]
      exact hsound.stored stored hold
  · intro run hmem
    obtain ⟨hmember, hcalls⟩ := hheld run hmem
    simp only [hcalls]
    exact hsound.held run hmember
  · intro stored hmem
    simp only [hstored stored (List.mem_append_left _ hmem)]
    exact hsound.ready stored hmem
  · intro entry hmem
    rcases Agenda.mem_add.mp hmem with rfl | hold
    · simp only [hself, Rested, List.getLast?_concat]
      rintro call ⟨⟩
      rw [backoff_eq_retryDelay hretry]
    · simp only [hstored _ (List.mem_append_right _ (List.mem_map_of_mem hold))]
      exact hsound.waiting entry hold
  · intro queued hmem hclosed
    have hne : job.jobId ≠ queued.jobId := fun hid =>
      hclosed (hopen.mem_iff.mpr (hid ▸ (unfinished_batch hbatch).mem_iff.mpr List.mem_cons_self))
    have hcalls : callsOf (bench.calls ++ [⟨job, deliveredAt, true, bench.now, 0, 0⟩])
        queued.jobId = callsOf bench.calls queued.jobId := callsOf_append_of_ne hne
    simp only [hcalls]
    exact hsound.ended queued hmem fun hopened => hclosed (hopen.mem_iff.mpr hopened)

end Finish

theorem BenchStep.sound {prefetch : ℕ} {bench' : Bench} (hstep : BenchStep prefetch bench bench')
    (hsound : bench.Sound) : bench'.Sound := by
  cases hstep with
  | wait now hnow => exact hsound.wait hnow
  | enqueue count hdue job hfresh hattempts hmax =>
      exact (hsound.promote hdue).put hfresh hattempts hmax
  | poll count now hnow hbatch hdue hprogress =>
      exact Bench.Sound.take ((hsound.wait hnow).promote hdue) hbatch prefetch
  | call front back job deliveredAt hbatch => exact hsound.call hbatch
  | succeed front back job deliveredAt hbatch =>
      exact hsound.finish hbatch rfl rfl (fun hraised => by cases hraised) rfl
  | retry front back job deliveredAt delay hbatch hretry => exact hsound.retry hbatch hretry
  | die front back job deliveredAt hbatch hretry =>
      refine hsound.finish hbatch rfl rfl (fun _ => ?_) rfl
      have hrun := hsound.held ⟨job, deliveredAt, true⟩ (by simp [hbatch])
      have hattempts := hrun.attempts
      have hroom := hrun.room
      have hmax := hrun.maxAttempts
      unfold Job.retryAfter at hretry
      split at hretry
      · simp only [Bool.toNat_true] at hattempts hroom hmax
        omega
      · cases hretry

end Steps

end ChmabaPay
