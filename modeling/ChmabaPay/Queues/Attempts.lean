import ChmabaPay.Queues.Moves

/-! # How often a job is tried

A record says how often its job has been tried when it was written. Every copy of
a job at one count of attempts stems from the one hand-out at the count before, as
long as no entry is handed out twice. So the job is handed to `process` once at
every count, and a count stays below the maximum.
-/

namespace ChmabaPay

open Calendar Redis Execution Interleaving

/-! ## Counting the copies of a job -/

def Record.isAt (jobId attempts : ℕ) (record : Record) : Bool :=
  decide (record.id = jobId ∧ record.attempts = attempts)

def Job.isAt (jobId attempts : ℕ) (job : Job) : Bool :=
  decide (job.jobId = jobId ∧ job.attempts = attempts)

/-- In a batch and not yet handed to `process`. -/
def JobRun.waitsAt (jobId attempts : ℕ) (run : JobRun) : Bool :=
  decide (run.stage = .waiting) && run.job.isAt jobId attempts

/-- Handed to `process` and not yet ended or behind its delay. -/
def JobRun.triesAt (jobId attempts : ℕ) (run : JobRun) : Bool :=
  decide (run.stage ≠ .waiting) && run.job.isAt jobId attempts

/-- The copies of a job at a count of attempts that the lane and one holder have. -/
def copies (lane : Lane) (held : Holding) (jobId attempts : ℕ) : ℕ :=
  lane.stream.entries.countP (Record.isAt jobId attempts) +
    lane.delayed.members.countP (Record.isAt jobId attempts) +
    held.moving.countP (Record.isAt jobId attempts) +
    held.live.countP (JobRun.triesAt jobId attempts)

/-- How often the job was handed out with this count in its record. -/
def Journal.handedAt (journal : Journal) (jobId attempts : ℕ) : ℕ :=
  journal.handed.countP (Job.isAt jobId (attempts + 1))

@[simp] theorem isAt_decode (jobId attempts : ℕ) (record : Record) :
    record.decode.isAt jobId attempts = record.isAt jobId attempts := rfl

@[simp] theorem isAt_record (jobId attempts : ℕ) (job : Job) :
    job.record.isAt jobId attempts = job.isAt jobId attempts := rfl

@[simp] theorem isAt_tried_succ (jobId attempts : ℕ) (job : Job) :
    job.tried.isAt jobId (attempts + 1) = job.isAt jobId attempts := by
  simp [Job.isAt, Job.tried]

@[simp] theorem isAt_tried_zero (jobId : ℕ) (job : Job) : job.tried.isAt jobId 0 = false := by
  simp [Job.isAt, Job.tried]

@[simp] theorem countP_waitsAt_decode (jobId attempts : ℕ) (records : List Record) :
    (records.map fun record => (⟨record.decode, .waiting⟩ : JobRun)).countP
      (JobRun.waitsAt jobId attempts) = records.countP (Record.isAt jobId attempts) := by
  simp [List.countP_map, Function.comp_def, JobRun.waitsAt]

@[simp] theorem countP_triesAt_decode (jobId attempts : ℕ) (records : List Record) :
    (records.map fun record => (⟨record.decode, .waiting⟩ : JobRun)).countP
      (JobRun.triesAt jobId attempts) = 0 := by
  simp [List.countP_eq_zero, JobRun.triesAt]

/-! ## One step -/

section Steps

variable {taken : List Record} {lane lane' : Lane} {journal journal' : Journal}
  {held held' : Holding}

/-- What a step leaves balanced: a copy at the next count appears only with a
hand-out, and what is undelivered, waiting or handed out is matched by an entry. -/
structure Balanced (lane : Lane) (journal : Journal) (held : Holding) (lane' : Lane)
    (journal' : Journal) (held' : Holding) (jobId : ℕ) : Prop where
  first : copies lane' held' jobId 0 ≤ copies lane held jobId 0
  later : ∀ attempts, copies lane' held' jobId (attempts + 1) + journal.handedAt jobId attempts ≤
    copies lane held jobId (attempts + 1) + journal'.handedAt jobId attempts
  matched : ∀ attempts,
    journal'.handedAt jobId attempts + held'.live.countP (JobRun.waitsAt jobId attempts) +
        lane'.stream.undelivered.countP (Record.isAt jobId attempts) +
        lane.stream.entries.countP (Record.isAt jobId attempts) ≤
      journal.handedAt jobId attempts + held.live.countP (JobRun.waitsAt jobId attempts) +
        lane.stream.undelivered.countP (Record.isAt jobId attempts) +
        lane'.stream.entries.countP (Record.isAt jobId attempts)

/-- What a stale claim does: the entries taken over wait once more. -/
structure Claimed (taken : List Record) (lane : Lane) (journal : Journal) (held : Holding)
    (lane' : Lane) (journal' : Journal) (held' : Holding) (jobId : ℕ) : Prop where
  journal : journal' = journal
  copies : ∀ attempts, copies lane' held' jobId attempts = copies lane held jobId attempts
  waits : ∀ attempts, held'.live.countP (JobRun.waitsAt jobId attempts) =
    held.live.countP (JobRun.waitsAt jobId attempts) +
      taken.countP (Record.isAt jobId attempts)
  entries : lane'.stream.entries = lane.stream.entries
  undelivered : lane'.stream.undelivered = lane.stream.undelivered
  bound : ∀ attempts, taken.countP (Record.isAt jobId attempts) +
    lane.stream.undelivered.countP (Record.isAt jobId attempts) ≤
      lane.stream.entries.countP (Record.isAt jobId attempts)

/-- A move that leaves the journal alone is balanced when no copies appear and
what is undelivered or waiting stays matched. -/
theorem Balanced.of_journal {jobId : ℕ}
    (hcopies : ∀ attempts, copies lane' held' jobId attempts ≤ copies lane held jobId attempts)
    (hmatched : ∀ attempts,
      held'.live.countP (JobRun.waitsAt jobId attempts) +
          lane'.stream.undelivered.countP (Record.isAt jobId attempts) +
          lane.stream.entries.countP (Record.isAt jobId attempts) ≤
        held.live.countP (JobRun.waitsAt jobId attempts) +
          lane.stream.undelivered.countP (Record.isAt jobId attempts) +
          lane'.stream.entries.countP (Record.isAt jobId attempts))
    (hhanded : journal'.handed = journal.handed) :
    Balanced lane journal held lane' journal' held' jobId where
  first := hcopies 0
  later attempts := by
    have := hcopies (attempts + 1)
    simp only [Journal.handedAt, hhanded]
    omega
  matched attempts := by
    have := hmatched attempts
    simp only [Journal.handedAt, hhanded]
    omega

theorem LaneMove.balanced (hmove : LaneMove taken lane journal held lane' journal' held')
    (jobId : ℕ) :
    Balanced lane journal held lane' journal' held' jobId ∨
      Claimed taken lane journal held lane' journal' held' jobId := by
  cases hmove with
  | quiet hlane hjournal hmoving hlive =>
      refine .inl (.of_journal (fun attempts => ?_) (fun attempts => ?_) (by rw [hjournal]))
      · simp only [copies, hlane.entries, hlane.delayed, hmoving, hlive.countP_eq]
        exact le_rfl
      · simp only [hlane.entries, hlane.undelivered, hlive.countP_eq]
        exact le_rfl
  | release record hdelayed hlane hjournal hfree hmoving hlive =>
      subst hlane
      refine .inl (.of_journal (fun attempts => ?_) (fun attempts => ?_) (by rw [hjournal]))
      · have := SortedSet.countP_zrem hdelayed (Record.isAt jobId attempts)
        simp only [copies, Lane.release, hfree, hmoving, hlive.countP_eq, List.countP_singleton,
          List.countP_nil]
        omega
      · simp only [Lane.release, hlive.countP_eq]
        exact le_rfl
  | promote record hlane hjournal hmoving hfree hlive =>
      subst hlane
      refine .inl (.of_journal (fun attempts => ?_) (fun attempts => ?_) (by rw [hjournal]))
      · simp only [copies, Lane.add, Stream.entries_xadd, List.countP_append, hfree, hmoving,
          hlive.countP_eq, List.countP_nil]
        omega
      · simp only [Lane.add, Stream.entries_xadd, Stream.undelivered_xadd, List.countP_append,
          hlive.countP_eq]
        omega
  | read now consumer count hlane hjournal hmoving hlive =>
      subst hlane
      refine .inl (.of_journal (fun attempts => ?_) (fun attempts => ?_) (by rw [hjournal]))
      · simp only [copies, Stream.entries_xreadgroup, hmoving, hlive.countP_eq,
          List.countP_append, countP_triesAt_decode]
        omega
      · have hsplit : lane.stream.undelivered.countP (Record.isAt jobId attempts) =
            (lane.stream.undelivered.take count).countP (Record.isAt jobId attempts) +
              (lane.stream.undelivered.drop count).countP (Record.isAt jobId attempts) := by
          rw [← List.countP_append, List.take_append_drop]
        simp only [Stream.entries_xreadgroup, Stream.undelivered_xreadgroup, hlive.countP_eq,
          List.countP_append, countP_waitsAt_decode]
        omega
  -- only a sweep hands an entry out again at the attempts it was stored with
  | claim now consumer minIdle count hlane htaken hjournal hmoving hlive =>
      subst hlane
      refine .inr ⟨hjournal, fun attempts => ?_, fun attempts => ?_, rfl, rfl, fun attempts => ?_⟩
      · simp only [copies, Stream.entries_xautoclaim, hmoving, hlive.countP_eq,
          List.countP_append, countP_triesAt_decode]
        omega
      · simp only [hlive.countP_eq, List.countP_append, countP_waitsAt_decode]
      · rw [← htaken]
        exact lane.stream.countP_xautoclaim_le now consumer minIdle count _
  -- the copy that waited at one attempt less becomes the copy that is tried
  | hand job rest hlane hjournal hmoving hmax hroom hlive hlive' =>
      subst hlane hjournal
      refine .inl ⟨?_, fun attempts => ?_, fun attempts => ?_⟩
      · simp only [copies, hmoving, hlive.countP_eq, hlive'.countP_eq, List.countP_cons,
          JobRun.triesAt, isAt_tried_zero]
        simp
      · simp only [copies, hmoving, hlive.countP_eq, hlive'.countP_eq, List.countP_cons,
          JobRun.triesAt, isAt_tried_succ, Journal.handedAt, List.countP_append,
          List.countP_nil]
        simp
        omega
      · simp only [hlive.countP_eq, hlive'.countP_eq, List.countP_cons, JobRun.waitsAt,
          isAt_tried_succ, Journal.handedAt, List.countP_append, List.countP_nil]
        simp
        omega
  | retry job rest entry delay hlane hjournal hentry hmoving hlive hlive' =>
      subst hlane
      refine .inl (.of_journal (fun attempts => ?_) (fun attempts => ?_) (by rw [hjournal]))
      · cases entry <;>
          simp [copies, Lane.ack, hmoving, hlive.countP_eq, hlive'.countP_eq, List.countP_cons,
            JobRun.triesAt]
      · cases entry <;>
          simp [Lane.ack, hlive.countP_eq, hlive'.countP_eq, JobRun.waitsAt]
  | finish job rest hlane hjournal hmoving hlive hlive' =>
      refine .inl (.of_journal (fun attempts => ?_) (fun attempts => ?_) (by rw [hjournal]))
      · simp only [copies, hlane.entries, hlane.delayed, hmoving, hlive.countP_eq,
          hlive'.countP_eq, List.countP_cons]
        omega
      · simp only [hlane.entries, hlane.undelivered, hlive.countP_eq, hlive'.countP_eq,
          List.countP_cons]
        omega
  | cancel job rest hlane hjournal hmoving hlive hlive' =>
      subst hlane
      refine .inl (.of_journal (fun attempts => ?_) (fun attempts => ?_) (by rw [hjournal]))
      · simp only [copies, hmoving, hlive.countP_eq, hlive'.countP_eq, List.countP_cons]
        omega
      · simp only [hlive.countP_eq, hlive'.countP_eq, List.countP_cons]
        omega
  | acknowledge entry acknowledged hlane hjournal hentry hfinished hmoving hlive =>
      subst hlane
      refine .inl (.of_journal (fun attempts => ?_) (fun attempts => ?_) (by rw [hjournal]))
      · simp [copies, Lane.ack, hmoving, hlive.countP_eq]
      · simp [Lane.ack, hlive.countP_eq]
  | delay job rest retryAfter due hlane hjournal hmoving hlive hlive' =>
      subst hlane
      refine .inl (.of_journal (fun attempts => ?_) (fun attempts => ?_) (by rw [hjournal]))
      · have hzadd : (lane.delayed.zadd due job.record).members.countP
            (Record.isAt jobId attempts) ≤
            lane.delayed.members.countP (Record.isAt jobId attempts) +
              if job.isAt jobId attempts then 1 else 0 :=
          lane.delayed.countP_zadd_le due job.record (Record.isAt jobId attempts)
        have htries : JobRun.triesAt jobId attempts ⟨job, .delaying retryAfter⟩ =
            job.isAt jobId attempts := by simp [JobRun.triesAt]
        simp only [copies, Lane.delay, hmoving, hlive.countP_eq, hlive'.countP_eq,
          List.countP_cons, htries]
        omega
      · simp only [Lane.delay, hlive.countP_eq, hlive'.countP_eq, List.countP_cons]
        omega

/-- Jobs handed out have at least one attempt behind them and at most ten. -/
theorem LaneMove.handed (hmove : LaneMove taken lane journal held lane' journal' held')
    (hhanded : ∀ job ∈ journal.handed,
      1 ≤ job.attempts ∧ job.attempts ≤ 10 ∧ job.maxAttempts = 10) :
    ∀ job ∈ journal'.handed, 1 ≤ job.attempts ∧ job.attempts ≤ 10 ∧ job.maxAttempts = 10 := by
  cases hmove with
  | hand job rest hlane hjournal hmoving hmax hroom hlive hlive' =>
      subst hjournal
      intro handed hmember
      rcases List.mem_append.mp hmember with hold | hnew
      · exact hhanded handed hold
      · rw [List.mem_singleton.mp hnew]
        exact ⟨Nat.le_add_left 1 _, hroom, hmax⟩
  | quiet hlane hjournal => rwa [hjournal]
  | release record hdelayed hlane hjournal => rwa [hjournal]
  | promote record hlane hjournal => rwa [hjournal]
  | read now consumer count hlane hjournal => rwa [hjournal]
  | claim now consumer minIdle count hlane htaken hjournal => rwa [hjournal]
  | retry job rest entry delay hlane hjournal => rwa [hjournal]
  | finish job rest hlane hjournal => rwa [hjournal]
  | cancel job rest hlane hjournal => rwa [hjournal]
  | acknowledge entry jobId hlane hjournal => rwa [hjournal]
  | delay job rest retryAfter due hlane hjournal => rwa [hjournal]

end Steps

/-! ## All processes together -/

/-- The copies of a job all processes and the server have, the job about to be
added included. -/
def totalCopies (pool : Pool QueueWorld Coroutine) (queue : String) (jobId attempts : ℕ) : ℕ :=
  (pool.shared.server.lanes queue).stream.entries.countP (Record.isAt jobId attempts) +
    (pool.shared.server.lanes queue).delayed.members.countP (Record.isAt jobId attempts) +
    pool.tally fun coroutine =>
      (coroutine.holding queue).moving.countP (Record.isAt jobId attempts) +
        (coroutine.holding queue).live.countP (JobRun.triesAt jobId attempts) +
        (coroutine.pledged queue).countP (Job.isAt jobId attempts)

def totalWaiting (pool : Pool QueueWorld Coroutine) (queue : String) (jobId attempts : ℕ) : ℕ :=
  pool.tally fun coroutine =>
    (coroutine.holding queue).live.countP (JobRun.waitsAt jobId attempts)

/-- Every copy stems from the hand-out before, and no entry is handed out twice. -/
structure TriedOnce (queue : String) (pool : Pool QueueWorld Coroutine) : Prop where
  first : ∀ jobId, totalCopies pool queue jobId 0 ≤ if jobId < pool.shared.drawn then 1 else 0
  later : ∀ jobId attempts, totalCopies pool queue jobId (attempts + 1) ≤
    (pool.shared.journal queue).handedAt jobId attempts
  matched : ∀ jobId attempts,
    (pool.shared.journal queue).handedAt jobId attempts + totalWaiting pool queue jobId attempts +
        (pool.shared.server.lanes queue).stream.undelivered.countP (Record.isAt jobId attempts) ≤
      (pool.shared.server.lanes queue).stream.entries.countP (Record.isAt jobId attempts)
  handed : ∀ job ∈ (pool.shared.journal queue).handed,
    1 ≤ job.attempts ∧ job.attempts ≤ 10 ∧ job.maxAttempts = 10

/-- A stale claim takes over only entries whose job was not handed to `process`
from them and that no running process is about to hand out: their reader crashed
before it came to it. -/
def ClaimsOrphans (settings : RedisSettings) (pool : Pool QueueWorld Coroutine) :
    Turn QueueRequest Reading → Prop
  | .start _ => True
  | .advance index reading => ∀ coroutine, pool.sessions[index]? = some coroutine →
      reading.choice ≠ .crash →
      ∀ queue, ∀ record ∈ coroutine.takesOver settings pool.shared reading queue,
        (pool.shared.journal queue).handedAt record.id record.attempts = 0 ∧
          totalWaiting pool queue record.id record.attempts = 0

section Pools

variable {settings : RedisSettings} {pool : Pool QueueWorld Coroutine} {queue : String}

/-- A process that starts holds nothing. -/
theorem TriedOnce.start (htried : TriedOnce queue pool) (request : QueueRequest) :
    TriedOnce queue (next (processes settings).step pool (.start request)) := by
  have hholding : request.coroutine.holding queue = {} := by
    cases request with
    | enqueue => rfl
    | drain other prefetch consumer =>
        simp only [QueueRequest.coroutine, Coroutine.holding]
        split <;> rfl
  have hpledged : request.coroutine.pledged queue = [] := by cases request <;> rfl
  have hcopies : ∀ jobId attempts,
      totalCopies (next (processes settings).step pool (.start request)) queue jobId attempts =
        totalCopies pool queue jobId attempts := by
    intro jobId attempts
    simp [next, Machine.step, totalCopies, processes, Pool.tally, hholding, hpledged]
  have hwaiting : ∀ jobId attempts,
      totalWaiting (next (processes settings).step pool (.start request)) queue jobId attempts =
        totalWaiting pool queue jobId attempts := by
    intro jobId attempts
    simp [next, Machine.step, totalWaiting, processes, Pool.tally, hholding]
  refine ⟨fun jobId => ?_, fun jobId attempts => ?_, fun jobId attempts => ?_, htried.handed⟩
  · rw [hcopies]
    exact htried.first jobId
  · rw [hcopies]
    exact htried.later jobId attempts
  · rw [hwaiting]
    exact htried.matched jobId attempts

variable {index : ℕ} {reading : Reading} {coroutine coroutine' : Coroutine} {world' : QueueWorld}

/-- How the totals change when one coroutine goes on. -/
theorem totalCopies_set (hat : pool.sessions[index]? = some coroutine) (coroutine' : Coroutine)
    (world' : QueueWorld) (queue : String) (jobId attempts : ℕ) :
    totalCopies ⟨world', pool.sessions.set index coroutine'⟩ queue jobId attempts +
        (copies (pool.shared.server.lanes queue) (coroutine.holding queue) jobId attempts +
          (coroutine.pledged queue).countP (Job.isAt jobId attempts)) =
      totalCopies pool queue jobId attempts +
        (copies (world'.server.lanes queue) (coroutine'.holding queue) jobId attempts +
          (coroutine'.pledged queue).countP (Job.isAt jobId attempts)) := by
  have htally := pool.tally_set hat (fun coroutine =>
    (coroutine.holding queue).moving.countP (Record.isAt jobId attempts) +
      (coroutine.holding queue).live.countP (JobRun.triesAt jobId attempts) +
      (coroutine.pledged queue).countP (Job.isAt jobId attempts)) world' coroutine'
  simp only [totalCopies, copies]
  omega

theorem totalWaiting_set (hat : pool.sessions[index]? = some coroutine) (coroutine' : Coroutine)
    (world' : QueueWorld) (queue : String) (jobId attempts : ℕ) :
    totalWaiting ⟨world', pool.sessions.set index coroutine'⟩ queue jobId attempts +
        (coroutine.holding queue).live.countP (JobRun.waitsAt jobId attempts) =
      totalWaiting pool queue jobId attempts +
        (coroutine'.holding queue).live.countP (JobRun.waitsAt jobId attempts) :=
  pool.tally_set hat (fun coroutine =>
    (coroutine.holding queue).live.countP (JobRun.waitsAt jobId attempts)) world' coroutine'

/-- A step after which every total is matched as before. -/
theorem TriedOnce.of_step (htried : TriedOnce queue pool)
    (hat : pool.sessions[index]? = some coroutine)
    (hfirst : ∀ jobId,
      copies (world'.server.lanes queue) (coroutine'.holding queue) jobId 0 +
          (coroutine'.pledged queue).countP (Job.isAt jobId 0) +
          (if jobId < pool.shared.drawn then 1 else 0) ≤
        copies (pool.shared.server.lanes queue) (coroutine.holding queue) jobId 0 +
          (coroutine.pledged queue).countP (Job.isAt jobId 0) +
          if jobId < world'.drawn then 1 else 0)
    (hlater : ∀ jobId attempts,
      copies (world'.server.lanes queue) (coroutine'.holding queue) jobId (attempts + 1) +
          (coroutine'.pledged queue).countP (Job.isAt jobId (attempts + 1)) +
          (pool.shared.journal queue).handedAt jobId attempts ≤
        copies (pool.shared.server.lanes queue) (coroutine.holding queue) jobId (attempts + 1) +
          (coroutine.pledged queue).countP (Job.isAt jobId (attempts + 1)) +
          (world'.journal queue).handedAt jobId attempts)
    (hmatched : ∀ jobId attempts,
      (world'.journal queue).handedAt jobId attempts +
          totalWaiting ⟨world', pool.sessions.set index coroutine'⟩ queue jobId attempts +
          (world'.server.lanes queue).stream.undelivered.countP (Record.isAt jobId attempts) ≤
        (world'.server.lanes queue).stream.entries.countP (Record.isAt jobId attempts))
    (hhanded : ∀ job ∈ (world'.journal queue).handed,
      1 ≤ job.attempts ∧ job.attempts ≤ 10 ∧ job.maxAttempts = 10) :
    TriedOnce queue ⟨world', pool.sessions.set index coroutine'⟩ where
  first jobId := by
    have := totalCopies_set hat coroutine' world' queue jobId 0
    have := htried.first jobId
    have := hfirst jobId
    show totalCopies _ _ _ _ ≤ if jobId < world'.drawn then 1 else 0
    omega
  later jobId attempts := by
    have := totalCopies_set hat coroutine' world' queue jobId (attempts + 1)
    have := htried.later jobId attempts
    have := hlater jobId attempts
    show totalCopies _ _ _ _ ≤ (world'.journal queue).handedAt jobId attempts
    omega
  matched := hmatched
  handed := hhanded

/-- A step that hands nothing out twice. -/
theorem TriedOnce.matched_of_le (htried : TriedOnce queue pool)
    (hat : pool.sessions[index]? = some coroutine) {jobId attempts : ℕ}
    (hstep : (world'.journal queue).handedAt jobId attempts +
        (coroutine'.holding queue).live.countP (JobRun.waitsAt jobId attempts) +
        (world'.server.lanes queue).stream.undelivered.countP (Record.isAt jobId attempts) +
        (pool.shared.server.lanes queue).stream.entries.countP (Record.isAt jobId attempts) ≤
      (pool.shared.journal queue).handedAt jobId attempts +
        (coroutine.holding queue).live.countP (JobRun.waitsAt jobId attempts) +
        (pool.shared.server.lanes queue).stream.undelivered.countP (Record.isAt jobId attempts) +
        (world'.server.lanes queue).stream.entries.countP (Record.isAt jobId attempts)) :
    (world'.journal queue).handedAt jobId attempts +
        totalWaiting ⟨world', pool.sessions.set index coroutine'⟩ queue jobId attempts +
        (world'.server.lanes queue).stream.undelivered.countP (Record.isAt jobId attempts) ≤
      (world'.server.lanes queue).stream.entries.countP (Record.isAt jobId attempts) := by
  have := totalWaiting_set hat coroutine' world' queue jobId attempts
  have := htried.matched jobId attempts
  omega

/-- What a stale claim takes over has not been handed out and waits nowhere else. -/
theorem TriedOnce.matched_of_claimed {taken : List Record} {jobId : ℕ}
    (htried : TriedOnce queue pool) (hat : pool.sessions[index]? = some coroutine)
    (hclaimed : Claimed taken (pool.shared.server.lanes queue) (pool.shared.journal queue)
      (coroutine.holding queue) (world'.server.lanes queue) (world'.journal queue)
      (coroutine'.holding queue) jobId)
    (htaken : ∀ record ∈ taken,
      (pool.shared.journal queue).handedAt record.id record.attempts = 0 ∧
        totalWaiting pool queue record.id record.attempts = 0) (attempts : ℕ) :
    (world'.journal queue).handedAt jobId attempts +
        totalWaiting ⟨world', pool.sessions.set index coroutine'⟩ queue jobId attempts +
        (world'.server.lanes queue).stream.undelivered.countP (Record.isAt jobId attempts) ≤
      (world'.server.lanes queue).stream.entries.countP (Record.isAt jobId attempts) := by
  have hwaiting := totalWaiting_set hat coroutine' world' queue jobId attempts
  have hwaits := hclaimed.waits attempts
  have hbound := hclaimed.bound attempts
  have hmatched := htried.matched jobId attempts
  rw [hclaimed.journal, hclaimed.entries, hclaimed.undelivered]
  rcases Nat.eq_zero_or_pos (taken.countP (Record.isAt jobId attempts)) with hnone | hsome
  · omega
  · obtain ⟨record, hrecord, hhere⟩ := List.countP_pos_iff.mp hsome
    obtain ⟨rfl, rfl⟩ : record.id = jobId ∧ record.attempts = attempts := by
      simpa [Record.isAt] using hhere
    obtain ⟨hhanded, hidle⟩ := htaken record hrecord
    omega

theorem TriedOnce.advance {taken : List Record} (htried : TriedOnce queue pool)
    (hat : pool.sessions[index]? = some coroutine)
    (hmove : QueueMove reading.choice queue taken pool.shared coroutine world' coroutine')
    (htaken : reading.choice ≠ .crash → ∀ record ∈ taken,
      (pool.shared.journal queue).handedAt record.id record.attempts = 0 ∧
        totalWaiting pool queue record.id record.attempts = 0) :
    TriedOnce queue ⟨world', pool.sessions.set index coroutine'⟩ := by
  cases hmove with
  | crash hchoice hworld hcoroutine =>
      subst hworld hcoroutine
      -- whatever the process had in its hands is gone
      refine htried.of_step hat (fun jobId => ?_) (fun jobId attempts => ?_)
        (fun jobId attempts => htried.matched_of_le hat ?_) htried.handed
      · simp [copies, Coroutine.holding, Coroutine.pledged]
        omega
      · simp [copies, Coroutine.holding, Coroutine.pledged]
        omega
      · simp [Coroutine.holding]
  | rest hlane hjournal hdrawn hholding hpledged =>
      refine htried.of_step hat (fun jobId => ?_) (fun jobId attempts => ?_)
        (fun jobId attempts => htried.matched_of_le hat ?_) (by rw [hjournal]; exact htried.handed)
      · simp only [copies, hlane.entries, hlane.delayed, hholding, hpledged]
        split <;> split <;> omega
      · simp only [copies, hlane.entries, hlane.delayed, hholding, hpledged, hjournal]
        exact le_rfl
      · simp only [hlane.entries, hlane.undelivered, hholding, hjournal]
        exact le_rfl
  | draw job hlane hjournal hdrawn hjob hfresh hholding hpledged hpledged' =>
      refine htried.of_step hat (fun jobId => ?_) (fun jobId attempts => ?_)
        (fun jobId attempts => htried.matched_of_le hat ?_) (by rw [hjournal]; exact htried.handed)
      · simp only [hlane, hholding, hpledged, hpledged', hdrawn, List.countP_singleton,
          List.countP_nil, Job.isAt, hjob, hfresh, decide_eq_true_eq, and_true]
        split <;> split <;> split <;> omega
      · simp [hlane, hholding, hpledged, hpledged', hjournal, Job.isAt, hfresh]
      · simp only [hlane, hholding, hjournal]
        exact le_rfl
  | add job hlane hjournal hdrawn hholding hpledged hpledged' =>
      have hentries := hlane.entries
      have hundelivered := hlane.undelivered
      simp only [Lane.add, Stream.entries_xadd, Stream.undelivered_xadd] at hentries hundelivered
      have hdelayed : (world'.server.lanes queue).delayed =
        (pool.shared.server.lanes queue).delayed := hlane.delayed
      have hrecord : ∀ jobId attempts, [job.record].countP (Record.isAt jobId attempts) =
          [job].countP (Job.isAt jobId attempts) := by
        intro jobId attempts
        rfl
      refine htried.of_step hat (fun jobId => ?_) (fun jobId attempts => ?_)
        (fun jobId attempts => htried.matched_of_le hat ?_) (by rw [hjournal]; exact htried.handed)
      · simp only [copies, hentries, hdelayed, hholding, hpledged, hpledged', hdrawn,
          List.countP_append, List.countP_nil, hrecord]
        omega
      · simp only [copies, hentries, hdelayed, hholding, hpledged, hpledged', hjournal,
          List.countP_append, List.countP_nil, hrecord, Journal.handedAt]
        omega
      · simp only [hentries, hundelivered, hholding, hjournal, List.countP_append,
          Journal.handedAt]
        omega
  | work hchoice hdrawn hpledged hmove =>
      have hbalanced := hmove.balanced
      refine htried.of_step hat (fun jobId => ?_) (fun jobId attempts => ?_)
        (fun jobId attempts => ?_) (hmove.handed htried.handed)
      · rw [hpledged, hdrawn]
        rcases hbalanced jobId with hbalanced | hclaimed
        · have := hbalanced.first
          omega
        · have := hclaimed.copies 0
          omega
      · rw [hpledged]
        rcases hbalanced jobId with hbalanced | hclaimed
        · have := hbalanced.later attempts
          omega
        · have := hclaimed.copies (attempts + 1)
          rw [hclaimed.journal]
          omega
      · rcases hbalanced jobId with hbalanced | hclaimed
        · exact htried.matched_of_le hat (hbalanced.matched attempts)
        · exact htried.matched_of_claimed hat hclaimed (htaken hchoice) attempts

/-- A job is handed out at most once at every count of attempts. -/
theorem TriedOnce.handedAt_le_one (htried : TriedOnce queue pool) (jobId attempts : ℕ) :
    (pool.shared.journal queue).handedAt jobId attempts ≤ 1 := by
  have hentries : ∀ attempts, (pool.shared.journal queue).handedAt jobId attempts ≤
      totalCopies pool queue jobId attempts := by
    intro attempts
    have := htried.matched jobId attempts
    simp only [totalCopies]
    omega
  induction attempts with
  | zero =>
      have hfirst := htried.first jobId
      have := hentries 0
      split at hfirst <;> omega
  | succ attempts ih =>
      have := htried.later jobId attempts
      have := hentries (attempts + 1)
      omega

/-- And so at most ten times. -/
theorem TriedOnce.handed_le (htried : TriedOnce queue pool) (jobId : ℕ) :
    (pool.shared.journal queue).handed.countP (fun job => decide (job.jobId = jobId)) ≤ 10 := by
  set handed := (pool.shared.journal queue).handed
  set tries := (handed.filter fun job => decide (job.jobId = jobId)).map Job.attempts
  have hmem : ∀ attempts ∈ tries, attempts ∈ List.range' 1 10 := by
    intro attempts hattempts
    obtain ⟨job, hjob, rfl⟩ := List.mem_map.mp hattempts
    obtain ⟨hpos, hle, -⟩ := htried.handed job (List.mem_of_mem_filter hjob)
    exact List.mem_range'_1.mpr ⟨hpos, by omega⟩
  have hnodup : tries.Nodup := by
    rw [List.nodup_iff_count_le_one]
    intro attempts
    by_cases hattempts : attempts ∈ tries
    · obtain ⟨hpos, -⟩ := List.mem_range'_1.mp (hmem attempts hattempts)
      obtain ⟨before, rfl⟩ := Nat.exists_eq_add_of_le' hpos
      refine le_trans (le_of_eq ?_) (htried.handedAt_le_one jobId before)
      simp only [tries, List.count, List.countP_map, List.countP_filter, Journal.handedAt]
      apply List.countP_congr
      intro job _
      simp [Job.isAt, and_comm]
    · rw [List.count_eq_zero_of_not_mem hattempts]
      exact Nat.zero_le 1
  have hlength := (hnodup.subperm hmem).length_le
  simpa [tries, List.countP_eq_length_filter] using hlength

end Pools

/-! ## Runs -/

theorem next_triedOnce {settings : RedisSettings} {pool : Pool QueueWorld Coroutine}
    (hpool : InOrder pool)
    {queue : String} (htried : TriedOnce queue pool) {turn : Turn QueueRequest Reading}
    (hclaims : ClaimsOrphans settings pool turn) :
    TriedOnce queue (next (processes settings).step pool turn) := by
  cases turn with
  | start request => exact htried.start request
  | advance index reading =>
      cases hat : pool.sessions[index]? with
      | none =>
          rw [next_advance_of_none hat]
          exact htried
      | some coroutine =>
          rw [next_advance_of_some hat]
          have hspec := Coroutine.advance_spec hpool.1
            (hpool.2 coroutine (List.mem_of_getElem? hat)) settings reading
          exact htried.advance hat (hspec.move queue) fun hchoice =>
            hclaims coroutine hat hchoice queue

theorem idleProcesses_triedOnce (queue : String) : TriedOnce queue idleProcesses where
  first jobId := by simp [totalCopies, idleProcesses, Pool.tally, SortedSet.members]
  later jobId attempts := by simp [totalCopies, idleProcesses, Pool.tally, SortedSet.members]
  matched jobId attempts := by
    simp [totalWaiting, idleProcesses, Pool.tally, Journal.handedAt, Stream.undelivered]
  handed := by simp [idleProcesses]

/-- In every run whose stale claims take over only entries that were never handed
to `process` and wait nowhere else, every job is handed to `process` at most as
often as its maximum says. -/
theorem handed_at_most_max_attempts (settings : RedisSettings)
    {turns : List (Turn QueueRequest Reading)}
    (halong : Along (processes settings).step (ClaimsOrphans settings) idleProcesses turns)
    {queue : String} {job : Job}
    (hjob : job ∈
      ((run (processes settings).step idleProcesses turns).shared.journal queue).handed) :
    ((run (processes settings).step idleProcesses turns).shared.journal queue).handed.countP
      (fun other => decide (other.jobId = job.jobId)) ≤ job.maxAttempts := by
  have htried := (run_invariant_of_along
    (fun pool : Pool QueueWorld Coroutine => InOrder pool ∧ TriedOnce queue pool)
    (ClaimsOrphans settings)
    (fun pool turn hpool hclaims =>
      ⟨next_inOrder hpool.1 turn, next_triedOnce hpool.1 hpool.2 hclaims⟩)
    ⟨idleProcesses_inOrder, idleProcesses_triedOnce queue⟩ halong).2
  rw [(htried.handed job hjob).2.2]
  exact htried.handed_le job.jobId

/-- A process starts to drain the queue, comes as far as a batch and either hands
its job to `process` or crashes before. -/
def crashingWorker (index : ℕ) (now : Instant) (hands : Bool) : List (Turn QueueRequest Reading) :=
  [.start (.drain "payments.detection" 1 "worker")] ++
    List.replicate 5 (.advance index { now := now }) ++
    (if hands then [.advance index { now := now, choice := .task 0 .raises }] else []) ++
    [.advance index { now := now, choice := .crash }]

def oneJob : List (Turn QueueRequest Reading) :=
  .start (.enqueue "payments.detection" [] none) ::
    List.replicate 3 (.advance 0 { now := seconds 90 })

/-- The first process crashes with the job in its batch, the second takes the entry
over a minute later and hands the job to `process`. -/
def orphanedJob : List (Turn QueueRequest Reading) :=
  oneJob ++ crashingWorker 1 (seconds 100) false ++ crashingWorker 2 (seconds 170) true

/-- The stale claims of a coroutine, looked at on its own queue. -/
def claimsOrphans (settings : RedisSettings) (pool : Pool QueueWorld Coroutine) :
    Turn QueueRequest Reading → Bool
  | .start _ => true
  | .advance index reading =>
      match pool.sessions[index]? with
      | some (.draining loop) =>
          decide (reading.choice = .crash) ||
            (loop.takesOver settings reading.now
              (pool.shared.server.lanes loop.queue)).all fun record =>
              decide ((pool.shared.journal loop.queue).handedAt record.id record.attempts = 0 ∧
                totalWaiting pool loop.queue record.id record.attempts = 0)
      | _ => true

theorem ClaimsOrphans.of_claimsOrphans {settings : RedisSettings}
    {pool : Pool QueueWorld Coroutine} {turn : Turn QueueRequest Reading}
    (hclaims : claimsOrphans settings pool turn = true) : ClaimsOrphans settings pool turn := by
  cases turn with
  | start request => trivial
  | advance index reading =>
      intro coroutine hat hchoice queue record hrecord
      cases coroutine with
      | draining loop =>
          simp only [Coroutine.takesOver] at hrecord
          split at hrecord
          next hqueue =>
            subst hqueue
            have hall : ∀ record ∈ loop.takesOver settings reading.now
                (pool.shared.server.lanes loop.queue),
                (pool.shared.journal loop.queue).handedAt record.id record.attempts = 0 ∧
                  totalWaiting pool loop.queue record.id record.attempts = 0 := by
              simpa [claimsOrphans, hat, hchoice] using hclaims
            exact hall record hrecord
          next => cases hrecord
      | enqueueing | adding | added | ended => cases hrecord

theorem handed_at_most_max_attempts_orphan :
    ((run (processes {}).step idleProcesses orphanedJob).shared.journal
        "payments.detection").handed.map Job.attempts = [1] ∧
      ∀ job ∈ ((run (processes {}).step idleProcesses orphanedJob).shared.journal
        "payments.detection").handed,
        ((run (processes {}).step idleProcesses orphanedJob).shared.journal
          "payments.detection").handed.countP (fun other => decide (other.jobId = job.jobId)) ≤
          job.maxAttempts := by
  have halong : Along (processes {}).step (ClaimsOrphans {}) idleProcesses orphanedJob :=
    Along.imp (fun _ _ hclaims => ClaimsOrphans.of_claimsOrphans hclaims)
      (by decide +kernel : Along (processes {}).step
        (fun pool turn => claimsOrphans {} pool turn = true) idleProcesses orphanedJob)
  exact ⟨by decide +kernel, fun job hjob => handed_at_most_max_attempts {} halong hjob⟩

/-- A job whose `process` kills its worker eleven times in a row. -/
def poisonedJob : List (Turn QueueRequest Reading) :=
  oneJob ++ (List.range 11).flatMap fun count =>
    crashingWorker (count + 1) (seconds (100 + 70 * count)) true

/-- The job is handed out each time as its first attempt, more often than its
maximum of ten. -/
theorem handed_more_than_max_attempts :
    ∃ job ∈ ((run (processes {}).step idleProcesses poisonedJob).shared.journal
        "payments.detection").handed,
      job.maxAttempts < ((run (processes {}).step idleProcesses poisonedJob).shared.journal
        "payments.detection").handed.countP fun other => decide (other.jobId = job.jobId) := by
  decide +kernel

end ChmabaPay
