import ChmabaPay.Workers.Processes

/-! # What a step moves

A job travels between the stream, the pending list and the delayed set of its
queue in the hands of drain loops. Here is said once what a step of any coroutine
can do to a queue and to what the coroutine holds of it; everything proved about
whole runs goes through this list.
-/

namespace ChmabaPay

open Calendar Redis Execution Interleaving

/-! ## Holdings -/

/-- Whether the job will still be handed to `process`, is there now, or is on its
way to the delayed set. -/
def RunStage.isLive : RunStage → Bool
  | .waiting | .processing | .delaying _ => true
  | .acknowledging _ | .counting | .done => false

def liveRuns (runs : List JobRun) : List JobRun := runs.filter fun run => run.stage.isLive

/-- What a drain loop holds of its queue: a retry on its way to the stream, and
the jobs of its batch. -/
structure Holding where
  moving : List Record := []
  live : List JobRun := []

def DrainStage.runs : DrainStage → List JobRun
  | .claiming jobs => jobs.map fun job => ⟨job, .waiting⟩
  | .running runs => runs
  | .top | .scanning | .promoting _ | .moving _ _ | .reading => []

def DrainStage.holding (stage : DrainStage) : Holding where
  moving := match stage with
    | .moving record _ => [record]
    | _ => []
  live := liveRuns stage.runs

/-- The lane with all its jobs where they were; counters may differ. -/
structure Lane.SameJobs (lane lane' : Lane) : Prop where
  entries : lane'.stream.entries = lane.stream.entries
  undelivered : lane'.stream.undelivered = lane.stream.undelivered
  pending : lane'.stream.pending = lane.stream.pending
  delayed : lane'.delayed = lane.delayed

/-- The entry is of this job. -/
def Lane.Names (lane : Lane) (entry jobId : ℕ) : Prop :=
  ∃ record, lane.stream.entries[entry]? = some record ∧ record.id = jobId

instance (lane : Lane) (entry jobId : ℕ) : Decidable (lane.Names entry jobId) :=
  decidable_of_iff ((lane.stream.entries[entry]?).map Record.id = some jobId)
    Option.map_eq_some_iff

/-- The records a step takes over from consumers that did not acknowledge them. -/
def DrainLoop.takesOver (settings : RedisSettings) (now : Instant) (loop : DrainLoop)
    (lane : Lane) : List Record :=
  match loop.stage with
  | .claiming jobs =>
      let room := loop.prefetch - jobs.length
      if claims settings now loop.queue room loop.consumer then
        (lane.stream.xautoclaim now loop.consumer.name settings.claimIdle room).1.map Prod.fst
      else []
  | _ => []

/-- Everything a command of a drain loop can do to its queue, when `taken` are the
records it takes over from others. -/
inductive LaneMove (taken : List Record) (lane : Lane) (journal : Journal) (held : Holding)
    (lane' : Lane) (journal' : Journal) (held' : Holding) : Prop
  | quiet (hlane : lane.SameJobs lane') (hjournal : journal' = journal)
      (hmoving : held'.moving = held.moving) (hlive : held'.live.Perm held.live)
  | release (record : Record) (hdelayed : record ∈ lane.delayed.members)
      (hlane : lane' = lane.release record) (hjournal : journal' = journal)
      (hmoving : held.moving = []) (hmoving' : held'.moving = [record])
      (hlive : held'.live.Perm held.live)
  | promote (record : Record) (hlane : lane' = lane.add record) (hjournal : journal' = journal)
      (hmoving : held.moving = [record]) (hmoving' : held'.moving = [])
      (hlive : held'.live.Perm held.live)
  | read (now : Instant) (consumer : String) (count : ℕ)
      (hlane : lane' = { lane with stream := (lane.stream.xreadgroup now consumer count).2 })
      (hjournal : journal' = journal) (hmoving : held'.moving = held.moving)
      (hlive : held'.live.Perm (held.live ++
        (lane.stream.undelivered.take count).map fun record => ⟨record.decode, .waiting⟩))
  | claim (now : Instant) (consumer : String) (minIdle : Int) (count : ℕ)
      (hlane : lane' =
        { lane with stream := (lane.stream.xautoclaim now consumer minIdle count).2 })
      (htaken : (lane.stream.xautoclaim now consumer minIdle count).1.map Prod.fst = taken)
      (hjournal : journal' = journal) (hmoving : held'.moving = held.moving)
      (hlive : held'.live.Perm (held.live ++
        taken.map fun record => ⟨record.decode, .waiting⟩))
  | hand (job : Job) (rest : List JobRun) (hlane : lane' = lane)
      (hjournal : journal' = { journal with handed := journal.handed ++ [job.tried] })
      (hmoving : held'.moving = held.moving) (hmax : job.maxAttempts = 10)
      (hroom : job.attempts < 10)
      (hlive : held.live.Perm (⟨job, .waiting⟩ :: rest))
      (hlive' : held'.live.Perm (⟨job.tried, .processing⟩ :: rest))
  | retry (job : Job) (rest : List JobRun) (entry : Option ℕ) (delay : ℕ)
      (hlane : lane' = lane.ack entry) (hjournal : journal' = journal)
      (hentry : ∀ number, entry = some number → lane.Names number job.jobId)
      (hmoving : held'.moving = held.moving)
      (hlive : held.live.Perm (⟨job, .processing⟩ :: rest))
      (hlive' : held'.live.Perm (⟨job, .delaying delay⟩ :: rest))
  | finish (job : Job) (rest : List JobRun) (hlane : lane.SameJobs lane')
      (hjournal : journal' = { journal with finished := journal.finished ++ [job.jobId] })
      (hmoving : held'.moving = held.moving)
      (hlive : held.live.Perm (⟨job, .processing⟩ :: rest)) (hlive' : held'.live.Perm rest)
  | cancel (job : Job) (rest : List JobRun) (hlane : lane' = lane) (hjournal : journal' = journal)
      (hmoving : held'.moving = held.moving)
      (hlive : held.live.Perm (⟨job, .processing⟩ :: rest)) (hlive' : held'.live.Perm rest)
  | acknowledge (entry jobId : ℕ) (hlane : lane' = lane.ack (some entry))
      (hjournal : journal' = journal) (hentry : lane.Names entry jobId)
      (hfinished : jobId ∈ journal.finished) (hmoving : held'.moving = held.moving)
      (hlive : held'.live.Perm held.live)
  | delay (job : Job) (rest : List JobRun) (retryAfter : ℕ) (due : Instant)
      (hlane : lane' = lane.delay due job.record) (hjournal : journal' = journal)
      (hmoving : held'.moving = held.moving)
      (hlive : held.live.Perm (⟨job, .delaying retryAfter⟩ :: rest))
      (hlive' : held'.live.Perm rest)

/-! ## What always holds of records, jobs and what a process remembers -/

/-- A record of the queue that was written for a job with attempts left. -/
structure Record.Filed (queue : String) (drawn : ℕ) (record : Record) : Prop where
  queue : record.queue = queue
  drawn : record.id < drawn
  maxAttempts : record.maxAttempts = 10
  attempts : record.attempts < 10

/-- All records of the lane are filed. -/
structure Lane.Filed (queue : String) (drawn : ℕ) (lane : Lane) : Prop where
  entries : ∀ record ∈ lane.stream.entries, record.Filed queue drawn
  delayed : ∀ record ∈ lane.delayed.members, record.Filed queue drawn

structure JobRun.Valid (queue : String) (drawn : ℕ) (lane : Lane) (journal : Journal)
    (run : JobRun) : Prop where
  queue : run.job.queueName = queue
  drawn : run.job.jobId < drawn
  maxAttempts : run.job.maxAttempts = 10
  room : (run.stage = .waiting ∨ ∃ retryAfter, run.stage = .delaying retryAfter) →
    run.job.attempts < 10
  noted : ∀ entry, run.stage = .acknowledging (some entry) →
    lane.Names entry run.job.jobId ∧ run.job.jobId ∈ journal.finished

/-- Every entry the process remembers is of the job it remembers it for. -/
def Consumer.Valid (lane : Lane) (consumer : Consumer) : Prop :=
  ∀ item ∈ consumer.entryIds, lane.Names item.2 item.1

structure DrainLoop.Valid (drawn : ℕ) (lane : Lane) (journal : Journal) (loop : DrainLoop) :
    Prop where
  runs : ∀ run ∈ loop.stage.runs, run.Valid loop.queue drawn lane journal
  moving : ∀ record ∈ loop.stage.holding.moving, record.Filed loop.queue drawn
  consumer : loop.consumer.Valid lane

/-- Streams are only written at their end, and what is recorded stays recorded. -/
structure LaneGrows (lane : Lane) (journal : Journal) (lane' : Lane) (journal' : Journal) :
    Prop where
  entries : lane.stream.entries <+: lane'.stream.entries
  finished : journal.finished ⊆ journal'.finished

section Growing

variable {queue : String} {drawn drawn' : ℕ} {lane lane' : Lane} {journal journal' : Journal}

theorem LaneGrows.refl (lane : Lane) (journal : Journal) : LaneGrows lane journal lane journal :=
  ⟨List.prefix_rfl, List.Subset.refl _⟩

/-- Entries keep their numbers. -/
theorem Lane.Names.mono {entry jobId : ℕ} (hnames : lane.Names entry jobId)
    (hentries : lane.stream.entries <+: lane'.stream.entries) : lane'.Names entry jobId := by
  obtain ⟨record, hrecord, hid⟩ := hnames
  obtain ⟨added, hadded⟩ := hentries
  refine ⟨record, ?_, hid⟩
  rw [← hadded, List.getElem?_append_left (List.getElem?_eq_some_iff.mp hrecord).1, hrecord]

theorem Record.Filed.mono {record : Record} (hfiled : record.Filed queue drawn)
    (hdrawn : drawn ≤ drawn') : record.Filed queue drawn' :=
  { hfiled with drawn := hfiled.drawn.trans_le hdrawn }

theorem Lane.Filed.mono (hfiled : lane.Filed queue drawn) (hdrawn : drawn ≤ drawn') :
    lane.Filed queue drawn' where
  entries record hrecord := (hfiled.entries record hrecord).mono hdrawn
  delayed record hrecord := (hfiled.delayed record hrecord).mono hdrawn

theorem JobRun.Valid.mono {run : JobRun} (hrun : run.Valid queue drawn lane journal)
    (hdrawn : drawn ≤ drawn') (hgrows : LaneGrows lane journal lane' journal') :
    run.Valid queue drawn' lane' journal' :=
  { hrun with
    drawn := hrun.drawn.trans_le hdrawn
    noted := fun entry hstage =>
      ⟨(hrun.noted entry hstage).1.mono hgrows.entries,
        hgrows.finished (hrun.noted entry hstage).2⟩ }

theorem Consumer.Valid.mono {consumer : Consumer} (hconsumer : consumer.Valid lane)
    (hgrows : LaneGrows lane journal lane' journal') : consumer.Valid lane' :=
  fun item hitem => (hconsumer item hitem).mono hgrows.entries

theorem DrainLoop.Valid.mono {loop : DrainLoop} (hloop : loop.Valid drawn lane journal)
    (hdrawn : drawn ≤ drawn') (hgrows : LaneGrows lane journal lane' journal') :
    loop.Valid drawn' lane' journal' where
  runs run hrun := (hloop.runs run hrun).mono hdrawn hgrows
  moving record hrecord := (hloop.moving record hrecord).mono hdrawn
  consumer := hloop.consumer.mono hgrows

end Growing

/-! ## What a process remembers -/

theorem Consumer.Valid.entryOf {lane : Lane} {consumer : Consumer} (hconsumer : consumer.Valid lane)
    {jobId entry : ℕ} (hentry : consumer.entryOf jobId = some entry) :
    lane.Names entry jobId := by
  obtain ⟨front, back, hids, -⟩ := List.lookup_eq_some_iff.mp hentry
  exact hconsumer (jobId, entry) (by simp [hids])

theorem Consumer.Valid.forget {lane : Lane} {consumer : Consumer} (hconsumer : consumer.Valid lane)
    (jobId : ℕ) : (consumer.forget jobId).Valid lane :=
  fun item hitem => hconsumer item (List.mem_of_mem_filter hitem)

theorem Consumer.Valid.remember {lane : Lane} {consumer : Consumer}
    (hconsumer : consumer.Valid lane) {read : List (Record × ℕ)}
    (hread : ∀ item ∈ read, lane.stream.entries[item.2]? = some item.1) :
    (consumer.remember read).Valid lane := by
  have hknown : ∀ known : List (ℕ × ℕ), (∀ item ∈ known, lane.Names item.2 item.1) →
      ∀ item ∈ read.foldl (fun known entry =>
        (entry.1.id, entry.2) :: known.filter fun item => decide (item.1 ≠ entry.1.id)) known,
        lane.Names item.2 item.1 := by
    induction read with
    | nil => exact fun known hknown => hknown
    | cons head rest ih =>
        intro known hknown
        apply ih fun item hitem => hread item (List.mem_cons_of_mem _ hitem)
        intro item hitem
        rcases List.mem_cons.mp hitem with rfl | hold
        · exact ⟨head.1, hread head List.mem_cons_self, rfl⟩
        · exact hknown item (List.mem_of_mem_filter hold)
  exact hknown consumer.entryIds hconsumer

/-! ## A step of one job of the batch -/

@[simp] theorem liveRuns_append (first second : List JobRun) :
    liveRuns (first ++ second) = liveRuns first ++ liveRuns second :=
  List.filter_append ..

/-- A step of one job: it keeps everything in order and is one of the moves,
whatever else the loop holds. -/
structure RunSpec (queue : String) (drawn : ℕ) (lane : Lane) (journal : Journal) (run : JobRun)
    (out : JobRun × Consumer × Lane × Journal) : Prop where
  filed : out.2.2.1.Filed queue drawn
  valid : out.1.Valid queue drawn out.2.2.1 out.2.2.2
  consumer : out.2.1.Valid out.2.2.1
  grows : LaneGrows lane journal out.2.2.1 out.2.2.2
  move : ∀ taken moving rest, LaneMove taken lane journal ⟨moving, liveRuns [run] ++ rest⟩
    out.2.2.1 out.2.2.2 ⟨moving, liveRuns [out.1] ++ rest⟩

section Runs

variable {queue : String} {drawn : ℕ} {lane : Lane} {journal : Journal} {consumer : Consumer}

theorem Lane.Filed.ack (hlane : lane.Filed queue drawn) (entry : Option ℕ) :
    (lane.ack entry).Filed queue drawn := by
  cases entry <;> exact ⟨hlane.entries, hlane.delayed⟩

@[simp] theorem Lane.entries_ack (lane : Lane) (entry : Option ℕ) :
    (lane.ack entry).stream.entries = lane.stream.entries := by
  cases entry <;> rfl

theorem LaneGrows.of_entries {lane lane' : Lane} {journal journal' : Journal}
    (hentries : lane'.stream.entries = lane.stream.entries)
    (hfinished : journal.finished ⊆ journal'.finished) :
    LaneGrows lane journal lane' journal' :=
  ⟨hentries ▸ List.prefix_rfl, hfinished⟩

/-- A stage in which nothing is asked of the job beyond its identity. -/
theorem JobRun.Valid.restage {run : JobRun} (hrun : run.Valid queue drawn lane journal)
    {stage : RunStage} (hstage : stage ∈ [RunStage.processing, .counting, .done])
    (attempts : ℕ) (lane' : Lane) (journal' : Journal) :
    JobRun.Valid queue drawn lane' journal' ⟨{ run.job with attempts := attempts }, stage⟩ where
  queue := hrun.queue
  drawn := hrun.drawn
  maxAttempts := hrun.maxAttempts
  room := by
    rintro (rfl | ⟨_, rfl⟩) <;> simp at hstage
  noted := by
    rintro entry rfl
    simp at hstage

/-- `process` returned, or raised with no attempt left: the job is counted. -/
theorem RunSpec.counted {job : Job} {bump : Counters → Counters}
    (hlane : lane.Filed queue drawn)
    (hrun : JobRun.Valid queue drawn lane journal ⟨job, .processing⟩)
    (hconsumer : consumer.Valid lane) :
    RunSpec queue drawn lane journal ⟨job, .processing⟩
      (⟨job, .acknowledging (consumer.entryOf job.jobId)⟩, consumer.forget job.jobId,
        lane.count bump, { journal with finished := journal.finished ++ [job.jobId] }) where
  filed := ⟨hlane.entries, hlane.delayed⟩
  valid :=
    { queue := hrun.queue
      drawn := hrun.drawn
      maxAttempts := hrun.maxAttempts
      room := by rintro (hstage | ⟨_, hstage⟩) <;> cases hstage
      noted := by
        intro entry hstage
        obtain hentry : consumer.entryOf job.jobId = some entry := by simpa using hstage
        exact ⟨hconsumer.entryOf hentry, by simp⟩ }
  consumer := hconsumer.forget job.jobId
  grows := .of_entries rfl (List.subset_append_left _ _)
  move taken moving rest := .finish job rest ⟨rfl, rfl, rfl, rfl⟩ rfl rfl (.refl _) (.refl _)

theorem JobRun.advance_spec {run : JobRun} (hlane : lane.Filed queue drawn)
    (hrun : run.Valid queue drawn lane journal) (hconsumer : consumer.Valid lane)
    (now : Instant) (outcome : Outcome) :
    RunSpec queue drawn lane journal run (run.advance now outcome consumer lane journal) := by
  obtain ⟨job, stage⟩ := run
  cases stage with
  | waiting =>
      have hroom := hrun.room (.inl rfl)
      refine ⟨hlane, ?_, hconsumer, .of_entries rfl (List.Subset.refl _),
        fun taken moving rest => ?_⟩
      · exact hrun.restage (by simp) (job.attempts + 1) _ _
      · exact .hand job rest rfl rfl rfl hrun.maxAttempts hroom (.refl _) (.refl _)
  | processing =>
      simp only [JobRun.advance, JobRun.settle]
      cases outcome with
      | cancelled =>
          refine ⟨hlane, ?_, hconsumer, .of_entries rfl (List.Subset.refl _),
            fun taken moving rest => ?_⟩
          · exact hrun.restage (by simp) job.attempts _ _
          · exact .cancel job rest rfl rfl rfl (.refl _) (.refl _)
      | returns => exact .counted hlane hrun hconsumer
      | raises =>
          simp only [Outcome.raised, reduceCtorEq, ne_eq, not_false_eq_true, decide_true, if_true,
            if_false]
          cases hretry : job.retryAfter with
          | none => exact .counted hlane hrun hconsumer
          | some delay =>
              by_cases hattempts : job.attempts < job.maxAttempts
              · simp only [if_pos hattempts]
                refine ⟨hlane.ack _, ?_, ?_, ?_, ?_⟩
                · exact
                    { queue := hrun.queue
                      drawn := hrun.drawn
                      maxAttempts := hrun.maxAttempts
                      room := fun _ => hrun.maxAttempts ▸ hattempts
                      noted := by intro entry hstage; cases hstage }
                · exact (hconsumer.forget job.jobId).mono
                    (LaneGrows.of_entries (lane.entries_ack _) (List.Subset.refl journal.finished))
                · exact .of_entries (lane.entries_ack _) (List.Subset.refl _)
                · intro taken moving rest
                  exact .retry job rest _ delay rfl rfl
                    (fun number hnumber => hconsumer.entryOf hnumber) rfl (.refl _) (.refl _)
              · simp only [if_neg hattempts]
                exact .counted hlane hrun hconsumer
  | acknowledging entry =>
      have hgrows : LaneGrows lane journal (lane.ack entry) journal :=
        .of_entries (lane.entries_ack _) (List.Subset.refl _)
      refine ⟨hlane.ack entry, ?_, hconsumer.mono hgrows, hgrows, fun taken moving rest => ?_⟩
      · exact hrun.restage (by simp) job.attempts _ _
      · cases entry with
        | none => exact .quiet ⟨rfl, rfl, rfl, rfl⟩ rfl rfl (.refl _)
        | some entry =>
            obtain ⟨hentry, hfinished⟩ := hrun.noted entry rfl
            exact .acknowledge entry job.jobId rfl rfl hentry hfinished rfl (.refl _)
  | delaying delay =>
      have hroom := hrun.room (.inr ⟨delay, rfl⟩)
      have hgrows : LaneGrows lane journal
          (lane.delay (now + retryDelay delay) job.record) journal :=
        .of_entries rfl (List.Subset.refl _)
      refine ⟨⟨hlane.entries, fun record hrecord => ?_⟩, ?_, hconsumer.mono hgrows, hgrows,
        fun taken moving rest => ?_⟩
      · rcases SortedSet.mem_members_zadd.mp hrecord with rfl | hold
        · exact ⟨hrun.queue, hrun.drawn, hrun.maxAttempts, hroom⟩
        · exact hlane.delayed record hold
      · exact hrun.restage (by simp) job.attempts _ _
      · exact .delay job rest delay _ rfl rfl rfl (.refl _) (.refl _)
  | counting =>
      exact ⟨⟨hlane.entries, hlane.delayed⟩, hrun.restage (by simp) job.attempts _ _, hconsumer,
        .of_entries rfl (List.Subset.refl _),
        fun taken moving rest => .quiet ⟨rfl, rfl, rfl, rfl⟩ rfl rfl (.refl _)⟩
  | done =>
      exact ⟨hlane, hrun, hconsumer, .refl _ _,
        fun taken moving rest => .quiet ⟨rfl, rfl, rfl, rfl⟩ rfl rfl (.refl _)⟩

end Runs

/-! ## A step of a drain loop -/

/-- A step of a drain loop keeps everything in order and is one of the moves. -/
structure LoopSpec (taken : List Record) (drawn : ℕ) (lane : Lane) (journal : Journal)
    (loop : DrainLoop) (lane' : Lane) (journal' : Journal) (loop' : DrainLoop) : Prop where
  filed : lane'.Filed loop.queue drawn
  queue : loop'.queue = loop.queue
  valid : loop'.Valid drawn lane' journal'
  grows : LaneGrows lane journal lane' journal'
  move : LaneMove taken lane journal loop.stage.holding lane' journal' loop'.stage.holding

section Loops

variable {drawn : ℕ} {lane : Lane} {journal : Journal} {loop : DrainLoop}

theorem liveRuns_waiting (jobs : List Job) :
    liveRuns (jobs.map fun job => ⟨job, .waiting⟩) = jobs.map fun job => ⟨job, .waiting⟩ := by
  simp [liveRuns, List.filter_map, Function.comp_def, RunStage.isLive]

/-- The batch is waiting, whether or not the loop still looks for stale entries. -/
theorem runs_batch (jobs : List Job) (full : Prop) [Decidable full] :
    (if full then DrainStage.claiming jobs else DrainLoop.start jobs).runs =
      jobs.map fun job => ⟨job, .waiting⟩ := by
  split <;> rfl

theorem holding_moving_batch (jobs : List Job) (full : Prop) [Decidable full] :
    (if full then DrainStage.claiming jobs else DrainLoop.start jobs).holding.moving = [] := by
  split <;> rfl

theorem JobRun.Valid.of_record {queue : String} {record : Record}
    (hrecord : record.Filed queue drawn) (lane : Lane) (journal : Journal) :
    JobRun.Valid queue drawn lane journal ⟨record.decode, .waiting⟩ where
  queue := hrecord.queue
  drawn := hrecord.drawn
  maxAttempts := by simp [Record.decode, hrecord.maxAttempts]
  room _ := hrecord.attempts
  noted entry hstage := by cases hstage

/-- A stage without a batch and without a retry in hand. -/
theorem LoopSpec.of_empty {taken : List Record} {lane' : Lane} {stage' : DrainStage}
    (hlane : lane.Filed loop.queue drawn) (hloop : loop.Valid drawn lane journal)
    (hsame : lane.SameJobs lane') (hmoving : loop.stage.holding.moving = [])
    (hlive : loop.stage.holding.live = []) (hruns' : stage'.runs = [])
    (hmoving' : stage'.holding.moving = []) :
    LoopSpec taken drawn lane journal loop lane' journal { loop with stage := stage' } where
  filed :=
    { entries := hsame.entries ▸ hlane.entries
      delayed := hsame.delayed ▸ hlane.delayed }
  queue := rfl
  valid :=
    { runs := by simp [hruns']
      moving := by simp [hmoving']
      consumer := hloop.consumer.mono
        (LaneGrows.of_entries hsame.entries (List.Subset.refl journal.finished)) }
  grows := .of_entries hsame.entries (List.Subset.refl _)
  move := .quiet hsame rfl (hmoving'.trans hmoving.symm) (by
    rw [hlive]
    simp [DrainStage.holding, hruns', liveRuns])

theorem DrainLoop.reading_spec {queue : String} {prefetch : ℕ} {consumer : Consumer}
    (hlane : lane.Filed queue drawn)
    (hloop : DrainLoop.Valid drawn lane journal ⟨queue, prefetch, consumer, .reading⟩)
    (settings : RedisSettings) (now : Instant) :
    LoopSpec [] drawn lane journal ⟨queue, prefetch, consumer, .reading⟩
      (DrainLoop.poll settings now ⟨queue, prefetch, consumer, .reading⟩ lane).2 journal
      (DrainLoop.poll settings now ⟨queue, prefetch, consumer, .reading⟩ lane).1 := by
  have hjobs : (lane.stream.xreadgroup now consumer.name prefetch).1.map (·.1.decode) =
      (lane.stream.undelivered.take prefetch).map Record.decode := by
    rw [← Stream.records_xreadgroup lane.stream now consumer.name prefetch, List.map_map]
    rfl
  simp only [DrainLoop.poll, readNew, hjobs]
  have hread : ∀ record ∈ lane.stream.undelivered.take prefetch, record.Filed queue drawn :=
    fun record hrecord =>
      hlane.entries record (List.mem_of_mem_drop (List.mem_of_mem_take hrecord))
  refine ⟨⟨hlane.entries, hlane.delayed⟩, rfl, ⟨fun run hrun => ?_, ?_, ?_⟩,
    .of_entries rfl (List.Subset.refl _),
    .read now consumer.name prefetch rfl rfl (holding_moving_batch _ _) ?_⟩
  · rw [runs_batch] at hrun
    simp only [List.map_map, List.mem_map, Function.comp_apply] at hrun
    obtain ⟨record, hrecord, rfl⟩ := hrun
    exact .of_record (hread record hrecord) _ _
  · rw [holding_moving_batch]
    simp
  · exact hloop.consumer.remember fun item hitem => Stream.mem_xreadgroup _ _ _ _ hitem
  · simp only [DrainStage.holding, runs_batch, liveRuns_waiting]
    rw [List.map_map]
    exact .refl _

theorem DrainLoop.claiming_spec {queue : String} {prefetch : ℕ} {consumer : Consumer}
    {jobs : List Job} (hlane : lane.Filed queue drawn)
    (hloop : DrainLoop.Valid drawn lane journal ⟨queue, prefetch, consumer, .claiming jobs⟩)
    (settings : RedisSettings) (now : Instant) :
    LoopSpec (DrainLoop.takesOver settings now ⟨queue, prefetch, consumer, .claiming jobs⟩ lane)
      drawn lane journal ⟨queue, prefetch, consumer, .claiming jobs⟩
      (DrainLoop.poll settings now ⟨queue, prefetch, consumer, .claiming jobs⟩ lane).2 journal
      (DrainLoop.poll settings now ⟨queue, prefetch, consumer, .claiming jobs⟩ lane).1 := by
  simp only [DrainLoop.poll, claimStale, DrainLoop.takesOver]
  split
  next hclaims =>
    set room := prefetch - jobs.length
    have hclaimed : ∀ claimed ∈
        (lane.stream.xautoclaim now consumer.name settings.claimIdle room).1,
        claimed.1.Filed queue drawn := fun claimed hmem =>
      hlane.entries _ (List.mem_of_getElem? (Stream.mem_xautoclaim _ _ _ _ _ hmem))
    refine ⟨⟨hlane.entries, hlane.delayed⟩, rfl, ⟨fun run hrun => ?_, ?_, ?_⟩,
      .of_entries rfl (List.Subset.refl _),
      .claim now consumer.name settings.claimIdle room rfl rfl rfl rfl ?_⟩
    · simp only [DrainLoop.start, DrainStage.runs, List.map_append, List.mem_append] at hrun
      rcases hrun with hold | hnew
      · exact (hloop.runs run hold).mono le_rfl (.of_entries rfl (List.Subset.refl _))
      · simp only [List.map_map, List.mem_map, Function.comp_apply] at hnew
        obtain ⟨claimed, hmem, rfl⟩ := hnew
        exact .of_record (hclaimed claimed hmem) _ _
    · simp [DrainLoop.start, DrainStage.holding]
    · exact hloop.consumer.remember fun item hitem => Stream.mem_xautoclaim _ _ _ _ _ hitem
    · simp only [DrainStage.holding, DrainLoop.start, DrainStage.runs, liveRuns_waiting]
      rw [List.map_append, List.map_map, List.map_map]
      exact .refl _
  next =>
    refine ⟨hlane, rfl, ⟨?_, by simp [DrainLoop.start, DrainStage.holding], hloop.consumer⟩,
      .refl _ _, .quiet ⟨rfl, rfl, rfl, rfl⟩ rfl rfl ?_⟩
    · simpa [DrainLoop.start, DrainStage.runs] using hloop.runs
    · simp [DrainLoop.start, DrainStage.holding, DrainStage.runs]

theorem DrainLoop.poll_spec (hlane : lane.Filed loop.queue drawn)
    (hloop : loop.Valid drawn lane journal) (settings : RedisSettings) (now : Instant) :
    LoopSpec (loop.takesOver settings now lane) drawn lane journal loop
      (loop.poll settings now lane).2 journal (loop.poll settings now lane).1 := by
  obtain ⟨queue, prefetch, consumer, stage⟩ := loop
  have hsame : lane.SameJobs lane := ⟨rfl, rfl, rfl, rfl⟩
  cases stage with
  | top => exact .of_empty hlane hloop ⟨rfl, rfl, rfl, rfl⟩ rfl rfl rfl rfl
  | scanning => exact .of_empty hlane hloop hsame rfl rfl rfl rfl
  | promoting due =>
      cases due with
      | nil => exact .of_empty hlane hloop hsame rfl rfl rfl rfl
      | cons record due =>
          simp only [DrainLoop.poll]
          by_cases hmember : record ∈ lane.delayed.members
          · simp only [if_pos hmember]
            refine ⟨⟨hlane.entries, fun other hother => ?_⟩, rfl, ⟨?_, ?_, hloop.consumer⟩,
              .of_entries rfl (List.Subset.refl _),
              .release record hmember rfl rfl rfl rfl (.refl _)⟩
            · exact hlane.delayed other (SortedSet.mem_members_zrem.mp hother).1
            · simp [DrainStage.runs]
            · simp only [DrainStage.holding, List.mem_singleton]
              rintro _ rfl
              exact hlane.delayed _ hmember
          · simp only [if_neg hmember]
            exact .of_empty hlane hloop hsame rfl rfl rfl rfl
  | moving record due =>
      have hrecord := hloop.moving record (by simp [DrainStage.holding])
      have hgrows : LaneGrows lane journal (lane.add record) journal :=
        ⟨List.prefix_append _ _, List.Subset.refl _⟩
      refine ⟨⟨fun other hother => ?_, hlane.delayed⟩, rfl,
        ⟨by simp [DrainLoop.poll, DrainStage.runs], by simp [DrainLoop.poll, DrainStage.holding],
          hloop.consumer.mono hgrows⟩,
        hgrows, .promote record rfl rfl rfl rfl (.refl _)⟩
      rcases List.mem_append.mp hother with hold | hnew
      · exact hlane.entries other hold
      · rw [List.mem_singleton.mp hnew]
        exact hrecord
  | reading => exact DrainLoop.reading_spec hlane hloop settings now
  | claiming jobs => exact DrainLoop.claiming_spec hlane hloop settings now
  | running runs =>
      simp only [DrainLoop.poll]
      split
      next hdone =>
        refine .of_empty hlane hloop hsame rfl (List.filter_eq_nil_iff.mpr ?_) rfl rfl
        intro run hrun
        have := List.all_eq_true.mp hdone run hrun
        simp_all [RunStage.isLive]
      next => exact ⟨hlane, rfl, hloop, .refl _ _, .quiet hsame rfl rfl (.refl _)⟩

/-- A move is told by what is held, whatever the order of the batch. -/
theorem LaneMove.perm {taken : List Record} {lane' : Lane} {journal' : Journal}
    {held held' other other' : Holding}
    (hmove : LaneMove taken lane journal held lane' journal' held')
    (hmoving : other.moving = held.moving) (hlive : other.live.Perm held.live)
    (hmoving' : other'.moving = held'.moving) (hlive' : other'.live.Perm held'.live) :
    LaneMove taken lane journal other lane' journal' other' := by
  cases hmove with
  | quiet hlane hjournal hsame hperm =>
      exact .quiet hlane hjournal (hmoving'.trans (hsame.trans hmoving.symm))
        (hlive'.trans (hperm.trans hlive.symm))
  | release record hdelayed hlane hjournal hfree htaken hperm =>
      exact .release record hdelayed hlane hjournal (hmoving.trans hfree) (hmoving'.trans htaken)
        (hlive'.trans (hperm.trans hlive.symm))
  | promote record hlane hjournal htaken hfree hperm =>
      exact .promote record hlane hjournal (hmoving.trans htaken) (hmoving'.trans hfree)
        (hlive'.trans (hperm.trans hlive.symm))
  | read now consumer count hlane hjournal hsame hperm =>
      exact .read now consumer count hlane hjournal (hmoving'.trans (hsame.trans hmoving.symm))
        (hlive'.trans (hperm.trans (hlive.symm.append_right _)))
  | claim now consumer minIdle count hlane htaken hjournal hsame hperm =>
      exact .claim now consumer minIdle count hlane htaken hjournal
        (hmoving'.trans (hsame.trans hmoving.symm))
        (hlive'.trans (hperm.trans (hlive.symm.append_right _)))
  | hand job rest hlane hjournal hsame hmax hroom hbefore hafter =>
      exact .hand job rest hlane hjournal (hmoving'.trans (hsame.trans hmoving.symm)) hmax hroom
        (hlive.trans hbefore) (hlive'.trans hafter)
  | retry job rest entry delay hlane hjournal hentry hsame hbefore hafter =>
      exact .retry job rest entry delay hlane hjournal hentry
        (hmoving'.trans (hsame.trans hmoving.symm)) (hlive.trans hbefore) (hlive'.trans hafter)
  | finish job rest hlane hjournal hsame hbefore hafter =>
      exact .finish job rest hlane hjournal (hmoving'.trans (hsame.trans hmoving.symm))
        (hlive.trans hbefore) (hlive'.trans hafter)
  | cancel job rest hlane hjournal hsame hbefore hafter =>
      exact .cancel job rest hlane hjournal (hmoving'.trans (hsame.trans hmoving.symm))
        (hlive.trans hbefore) (hlive'.trans hafter)
  | acknowledge entry jobId hlane hjournal hentry hfinished hsame hperm =>
      exact .acknowledge entry jobId hlane hjournal hentry hfinished
        (hmoving'.trans (hsame.trans hmoving.symm)) (hlive'.trans (hperm.trans hlive.symm))
  | delay job rest retryAfter due hlane hjournal hsame hbefore hafter =>
      exact .delay job rest retryAfter due hlane hjournal
        (hmoving'.trans (hsame.trans hmoving.symm)) (hlive.trans hbefore) (hlive'.trans hafter)

/-- One job of the batch goes on, the others stay. -/
theorem liveRuns_set {runs : List JobRun} {index : ℕ} {run : JobRun}
    (hat : runs[index]? = some run) (run' : JobRun) :
    (liveRuns runs).Perm (liveRuns [run] ++ liveRuns (runs.eraseIdx index)) ∧
      (liveRuns (runs.set index run')).Perm
        (liveRuns [run'] ++ liveRuns (runs.eraseIdx index)) := by
  obtain ⟨hindex, rfl⟩ := List.getElem?_eq_some_iff.mp hat
  rw [← liveRuns_append, ← liveRuns_append]
  exact ⟨((List.getElem_cons_eraseIdx_perm hindex).symm).filter _,
    (List.set_perm_cons_eraseIdx hindex run').filter _⟩

theorem QueueWorld.change_self (world : QueueWorld) (queue : String) :
    world.change queue (world.server.lanes queue) (world.journal queue) = world := by
  simp [QueueWorld.change, QueueServer.change]

theorem DrainLoop.advance_spec {world : QueueWorld}
    (hlane : (world.server.lanes loop.queue).Filed loop.queue world.drawn)
    (hloop : loop.Valid world.drawn (world.server.lanes loop.queue) (world.journal loop.queue))
    (settings : RedisSettings) (reading : Reading) :
    ∃ lane' journal',
      (loop.advance settings world reading).1 = world.change loop.queue lane' journal' ∧
      LoopSpec (loop.takesOver settings reading.now (world.server.lanes loop.queue)) world.drawn
        (world.server.lanes loop.queue) (world.journal loop.queue) loop lane' journal'
        (loop.advance settings world reading).2 := by
  have hpoll := DrainLoop.poll_spec hlane hloop settings reading.now
  unfold DrainLoop.advance
  split
  next runs index outcome hstage hchoice =>
    split
    next hnone =>
      refine ⟨_, _, (world.change_self loop.queue).symm, hlane, rfl, hloop, .refl _ _, ?_⟩
      exact .quiet ⟨rfl, rfl, rfl, rfl⟩ rfl rfl (.refl _)
    next run hat =>
      have hvalid := hloop.runs run (by
        rw [hstage]
        exact List.mem_of_getElem? hat)
      have hspec := JobRun.advance_spec hlane hvalid hloop.consumer reading.now outcome
      rw [hvalid.queue]
      refine ⟨_, _, rfl, hspec.filed, rfl, ⟨fun other hother => ?_, ?_, hspec.consumer⟩,
        hspec.grows, ?_⟩
      · rcases List.mem_or_eq_of_mem_set hother with hold | rfl
        · exact (hloop.runs other (hstage ▸ hold)).mono le_rfl hspec.grows
        · exact hspec.valid
      · simp [DrainStage.holding]
      · obtain ⟨hbefore, hafter⟩ := liveRuns_set hat
          (run.advance reading.now outcome loop.consumer (world.server.lanes loop.queue)
            (world.journal loop.queue)).1
        refine (hspec.move _ [] (liveRuns (runs.eraseIdx index))).perm ?_ ?_ rfl hafter
        · simp [DrainStage.holding, hstage]
        · simpa [DrainStage.holding, hstage, DrainStage.runs] using hbefore
  next => exact ⟨_, _, rfl, hpoll⟩

end Loops

/-! ## A step of a coroutine -/

def Coroutine.holding (queue : String) : Coroutine → Holding
  | .draining loop => if loop.queue = queue then loop.stage.holding else {}
  | _ => {}

/-- The job an enqueue is about to add to the queue. -/
def Coroutine.pledged (queue : String) : Coroutine → List Job
  | .adding job => if job.queueName = queue then [job] else []
  | _ => []

/-- The records a step takes over from other consumers of the queue. -/
def Coroutine.takesOver (settings : RedisSettings) (world : QueueWorld) (reading : Reading)
    (queue : String) : Coroutine → List Record
  | .draining loop =>
      if loop.queue = queue then
        loop.takesOver settings reading.now (world.server.lanes queue)
      else []
  | _ => []

/-- Everything a step of a coroutine can do to a queue. -/
inductive QueueMove (choice : Choice) (queue : String) (taken : List Record)
    (world : QueueWorld) (coroutine : Coroutine) (world' : QueueWorld)
    (coroutine' : Coroutine) : Prop
  | crash (hchoice : choice = .crash) (hworld : world' = world) (hcoroutine : coroutine' = .ended)
  | rest (hlane : (world.server.lanes queue).SameJobs (world'.server.lanes queue))
      (hjournal : world'.journal queue = world.journal queue) (hdrawn : world.drawn ≤ world'.drawn)
      (hholding : coroutine'.holding queue = coroutine.holding queue)
      (hpledged : coroutine'.pledged queue = coroutine.pledged queue)
  | draw (job : Job) (hlane : world'.server.lanes queue = world.server.lanes queue)
      (hjournal : world'.journal queue = world.journal queue)
      (hdrawn : world'.drawn = world.drawn + 1) (hjob : job.jobId = world.drawn)
      (hfresh : job.attempts = 0)
      (hholding : coroutine'.holding queue = coroutine.holding queue)
      (hpledged : coroutine.pledged queue = []) (hpledged' : coroutine'.pledged queue = [job])
  | add (job : Job)
      (hlane : (world.server.lanes queue).add job.record |>.SameJobs (world'.server.lanes queue))
      (hjournal : world'.journal queue =
        { world.journal queue with added := (world.journal queue).added ++ [job.jobId] })
      (hdrawn : world'.drawn = world.drawn)
      (hholding : coroutine'.holding queue = coroutine.holding queue)
      (hpledged : coroutine.pledged queue = [job]) (hpledged' : coroutine'.pledged queue = [])
  | work (hchoice : choice ≠ .crash) (hdrawn : world'.drawn = world.drawn)
      (hpledged : coroutine'.pledged queue = coroutine.pledged queue)
      (hmove : LaneMove taken (world.server.lanes queue) (world.journal queue)
        (coroutine.holding queue) (world'.server.lanes queue) (world'.journal queue)
        (coroutine'.holding queue))

/-- All records on the server are filed. -/
def QueueWorld.Filed (world : QueueWorld) : Prop :=
  ∀ queue, (world.server.lanes queue).Filed queue world.drawn

def Coroutine.Valid (world : QueueWorld) : Coroutine → Prop
  | .adding job => job.jobId < world.drawn ∧ job.attempts = 0 ∧ job.maxAttempts = 10
  | .draining loop =>
      loop.Valid world.drawn (world.server.lanes loop.queue) (world.journal loop.queue)
  | .enqueueing .. | .added _ | .ended => True

structure QueueWorld.Grows (world world' : QueueWorld) : Prop where
  drawn : world.drawn ≤ world'.drawn
  lanes : ∀ queue, LaneGrows (world.server.lanes queue) (world.journal queue)
    (world'.server.lanes queue) (world'.journal queue)

theorem QueueWorld.Grows.refl (world : QueueWorld) : world.Grows world :=
  ⟨le_rfl, fun _ => .refl _ _⟩

theorem Coroutine.Valid.mono {world world' : QueueWorld} {coroutine : Coroutine}
    (hvalid : coroutine.Valid world) (hgrows : world.Grows world') : coroutine.Valid world' := by
  cases coroutine with
  | adding job => exact ⟨hvalid.1.trans_le hgrows.drawn, hvalid.2⟩
  | draining loop => exact DrainLoop.Valid.mono hvalid hgrows.drawn (hgrows.lanes loop.queue)
  | enqueueing | added | ended => trivial

section Coroutines

variable {world : QueueWorld} {queue other : String} {lane : Lane} {journal : Journal}

@[simp] theorem QueueWorld.change_lanes :
    (world.change queue lane journal).server.lanes queue = lane := by
  simp [QueueWorld.change]

@[simp] theorem QueueWorld.change_journal :
    (world.change queue lane journal).journal queue = journal := by
  simp [QueueWorld.change]

@[simp] theorem QueueWorld.change_drawn :
    (world.change queue lane journal).drawn = world.drawn := rfl

theorem QueueWorld.change_lanes_of_ne (hother : other ≠ queue) :
    (world.change queue lane journal).server.lanes other = world.server.lanes other :=
  QueueServer.change_lanes_of_ne world.server hother fun _ => lane

theorem QueueWorld.change_journal_of_ne (hother : other ≠ queue) :
    (world.change queue lane journal).journal other = world.journal other := by
  simp [QueueWorld.change, Function.update_of_ne hother]

theorem QueueWorld.Filed.change (hworld : world.Filed) (hlane : lane.Filed queue world.drawn) :
    (world.change queue lane journal).Filed := by
  intro other
  by_cases hother : other = queue
  · subst hother
    simpa using hlane
  · rw [QueueWorld.change_lanes_of_ne hother]
    exact hworld other

theorem QueueWorld.Grows.change
    (hgrows : LaneGrows (world.server.lanes queue) (world.journal queue) lane journal) :
    world.Grows (world.change queue lane journal) := by
  refine ⟨le_rfl, fun other => ?_⟩
  by_cases hother : other = queue
  · subst hother
    simpa using hgrows
  · rw [QueueWorld.change_lanes_of_ne hother, QueueWorld.change_journal_of_ne hother]
    exact .refl _ _

/-- A step of a coroutine keeps everything in order and is one of the moves, on
every queue. -/
structure CoroutineSpec (settings : RedisSettings) (reading : Reading) (world : QueueWorld)
    (coroutine : Coroutine) (world' : QueueWorld) (coroutine' : Coroutine) : Prop where
  filed : world'.Filed
  valid : coroutine'.Valid world'
  grows : world.Grows world'
  move : ∀ queue, QueueMove reading.choice queue
    (coroutine.takesOver settings world reading queue) world coroutine world' coroutine'

variable {settings : RedisSettings} {reading : Reading}

/-- A step that changes one queue and holds nothing of any other. -/
theorem QueueMove.of_change {choice : Choice} {coroutine coroutine' : Coroutine}
    {taken : String → List Record}
    (hhere : QueueMove choice queue (taken queue) world coroutine
      (world.change queue lane journal) coroutine')
    (hholding : ∀ other, other ≠ queue →
      coroutine'.holding other = coroutine.holding other ∧
        coroutine'.pledged other = coroutine.pledged other) (other : String) :
    QueueMove choice other (taken other) world coroutine (world.change queue lane journal)
      coroutine' := by
  by_cases hother : other = queue
  · rw [hother]
    exact hhere
  · obtain ⟨hheld, hpledged⟩ := hholding other hother
    refine .rest ?_ (QueueWorld.change_journal_of_ne hother) le_rfl hheld hpledged
    rw [QueueWorld.change_lanes_of_ne hother]
    exact ⟨rfl, rfl, rfl, rfl⟩

theorem Coroutine.draw_spec (hworld : world.Filed) (queue : String) (payload : JsonObject)
    (dedupKey : Option String) (keys : Keyspace) :
    CoroutineSpec settings reading world (.enqueueing queue payload dedupKey)
      (({ world with server := { world.server with dedup := keys } }).draw queue payload
        dedupKey).1
      (({ world with server := { world.server with dedup := keys } }).draw queue payload
        dedupKey).2 where
  filed other := (hworld other).mono (Nat.le_succ _)
  valid := ⟨Nat.lt_succ_self _, rfl, rfl⟩
  grows := ⟨Nat.le_succ _, fun _ => .refl _ _⟩
  move other := by
    by_cases hother : queue = other
    · exact .draw
        { queueName := queue, payload := payload, dedupKey := dedupKey, jobId := world.drawn }
        rfl rfl rfl rfl rfl rfl rfl (by simp [QueueWorld.draw, Coroutine.pledged, hother])
    · exact .rest ⟨rfl, rfl, rfl, rfl⟩ rfl (Nat.le_succ _) rfl
        (by simp [QueueWorld.draw, Coroutine.pledged, hother])

theorem Coroutine.add_spec (hworld : world.Filed) {job : Job}
    (hvalid : (Coroutine.adding job).Valid world) :
    CoroutineSpec settings reading world (.adding job)
      (world.change job.queueName ((world.server.lanes job.queueName).add job.record)
        { world.journal job.queueName with
          added := (world.journal job.queueName).added ++ [job.jobId] })
      (.added job.queueName) := by
  obtain ⟨hdrawn, hattempts, hmax⟩ := hvalid
  have hlane := hworld job.queueName
  refine ⟨hworld.change ⟨fun record hrecord => ?_, hlane.delayed⟩, trivial,
    .change ⟨List.prefix_append _ _, List.Subset.refl _⟩, QueueMove.of_change ?_ ?_⟩
  · rcases List.mem_append.mp hrecord with hold | hnew
    · exact hlane.entries record hold
    · rw [List.mem_singleton.mp hnew]
      exact ⟨rfl, hdrawn, hmax, by simp [Job.record, hattempts]⟩
  · refine .add job ?_ (by simp) rfl rfl (by simp [Coroutine.pledged]) rfl
    rw [QueueWorld.change_lanes]
    exact ⟨rfl, rfl, rfl, rfl⟩
  · intro other hother
    simp [Coroutine.holding, Coroutine.pledged, Ne.symm hother]

theorem Coroutine.drain_spec (hworld : world.Filed) {loop : DrainLoop}
    (hvalid : (Coroutine.draining loop).Valid world) (hchoice : reading.choice ≠ .crash) :
    CoroutineSpec settings reading world (.draining loop)
      (loop.advance settings world reading).1
      (.draining (loop.advance settings world reading).2) := by
  obtain ⟨lane', journal', hchange, hspec⟩ :=
    DrainLoop.advance_spec (hworld loop.queue) hvalid settings reading
  rw [hchange]
  generalize (loop.advance settings world reading).2 = loop' at hspec
  refine ⟨hworld.change hspec.filed, ?_, .change hspec.grows, QueueMove.of_change ?_ ?_⟩
  · simp only [Coroutine.Valid, hspec.queue, QueueWorld.change_lanes, QueueWorld.change_journal]
    exact hspec.valid
  · refine .work hchoice rfl rfl ?_
    simpa [Coroutine.takesOver, Coroutine.holding, hspec.queue] using hspec.move
  · intro other hother
    simp [Coroutine.holding, Coroutine.pledged, hspec.queue, Ne.symm hother]

theorem Coroutine.advance_spec (hworld : world.Filed) {coroutine : Coroutine}
    (hvalid : coroutine.Valid world) (settings : RedisSettings) (reading : Reading) :
    CoroutineSpec settings reading world coroutine (coroutine.advance settings world reading).1
      (coroutine.advance settings world reading).2 := by
  by_cases hcrash : reading.choice = .crash
  · simp only [Coroutine.advance, if_pos hcrash]
    exact ⟨hworld, trivial, .refl world, fun queue => .crash hcrash rfl rfl⟩
  · have hstill : ∀ queue, (world.server.lanes queue).SameJobs (world.server.lanes queue) :=
      fun queue => ⟨rfl, rfl, rfl, rfl⟩
    simp only [Coroutine.advance, if_neg hcrash]
    cases coroutine with
    | enqueueing queue payload dedupKey =>
        cases dedupKey with
        | none => exact Coroutine.draw_spec hworld queue payload none world.server.dedup
        | some key =>
            dsimp only
            split
            · exact Coroutine.draw_spec hworld queue payload (some key) _
            · exact ⟨hworld, trivial, .refl world,
                fun queue => .rest (hstill queue) rfl le_rfl rfl rfl⟩
    | adding job => exact Coroutine.add_spec hworld hvalid
    | added queue =>
        have hlane := hworld queue
        refine ⟨hworld.change ⟨hlane.entries, hlane.delayed⟩, trivial,
          .change (.of_entries rfl (List.Subset.refl _)), QueueMove.of_change ?_ ?_⟩
        · refine .rest ?_ (by simp) le_rfl rfl rfl
          rw [QueueWorld.change_lanes]
          exact ⟨rfl, rfl, rfl, rfl⟩
        · exact fun other _ => ⟨rfl, rfl⟩
    | draining loop => exact Coroutine.drain_spec hworld hvalid hcrash
    | ended =>
        exact ⟨hworld, trivial, .refl world,
          fun queue => .rest (hstill queue) rfl le_rfl rfl rfl⟩

end Coroutines

/-- Whatever the processes do, the server and every coroutine stay in order. -/
theorem processes_preserved (settings : RedisSettings) :
    Preserved (processes settings) (fun _ => True) (fun _ _ _ => True) QueueWorld.Filed
      fun world coroutine => coroutine.Valid world where
  start world request hworld _ := by
    cases request with
    | enqueue => trivial
    | drain queue prefetch consumer =>
        refine ⟨?_, ?_, ?_⟩
        · simp [DrainStage.runs]
        · simp [DrainStage.holding]
        · simp [Consumer.Valid]
  own world reading coroutine hworld hvalid _ :=
    have hspec := Coroutine.advance_spec hworld hvalid settings reading
    ⟨hspec.filed, hspec.valid⟩
  other world reading coroutine bystander hworld hvalid _ hbystander :=
    hbystander.mono (Coroutine.advance_spec hworld hvalid settings reading).grows

/-- The server and all coroutines are in order. -/
abbrev InOrder (pool : Pool QueueWorld Coroutine) : Prop :=
  pool.Holds QueueWorld.Filed fun world coroutine => coroutine.Valid world

theorem next_inOrder {settings : RedisSettings} {pool : Pool QueueWorld Coroutine}
    (hpool : InOrder pool) (turn : Turn QueueRequest Reading) :
    InOrder (next (processes settings).step pool turn) := by
  apply (processes_preserved settings).step pool turn hpool
  cases turn with
  | start request => trivial
  | advance index reading => exact fun _ _ => trivial

theorem idleProcesses_inOrder : InOrder idleProcesses :=
  Pool.holds_of_idle
    (fun queue => ⟨by simp [idleProcesses], by simp [idleProcesses, SortedSet.members]⟩) rfl

end ChmabaPay
