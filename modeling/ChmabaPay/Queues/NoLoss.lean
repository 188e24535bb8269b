import ChmabaPay.Queues.Moves

/-! # Where a job is

A job that was added and is neither successful nor dead sits in the undelivered
part of the stream, in the pending list or in the delayed set. A retry leaves the
pending list before it enters the delayed set, and leaves the delayed set before
it enters the stream: between the two commands only the process knows it, and a
process that crashes there takes the job with it.
-/

namespace ChmabaPay

open Calendar Redis Execution Interleaving

/-- The job is somewhere in its queue. -/
def Lane.Keeps (lane : Lane) (jobId : ℕ) : Prop :=
  (∃ record ∈ lane.stream.undelivered, record.id = jobId) ∨
    (∃ waiting ∈ lane.stream.pending, lane.Names waiting.entry jobId) ∨
    ∃ record ∈ lane.delayed.members, record.id = jobId

instance (lane : Lane) (jobId : ℕ) : Decidable (lane.Keeps jobId) :=
  inferInstanceAs (Decidable (_ ∨ _ ∨ _))

def RunStage.isDelaying : RunStage → Bool
  | .delaying _ => true
  | _ => false

/-- The job has left one structure of its queue and has not entered the next. -/
def Holding.Carries (held : Holding) (jobId : ℕ) : Prop :=
  (∃ record ∈ held.moving, record.id = jobId) ∨
    ∃ run ∈ held.live, run.stage.isDelaying = true ∧ run.job.jobId = jobId

instance (held : Holding) (jobId : ℕ) : Decidable (held.Carries jobId) :=
  inferInstanceAs (Decidable (_ ∨ _))

def Coroutine.Moves (queue : String) (jobId : ℕ) (coroutine : Coroutine) : Prop :=
  (coroutine.holding queue).Carries jobId

instance (queue : String) (jobId : ℕ) (coroutine : Coroutine) :
    Decidable (coroutine.Moves queue jobId) :=
  inferInstanceAs (Decidable ((coroutine.holding queue).Carries jobId))

/-- No process crashes between the two commands that move a retry. -/
def CrashesIdle (_ : QueueWorld) (reading : Reading) (coroutine : Coroutine) : Prop :=
  reading.choice = .crash → ∀ queue jobId, ¬ coroutine.Moves queue jobId

/-! ## One step -/

section Steps

variable {taken : List Record} {lane lane' : Lane} {journal journal' : Journal}
  {held held' : Holding} {jobId : ℕ}

theorem Lane.SameJobs.keeps (hsame : lane.SameJobs lane') (hkeeps : lane.Keeps jobId) :
    lane'.Keeps jobId := by
  rcases hkeeps with hstream | ⟨waiting, hwaiting, record, hrecord, hid⟩ | hdelayed
  · exact .inl (hsame.undelivered ▸ hstream)
  · exact .inr (.inl ⟨waiting, hsame.pending ▸ hwaiting, record, hsame.entries ▸ hrecord, hid⟩)
  · exact .inr (.inr (hsame.delayed ▸ hdelayed))

theorem Lane.Keeps.add (hkeeps : lane.Keeps jobId) (record : Record) :
    (lane.add record).Keeps jobId := by
  rcases hkeeps with ⟨kept, hkept, hid⟩ | ⟨waiting, hwaiting, hnames⟩ | hdelayed
  · exact .inl ⟨kept, by simp [Lane.add, hkept], hid⟩
  · refine .inr (.inl ⟨waiting, hwaiting, ?_⟩)
    exact hnames.mono (List.prefix_append _ _)
  · exact .inr (.inr hdelayed)

theorem Lane.keeps_add {record : Record} (hid : record.id = jobId) :
    (lane.add record).Keeps jobId :=
  .inl ⟨record, by simp [Lane.add], hid⟩

/-- Acknowledging an entry can only lose the job of that entry. -/
theorem Lane.Keeps.ack (hkeeps : lane.Keeps jobId) {entry : Option ℕ} {acknowledged : ℕ}
    (hentry : ∀ number, entry = some number → lane.Names number acknowledged) :
    (lane.ack entry).Keeps jobId ∨ jobId = acknowledged := by
  cases entry with
  | none => exact .inl hkeeps
  | some number =>
      rcases hkeeps with hstream | ⟨waiting, hwaiting, record, hrecord, hid⟩ | hdelayed
      · exact .inl (.inl hstream)
      · by_cases hnumber : waiting.entry = number
        · obtain ⟨other, hother, hacknowledged⟩ := hentry number rfl
          rw [← hnumber, hrecord] at hother
          obtain rfl := Option.some.inj hother
          exact .inr (hid.symm.trans hacknowledged)
        · refine .inl (.inr (.inl ⟨waiting, ?_, record, hrecord, hid⟩))
          exact List.mem_filter.mpr ⟨hwaiting, decide_eq_true hnumber⟩
      · exact .inl (.inr (.inr hdelayed))

theorem Holding.Carries.of_live (hcarries : held.Carries jobId)
    (hmoving : held'.moving = held.moving)
    (hlive : ∀ run ∈ held.live, run.stage.isDelaying = true → run ∈ held'.live) :
    held'.Carries jobId := by
  rcases hcarries with hrecord | ⟨run, hrun, hstage, hid⟩
  · exact .inl (hmoving ▸ hrecord)
  · exact .inr ⟨run, hlive run hrun hstage, hstage, hid⟩

theorem LaneMove.keeps (hmove : LaneMove taken lane journal held lane' journal' held')
    (hopen : jobId ∉ journal'.finished) (hbefore : lane.Keeps jobId ∨ held.Carries jobId) :
    lane'.Keeps jobId ∨ held'.Carries jobId := by
  cases hmove with
  | quiet hlane hjournal hmoving hlive =>
      rcases hbefore with hkeeps | hcarries
      · exact .inl (hlane.keeps hkeeps)
      · exact .inr (hcarries.of_live hmoving fun run hrun _ => hlive.mem_iff.mpr hrun)
  | release record hdelayed hlane hjournal hfree hmoving hlive =>
      subst hlane
      rcases hbefore with (hstream | hpending | ⟨kept, hkept, hid⟩) | hcarries
      · exact .inl (.inl hstream)
      · exact .inl (.inr (.inl hpending))
      · by_cases hrecord : kept = record
        · exact .inr (.inl ⟨record, by simp [hmoving], hrecord ▸ hid⟩)
        · exact .inl (.inr (.inr
            ⟨kept, SortedSet.mem_members_zrem.mpr ⟨hkept, hrecord⟩, hid⟩))
      · rcases hcarries with ⟨moved, hmoved, -⟩ | ⟨run, hrun, hdelaying⟩
        · simp [hfree] at hmoved
        · exact .inr (.inr ⟨run, hlive.mem_iff.mpr hrun, hdelaying⟩)
  | promote record hlane hjournal hmoving hfree hlive =>
      subst hlane
      rcases hbefore with hkeeps | ⟨moved, hmoved, hid⟩ | ⟨run, hrun, hdelaying⟩
      · exact .inl (hkeeps.add record)
      · rw [hmoving, List.mem_singleton] at hmoved
        exact .inl (Lane.keeps_add (hmoved ▸ hid))
      · exact .inr (.inr ⟨run, hlive.mem_iff.mpr hrun, hdelaying⟩)
  | read now consumer count hlane hjournal hmoving hlive =>
      subst hlane
      rcases hbefore with (⟨record, hrecord, hid⟩ | ⟨waiting, hwaiting, hnames⟩ | hdelayed) |
        hcarries
      · left
        -- the record is handed out, or stays behind what is handed out
        rw [← List.take_append_drop count lane.stream.undelivered, List.mem_append] at hrecord
        rcases hrecord with htaken | hleft
        · obtain ⟨waiting, hwaiting, hentry⟩ :=
            lane.stream.exists_pending_of_read now consumer count htaken
          exact .inr (.inl ⟨waiting, hwaiting, record, hentry, hid⟩)
        · exact .inl ⟨record, by simpa using hleft, hid⟩
      · exact .inl (.inr (.inl ⟨waiting,
          lane.stream.pending_subset_xreadgroup now consumer count hwaiting, hnames⟩))
      · exact .inl (.inr (.inr hdelayed))
      · exact .inr (hcarries.of_live hmoving fun run hrun _ =>
          hlive.mem_iff.mpr (List.mem_append_left _ hrun))
  | claim now consumer minIdle count hlane htaken hjournal hmoving hlive =>
      subst hlane
      rcases hbefore with (hstream | ⟨waiting, hwaiting, hnames⟩ | hdelayed) | hcarries
      · exact .inl (.inl hstream)
      · obtain ⟨claimed, hclaimed, hentry⟩ :=
          lane.stream.exists_pending_xautoclaim now consumer minIdle count hwaiting
        exact .inl (.inr (.inl ⟨claimed, hclaimed, hentry ▸ hnames⟩))
      · exact .inl (.inr (.inr hdelayed))
      · exact .inr (hcarries.of_live hmoving fun run hrun _ =>
          hlive.mem_iff.mpr (List.mem_append_left _ hrun))
  | hand job rest hlane hjournal hmoving hmax hroom hlive hlive' =>
      subst hlane
      refine hbefore.imp_right fun hcarries => hcarries.of_live hmoving ?_
      intro run hrun hstage
      rcases List.mem_cons.mp (hlive.mem_iff.mp hrun) with rfl | hrest
      · cases hstage
      · exact hlive'.mem_iff.mpr (List.mem_cons_of_mem _ hrest)
  | retry job rest entry delay hlane hjournal hentry hmoving hlive hlive' =>
      subst hlane
      have hcarried : jobId = job.jobId → held'.Carries jobId := fun hid =>
        .inr ⟨_, hlive'.mem_iff.mpr List.mem_cons_self, rfl, hid.symm⟩
      rcases hbefore with hkeeps | hcarries
      · exact (hkeeps.ack hentry).imp_right hcarried
      · refine .inr (hcarries.of_live hmoving ?_)
        intro run hrun hstage
        rcases List.mem_cons.mp (hlive.mem_iff.mp hrun) with rfl | hrest
        · cases hstage
        · exact hlive'.mem_iff.mpr (List.mem_cons_of_mem _ hrest)
  | finish job rest hlane hjournal hmoving hlive hlive' =>
      rcases hbefore with hkeeps | hcarries
      · exact .inl (hlane.keeps hkeeps)
      · refine .inr (hcarries.of_live hmoving ?_)
        intro run hrun hstage
        rcases List.mem_cons.mp (hlive.mem_iff.mp hrun) with rfl | hrest
        · cases hstage
        · exact hlive'.mem_iff.mpr hrest
  | cancel job rest hlane hjournal hmoving hlive hlive' =>
      subst hlane
      refine hbefore.imp_right fun hcarries => hcarries.of_live hmoving ?_
      intro run hrun hstage
      rcases List.mem_cons.mp (hlive.mem_iff.mp hrun) with rfl | hrest
      · cases hstage
      · exact hlive'.mem_iff.mpr hrest
  | acknowledge entry acknowledged hlane hjournal hentry hfinished hmoving hlive =>
      subst hlane
      rw [hjournal] at hopen
      rcases hbefore with hkeeps | hcarries
      · refine .inl ((hkeeps.ack ?_).resolve_right fun hid => hopen (hid ▸ hfinished))
        rintro _ ⟨⟩
        exact hentry
      · exact .inr (hcarries.of_live hmoving fun run hrun _ => hlive.mem_iff.mpr hrun)
  | delay job rest retryAfter due hlane hjournal hmoving hlive hlive' =>
      subst hlane
      rcases hbefore with (hstream | hpending | ⟨kept, hkept, hid⟩) | hcarries
      · exact .inl (.inl hstream)
      · exact .inl (.inr (.inl hpending))
      · exact .inl (.inr (.inr ⟨kept, SortedSet.mem_members_zadd.mpr (.inr hkept), hid⟩))
      · rcases hcarries with ⟨moved, hmoved, hid⟩ | ⟨run, hrun, hdelaying, hid⟩
        · exact .inr (.inl ⟨moved, hmoving ▸ hmoved, hid⟩)
        · rcases List.mem_cons.mp (hlive.mem_iff.mp hrun) with rfl | hrest
          · exact .inl (.inr (.inr
              ⟨job.record, SortedSet.mem_members_zadd.mpr (.inl rfl), hid⟩))
          · exact .inr (.inr ⟨run, hlive'.mem_iff.mpr hrest, hdelaying, hid⟩)

theorem LaneMove.added_eq (hmove : LaneMove taken lane journal held lane' journal' held') :
    journal'.added = journal.added := by
  cases hmove <;> simp_all

theorem QueueMove.keeps {choice : Choice} {queue : String} {world world' : QueueWorld}
    {coroutine coroutine' : Coroutine}
    (hmove : QueueMove choice queue taken world coroutine world' coroutine')
    (hcrash : choice = .crash → ¬ coroutine.Moves queue jobId)
    (hadded : jobId ∈ (world'.journal queue).added)
    (hopen : jobId ∉ (world'.journal queue).finished)
    (hbefore : jobId ∈ (world.journal queue).added →
      (world.server.lanes queue).Keeps jobId ∨ coroutine.Moves queue jobId) :
    (world'.server.lanes queue).Keeps jobId ∨ coroutine'.Moves queue jobId := by
  cases hmove with
  | crash hchoice hworld hcoroutine =>
      subst hworld
      exact .inl ((hbefore hadded).resolve_right (hcrash hchoice))
  | rest hlane hjournal hdrawn hholding hpledged =>
      rw [hjournal] at hadded
      unfold Coroutine.Moves at hbefore ⊢
      rw [hholding]
      exact (hbefore hadded).imp_left hlane.keeps
  | draw job hlane hjournal hdrawn hjob hfresh hholding hpledged hpledged' =>
      rw [hjournal] at hadded
      unfold Coroutine.Moves at hbefore ⊢
      rw [hholding, hlane]
      exact hbefore hadded
  | add job hlane hjournal hdrawn hholding hpledged hpledged' =>
      unfold Coroutine.Moves at hbefore ⊢
      rw [hholding]
      simp only [hjournal, List.mem_append, List.mem_singleton] at hadded
      rcases hadded with hold | rfl
      · exact (hbefore hold).imp_left fun hkeeps => hlane.keeps (hkeeps.add _)
      · exact .inl (hlane.keeps (Lane.keeps_add rfl))
  | work hchoice hdrawn hpledged hmove =>
      exact hmove.keeps hopen (hbefore (hmove.added_eq ▸ hadded))

end Steps

/-! ## Runs -/

/-- Every unfinished job is in its queue, or a process is moving it. -/
def JobsKept (pool : Pool QueueWorld Coroutine) : Prop :=
  ∀ queue jobId, jobId ∈ (pool.shared.journal queue).added →
    jobId ∉ (pool.shared.journal queue).finished →
    (pool.shared.server.lanes queue).Keeps jobId ∨
      ∃ coroutine ∈ pool.sessions, coroutine.Moves queue jobId

theorem next_jobsKept {settings : RedisSettings} {pool : Pool QueueWorld Coroutine}
    (hpool : InOrder pool)
    (hkept : JobsKept pool) {turn : Turn QueueRequest Reading}
    (hmeets : Meets (fun _ => True) CrashesIdle pool turn) :
    JobsKept (next (processes settings).step pool turn) := by
  intro queue jobId hadded hopen
  cases turn with
  | start request =>
      refine (hkept queue jobId hadded hopen).imp_right ?_
      rintro ⟨coroutine, hmember, hmoves⟩
      exact ⟨coroutine, List.mem_append_left _ hmember, hmoves⟩
  | advance index reading =>
      cases hat : pool.sessions[index]? with
      | none =>
          rw [next_advance_of_none hat] at hadded hopen ⊢
          exact hkept queue jobId hadded hopen
      | some coroutine =>
          rw [next_advance_of_some hat] at hadded hopen ⊢
          have hspec := Coroutine.advance_spec hpool.1
            (hpool.2 coroutine (List.mem_of_getElem? hat)) settings reading
          have hstillOpen : jobId ∉ (pool.shared.journal queue).finished :=
            fun hfinished => hopen ((hspec.grows.lanes queue).finished hfinished)
          by_cases hcarried : ∃ carrier ∈
              pool.sessions.set index (coroutine.advance settings pool.shared reading).2,
              carrier.Moves queue jobId
          · exact .inr hcarried
          · -- nobody else moves the job, so the coroutine that stepped did or the queue kept it
            have hbefore : jobId ∈ (pool.shared.journal queue).added →
                (pool.shared.server.lanes queue).Keeps jobId ∨
                  coroutine.Moves queue jobId := by
              intro hearlier
              refine (hkept queue jobId hearlier hstillOpen).imp_right ?_
              rintro ⟨carrier, hcarrier, hmoves⟩
              rcases pool.mem_set_or_eq hat hcarrier
                (coroutine.advance settings pool.shared reading).2 with rfl | hstays
              · exact hmoves
              · exact absurd ⟨carrier, hstays, hmoves⟩ hcarried
            rcases (hspec.move queue).keeps
              (fun hchoice => hmeets coroutine hat hchoice queue jobId) hadded hopen
              hbefore with hkeeps | hmoves
            · exact .inl hkeeps
            · exact .inr ⟨_, pool.mem_set_self hat _, hmoves⟩

/-- In every run in which no process crashes between the two commands that move a
retry, at every moment a job that was added, is neither successful nor dead and is
not between these commands is in the stream, in the pending list or in the delayed
set of its queue. -/
theorem added_job_kept (settings : RedisSettings) {turns : List (Turn QueueRequest Reading)}
    (halong : Along (processes settings).step (Meets (fun _ => True) CrashesIdle)
      idleProcesses turns) {queue : String} {jobId : ℕ}
    (hadded : jobId ∈
      ((run (processes settings).step idleProcesses turns).shared.journal queue).added)
    (hopen : jobId ∉
      ((run (processes settings).step idleProcesses turns).shared.journal queue).finished)
    (hidle : ∀ coroutine ∈ (run (processes settings).step idleProcesses turns).sessions,
      ¬ coroutine.Moves queue jobId) :
    ((run (processes settings).step idleProcesses turns).shared.server.lanes queue).Keeps
      jobId := by
  have hkept := (run_invariant_of_along
    (fun pool : Pool QueueWorld Coroutine => InOrder pool ∧ JobsKept pool)
    (Meets (fun _ => True) CrashesIdle)
    (fun pool turn hpool hmeets =>
      ⟨next_inOrder hpool.1 turn, next_jobsKept hpool.1 hpool.2 hmeets⟩)
    ⟨idleProcesses_inOrder, fun queue jobId hadded => by simp [idleProcesses] at hadded⟩ halong).2
  refine (hkept queue jobId hadded hopen).resolve_right ?_
  rintro ⟨coroutine, hmember, hmoves⟩
  exact hidle coroutine hmember hmoves

/-- A job is added, a process reads it, and its first attempt raises. The last
command is the acknowledgement of the entry it came in. -/
def failedAttempt : List (Turn QueueRequest Reading) :=
  [.start (.enqueue "payments.detection" [] none), .advance 0 { now := seconds 100 },
    .advance 0 { now := seconds 100 }, .advance 0 { now := seconds 100 },
    .start (.drain "payments.detection" 1 "worker-1"), .advance 1 { now := seconds 101 },
    .advance 1 { now := seconds 101 }, .advance 1 { now := seconds 101 },
    .advance 1 { now := seconds 101 },
    .advance 1 { now := seconds 101, choice := .task 0 .returns },
    .advance 1 { now := seconds 102, choice := .task 0 .raises }]

/-- The retry is put behind its delay and counted, the loop comes round, moves it
back to the stream three seconds later, and its process crashes. -/
def retriedAttempt : List (Turn QueueRequest Reading) :=
  failedAttempt ++
    [.advance 1 { now := seconds 102, choice := .task 0 .returns },
      .advance 1 { now := seconds 102, choice := .task 0 .returns },
      .advance 1 { now := seconds 103 }, .advance 1 { now := seconds 105 },
      .advance 1 { now := seconds 105 }, .advance 1 { now := seconds 105 },
      .advance 1 { now := seconds 105 }, .advance 1 { now := seconds 105, choice := .crash }]

/-- Nothing of any queue is in the coroutine's hands. -/
def Coroutine.emptyHanded : Coroutine → Bool
  | .draining loop => loop.stage.holding.moving.isEmpty && loop.stage.holding.live.isEmpty
  | _ => true

theorem Coroutine.not_moves_of_emptyHanded {coroutine : Coroutine}
    (hempty : coroutine.emptyHanded = true) (queue : String) (jobId : ℕ) :
    ¬ coroutine.Moves queue jobId := by
  cases coroutine with
  | draining loop =>
      simp only [Coroutine.emptyHanded, Bool.and_eq_true, List.isEmpty_iff] at hempty
      simp only [Coroutine.Moves, Coroutine.holding]
      split <;> simp [Holding.Carries, hempty]
  | enqueueing | adding | added | ended =>
      simp [Coroutine.Moves, Coroutine.holding, Holding.Carries]

/-- Processes crash with empty hands only. -/
def crashesEmptyHanded (pool : Pool QueueWorld Coroutine) : Turn QueueRequest Reading → Bool
  | .start _ => true
  | .advance index reading =>
      decide (reading.choice ≠ .crash) || (pool.sessions[index]?).all Coroutine.emptyHanded

theorem Meets.of_crashesEmptyHanded {pool : Pool QueueWorld Coroutine}
    {turn : Turn QueueRequest Reading} (hcrash : crashesEmptyHanded pool turn = true) :
    Meets (fun _ => True) CrashesIdle pool turn := by
  cases turn with
  | start request => trivial
  | advance index reading =>
      intro coroutine hat hchoice
      have hempty : coroutine.emptyHanded = true := by
        simpa [crashesEmptyHanded, hat, hchoice] using hcrash
      exact coroutine.not_moves_of_emptyHanded hempty

theorem added_job_kept_retried :
    0 ∈ ((run (processes {}).step idleProcesses retriedAttempt).shared.journal
        "payments.detection").added ∧
      0 ∉ ((run (processes {}).step idleProcesses retriedAttempt).shared.journal
        "payments.detection").finished ∧
      ((run (processes {}).step idleProcesses retriedAttempt).shared.server.lanes
        "payments.detection").Keeps 0 := by
  have hadded : 0 ∈ ((run (processes {}).step idleProcesses retriedAttempt).shared.journal
      "payments.detection").added := by decide +kernel
  have hopen : 0 ∉ ((run (processes {}).step idleProcesses retriedAttempt).shared.journal
      "payments.detection").finished := by decide +kernel
  have halong : Along (processes {}).step (Meets (fun _ => True) CrashesIdle) idleProcesses
      retriedAttempt :=
    Along.imp (fun _ _ hcrash => Meets.of_crashesEmptyHanded hcrash)
      (by decide +kernel : Along (processes {}).step
        (fun pool turn => crashesEmptyHanded pool turn = true) idleProcesses retriedAttempt)
  exact ⟨hadded, hopen, added_job_kept {} halong hadded hopen (by decide +kernel)⟩

/-- A process that crashes after the acknowledgement leaves a job that was added,
is neither successful nor dead and is nowhere. -/
theorem added_job_lost :
    0 ∈ ((run (processes {}).step idleProcesses
        (failedAttempt ++ [.advance 1 { now := seconds 102, choice := .crash }])).shared.journal
        "payments.detection").added ∧
      0 ∉ ((run (processes {}).step idleProcesses
        (failedAttempt ++ [.advance 1 { now := seconds 102, choice := .crash }])).shared.journal
        "payments.detection").finished ∧
      ¬ ((run (processes {}).step idleProcesses
        (failedAttempt ++
          [.advance 1 { now := seconds 102, choice := .crash }])).shared.server.lanes
        "payments.detection").Keeps 0 := by
  decide +kernel

end ChmabaPay
