import ChmabaPay.Foundation.LeadsTo
import ChmabaPay.Queues.Lifecycle

/-! # Every job comes to its end

A loop that keeps coming round serves the queue from the front, so a ready job
moves up with every batch; a job behind its delay moves up once its time has come,
because whatever goes behind a delay later is due later. A batch ends before the
next is asked for. Each round uses up an attempt, and there are ten of them.
-/

namespace ChmabaPay

open Calendar

/-- The loop asks for a batch. -/
def Polls (prefetch : ℕ) (bench bench' : Bench) : Prop :=
  ∃ count now, bench.now ≤ now ∧ bench.batch = [] ∧ bench.jobs.Due now count ∧
    (count = 0 → ∀ entry ∈ bench.jobs.waiting.items, bench.now < entry.1) ∧
    bench' =
      { bench with
        now := now
        jobs := (bench.jobs.promote count).skip prefetch
        batch := ((bench.jobs.promote count).ready.take prefetch).map
          fun job => ⟨job, now, false⟩ }

/-- A queue whose loop keeps coming round while time goes on. -/
structure Ongoing (prefetch : ℕ) (states : ℕ → Bench) : Prop where
  sound : (states 0).Sound
  steps : ∀ index, BenchStep prefetch (states index) (states (index + 1))
  polls : ∀ index, ∃ later, index ≤ later ∧ Polls prefetch (states later) (states (later + 1))
  clock : ∀ moment, ∃ index, moment ≤ (states index).now

theorem Ongoing.soundAt {prefetch : ℕ} {states : ℕ → Bench} (hongoing : Ongoing prefetch states)
    (index : ℕ) : (states index).Sound := by
  induction index with
  | zero => exact hongoing.sound
  | succ index ih => exact (hongoing.steps index).sound ih

/-! ## Where a job stands -/

/-- The job has this many calls behind it. -/
def Bench.Called (jobId count : ℕ) (bench : Bench) : Prop :=
  (callsOf bench.calls jobId).length = count

/-- The job stands at this place of the queue. -/
def Bench.ReadyAt (jobId count position : ℕ) (bench : Bench) : Prop :=
  (bench.jobs.ready.map Job.jobId)[position]? = some jobId ∧ bench.Called jobId count

/-- The job stands at this place among those behind their delay. -/
def Bench.WaitingAt (jobId count : ℕ) (due : Instant) (position : ℕ) (bench : Bench) : Prop :=
  (∃ job, bench.jobs.waiting.items[position]? = some (due, job) ∧ job.jobId = jobId) ∧
    bench.Called jobId count

def Bench.InHand (jobId count : ℕ) (bench : Bench) : Prop :=
  jobId ∈ bench.batch.map (fun run => run.job.jobId) ∧ bench.Called jobId count

def Bench.Stored (jobId count : ℕ) (bench : Bench) : Prop :=
  jobId ∈ bench.jobs.all.map Job.jobId ∧ bench.Called jobId count

def Bench.Over (jobId : ℕ) (bench : Bench) : Prop := jobId ∉ bench.unfinished

/-- The job is ready or in the batch. -/
def Bench.Advanced (jobId count : ℕ) (bench : Bench) : Prop :=
  (∃ position, bench.ReadyAt jobId count position) ∨ bench.InHand jobId count

section Steps

variable {prefetch jobId count position : ℕ} {bench bench' : Bench}

/-- A call that ends is of a job in the batch, so the stored ones keep their count. -/
theorem BenchStep.called_stored (hstep : BenchStep prefetch bench bench') (hsound : bench.Sound)
    (hstored : jobId ∈ bench.jobs.all.map Job.jobId) (hcalled : bench.Called jobId count) :
    bench'.Called jobId count := by
  have hne : ∀ {front back : List Running} {job : Job} {deliveredAt : Instant},
      bench.batch = front ++ ⟨job, deliveredAt, true⟩ :: back → job.jobId ≠ jobId :=
    fun hbatch => hsound.ne_of_mem hbatch (List.mem_append_left _ hstored)
  unfold Bench.Called at hcalled ⊢
  cases hstep with
  | wait | enqueue | poll | call => exact hcalled
  | succeed front back job deliveredAt hbatch =>
      rw [← hcalled]
      exact congrArg List.length (callsOf_append_of_ne (hne hbatch))
  | retry front back job deliveredAt delay hbatch hretry =>
      rw [← hcalled]
      exact congrArg List.length (callsOf_append_of_ne (hne hbatch))
  | die front back job deliveredAt hbatch hretry =>
      rw [← hcalled]
      exact congrArg List.length (callsOf_append_of_ne (hne hbatch))

theorem getElem?_append_of_some {α : Type*} {first : List α} {item : α}
    (hat : first[position]? = some item) (second : List α) :
    (first ++ second)[position]? = some item := by
  rw [List.getElem?_append_left (List.getElem?_eq_some_iff.mp hat).1, hat]

/-- A job that was ready before a batch is taken is in the batch or has moved up. -/
theorem take_or_skip (prefetch : ℕ) (now : Instant) {jobs : DelayQueue Job}
    (hat : (jobs.ready.map Job.jobId)[position]? = some jobId) :
    jobId ∈ ((jobs.ready.take prefetch).map fun job => (⟨job, now, false⟩ : Running)).map
        (fun run => run.job.jobId) ∨
      prefetch ≤ position ∧
        ((jobs.skip prefetch).ready.map Job.jobId)[position - prefetch]? = some jobId := by
  rw [List.getElem?_map] at hat
  obtain ⟨job, hjob, rfl⟩ := Option.map_eq_some_iff.mp hat
  rcases Nat.lt_or_ge position prefetch with hlt | hge
  · left
    rw [List.map_map]
    refine List.mem_map.mpr ⟨job, ?_, rfl⟩
    exact List.mem_of_getElem? ((List.getElem?_take_of_lt hlt).trans hjob)
  · right
    refine ⟨hge, ?_⟩
    simp only [DelayQueue.skip, List.getElem?_map, List.getElem?_drop,
      Nat.add_sub_cancel' hge, hjob, Option.map_some]

theorem Bench.ReadyAt.stored (hready : bench.ReadyAt jobId count position) :
    bench.Stored jobId count := by
  refine ⟨?_, hready.2⟩
  rw [DelayQueue.all, List.map_append]
  exact List.mem_append_left _ (List.mem_of_getElem? hready.1)

theorem Polls.ready (hpolls : Polls prefetch bench bench') (hprefetch : 0 < prefetch)
    (hready : bench.ReadyAt jobId count position) :
    bench'.InHand jobId count ∨ ∃ ahead < position, bench'.ReadyAt jobId count ahead := by
  obtain ⟨promoted, now, -, -, -, -, rfl⟩ := hpolls
  have hat : ((bench.jobs.promote promoted).ready.map Job.jobId)[position]? = some jobId := by
    simp only [DelayQueue.promote, List.map_append]
    exact getElem?_append_of_some hready.1 _
  rcases take_or_skip prefetch now hat with htaken | ⟨hge, hskipped⟩
  · exact .inl ⟨htaken, hready.2⟩
  · exact .inr ⟨position - prefetch, by omega, hskipped, hready.2⟩

theorem BenchStep.ready (hstep : BenchStep prefetch bench bench') (hsound : bench.Sound)
    (hprefetch : 0 < prefetch) (hready : bench.ReadyAt jobId count position) :
    bench'.ReadyAt jobId count position ∨ bench'.InHand jobId count ∨
      ∃ ahead < position, bench'.ReadyAt jobId count ahead := by
  have hcalled := hstep.called_stored hsound hready.stored.1 hready.2
  cases hstep with
  | wait | call | succeed | retry | die => exact .inl ⟨hready.1, hcalled⟩
  | enqueue promoted hdue job =>
      refine .inl ⟨?_, hcalled⟩
      simp only [DelayQueue.put, DelayQueue.promote, List.map_append, List.append_assoc]
      exact getElem?_append_of_some hready.1 _
  | poll promoted now hnow hbatch hdue hprogress =>
      exact .inr (Polls.ready ⟨promoted, now, hnow, hbatch, hdue, hprogress, rfl⟩ hprefetch hready)

/-- A job behind its delay joins the queue or moves up by what joined. -/
theorem promote_or_drop (promoted : ℕ) {jobs : DelayQueue Job} {entry : Int × Job}
    (hat : jobs.waiting.items[position]? = some entry) :
    (position < promoted ∧ ∃ place : ℕ, ((jobs.promote promoted).ready.map Job.jobId)[place]? =
        some entry.2.jobId) ∨
      promoted ≤ position ∧
        (jobs.promote promoted).waiting.items[position - promoted]? = some entry := by
  rcases Nat.lt_or_ge position promoted with hlt | hge
  · left
    refine ⟨hlt, List.mem_iff_getElem?.mp (List.mem_map_of_mem (List.mem_append_right _ ?_))⟩
    refine List.mem_map.mpr ⟨entry, ?_, rfl⟩
    exact List.mem_of_getElem? ((List.getElem?_take_of_lt hlt).trans hat)
  · right
    refine ⟨hge, ?_⟩
    simp only [DelayQueue.promote, Agenda.items_drop, List.getElem?_drop,
      Nat.add_sub_cancel' hge, hat]

variable {due : Instant}

theorem Bench.WaitingAt.stored (hwaiting : bench.WaitingAt jobId count due position) :
    bench.Stored jobId count := by
  obtain ⟨⟨job, hjob, rfl⟩, hcalled⟩ := hwaiting
  refine ⟨List.mem_map_of_mem (List.mem_append_right _ ?_), hcalled⟩
  exact List.mem_map_of_mem (List.mem_of_getElem? hjob)

/-- Once its time has come, a job behind its delay moves up with every batch. -/
theorem Polls.waiting (hpolls : Polls prefetch bench bench')
    (hwaiting : bench.WaitingAt jobId count due position) :
    bench'.Advanced jobId count ∨
      ∃ ahead, ahead ≤ position ∧ (due ≤ bench.now → ahead < position) ∧
        bench'.WaitingAt jobId count due ahead := by
  obtain ⟨promoted, now, -, -, -, hprogress, rfl⟩ := hpolls
  obtain ⟨⟨job, hjob, rfl⟩, hcalled⟩ := hwaiting
  rcases promote_or_drop promoted hjob with ⟨hlt, place, hplace⟩ | ⟨hge, hdropped⟩
  · left
    rcases take_or_skip prefetch now hplace with htaken | ⟨-, hskipped⟩
    · exact .inr ⟨htaken, hcalled⟩
    · exact .inl ⟨_, hskipped, hcalled⟩
  · refine .inr ⟨position - promoted, Nat.sub_le _ _, fun hdue => ?_, ⟨job, hdropped, rfl⟩, hcalled⟩
    -- something is due, so something joined
    have hpromoted : promoted ≠ 0 := by
      intro hnone
      exact absurd hdue (not_le.mpr (hprogress hnone _ (List.mem_of_getElem? hjob)))
    omega

theorem BenchStep.waiting (hstep : BenchStep prefetch bench bench') (hsound : bench.Sound)
    (hwaiting : bench.WaitingAt jobId count due position) :
    bench'.Advanced jobId count ∨
      ∃ place, (due ≤ bench.now → place ≤ position) ∧ bench'.WaitingAt jobId count due place := by
  have hcalled := hstep.called_stored hsound hwaiting.stored.1 hwaiting.2
  obtain ⟨⟨job, hjob, hid⟩, hbefore⟩ := hwaiting
  cases hstep with
  | wait | call | succeed | die =>
      exact .inr ⟨position, fun _ => le_rfl, ⟨job, hjob, hid⟩, hcalled⟩
  | enqueue promoted hdue added =>
      rcases promote_or_drop promoted hjob with ⟨-, place, hplace⟩ | ⟨-, hdropped⟩
      · refine .inl (.inl ⟨place, ?_, hcalled⟩)
        simp only [DelayQueue.put, List.map_append]
        exact getElem?_append_of_some (hid ▸ hplace) _
      · exact .inr ⟨position - promoted, fun _ => Nat.sub_le _ _, ⟨job, hdropped, hid⟩, hcalled⟩
  | poll promoted now hnow hbatch hdue hprogress =>
      refine (Polls.waiting ⟨promoted, now, hnow, hbatch, hdue, hprogress, rfl⟩
        ⟨⟨job, hjob, hid⟩, hbefore⟩).imp_right ?_
      rintro ⟨ahead, hle, -, hahead⟩
      exact ⟨ahead, fun _ => hle, hahead⟩
  | retry front back failed deliveredAt delay hbatch hretry =>
      right
      by_cases hdue : due ≤ bench.now
      · have hpos := retryDelay_pos delay
        refine ⟨position, fun _ => le_rfl, ⟨job, ?_, hid⟩, hcalled⟩
        exact Agenda.getElem?_add_of_lt hjob (by simp only; linarith) failed
      · have hmem : (due, job) ∈
            (bench.jobs.waiting.add (bench.now + retryDelay delay) failed).items :=
          Agenda.mem_add.mpr (.inr (List.mem_of_getElem? hjob))
        obtain ⟨place, hplace⟩ := List.mem_iff_getElem?.mp hmem
        exact ⟨place, fun h => absurd h hdue, ⟨job, hplace, hid⟩, hcalled⟩

/-- A job in the batch stays there until its call ends; then it is over or has one
more call behind it. -/
theorem BenchStep.inHand (hstep : BenchStep prefetch bench bench') (hsound : bench.Sound)
    (hheld : bench.InHand jobId count) :
    bench'.InHand jobId count ∨ bench'.Over jobId ∨ bench'.Stored jobId (count + 1) := by
  obtain ⟨hmem, hcalled⟩ := hheld
  -- the end of a call, seen from the job it is of and from the others
  have hfinish : ∀ (call : ProcessCall) {front back : List Running} {job : Job}
      {deliveredAt : Instant}, bench.batch = front ++ ⟨job, deliveredAt, true⟩ :: back →
      call.job = job →
      (job.jobId ≠ jobId ∧ jobId ∈ (front ++ back).map (fun run => run.job.jobId) ∧
        (callsOf (bench.calls ++ [call]) jobId).length = count) ∨
      (job.jobId = jobId ∧ jobId ∉ Bench.unfinished { bench with batch := front ++ back } ∧
        (callsOf (bench.calls ++ [call]) jobId).length = count + 1) := by
    intro call front back job deliveredAt hbatch hjob
    by_cases hid : job.jobId = jobId
    · refine .inr ⟨hid, fun hopened => hsound.ne_of_mem hbatch hopened hid, ?_⟩
      rw [callsOf_append_self (hjob ▸ hid), List.length_append]
      exact congrArg (· + 1) hcalled
    · refine .inl ⟨hid, ?_, ?_⟩
      · rw [hbatch, List.map_append, List.map_cons, List.mem_append, List.mem_cons] at hmem
        rw [List.map_append, List.mem_append]
        rcases hmem with hfront | rfl | hback
        · exact .inl hfront
        · exact absurd rfl hid
        · exact .inr hback
      · rw [callsOf_append_of_ne (hjob ▸ hid)]
        exact hcalled
  cases hstep with
  | wait | enqueue => exact .inl ⟨hmem, hcalled⟩
  | poll promoted now hnow hbatch => simp [hbatch] at hmem
  | call front back job deliveredAt hbatch =>
      refine .inl ⟨?_, hcalled⟩
      simpa [hbatch, Job.tried] using hmem
  | succeed front back job deliveredAt hbatch =>
      rcases hfinish ⟨job, deliveredAt, false, bench.now, 1, 0⟩ hbatch rfl with
        ⟨-, hstays, hsame⟩ | ⟨-, hover, -⟩
      · exact .inl ⟨hstays, hsame⟩
      · exact .inr (.inl hover)
  | die front back job deliveredAt hbatch hretry =>
      rcases hfinish ⟨job, deliveredAt, true, bench.now, 0, 1⟩ hbatch rfl with
        ⟨-, hstays, hsame⟩ | ⟨-, hover, -⟩
      · exact .inl ⟨hstays, hsame⟩
      · exact .inr (.inl hover)
  | retry front back job deliveredAt delay hbatch hretry =>
      rcases hfinish ⟨job, deliveredAt, true, bench.now, 0, 0⟩ hbatch rfl with
        ⟨-, hstays, hsame⟩ | ⟨hid, -, hmore⟩
      · exact .inl ⟨hstays, hsame⟩
      · refine .inr (.inr ⟨?_, hmore⟩)
        rw [← hid]
        exact List.mem_map_of_mem ((bench.jobs.all_defer _ job).mem_iff.mpr List.mem_cons_self)

theorem BenchStep.now_le (hstep : BenchStep prefetch bench bench') : bench.now ≤ bench'.now := by
  cases hstep with
  | wait now hnow => exact hnow
  | poll promoted now hnow => exact hnow
  | enqueue | call | succeed | retry | die => exact le_rfl

theorem BenchStep.queued_subset (hstep : BenchStep prefetch bench bench') :
    bench.queued ⊆ bench'.queued := by
  cases hstep with
  | enqueue => exact List.subset_append_left _ _
  | wait | poll | call | succeed | retry | die => exact List.Subset.refl _

/-- A job that is over is left alone. -/
theorem BenchStep.over (hstep : BenchStep prefetch bench bench')
    (hqueued : jobId ∈ bench.queued.map Job.jobId) (hover : bench.Over jobId) :
    bench'.Over jobId ∧ callsOf bench'.calls jobId = callsOf bench.calls jobId := by
  have hfinish : ∀ (call : ProcessCall) {front back : List Running} {job : Job}
      {deliveredAt : Instant}, bench.batch = front ++ ⟨job, deliveredAt, true⟩ :: back →
      call.job = job →
      jobId ∉ Bench.unfinished { bench with batch := front ++ back } ∧ job.jobId ≠ jobId ∧
        callsOf (bench.calls ++ [call]) jobId = callsOf bench.calls jobId := by
    intro call front back job deliveredAt hbatch hjob
    have hopen := unfinished_batch hbatch
    have hne : job.jobId ≠ jobId := fun hid =>
      hover (hopen.mem_iff.mpr (hid ▸ List.mem_cons_self))
    exact ⟨fun hopened => hover (hopen.mem_iff.mpr (List.mem_cons_of_mem _ hopened)), hne,
      callsOf_append_of_ne (hjob ▸ hne)⟩
  cases hstep with
  | wait => exact ⟨hover, rfl⟩
  | enqueue promoted hdue job hfresh =>
      refine ⟨fun hopened => ?_, rfl⟩
      have hput := (((bench.jobs.promote promoted).all_put job).map Job.jobId).append_right
        (bench.batch.map fun run => run.job.jobId)
      rw [DelayQueue.all_promote] at hput
      rcases List.mem_cons.mp (hput.mem_iff.mp hopened) with rfl | hold
      · exact hfresh hqueued
      · exact hover hold
  | poll promoted now hnow hbatch =>
      refine ⟨fun hopened => hover ?_, rfl⟩
      have hsplit := (bench.jobs.promote promoted).take_append_all_skip prefetch
      rw [DelayQueue.all_promote] at hsplit
      simp only [Bench.unfinished, List.map_map, Function.comp_def, List.mem_append] at hopened ⊢
      rw [← hsplit, List.map_append, List.mem_append]
      tauto
  | call front back job deliveredAt hbatch =>
      refine ⟨fun hopened => hover ?_, rfl⟩
      simpa [Bench.unfinished, hbatch, Job.tried] using hopened
  | succeed front back job deliveredAt hbatch =>
      have hend := hfinish ⟨job, deliveredAt, false, bench.now, 1, 0⟩ hbatch rfl
      exact ⟨hend.1, hend.2.2⟩
  | die front back job deliveredAt hbatch hretry =>
      have hend := hfinish ⟨job, deliveredAt, true, bench.now, 0, 1⟩ hbatch rfl
      exact ⟨hend.1, hend.2.2⟩
  | retry front back job deliveredAt delay hbatch hretry =>
      have hend := hfinish ⟨job, deliveredAt, true, bench.now, 0, 0⟩ hbatch rfl
      refine ⟨fun hopened => ?_, hend.2.2⟩
      have hdefer := ((bench.jobs.all_defer (bench.now + retryDelay delay) job).map
        Job.jobId).append_right ((front ++ back).map fun run => run.job.jobId)
      rcases List.mem_cons.mp (hdefer.mem_iff.mp hopened) with hid | hold
      · exact hend.2.1 hid.symm
      · exact hend.1 hold

end Steps

/-! ## Runs that go on for ever -/

section Runs

variable {prefetch : ℕ} {states : ℕ → Bench}

theorem Ongoing.now_mono (hongoing : Ongoing prefetch states) {index later : ℕ}
    (hlater : index ≤ later) : (states index).now ≤ (states later).now := by
  induction later, hlater using Nat.le_induction with
  | base => exact le_rfl
  | succ later _ ih => exact ih.trans (hongoing.steps later).now_le

variable (hongoing : Ongoing prefetch states)
include hongoing

theorem Ongoing.ready_leadsTo (hprefetch : 0 < prefetch) (jobId count position : ℕ) :
    LeadsTo states (Bench.ReadyAt jobId count position) (Bench.InHand jobId count) := by
  refine LeadsTo.of_rank (Bench.ReadyAt jobId count)
    (fun rank => LeadsTo.of_unless (fun index hready => ?_) fun index => ?_) position
  · rcases (hongoing.steps index).ready (hongoing.soundAt index) hprefetch hready with
      hstays | hheld | hahead
    · exact .inl hstays
    · exact .inr (.inl hheld)
    · exact .inr (.inr hahead)
  · obtain ⟨later, hlater, hpolls⟩ := hongoing.polls index
    exact ⟨later, hlater, fun hready => hpolls.ready hprefetch hready⟩

/-- Once the delay has passed, the job comes into the queue. -/
theorem Ongoing.due_leadsTo (jobId count : ℕ) (due : Instant) (position : ℕ) :
    LeadsTo states (fun bench => bench.WaitingAt jobId count due position ∧ due ≤ bench.now)
      (Bench.Advanced jobId count) := by
  refine LeadsTo.of_rank
    (fun rank (bench : Bench) => bench.WaitingAt jobId count due rank ∧ due ≤ bench.now)
    (fun rank => LeadsTo.of_unless (fun index hwaiting => ?_) fun index => ?_) position
  · have hdue : due ≤ (states (index + 1)).now :=
      hwaiting.2.trans (hongoing.steps index).now_le
    rcases (hongoing.steps index).waiting (hongoing.soundAt index) hwaiting.1 with
      hadvanced | ⟨place, hplace, hstays⟩
    · exact .inr (.inl hadvanced)
    · rcases (hplace hwaiting.2).eq_or_lt with rfl | hlt
      · exact .inl ⟨hstays, hdue⟩
      · exact .inr (.inr ⟨place, hlt, hstays, hdue⟩)
  · obtain ⟨later, hlater, hpolls⟩ := hongoing.polls index
    refine ⟨later, hlater, fun hwaiting => ?_⟩
    refine (hpolls.waiting hwaiting.1).imp_right ?_
    rintro ⟨ahead, -, hahead, hmoved⟩
    exact ⟨ahead, hahead hwaiting.2, hmoved,
      hwaiting.2.trans (hongoing.steps later).now_le⟩

/-- The delay passes. -/
theorem Ongoing.waiting_leadsTo (jobId count : ℕ) (due : Instant) :
    LeadsTo states (fun bench => ∃ position, bench.WaitingAt jobId count due position)
      (Bench.Advanced jobId count) := by
  have hpasses : LeadsTo states (fun bench => ∃ position, bench.WaitingAt jobId count due position)
      fun bench => bench.Advanced jobId count ∨
        ∃ position, bench.WaitingAt jobId count due position ∧ due ≤ bench.now := by
    refine LeadsTo.of_unless (fun index ⟨position, hwaiting⟩ => ?_) fun index => ?_
    · rcases (hongoing.steps index).waiting (hongoing.soundAt index) hwaiting with
        hadvanced | ⟨place, -, hstays⟩
      · exact .inr (.inl hadvanced)
      · exact .inl ⟨place, hstays⟩
    · obtain ⟨reached, hreached⟩ := hongoing.clock due
      refine ⟨max index reached, le_max_left _ _, fun ⟨position, hwaiting⟩ => ?_⟩
      have hdue := hreached.trans (hongoing.now_mono (le_max_right index reached))
      rcases (hongoing.steps _).waiting (hongoing.soundAt _) hwaiting with
        hadvanced | ⟨place, -, hstays⟩
      · exact .inl hadvanced
      · exact .inr ⟨place, hstays, hdue.trans (hongoing.steps _).now_le⟩
  refine hpasses.trans (LeadsTo.or (.of_imp fun _ hadvanced => hadvanced) ?_)
  intro index ⟨position, hwaiting⟩
  exact hongoing.due_leadsTo jobId count due position index hwaiting

theorem Ongoing.stored_leadsTo (hprefetch : 0 < prefetch) (jobId count : ℕ) :
    LeadsTo states (Bench.Stored jobId count) (Bench.InHand jobId count) := by
  have hadvanced : LeadsTo states (Bench.Advanced jobId count) (Bench.InHand jobId count) := by
    refine LeadsTo.or ?_ (.of_imp fun _ hheld => hheld)
    intro index ⟨position, hready⟩
    exact hongoing.ready_leadsTo hprefetch jobId count position index hready
  intro index ⟨hmem, hcalled⟩
  rw [DelayQueue.all, List.map_append, List.mem_append] at hmem
  rcases hmem with hready | hwaiting
  · obtain ⟨position, hposition⟩ := List.mem_iff_getElem?.mp hready
    exact hadvanced index (.inl ⟨position, hposition, hcalled⟩)
  · simp only [List.map_map, List.mem_map, Function.comp_apply] at hwaiting
    obtain ⟨⟨due, job⟩, hentry, hid⟩ := hwaiting
    obtain ⟨position, hposition⟩ := List.mem_iff_getElem?.mp hentry
    exact (hongoing.waiting_leadsTo jobId count due).trans hadvanced index
      ⟨position, ⟨job, hposition, hid⟩, hcalled⟩

/-- A call ends before the next batch is asked for. -/
theorem Ongoing.inHand_leadsTo (jobId count : ℕ) :
    LeadsTo states (Bench.InHand jobId count)
      fun bench => bench.Over jobId ∨ bench.Stored jobId (count + 1) := by
  refine LeadsTo.of_unless
    (fun index hheld => (hongoing.steps index).inHand (hongoing.soundAt index) hheld)
    fun index => ?_
  obtain ⟨later, hlater, promoted, now, -, hbatch, -⟩ := hongoing.polls index
  refine ⟨later, hlater, fun hheld => ?_⟩
  simp [Bench.InHand, hbatch] at hheld

/-- Ten attempts are all there are. -/
theorem Ongoing.stored_leadsTo_over (hprefetch : 0 < prefetch) (jobId remaining : ℕ) :
    ∀ count, 10 ≤ count + remaining →
      LeadsTo states (Bench.Stored jobId count) (Bench.Over jobId) := by
  induction remaining with
  | zero =>
      intro count hcount index ⟨hmem, hcalled⟩
      obtain ⟨job, hjob, rfl⟩ := List.mem_map.mp hmem
      have hroom := ((hongoing.soundAt index).stored job hjob).room
      unfold Bench.Called at hcalled
      omega
  | succ remaining ih =>
      intro count hcount
      exact (hongoing.stored_leadsTo hprefetch jobId count).trans
        ((hongoing.inHand_leadsTo jobId count).trans
          (LeadsTo.or (.of_imp fun _ hover => hover) (ih (count + 1) (by omega))))

/-- Every queued job comes to its end, and its calls are then what they stay. -/
theorem Ongoing.job_ends (hprefetch : 0 < prefetch) {index : ℕ} {job : Job}
    (hjob : job ∈ (states index).queued) :
    ∃ ended calls, Ended 10 calls ∧
      ∀ later, ended ≤ later → callsOf (states later).calls job.jobId = calls := by
  have hqueued : ∀ later, index ≤ later → job ∈ (states later).queued := by
    intro later hlater
    induction later, hlater using Nat.le_induction with
    | base => exact hjob
    | succ later _ ih => exact (hongoing.steps later).queued_subset ih
  have hstored := fun count =>
    hongoing.stored_leadsTo_over hprefetch job.jobId 10 count (Nat.le_add_left 10 count)
  -- wherever the job is now, it leads to its end
  have hover : ∃ later, index ≤ later ∧ (states later).Over job.jobId := by
    by_cases hopen : job.jobId ∈ (states index).unfinished
    · rcases List.mem_append.mp hopen with hmem | hmem
      · exact hstored _ index ⟨hmem, rfl⟩
      · exact (hongoing.inHand_leadsTo job.jobId _).trans
          (LeadsTo.or (.of_imp fun _ hover => hover) (hstored _)) index ⟨hmem, rfl⟩
    · exact ⟨index, le_rfl, hopen⟩
  obtain ⟨ended, hended, hclosed⟩ := hover
  have hstays : ∀ later, ended ≤ later → (states later).Over job.jobId ∧
      callsOf (states later).calls job.jobId = callsOf (states ended).calls job.jobId := by
    intro later hlater
    induction later, hlater using Nat.le_induction with
    | base => exact ⟨hclosed, rfl⟩
    | succ later hle ih =>
        have hmem := List.mem_map_of_mem (f := Job.jobId) (hqueued later (hended.trans hle))
        obtain ⟨hover, hsame⟩ := (hongoing.steps later).over hmem ih.1
        exact ⟨hover, hsame.trans ih.2⟩
  exact ⟨ended, _, (hongoing.soundAt ended).ended job (hqueued ended hended) hclosed,
    fun later hlater => (hstays later hlater).2⟩

end Runs

end ChmabaPay
