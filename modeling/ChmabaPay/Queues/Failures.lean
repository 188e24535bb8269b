import ChmabaPay.Foundation.Walk
import ChmabaPay.Workers.RedisTransport

/-! # Enqueues that fail half-way

An enqueue over the shared server is three commands: the dedup key is taken, the job is
added to the stream, the counter is raised. A command that raises ends the call, and
whoever called it goes on. A key that had been taken by then stays taken, and the next
enqueue with it is turned away.
-/

namespace ChmabaPay

open Calendar Redis

/-- The commands that put a job on its queue. -/
def addWalk (job : Job) : QueueServer → Walk QueueServer :=
  Walk.andThen
    (Walk.step fun server => server.change job.queueName fun lane => lane.add job.record)
    (Walk.step fun server => server.change job.queueName fun lane =>
      lane.count Counters.bumpEnqueued)

/-- `enqueue`, command by command. -/
def enqueueWalk (settings : RedisSettings) (now : Instant) (job : Job) (server : QueueServer) :
    Walk QueueServer :=
  match job.dedupKey with
  | none => addWalk job server
  | some key =>
      let claimed := server.dedup.setNx now key settings.dedupTtl
      Walk.andThen (Walk.step fun server => { server with dedup := claimed.2 })
        (if claimed.1 then addWalk job else Walk.pass) server

/-- A call of `enqueue` by some process. It may raise after some of its commands took
effect. -/
structure EnqueueCall where
  settings : RedisSettings := {}
  now : Instant
  job : Job
  raised : Option ℕ := none

/-- The server after the call. -/
def EnqueueCall.leave (server : QueueServer) (call : EnqueueCall) : QueueServer :=
  (enqueueWalk call.settings call.now call.job server).reached server call.raised

/-- The call adds its job to the stream. -/
def EnqueueCall.Adds (server : QueueServer) (call : EnqueueCall) : Prop :=
  ((call.leave server).lanes call.job.queueName).stream.entries =
    (server.lanes call.job.queueName).stream.entries ++ [call.job.record]

section Commands

variable {server : QueueServer} {call : EnqueueCall} {key : String}

/-- A call that does not raise is `enqueue`. -/
theorem EnqueueCall.leave_eq_enqueue (hcalm : call.raised = none) (consumer : Consumer) :
    call.leave server =
      (RedisTransport.enqueue call.now call.job ⟨call.settings, consumer, server⟩).server := by
  rw [EnqueueCall.leave, Walk.reached_eq_last (by simp [hcalm])]
  unfold enqueueWalk RedisTransport.enqueue RedisTransport.accepts
  have hadd : ∀ server : QueueServer, (addWalk call.job server).last server =
      server.change call.job.queueName fun lane =>
        (lane.add call.job.record).count Counters.bumpEnqueued := by
    intro server
    simp [addWalk, Walk.andThen, Walk.step, Walk.last, QueueServer.change]
  cases call.job.dedupKey with
  | none => exact hadd server
  | some key =>
      simp only [Option.all_some, Option.elim_some]
      rw [Walk.last_andThen rfl, Walk.last_step]
      by_cases hheld : server.dedup.holds call.now key = true
      · simp [Keyspace.setNx, hheld]
      · simp [Keyspace.setNx, hheld, hadd]

/-- Putting a job on its queue takes no key. -/
theorem addWalk_dedup (job : Job) (server : QueueServer) :
    ∀ state ∈ (addWalk job server).states, state.dedup = server.dedup := by
  intro state hstate
  rw [addWalk, Walk.states_andThen rfl] at hstate
  rcases List.mem_append.mp hstate with hadded | hcounted
  · rw [List.mem_singleton.mp hadded, QueueServer.change_dedup]
  · rw [List.mem_singleton.mp hcounted, QueueServer.change_dedup, Walk.last_step,
      QueueServer.change_dedup]

/-- The key is taken by the first command and kept whatever happens after it. -/
theorem EnqueueCall.leave_dedup (hkey : call.job.dedupKey = some key) :
    (call.leave server).dedup = if call.raised = some 0 then server.dedup
      else (server.dedup.setNx call.now key call.settings.dedupTtl).2 := by
  set claimed := server.dedup.setNx call.now key call.settings.dedupTtl with hclaimed
  have hwalk : enqueueWalk call.settings call.now call.job server =
      Walk.andThen (Walk.step fun server => { server with dedup := claimed.2 })
        (if claimed.1 then addWalk call.job else Walk.pass) server := by
    simp only [enqueueWalk, hkey, ← hclaimed]
  have hstates := congrArg Walk.states hwalk
  rw [Walk.states_andThen rfl] at hstates
  have hsteps : (enqueueWalk call.settings call.now call.job server).states ≠ [] := by
    rw [hstates]
    exact List.append_ne_nil_of_left_ne_nil (by simp [Walk.step]) _
  rw [EnqueueCall.leave]
  rcases Walk.reached_cases _ server call.raised hstates with
    ⟨htaken, hreached⟩ | ⟨htaken, -, hreached⟩ | ⟨htaken, hreached⟩
  · rw [hreached, if_pos ((Walk.taken_eq_zero_iff hsteps).mp htaken)]
  · rw [List.mem_singleton.mp hreached, if_neg fun hzero => ?_]
    rw [(Walk.taken_eq_zero_iff hsteps).mpr hzero] at htaken
    exact lt_irrefl 0 htaken
  · rw [if_neg fun hzero => ?_]
    · split at hreached
      · exact addWalk_dedup call.job _ _ hreached
      · cases hreached
    · rw [(Walk.taken_eq_zero_iff hsteps).mpr hzero] at htaken
      exact Nat.not_lt_zero _ htaken

theorem EnqueueCall.leave_dedup_of_none (hkey : call.job.dedupKey = none) :
    (call.leave server).dedup = server.dedup := by
  have hwalk : enqueueWalk call.settings call.now call.job server = addWalk call.job server := by
    simp only [enqueueWalk, hkey]
  rw [EnqueueCall.leave, hwalk]
  rcases Walk.reached_cases (addWalk call.job server) server call.raised
      (List.append_nil _).symm with
    ⟨-, hreached⟩ | ⟨-, -, hreached⟩ | ⟨-, hreached⟩
  · rw [hreached]
  · exact addWalk_dedup call.job server _ hreached
  · cases hreached

/-- Whoever takes another key leaves this one alone. -/
theorem EnqueueCall.leave_holds {later : Instant} (hother : call.job.dedupKey ≠ some key)
    (hnow : call.now ≤ later) :
    (call.leave server).dedup.holds later key = server.dedup.holds later key := by
  cases hkey : call.job.dedupKey with
  | none => rw [EnqueueCall.leave_dedup_of_none hkey]
  | some other =>
      rw [hkey] at hother
      rw [EnqueueCall.leave_dedup hkey]
      split
      · rfl
      · exact Keyspace.holds_setNx_of_ne (fun hsame => hother (congrArg some hsame)) hnow

theorem foldl_leave_holds {later : Instant} {calls : List EnqueueCall}
    (hothers : ∀ call ∈ calls, call.job.dedupKey ≠ some key)
    (hnow : ∀ call ∈ calls, call.now ≤ later) :
    (calls.foldl EnqueueCall.leave server).dedup.holds later key =
      server.dedup.holds later key := by
  induction calls generalizing server with
  | nil => rfl
  | cons call rest ih =>
      rw [List.foldl_cons, ih (fun other hmem => hothers other (List.mem_cons_of_mem _ hmem))
        fun other hmem => hnow other (List.mem_cons_of_mem _ hmem)]
      exact EnqueueCall.leave_holds (hothers call List.mem_cons_self)
        (hnow call List.mem_cons_self)

/-- A call that does not raise adds its job when nobody holds its key. -/
theorem EnqueueCall.adds_iff (hcalm : call.raised = none) (hkey : call.job.dedupKey = some key) :
    call.Adds server ↔ server.dedup.holds call.now key = false := by
  rw [EnqueueCall.Adds, EnqueueCall.leave_eq_enqueue hcalm ⟨"worker", [], fun _ => 0⟩]
  unfold RedisTransport.enqueue RedisTransport.accepts
  rw [hkey, Option.all_some]
  cases server.dedup.holds call.now key with
  | true => simp
  | false => simp [Lane.add, Lane.count]

end Commands

/-- An enqueue that raised does not suppress its retry exactly when its key was not taken,
because the first command had no effect or the key was held already, or when the time to
live is over by the retry. -/
theorem failed_enqueue_retried_iff {server : QueueServer} {key : String}
    {failed retry : EnqueueCall} (others : List EnqueueCall) {commands : ℕ}
    (hkey : failed.job.dedupKey = some key) (hraised : failed.raised = some commands)
    (hsame : retry.job.dedupKey = some key) (hcalm : retry.raised = none)
    (hlater : failed.now ≤ retry.now)
    (hothers : ∀ call ∈ others, call.job.dedupKey ≠ some key ∧ call.now ≤ retry.now)
    (hholder : server.dedup.holds retry.now key = false) :
    retry.Adds (others.foldl EnqueueCall.leave (failed.leave server)) ↔
      commands = 0 ∨ server.dedup.holds failed.now key = true ∨
        failed.now + failed.settings.dedupTtl ≤ retry.now := by
  rw [EnqueueCall.adds_iff hcalm hsame,
    foldl_leave_holds (fun call hcall => (hothers call hcall).1)
      fun call hcall => (hothers call hcall).2,
    EnqueueCall.leave_dedup hkey, hraised]
  by_cases hnone : commands = 0
  · rw [if_pos (congrArg some hnone), hholder]
    exact iff_of_true rfl (.inl hnone)
  rw [if_neg fun hzero => hnone (Option.some.inj hzero), or_iff_right hnone]
  cases htaken : server.dedup.holds failed.now key with
  | true =>
      rw [Keyspace.setNx, if_pos htaken, hholder]
      exact iff_of_true rfl (.inl rfl)
  | false =>
      rw [Keyspace.holds_setNx_self htaken hlater, decide_eq_false_iff_not, not_lt]
      exact (or_iff_right (by simp)).symm

namespace Specimen

/-- A delivery is enqueued under its key, and the connection breaks after one command. -/
def brokenEnqueue : EnqueueCall where
  now := seconds 60
  job := { queueName := "webhook", payload := [], dedupKey := some "send:1:1", jobId := 1 }
  raised := some 1

/-- The same delivery some seconds later. -/
def retryAt (count : ℕ) : EnqueueCall where
  now := seconds count
  job := { queueName := "webhook", payload := [], dedupKey := some "send:1:1", jobId := 2 }

end Specimen

/-- Once the key has lapsed the retry goes through. -/
theorem failed_enqueue_retried_next_hour :
    (Specimen.retryAt 3660).Adds (Specimen.brokenEnqueue.leave {}) :=
  (failed_enqueue_retried_iff [] rfl rfl rfl rfl (by decide) (by simp) rfl).mpr
    (.inr (.inr (by decide)))

/-- A second later it is turned away, and the job is on no queue. -/
theorem failed_enqueue_suppressed :
    ¬ (Specimen.retryAt 61).Adds (Specimen.brokenEnqueue.leave {}) ∧
      ((Specimen.brokenEnqueue.leave {}).lanes "webhook").stream.entries = [] := by
  refine ⟨fun hadds => ?_, by decide +kernel⟩
  have hnone : (((Specimen.retryAt 61).leave (Specimen.brokenEnqueue.leave {})).lanes
      "webhook").stream.entries = [] := by decide +kernel
  change (((Specimen.retryAt 61).leave (Specimen.brokenEnqueue.leave {})).lanes
    "webhook").stream.entries = _ ++ [_] at hadds
  rw [hnone] at hadds
  simp at hadds

end ChmabaPay
