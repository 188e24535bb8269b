import ChmabaPay.Support.Threads

/-! # The queue

The operators' list has high priority first, then what nobody has answered, then the older
request. The priority is the one of the opening, so a request that waits is passed by nobody
who was behind it, whatever becomes of the plans.
-/

namespace ChmabaPay

open Calendar Relational Execution Interleaving

/-! ## Keys -/

/-- What stands no later than an unanswered request: what has the higher priority, and of
its own priority what is unanswered and no younger. -/
theorem queueKey_le_iff {request waiting : SupportRequest}
    (hwaiting : waiting.firstResponseAt = none) :
    request.queueKey ≤ waiting.queueKey ↔ priorityRank waiting < priorityRank request ∨
      priorityRank request = priorityRank waiting ∧ request.firstResponseAt = none ∧
        request.createdAt ≤ waiting.createdAt := by
  unfold SupportRequest.queueKey
  rw [Prod.Lex.toLex_le_toLex, Prod.Lex.toLex_le_toLex, hwaiting]
  cases request.firstResponseAt <;> simp

theorem priorityRank_lt_iff {request waiting : SupportRequest} :
    priorityRank waiting < priorityRank request ↔
      request.priority = .high ∧ waiting.priority = .standard := by
  unfold priorityRank
  cases request.priority <;> cases waiting.priority <;> simp

theorem SupportRequest.Continues.priorityRank {before after : SupportRequest}
    (hcontinues : before.Continues after) : priorityRank after = priorityRank before := by
  rw [ChmabaPay.priorityRank, ChmabaPay.priorityRank, hcontinues.priority]

theorem SupportRequest.Continues.unanswered {before after : SupportRequest}
    (hcontinues : before.Continues after) (hafter : after.firstResponseAt = none) :
    before.firstResponseAt = none := by
  by_contra hbefore
  have hanswered := hcontinues.answered (Option.isSome_iff_ne_none.mpr hbefore)
  rw [hafter] at hanswered
  cases hanswered

/-- Who was behind a request that still waits does not get in front of it. -/
theorem SupportRequest.Continues.queueKey_le {request waiting found later : SupportRequest}
    (hfound : request.Continues found) (hlater : waiting.Continues later)
    (hwaiting : later.firstResponseAt = none) (hle : found.queueKey ≤ later.queueKey) :
    request.queueKey ≤ waiting.queueKey := by
  apply (queueKey_le_iff (hlater.unanswered hwaiting)).mpr
  rcases (queueKey_le_iff hwaiting).mp hle with hrank | ⟨hrank, hunanswered, hcreated⟩
  · rw [hfound.priorityRank, hlater.priorityRank] at hrank
    exact .inl hrank
  · rw [hfound.priorityRank, hlater.priorityRank] at hrank
    rw [hfound.createdAt, hlater.createdAt] at hcreated
    exact .inr ⟨hrank, hfound.unanswered hunanswered, hcreated⟩

/-! ## Requests that are opened later -/

/-- The desk goes on, and what is opened is dated in between. -/
structure SupportDesk.Grows (before after : SupportDesk) : Prop where
  goesOn : before.Extends after
  opened : ∀ requestId request, after.requests.get? requestId = some request →
    before.requests.get? requestId = none →
    before.clock ≤ request.createdAt ∧ request.createdAt ≤ after.clock

theorem SupportDesk.Grows.trans {before middle after : SupportDesk}
    (hfirst : before.Grows middle) (hsecond : middle.Grows after) : before.Grows after := by
  refine ⟨hfirst.goesOn.trans hsecond.goesOn, ?_⟩
  intro requestId request hget hnone
  cases hmiddle : middle.requests.get? requestId with
  | none =>
      obtain ⟨hcreated, hclock⟩ := hsecond.opened requestId request hget hmiddle
      exact ⟨hfirst.goesOn.clock.trans hcreated, hclock⟩
  | some opened =>
      obtain ⟨hcreated, hclock⟩ := hfirst.opened requestId opened hmiddle hnone
      obtain ⟨later, hlater, hcontinues⟩ := hsecond.goesOn.requests requestId opened hmiddle
      obtain rfl := Option.some.inj (hget.symm.trans hlater)
      rw [hcontinues.createdAt]
      exact ⟨hcreated, hclock.trans hsecond.goesOn.clock⟩

/-- Nothing is opened where every row was there before. -/
theorem SupportDesk.Grows.of_rows {before after : SupportDesk} (hextends : before.Extends after)
    (hrows : ∀ requestId request, after.requests.get? requestId = some request →
      ∃ old, before.requests.get? requestId = some old) : before.Grows after := by
  refine ⟨hextends, fun requestId request hget hnone => ?_⟩
  obtain ⟨old, hold⟩ := hrows requestId request hget
  rw [hnone] at hold
  cases hold

theorem SupportDesk.Grows.refl (desk : SupportDesk) : desk.Grows desk :=
  .of_rows (.refl desk) fun _ request hget => ⟨request, hget⟩

section Runs

variable {hashKey : List Char → String} {enableDevGateway : Bool}

theorem SupportPhase.perform_grows (lag : ℕ) (desk : SupportDesk) (phase : SupportPhase) :
    desk.Grows (phase.perform hashKey enableDevGateway lag desk).1 := by
  cases phase with
  | opening accountId publicId priority body =>
      rw [perform]
      split
      next => exact .refl desk
      next =>
        refine ⟨desk.extends_openRequest accountId publicId priority body lag, ?_⟩
        intro requestId request hget hnone
        simp only [openRequest, Table.get?_insert] at hget
        split at hget
        next =>
          obtain rfl := Option.some.inj hget
          exact ⟨le_rfl, (desk.extends_wait lag).clock⟩
        next =>
          rw [hnone] at hget
          cases hget
  | writing requestId loaded change =>
      apply SupportDesk.Grows.of_rows (desk.extends_commit requestId loaded change)
      intro other request hget
      obtain ⟨old, hold, -⟩ := get?_commit hget
      exact ⟨old, hold⟩
  | elsewhere workspace prioritySupport =>
      exact .of_rows (perform_extends lag desk _) fun _ request hget => ⟨request, hget⟩
  | _ => exact .refl desk

theorem grows_next (pool : SupportPool) (turn : Turn DeskRequest DeskReading) :
    pool.shared.Grows (next (supportDesk hashKey enableDevGateway).step pool turn).shared := by
  cases turn with
  | start request => exact .refl pool.shared
  | advance index reading =>
      cases hat : pool.sessions[index]? with
      | none =>
          rw [next_advance_of_none hat]
          exact .refl pool.shared
      | some phase =>
          rw [next_advance_of_some hat]
          have hwait : pool.shared.Grows
              { pool.shared with clock := pool.shared.clock + reading.elapsed } :=
            .of_rows (pool.shared.extends_wait reading.elapsed)
              fun _ request hget => ⟨request, hget⟩
          exact hwait.trans (phase.perform_grows reading.lag _)

theorem grows_run (pool : SupportPool) (turns : List (Turn DeskRequest DeskReading)) :
    pool.shared.Grows (run (supportDesk hashKey enableDevGateway).step pool turns).shared := by
  induction turns generalizing pool with
  | nil => exact .refl pool.shared
  | cons turn rest ih => exact (grows_next pool turn).trans (ih _)

end Runs

/-! ## Targets -/

/-- The target of an account and the class of its new requests are read from the same plan. -/
theorem targetHours_of_priority {desk : SupportDesk} {accountId : ℕ} {priority : SupportPriority}
    (hpriority : priorityForAccount desk accountId = .ok priority) :
    targetHoursForAccount desk accountId = responseTargetHours (decide (priority = .high)) := by
  unfold targetHoursForAccount
  unfold priorityForAccount at hpriority
  cases hplans : supportPlans desk accountId with
  | nil =>
      rw [hplans] at hpriority
      obtain rfl := Except.ok.inj hpriority
      rfl
  | cons plan others =>
      rw [hplans] at hpriority
      cases others with
      | nil =>
          obtain rfl := Except.ok.inj hpriority
          cases plan <;> rfl
      | cons other rest => cases hpriority

/-- An unanswered request does not come back within its target. -/
theorem SupportRequest.Continues.breached {before after : SupportRequest}
    (hcontinues : before.Continues after) {hours : Option ℕ} {now later : Instant}
    (hlater : now ≤ later) (hbreached : targetBreached before hours now = true) :
    targetBreached after hours later = true ∨ after.firstResponseAt.isSome = true := by
  cases hours with
  | none => cases hbreached
  | some hours =>
      simp only [targetBreached, Bool.and_eq_true, decide_eq_true_eq] at hbreached ⊢
      rw [hcontinues.createdAt]
      cases after.firstResponseAt with
      | none => exact .inl ⟨rfl, by linarith [hbreached.2]⟩
      | some answeredAt => exact .inr rfl

/-- In every schedule a target that is missed stays missed until an operator answers. -/
theorem targetBreached_run {hashKey : List Char → String} {enableDevGateway : Bool}
    (pool : SupportPool) (turns : List (Turn DeskRequest DeskReading)) {requestId : ℕ}
    {request : SupportRequest} (hget : pool.shared.requests.get? requestId = some request)
    {hours : Option ℕ} {now later : Instant} (hlater : now ≤ later)
    (hbreached : targetBreached request hours now = true) :
    ∃ found, (run (supportDesk hashKey enableDevGateway).step pool turns).shared.requests.get?
        requestId = some found ∧
      (targetBreached found hours later = true ∨ found.firstResponseAt.isSome = true) := by
  obtain ⟨found, hfound, hcontinues⟩ := (extends_run pool turns).requests requestId request hget
  exact ⟨found, hfound, hcontinues.breached hlater hbreached⟩

/-! ## Positions -/

/-- Whoever is listed in front of a request that still waits was not behind it before, or
was opened since, with the high priority over the standard one or at the very instant. -/
def SupportDesk.KeepsQueue (before after : SupportDesk) : Prop :=
  ∀ requestId waiting later filter front back,
    before.requests.get? requestId = some waiting → later.firstResponseAt = none →
    after.Lists filter (front ++ (requestId, later) :: back) → ∀ other found,
    (other, found) ∈ front →
      (∃ request, before.requests.get? other = some request ∧
        request.queueKey ≤ waiting.queueKey) ∨
      before.requests.get? other = none ∧
        (found.priority = .high ∧ later.priority = .standard ∨ found.createdAt = later.createdAt)

theorem SupportDesk.Lists.get? {desk : SupportDesk} {filter : QueueFilter}
    {rows : List (ℕ × SupportRequest)} (hlists : desk.Lists filter rows) {requestId : ℕ}
    {request : SupportRequest} (hrow : (requestId, request) ∈ rows) :
    desk.requests.get? requestId = some request :=
  (Table.mem_select.mp (hlists.complete.mem_iff.mp hrow)).1

theorem SupportDesk.Grows.keepsQueue {before after : SupportDesk} (hgrows : before.Grows after)
    (hpast : ∀ requestId request, before.requests.get? requestId = some request →
      request.createdAt ≤ before.clock) : before.KeepsQueue after := by
  intro requestId waiting later filter front back hbefore hwaiting hlists other found hfound
  have hget := hlists.get? (List.mem_append_right front List.mem_cons_self)
  have hget' := hlists.get? (List.mem_append_left _ hfound)
  have hle : found.queueKey ≤ later.queueKey :=
    (List.pairwise_append.mp hlists.ordered).2.2 _ hfound _ List.mem_cons_self
  obtain ⟨last, hlast, hlater⟩ := hgrows.goesOn.requests requestId waiting hbefore
  obtain rfl := Option.some.inj (hget.symm.trans hlast)
  cases hother : before.requests.get? other with
  | some request =>
      obtain ⟨last, hlast, hcontinues⟩ := hgrows.goesOn.requests other request hother
      obtain rfl := Option.some.inj (hget'.symm.trans hlast)
      exact .inl ⟨request, rfl, hcontinues.queueKey_le hlater hwaiting hle⟩
  | none =>
      refine .inr ⟨rfl, ?_⟩
      rcases (queueKey_le_iff hwaiting).mp hle with hrank | ⟨-, -, hcreated⟩
      · exact .inl (priorityRank_lt_iff.mp hrank)
      · -- opened since, so it is no older either
        have hsince := (hgrows.opened other found hget' hother).1
        have hearlier := hpast requestId waiting hbefore
        rw [← hlater.createdAt] at hearlier
        exact .inr (le_antisymm hcreated (hearlier.trans hsince))

/-- A request that waits for its first answer is passed by no request that was behind it, in
whatever order merchants and operators are served and whatever becomes of their plans. -/
theorem queue_position_kept (hashKey : List Char → String) (enableDevGateway : Bool)
    (clock : Instant) (workspace : Workspace) (prioritySupport : ℕ → Bool)
    (first rest : List (Turn DeskRequest DeskReading)) :
    (supportRun hashKey enableDevGateway clock workspace prioritySupport first).shared.KeepsQueue
      (supportRun hashKey enableDevGateway clock workspace prioritySupport
        (first ++ rest)).shared := by
  have hreached : (SupportDesk.fresh clock workspace prioritySupport).Grows
      (supportRun hashKey enableDevGateway clock workspace prioritySupport first).shared :=
    grows_run ⟨SupportDesk.fresh clock workspace prioritySupport, []⟩ first
  have hlater : (supportRun hashKey enableDevGateway clock workspace prioritySupport
      first).shared.Grows (supportRun hashKey enableDevGateway clock workspace prioritySupport
        (first ++ rest)).shared := by
    unfold supportRun
    rw [run_append]
    exact grows_run _ rest
  apply hlater.keepsQueue
  intro requestId request hget
  exact (hreached.opened requestId request hget rfl).2

end ChmabaPay
