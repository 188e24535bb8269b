import ChmabaPay.Billing.Deferral
import ChmabaPay.Billing.Replacements

/-! # Deferral and downgrades

The quota is deferred for the sake of a merchant who steps down to a smaller plan, but what
the code asks is whether a subscription to a paid plan was canceled this month. The history
of an account is watched here beside its tables: the plan in force, and the one it took the
place of. The two agree in every state of a history exactly when whatever takes the place of
a paid plan is smaller, nothing but further steps down follows it in its month, and neither a
reinstatement nor an abandoned purchase of a paid plan falls outside such a month.
-/

namespace ChmabaPay

open Calendar Relational Execution

/-! ## The plan in force and the one before it -/

/-- The plan of the subscription in force. -/
def planInForce (tables : Tables) (accountId : ℕ) : Option ℕ :=
  (tables.subscriptions.find? fun _ row => decide (row.accountId = accountId) && row.isLive).map
    fun found => found.2.planId

/-- What a history says of an account's plans. A plan that took the place of nothing still
stands for the one that was given up before. -/
structure Tenure where
  plan : Option ℕ := none
  givenUp : Option (ℕ × Instant) := none
deriving DecidableEq

def Tenure.observe (now : Instant) (plan : Option ℕ) (tenure : Tenure) : Tenure :=
  if plan = tenure.plan then tenure
  else { plan, givenUp := (tenure.plan.map fun old => (old, now)) <|> tenure.givenUp }

/-- In the month of the instant a paid plan was replaced by a smaller one or by none, and
what replaced it is still in force. -/
def Tenure.SteppedDown (plans : Table Plan) (moment : Instant) (tenure : Tenure) : Prop :=
  ∃ left ∈ tenure.givenUp, ∃ old ∈ plans.get? left.1,
    0 < old.monthlyFeeCents ∧ monthStart moment ≤ left.2 ∧ left.2 < nextMonthStart moment ∧
      ∀ new ∈ tenure.plan.bind plans.get?,
        new.basePaymentsIncluded < old.basePaymentsIncluded

instance (plans : Table Plan) (moment : Instant) (tenure : Tenure) :
    Decidable (tenure.SteppedDown plans moment) := by
  unfold Tenure.SteppedDown
  infer_instance

/-- A world, and what the history so far says of one account. -/
structure Watched where
  world : World
  tenure : Tenure

/-- One operation of the platform, watched. -/
def watch (settings : Settings) (accountId : ℕ) (watched : Watched) (input : Timed) :
    Watched × Except Failure Response :=
  let stepped := step settings watched.world input
  ({ world := stepped.1
     tenure := watched.tenure.observe stepped.1.clock
       (planInForce stepped.1.db.tables accountId) }, stepped.2)

/-- From now on the quota is deferred at an instant exactly when the account stepped down in
the month of the instant. -/
def Watched.DefersRightly (accountId : ℕ) (watched : Watched) : Prop :=
  ∀ moment, watched.world.clock ≤ moment →
    ((quotaDeferredUntil moment watched.world.db.tables accountId).isSome = true ↔
      watched.tenure.SteppedDown watched.world.db.tables.plans moment)

/-! ## Steps down -/

def PaidPlan (plans : Table Plan) (planId : ℕ) : Prop :=
  ∃ plan ∈ plans.get? planId, 0 < plan.monthlyFeeCents

/-- From a paid plan to a smaller one, or to none. -/
def IsStepDown (plans : Table Plan) (old : ℕ) (target : Option ℕ) : Prop :=
  ∃ plan ∈ plans.get? old, 0 < plan.monthlyFeeCents ∧
    ∀ smaller ∈ target.bind plans.get?, smaller.basePaymentsIncluded < plan.basePaymentsIncluded

instance (plans : Table Plan) (old : ℕ) (target : Option ℕ) :
    Decidable (IsStepDown plans old target) := by
  unfold IsStepDown
  infer_instance

/-- What may take the place of the plan in force at an instant. A paid plan may be replaced by
a smaller one; by itself, only while the account stands stepped down. Where a paid plan was
given up for none this month, the next one is smaller. -/
def Tenure.MayTurnTo (plans : Table Plan) (now : Instant) (tenure : Tenure)
    (target : Option ℕ) : Prop :=
  match tenure.plan with
  | none => tenure.SteppedDown plans now → ∃ left ∈ tenure.givenUp, IsStepDown plans left.1 target
  | some old =>
      if target = some old then PaidPlan plans old → tenure.SteppedDown plans now
      else PaidPlan plans old ∨ tenure.SteppedDown plans now → IsStepDown plans old target

/-- An operation that goes through puts in force what may take the place of the plan there is,
and retires a parked purchase of a paid plan only while the account stands stepped down. -/
def OnlyStepsDown (settings : Settings) (accountId : ℕ) (watched : Watched) (input : Timed) :
    Prop :=
  let tables := watched.world.db.tables
  let now := input.moment watched.world
  (∃ response, (step settings watched.world input).2 = .ok response) →
    (∀ target, input.op.Replaces settings now tables accountId target →
      watched.tenure.MayTurnTo tables.plans now target) ∧
    ∀ planId, input.op.Retires now tables accountId planId → PaidPlan tables.plans planId →
      watched.tenure.SteppedDown tables.plans now

/-- Between the two states a subscription of the account to a paid plan is canceled. -/
def CancelsPaid (before after : Tables) (accountId : ℕ) : Prop :=
  ∃ planId, PaidPlan after.plans planId ∧ before.book.Ends after.book accountId planId

/-! ## Cancellations in the book -/

/-- How a row of a subscription goes on: it is canceled at this instant, or its cancellation
is as it was. -/
def PlanSubscription.Ends (now : Instant) (old new : PlanSubscription) : Prop :=
  (new.status = .canceled ↔ old.status = .canceled) ∧ new.canceledAt = old.canceledAt ∨
    old.status ≠ .canceled ∧ new.status = .canceled ∧ new.canceledAt = some now

namespace PlanSubscription.Ends

variable {now : Instant} {old middle new : PlanSubscription}

theorem refl (row : PlanSubscription) : row.Ends now row := .inl ⟨Iff.rfl, rfl⟩

theorem trans (hfirst : old.Ends now middle) (hsecond : middle.Ends now new) :
    old.Ends now new := by
  rcases hfirst with ⟨hstatus, hsame⟩ | ⟨hrunning, hcanceled, hat⟩
  · rcases hsecond with ⟨hstatus', hsame'⟩ | ⟨hrunning, hcanceled, hat⟩
    · exact .inl ⟨hstatus'.trans hstatus, hsame'.trans hsame⟩
    · exact .inr ⟨fun hold => hrunning (hstatus.mpr hold), hcanceled, hat⟩
  · rcases hsecond with ⟨hstatus', hsame'⟩ | ⟨hrunning', -, -⟩
    · exact .inr ⟨hrunning, hstatus'.mpr hcanceled, hsame'.trans hat⟩
    · exact absurd hcanceled hrunning'

theorem cancel (hrunning : old.status ≠ .canceled) : old.Ends now (old.cancel now) :=
  .inr ⟨hrunning, rfl, rfl⟩

theorem activated (row : PlanSubscription) (periodEnd : Instant) :
    row.Ends now { Book.activated now row with nextBillingAt := periodEnd } := by
  by_cases hpending : row.status = .pending
  · refine .inl ⟨?_, ?_⟩ <;> simp [Book.activated, hpending]
  · refine .inl ⟨?_, ?_⟩ <;> simp [Book.activated, hpending]

/-- The choice between canceling a row and leaving it alone. -/
theorem ite (condition : Prop) [Decidable condition] (row : PlanSubscription)
    (hrunning : condition → row.status ≠ .canceled) :
    row.Ends now (if condition then row.cancel now else row) := by
  split
  next hcondition => exact cancel (hrunning hcondition)
  next => exact refl row

end PlanSubscription.Ends

section Book

variable {occasion : Occasion} {before after : Book}

/-- A move cancels subscriptions that were not canceled, at its own instant, and leaves the
cancellations there are alone. -/
theorem Move.subscription_ends (hmove : Move occasion before after) {key : ℕ}
    {row : PlanSubscription} (hrow : before.subscriptions key = some row) :
    ∃ row', after.subscriptions key = some row' ∧ row.Ends occasion.now row' := by
  cases hmove with
  | withdraw | raise | collect => exact ⟨row, by simpa using hrow, .refl row⟩
  | retire keep hkeep =>
      refine ⟨_, by rw [Book.retireWhere_subscriptions, hrow]; rfl, .ite _ row fun hselected => ?_⟩
      rcases hkeep key row hrow hselected with hlive | ⟨habandoned, -⟩
      · exact PlanSubscription.ne_canceled_of_isLive hlive
      · rw [habandoned.1]
        nofun
  | openLive new _ hfresh | park new _ _ _ hfresh =>
      have hne : key ≠ new := fun heq => by simp [heq, hfresh] at hrow
      exact ⟨row, by simp [hne, hrow], .refl row⟩
  | grant invoiceKey invoice granted bought start status paidAt hinvoice hbought =>
      rw [Book.cover_subscriptions, Book.putInvoice_subscriptions, hrow]
      refine ⟨_, rfl, ?_⟩
      by_cases heq : key = granted
      · subst heq
        obtain rfl := Option.some.inj (hrow.symm.trans hbought)
        beta_reduce
        rw [if_pos rfl]
        exact .activated row _
      · beta_reduce
        rw [if_neg heq]
        exact .ite _ row fun hreplaced => PlanSubscription.ne_canceled_of_isLive hreplaced.2.2
  | regrant lapsedKey lapsed start paymentId oldKey old new opened grantedKey granted
      hlapsed hunpaid hcovers hold hsettles hlate hfresh =>
      have hne : key ≠ new := fun heq => by simp [heq, hfresh] at hrow
      rw [Book.putInvoice_subscriptions, Book.putInvoice_subscriptions,
        Book.putSubscription_subscriptions, if_neg hne, Book.retireWhere_subscriptions, hrow]
      refine ⟨_, rfl, .ite _ row fun hselected => ?_⟩
      exact PlanSubscription.ne_canceled_of_isLive (Bool.and_eq_true_iff.mp hselected).2

/-- No move starts with a canceled subscription. -/
theorem Move.fresh_runs (hmove : Move occasion before after) {key : ℕ} {row : PlanSubscription}
    (hfresh : before.subscriptions key = none) (hrow : after.subscriptions key = some row) :
    row.status ≠ .canceled := by
  cases hmove with
  | withdraw | raise | collect => simp [hfresh] at hrow
  | retire | grant => simp [hfresh] at hrow
  | openLive new opened _ hstatus =>
      by_cases heq : key = new
      · obtain rfl : opened = row := by simpa [heq] using hrow
        rw [hstatus]
        nofun
      · simp [heq, hfresh] at hrow
  | park new parked _ _ _ hstatus =>
      by_cases heq : key = new
      · obtain rfl : parked = row := by simpa [heq] using hrow
        rw [hstatus]
        nofun
      · simp [heq, hfresh] at hrow
  | regrant _ _ _ _ _ _ new opened _ _ _ _ _ _ _ _ _ hstatus =>
      by_cases heq : key = new
      · obtain rfl : opened = row := by simpa [heq] using hrow
        rw [hstatus]
        nofun
      · simp [heq, hfresh] at hrow

theorem Moves.subscription_ends (hmoves : Moves occasion before after) {key : ℕ}
    {row : PlanSubscription} (hrow : before.subscriptions key = some row) :
    ∃ row', after.subscriptions key = some row' ∧ row.Ends occasion.now row' := by
  induction hmoves with
  | refl => exact ⟨row, hrow, .refl row⟩
  | tail _ hmove ih =>
      obtain ⟨middle, hmiddle, hends⟩ := ih
      obtain ⟨row', hrow', hends'⟩ := hmove.subscription_ends hmiddle
      exact ⟨row', hrow', hends.trans hends'⟩

/-- A subscription that started on this occasion and is canceled by now was canceled on it. -/
theorem Moves.fresh_canceledAt (hmoves : Moves occasion before after) {key : ℕ}
    {row : PlanSubscription} (hfresh : before.subscriptions key = none)
    (hrow : after.subscriptions key = some row) (hcanceled : row.status = .canceled) :
    row.canceledAt = some occasion.now := by
  induction hmoves generalizing row with
  | refl =>
      rw [hfresh] at hrow
      cases hrow
  | @tail middle _ _ hmove ih =>
      cases hmiddle : middle.subscriptions key with
      | none => exact absurd hcanceled (hmove.fresh_runs hmiddle hrow)
      | some earlier =>
          obtain ⟨row', hrow', hends⟩ := hmove.subscription_ends hmiddle
          obtain rfl := Option.some.inj (hrow'.symm.trans hrow)
          rcases hends with ⟨hstatus, hsame⟩ | ⟨-, -, hat⟩
          · exact hsame.trans (ih hmiddle (hstatus.mp hcanceled))
          · exact hat

end Book

/-! ## One operation -/

section Steps

variable (settings : Settings) {accountId : ℕ}

/-- Each subscription of a step goes on, keeps its account and plan, and is canceled by it
or keeps the cancellation it has. -/
theorem step_ends {world : World} (hworld : world.Wellformed) (input : Timed) {key : ℕ}
    {row : PlanSubscription} (hrow : world.db.tables.subscriptions.get? key = some row) :
    ∃ row', (next (step settings) world input).db.tables.subscriptions.get? key = some row' ∧
      row.Evolves row' ∧ row.Ends (input.moment world) row' := by
  rcases step_moves settings hworld input with ⟨-, hdb⟩ | ⟨response, -, -, hmoves, -, -⟩
  · exact ⟨row, by rw [hdb]; exact hrow, .refl row, .refl row⟩
  · obtain ⟨row', hrow', hevolves⟩ := Moves.subscription_persists hmoves hrow
    obtain ⟨found, hfound, hends⟩ := Moves.subscription_ends hmoves hrow
    obtain rfl := Option.some.inj (hfound.symm.trans hrow')
    exact ⟨found, hrow', hevolves, hends⟩

theorem step_fresh_canceledAt {world : World} (hworld : world.Wellformed) (input : Timed)
    {key : ℕ} {row : PlanSubscription}
    (hfresh : world.db.tables.subscriptions.get? key = none)
    (hrow : (next (step settings) world input).db.tables.subscriptions.get? key = some row)
    (hcanceled : row.status = .canceled) : row.canceledAt = some (input.moment world) := by
  rcases step_moves settings hworld input with ⟨-, hdb⟩ | ⟨response, -, -, hmoves, -, -⟩
  · rw [hdb, hfresh] at hrow
    cases hrow
  · exact Moves.fresh_canceledAt hmoves hfresh hrow hcanceled

theorem step_plans {world : World} (hworld : world.Wellformed) (input : Timed) :
    (next (step settings) world input).db.tables.plans = world.db.tables.plans := by
  rcases step_moves settings hworld input with ⟨-, hdb⟩ | ⟨response, -, -, -, -, hkeeps⟩
  · rw [hdb]
  · exact hkeeps.plans

/-- A canceled subscription was canceled by the step, or it was so before it and as long ago. -/
theorem step_canceled_cases {world : World} (hworld : world.Wellformed) (input : Timed)
    {key : ℕ} {row' : PlanSubscription}
    (hrow' : (next (step settings) world input).db.tables.subscriptions.get? key = some row')
    (hcanceled : row'.status = .canceled) :
    (∃ row, world.db.tables.subscriptions.get? key = some row ∧ row.status = .canceled ∧
        row.canceledAt = row'.canceledAt ∧ row.accountId = row'.accountId ∧
        row.planId = row'.planId) ∨
      row'.canceledAt = some (input.moment world) ∧
        ∀ row, world.db.tables.subscriptions.get? key = some row → row.status ≠ .canceled := by
  cases hbefore : world.db.tables.subscriptions.get? key with
  | none => exact .inr ⟨step_fresh_canceledAt settings hworld input hbefore hrow' hcanceled, nofun⟩
  | some row =>
      obtain ⟨found, hfound, hevolves, hends⟩ := step_ends settings hworld input hbefore
      obtain rfl := Option.some.inj (hfound.symm.trans hrow')
      rcases hends with ⟨hstatus, hsame⟩ | ⟨hrunning, -, hat⟩
      · exact .inl ⟨row, rfl, hstatus.mp hcanceled, hsame.symm, hevolves.account.symm,
          hevolves.plan.symm⟩
      · refine .inr ⟨hat, fun earlier hearlier => ?_⟩
        rw [← Option.some.inj hearlier]
        exact hrunning

/-- What counts this month after a step: what it cancels itself, and what counted before. -/
theorem downgradedThisMonth_next {world : World} (hworld : world.Wellformed) (input : Timed) :
    downgradedThisMonth (input.moment world) (next (step settings) world input).db.tables
        accountId = true ↔
      CancelsPaid world.db.tables (next (step settings) world input).db.tables accountId ∨
        downgradedThisMonth (input.moment world) world.db.tables accountId = true := by
  have hplans := step_plans settings hworld input
  simp only [downgradedThisMonth_iff]
  constructor
  · rintro ⟨⟨key, row', plan⟩, hmem, haccount, hcanceled, hfee, canceledAt, hat, hsince⟩
    obtain ⟨hrow', hplan⟩ := mem_subscriptionPlans.mp hmem
    rcases step_canceled_cases settings hworld input hrow' hcanceled with
      ⟨row, hrow, hstatus, hsame, haccount', hplanId⟩ | ⟨-, hrunning⟩
    · refine .inr ⟨(key, row, plan), mem_subscriptionPlans.mpr ⟨hrow, ?_⟩,
        haccount'.trans haccount, hstatus, hfee, canceledAt, hsame.trans hat, hsince⟩
      rw [hplanId, ← hplans]
      exact hplan
    · exact .inl ⟨row'.planId, ⟨plan, hplan, hfee⟩, key, row', hrow', haccount, rfl, hcanceled,
        hrunning⟩
  · rintro (⟨_, ⟨plan, hplan, hfee⟩, key, row', hrow', haccount, rfl, hcanceled, hrunning⟩ |
      ⟨⟨key, row, plan⟩, hmem, haccount, hcanceled, hfee, canceledAt, hat, hsince⟩)
    · refine ⟨(key, row', plan), mem_subscriptionPlans.mpr ⟨hrow', hplan⟩, haccount, hcanceled,
        hfee, input.moment world, ?_, monthStart_le _⟩
      rcases step_canceled_cases settings hworld input hrow' hcanceled with
        ⟨row, hrow, hstatus, -⟩ | ⟨hnow, -⟩
      · exact absurd hstatus (hrunning row hrow)
      · exact hnow
    · obtain ⟨hrow, hplan⟩ := mem_subscriptionPlans.mp hmem
      obtain ⟨row', hrow', hevolves, hends⟩ := step_ends settings hworld input hrow
      rcases hends with ⟨hstatus, hsame⟩ | ⟨hrunning, -⟩
      · refine ⟨(key, row', plan), mem_subscriptionPlans.mpr ⟨hrow', ?_⟩,
          hevolves.account.trans haccount, hstatus.mpr hcanceled, hfee, canceledAt,
          hsame.trans hat, hsince⟩
        rw [hplans, hevolves.plan]
        exact hplan
      · exact absurd hcanceled hrunning

end Steps

/-! ## What is watched -/

/-- The plan of the one subscription of the account that is in force. -/
theorem planInForce_eq_some_iff {world : World} (hworld : world.Wellformed)
    {accountId planId : ℕ} : planInForce world.db.tables accountId = some planId ↔
      world.book.HasInForce accountId planId := by
  unfold planInForce
  constructor
  · intro hplan
    obtain ⟨⟨key, row⟩, hfound, rfl⟩ := Option.map_eq_some_iff.mp hplan
    obtain ⟨hrow, hkeep⟩ := Table.find?_eq_some hfound
    obtain ⟨haccount, hlive⟩ := Bool.and_eq_true_iff.mp hkeep
    exact ⟨key, row, hrow, of_decide_eq_true haccount, hlive, rfl⟩
  · rintro ⟨key, row, hrow, haccount, hlive, rfl⟩
    cases hfound : world.db.tables.subscriptions.find? fun _ row =>
        decide (row.accountId = accountId) && row.isLive with
    | none =>
        have hidle := Table.find?_eq_none_iff.mp hfound key row hrow
        simp [haccount, hlive] at hidle
    | some found =>
        obtain ⟨hrow', hkeep⟩ := Table.find?_eq_some hfound
        obtain ⟨haccount', hlive'⟩ := Bool.and_eq_true_iff.mp hkeep
        -- the book holds one subscription in force for each account
        have hsame : found.1 = key := by
          by_contra hne
          have hidle := hworld.live key row hrow hlive found.1 found.2 hrow' hne
            ((of_decide_eq_true haccount').trans haccount.symm)
          rw [hidle] at hlive'
          cases hlive'
        rw [hsame] at hrow'
        obtain rfl : found.2 = row := Option.some.inj (hrow'.symm.trans hrow)
        rfl

/-- What is watched is so: the plan in force is, and the one given up belongs to a
subscription that was canceled when it was given up. -/
structure Watched.Tracks (accountId : ℕ) (watched : Watched) : Prop where
  wellformed : watched.world.Wellformed
  plan : watched.tenure.plan = planInForce watched.world.db.tables accountId
  givenUp : ∀ left ∈ watched.tenure.givenUp, left.2 ≤ watched.world.clock ∧
    ∃ key row, watched.world.db.tables.subscriptions.get? key = some row ∧
      row.accountId = accountId ∧ row.planId = left.1 ∧ row.status = .canceled ∧
      row.canceledAt = some left.2
  past : ∀ key row, watched.world.db.tables.subscriptions.get? key = some row →
    row.status = .canceled → ∀ canceledAt, row.canceledAt = some canceledAt →
      canceledAt ≤ watched.world.clock

/-- The plan a step leaves in force is the one it puts there, or the one of before. -/
theorem step_turnsTo (settings : Settings) {world : World} (hworld : world.Wellformed)
    (input : Timed) {response : Response}
    (hok : (step settings world input).2 = .ok response) (accountId : ℕ) :
    input.op.TurnsTo settings (input.moment world) world.db.tables
      (next (step settings) world input).book accountId := by
  rcases step_moves settings hworld input with ⟨⟨failure, herror⟩, -⟩ | ⟨found, -, hperform, -⟩
  · rw [hok] at herror
    cases herror
  · exact perform_turnsTo hworld hperform

theorem Tenure.plan_observe (now : Instant) (plan : Option ℕ) (tenure : Tenure) :
    (tenure.observe now plan).plan = plan := by
  unfold observe
  split
  next hsame => exact hsame.symm
  next => rfl

/-- What was given up last was given up earlier, or it is the plan in force up to now. -/
theorem Tenure.mem_givenUp_observe {now : Instant} {plan : Option ℕ} {tenure : Tenure}
    {left : ℕ × Instant} (hleft : left ∈ (tenure.observe now plan).givenUp) :
    left ∈ tenure.givenUp ∨
      plan ≠ tenure.plan ∧ tenure.plan = some left.1 ∧ left.2 = now := by
  unfold observe at hleft
  split at hleft
  next => exact .inl hleft
  next hchanged =>
    cases hplan : tenure.plan with
    | none =>
        rw [hplan] at hleft
        exact .inl hleft
    | some old =>
        rw [hplan] at hleft
        obtain rfl : (old, now) = left := Option.some.inj hleft
        exact .inr ⟨hplan ▸ hchanged, rfl, rfl⟩

section Watch

variable {settings : Settings} {accountId : ℕ} {watched : Watched}

theorem next_watch_world (watched : Watched) (input : Timed) :
    (next (watch settings accountId) watched input).world =
      next (step settings) watched.world input := rfl

/-- Watching changes nothing. -/
theorem run_watch_world (watched : Watched) (inputs : List Timed) :
    (run (watch settings accountId) watched inputs).world =
      run (step settings) watched.world inputs := by
  induction inputs generalizing watched with
  | nil => rfl
  | cons input rest ih => exact ih (next (watch settings accountId) watched input)

theorem next_watch_clock (watched : Watched) (input : Timed) :
    (next (watch settings accountId) watched input).world.clock = input.moment watched.world :=
  next_clock settings watched.world input

theorem le_next_watch_clock (settings : Settings) (accountId : ℕ) (watched : Watched)
    (input : Timed) :
    watched.world.clock ≤ (next (watch settings accountId) watched input).world.clock := by
  rw [next_watch_clock]
  exact Int.le_add_of_nonneg_right (Int.natCast_nonneg _)

theorem next_watch_tenure (watched : Watched) (input : Timed) :
    (next (watch settings accountId) watched input).tenure =
      watched.tenure.observe (input.moment watched.world)
        (planInForce (next (step settings) watched.world input).db.tables accountId) := by
  rw [← next_clock settings watched.world input]
  rfl

/-- The plan in force before a step that changes it belongs to a subscription that the step
cancels. -/
theorem step_gives_up {world : World} (hworld : world.Wellformed) (input : Timed) {planId : ℕ}
    (hplan : planInForce world.db.tables accountId = some planId)
    (hchanged : planInForce (next (step settings) world input).db.tables accountId ≠
      some planId) :
    ∃ key row, (next (step settings) world input).db.tables.subscriptions.get? key = some row ∧
      row.accountId = accountId ∧ row.planId = planId ∧ row.status = .canceled ∧
      row.canceledAt = some (input.moment world) := by
  obtain ⟨key, row, hrow, haccount, hlive, rfl⟩ := (planInForce_eq_some_iff hworld).mp hplan
  obtain ⟨row', hrow', hevolves, hends⟩ := step_ends settings hworld input hrow
  have haccount' := hevolves.account.trans haccount
  refine ⟨key, row', hrow', haccount', hevolves.plan, ?_⟩
  rcases hends with ⟨hstatus, -⟩ | ⟨-, hcanceled, hat⟩
  · -- it is in force after the step too, so nothing changed
    refine absurd ((planInForce_eq_some_iff (step_wellformed settings hworld input)).mpr
      ⟨key, row', hrow', haccount', ?_, hevolves.plan⟩) hchanged
    rcases hevolves.status with hsame | hcanceled | ⟨hpending, -⟩
    · simpa only [PlanSubscription.isLive, hsame] using hlive
    · exact absurd (hstatus.mp hcanceled) (PlanSubscription.ne_canceled_of_isLive hlive)
    · rw [PlanSubscription.not_isLive_of_pending hpending] at hlive
      cases hlive
  · exact ⟨hcanceled, hat⟩

theorem Watched.Tracks.step (htracks : watched.Tracks accountId) (input : Timed) :
    (next (watch settings accountId) watched input).Tracks accountId := by
  have hwellformed := htracks.wellformed
  have hlater := le_next_watch_clock settings accountId watched input
  constructor
  · exact step_wellformed settings hwellformed input
  · rw [next_watch_tenure, Tenure.plan_observe]
    rfl
  · intro left hleft
    rw [next_watch_tenure] at hleft
    rcases Tenure.mem_givenUp_observe hleft with hold | ⟨hchanged, hplan, hnow⟩
    · obtain ⟨hle, key, row, hrow, haccount, hplanId, hcanceled, hat⟩ := htracks.givenUp left hold
      obtain ⟨row', hrow', hevolves, hends⟩ :=
        step_ends settings hwellformed input hrow
      refine ⟨hle.trans hlater, key, row', hrow', hevolves.account.trans haccount,
        hevolves.plan.trans hplanId, ?_⟩
      rcases hends with ⟨hstatus, hsame⟩ | ⟨hrunning, -⟩
      · exact ⟨hstatus.mpr hcanceled, hsame.trans hat⟩
      · exact absurd hcanceled hrunning
    · rw [hplan] at hchanged
      rw [next_watch_clock, hnow]
      exact ⟨le_rfl, step_gives_up hwellformed input (htracks.plan ▸ hplan) hchanged⟩
  · intro key row hrow hcanceled canceledAt hat
    rcases step_canceled_cases settings hwellformed input hrow hcanceled with
      ⟨earlier, hearlier, hstatus, hsame, -⟩ | ⟨hnow, -⟩
    · exact (htracks.past key earlier hearlier hstatus canceledAt (hsame.trans hat)).trans hlater
    · rw [next_watch_clock, ← Option.some.inj (hnow.symm.trans hat)]

theorem Initial.tracks {world : World} (hinitial : Initial world) (accountId : ℕ) :
    Watched.Tracks accountId ⟨world, {}⟩ := by
  have hnone := Initial.get?_eq_none hinitial.subscriptions
  refine ⟨hinitial.wellformed, ?_, nofun, fun key row hrow => absurd hrow (by simp [hnone])⟩
  have hidle : world.db.tables.subscriptions.find? (fun _ row =>
      decide (row.accountId = accountId) && row.isLive) = none :=
    Table.find?_eq_none_iff.mpr fun key row hrow => absurd hrow (by simp [hnone])
  rw [planInForce, hidle]
  rfl

theorem isSome_quotaDeferredUntil (moment : Instant) (tables : Tables) (accountId : ℕ) :
    (quotaDeferredUntil moment tables accountId).isSome =
      downgradedThisMonth moment tables accountId := by
  unfold quotaDeferredUntil
  split
  next hdowngraded => exact hdowngraded.symm
  next hmetered => exact (Bool.not_eq_true _ ▸ hmetered).symm

/-- A step down is a cancellation that counts. -/
theorem Watched.Tracks.downgraded (htracks : watched.Tracks accountId) {moment : Instant}
    (hstepped : watched.tenure.SteppedDown watched.world.db.tables.plans moment) :
    downgradedThisMonth moment watched.world.db.tables accountId = true := by
  obtain ⟨left, hleft, old, hold, hfee, hsince, -, -⟩ := hstepped
  obtain ⟨-, key, row, hrow, haccount, hplanId, hcanceled, hat⟩ := htracks.givenUp left hleft
  refine downgradedThisMonth_iff.mpr ⟨(key, row, old), mem_subscriptionPlans.mpr ⟨hrow, ?_⟩,
    haccount, hcanceled, hfee, left.2, hat, hsince⟩
  rw [hplanId]
  exact hold

/-- With every cancellation in the past, the two agree from now on as soon as they do now. -/
theorem Watched.Tracks.defersRightly_iff (htracks : watched.Tracks accountId) :
    watched.DefersRightly accountId ↔
      (downgradedThisMonth watched.world.clock watched.world.db.tables accountId = true →
        watched.tenure.SteppedDown watched.world.db.tables.plans watched.world.clock) := by
  simp only [Watched.DefersRightly, isSome_quotaDeferredUntil]
  constructor
  · intro hall
    exact (hall watched.world.clock le_rfl).mp
  · intro hnow moment hlater
    refine ⟨fun hdowngraded => ?_, htracks.downgraded⟩
    obtain ⟨row, hrow, haccount, hcanceled, hfee, canceledAt, hat, hsince⟩ :=
      downgradedThisMonth_iff.mp hdowngraded
    -- the cancellation that counts at that instant lies in the month there is now
    have hmonth : monthStart moment ≤ watched.world.clock :=
      hsince.trans (htracks.past row.1 row.2.1 (mem_subscriptionPlans.mp hrow).1 hcanceled
        canceledAt hat)
    have hsame : monthStart moment ≤ monthStart watched.world.clock := by
      refine monthStart_le_of_lt (not_le.mp fun hnext => ?_)
      exact absurd ((nextMonthStart_le hnext).trans hmonth) (not_le.mpr (lt_nextMonthStart _))
    obtain ⟨left, hleft, old, hold, hfee', hsince', -, hsmaller⟩ :=
      hnow (downgradedThisMonth_anti (monthStart_mono hlater) hdowngraded)
    refine ⟨left, hleft, old, hold, hfee', hsame.trans hsince', ?_, hsmaller⟩
    exact lt_of_le_of_lt ((htracks.givenUp left hleft).1.trans hlater) (lt_nextMonthStart _)

theorem Tenure.steppedDown_iff {plans : Table Plan} {moment : Instant} {tenure : Tenure} :
    tenure.SteppedDown plans moment ↔ ∃ left ∈ tenure.givenUp, monthStart moment ≤ left.2 ∧
      left.2 < nextMonthStart moment ∧ IsStepDown plans left.1 tenure.plan := by
  unfold SteppedDown IsStepDown
  constructor
  · rintro ⟨left, hleft, old, hold, hfee, hsince, huntil, hsmaller⟩
    exact ⟨left, hleft, hsince, huntil, old, hold, hfee, hsmaller⟩
  · rintro ⟨left, hleft, hsince, huntil, old, hold, hfee, hsmaller⟩
    exact ⟨left, hleft, old, hold, hfee, hsince, huntil, hsmaller⟩

/-- What may take the place of the plan in force is what leaves a step down behind, where a
paid plan is given up or a step down stands. -/
theorem Tenure.mayTurnTo_iff {plans : Table Plan} {now : Instant} {tenure : Tenure}
    {target : Option ℕ} : tenure.MayTurnTo plans now target ↔
      ((∃ planId, PaidPlan plans planId ∧ tenure.plan = some planId) ∨
          tenure.SteppedDown plans now →
        (tenure.observe now target).SteppedDown plans now) := by
  unfold MayTurnTo
  cases hplan : tenure.plan with
  | none =>
      have hnone : ¬ ∃ planId, PaidPlan plans planId ∧ none = some planId := by
        rintro ⟨planId, -, hsome⟩
        cases hsome
      rw [or_iff_right hnone]
      refine imp_congr_right fun hstepped => ?_
      obtain ⟨left, hleft, hsince, huntil, -⟩ := steppedDown_iff.mp hstepped
      -- without a plan in force nothing new is given up
      have hgiven : (tenure.observe now target).givenUp = tenure.givenUp := by
        unfold observe
        split <;> simp [hplan]
      rw [steppedDown_iff, hgiven, plan_observe]
      constructor
      · rintro ⟨found, hfound, hdown⟩
        obtain rfl := Option.some.inj (Option.mem_def.mp hfound ▸ Option.mem_def.mp hleft)
        exact ⟨found, hfound, hsince, huntil, hdown⟩
      · rintro ⟨found, hfound, -, -, hdown⟩
        exact ⟨found, hfound, hdown⟩
  | some old =>
      have hpaid : (∃ planId, PaidPlan plans planId ∧ some old = some planId) ↔
          PaidPlan plans old := by
        simp
      rw [hpaid]
      dsimp only
      by_cases hsame : target = some old
      · have hobserved : tenure.observe now target = tenure := by
          unfold observe
          rw [if_pos (hsame.trans hplan.symm)]
        rw [if_pos hsame, hobserved]
        exact ⟨fun hkeeps hcause => hcause.elim hkeeps id, fun hkeeps hfee => hkeeps (.inl hfee)⟩
      · have hobserved : tenure.observe now target =
            { plan := target, givenUp := some (old, now) } := by
          unfold observe
          rw [if_neg (fun heq => hsame (heq.trans hplan)), hplan]
          rfl
        rw [if_neg hsame, hobserved]
        refine imp_congr_right fun _ => ?_
        rw [steppedDown_iff]
        refine ⟨fun hdown => ?_, ?_⟩
        · exact ⟨(old, now), rfl, monthStart_le now, lt_nextMonthStart now, hdown⟩
        · rintro ⟨left, hleft, -, -, hdown⟩
          obtain rfl : (old, now) = left := Option.some.inj hleft
          exact hdown

theorem Op.not_retires_of_replaces {now : Instant} {tables : Tables} {op : Op}
    {target : Option ℕ} (hreplaces : op.Replaces settings now tables accountId target)
    (planId : ℕ) : ¬ op.Retires now tables accountId planId := by
  intro hretires
  cases op with
  | enforceGrace =>
      cases hreplaces with
      | reinstates _ hsettles => exact hsettles
      | starts _ hgrants => exact hgrants.elim id id
  | _ => exact hretires

/-- The condition says of the state before an operation what the agreement says of the state
after it. -/
theorem Watched.Tracks.onlyStepsDown_iff (htracks : watched.Tracks accountId) (input : Timed) :
    OnlyStepsDown settings accountId watched input ↔
      (CancelsPaid watched.world.db.tables
            (next (ChmabaPay.step settings) watched.world input).db.tables accountId ∨
          watched.tenure.SteppedDown watched.world.db.tables.plans (input.moment watched.world) →
        (next (watch settings accountId) watched input).tenure.SteppedDown
          (next (ChmabaPay.step settings) watched.world input).db.tables.plans
          (input.moment watched.world)) := by
  have hworld := htracks.wellformed
  have hafter := step_wellformed settings hworld input
  rw [next_watch_tenure, step_plans settings hworld]
  simp only [CancelsPaid, step_plans settings hworld]
  rcases hresult : (ChmabaPay.step settings watched.world input).2 with failure | response
  · -- a refused operation changes nothing
    have hdb : (next (ChmabaPay.step settings) watched.world input).db = watched.world.db := by
      rcases step_moves settings hworld input with ⟨-, hdb⟩ | ⟨response, hok, -⟩
      · exact hdb
      · rw [hresult] at hok
        cases hok
    have hobserved : watched.tenure.observe (input.moment watched.world)
        (planInForce watched.world.db.tables accountId) = watched.tenure := by
      rw [Tenure.observe, if_pos htracks.plan.symm]
    rw [hdb, hobserved]
    refine iff_of_true (fun ⟨response, hok⟩ => ?_) ?_
    · rw [hresult] at hok
      cases hok
    · rintro (⟨planId, -, key, row, hrow, -, -, hcanceled, hrunning⟩ | hstepped)
      · exact absurd hcanceled (hrunning row hrow)
      · exact hstepped
  obtain ⟨hturns, hstays⟩ := step_turnsTo settings hworld input hresult accountId
  have hwas : ∀ planId, watched.world.db.tables.book.HasInForce accountId planId ↔
      watched.tenure.plan = some planId := fun planId => by
    rw [htracks.plan]
    exact (planInForce_eq_some_iff hworld).symm
  by_cases hreplaces : ∃ target, input.op.Replaces settings (input.moment watched.world)
      watched.world.db.tables accountId target
  -- the operation decides what is in force afterwards, so the condition is about that plan
  · obtain ⟨target, htarget⟩ := hreplaces
    have hplan : ∀ found, input.op.Replaces settings (input.moment watched.world)
        watched.world.db.tables accountId found →
          planInForce (next (ChmabaPay.step settings) watched.world input).db.tables accountId =
            found :=
      fun found hfound => Option.ext fun planId => by
        rw [planInForce_eq_some_iff hafter]
        exact (hturns found hfound).inForce planId
    have honly : OnlyStepsDown settings accountId watched input ↔
        watched.tenure.MayTurnTo watched.world.db.tables.plans (input.moment watched.world)
          target := by
      constructor
      · exact fun honly => (honly ⟨response, hresult⟩).1 target htarget
      · refine fun hmay _ => ⟨fun found hfound => ?_, fun planId hretires => ?_⟩
        · exact (hplan target htarget).symm.trans (hplan found hfound) ▸ hmay
        · exact absurd hretires (Op.not_retires_of_replaces htarget planId)
    rw [honly, Tenure.mayTurnTo_iff, hplan target htarget]
    simp only [World.book, ← hwas, ← (hturns target htarget).ended]
  -- what is in force stays, and only a retired purchase can count
  · have hidle := hstays (not_exists.mp hreplaces)
    have hplan : planInForce (next (ChmabaPay.step settings) watched.world input).db.tables
        accountId = watched.tenure.plan := Option.ext fun planId => by
      rw [planInForce_eq_some_iff hafter, ← hwas]
      exact hidle.inForce planId
    have hobserved : watched.tenure.observe (input.moment watched.world) watched.tenure.plan =
        watched.tenure := by
      rw [Tenure.observe, if_pos rfl]
    rw [hplan, hobserved]
    constructor
    · rintro honly (⟨planId, hpaid, hends⟩ | hstepped)
      · exact (honly ⟨response, hresult⟩).2 planId ((hidle.ended planId).mp hends) hpaid
      · exact hstepped
    · refine fun hkeeps _ => ⟨fun target htarget => absurd ⟨target, htarget⟩ hreplaces, ?_⟩
      exact fun planId hretires hpaid =>
        hkeeps (.inl ⟨planId, hpaid, (hidle.ended planId).mpr hretires⟩)

/-- One operation keeps the agreement exactly when it meets the condition. -/
theorem Watched.Tracks.defersRightly_next_iff (htracks : watched.Tracks accountId)
    (hrightly : watched.DefersRightly accountId) (input : Timed) :
    (next (watch settings accountId) watched input).DefersRightly accountId ↔
      OnlyStepsDown settings accountId watched input := by
  have hlater := le_next_watch_clock settings accountId watched input
  rw [next_watch_clock] at hlater
  have hbefore := hrightly (input.moment watched.world) hlater
  rw [isSome_quotaDeferredUntil] at hbefore
  rw [(htracks.step input).defersRightly_iff, next_watch_clock, next_watch_world,
    downgradedThisMonth_next settings htracks.wellformed, hbefore, htracks.onlyStepsDown_iff]

/-- In every state of a history the quota is deferred exactly for an account that stepped
down this month and has stayed there, precisely when every operation that cancels a paid
subscription, and every one that follows a step down in its month, is a step down. -/
theorem deferred_for_steps_down_iff {world : World} (hinitial : Initial world)
    (settings : Settings) (accountId : ℕ) (inputs : List Timed) :
    (∀ first, first <+: inputs →
        (run (watch settings accountId) ⟨world, {}⟩ first).DefersRightly accountId) ↔
      Along (watch settings accountId) (OnlyStepsDown settings accountId) ⟨world, {}⟩ inputs := by
  have htracks := hinitial.tracks accountId
  have hnone := Initial.get?_eq_none hinitial.subscriptions
  have hrightly : Watched.DefersRightly accountId ⟨world, {}⟩ := by
    refine htracks.defersRightly_iff.mpr fun hdowngraded => ?_
    obtain ⟨row, hrow, -⟩ := downgradedThisMonth_iff.mp hdowngraded
    exact absurd (mem_subscriptionPlans.mp hrow).1 (by simp [hnone])
  rw [forall_run_iff_along, and_iff_right hrightly]
  exact along_congr_of_invariant
    (fun watched => watched.Tracks accountId ∧ watched.DefersRightly accountId) _ _
    (fun _ input hstate => hstate.1.defersRightly_next_iff hstate.2 input)
    (fun _ input hstate hcondition =>
      ⟨hstate.1.step input, (hstate.1.defersRightly_next_iff hstate.2 input).mpr hcondition⟩)
    ⟨htracks, hrightly⟩ inputs

/-- Nothing has been in force yet. -/
theorem OnlyStepsDown.of_unopened {input : Timed} (hplan : watched.tenure.plan = none)
    (hgiven : watched.tenure.givenUp = none)
    (hretires : ∀ planId, ¬ input.op.Retires (input.moment watched.world) watched.world.db.tables
      accountId planId) : OnlyStepsDown settings accountId watched input := by
  refine fun _ => ⟨fun target _ => ?_, fun planId hfound => absurd hfound (hretires planId)⟩
  rw [Tenure.MayTurnTo, hplan]
  rintro ⟨left, hleft, -⟩
  rw [hgiven] at hleft
  cases hleft

end Watch

namespace Specimen

/-- Plans of different sizes. -/
def tieredTables : Tables :=
  { tables with
    plans := .ofList [plan "free" 0, { plan "starter" 999 with basePaymentsIncluded := 1000 },
      { plan "pro" 5999 with basePaymentsIncluded := 5000 }] }

def tieredWorld : World := ⟨0, tieredTables, by decide⟩

theorem initial_tieredWorld : Initial tieredWorld := ⟨rfl, rfl, rfl, rfl, rfl⟩

/-- The shop gives up the pro plan for the free one. -/
def steppedDownRun : List Timed :=
  [after 0 (.assignAccountPlan 0 1 "pro" "comped"), after 60 (.changePlan 1 "free")]

/-- The shop buys the pro plan in place of the starter plan. -/
def upgradeRun : List Timed :=
  [after 0 (.assignAccountPlan 0 1 "starter" "comped"), after 60 (.changePlan 1 "pro"),
    after 60 (.getInvoiceKhqr rail 1 0 "pay_1"), after 60 (.markPaid "pay_1" credit)]

end Specimen

theorem deferred_for_steps_down_free :
    Along (watch {} 1) (OnlyStepsDown {} 1) ⟨Specimen.tieredWorld, {}⟩ Specimen.steppedDownRun ∧
      ∀ first, first <+: Specimen.steppedDownRun →
        (run (watch {} 1) ⟨Specimen.tieredWorld, {}⟩ first).DefersRightly 1 := by
  set comped := next (watch {} 1) ⟨Specimen.tieredWorld, {}⟩
    (Specimen.after 0 (.assignAccountPlan 0 1 "pro" "comped")) with hcomped
  have htenure : comped.tenure = { plan := some 2, givenUp := none } := by decide +kernel
  have hread : (readPlanChange comped.world.db.tables 1 "free").toOption.map (fun change =>
      (change.planId, change.plan.monthlyFeeCents)) = some (0, 0) := by decide +kernel
  have hsecond : OnlyStepsDown {} 1 comped (Specimen.after 60 (.changePlan 1 "free")) := by
    refine fun _ => ⟨fun target hreplaces => ?_, fun _ => False.elim⟩
    cases hreplaces with
    | @moves _ change hchange _ =>
        rw [Tenure.MayTurnTo, htenure]
        rw [hchange] at hread
        obtain ⟨hplan, -⟩ := Prod.mk.inj (Option.some.inj hread)
        rw [hplan]
        exact fun _ => by decide +kernel
    | @clears _ change hchange hpaid =>
        rw [hchange] at hread
        obtain ⟨-, hfee⟩ := Prod.mk.inj (Option.some.inj hread)
        exact absurd hfee hpaid.ne'
    | reinstates _ hsettles => exact hsettles.elim
    | starts _ hgrants => exact (hgrants.elim id id).elim
  have halong : Along (watch {} 1) (OnlyStepsDown {} 1) ⟨Specimen.tieredWorld, {}⟩
      Specimen.steppedDownRun :=
    ⟨.of_unopened rfl rfl fun _ => id, hsecond, trivial⟩
  exact ⟨halong, (deferred_for_steps_down_iff Specimen.initial_tieredWorld {} 1 _).mpr halong⟩

/-- The upgrade defers the quota of the larger plan to the first of February. -/
theorem deferred_by_upgrade :
    Initial Specimen.tieredWorld ∧
      quotaDeferredUntil (seconds 180)
        (run (watch {} 1) ⟨Specimen.tieredWorld, {}⟩ Specimen.upgradeRun).world.db.tables 1 =
          some (days 31) ∧
      (run (watch {} 1) ⟨Specimen.tieredWorld, {}⟩ Specimen.upgradeRun).tenure =
        { plan := some 2, givenUp := some (1, seconds 180) } ∧
      ¬ (run (watch {} 1) ⟨Specimen.tieredWorld, {}⟩ Specimen.upgradeRun).DefersRightly 1 := by
  have hdeferred : quotaDeferredUntil (seconds 180)
      (run (watch {} 1) ⟨Specimen.tieredWorld, {}⟩ Specimen.upgradeRun).world.db.tables 1 =
        some (days 31) := by decide +kernel
  have hstays : ¬ (run (watch {} 1) ⟨Specimen.tieredWorld, {}⟩
      Specimen.upgradeRun).tenure.SteppedDown (run (watch {} 1) ⟨Specimen.tieredWorld, {}⟩
        Specimen.upgradeRun).world.db.tables.plans (seconds 180) := by decide +kernel
  refine ⟨Specimen.initial_tieredWorld, hdeferred, by decide +kernel, fun hrightly => ?_⟩
  have hclock : (run (watch {} 1) ⟨Specimen.tieredWorld, {}⟩ Specimen.upgradeRun).world.clock =
      seconds 180 := by decide +kernel
  exact hstays ((hrightly (seconds 180) hclock.le).mp (by rw [hdeferred]; rfl))

end ChmabaPay
