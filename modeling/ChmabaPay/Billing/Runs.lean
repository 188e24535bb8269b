import ChmabaPay.Billing.Refinement
import ChmabaPay.Specimen

/-! # Runs of the platform keep the book well formed

The refinement of one operation, lifted to worlds and from there to runs. The
main result says what a subscription in force owes its place to.
-/

namespace ChmabaPay

open Calendar Relational Execution

def World.book (world : World) : Book := world.db.tables.book

/-- The standing invariant of a world. -/
def World.Wellformed (world : World) : Prop :=
  world.book.Wellformed world.db.tables.hasAccount world.db.tables.hasPlan

/-- The occasion of one step that answered. -/
def World.occasion (settings : Settings) (world : World) (input : Timed)
    (response : Response) : Occasion :=
  occasionOf settings (input.moment world) world.db.tables
    (next (step settings) world input).db.tables input.op response

section Steps

variable (settings : Settings) {world : World}

theorem next_clock (world : World) (input : Timed) :
    (next (step settings) world input).clock = input.moment world := by
  rcases next_step settings world input with ⟨failure, hstep⟩ | ⟨response, tables, -, _, hstep⟩ <;>
    simp [next, hstep]

/-- A step fails and changes nothing, or makes moves of the book. -/
theorem step_moves (hworld : world.Wellformed) (input : Timed) :
    ((∃ failure, (step settings world input).2 = .error failure) ∧
        (next (step settings) world input).db = world.db) ∨
      ∃ response, (step settings world input).2 = .ok response ∧
        perform settings (input.moment world) world.db.tables input.op =
          .ok (response, (next (step settings) world input).db.tables) ∧
        Moves (world.occasion settings input response) world.book
          (next (step settings) world input).book ∧
        SettlesAlone (world.occasion settings input response) world.book
          (next (step settings) world input).book ∧
        world.db.tables.Keeps (next (step settings) world input).db.tables := by
  rcases next_step settings world input with
    ⟨failure, hstep⟩ | ⟨response, tables, hperform, hvalid, hstep⟩
  · exact .inl ⟨⟨failure, by simp [hstep]⟩, by simp [next, hstep]⟩
  · refine .inr ⟨response, by simp [hstep], ?_⟩
    have htables : (next (step settings) world input).db.tables = tables := by
      simp [next, hstep]
    unfold World.occasion World.book
    rw [htables]
    exact ⟨hperform, perform_moves hworld hperform hvalid⟩

end Steps

theorem Tables.Keeps.hasPlan {before after : Tables} (hkeeps : before.Keeps after) :
    after.hasPlan = before.hasPlan := by
  funext key
  simp only [Tables.hasPlan, hkeeps.plans]

theorem Tables.Keeps.freePlan {before after : Tables} (hkeeps : before.Keeps after) :
    after.freePlan = before.freePlan := by
  funext key
  simp only [Tables.freePlan, hkeeps.plans]

section Runs

variable {settings : Settings} {world : World}

theorem step_wellformed (settings : Settings) (hworld : world.Wellformed) (input : Timed) :
    (next (step settings) world input).Wellformed := by
  rcases step_moves settings hworld input with
    ⟨-, hdb⟩ | ⟨response, -, -, hmoves, -, hkeeps⟩
  · simpa only [World.Wellformed, World.book, hdb] using hworld
  · have hbefore : world.book.Wellformed (world.occasion settings input response).account
        (world.occasion settings input response).plan :=
      hworld.mono fun _ => hkeeps.hasAccount
    have hafter := Moves.wellformed hmoves hbefore
    unfold World.Wellformed
    rw [hkeeps.hasPlan]
    exact hafter

theorem Initial.wellformed (hinitial : Initial world) : world.Wellformed := by
  have hsubscriptions := Initial.get?_eq_none hinitial.subscriptions
  have hinvoices := Initial.get?_eq_none hinitial.invoices
  refine ⟨fun key row hrow => ?_, fun key row hrow => ?_, fun key row hrow => ?_,
    fun key invoice hinvoice => ?_⟩
  · exact absurd hrow (by simp [World.book, hsubscriptions])
  · exact absurd hrow (by simp [World.book, hsubscriptions])
  · exact absurd hrow (by simp [World.book, hsubscriptions])
  · exact absurd hinvoice (by simp [World.book, hinvoices])

/-- Every reachable world is well formed. -/
theorem run_wellformed (settings : Settings) (hinitial : Initial world) (inputs : List Timed) :
    (run (step settings) world inputs).Wellformed :=
  run_invariant World.Wellformed (fun _ => True)
    (fun _ input hstate _ => step_wellformed settings hstate input) hinitial.wellformed
    fun _ _ => trivial

/-- Plans are only read. -/
theorem run_plans (settings : Settings) (hinitial : Initial world) (inputs : List Timed) :
    (run (step settings) world inputs).db.tables.plans = world.db.tables.plans := by
  refine (run_invariant (fun state : World => state.Wellformed ∧
    state.db.tables.plans = world.db.tables.plans) (fun _ => True) ?_
    ⟨hinitial.wellformed, rfl⟩ fun _ _ => trivial).2
  rintro state input ⟨hstate, hplans⟩ -
  refine ⟨step_wellformed settings hstate input, ?_⟩
  rcases step_moves settings hstate input with ⟨-, hdb⟩ | ⟨response, -, -, -, -, hkeeps⟩
  · rw [hdb, hplans]
  · exact hkeeps.plans.trans hplans

/-- Rows of subscriptions survive every run. -/
theorem run_subscription_persists (hworld : world.Wellformed) (inputs : List Timed) {key : ℕ}
    {row : PlanSubscription} (hrow : world.book.subscriptions key = some row) :
    ∃ row', (run (step settings) world inputs).book.subscriptions key = some row' ∧
      row.Evolves row' := by
  induction inputs generalizing world row with
  | nil => exact ⟨row, hrow, .refl row⟩
  | cons input rest ih =>
      have hmiddle : ∃ middle, (next (step settings) world input).book.subscriptions key =
          some middle ∧ row.Evolves middle := by
        rcases step_moves settings hworld input with ⟨-, hdb⟩ | ⟨response, -, -, hmoves, -, -⟩
        · exact ⟨row, by simpa only [World.book, hdb] using hrow, .refl row⟩
        · exact Moves.subscription_persists hmoves hrow
      obtain ⟨middle, hmiddle, hevolves⟩ := hmiddle
      obtain ⟨row', hrow', hevolves'⟩ := ih (step_wellformed settings hworld input) hmiddle
      exact ⟨row', hrow', hevolves.trans hevolves'⟩

/-! ## What is in force -/

/-- The operator's assignments answered so far. -/
def AssignedIn (history : List (Timed × Except Failure Response)) (key : ℕ) : Prop :=
  ∃ elapsed actorId accountId planCode reason,
    (⟨elapsed, .assignAccountPlan actorId accountId planCode reason⟩,
      .ok (.subscription key)) ∈ history

theorem assignedIn_of_assigns {history : List (Timed × Except Failure Response)}
    {input : Timed} {response : Response} {key : ℕ} (hassigns : input.op.assigns response key) :
    AssignedIn (history ++ [(input, .ok response)]) key := by
  obtain ⟨elapsed, op⟩ := input
  cases op with
  | assignAccountPlan actorId accountId planCode reason =>
      obtain rfl : response = .subscription key := hassigns
      exact ⟨elapsed, actorId, accountId, planCode, reason,
        List.mem_append_right _ List.mem_cons_self⟩
  | _ => exact absurd hassigns id

/-- The invariant behind `run_grounded`: the grounds of every subscription in
force, with the operator's assignments read off the history. -/
def GroundedSoFar (world state : World) (history : List (Timed × Except Failure Response)) :
    Prop :=
  state.Wellformed ∧ state.db.tables.freePlan = world.db.tables.freePlan ∧
    state.book.Grounded world.db.tables.freePlan (AssignedIn history)

theorem GroundedSoFar.step {state : World} {history : List (Timed × Except Failure Response)}
    (hstate : GroundedSoFar world state history) (input : Timed) :
    GroundedSoFar world (next (step settings) state input)
      (history ++ [(input, (ChmabaPay.step settings state input).2)]) := by
  obtain ⟨hstate, hfree, hgrounded⟩ := hstate
  refine ⟨step_wellformed settings hstate input, ?_⟩
  have hearlier : ∀ key, AssignedIn history key →
      AssignedIn (history ++ [(input, (ChmabaPay.step settings state input).2)]) key := by
    rintro key ⟨elapsed, actorId, accountId, planCode, reason, hmem⟩
    exact ⟨elapsed, actorId, accountId, planCode, reason, List.mem_append_left _ hmem⟩
  rcases step_moves settings hstate input with
    ⟨-, hdb⟩ | ⟨response, hresponse, -, hmoves, -, hkeeps⟩
  · refine ⟨by rw [hdb, hfree], ?_⟩
    simp only [World.book, hdb]
    exact fun key row hrow hlive =>
      (hgrounded key row hrow hlive).imp_right (Or.imp_left (hearlier key))
  · refine ⟨hkeeps.freePlan.trans hfree, ?_⟩
    have hbefore : state.book.Wellformed (state.occasion settings input response).account
        (state.occasion settings input response).plan :=
      hstate.mono fun _ => hkeeps.hasAccount
    have hafter := Moves.grounded hmoves hbefore (hfree ▸ hgrounded)
    intro key row hrow hlive
    rw [← hfree]
    refine (hafter key row hrow hlive).imp_right (Or.imp_left ?_)
    rintro (hassigned | hassigned)
    · exact hearlier key hassigned
    · rw [hresponse]
      exact assignedIn_of_assigns hassigned

theorem run_grounded (hinitial : Initial world) (inputs : List Timed) :
    (run (step settings) world inputs).book.Grounded world.db.tables.freePlan
      (AssignedIn (trace (step settings) world inputs)) := by
  have hstart : GroundedSoFar world world [] := by
    refine ⟨hinitial.wellformed, rfl, fun key row hrow => ?_⟩
    have hnone := Initial.get?_eq_none hinitial.subscriptions key
    exact absurd hrow (by simp [World.book, hnone])
  have hrun : GroundedSoFar world (run (step settings) world inputs)
      ([] ++ trace (step settings) world inputs) :=
    run_invariant_trace (GroundedSoFar world) (fun _ => True)
      (fun _ _ input hstate _ => hstate.step input) hstart fun _ _ => trivial
  exact hrun.2.2

/-- Nothing is in force until it is paid for or an operator says so. In every
reachable state an account has at most one subscription in force; one on a paid
plan was assigned by an operator or has a settled invoice of its own; and a
canceled subscription stays canceled however the run goes on. -/
theorem subscriptions_in_force (hinitial : Initial world)
    (hfree : ∀ key plan, world.db.tables.plans.get? key = some plan → plan.code = "free" →
      plan.monthlyFeeCents = 0) (inputs : List Timed) :
    (∀ key key' row row',
        (run (step settings) world inputs).db.tables.subscriptions.get? key = some row →
        (run (step settings) world inputs).db.tables.subscriptions.get? key' = some row' →
        row.isLive = true → row'.isLive = true → row.accountId = row'.accountId →
        key = key') ∧
      (∀ key row plan,
        (run (step settings) world inputs).db.tables.subscriptions.get? key = some row →
        row.isLive = true →
        (run (step settings) world inputs).db.tables.plans.get? row.planId = some plan →
        0 < plan.monthlyFeeCents →
        AssignedIn (trace (step settings) world inputs) key ∨
          ∃ invoiceKey invoice,
            (run (step settings) world inputs).db.tables.invoices.get? invoiceKey =
              some invoice ∧
            invoice.subscriptionId = some key ∧
            (invoice.status = .paid ∨ invoice.status = .waived ∨ invoice.status = .credited)) ∧
      ∀ later key row,
        (run (step settings) world inputs).db.tables.subscriptions.get? key = some row →
        row.status = .canceled →
        ∃ row', (run (step settings) world (inputs ++ later)).db.tables.subscriptions.get? key =
          some row' ∧ row'.status = .canceled := by
  have hreached := run_wellformed settings hinitial inputs
  refine ⟨?_, ?_, ?_⟩
  · intro key key' row row' hrow hrow' hlive hlive' haccount
    by_contra hne
    have hidle := hreached.live key row hrow hlive key' row' hrow' (Ne.symm hne) haccount.symm
    rw [hidle] at hlive'
    cases hlive'
  · intro key row plan hrow hlive hplan hfee
    have hplans := run_plans settings hinitial inputs
    rcases run_grounded hinitial inputs key row hrow hlive with
      ⟨found, hfound, hgratis⟩ | hassigned | ⟨invoiceKey, invoice, hinvoice, hown, hsettled⟩
    · rw [hplans, hfound] at hplan
      obtain rfl := Option.some.inj hplan
      rcases hgratis with hgratis | hcode
      · exact absurd hfee (not_lt.mpr hgratis)
      · exact absurd (hfree _ _ hfound hcode) (ne_of_gt hfee)
    · exact .inl hassigned
    · refine .inr ⟨invoiceKey, invoice, hinvoice, hown, ?_⟩
      revert hsettled
      cases invoice.status <;> simp [InvoiceStatus.isSettled]
  · intro later key row hrow hcanceled
    rw [run_append]
    obtain ⟨row', hrow', hevolves⟩ := run_subscription_persists hreached later hrow
    refine ⟨row', hrow', ?_⟩
    have hstatus := hevolves.status
    rw [hcanceled] at hstatus
    rcases hstatus with hstatus | hstatus | ⟨hpending, -⟩
    · exact hstatus
    · exact hstatus
    · cases hpending

end Runs

/-- A purchase on the specimen platform: the code of its invoice is paid within
the hour and the parked plan takes the place of the free one. -/
def purchaseRun : List Timed :=
  [Specimen.after 0 (.signUp "new@example.com" "New" true),
    Specimen.after 60 (.changePlan 2 "starter"),
    Specimen.after 60 (.getInvoiceKhqr Specimen.rail 2 0 "pay_1"),
    Specimen.after 60 (.markPaid "pay_1" Specimen.credit)]

theorem subscriptions_in_force_purchase :
    (∀ key plan, Specimen.tables.plans.get? key = some plan → plan.code = "free" →
        plan.monthlyFeeCents = 0) ∧
      ((run (step {}) Specimen.world purchaseRun).db.tables.subscriptions.get? 1).any
        PlanSubscription.isLive = true ∧
      ∀ key key' row row',
        (run (step {}) Specimen.world purchaseRun).db.tables.subscriptions.get? key = some row →
        (run (step {}) Specimen.world purchaseRun).db.tables.subscriptions.get? key' =
          some row' →
        row.isLive = true → row'.isLive = true → row.accountId = row'.accountId →
        key = key' := by
  have hfree : ∀ key plan, Specimen.tables.plans.get? key = some plan → plan.code = "free" →
      plan.monthlyFeeCents = 0 := by
    intro key plan hplan hcode
    rw [Table.get?_eq_some_iff] at hplan
    revert hcode
    simp only [Specimen.tables, Table.ofList, Table.insert, Table.empty, List.foldl_cons,
      List.foldl_nil, List.nil_append, List.cons_append, List.mem_cons, Prod.mk.injEq,
      List.not_mem_nil, or_false] at hplan
    rcases hplan with ⟨-, rfl⟩ | ⟨-, rfl⟩ | ⟨-, rfl⟩ <;> decide
  exact ⟨hfree, by decide +kernel,
    (subscriptions_in_force Specimen.initial_world hfree purchaseRun).1⟩

end ChmabaPay
