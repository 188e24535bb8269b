import ChmabaPay.Billing.Runs
import ChmabaPay.Foundation.Fallible
import ChmabaPay.Routers.Plans
import ChmabaPay.Specimen

/-! # Billing under a changing catalogue

The book is well formed whatever is done to the catalogue: a plan that a subscription names
is there for good under its own code, since only a plan without subscriptions is deleted, and
its key is not drawn again.
-/

namespace ChmabaPay

open Calendar Relational Execution

/-! ## What an operation does to the plans -/

/-- The plans after an operation: those that are named stay, under their codes. -/
structure PlansKept (named : ℕ → Prop) (before after : Table Plan) : Prop where
  named : ∀ planId plan, named planId → before.get? planId = some plan →
    ∃ plan', after.get? planId = some plan' ∧ plan'.code = plan.code

theorem PlansKept.of_code {named : ℕ → Prop} {before after : Table Plan}
    (hplans : ∀ planId plan, before.get? planId = some plan →
      ∃ plan', after.get? planId = some plan' ∧ plan'.code = plan.code) :
    PlansKept named before after :=
  ⟨fun planId plan _ hget => hplans planId plan hget⟩

theorem PlansKept.refl (named : ℕ → Prop) (plans : Table Plan) : PlansKept named plans plans :=
  .of_code fun _ plan hget => ⟨plan, hget, rfl⟩

theorem PlansKept.trans {named : ℕ → Prop} {first second third : Table Plan}
    (hfirst : PlansKept named first second) (hsecond : PlansKept named second third) :
    PlansKept named first third := by
  refine ⟨fun planId plan hnamed hget => ?_⟩
  obtain ⟨plan', hget', hcode⟩ := hfirst.named planId plan hnamed hget
  obtain ⟨plan'', hget'', hcode'⟩ := hsecond.named planId plan' hnamed hget'
  exact ⟨plan'', hget'', hcode'.trans hcode⟩

theorem PlansKept.insert (named : ℕ → Prop) (plans : Table Plan) (plan : Plan) :
    PlansKept named plans (plans.insert plan) :=
  .of_code fun _ plan hget => ⟨plan, Table.get?_insert_of_some hget, rfl⟩

theorem PlansKept.modify (named : ℕ → Prop) (plans : Table Plan) {change : ℕ → Plan → Plan}
    (hcode : ∀ planId plan, (change planId plan).code = plan.code) :
    PlansKept named plans (plans.modify change) :=
  .of_code fun planId plan hget =>
    ⟨change planId plan, by rw [Table.get?_modify, hget, Option.map_some], hcode planId plan⟩

theorem PlansKept.seedPlan (named : ℕ → Prop) (plans : Table Plan) (plan : Plan) :
    PlansKept named plans (seedPlan plans plan) := by
  unfold ChmabaPay.seedPlan
  split
  next => exact .insert named plans plan
  next => exact .refl named plans

theorem PlansKept.foldl_seedPlan (named : ℕ → Prop) (seeds : List Plan) (plans : Table Plan) :
    PlansKept named plans (seeds.foldl ChmabaPay.seedPlan plans) := by
  induction seeds generalizing plans with
  | nil => exact .refl named plans
  | cons seed rest ih => exact (PlansKept.seedPlan named plans seed).trans (ih _)

theorem Plan.patched_code {patch : AdminPlanPatch} {plan patched : Plan}
    (hpatched : plan.patched patch = some patched) : patched.code = plan.code := by
  simp only [Plan.patched, Option.bind_eq_bind, Option.bind_eq_some_iff] at hpatched
  obtain ⟨_, _, _, _, _, _, _, _, _, _, _, _, hresult⟩ := hpatched
  rw [← Option.some.inj hresult]

/-- A plan without subscriptions is named by none. -/
theorem planSubscriptionCount_pos {tables : Tables} {planId key : ℕ} {row : PlanSubscription}
    (hrow : tables.subscriptions.get? key = some row) (hplan : row.planId = planId) :
    0 < planSubscriptionCount tables planId := by
  apply List.length_pos_of_mem (a := (key, row))
  exact Table.mem_select.mpr ⟨hrow, decide_eq_true hplan⟩

/-- The plans that subscriptions name. -/
def Tables.namesPlan (tables : Tables) (planId : ℕ) : Prop :=
  ∃ key row, tables.subscriptions.get? key = some row ∧ row.planId = planId

/-- An operation on the catalogue changes the plans alone, and keeps those in use. -/
theorem CatalogueOp.perform_plans {settings : Settings} {tables changed : Tables}
    {op : CatalogueOp} {audit : List PlanAudit}
    (hperform : op.perform settings tables = .ok (audit, changed)) :
    ∃ plans, changed = { tables with plans := plans } ∧
      PlansKept tables.namesPlan tables.plans plans := by
  cases op with
  | createPlan actorId body =>
      simp only [perform, ChmabaPay.createPlan] at hperform
      split at hperform
      · cases hperform
      · obtain ⟨-, rfl⟩ := Prod.mk.inj (Except.ok.inj hperform)
        exact ⟨_, rfl, .insert _ _ _⟩
  | updatePlan actorId planId patch =>
      simp only [perform, ChmabaPay.updatePlan] at hperform
      split at hperform
      · cases hperform
      next plan hplan =>
        split at hperform
        · cases hperform
        next patched hpatched =>
          split at hperform <;> obtain ⟨-, rfl⟩ := Prod.mk.inj (Except.ok.inj hperform)
          · exact ⟨tables.plans, rfl, .refl _ _⟩
          · refine ⟨_, rfl, .of_code fun other found hget => ?_⟩
            by_cases hother : other = planId
            · subst hother
              obtain rfl := Option.some.inj (hplan.symm.trans hget)
              exact ⟨patched, by simp [hplan], Plan.patched_code hpatched⟩
            · exact ⟨found, by simp [hother, hget], rfl⟩
  | deletePlan actorId planId =>
      simp only [perform, ChmabaPay.deletePlan] at hperform
      split at hperform
      · cases hperform
      next plan hplan =>
        split at hperform <;> obtain ⟨-, rfl⟩ := Prod.mk.inj (Except.ok.inj hperform)
        · refine ⟨_, rfl, .modify _ _ fun other found => ?_⟩
          split <;> rfl
        next hunused =>
          refine ⟨_, rfl, ⟨fun other found hnamed hget => ?_⟩⟩
          -- nothing names the plan that is deleted
          obtain ⟨key, row, hrow, hother⟩ := hnamed
          have hne : other ≠ planId := by
            rintro rfl
            exact hunused (planSubscriptionCount_pos hrow hother)
          exact ⟨found, by simp [hne, hget], rfl⟩
  | seedPlansIfNeeded =>
      obtain ⟨-, rfl⟩ := Prod.mk.inj (Except.ok.inj hperform)
      unfold ChmabaPay.seedPlansIfNeeded
      split
      · have hretired : PlansKept tables.namesPlan tables.plans (retireLegacy tables.plans) := by
          unfold retireLegacy Table.updateWhere
          apply PlansKept.modify
          intro other found
          split <;> rfl
        exact ⟨_, rfl, hretired.trans (.foldl_seedPlan _ _ _)⟩
      · exact ⟨tables.plans, rfl, .refl _ _⟩

/-! ## One input -/

/-- Subscriptions go on with their accounts and their plans, and the plans keep their codes. -/
def KeepsSubscriptions (before after : Tables) : Prop :=
  ∀ key row plan, before.subscriptions.get? key = some row →
    before.plans.get? row.planId = some plan →
    ∃ row' plan', after.subscriptions.get? key = some row' ∧ row.Evolves row' ∧
      after.plans.get? row'.planId = some plan' ∧ plan'.code = plan.code

/-- Invoices stay, with their accounts, their windows and the subscriptions they bill. -/
def KeepsInvoices (before after : Tables) : Prop :=
  ∀ key invoice, before.invoices.get? key = some invoice →
    ∃ invoice', after.invoices.get? key = some invoice' ∧ invoice.Evolves invoice'

section Steps

variable {settings : Settings} {platform : Platform}

theorem operate_keeps (hworld : platform.world.Wellformed) (input : Timed) :
    KeepsSubscriptions platform.world.db.tables
        (next (step settings) platform.world input).db.tables ∧
      KeepsInvoices platform.world.db.tables
        (next (step settings) platform.world input).db.tables := by
  rcases step_moves settings hworld input with ⟨-, hdb⟩ | ⟨response, -, -, hmoves, -, hkeeps⟩
  · rw [hdb]
    exact ⟨fun _ row plan hrow hplan => ⟨row, plan, hrow, .refl row, hplan, rfl⟩,
      fun _ invoice hinvoice => ⟨invoice, hinvoice, .refl invoice⟩⟩
  · constructor
    · intro key row plan hrow hplan
      obtain ⟨row', hrow', hevolves⟩ := Moves.subscription_persists hmoves hrow
      refine ⟨row', plan, hrow', hevolves, ?_, rfl⟩
      rw [hevolves.plan, hkeeps.plans]
      exact hplan
    · intro key invoice hinvoice
      exact Moves.invoice_persists hmoves hinvoice

theorem platformStep_keeps (hworld : platform.world.Wellformed) (input : PlatformInput) :
    (next (platformStep settings) platform input).world.Wellformed ∧
      KeepsSubscriptions platform.world.db.tables
        (next (platformStep settings) platform input).world.db.tables ∧
      KeepsInvoices platform.world.db.tables
        (next (platformStep settings) platform input).world.db.tables := by
  cases input with
  | operate input => exact ⟨step_wellformed settings hworld input, operate_keeps hworld input⟩
  | catalogue op =>
      have hsame : KeepsSubscriptions platform.world.db.tables platform.world.db.tables ∧
          KeepsInvoices platform.world.db.tables platform.world.db.tables :=
        ⟨fun _ row plan hrow hplan => ⟨row, plan, hrow, .refl row, hplan, rfl⟩,
          fun _ invoice hinvoice => ⟨invoice, hinvoice, .refl invoice⟩⟩
      simp only [next, platformStep]
      cases htransact : op.transact settings platform.world.db with
      | error failure => exact ⟨hworld, hsame⟩
      | ok result =>
          obtain ⟨⟨audit, tables⟩, hperform, htransact⟩ := Fallible.bind_eq_ok.mp htransact
          obtain ⟨committed, hcommit, hresult⟩ := Fallible.bind_eq_ok.mp htransact
          obtain rfl := Except.ok.inj hresult
          obtain ⟨plans, rfl, hplans⟩ := CatalogueOp.perform_plans hperform
          have htables := Tables.commit_eq_ok hcommit
          simp only [World.Wellformed, World.book, htables]
          refine ⟨⟨hworld.live, hworld.account, ?_, hworld.backed⟩, ?_, ?_⟩
          · intro key row hrow
            obtain ⟨plan, hplan⟩ := hworld.plan key row hrow
            obtain ⟨plan', hplan', -⟩ := hplans.named row.planId plan ⟨key, row, hrow, rfl⟩ hplan
            exact ⟨plan', hplan'⟩
          · intro key row plan hrow hplan
            obtain ⟨plan', hplan', hcode⟩ :=
              hplans.named row.planId plan ⟨key, row, hrow, rfl⟩ hplan
            exact ⟨row, plan', hrow, .refl row, hplan', hcode⟩
          · exact hsame.2

end Steps

/-! ## Every run -/

theorem KeepsSubscriptions.trans {first second third : Tables}
    (hfirst : KeepsSubscriptions first second) (hsecond : KeepsSubscriptions second third) :
    KeepsSubscriptions first third := by
  intro key row plan hrow hplan
  obtain ⟨row', plan', hrow', hevolves, hplan', hcode⟩ := hfirst key row plan hrow hplan
  obtain ⟨row'', plan'', hrow'', hevolves', hplan'', hcode'⟩ :=
    hsecond key row' plan' hrow' hplan'
  exact ⟨row'', plan'', hrow'', hevolves.trans hevolves', hplan'', hcode'.trans hcode⟩

theorem KeepsInvoices.trans {first second third : Tables} (hfirst : KeepsInvoices first second)
    (hsecond : KeepsInvoices second third) : KeepsInvoices first third := by
  intro key invoice hinvoice
  obtain ⟨invoice', hinvoice', hevolves⟩ := hfirst key invoice hinvoice
  obtain ⟨invoice'', hinvoice'', hevolves'⟩ := hsecond key invoice' hinvoice'
  exact ⟨invoice'', hinvoice'', hevolves.trans hevolves'⟩

theorem platformRun_keeps (settings : Settings) {platform : Platform}
    (hworld : platform.world.Wellformed) (inputs : List PlatformInput) :
    (run (platformStep settings) platform inputs).world.Wellformed ∧
      KeepsSubscriptions platform.world.db.tables
        (run (platformStep settings) platform inputs).world.db.tables ∧
      KeepsInvoices platform.world.db.tables
        (run (platformStep settings) platform inputs).world.db.tables := by
  induction inputs generalizing platform with
  | nil =>
      exact ⟨hworld, fun _ row plan hrow hplan => ⟨row, plan, hrow, .refl row, hplan, rfl⟩,
        fun _ invoice hinvoice => ⟨invoice, hinvoice, .refl invoice⟩⟩
  | cons input rest ih =>
      obtain ⟨hnext, hsubscriptions, hinvoices⟩ := platformStep_keeps hworld input
      obtain ⟨hlast, hsubscriptions', hinvoices'⟩ := ih hnext
      exact ⟨hlast, hsubscriptions.trans hsubscriptions', hinvoices.trans hinvoices'⟩

/-- In every run of the platform in which operators create, edit, retire and delete plans, the
book is well formed: no account has two subscriptions in force, and each subscription is on a
plan that is there. From any moment on, a subscription stays on its plan, under the code the
plan had, and an invoice stays what it was raised for. -/
theorem catalogue_wellformed (settings : Settings) {platform : Platform}
    (hinitial : Initial platform.world) (first rest : List PlatformInput) :
    (run (platformStep settings) platform (first ++ rest)).world.Wellformed ∧
      KeepsSubscriptions (run (platformStep settings) platform first).world.db.tables
        (run (platformStep settings) platform (first ++ rest)).world.db.tables ∧
      KeepsInvoices (run (platformStep settings) platform first).world.db.tables
        (run (platformStep settings) platform (first ++ rest)).world.db.tables := by
  have hreached := (platformRun_keeps settings hinitial.wellformed first).1
  rw [run_append]
  exact platformRun_keeps settings hreached rest

namespace Specimen

theorem goldShape : isPlanCode "gold" = true := by decide

/-- A plan nobody is on yet. -/
def goldPlan : AdminPlanCreate where
  code := "gold"
  name := "Gold"
  monthlyFeeCents := 2500
  codeLength := ⟨Nat.le_of_ble_eq_true rfl, Nat.le_of_ble_eq_true rfl⟩
  codeShape := goldShape
  nameLength := ⟨Nat.le_of_ble_eq_true rfl, Nat.le_of_ble_eq_true rfl⟩

/-- The merchant is put on a new plan. -/
def goldSold : List PlatformInput :=
  [.catalogue (.createPlan 0 goldPlan), .operate (after 60 (.assignAccountPlan 0 1 "gold" "moved"))]

/-- The plan is deleted while the merchant is on it. -/
def goldDeleted : List PlatformInput := goldSold ++ [.catalogue (.deletePlan 0 3)]

def goldPlatform (inputs : List PlatformInput) : Platform :=
  run (platformStep {}) ⟨world, []⟩ inputs

end Specimen

theorem catalogue_wellformed_gold :
    ((Specimen.goldPlatform Specimen.goldDeleted).world.Wellformed ∧
      KeepsSubscriptions (Specimen.goldPlatform Specimen.goldSold).world.db.tables
        (Specimen.goldPlatform Specimen.goldDeleted).world.db.tables ∧
      KeepsInvoices (Specimen.goldPlatform Specimen.goldSold).world.db.tables
        (Specimen.goldPlatform Specimen.goldDeleted).world.db.tables) ∧
      (Specimen.goldPlatform Specimen.goldDeleted).trail =
        [.created 0 3 "gold" "Gold", .retired 0 3 "gold" 1] :=
  ⟨catalogue_wellformed {} Specimen.initial_world Specimen.goldSold
    [.catalogue (.deletePlan 0 3)], by decide⟩

end ChmabaPay
