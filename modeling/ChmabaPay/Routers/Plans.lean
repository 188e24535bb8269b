import ChmabaPay.Operations

/-! # The plan catalogue

An operator creates, edits and deletes plans while the platform goes on. A plan that a
subscription names is retired instead of deleted, and the standard plans come back at a
start that finds no plan at all.
-/

namespace ChmabaPay

open Calendar Relational Execution

/-! ## Bodies -/

def isPlanCodeHead (char : Char) : Bool := char.isLower || char.isDigit

/-- `^[a-z0-9][a-z0-9_-]*$`. -/
def isPlanCode (code : String) : Bool :=
  match code.toList with
  | [] => false
  | head :: rest =>
      isPlanCodeHead head && rest.all fun char => isPlanCodeHead char || char = '_' || char = '-'

/-- `AdminPlanCreate`. -/
structure AdminPlanCreate where
  code : String
  name : String
  monthlyFeeCents : ℕ := 0
  basePaymentsIncluded : ℕ := 0
  maxStores : Option ℕ := none
  maxKeysPerAccount : ℕ := 5
  isPublic : Bool := true
  isActive : Bool := true
  codeLength : 2 ≤ code.length ∧ code.length ≤ 32
  codeShape : isPlanCode code = true
  nameLength : 1 ≤ name.length ∧ name.length ≤ 64

def AdminPlanCreate.plan (body : AdminPlanCreate) : Plan where
  name := body.name
  code := body.code
  monthlyFeeCents := body.monthlyFeeCents
  basePaymentsIncluded := body.basePaymentsIncluded
  maxStores := body.maxStores
  maxKeysPerAccount := body.maxKeysPerAccount
  isPublic := body.isPublic
  isActive := body.isActive

/-- `AdminPlanPatch`. Each field is left out, or sent with null or a value. -/
structure AdminPlanPatch where
  name : Option (Option String) := none
  monthlyFeeCents : Option (Option ℕ) := none
  basePaymentsIncluded : Option (Option ℕ) := none
  maxStores : Option (Option ℕ) := none
  maxKeysPerAccount : Option (Option ℕ) := none
  isPublic : Option (Option Bool) := none
  isActive : Option (Option Bool) := none
  nameLength : ∀ text, name = some (some text) → 1 ≤ text.length ∧ text.length ≤ 64

/-- A column that takes no null, after a patch. -/
def required {α β : Type} (convert : α → β) (field : Option (Option α)) (old : β) : Option β :=
  match field with
  | none => some old
  | some value => value.map convert

/-- The plan after a patch. There is none when a column that takes no null is sent as null. -/
def Plan.patched (patch : AdminPlanPatch) (plan : Plan) : Option Plan := do
  let name ← required id patch.name plan.name
  let monthlyFeeCents ← required Int.ofNat patch.monthlyFeeCents plan.monthlyFeeCents
  let basePaymentsIncluded ←
    required Int.ofNat patch.basePaymentsIncluded plan.basePaymentsIncluded
  let maxKeysPerAccount ← required id patch.maxKeysPerAccount plan.maxKeysPerAccount
  let isPublic ← required id patch.isPublic plan.isPublic
  let isActive ← required id patch.isActive plan.isActive
  return { plan with
    name, monthlyFeeCents, basePaymentsIncluded, maxKeysPerAccount, isPublic, isActive
    maxStores := patch.maxStores.getD plan.maxStores }

/-! ## Routes -/

/-- What the catalogue's routes write to the audit log. -/
inductive PlanAudit where
  | created (actorId planId : ℕ) (code name : String)
  | updated (actorId planId : ℕ) (before after : Plan)
  | retired (actorId planId : ℕ) (code : String) (subscriptions : ℕ)
  | deleted (actorId planId : ℕ) (code : String)
deriving DecidableEq

/-- `_plan_subscription_counts` of one plan. -/
def planSubscriptionCount (tables : Tables) (planId : ℕ) : ℕ :=
  (tables.subscriptions.select fun _ row => decide (row.planId = planId)).length

/-- A plan that is no longer offered. -/
def Plan.retire (plan : Plan) : Plan := { plan with isActive := false, isPublic := false }

/-- `POST /api/v1/admin/plans`. -/
def createPlan (tables : Tables) (actorId : ℕ) (body : AdminPlanCreate) :
    Except Failure (List PlanAudit × Tables) :=
  match findPlanByCode tables body.code with
  | some _ => .error (.http 409 "plan_code_exists")
  | none =>
      .ok ([.created actorId tables.plans.next body.code body.name],
        { tables with plans := tables.plans.insert body.plan })

/-- `PATCH /api/v1/admin/plans/{plan_id}`. -/
def updatePlan (tables : Tables) (actorId planId : ℕ) (patch : AdminPlanPatch) :
    Except Failure (List PlanAudit × Tables) :=
  match tables.plans.get? planId with
  | none => .error (.http 404 "plan_not_found")
  | some plan =>
      match plan.patched patch with
      | none => .error .integrity
      | some patched =>
          if patched = plan then .ok ([], tables)
          else .ok ([.updated actorId planId plan patched],
            { tables with plans := tables.plans.update planId fun _ => patched })

/-- `DELETE /api/v1/admin/plans/{plan_id}`. -/
def deletePlan (tables : Tables) (actorId planId : ℕ) :
    Except Failure (List PlanAudit × Tables) :=
  match tables.plans.get? planId with
  | none => .error (.http 404 "plan_not_found")
  | some plan =>
      let count := planSubscriptionCount tables planId
      if 0 < count then
        .ok ([.retired actorId planId plan.code count],
          { tables with plans := tables.plans.update planId Plan.retire })
      else .ok ([.deleted actorId planId plan.code],
        { tables with plans := tables.plans.erase planId })

/-! ## The standard plans -/

def defaultPlan (code name : String) (monthlyFeeCents basePaymentsIncluded : Int)
    (maxStores maxKeysPerAccount : ℕ) : Plan where
  name := name
  code := code
  monthlyFeeCents := monthlyFeeCents
  basePaymentsIncluded := basePaymentsIncluded
  maxStores := some maxStores
  maxKeysPerAccount := maxKeysPerAccount
  isPublic := true
  isActive := true

/-- The plans of `seed_default_plans`. -/
def defaultPlans : List Plan :=
  [defaultPlan "free" "Free" 0 3000 1 1, defaultPlan "starter" "Starter" 999 15000 5 3,
    defaultPlan "pro" "Pro" 5999 1000000 50 10]

/-- The tiers that are no longer offered. -/
def legacyCodes : List String := ["growth", "scale", "enterprise"]

def retireLegacy (plans : Table Plan) : Table Plan :=
  plans.updateWhere (fun _ plan => legacyCodes.contains plan.code && plan.isActive) Plan.retire

/-- A missing plan is created, one that is there is not overwritten. -/
def seedPlan (plans : Table Plan) (plan : Plan) : Table Plan :=
  match plans.find? fun _ other => decide (other.code = plan.code) with
  | none => plans.insert plan
  | some _ => plans

def seedDefaultPlans (plans : Table Plan) : Table Plan :=
  defaultPlans.foldl seedPlan (retireLegacy plans)

/-- `seed_plans_if_needed`, at every start. -/
def seedPlansIfNeeded (settings : Settings) (tables : Tables) : Tables :=
  if settings.enableDevGateway = true ∨ tables.plans.rows.length = 0 then
    { tables with plans := seedDefaultPlans tables.plans }
  else tables

/-! ## The platform with its catalogue -/

inductive CatalogueOp where
  | createPlan (actorId : ℕ) (body : AdminPlanCreate)
  | updatePlan (actorId planId : ℕ) (patch : AdminPlanPatch)
  | deletePlan (actorId planId : ℕ)
  | seedPlansIfNeeded

def CatalogueOp.perform (settings : Settings) (tables : Tables) :
    CatalogueOp → Except Failure (List PlanAudit × Tables)
  | .createPlan actorId body => ChmabaPay.createPlan tables actorId body
  | .updatePlan actorId planId patch => ChmabaPay.updatePlan tables actorId planId patch
  | .deletePlan actorId planId => ChmabaPay.deletePlan tables actorId planId
  | .seedPlansIfNeeded => .ok ([], ChmabaPay.seedPlansIfNeeded settings tables)

/-- An operation on the catalogue up to and including its commit. -/
def CatalogueOp.transact (settings : Settings) (db : Database) (op : CatalogueOp) :
    Except Failure (List PlanAudit × Database) := do
  let (audit, tables) ← op.perform settings db.tables
  let committed ← tables.commit
  return (audit, committed)

/-- The platform and the audit rows of the catalogue. -/
structure Platform where
  world : World
  trail : List PlanAudit := []

/-- An operation of the platform, or one on its catalogue. -/
inductive PlatformInput where
  | operate (input : Timed)
  | catalogue (op : CatalogueOp)

/-- What an operation on the catalogue answers is in the audit rows it wrote. -/
def platformStep (settings : Settings) (platform : Platform) :
    PlatformInput → Platform × Except Failure (Option Response)
  | .operate input =>
      ({ platform with world := next (step settings) platform.world input },
        (step settings platform.world input).2.map some)
  | .catalogue op =>
      match op.transact settings platform.world.db with
      | .error failure => (platform, .error failure)
      | .ok (audit, db) =>
          ({ world := { platform.world with db := db }, trail := platform.trail ++ audit },
            .ok none)

end ChmabaPay
