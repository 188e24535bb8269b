import ChmabaPay.Foundation.Months
import ChmabaPay.Services.Payments

/-! # What the plan in force allows

The allowance of stores and of payments is read off the subscription in force,
by queries that expect at most one.
-/

namespace ChmabaPay

open Calendar Relational

/-- The plans of the account's subscriptions in force. -/
def livePlans (tables : Tables) (accountId : ℕ) : List Plan :=
  ((subscriptionPlans tables).filter fun row =>
    decide (row.2.1.accountId = accountId) && row.2.1.isLive).map fun row => row.2.2

/-- The store allowance of the plan in force, or none when there is nothing to
apply. -/
def planMaxStores (tables : Tables) (accountId : ℕ) : Except Failure (Option ℕ) := do
  let plan ← oneOrNone (livePlans tables accountId)
  return plan.bind (·.maxStores)

/-- Paid payments of this month across the account's merchant stores. -/
def countPaidPaymentsThisMonth (now : Instant) (tables : Tables) (accountId : ℕ) : ℕ :=
  (tables.payments.select fun _ payment =>
    decide (payment.status = .paid) &&
      (payment.paidAt.any fun paidAt => decide (monthStart now ≤ paidAt)) &&
      ((tables.stores.get? payment.storeId).any fun store =>
        decide (store.accountId = accountId) && !store.isInternal)).length

/-- Whether a paid plan was given up during the current calendar month. -/
def downgradedThisMonth (now : Instant) (tables : Tables) (accountId : ℕ) : Bool :=
  (subscriptionPlans tables).any fun row =>
    decide (row.2.1.accountId = accountId) && decide (row.2.1.status = .canceled) &&
      decide (0 < row.2.2.monthlyFeeCents) &&
      row.2.1.canceledAt.any fun canceledAt => decide (monthStart now ≤ canceledAt)

/-- The instant the allowance of the current plan starts being enforced, or none if it
already is. -/
def quotaDeferredUntil (now : Instant) (tables : Tables) (accountId : ℕ) : Option Instant :=
  if downgradedThisMonth now tables accountId then
    some (onFirstDay (monthStart now + days 32))
  else none

/-- Enforce the monthly quota of the plan in force. Test-mode payments do not
count, and an account without a plan has the allowance of the free tier. -/
def checkPlanQuota (now : Instant) (tables : Tables) (accountId : ℕ) (mode : String) :
    Except Failure Unit := do
  if mode ≠ "live" then return ()
  let plan ← oneOrNone (livePlans tables accountId)
  let included : ℤ := (plan.map (·.basePaymentsIncluded)).getD 3000
  if included ≤ (countPaidPaymentsThisMonth now tables accountId : ℤ) ∧
      downgradedThisMonth now tables accountId = false then
    throw (.http 402 "quota_exceeded")
  return ()

end ChmabaPay
