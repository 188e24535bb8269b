import ChmabaPay.Billing.Sweeps
import ChmabaPay.Services.Allowance
import ChmabaPay.Specimen

/-! # When the quota of a smaller plan starts to bite

The quota is deferred while a paid plan was canceled since the start of the month. With
the subscriptions as they are, that lasts to the end of the month and does not come back.
-/

namespace ChmabaPay

open Calendar Relational

section Deferral

variable {now later : Instant} {tables : Tables} {accountId : ℕ}

theorem downgradedThisMonth_iff : downgradedThisMonth now tables accountId = true ↔
    ∃ row ∈ subscriptionPlans tables, row.2.1.accountId = accountId ∧
      row.2.1.status = .canceled ∧ 0 < row.2.2.monthlyFeeCents ∧
      ∃ canceledAt, row.2.1.canceledAt = some canceledAt ∧ monthStart now ≤ canceledAt := by
  simp [downgradedThisMonth, List.any_eq_true, Option.any_eq_true, and_assoc]

/-- A cancellation that counts still counts for every earlier month. -/
theorem downgradedThisMonth_anti (hmonth : monthStart later ≤ monthStart now)
    (hdowngraded : downgradedThisMonth now tables accountId = true) :
    downgradedThisMonth later tables accountId = true := by
  obtain ⟨row, hrow, haccount, hstatus, hfee, canceledAt, hcanceled, hsince⟩ :=
    downgradedThisMonth_iff.mp hdowngraded
  exact downgradedThisMonth_iff.mpr
    ⟨row, hrow, haccount, hstatus, hfee, canceledAt, hcanceled, hmonth.trans hsince⟩

theorem quotaDeferredUntil_eq_some_iff {lifted : Instant} :
    quotaDeferredUntil now tables accountId = some lifted ↔
      downgradedThisMonth now tables accountId = true ∧ lifted = nextMonthStart now := by
  unfold quotaDeferredUntil
  rw [onFirstDay_monthStart]
  split
  next hdowngraded => simp [hdowngraded, eq_comm]
  next hdowngraded => simp [hdowngraded]

theorem quotaDeferredUntil_eq_none_iff : quotaDeferredUntil now tables accountId = none ↔
    downgradedThisMonth now tables accountId = false := by
  simp [quotaDeferredUntil]

/-- The quota of the plan in force is enforced unless it is deferred. -/
theorem checkPlanQuota_refuses_iff {plan : Option Plan}
    (hplan : oneOrNone (livePlans tables accountId) = .ok plan) :
    checkPlanQuota now tables accountId "live" = .error (.http 402 "quota_exceeded") ↔
      quotaDeferredUntil now tables accountId = none ∧
        (plan.map (·.basePaymentsIncluded)).getD 3000 ≤
          (countPaidPaymentsThisMonth now tables accountId : ℤ) := by
  rw [quotaDeferredUntil_eq_none_iff]
  simp only [checkPlanQuota, ne_eq, not_true_eq_false, if_false, hplan, bind, Except.bind]
  split
  next hover => simp [hover.1, hover.2, throw, throwThe, MonadExceptOf.throw]
  next hwithin =>
    simp only [pure, Except.pure, reduceCtorEq, false_iff]
    rintro ⟨hmetered, hover⟩
    exact hwithin ⟨hover, hmetered⟩

/-- Cancellations that lie in the past keep the quota deferred up to the end of the month,
and not from there on. -/
theorem downgradedThisMonth_until_next
    (hpast : ∀ key subscription, tables.subscriptions.get? key = some subscription →
      subscription.accountId = accountId →
      ∀ canceledAt, subscription.canceledAt = some canceledAt → canceledAt ≤ now)
    (hdowngraded : downgradedThisMonth now tables accountId = true) :
    downgradedThisMonth later tables accountId = true ↔ later < nextMonthStart now := by
  constructor
  · intro hlater
    obtain ⟨row, hrow, haccount, -, -, canceledAt, hcanceled, hsince⟩ :=
      downgradedThisMonth_iff.mp hlater
    by_contra hend
    have hstarted := nextMonthStart_le (not_lt.mp hend)
    have hcanceledBy := hpast row.1 row.2.1 (mem_subscriptionPlans.mp hrow).1 haccount canceledAt
      hcanceled
    exact absurd ((hstarted.trans hsince).trans hcanceledBy) (not_le.mpr (lt_nextMonthStart now))
  · intro hbefore
    exact downgradedThisMonth_anti (monthStart_le_of_lt hbefore) hdowngraded

/-- With the cancellations in the past, a quota that is enforced stays enforced, and one
that is deferred is deferred to the first instant of the next month and bites from there on. -/
theorem quota_deferral_ends (tables : Tables) (accountId : ℕ) (now : Instant)
    (hpast : ∀ key subscription, tables.subscriptions.get? key = some subscription →
      subscription.accountId = accountId →
      ∀ canceledAt, subscription.canceledAt = some canceledAt → canceledAt ≤ now) :
    (quotaDeferredUntil now tables accountId = none → ∀ later, now ≤ later →
        quotaDeferredUntil later tables accountId = none) ∧
      ∀ lifted, quotaDeferredUntil now tables accountId = some lifted →
        IsLeast {moment | civilMonth (moment / days 1) =
          followingMonth (civilMonth (now / days 1))} lifted ∧
        (∀ later, (quotaDeferredUntil later tables accountId).isSome = true ↔ later < lifted) ∧
        ∀ plan, oneOrNone (livePlans tables accountId) = .ok plan → ∀ later,
          (checkPlanQuota later tables accountId "live" = .error (.http 402 "quota_exceeded") ↔
            lifted ≤ later ∧ (plan.map (·.basePaymentsIncluded)).getD 3000 ≤
              (countPaidPaymentsThisMonth later tables accountId : ℤ)) := by
  constructor
  · intro hnone later hle
    rw [quotaDeferredUntil_eq_none_iff] at hnone ⊢
    by_contra hdowngraded
    rw [Bool.not_eq_false] at hdowngraded
    have hearlier := downgradedThisMonth_anti (monthStart_mono hle) hdowngraded
    rw [hnone] at hearlier
    cases hearlier
  · intro lifted hlifted
    obtain ⟨hdowngraded, rfl⟩ := quotaDeferredUntil_eq_some_iff.mp hlifted
    have hdeferred : ∀ later, quotaDeferredUntil later tables accountId = none ↔
        nextMonthStart now ≤ later := by
      intro later
      rw [quotaDeferredUntil_eq_none_iff, ← not_lt,
        ← downgradedThisMonth_until_next hpast hdowngraded, Bool.not_eq_true]
    refine ⟨nextMonthStart_isLeast now, fun later => ?_, fun plan hplan later => ?_⟩
    · rw [Option.isSome_iff_ne_none, ne_eq, hdeferred, not_le]
    · rw [checkPlanQuota_refuses_iff hplan, hdeferred]

end Deferral

namespace Specimen

/-- On the eleventh of January 1970 the shop gives up its paid plan for the free one. -/
def downgraded : Tables :=
  { tables with
    subscriptions := .ofList [
      { accountId := 1, planId := 1, status := .canceled, canceledAt := some (days 10)
        nextBillingAt := days 30, createdAt := 0 },
      { accountId := 1, planId := 0, status := .active, nextBillingAt := days 40
        createdAt := days 10 }] }

end Specimen

/-- Its quota is deferred to the first of February. -/
theorem quota_deferral_ends_downgraded :
    quotaDeferredUntil (days 20) Specimen.downgraded 1 = some (days 31) ∧
      ∀ later, (quotaDeferredUntil later Specimen.downgraded 1).isSome = true ↔
        later < days 31 := by
  have hdeferred : quotaDeferredUntil (days 20) Specimen.downgraded 1 = some (days 31) := by
    decide +kernel
  refine ⟨hdeferred, ((quota_deferral_ends Specimen.downgraded 1 (days 20) ?_).2 _ hdeferred).2.1⟩
  intro key subscription hget _ canceledAt hcanceled
  match key with
  | 0 =>
      obtain rfl := Option.some.inj hget
      obtain rfl := Option.some.inj hcanceled
      decide
  | 1 =>
      obtain rfl := Option.some.inj hget
      cases hcanceled
  | key + 2 => cases hget

end ChmabaPay
