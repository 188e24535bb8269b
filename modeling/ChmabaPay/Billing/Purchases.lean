import ChmabaPay.Billing.Sweeps

/-! # Opening subscriptions as moves of the book

Signing up, moving to a free plan, buying a paid one and being assigned one.
Each path retires what was in force by itself, so each is shown to leave the
account without a subscription before it opens the next.
-/

namespace ChmabaPay

open Calendar Relational Fallible

def Tables.hasAccount (tables : Tables) (key : ℕ) : Prop :=
  ∃ account, tables.accounts.get? key = some account

def Tables.hasPlan (tables : Tables) (key : ℕ) : Prop :=
  ∃ plan, tables.plans.get? key = some plan

/-- The plan asks for no fee, or is the one given to every new account. -/
def Tables.freePlan (tables : Tables) (key : ℕ) : Prop :=
  ∃ plan, tables.plans.get? key = some plan ∧
    (plan.monthlyFeeCents ≤ 0 ∨ plan.code = "free")

theorem Tables.Keeps.hasAccount {before after : Tables} (hkeeps : before.Keeps after) {key : ℕ}
    (haccount : before.hasAccount key) : after.hasAccount key := by
  obtain ⟨account, hget⟩ := haccount
  exact hkeeps.accounts key account hget

/-! ## Changing plan -/

section PlanChange

variable {now : Instant} {occasion : Occasion} {tables : Tables} {change : PlanChange}

theorem findPlanByCode_eq_some {code : String} {planId : ℕ} {plan : Plan}
    (hfind : findPlanByCode tables code = some (planId, plan)) :
    tables.plans.get? planId = some plan ∧ plan.code = code := by
  obtain ⟨hget, hcode⟩ := Table.find?_eq_some hfind
  exact ⟨hget, by simpa using hcode⟩

theorem sessionAccount_eq_ok {accountId : ℕ} {account : Account}
    (hsession : sessionAccount tables accountId = .ok account) :
    tables.accounts.get? accountId = some account := by
  unfold sessionAccount at hsession
  split at hsession
  · cases hsession
  next found hfound =>
    split at hsession
    · cases hsession
    · exact (Except.ok.inj hsession) ▸ hfound

/-- What the first reads of a plan change establish. -/
structure PlanChange.ReadFrom (change : PlanChange) (tables : Tables) : Prop where
  account : tables.accounts.get? change.accountId = some change.account
  plan : tables.plans.get? change.planId = some change.plan
  old : getActiveSub tables change.accountId = .ok change.old

theorem readPlanChange_eq_ok {accountId : ℕ} {planCode : String}
    (hread : readPlanChange tables accountId planCode = .ok change) :
    change.accountId = accountId ∧ change.ReadFrom tables := by
  simp only [readPlanChange, bind_eq_ok] at hread
  obtain ⟨account, haccount, hread⟩ := hread
  split at hread
  · simp at hread
  next planId plan hplan =>
    split at hread
    · simp [bind_eq_ok] at hread
    · simp only [bind_eq_ok] at hread
      obtain ⟨old, hold, hread⟩ := hread
      split at hread
      · exact absurd hread throw_bind_ne_ok
      · rw [pure_eq_ok] at hread
        subst hread
        exact ⟨rfl, sessionAccount_eq_ok haccount, (findPlanByCode_eq_some hplan).1, hold⟩

/-- The subscription in force is the one `_get_active_sub` found. -/
theorem getActiveSub_eq_ok {accountId : ℕ} {old : Option (ℕ × PlanSubscription × Plan)}
    (hactive : getActiveSub tables accountId = .ok old) :
    (∀ key row plan, old = some (key, row, plan) →
        tables.subscriptions.get? key = some row ∧ row.accountId = accountId ∧
          row.isLive = true) ∧
      ∀ key row, tables.subscriptions.get? key = some row → tables.hasPlan row.planId →
        row.accountId = accountId → row.isLive = true →
        ∃ plan, old = some (key, row, plan) := by
  have hmem : ∀ key row plan, (key, row, plan) ∈ (subscriptionPlans tables).filter
      (fun row => decide (row.2.1.accountId = accountId) && row.2.1.isLive) ↔
      (tables.subscriptions.get? key = some row ∧ tables.plans.get? row.planId = some plan) ∧
        row.accountId = accountId ∧ row.isLive = true := by
    intro key row plan
    simp only [List.mem_filter, mem_subscriptionPlans, Bool.and_eq_true, decide_eq_true_eq]
  refine ⟨fun key row plan heq => ?_, fun key row hrow ⟨plan, hplan⟩ haccount hlive => ?_⟩
  · subst heq
    have hrows := oneOrNone_eq_some hactive
    have hfound := (hmem key row plan).mp (hrows ▸ List.mem_singleton_self _)
    exact ⟨hfound.1.1, hfound.2⟩
  · have hfound := (hmem key row plan).mpr ⟨⟨hrow, hplan⟩, haccount, hlive⟩
    cases old with
    | none =>
        rw [oneOrNone_eq_none hactive] at hfound
        cases hfound
    | some found =>
        rw [oneOrNone_eq_some hactive, List.mem_singleton] at hfound
        exact ⟨plan, by rw [hfound]⟩

theorem moveToFreePlan_keeps (now : Instant) (tables : Tables) (change : PlanChange) :
    tables.Keeps (moveToFreePlan now tables change).2 := by
  have hlift : tables.Keeps (liftBillingHold
      (voidOpenInvoices now tables change.accountId .downgraded) change.accountId) := by
    refine Tables.Keeps.liftBillingHold ?_ _
    exact .of_eq rfl rfl rfl
  have hcap : ∀ opened : Tables, tables.Keeps opened → tables.Keeps
      (applyStoreCap now opened change.accountId change.plan.maxStores) :=
    fun opened hopened => hopened.trans (applyStoreCap_keeps _ _ _ _)
  unfold moveToFreePlan
  refine Tables.Keeps.trans (hcap _ (hlift.trans ?_)) (.of_eq rfl rfl rfl)
  cases change.old with
  | none => exact .of_eq rfl rfl rfl
  | some found => exact .of_eq rfl rfl rfl

theorem clearOutstanding_keeps {cleared : Tables}
    (hclear : clearOutstanding now tables change = .ok cleared) : tables.Keeps cleared := by
  unfold clearOutstanding at hclear
  split at hclear
  · obtain rfl := Except.ok.inj hclear
    exact .refl tables
  · split at hclear
    · cases hclear
    · obtain rfl := Except.ok.inj hclear
      exact .of_eq rfl rfl rfl

theorem purchasePlan_keeps {out : ChangePlanOut} {tables' : Tables}
    (hpurchase : purchasePlan now tables change = .ok (out, tables')) :
    tables.Keeps tables' := by
  simp only [purchasePlan, bind_eq_ok] at hpurchase
  obtain ⟨cleared, hclear, hpurchase⟩ := hpurchase
  have hkeeps := clearOutstanding_keeps hclear
  obtain ⟨invoices, hissue⟩ := issueInvoice_eq now
    { cleared with
      subscriptions := cleared.subscriptions.insert (change.subscription now .pending none) }
    cleared.subscriptions.next (change.subscription now .pending none) change.plan now
    (now + creditPeriod) now
  split at hpurchase
  · simp at hpurchase
  all_goals
    simp only [pure_eq_ok, Prod.mk.injEq] at hpurchase
    obtain ⟨-, rfl⟩ := hpurchase
    rw [hissue]
    exact hkeeps.trans (.of_eq rfl rfl rfl)

variable (hbook : tables.book.Wellformed tables.hasAccount tables.hasPlan)
  (hread : change.ReadFrom tables) (hnow : occasion.now = now)
  (haccounts : ∀ key, tables.hasAccount key → occasion.account key)
  (hplans : occasion.plan = tables.hasPlan)

include hbook hread hnow haccounts hplans

/-- Leaving for a free plan: invoices withdrawn, the subscription in force
retired, the free one opened. -/
theorem moveToFreePlan_moves (hfree : occasion.free change.planId) :
    Moves occasion tables.book (moveToFreePlan now tables change).2.book := by
  obtain ⟨hold, hlive⟩ := getActiveSub_eq_ok hread.old
  subst hnow
  set withdrawn := tables.book.withdrawWhere occasion.now
    (fun _ invoice => decide (invoice.accountId = change.accountId) && invoice.isUnpaid)
    .downgraded with hwithdrawn
  have hwithdraw : Move occasion tables.book withdrawn :=
    .withdraw _ _ _ fun key row _ hselected => (Bool.and_eq_true _ _ ▸ hselected).2
  have hopen : ∀ middle : Book, middle.subscriptions tables.subscriptions.next = none →
      middle.NoneLive change.accountId → Move occasion middle
        (middle.putSubscription tables.subscriptions.next
          (change.subscription occasion.now .active (some occasion.now))) := by
    intro middle hfresh hnone
    exact .openLive middle _ _ hfresh rfl rfl (hplans ▸ ⟨change.plan, hread.plan⟩)
      (haccounts _ ⟨change.account, hread.account⟩) hnone (.inl hfree)
  unfold moveToFreePlan
  simp only [recordAudit_book, applyStoreCap_book]
  rw [insertSubscription_book]
  cases hcase : change.old with
  | none =>
      simp only [liftBillingHold_book, voidOpenInvoices_book, ← hwithdrawn]
      refine .tail (.single hwithdraw) (hopen withdrawn (by simp [hwithdrawn]) ?_)
      intro key row hrow haccount
      by_contra hidle
      obtain ⟨plan, hfound⟩ := hlive key row hrow (hbook.plan key row hrow) haccount
        (by simpa using hidle)
      simp [hcase] at hfound
  | some found =>
      obtain ⟨oldId, old, oldPlan⟩ := found
      obtain ⟨hrow, -, hwas⟩ := hold oldId old oldPlan hcase
      simp only [updateSubscription_book, liftBillingHold_book, voidOpenInvoices_book,
        ← hwithdrawn]
      refine .tail (.tail (.single hwithdraw) (.retire withdrawn _ ?_)) (hopen _ ?_ ?_)
      · intro key row hkey hselected
        obtain rfl : key = oldId := by simpa using hselected
        obtain rfl := Option.some.inj (hrow.symm.trans hkey)
        exact .inl hwas
      · simp [hwithdrawn]
      · intro key row hkey haccount
        obtain ⟨current, hcurrent, rfl⟩ := Option.map_eq_some_iff.mp hkey
        by_cases heq : key = oldId
        · simp [heq]
        · simp only [heq, decide_false, Bool.false_eq_true, if_false] at haccount ⊢
          by_contra hidle
          obtain ⟨plan, hfound⟩ := hlive key current hcurrent
            (hbook.plan key current hcurrent) haccount (by simpa using hidle)
          simp only [hcase, Option.some.injEq, Prod.mk.injEq] at hfound
          exact heq hfound.1.symm

omit hread haccounts hplans hbook in
/-- A frozen account clears its balance by two moves. -/
theorem clearOutstanding_moves {cleared : Tables}
    (hclear : clearOutstanding now tables change = .ok cleared) :
    Moves occasion tables.book cleared.book := by
  subst hnow
  unfold clearOutstanding at hclear
  split at hclear
  · obtain rfl := Except.ok.inj hclear
    exact .refl
  · split at hclear
    · cases hclear
    · obtain rfl := Except.ok.inj hclear
      rw [retireLiveSubscriptions_book, voidOpenInvoices_book]
      refine .tail (.single (.withdraw _ _ _ ?_)) (.retire _ _ ?_)
      · exact fun key row _ hselected => (Bool.and_eq_true _ _ ▸ hselected).2
      · exact fun key row _ hselected => .inl (Bool.and_eq_true _ _ ▸ hselected).2

/-- A purchase parks one subscription with its first invoice. -/
theorem purchasePlan_moves {out : ChangePlanOut} {tables' : Tables}
    (hpurchase : purchasePlan now tables change = .ok (out, tables')) :
    Moves occasion tables.book tables'.book := by
  simp only [purchasePlan, bind_eq_ok] at hpurchase
  obtain ⟨cleared, hclear, hpurchase⟩ := hpurchase
  have hmoves := clearOutstanding_moves hnow hclear
  -- No invoice can refer to the key the new subscription is about to take.
  have hunused : findInvoiceForWindow { cleared with
      subscriptions := cleared.subscriptions.insert (change.subscription now .pending none) }
      cleared.subscriptions.next now = none := by
    refine Table.find?_eq_none_iff.mpr fun key invoice hinvoice => ?_
    have hwellformed := Moves.wellformed hmoves
      (hplans ▸ hbook.mono haccounts : tables.book.Wellformed occasion.account occasion.plan)
    obtain ⟨billed, row, start, hcovers, hrow, -⟩ := hwellformed.backed key invoice hinvoice
    have hne : invoice.subscriptionId ≠ some cleared.subscriptions.next := by
      rw [hcovers.subscription]
      rintro heq
      obtain rfl := Option.some.inj heq
      simp at hrow
    simp [hne]
  simp only [issueInvoice, hunused] at hpurchase
  by_cases hfee : change.plan.monthlyFeeCents ≤ 0
  · simp [hfee] at hpurchase
  · simp only [if_neg hfee, pure_eq_ok, Prod.mk.injEq] at hpurchase
    obtain ⟨-, rfl⟩ := hpurchase
    refine hmoves.trans (.single ?_)
    rw [recordAudit_book, insertPurchase_book]
    exact .park cleared.book _ _ _ _ (by simp) rfl hnow.symm (hnow ▸ rfl)
      (hplans ▸ ⟨change.plan, hread.plan⟩) (haccounts _ ⟨change.account, hread.account⟩)
      (by simp) rfl (hnow ▸ ⟨rfl, rfl, rfl, rfl⟩) rfl rfl

end PlanChange

/-! ## Signing up and assigning -/

section Opening

variable {now : Instant} {occasion : Occasion} {tables : Tables}
  (hbook : tables.book.Wellformed tables.hasAccount tables.hasPlan)
  (hnow : occasion.now = now) (hplans : occasion.plan = tables.hasPlan)

include hbook hnow hplans

/-- A new account starts on the free plan. -/
theorem upsertAccount_moves (email name : String) (renameExisting : Bool)
    (haccounts : occasion.account =
      (upsertAccount now tables email name renameExisting).2.hasAccount)
    (hfree : ∀ key plan, tables.plans.get? key = some plan → plan.code = "free" →
      occasion.free key) :
    Moves occasion tables.book (upsertAccount now tables email name renameExisting).2.book ∧
      tables.Keeps (upsertAccount now tables email name renameExisting).2 := by
  subst hnow
  unfold upsertAccount at haccounts ⊢
  split
  next hnew =>
    simp only [hnew] at haccounts
    dsimp only
    set account : Account :=
      { email := email
        name := if name = "" then email else name
        status := .active
        isPlatformAdmin := false }
    have hgrown : tables.Keeps { tables with accounts := tables.accounts.insert account } := by
      refine ⟨rfl, fun key found hfound => ⟨found, ?_⟩, fun key store hstore => ⟨_, hstore⟩⟩
      have hne : key ≠ tables.accounts.next := fun heq => by simp [heq] at hfound
      simp [hne, hfound]
    unfold ensureFreeSubscription at haccounts ⊢
    split
    · exact ⟨.refl, hgrown⟩
    next planId plan hplan =>
      obtain ⟨hget, hcode⟩ := findPlanByCode_eq_some hplan
      simp only [hplan] at haccounts
      refine ⟨.single ?_, hgrown.trans (.of_eq rfl rfl rfl)⟩
      rw [insertSubscription_book]
      refine .openLive tables.book _ _ (by simp) rfl rfl (hplans ▸ ⟨plan, hget⟩) ?_ ?_
        (.inl (hfree planId plan hget hcode))
      · rw [haccounts]
        exact ⟨account, by simp⟩
      · intro key row hrow haccount
        obtain ⟨owner, howner⟩ := hbook.account key row hrow
        rw [haccount] at howner
        simp at howner
  next accountId existing hexisting =>
    refine ⟨.refl, rfl, fun key account haccount => ?_, fun key store hstore => ⟨_, hstore⟩⟩
    exact Option.isSome_iff_exists.mp (by
      simp only [Table.get?_update, haccount]
      split <;> rfl)

omit hbook hnow hplans in
theorem assignAccountPlan_keeps {actorId accountId : ℕ} {planCode reason : String}
    {subscriptionId : ℕ} {tables' : Tables}
    (hassign : assignAccountPlan now tables actorId accountId planCode reason =
      .ok (subscriptionId, tables')) : tables.Keeps tables' := by
  simp only [assignAccountPlan] at hassign
  split at hassign
  · simp [bind_eq_ok] at hassign
  split at hassign
  · simp at hassign
  split at hassign
  · exact absurd hassign throw_bind_ne_ok
  · simp only [pure_eq_ok, Prod.mk.injEq] at hassign
    obtain ⟨-, rfl⟩ := hassign
    exact .of_eq rfl rfl rfl

omit hbook hnow hplans in
/-- An assignment writes no invoice. -/
theorem assignAccountPlan_invoices {actorId accountId : ℕ} {planCode reason : String}
    {subscriptionId : ℕ} {tables' : Tables}
    (hassign : assignAccountPlan now tables actorId accountId planCode reason =
      .ok (subscriptionId, tables')) : tables'.invoices = tables.invoices := by
  simp only [assignAccountPlan] at hassign
  split at hassign
  · simp [bind_eq_ok] at hassign
  split at hassign
  · simp at hassign
  split at hassign
  · exact absurd hassign throw_bind_ne_ok
  · simp only [pure_eq_ok, Prod.mk.injEq] at hassign
    obtain ⟨-, rfl⟩ := hassign
    rfl

/-- An assignment retires the subscription in force and opens the named one. -/
theorem assignAccountPlan_moves {actorId accountId : ℕ} {planCode reason : String}
    {subscriptionId : ℕ} {tables' : Tables}
    (hassign : assignAccountPlan now tables actorId accountId planCode reason =
      .ok (subscriptionId, tables'))
    (haccounts : ∀ key, tables.hasAccount key → occasion.account key)
    (hassigned : occasion.assigned subscriptionId) :
    Moves occasion tables.book tables'.book := by
  subst hnow
  simp only [assignAccountPlan] at hassign
  split at hassign
  · simp [bind_eq_ok] at hassign
  next haccount =>
    obtain ⟨account, haccount⟩ := Option.ne_none_iff_exists'.mp haccount
    split at hassign
    · simp at hassign
    next planId plan hplan =>
      obtain ⟨hget, -⟩ := findPlanByCode_eq_some hplan
      split at hassign
      · exact absurd hassign throw_bind_ne_ok
      · simp only [pure_eq_ok, Prod.mk.injEq] at hassign
        obtain ⟨rfl, rfl⟩ := hassign
        rw [recordAudit_book]
        cases hcurrent : tables.subscriptions.find? fun _ row =>
            decide (row.accountId = accountId) && row.isLive with
        | none =>
            simp only [hcurrent] at hassigned
            rw [insertSubscription_book]
            refine .single (.openLive _ _ _ (by simp) rfl rfl (hplans ▸ ⟨plan, hget⟩)
              (haccounts _ ⟨account, haccount⟩) (fun key row hrow hsame => ?_) (.inr hassigned))
            have hidle := Table.find?_eq_none_iff.mp hcurrent key row hrow
            simpa [hsame] using hidle
        | some found =>
            obtain ⟨currentId, current⟩ := found
            obtain ⟨hrow, hmatch⟩ := Table.find?_eq_some hcurrent
            simp only [Bool.and_eq_true, decide_eq_true_eq] at hmatch
            simp only [hcurrent] at hassigned
            have hinsert := insertSubscription_book { tables with
              subscriptions := tables.subscriptions.update currentId
                (PlanSubscription.cancel occasion.now) }
              { accountId := accountId
                planId := planId
                status := .active
                startedAt := some occasion.now
                nextBillingAt := occasion.now + creditPeriod
                createdAt := occasion.now }
            refine .tail (.single (.retire tables.book (fun key _ => decide (key = currentId)) ?_))
              ?_
            · intro key row hkey hselected
              obtain rfl : key = currentId := by simpa using hselected
              obtain rfl := Option.some.inj (hrow.symm.trans hkey)
              exact .inl hmatch.2
            · rw [hinsert, updateSubscription_book]
              refine .openLive _ _ _ (by simp) rfl rfl (hplans ▸ ⟨plan, hget⟩)
                (haccounts _ ⟨account, haccount⟩) (fun key row hkey hsame => ?_) (.inr hassigned)
              obtain ⟨other, hother, rfl⟩ := Option.map_eq_some_iff.mp hkey
              by_cases heq : key = currentId
              · simp [heq]
              · simp only [heq, decide_false, Bool.false_eq_true, if_false] at hsame ⊢
                exact hbook.live currentId current hrow hmatch.2 key other hother heq
                  (hsame.trans hmatch.1.symm)

end Opening

end ChmabaPay
