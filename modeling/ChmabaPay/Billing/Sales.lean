import ChmabaPay.Billing.Refinement

/-! # Billing leaves the sales side alone

Signing up, changing plan, the two billing sweeps and the operator's routes
write no payment, event, delivery or ledger row. Only a credit confirmed by the
rail crosses from the sales side to the book.
-/

namespace ChmabaPay

open Calendar Relational Fallible

section Billing

variable {settings : Settings} {now : Instant} {tables tables' : Tables}

theorem Tables.SameSales.refl (tables : Tables) : tables.SameSales tables :=
  ⟨rfl, rfl, rfl, rfl, rfl, rfl⟩

theorem upsertAccount_sameSales (now : Instant) (tables : Tables) (email name : String)
    (renameExisting : Bool) :
    tables.SameSales (upsertAccount now tables email name renameExisting).2 := by
  unfold upsertAccount
  split
  · unfold ensureFreeSubscription
    dsimp only
    split <;> exact ⟨rfl, rfl, rfl, rfl, rfl, rfl⟩
  · exact ⟨rfl, rfl, rfl, rfl, rfl, rfl⟩

theorem moveToFreePlan_sameSales (now : Instant) (tables : Tables) (change : PlanChange) :
    tables.SameSales (moveToFreePlan now tables change).2 := by
  have hcap : ∀ opened : Tables, tables.SameSales opened → tables.SameSales
      (applyStoreCap now opened change.accountId change.plan.maxStores) :=
    fun opened hopened => hopened.trans (applyStoreCap_sameSales _ _ _ _)
  unfold moveToFreePlan
  refine (hcap _ ?_).trans ⟨rfl, rfl, rfl, rfl, rfl, rfl⟩
  cases change.old with
  | none => exact ⟨rfl, rfl, rfl, rfl, rfl, rfl⟩
  | some found => exact ⟨rfl, rfl, rfl, rfl, rfl, rfl⟩

theorem clearOutstanding_sameSales {change : PlanChange} {cleared : Tables}
    (hclear : clearOutstanding now tables change = .ok cleared) : tables.SameSales cleared := by
  unfold clearOutstanding at hclear
  split at hclear
  · obtain rfl := Except.ok.inj hclear
    exact .refl tables
  · split at hclear
    · cases hclear
    · obtain rfl := Except.ok.inj hclear
      exact ⟨rfl, rfl, rfl, rfl, rfl, rfl⟩

theorem purchasePlan_sameSales {change : PlanChange} {out : ChangePlanOut}
    (hpurchase : purchasePlan now tables change = .ok (out, tables')) :
    tables.SameSales tables' := by
  simp only [purchasePlan, bind_eq_ok] at hpurchase
  obtain ⟨cleared, hclear, hpurchase⟩ := hpurchase
  obtain ⟨invoices, hissue⟩ := issueInvoice_eq now
    { cleared with
      subscriptions := cleared.subscriptions.insert (change.subscription now .pending none) }
    cleared.subscriptions.next (change.subscription now .pending none) change.plan now
    (now + creditPeriod) now
  split at hpurchase
  · simp at hpurchase
  all_goals
    simp only [pure_eq_ok, Prod.mk.injEq] at hpurchase
    obtain ⟨-, rfl⟩ := hpurchase
    rw [hissue]
    exact (clearOutstanding_sameSales hclear).trans ⟨rfl, rfl, rfl, rfl, rfl, rfl⟩

theorem applyPlanChange_sameSales {change : PlanChange} {out : ChangePlanOut}
    (happly : applyPlanChange now tables change = .ok (out, tables')) :
    tables.SameSales tables' := by
  unfold applyPlanChange at happly
  split at happly
  · obtain rfl : (moveToFreePlan now tables change).2 = tables' := by
      rw [Except.ok.inj happly]
    exact moveToFreePlan_sameSales now tables change
  · exact purchasePlan_sameSales happly

theorem changePlan_sameSales {accountId : ℕ} {planCode : String} {out : ChangePlanOut}
    (hchange : changePlan now tables accountId planCode = .ok (out, tables')) :
    tables.SameSales tables' := by
  simp only [changePlan, bind_eq_ok] at hchange
  obtain ⟨change, -, happly⟩ := hchange
  exact applyPlanChange_sameSales happly

/-- Folds of steps that leave the sales side alone. -/
theorem foldl_sameSales {α : Type} {step : Tables → α → Tables}
    (hstep : ∀ (current : Tables) row, current.SameSales (step current row)) (rows : List α)
    (tables : Tables) : tables.SameSales (rows.foldl step tables) := by
  induction rows generalizing tables with
  | nil => exact .refl tables
  | cons row rest ih => exact (hstep tables row).trans (ih _)

theorem freezeAccount_sameSales (settings : Settings) (tables : Tables)
    (overdue : ℕ × PlanInvoice × Account) :
    tables.SameSales (freezeAccount settings tables overdue) :=
  ⟨rfl, rfl, rfl, rfl, rfl, rfl⟩

theorem expirePurchase_sameSales (now : Instant) (tables : Tables)
    (parked : ℕ × PlanSubscription) : tables.SameSales (expirePurchase now tables parked) :=
  ⟨rfl, rfl, rfl, rfl, rfl, rfl⟩

theorem enforceGrace_sameSales (settings : Settings) (now : Instant) (tables : Tables)
    (limit : ℕ) : tables.SameSales (enforceGrace settings now tables limit).2 := by
  have hexpire : ∀ current : Tables,
      current.SameSales (expireAbandonedPurchases now current 500).2 :=
    fun current => foldl_sameSales (expirePurchase_sameSales now) _ current
  unfold enforceGrace
  dsimp only
  split
  · exact (foldl_sameSales (freezeAccount_sameSales settings) _ tables).trans (hexpire _)
  · exact hexpire tables

theorem forgiveInvoice_sameSales (now : Instant) (tables : Tables) (invoiceId : ℕ)
    (invoice : PlanInvoice) (status : InvoiceStatus) :
    tables.SameSales (forgiveInvoice now tables invoiceId invoice status) := by
  unfold forgiveInvoice
  dsimp only
  split
  · exact ⟨rfl, rfl, rfl, rfl, rfl, rfl⟩
  next subscriptionId _ =>
    obtain ⟨activated, hactivated⟩ := activateSubscription_eq now
      { tables with
        invoices := tables.invoices.update invoiceId fun row => { row with status := status } }
      subscriptionId
    rw [hactivated]
    obtain ⟨extended, hextended⟩ := extendCoverage_eq
      { tables with
        invoices := tables.invoices.update invoiceId fun row => { row with status := status }
        subscriptions := activated } invoice
    rw [hextended]
    exact ⟨rfl, rfl, rfl, rfl, rfl, rfl⟩

theorem resolveInvoice_sameSales {actorId invoiceId : ℕ} {action : ResolveAction}
    {reason : String} {amountCents : Option Int}
    (hresolve : resolveInvoice settings now tables actorId invoiceId action reason amountCents =
      .ok tables') : tables.SameSales tables' := by
  unfold resolveInvoice at hresolve
  split at hresolve
  · cases hresolve
  next invoice hinvoice =>
    split at hresolve
    · cases hresolve
    · obtain rfl := Except.ok.inj hresolve
      have hrun : tables.SameSales (action.run settings now tables invoiceId invoice) := by
        cases action with
        | markPaid => exact (settleInvoice_keeps _ _ _ _ _ _ _ _).2
        | void => exact ⟨rfl, rfl, rfl, rfl, rfl, rfl⟩
        | waive | credit => exact forgiveInvoice_sameSales _ _ _ _ _
      exact hrun.trans ⟨rfl, rfl, rfl, rfl, rfl, rfl⟩

theorem assignAccountPlan_sameSales {actorId accountId : ℕ} {planCode reason : String}
    {subscriptionId : ℕ}
    (hassign : assignAccountPlan now tables actorId accountId planCode reason =
      .ok (subscriptionId, tables')) : tables.SameSales tables' := by
  simp only [assignAccountPlan] at hassign
  split at hassign
  · simp [bind_eq_ok] at hassign
  split at hassign
  · simp at hassign
  split at hassign
  · exact absurd hassign throw_bind_ne_ok
  · simp only [pure_eq_ok, Prod.mk.injEq] at hassign
    obtain ⟨-, rfl⟩ := hassign
    exact ⟨rfl, rfl, rfl, rfl, rfl, rfl⟩

end Billing

end ChmabaPay
