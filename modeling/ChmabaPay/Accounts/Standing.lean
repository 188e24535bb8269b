import ChmabaPay.Stores.Effects

/-! # What the platform's operations leave of an account

Billing freezes an account and lifts its own freeze. Nothing the platform does by itself changes
who an account belongs to, makes an admin of it, suspends it or ends a suspension.
-/

namespace ChmabaPay

open Calendar Relational Execution Fallible

/-- The same account, as far as its owner and the operator are concerned. -/
structure Account.Stands (before after : Account) : Prop where
  email : after.email = before.email
  isPlatformAdmin : after.isPlatformAdmin = before.isPlatformAdmin
  suspended : after.status = .suspended ↔ before.status = .suspended

/-- An account stands, and one that is created is nobody's admin and not suspended. -/
def StandsAt : Option Account → Option Account → Prop
  | some before, some after => before.Stands after
  | none, some created => created.isPlatformAdmin = false ∧ created.status ≠ .suspended
  | none, none => True
  | some _, none => False

def AccountsStand (before after : Table Account) : Prop :=
  ∀ key, StandsAt (before.get? key) (after.get? key)

section Stands

variable {accounts first second : Table Account}

theorem Account.Stands.refl (account : Account) : account.Stands account :=
  ⟨rfl, rfl, Iff.rfl⟩

theorem StandsAt.refl (found : Option Account) : StandsAt found found := by
  cases found with
  | none => trivial
  | some account => exact Account.Stands.refl account

theorem AccountsStand.of_eq (heq : second = first) : AccountsStand first second := by
  subst heq
  exact fun key => .refl _

theorem AccountsStand.update (accounts : Table Account) (accountId : ℕ)
    {change : Account → Account}
    (hchange : ∀ account : Account, account.Stands (change account)) :
    AccountsStand accounts (accounts.update accountId change) := by
  intro key
  rw [Table.get?_update]
  split
  · cases accounts.get? key with
    | none => trivial
    | some account => exact hchange account
  · exact .refl _

theorem AccountsStand.insert (accounts : Table Account) {created : Account}
    (hadmin : created.isPlatformAdmin = false) (hserved : created.status ≠ .suspended) :
    AccountsStand accounts (accounts.insert created) := by
  intro key
  rw [Table.get?_insert]
  split
  · next hkey =>
    rw [hkey, Table.get?_next]
    exact ⟨hadmin, hserved⟩
  · exact .refl _

end Stands

/-! ## The services -/

section Services

variable {settings : Settings} {now : Instant} {tables tables' : Tables}

theorem liftBillingHold_accountsStand (tables : Tables) (accountId : ℕ) :
    AccountsStand tables.accounts (liftBillingHold tables accountId).accounts := by
  have hstands : ∀ account : Account, account.Stands
      (if account.status = .restricted then { account with status := .active } else account) := by
    intro account
    split
    · next hrestricted => exact ⟨rfl, rfl, by simp [hrestricted]⟩
    · exact .refl account
  exact .update tables.accounts accountId hstands

theorem welcomeBack_accountsStand (now : Instant) (tables : Tables) (accountId planId : ℕ) :
    AccountsStand tables.accounts (welcomeBack now tables accountId planId).accounts := by
  unfold welcomeBack
  split
  · exact .of_eq rfl
  · dsimp only
    split
    · exact liftBillingHold_accountsStand tables accountId
    · rw [applyStoreCap_accounts]
      exact liftBillingHold_accountsStand tables accountId

theorem settleInvoice_accountsStand (settings : Settings) (now : Instant) (tables : Tables)
    (invoiceId : ℕ) (invoice : PlanInvoice) (paymentId : Option ℕ) (paidAt : Instant)
    (source : String) : AccountsStand tables.accounts
      (settleInvoice settings now tables invoiceId invoice paymentId paidAt source).accounts := by
  by_cases hpaid : invoice.status = .paid
  · rw [settleInvoice, if_pos hpaid]
    exact .of_eq rfl
  cases hsubscription : invoice.subscriptionId with
  | none =>
      rw [settleInvoice, if_neg hpaid, hsubscription]
      exact .of_eq rfl
  | some subscriptionId =>
      cases hrow : tables.subscriptions.get? subscriptionId with
      | none =>
          simp only [settleInvoice, if_neg hpaid, hsubscription, Option.bind_some, hrow,
            Option.map_none]
          exact .of_eq rfl
      | some row =>
          obtain ⟨settled, heq, -, haccounts, -⟩ :=
            settleInvoice_eq_welcomeBack settings now tables invoiceId paymentId paidAt source
              hpaid hsubscription hrow
          rw [heq, ← haccounts]
          exact welcomeBack_accountsStand _ _ _ _

theorem settlePayment_accountsStand {paymentId : ℕ} {payment : Payment} {credit : Credit}
    (hsettle : settlePayment settings now tables paymentId payment credit = .ok tables') :
    AccountsStand tables.accounts tables'.accounts := by
  obtain ⟨store, settled, -, hinvoice, rfl⟩ := settlePayment_eq_ok hsettle
  obtain ⟨ledger, hrecord⟩ := recordSettlement_eq now tables paymentId
    (payment.settle now credit.bakongRef credit.gatewayRaw) store
  obtain ⟨events, deliveries, hretire⟩ := retireSuccessors_eq now settled paymentId store
  rw [hrecord] at hinvoice
  rw [hretire]
  rcases settleInvoiceForPayment_eq_ok hinvoice with
    ⟨-, rfl⟩ | ⟨invoiceId, invoice, -, -, -, rfl⟩
  · exact .of_eq rfl
  · exact settleInvoice_accountsStand settings now { tables with
      payments := tables.payments.update paymentId fun _ =>
        payment.settle now credit.bakongRef credit.gatewayRaw
      ledger := ledger } invoiceId invoice (some paymentId) now "khqr"

theorem moveToFreePlan_accountsStand (now : Instant) (tables : Tables) (change : PlanChange) :
    AccountsStand tables.accounts (moveToFreePlan now tables change).2.accounts := by
  have hopened : ∀ opened : Tables,
      opened.accounts = (liftBillingHold tables change.accountId).accounts →
      AccountsStand tables.accounts
        (applyStoreCap now opened change.accountId change.plan.maxStores).accounts := by
    intro opened haccounts
    rw [applyStoreCap_accounts, haccounts]
    exact liftBillingHold_accountsStand tables change.accountId
  unfold moveToFreePlan
  dsimp only
  cases change.old with
  | none | some =>
      apply hopened
      rfl

theorem purchasePlan_accounts {change : PlanChange} {out : ChangePlanOut}
    (hpurchase : purchasePlan now tables change = .ok (out, tables')) :
    tables'.accounts = tables.accounts := by
  simp only [purchasePlan, bind_eq_ok] at hpurchase
  obtain ⟨cleared, hclear, hpurchase⟩ := hpurchase
  have hcleared : cleared.accounts = tables.accounts := by
    unfold clearOutstanding at hclear
    split at hclear
    · obtain rfl := Except.ok.inj hclear
      rfl
    · split at hclear
      · cases hclear
      · obtain rfl := Except.ok.inj hclear
        rfl
  obtain ⟨invoices, hissue⟩ := issueInvoice_eq now
    { cleared with
      subscriptions := cleared.subscriptions.insert (change.subscription now .pending none) }
    cleared.subscriptions.next (change.subscription now .pending none) change.plan now
    (now + creditPeriod) now
  split at hpurchase
  · simp at hpurchase
  all_goals
    simp only [pure_eq_ok, Prod.mk.injEq] at hpurchase
    obtain ⟨-, rfl⟩ := hpurchase
    rw [hissue]
    exact hcleared

theorem forgiveInvoice_accountsStand (now : Instant) (tables : Tables) (invoiceId : ℕ)
    (invoice : PlanInvoice) (status : InvoiceStatus) :
    AccountsStand tables.accounts
      (forgiveInvoice now tables invoiceId invoice status).accounts := by
  have hlifted : ∀ granted : Tables, granted.accounts = tables.accounts →
      AccountsStand tables.accounts (liftBillingHold granted invoice.accountId).accounts := by
    intro granted haccounts
    rw [← haccounts]
    exact liftBillingHold_accountsStand granted invoice.accountId
  unfold forgiveInvoice
  dsimp only
  split
  · exact hlifted _ rfl
  next subscriptionId _ =>
    obtain ⟨activated, hactivated⟩ := activateSubscription_eq now
      { tables with
        invoices := tables.invoices.update invoiceId fun row => { row with status := status } }
      subscriptionId
    rw [hactivated]
    obtain ⟨extended, hextended⟩ := extendCoverage_eq
      { tables with
        invoices := tables.invoices.update invoiceId fun row => { row with status := status }
        subscriptions := activated } invoice
    rw [hextended]
    exact hlifted _ rfl

theorem resolveInvoice_accountsStand {actorId invoiceId : ℕ} {action : ResolveAction}
    {reason : String} {amountCents : Option Int}
    (hresolve : resolveInvoice settings now tables actorId invoiceId action reason amountCents =
      .ok tables') : AccountsStand tables.accounts tables'.accounts := by
  unfold resolveInvoice at hresolve
  split at hresolve
  · cases hresolve
  next invoice hinvoice =>
    split at hresolve
    · cases hresolve
    · obtain rfl := Except.ok.inj hresolve
      have hrun : AccountsStand tables.accounts
          (action.run settings now tables invoiceId invoice).accounts := by
        cases action with
        | markPaid => exact settleInvoice_accountsStand _ _ _ _ _ _ _ _
        | void => exact liftBillingHold_accountsStand _ _
        | waive | credit => exact forgiveInvoice_accountsStand _ _ _ _ _
      exact hrun

theorem invoicePayment_accounts {rail : Rail} {invoiceId : ℕ} {invoice : PlanInvoice}
    {storeId : ℕ} {store : Store} {publicId : String} {paymentId : ℕ}
    (hminted : invoicePayment settings rail now tables invoiceId invoice storeId store publicId =
      .ok (paymentId, tables')) : tables'.accounts = tables.accounts := by
  rcases invoicePayment_eq_ok hminted with
    ⟨storedId, stored, -, -, ⟨-, rfl⟩ | hreissue⟩ | ⟨request, -, -, hcreate⟩
  · rfl
  · rcases (reissuePayment_eq_ok hreissue).2 with ⟨rfl, -⟩ | ⟨payment, -, -, -, rfl⟩ <;> rfl
  · rcases createPayment_eq_ok hcreate with ⟨rfl, -⟩ | ⟨payment, -, -, rfl⟩ <;> rfl

theorem upsertAccount_accountsStand (now : Instant) (tables : Tables) (email name : String)
    (renameExisting : Bool) : AccountsStand tables.accounts
      (upsertAccount now tables email name renameExisting).2.accounts := by
  unfold upsertAccount
  split
  · unfold ensureFreeSubscription
    dsimp only
    split <;> exact .insert _ rfl (by simp)
  · have hstands : ∀ account : Account, account.Stands
        (if renameExisting ∧ name ≠ "" then { account with name := name } else account) := by
      intro account
      split
      · exact ⟨rfl, rfl, Iff.rfl⟩
      · exact .refl account
    exact .update tables.accounts _ hstands

theorem assignAccountPlan_accounts {actorId accountId : ℕ} {planCode reason : String}
    {subscriptionId : ℕ}
    (hassign : assignAccountPlan now tables actorId accountId planCode reason =
      .ok (subscriptionId, tables')) : tables'.accounts = tables.accounts := by
  simp only [assignAccountPlan] at hassign
  split at hassign
  · simp [bind_eq_ok] at hassign
  split at hassign
  · simp at hassign
  split at hassign
  · exact absurd hassign throw_bind_ne_ok
  · simp only [pure_eq_ok, Prod.mk.injEq] at hassign
    obtain ⟨-, rfl⟩ := hassign
    rfl

/-- The sweep freezes accounts that are active. -/
theorem enforceGrace_accountsStand (settings : Settings) (now : Instant) (tables : Tables)
    (limit : ℕ) :
    AccountsStand tables.accounts (enforceGrace settings now tables limit).2.accounts := by
  intro key
  rcases (enforceGrace_swept settings now tables limit).restricted key with
    hsame | ⟨account, hget, ⟨_, _, _, _, hdunned, howned, -⟩, hrestricted⟩
  · rw [hsame]
    exact .refl _
  · rw [hget, hrestricted]
    have howner := hdunned.owner
    rw [howned, hget, Option.some_inj] at howner
    have hactive : account.status = .active := howner ▸ hdunned.active
    exact ⟨rfl, rfl, by simp [Account.restrict, hactive]⟩

end Services

/-! ## Every operation -/

theorem perform_accountsStand {settings : Settings} {now : Instant} {tables tables' : Tables}
    {op : Op} {response : Response}
    (hperform : perform settings now tables op = .ok (response, tables')) :
    AccountsStand tables.accounts tables'.accounts := by
  cases op with
  | signUp email name renameExisting =>
      simp only [perform, Except.ok.injEq, Prod.mk.injEq] at hperform
      obtain ⟨-, rfl⟩ := hperform
      exact upsertAccount_accountsStand now tables email name renameExisting
  | createPayment rail storeId request publicId =>
      simp only [perform, bind_eq_ok, pure_eq_ok, Prod.mk.injEq] at hperform
      obtain ⟨store, -, ⟨paymentId, created⟩, hcreate, -, rfl⟩ := hperform
      rcases createPayment_eq_ok hcreate with ⟨rfl, -⟩ | ⟨payment, -, -, rfl⟩ <;>
        exact .of_eq rfl
  | reissuePayment rail parentId publicId =>
      simp only [perform, bind_eq_ok, pure_eq_ok, Prod.mk.injEq] at hperform
      obtain ⟨parent, -, ⟨paymentId, created⟩, hreissue, -, rfl⟩ := hperform
      rcases (reissuePayment_eq_ok hreissue).2 with ⟨rfl, -⟩ | ⟨payment, -, -, -, rfl⟩ <;>
        exact .of_eq rfl
  | markScanned paymentId =>
      simp only [perform, bind_eq_ok, pure_eq_ok, Prod.mk.injEq] at hperform
      obtain ⟨scanned, hscan, -, rfl⟩ := hperform
      rcases markScanned_eq_ok hscan with rfl | ⟨payment, events, deliveries, -, -, rfl⟩ <;>
        exact .of_eq rfl
  | markPaid publicId credit =>
      simp only [perform, bind_eq_ok, pure_eq_ok, Prod.mk.injEq] at hperform
      obtain ⟨⟨settledId, settled⟩, hmark, -, rfl⟩ := hperform
      rcases markPaid_eq_ok hmark with ⟨-, rfl⟩ | ⟨paymentId, payment, -, -, -, hsettle⟩
      · exact .of_eq rfl
      · exact settlePayment_accountsStand hsettle
  | reversePayment paymentId reason =>
      simp only [perform, bind_eq_ok, pure_eq_ok, Prod.mk.injEq] at hperform
      obtain ⟨payment, -, reversed, hreverse, -, rfl⟩ := hperform
      obtain ⟨-, events, deliveries, ledger, rfl⟩ := reversePayment_eq_ok hreverse
      exact .of_eq rfl
  | expireDuePayments =>
      simp only [perform, bind_eq_ok, pure_eq_ok, Prod.mk.injEq] at hperform
      obtain ⟨⟨count, expired⟩, hexpire, -, rfl⟩ := hperform
      obtain ⟨events, deliveries, rfl⟩ := expireDuePayments_eq_ok hexpire
      exact .of_eq rfl
  | changePlan accountId planCode =>
      simp only [perform, changePlan, bind_eq_ok, pure_eq_ok, Prod.mk.injEq] at hperform
      obtain ⟨⟨out, changed⟩, ⟨change, hread, happly⟩, -, rfl⟩ := hperform
      unfold applyPlanChange at happly
      split at happly
      · obtain rfl : (moveToFreePlan now tables change).2 = changed := by
          rw [Except.ok.inj happly]
        exact moveToFreePlan_accountsStand now tables change
      · exact .of_eq (purchasePlan_accounts happly)
  | getInvoiceKhqr rail accountId invoiceId publicId =>
      simp only [perform, bind_eq_ok, pure_eq_ok, Prod.mk.injEq] at hperform
      obtain ⟨⟨paymentId, collected⟩, hkhqr, -, rfl⟩ := hperform
      obtain ⟨invoice, minted, hqId, hq, -, -, -, -, hminted, rfl⟩ := getInvoiceKhqr_eq_ok hkhqr
      have haccounts : minted.accounts = tables.accounts := invoicePayment_accounts hminted
      exact .of_eq haccounts
  | issueDueInvoices limit =>
      simp only [perform, Except.ok.injEq, Prod.mk.injEq] at hperform
      obtain ⟨-, rfl⟩ := hperform
      obtain ⟨invoices, heq⟩ := issueDueInvoices_eq settings now tables limit
      rw [heq]
      exact .of_eq rfl
  | enforceGrace limit =>
      simp only [perform, Except.ok.injEq, Prod.mk.injEq] at hperform
      obtain ⟨-, rfl⟩ := hperform
      exact enforceGrace_accountsStand settings now tables limit
  | resolveInvoice actorId invoiceId action reason amountCents =>
      simp only [perform, bind_eq_ok, pure_eq_ok, Prod.mk.injEq] at hperform
      obtain ⟨resolved, hresolve, -, rfl⟩ := hperform
      exact resolveInvoice_accountsStand hresolve
  | assignAccountPlan actorId accountId planCode reason =>
      simp only [perform, bind_eq_ok, pure_eq_ok, Prod.mk.injEq] at hperform
      obtain ⟨⟨subscriptionId, assigned⟩, hassign, -, rfl⟩ := hperform
      exact .of_eq (assignAccountPlan_accounts hassign)

end ChmabaPay
