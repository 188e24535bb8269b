import ChmabaPay.Billing.Overdue
import ChmabaPay.Billing.Runs
import ChmabaPay.Billing.Sales
import ChmabaPay.Payments.Evolution
import ChmabaPay.Stores.Places

/-! # What the operations do to stores and to administrators

Stores change through the store cap alone, and a freeze never meets a platform
administrator. A moved slot is the one request on stores themselves, so it joins the
platform's operations here.
-/

namespace ChmabaPay

open Calendar Relational Execution Fallible

/-! ## The machine -/

/-- The platform's operations and the merchant's choice of a live store. -/
inductive StoreOp where
  | request (op : Op)
  | moveSlot (accountId : ℕ) (storePublicId : String)

structure StoreInput where
  elapsed : ℕ
  op : StoreOp

def StoreInput.moment (input : StoreInput) (world : World) : Instant :=
  world.clock + input.elapsed

def storeTransact (settings : Settings) (now : Instant) (db : Database) :
    StoreOp → Except Failure Database
  | .request op => (transact settings now db op).map Prod.snd
  | .moveSlot accountId storePublicId => do
      let (_, moved) ← moveStoreSlot now db.tables accountId storePublicId
      moved.commit

def storeStep (settings : Settings) (world : World) (input : StoreInput) :
    World × Except Failure Unit :=
  match storeTransact settings (input.moment world) world.db input.op with
  | .error failure => ({ world with clock := input.moment world }, .error failure)
  | .ok db => ({ clock := input.moment world, db := db }, .ok ())

/-- A step that goes through commits what its operation leaves. -/
theorem storeTransact_eq_ok {settings : Settings} {now : Instant} {db committed : Database}
    {op : StoreOp} (htransact : storeTransact settings now db op = .ok committed) :
    (∃ request response, op = .request request ∧
        perform settings now db.tables request = .ok (response, committed.tables)) ∨
      ∃ accountId storePublicId move, op = .moveSlot accountId storePublicId ∧
        moveStoreSlot now db.tables accountId storePublicId = .ok (move, committed.tables) := by
  cases op with
  | request request =>
      simp only [storeTransact] at htransact
      cases hrequest : transact settings now db request with
      | error failure =>
          rw [hrequest] at htransact
          cases htransact
      | ok outcome =>
          rw [hrequest] at htransact
          obtain rfl := Except.ok.inj htransact
          simp only [transact, bind_eq_ok, pure_eq_ok] at hrequest
          obtain ⟨⟨response, tables⟩, hperform, found, hcommit, rfl⟩ := hrequest
          have htables : found.tables = tables := Tables.commit_eq_ok hcommit
          exact .inl ⟨request, response, rfl, htables ▸ hperform⟩
  | moveSlot accountId storePublicId =>
      simp only [storeTransact, bind_eq_ok] at htransact
      obtain ⟨⟨move, moved⟩, hmove, hcommit⟩ := htransact
      have htables : committed.tables = moved := Tables.commit_eq_ok hcommit
      exact .inr ⟨accountId, storePublicId, move, rfl, htables ▸ hmove⟩

/-! ## Caps and freezes -/

/-- The allowance an operation applies to an account's stores: that of the free plan it
moves to, or of the plan an invoice was settled for. -/
def Op.Caps (tables : Tables) (op : Op) (accountId : ℕ) (maxStores : Option ℕ) : Prop :=
  match op with
  | .changePlan requester planCode => requester = accountId ∧ ∃ change,
      readPlanChange tables requester planCode = .ok change ∧
        change.plan.monthlyFeeCents ≤ 0 ∧ change.plan.maxStores = maxStores
  | .markPaid .. | .resolveInvoice .. => ∃ key invoice subscriptionId row plan,
      tables.invoices.get? key = some invoice ∧ op.settles tables key invoice ∧
        invoice.accountId = accountId ∧ invoice.subscriptionId = some subscriptionId ∧
        tables.subscriptions.get? subscriptionId = some row ∧
        tables.plans.get? row.planId = some plan ∧ plan.maxStores = maxStores
  | _ => False

/-- Administrators stay what they are, and none is frozen. -/
def AdminsServed (before after : Tables) : Prop :=
  ∀ key account, before.accounts.get? key = some account →
    ∃ account', after.accounts.get? key = some account' ∧
      account'.isPlatformAdmin = account.isPlatformAdmin ∧
      (account.isPlatformAdmin = true → account'.status = .restricted →
        account.status = .restricted)

/-- Stores change by a cap the operation applies, and no administrator is frozen. -/
structure Housed (now : Instant) (caps : ℕ → Option ℕ → Prop) (before after : Tables) : Prop where
  stores : after.stores = before.stores ∨ ∃ accountId maxStores, caps accountId maxStores ∧
    after.stores = (applyStoreCap now before accountId maxStores).stores
  admins : AdminsServed before after

section Housed

variable {settings : Settings} {now : Instant} {tables tables' : Tables}
  {caps : ℕ → Option ℕ → Prop}

theorem AdminsServed.of_eq (haccounts : tables'.accounts = tables.accounts) :
    AdminsServed tables tables' :=
  fun _ account haccount => ⟨account, haccounts ▸ haccount, rfl, fun _ => id⟩

theorem AdminsServed.trans {first second third : Tables} (hfirst : AdminsServed first second)
    (hsecond : AdminsServed second third) : AdminsServed first third := by
  intro key account haccount
  obtain ⟨middle, hmiddle, hadmin, hfrozen⟩ := hfirst key account haccount
  obtain ⟨account', haccount', hadmin', hfrozen'⟩ := hsecond key middle hmiddle
  refine ⟨account', haccount', hadmin'.trans hadmin, fun hself hrestricted => ?_⟩
  exact hfrozen hself (hfrozen' (hadmin.trans hself) hrestricted)

/-- An edit of one account row. -/
theorem AdminsServed.of_update (accountId : ℕ) (change : Account → Account)
    (haccounts : tables'.accounts = tables.accounts.update accountId change)
    (hadmin : ∀ account, (change account).isPlatformAdmin = account.isPlatformAdmin)
    (hfrozen : ∀ account, tables.accounts.get? accountId = some account →
      account.isPlatformAdmin = true → (change account).status = .restricted →
      account.status = .restricted) : AdminsServed tables tables' := by
  intro key account haccount
  rw [haccounts, Table.get?_update, haccount]
  split
  · next hkey =>
    exact ⟨change account, rfl, hadmin account, hfrozen account (hkey ▸ haccount)⟩
  · exact ⟨account, rfl, rfl, fun _ => id⟩

theorem Housed.idle (hstores : tables'.stores = tables.stores)
    (haccounts : tables'.accounts = tables.accounts) : Housed now caps tables tables' :=
  ⟨.inl hstores, .of_eq haccounts⟩

/-- The cap reads the stores table alone. -/
theorem applyStoreCap_stores_congr (now : Instant) {first second : Tables}
    (hstores : first.stores = second.stores) (accountId : ℕ) (maxStores : Option ℕ) :
    (applyStoreCap now first accountId maxStores).stores =
      (applyStoreCap now second accountId maxStores).stores := by
  cases maxStores with
  | none => exact hstores
  | some cap =>
      simp only [applyStoreCap_some, hstores]
      split
      · simp only [Tables.holdStores, hstores]
      · split
        · simp only [Tables.holdStores, hstores]
        · exact hstores

/-- An operation that starts from the same stores and accounts. -/
theorem Housed.from {middle : Tables} (hhoused : Housed now caps middle tables')
    (hstores : middle.stores = tables.stores) (haccounts : middle.accounts = tables.accounts) :
    Housed now caps tables tables' := by
  refine ⟨?_, (AdminsServed.of_eq haccounts).trans hhoused.admins⟩
  rcases hhoused.stores with hsame | ⟨accountId, maxStores, happlied, hcapped⟩
  · exact .inl (hsame.trans hstores)
  · exact .inr ⟨accountId, maxStores, happlied,
      hcapped.trans (applyStoreCap_stores_congr now hstores accountId maxStores)⟩

theorem liftBillingHold_adminsServed (tables : Tables) (accountId : ℕ) :
    AdminsServed tables (liftBillingHold tables accountId) := by
  refine .of_update accountId
    (fun account => if account.status = .restricted then { account with status := .active }
      else account) rfl (fun account => ?_) fun account _ _ hfrozen => ?_
  · split <;> rfl
  · split at hfrozen
    · cases hfrozen
    · exact hfrozen

@[simp] theorem applyStoreCap_accounts (now : Instant) (tables : Tables) (accountId : ℕ)
    (maxStores : Option ℕ) :
    (applyStoreCap now tables accountId maxStores).accounts = tables.accounts := by
  obtain ⟨keep, moment, heq⟩ := applyStoreCap_eq now tables accountId maxStores
  rw [heq]

/-- The welcome applies the allowance of a plan that exists. -/
theorem welcomeBack_stores (now : Instant) (tables : Tables) (accountId planId : ℕ) :
    (welcomeBack now tables accountId planId).stores =
      match tables.accounts.get? accountId, tables.plans.get? planId with
      | some _, some plan => (applyStoreCap now tables accountId plan.maxStores).stores
      | _, _ => tables.stores := by
  unfold welcomeBack
  cases tables.accounts.get? accountId with
  | none => rfl
  | some account =>
      have hplans : (liftBillingHold tables accountId).plans = tables.plans := rfl
      dsimp only
      rw [hplans]
      cases tables.plans.get? planId with
      | none => rfl
      | some plan =>
          exact applyStoreCap_stores_congr now
            (show (liftBillingHold tables accountId).stores = tables.stores from rfl) _ _

theorem welcomeBack_adminsServed (now : Instant) (tables : Tables) (accountId planId : ℕ) :
    AdminsServed tables (welcomeBack now tables accountId planId) := by
  unfold welcomeBack
  split
  · exact .of_eq rfl
  · dsimp only
    split
    · exact liftBillingHold_adminsServed tables accountId
    · exact (liftBillingHold_adminsServed tables accountId).trans
        (.of_eq (applyStoreCap_accounts _ _ _ _))

/-! ## A settlement -/

section Settlement

variable {invoice : PlanInvoice}

/-- What a settlement does before it welcomes the merchant back. -/
theorem settleInvoice_eq_welcomeBack (settings : Settings) (now : Instant) (tables : Tables)
    (invoiceId : ℕ) (paymentId : Option ℕ) (paidAt : Instant) (source : String)
    (hunpaid : invoice.status ≠ .paid) {subscriptionId : ℕ} {row : PlanSubscription}
    (hsubscription : invoice.subscriptionId = some subscriptionId)
    (hrow : tables.subscriptions.get? subscriptionId = some row) :
    ∃ settled, settleInvoice settings now tables invoiceId invoice paymentId paidAt source =
        welcomeBack now settled invoice.accountId row.planId ∧
      settled.stores = tables.stores ∧ settled.accounts = tables.accounts ∧
      settled.plans = tables.plans := by
  unfold settleInvoice
  rw [if_neg hunpaid, hsubscription]
  simp only [Option.bind_some, hrow, Option.map_some]
  split
  · exact ⟨_, rfl, rfl, rfl, rfl⟩
  · obtain ⟨subscriptions, invoices, heq⟩ :=
      payInvoice_eq now tables invoiceId invoice subscriptionId paidAt
    rw [heq]
    exact ⟨_, rfl, rfl, rfl, rfl⟩

theorem settleInvoice_housed (settings : Settings) (now : Instant) (tables : Tables)
    (invoiceId : ℕ) (paymentId : Option ℕ) (paidAt : Instant) (source : String)
    (hcaps : ∀ subscriptionId row plan, invoice.status ≠ .paid →
      invoice.subscriptionId = some subscriptionId →
      tables.subscriptions.get? subscriptionId = some row →
      tables.plans.get? row.planId = some plan → caps invoice.accountId plan.maxStores) :
    Housed now caps tables
      (settleInvoice settings now tables invoiceId invoice paymentId paidAt source) := by
  by_cases hpaid : invoice.status = .paid
  · rw [settleInvoice, if_pos hpaid]
    exact .idle rfl rfl
  cases hsubscription : invoice.subscriptionId with
  | none =>
      rw [settleInvoice, if_neg hpaid, hsubscription]
      exact .idle rfl rfl
  | some subscriptionId =>
      cases hrow : tables.subscriptions.get? subscriptionId with
      | none =>
          simp only [settleInvoice, if_neg hpaid, hsubscription, Option.bind_some, hrow,
            Option.map_none]
          exact .idle rfl rfl
      | some row =>
          obtain ⟨settled, heq, hstores, haccounts, hplans⟩ :=
            settleInvoice_eq_welcomeBack settings now tables invoiceId paymentId paidAt source
              hpaid hsubscription hrow
          rw [heq]
          refine ⟨?_, (AdminsServed.of_eq haccounts).trans (welcomeBack_adminsServed _ _ _ _)⟩
          rw [welcomeBack_stores, hplans]
          cases settled.accounts.get? invoice.accountId with
          | none => exact .inl hstores
          | some account =>
              cases hplan : tables.plans.get? row.planId with
              | none => exact .inl hstores
              | some plan =>
                  exact .inr ⟨_, _, hcaps subscriptionId row plan hpaid hsubscription hrow hplan,
                    applyStoreCap_stores_congr now hstores _ _⟩

end Settlement

/-! ## A freeze -/

/-- Freezing merchants leaves the administrators served. -/
theorem foldl_freezeAccount_housed {due : List (ℕ × PlanInvoice × Account)}
    (hmerchants : ∀ row ∈ due, ∀ account, tables.accounts.get? row.2.1.accountId = some account →
      account.isPlatformAdmin = false) :
    Housed now caps tables (due.foldl (freezeAccount settings) tables) := by
  induction due generalizing tables with
  | nil => exact .idle rfl rfl
  | cons row rest ih =>
      have hmerchant := hmerchants row List.mem_cons_self
      have hone : AdminsServed tables (freezeAccount settings tables row) := by
        refine .of_update row.2.1.accountId (fun account => { account with status := .restricted })
          rfl (fun _ => rfl) fun account hget hadmin _ => ?_
        rw [hmerchant account hget] at hadmin
        cases hadmin
      have hrest : Housed now caps (freezeAccount settings tables row)
          (rest.foldl (freezeAccount settings) (freezeAccount settings tables row)) := by
        refine ih fun other hother account haccount => ?_
        simp only [freezeAccount, recordAudit, Table.get?_update] at haccount
        split at haccount
        · obtain ⟨before, hget, rfl⟩ := Option.map_eq_some_iff.mp haccount
          exact hmerchants other (List.mem_cons_of_mem _ hother) before hget
        · exact hmerchants other (List.mem_cons_of_mem _ hother) account haccount
      refine ⟨?_, hone.trans hrest.admins⟩
      rcases hrest.stores with hsame | ⟨accountId, maxStores, hcaps, hstores⟩
      · exact .inl hsame
      · exact .inr ⟨accountId, maxStores, hcaps, hstores.trans
          (applyStoreCap_stores_congr now
            (show (freezeAccount settings tables row).stores = tables.stores from rfl) _ _)⟩

theorem foldl_expirePurchase_frame (now : Instant) (parked : List (ℕ × PlanSubscription))
    (tables : Tables) :
    (parked.foldl (expirePurchase now) tables).stores = tables.stores ∧
      (parked.foldl (expirePurchase now) tables).accounts = tables.accounts := by
  induction parked generalizing tables with
  | nil => exact ⟨rfl, rfl⟩
  | cons row rest ih => exact ih (expirePurchase now tables row)

theorem enforceGrace_housed (settings : Settings) (now : Instant) (tables : Tables)
    (limit : ℕ) : Housed now caps tables (enforceGrace settings now tables limit).2 := by
  unfold enforceGrace expireAbandonedPurchases
  dsimp only
  split
  · set due := ((unpaidInvoiceQuery tables true).take limit).filter fun row =>
      row.2.1.dueAt.any fun dueAt => decide (dueAt + gracePeriod settings ≤ now)
    have hfrozen : Housed now caps tables (due.foldl (freezeAccount settings) tables) := by
      refine foldl_freezeAccount_housed fun row hrow account haccount => ?_
      have hmem := List.mem_of_mem_take (List.mem_of_mem_filter hrow)
      -- the sweep asks for merchants only
      obtain ⟨_, hdunned⟩ := mem_unpaidInvoiceQuery_iff.mp hmem
      rw [← Option.some.inj (hdunned.owner.symm.trans haccount)]
      exact hdunned.merchant rfl
    generalize due.foldl (freezeAccount settings) tables = frozen at hfrozen ⊢
    obtain ⟨hstores, haccounts⟩ := foldl_expirePurchase_frame now
      ((frozen.subscriptions.select fun _ row =>
        decide (row.status = .pending) && decide (row.createdAt ≤ now - creditPeriod)).take 500)
      frozen
    exact ⟨by rw [hstores]; exact hfrozen.stores, hfrozen.admins.trans (.of_eq haccounts)⟩
  · obtain ⟨hstores, haccounts⟩ := foldl_expirePurchase_frame now
      ((tables.subscriptions.select fun _ row =>
        decide (row.status = .pending) && decide (row.createdAt ≤ now - creditPeriod)).take 500)
      tables
    exact .idle hstores haccounts

/-! ## Every operation -/

theorem settlePayment_housed {paymentId : ℕ} {payment : Payment} {credit : Credit}
    (hcaps : ∀ key invoice subscriptionId row plan, tables.invoices.get? key = some invoice →
      invoice.chmabapayPaymentId = some paymentId → invoice.status ≠ .paid →
      invoice.subscriptionId = some subscriptionId →
      tables.subscriptions.get? subscriptionId = some row →
      tables.plans.get? row.planId = some plan → caps invoice.accountId plan.maxStores)
    (hsettle : settlePayment settings now tables paymentId payment credit = .ok tables') :
    Housed now caps tables tables' := by
  obtain ⟨store, settled, -, hinvoice, rfl⟩ := settlePayment_eq_ok hsettle
  obtain ⟨ledger, hrecord⟩ := recordSettlement_eq now tables paymentId
    (payment.settle now credit.bakongRef credit.gatewayRaw) store
  obtain ⟨events, deliveries, hretire⟩ := retireSuccessors_eq now settled paymentId store
  have hsettled : Housed now caps tables settled := by
    rw [hrecord] at hinvoice
    rcases settleInvoiceForPayment_eq_ok hinvoice with
      ⟨-, rfl⟩ | ⟨invoiceId, invoice, hget, hpointer, -, rfl⟩
    · exact .idle rfl rfl
    · have hhoused := settleInvoice_housed settings now { tables with
          payments := tables.payments.update paymentId fun _ =>
            payment.settle now credit.bakongRef credit.gatewayRaw
          ledger := ledger } invoiceId (some paymentId) now "khqr"
        fun subscriptionId row plan hunpaid hsubscription hrow hplan =>
          hcaps invoiceId invoice subscriptionId row plan hget hpointer hunpaid hsubscription
            hrow hplan
      exact hhoused.from rfl rfl
  rw [hretire]
  exact ⟨hsettled.stores, hsettled.admins⟩

theorem moveToFreePlan_housed (now : Instant) (tables : Tables) {change : PlanChange}
    (hcaps : caps change.accountId change.plan.maxStores) :
    Housed now caps tables (moveToFreePlan now tables change).2 := by
  have hopened : ∀ opened : Tables, opened.stores = tables.stores →
      opened.accounts = (liftBillingHold tables change.accountId).accounts →
      Housed now caps tables
        (applyStoreCap now opened change.accountId change.plan.maxStores) := by
    intro opened hstores haccounts
    refine ⟨.inr ⟨_, _, hcaps, applyStoreCap_stores_congr now hstores _ _⟩, ?_⟩
    refine (liftBillingHold_adminsServed tables change.accountId).trans (.of_eq ?_)
    rw [applyStoreCap_accounts, haccounts]
  unfold moveToFreePlan
  dsimp only
  cases change.old with
  | none | some => refine ⟨(hopened _ ?_ ?_).stores, (hopened _ ?_ ?_).admins⟩ <;> rfl

theorem purchasePlan_housed {change : PlanChange} {out : ChangePlanOut}
    (hpurchase : purchasePlan now tables change = .ok (out, tables')) :
    Housed now caps tables tables' := by
  simp only [purchasePlan, bind_eq_ok] at hpurchase
  obtain ⟨cleared, hclear, hpurchase⟩ := hpurchase
  have hcleared : cleared.stores = tables.stores ∧ cleared.accounts = tables.accounts := by
    unfold clearOutstanding at hclear
    split at hclear
    · obtain rfl := Except.ok.inj hclear
      exact ⟨rfl, rfl⟩
    · split at hclear
      · cases hclear
      · obtain rfl := Except.ok.inj hclear
        exact ⟨rfl, rfl⟩
  obtain ⟨invoices, hissue⟩ := issueInvoice_eq now
    { cleared with
      subscriptions := cleared.subscriptions.insert (change.subscription now .pending none) }
    cleared.subscriptions.next (change.subscription now .pending none) change.plan now
    (now + creditPeriod) now
  split at hpurchase
  · simp at hpurchase
  all_goals
    simp only [pure_eq_ok, Prod.mk.injEq] at hpurchase
    obtain ⟨-, rfl⟩ := hpurchase
    rw [hissue]
    exact .idle hcleared.1 hcleared.2

theorem forgiveInvoice_housed (now : Instant) (tables : Tables) (invoiceId : ℕ)
    (invoice : PlanInvoice) (status : InvoiceStatus) :
    Housed now caps tables (forgiveInvoice now tables invoiceId invoice status) := by
  have hlifted : ∀ granted : Tables, granted.stores = tables.stores →
      granted.accounts = tables.accounts →
      Housed now caps tables (liftBillingHold granted invoice.accountId) :=
    fun granted hstores haccounts => ⟨.inl hstores,
      (AdminsServed.of_eq haccounts).trans (liftBillingHold_adminsServed _ _)⟩
  unfold forgiveInvoice
  dsimp only
  split
  · exact hlifted _ rfl rfl
  next subscriptionId _ =>
    obtain ⟨activated, hactivated⟩ := activateSubscription_eq now
      { tables with
        invoices := tables.invoices.update invoiceId fun row => { row with status := status } }
      subscriptionId
    rw [hactivated]
    obtain ⟨extended, hextended⟩ := extendCoverage_eq
      { tables with
        invoices := tables.invoices.update invoiceId fun row => { row with status := status }
        subscriptions := activated } invoice
    rw [hextended]
    exact hlifted _ rfl rfl

theorem resolveInvoice_housed {actorId invoiceId : ℕ} {action : ResolveAction} {reason : String}
    {amountCents : Option Int}
    (hcaps : ∀ invoice subscriptionId row plan, tables.invoices.get? invoiceId = some invoice →
      invoice.status.isResolved = false → action = .markPaid →
      invoice.subscriptionId = some subscriptionId →
      tables.subscriptions.get? subscriptionId = some row →
      tables.plans.get? row.planId = some plan → caps invoice.accountId plan.maxStores)
    (hresolve : resolveInvoice settings now tables actorId invoiceId action reason amountCents =
      .ok tables') : Housed now caps tables tables' := by
  unfold resolveInvoice at hresolve
  split at hresolve
  · cases hresolve
  next invoice hinvoice =>
    split at hresolve
    · cases hresolve
    · next hopen =>
      obtain rfl := Except.ok.inj hresolve
      have hrun : Housed now caps tables (action.run settings now tables invoiceId invoice) := by
        cases action with
        | markPaid =>
            exact settleInvoice_housed settings now tables invoiceId none now "admin"
              fun subscriptionId row plan _ hsubscription hrow hplan =>
                hcaps invoice subscriptionId row plan hinvoice (by simpa using hopen) rfl
                  hsubscription hrow hplan
        | void => exact ⟨.inl rfl, liftBillingHold_adminsServed _ _⟩
        | waive | credit => exact forgiveInvoice_housed _ _ _ _ _
      exact ⟨hrun.stores, hrun.admins⟩

theorem invoicePayment_housed {rail : Rail} {invoiceId : ℕ} {invoice : PlanInvoice}
    {storeId : ℕ} {store : Store} {publicId : String} {paymentId : ℕ}
    (hminted : invoicePayment settings rail now tables invoiceId invoice storeId store publicId =
      .ok (paymentId, tables')) : Housed now caps tables tables' := by
  rcases invoicePayment_eq_ok hminted with
    ⟨storedId, stored, -, -, ⟨-, rfl⟩ | hreissue⟩ | ⟨request, -, -, hcreate⟩
  · exact .idle rfl rfl
  · rcases (reissuePayment_eq_ok hreissue).2 with ⟨rfl, -⟩ | ⟨payment, -, -, -, rfl⟩ <;>
      exact .idle rfl rfl
  · rcases createPayment_eq_ok hcreate with ⟨rfl, -⟩ | ⟨payment, -, -, rfl⟩ <;>
      exact .idle rfl rfl

theorem upsertAccount_housed (now : Instant) (tables : Tables) (email name : String)
    (renameExisting : Bool) :
    Housed now caps tables (upsertAccount now tables email name renameExisting).2 := by
  unfold upsertAccount
  split
  · have hcreated : ∀ account, AdminsServed tables { tables with
        accounts := tables.accounts.insert account } := by
      intro created key account haccount
      have hkey : key ≠ tables.accounts.next := by
        rintro rfl
        simp at haccount
      rw [Table.get?_insert, if_neg hkey]
      exact ⟨account, haccount, rfl, fun _ => id⟩
    unfold ensureFreeSubscription
    dsimp only
    split <;> exact ⟨.inl rfl, hcreated _⟩
  · next accountId _ _ =>
    refine ⟨.inl rfl, .of_update accountId
      (fun account => if renameExisting ∧ name ≠ "" then { account with name := name }
        else account) rfl (fun account => ?_) fun account _ _ hfrozen => ?_⟩
    · split <;> rfl
    · split at hfrozen <;> exact hfrozen

theorem assignAccountPlan_housed {actorId accountId : ℕ} {planCode reason : String}
    {subscriptionId : ℕ}
    (hassign : assignAccountPlan now tables actorId accountId planCode reason =
      .ok (subscriptionId, tables')) : Housed now caps tables tables' := by
  simp only [assignAccountPlan] at hassign
  split at hassign
  · simp [bind_eq_ok] at hassign
  split at hassign
  · simp at hassign
  split at hassign
  · exact absurd hassign throw_bind_ne_ok
  · simp only [pure_eq_ok, Prod.mk.injEq] at hassign
    obtain ⟨-, rfl⟩ := hassign
    exact .idle rfl rfl

theorem perform_housed {op : Op} {response : Response}
    (hperform : perform settings now tables op = .ok (response, tables')) :
    Housed now (op.Caps tables) tables tables' := by
  cases op with
  | signUp email name renameExisting =>
      simp only [perform, Except.ok.injEq, Prod.mk.injEq] at hperform
      obtain ⟨-, rfl⟩ := hperform
      exact upsertAccount_housed now tables email name renameExisting
  | createPayment rail storeId request publicId =>
      simp only [perform, bind_eq_ok, pure_eq_ok, Prod.mk.injEq] at hperform
      obtain ⟨store, -, ⟨paymentId, created⟩, hcreate, -, rfl⟩ := hperform
      rcases createPayment_eq_ok hcreate with ⟨rfl, -⟩ | ⟨payment, -, -, rfl⟩ <;>
        exact .idle rfl rfl
  | reissuePayment rail parentId publicId =>
      simp only [perform, bind_eq_ok, pure_eq_ok, Prod.mk.injEq] at hperform
      obtain ⟨parent, -, ⟨paymentId, created⟩, hreissue, -, rfl⟩ := hperform
      rcases (reissuePayment_eq_ok hreissue).2 with ⟨rfl, -⟩ | ⟨payment, -, -, -, rfl⟩ <;>
        exact .idle rfl rfl
  | markScanned paymentId =>
      simp only [perform, bind_eq_ok, pure_eq_ok, Prod.mk.injEq] at hperform
      obtain ⟨scanned, hscan, -, rfl⟩ := hperform
      rcases markScanned_eq_ok hscan with rfl | ⟨payment, events, deliveries, -, -, rfl⟩ <;>
        exact .idle rfl rfl
  | markPaid publicId credit =>
      simp only [perform, bind_eq_ok, pure_eq_ok, Prod.mk.injEq] at hperform
      obtain ⟨⟨settledId, settled⟩, hmark, -, rfl⟩ := hperform
      rcases markPaid_eq_ok hmark with ⟨-, rfl⟩ | ⟨paymentId, payment, -, hfind, hopen, hsettle⟩
      · exact .idle rfl rfl
      · refine settlePayment_housed (fun key invoice subscriptionId row plan hget hpointer hunpaid
          hsubscription hrow hplan => ?_) hsettle
        exact ⟨key, invoice, subscriptionId, row, plan, hget,
          ⟨paymentId, payment, hfind, hopen, hpointer, hunpaid⟩, rfl, hsubscription, hrow, hplan,
          rfl⟩
  | reversePayment paymentId reason =>
      simp only [perform, bind_eq_ok, pure_eq_ok, Prod.mk.injEq] at hperform
      obtain ⟨payment, -, reversed, hreverse, -, rfl⟩ := hperform
      obtain ⟨-, events, deliveries, ledger, rfl⟩ := reversePayment_eq_ok hreverse
      exact .idle rfl rfl
  | expireDuePayments =>
      simp only [perform, bind_eq_ok, pure_eq_ok, Prod.mk.injEq] at hperform
      obtain ⟨⟨count, expired⟩, hexpire, -, rfl⟩ := hperform
      obtain ⟨events, deliveries, rfl⟩ := expireDuePayments_eq_ok hexpire
      exact .idle rfl rfl
  | changePlan accountId planCode =>
      simp only [perform, changePlan, bind_eq_ok, pure_eq_ok, Prod.mk.injEq] at hperform
      obtain ⟨⟨out, changed⟩, ⟨change, hread, happly⟩, -, rfl⟩ := hperform
      obtain ⟨hself, -⟩ := readPlanChange_eq_ok hread
      unfold applyPlanChange at happly
      split at happly
      · next hfree =>
        obtain rfl : (moveToFreePlan now tables change).2 = changed := by
          rw [Except.ok.inj happly]
        exact moveToFreePlan_housed now tables ⟨hself.symm, change, hread, hfree, rfl⟩
      · exact purchasePlan_housed happly
  | getInvoiceKhqr rail accountId invoiceId publicId =>
      simp only [perform, bind_eq_ok, pure_eq_ok, Prod.mk.injEq] at hperform
      obtain ⟨⟨paymentId, collected⟩, hkhqr, -, rfl⟩ := hperform
      obtain ⟨invoice, minted, hqId, hq, -, -, -, -, hminted, rfl⟩ := getInvoiceKhqr_eq_ok hkhqr
      have hhoused : Housed now
          ((Op.getInvoiceKhqr rail accountId invoiceId publicId).Caps tables) tables minted :=
        invoicePayment_housed hminted
      exact ⟨hhoused.stores, hhoused.admins⟩
  | issueDueInvoices limit =>
      simp only [perform, Except.ok.injEq, Prod.mk.injEq] at hperform
      obtain ⟨-, rfl⟩ := hperform
      obtain ⟨invoices, heq⟩ := issueDueInvoices_eq settings now tables limit
      rw [heq]
      exact .idle rfl rfl
  | enforceGrace limit =>
      simp only [perform, Except.ok.injEq, Prod.mk.injEq] at hperform
      obtain ⟨-, rfl⟩ := hperform
      exact enforceGrace_housed settings now tables limit
  | resolveInvoice actorId invoiceId action reason amountCents =>
      simp only [perform, bind_eq_ok, pure_eq_ok, Prod.mk.injEq] at hperform
      obtain ⟨resolved, hresolve, -, rfl⟩ := hperform
      refine resolveInvoice_housed (fun invoice subscriptionId row plan hget hopen haction
        hsubscription hrow hplan => ?_) hresolve
      subst haction
      exact ⟨invoiceId, invoice, subscriptionId, row, plan, hget, ⟨rfl, hopen⟩, rfl, hsubscription,
        hrow, hplan, rfl⟩
  | assignAccountPlan actorId accountId planCode reason =>
      simp only [perform, bind_eq_ok, pure_eq_ok, Prod.mk.injEq] at hperform
      obtain ⟨⟨subscriptionId, assigned⟩, hassign, -, rfl⟩ := hperform
      exact assignAccountPlan_housed hassign

end Housed

end ChmabaPay
