import ChmabaPay.Billing.Dunning
import ChmabaPay.Stores.Effects
import ChmabaPay.Stores.Swaps

/-! # The allowance of the plan in force

After a plan has come into force or an invoice was settled, the account should have as
many live stores as that plan allows. A move to a free plan and a settlement apply the
plan's cap, a waiver, a credit and an assignment leave the stores alone, and a cap
without a limit releases nothing.
-/

namespace ChmabaPay

open Calendar Relational Execution Fallible

/-! ## What a plan allows -/

/-- The live stores an account may have on a plan. -/
def Plan.allows (plan : Plan) (tables : Tables) (accountId : ℕ) : ℕ :=
  match plan.maxStores with
  | none => (tables.storesOf accountId).card
  | some cap => min (tables.storesOf accountId).card cap

/-- The live stores the cap of a plan leaves. -/
def Plan.leaves (plan : Plan) (tables : Tables) (accountId : ℕ) : ℕ :=
  match plan.maxStores with
  | none => (tables.unheldStores accountId).card
  | some cap => min (tables.storesOf accountId).card cap

/-- As many stores as the plan allows are live, and none is held when it sets no
limit. -/
def FitsPlan (tables : Tables) (accountId : ℕ) (plan : Plan) : Prop :=
  match plan.maxStores with
  | none => tables.unheldStores accountId = tables.storesOf accountId
  | some cap => (tables.unheldStores accountId).card = min (tables.storesOf accountId).card cap

/-- The account's stores fit the plan it is on. -/
def Fits (tables : Tables) (accountId : ℕ) : Prop :=
  ∀ plan ∈ livePlans tables accountId, FitsPlan tables accountId plan

/-- A plan of the account comes into force, or an invoice of it is settled or
forgiven. -/
def Op.Grants (tables : Tables) (op : Op) (accountId : ℕ) : Prop :=
  match op with
  | .changePlan requester planCode => requester = accountId ∧ ∃ change,
      readPlanChange tables requester planCode = .ok change ∧ change.plan.monthlyFeeCents ≤ 0
  | .assignAccountPlan _ target _ _ => target = accountId
  | .markPaid .. | .resolveInvoice .. => ∃ key invoice, tables.invoices.get? key = some invoice ∧
      (op.settles tables key invoice ∨ op.forgives key invoice) ∧ invoice.accountId = accountId
  | _ => False

/-- After a step that grants a plan or settles an invoice the stores fit. -/
def AllowanceKept (settings : Settings) (world : World) (input : StoreInput) : Prop :=
  ∀ op accountId, input.op = .request op → (storeStep settings world input).2 = .ok () →
    op.Grants world.db.tables accountId →
    Fits (next (storeStep settings) world input).db.tables accountId

/-- The plan in force after an invoice of a subscription was granted: its own, unless
the subscription was canceled and nothing revives it. -/
def InForceAfter (tables : Tables) (accountId : ℕ) (row : PlanSubscription) (plan : Plan)
    (revived : Bool) (inForce : Plan) : Prop :=
  if row.status = .canceled ∧ revived = false then inForce ∈ livePlans tables accountId
  else inForce = plan

/-- What the operation makes of the stores is what the plan in force after it allows. -/
def Op.MeetsAllowance (settings : Settings) (now : Instant) (tables : Tables) (op : Op) : Prop :=
  match op with
  | .changePlan accountId planCode => ∀ change,
      readPlanChange tables accountId planCode = .ok change → change.plan.monthlyFeeCents ≤ 0 →
      change.plan.leaves tables accountId = change.plan.allows tables accountId
  | .assignAccountPlan _ accountId planCode _ => ∀ planId plan,
      findPlanByCode tables planCode = some (planId, plan) →
      (tables.unheldStores accountId).card = plan.allows tables accountId
  | .markPaid .. | .resolveInvoice .. => ∀ key invoice subscriptionId row plan inForce,
      tables.invoices.get? key = some invoice → invoice.subscriptionId = some subscriptionId →
      tables.subscriptions.get? subscriptionId = some row →
      tables.plans.get? row.planId = some plan →
      (op.settles tables key invoice →
        InForceAfter tables invoice.accountId row plan (isLapsed settings invoice now) inForce →
        plan.leaves tables invoice.accountId = inForce.allows tables invoice.accountId) ∧
      (op.forgives key invoice → InForceAfter tables invoice.accountId row plan false inForce →
        (tables.unheldStores invoice.accountId).card = inForce.allows tables invoice.accountId)
  | _ => True

def StoreInput.MeetsAllowance (settings : Settings) (world : World) (input : StoreInput) : Prop :=
  match input.op with
  | .request op => op.MeetsAllowance settings (input.moment world) world.db.tables
  | .moveSlot _ _ => True

section Allowances

variable {settings : Settings} {now : Instant} {tables tables' : Tables} {accountId : ℕ}
  {plan : Plan}

theorem fitsPlan_iff : FitsPlan tables accountId plan ↔
    (tables.unheldStores accountId).card = plan.allows tables accountId := by
  unfold FitsPlan Plan.allows
  cases plan.maxStores with
  | some cap => exact Iff.rfl
  | none =>
      constructor
      · intro hall
        rw [hall]
      · intro hcard
        exact Finset.eq_of_subset_of_card_le unheldStores_subset hcard.ge

theorem mem_livePlans : plan ∈ livePlans tables accountId ↔
    ∃ key row, tables.subscriptions.get? key = some row ∧ row.accountId = accountId ∧
      row.isLive = true ∧ tables.plans.get? row.planId = some plan := by
  simp only [livePlans, List.mem_map, List.mem_filter, Bool.and_eq_true, decide_eq_true_eq]
  constructor
  · rintro ⟨⟨key, row, found⟩, ⟨hmem, haccount, hlive⟩, rfl⟩
    obtain ⟨hrow, hplan⟩ := mem_subscriptionPlans.mp hmem
    exact ⟨key, row, hrow, haccount, hlive, hplan⟩
  · rintro ⟨key, row, hrow, haccount, hlive, hplan⟩
    exact ⟨(key, row, plan), ⟨mem_subscriptionPlans.mpr ⟨hrow, hplan⟩, haccount, hlive⟩, rfl⟩

/-- The cap leaves what its plan leaves. -/
theorem card_applyStoreCap_plan (now : Instant) (tables : Tables) (accountId : ℕ) (plan : Plan) :
    ((applyStoreCap now tables accountId plan.maxStores).unheldStores accountId).card =
      plan.leaves tables accountId := by
  unfold Plan.leaves
  cases plan.maxStores with
  | none => rfl
  | some cap => exact card_applyStoreCap now tables accountId cap

/-- One subscription in force decides the plan. -/
theorem Book.Wellformed.livePlans_eq {account known : ℕ → Prop}
    (hbook : tables.book.Wellformed account known) {key : ℕ} {row : PlanSubscription}
    (hrow : tables.subscriptions.get? key = some row) (haccount : row.accountId = accountId)
    (hlive : row.isLive = true) (hplan : tables.plans.get? row.planId = some plan) {other : Plan}
    (hother : other ∈ livePlans tables accountId) : other = plan := by
  obtain ⟨key', row', hrow', haccount', hlive', hplan'⟩ := mem_livePlans.mp hother
  have hsame : key' = key := by
    by_contra hne
    have hidle := hbook.live key row hrow hlive key' row' hrow' hne
      (haccount'.trans haccount.symm)
    rw [hlive'] at hidle
    cases hidle
  subst hsame
  obtain rfl := Option.some.inj (hrow.symm.trans hrow')
  exact Option.some.inj (hplan'.symm.trans hplan)

/-- The stores fit when their number is what the plan in force allows. -/
theorem fits_of_allows (hstores : tables'.storesOf accountId = tables.storesOf accountId)
    (hallows : ∀ inForce ∈ livePlans tables' accountId,
      (tables'.unheldStores accountId).card = inForce.allows tables accountId) :
    Fits tables' accountId := by
  intro inForce hinForce
  rw [fitsPlan_iff, hallows inForce hinForce, Plan.allows, Plan.allows, hstores]

/-! ## Granting a window -/

/-- The subscription of a granted window is in force unless it was canceled. -/
theorem Book.cover_live (book : Book) (now : Instant) {key : ℕ} {row : PlanSubscription}
    (hrow : book.subscriptions key = some row) (hhad : row.status ≠ .canceled)
    (periodEnd : Instant) :
    ∃ row', (book.cover now key row periodEnd).subscriptions key = some row' ∧
      row'.isLive = true ∧ row'.accountId = row.accountId ∧ row'.planId = row.planId := by
  have hevolves := Book.evolves_activated now row periodEnd
  refine ⟨{ Book.activated now row with nextBillingAt := periodEnd }, by simp [hrow], ?_,
    hevolves.account, hevolves.plan⟩
  cases hstatus : row.status with
  | canceled => exact absurd hstatus hhad
  | pending | active | trial => simp [Book.activated, hstatus, PlanSubscription.isLive]

/-- A window granted to a canceled subscription changes nothing about what is in
force. -/
theorem Book.cover_canceled (book : Book) (now : Instant) {key : ℕ} {row : PlanSubscription}
    (hcanceled : row.status = .canceled)
    (periodEnd : Instant) {current : ℕ} {other' : PlanSubscription}
    (hother' : (book.cover now key row periodEnd).subscriptions current = some other')
    (hlive : other'.isLive = true) :
    ∃ other, book.subscriptions current = some other ∧ other.isLive = true ∧
      other.accountId = other'.accountId ∧ other.planId = other'.planId := by
  have hpending : row.status ≠ .pending := by simp [hcanceled]
  rw [Book.cover_subscriptions] at hother'
  obtain ⟨other, hother, rfl⟩ := Option.map_eq_some_iff.mp hother'
  split at hlive
  · simp [Book.activated, hcanceled, PlanSubscription.isLive] at hlive
  · rw [if_neg (fun hboth => hpending hboth.1)] at hlive
    rw [if_neg ‹_›, if_neg (fun hboth => hpending hboth.1)]
    exact ⟨other, hother, hlive, rfl, rfl⟩

/-- What is in force after a window was granted. -/
theorem inForce_of_cover (now : Instant) {known account : ℕ → Prop}
    (hafter : tables'.book.Wellformed account known) (hplans : tables'.plans = tables.plans)
    (book : Book) (hbook : book.subscriptions = tables.subscriptions.get?) {key : ℕ}
    {row : PlanSubscription} (hrow : tables.subscriptions.get? key = some row)
    (haccount : row.accountId = accountId) (hplan : tables.plans.get? row.planId = some plan)
    (periodEnd : Instant)
    (hcover : tables'.subscriptions.get? = (book.cover now key row periodEnd).subscriptions)
    {inForce : Plan} (hinForce : inForce ∈ livePlans tables' accountId) :
    InForceAfter tables accountId row plan false inForce := by
  have hrow' : book.subscriptions key = some row := by
    rw [hbook]
    exact hrow
  unfold InForceAfter
  split
  · next hcanceled =>
    obtain ⟨current, other', hother', haccount', hlive, hother⟩ := mem_livePlans.mp hinForce
    rw [hcover] at hother'
    obtain ⟨other, hget, hlive', hsame, hsamePlan⟩ :=
      book.cover_canceled now hcanceled.1 periodEnd hother' hlive
    rw [hbook] at hget
    rw [hplans, ← hsamePlan] at hother
    exact mem_livePlans.mpr ⟨current, other, hget, hsame.trans haccount', hlive', hother⟩
  · next hhad =>
    obtain ⟨row', hget, hlive, hsame, hsamePlan⟩ :=
      book.cover_live now hrow' (fun hcanceled => hhad ⟨hcanceled, rfl⟩) periodEnd
    rw [← hcover] at hget
    refine hafter.livePlans_eq hget (hsame.trans haccount) hlive ?_ hinForce
    rw [hplans, hsamePlan]
    exact hplan

end Allowances

/-! ## A settlement -/

/-- The settlement an operation makes, in tables that differ from its own where the
settlement does not look. -/
structure SettlesAs (settings : Settings) (now : Instant) (tables tables' : Tables)
    (invoiceId : ℕ) (invoice : PlanInvoice) (recorded : Tables) (paymentId : Option ℕ)
    (source : String) : Prop where
  book : recorded.book = tables.book
  stores : recorded.stores = tables.stores
  accounts : recorded.accounts = tables.accounts
  plans : recorded.plans = tables.plans
  bookAfter : tables'.book =
    (settleInvoice settings now recorded invoiceId invoice paymentId now source).book
  storesAfter : tables'.stores =
    (settleInvoice settings now recorded invoiceId invoice paymentId now source).stores

section Settlement

variable {settings : Settings} {now : Instant} {tables tables' recorded : Tables}
  {invoiceId : ℕ} {invoice : PlanInvoice} {subscriptionId : ℕ} {row : PlanSubscription}
  {plan : Plan} {paymentId : Option ℕ} {source : String}

theorem perform_settlesAs {op : Op} {response : Response}
    (hperform : perform settings now tables op = .ok (response, tables'))
    (hinvoice : tables.invoices.get? invoiceId = some invoice)
    (hsettles : op.settles tables invoiceId invoice) :
    ∃ recorded paymentId source,
      SettlesAs settings now tables tables' invoiceId invoice recorded paymentId source := by
  cases op with
  | markPaid publicId credit =>
      obtain ⟨creditedId, payment, hfind, hopen, hpointer, -⟩ := hsettles
      simp only [perform, markPaid, hfind, hopen, Bool.false_eq_true, if_false, bind_eq_ok,
        pure_eq_ok, Prod.mk.injEq] at hperform
      obtain ⟨⟨settledId, settled⟩, hmap, -, rfl⟩ := hperform
      cases hsettle : settlePayment settings now tables creditedId payment credit with
      | error failure =>
          rw [hsettle] at hmap
          cases hmap
      | ok result =>
          rw [hsettle] at hmap
          obtain ⟨-, rfl⟩ := Prod.mk.inj (Except.ok.inj hmap)
          obtain ⟨store, granted, -, hgranted, rfl⟩ := settlePayment_eq_ok hsettle
          obtain ⟨ledger, hrecord⟩ := recordSettlement_eq now tables creditedId
            (payment.settle now credit.bakongRef credit.gatewayRaw) store
          obtain ⟨events, deliveries, hretire⟩ := retireSuccessors_eq now granted creditedId store
          rw [hrecord] at hgranted
          rcases settleInvoiceForPayment_eq_ok hgranted with
            ⟨hnone, -⟩ | ⟨key, found, hget, -, hunique, rfl⟩
          · exact absurd hpointer (hnone invoiceId invoice hinvoice)
          · obtain rfl := hunique invoiceId invoice hinvoice hpointer
            obtain rfl := Option.some.inj (hinvoice.symm.trans hget)
            refine ⟨{ tables with
                payments := tables.payments.update creditedId fun _ =>
                  payment.settle now credit.bakongRef credit.gatewayRaw
                ledger := ledger }, some creditedId, "khqr", rfl, rfl, rfl, rfl, ?_, ?_⟩
            · rw [enqueueEvent_book, retireSuccessors_book]
            · rw [enqueueEvent_stores, hretire]
  | resolveInvoice actorId key action reason amountCents =>
      cases action with
      | markPaid =>
          obtain ⟨rfl, hopen⟩ := hsettles
          simp only [perform, resolveInvoice, hinvoice, hopen, Bool.false_eq_true, if_false,
            bind_eq_ok, Except.ok.injEq, pure_eq_ok, Prod.mk.injEq] at hperform
          obtain ⟨resolved, rfl, -, rfl⟩ := hperform
          exact ⟨tables, none, "admin", rfl, rfl, rfl, rfl, rfl, rfl⟩
      | waive | credit | void => cases hsettles
  | _ => cases hsettles

/-- A settlement applies the cap of the plan it was made for. -/
theorem SettlesAs.stores_eq
    (hsettled : SettlesAs settings now tables tables' invoiceId invoice recorded paymentId source)
    (hunpaid : invoice.status ≠ .paid)
    (hsubscription : invoice.subscriptionId = some subscriptionId)
    (hrow : tables.subscriptions.get? subscriptionId = some row)
    (hplan : tables.plans.get? row.planId = some plan)
    (hknown : tables.hasAccount invoice.accountId) :
    tables'.stores = (applyStoreCap now tables invoice.accountId plan.maxStores).stores := by
  have hrow' : recorded.subscriptions.get? subscriptionId = some row := by
    rw [← Tables.book_subscriptions, hsettled.book]
    exact hrow
  obtain ⟨granted, heq, hstores, haccounts, hplans⟩ :=
    settleInvoice_eq_welcomeBack settings now recorded invoiceId paymentId now source hunpaid
      hsubscription hrow'
  obtain ⟨account, haccount⟩ := hknown
  rw [hsettled.storesAfter, heq, welcomeBack_stores, haccounts, hsettled.accounts, haccount, hplans,
    hsettled.plans, hplan]
  exact applyStoreCap_stores_congr now (hstores.trans hsettled.stores) _ _

/-- What is in force after a settlement. -/
theorem SettlesAs.inForce {known account : ℕ → Prop}
    (hsettled : SettlesAs settings now tables tables' invoiceId invoice recorded paymentId source)
    (hafter : tables'.book.Wellformed account known) (hplans : tables'.plans = tables.plans)
    (hinvoice : tables.invoices.get? invoiceId = some invoice) (hunpaid : invoice.status ≠ .paid)
    {start : Instant} (hcovers : invoice.Covers subscriptionId start)
    (hrow : tables.subscriptions.get? subscriptionId = some row)
    (haccount : row.accountId = invoice.accountId)
    (hplan : tables.plans.get? row.planId = some plan) {inForce : Plan}
    (hinForce : inForce ∈ livePlans tables' invoice.accountId) :
    InForceAfter tables invoice.accountId row plan (isLapsed settings invoice now) inForce := by
  have hinvoice' : recorded.invoices.get? invoiceId = some invoice := by
    rw [← Tables.book_invoices, hsettled.book]
    exact hinvoice
  have hrow' : recorded.subscriptions.get? subscriptionId = some row := by
    rw [← Tables.book_subscriptions, hsettled.book]
    exact hrow
  cases hlapsed : isLapsed settings invoice now with
  | true =>
      -- a reinstatement puts a subscription of its own in force
      have hbook :
          (settleInvoice settings now recorded invoiceId invoice paymentId now source).book =
            (reinstate now recorded invoiceId invoice row paymentId now source).book :=
        settleInvoice_book_of_lapsed hunpaid hcovers hrow' now paymentId source
          ((isLapsed_iff settings hcovers now).mp hlapsed)
      have hget : tables'.subscriptions.get? recorded.subscriptions.next =
          some (reinstatedSubscription now invoice.accountId row.planId now) := by
        rw [← Tables.book_subscriptions, hsettled.bookAfter, hbook, reinstate_book _ _ hinvoice']
        simp
      rw [InForceAfter, if_neg (by simp)]
      exact hafter.livePlans_eq hget rfl rfl (hplans ▸ hplan) hinForce
  | false =>
      have hearly : now ≤ start + gracePeriod settings := by
        by_contra hlate
        rw [(isLapsed_iff settings hcovers now).mpr (not_le.mp hlate)] at hlapsed
        cases hlapsed
      have hbook :
          (settleInvoice settings now recorded invoiceId invoice paymentId now source).book =
            (payInvoice now recorded invoiceId invoice subscriptionId now).book :=
        settleInvoice_book_of_grace hunpaid hcovers hrow' now paymentId source hearly
      have hcover := payInvoice_book now recorded hinvoice' hcovers hrow' now
      refine inForce_of_cover now hafter hplans
        (recorded.book.putInvoice invoiceId (invoice.resolve .paid (some now))) ?_ hrow
        haccount hplan (start + creditPeriod) ?_ hinForce
      · rw [Book.putInvoice_subscriptions, hsettled.book]
        rfl
      · rw [← Tables.book_subscriptions, hsettled.bookAfter, hbook, hcover]

/-- A settlement leaves as many live stores as the plan in force allows when the plan of
the invoice leaves that many. -/
theorem SettlesAs.fits {account known : ℕ → Prop}
    (hsettled : SettlesAs settings now tables tables' invoiceId invoice recorded paymentId source)
    (hbook : tables.book.Wellformed tables.hasAccount tables.hasPlan)
    (hafter : tables'.book.Wellformed account known) (hplans : tables'.plans = tables.plans)
    (hinvoice : tables.invoices.get? invoiceId = some invoice) (hunpaid : invoice.status ≠ .paid)
    (hmeets : ∀ subscriptionId row plan inForce, invoice.subscriptionId = some subscriptionId →
      tables.subscriptions.get? subscriptionId = some row →
      tables.plans.get? row.planId = some plan →
      InForceAfter tables invoice.accountId row plan (isLapsed settings invoice now) inForce →
      plan.leaves tables invoice.accountId = inForce.allows tables invoice.accountId) :
    Fits tables' invoice.accountId := by
  obtain ⟨subscriptionId, row, start, hcovers, hrow, haccount⟩ := hbook.backed _ _ hinvoice
  obtain ⟨plan, hplan⟩ := hbook.plan _ _ hrow
  have hknown : tables.hasAccount invoice.accountId := haccount ▸ hbook.account _ _ hrow
  have hstores := hsettled.stores_eq hunpaid hcovers.subscription hrow hplan hknown
  have hsame : tables'.storesOf invoice.accountId = tables.storesOf invoice.accountId := by
    rw [(storesOf_congr hstores).1, storesOf_applyStoreCap]
  refine fits_of_allows hsame fun inForce hinForce => ?_
  rw [(storesOf_congr hstores).2, card_applyStoreCap_plan]
  exact hmeets subscriptionId row plan inForce hcovers.subscription hrow hplan
    (hsettled.inForce hafter hplans hinvoice hunpaid hcovers hrow haccount hplan hinForce)

end Settlement

/-! ## Every operation -/

theorem Op.unpaid_of_settles (op : Op) {tables : Tables} {key : ℕ} {invoice : PlanInvoice}
    (hsettles : op.settles tables key invoice) : invoice.status ≠ .paid := by
  cases op with
  | markPaid publicId credit =>
      obtain ⟨_, _, -, -, -, hunpaid⟩ := hsettles
      exact hunpaid
  | resolveInvoice actorId invoiceId action reason amountCents =>
      cases action with
      | markPaid =>
          obtain ⟨-, hopen⟩ := hsettles
          intro hpaid
          rw [hpaid] at hopen
          exact absurd hopen (by decide)
      | waive | credit | void => cases hsettles
  | _ => cases hsettles

section Operations

variable {settings : Settings} {now : Instant} {tables tables' : Tables} {accountId : ℕ}

theorem forgiveInvoice_stores (now : Instant) (tables : Tables) (invoiceId : ℕ)
    (invoice : PlanInvoice) (status : InvoiceStatus) :
    (forgiveInvoice now tables invoiceId invoice status).stores = tables.stores := by
  have hhoused : Housed now (fun _ _ => False) tables
      (forgiveInvoice now tables invoiceId invoice status) :=
    forgiveInvoice_housed now tables invoiceId invoice status
  rcases hhoused.stores with hsame | ⟨_, _, hcaps, -⟩
  · exact hsame
  · exact hcaps.elim

theorem perform_forgives {op : Op} {response : Response}
    (hperform : perform settings now tables op = .ok (response, tables')) {invoiceId : ℕ}
    {invoice : PlanInvoice} (hinvoice : tables.invoices.get? invoiceId = some invoice)
    (hforgives : op.forgives invoiceId invoice) :
    ∃ status, tables'.book = (forgiveInvoice now tables invoiceId invoice status).book ∧
      tables'.stores = tables.stores := by
  cases op with
  | resolveInvoice actorId key action reason amountCents =>
      cases action with
      | waive | credit =>
          obtain ⟨rfl, hopen⟩ := hforgives
          simp only [perform, resolveInvoice, hinvoice, hopen, Bool.false_eq_true, if_false,
            bind_eq_ok, Except.ok.injEq, pure_eq_ok, Prod.mk.injEq] at hperform
          obtain ⟨resolved, rfl, -, rfl⟩ := hperform
          exact ⟨_, rfl, forgiveInvoice_stores now tables invoiceId invoice _⟩
      | markPaid | void => cases hforgives
  | _ => cases hforgives

/-- A forgiven invoice leaves the stores to what they were. -/
theorem forgiveInvoice_fits {account known : ℕ → Prop} {invoiceId : ℕ} {invoice : PlanInvoice}
    {status : InvoiceStatus} (hbook : tables.book.Wellformed tables.hasAccount tables.hasPlan)
    (hafter : tables'.book.Wellformed account known) (hplans : tables'.plans = tables.plans)
    (hinvoice : tables.invoices.get? invoiceId = some invoice)
    (hforgiven : tables'.book = (forgiveInvoice now tables invoiceId invoice status).book)
    (hstores : tables'.stores = tables.stores)
    (hmeets : ∀ subscriptionId row plan inForce, invoice.subscriptionId = some subscriptionId →
      tables.subscriptions.get? subscriptionId = some row →
      tables.plans.get? row.planId = some plan →
      InForceAfter tables invoice.accountId row plan false inForce →
      (tables.unheldStores invoice.accountId).card = inForce.allows tables invoice.accountId) :
    Fits tables' invoice.accountId := by
  obtain ⟨subscriptionId, row, start, hcovers, hrow, haccount⟩ := hbook.backed _ _ hinvoice
  obtain ⟨plan, hplan⟩ := hbook.plan _ _ hrow
  have hcover := forgiveInvoice_book now tables hinvoice hcovers hrow status
  refine fits_of_allows (storesOf_congr hstores).1 fun inForce hinForce => ?_
  rw [(storesOf_congr hstores).2]
  refine hmeets subscriptionId row plan inForce hcovers.subscription hrow hplan
    (inForce_of_cover now hafter hplans
      (tables.book.putInvoice invoiceId (invoice.resolve status invoice.paidAt)) rfl hrow haccount
      hplan (start + creditPeriod) ?_ hinForce)
  rw [← Tables.book_subscriptions, hforgiven, hcover]

/-- A move to a free plan opens its subscription. -/
theorem moveToFreePlan_opens (now : Instant) (tables : Tables) (change : PlanChange) :
    (moveToFreePlan now tables change).2.subscriptions.get? tables.subscriptions.next =
      some (change.subscription now .active (some now)) := by
  rw [← Tables.book_subscriptions, moveToFreePlan_book]
  simp

/-- A move to a free plan applies its cap. -/
theorem moveToFreePlan_stores (now : Instant) (tables : Tables) (change : PlanChange) :
    (moveToFreePlan now tables change).2.stores =
      (applyStoreCap now tables change.accountId change.plan.maxStores).stores := by
  unfold moveToFreePlan
  dsimp only
  cases change.old with
  | none | some =>
      refine applyStoreCap_stores_congr now ?_ change.accountId change.plan.maxStores
      rfl

/-- An assignment opens the subscription it answers with and leaves the stores alone. -/
theorem assignAccountPlan_opens {actorId : ℕ} {planCode reason : String} {subscriptionId : ℕ}
    (hassign : assignAccountPlan now tables actorId accountId planCode reason =
      .ok (subscriptionId, tables')) :
    ∃ planId plan row, findPlanByCode tables planCode = some (planId, plan) ∧
      tables'.subscriptions.get? subscriptionId = some row ∧ row.accountId = accountId ∧
      row.isLive = true ∧ row.planId = planId ∧ tables'.stores = tables.stores := by
  simp only [assignAccountPlan] at hassign
  split at hassign
  · simp [bind_eq_ok] at hassign
  split at hassign
  · simp at hassign
  next planId plan hfind =>
    split at hassign
    · exact absurd hassign throw_bind_ne_ok
    · simp only [pure_eq_ok, Prod.mk.injEq] at hassign
      obtain ⟨rfl, rfl⟩ := hassign
      refine ⟨planId, plan,
        { accountId := accountId
          planId := planId
          status := .active
          startedAt := some now
          nextBillingAt := now + creditPeriod
          createdAt := now }, hfind, ?_, rfl, rfl, rfl, rfl⟩
      simp only [recordAudit, Table.get?_insert, if_true]

/-- An operation that settles or forgives an invoice leaves stores that fit. -/
theorem resolution_fits {op : Op} {response : Response}
    (hbook : tables.book.Wellformed tables.hasAccount tables.hasPlan)
    (hafter : tables'.book.Wellformed tables'.hasAccount tables'.hasPlan)
    (hplans : tables'.plans = tables.plans)
    (hperform : perform settings now tables op = .ok (response, tables'))
    (hresolves : ∃ key invoice, tables.invoices.get? key = some invoice ∧
      (op.settles tables key invoice ∨ op.forgives key invoice) ∧ invoice.accountId = accountId)
    (hmeets : ∀ key invoice subscriptionId row plan inForce,
      tables.invoices.get? key = some invoice →
      invoice.subscriptionId = some subscriptionId →
      tables.subscriptions.get? subscriptionId = some row →
      tables.plans.get? row.planId = some plan →
      (op.settles tables key invoice →
        InForceAfter tables invoice.accountId row plan (isLapsed settings invoice now) inForce →
        plan.leaves tables invoice.accountId = inForce.allows tables invoice.accountId) ∧
      (op.forgives key invoice → InForceAfter tables invoice.accountId row plan false inForce →
        (tables.unheldStores invoice.accountId).card =
          inForce.allows tables invoice.accountId)) : Fits tables' accountId := by
  obtain ⟨key, invoice, hinvoice, hresolves, rfl⟩ := hresolves
  rcases hresolves with hsettles | hforgives
  · have hunpaid : invoice.status ≠ .paid := op.unpaid_of_settles hsettles
    obtain ⟨recorded, paymentId, source, hsettled⟩ :=
      perform_settlesAs hperform hinvoice hsettles
    exact hsettled.fits hbook hafter hplans hinvoice hunpaid
      fun subscriptionId row plan inForce hsubscription hrow hplan =>
        (hmeets key invoice subscriptionId row plan inForce hinvoice hsubscription hrow
          hplan).1 hsettles
  · obtain ⟨status, hforgiven, hstores⟩ := perform_forgives hperform hinvoice hforgives
    exact forgiveInvoice_fits hbook hafter hplans hinvoice hforgiven hstores
      fun subscriptionId row plan inForce hsubscription hrow hplan =>
        (hmeets key invoice subscriptionId row plan inForce hinvoice hsubscription hrow
          hplan).2 hforgives

/-- An operation that grants a plan or settles an invoice leaves stores that fit. -/
theorem perform_fits {op : Op} {response : Response}
    (hbook : tables.book.Wellformed tables.hasAccount tables.hasPlan)
    (hafter : tables'.book.Wellformed tables'.hasAccount tables'.hasPlan)
    (hplans : tables'.plans = tables.plans)
    (hperform : perform settings now tables op = .ok (response, tables'))
    (hmeets : op.MeetsAllowance settings now tables) (hgrants : op.Grants tables accountId) :
    Fits tables' accountId := by
  cases op with
  | changePlan requester planCode =>
      obtain ⟨rfl, change, hread, hfree⟩ := hgrants
      simp only [perform, changePlan, bind_eq_ok, pure_eq_ok, Prod.mk.injEq] at hperform
      obtain ⟨⟨out, changed⟩, ⟨found, hfound, happly⟩, -, rfl⟩ := hperform
      obtain rfl := Except.ok.inj (hread.symm.trans hfound)
      obtain ⟨hself, hfrom⟩ := readPlanChange_eq_ok hread
      simp only [applyPlanChange, if_pos hfree] at happly
      obtain rfl : (moveToFreePlan now tables change).2 = changed := by
        rw [Except.ok.inj happly]
      have hstores := moveToFreePlan_stores now tables change
      rw [hself] at hstores
      have hsame : (moveToFreePlan now tables change).2.storesOf requester =
          tables.storesOf requester := by
        rw [(storesOf_congr hstores).1, storesOf_applyStoreCap]
      refine fits_of_allows hsame fun inForce hinForce => ?_
      have hplan : (moveToFreePlan now tables change).2.plans.get? change.planId =
          some change.plan := hplans ▸ hfrom.plan
      obtain rfl := hafter.livePlans_eq (moveToFreePlan_opens now tables change) hself rfl hplan
        hinForce
      rw [(storesOf_congr hstores).2, card_applyStoreCap_plan]
      exact hmeets change hread hfree
  | assignAccountPlan actorId target planCode reason =>
      obtain rfl : target = accountId := hgrants
      simp only [perform, bind_eq_ok, pure_eq_ok, Prod.mk.injEq] at hperform
      obtain ⟨⟨subscriptionId, assigned⟩, hassign, -, rfl⟩ := hperform
      obtain ⟨planId, plan, row, hfind, hrow, haccount, hlive, rfl, hstores⟩ :=
        assignAccountPlan_opens hassign
      refine fits_of_allows (storesOf_congr hstores).1 fun inForce hinForce => ?_
      have hplan : assigned.plans.get? row.planId = some plan :=
        hplans ▸ (findPlanByCode_eq_some hfind).1
      obtain rfl := hafter.livePlans_eq hrow haccount hlive hplan hinForce
      rw [(storesOf_congr hstores).2]
      exact hmeets row.planId inForce hfind
  | markPaid publicId credit =>
      exact resolution_fits hbook hafter hplans hperform hgrants hmeets
  | resolveInvoice actorId invoiceId action reason amountCents =>
      exact resolution_fits hbook hafter hplans hperform hgrants hmeets
  | _ => exact hgrants.elim

end Operations

/-! ## Runs -/

section Runs

variable {settings : Settings} {world : World}

/-- A swap of stores leaves plans and subscriptions alone. -/
theorem moveStoreSlot_wellformed {now : Instant} {tables tables' : Tables} {accountId : ℕ}
    {storePublicId : String} {move : StoreSlotMove}
    (hmove : moveStoreSlot now tables accountId storePublicId = .ok (move, tables'))
    (hbook : tables.book.Wellformed tables.hasAccount tables.hasPlan) :
    tables'.book.Wellformed tables'.hasAccount tables'.hasPlan := by
  obtain ⟨store, -, -, -, -, ⟨-, rfl⟩ | ⟨-, maxStores, -, hmoved⟩⟩ := moveStoreSlot_eq_ok hmove
  · exact hbook
  · rw [hmoved]
    exact hbook

/-- A request of the platform in the machine with slots is a step of the platform. -/
theorem next_storeStep_request (world : World) (elapsed : ℕ) (op : Op) :
    next (storeStep settings) world ⟨elapsed, .request op⟩ =
      next (step settings) world ⟨elapsed, op⟩ := by
  simp only [next, storeStep, step, storeTransact, StoreInput.moment, Timed.moment]
  cases transact settings (world.clock + elapsed) world.db op <;> rfl

theorem storeStep_wellformed (settings : Settings) (hworld : world.Wellformed)
    (input : StoreInput) : (next (storeStep settings) world input).Wellformed := by
  obtain ⟨elapsed, op⟩ := input
  cases op with
  | request op =>
      rw [next_storeStep_request]
      exact step_wellformed settings hworld ⟨elapsed, op⟩
  | moveSlot accountId storePublicId =>
      simp only [next, storeStep]
      cases htransact : storeTransact settings _ world.db (.moveSlot accountId storePublicId) with
      | error failure => exact hworld
      | ok committed =>
          rcases storeTransact_eq_ok htransact with
            ⟨request, response, hop, -⟩ | ⟨_, _, move, hop, hmove⟩
          · cases hop
          · exact moveStoreSlot_wellformed hmove hworld

/-- A step that meets the allowance keeps it. -/
theorem storeStep_allowance (hworld : world.Wellformed) {input : StoreInput}
    (hmeets : input.MeetsAllowance settings world) : AllowanceKept settings world input := by
  obtain ⟨elapsed, op⟩ := input
  rintro op accountId rfl hok hgrants
  have hafter := step_wellformed settings hworld ⟨elapsed, op⟩
  rw [next_storeStep_request]
  rcases step_moves settings hworld ⟨elapsed, op⟩ with
    ⟨⟨failure, hfailure⟩, -⟩ | ⟨response, -, hperform, -, -, hkeeps⟩
  · have hsame : (storeStep settings world ⟨elapsed, .request op⟩).2 =
        (step settings world ⟨elapsed, op⟩).2.map fun _ => () := by
      simp only [storeStep, step, storeTransact, StoreInput.moment, Timed.moment]
      cases transact settings (world.clock + elapsed) world.db op <;> rfl
    rw [hsame, hfailure] at hok
    cases hok
  · exact perform_fits hworld hafter hkeeps.plans hperform hmeets hgrants

end Runs

/-- In a run whose caps release what the plan coming into force allows, and whose
waivers, credits and assignments find that many stores live, the stores fit after every
operation that grants a plan or settles an invoice. -/
theorem allowance_kept {settings : Settings} {world : World} (hinitial : Initial world)
    {inputs : List StoreInput}
    (hmeets : Along (storeStep settings)
      (fun world input => input.MeetsAllowance settings world) world inputs) :
    Along (storeStep settings) (AllowanceKept settings) world inputs :=
  along_of_invariant World.Wellformed _ _
    (fun _ input hworld _ => storeStep_wellformed settings hworld input)
    (fun _ _ hworld hinput => storeStep_allowance hworld hinput) hinitial.wellformed hmeets

namespace Specimen

/-- A second store of the shop. -/
def annexStore : Store :=
  { shopStore with publicId := "store_annex", name := "Annex" }

/-- The shop has two stores. One plan is for one store, one for two, one for any
number. -/
def allowanceTables : Tables :=
  { tables with
    stores := .ofList [hqStore, shopStore, annexStore]
    plans := .ofList
      [{ plan "free" 0 with maxStores := some 1 }, { plan "duo" 0 with maxStores := some 2 },
        plan "open" 5999] }

theorem constraints_allowanceTables : Constraints allowanceTables := by decide

def allowanceWorld : World := ⟨0, allowanceTables, constraints_allowanceTables⟩

theorem initial_allowanceWorld : Initial allowanceWorld := ⟨rfl, rfl, rfl, rfl, rfl⟩

/-- The shop falls back to one store and comes back to two. -/
def thereAndBack : List StoreInput :=
  [⟨60000000, .request (.changePlan 1 "free")⟩, ⟨60000000, .request (.changePlan 1 "duo")⟩]

/-- The shop falls back to one store and buys the plan without a limit. -/
def outgrowing : List StoreInput :=
  [⟨60000000, .request (.changePlan 1 "free")⟩, ⟨60000000, .request (.changePlan 1 "open")⟩]

/-- The platform's operator confirms the transfer. -/
def settleByHand : StoreInput :=
  ⟨60000000, .request (.resolveInvoice 0 0 .markPaid "bank transfer" none)⟩

end Specimen

theorem allowance_kept_there_and_back :
    Along (storeStep {}) (AllowanceKept {}) Specimen.allowanceWorld Specimen.thereAndBack := by
  have hcap : ∀ {tables : Tables} {planCode : String} {cap : ℕ},
      (readPlanChange tables 1 planCode).map (·.plan.maxStores) = .ok (some cap) →
      ∀ change, readPlanChange tables 1 planCode = .ok change →
        change.plan.leaves tables 1 = change.plan.allows tables 1 := by
    intro tables planCode cap hmax change hread
    rw [hread] at hmax
    have hsome : change.plan.maxStores = some cap := Except.ok.inj hmax
    simp only [Plan.leaves, Plan.allows, hsome]
  have hfree : (readPlanChange Specimen.allowanceTables 1 "free").map (·.plan.maxStores) =
      .ok (some 1) := by decide +kernel
  have hduo : (readPlanChange (next (storeStep {}) Specimen.allowanceWorld
      ⟨60000000, .request (.changePlan 1 "free")⟩).db.tables 1 "duo").map (·.plan.maxStores) =
      .ok (some 2) := by decide +kernel
  exact allowance_kept Specimen.initial_allowanceWorld
    ⟨fun change hread _ => hcap hfree change hread,
      fun change hread _ => hcap hduo change hread, trivial⟩

/-- The shop pays for a plan without a limit and its second store stays held. -/
theorem allowance_not_released :
    ¬ Along (storeStep {}) (AllowanceKept {}) Specimen.allowanceWorld
      (Specimen.outgrowing ++ [Specimen.settleByHand]) := by
  intro hkept
  obtain ⟨-, -, hsettled, -⟩ := hkept
  set before := next (storeStep {}) (next (storeStep {}) Specimen.allowanceWorld
    ⟨60000000, .request (.changePlan 1 "free")⟩) ⟨60000000, .request (.changePlan 1 "open")⟩
    with hbefore
  have hopen : (before.db.tables.invoices.get? 0).map
      (fun invoice => (invoice.status.isResolved, invoice.accountId)) = some (false, 1) := by
    decide +kernel
  obtain ⟨invoice, hinvoice, hpair⟩ := Option.map_eq_some_iff.mp hopen
  obtain ⟨hunresolved, haccount⟩ := Prod.mk.inj hpair
  have hfits := hsettled _ 1 rfl (by decide +kernel)
    ⟨0, invoice, hinvoice, .inl ⟨rfl, hunresolved⟩, haccount⟩
  have hlive : (livePlans (next (storeStep {}) before Specimen.settleByHand).db.tables 1) =
      [Specimen.plan "open" 5999] := by decide +kernel
  have hall := hfits (Specimen.plan "open" 5999) (by rw [hlive]; exact List.mem_cons_self)
  have hheld : ((next (storeStep {}) before Specimen.settleByHand).db.tables.stores.get? 2).map
      (fun store => (store.accountId, store.isHeld)) = some (1, true) := by decide +kernel
  obtain ⟨store, hstore, hpair⟩ := Option.map_eq_some_iff.mp hheld
  obtain ⟨howner, hsuspended⟩ := Prod.mk.inj hpair
  have hmem : 2 ∈ (next (storeStep {}) before Specimen.settleByHand).db.tables.storesOf 1 :=
    mem_storesOf.mpr ⟨store, hstore, howner⟩
  change Tables.unheldStores _ 1 = _ at hall
  rw [← hall] at hmem
  obtain ⟨found, hfound, -, hfree⟩ := mem_unheldStores.mp hmem
  obtain rfl := Option.some.inj (hstore.symm.trans hfound)
  rw [hsuspended] at hfree
  cases hfree

end ChmabaPay
