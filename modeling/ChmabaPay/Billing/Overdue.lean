import ChmabaPay.Billing.Sweeps
import ChmabaPay.Specimen

/-! # The sweep over overdue invoices

A sweep of `enforce_grace` looks at the unpaid invoices that are due first. Run again and
again at one instant, it freezes the accounts with an overdue invoice and no others, and it
retires abandoned purchases on the side.
-/

namespace ChmabaPay

open Calendar Relational Execution

/-! ## What the query asks for -/

/-- An unpaid invoice with a dunning clock, on a subscription in force of an active account. -/
structure Dunned (tables : Tables) (respectAdminExemption : Bool) (invoiceId : ℕ)
    (invoice : PlanInvoice) (account : Account) (dueAt : Instant) : Prop where
  row : tables.invoices.get? invoiceId = some invoice
  unpaid : invoice.isUnpaid = true
  due : invoice.dueAt = some dueAt
  live : ∃ subscriptionId subscription, invoice.subscriptionId = some subscriptionId ∧
    tables.subscriptions.get? subscriptionId = some subscription ∧ subscription.isLive = true
  owner : tables.accounts.get? invoice.accountId = some account
  active : account.status = .active
  merchant : respectAdminExemption = true → account.isPlatformAdmin = false

/-- The rows of the query, with the due date they are ordered by. -/
def datedRows (tables : Tables) (respectAdminExemption : Bool) :
    List (Instant × ℕ × PlanInvoice × Account) :=
  (tables.invoices.rows.filterMap fun row => do
    let dueAt ← row.2.dueAt
    let subscription ← row.2.subscriptionId.bind tables.subscriptions.get?
    let account ← tables.accounts.get? row.2.accountId
    if row.2.isUnpaid && subscription.isLive && decide (account.status = .active) &&
        !(respectAdminExemption && account.isPlatformAdmin)
    then some (dueAt, row.1, row.2, account) else none).insertionSort
      fun first second => first.1 ≤ second.1

section Query

variable {tables : Tables} {respectAdminExemption : Bool} {invoiceId : ℕ} {invoice : PlanInvoice}
  {account : Account} {dueAt : Instant}

theorem unpaidInvoiceQuery_eq : unpaidInvoiceQuery tables respectAdminExemption =
    (datedRows tables respectAdminExemption).map Prod.snd := rfl

theorem mem_datedRows :
    (dueAt, invoiceId, invoice, account) ∈ datedRows tables respectAdminExemption ↔
      Dunned tables respectAdminExemption invoiceId invoice account dueAt := by
  unfold datedRows
  rw [List.mem_insertionSort, List.mem_filterMap]
  constructor
  · rintro ⟨⟨key, row⟩, hrow, hfound⟩
    simp only [Option.bind_eq_bind, Option.bind_eq_some_iff, Option.ite_none_right_eq_some,
      Option.some.injEq, Prod.mk.injEq, Bool.and_eq_true, decide_eq_true_eq, Bool.not_eq_true',
      Bool.and_eq_false_iff] at hfound
    obtain ⟨_, hdue, subscription, ⟨subscriptionId, hnamed, hsubscription⟩, _, howner,
      ⟨⟨⟨hunpaid, hlive⟩, hactive⟩, hmerchant⟩, rfl, rfl, rfl, rfl⟩ := hfound
    refine ⟨Table.get?_eq_some_iff.mpr hrow, hunpaid, hdue,
      ⟨subscriptionId, subscription, hnamed, hsubscription, hlive⟩, howner, hactive, ?_⟩
    intro hrespect
    rcases hmerchant with hignored | hmerchant
    · rw [hrespect] at hignored
      cases hignored
    · exact hmerchant
  · rintro ⟨hrow, hunpaid, hdue, ⟨subscriptionId, subscription, hnamed, hsubscription, hlive⟩,
      howner, hactive, hmerchant⟩
    refine ⟨(invoiceId, invoice), Table.get?_eq_some_iff.mp hrow, ?_⟩
    simp [hdue, hnamed, hsubscription, howner, hunpaid, hlive, hactive]
    exact hmerchant

theorem mem_unpaidInvoiceQuery_iff :
    (invoiceId, invoice, account) ∈ unpaidInvoiceQuery tables respectAdminExemption ↔
      ∃ dueAt, Dunned tables respectAdminExemption invoiceId invoice account dueAt := by
  rw [unpaidInvoiceQuery_eq, List.mem_map]
  constructor
  · rintro ⟨⟨dueAt, row⟩, hmem, rfl⟩
    exact ⟨dueAt, mem_datedRows.mp hmem⟩
  · rintro ⟨dueAt, hdunned⟩
    exact ⟨_, mem_datedRows.mpr hdunned, rfl⟩

/-- The invoices that are due first stand first. -/
theorem datedRows_pairwise : (datedRows tables respectAdminExemption).Pairwise
    fun first second => first.1 ≤ second.1 :=
  List.pairwise_insertionSort (fun first second : Instant × ℕ × PlanInvoice × Account =>
    first.1 ≤ second.1) _

/-- A row that is selected for an early due date has one in every page before it. -/
theorem exists_mem_take_of_mem {rows : List (Instant × ℕ × PlanInvoice × Account)}
    (hsorted : rows.Pairwise fun first second => first.1 ≤ second.1) {limit : ℕ}
    (hlimit : 0 < limit) {row : Instant × ℕ × PlanInvoice × Account} (hmem : row ∈ rows) :
    ∃ first ∈ rows.take limit, first.1 ≤ row.1 := by
  cases rows with
  | nil => cases hmem
  | cons head rest =>
      obtain ⟨smaller, rfl⟩ := Nat.exists_eq_succ_of_ne_zero hlimit.ne'
      refine ⟨head, by simp, ?_⟩
      rcases List.mem_cons.mp hmem with rfl | hrest
      · exact le_refl _
      · exact (List.pairwise_cons.mp hsorted).1 row hrest

end Query

/-- The account has an invoice that is due for longer than the grace period. -/
def Overdue (settings : Settings) (now : Instant) (tables : Tables) (accountId : ℕ) : Prop :=
  ∃ invoiceId invoice account dueAt, Dunned tables true invoiceId invoice account dueAt ∧
    invoice.accountId = accountId ∧ dueAt + gracePeriod settings ≤ now

/-- The invoices a sweep freezes accounts over. -/
def dueRows (settings : Settings) (now : Instant) (tables : Tables) (limit : ℕ) :
    List (ℕ × PlanInvoice × Account) :=
  ((unpaidInvoiceQuery tables true).take limit).filter fun row =>
    row.2.1.dueAt.any fun dueAt => decide (dueAt + gracePeriod settings ≤ now)

section DueRows

variable {settings : Settings} {now : Instant} {tables : Tables} {limit : ℕ}

theorem overdue_of_mem_dueRows {row : ℕ × PlanInvoice × Account}
    (hmem : row ∈ dueRows settings now tables limit) :
    Overdue settings now tables row.2.1.accountId := by
  obtain ⟨invoiceId, invoice, account⟩ := row
  obtain ⟨hpage, hdue⟩ := List.mem_filter.mp hmem
  obtain ⟨dueAt, hdunned⟩ := mem_unpaidInvoiceQuery_iff.mp (List.mem_of_mem_take hpage)
  rw [hdunned.due] at hdue
  exact ⟨invoiceId, invoice, account, dueAt, hdunned, rfl, by simpa using hdue⟩

/-- While an account has an overdue invoice, a sweep finds one. -/
theorem dueRows_ne_nil (hlimit : 0 < limit) {accountId : ℕ}
    (hoverdue : Overdue settings now tables accountId) :
    dueRows settings now tables limit ≠ [] := by
  obtain ⟨invoiceId, invoice, account, dueAt, hdunned, -, hpast⟩ := hoverdue
  obtain ⟨⟨firstDue, firstId, first, owner⟩, hpage, hearlier⟩ :=
    exists_mem_take_of_mem datedRows_pairwise hlimit (mem_datedRows.mpr hdunned)
  have hfirst := (mem_datedRows.mp (List.mem_of_mem_take hpage)).due
  have hquery : (firstId, first, owner) ∈ (unpaidInvoiceQuery tables true).take limit := by
    rw [unpaidInvoiceQuery_eq, ← List.map_take]
    exact List.mem_map_of_mem hpage
  have hmem : (firstId, first, owner) ∈ dueRows settings now tables limit := by
    refine List.mem_filter.mpr ⟨hquery, ?_⟩
    simp only [hfirst, Option.any_some, decide_eq_true_eq]
    exact le_trans (add_le_add_left hearlier _) hpast
  exact List.ne_nil_of_mem hmem

end DueRows

/-! ## What sweeps change -/

/-- A purchase that nobody paid for within one credit period. -/
def Abandoned (now : Instant) (tables : Tables) (subscriptionId : ℕ) : Prop :=
  ∃ subscription, tables.subscriptions.get? subscriptionId = some subscription ∧
    subscription.status = .pending ∧ subscription.createdAt ≤ now - creditPeriod

/-- What a purchase that is retired becomes, with its unpaid invoices. -/
structure Retired (now : Instant) (before after : Tables) : Prop where
  invoices : ∀ key, after.invoices.get? key = before.invoices.get? key ∨
    ∃ invoice subscriptionId, before.invoices.get? key = some invoice ∧
      invoice.isUnpaid = true ∧ invoice.subscriptionId = some subscriptionId ∧
      Abandoned now before subscriptionId ∧
      after.invoices.get? key = some (invoice.withdraw now .superseded)
  subscriptions : ∀ key, after.subscriptions.get? key = before.subscriptions.get? key ∨
    ∃ subscription, before.subscriptions.get? key = some subscription ∧
      Abandoned now before key ∧
      after.subscriptions.get? key = some (subscription.cancel now)

def Account.restrict (account : Account) : Account := { account with status := .restricted }

/-- An account is restricted only over an overdue invoice. -/
def Restricted (settings : Settings) (now : Instant) (before after : Tables) : Prop :=
  ∀ key, after.accounts.get? key = before.accounts.get? key ∨
    ∃ account, before.accounts.get? key = some account ∧ Overdue settings now before key ∧
      after.accounts.get? key = some account.restrict

/-- Everything that neither a freeze nor a retirement touches. -/
structure SameElsewhere (before after : Tables) : Prop where
  stores : after.stores = before.stores
  plans : after.plans = before.plans
  links : after.links = before.links
  payments : after.payments = before.payments
  endpoints : after.endpoints = before.endpoints
  events : after.events = before.events
  deliveries : after.deliveries = before.deliveries
  ledger : after.ledger = before.ledger

/-- What any number of sweeps at one instant may change. -/
structure Swept (settings : Settings) (now : Instant) (before after : Tables) : Prop where
  retired : Retired now before after
  restricted : Restricted settings now before after
  elsewhere : SameElsewhere before after

section Swept

variable {settings : Settings} {now : Instant} {first second third : Tables}

theorem SameElsewhere.refl (tables : Tables) : SameElsewhere tables tables :=
  ⟨rfl, rfl, rfl, rfl, rfl, rfl, rfl, rfl⟩

theorem SameElsewhere.trans (hfirst : SameElsewhere first second)
    (hsecond : SameElsewhere second third) : SameElsewhere first third :=
  ⟨hsecond.stores.trans hfirst.stores, hsecond.plans.trans hfirst.plans,
    hsecond.links.trans hfirst.links, hsecond.payments.trans hfirst.payments,
    hsecond.endpoints.trans hfirst.endpoints, hsecond.events.trans hfirst.events,
    hsecond.deliveries.trans hfirst.deliveries, hsecond.ledger.trans hfirst.ledger⟩

theorem Swept.refl (settings : Settings) (now : Instant) (tables : Tables) :
    Swept settings now tables tables :=
  ⟨⟨fun _ => .inl rfl, fun _ => .inl rfl⟩, fun _ => .inl rfl, .refl tables⟩

/-- A purchase that is still parked has not been touched. -/
theorem Retired.abandoned (hretired : Retired now first second) {subscriptionId : ℕ}
    (habandoned : Abandoned now second subscriptionId) : Abandoned now first subscriptionId := by
  obtain ⟨subscription, hget, hpending, hold⟩ := habandoned
  rcases hretired.subscriptions subscriptionId with hsame | ⟨row, -, -, hcanceled⟩
  · exact ⟨subscription, hsame ▸ hget, hpending, hold⟩
  · obtain rfl := Option.some.inj (hget.symm.trans hcanceled)
    cases hpending

theorem Retired.invoice_of_unpaid (hretired : Retired now first second) {key : ℕ}
    {invoice : PlanInvoice} (hget : second.invoices.get? key = some invoice)
    (hunpaid : invoice.isUnpaid = true) : first.invoices.get? key = some invoice := by
  rcases hretired.invoices key with hsame | ⟨row, -, -, -, -, -, hwithdrawn⟩
  · exact hsame ▸ hget
  · obtain rfl := Option.some.inj (hget.symm.trans hwithdrawn)
    cases hunpaid

theorem Retired.subscription_of_live (hretired : Retired now first second) {key : ℕ}
    {subscription : PlanSubscription} (hget : second.subscriptions.get? key = some subscription)
    (hlive : subscription.isLive = true) :
    first.subscriptions.get? key = some subscription := by
  rcases hretired.subscriptions key with hsame | ⟨row, -, -, hcanceled⟩
  · exact hsame ▸ hget
  · obtain rfl := Option.some.inj (hget.symm.trans hcanceled)
    cases hlive

/-- A subscription in force is not a parked purchase. -/
theorem Abandoned.not_live {tables : Tables} {key : ℕ} {subscription : PlanSubscription}
    (habandoned : Abandoned now tables key)
    (hget : tables.subscriptions.get? key = some subscription) : subscription.isLive = false := by
  obtain ⟨row, hrow, hpending, -⟩ := habandoned
  obtain rfl := Option.some.inj (hget.symm.trans hrow)
  simp [PlanSubscription.isLive, hpending]

theorem Retired.trans (hfirst : Retired now first second) (hsecond : Retired now second third) :
    Retired now first third := by
  refine ⟨fun key => ?_, fun key => ?_⟩
  · rcases hsecond.invoices key with
      hsame | ⟨invoice, subscriptionId, hget, hunpaid, hnamed, habandoned, hwithdrawn⟩
    · rw [hsame]
      exact hfirst.invoices key
    · exact .inr ⟨invoice, subscriptionId, hfirst.invoice_of_unpaid hget hunpaid, hunpaid, hnamed,
        hfirst.abandoned habandoned, hwithdrawn⟩
  · rcases hsecond.subscriptions key with hsame | ⟨subscription, hget, habandoned, hcanceled⟩
    · rw [hsame]
      exact hfirst.subscriptions key
    · have hearlier := hfirst.abandoned habandoned
      rcases hfirst.subscriptions key with hunchanged | ⟨row, -, -, hretired⟩
      · exact .inr ⟨subscription, hunchanged ▸ hget, hearlier, hcanceled⟩
      · obtain ⟨still, hstill, hpending, -⟩ := habandoned
        obtain rfl := Option.some.inj (hstill.symm.trans hretired)
        cases hpending

/-- What is overdue after a sweep was overdue before it. -/
theorem Swept.overdue (hswept : Swept settings now first second) {accountId : ℕ}
    (hoverdue : Overdue settings now second accountId) : Overdue settings now first accountId := by
  obtain ⟨invoiceId, invoice, account, dueAt, hdunned, howner, hpast⟩ := hoverdue
  obtain ⟨subscriptionId, subscription, hnamed, hsubscription, hlive⟩ := hdunned.live
  refine ⟨invoiceId, invoice, account, dueAt, ?_, howner, hpast⟩
  refine ⟨hswept.retired.invoice_of_unpaid hdunned.row hdunned.unpaid, hdunned.unpaid, hdunned.due,
    ⟨subscriptionId, subscription, hnamed,
      hswept.retired.subscription_of_live hsubscription hlive, hlive⟩, ?_, hdunned.active,
    hdunned.merchant⟩
  rcases hswept.restricted invoice.accountId with hsame | ⟨old, -, -, hrestricted⟩
  · exact hsame ▸ hdunned.owner
  · have hactive := hdunned.active
    obtain rfl := Option.some.inj (hdunned.owner.symm.trans hrestricted)
    cases hactive

/-- What is overdue before a sweep still is while the account is as it was. -/
theorem Swept.overdue_of_unchanged (hswept : Swept settings now first second) {accountId : ℕ}
    (hsame : second.accounts.get? accountId = first.accounts.get? accountId)
    (hoverdue : Overdue settings now first accountId) :
    Overdue settings now second accountId := by
  obtain ⟨invoiceId, invoice, account, dueAt, hdunned, rfl, hpast⟩ := hoverdue
  obtain ⟨subscriptionId, subscription, hnamed, hsubscription, hlive⟩ := hdunned.live
  have hnotAbandoned : ¬ Abandoned now first subscriptionId := by
    intro habandoned
    rw [habandoned.not_live hsubscription] at hlive
    cases hlive
  have hinvoice : second.invoices.get? invoiceId = some invoice := by
    rcases hswept.retired.invoices invoiceId with
      hkept | ⟨row, otherId, hrow, -, hother, habandoned, -⟩
    · exact hkept ▸ hdunned.row
    · obtain rfl := Option.some.inj (hrow.symm.trans hdunned.row)
      obtain rfl := Option.some.inj (hother.symm.trans hnamed)
      exact absurd habandoned hnotAbandoned
  have hsubscription' : second.subscriptions.get? subscriptionId = some subscription := by
    rcases hswept.retired.subscriptions subscriptionId with hkept | ⟨-, -, habandoned, -⟩
    · exact hkept ▸ hsubscription
    · exact absurd habandoned hnotAbandoned
  exact ⟨invoiceId, invoice, account, dueAt, ⟨hinvoice, hdunned.unpaid, hdunned.due,
    ⟨subscriptionId, subscription, hnamed, hsubscription', hlive⟩, hsame ▸ hdunned.owner,
    hdunned.active, hdunned.merchant⟩, rfl, hpast⟩

theorem Swept.trans (hfirst : Swept settings now first second)
    (hsecond : Swept settings now second third) : Swept settings now first third := by
  refine ⟨hfirst.retired.trans hsecond.retired, fun key => ?_,
    hfirst.elsewhere.trans hsecond.elsewhere⟩
  rcases hsecond.restricted key with hsame | ⟨account, hget, hoverdue, hrestricted⟩
  · rw [hsame]
    exact hfirst.restricted key
  · have hearlier := hfirst.overdue hoverdue
    rcases hfirst.restricted key with hunchanged | ⟨old, hold, -, hrestricted'⟩
    · exact .inr ⟨account, hunchanged ▸ hget, hearlier, hrestricted⟩
    · refine .inr ⟨old, hold, hearlier, ?_⟩
      obtain rfl := Option.some.inj (hget.symm.trans hrestricted')
      exact hrestricted

end Swept

/-! ## One sweep -/

section Sweep

variable {settings : Settings} {now : Instant} {tables : Tables} {limit : ℕ}

/-- Freezing rewrites the accounts of the list and writes audit rows. -/
theorem foldl_freezeAccount_eq (settings : Settings) (due : List (ℕ × PlanInvoice × Account))
    (tables : Tables) : ∃ audit, due.foldl (freezeAccount settings) tables =
      { tables with
        accounts := tables.accounts.updateWhere
          (fun key _ => (due.map fun row => row.2.1.accountId).contains key) Account.restrict
        audit := audit } := by
  induction due generalizing tables with
  | nil =>
      refine ⟨tables.audit, ?_⟩
      have hidle : tables.accounts =
          tables.accounts.updateWhere (fun _ _ => false) Account.restrict :=
        Table.ext_get? rfl fun key => by simp
      exact congrArg (fun accounts => { tables with accounts }) hidle
  | cons head rest ih =>
      obtain ⟨audit, heq⟩ := ih (freezeAccount settings tables head)
      refine ⟨audit, ?_⟩
      rw [List.foldl_cons, heq, List.map_cons,
        ← Table.updateWhere_cons tables.accounts head.2.1.accountId
          (rest.map fun row => row.2.1.accountId) (fun _ => rfl : ∀ account : Account,
            account.restrict.restrict = account.restrict)]
      rfl

theorem expirePurchase_retired {subscriptionId : ℕ} {row : PlanSubscription}
    (habandoned : Abandoned now tables subscriptionId) :
    Retired now tables (expirePurchase now tables (subscriptionId, row)) := by
  refine ⟨fun key => ?_, fun key => ?_⟩
  · cases hget : tables.invoices.get? key with
    | none => exact .inl (by simp [expirePurchase, hget])
    | some invoice =>
        by_cases hselected : invoice.subscriptionId = some subscriptionId ∧
            invoice.isUnpaid = true
        · refine .inr ⟨invoice, subscriptionId, rfl, hselected.2, hselected.1, habandoned, ?_⟩
          simp [expirePurchase, hget, hselected.1, hselected.2]
        · refine .inl ?_
          simp only [expirePurchase, Table.get?_updateWhere, hget, Option.map_some]
          rw [if_neg (by simpa using hselected)]
  · by_cases hkey : key = subscriptionId
    · subst hkey
      obtain ⟨subscription, hget, -⟩ := id habandoned
      exact .inr ⟨subscription, hget, habandoned, by simp [expirePurchase, hget]⟩
    · exact .inl (expirePurchase_get? hkey)

/-- Purchases are retired one after the other, each once. -/
theorem foldl_expirePurchase_retired {parked : List (ℕ × PlanSubscription)}
    (hdistinct : parked.Pairwise fun first second => first.1 ≠ second.1)
    (habandoned : ∀ row ∈ parked, Abandoned now tables row.1) :
    Retired now tables (parked.foldl (expirePurchase now) tables) ∧
      ∃ invoices subscriptions, parked.foldl (expirePurchase now) tables =
        { tables with invoices := invoices, subscriptions := subscriptions } := by
  induction parked generalizing tables with
  | nil => exact ⟨⟨fun _ => .inl rfl, fun _ => .inl rfl⟩, _, _, rfl⟩
  | cons head rest ih =>
      obtain ⟨key, row⟩ := head
      obtain ⟨hhead, hrest⟩ := List.pairwise_cons.mp hdistinct
      have hothers : ∀ other ∈ rest,
          Abandoned now (expirePurchase now tables (key, row)) other.1 := by
        intro other hother
        obtain ⟨subscription, hget, hparked⟩ := habandoned other (List.mem_cons_of_mem _ hother)
        exact ⟨subscription, (expirePurchase_get? (hhead _ hother).symm).trans hget, hparked⟩
      obtain ⟨hretired, invoices, subscriptions, heq⟩ := ih hrest hothers
      have hfirst : Retired now tables (expirePurchase now tables (key, row)) :=
        expirePurchase_retired (habandoned (key, row) List.mem_cons_self)
      exact ⟨hfirst.trans hretired, invoices, subscriptions, heq⟩

theorem expireAbandonedPurchases_retired (now : Instant) (tables : Tables) (limit : ℕ) :
    Retired now tables (expireAbandonedPurchases now tables limit).2 ∧
      ∃ invoices subscriptions, (expireAbandonedPurchases now tables limit).2 =
        { tables with invoices := invoices, subscriptions := subscriptions } := by
  unfold expireAbandonedPurchases
  dsimp only
  refine foldl_expirePurchase_retired ?_ fun row hrow => ?_
  · have hsorted := tables.subscriptions.sorted.imp (fun {first second : ℕ × PlanSubscription}
      (hlt : first.1 < second.1) => Nat.ne_of_lt hlt)
    exact (hsorted.filter _).take
  · obtain ⟨key, subscription⟩ := row
    have hselected := List.mem_of_mem_take hrow
    simp only [Table.mem_select, Bool.and_eq_true, decide_eq_true_eq] at hselected
    exact ⟨subscription, hselected.1, hselected.2⟩

/-- The tables after the freezes of a sweep. -/
def frozen (settings : Settings) (now : Instant) (tables : Tables) (limit : ℕ) : Tables :=
  if settings.billingEnforceEnabled then
    (dueRows settings now tables limit).foldl (freezeAccount settings) tables
  else tables

theorem enforceGrace_tables : (enforceGrace settings now tables limit).2 =
    (expireAbandonedPurchases now (frozen settings now tables limit) 500).2 := rfl

theorem enforceGrace_due : (enforceGrace settings now tables limit).1.due =
    (dueRows settings now tables limit).length := rfl

/-- The accounts of the page, when enforcement is on, and no others. -/
theorem enforceGrace_accounts (henforced : settings.billingEnforceEnabled = true) (key : ℕ) :
    (enforceGrace settings now tables limit).2.accounts.get? key =
      (tables.accounts.get? key).map fun account =>
        if ((dueRows settings now tables limit).map fun row => row.2.1.accountId).contains key
        then account.restrict else account := by
  obtain ⟨-, invoices, subscriptions, hretired⟩ :=
    expireAbandonedPurchases_retired now (frozen settings now tables limit) 500
  obtain ⟨audit, hfrozen⟩ :=
    foldl_freezeAccount_eq settings (dueRows settings now tables limit) tables
  rw [enforceGrace_tables, hretired]
  unfold frozen
  rw [if_pos henforced, hfrozen, Table.get?_updateWhere]

theorem enforceGrace_swept (settings : Settings) (now : Instant) (tables : Tables) (limit : ℕ) :
    Swept settings now tables (enforceGrace settings now tables limit).2 := by
  obtain ⟨hretired, invoices, subscriptions, heq⟩ :=
    expireAbandonedPurchases_retired now (frozen settings now tables limit) 500
  have hfreeze : Swept settings now tables (frozen settings now tables limit) := by
    unfold frozen
    split
    · obtain ⟨audit, hfrozen⟩ :=
        foldl_freezeAccount_eq settings (dueRows settings now tables limit) tables
      rw [hfrozen]
      refine ⟨⟨fun _ => .inl rfl, fun _ => .inl rfl⟩, fun key => ?_,
        ⟨rfl, rfl, rfl, rfl, rfl, rfl, rfl, rfl⟩⟩
      cases hget : tables.accounts.get? key with
      | none => exact .inl (by simp [hget])
      | some account =>
          by_cases hmem : key ∈ (dueRows settings now tables limit).map fun row =>
              row.2.1.accountId
          · obtain ⟨row, hrow, rfl⟩ := List.mem_map.mp hmem
            refine .inr ⟨account, rfl, overdue_of_mem_dueRows hrow, ?_⟩
            rw [Table.get?_updateWhere, hget, Option.map_some,
              if_pos (List.contains_iff_mem.mpr hmem)]
          · refine .inl ?_
            rw [Table.get?_updateWhere, hget, Option.map_some,
              if_neg (fun hselected => hmem (List.contains_iff_mem.mp hselected))]
    · exact .refl settings now tables
  refine hfreeze.trans ⟨hretired, fun key => .inl ?_, ?_⟩
  · rw [enforceGrace_tables, heq]
  · rw [enforceGrace_tables, heq]
    exact ⟨rfl, rfl, rfl, rfl, rfl, rfl, rfl, rfl⟩

/-- Sweeps break no unique index. -/
theorem Swept.valid {after : Tables} (hswept : Swept settings now tables after)
    (hvalid : Constraints tables) : Constraints after := by
  refine ⟨?_, hswept.elsewhere.payments ▸ hvalid.idempotencyKey,
    hswept.elsewhere.payments ▸ hvalid.publicId, hswept.elsewhere.ledger ▸ hvalid.ledgerResource,
    hswept.elsewhere.plans ▸ hvalid.planCode⟩
  have hstands : ∀ key invoice, after.invoices.get? key = some invoice → invoice.status ≠ .void →
      tables.invoices.get? key = some invoice := by
    intro key invoice hget hstands
    rcases hswept.retired.invoices key with hsame | ⟨row, -, -, -, -, -, hwithdrawn⟩
    · exact hsame ▸ hget
    · obtain rfl := Option.some.inj (hget.symm.trans hwithdrawn)
      exact absurd rfl hstands
  refine (Table.unique_iff fun _ _ => samePeriod_symm).mpr ?_
  intro key key' invoice invoice' hget hget' hsame
  exact (Table.unique_iff fun _ _ => samePeriod_symm).mp hvalid.livePeriod key key' invoice
    invoice' (hstands key invoice hget hsame.1) (hstands key' invoice' hget' hsame.2.1) hsame

end Sweep

/-! ## Sweeping until nothing is due -/

/-- A sweep at the instant of the world. -/
def sweepNow (limit : ℕ) : Timed := ⟨0, .enforceGrace limit⟩

/-- The world after some sweeps at one instant. -/
def afterSweeps (settings : Settings) (limit : ℕ) (world : World) (count : ℕ) : World :=
  run (step settings) world (List.replicate count (sweepNow limit))

/-- What the next sweep reports as due. -/
def ReportsDue (settings : Settings) (limit : ℕ) (world : World) (due : ℕ) : Prop :=
  ∃ summary, (step settings world (sweepNow limit)).2 = .ok (.grace summary) ∧ summary.due = due

/-- The active accounts with an overdue invoice are restricted and lifting the hold brings
them back as they were; the purchases that are retired are abandoned ones; everything else is
as it was. -/
structure EnforcedExactly (settings : Settings) (now : Instant) (before after : Tables) :
    Prop where
  restricted : ∀ key account, before.accounts.get? key = some account →
    Overdue settings now before key → after.accounts.get? key = some account.restrict
  spared : ∀ key, ¬ Overdue settings now before key →
    after.accounts.get? key = before.accounts.get? key
  inactive : ∀ key account, before.accounts.get? key = some account → account.status ≠ .active →
    after.accounts.get? key = some account
  lifted : ∀ key account, before.accounts.get? key = some account →
    Overdue settings now before key →
    (liftBillingHold after key).accounts.get? key = some account
  retired : Retired now before after
  live : ∀ key subscription, before.subscriptions.get? key = some subscription →
    subscription.isLive = true → after.subscriptions.get? key = some subscription
  elsewhere : SameElsewhere before after

section Sweeps

variable {settings : Settings} {limit : ℕ}

theorem step_sweepNow (settings : Settings) (limit : ℕ) (world : World) :
    ∃ hvalid, step settings world (sweepNow limit) =
      (⟨world.clock, (enforceGrace settings world.clock world.db.tables limit).2, hvalid⟩,
        .ok (.grace (enforceGrace settings world.clock world.db.tables limit).1)) := by
  have hmoment : (sweepNow limit).moment world = world.clock := by
    simp [sweepNow, Timed.moment]
  have hvalid : Constraints (enforceGrace settings world.clock world.db.tables limit).2 :=
    (enforceGrace_swept settings world.clock world.db.tables limit).valid world.db.valid
  refine ⟨hvalid, ?_⟩
  have hperform : perform settings world.clock world.db.tables (sweepNow limit).op =
      .ok (.grace (enforceGrace settings world.clock world.db.tables limit).1,
        (enforceGrace settings world.clock world.db.tables limit).2) := rfl
  simp only [step, transact, hmoment, hperform, bind, Except.bind, Tables.commit_of_valid hvalid,
    pure, Except.pure]

theorem reportsDue_iff {world : World} {due : ℕ} : ReportsDue settings limit world due ↔
    (dueRows settings world.clock world.db.tables limit).length = due := by
  obtain ⟨hvalid, hstep⟩ := step_sweepNow settings limit world
  unfold ReportsDue
  rw [hstep]
  constructor
  · rintro ⟨summary, hsummary, rfl⟩
    obtain rfl := Response.grace.inj (Except.ok.inj hsummary)
    exact enforceGrace_due.symm
  · intro hdue
    exact ⟨_, rfl, enforceGrace_due.trans hdue⟩

theorem afterSweeps_succ (world : World) (count : ℕ) :
    afterSweeps settings limit world (count + 1) =
      next (step settings) (afterSweeps settings limit world count) (sweepNow limit) := by
  unfold afterSweeps
  rw [List.replicate_succ', run_append]
  rfl

theorem next_sweepNow_swept (settings : Settings) (limit : ℕ) (world : World) :
    (next (step settings) world (sweepNow limit)).clock = world.clock ∧
      Swept settings world.clock world.db.tables
        (next (step settings) world (sweepNow limit)).db.tables := by
  obtain ⟨hvalid, hstep⟩ := step_sweepNow settings limit world
  rw [next, hstep]
  exact ⟨rfl, enforceGrace_swept settings world.clock world.db.tables limit⟩

theorem afterSweeps_swept (settings : Settings) (limit : ℕ) (world : World) (count : ℕ) :
    (afterSweeps settings limit world count).clock = world.clock ∧
      Swept settings world.clock world.db.tables
        (afterSweeps settings limit world count).db.tables := by
  induction count with
  | zero => exact ⟨rfl, .refl _ _ _⟩
  | succ count ih =>
      obtain ⟨hclock, hswept⟩ := ih
      obtain ⟨hclock', hnext⟩ :=
        next_sweepNow_swept settings limit (afterSweeps settings limit world count)
      rw [hclock] at hclock' hnext
      rw [afterSweeps_succ]
      exact ⟨hclock', hswept.trans hnext⟩

/-- The accounts a sweep could still freeze. -/
def activeAccounts (tables : Tables) : Finset ℕ :=
  (Finset.range tables.accounts.next).filter fun key =>
    (tables.accounts.get? key).any fun account => decide (account.status = .active)

theorem mem_activeAccounts {tables : Tables} {key : ℕ} : key ∈ activeAccounts tables ↔
    ∃ account, tables.accounts.get? key = some account ∧ account.status = .active := by
  unfold activeAccounts
  simp only [Finset.mem_filter, Finset.mem_range, Option.any_eq_true, decide_eq_true_eq]
  constructor
  · rintro ⟨-, account, hget, hactive⟩
    exact ⟨account, hget, hactive⟩
  · rintro ⟨account, hget, hactive⟩
    exact ⟨Table.lt_next hget, account, hget, hactive⟩

/-- A sweep that reports something due freezes an account. -/
theorem activeAccounts_ssubset (henforced : settings.billingEnforceEnabled = true)
    {now : Instant} {tables : Tables} (hdue : dueRows settings now tables limit ≠ []) :
    activeAccounts (enforceGrace settings now tables limit).2 ⊂ activeAccounts tables := by
  obtain ⟨row, hrow⟩ := List.exists_mem_of_ne_nil _ hdue
  obtain ⟨_, invoice, account, _, hdunned, howner, -⟩ := overdue_of_mem_dueRows hrow
  have hafter (key : ℕ) : (enforceGrace settings now tables limit).2.accounts.get? key = _ :=
    enforceGrace_accounts henforced key
  refine Finset.ssubset_iff_subset_ne.mpr ⟨fun key hkey => ?_, fun heq => ?_⟩
  · obtain ⟨found, hget, hactive⟩ := mem_activeAccounts.mp hkey
    rw [hafter] at hget
    obtain ⟨old, hold, hfound⟩ := Option.map_eq_some_iff.mp hget
    split at hfound
    · subst hfound
      cases hactive
    · subst hfound
      exact mem_activeAccounts.mpr ⟨old, hold, hactive⟩
  · have hwas : row.2.1.accountId ∈ activeAccounts tables :=
      mem_activeAccounts.mpr ⟨account, howner ▸ hdunned.owner, hdunned.active⟩
    rw [← heq] at hwas
    obtain ⟨found, hget, hactive⟩ := mem_activeAccounts.mp hwas
    rw [hafter] at hget
    obtain ⟨old, -, hfound⟩ := Option.map_eq_some_iff.mp hget
    rw [if_pos (List.contains_iff_mem.mpr (List.mem_map_of_mem hrow))] at hfound
    subst hfound
    cases hactive

/-- After finitely many sweeps nothing is due. -/
theorem sweeps_end (henforced : settings.billingEnforceEnabled = true) (world : World) :
    ∃ count, ReportsDue settings limit (afterSweeps settings limit world count) 0 := by
  -- Each sweep that finds something due leaves fewer accounts active.
  suffices hend : ∀ size count, (activeAccounts
      (afterSweeps settings limit world count).db.tables).card = size →
      ∃ later, ReportsDue settings limit (afterSweeps settings limit world later) 0 from
    hend _ 0 rfl
  intro size
  induction size using Nat.strong_induction_on with
  | _ size ih =>
      intro count hsize
      by_cases hdue : dueRows settings (afterSweeps settings limit world count).clock
          (afterSweeps settings limit world count).db.tables limit = []
      · exact ⟨count, reportsDue_iff.mpr (by rw [hdue]; rfl)⟩
      · obtain ⟨hvalid, hstep⟩ :=
          step_sweepNow settings limit (afterSweeps settings limit world count)
        have hfewer := Finset.card_lt_card (activeAccounts_ssubset henforced hdue)
        refine ih _ ?_ (count + 1) rfl
        rw [afterSweeps_succ, next, hstep, ← hsize]
        exact hfewer

/-- When nothing is due any more, every overdue account is restricted. -/
theorem Swept.exact {now : Instant} {before after : Tables}
    (hswept : Swept settings now before after)
    (hnone : ∀ key, ¬ Overdue settings now after key) :
    EnforcedExactly settings now before after := by
  have hrestricted : ∀ key account, before.accounts.get? key = some account →
      Overdue settings now before key → after.accounts.get? key = some account.restrict := by
    intro key account hget hoverdue
    rcases hswept.restricted key with hsame | ⟨old, hold, -, hafter⟩
    · exact absurd (hswept.overdue_of_unchanged hsame hoverdue) (hnone key)
    · rw [hget] at hold
      obtain rfl := Option.some.inj hold
      exact hafter
  have hspared : ∀ key, ¬ Overdue settings now before key →
      after.accounts.get? key = before.accounts.get? key := by
    intro key hnot
    rcases hswept.restricted key with hsame | ⟨-, -, hoverdue, -⟩
    · exact hsame
    · exact absurd hoverdue hnot
  have hactive : ∀ key account, before.accounts.get? key = some account →
      Overdue settings now before key → account.status = .active := by
    rintro key account hget ⟨_, invoice, owner, _, hdunned, rfl, -⟩
    rw [hdunned.owner] at hget
    obtain rfl := Option.some.inj hget
    exact hdunned.active
  refine ⟨hrestricted, hspared, ?_, ?_, hswept.retired, ?_, hswept.elsewhere⟩
  · intro key account hget hinactive
    rw [← hget]
    exact hspared key fun hoverdue => hinactive (hactive key account hget hoverdue)
  · intro key account hget hoverdue
    have hstatus := hactive key account hget hoverdue
    unfold liftBillingHold
    rw [Table.get?_update, if_pos rfl, hrestricted key account hget hoverdue]
    simp [Account.restrict, ← hstatus]
  · intro key subscription hget hlive
    rcases hswept.retired.subscriptions key with hsame | ⟨row, hrow, habandoned, -⟩
    · rw [hsame, hget]
    · rw [habandoned.not_live hget] at hlive
      cases hlive

/-- The sweep after the first one that reports nothing due leaves everything enforced. -/
theorem sweeps_exact (henforced : settings.billingEnforceEnabled = true) (hlimit : 0 < limit)
    (world : World) :
    ∃ count, ReportsDue settings limit (afterSweeps settings limit world count) 0 ∧
      (∀ earlier < count,
        ¬ ReportsDue settings limit (afterSweeps settings limit world earlier) 0) ∧
      EnforcedExactly settings world.clock world.db.tables
        (afterSweeps settings limit world (count + 1)).db.tables := by
  classical
  have hends : ∃ count, ReportsDue settings limit (afterSweeps settings limit world count) 0 :=
    sweeps_end henforced world
  refine ⟨Nat.find hends, Nat.find_spec hends, fun earlier hearlier => Nat.find_min hends hearlier,
    ?_⟩
  have hdue := reportsDue_iff.mp (Nat.find_spec hends)
  obtain ⟨hclock, hswept⟩ := afterSweeps_swept settings limit world (Nat.find hends)
  obtain ⟨-, hlater⟩ := afterSweeps_swept settings limit world (Nat.find hends + 1)
  obtain ⟨-, hlast⟩ := next_sweepNow_swept settings limit
    (afterSweeps settings limit world (Nat.find hends))
  rw [hclock, ← afterSweeps_succ] at hlast
  rw [hclock] at hdue
  refine hlater.exact fun key hoverdue => ?_
  exact dueRows_ne_nil hlimit (hlast.overdue hoverdue) (List.length_eq_zero_iff.mp hdue)

/-- With enforcement on, sweeping at one instant comes to a sweep that reports nothing due.
By then exactly the accounts that were overdue are restricted, and nothing but them and
abandoned purchases has changed. -/
theorem enforcement_exact (henforced : settings.billingEnforceEnabled = true)
    (hlimit : 0 < limit) (world : World) :
    ∃ count, ReportsDue settings limit (afterSweeps settings limit world count) 0 ∧
      (∀ earlier < count,
        ¬ ReportsDue settings limit (afterSweeps settings limit world earlier) 0) ∧
      EnforcedExactly settings world.clock world.db.tables
        (afterSweeps settings limit world (count + 1)).db.tables :=
  sweeps_exact henforced hlimit world

end Sweeps

namespace Specimen

/-- The renewal of the shop, due on the fortieth day and unpaid. -/
def unpaidRenewal : PlanInvoice where
  accountId := 1
  subscriptionId := some 0
  periodMonth := "1970-02"
  periodStart := some (days 40)
  periodEnd := some (days 70)
  dueAt := some (days 40)
  status := .opened
  baseFeeCents := 999
  totalDueCents := 999
  createdAt := days 33

/-- The shop has a paid plan, an unpaid renewal, and a purchase it forgot about. -/
def owing : Database :=
  ⟨{ tables with
      subscriptions := .ofList [
        { accountId := 1, planId := 1, status := .active, startedAt := some (days 10)
          nextBillingAt := days 40, createdAt := days 10 },
        { accountId := 1, planId := 2, status := .pending, nextBillingAt := days 41
          createdAt := days 11 }]
      invoices := .ofList [unpaidRenewal] }, by decide⟩

/-- On the forty-eighth day the grace period is over. -/
def overdueWorld : World := ⟨days 48, owing⟩

def enforcing : Settings := { billingEnforceEnabled := true }

end Specimen

theorem enforcement_exact_owing :
    (enforceGrace Specimen.enforcing (days 48) Specimen.owing.tables 1).1 = ⟨true, 1, 1, 1⟩ ∧
      ∃ count,
        EnforcedExactly Specimen.enforcing (days 48) Specimen.owing.tables
          (afterSweeps Specimen.enforcing 1 Specimen.overdueWorld (count + 1)).db.tables := by
  refine ⟨by decide +kernel, ?_⟩
  have henforced : Specimen.enforcing.billingEnforceEnabled = true := rfl
  have hlimit : 0 < 1 := by decide
  obtain ⟨count, -, -, hexact⟩ := enforcement_exact henforced hlimit Specimen.overdueWorld
  exact ⟨count, hexact⟩

end ChmabaPay
