import ChmabaPay.Billing.Overdue
import ChmabaPay.Billing.Settlement

/-! # The line between late and lapsed

The sweep freezes from the instant `due_at + grace` on, and a payment counts as lapsed after
it. The two sides part at that one instant.
-/

namespace ChmabaPay

open Calendar Relational Execution

/-- An unpaid invoice of an account that is active and not the platform's own, on a
subscription in force. It is the only invoice the account could be frozen over. -/
structure SoleUnpaid (tables : Tables) (invoiceId : ℕ) (invoice : PlanInvoice) : Prop where
  row : tables.invoices.get? invoiceId = some invoice
  unpaid : invoice.isUnpaid = true
  live : ∃ subscriptionId subscription, invoice.subscriptionId = some subscriptionId ∧
    tables.subscriptions.get? subscriptionId = some subscription ∧ subscription.isLive = true
  owner : ∃ account, tables.accounts.get? invoice.accountId = some account ∧
    account.status = .active ∧ account.isPlatformAdmin = false
  sole : ∀ otherId other, tables.invoices.get? otherId = some other → other.isUnpaid = true →
    other.accountId = invoice.accountId → otherId = invoiceId

/-- Some sweep at the instant of the world leaves the account frozen. -/
def FreezesAt (settings : Settings) (limit : ℕ) (world : World) (accountId : ℕ) : Prop :=
  ∃ count account, (afterSweeps settings limit world count).db.tables.accounts.get? accountId =
    some account ∧ account.status = .restricted

/-- The invoice was voided past its grace line, in favour of one for a fresh window. -/
def Reinstates (after : Tables) (invoiceId : ℕ) : Prop :=
  ∃ invoice, after.invoices.get? invoiceId = some invoice ∧ invoice.status = .void ∧
    invoice.voidReason = some .graceExpired

section Line

variable {settings : Settings} {limit : ℕ} {world : World} {tables : Tables} {invoiceId : ℕ}
  {invoice : PlanInvoice}

theorem SoleUnpaid.overdue_iff (hsole : SoleUnpaid tables invoiceId invoice) {now : Instant} :
    Overdue settings now tables invoice.accountId ↔
      ∃ dueAt, invoice.dueAt = some dueAt ∧ dueAt + gracePeriod settings ≤ now := by
  constructor
  · rintro ⟨otherId, other, account, dueAt, hdunned, howner, hpast⟩
    obtain rfl := hsole.sole otherId other hdunned.row hdunned.unpaid howner
    obtain rfl := Option.some.inj (hsole.row.symm.trans hdunned.row)
    exact ⟨dueAt, hdunned.due, hpast⟩
  · rintro ⟨dueAt, hdue, hpast⟩
    obtain ⟨account, howner, hactive, hmerchant⟩ := hsole.owner
    exact ⟨invoiceId, invoice, account, dueAt, ⟨hsole.row, hsole.unpaid, hdue, hsole.live, howner,
      hactive, fun _ => hmerchant⟩, rfl, hpast⟩

/-- The sweep freezes at the line and behind it. -/
theorem SoleUnpaid.freezesAt_iff (henforced : settings.billingEnforceEnabled = true)
    (hlimit : 0 < limit) (hsole : SoleUnpaid world.db.tables invoiceId invoice) :
    FreezesAt settings limit world invoice.accountId ↔
      ∃ dueAt, invoice.dueAt = some dueAt ∧ dueAt + gracePeriod settings ≤ world.clock := by
  rw [← hsole.overdue_iff]
  obtain ⟨account, howner, hactive, -⟩ := hsole.owner
  constructor
  · rintro ⟨count, found, hget, hrestricted⟩
    obtain ⟨-, hswept⟩ := afterSweeps_swept settings limit world count
    rcases hswept.restricted invoice.accountId with hsame | ⟨-, -, hoverdue, -⟩
    · rw [hsame, howner] at hget
      obtain rfl := Option.some.inj hget
      rw [hactive] at hrestricted
      cases hrestricted
    · exact hoverdue
  · intro hoverdue
    obtain ⟨count, -, -, hexact⟩ := sweeps_exact henforced hlimit world
    exact ⟨count + 1, account.restrict, hexact.restricted _ account howner hoverdue, rfl⟩

theorem payInvoice_invoices (now : Instant) (tables : Tables) (invoiceId : ℕ)
    (invoice : PlanInvoice) (subscriptionId : ℕ) (paidAt : Instant) :
    (payInvoice now tables invoiceId invoice subscriptionId paidAt).invoices =
      tables.invoices.update invoiceId (PlanInvoice.pay paidAt) := by
  unfold payInvoice
  dsimp only
  obtain ⟨activated, hactivated⟩ := activateSubscription_eq now
    { tables with invoices := tables.invoices.update invoiceId (PlanInvoice.pay paidAt) }
    subscriptionId
  obtain ⟨extended, hextended⟩ := extendCoverage_eq
    { tables with
      invoices := tables.invoices.update invoiceId (PlanInvoice.pay paidAt)
      subscriptions := activated } invoice
  change (extendCoverage (activateSubscription now
    { tables with invoices := tables.invoices.update invoiceId (PlanInvoice.pay paidAt) }
    subscriptionId) invoice).invoices = _
  rw [hactivated, hextended]

/-- A settlement takes the reinstatement behind the line only. -/
theorem settleInvoice_reinstates_iff (hrow : tables.invoices.get? invoiceId = some invoice)
    (hunpaid : invoice.isUnpaid = true) {subscriptionId : ℕ} {subscription : PlanSubscription}
    (hnamed : invoice.subscriptionId = some subscriptionId)
    (hsubscription : tables.subscriptions.get? subscriptionId = some subscription)
    (now paidAt : Instant) (paymentId : Option ℕ) (source : String) :
    Reinstates (settleInvoice settings now tables invoiceId invoice paymentId paidAt source)
        invoiceId ↔
      isLapsed settings invoice paidAt = true := by
  have hopen : invoice.status ≠ .paid := by
    intro hpaid
    rw [PlanInvoice.isUnpaid, hpaid] at hunpaid
    cases hunpaid
  have hold : invoiceId ≠ tables.invoices.next := (Table.lt_next hrow).ne
  unfold settleInvoice Reinstates
  rw [if_neg hopen, hnamed, Option.bind_some, hsubscription, Option.map_some]
  dsimp only
  rw [welcomeBack_invoices]
  cases isLapsed settings invoice paidAt with
  | true =>
      have hlapsed : (reinstate now tables invoiceId invoice subscription paymentId paidAt
          source).invoices.get? invoiceId = some (invoice.lapse now paymentId) := by
        simp [reinstate, recordAudit, retireLiveSubscriptions, hold, hrow]
      rw [if_pos rfl, hlapsed]
      exact iff_of_true ⟨_, rfl, rfl, rfl⟩ rfl
  | false =>
      have hpaid : (payInvoice now tables invoiceId invoice subscriptionId paidAt).invoices.get?
          invoiceId = some (invoice.pay paidAt) := by
        rw [payInvoice_invoices, Table.get?_update, if_pos rfl, hrow]
        rfl
      rw [if_neg Bool.false_ne_true, hpaid]
      refine iff_of_false ?_ Bool.false_ne_true
      rintro ⟨row, hget, hvoid, -⟩
      obtain rfl := Option.some.inj hget
      cases hvoid

/-- The sweep and the settlement draw the line at the same instant unless it is the line
itself. -/
theorem grace_line_agrees_iff (henforced : settings.billingEnforceEnabled = true)
    (hlimit : 0 < limit) (hsole : SoleUnpaid world.db.tables invoiceId invoice) (now : Instant)
    (paymentId : Option ℕ) (source : String) :
    (FreezesAt settings limit world invoice.accountId ↔
        Reinstates (settleInvoice settings now world.db.tables invoiceId invoice paymentId
          world.clock source) invoiceId) ↔
      invoice.dueAt ≠ some (world.clock - gracePeriod settings) := by
  obtain ⟨subscriptionId, subscription, hnamed, hsubscription, -⟩ := hsole.live
  rw [hsole.freezesAt_iff henforced hlimit,
    settleInvoice_reinstates_iff hsole.row hsole.unpaid hnamed hsubscription]
  unfold isLapsed
  cases invoice.dueAt with
  | none => simp
  | some dueAt =>
      simp only [Option.some.injEq, exists_eq_left', Option.any_some, decide_eq_true_eq, ne_eq,
        eq_sub_iff_add_eq]
      constructor
      · intro hagree hline
        exact lt_irrefl _ (hline ▸ hagree.mp hline.le)
      · intro hoff
        exact ⟨fun hle => lt_of_le_of_ne hle hoff, fun hlt => hlt.le⟩

end Line

/-- One day past the line the two sides agree. -/
theorem grace_line_agrees_overdue :
    FreezesAt Specimen.enforcing 500 Specimen.overdueWorld 1 ↔
      Reinstates (settleInvoice Specimen.enforcing (days 48) Specimen.owing.tables 0
        Specimen.unpaidRenewal none (days 48) "khqr") 0 := by
  have hsole : SoleUnpaid Specimen.overdueWorld.db.tables 0 Specimen.unpaidRenewal := by
    refine ⟨rfl, rfl, ⟨0, _, rfl, rfl, rfl⟩, ⟨_, rfl, rfl, rfl⟩, fun otherId other hget _ _ => ?_⟩
    match otherId with
    | 0 => rfl
    | otherId + 1 => cases hget
  have henforced : Specimen.enforcing.billingEnforceEnabled = true := rfl
  have hlimit : 0 < 500 := by decide
  exact (grace_line_agrees_iff henforced hlimit hsole (days 48) none "khqr").mpr (by decide)

/-- On the line itself a sweep freezes the account, and a payment of that instant is not
late. -/
theorem grace_line_disagrees :
    ((afterSweeps Specimen.enforcing 500 ⟨days 47, Specimen.owing⟩ 1).db.tables.accounts.get?
        1).map (·.status) = some .restricted ∧
      ((settleInvoice Specimen.enforcing (days 47) Specimen.owing.tables 0
        Specimen.unpaidRenewal none (days 47) "khqr").invoices.get? 0).map (·.status) =
          some .paid := by
  decide +kernel

end ChmabaPay
