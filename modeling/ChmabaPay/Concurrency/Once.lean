import ChmabaPay.Concurrency.Progress

/-! # A credit reported several times at once

Detection jobs and the status route may all confirm the same credit. Until one
of them commits, every call works on the rows the payment was found with, and
what it holds is a settlement of its own. The first commit makes the payment
paid; a call that has yet to read it returns, and a call that had read it before
commits a second settlement. Runs without such a commit settle once.
-/

namespace ChmabaPay

open Calendar Relational Execution Fallible Interleaving

/-- An open payment before its credit is reported. -/
structure Awaiting (tables : Tables) (paymentId : ℕ) (payment : Payment) (store : Store) :
    Prop where
  found : tables.payments.get? paymentId = some payment
  unsettled : payment.status.isTerminal = false
  amount : 0 < payment.amountCents
  shop : tables.stores.get? payment.storeId = some store
  events : tables.events.Never (Event.Completes paymentId)
  ledger : tables.ledger.Never fun row => row.resourceId = payment.publicId
  owned : tables.InvoicesOwned
  pointer : tables.invoices.AtMostOnce fun row => row.chmabapayPaymentId = some paymentId

/-- One completion event, one ledger row unless the store is internal, at most
one invoice. -/
structure SettledOnce (tables : Tables) (paymentId : ℕ) (payment : Payment) (store : Store) :
    Prop where
  completed : tables.events.Once (Event.Completes paymentId)
  credited : store.isInternal = false →
    tables.ledger.Once (PlanLedgerEntry.Credits payment.publicId)
  invoice : tables.invoices.AtMostOnce (PlanInvoice.SettledBy paymentId)

/-- The request reports the credit of a payment. -/
def Request.reports (publicId : String) : Request → Bool
  | .markPaid named _ => named = publicId
  | _ => false

def Task.readsPayment : Task → Bool
  | .markPaid _ _ => true
  | _ => false

/-- The step of a call meets no obstacle: a commit finds no payment it writes
settled since it was loaded, and the payment is read when no invoice of it is
blocked. -/
def Session.Unhindered (settings : Settings) (paymentId : ℕ) (db : Database) (now : Instant)
    (session : Session) : Prop :=
  session.Undisturbed db ∧ ∀ task, session.task = some task → task.readsPayment = true →
    db.tables.invoices.Never fun row => row.chmabapayPaymentId = some paymentId ∧
      row.Blocked settings db.tables now

instance (settings : Settings) (paymentId : ℕ) (db : Database) (now : Instant)
    (session : Session) : Decidable (session.Unhindered settings paymentId db now) :=
  inferInstanceAs (Decidable (_ ∧ ∀ task ∈ session.task, task.readsPayment = true →
    db.tables.invoices.Never fun row => row.chmabapayPaymentId = some paymentId ∧
      row.Blocked settings db.tables now))

/-! ## One call on the rows the payment was found with -/

section Call

variable {settings : Settings} {start : Tables} {paymentId : ℕ} {payment : Payment}
  {store : Store}

/-- What a call holds when it has come to a part. -/
def Progress (settings : Settings) (start : Tables) (paymentId : ℕ) (payment : Payment)
    (store : Store) (edited : Tables) : Task → Prop
  | .recordCredit key paid => key = paymentId ∧
      (∃ moment bakongRef gatewayRaw, paid = payment.settle moment bakongRef gatewayRaw ∧
        start.invoices.Never fun row => row.chmabapayPaymentId = some paymentId ∧
          row.Blocked settings start moment) ∧
      start.Agrees { edited with payments := start.payments }
  | .settleInvoice key paid _ => key = paymentId ∧
      (∃ moment bakongRef gatewayRaw, paid = payment.settle moment bakongRef gatewayRaw ∧
        start.invoices.Never fun row => row.chmabapayPaymentId = some paymentId ∧
          row.Blocked settings start moment) ∧
      start.Agrees { edited with payments := start.payments, ledger := start.ledger } ∧
      (store.isInternal = false → edited.ledger.Once (PlanLedgerEntry.Credits payment.publicId))
  | .retireSuccessors key _ _ | .complete key _ _ => key = paymentId ∧
      edited.events.Never (Event.Completes paymentId) ∧
      (store.isInternal = false → edited.ledger.Once (PlanLedgerEntry.Credits payment.publicId)) ∧
      edited.invoices.AtMostOnce fun row => row.chmabapayPaymentId = some paymentId
  | .commit => SettledOnce edited paymentId payment store
  | _ => False

/-- A call has come to a part: the indexes hold, the only ledger rows it added
are those of the payment, and the payment keeps its name. -/
structure Reached (settings : Settings) (start : Tables) (paymentId : ℕ) (payment : Payment)
    (store : Store) (edited : Tables) (task : Task) : Prop where
  valid : Constraints edited
  ledger : ∀ key row, edited.ledger.get? key = some row →
    row.resourceId = payment.publicId ∨ start.ledger.get? key = some row
  named : ∃ row, edited.payments.get? paymentId = some row ∧ row.publicId = payment.publicId
  progress : Progress settings start paymentId payment store edited task

theorem SettledOnce.congr {edited view : Tables} (hagrees : edited.Agrees view)
    (honce : SettledOnce edited paymentId payment store) :
    SettledOnce view paymentId payment store :=
  ⟨honce.completed.of_get? hagrees.events, fun hinternal =>
    (honce.credited hinternal).of_get? hagrees.ledger, honce.invoice.of_get? hagrees.invoices⟩

/-- Only rows matter for how far a call has come. -/
theorem Reached.congr {edited view : Tables} {task : Task} (hagrees : edited.Agrees view)
    (hreached : Reached settings start paymentId payment store edited task) :
    Reached settings start paymentId payment store view task := by
  refine ⟨hagrees.constraints hreached.valid, fun key row hrow =>
    hreached.ledger key row (hagrees.ledger key ▸ hrow), ?_, ?_⟩
  · obtain ⟨row, hrow, hnamed⟩ := hreached.named
    exact ⟨row, (hagrees.payments paymentId).trans hrow, hnamed⟩
  have hprogress := hreached.progress
  cases task with
  | recordCredit key paid =>
      obtain ⟨hkey, hpaid, hstart⟩ := hprogress
      exact ⟨hkey, hpaid, hstart.trans ⟨hagrees.stores, fun _ => rfl, hagrees.events,
        hagrees.plans, hagrees.subscriptions, hagrees.invoices, hagrees.ledger⟩⟩
  | settleInvoice key paid found =>
      obtain ⟨hkey, hpaid, hstart, hcredited⟩ := hprogress
      refine ⟨hkey, hpaid, hstart.trans ⟨hagrees.stores, fun _ => rfl, hagrees.events,
        hagrees.plans, hagrees.subscriptions, hagrees.invoices, fun _ => rfl⟩, ?_⟩
      exact fun hinternal => (hcredited hinternal).of_get? hagrees.ledger
  | retireSuccessors key paid found
  | complete key paid found =>
      obtain ⟨hkey, hnever, hcredited, hpointer⟩ := hprogress
      exact ⟨hkey, hnever.of_get? hagrees.events, fun hinternal =>
        (hcredited hinternal).of_get? hagrees.ledger, hpointer.of_get? hagrees.invoices⟩
  | commit => exact SettledOnce.congr hagrees hprogress
  | _ => exact hprogress

theorem WindowRetaken.congr {first second : Tables}
    (hsame : ∀ key, second.invoices.get? key = first.invoices.get? key) {invoice : PlanInvoice}
    (hretaken : WindowRetaken second invoice) : WindowRetaken first invoice := by
  obtain ⟨other, row, hrow, hwindow⟩ := hretaken
  exact ⟨other, row, hsame other ▸ hrow, hwindow⟩

/-- What blocks an invoice is read off the rows. -/
theorem unblocked_congr {first second : Tables} {moment : Instant}
    (hsame : ∀ key, second.invoices.get? key = first.invoices.get? key)
    (hfree : first.invoices.Never fun row => row.chmabapayPaymentId = some paymentId ∧
      row.Blocked settings first moment) :
    second.invoices.Never fun row => row.chmabapayPaymentId = some paymentId ∧
      row.Blocked settings second moment := by
  rintro key row hrow ⟨hpoints, hvoid, hintime, hretaken⟩
  exact hfree key row (hsame key ▸ hrow) ⟨hpoints, hvoid, hintime, hretaken.congr hsame⟩

section Parts

variable (hawaiting : Awaiting start paymentId payment store) {view : Tables}
include hawaiting

/-- The first part finds the payment open and assigns it. -/
theorem reached_assignPaid (hvalid : Constraints view) (hview : start.Agrees view)
    {now : Instant}
    (hfree : start.invoices.Never fun row => row.chmabapayPaymentId = some paymentId ∧
      row.Blocked settings start now) (credit : Credit) :
    ∃ edited paid,
      assignPaid now view payment.publicId credit =
        (edited, some (.recordCredit paymentId paid)) ∧
      Reached settings start paymentId payment store edited (.recordCredit paymentId paid) ∧
      edited.payments.get? paymentId = some paid ∧ paid.status = .paid := by
  have hpayment : view.payments.get? paymentId = some payment :=
    (hview.payments paymentId).trans hawaiting.found
  have hfind := findByPublicId_of_get? hvalid hpayment
  have hassign : assignPaid now view payment.publicId credit =
      ({ view with payments := view.payments.update paymentId fun _ =>
          payment.settle now credit.bakongRef credit.gatewayRaw },
        some (.recordCredit paymentId
          (payment.settle now credit.bakongRef credit.gatewayRaw))) := by
    simp [assignPaid, hfind, hawaiting.unsettled]
  refine ⟨_, _, hassign, ⟨?_, ?_, ?_, rfl, ?_, ?_⟩, by simp [hpayment], rfl⟩
  · exact assigned_constraints hvalid hpayment _ _
  · intro key row hrow
    exact .inr (hview.ledger key ▸ hrow)
  · exact ⟨payment.settle now credit.bakongRef credit.gatewayRaw, by simp [hpayment], rfl⟩
  · exact ⟨now, credit.bakongRef, credit.gatewayRaw, rfl, hfree⟩
  · exact ⟨hview.stores, fun _ => rfl, hview.events, hview.plans, hview.subscriptions,
      hview.invoices, hview.ledger⟩

theorem Reached.recordCredit {key : ℕ} {paid : Payment}
    (hreached : Reached settings start paymentId payment store view (.recordCredit key paid))
    (now : Instant) :
    ∃ edited following,
      Task.execute settings now view (.recordCredit key paid) = .ok (edited, some following) ∧
      Reached settings start paymentId payment store edited following := by
  obtain ⟨hvalid, hledger, hnamed, rfl, ⟨moment, bakongRef, gatewayRaw, rfl, hfree⟩, hstart⟩ :=
    hreached
  have hstore : view.stores.get? (payment.settle moment bakongRef gatewayRaw).storeId =
      some store := (hstart.stores payment.storeId).trans hawaiting.shop
  refine ⟨_, _, by simp only [Task.execute, hstore]; rfl, ?_⟩
  by_cases hinternal : store.isInternal = true
  · simp only [hinternal, if_true]
    refine ⟨hvalid, hledger, hnamed, rfl, ⟨moment, bakongRef, gatewayRaw, rfl, hfree⟩, ?_, ?_⟩
    · exact ⟨hstart.stores, fun _ => rfl, hstart.events, hstart.plans, hstart.subscriptions,
        hstart.invoices, fun _ => rfl⟩
    · intro hmerchant
      rw [hmerchant] at hinternal
      cases hinternal
  · simp only [hinternal, Bool.false_eq_true, if_false]
    have hnever : view.ledger.Never fun row => row.resourceId =
        (payment.settle moment bakongRef gatewayRaw).publicId :=
      hawaiting.ledger.of_get? hstart.ledger
    obtain ⟨hrecord, honce⟩ := recordPlanLedgerEntry_once now store.accountId
      (show 0 < (payment.settle moment bakongRef gatewayRaw).amountCents from hawaiting.amount)
      hnever
    refine ⟨recordPlanLedgerEntry_constraints hvalid _ _ _, fun other row hrow => ?_, ?_, rfl,
      ⟨moment, bakongRef, gatewayRaw, rfl, hfree⟩, ?_, fun _ => honce⟩
    · rw [hrecord, Table.get?_insert] at hrow
      split at hrow
      · obtain rfl := Option.some.inj hrow
        exact .inl rfl
      · exact hledger other row hrow
    · rw [recordPlanLedgerEntry_payments]
      exact hnamed
    · rw [hrecord]
      exact ⟨hstart.stores, fun _ => rfl, hstart.events, hstart.plans, hstart.subscriptions,
        hstart.invoices, fun _ => rfl⟩

theorem Reached.settleInvoice {key : ℕ} {paid : Payment} {found : Store}
    (hreached : Reached settings start paymentId payment store view
      (.settleInvoice key paid found)) (now : Instant) :
    ∃ edited following,
      Task.execute settings now view (.settleInvoice key paid found) =
        .ok (edited, some following) ∧
      Reached settings start paymentId payment store edited following := by
  obtain ⟨hvalid, hledger, hnamed, rfl, ⟨moment, bakongRef, gatewayRaw, rfl, hfree⟩, hstart,
    hcredited⟩ := hreached
  have howned : view.InvoicesOwned := by
    intro other invoice subscriptionId hinvoice hnamed
    obtain ⟨row, hrow⟩ := hawaiting.owned other invoice subscriptionId
      ((hstart.invoices other).symm.trans hinvoice) hnamed
    exact ⟨row, (hstart.subscriptions subscriptionId).trans hrow⟩
  obtain ⟨settled, hsettle, hsettledValid, hpointer⟩ := settleInvoiceForPayment_goes_through
    hvalid howned (hawaiting.pointer.of_get? hstart.invoices)
    (unblocked_congr hstart.invoices hfree) now
  have hsales := (settleInvoiceForPayment_keeps hsettle).2
  refine ⟨settled, .retireSuccessors key (payment.settle moment bakongRef gatewayRaw) found, ?_,
    hsettledValid, ?_, ?_, rfl, ?_, ?_, hpointer⟩
  · simp only [Task.execute]
    exact bind_eq_ok.mpr ⟨settled, hsettle, rfl⟩
  · rw [hsales.ledger]
    exact hledger
  · rw [hsales.payments]
    exact hnamed
  · rw [hsales.events]
    exact hawaiting.events.of_get? hstart.events
  · rw [hsales.ledger]
    exact hcredited

omit hawaiting in
theorem Reached.retireSuccessors {key : ℕ} {paid : Payment} {found : Store}
    (hreached : Reached settings start paymentId payment store view
      (.retireSuccessors key paid found)) (now : Instant) :
    Reached settings start paymentId payment store
      (ChmabaPay.retireSuccessors now view key found) (.complete key paid found) := by
  obtain ⟨hvalid, hledger, hnamed, rfl, hnever, hcredited, hpointer⟩ := hreached
  obtain ⟨events, deliveries, hretire⟩ := retireSuccessors_eq now view key found
  have hretired := never_retireSuccessors hnever now found
  refine ⟨retireSuccessors_constraints hvalid found, ?_, ?_, rfl, hretired, ?_, ?_⟩
  · rw [hretire]
    exact hledger
  · obtain ⟨row, hrow, hname⟩ := hnamed
    rw [hretire]
    simp only [Table.get?_updateWhere, hrow, Option.map_some]
    split
    · exact ⟨row.supersede, rfl, hname⟩
    · exact ⟨row, rfl, hname⟩
  · rw [hretire]
    exact hcredited
  · rw [hretire]
    exact hpointer

omit hawaiting in
theorem Reached.complete {key : ℕ} {paid : Payment} {found : Store}
    (hreached : Reached settings start paymentId payment store view (.complete key paid found))
    (now : Instant) :
    Reached settings start paymentId payment store
      (enqueueEvent now view key paid found .completed) .commit := by
  obtain ⟨hvalid, hledger, hnamed, rfl, hnever, hcredited, hpointer⟩ := hreached
  refine ⟨⟨hvalid.livePeriod, hvalid.idempotencyKey, hvalid.publicId, hvalid.ledgerResource,
    hvalid.planCode⟩, hledger, hnamed, ?_, hcredited, ?_⟩
  · exact hnever.insert ⟨rfl, rfl⟩
  · intro other other' row row' hrow hrow' hsettled hsettled'
    exact hpointer other other' row row' hrow hrow' hsettled.1 hsettled'.1

/-- No part of a call fails on the rows the payment was found with. -/
theorem Reached.execute {task : Task}
    (hreached : Reached settings start paymentId payment store view task)
    (hpart : task.isCommit = false) (now : Instant) :
    ∃ edited following, task.execute settings now view = .ok (edited, some following) ∧
      Reached settings start paymentId payment store edited following := by
  cases task with
  | recordCredit key paid => exact hreached.recordCredit hawaiting now
  | settleInvoice key paid found => exact hreached.settleInvoice hawaiting now
  | retireSuccessors key paid found => exact ⟨_, _, rfl, hreached.retireSuccessors now⟩
  | complete key paid found => exact ⟨_, _, rfl, hreached.complete now⟩
  | commit => cases hpart
  | _ => exact hreached.progress.elim

end Parts

/-! ## Any number of calls -/

/-- The session is about to settle a payment it loaded unsettled. -/
def Session.Holding (paymentId : ℕ) (session : Session) : Prop :=
  ∃ loaded edited, session.loaded.payments.get? paymentId = some loaded ∧
    loaded.status.isSettled = false ∧
    session.edited.payments.get? paymentId = some edited ∧ edited.status.isSettled = true

/-- A session that holds the payment keeps it, whatever it reads in between. -/
theorem Session.Holding.statement {session : Session} (hholding : session.Holding paymentId)
    {task : Task} {now : Instant} {current edited : Tables} {following : Option Task}
    (hexecute : task.execute settings now (Tables.view session.loaded session.edited current) =
      .ok (edited, following)) :
    Session.Holding paymentId
      ⟨Tables.reload session.loaded session.edited current, edited, following⟩ := by
  obtain ⟨loaded, held, hloaded, hunsettled, hheld, hsettled⟩ := hholding
  have hdiffers : session.edited.payments.get? paymentId ≠
      session.loaded.payments.get? paymentId := by
    rw [hloaded, hheld]
    intro hsame
    rw [Option.some.inj hsame, hunsettled] at hsettled
    cases hsettled
  have hreload : (Tables.reload session.loaded session.edited current).payments.get? paymentId =
      some loaded := by
    rw [Tables.reload, Table.get?_reload, reloadRow_of_ne hdiffers, hloaded]
  have hview : (Tables.view session.loaded session.edited current).payments.get? paymentId =
      some held := by
    rw [Tables.view, Table.get?_view, viewRow_of_ne hdiffers, hheld]
  have hmoves := Task.execute_moves hexecute
  cases hedited : edited.payments.get? paymentId with
  | none =>
      rw [(hmoves.none_iff paymentId).mp hedited] at hview
      cases hview
  | some row =>
      refine ⟨loaded, row, hreload, hunsettled, hedited, ?_⟩
      rcases hmoves.rows paymentId held row hview hedited with rfl | hopen | ⟨-, hreversed⟩
      · exact hsettled
      · rw [hopen] at hsettled
        cases hsettled
      · rw [hreversed]
        rfl

/-- A call has settled the payment. -/
def Done (paymentId : ℕ) (payment : Payment) (store : Store) (db : Database) : Prop :=
  SettledOnce db.tables paymentId payment store ∧
    ∃ row, db.tables.payments.get? paymentId = some row ∧ row.publicId = payment.publicId ∧
      row.status.isSettled = true

/-- A closed call leaves the payment settled. An open one has yet to read it, or
holds it; and until the payment is settled, what it holds is a settlement of the
rows the payment was found with. -/
structure CallValid (settings : Settings) (start : Tables) (paymentId : ℕ) (payment : Payment)
    (store : Store) (db : Database) (session : Session) : Prop where
  closed : session.task = none → Done paymentId payment store db
  opened : ∀ task, session.task = some task →
    ((∃ credit, task = .markPaid payment.publicId credit) ∧ session.edited = session.loaded) ∨
      (session.Holding paymentId ∧ (start.Agrees db.tables →
        start.Agrees session.loaded ∧
          Reached settings start paymentId payment store session.edited task))

theorem CallValid.of_closed {db : Database} {session : Session} (hclosed : session.task = none)
    (hdone : Done paymentId payment store db) :
    CallValid settings start paymentId payment store db session := by
  refine ⟨fun _ => hdone, fun task htask => ?_⟩
  rw [hclosed] at htask
  cases htask

theorem Done.draw {db : Database} (hdone : Done paymentId payment store db) (edited : Tables) :
    Done paymentId payment store (db.draw edited) :=
  ⟨hdone.1.congr (.draw db.tables edited), hdone.2⟩

/-- A session without edits sees what is committed. -/
theorem agrees_view_of_clean (loaded current : Tables) :
    current.Agrees (Tables.view loaded loaded current) where
  stores key := by simp [Tables.view, viewRow]
  payments key := by simp [Tables.view, viewRow]
  events key := by simp [Tables.view, viewRow]
  plans key := by simp [Tables.view, viewRow]
  subscriptions key := by simp [Tables.view, viewRow]
  invoices key := by simp [Tables.view, viewRow]
  ledger key := by simp [Tables.view, viewRow]

theorem agrees_reload_of_clean (loaded current : Tables) :
    current.Agrees (Tables.reload loaded loaded current) where
  stores key := by simp [Tables.reload, reloadRow]
  payments key := by simp [Tables.reload, reloadRow]
  events key := by simp [Tables.reload, reloadRow]
  plans key := by simp [Tables.reload, reloadRow]
  subscriptions key := by simp [Tables.reload, reloadRow]
  invoices key := by simp [Tables.reload, reloadRow]
  ledger key := by simp [Tables.reload, reloadRow]

section Turns

variable (hawaiting : Awaiting start paymentId payment store) {db : Database}
include hawaiting

theorem Done.not_agrees (hdone : Done paymentId payment store db) :
    ¬ start.Agrees db.tables := by
  intro hagrees
  obtain ⟨-, row, hrow, -, hsettled⟩ := hdone
  obtain rfl := Option.some.inj
    (hawaiting.found.symm.trans ((hagrees.payments paymentId).symm.trans hrow))
  rw [PaymentStatus.isSettled_of_isTerminal hawaiting.unsettled] at hsettled
  cases hsettled

/-- The first part of a call, before and after the payment is settled. -/
theorem advance_markPaid {now : Instant} {session : Session} {credit : Credit}
    (htask : session.task = some (.markPaid payment.publicId credit))
    (hclean : session.edited = session.loaded)
    (hunhindered : session.Unhindered settings paymentId db now) :
    (start.Agrees db.tables →
      start.Agrees (session.advance settings db now).1.tables ∧
        CallValid settings start paymentId payment store (session.advance settings db now).1
          (session.advance settings db now).2) ∧
    (Done paymentId payment store db →
      Done paymentId payment store (session.advance settings db now).1 ∧
        CallValid settings start paymentId payment store (session.advance settings db now).1
          (session.advance settings db now).2) := by
  have hview : db.tables.Agrees (Tables.view session.loaded session.edited db.tables) := by
    rw [hclean]
    exact agrees_view_of_clean _ _
  have hreload : db.tables.Agrees (Tables.reload session.loaded session.edited db.tables) := by
    rw [hclean]
    exact agrees_reload_of_clean _ _
  have hvalid := hview.constraints db.valid
  constructor
  · intro hagrees
    have hfree := unblocked_congr (fun key => (hagrees.invoices key).symm)
      (hunhindered.2 _ htask rfl)
    obtain ⟨edited, paid, hassign, hreached, hpaid, hstatus⟩ := reached_assignPaid hawaiting
      hvalid (hagrees.trans hview) hfree credit
    rw [Session.advance_of_statement htask rfl (congrArg Except.ok hassign)]
    refine ⟨hagrees.trans (.draw _ _), nofun, ?_⟩
    rintro task htask'
    obtain rfl := Option.some.inj htask'
    refine .inr ⟨⟨payment, paid, ?_, ?_, hpaid, by rw [hstatus]; rfl⟩, fun _ =>
      ⟨hagrees.trans hreload, hreached⟩⟩
    · exact (hreload.payments paymentId).trans
        ((hagrees.payments paymentId).trans hawaiting.found)
    · exact PaymentStatus.isSettled_of_isTerminal hawaiting.unsettled
  · intro hdone
    obtain ⟨row, hrow, hnamed, hsettled⟩ := hdone.2
    have hfind := findByPublicId_of_get? hvalid ((hview.payments paymentId).trans hrow)
    have hterminal : row.status.isTerminal = true := by
      revert hsettled
      cases row.status <;> simp [PaymentStatus.isSettled, PaymentStatus.isTerminal]
    have hassign : assignPaid now (Tables.view session.loaded session.edited db.tables)
        payment.publicId credit =
          (Tables.view session.loaded session.edited db.tables, none) := by
      rw [← hnamed]
      simp [assignPaid, hfind, hterminal]
    rw [Session.advance_of_statement htask rfl (congrArg Except.ok hassign)]
    exact ⟨hdone.draw _, .of_closed rfl (hdone.draw _)⟩

/-- A later part of a call before the payment is settled. -/
theorem advance_reached {now : Instant} {session : Session} {task : Task}
    (htask : session.task = some task) (hholding : session.Holding paymentId)
    (hagrees : start.Agrees db.tables) (hloaded : start.Agrees session.loaded)
    (hreached : Reached settings start paymentId payment store session.edited task) :
    (start.Agrees (session.advance settings db now).1.tables ∨
        Done paymentId payment store (session.advance settings db now).1) ∧
      CallValid settings start paymentId payment store (session.advance settings db now).1
        (session.advance settings db now).2 := by
  have hcurrent : session.loaded.Agrees db.tables := hloaded.symm.trans hagrees
  cases hcommit : task.isCommit with
  | false =>
      obtain ⟨edited, following, hexecute, hnext⟩ :=
        (hreached.congr hcurrent.view).execute hawaiting hcommit now
      rw [Session.advance_of_statement htask hcommit hexecute]
      refine ⟨.inl (hagrees.trans (.draw _ _)), nofun, ?_⟩
      rintro later hlater
      obtain rfl := Option.some.inj hlater
      exact .inr ⟨hholding.statement hexecute, fun _ => ⟨hloaded.trans hcurrent.reload, hnext⟩⟩
  | true =>
      have honce : SettledOnce session.edited paymentId payment store := by
        have hprogress := hreached.progress
        cases task <;> first | exact hprogress | exact hprogress.elim | cases hcommit
      -- the rows it added to the ledger name the payment, and nothing else does
      have hwritten : session.edited.Agrees (session.written db.tables) := by
        refine hcurrent.write fun key added other row hnone hadded hrow hsame => ?_
        rcases hreached.ledger key added hadded with hnamed | hbefore
        · exact hawaiting.ledger other row ((hagrees.ledger other).symm.trans hrow)
            (hsame.2.2.trans hnamed)
        · rw [← hloaded.ledger key, hnone] at hbefore
          cases hbefore
      rw [Session.advance_of_commit htask hcommit (hwritten.constraints hreached.valid)]
      have hdone : Done paymentId payment store
          ⟨session.written db.tables, hwritten.constraints hreached.valid⟩ := by
        obtain ⟨row, hrow, hnamed⟩ := hreached.named
        obtain ⟨-, held, -, -, hheld, hsettled⟩ := hholding
        obtain rfl := Option.some.inj (hrow.symm.trans hheld)
        exact ⟨honce.congr hwritten, row, (hwritten.payments paymentId).trans hrow, hnamed,
          hsettled⟩
      exact ⟨.inr hdone, .of_closed rfl hdone⟩

/-- A later part of a call after the payment is settled: it may run, and fail, but
it does not commit. -/
theorem advance_done {now : Instant} {session : Session} (hholding : session.Holding paymentId)
    (hdone : Done paymentId payment store db) (hundisturbed : session.Undisturbed db)
    (hvalid : CallValid settings start paymentId payment store db session) :
    Done paymentId payment store (session.advance settings db now).1 ∧
      CallValid settings start paymentId payment store (session.advance settings db now).1
        (session.advance settings db now).2 := by
  rcases session.advance_cases settings db now with
    ⟨hsame, hsession | hclosed⟩ | ⟨task, htask, hcommit, -⟩ |
      ⟨task, edited, following, -, -, hexecute, hadvance⟩
  · rw [hsame, hsession]
    exact ⟨hdone, hvalid⟩
  · rw [hsame, hclosed]
    exact ⟨hdone, .of_closed rfl hdone⟩
  · obtain ⟨loaded, edited, hloaded, hunsettled, hedited, hsettled⟩ := hholding
    obtain ⟨-, row, hrow, -, hrowSettled⟩ := hdone
    have hstatus := hundisturbed task htask hcommit paymentId loaded edited row hloaded hedited
      (by rintro rfl; rw [hunsettled] at hsettled; cases hsettled) hrow hrowSettled
    rw [hstatus, hunsettled] at hrowSettled
    cases hrowSettled
  · rw [hadvance]
    refine ⟨hdone.draw edited, fun _ => hdone.draw edited, fun later hlater => .inr ?_⟩
    exact ⟨hholding.statement hexecute, fun hagrees =>
      absurd hagrees ((hdone.draw edited).not_agrees hawaiting)⟩

/-- One turn of a call: the payment may become settled and never unsettled. -/
theorem advance_call {now : Instant} {session : Session}
    (hcommon : start.Agrees db.tables ∨ Done paymentId payment store db)
    (hvalid : CallValid settings start paymentId payment store db session)
    (hunhindered : session.Unhindered settings paymentId db now) :
    ((start.Agrees db.tables ∧
          (start.Agrees (session.advance settings db now).1.tables ∨
            Done paymentId payment store (session.advance settings db now).1)) ∨
        (Done paymentId payment store db ∧
          Done paymentId payment store (session.advance settings db now).1)) ∧
      CallValid settings start paymentId payment store (session.advance settings db now).1
        (session.advance settings db now).2 := by
  cases htask : session.task with
  | none =>
      rw [Session.advance_of_closed htask]
      have hdone := hvalid.closed htask
      exact ⟨.inr ⟨hdone, hdone⟩, hvalid⟩
  | some task =>
      rcases hvalid.opened task htask with ⟨⟨credit, rfl⟩, hclean⟩ | ⟨hholding, hreached⟩
      · have hfirst := advance_markPaid hawaiting htask hclean hunhindered
        rcases hcommon with hagrees | hdone
        · obtain ⟨hagrees', hvalid'⟩ := hfirst.1 hagrees
          exact ⟨.inl ⟨hagrees, .inl hagrees'⟩, hvalid'⟩
        · obtain ⟨hdone', hvalid'⟩ := hfirst.2 hdone
          exact ⟨.inr ⟨hdone, hdone'⟩, hvalid'⟩
      · rcases hcommon with hagrees | hdone
        · obtain ⟨hloaded, hreached⟩ := hreached hagrees
          obtain ⟨hphase, hvalid'⟩ := advance_reached hawaiting htask hholding hagrees hloaded
            hreached
          exact ⟨.inl ⟨hagrees, hphase⟩, hvalid'⟩
        · obtain ⟨hdone', hvalid'⟩ := advance_done hawaiting hholding hdone hunhindered.1 hvalid
          exact ⟨.inr ⟨hdone, hdone'⟩, hvalid'⟩

/-- The calls keep to their phases under every schedule. -/
theorem preserved_calls :
    Preserved (server settings) (fun request => request.reports payment.publicId = true)
      (fun db now session => session.Unhindered settings paymentId db now)
      (fun db => start.Agrees db.tables ∨ Done paymentId payment store db)
      (CallValid settings start paymentId payment store) where
  start db request hcommon hadmitted := by
    cases request with
    | markPaid named credit =>
        obtain rfl : named = payment.publicId := of_decide_eq_true hadmitted
        refine ⟨nofun, fun task htask => .inl ⟨⟨credit, ?_⟩, rfl⟩⟩
        exact (Option.some.inj htask).symm
    | _ => cases hadmitted
  own db now session hcommon hvalid hunhindered := by
    obtain ⟨hphase, hvalid'⟩ := advance_call hawaiting hcommon hvalid hunhindered
    refine ⟨?_, hvalid'⟩
    rcases hphase with ⟨-, hphase⟩ | ⟨-, hdone⟩
    · exact hphase
    · exact .inr hdone
  other db now session bystander hcommon hvalid hunhindered hbystander := by
    obtain ⟨hphase, -⟩ := advance_call hawaiting hcommon hvalid hunhindered
    refine ⟨fun hclosed => ?_, fun task htask => ?_⟩
    · rcases hphase with ⟨hagrees, -⟩ | ⟨-, hdone⟩
      · exact absurd hagrees ((hbystander.closed hclosed).not_agrees hawaiting)
      · exact hdone
    · rcases hbystander.opened task htask with hfresh | ⟨hholding, hreached⟩
      · exact .inl hfresh
      · refine .inr ⟨hholding, fun hagrees => ?_⟩
        rcases hphase with ⟨hbefore, -⟩ | ⟨-, hdone⟩
        · exact hreached hbefore
        · exact absurd hagrees (hdone.not_agrees hawaiting)

end Turns

end Call

/-- However many calls report the credit of an open payment and in whatever order
their parts run, when all of them have ended the payment was settled once:
provided that no call commits over a payment settled since it loaded it, and that
no invoice of the payment is blocked when a call reads the payment. -/
theorem concurrent_credits_settle_once {settings : Settings} {pool : Server} {paymentId : ℕ}
    {payment : Payment} {store : Store} (hidle : pool.sessions = [])
    (hawaiting : Awaiting pool.shared.tables paymentId payment store)
    {turns : List (Turn Request Instant)}
    (hunhindered : Along (server settings).step
      (Meets (fun request => request.reports payment.publicId = true)
        fun db now session => session.Unhindered settings paymentId db now) pool turns)
    (hcalled : (run (server settings).step pool turns).sessions ≠ [])
    (hended : ∀ session ∈ (run (server settings).step pool turns).sessions,
      session.task = none) :
    SettledOnce (run (server settings).step pool turns).shared.tables paymentId payment
      store := by
  obtain ⟨-, hvalid⟩ := (preserved_calls hawaiting).run
    (Pool.holds_of_idle (.inl (.refl _)) hidle) hunhindered
  obtain ⟨session, hsession⟩ := List.exists_mem_of_ne_nil _ hcalled
  exact ((hvalid session hsession).closed (hended session hsession)).1

/-- Two calls of which the second reads the payment when the first has
committed. -/
def consecutiveCredits : List (Turn Request Instant) :=
  [.start (.markPaid "pay_1" Specimen.credit), .start (.markPaid "pay_1" Specimen.credit)] ++
  List.replicate 6 (.advance 0 (seconds 90)) ++ [.advance 1 (seconds 91)]

/-- Two calls of which the second had read the payment before the first
committed. -/
def overlappingCredits : List (Turn Request Instant) :=
  [.start (.markPaid "pay_1" Specimen.credit), .start (.markPaid "pay_1" Specimen.credit),
    .advance 1 (seconds 90)] ++
  List.replicate 6 (.advance 0 (seconds 90)) ++ List.replicate 5 (.advance 1 (seconds 91))

theorem awaiting_sale :
    Awaiting Specimen.sale.tables 0 Specimen.offered Specimen.shopStore where
  found := by decide +kernel
  unsettled := rfl
  amount := by decide
  shop := by decide +kernel
  events key row hrow := by
    have hnone := Initial.get?_eq_none
      (show Specimen.sale.tables.events.rows = [] by decide +kernel) key
    rw [hnone] at hrow
    cases hrow
  ledger := by decide +kernel
  owned key invoice subscriptionId hrow := by
    have hnone := Initial.get?_eq_none
      (show Specimen.sale.tables.invoices.rows = [] by decide +kernel) key
    rw [hnone] at hrow
    cases hrow
  pointer key key' row row' hrow := by
    have hnone := Initial.get?_eq_none
      (show Specimen.sale.tables.invoices.rows = [] by decide +kernel) key
    rw [hnone] at hrow
    cases hrow

theorem concurrent_credits_settle_once_consecutive :
    SettledOnce (run (server {}).step ⟨Specimen.sale, []⟩ consecutiveCredits).shared.tables 0
      Specimen.offered Specimen.shopStore := by
  apply concurrent_credits_settle_once rfl awaiting_sale
  · decide +kernel
  · exact List.ne_nil_of_length_pos (by decide +kernel)
  · decide +kernel

/-- Both calls end with a commit, and the payment is announced twice. -/
theorem concurrent_credits_settle_twice :
    Awaiting Specimen.sale.tables 0 Specimen.offered Specimen.shopStore ∧
      (∀ session ∈ (run (server {}).step ⟨Specimen.sale, []⟩ overlappingCredits).sessions,
        session.task = none) ∧
      ¬ SettledOnce (run (server {}).step ⟨Specimen.sale, []⟩ overlappingCredits).shared.tables 0
        Specimen.offered Specimen.shopStore := by
  have hevent : ∀ key < 2, ∃ event ∈
      (run (server {}).step ⟨Specimen.sale, []⟩ overlappingCredits).shared.tables.events.get? key,
        event.Completes 0 := by decide +kernel
  refine ⟨awaiting_sale, by decide +kernel, fun honce => ?_⟩
  have hsame := honce.completed.unique (hevent 0 (by decide)) (hevent 1 (by decide))
  cases hsame

end ChmabaPay
