import ChmabaPay.Payments.Outbox
import ChmabaPay.Specimen

/-! # Reports over whole runs

A run mixes the platform's requests with detection jobs and expiry sweeps, and any of
them may be hit by an exception. A request that is broken off commits nothing. The two
workers go on with the session they have, so there an exception that the session
survives decides whether the reports are complete.
-/

namespace ChmabaPay

open Calendar Relational Execution Fallible

/-! ## What a commit guarantees -/

/-- Every sale whose status changes is reported. -/
def Announces (before after : Tables) : Prop :=
  ∀ key old new, before.payments.get? key = some old → after.payments.get? key = some new →
    isSynthetic old.referenceId old.metadata = false → new.status ≠ old.status →
    Reported before after key new

/-- What the reports rely on. -/
structure OutboxReady (tables : Tables) : Prop where
  known : KnownEvents tables
  shared : SuccessorsShareStore tables

/-- A commit that reports what it changes and leaves the next one the same start. -/
structure Announced (before after : Tables) : Prop where
  announces : Announces before after
  ready : OutboxReady after

section Announced

variable {settings : Settings} {now : Instant} {before after : Tables}

theorem Reporting.announced (hreporting : Reporting before [] after)
    (hready : OutboxReady before) : Announced before after where
  announces key old new hold hnew hsale hchanged := by
    rcases hreporting.others key (by simp) old new hold hnew with ⟨hsame | hprobe, -⟩ | hreported
    · exact absurd hsame hchanged
    · rw [hsale] at hprobe
      cases hprobe
    · exact hreported
  ready := by
    refine ⟨hreporting.known, fun key new parentId hnew hlink => ?_⟩
    obtain ⟨old, hold, hsame⟩ := hreporting.kept key new hnew
    obtain ⟨parent, hparent, hshares⟩ :=
      hready.shared key old parentId hold (hsame.reissuedFromId ▸ hlink)
    obtain ⟨parent', hparent'⟩ := hreporting.present parentId parent hparent
    obtain ⟨row, hrow, hparents⟩ := hreporting.kept parentId parent' hparent'
    obtain rfl := Option.some.inj (hparent.symm.trans hrow)
    exact ⟨parent', hparent', by rw [hparents.storeId, hsame.storeId, hshares]⟩

theorem Tables.SameSales.announced (hsame : before.SameSales after)
    (hready : OutboxReady before) : Announced before after :=
  ((Reporting.start hready.known).of_same hsame.payments hsame.events hsame.deliveries
    hsame.endpoints).announced hready

/-- A new payment, beside old ones that keep their status. -/
theorem Announced.of_insert (hready : OutboxReady before) (parentId : ℕ)
    (change : Payment → Payment) (hsale : ∀ payment : Payment, payment.SameSale (change payment))
    (hstatus : ∀ payment, (change payment).status = payment.status) (payment : Payment)
    (hparent : ∀ key, payment.reissuedFromId = some key →
      ∃ parent, before.payments.get? key = some parent ∧ parent.storeId = payment.storeId)
    (hpayments : after.payments = (before.payments.update parentId change).insert payment)
    (hevents : after.events = before.events) (hdeliveries : after.deliveries = before.deliveries) :
    Announced before after := by
  have htouched := (Reporting.start hready.known).touch parentId change hsale hstatus
  have hrow : ∀ key new, after.payments.get? key = some new → key ≠ before.payments.next →
      (before.payments.update parentId change).get? key = some new := by
    intro key new hnew hkey
    rw [hpayments, Table.get?_insert, Table.next_update, if_neg hkey] at hnew
    exact hnew
  have hpresent : ∀ key row, (before.payments.update parentId change).get? key = some row →
      after.payments.get? key = some row := by
    intro key row hget
    have hkey : key ≠ (before.payments.update parentId change).next := by
      rintro rfl
      simp at hget
    rw [hpayments, Table.get?_insert, if_neg hkey]
    exact hget
  refine ⟨fun key old new hold hnew _ hchanged => absurd ?_ hchanged, ?_, ?_⟩
  · have hkey : key ≠ before.payments.next := by
      rintro rfl
      simp at hold
    have hget := hrow key new hnew hkey
    rw [Table.get?_update, hold] at hget
    split at hget
    · rw [← Option.some.inj hget]
      exact hstatus old
    · rw [← Option.some.inj hget]
  · intro key delivery hget
    rw [hdeliveries] at hget
    rw [hevents]
    exact hready.known key delivery hget
  · intro key new link hnew hlink
    have hparents : ∃ parent, before.payments.get? link = some parent ∧
        parent.storeId = new.storeId := by
      by_cases hkey : key = before.payments.next
      · rw [hpayments, Table.get?_insert, Table.next_update, if_pos hkey] at hnew
        obtain rfl := Option.some.inj hnew
        exact hparent link hlink
      · obtain ⟨old, hold, hsame⟩ := htouched.kept key new (hrow key new hnew hkey)
        obtain ⟨parent, hget, hshares⟩ :=
          hready.shared key old link hold (hsame.reissuedFromId ▸ hlink)
        exact ⟨parent, hget, hshares.trans hsame.storeId.symm⟩
    obtain ⟨parent, hget, hshares⟩ := hparents
    obtain ⟨row, hrow'⟩ := htouched.present link parent hget
    obtain ⟨parent', hget', hsame⟩ := htouched.kept link row hrow'
    obtain rfl := Option.some.inj (hget.symm.trans hget')
    exact ⟨row, hpresent link row hrow', hsame.storeId.trans hshares⟩

theorem createPayment_announced (hready : OutboxReady before) {rail : Rail} {storeId : ℕ}
    {store : Store} {request : PaymentRequest} {publicId : String} {paymentId : ℕ}
    (hcreate : createPayment settings rail now before storeId store request publicId =
      .ok (paymentId, after)) : Announced before after := by
  rcases createPayment_eq_ok hcreate with ⟨rfl, -⟩ | ⟨payment, -, hcreated, rfl⟩
  · exact (Reporting.start hready.known).announced hready
  · have hidle : before.payments = before.payments.update before.payments.next id :=
      Table.ext_get? rfl fun key => by simp
    refine .of_insert hready before.payments.next id .refl (fun _ => rfl) payment
      (fun key hlink => ?_) (congrArg (Table.insert · payment) hidle) rfl rfl
    rw [hcreated.parent] at hlink
    cases hlink

theorem reissuePayment_announced (hready : OutboxReady before) {rail : Rail} {parentId : ℕ}
    {parent : Payment} {publicId : String} {paymentId : ℕ}
    (hparent : before.payments.get? parentId = some parent)
    (hreissue : reissuePayment settings rail now before parentId parent publicId =
      .ok (paymentId, after)) : Announced before after := by
  rcases (reissuePayment_eq_ok hreissue).2 with ⟨rfl, -⟩ | ⟨payment, -, hchild, -, rfl⟩
  · exact (Reporting.start hready.known).announced hready
  · refine .of_insert hready parentId (Payment.recordReissue publicId now)
      (fun _ => ⟨rfl, rfl, rfl, rfl⟩) (fun _ => rfl) payment (fun key hlink => ?_) rfl rfl rfl
    obtain rfl := Option.some.inj (hchild.parent.symm.trans hlink)
    exact ⟨parent, hparent, hchild.store.symm⟩

theorem invoicePayment_announced (hready : OutboxReady before) {rail : Rail} {invoiceId : ℕ}
    {invoice : PlanInvoice} {storeId : ℕ} {store : Store} {publicId : String} {paymentId : ℕ}
    (hminted : invoicePayment settings rail now before invoiceId invoice storeId store publicId =
      .ok (paymentId, after)) : Announced before after := by
  rcases invoicePayment_eq_ok hminted with
    ⟨storedId, stored, -, hstored, ⟨-, rfl⟩ | hreissue⟩ | ⟨request, -, -, hcreate⟩
  · exact (Reporting.start hready.known).announced hready
  · exact reissuePayment_announced hready hstored hreissue
  · exact createPayment_announced hready hcreate

theorem perform_announced (hready : OutboxReady before) {op : Op} {response : Response}
    (hperform : perform settings now before op = .ok (response, after)) :
    Announced before after := by
  cases op with
  | signUp email name renameExisting =>
      simp only [perform, Except.ok.injEq, Prod.mk.injEq] at hperform
      obtain ⟨-, rfl⟩ := hperform
      exact (upsertAccount_sameSales _ _ _ _ _).announced hready
  | createPayment rail storeId request publicId =>
      simp only [perform, bind_eq_ok, pure_eq_ok, Prod.mk.injEq] at hperform
      obtain ⟨store, -, ⟨paymentId, created⟩, hcreate, -, rfl⟩ := hperform
      exact createPayment_announced hready hcreate
  | reissuePayment rail parentId publicId =>
      simp only [perform, bind_eq_ok, pure_eq_ok, Prod.mk.injEq] at hperform
      obtain ⟨parent, hparent, ⟨paymentId, created⟩, hreissue, -, rfl⟩ := hperform
      exact reissuePayment_announced hready (requirePayment_eq_ok hparent) hreissue
  | markScanned paymentId =>
      simp only [perform, bind_eq_ok, pure_eq_ok, Prod.mk.injEq] at hperform
      obtain ⟨scanned, hscan, -, rfl⟩ := hperform
      exact (markScanned_reporting hready.known hscan).announced hready
  | markPaid publicId credit =>
      simp only [perform, bind_eq_ok, pure_eq_ok, Prod.mk.injEq] at hperform
      obtain ⟨⟨settledId, settled⟩, hmark, -, rfl⟩ := hperform
      rcases markPaid_eq_ok hmark with ⟨-, rfl⟩ | ⟨paymentId, payment, -, hfind, -, hsettle⟩
      · exact (Reporting.start hready.known).announced hready
      · exact (settlePayment_reporting hready.known hready.shared
          (findByPublicId_eq_some hfind).1 hsettle).announced hready
  | reversePayment paymentId reason =>
      simp only [perform, bind_eq_ok, pure_eq_ok, Prod.mk.injEq] at hperform
      obtain ⟨payment, hpayment, reversed, hreverse, -, rfl⟩ := hperform
      exact (reversePayment_reporting hready.known (requirePayment_eq_ok hpayment)
        hreverse).announced hready
  | expireDuePayments =>
      simp only [perform, expireDuePayments, bind_eq_ok, pure_eq_ok, Prod.mk.injEq] at hperform
      obtain ⟨_, ⟨expired, hexpire, rfl⟩, -, rfl⟩ := hperform
      exact (expireDuePayments_reporting hready.known hexpire).announced hready
  | changePlan accountId planCode =>
      simp only [perform, bind_eq_ok, pure_eq_ok, Prod.mk.injEq] at hperform
      obtain ⟨⟨out, changed⟩, hchange, -, rfl⟩ := hperform
      exact (changePlan_sameSales hchange).announced hready
  | getInvoiceKhqr rail accountId invoiceId publicId =>
      simp only [perform, bind_eq_ok, pure_eq_ok, Prod.mk.injEq] at hperform
      obtain ⟨⟨paymentId, collected⟩, hkhqr, -, rfl⟩ := hperform
      obtain ⟨invoice, minted, hqId, hq, -, -, -, -, hminted, rfl⟩ := getInvoiceKhqr_eq_ok hkhqr
      have hannounced := invoicePayment_announced hready hminted
      -- the invoice gets its pointer beside the new payment
      exact ⟨hannounced.announces, ⟨hannounced.ready.known, hannounced.ready.shared⟩⟩
  | issueDueInvoices limit =>
      simp only [perform, Except.ok.injEq, Prod.mk.injEq] at hperform
      obtain ⟨-, rfl⟩ := hperform
      obtain ⟨invoices, heq⟩ := issueDueInvoices_eq settings now before limit
      rw [heq]
      have hsame : before.SameSales { before with invoices := invoices } :=
        ⟨rfl, rfl, rfl, rfl, rfl, rfl⟩
      exact hsame.announced hready
  | enforceGrace limit =>
      simp only [perform, Except.ok.injEq, Prod.mk.injEq] at hperform
      obtain ⟨-, rfl⟩ := hperform
      exact (enforceGrace_sameSales settings now before limit).announced hready
  | resolveInvoice actorId invoiceId action reason amountCents =>
      simp only [perform, bind_eq_ok, pure_eq_ok, Prod.mk.injEq] at hperform
      obtain ⟨resolved, hresolve, -, rfl⟩ := hperform
      exact (resolveInvoice_sameSales hresolve).announced hready
  | assignAccountPlan actorId accountId planCode reason =>
      simp only [perform, bind_eq_ok, pure_eq_ok, Prod.mk.injEq] at hperform
      obtain ⟨⟨subscriptionId, assigned⟩, hassign, -, rfl⟩ := hperform
      exact (assignAccountPlan_sameSales hassign).announced hready

end Announced

/-! ## Runs with exceptions -/

/-- A request, the detection job of a payment the rail reports as settled, or the
expiry sweep. -/
inductive OutboxOp where
  | request (op : Op)
  | detect (publicId : String) (credit : Credit) (attempt : Attempt) (closedAt : Option Instant)
      (ledgerFails : Bool)
  | sweep

/-- An operation, the microseconds since the previous one, and the exception that hits
it. -/
structure OutboxInput where
  elapsed : ℕ
  op : OutboxOp
  fault : Option Fault := none

def OutboxInput.moment (input : OutboxInput) (world : World) : Instant :=
  world.clock + input.elapsed

/-- What the operation commits, if it comes to a commit. -/
def outboxCommit (settings : Settings) (now : Instant) (db : Database) (op : OutboxOp)
    (fault : Option Fault) : Option Database :=
  match op with
  | .request op =>
      if fault.isSome then none else ((transact settings now db op).map Prod.snd).toOption
  | .detect publicId credit attempt closedAt ledgerFails =>
      (processDetection settings now db publicId credit attempt closedAt ledgerFails
        fault).toOption
  | .sweep => (sweepExpired now db fault).toOption

def outboxStep (settings : Settings) (world : World) (input : OutboxInput) : World × Bool :=
  match outboxCommit settings (input.moment world) world.db input.op input.fault with
  | none => ({ world with clock := input.moment world }, false)
  | some db => ({ clock := input.moment world, db := db }, true)

/-- Whether an exception breaks an operation off and leaves the session usable. -/
def Fault.survived (fault : Option Fault) (walk : Walk Tables) (tables : Tables) : Bool :=
  match Fault.outcome fault walk tables with
  | .ok (some _) => true
  | .ok none | .error _ => false

/-- No exception is survived inside the settlement of a detection job or inside the
expiry of a sweep. -/
def OutboxInput.Unbroken (settings : Settings) (world : World) (input : OutboxInput) : Prop :=
  match input.op with
  | .request _ => True
  | .detect publicId credit _ _ ledgerFails =>
      ∀ row ∈ findByPublicId world.db.tables publicId, row.2.status.isTerminal = false →
        Fault.survived input.fault
          (settlePaymentWalk settings (input.moment world) row.1 row.2 credit ledgerFails
            world.db.tables) world.db.tables = false
  | .sweep =>
      Fault.survived input.fault
        (expireDuePaymentsWalk (input.moment world) world.db.tables) world.db.tables = false

section Runs

variable {settings : Settings} {world : World} {input : OutboxInput} {fault : Option Fault}
  {walk : Walk Tables} {tables : Tables}

/-- Without a survived exception a walk that goes on has come to its end. -/
theorem Fault.finished_of_outcome (houtcome : Fault.outcome fault walk tables = .ok none) :
    walk.finished = true := by
  unfold Fault.outcome at houtcome
  split at houtcome
  · next hbroken =>
    unfold Walk.brokenOff at hbroken
    split at hbroken
    · next count hraised =>
      -- a state was there to be left behind
      obtain ⟨-, hcount⟩ := Option.filter_eq_some_iff.mp hraised
      have hlength := of_decide_eq_true hcount
      rw [List.getElem?_eq_none_iff, List.length_cons] at hbroken
      omega
    · split at hbroken
      · assumption
      · cases hbroken
  · split at houtcome <;> cases houtcome

theorem Fault.outcome_of_unsurvived (hsurvived : Fault.survived fault walk tables = false)
    (left : Tables) : Fault.outcome fault walk tables ≠ .ok (some left) := by
  intro houtcome
  simp [Fault.survived, houtcome] at hsurvived

theorem processDetection_announced {now : Instant} {db committed : Database} {publicId : String}
    {credit : Credit} {attempt : Attempt} {closedAt : Option Instant} {ledgerFails : Bool}
    (hready : OutboxReady db.tables)
    (hunbroken : ∀ row ∈ findByPublicId db.tables publicId, row.2.status.isTerminal = false →
      Fault.survived fault (settlePaymentWalk settings now row.1 row.2 credit ledgerFails
        db.tables) db.tables = false)
    (hcommit : processDetection settings now db publicId credit attempt closedAt ledgerFails
      fault = .ok committed) : Announced db.tables committed.tables := by
  have hidle := (Reporting.start hready.known).announced hready
  unfold processDetection at hcommit
  split at hcommit
  · exact Except.ok.inj hcommit ▸ hidle
  · next paymentId payment hfind =>
    split at hcommit
    · exact Except.ok.inj hcommit ▸ hidle
    · next hopen =>
      simp only [bind_eq_ok] at hcommit
      obtain ⟨outcome, houtcome, hcommit⟩ := hcommit
      have hsurvived := hunbroken (paymentId, payment) hfind (by simpa using hopen)
      cases outcome with
      | some left => exact absurd houtcome (Fault.outcome_of_unsurvived hsurvived left)
      | none =>
          simp only [bind_eq_ok] at hcommit
          obtain ⟨settled, hsettled, hcommit⟩ := hcommit
          have hreporting := settlePaymentWalk_reporting hready.known hready.shared
            (findByPublicId_eq_some hfind).1 (Fault.finished_of_outcome houtcome)
          rw [← Tables.commit_eq_ok hsettled] at hreporting
          rw [Tables.commit_eq_ok hcommit]
          exact (hreporting.touch paymentId (Payment.recordAttempt attempt closedAt)
            (fun _ => ⟨rfl, rfl, rfl, rfl⟩) fun _ => rfl).announced hready

theorem sweepExpired_announced {now : Instant} {db committed : Database}
    (hready : OutboxReady db.tables)
    (hunbroken : Fault.survived fault (expireDuePaymentsWalk now db.tables) db.tables = false)
    (hcommit : sweepExpired now db fault = .ok committed) :
    Announced db.tables committed.tables := by
  simp only [sweepExpired, bind_eq_ok] at hcommit
  obtain ⟨outcome, houtcome, hcommit⟩ := hcommit
  cases outcome with
  | some left => exact absurd houtcome (Fault.outcome_of_unsurvived hunbroken left)
  | none =>
      have hexpire := (expireDuePaymentsWalk_follows now).of_finished
        (Fault.finished_of_outcome houtcome)
      rw [Tables.commit_eq_ok hcommit]
      exact (expireDuePayments_reporting hready.known hexpire).announced hready

/-- One operation reports what it commits. -/
theorem outboxStep_announced (hready : OutboxReady world.db.tables)
    (hunbroken : input.Unbroken settings world) :
    Announced world.db.tables (next (outboxStep settings) world input).db.tables := by
  obtain ⟨elapsed, op, fault⟩ := input
  simp only [next, outboxStep]
  cases hcommit : outboxCommit settings _ world.db op fault with
  | none => exact (Reporting.start hready.known).announced hready
  | some committed =>
      simp only
      cases op with
      | request op =>
          simp only [outboxCommit] at hcommit
          split at hcommit
          · cases hcommit
          · cases htransact : transact settings _ world.db op with
            | error failure =>
                rw [htransact] at hcommit
                cases hcommit
            | ok outcome =>
                rw [htransact] at hcommit
                obtain rfl := Option.some.inj hcommit
                simp only [transact, bind_eq_ok, pure_eq_ok] at htransact
                obtain ⟨⟨response, tables⟩, hperform, db, hdb, rfl⟩ := htransact
                rw [Tables.commit_eq_ok hdb]
                exact perform_announced hready hperform
      | detect publicId credit attempt closedAt ledgerFails =>
          simp only [outboxCommit] at hcommit
          cases hdetect : processDetection settings _ world.db publicId credit attempt closedAt
              ledgerFails fault with
          | error failure =>
              rw [hdetect] at hcommit
              cases hcommit
          | ok db =>
              rw [hdetect] at hcommit
              obtain rfl := Option.some.inj hcommit
              exact processDetection_announced hready hunbroken hdetect
      | sweep =>
          simp only [outboxCommit] at hcommit
          cases hsweep : sweepExpired _ world.db fault with
          | error failure =>
              rw [hsweep] at hcommit
              cases hcommit
          | ok db =>
              rw [hsweep] at hcommit
              obtain rfl := Option.some.inj hcommit
              exact sweepExpired_announced hready hunbroken hsweep

end Runs

/-- In a run in which no worker survives an exception half-way, every committed change
of a sale's status is committed with its event and the deliveries of that event. -/
theorem status_changes_reported {settings : Settings} {world : World}
    (hready : OutboxReady world.db.tables) {inputs : List OutboxInput}
    (hunbroken : Along (outboxStep settings)
      (fun world input => input.Unbroken settings world) world inputs) :
    Along (outboxStep settings)
      (fun world input => Announces world.db.tables
        (next (outboxStep settings) world input).db.tables) world inputs :=
  along_of_invariant (fun world => OutboxReady world.db.tables)
    (fun world input => input.Unbroken settings world) _
    (fun _ _ hready hunbroken => (outboxStep_announced hready hunbroken).ready)
    (fun _ _ hready hunbroken => (outboxStep_announced hready hunbroken).announces) hready
    hunbroken

namespace Specimen

theorem outboxReady_sale : OutboxReady sale.tables where
  known key delivery hget := by
    have hnone : ∀ key, sale.tables.deliveries.get? key = none := fun _ => rfl
    rw [hnone] at hget
    cases hget
  shared key payment parentId hget hlink := by
    have hrows : sale.tables.payments.rows = [(0, offered)] := by decide +kernel
    have hmem := Table.get?_eq_some_iff.mp hget
    rw [hrows, List.mem_singleton, Prod.mk.injEq] at hmem
    rw [hmem.2] at hlink
    cases hlink

/-- The code is scanned, a sweep is lost with its connection and the next one expires the
code. -/
def reportedRun : List OutboxInput :=
  [⟨60000000, .request (.markScanned 0), none⟩, ⟨300000000, .sweep, some ⟨1, true⟩⟩,
    ⟨60000000, .sweep, none⟩]

/-- The event of the expired code cannot be written. -/
def brokenSweep : OutboxInput := ⟨340000000, .sweep, some ⟨1, false⟩⟩

end Specimen

theorem status_changes_reported_run :
    OutboxReady Specimen.sale.tables ∧
      Along (outboxStep {}) (fun world input => Announces world.db.tables
        (next (outboxStep {}) world input).db.tables) ⟨seconds 60, Specimen.sale⟩
        Specimen.reportedRun := by
  refine ⟨Specimen.outboxReady_sale, status_changes_reported Specimen.outboxReady_sale ?_⟩
  refine ⟨trivial, ?_, ?_, trivial⟩
  · change Fault.survived _ _ _ = false
    decide +kernel
  · change Fault.survived _ _ _ = false
    decide +kernel

/-- A sweep whose first event raises falls back to its UPDATE, and the sale expires
without an event. -/
theorem expiry_unreported :
    OutboxReady Specimen.sale.tables ∧
      ¬ Announces Specimen.sale.tables
        (next (outboxStep {}) ⟨seconds 60, Specimen.sale⟩ Specimen.brokenSweep).db.tables := by
  refine ⟨Specimen.outboxReady_sale, fun hannounces => ?_⟩
  obtain ⟨_, _, _, _, -, -, hlist, -⟩ := hannounces 0 Specimen.offered Specimen.offered.expire
    (by decide +kernel) (by decide +kernel) (by decide +kernel) (by decide)
  have hnone : newEvents Specimen.sale.tables
      (next (outboxStep {}) ⟨seconds 60, Specimen.sale⟩ Specimen.brokenSweep).db.tables 0 =
      [] := by decide +kernel
  rw [hnone] at hlist
  cases hlist

end ChmabaPay
