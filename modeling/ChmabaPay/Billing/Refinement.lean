import ChmabaPay.Billing.Purchases
import ChmabaPay.Operations

/-! # Operations refine the book

Every operation that commits makes a sequence of moves on the billing book. The
occasion of the moves names what this operation may do: which invoices it may
settle and which subscriptions it assigns.
-/

namespace ChmabaPay

open Calendar Relational Fallible

/-! ## The occasion of an operation -/

/-- The invoices an operation settles: those that point at the payment a credit
arrived for, and the unresolved one an operator marks paid. -/
def Op.settles (tables : Tables) (op : Op) (key : ℕ) (invoice : PlanInvoice) : Prop :=
  match op with
  | .markPaid publicId _ => ∃ paymentId payment,
      findByPublicId tables publicId = some (paymentId, payment) ∧
        payment.status.isTerminal = false ∧
        invoice.chmabapayPaymentId = some paymentId ∧ invoice.status ≠ .paid
  | .resolveInvoice _ invoiceId .markPaid _ _ =>
      key = invoiceId ∧ invoice.status.isResolved = false
  | _ => False

/-- The unresolved invoice an operator waives or credits. -/
def Op.forgives (op : Op) (key : ℕ) (invoice : PlanInvoice) : Prop :=
  match op with
  | .resolveInvoice _ invoiceId .waive _ _ | .resolveInvoice _ invoiceId .credit _ _ =>
      key = invoiceId ∧ invoice.status.isResolved = false
  | _ => False

/-- The subscription an operator put in force by this operation. -/
def Op.assigns (op : Op) (response : Response) (key : ℕ) : Prop :=
  match op with
  | .assignAccountPlan _ _ _ _ => response = .subscription key
  | _ => False

/-- The payment an operation gives an invoice to point at: the code it hands out
for it, or the credit it confirms. -/
def Op.hands (op : Op) (response : Response) (key paymentId : ℕ) : Prop :=
  match op with
  | .getInvoiceKhqr _ _ invoiceId _ => key = invoiceId ∧ response = .payment paymentId
  | .markPaid _ _ => response = .settled (some paymentId)
  | _ => False

/-- Sweeps and the operator's routes. -/
def Op.isPlatform : Op → Prop
  | .issueDueInvoices _ | .enforceGrace _ | .resolveInvoice _ _ _ _ _
  | .assignAccountPlan _ _ _ _ => True
  | _ => False

def occasionOf (settings : Settings) (now : Instant) (before after : Tables) (op : Op)
    (response : Response) : Occasion where
  now := now
  grace := gracePeriod settings
  lead := leadPeriod settings
  account := after.hasAccount
  plan := before.hasPlan
  free := before.freePlan
  platform := op.isPlatform
  assigned := op.assigns response
  settles := op.settles before
  forgives := op.forgives
  hands := op.hands response

/-! ## Settling and resolving -/

section Resolving

variable {settings : Settings} {now : Instant} {occasion : Occasion} {tables tables' : Tables}

/-- When a rewritten invoice passed the commit, nothing stood on its window
before. -/
theorem Constraints.alone_before (hvalid : Constraints tables') {invoiceId : ℕ}
    {invoice changed : PlanInvoice}
    (hafter : tables'.book.invoices = (tables.book.putInvoice invoiceId changed).invoices)
    (hlive : changed.status ≠ .void) {key : ℕ} {start : Instant}
    (hcovers : invoice.Covers key start) (hchanged : changed.Covers key start) :
    tables.book.Alone invoiceId invoice := by
  intro other row hrow hne hsubscription hstart
  have hself : tables'.invoices.get? invoiceId = some changed := by
    rw [← Tables.book_invoices, hafter]
    simp
  have hother : tables'.invoices.get? other = some row := by
    rw [← Tables.book_invoices, hafter]
    simpa [hne] using hrow
  refine hvalid.alone hself hlive hchanged other row hother hne ?_ ?_
  · rw [hsubscription, hcovers.subscription, hchanged.subscription]
  · rw [hstart, hcovers.periodStart, hchanged.periodStart]

variable (hbook : tables.book.Wellformed tables.hasAccount tables.hasPlan)
  (hvalid : Constraints tables') (hnow : occasion.now = now)
  (hgrace : occasion.grace = gracePeriod settings)

include hbook hvalid hnow hgrace

/-- The settlement of one invoice is one move, wherever it is called from. -/
theorem settleInvoice_move_of_commit {recorded : Tables} (hrecorded : recorded.book = tables.book)
    {invoiceId : ℕ} {invoice : PlanInvoice}
    (hinvoice : tables.invoices.get? invoiceId = some invoice)
    (hunpaid : invoice.status ≠ .paid) (hsettles : occasion.settles invoiceId invoice)
    {paymentId : Option ℕ} {source : String}
    (hhands : ∀ granted credited, paymentId = some credited → occasion.hands granted credited)
    (hafter : tables'.book =
      (settleInvoice settings now recorded invoiceId invoice paymentId now source).book) :
    Move occasion tables.book tables'.book := by
  obtain ⟨key, row, start, hcovers, hrow, -⟩ := hbook.backed invoiceId invoice hinvoice
  have hinvoice' : recorded.invoices.get? invoiceId = some invoice := by
    rw [← Tables.book_invoices, hrecorded]
    exact hinvoice
  have hrow' : recorded.subscriptions.get? key = some row := by
    rw [← Tables.book_subscriptions, hrecorded]
    exact hrow
  rw [hafter, ← hrecorded]
  refine settleInvoice_move hinvoice' hunpaid hcovers hrow' now paymentId source hnow hgrace
    hsettles hhands fun hearly => ?_
  rw [settleInvoice_book_of_grace hunpaid hcovers hrow' _ _ _ hearly,
    payInvoice_book _ _ hinvoice' hcovers hrow'] at hafter
  have hpaid : (invoice.resolve .paid (some now)).Covers key start :=
    ⟨hcovers.subscription, hcovers.periodStart, hcovers.periodEnd, hcovers.dueAt⟩
  refine hvalid.alone_before ?_ (by simp [PlanInvoice.resolve]) hcovers hpaid
  rw [hafter]
  rfl

theorem markPaid_moves {publicId : String} {credit : Credit} {settledId : Option ℕ}
    (hmark : markPaid settings now tables publicId credit = .ok (settledId, tables'))
    (hsettles : ∀ key invoice, (Op.markPaid publicId credit).settles tables key invoice →
      occasion.settles key invoice)
    (hhands : ∀ key credited, settledId = some credited → occasion.hands key credited) :
    (tables'.book = tables.book ∨ Move occasion tables.book tables'.book) ∧
      tables.Keeps tables' := by
  unfold markPaid at hmark
  split at hmark
  · simp only [Except.ok.injEq, Prod.mk.injEq] at hmark
    obtain ⟨-, rfl⟩ := hmark
    exact ⟨.inl rfl, .refl tables⟩
  next paymentId payment hfind =>
    split at hmark
    · simp only [Except.ok.injEq, Prod.mk.injEq] at hmark
      obtain ⟨-, rfl⟩ := hmark
      exact ⟨.inl rfl, .refl tables⟩
    next hopen =>
      cases hsettle : settlePayment settings now tables paymentId payment credit with
      | error failure => simp [hsettle, Except.map] at hmark
      | ok settled =>
          simp only [hsettle, Except.map, Except.ok.injEq, Prod.mk.injEq] at hmark
          obtain ⟨rfl, rfl⟩ := hmark
          refine ⟨?_, (settlePayment_payments hsettle).2⟩
          rcases settlePayment_book hsettle with
            ⟨-, hsame⟩ | ⟨recorded, invoiceId, invoice, hrecorded, hinvoice, hpointer, -, hafter⟩
          · exact .inl hsame
          · by_cases hunpaid : invoice.status = .paid
            · refine .inl (hafter.trans ?_)
              rw [settleInvoice, if_pos hunpaid, hrecorded]
            · refine .inr (settleInvoice_move_of_commit hbook hvalid hnow hgrace hrecorded hinvoice
                hunpaid (hsettles _ _ ?_) hhands hafter)
              exact ⟨paymentId, payment, hfind, by simpa using hopen, hpointer, hunpaid⟩

omit hbook hvalid hnow hgrace in
theorem InvoiceStatus.isUnpaid_of_not_isResolved {status : InvoiceStatus}
    (hopen : status.isResolved = false) : status.isUnpaid = true := by
  revert hopen
  cases status <;> decide

omit hgrace in
/-- Forgiving an invoice is one move. -/
theorem forgiveInvoice_move {invoiceId : ℕ} {invoice : PlanInvoice}
    (hinvoice : tables.invoices.get? invoiceId = some invoice)
    (hunpaid : invoice.isUnpaid = true) {status : InvoiceStatus}
    (hstatus : status = .waived ∨ status = .credited) (hplatform : occasion.platform)
    (hforgives : occasion.forgives invoiceId invoice)
    (hafter : tables'.book = (forgiveInvoice now tables invoiceId invoice status).book) :
    Move occasion tables.book tables'.book := by
  subst hnow
  obtain ⟨key, row, start, hcovers, hrow, -⟩ := hbook.backed invoiceId invoice hinvoice
  rw [forgiveInvoice_book _ _ hinvoice hcovers hrow] at hafter
  have hresolved : (invoice.resolve status invoice.paidAt).Covers key start :=
    ⟨hcovers.subscription, hcovers.periodStart, hcovers.periodEnd, hcovers.dueAt⟩
  have halone : tables.book.Alone invoiceId invoice := by
    refine hvalid.alone_before ?_ ?_ hcovers hresolved
    · rw [hafter]
      rfl
    · rcases hstatus with rfl | rfl <;> simp [PlanInvoice.resolve]
  rw [hafter]
  exact .grant tables.book invoiceId invoice key row start status _ hinvoice hrow hcovers
    (.inr ⟨hstatus, hunpaid, hplatform, hforgives⟩) halone

omit hbook hvalid hgrace in
/-- Withdrawing one unpaid invoice is one move. -/
theorem withdrawInvoice_move {invoiceId : ℕ} {invoice : PlanInvoice}
    (hinvoice : tables.invoices.get? invoiceId = some invoice)
    (hunpaid : invoice.isUnpaid = true) :
    Move occasion tables.book (withdrawInvoice now tables invoiceId invoice).book := by
  subst hnow
  have hbook : (withdrawInvoice occasion.now tables invoiceId invoice).book =
      tables.book.withdrawWhere occasion.now (fun key _ => decide (key = invoiceId))
        .operator := by
    unfold withdrawInvoice
    rw [liftBillingHold_book]
    ext1 <;> funext key
    · rfl
    · simp only [Tables.book_invoices, Table.get?_update, Book.withdrawWhere_invoices,
        decide_eq_true_eq]
      split <;> simp
  rw [hbook]
  refine .withdraw tables.book _ _ fun key row hrow hselected => ?_
  obtain rfl : key = invoiceId := by simpa using hselected
  exact (Option.some.inj (hrow.symm.trans hinvoice)) ▸ hunpaid

omit hbook hvalid hnow hgrace in
theorem forgiveInvoice_keeps (now : Instant) (tables : Tables) (invoiceId : ℕ)
    (invoice : PlanInvoice) (status : InvoiceStatus) :
    tables.Keeps (forgiveInvoice now tables invoiceId invoice status) := by
  unfold forgiveInvoice
  dsimp only
  split
  · refine Tables.Keeps.liftBillingHold ?_ _
    exact .of_eq rfl rfl rfl
  next subscriptionId _ =>
    obtain ⟨activated, hactivated⟩ := activateSubscription_eq now
      { tables with
        invoices := tables.invoices.update invoiceId fun row => { row with status := status } }
      subscriptionId
    rw [hactivated]
    obtain ⟨extended, hextended⟩ := extendCoverage_eq
      { tables with
        invoices := tables.invoices.update invoiceId fun row => { row with status := status }
        subscriptions := activated } invoice
    rw [hextended]
    refine Tables.Keeps.liftBillingHold ?_ _
    exact .of_eq rfl rfl rfl

theorem resolveInvoice_moves {actorId invoiceId : ℕ} {action : ResolveAction} {reason : String}
    {amountCents : Option Int} (hplatform : occasion.platform)
    (hresolve : resolveInvoice settings now tables actorId invoiceId action reason amountCents =
      .ok tables')
    (hsettles : ∀ key invoice,
      (Op.resolveInvoice actorId invoiceId action reason amountCents).settles tables key invoice →
        occasion.settles key invoice)
    (hforgives : ∀ key invoice,
      (Op.resolveInvoice actorId invoiceId action reason amountCents).forgives key invoice →
        occasion.forgives key invoice) :
    Move occasion tables.book tables'.book ∧ tables.Keeps tables' := by
  unfold resolveInvoice at hresolve
  split at hresolve
  · cases hresolve
  next invoice hinvoice =>
    split at hresolve
    · cases hresolve
    next hresolved =>
      have hopen : invoice.status.isResolved = false := by simpa using hresolved
      have hunpaid := InvoiceStatus.isUnpaid_of_not_isResolved hopen
      have hafter := (congrArg Tables.book (Except.ok.inj hresolve)).symm
      have hkeeps : ∀ run : Tables, tables.Keeps run → tables.Keeps
          (recordAudit run (some actorId) invoiceId (.invoiceResolved action invoice.accountId
            invoice.periodMonth invoice.totalDueCents reason
            (if action = .credit then some (amountCents.getD invoice.totalDueCents) else none))) :=
        fun run hrun => hrun.trans (.of_eq rfl rfl rfl)
      dsimp only at hresolve
      rw [recordAudit_book] at hafter
      rw [← Except.ok.inj hresolve]
      rw [← Except.ok.inj hresolve] at hvalid
      cases action with
      | markPaid =>
          refine ⟨?_, hkeeps _ (settleInvoice_keeps _ _ _ _ _ _ _ _).1⟩
          exact settleInvoice_move_of_commit hbook hvalid hnow hgrace rfl hinvoice
            (PlanInvoice.ne_paid_of_isUnpaid hunpaid) (hsettles _ _ ⟨rfl, hopen⟩)
            (fun _ _ hnone => by cases hnone) rfl
      | void =>
          refine ⟨withdrawInvoice_move hnow hinvoice hunpaid,
            hkeeps _ (Tables.Keeps.liftBillingHold ?_ _)⟩
          exact .of_eq rfl rfl rfl
      | waive =>
          refine ⟨?_, hkeeps _ (forgiveInvoice_keeps _ _ _ _ _)⟩
          exact forgiveInvoice_move hbook hvalid hnow hinvoice hunpaid (.inl rfl) hplatform
            (hforgives _ _ ⟨rfl, hopen⟩) rfl
      | credit =>
          refine ⟨?_, hkeeps _ (forgiveInvoice_keeps _ _ _ _ _)⟩
          exact forgiveInvoice_move hbook hvalid hnow hinvoice hunpaid (.inr rfl) hplatform
            (hforgives _ _ ⟨rfl, hopen⟩) rfl

end Resolving

/-! ## Every operation -/

section Perform

variable {settings : Settings} {now : Instant} {tables tables' : Tables}

theorem createPayment_keeps {rail : Rail} {storeId : ℕ} {store : Store}
    {request : PaymentRequest} {publicId : String} {paymentId : ℕ}
    (hcreate : createPayment settings rail now tables storeId store request publicId =
      .ok (paymentId, tables')) : tables'.book = tables.book ∧ tables.Keeps tables' := by
  rcases createPayment_eq_ok hcreate with ⟨rfl, -⟩ | ⟨payment, -, -, rfl⟩
  · exact ⟨rfl, .refl tables'⟩
  · exact ⟨rfl, .of_eq rfl rfl rfl⟩

theorem reissuePayment_keeps {rail : Rail} {parentId : ℕ} {parent : Payment}
    {publicId : String} {paymentId : ℕ}
    (hreissue : reissuePayment settings rail now tables parentId parent publicId =
      .ok (paymentId, tables')) : tables'.book = tables.book ∧ tables.Keeps tables' := by
  rcases (reissuePayment_eq_ok hreissue).2 with ⟨rfl, -⟩ | ⟨payment, -, -, -, rfl⟩
  · exact ⟨rfl, .refl tables'⟩
  · exact ⟨rfl, .of_eq rfl rfl rfl⟩

/-- Handing out a code rewrites one invoice. -/
theorem getInvoiceKhqr_book {rail : Rail} {accountId invoiceId : ℕ} {publicId : String}
    {paymentId : ℕ}
    (hkhqr : getInvoiceKhqr settings rail now tables accountId invoiceId publicId =
      .ok (paymentId, tables')) :
    ∃ invoice, tables.invoices.get? invoiceId = some invoice ∧ invoice.status ≠ .paid ∧
      tables'.book = tables.book.putInvoice invoiceId (invoice.collect paymentId) ∧
      tables.Keeps tables' := by
  obtain ⟨invoice, minted, hqId, hq, hinvoice, -, hunpaid, -, hminted, rfl⟩ :=
    getInvoiceKhqr_eq_ok hkhqr
  have hsame : minted.book = tables.book ∧ tables.Keeps minted := by
    rcases invoicePayment_eq_ok hminted with
      ⟨storedId, stored, -, -, ⟨-, rfl⟩ | hreissue⟩ | ⟨request, -, -, hcreate⟩
    · exact ⟨rfl, .refl minted⟩
    · exact reissuePayment_keeps hreissue
    · exact createPayment_keeps hcreate
  have hinvoice' : minted.invoices.get? invoiceId = some invoice := by
    rw [← Tables.book_invoices, hsame.1]
    exact hinvoice
  refine ⟨invoice, hinvoice, hunpaid, ?_, hsame.2.trans (.of_eq rfl rfl rfl)⟩
  rw [updateInvoice_book minted hinvoice', hsame.1]

/-- Handing out a code is one move of the book. -/
theorem getInvoiceKhqr_moves {occasion : Occasion} {rail : Rail} {accountId invoiceId : ℕ}
    {publicId : String} {paymentId : ℕ}
    (hkhqr : getInvoiceKhqr settings rail now tables accountId invoiceId publicId =
      .ok (paymentId, tables'))
    (hhands : occasion.hands invoiceId paymentId) :
    Move occasion tables.book tables'.book ∧ tables.Keeps tables' := by
  obtain ⟨invoice, hinvoice, hunpaid, hafter, hkeeps⟩ := getInvoiceKhqr_book hkhqr
  refine ⟨?_, hkeeps⟩
  rw [hafter]
  exact .collect tables.book invoiceId invoice paymentId hinvoice hunpaid hhands

/-- Operations on the codes of a sale, which the book does not see. -/
def Op.isSale : Op → Bool
  | .createPayment .. | .reissuePayment .. | .markScanned .. | .reversePayment ..
  | .expireDuePayments => true
  | _ => false

theorem perform_of_isSale {op : Op} {response : Response} (hsale : op.isSale = true)
    (hperform : perform settings now tables op = .ok (response, tables')) :
    tables'.book = tables.book ∧ tables.Keeps tables' := by
  cases op with
  | createPayment rail storeId request publicId =>
      simp only [perform, bind_eq_ok, pure_eq_ok, Prod.mk.injEq] at hperform
      obtain ⟨store, -, ⟨paymentId, created⟩, hcreate, -, rfl⟩ := hperform
      exact createPayment_keeps hcreate
  | reissuePayment rail parentId publicId =>
      simp only [perform, bind_eq_ok, pure_eq_ok, Prod.mk.injEq] at hperform
      obtain ⟨parent, -, ⟨paymentId, created⟩, hreissue, -, rfl⟩ := hperform
      exact reissuePayment_keeps hreissue
  | markScanned paymentId =>
      simp only [perform, bind_eq_ok, pure_eq_ok, Prod.mk.injEq] at hperform
      obtain ⟨scanned, hscan, -, rfl⟩ := hperform
      rcases markScanned_eq_ok hscan with rfl | ⟨payment, events, deliveries, -, -, rfl⟩
      · exact ⟨rfl, .refl scanned⟩
      · exact ⟨rfl, .of_eq rfl rfl rfl⟩
  | reversePayment paymentId reason =>
      simp only [perform, bind_eq_ok, pure_eq_ok, Prod.mk.injEq] at hperform
      obtain ⟨payment, -, reversed, hreverse, -, rfl⟩ := hperform
      obtain ⟨-, events, deliveries, ledger, rfl⟩ := reversePayment_eq_ok hreverse
      exact ⟨rfl, .of_eq rfl rfl rfl⟩
  | expireDuePayments =>
      simp only [perform, bind_eq_ok, pure_eq_ok, Prod.mk.injEq] at hperform
      obtain ⟨⟨count, expired⟩, hexpire, -, rfl⟩ := hperform
      obtain ⟨events, deliveries, rfl⟩ := expireDuePayments_eq_ok hexpire
      exact ⟨rfl, .of_eq rfl rfl rfl⟩
  | _ => cases hsale

/-- An operation that settles or forgives an invoice makes that one move and no
other. -/
def SettlesAlone (occasion : Occasion) (before after : Book) : Prop :=
  (∀ key invoice, ¬ occasion.settles key invoice ∧ ¬ occasion.forgives key invoice) ∨
    after = before ∨ Move occasion before after

/-- Every operation that passes the commit makes moves of the book. -/
theorem perform_moves {op : Op} {response : Response}
    (hbook : tables.book.Wellformed tables.hasAccount tables.hasPlan)
    (hperform : perform settings now tables op = .ok (response, tables'))
    (hvalid : Constraints tables') :
    Moves (occasionOf settings now tables tables' op response) tables.book tables'.book ∧
      SettlesAlone (occasionOf settings now tables tables' op response) tables.book tables'.book ∧
      tables.Keeps tables' := by
  have hidle : (∀ key invoice, ¬ op.settles tables key invoice ∧ ¬ op.forgives key invoice) →
      SettlesAlone (occasionOf settings now tables tables' op response) tables.book tables'.book :=
    .inl
  cases op with
  | signUp email name renameExisting =>
      simp only [perform, Except.ok.injEq, Prod.mk.injEq] at hperform
      obtain ⟨-, rfl⟩ := hperform
      set occasion := occasionOf settings now tables
        (upsertAccount now tables email name renameExisting).2
        (.signUp email name renameExisting) response
      have hnow : occasion.now = now := rfl
      obtain ⟨hmoves, hkeeps⟩ := upsertAccount_moves hbook hnow rfl email name renameExisting rfl
        fun key plan hplan hcode => ⟨plan, hplan, .inr hcode⟩
      exact ⟨hmoves, hidle fun _ _ => ⟨id, id⟩, hkeeps⟩
  | createPayment | reissuePayment | markScanned | reversePayment | expireDuePayments =>
      obtain ⟨hsame, hkeeps⟩ := perform_of_isSale rfl hperform
      exact ⟨hsame ▸ .refl, hidle fun _ _ => ⟨id, id⟩, hkeeps⟩
  | markPaid publicId credit =>
      simp only [perform, bind_eq_ok, pure_eq_ok, Prod.mk.injEq] at hperform
      obtain ⟨⟨settledId, settled⟩, hmark, hresponse, rfl⟩ := hperform
      set occasion := occasionOf settings now tables settled (.markPaid publicId credit) response
      have hnow : occasion.now = now := rfl
      obtain ⟨hsame | hmove, hkeeps⟩ := markPaid_moves hbook hvalid hnow rfl hmark
        (fun _ _ hsettles => hsettles)
        fun _ _ hcredited => hresponse.symm.trans (congrArg Response.settled hcredited)
      · exact ⟨hsame ▸ .refl, .inr (.inl hsame), hkeeps⟩
      · exact ⟨.single hmove, .inr (.inr hmove), hkeeps⟩
  | changePlan accountId planCode =>
      simp only [perform, changePlan, bind_eq_ok, pure_eq_ok, Prod.mk.injEq] at hperform
      obtain ⟨⟨out, changed⟩, ⟨change, hread, happly⟩, -, rfl⟩ := hperform
      obtain ⟨-, hread⟩ := readPlanChange_eq_ok hread
      unfold applyPlanChange at happly
      split at happly
      next hfree =>
        simp only [Except.ok.injEq] at happly
        obtain rfl : (moveToFreePlan now tables change).2 = changed := by rw [happly]
        have hkeeps : tables.Keeps (moveToFreePlan now tables change).2 :=
          moveToFreePlan_keeps now tables change
        exact ⟨moveToFreePlan_moves hbook hread rfl (fun _ => hkeeps.hasAccount) rfl
          ⟨change.plan, hread.plan, .inl hfree⟩, hidle fun _ _ => ⟨id, id⟩, hkeeps⟩
      next =>
        have hkeeps := purchasePlan_keeps happly
        exact ⟨purchasePlan_moves hbook hread rfl (fun _ => hkeeps.hasAccount) rfl happly,
          hidle fun _ _ => ⟨id, id⟩, hkeeps⟩
  | getInvoiceKhqr rail accountId invoiceId publicId =>
      simp only [perform, bind_eq_ok, pure_eq_ok, Prod.mk.injEq] at hperform
      obtain ⟨⟨paymentId, minted⟩, hkhqr, hresponse, rfl⟩ := hperform
      set occasion := occasionOf settings now tables minted
        (.getInvoiceKhqr rail accountId invoiceId publicId) response
      have hhands : occasion.hands invoiceId paymentId := ⟨rfl, hresponse.symm⟩
      obtain ⟨hmove, hkeeps⟩ := getInvoiceKhqr_moves hkhqr hhands
      exact ⟨.single hmove, hidle fun _ _ => ⟨id, id⟩, hkeeps⟩
  | issueDueInvoices limit =>
      simp only [perform, Except.ok.injEq, Prod.mk.injEq] at hperform
      obtain ⟨-, rfl⟩ := hperform
      set occasion := occasionOf settings now tables
        (issueDueInvoices settings now tables limit).2 (.issueDueInvoices limit) response
      have hnow : occasion.now = now := rfl
      obtain ⟨invoices, heq⟩ := issueDueInvoices_eq settings now tables limit
      exact ⟨issueDueInvoices_moves hnow rfl trivial tables limit, hidle fun _ _ => ⟨id, id⟩,
        heq ▸ .of_eq rfl rfl rfl⟩
  | enforceGrace limit =>
      simp only [perform, Except.ok.injEq, Prod.mk.injEq] at hperform
      obtain ⟨-, rfl⟩ := hperform
      set occasion := occasionOf settings now tables
        (enforceGrace settings now tables limit).2 (.enforceGrace limit) response
      have hnow : occasion.now = now := rfl
      obtain ⟨hmoves, hkeeps⟩ := enforceGrace_moves hnow trivial tables limit
      exact ⟨hmoves, hidle fun _ _ => ⟨id, id⟩, hkeeps⟩
  | resolveInvoice actorId invoiceId action reason amountCents =>
      simp only [perform, bind_eq_ok, pure_eq_ok, Prod.mk.injEq] at hperform
      obtain ⟨resolved, hresolve, -, rfl⟩ := hperform
      set occasion := occasionOf settings now tables resolved
        (.resolveInvoice actorId invoiceId action reason amountCents) response
      have hnow : occasion.now = now := rfl
      obtain ⟨hmove, hkeeps⟩ := resolveInvoice_moves hbook hvalid hnow rfl trivial hresolve
        (fun _ _ hsettles => hsettles) fun _ _ hforgives => hforgives
      exact ⟨.single hmove, .inr (.inr hmove), hkeeps⟩
  | assignAccountPlan actorId accountId planCode reason =>
      simp only [perform, bind_eq_ok, pure_eq_ok, Prod.mk.injEq] at hperform
      obtain ⟨⟨subscriptionId, assigned⟩, hassign, rfl, rfl⟩ := hperform
      have hkeeps := assignAccountPlan_keeps hassign
      exact ⟨assignAccountPlan_moves hbook rfl rfl hassign (fun _ => hkeeps.hasAccount) rfl,
        hidle fun _ _ => ⟨id, id⟩, hkeeps⟩

end Perform

end ChmabaPay
