import ChmabaPay.Foundation.Execution
import ChmabaPay.Routers.Admin

/-! # The platform as a state machine

One operation is one request or one worker sweep, run to its commit. A failed
operation leaves the database as it was. The world carries the clock, and every
input says how far it has moved on.
-/

namespace ChmabaPay

open Calendar Relational Execution

/-- The requests and sweeps of the platform. Public identifiers are drawn at
random by the code, and the rail answers each request anew, so both arrive with
the operation. -/
inductive Op where
  | signUp (email name : String) (renameExisting : Bool)
  | createPayment (rail : Rail) (storeId : ℕ) (request : PaymentRequest) (publicId : String)
  | reissuePayment (rail : Rail) (paymentId : ℕ) (publicId : String)
  | markScanned (paymentId : ℕ)
  | markPaid (publicId : String) (credit : Credit)
  | reversePayment (paymentId : ℕ) (reason : Option String)
  | expireDuePayments
  | changePlan (accountId : ℕ) (planCode : String)
  | getInvoiceKhqr (rail : Rail) (accountId invoiceId : ℕ) (publicId : String)
  | issueDueInvoices (limit : ℕ)
  | enforceGrace (limit : ℕ)
  | resolveInvoice (actorId invoiceId : ℕ) (action : ResolveAction) (reason : String)
      (amountCents : Option Int)
  | assignAccountPlan (actorId accountId : ℕ) (planCode reason : String)

/-- What an operation answers. -/
inductive Response where
  | done
  | account (accountId : ℕ)
  | payment (paymentId : ℕ)
  | settled (paymentId : Option ℕ)
  | expired (count : ℕ)
  | plan (out : ChangePlanOut)
  | issued (raised : List Issued)
  | grace (summary : GraceSummary)
  | subscription (subscriptionId : ℕ)
deriving DecidableEq

/-- A row addressed by the path of a request. -/
def requirePayment (tables : Tables) (paymentId : ℕ) : Except Failure Payment :=
  match tables.payments.get? paymentId with
  | none => .error (.http 404 "payment_not_found")
  | some payment => .ok payment

def requireStore (tables : Tables) (storeId : ℕ) : Except Failure Store :=
  match tables.stores.get? storeId with
  | none => .error (.http 404 "store_not_found")
  | some store => .ok store

/-- The operation on the session's tables, before the commit. -/
def perform (settings : Settings) (now : Instant) (tables : Tables) :
    Op → Except Failure (Response × Tables)
  | .signUp email name renameExisting =>
      let (accountId, created) := upsertAccount now tables email name renameExisting
      .ok (.account accountId, created)
  | .createPayment rail storeId request publicId => do
      let store ← requireStore tables storeId
      let (paymentId, created) ←
        createPayment settings rail now tables storeId store request publicId
      return (.payment paymentId, created)
  | .reissuePayment rail parentId publicId => do
      let parent ← requirePayment tables parentId
      let (paymentId, created) ←
        reissuePayment settings rail now tables parentId parent publicId
      return (.payment paymentId, created)
  | .markScanned paymentId => do
      let scanned ← markScanned now tables paymentId
      return (.done, scanned)
  | .markPaid publicId credit => do
      let (paymentId, settled) ← markPaid settings now tables publicId credit
      return (.settled paymentId, settled)
  | .reversePayment paymentId reason => do
      let payment ← requirePayment tables paymentId
      let reversed ← reversePayment now tables paymentId payment reason
      return (.payment paymentId, reversed)
  | .expireDuePayments => do
      let (count, expired) ← expireDuePayments now tables
      return (.expired count, expired)
  | .changePlan accountId planCode => do
      let (out, changed) ← changePlan now tables accountId planCode
      return (.plan out, changed)
  | .getInvoiceKhqr rail accountId invoiceId publicId => do
      let (paymentId, minted) ←
        getInvoiceKhqr settings rail now tables accountId invoiceId publicId
      return (.payment paymentId, minted)
  | .issueDueInvoices limit =>
      let (raised, issued) := issueDueInvoices settings now tables limit
      .ok (.issued raised, issued)
  | .enforceGrace limit =>
      let (summary, enforced) := enforceGrace settings now tables limit
      .ok (.grace summary, enforced)
  | .resolveInvoice actorId invoiceId action reason amountCents => do
      let resolved ←
        resolveInvoice settings now tables actorId invoiceId action reason amountCents
      return (.done, resolved)
  | .assignAccountPlan actorId accountId planCode reason => do
      let (subscriptionId, assigned) ←
        assignAccountPlan now tables actorId accountId planCode reason
      return (.subscription subscriptionId, assigned)

/-! ## Runs -/

structure World where
  clock : Instant
  db : Database

/-- An operation and the microseconds since the previous one. -/
structure Timed where
  elapsed : ℕ
  op : Op

def Timed.moment (input : Timed) (world : World) : Instant := world.clock + input.elapsed

/-- The operation up to and including its commit. -/
def transact (settings : Settings) (now : Instant) (db : Database) (op : Op) :
    Except Failure (Response × Database) := do
  let (response, tables) ← perform settings now db.tables op
  let committed ← tables.commit
  return (response, committed)

/-- One operation: its commit, or its failure with the database unchanged. -/
def step (settings : Settings) (world : World) (input : Timed) :
    World × Except Failure Response :=
  match transact settings (input.moment world) world.db input.op with
  | .error failure => ({ world with clock := input.moment world }, .error failure)
  | .ok (response, db) => ({ clock := input.moment world, db := db }, .ok response)

/-- A platform before its first sale: any accounts, stores, links, endpoints and
plans, and nothing sold, billed or reported yet. -/
structure Initial (world : World) : Prop where
  payments : world.db.tables.payments.rows = []
  events : world.db.tables.events.rows = []
  subscriptions : world.db.tables.subscriptions.rows = []
  invoices : world.db.tables.invoices.rows = []
  ledger : world.db.tables.ledger.rows = []

theorem Initial.get?_eq_none {α : Type} {table : Table α} (hrows : table.rows = []) (key : ℕ) :
    table.get? key = none := by
  simp [Table.get?, hrows]

/-- What an operation leaves behind when it commits, and the failures that leave
everything in place. -/
theorem next_step (settings : Settings) (world : World) (input : Timed) :
    (∃ failure, step settings world input =
        ({ world with clock := input.moment world }, .error failure)) ∨
      ∃ response tables, perform settings (input.moment world) world.db.tables input.op =
          .ok (response, tables) ∧
        ∃ hvalid : Constraints tables, step settings world input =
          ({ clock := input.moment world, db := ⟨tables, hvalid⟩ }, .ok response) := by
  unfold step transact
  cases hperform : perform settings (input.moment world) world.db.tables input.op with
  | error failure => exact .inl ⟨failure, rfl⟩
  | ok outcome =>
      obtain ⟨response, tables⟩ := outcome
      by_cases hvalid : Constraints tables
      · refine .inr ⟨response, tables, rfl, hvalid, ?_⟩
        simp [Tables.commit_of_valid hvalid, bind, Except.bind, pure, Except.pure]
      · refine .inl ⟨.integrity, ?_⟩
        simp [Tables.commit, hvalid, bind, Except.bind]

end ChmabaPay
