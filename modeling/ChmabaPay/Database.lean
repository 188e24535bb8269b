import ChmabaPay.Models

/-! # The database

`Tables` is what one session sees and edits. `Database` is what has been
committed: tables that satisfy the unique indexes. A commit turns the first
into the second or fails with an integrity error, so no committed state can
break an index.
-/

namespace ChmabaPay

open Calendar Relational

/-- Why a request ended without a commit. -/
inductive Failure where
  | http (status : ℕ) (detail : String)
  /-- A single-row read met several rows. -/
  | multipleResults
  /-- A unique index refused the commit. -/
  | integrity
  /-- A foreign key led to no row. -/
  | missingRow
deriving DecidableEq

structure Tables where
  accounts : Table Account
  stores : Table Store
  links : Table PaymentLink
  payments : Table Payment
  endpoints : Table WebhookEndpoint
  events : Table Event
  deliveries : Table EventDelivery
  plans : Table Plan
  subscriptions : Table PlanSubscription
  invoices : Table PlanInvoice
  ledger : Table PlanLedgerEntry
  audit : Table AuditLog

/-! ## Unique indexes -/

/-- `uq_plan_invoice_live_period`: partial, void rows and rows without a window
are outside it. -/
def samePeriod (first second : PlanInvoice) : Prop :=
  first.status ≠ .void ∧ second.status ≠ .void ∧
    first.subscriptionId ≠ none ∧ first.subscriptionId = second.subscriptionId ∧
    first.periodStart ≠ none ∧ first.periodStart = second.periodStart

instance : DecidableRel samePeriod := fun _ _ => inferInstanceAs (Decidable (_ ∧ _))

/-- `uq_store_idem`. -/
def sameIdempotencyKey (first second : Payment) : Prop :=
  first.storeId = second.storeId ∧ first.idempotencyKey ≠ none ∧
    first.idempotencyKey = second.idempotencyKey

instance : DecidableRel sameIdempotencyKey := fun _ _ => inferInstanceAs (Decidable (_ ∧ _))

def samePublicId (first second : Payment) : Prop := first.publicId = second.publicId

instance : DecidableRel samePublicId := fun _ _ => inferInstanceAs (Decidable (_ = _))

/-- `uq_plan_ledger_resource`. -/
def sameResource (first second : PlanLedgerEntry) : Prop :=
  first.periodMonth = second.periodMonth ∧ first.resourceType = second.resourceType ∧
    first.resourceId = second.resourceId

instance : DecidableRel sameResource := fun _ _ => inferInstanceAs (Decidable (_ ∧ _))

def samePlanCode (first second : Plan) : Prop := first.code = second.code

instance : DecidableRel samePlanCode := fun _ _ => inferInstanceAs (Decidable (_ = _))

/-- The unique indexes of the modelled tables. -/
structure Constraints (tables : Tables) : Prop where
  livePeriod : tables.invoices.Unique samePeriod
  idempotencyKey : tables.payments.Unique sameIdempotencyKey
  publicId : tables.payments.Unique samePublicId
  ledgerResource : tables.ledger.Unique sameResource
  planCode : tables.plans.Unique samePlanCode

instance (tables : Tables) : Decidable (Constraints tables) :=
  decidable_of_iff
    (tables.invoices.Unique samePeriod ∧ tables.payments.Unique sameIdempotencyKey ∧
      tables.payments.Unique samePublicId ∧ tables.ledger.Unique sameResource ∧
      tables.plans.Unique samePlanCode)
    ⟨fun ⟨h₁, h₂, h₃, h₄, h₅⟩ => ⟨h₁, h₂, h₃, h₄, h₅⟩,
      fun ⟨h₁, h₂, h₃, h₄, h₅⟩ => ⟨h₁, h₂, h₃, h₄, h₅⟩⟩

/-- The committed state. -/
structure Database where
  tables : Tables
  valid : Constraints tables

/-- `session.commit()`: the engine refuses tables that break a unique index. -/
def Tables.commit (tables : Tables) : Except Failure Database :=
  if hvalid : Constraints tables then .ok ⟨tables, hvalid⟩ else .error .integrity

theorem Tables.commit_eq_ok {tables : Tables} {db : Database}
    (hcommit : tables.commit = .ok db) : db.tables = tables := by
  unfold Tables.commit at hcommit
  split at hcommit
  · cases hcommit
    rfl
  · cases hcommit

theorem Tables.commit_of_valid {tables : Tables} (hvalid : Constraints tables) :
    tables.commit = .ok ⟨tables, hvalid⟩ := dif_pos hvalid

/-! ## Single-row reads -/

/-- `scalar_one_or_none()`: at most one row, or an error. -/
def oneOrNone {β : Type} : List β → Except Failure (Option β)
  | [] => .ok none
  | [row] => .ok (some row)
  | _ :: _ :: _ => .error .multipleResults

theorem oneOrNone_eq_none {β : Type} {rows : List β} (h : oneOrNone rows = .ok none) :
    rows = [] := by
  rcases rows with _ | ⟨_, _ | ⟨_, _⟩⟩
  · rfl
  · simp [oneOrNone] at h
  · simp [oneOrNone] at h

theorem oneOrNone_eq_some {β : Type} {rows : List β} {row : β}
    (h : oneOrNone rows = .ok (some row)) : rows = [row] := by
  rcases rows with _ | ⟨_, _ | ⟨_, _⟩⟩
  · simp [oneOrNone] at h
  · simpa [oneOrNone] using h
  · simp [oneOrNone] at h

/-- A filter that no two keys of a table meet reads at most one row. -/
theorem oneOrNone_select {α : Type} (table : Table α) (keep : ℕ → α → Bool)
    (hunique : ∀ key key' row row', table.get? key = some row → table.get? key' = some row' →
      keep key row = true → keep key' row' = true → key = key') :
    ∃ found, oneOrNone (table.select keep) = .ok found := by
  have hsorted : (table.select keep).Pairwise fun first second => first.1 < second.1 :=
    table.sorted.filter _
  have hmem : ∀ row ∈ table.select keep, table.get? row.1 = some row.2 ∧
      keep row.1 row.2 = true := fun row hrow => Table.mem_select.mp hrow
  rcases hrows : table.select keep with _ | ⟨first, _ | ⟨second, rest⟩⟩
  · exact ⟨none, rfl⟩
  · exact ⟨some first, rfl⟩
  · rw [hrows] at hsorted hmem
    obtain ⟨hfirst, hkeep⟩ := hmem first List.mem_cons_self
    obtain ⟨hsecond, hkeep'⟩ := hmem second (List.mem_cons_of_mem _ List.mem_cons_self)
    have hlt := (List.pairwise_cons.mp hsorted).1 second List.mem_cons_self
    exact absurd (hunique _ _ _ _ hfirst hsecond hkeep hkeep') (Nat.ne_of_lt hlt)

/-! ## The indexes as statements about keys -/

theorem samePeriod_symm {first second : PlanInvoice} (hsame : samePeriod first second) :
    samePeriod second first := by
  obtain ⟨hfirst, hsecond, hsome, hkey, hstart, hperiod⟩ := hsame
  exact ⟨hsecond, hfirst, hkey ▸ hsome, hkey.symm, hperiod ▸ hstart, hperiod.symm⟩

theorem Constraints.livePeriod_unique {tables : Tables} (hvalid : Constraints tables)
    {key key' : ℕ} {invoice invoice' : PlanInvoice}
    (hget : tables.invoices.get? key = some invoice)
    (hget' : tables.invoices.get? key' = some invoice')
    (hsame : samePeriod invoice invoice') : key = key' :=
  (Table.unique_iff fun _ _ => samePeriod_symm).mp hvalid.livePeriod key key' invoice invoice'
    hget hget' hsame

theorem sameIdempotencyKey_symm {first second : Payment}
    (hsame : sameIdempotencyKey first second) : sameIdempotencyKey second first := by
  obtain ⟨hstore, hkey, hidem⟩ := hsame
  exact ⟨hstore.symm, hidem ▸ hkey, hidem.symm⟩

/-- A store has one payment at most under an idempotency key. -/
theorem Constraints.idempotencyKey_unique {tables : Tables} (hvalid : Constraints tables)
    {key key' : ℕ} {payment payment' : Payment}
    (hget : tables.payments.get? key = some payment)
    (hget' : tables.payments.get? key' = some payment')
    (hsame : sameIdempotencyKey payment payment') : key = key' :=
  (Table.unique_iff fun _ _ => sameIdempotencyKey_symm).mp hvalid.idempotencyKey key key' payment
    payment' hget hget' hsame

end ChmabaPay
