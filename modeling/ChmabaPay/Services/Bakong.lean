import ChmabaPay.Services.Payments

/-! # Bakong Open API

A receipt is looked up under every identifier it carries, in a fixed order, until one of
them finds a transaction. A lookup the API refuses counts as a miss, unless what it refuses
are our credentials.
-/

namespace ChmabaPay

/-- An amount of the ledger: an integer, a double, or another JSON value with what `float` makes
of it and whether it is truthy. -/
inductive LedgerAmount where
  | integer (value : ℤ)
  | double (value : ℚ)
  | other (reading : Option ℚ) (truthy : Bool)
deriving DecidableEq

/-- The fields of a Bakong transaction that are read, and its raw text. -/
structure BakongTransaction where
  hash : Option String := none
  md5 : Option String := none
  currency : Option String := none
  amount : Option LedgerAmount := none
  status : Option String := none
  raw : String := ""
deriving DecidableEq

/-- What a call raises: an answer of the API that is no success, or anything else, such as
a timeout. -/
inductive BakongFailure where
  | apiError (message : String) (errorCode : Option Int)
  | other (message : String)
deriving DecidableEq

/-- `BAKONG_ERROR_UNAUTHORIZED`. -/
def bakongErrorUnauthorized : Int := 6

/-- `BAKONG_ERROR_NOT_FOUND`. -/
def bakongErrorNotFound : Int := 7

inductive SearchType where
  | hash
  | md5
  | shortHash
  | instructionRef
  | externalRef
deriving DecidableEq

/-- One question to the API. -/
structure Lookup where
  kind : SearchType
  value : String
  amount : Option ℚ := none
  currency : Option String := none
deriving DecidableEq

/-- `search`: the transaction of a lookup, if there is one. -/
abbrev BakongSearch := Lookup → Except BakongFailure (Option BakongTransaction)

/-- `_try`. -/
def tryLookup (search : BakongSearch) (requireStatus : Option String) (lookup : Lookup) :
    Except BakongFailure (Option BakongTransaction) :=
  match search lookup with
  | .ok found => .ok (found.filter fun tx =>
      requireStatus.all fun status => decide (tx.status = some status))
  | .error (.apiError message code) =>
      if code = some bakongErrorUnauthorized then .error (.apiError message code) else .ok none
  | .error (.other message) => .error (.other message)

/-- The identifiers of a receipt. -/
structure Receipt where
  shortHash : Option String := none
  amount : Option ℚ := none
  currency : Option String := some "USD"
  purchaseNumber : Option String := none
  referenceNumber : Option String := none
  transactionId : Option String := none
  apvNumber : Option String := none
  md5 : Option String := none
  fullHash : Option String := none

/-- The lookups under one identifier. An empty identifier is none. -/
def lookupsUnder (identifier : Option String) (lookups : String → List (String × Lookup)) :
    List (String × Lookup) :=
  (identifier.filter (· ≠ "")).elim [] lookups

/-- The lookups of a receipt in their order, each with its name. -/
def Receipt.lookups (receipt : Receipt) : List (String × Lookup) :=
  lookupsUnder receipt.md5 (fun value => [("md5", ⟨.md5, value, none, none⟩)]) ++
  lookupsUnder receipt.shortHash (fun value =>
    if receipt.amount.isSome then
      [("short_hash", ⟨.shortHash, value, receipt.amount,
        some ((receipt.currency.filter (· ≠ "")).getD "USD")⟩)]
    else []) ++
  lookupsUnder receipt.fullHash (fun value =>
    [("full_hash", ⟨.hash, value, receipt.amount, receipt.currency⟩)]) ++
  lookupsUnder receipt.purchaseNumber (fun value =>
    [("purchase_as_instruction_ref", ⟨.instructionRef, value, receipt.amount,
      receipt.currency⟩)]) ++
  lookupsUnder receipt.referenceNumber (fun value =>
    [("reference_as_external_ref", ⟨.externalRef, value, receipt.amount, receipt.currency⟩)]) ++
  lookupsUnder receipt.transactionId (fun value =>
    [("trxid_as_instruction_ref", ⟨.instructionRef, value, receipt.amount, receipt.currency⟩),
      ("trxid_as_external_ref", ⟨.externalRef, value, receipt.amount, receipt.currency⟩)]) ++
  lookupsUnder receipt.apvNumber (fun value =>
    [("apv_as_instruction_ref", ⟨.instructionRef, value, receipt.amount, receipt.currency⟩),
      ("apv_as_external_ref", ⟨.externalRef, value, receipt.amount, receipt.currency⟩)]) ++
  lookupsUnder receipt.shortHash (fun value =>
    [("short_hash_no_amount", ⟨.shortHash, value, none, none⟩)])

/-- What a verification found, by which lookup, and the lookups that were made. -/
structure ReceiptVerifyResult where
  via : Option String := none
  attempts : List Lookup := []
  transaction : Option BakongTransaction := none
deriving DecidableEq

/-- Make the lookups one after the other until one finds a transaction. -/
def cascade (search : BakongSearch) (requireStatus : Option String) :
    List (String × Lookup) → Except BakongFailure ReceiptVerifyResult
  | [] => .ok {}
  | (via, lookup) :: rest =>
      match tryLookup search requireStatus lookup with
      | .error failure => .error failure
      | .ok (some tx) => .ok { via := some via, attempts := [lookup], transaction := some tx }
      | .ok none =>
          (cascade search requireStatus rest).map fun result =>
            { result with attempts := lookup :: result.attempts }

def verifyReceipt (search : BakongSearch) (receipt : Receipt) (requireStatus : Option String) :
    Except BakongFailure ReceiptVerifyResult :=
  cascade search requireStatus receipt.lookups

/-! ## A cascade without a hit -/

section Misses

variable {search : BakongSearch} {requireStatus : Option String}

/-- Nothing is found exactly when every lookup misses. -/
theorem cascade_misses_iff {lookups : List (String × Lookup)} :
    (∃ result, cascade search requireStatus lookups = .ok result ∧ result.transaction = none) ↔
      ∀ named ∈ lookups, tryLookup search requireStatus named.2 = .ok none := by
  induction lookups with
  | nil => exact iff_of_true ⟨{}, rfl, rfl⟩ (by simp)
  | cons named rest ih =>
      obtain ⟨via, lookup⟩ := named
      rw [List.forall_mem_cons, ← ih]
      simp only [cascade]
      cases htry : tryLookup search requireStatus lookup with
      | error failure => simp
      | ok found =>
          cases found with
          | some tx => simp
          | none =>
              cases hrest : cascade search requireStatus rest with
              | error failure => simp [Except.map]
              | ok later => simp [Except.map]

end Misses

end ChmabaPay
