import ChmabaPay.Services.Billing

/-! # Accounts and sessions

Signing in creates the account the first time an address is seen, with a
subscription to the free plan. Later requests of the account are served while it
is active or frozen.
-/

namespace ChmabaPay

open Calendar Relational

/-- The account a session cookie names. A frozen account is served: both billing
routes are open to it. -/
def sessionAccount (tables : Tables) (accountId : ℕ) : Except Failure Account :=
  match tables.accounts.get? accountId with
  | none => .error (.http 401 "invalid_session")
  | some account =>
      if account.status = .suspended then .error (.http 401 "invalid_session")
      else .ok account

/-- The request line, as the gate for frozen accounts reads it. -/
structure HttpRequest where
  method : String
  path : String
deriving DecidableEq

/-- `RESTRICTED_ALLOWED_WRITES`. -/
def restrictedAllowedWrites : List HttpRequest := [⟨"POST", "/api/v1/billing/change-plan"⟩]

/-- `RESTRICTED_REFUSED_READS`. -/
def restrictedRefusedReads : List String := ["/api/v1/transactions/check-status"]

def under (path start : String) : Bool :=
  decide (path = start) || (start ++ "/").toList.isPrefixOf path.toList

/-- Whether a frozen account's session may make this request: reads are open, writes
are closed except the way out of the debt. -/
def restrictedMayReach (request : HttpRequest) : Bool :=
  let method := request.method.toUpper
  if restrictedAllowedWrites.contains ⟨method, request.path⟩ then true
  else if ["GET", "HEAD", "OPTIONS"].contains method then
    !restrictedRefusedReads.any fun refused => under request.path refused
  else false

/-- The account a session cookie names, when it may make the request. -/
def currentSessionAccount (tables : Tables) (accountId : ℕ) (request : HttpRequest) :
    Except Failure Account :=
  match sessionAccount tables accountId with
  | .error failure => .error failure
  | .ok account =>
      if account.status = .restricted ∧ restrictedMayReach request = false then
        .error (.http 403 "account_restricted")
      else .ok account

/-- A plan is addressed by its code, which is unique. -/
def findPlanByCode (tables : Tables) (code : String) : Option (ℕ × Plan) :=
  tables.plans.find? fun _ plan => decide (plan.code = code)

/-- The free subscription of a new account, when the platform has a free plan. -/
def ensureFreeSubscription (now : Instant) (tables : Tables) (accountId : ℕ) : Tables :=
  match findPlanByCode tables "free" with
  | none => tables
  | some (planId, _) =>
      { tables with
        subscriptions := tables.subscriptions.insert
          { accountId := accountId
            planId := planId
            status := .active
            nextBillingAt := now + days 30
            createdAt := now } }

/-- Find the account of an address, or create it. -/
def upsertAccount (now : Instant) (tables : Tables) (email name : String)
    (renameExisting : Bool) : ℕ × Tables :=
  match tables.accounts.find? fun _ account => decide (account.email = email) with
  | none =>
      let account : Account :=
        { email := email
          name := if name = "" then email else name
          status := .active
          isPlatformAdmin := false }
      (tables.accounts.next,
        ensureFreeSubscription now
          { tables with accounts := tables.accounts.insert account } tables.accounts.next)
  | some (accountId, _) =>
      (accountId,
        { tables with
          accounts := tables.accounts.update accountId fun account =>
            if renameExisting ∧ name ≠ "" then { account with name := name } else account })

end ChmabaPay
