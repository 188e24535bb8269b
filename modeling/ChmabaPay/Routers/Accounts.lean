import ChmabaPay.Routers.Auth

/-! # The operator's hold on accounts

A platform admin sets an account's standing and entitlements by hand. The console is
reached with a password session of an admin, and a frozen admin's session may read it
but not write.
-/

namespace ChmabaPay

open Calendar Relational

/-- Resolve an admin caller, or refuse. A development session counts where the
development gateway is mounted. -/
def hybridAdminContext (enableDevGateway : Bool) (tables : Tables) (actorId : ℕ)
    (authMethod : String) (request : HttpRequest) : Except Failure Account :=
  match currentSessionAccount tables actorId request with
  | .error failure => .error failure
  | .ok account =>
      if ¬ (authMethod = "password" ∨ authMethod = "dev" ∧ enableDevGateway = true) then
        .error (.http 403 "password_session_required")
      else if account.isPlatformAdmin = false then .error (.http 403 "forbidden")
      else .ok account

/-- The platform admins that can still sign in and write. -/
def activeAdmins (tables : Tables) : List (ℕ × Account) :=
  tables.accounts.select fun _ account =>
    account.isPlatformAdmin && decide (account.status = .active)

/-- What an operator asks to change. -/
structure AdminAccountPatch where
  whitelabelEnabled : Option Bool := none
  status : Option AccountStatus := none
  reason : Option String := none
deriving DecidableEq

/-- The standing a patch changes an account to. -/
def AdminAccountPatch.newStatus (patch : AdminAccountPatch) (account : Account) :
    Option AccountStatus :=
  patch.status.filter fun status => decide (status ≠ account.status)

def Account.patched (patch : AdminAccountPatch) (account : Account) : Account :=
  { account with
    whitelabelEnabled := patch.whitelabelEnabled.getD account.whitelabelEnabled
    status := (patch.newStatus account).getD account.status }

/-- `PATCH /api/v1/admin/accounts/{account_id}`, after its caller is admitted. The
last active admin is not suspended. -/
def updateAccount (tables : Tables) (actorId accountId : ℕ) (patch : AdminAccountPatch) :
    Except Failure Tables :=
  match tables.accounts.get? accountId with
  | none => .error (.http 404 "account_not_found")
  | some account =>
      if patch.newStatus account = some .suspended ∧ account.isPlatformAdmin = true ∧
          (activeAdmins tables).length ≤ 1 then
        .error (.http 409 "last_platform_admin")
      else if patch.whitelabelEnabled = none ∧ patch.newStatus account = none then .ok tables
      else
        .ok (recordAudit
          { tables with accounts := tables.accounts.update accountId (Account.patched patch) }
          (some actorId) accountId
          (.accountUpdated
            (patch.whitelabelEnabled.map fun enabled => (account.whitelabelEnabled, enabled))
            ((patch.newStatus account).map fun status => (account.status, status))
            (patch.reason.filter (· ≠ ""))))

/-- One request of the console: who sends it with what kind of session, and what it
asks for. -/
structure AccountRequest where
  actorId : ℕ
  authMethod : String
  accountId : ℕ
  patch : AdminAccountPatch
deriving DecidableEq

/-- The request line of an account's route. -/
def AccountRequest.line (request : AccountRequest) : HttpRequest :=
  ⟨"PATCH", "/api/v1/admin/accounts/" ++ toString request.accountId⟩

def AccountRequest.perform (enableDevGateway : Bool) (tables : Tables)
    (request : AccountRequest) : Except Failure Tables := do
  let _ ← hybridAdminContext enableDevGateway tables request.actorId request.authMethod
    request.line
  updateAccount tables request.actorId request.accountId request.patch

/-- A request and its answer. A failed one leaves the tables as they were. -/
def accountStep (enableDevGateway : Bool) (tables : Tables) (request : AccountRequest) :
    Tables × Except Failure Unit :=
  match request.perform enableDevGateway tables with
  | .error failure => (tables, .error failure)
  | .ok changed => (changed, .ok ())

end ChmabaPay
