import ChmabaPay.Routers.Auth
import ChmabaPay.Services.Allowance

/-! # API keys

A merchant mints, revokes and rotates the keys of its account from a signed-in
session. The plan limits how many may be active, and only minting reads the limit.
-/

namespace ChmabaPay

open Calendar Relational

/-- The tables with the keys beside them. -/
structure Workspace where
  tables : Tables
  keys : Table ApiKey

/-- The unique index on `key_hash`. -/
def sameKeyHash (first second : ApiKey) : Prop := first.keyHash = second.keyHash

instance : DecidableRel sameKeyHash := fun _ _ => inferInstanceAs (Decidable (_ = _))

def Workspace.commit (workspace : Workspace) : Except Failure Workspace :=
  if workspace.keys.Unique sameKeyHash then .ok workspace else .error .integrity

/-- What `new_api_key` draws, with the hash of the secret. -/
structure NewKey where
  keyPrefix : String
  keyHash : String
deriving DecidableEq

/-- The plan in force. -/
def getActivePlan (tables : Tables) (accountId : ℕ) : Except Failure (Option Plan) :=
  oneOrNone (livePlans tables accountId)

def requireTermsAccepted (settings : Settings) (account : Account) : Except Failure Unit :=
  if account.termsAcceptedVersion ≠ some settings.termsVersion then
    .error (.http 403 "terms_not_accepted")
  else .ok ()

/-- The active keys of an account. -/
def activeKeys (keys : Table ApiKey) (accountId : ℕ) : List (ℕ × ApiKey) :=
  keys.select fun _ key => decide (key.accountId = accountId) && decide (key.status = .active)

/-- The plan's limit on active keys, which only minting consults. -/
def enforceKeyLimits (keys : Table ApiKey) (accountId : ℕ) (plan : Option Plan) :
    Except Failure Unit :=
  match plan with
  | none => .ok ()
  | some plan =>
      if plan.maxKeysPerAccount ≤ (activeKeys keys accountId).length then
        .error (.http 400 ("Max API keys (" ++ toString plan.maxKeysPerAccount ++
          ") reached for your plan. Revoke old keys or upgrade."))
      else .ok ()

/-- Both account ids, when the platform acts on a merchant's behalf. -/
def onBehalfOf (actorId accountId : ℕ) : Option ℕ :=
  if actorId ≠ accountId then some accountId else none

def mintKey (now : Instant) (workspace : Workspace) (accountId : ℕ) (name : String)
    (actorId : ℕ) (minted : NewKey) : Except Failure (ℕ × Workspace) := do
  let key : ApiKey :=
    { accountId := accountId
      keyPrefix := minted.keyPrefix
      name := some (String.ofList (pythonStrip name.toList))
      keyHash := minted.keyHash
      mode := "live"
      createdAt := now }
  let keyId := workspace.keys.next
  let committed ← Workspace.commit
    { tables := recordAudit workspace.tables (some actorId) keyId
        (.keyCreated key.name key.keyPrefix key.mode (onBehalfOf actorId accountId))
      keys := workspace.keys.insert key }
  return (keyId, committed)

/-- What a rotation leaves on the key it replaces. -/
def ApiKey.supersede (now : Instant) (key : ApiKey) : ApiKey :=
  { key with status := .suspended, revokedAt := some now }

/-- The key that takes over from another one. -/
def ApiKey.replacement (now : Instant) (minted : NewKey) (key : ApiKey) : ApiKey where
  accountId := key.accountId
  keyPrefix := minted.keyPrefix
  name := key.name
  keyHash := minted.keyHash
  mode := "live"
  status := .active
  createdAt := now

def rotateKeyInstance (now : Instant) (workspace : Workspace) (keyId : ℕ) (key : ApiKey)
    (actorId : ℕ) (minted : NewKey) : Except Failure (ℕ × Workspace) := do
  let replacement := key.replacement now minted
  let newId := workspace.keys.next
  let committed ← Workspace.commit
    { tables := recordAudit workspace.tables (some actorId) newId
        (.keyRotated keyId replacement.name replacement.keyPrefix
          (onBehalfOf actorId key.accountId))
      keys := (workspace.keys.update keyId (ApiKey.supersede now)).insert replacement }
  return (newId, committed)

/-- What a revocation leaves on a key. -/
def ApiKey.revoke (now : Instant) (key : ApiKey) : ApiKey :=
  { key with status := .revoked, revokedAt := some now }

/-- A key of the account, addressed by its id. -/
def requireKey (keys : Table ApiKey) (accountId keyId : ℕ) : Except Failure ApiKey :=
  match (keys.get? keyId).filter fun key => decide (key.accountId = accountId) with
  | none => .error (.http 404 "key_not_found")
  | some key => .ok key

/-- `POST /api/v1/keys`. -/
def createKey (settings : Settings) (now : Instant) (workspace : Workspace) (accountId : ℕ)
    (name : String) (minted : NewKey) : Except Failure (ℕ × Workspace) := do
  let account ← currentSessionAccount workspace.tables accountId ⟨"POST", "/api/v1/keys"⟩
  requireTermsAccepted settings account
  let plan ← getActivePlan workspace.tables accountId
  enforceKeyLimits workspace.keys accountId plan
  mintKey now workspace accountId name accountId minted

/-- The path of a key's own routes. -/
def keyPath (keyId : ℕ) (verb : String) : String :=
  "/api/v1/keys/" ++ toString keyId ++ "/" ++ verb

/-- `POST /api/v1/keys/{key_id}/revoke`. A key that is not active is answered as it
is. -/
def revokeKey (now : Instant) (workspace : Workspace) (accountId keyId : ℕ) :
    Except Failure (ℕ × Workspace) := do
  let _ ← currentSessionAccount workspace.tables accountId ⟨"POST", keyPath keyId "revoke"⟩
  let key ← requireKey workspace.keys accountId keyId
  if key.status ≠ .active then return (keyId, workspace)
  let committed ← Workspace.commit
    { tables := recordAudit workspace.tables (some accountId) keyId
        (.keyRevoked key.name key.keyPrefix)
      keys := workspace.keys.update keyId (ApiKey.revoke now) }
  return (keyId, committed)

/-- `POST /api/v1/keys/{key_id}/rotate`. -/
def rotateKey (now : Instant) (workspace : Workspace) (accountId keyId : ℕ) (minted : NewKey) :
    Except Failure (ℕ × Workspace) := do
  let _ ← currentSessionAccount workspace.tables accountId ⟨"POST", keyPath keyId "rotate"⟩
  let key ← requireKey workspace.keys accountId keyId
  rotateKeyInstance now workspace keyId key accountId minted

/-! ## Runs -/

/-- The requests that change a merchant's keys. What is drawn at random arrives with
the request. -/
inductive KeyRequest where
  | create (name : String) (minted : NewKey)
  | revoke (keyId : ℕ)
  | rotate (keyId : ℕ) (minted : NewKey)
deriving DecidableEq

def KeyRequest.perform (settings : Settings) (accountId : ℕ) (now : Instant)
    (workspace : Workspace) : KeyRequest → Except Failure (ℕ × Workspace)
  | .create name minted => createKey settings now workspace accountId name minted
  | .revoke keyId => revokeKey now workspace accountId keyId
  | .rotate keyId minted => rotateKey now workspace accountId keyId minted

/-- A request at its moment. A failed one leaves the workspace as it was. -/
def keyStep (settings : Settings) (accountId : ℕ) (workspace : Workspace)
    (input : Instant × KeyRequest) : Workspace × Except Failure ℕ :=
  match input.2.perform settings accountId input.1 workspace with
  | .error failure => (workspace, .error failure)
  | .ok (keyId, changed) => (changed, .ok keyId)

end ChmabaPay
