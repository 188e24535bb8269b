import ChmabaPay.Routers.Keys
import ChmabaPay.Routers.Payments

/-! # Who is asking

A request is made with an API key or with the cookie of a session. A key authenticates the
whole account: it is looked for by its hash among the active ones, and the account must be
active. A header that names no key leaves the request to its cookie.
-/

namespace ChmabaPay

open Calendar Relational

/-- What a request carries: its header, and the account its cookie names. -/
structure Credentials where
  authorization : Option String := none
  cookie : Option ℕ := none
deriving DecidableEq

/-- The text behind `Bearer `, trimmed. -/
def bearerToken (authorization : Option String) : Option (List Char) :=
  match authorization with
  | none => none
  | some header =>
      if "Bearer ".toList.isPrefixOf header.toList then
        some (pythonStrip (header.toList.drop "Bearer ".toList.length))
      else none

/-- A key no account may use. -/
def refuseKeyAccount (account : Account) : Except Failure Unit :=
  if account.status = .restricted then .error (.http 403 "account_restricted")
  else if account.status ≠ .active then .error (.http 403 "account_suspended")
  else .ok ()

/-- The active key of a token, with its account. -/
def findActiveKey (hashKey : List Char → String) (workspace : Workspace) (raw : List Char) :
    List (ApiKey × Account) :=
  (workspace.keys.select fun _ key =>
    decide (key.keyHash = hashKey raw) && decide (key.status = .active)).filterMap fun row =>
      (workspace.tables.accounts.get? row.2.accountId).map fun account => (row.2, account)

/-- The key a header names. -/
def resolveKeyContext (hashKey : List Char → String) (workspace : Workspace)
    (authorization : Option String) : Except Failure ApiKey :=
  match bearerToken authorization with
  | none | some [] => .error (.http 401 "unauthorized")
  | some raw => do
      match ← oneOrNone (findActiveKey hashKey workspace raw) with
      | none => throw (.http 401 "unauthorized")
      | some (key, account) =>
          refuseKeyAccount account
          return key

/-- The tags of a token that is a key. -/
def keyTags : List String := ["ck_", "st_", "sk_"]

def namesKey (raw : List Char) : Bool := keyTags.any fun tag => tag.toList.isPrefixOf raw

/-- The account a cookie names, when it may make the request. -/
def cookieAccount (tables : Tables) (credentials : Credentials) (request : HttpRequest) :
    Except Failure ℕ :=
  match credentials.cookie with
  | none => .error (.http 401 "invalid_session")
  | some accountId => do
      let _ ← currentSessionAccount tables accountId request
      return accountId

def getCurrentAuthContext (hashKey : List Char → String) (workspace : Workspace)
    (credentials : Credentials) (request : HttpRequest) : Except Failure AuthContext :=
  if (bearerToken credentials.authorization).any namesKey then do
    let key ← resolveKeyContext hashKey workspace credentials.authorization
    return ⟨key.accountId, some key.mode⟩
  else do
    let accountId ← cookieAccount workspace.tables credentials request
    return ⟨accountId, none⟩

end ChmabaPay
