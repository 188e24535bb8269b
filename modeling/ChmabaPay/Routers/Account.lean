import ChmabaPay.Routers.SignIn

/-! # What a merchant does to its own account

`routers/account.py`, and the operator's routes for keys. A new address, a new password and the
end of the account take the password, where there is one. An account that is closed stays in
the tables without its identity: its stores and endpoints are switched off, and its keys get a
date of revocation.
-/

namespace ChmabaPay

open Calendar Execution Relational

section Self

variable (outside : IdentityOutside) (settings : SignInSettings) (now : Instant)
variable (directory : Directory) (accountId : ℕ)

/-! ## The account's own routes -/

/-- `_require_ownership`. The session is enough where there is no password. -/
def requireOwnership (supplied : Option String) : Except Failure Unit :=
  let stored := (directory.logins accountId).passwordHash
  if stored ≠ none ∧ verifyPassword outside (supplied.getD "") stored = false then
    .error (.http 401 "invalid_password")
  else .ok ()

/-- The account of the session behind a request. -/
def ownAccount (method path : String) : Except Failure Account :=
  currentSessionAccount directory.tables accountId ⟨method, path⟩

/-- What is behind the last `@`. -/
def domainOf (email : String) : String :=
  String.ofList (email.toList.reverse.takeWhile (· ≠ '@')).reverse

/-- `PATCH /api/v1/me`. -/
def patchMe (name : Option String) : Except Failure Directory := do
  let account ← ownAccount directory accountId "PATCH" "/api/v1/me"
  match name with
  | none => return directory
  | some name =>
      if name = account.name then return directory
      (directory.withTables { directory.tables with
        accounts := directory.tables.accounts.update accountId fun account =>
          { account with name := name } }).commit

/-- `POST /api/v1/me/email`. An account without a password keeps its address. -/
def changeEmail (email : String) (currentPassword : Option String) : Except Failure Directory := do
  let account ← ownAccount directory accountId "POST" "/api/v1/me/email"
  if (directory.logins accountId).passwordHash = none then
    throw (.http 409 ("email_change_requires_password: this account signs in with Google, so " ++
      "there is no password to confirm the change with and no other way for us " ++
      "to verify the new address. Contact support to move it."))
  requireOwnership outside directory accountId currentPassword
  let newEmail := outside.lower (String.ofList (pythonStrip email.toList))
  if newEmail = account.email then return directory
  let taken ← oneOrNone (directory.tables.accounts.select fun _ other =>
    decide (other.email = newEmail))
  if taken.isSome then throw (.http 400 "email_already_taken")
  ((directory.withTables { directory.tables with
    accounts := directory.tables.accounts.update accountId fun account =>
      { account with email := newEmail } }).record
    (.emailChanged accountId (domainOf newEmail) (domainOf account.email))).commit

/-- `POST /api/v1/me/password`. -/
def changePassword (currentPassword newPassword salt : String) : Except Failure Directory := do
  let _ ← ownAccount directory accountId "POST" "/api/v1/me/password"
  let login := directory.logins accountId
  if login.passwordHash = none then throw (.http 409 "no_password_set")
  requireOwnership outside directory accountId (some currentPassword)
  if verifyPassword outside newPassword login.passwordHash then
    throw (.http 400 "password_unchanged")
  if maxPasswordBytes < newPassword.utf8ByteSize then throw (.http 400 "password_too_long")
  match hashPassword outside salt newPassword with
  | none => throw (.http 500 "Internal Server Error")
  | some hash =>
      ((directory.setLogin accountId { login with passwordHash := some hash }).record
        (.passwordChanged accountId)).commit

/-- The address of a closed account. -/
def erasedEmail : String := "erased-" ++ toString accountId ++ "@chmabapay.invalid"

def Account.erase (account : Account) : Account :=
  { account with
    email := erasedEmail accountId
    name := "Erased account"
    whitelabelEnabled := false
    status := .suspended }

/-- A key of the account without a date of revocation gets one. Its status stays. -/
def ApiKey.erase (key : ApiKey) : ApiKey := { key with revokedAt := some now }

def ownsUndatedKey (key : ApiKey) : Bool :=
  decide (key.accountId = accountId) && decide (key.revokedAt = none)

def erasedKeys (keys : Table ApiKey) : Table ApiKey :=
  keys.updateWhere (fun _ key => ownsUndatedKey accountId key) (ApiKey.erase now)

/-- The tables without the account's identity. -/
def erasedTables (tables : Tables) : Tables :=
  { tables with
    stores := tables.stores.updateWhere (fun _ store => decide (store.accountId = accountId))
      fun store => { store with status := .disabled }
    endpoints :=
      tables.endpoints.updateWhere (fun _ endpoint => decide (endpoint.accountId = accountId))
        fun endpoint => { endpoint with isActive := false }
    accounts := tables.accounts.update accountId (Account.erase accountId) }

/-- `DELETE /api/v1/me`. -/
def eraseMe (confirmEmail : String) (currentPassword : Option String) :
    Except Failure Directory := do
  let account ← ownAccount directory accountId "DELETE" "/api/v1/me"
  if account.isPlatformAdmin then
    throw (.http 409 ("platform_admin_cannot_self_delete: this account operates the console. " ++
      "Grant another platform admin first."))
  if outside.lower (String.ofList (pythonStrip confirmEmail.toList)) ≠
      outside.lower account.email then
    throw (.http 400 "confirm_email_does_not_match")
  requireOwnership outside directory accountId currentPassword
  let tables := directory.tables
  let entry : AccountAudit := .erased accountId
    (tables.stores.select fun _ store => decide (store.accountId = accountId)).length
    (directory.workspace.keys.select fun _ key => ownsUndatedKey accountId key).length
    (tables.endpoints.select fun _ endpoint => decide (endpoint.accountId = accountId)).length
  Directory.commit
    { directory with
      workspace :=
        { tables := erasedTables accountId tables
          keys := erasedKeys now accountId directory.workspace.keys }
      logins := Function.update directory.logins accountId {}
      trail := directory.trail ++ [entry] }

/-- `POST /api/v1/me/terms`. -/
def acceptTerms (version : String) : Except Failure Directory := do
  let account ← ownAccount directory accountId "POST" "/api/v1/me/terms"
  if version ≠ settings.base.termsVersion then throw (.http 409 "terms_version_superseded")
  if account.termsAcceptedVersion = some version then return directory
  ((directory.withTables { directory.tables with
    accounts := directory.tables.accounts.update accountId fun account =>
      { account with termsAcceptedVersion := some version } }).record
    (.termsAccepted accountId version)).commit

end Self

/-! ## The operator's routes for keys -/

/-- The operator's requests about one key, or about a new one. -/
inductive AdminKeyRequest where
  | mint (accountId : ℕ) (name : String) (minted : NewKey)
  | revoke (keyId : ℕ)
  | rotate (keyId : ℕ) (minted : NewKey)
deriving DecidableEq

def AdminKeyRequest.line : AdminKeyRequest → HttpRequest
  | .mint accountId _ _ =>
      ⟨"POST", "/api/v1/admin/accounts/" ++ toString accountId ++ "/keys"⟩
  | .revoke keyId => ⟨"POST", "/api/v1/admin/keys/" ++ toString keyId ++ "/revoke"⟩
  | .rotate keyId _ => ⟨"POST", "/api/v1/admin/keys/" ++ toString keyId ++ "/rotate"⟩

/-- `mint_account_key`, `revoke_account_key` and `rotate_account_key`, after their caller is
admitted. -/
def AdminKeyRequest.run (now : Instant) (workspace : Workspace) (actorId : ℕ) :
    AdminKeyRequest → Except Failure Workspace
  | .mint accountId name minted =>
      match workspace.tables.accounts.get? accountId with
      | none => .error (.http 404 "account_not_found")
      | some _ => (mintKey now workspace accountId name actorId minted).map Prod.snd
  | .revoke keyId =>
      match workspace.keys.get? keyId with
      | none => .error (.http 404 "key_not_found")
      | some key =>
          if key.status ≠ .active then .ok workspace
          else Workspace.commit
            { tables := recordAudit workspace.tables (some actorId) keyId
                (.keyRevoked key.name key.keyPrefix)
              keys := workspace.keys.update keyId (ApiKey.revoke now) }
  | .rotate keyId minted =>
      match workspace.keys.get? keyId with
      | none => .error (.http 404 "key_not_found")
      | some key => (rotateKeyInstance now workspace keyId key actorId minted).map Prod.snd

/-! ## The directory as a state machine -/

inductive SelfRequest where
  | patchMe (name : Option String)
  | changeEmail (email : String) (currentPassword : Option String)
  | changePassword (currentPassword newPassword salt : String)
  | eraseMe (confirmEmail : String) (currentPassword : Option String)
  | acceptTerms (version : String)
deriving DecidableEq

def SelfRequest.perform (outside : IdentityOutside) (settings : SignInSettings) (now : Instant)
    (directory : Directory) (accountId : ℕ) : SelfRequest → Except Failure Directory
  | .patchMe name => ChmabaPay.patchMe directory accountId name
  | .changeEmail email currentPassword =>
      ChmabaPay.changeEmail outside directory accountId email currentPassword
  | .changePassword currentPassword newPassword salt =>
      ChmabaPay.changePassword outside directory accountId currentPassword newPassword salt
  | .eraseMe confirmEmail currentPassword =>
      ChmabaPay.eraseMe outside now directory accountId confirmEmail currentPassword
  | .acceptTerms version => ChmabaPay.acceptTerms settings directory accountId version

/-- Everything that reads or writes who an account is, and every operation beside it. -/
inductive DirectoryRequest where
  | google (user : GoogleUser) (generatedId : String) (state : Option (List Char))
  | dev (email generatedId : String)
  | password (body : PasswordLogin)
  | self (accountId : ℕ) (request : SelfRequest)
  | keys (accountId : ℕ) (request : KeyRequest)
  | operator (request : AccountRequest)
  | operatorKeys (actorId : ℕ) (authMethod : String) (request : AdminKeyRequest)
  | platform (op : Op)

/-- What a request answers, as far as sign-ins are concerned. -/
inductive DirectoryAnswer where
  | done
  | signedIn (accountId : ℕ)
deriving DecidableEq

structure DirectoryWorld where
  clock : Instant
  directory : Directory

/-- A request and the microseconds since the one before. -/
structure TimedRequest where
  elapsed : ℕ
  request : DirectoryRequest

def TimedRequest.moment (input : TimedRequest) (world : DirectoryWorld) : Instant :=
  world.clock + input.elapsed

/-- A request with one commit, the last thing it does. -/
def settle (directory : Directory) :
    Except Failure Directory → Directory × Except Failure DirectoryAnswer
  | .error failure => (directory, .error failure)
  | .ok changed => (changed, .ok .done)

/-- A request with its answer, and the directory it leaves. -/
def DirectoryRequest.answer (outside : IdentityOutside) (settings : SignInSettings)
    (now : Instant) (directory : Directory) :
    DirectoryRequest → Directory × Except Failure DirectoryAnswer
  | .google user generatedId state =>
      let (left, answer) := googleSignIn outside settings now directory user generatedId state
      (left, answer.map fun landed => .signedIn landed.1)
  | .dev email generatedId =>
      let (left, answer) := devSignIn outside settings now directory email generatedId
      (left, answer.map .signedIn)
  | .password body =>
      let (left, answer) := passwordSignIn outside settings directory body
      (left, answer.map .signedIn)
  | .self accountId request =>
      settle directory (request.perform outside settings now directory accountId)
  | .keys accountId request => settle directory do
      let (_, workspace) ← request.perform settings.base accountId now directory.workspace
      Directory.commit { directory with workspace := workspace }
  | .operator request => settle directory do
      let tables ← request.perform settings.base.enableDevGateway directory.tables
      (directory.withTables tables).commit
  | .operatorKeys actorId authMethod request => settle directory do
      let _ ← hybridAdminContext settings.base.enableDevGateway directory.tables actorId authMethod
        request.line
      let workspace ← request.run now directory.workspace actorId
      Directory.commit { directory with workspace := workspace }
  | .platform op => settle directory do
      let (_, tables) ← ChmabaPay.perform settings.base now directory.tables op
      (directory.withTables tables).commit

/-- The account a request signs in, as far as its commits go. -/
def DirectoryRequest.entered (outside : IdentityOutside) (settings : SignInSettings)
    (now : Instant) (directory : Directory) : DirectoryRequest → Option ℕ
  | .google user generatedId _ =>
      (googleAccount outside settings now directory user generatedId).2.toOption
  | .dev email generatedId =>
      (devSignIn outside settings now directory email generatedId).2.toOption
  | .password body => (passwordSignIn outside settings directory body).2.toOption
  | _ => none

def directoryStep (outside : IdentityOutside) (settings : SignInSettings) (world : DirectoryWorld)
    (input : TimedRequest) : DirectoryWorld × Except Failure DirectoryAnswer :=
  let (left, answer) :=
    input.request.answer outside settings (input.moment world) world.directory
  ({ clock := input.moment world, directory := left }, answer)

end ChmabaPay
