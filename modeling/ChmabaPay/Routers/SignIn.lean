import ChmabaPay.Operations
import ChmabaPay.RateLimit
import ChmabaPay.Routers.Accounts
import ChmabaPay.Routers.Keys
import ChmabaPay.Routers.Tokens
import ChmabaPay.Services.Provisioning

/-! # Signing in

`routers/auth.py`: an account is reached with Google or with a password. Whoever signs in with
an address that the settings list is made a platform admin, and the platform's own store is
seeded for admins. A request commits more than once, and what was committed stays when the rest
of it fails.
-/

namespace ChmabaPay

open Calendar Relational

/-! ## What signing in reads and writes -/

/-- The columns of an account that prove who is asking. -/
structure Login where
  googleSub : Option String := none
  passwordHash : Option String := none
deriving DecidableEq

/-- What the trail keeps of sign-ins and of what a merchant does to its own account. -/
inductive AccountAudit where
  | loginBlocked (email ip : String) (lockedForSeconds : ℤ)
  | loginFailed (accountId : Option ℕ) (email ip reason : String)
  | loginSucceeded (accountId : ℕ) (email ip : String)
  | emailChanged (accountId : ℕ) (domain previousDomain : String)
  | passwordChanged (accountId : ℕ)
  | erased (accountId storesDisabled keysRevoked webhooksDisabled : ℕ)
  | termsAccepted (accountId : ℕ) (version : String)
deriving DecidableEq

/-- The workspace, the sign-in columns of its accounts by their keys, the failures counted in
memory and the trail. -/
structure Directory where
  workspace : Workspace
  logins : ℕ → Login
  lockout : Option LoginLockout
  trail : List AccountAudit

structure SignInSettings where
  base : Settings := {}
  adminEmails : String := ""
  adminPassword : String := ""
  hqPaywayLink : String := ""
  postLoginRedirectUrl : String := ""

/-- Lower case in Python and in the database, bcrypt with a salt, the digest of keys and the
parser of web addresses. -/
structure IdentityOutside where
  lower : String → String
  sqlLower : String → String
  hashpw : String → String → String
  checkpw : String → String → Bool
  hashKey : List Char → String
  payway : PayWay

def sameEmail (first second : Account) : Prop := first.email = second.email

instance : DecidableRel sameEmail := fun _ _ => inferInstanceAs (Decidable (_ = _))

/-- The unique index on `google_sub`. -/
def Directory.SubsDistinct (directory : Directory) : Prop :=
  ∀ first ∈ directory.workspace.tables.accounts.rows,
    ∀ second ∈ directory.workspace.tables.accounts.rows, first.1 ≠ second.1 →
      (directory.logins first.1).googleSub = none ∨
        (directory.logins first.1).googleSub ≠ (directory.logins second.1).googleSub

instance (directory : Directory) : Decidable directory.SubsDistinct :=
  inferInstanceAs (Decidable (∀ first ∈ _, ∀ second ∈ _, _))

/-- The unique indexes of what a sign-in can touch. -/
def Directory.Valid (directory : Directory) : Prop :=
  Constraints directory.workspace.tables ∧
    directory.workspace.tables.accounts.Unique sameEmail ∧ directory.SubsDistinct ∧
    directory.workspace.keys.Unique sameKeyHash ∧
    directory.workspace.tables.stores.Unique sameStorePublicId

instance (directory : Directory) : Decidable directory.Valid :=
  inferInstanceAs (Decidable (_ ∧ _ ∧ _ ∧ _ ∧ _))

def Directory.commit (directory : Directory) : Except Failure Directory :=
  if directory.Valid then .ok directory else .error .integrity

def Directory.tables (directory : Directory) : Tables := directory.workspace.tables

def Directory.withTables (directory : Directory) (tables : Tables) : Directory :=
  { directory with workspace := { directory.workspace with tables := tables } }

def Directory.record (directory : Directory) (entry : AccountAudit) : Directory :=
  { directory with trail := directory.trail ++ [entry] }

def Directory.setLogin (directory : Directory) (accountId : ℕ) (login : Login) : Directory :=
  { directory with logins := Function.update directory.logins accountId login }

/-! ## Passwords -/

/-- `MAX_PASSWORD_BYTES`. -/
def maxPasswordBytes : ℕ := 72

/-- `hash_password`. It raises for a password bcrypt does not take whole. -/
def hashPassword (outside : IdentityOutside) (salt raw : String) : Option String :=
  if raw = "" ∨ maxPasswordBytes < raw.utf8ByteSize then none
  else some (outside.hashpw salt raw)

/-- `verify_password`. -/
def verifyPassword (outside : IdentityOutside) (raw : String) (passwordHash : Option String) :
    Bool :=
  match passwordHash with
  | none => false
  | some hash =>
      decide (hash ≠ "") && decide (raw ≠ "") && decide (raw.utf8ByteSize ≤ maxPasswordBytes) &&
        outside.checkpw raw hash

/-! ## Platform admins and their store -/

/-- `_admin_emails`. -/
def adminEmails (outside : IdentityOutside) (settings : SignInSettings) : List (List Char) :=
  (((outside.lower (String.ofList (pythonStrip settings.adminEmails.toList))).toList.splitOn ','
    ).map pythonStrip).filter (· ≠ [])

def isListed (outside : IdentityOutside) (settings : SignInSettings) (account : Account) : Bool :=
  (adminEmails outside settings).contains (outside.lower account.email).toList

/-- The platform's own store, as a sign-in seeds it. -/
def hqStore (accountId : ℕ) (publicId : String) : Store where
  publicId := publicId
  accountId := accountId
  name := hqStoreName
  externalId := none
  redirectSuccessUrl := none
  isInternal := true
  billingSuspendedAt := none
  status := .active

def hqLink (payway : PayWay) (storeId : ℕ) (rawLink : List Char) : PaymentLink where
  storeId := storeId
  isAbaPayway := true
  rawLink := String.ofList rawLink
  merchantAccountId := String.ofList (extractSlug payway rawLink)
  merchantName := some hqStoreName
  paywayClientId := none
  currency := .usd
  minAmountCents := 1
  maxAmountCents := none
  isActive := true

/-- `_ensure_hq_store`, for a platform admin. A store that is there is only marked. -/
def ensureHqStore (outside : IdentityOutside) (settings : SignInSettings) (tables : Tables)
    (accountId : ℕ) (generatedId : String) : Except Failure Tables := do
  let configuredId := pythonStrip settings.base.chmabapayHqStoreId.toList
  let linkUrl := pythonStrip settings.hqPaywayLink.toList
  if configuredId = [] ∧ linkUrl = [] then return tables
  let existing ← oneOrNone (tables.stores.select fun _ store =>
    if configuredId ≠ [] then decide (store.publicId = String.ofList configuredId)
    else decide (store.accountId = accountId) && decide (store.name = hqStoreName))
  match existing with
  | some (storeId, _) =>
      return { tables with
        stores := tables.stores.update storeId fun store => { store with isInternal := true } }
  | none =>
      let publicId := if configuredId = [] then generatedId else String.ofList configuredId
      return { tables with
        stores := tables.stores.insert (hqStore accountId publicId)
        links :=
          if linkUrl = [] then tables.links
          else tables.links.insert (hqLink outside.payway tables.stores.next linkUrl) }

/-- An admin on the free plan is put on the paid one, so that there is something to bill. -/
def nudgeAdminPlan (tables : Tables) (accountId : ℕ) : Tables :=
  let live := tables.subscriptions.select fun _ subscription =>
    decide (subscription.accountId = accountId) && subscription.isLive
  match live.getLast? with
  | none => tables
  | some (subscriptionId, subscription) =>
      if ((tables.plans.get? subscription.planId).any fun plan => decide (plan.code = "free")) then
        match findPlanByCode tables "pro" with
        | none => tables
        | some (planId, _) =>
            { tables with
              subscriptions := tables.subscriptions.update subscriptionId fun row =>
                { row with planId := planId, status := .active } }
      else tables

/-- A listed address makes a platform admin. -/
def Account.promote (account : Account) : Account :=
  { account with isPlatformAdmin := true, whitelabelEnabled := true }

def promoteAdmin (outside : IdentityOutside) (settings : SignInSettings) (tables : Tables)
    (accountId : ℕ) : Tables :=
  { tables with
    accounts := tables.accounts.update accountId fun account =>
      if isListed outside settings account then account.promote else account }

/-- `_maybe_promote_admin_and_seed_hq`, up to its commit. -/
def maybePromoteAdminAndSeedHq (outside : IdentityOutside) (settings : SignInSettings)
    (directory : Directory) (accountId : ℕ) (generatedId : String) : Except Failure Directory := do
  let promoted := promoteAdmin outside settings directory.tables accountId
  let isAdmin := (promoted.accounts.get? accountId).any Account.isPlatformAdmin
  if isAdmin then
    let seeded ← ensureHqStore outside settings promoted accountId generatedId
    (directory.withTables (nudgeAdminPlan seeded accountId)).commit
  else (directory.withTables promoted).commit

/-! ## Google -/

/-- What Google says of who signed in. -/
structure GoogleUser where
  email : String
  name : String
  sub : Option String
deriving DecidableEq

/-- `_upsert_account`, up to its commit. -/
def upsertLogin (now : Instant) (directory : Directory) (user : GoogleUser)
    (renameExisting : Bool) : Except Failure (ℕ × Directory) := do
  let (accountId, tables) :=
    upsertAccount now directory.tables user.email user.name renameExisting
  let known := (directory.tables.accounts.get? accountId).isSome
  let login : Login :=
    if known then
      { directory.logins accountId with
        googleSub := user.sub.or (directory.logins accountId).googleSub }
    else { googleSub := user.sub }
  let committed ← ((directory.withTables tables).setLogin accountId login).commit
  return (accountId, committed)

/-- A sign-in with no password: the account is there from the first commit on. -/
def upsertSignIn (outside : IdentityOutside) (settings : SignInSettings) (now : Instant)
    (directory : Directory) (user : GoogleUser) (renameExisting : Bool) (generatedId : String) :
    Directory × Except Failure ℕ :=
  match upsertLogin now directory user renameExisting with
  | .error failure => (directory, .error failure)
  | .ok (accountId, found) =>
      match maybePromoteAdminAndSeedHq outside settings found accountId generatedId with
      | .error failure => (found, .error failure)
      | .ok promoted => (promoted, .ok accountId)

/-- `google_callback`, from Google's answer to the second commit. An address that is empty is
refused, and a name that is empty is the address. -/
def googleAccount (outside : IdentityOutside) (settings : SignInSettings) (now : Instant)
    (directory : Directory) (user : GoogleUser) (generatedId : String) :
    Directory × Except Failure ℕ :=
  if user.email = "" then (directory, .error (.http 400 "google_no_email"))
  else
    upsertSignIn outside settings now directory
      { user with name := if user.name = "" then user.email else user.name } true generatedId

/-- `google_callback`, once Google has answered: the account, and the page the browser is sent
to. A state that breaks the landing is met when the account has been committed. -/
def googleSignIn (outside : IdentityOutside) (settings : SignInSettings) (now : Instant)
    (directory : Directory) (user : GoogleUser) (generatedId : String)
    (state : Option (List Char)) : Directory × Except Failure (ℕ × List Char) :=
  match googleAccount outside settings now directory user generatedId with
  | (left, .error failure) => (left, .error failure)
  | (left, .ok accountId) =>
      (left, (googleLanding settings.postLoginRedirectUrl.toList state).map (accountId, ·))

/-- `_dev/login`, where the development gateway is mounted. -/
def devSignIn (outside : IdentityOutside) (settings : SignInSettings) (now : Instant)
    (directory : Directory) (email generatedId : String) : Directory × Except Failure ℕ :=
  if settings.base.enableDevGateway then
    upsertSignIn outside settings now directory
      { email := email, name := String.ofList (email.toList.takeWhile (· ≠ '@')), sub := none }
      false generatedId
  else (directory, .error (.http 404 "Not Found"))

/-! ## Passwords -/

/-- The body of a sign-in, with what is drawn for it and the readings of the clock. -/
structure PasswordLogin where
  email : String
  password : String
  ip : String
  salt : String
  generatedId : String
  asked : ℚ
  read : ℚ
  failed : FailureClock

/-- The account of an address, with the password of the settings adopted when it has none. -/
def adoptPassword (outside : IdentityOutside) (settings : SignInSettings) (directory : Directory)
    (email salt : String) (accountId : ℕ) : Except Failure Directory :=
  let bootstrap := String.ofList (pythonStrip settings.adminPassword.toList)
  if (directory.logins accountId).passwordHash = none ∧ bootstrap ≠ "" ∧
      (adminEmails outside settings).contains email.toList = true then
    match hashPassword outside salt bootstrap with
    | none => .error (.http 500 "Internal Server Error")
    | some hash =>
        (directory.setLogin accountId
          { directory.logins accountId with passwordHash := some hash }).commit
  else .ok directory

/-- What a wrong password leaves behind: one more failure, and a row of the trail. -/
def failLogin (directory : Directory) (accountId : Option ℕ)
    (email ip : String) (clock : FailureClock) : Directory :=
  { directory with
    lockout := directory.lockout.map fun lockout =>
      (lockout.recordFailure loginFailureThreshold email.toList clock).1
    trail := directory.trail ++ [.loginFailed accountId email ip "invalid_credentials"] }

/-- The rest of a sign-in whose address is that of an account. -/
def enterPassword (outside : IdentityOutside) (settings : SignInSettings) (directory : Directory)
    (body : PasswordLogin) (email : String) (accountId : ℕ) (account : Account) :
    Directory × Except Failure ℕ :=
  match adoptPassword outside settings directory email body.salt accountId with
  | .error failure => (directory, .error failure)
  | .ok adopted =>
      if verifyPassword outside body.password (adopted.logins accountId).passwordHash = false then
        (failLogin adopted (some accountId) email body.ip body.failed,
          .error (.http 401 "invalid_credentials"))
      else if account.status = .suspended then
        (adopted.record (.loginFailed (some accountId) email body.ip "account_suspended"),
          .error (.http 403 "account_suspended"))
      else
        match maybePromoteAdminAndSeedHq outside settings adopted accountId body.generatedId with
        | .error failure => (adopted, .error failure)
        | .ok promoted =>
            ({ promoted with
                lockout := promoted.lockout.map fun lockout => lockout.clear email.toList
                trail := promoted.trail ++ [.loginSucceeded accountId email body.ip] },
              .ok accountId)

/-- `password_login`. -/
def passwordSignIn (outside : IdentityOutside) (settings : SignInSettings) (directory : Directory)
    (body : PasswordLogin) : Directory × Except Failure ℕ :=
  let email := outside.lower (String.ofList (pythonStrip body.email.toList))
  let remaining := (directory.lockout.map fun lockout =>
    lockout.lockedFor email.toList body.asked body.read).getD 0
  if 0 < remaining then
    (directory.record (.loginBlocked email body.ip remaining),
      .error (.http 429 "too_many_attempts"))
  else
    match oneOrNone (directory.tables.accounts.select fun _ account =>
        decide (outside.sqlLower account.email = email)) with
    | .error failure => (directory, .error failure)
    | .ok none =>
        (failLogin directory none email body.ip body.failed,
          .error (.http 401 "invalid_credentials"))
    | .ok (some (accountId, account)) =>
        enterPassword outside settings directory body email accountId account

end ChmabaPay
