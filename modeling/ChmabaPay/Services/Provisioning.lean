import ChmabaPay.Services.Links

/-! # Provisioning stores

Creating a store, pointing it at its links, changing it, disabling it and bringing it
back. Every call is work in a session: what it stages is committed once, by the last step
but the answer.
-/

namespace ChmabaPay

open Calendar Relational Staging

abbrev StoreWork := Work Failure Tables

/-- `uq_store_account_external`. -/
def sameExternalId (first second : Store) : Prop :=
  first.accountId = second.accountId ∧ first.externalId ≠ none ∧
    first.externalId = second.externalId

instance : DecidableRel sameExternalId := fun _ _ => inferInstanceAs (Decidable (_ ∧ _))

def sameStorePublicId (first second : Store) : Prop := first.publicId = second.publicId

instance : DecidableRel sameStorePublicId := fun _ _ => inferInstanceAs (Decidable (_ = _))

/-- The database takes the staged stores, or refuses them. The index on the links of a
store is left out: the calls keep it by themselves. -/
def flushStores (nulls : Bool) : StoreWork Unit := query fun tables =>
  if nulls = false ∧ tables.stores.Unique sameExternalId ∧
      tables.stores.Unique sameStorePublicId then .ok ()
  else .error .integrity

/-! ## Links of a store -/

/-- Every destination the store holds, oldest first. -/
def loadLinks (tables : Tables) (storeId : ℕ) : List (ℕ × PaymentLink) :=
  tables.links.select fun _ link => decide (link.storeId = storeId)

/-- A payload that names no currency keeps the one of the store's only link. -/
def carryForwardCurrency (tables : Tables) (storeId : ℕ) (payload : LinkCreate) :
    Except Failure LinkCreate :=
  if payload.currencySet then .ok payload
  else match loadLinks tables storeId with
    | [] => .ok payload
    | [existing] => .ok { payload with currency := existing.2.currency, currencySet := true }
    | _ :: _ :: _ =>
        .error (.http 400 ("link_currency_required: this store has a link for each currency, " ++
          "so `currency` must say which one is being replaced."))

/-- A destination for a currency the store had none for. -/
def newLink (storeId : ℕ) (payload : LinkCreate) (verification : Verification) :
    PaymentLink where
  storeId := storeId
  isAbaPayway := true
  rawLink := payload.rawLink
  merchantAccountId := payload.merchantAccountId
  merchantName := payload.merchantName
  paywayClientId := none
  currency := payload.currency
  minAmountCents := 1
  maxAmountCents := none
  isActive := true
  verification := verification

/-- A destination replaced in place. -/
def PaymentLink.replace (payload : LinkCreate) (verification : Verification)
    (link : PaymentLink) : PaymentLink :=
  { link with
    isAbaPayway := true
    rawLink := payload.rawLink
    merchantAccountId := payload.merchantAccountId
    merchantName := payload.merchantName
    currency := payload.currency
    verification := verification
    isActive := true }

/-- Write the destination of a store for one currency. -/
def attachLinkToStore (tables : Tables) (storeId : ℕ) (payload : LinkCreate)
    (verification : Verification) : Except Failure Tables := do
  match ← oneOrNone (tables.links.select fun _ link =>
      decide (link.storeId = storeId) && decide (link.currency = payload.currency)) with
  | none =>
      return { tables with links := tables.links.insert (newLink storeId payload verification) }
  | some (linkId, _) =>
      return { tables with
        links := tables.links.update linkId (PaymentLink.replace payload verification) }

/-- A confirmed destination may promote the store. -/
def Store.promote (promotes : StoreStatus → Bool) (verification : Verification)
    (store : Store) : Store :=
  { store with
    status := if verification = .verified ∧ promotes store.status = true then .active
      else store.status }

def promoteStore (storeId : ℕ) (promotes : StoreStatus → Bool) (verification : Verification)
    (tables : Tables) : Tables :=
  { tables with stores := tables.stores.update storeId (Store.promote promotes verification) }

/-- One destination of a call: settled with PayWay, written and recorded. -/
def setLink (settings : Settings) (payway : PayWay) (actorId storeId : ℕ) (nulls : Bool)
    (promotes : StoreStatus → Bool) (recordsCurrency : Bool) (payload : LinkCreate) :
    StoreWork PUnit := do
  let (verification, payload) ← query fun _ => resolveLink settings payway payload
  flushStores nulls
  let attached ← query fun tables => attachLinkToStore tables storeId payload verification
  stage fun _ => attached
  stage (promoteStore storeId promotes verification)
  stage fun tables => recordAudit tables (some actorId) storeId
    (.storeLinkSet payload.merchantAccountId payload.merchantName
      (if recordsCurrency then some payload.currency else none) verification)

/-! ## Calls -/

/-- Branding may be cleared by everyone and set by entitled accounts. -/
def rejectUnentitledBranding (account : Account) (values : List (Option String)) :
    Except Failure Unit :=
  if account.whitelabelEnabled then .ok ()
  else if values.any fun value => decide (value.getD "" ≠ "") then
    .error (.http 403 "whitelabel_not_enabled")
  else .ok ()

def requireAccount (tables : Tables) (accountId : ℕ) : Except Failure Account :=
  match tables.accounts.get? accountId with
  | none => .error .missingRow
  | some account => .ok account

def refuseDisabledStore (store : Store) : Except Failure Unit :=
  if store.status = .disabled then .error (.http 400 "store_disabled") else .ok ()

def newStore (accountId : ℕ) (publicId : String) (payload : StoreCreate) : Store where
  publicId := publicId
  accountId := accountId
  name := payload.name
  externalId := payload.externalId
  redirectSuccessUrl := payload.redirectSuccessUrl
  isInternal := false
  billingSuspendedAt := none
  status := .draft
  city := payload.city
  supportEmail := payload.supportEmail
  redirectFailureUrl := payload.redirectFailureUrl
  telegramChatId := payload.telegramChatId
  brandColor := payload.brandColor
  logoImageUrl := payload.logoImageUrl
  whitelabelCss := payload.whitelabelCss

def createStore (settings : Settings) (payway : PayWay) (accountId : ℕ) (payload : StoreCreate)
    (publicId : String) : StoreWork ℕ := do
  let account ← query fun tables => requireAccount tables accountId
  query fun _ => rejectUnentitledBranding account
    [payload.brandColor, payload.logoImageUrl, payload.whitelabelCss]
  let storeId ← query fun tables => .ok tables.stores.next
  stage fun tables =>
    { tables with stores := tables.stores.insert (newStore accountId publicId payload) }
  flushStores false
  stage fun tables => recordAudit tables (some accountId) storeId
    (.storeCreated payload.name payload.externalId)
  let links ← query fun _ => linksFrom payload.link payload.links
  links.forM (setLink settings payway accountId storeId false (fun _ => true) true)
  commit
  return storeId

def attachLink (settings : Settings) (payway : PayWay) (accountId : ℕ)
    (storePublicId : String) (payload : LinkCreate) : StoreWork ℕ := do
  let (storeId, store) ← query fun tables => getStore tables accountId storePublicId
  query fun _ => refuseDisabledStore store
  let payload ← query fun tables => carryForwardCurrency tables storeId payload
  setLink settings payway accountId storeId false (fun _ => true) false payload
  commit
  return storeId

/-- The link of a patch, with the currency it is about. Reading the store's links makes
the database take the staged fields first. -/
def patchedLink (storeId : ℕ) (patch : StorePatch) : StoreWork (Option LinkCreate) :=
  match patch.link.getD none with
  | none => return none
  | some link =>
      if link.currencySet then return some link
      else do
        flushStores patch.nulls
        let carried ← query fun tables => carryForwardCurrency tables storeId link
        return some carried

def updateStore (settings : Settings) (payway : PayWay) (accountId : ℕ)
    (storePublicId : String) (patch : StorePatch) : StoreWork ℕ := do
  let (storeId, store) ← query fun tables => getStore tables accountId storePublicId
  query fun _ => refuseDisabledStore store
  let account ← query fun tables => requireAccount tables accountId
  query fun _ => rejectUnentitledBranding account
    [patch.brandColor.getD none, patch.logoImageUrl.getD none, patch.whitelabelCss.getD none]
  stage fun tables => { tables with stores := tables.stores.update storeId patch.applyTo }
  stage fun tables =>
    if patch.fieldsSet = [] then tables
    else recordAudit tables (some accountId) storeId (.storeUpdated patch.fieldsSet)
  let link ← patchedLink storeId patch
  let links ← query fun _ => linksFrom link (patch.links.getD none)
  links.forM (setLink settings payway accountId storeId patch.nulls
    (fun status => decide (status = .draft)) true)
  flushStores patch.nulls
  commit
  return storeId

def Store.withStatus (status : StoreStatus) (store : Store) : Store :=
  { store with status := status }

def setStatus (storeId : ℕ) (status : StoreStatus) (tables : Tables) : Tables :=
  { tables with stores := tables.stores.update storeId (Store.withStatus status) }

def disableStore (accountId : ℕ) (storePublicId : String) : StoreWork ℕ := do
  let (storeId, store) ← query fun tables => getStore tables accountId storePublicId
  stage (setStatus storeId .disabled)
  stage fun tables => recordAudit tables (some accountId) storeId (.storeDisabled store.name)
  commit
  return storeId

/-- The status a disabled store returns to: `active` where it has a payment link. -/
def restoredStatus (tables : Tables) (storeId : ℕ) : Except Failure StoreStatus :=
  (oneOrNone (loadLinks tables storeId)).map fun hasLink =>
    if hasLink.isSome then .active else .draft

/-- Bring a disabled store back. A live one is answered as it is. -/
def restoreStore (actorId storeId : ℕ) (store : Store) (recordsAccount : Bool) :
    StoreWork ℕ :=
  if store.status ≠ .disabled then return storeId
  else do
    let restored ← query fun tables => restoredStatus tables storeId
    stage (setStatus storeId restored)
    stage fun tables => recordAudit tables (some actorId) storeId
      (.storeEnabled (if recordsAccount then some store.accountId else none) store.name restored)
    commit
    return storeId

def enableStore (accountId : ℕ) (storePublicId : String) : StoreWork ℕ := do
  let (storeId, store) ← query fun tables => getStore tables accountId storePublicId
  restoreStore accountId storeId store false

/-- A store of any account, addressed by its public id. -/
def findStore (tables : Tables) (storePublicId : String) : Except Failure (ℕ × Store) := do
  match ← oneOrNone (tables.stores.select fun _ store =>
      decide (store.publicId = storePublicId)) with
  | some row => return row
  | none => throw (.http 404 "store_not_found")

/-- The operator's side of `enable_store`. -/
def operatorEnableStore (actorId : ℕ) (storePublicId : String) : StoreWork ℕ := do
  let (storeId, store) ← query fun tables => findStore tables storePublicId
  restoreStore actorId storeId store true

/-! ## Runs -/

/-- The calls that write a store's destinations or its status. What PayWay answers and the
public id drawn for a new store arrive with the call. -/
inductive StoreRequest where
  | create (payway : PayWay) (accountId : ℕ) (payload : StoreCreate) (publicId : String)
  | attach (payway : PayWay) (accountId : ℕ) (storePublicId : String) (payload : LinkCreate)
  | update (payway : PayWay) (accountId : ℕ) (storePublicId : String) (patch : StorePatch)
  | disable (accountId : ℕ) (storePublicId : String)
  | enable (accountId : ℕ) (storePublicId : String)
  | operatorEnable (actorId : ℕ) (storePublicId : String)

def StoreRequest.work (settings : Settings) : StoreRequest → StoreWork ℕ
  | .create payway accountId payload publicId =>
      createStore settings payway accountId payload publicId
  | .attach payway accountId storePublicId payload =>
      attachLink settings payway accountId storePublicId payload
  | .update payway accountId storePublicId patch =>
      updateStore settings payway accountId storePublicId patch
  | .disable accountId storePublicId => disableStore accountId storePublicId
  | .enable accountId storePublicId => enableStore accountId storePublicId
  | .operatorEnable actorId storePublicId => operatorEnableStore actorId storePublicId

/-- One call on the committed rows. -/
def provisionStep (settings : Settings) (tables : Tables) (request : StoreRequest) :
    Tables × Except Failure ℕ :=
  call (request.work settings) tables

end ChmabaPay
