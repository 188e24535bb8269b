import ChmabaPay.Foundation.Decimal
import ChmabaPay.Services.Allowance

/-! # Asking for a payment

`POST /payments`: the amount of the body is checked when the body is read, the request is
resolved to a store and metered, and `create_payment` mints the code. The row is stored
last, in columns of the types `models.py` gives them.
-/

namespace ChmabaPay

open Calendar Relational

/-! ## The body of a request -/

/-- An amount as it is read off the text of a float, which has at most seventeen digits. -/
structure FloatText where
  value : Decimal
  short : ∀ coefficient exponent, value = .finite coefficient exponent →
    coefficient.natAbs < 10 ^ 17

/-- Why an amount is not accepted: a text the caller is shown, or an exception. -/
inductive AmountError where
  | invalid (code : String)
  | raised (error : Decimal.Error)
deriving DecidableEq

/-- `decimal.getcontext().prec`. -/
def decimalPrecision : ℕ := 28

def hundredfold (amount : Decimal) : Except Decimal.Error Decimal :=
  amount.scale decimalPrecision 100

/-- `PaymentCreate._validate_amount`. The float of the decimal of its text is the same
float. -/
def validateAmount (amount : FloatText) : Except AmountError FloatText :=
  match amount.value.notPositive with
  | .error error => .error (.raised error)
  | .ok true => .error (.invalid "amount_too_low")
  | .ok false =>
      match hundredfold amount.value with
      | .error error => .error (.raised error)
      | .ok scaled =>
          if scaled.same scaled.toIntegralValue then .ok amount
          else .error (.invalid "invalid_amount")

/-- A body that was read: its amount was accepted. -/
structure PaymentCreate where
  amount : FloatText
  accepted : validateAmount amount = .ok amount
  currency : Option Currency := none
  referenceId : Option String := none
  metadata : Option JsonObject := none
  idempotencyKey : Option String := none
  store : Option String := none
  merchant : Option String := none
  hostedQr : Option Bool := none

/-- `int(Decimal(str(body.amount)) * 100)`. -/
def PaymentCreate.cents (body : PaymentCreate) : Except Decimal.Error ℤ := do
  let scaled ← hundredfold body.amount.value
  scaled.toInt

def PaymentCreate.request (body : PaymentCreate) (amountCents : ℤ) : PaymentRequest where
  amountCents := amountCents
  referenceId := body.referenceId
  metadata := body.metadata
  idempotencyKey := body.idempotencyKey
  currency := body.currency
  hostedQr := body.hostedQr

/-! ## The store a request acts on -/

/-- Who is asking, and the mode of the key it was asked with. -/
structure AuthContext where
  accountId : ℕ
  apiKeyMode : Option String := none
deriving DecidableEq

/-- A session of the portal is live. -/
def ctxMode (ctx : AuthContext) : String := (ctx.apiKeyMode.filter (· ≠ "")).getD "live"

def loadStoreByPublic (tables : Tables) (accountId : ℕ) (publicId : String) :
    Except Failure (ℕ × Store) := do
  let found ← oneOrNone <| tables.stores.select fun _ store =>
    decide (store.accountId = accountId) && decide (store.publicId = publicId)
  match found with
  | none => .error (.http 404 "store_not_found")
  | some row => .ok row

/-- The store with the caller's own merchant id. -/
def loadStoreByMerchant (tables : Tables) (accountId : ℕ) (externalId : String) :
    Except Failure (ℕ × Store) := do
  let found ← oneOrNone <| tables.stores.select fun _ store =>
    decide (store.externalId = some externalId) && decide (store.accountId = accountId)
  match found with
  | none => .error (.http 404 "merchant_not_found")
  | some row =>
      if row.2.status ≠ .active then .error (.http 400 "merchant_store_disabled") else .ok row

/-- The only active store of an account. -/
def singleActiveStore (tables : Tables) (accountId : ℕ) : Option (ℕ × Store) :=
  match tables.stores.select fun _ store =>
      decide (store.accountId = accountId) && decide (store.status = .active) with
  | [row] => some row
  | _ => none

/-- The merchant's id first, then the store's public id, then the only active store. -/
def resolveTarget (tables : Tables) (accountId : ℕ) (storePublicId merchantId : Option String) :
    Except Failure (ℕ × Store) :=
  match merchantId.filter (· ≠ ""), storePublicId.filter (· ≠ "") with
  | some externalId, _ => loadStoreByMerchant tables accountId externalId
  | none, some publicId => loadStoreByPublic tables accountId publicId
  | none, none =>
      match singleActiveStore tables accountId with
      | none => .error (.http 400 "store_required_or_merchant_required")
      | some row => .ok row

/-! ## The route -/

/-- Whether a code built here can ever be matched to a payment. -/
def offlineQrIsConfirmable (settings : Settings) : Bool :=
  settings.enableDevGateway || (settings.bakongApiToken.filter (· ≠ "")).isSome ||
    (settings.bakongDeveloperEmail.filter (· ≠ "")).isSome

/-- A live code built here that nothing could ever confirm is refused. -/
def refuseUnconfirmable (settings : Settings) (mode : String) (hostedQr : Option Bool) :
    Except Failure Unit :=
  if hostedQr = some false ∧ mode = "live" ∧ offlineQrIsConfirmable settings = false then
    .error (.http 400 ("offline_qr_requires_a_confirmation_source: this deployment has no " ++
      "Bakong Open API credentials, so a QR we build ourselves could never " ++
      "be confirmed. Omit hosted_qr to let ABA issue the code."))
  else .ok ()

/-- The platform's own stores are not metered. -/
def meterPayment (now : Instant) (tables : Tables) (ctx : AuthContext) (store : Store) :
    Except Failure Unit :=
  if store.isInternal then .ok () else checkPlanQuota now tables ctx.accountId (ctxMode ctx)

/-- The checks in front of `create_payment`. -/
def admitPayment (settings : Settings) (now : Instant) (tables : Tables) (ctx : AuthContext)
    (body : PaymentCreate) : Except Failure (ℕ × Store) := do
  let target ← resolveTarget tables ctx.accountId body.store body.merchant
  refuseUnconfirmable settings (ctxMode ctx) body.hostedQr
  meterPayment now tables ctx target.2
  return target

/-- A payment of a test key remembers that W1 settles it without a rail. -/
def enqueueOrSkipTestModeBypass (now : Instant) (mode : String) (payment : Payment) : Payment :=
  if mode = "test" then
    { payment with
      attemptHistory := some (payment.attemptHistory.getD [] ++ [.testModeBypassHook now]) }
  else payment

/-- The greatest value of an `Integer` column. -/
def integerMax : ℤ := 2 ^ 31 - 1

def fitsInteger (value : ℤ) : Bool := decide (-(2 ^ 31) ≤ value) && decide (value ≤ integerMax)

/-- Why a request came to nothing. -/
inductive Refusal where
  | failed (failure : Failure)
  | raised (error : Decimal.Error)
  /-- The code was minted, and the row did not fit its columns. -/
  | unstorable
deriving DecidableEq

/-- The row of a new payment, if its columns hold it, and the mark of a test key. -/
def storePayment (now : Instant) (mode : String) (paymentId : ℕ) (created : Tables) :
    Except Refusal (ℕ × Tables) :=
  if (created.payments.get? paymentId).all fun payment => fitsInteger payment.amountCents then
    .ok (paymentId,
      { created with
        payments := created.payments.update paymentId (enqueueOrSkipTestModeBypass now mode) })
  else .error .unstorable

/-- `create_payment` of the router. A payment that was there before is answered as it is. -/
def postPayment (settings : Settings) (rail : Rail) (now : Instant) (tables : Tables)
    (ctx : AuthContext) (body : PaymentCreate) (publicId : String) :
    Except Refusal (ℕ × Tables) :=
  match admitPayment settings now tables ctx body with
  | .error failure => .error (.failed failure)
  | .ok (storeId, store) =>
      match body.cents with
      | .error error => .error (.raised error)
      | .ok cents =>
          match createPayment settings rail now tables storeId store (body.request cents)
              publicId with
          | .error failure => .error (.failed failure)
          | .ok (paymentId, created) =>
              if paymentId = tables.payments.next then
                storePayment now (ctxMode ctx) paymentId created
              else .ok (paymentId, created)

/-- `reissue_payment` of the router. A code that was there before is answered as it is. -/
def postReissue (settings : Settings) (rail : Rail) (now : Instant) (tables : Tables)
    (ctx : AuthContext) (parentPublicId publicId : String) : Except Failure (ℕ × Tables) := do
  let found ← oneOrNone <| tables.payments.select fun _ payment =>
    decide (payment.publicId = parentPublicId) &&
      (tables.stores.get? payment.storeId).any fun store => decide (store.accountId = ctx.accountId)
  match found with
  | none => .error (.http 404 "payment_not_found")
  | some (parentId, parent) => do
      let (successorId, reissued) ←
        reissuePayment settings rail now tables parentId parent publicId
      if successorId = tables.payments.next then
        return (successorId,
          { reissued with
            payments := reissued.payments.update successorId
              (enqueueOrSkipTestModeBypass now (ctxMode ctx)) })
      else return (successorId, reissued)

end ChmabaPay
