import ChmabaPay.Foundation.Calendar
import ChmabaPay.Foundation.Table

/-! # Rows of the payment platform

The tables of `models.py` that the payment and billing services read or write,
with their status vocabularies as inductive types. A row does not repeat its
primary key: the key is where the table keeps it. `updated_at` columns are
written by every service and read by none of the modelled ones, so they are not
part of the rows.
-/

namespace ChmabaPay

open Calendar Relational

inductive AccountStatus where
  | active
  | suspended
  | restricted
deriving DecidableEq

inductive StoreStatus where
  | draft
  | linkPending
  | active
  | disabled
deriving DecidableEq

inductive PaymentStatus where
  | pending
  | scanned
  | paid
  | expired
  | failed
  | superseded
  | reversed
deriving DecidableEq

inductive EventType where
  | completed
  | scanned
  | expired
  | failed
  | superseded
  | reversed
deriving DecidableEq

/-- The wire name of an event type, as endpoints subscribe to it. -/
def EventType.name : EventType → String
  | .completed => "payment.completed"
  | .scanned => "payment.scanned"
  | .expired => "payment.expired"
  | .failed => "payment.failed"
  | .superseded => "payment.superseded"
  | .reversed => "payment.reversed"

inductive DeliveryStatus where
  | pending
  | retrying
  | success
  | failed
deriving DecidableEq

inductive SubscriptionStatus where
  | trial
  | active
  | pending
  | canceled
deriving DecidableEq

/-- `opened` is the status spelled `open`; `draft` and `issued` are its legacy
aliases, read as unpaid and never written. -/
inductive InvoiceStatus where
  | opened
  | draft
  | issued
  | paid
  | void
  | waived
  | credited
deriving DecidableEq

inductive VoidReason where
  | downgraded
  | superseded
  | graceExpired
  | preLifecycle
  | operator
deriving DecidableEq

inductive LedgerResource where
  | payment
  | paymentReversal
deriving DecidableEq

/-- Whether PayWay has confirmed a destination. -/
inductive Verification where
  | unverified
  | verified
deriving DecidableEq

/-- The two currencies a link may settle in, after `normalize_currency`. -/
inductive Currency where
  | usd
  | khr
deriving DecidableEq

/-- A JSON value as the services look at it: top-level scalars are inspected,
anything nested is carried through unread. -/
inductive JsonValue where
  | null
  | bool (value : Bool)
  | number (value : Int)
  | text (value : String)
  | nested (raw : String)
deriving DecidableEq

abbrev JsonObject := List (String × JsonValue)

structure Account where
  email : String
  name : String
  status : AccountStatus
  isPlatformAdmin : Bool
  whitelabelEnabled : Bool := false
  termsAcceptedVersion : Option String := none
deriving DecidableEq

structure Store where
  publicId : String
  accountId : ℕ
  name : String
  externalId : Option String
  redirectSuccessUrl : Option String
  isInternal : Bool
  billingSuspendedAt : Option Instant
  status : StoreStatus
  city : String := "Phnom Penh"
  supportEmail : Option String := none
  redirectFailureUrl : Option String := none
  telegramChatId : Option String := none
  brandColor : Option String := none
  logoImageUrl : Option String := none
  whitelabelCss : Option String := none
deriving DecidableEq

structure PaymentLink where
  storeId : ℕ
  isAbaPayway : Bool
  rawLink : String
  merchantAccountId : String
  merchantName : Option String
  paywayClientId : Option String
  currency : Currency
  minAmountCents : Int
  maxAmountCents : Option Int
  isActive : Bool
  verification : Verification := .verified
deriving DecidableEq

/-- The ABA checkout session stored with a hosted code. -/
structure HostedSession where
  clientId : String
  token : String
  requestTime : String
  tranId : String
  expiresInSeconds : Option Int
  qrString : String
deriving DecidableEq

/-- `gateway_status_raw`: the hosted session, when there is one, and the other
entries of the object. -/
structure GatewayStatus where
  paywayHosted : Option HostedSession
  entries : JsonObject
deriving DecidableEq

/-- One entry of `attempt_history`. -/
inductive Attempt where
  | reissued (successor : String) (moment : Instant)
  | testModeBypassHook (moment : Instant)
  | detection (source : String) (attemptAt : Instant) (matchedAmountCents : Option Int)
      (signals : List String) (note : String) (transitioned : Bool)
      (detectionClosedAt : Option Instant)
deriving DecidableEq

/-- A key that was rotated is suspended, so that it tells itself apart from one that
was revoked. -/
inductive KeyStatus where
  | active
  | suspended
  | revoked
deriving DecidableEq

structure ApiKey where
  accountId : ℕ
  keyPrefix : String
  name : Option String
  keyHash : String
  mode : String
  status : KeyStatus := .active
  revokedAt : Option Instant := none
  createdAt : Instant
deriving DecidableEq

structure Payment where
  publicId : String
  storeId : ℕ
  paymentLinkId : ℕ
  amountCents : Int
  currency : Currency
  referenceId : Option String
  metadata : Option JsonObject
  idempotencyKey : Option String
  status : PaymentStatus
  qrString : String
  qrMd5 : Option String
  billNumber : String
  expiresAt : Instant
  scannedAt : Option Instant := none
  paidAt : Option Instant := none
  approvedAt : Option Instant := none
  bakongRef : Option String := none
  detectionClosedAt : Option Instant := none
  reversedAt : Option Instant := none
  reversalReason : Option String := none
  gatewayStatusRaw : Option GatewayStatus
  attemptHistory : Option (List Attempt) := none
  reissuedFromId : Option ℕ := none
  createdAt : Instant
deriving DecidableEq

structure WebhookEndpoint where
  accountId : ℕ
  url : String
  events : Option (List String)
  isActive : Bool
deriving DecidableEq

/-- The outbox payload: the payment, its store and the merchant reference as
they stood when the event was written. -/
structure EventPayload where
  created : Instant
  financial : Bool
  paymentPublicId : String
  status : PaymentStatus
  amount : String
  currency : Currency
  referenceId : Option String
  metadata : Option JsonObject
  approvedAt : Option Instant
  createdAt : Instant
  expiresAt : Instant
  paidAt : Option Instant
  reversedAt : Option Instant
  settledLate : Bool
  storePublicId : String
  storeName : String
  redirectSuccessUrl : Option String
  externalId : Option String
deriving DecidableEq

structure Event where
  accountId : ℕ
  storeId : ℕ
  paymentId : ℕ
  type : EventType
  payload : EventPayload
deriving DecidableEq

structure EventDelivery where
  eventId : ℕ
  endpointId : ℕ
  status : DeliveryStatus
  attempts : ℕ := 0
  nextAttemptAt : Option Instant := none
  lastResponseStatus : Option ℕ := none
  lastError : Option String := none
deriving DecidableEq

structure Plan where
  name : String
  code : String
  monthlyFeeCents : Int
  basePaymentsIncluded : Int
  maxStores : Option ℕ
  maxKeysPerAccount : ℕ := 5
  isPublic : Bool
  isActive : Bool
deriving DecidableEq

structure PlanSubscription where
  accountId : ℕ
  planId : ℕ
  status : SubscriptionStatus
  startedAt : Option Instant := none
  canceledAt : Option Instant := none
  nextBillingAt : Instant
  createdAt : Instant
deriving DecidableEq

structure PlanInvoice where
  accountId : ℕ
  subscriptionId : Option ℕ
  periodMonth : String
  periodStart : Option Instant
  periodEnd : Option Instant
  dueAt : Option Instant
  status : InvoiceStatus
  baseFeeCents : Int
  usagePaymentsCount : Int := 0
  overagePaymentsCount : Int := 0
  overageFeeCents : Int := 0
  totalDueCents : Int
  paidAt : Option Instant := none
  voidedAt : Option Instant := none
  voidReason : Option VoidReason := none
  chmabapayPaymentId : Option ℕ := none
  createdAt : Instant
deriving DecidableEq

structure PlanLedgerEntry where
  accountId : ℕ
  periodMonth : String
  resourceType : LedgerResource
  resourceId : String
  amountCentsDelta : Int
  totalPaymentsCount : Int
  totalVolumeCents : Int
  description : String
  createdAt : Instant
deriving DecidableEq

/-- The resolution an operator chose for an invoice. -/
inductive ResolveAction where
  | markPaid
  | waive
  | credit
  | void
deriving DecidableEq

/-- What an audit row records, with the details the services put in it. -/
inductive AuditAction where
  | accountFrozen (invoiceId : ℕ) (periodMonth : String) (totalDueCents : Int)
      (dueAt : Option Instant) (graceDays : Int)
  | reinstated (lapsedInvoiceId grantedInvoiceId : ℕ) (gapDays : Int) (periodEnd : Instant)
      (source : String)
  | planChanged (fromPlan : Option String) (toPlan : String)
  | planChangeRequested (fromPlan : Option String) (toPlan : String) (invoiceId : ℕ)
      (periodMonth : String)
  | planAssigned (fromPlan : Option String) (toPlan : String) (monthlyFeeCents : Int)
      (reason : String)
  | invoiceResolved (resolution : ResolveAction) (accountId : ℕ) (periodMonth : String)
      (totalDueCents : Int) (reason : String) (creditedCents : Option Int)
  | storeSlotMoved (name : String) (displaced : Option (ℕ × String))
  | deliveryRetried (eventId endpointId : ℕ) (fromStatus : DeliveryStatus)
  | paymentRedelivered (deliveryIds : List ℕ) (includeSuccesses : Bool) (accountId : ℕ)
  | keyCreated (name : Option String) (keyPrefix mode : String) (onBehalfOf : Option ℕ)
  | keyRevoked (name : Option String) (keyPrefix : String)
  | keyRotated (replacesId : ℕ) (name : Option String) (keyPrefix : String)
      (onBehalfOf : Option ℕ)
  | accountUpdated (whitelabelEnabled : Option (Bool × Bool))
      (status : Option (AccountStatus × AccountStatus)) (reason : Option String)
  | storeCreated (name : String) (externalId : Option String)
  | storeLinkSet (merchantAccountId : String) (merchantName : Option String)
      (currency : Option Currency) (verification : Verification)
  | storeUpdated (fields : List String)
  | storeDisabled (name : String)
  | storeEnabled (accountId : Option ℕ) (name : String) (status : StoreStatus)
deriving DecidableEq

structure AuditLog where
  actorAccountId : Option ℕ
  action : AuditAction
  targetId : ℕ
deriving DecidableEq

/-- The settings the modelled services read. -/
structure Settings where
  billingLeadDays : Int := 7
  billingGraceDays : Int := 7
  billingEnforceEnabled : Bool := false
  checkoutTtlSeconds : Int := 300
  chmabapayHqStoreId : String := ""
  webhookMaxAttempts : Int := 8
  termsVersion : String := "3"
  detectionWindowSeconds : ℕ := 3600
  enableKhrCurrency : Bool := false
  enableDevGateway : Bool := false
  bakongApiToken : Option String := none
  bakongDeveloperEmail : Option String := none

/-! ## Status predicates -/

/-- `trial` or `active`: the subscriptions in force. -/
def PlanSubscription.isLive (subscription : PlanSubscription) : Bool :=
  subscription.status = .trial || subscription.status = .active

/-- `UNPAID_STATUSES`. -/
def InvoiceStatus.isUnpaid : InvoiceStatus → Bool
  | .opened | .draft | .issued => true
  | .paid | .void | .waived | .credited => false

def PlanInvoice.isUnpaid (invoice : PlanInvoice) : Bool := invoice.status.isUnpaid

/-- The statuses `mark_paid` refuses: the rail has nothing more to say. -/
def PaymentStatus.isTerminal : PaymentStatus → Bool
  | .paid | .failed | .reversed => true
  | .pending | .scanned | .expired | .superseded => false

/-- A code offered as payable. -/
def PaymentStatus.isOpen : PaymentStatus → Bool
  | .pending | .scanned => true
  | .paid | .expired | .failed | .superseded | .reversed => false

/-- Money arrived for this payment, whether or not it was given back. -/
def PaymentStatus.isSettled : PaymentStatus → Bool
  | .paid | .reversed => true
  | .pending | .scanned | .expired | .failed | .superseded => false

end ChmabaPay
