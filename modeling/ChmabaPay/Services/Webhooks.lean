import ChmabaPay.Database

/-! # The webhook outbox

An event row is written with the state change it reports, and one pending
delivery row for every active endpoint of the account that subscribed to its
type. The queue job that follows a delivery row is outside the database and
outside this module.
-/

namespace ChmabaPay

open Calendar Relational

/-- Digits grouped by thousands, from the right. -/
def groupThousands (digits : List Char) : List Char :=
  let rec go : List Char → List Char
    | a :: b :: c :: d :: rest => a :: b :: c :: ',' :: go (d :: rest)
    | short => short
  (go digits.reverse).reverse

/-- `money_to_str`: two decimals for dollars, whole riel rounded half to even. -/
def moneyToStr (amountCents : Int) (currency : Currency) (grouping : Bool) : String :=
  let magnitude := amountCents.natAbs
  let sign := if amountCents < 0 then ['-'] else []
  let whole (count : ℕ) :=
    let digits := Nat.toDigits 10 count
    if grouping then groupThousands digits else digits
  match currency with
  | .khr =>
      let floor := magnitude / 100
      let part := magnitude % 100
      let rounded := if part < 50 ∨ (part = 50 ∧ floor % 2 = 0) then floor else floor + 1
      String.ofList (sign ++ whole rounded)
  | .usd =>
      String.ofList (sign ++ whole (magnitude / 100) ++ '.' ::
        List.leftpad 2 '0' (Nat.toDigits 10 (magnitude % 100)))

/-- `FINANCIAL_EVENTS`: the events that move money. -/
def EventType.isFinancial : EventType → Bool
  | .completed | .reversed => true
  | .scanned | .expired | .failed | .superseded => false

def buildEventPayload (now : Instant) (type : EventType) (payment : Payment) (store : Store) :
    EventPayload where
  created := now
  financial := type.isFinancial
  paymentPublicId := payment.publicId
  status := payment.status
  amount := moneyToStr payment.amountCents payment.currency false
  currency := payment.currency
  referenceId := payment.referenceId
  metadata := payment.metadata
  approvedAt := payment.approvedAt
  createdAt := payment.createdAt
  expiresAt := payment.expiresAt
  paidAt := payment.paidAt
  reversedAt := payment.reversedAt
  settledLate := payment.paidAt.any (payment.expiresAt < ·)
  storePublicId := store.publicId
  storeName := store.name
  redirectSuccessUrl := store.redirectSuccessUrl
  externalId := store.externalId

def targetEndpoints (tables : Tables) (accountId : ℕ) : List (ℕ × WebhookEndpoint) :=
  tables.endpoints.select fun _ endpoint =>
    endpoint.isActive && decide (endpoint.accountId = accountId)

/-- No subscription list, or a `*` entry, means every event type. -/
def endpointWants (endpoint : WebhookEndpoint) (type : EventType) : Bool :=
  match endpoint.events with
  | none => true
  | some events => events.isEmpty || events.contains "*" || events.contains type.name

/-- Schedule one delivery, unless the endpoint already has one for the event. -/
def scheduleDelivery (eventId : ℕ) (deliveries : Table EventDelivery)
    (endpoint : ℕ × WebhookEndpoint) : Table EventDelivery :=
  match deliveries.find? fun _ delivery =>
      decide (delivery.eventId = eventId) && decide (delivery.endpointId = endpoint.1) with
  | some _ => deliveries
  | none => deliveries.insert
      { eventId := eventId, endpointId := endpoint.1, status := .pending }

/-- Write one outbox event and schedule it for every subscribed endpoint. -/
def enqueueEvent (now : Instant) (tables : Tables) (paymentId : ℕ) (payment : Payment)
    (store : Store) (type : EventType) : Tables :=
  let event : Event :=
    { accountId := store.accountId
      storeId := payment.storeId
      paymentId := paymentId
      type := type
      payload := buildEventPayload now type payment store }
  let wanted := (targetEndpoints tables store.accountId).filter fun endpoint =>
    endpointWants endpoint.2 type
  { tables with
    events := tables.events.insert event
    deliveries := wanted.foldl (scheduleDelivery tables.events.next) tables.deliveries }

section Frame

variable (now : Instant) (tables : Tables) (paymentId : ℕ) (payment : Payment)
  (store : Store) (type : EventType)

@[simp] theorem enqueueEvent_accounts :
    (enqueueEvent now tables paymentId payment store type).accounts = tables.accounts := rfl

@[simp] theorem enqueueEvent_stores :
    (enqueueEvent now tables paymentId payment store type).stores = tables.stores := rfl

@[simp] theorem enqueueEvent_links :
    (enqueueEvent now tables paymentId payment store type).links = tables.links := rfl

@[simp] theorem enqueueEvent_payments :
    (enqueueEvent now tables paymentId payment store type).payments = tables.payments := rfl

@[simp] theorem enqueueEvent_plans :
    (enqueueEvent now tables paymentId payment store type).plans = tables.plans := rfl

@[simp] theorem enqueueEvent_subscriptions :
    (enqueueEvent now tables paymentId payment store type).subscriptions =
      tables.subscriptions := rfl

@[simp] theorem enqueueEvent_invoices :
    (enqueueEvent now tables paymentId payment store type).invoices = tables.invoices := rfl

@[simp] theorem enqueueEvent_ledger :
    (enqueueEvent now tables paymentId payment store type).ledger = tables.ledger := rfl

end Frame

end ChmabaPay
