import ChmabaPay.Routers.Admin
import ChmabaPay.Sessions

/-! # W2, the webhook sender

One delivery row is one POST to a merchant's endpoint, tried until it is answered
with a 2xx or its attempts are used up. A job names one delivery, or asks for a
scan of all that are due. Either way the row is read first, the POST follows and
may take seconds, and the new status is committed last, in a transaction of its
own at READ COMMITTED that claims nothing. The signature and the other headers of
a POST are left out; what a merchant's server sees of it is its address, its event
type and its body.
-/

namespace ChmabaPay

open Calendar Relational

/-! ## One attempt -/

/-- What came of a POST: a status code, or the exception raised in its place. -/
inductive Answer where
  | response (statusCode : ℕ)
  | exception (text typeName : String)
deriving DecidableEq

def Answer.isSuccess : Answer → Bool
  | .response statusCode => decide (200 ≤ statusCode ∧ statusCode < 300)
  | .exception _ _ => false

/-- The status code an answer leaves on the row. -/
def Answer.recordedStatus (answer : Answer) (previous : Option ℕ) : Option ℕ :=
  match answer with
  | .response statusCode => some statusCode
  | .exception _ _ => previous

/-- What an answer other than a 2xx leaves as `last_error`. An exception without a
text is recorded under its type. -/
def Answer.errorText : Answer → String
  | .response statusCode => "non_2xx:" ++ toString statusCode
  | .exception text typeName =>
      String.ofList ((if text = "" then typeName else text).toList.take 2000)

/-- What the merchant's server is sent. -/
structure WebhookPost where
  url : String
  type : EventType
  body : EventPayload
deriving DecidableEq

/-- The event and the endpoint of a delivery, joined; none when either is gone. -/
def webhookPost (tables : Tables) (delivery : EventDelivery) : Option WebhookPost :=
  match tables.events.get? delivery.eventId, tables.endpoints.get? delivery.endpointId with
  | some event, some endpoint =>
      some { url := endpoint.url, type := event.type, body := event.payload }
  | _, _ => none

namespace EventDelivery

/-- There is nothing to send, or nowhere to send it. -/
def orphan (delivery : EventDelivery) : EventDelivery :=
  { delivery with status := .failed, lastError := some "missing event/endpoint" }

/-- The attempt is counted before the POST goes out. -/
def attempt (delivery : EventDelivery) : EventDelivery :=
  { delivery with attempts := delivery.attempts + 1 }

/-- The row once the POST was answered. -/
def conclude (settings : Settings) (now : Instant) (answer : Answer)
    (delivery : EventDelivery) : EventDelivery :=
  let answered :=
    { delivery with lastResponseStatus := answer.recordedStatus delivery.lastResponseStatus }
  if answer.isSuccess then
    { answered with status := .success, lastError := none, nextAttemptAt := none }
  else if settings.webhookMaxAttempts ≤ (delivery.attempts : Int) then
    { answered with
      status := .failed, lastError := some answer.errorText, nextAttemptAt := none }
  else
    { answered with
      status := .retrying
      lastError := some answer.errorText
      nextAttemptAt := some (now + seconds (min (2 ^ delivery.attempts) 3600)) }

end EventDelivery

/-! ## What a job finds -/

/-- What the payload of a job asks for. -/
inductive SendJob where
  | direct (deliveryId : ℕ) (force : Bool)
  | fanout (batchSize : Int)
deriving DecidableEq

/-- What a direct job makes of the delivery it names. -/
inductive SendCheck where
  | skipped (reason : String)
  | raised (error : String)
  | due (delivery : EventDelivery)
deriving DecidableEq

/-- `_process_one`, up to the attempt. -/
def checkDelivery (now : Instant) (tables : Tables) (deliveryId : ℕ) (force : Bool) :
    SendCheck :=
  match tables.deliveries.get? deliveryId with
  | none => .skipped "delivery_not_found"
  | some delivery =>
      if delivery.status = .success then .skipped "already_success"
      else if delivery.nextAttemptAt.any (now < ·) && !force then .raised "delivery_not_yet_due"
      else .due delivery

/-- A delivery the scan takes up: its endpoint is active, and it waits for an
attempt that is due. -/
def isDue (now : Instant) (tables : Tables) (delivery : EventDelivery) : Bool :=
  (tables.endpoints.get? delivery.endpointId).any (·.isActive) &&
    (decide (delivery.status = .pending) || decide (delivery.status = .retrying)) &&
    delivery.nextAttemptAt.all (· ≤ now)

/-- `_fanout_scan_and_send`, up to the attempts. -/
def dueDeliveries (now : Instant) (tables : Tables) (batchSize : Int) : List ℕ :=
  ((tables.deliveries.select fun _ delivery => isDue now tables delivery).map Prod.fst).take
    (max 1 batchSize).toNat

/-! ## Around the sender -/

/-- What is seen of the deliveries from outside: a POST to the merchant's server,
its answer, and an operator's request that resets the delivery. -/
inductive Exchange where
  | sent (deliveryId : ℕ) (post : WebhookPost)
  | answered (deliveryId : ℕ) (answer : Answer)
  | reset (deliveryId : ℕ)
deriving DecidableEq

/-- The outbox as the senders share it: the committed tables, the worker processes
with a scan in flight, and the exchanges so far. -/
structure Outbox where
  tables : Tables
  scanning : List ℕ
  wire : List Exchange

structure WebhookPatch where
  url : Option String
  events : Option (List String)
  enabled : Option Bool
deriving DecidableEq

def updateWebhook (tables : Tables) (endpointId : ℕ) (patch : WebhookPatch) : Tables :=
  { tables with
    endpoints := tables.endpoints.update endpointId fun endpoint =>
      { endpoint with
        url := patch.url.getD endpoint.url
        events := patch.events <|> endpoint.events
        isActive := patch.enabled.getD endpoint.isActive } }

/-- What others do to the outbox, each in one transaction: an event is written
with its deliveries, a merchant edits an endpoint, an operator asks for a
delivery or for all those of a payment again. -/
inductive OutboxCall where
  | enqueueEvent (paymentId : ℕ) (payment : Payment) (store : Store) (type : EventType)
  | updateWebhook (endpointId : ℕ) (patch : WebhookPatch)
  | retryDelivery (actorId deliveryId : ℕ) (includeSuccesses : Bool)
  | redeliver (actorId : ℕ) (publicId : String) (includeSuccesses : Bool)

def OutboxCall.perform (now : Instant) (outbox : Outbox) : OutboxCall → Outbox
  | .enqueueEvent paymentId payment store type =>
      { outbox with
        tables := ChmabaPay.enqueueEvent now outbox.tables paymentId payment store type }
  | .updateWebhook endpointId patch =>
      { outbox with tables := ChmabaPay.updateWebhook outbox.tables endpointId patch }
  | .retryDelivery actorId deliveryId includeSuccesses =>
      match ChmabaPay.retryDelivery now outbox.tables actorId deliveryId includeSuccesses with
      | .ok (true, tables) =>
          { outbox with tables := tables, wire := outbox.wire ++ [.reset deliveryId] }
      | _ => outbox
  | .redeliver actorId publicId includeSuccesses =>
      match redeliverPaymentEvents now outbox.tables actorId publicId includeSuccesses with
      | .ok (deliveryIds, tables) =>
          { outbox with tables := tables, wire := outbox.wire ++ deliveryIds.map .reset }
      | .error _ => outbox

/-! ## A job in a session of its own -/

/-- Where a session stands: before its first read, with deliveries still to send,
or waiting for the answer to a POST. -/
inductive SendPhase where
  | begin (job : SendJob)
  | deliver (waiting : List ℕ)
  | posted (deliveryId : ℕ) (waiting : List ℕ)
  | call (request : OutboxCall)
  | closed

/-- A session of the worker process `worker`: the deliveries as it loaded them and
as it holds them. `scans` says that it holds the scan flag of its process. -/
structure Sending where
  worker : ℕ
  loaded : Table EventDelivery
  edited : Table EventDelivery
  scans : Bool
  phase : SendPhase

inductive SendRequest where
  | job (worker : ℕ) (job : SendJob)
  | call (request : OutboxCall)

def Sending.start : SendRequest → Sending
  | .job worker job =>
      { worker := worker, loaded := .empty, edited := .empty, scans := false
        phase := .begin job }
  | .call request =>
      { worker := 0, loaded := .empty, edited := .empty, scans := false, phase := .call request }

def Sending.close (sending : Sending) : Sending :=
  { sending with loaded := .empty, edited := .empty, scans := false, phase := .closed }

/-- The session has read the rows and goes on to send these. -/
def Sending.take (sending : Sending) (tables : Tables) (scans : Bool) (waiting : List ℕ) :
    Sending :=
  { sending with
    loaded := tables.deliveries
    edited := tables.deliveries
    scans := scans
    phase := .deliver waiting }

/-- One row of the session is edited, and it moves on. -/
def Sending.edit (sending : Sending) (deliveryId : ℕ) (change : EventDelivery → EventDelivery)
    (phase : SendPhase) : Sending :=
  { sending with edited := sending.edited.update deliveryId change, phase := phase }

/-- The session's rows are committed and its scan flag is given back. -/
def Outbox.commit (outbox : Outbox) (sending : Sending) : Outbox :=
  { outbox with
    tables := { outbox.tables with
      deliveries := Table.write sending.loaded sending.edited outbox.tables.deliveries }
    scanning := if sending.scans then outbox.scanning.erase sending.worker else outbox.scanning }

/-- The POST a session would send for a delivery it holds. -/
def Sending.post (tables : Tables) (sending : Sending) (deliveryId : ℕ) : Option WebhookPost :=
  (sending.edited.get? deliveryId).bind (webhookPost tables)

/-- What a step reads from outside: the clock, and the answer that has come in. -/
structure SendReading where
  now : Instant
  answer : Answer

/-- The next step of a session. -/
def Sending.advance (settings : Settings) (outbox : Outbox) (reading : SendReading)
    (sending : Sending) : Outbox × Sending :=
  match sending.phase with
  | .begin (.direct deliveryId force) =>
      match checkDelivery reading.now outbox.tables deliveryId force with
      | .due _ => (outbox, sending.take outbox.tables false [deliveryId])
      | .skipped _ | .raised _ => (outbox, sending.close)
  | .begin (.fanout batchSize) =>
      if outbox.scanning.contains sending.worker then (outbox, sending.close)
      else
        ({ outbox with scanning := sending.worker :: outbox.scanning },
          sending.take outbox.tables true (dueDeliveries reading.now outbox.tables batchSize))
  | .deliver [] => (outbox.commit sending, sending.close)
  | .deliver (deliveryId :: waiting) =>
      match sending.post outbox.tables deliveryId with
      | none => (outbox, sending.edit deliveryId .orphan (.deliver waiting))
      | some post =>
          ({ outbox with wire := outbox.wire ++ [.sent deliveryId post] },
            sending.edit deliveryId .attempt (.posted deliveryId waiting))
  | .posted deliveryId waiting =>
      ({ outbox with wire := outbox.wire ++ [.answered deliveryId reading.answer] },
        sending.edit deliveryId (.conclude settings reading.now reading.answer)
          (.deliver waiting))
  | .call request => (request.perform reading.now outbox, sending.close)
  | .closed => (outbox, sending)

/-- Senders, merchants and operators on one outbox. -/
def sender (settings : Settings) :
    Interleaving.Machine Outbox Sending SendRequest SendReading where
  start := Sending.start
  advance := Sending.advance settings

abbrev Senders := Interleaving.Pool Outbox Sending

end ChmabaPay
