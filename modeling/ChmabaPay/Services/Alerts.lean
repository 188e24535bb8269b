import ChmabaPay.Operations

/-! # Operator alerts

Once a settlement has committed it is posted to the activity feed, and then the same sale is
looked for among the other payments of the store that are paid. An alert is the only thing
that comes of it.
-/

namespace ChmabaPay

open Calendar Relational

/-! ## The activity feed -/

/-- What `response.json()` makes of a body: nothing, a dictionary with its `ok`, or something
else. -/
inductive ReplyBody where
  | unreadable
  | dictionary (ok : Bool)
  | other
deriving DecidableEq

/-- What comes of a call of the Bot API: an `httpx.HTTPError`, any other exception, or an
answer. -/
inductive TelegramReply where
  | unreachable
  | broken
  | answered (status : ℕ) (body : ReplyBody)
deriving DecidableEq

/-- What `send_message` raises: a `TelegramError`, or anything else. -/
inductive SendError where
  | telegram
  | other
deriving DecidableEq

/-- The settings of the feed. -/
structure ActivityFeed where
  activityTelegramChatId : Option String := none
  telegramBotToken : Option String := none

namespace ActivityFeed

variable (feed : ActivityFeed)

/-- `_chat_id`. -/
def chatId : Option String :=
  some (String.ofList (pythonStrip (feed.activityTelegramChatId.getD "").toList)) |>.filter
    (· ≠ "")

/-- `send_message`. A refusal is told by its description, which only a dictionary has. -/
def sendMessage (reply : TelegramReply) : Except SendError Unit :=
  if feed.telegramBotToken.getD "" = "" then .error .telegram
  else match reply with
    | .unreachable => .error .telegram
    | .broken => .error .other
    | .answered status body =>
        if status ≠ 200 then .error (if body = .other then .other else .telegram)
        else match body with
          | .dictionary true => .ok ()
          | .dictionary false => .error .telegram
          | .unreadable | .other => .error .other

/-- `notify_activity`: whether the line went, or an exception nobody catches. -/
def notifyActivity (reply : TelegramReply) : Except Unit Bool :=
  if feed.chatId = none then .ok false
  else match feed.sendMessage reply with
    | .ok () => .ok true
    | .error .telegram => .ok false
    | .error .other => .error ()

end ActivityFeed

/-! ## The double charge check -/

/-- What `alert_discrete` is called with. -/
structure Alert where
  summary : String
  detail : String
deriving DecidableEq

/-- Another settled payment for what looks like the same sale: one that carries the same
reference in the same store. -/
def findDoubleCharge (tables : Tables) (paymentId : ℕ) (payment : Payment) :
    Option (ℕ × Payment) :=
  match payment.referenceId.filter (· ≠ "") with
  | none => none
  | some reference => (tables.payments.select fun key other =>
      decide (other.storeId = payment.storeId) &&
        decide (other.referenceId = some reference) &&
        decide (other.status = .paid) && decide (key ≠ paymentId)).head?

/-- The alert about two payments. How Python quotes the reference is left to the caller. -/
def doubleChargeAlert (repr : String → String) (other payment : Payment) (store : Store) :
    Alert where
  summary := "double charge suspected"
  detail := "two settled payments share reference_id " ++ repr (payment.referenceId.getD "") ++
    " on store " ++ store.publicId ++ ": " ++ other.publicId ++ " and " ++ payment.publicId ++
    ". One sale appears to have been charged twice — a refund is likely owed."

def alertIfDoubleCharged (repr : String → String) (tables : Tables) (paymentId : ℕ)
    (payment : Payment) (store : Store) : Option Alert :=
  (findDoubleCharge tables paymentId payment).map fun other =>
    doubleChargeAlert repr other.2 payment store

/-- The alert an operation raises once it has committed. Only a settlement looks for one, and
only when posting it raised nothing. -/
def raisedAlert (repr : String → String) (feed : ActivityFeed) (settings : Settings)
    (world : World) (input : Timed) (reply : TelegramReply) : Option Alert :=
  match step settings world input, feed.notifyActivity reply with
  | (after, .ok (.settled (some paymentId))), .ok _ => do
      let payment ← after.db.tables.payments.get? paymentId
      let store ← after.db.tables.stores.get? payment.storeId
      alertIfDoubleCharged repr after.db.tables paymentId payment store
  | _, _ => none

end ChmabaPay
