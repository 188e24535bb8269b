import ChmabaPay.Workers.DetectionJobs

/-! # The alert watcher

`AlertWatcher` asks on a timer what is wrong, and sends one message when a condition starts
and one when it clears. The conditions come from four places: the heartbeats of the drain
loops, the queue metrics, the share of webhook deliveries that failed, and a probe it is given.
The last two may raise. Whether a message is delivered is left to the notifier.
-/

namespace ChmabaPay

open Calendar

/-- Something that is wrong right now. -/
structure Condition where
  key : String
  summary : String
  detail : String
  impact : String := ""
deriving DecidableEq

/-- A condition that is true, and since when. -/
structure Firing where
  condition : Condition
  since : Instant
deriving DecidableEq

/-- What is firing, in the order it began. -/
abbrev FiringTable := List (String × Firing)

/-- What the notifier is handed, with the moment of its text. -/
inductive ConditionMessage where
  | raised (condition : Condition) (since : Instant)
  | resolved (firing : Firing) (moment : Instant)
deriving DecidableEq

/-! ## Vocabulary -/

def webhookQueue : String := "webhooks.send"

/-- The queues with their names in words and what stops while they do not drain. -/
def queueVocabulary : List (String × String × String) :=
  [("payments.detection", "Payment detection",
      "payments that have already been made may never be marked as paid"),
    (webhookQueue, "Webhook delivery", "merchants are not being told about payments"),
    ("billing.invoices", "Plan invoicing",
      "plan invoices are not being raised, so the platform is not billing"),
    ("payments.expiry", "Payment expiry sweep", "unpaid payment codes are not being expired"),
    ("payments.retention", "Retention sweep", "old data is not being pruned"),
    ("billing.lifecycle", "Billing lifecycle",
      "billing reminders and account freezes are not running")]

def queueName (queue : String) : String :=
  ((queueVocabulary.lookup queue).map Prod.fst).getD queue

def queueLabel (queue : String) : String :=
  match queueVocabulary.lookup queue with
  | some (name, _) => name ++ " (" ++ queue ++ ")"
  | none => queue

def queueImpact (queue : String) : String :=
  ((queueVocabulary.lookup queue).map Prod.snd).getD "work on this queue is not being processed"

/-- A duration in the units a person thinks in. -/
def formatElapsed (seconds : ℚ) : String :=
  let total := (Doubles.halfEven seconds).toNat
  let (minutes, secs) := (total / 60, total % 60)
  let (hours, mins) := (minutes / 60, minutes % 60)
  if total < 60 then toString total ++ "s"
  else if minutes < 60 then
    if secs ≠ 0 then toString minutes ++ "m " ++ padded 2 secs ++ "s" else toString minutes ++ "m"
  else if mins ≠ 0 then toString hours ++ "h " ++ padded 2 mins ++ "m" else toString hours ++ "h"

/-- `f"{share:.0%}"`. -/
def formatPercent (share : ℚ) : String := toString (Doubles.halfEven (share * 100)) ++ "%"

/-! ## Conditions -/

structure AlertWatcher where
  queues : List String
  stallSeconds : ℚ
  backlogThreshold : ℤ
  /-- The share of failed deliveries is measured. -/
  measuresDeliveries : Bool := false
  /-- A probe is given. -/
  hasProbe : Bool := false
  failureRate : ℚ := 1 / 10
  failureWindowSeconds : ℚ := 900
  failureMinSample : ℤ := 20

/-- What one check is told: the monotonic clock, the last heartbeat of each loop, the counters
of each queue, failed and all deliveries, and the conditions of the probe. The last two are
missing when they raise. `moment` is the wall clock. -/
structure WatchReading where
  now : ℚ
  heartbeats : String → Option ℚ
  metrics : String → Option (String → Option ℤ)
  outcomes : Option (ℤ × ℤ)
  probed : Option (List Condition)
  moment : Instant

def stalledKey (queue : String) : String := "worker_stalled:" ++ queue

def backlogKey : String := "webhook_backlog"

def failureRateKey : String := "webhook_failure_rate"

def neverStarted (queue : String) : Condition where
  key := stalledKey queue
  summary := "worker never started — " ++ queueName queue
  detail := "Nothing has ever been picked up on " ++ queueLabel queue ++ ". A drain loop that " ++
    "never started is the most urgent case there is: no job on this queue has been processed " ++
    "since the worker came up."
  impact := queueImpact queue

def stalled (queue : String) (age : ℚ) : Condition where
  key := stalledKey queue
  summary := "worker stalled — " ++ queueName queue
  detail := "No job has been picked up on " ++ queueLabel queue ++ " for " ++ formatElapsed age ++
    ". A healthy loop asks several times a second, so this is a loop that has stopped, not one " ++
    "that is busy."
  impact := queueImpact queue

def backingUp (backlog threshold : ℤ) : Condition where
  key := backlogKey
  summary := "webhook backlog"
  detail := toString backlog ++ " deliveries waiting on " ++ webhookQueue ++ " (alert threshold " ++
    toString threshold ++ "). More is being queued than is being sent, so the queue is growing."
  impact := queueImpact webhookQueue

def failingDeliveries (watcher : AlertWatcher) (failed total : ℤ) : Condition where
  key := failureRateKey
  summary := "webhooks failing"
  detail := toString failed ++ " of " ++ toString total ++ " delivery attempts failed in the " ++
    "last " ++ toString (Doubles.halfEven (watcher.failureWindowSeconds / 60)) ++ " min (" ++
    formatPercent (failed / total) ++ ", alert threshold " ++ formatPercent watcher.failureRate ++
    "). The queue is moving, so the backlog alert cannot see this: every delivery is being " ++
    "attempted, and failing."
  impact := "merchants' systems are missing payments"

namespace AlertWatcher

/-- The condition of a drain loop. -/
def loopCondition (watcher : AlertWatcher) (reading : WatchReading) (queue : String) :
    Option Condition :=
  match reading.heartbeats queue with
  | none => some (neverStarted queue)
  | some last =>
      let age := reading.now - last
      if watcher.stallSeconds < age then some (stalled queue age) else none

def backlog (reading : WatchReading) : ℤ :=
  (((reading.metrics webhookQueue).getD fun _ => none) "pending").getD 0

def backlogCondition (watcher : AlertWatcher) (reading : WatchReading) : Option Condition :=
  if watcher.backlogThreshold < backlog reading then
    some (backingUp (backlog reading) watcher.backlogThreshold)
  else none

/-- The failure rate of the deliveries. A measurement that raised leaves the last verdict; a
share of no deliveries raises where nobody catches it. -/
def rateCondition (watcher : AlertWatcher) (firing : FiringTable) (reading : WatchReading) :
    Except String (Option Condition) :=
  if watcher.measuresDeliveries = false then .ok none
  else match reading.outcomes with
  | none => .ok ((firing.lookup failureRateKey).map Firing.condition)
  | some (failed, total) =>
      if total < watcher.failureMinSample then .ok none
      else if total = 0 then .error "division by zero"
      else if watcher.failureRate < failed / total then
        .ok (some (failingDeliveries watcher failed total))
      else .ok none

/-- What the probe adds to the conditions found so far. When it raises, whatever fires goes on
unless it was found anew. -/
def probeConditions (watcher : AlertWatcher) (firing : FiringTable) (reading : WatchReading)
    (found : List Condition) : List Condition :=
  if watcher.hasProbe = false then []
  else match reading.probed with
  | some conditions => conditions
  | none =>
      let fresh := found.map Condition.key
      (firing.map fun entry => entry.2.condition).filter fun condition => condition.key ∉ fresh

/-- Every condition true right now. -/
def evaluate (watcher : AlertWatcher) (firing : FiringTable) (reading : WatchReading) :
    Except String (List Condition) := do
  let loops := watcher.queues.filterMap (watcher.loopCondition reading)
  let rate ← watcher.rateCondition firing reading
  let found := loops ++ (watcher.backlogCondition reading).toList ++ rate.toList
  return found ++ watcher.probeConditions firing reading found

end AlertWatcher

/-! ## Reports -/

/-- A condition that holds: what fires already takes the newest reading, and what does not
begins with a message. -/
def FiringTable.observe (moment : Instant) (state : FiringTable × List ConditionMessage)
    (condition : Condition) : FiringTable × List ConditionMessage :=
  match state.1.lookup condition.key with
  | some _ =>
      (state.1.map fun entry =>
        if entry.1 = condition.key then (entry.1, { entry.2 with condition := condition })
        else entry, state.2)
  | none =>
      (state.1 ++ [(condition.key, ⟨condition, moment⟩)], state.2 ++ [.raised condition moment])

/-- What fires and holds no longer ends with a message. -/
def FiringTable.resolve (moment : Instant) (active : List String)
    (state : FiringTable × List ConditionMessage) : FiringTable × List ConditionMessage :=
  (state.1.filter fun entry => entry.1 ∈ active,
    state.2 ++ (state.1.filter fun entry => entry.1 ∉ active).map fun entry =>
      .resolved entry.2 moment)

/-- Evaluate, and report the edges since the last call. -/
def AlertWatcher.checkOnce (watcher : AlertWatcher) (firing : FiringTable)
    (reading : WatchReading) : Except String (FiringTable × List ConditionMessage) := do
  let conditions ← watcher.evaluate firing reading
  let observed := conditions.foldl (FiringTable.observe reading.moment) (firing, [])
  return FiringTable.resolve reading.moment (conditions.map Condition.key) observed

/-- A check that went through, between what fired before and after it. -/
structure Check where
  before : FiringTable
  reading : WatchReading
  after : FiringTable
  sent : List ConditionMessage

/-- The checks of a watch. One that raises is logged, and leaves everything as it was. -/
def AlertWatcher.watch (watcher : AlertWatcher) : FiringTable → List WatchReading → List Check
  | _, [] => []
  | firing, reading :: rest =>
      match watcher.checkOnce firing reading with
      | .error _ => AlertWatcher.watch watcher firing rest
      | .ok (after, sent) => ⟨firing, reading, after, sent⟩ :: AlertWatcher.watch watcher after rest

end ChmabaPay
