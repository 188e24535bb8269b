import ChmabaPay.Services.Billing

/-! # What a merchant is told about an unpaid invoice

The dunning clock, as offsets from the due date. The notice endpoint derives the most urgent
state of an account from it, and the reminder worker records the tier of every invoice.
-/

namespace ChmabaPay

open Calendar Relational

/-- The tiers, and what is derived rather than recorded: `issuance` from the invoice and
`frozen` from the account. -/
inductive NoticeState where
  | issuance
  | due3
  | due1
  | dueToday
  | overdue1
  | overdue3
  | overdueFinal
  | frozen
deriving DecidableEq

/-- `TIER_OFFSETS`. -/
def tierOffsets : List (NoticeState × Int) :=
  [(.due3, days (-3)), (.due1, days (-1)), (.dueToday, days 0), (.overdue1, days 1),
    (.overdue3, days 3), (.overdueFinal, days 6)]

/-- `TIERS`. -/
def tiers : List NoticeState := tierOffsets.map Prod.fst

/-- `NOTICE_ORDER`: ascending urgency. -/
def noticeOrder : List NoticeState := .issuance :: tiers ++ [.frozen]

/-- How loud a state is. -/
inductive NoticeLevel where
  | info
  | warning
  | critical
deriving DecidableEq

/-- `NOTICE_LEVELS`. -/
def NoticeState.level : NoticeState → NoticeLevel
  | .issuance | .due3 | .due1 => .info
  | .dueToday | .overdue1 | .overdue3 => .warning
  | .overdueFinal | .frozen => .critical

/-- What the merchant is owed for this invoice right now: the last tier whose offset has
passed, or none for silence. -/
def derivedState (account : Option Account) (invoice : PlanInvoice) (now : Instant) :
    Option NoticeState :=
  match account with
  | none => none
  | some account =>
      if invoice.isUnpaid = false then none
      else if account.status = .suspended then none
      else if account.status = .restricted then some .frozen
      else match invoice.dueAt with
        | none => none
        | some dueAt =>
            some <| tierOffsets.foldl (fun state tier =>
              if dueAt + tier.2 ≤ now then tier.1 else state) .issuance

/-! ## The copy -/

/-- How amounts and days are written for the merchant. -/
structure Wording where
  money : Int → String
  localDate : Instant → String

def Wording.date (wording : Wording) (moment : Option Instant) : String :=
  (moment.map wording.localDate).getD ""

/-- `_period_window`. -/
def Wording.periodWindow (wording : Wording) (periodStart periodEnd : Option Instant) : String :=
  match periodStart, periodEnd with
  | some start, some finish =>
      " for " ++ wording.localDate start ++ " – " ++ wording.localDate finish
  | _, _ => ""

/-- `billing_notice`: title, body and the label of the action. -/
def billingNotice (wording : Wording) (state : NoticeState) (planName : Option String)
    (amountCents : Option Int) (dueAt periodStart periodEnd freezeAt : Option Instant) :
    String × String × String :=
  let plan := (planName.filter (· ≠ "")).getD "your plan"
  let amount := (amountCents.map wording.money).getD "None"
  let due := wording.date dueAt
  let window := wording.periodWindow periodStart periodEnd
  match state with
  | .issuance =>
      ("Your " ++ plan ++ " plan renews on " ++ due,
        amount ++ window ++ ". Pay any time before then.", "Pay now")
  | .due3 =>
      ("Your " ++ plan ++ " plan renews in 3 days",
        amount ++ window ++ ". Pay any time before " ++ due ++ ".", "Pay now")
  | .due1 =>
      ("Your " ++ plan ++ " plan renews tomorrow", amount ++ window ++ ".", "Pay now")
  | .dueToday =>
      ("Your " ++ plan ++ " plan is due today", "Pay today to keep " ++ plan ++ " active.",
        "Pay now")
  | .overdue1 =>
      ("Your payment is overdue",
        "Your plan is still active. Settle " ++ amount ++ " to avoid an interruption.", "Pay now")
  | .overdue3 =>
      ("Your payment is 3 days overdue",
        plan ++ " is still active. On " ++ wording.date freezeAt ++
          " your account will be frozen and your stores will stop generating payment codes.",
        "Pay now")
  | .overdueFinal =>
      ("Your account will be frozen tomorrow",
        "Pay " ++ amount ++ " today. From tomorrow your stores cannot generate new payment " ++
          "codes and the dashboard becomes read-only, until the invoice is settled or you " ++
          "move to a plan you can afford.",
        "Pay now")
  | .frozen =>
      let kept := "Your data is untouched either way."
      let body :=
        if amountCents.isNone then
          "New payment codes are stopped and the dashboard is read-only. Contact support if " ++
            "you believe this is a mistake. " ++ kept
        else
          "New payment codes are stopped and the dashboard is read-only. Settle " ++ amount ++
            ", or move to a plan you can afford — both are one tap. " ++ kept
      ("Your account is on hold", body, "Resolve billing")

/-! ## The notice -/

structure Notice where
  state : NoticeState
  level : NoticeLevel
  title : String
  body : String
  invoiceId : Option ℕ
  periodLabel : Option String
  amountCents : Option Int
  amountFormatted : Option String
  dueAt : Option Instant
  daysUntilDue : Option Int
  actionLabel : String
  actionUrl : String
  dismissible : Bool
deriving DecidableEq

/-- `_render_notice`. -/
def renderNotice (settings : Settings) (wording : Wording) (state : NoticeState)
    (invoice : Option (ℕ × PlanInvoice)) (plan : Option Plan) (moment : Instant) : Notice :=
  let dueAt := invoice.bind (·.2.dueAt)
  let amountCents := invoice.map (·.2.totalDueCents)
  let copy := billingNotice wording state (plan.map (·.name)) amountCents dueAt
    (invoice.bind (·.2.periodStart)) (invoice.bind (·.2.periodEnd))
    (dueAt.map (· + gracePeriod settings))
  { state := state
    level := state.level
    title := copy.1
    body := copy.2.1
    invoiceId := invoice.map Prod.fst
    periodLabel := invoice.map (·.2.periodMonth)
    amountCents := amountCents
    amountFormatted := amountCents.map wording.money
    dueAt := dueAt
    daysUntilDue := dueAt.map fun dueAt => (dueAt - moment) / days 1
    actionLabel := copy.2.2
    actionUrl := match invoice with
      | some (invoiceId, _) => "/dashboard/billing?pay=" ++ toString invoiceId
      | none => "/dashboard/billing"
    dismissible := decide (state.level = .info) }

/-- `_notice_rank`: the more advanced state first, then the older debt. -/
def noticeRank (notice : Notice) : ℕ × Int :=
  (noticeOrder.idxOf notice.state, -(notice.daysUntilDue.getD 0))

/-- How Python compares two pairs. -/
def outranks (first second : ℕ × Int) : Bool :=
  decide (second.1 < first.1) || (decide (first.1 = second.1) && decide (second.2 < first.2))

/-- The unpaid invoices of an account with a due date, on subscriptions in force, with their
plan, earliest due date first. -/
def noticeRows (tables : Tables) (accountId : ℕ) : List (Instant × ℕ × PlanInvoice × Plan) :=
  let rows := tables.invoices.rows.filterMap fun row => do
    let dueAt ← row.2.dueAt
    let subscription ← row.2.subscriptionId.bind tables.subscriptions.get?
    let plan ← tables.plans.get? subscription.planId
    if decide (row.2.accountId = accountId) && row.2.isUnpaid && subscription.isLive
    then some (dueAt, row.1, row.2, plan) else none
  rows.insertionSort fun first second => first.1 ≤ second.1

/-- One invoice of the loop: it replaces the best notice so far if it outranks it. -/
def betterNotice (settings : Settings) (wording : Wording) (account : Account) (now : Instant)
    (best : Option Notice) (row : Instant × ℕ × PlanInvoice × Plan) : Option Notice :=
  match derivedState (some account) row.2.2.1 now with
  | none => best
  | some state =>
      let notice := renderNotice settings wording state (some (row.2.1, row.2.2.1))
        (some row.2.2.2) now
      match best with
      | none => some notice
      | some kept => if outranks (noticeRank notice) (noticeRank kept) then some notice else best

/-- At most one notice: the most urgent thing this merchant is owed. -/
def deriveNotices (settings : Settings) (wording : Wording) (now : Instant) (tables : Tables)
    (accountId : ℕ) (account : Account) : List Notice :=
  let rows := noticeRows tables accountId
  if account.status = .restricted then
    let first := rows.head?
    [renderNotice settings wording .frozen (first.map fun row => (row.2.1, row.2.2.1))
      (first.map fun row => row.2.2.2) now]
  else (rows.foldl (betterNotice settings wording account now) none).toList

/-! ## The reminders -/

inductive Channel where
  | inApp
  | email
deriving DecidableEq

/-- A row of `plan_invoice_reminders`: what the merchant was told, and when. -/
structure Reminder where
  invoiceId : ℕ
  tier : NoticeState
  channel : Channel
  sentAt : Instant
deriving DecidableEq

def findReminder (reminders : List Reminder) (invoiceId : ℕ) (tier : NoticeState)
    (channel : Channel) : Option Reminder :=
  reminders.find? fun row =>
    decide (row.invoiceId = invoiceId) && decide (row.tier = tier) &&
      decide (row.channel = channel)

/-- What a sweep of the reminders counted. -/
structure ReminderSummary where
  recorded : ℕ := 0
  silent : ℕ := 0
deriving DecidableEq

/-- One invoice of the sweep. -/
def recordReminder (now : Instant) (sweep : ReminderSummary × List Reminder)
    (row : ℕ × PlanInvoice × Account) : ReminderSummary × List Reminder :=
  let silent := ({ sweep.1 with silent := sweep.1.silent + 1 }, sweep.2)
  match derivedState (some row.2.2) row.2.1 now with
  | none => silent
  | some state =>
      if state ∉ tiers then silent
      else match findReminder sweep.2 row.1 state .inApp with
        | some _ => silent
        | none =>
            ({ sweep.1 with recorded := sweep.1.recorded + 1 },
              sweep.2 ++ [{ invoiceId := row.1, tier := state, channel := .inApp, sentAt := now }])

/-- `record_due_reminders`, up to its first commit: the tier each unpaid invoice has reached. -/
def recordDueReminders (now : Instant) (tables : Tables) (reminders : List Reminder)
    (limit : ℕ) : ReminderSummary × List Reminder :=
  ((unpaidInvoiceQuery tables false).take limit).foldl (recordReminder now) ({}, reminders)

end ChmabaPay
