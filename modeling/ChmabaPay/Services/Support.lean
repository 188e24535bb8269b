import ChmabaPay.Auth
import ChmabaPay.Foundation.UnitOfWork
import Mathlib.Data.Prod.Lex

/-! # Support requests

A merchant opens a request, both sides reply, and either closes it. The queue class is
copied from the plan when the request is opened. The first reply of an operator stops the
response clock, which a reply of the merchant does not touch.
-/

namespace ChmabaPay

open Calendar Relational

/-- `SUPPORT_STATUSES`. -/
inductive SupportStatus where
  | opened
  | pending
  | resolved
deriving DecidableEq

/-- `SUPPORT_PRIORITIES`. -/
inductive SupportPriority where
  | standard
  | high
deriving DecidableEq

/-- `SUPPORT_AUTHOR_MERCHANT`, `SUPPORT_AUTHOR_OPERATOR`. -/
inductive SupportAuthor where
  | merchant
  | operator
deriving DecidableEq

/-- `SUPPORT_CATEGORIES`. -/
inductive SupportCategory where
  | billing
  | payment
  | integration
  | account
  | other
deriving DecidableEq

structure SupportRequest where
  publicId : String
  accountId : ℕ
  subject : String
  category : SupportCategory
  status : SupportStatus
  priority : SupportPriority
  assignedAdminAccountId : Option ℕ := none
  firstResponseAt : Option Instant := none
  resolvedAt : Option Instant := none
  createdAt : Instant
  updatedAt : Instant
deriving DecidableEq

instance : Columns SupportRequest where
  write loaded edited current :=
    { publicId := assign loaded.publicId edited.publicId current.publicId
      accountId := assign loaded.accountId edited.accountId current.accountId
      subject := assign loaded.subject edited.subject current.subject
      category := assign loaded.category edited.category current.category
      status := assign loaded.status edited.status current.status
      priority := assign loaded.priority edited.priority current.priority
      assignedAdminAccountId := assign loaded.assignedAdminAccountId
        edited.assignedAdminAccountId current.assignedAdminAccountId
      firstResponseAt := assign loaded.firstResponseAt edited.firstResponseAt
        current.firstResponseAt
      resolvedAt := assign loaded.resolvedAt edited.resolvedAt current.resolvedAt
      createdAt := assign loaded.createdAt edited.createdAt current.createdAt
      updatedAt := assign loaded.updatedAt edited.updatedAt current.updatedAt }
  write_loaded loaded edited := by simp

structure SupportMessage where
  requestId : ℕ
  authorAccountId : ℕ
  authorKind : SupportAuthor
  body : String
  createdAt : Instant
deriving DecidableEq

/-- What the console's routes write to the audit log. -/
inductive SupportAudit where
  | replied (actorId requestId accountId : ℕ)
  | assigned (actorId requestId : ℕ) (before after : Option ℕ)
  | statusChanged (actorId requestId : ℕ) (before after : SupportStatus)
deriving DecidableEq

/-- The platform with its support threads. A plan has priority support or not. -/
structure SupportDesk where
  clock : Instant
  workspace : Workspace
  prioritySupport : ℕ → Bool
  requests : Table SupportRequest
  messages : Table SupportMessage
  audit : List SupportAudit

/-! ## What the plan promises -/

/-- `PRIORITY_RESPONSE_TARGET_HOURS`. -/
def priorityResponseTargetHours : ℕ := 24

/-- Whether each plan in force of an account has priority support. -/
def supportPlans (desk : SupportDesk) (accountId : ℕ) : List Bool :=
  ((subscriptionPlans desk.workspace.tables).filter fun row =>
    decide (row.2.1.accountId = accountId) && row.2.1.isLive).map fun row =>
      desk.prioritySupport row.2.1.planId

/-- The queue class of a request that is opened now. -/
def priorityForAccount (desk : SupportDesk) (accountId : ℕ) : Except Failure SupportPriority := do
  let plan ← oneOrNone (supportPlans desk accountId)
  return if plan = some true then .high else .standard

/-- The target of a plan, in hours. -/
def responseTargetHours (prioritySupport : Bool) : Option ℕ :=
  if prioritySupport then some priorityResponseTargetHours else none

/-- The target of an account: that of the last of its plans in force. -/
def targetHoursForAccount (desk : SupportDesk) (accountId : ℕ) : Option ℕ :=
  (supportPlans desk accountId).getLast?.bind responseTargetHours

/-- Whether an unanswered request is past its target. -/
def targetBreached (request : SupportRequest) (hours : Option ℕ) (now : Instant) : Bool :=
  match hours with
  | none => false
  | some hours =>
      request.firstResponseAt.isNone && decide (seconds (hours * 3600) < now - request.createdAt)

/-! ## Threads -/

/-- A text of a message, as the bodies of the routes limit it. -/
structure SupportText where
  text : String
  length : 1 ≤ text.length ∧ text.length ≤ 8000

structure SupportRequestCreate where
  subject : String
  category : SupportCategory := .other
  body : SupportText
  subjectLength : 1 ≤ subject.length ∧ subject.length ≤ 200

/-- The request and its first message, as the flushes store them. -/
def openRequest (desk : SupportDesk) (accountId : ℕ) (publicId : String)
    (priority : SupportPriority) (body : SupportRequestCreate) (stored : Instant) :
    SupportDesk :=
  { desk with
    requests := desk.requests.insert
      { publicId := publicId
        accountId := accountId
        subject := body.subject
        category := body.category
        status := .opened
        priority := priority
        createdAt := desk.clock
        updatedAt := desk.clock }
    messages := desk.messages.insert
      { requestId := desk.requests.next
        authorAccountId := accountId
        authorKind := .merchant
        body := body.body.text
        createdAt := stored } }

/-- What a reply of an operator changes in the header. -/
def SupportRequest.recordOperatorReply (now : Instant) (request : SupportRequest) :
    SupportRequest :=
  { request with
    firstResponseAt := if request.firstResponseAt = none then some now else request.firstResponseAt
    status := if request.status = .opened then .pending else request.status
    updatedAt := now }

/-- What a reply of the merchant changes in the header. -/
def SupportRequest.recordMerchantReply (now : Instant) (request : SupportRequest) :
    SupportRequest :=
  { request with
    status := if request.status = .pending then .opened else request.status
    updatedAt := now }

/-- `resolve_request`. -/
def SupportRequest.resolve (resolvedAt : Instant) (request : SupportRequest) : SupportRequest :=
  { request with status := .resolved, resolvedAt := some resolvedAt, updatedAt := resolvedAt }

/-- `load_messages`: a thread in the order of its keys. -/
def loadMessages (desk : SupportDesk) (requestId : ℕ) : List (ℕ × SupportMessage) :=
  desk.messages.select fun _ message => decide (message.requestId = requestId)

/-! ## The queue -/

def priorityRank (request : SupportRequest) : ℕ := if request.priority = .high then 1 else 0

/-- What `queue_stmt` orders by: the rank from the top, unanswered before answered, the
oldest first. -/
def SupportRequest.queueKey (request : SupportRequest) : ℕᵒᵈ ×ₗ Bool ×ₗ Instant :=
  toLex (OrderDual.toDual (priorityRank request),
    toLex (request.firstResponseAt.isSome, request.createdAt))

/-- The console's filters, as far as they are given. -/
structure QueueFilter where
  status : Option SupportStatus := none
  priority : Option SupportPriority := none
  accountId : Option ℕ := none
deriving DecidableEq

def QueueFilter.keeps (filter : QueueFilter) (request : SupportRequest) : Bool :=
  (filter.status.all fun status => decide (request.status = status)) &&
    (filter.priority.all fun priority => decide (request.priority = priority)) &&
    filter.accountId.all fun accountId => decide (request.accountId = accountId)

/-- An answer to the queue's query. Requests with equal keys come in either order. -/
structure SupportDesk.Lists (desk : SupportDesk) (filter : QueueFilter)
    (rows : List (ℕ × SupportRequest)) : Prop where
  complete : rows.Perm (desk.requests.select fun _ request => filter.keeps request)
  ordered : rows.Pairwise fun first second => first.2.queueKey ≤ second.2.queueKey

end ChmabaPay
