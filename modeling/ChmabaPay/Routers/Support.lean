import ChmabaPay.Foundation.Interleaving
import ChmabaPay.Routers.Accounts
import ChmabaPay.Services.Support

/-! # The support routes

A merchant opens, answers and closes its own threads, an operator answers, assigns and
moves any thread. A request is admitted first, then its thread is loaded, and what it
changed is written with its commit. Other requests come in between.
-/

namespace ChmabaPay

open Calendar Relational

/-- The session an operator's request is made with. -/
structure Operator where
  accountId : ℕ
  authMethod : String
deriving DecidableEq

/-- `AdminSupportPatchIn`. An assignee may be sent as null, which unassigns. -/
structure AdminSupportPatch where
  status : Option SupportStatus := none
  assignedAdminAccountId : Option (Option ℕ) := none
deriving DecidableEq

/-- A call of the routes. The public id of a new request is drawn with it. -/
inductive SupportCall where
  | openRequest (credentials : Credentials) (publicId : String) (body : SupportRequestCreate)
  | replyToRequest (credentials : Credentials) (publicId : String) (text : SupportText)
  | closeRequest (credentials : Credentials) (publicId : String)
  | replyToSupportRequest (operator : Operator) (publicId : String) (text : SupportText)
  | updateSupportRequest (operator : Operator) (publicId : String) (patch : AdminSupportPatch)

/-! ## Who is asking -/

def SupportCall.line : SupportCall → HttpRequest
  | .openRequest _ _ _ => ⟨"POST", "/api/v1/support/requests"⟩
  | .replyToRequest _ publicId _ => ⟨"POST", "/api/v1/support/requests/" ++ publicId ++ "/reply"⟩
  | .closeRequest _ publicId => ⟨"POST", "/api/v1/support/requests/" ++ publicId ++ "/close"⟩
  | .replyToSupportRequest _ publicId _ =>
      ⟨"POST", "/api/v1/admin/support/requests/" ++ publicId ++ "/reply"⟩
  | .updateSupportRequest _ publicId _ =>
      ⟨"PATCH", "/api/v1/admin/support/requests/" ++ publicId⟩

/-- The account behind a call, when it is admitted. -/
def SupportCall.admit (hashKey : List Char → String) (enableDevGateway : Bool)
    (desk : SupportDesk) (call : SupportCall) : Except Failure ℕ :=
  match call with
  | .openRequest credentials _ _ | .replyToRequest credentials _ _
  | .closeRequest credentials _ => do
      let ctx ← getCurrentAuthContext hashKey desk.workspace credentials call.line
      return ctx.accountId
  | .replyToSupportRequest operator _ _ | .updateSupportRequest operator _ _ => do
      let _ ← hybridAdminContext enableDevGateway desk.workspace.tables operator.accountId
        operator.authMethod call.line
      return operator.accountId

/-! ## The thread a call is about -/

/-- `_load_request`: a thread of another account is as one that does not exist. -/
def loadRequest (desk : SupportDesk) (accountId : ℕ) (publicId : String) :
    Except Failure (ℕ × SupportRequest) := do
  let found ← oneOrNone <| desk.requests.select fun _ request =>
    decide (request.accountId = accountId) && decide (request.publicId = publicId)
  match found with
  | none => .error (.http 404 "support_request_not_found")
  | some row => .ok row

/-- `_load_support_ticket`. -/
def loadSupportTicket (desk : SupportDesk) (publicId : String) :
    Except Failure (ℕ × SupportRequest) := do
  let found ← oneOrNone <| desk.requests.select fun _ request =>
    decide (request.publicId = publicId)
  match found with
  | none => .error (.http 404 "support_request_not_found")
  | some row => .ok row

/-! ## What a call changes -/

/-- The assignee a patch changes a request to. -/
def AdminSupportPatch.newAssignee (patch : AdminSupportPatch) (request : SupportRequest) :
    Option (Option ℕ) :=
  patch.assignedAdminAccountId.filter fun assignee =>
    decide (assignee ≠ request.assignedAdminAccountId)

/-- The status a patch changes a request to. -/
def AdminSupportPatch.newStatus (patch : AdminSupportPatch) (request : SupportRequest) :
    Option SupportStatus :=
  patch.status.filter fun status => decide (status ≠ request.status)

/-- An assignee is a platform admin. -/
def checkAssignee (tables : Tables) (assignee : Option (Option ℕ)) : Except Failure Unit :=
  match assignee with
  | none | some none => .ok ()
  | some (some accountId) =>
      if (tables.accounts.get? accountId).any Account.isPlatformAdmin then .ok ()
      else .error (.http 400 "invalid_assignee")

def SupportRequest.assigned (now : Instant) (patch : AdminSupportPatch)
    (request : SupportRequest) : SupportRequest :=
  match patch.newAssignee request with
  | none => request
  | some assignee => { request with assignedAdminAccountId := assignee, updatedAt := now }

/-- What `update_support_request` changes in the header. -/
def SupportRequest.patched (now : Instant) (patch : AdminSupportPatch)
    (request : SupportRequest) : SupportRequest :=
  match patch.newStatus request with
  | none => request.assigned now patch
  | some .resolved => (request.assigned now patch).resolve now
  | some status =>
      { request.assigned now patch with
        status := status, resolvedAt := none, updatedAt := now }

/-- A change to a thread that a session has yet to write, with the clock as the session
read it. -/
inductive SupportChange where
  | recordMerchantReply (now : Instant) (accountId : ℕ) (text : SupportText)
  | recordOperatorReply (now : Instant) (accountId : ℕ) (text : SupportText)
  | resolve (now : Instant)
  | update (now : Instant) (actorId : ℕ) (patch : AdminSupportPatch)

/-- The header as the session holds it. -/
def SupportChange.edit (change : SupportChange) (loaded : SupportRequest) : SupportRequest :=
  match change with
  | .recordMerchantReply now _ _ => loaded.recordMerchantReply now
  | .recordOperatorReply now _ _ => loaded.recordOperatorReply now
  | .resolve now => loaded.resolve now
  | .update now _ patch => loaded.patched now patch

/-- The message the session adds to the thread. -/
def SupportChange.message (change : SupportChange) (requestId : ℕ) (stored : Instant) :
    Option SupportMessage :=
  match change with
  | .recordMerchantReply _ accountId text =>
      some ⟨requestId, accountId, .merchant, text.text, stored⟩
  | .recordOperatorReply _ accountId text =>
      some ⟨requestId, accountId, .operator, text.text, stored⟩
  | .resolve _ | .update _ _ _ => none

def SupportChange.audit (change : SupportChange) (requestId : ℕ) (loaded : SupportRequest) :
    List SupportAudit :=
  match change with
  | .recordMerchantReply _ _ _ | .resolve _ => []
  | .recordOperatorReply _ accountId _ => [.replied accountId requestId loaded.accountId]
  | .update _ actorId patch =>
      ((patch.newAssignee loaded).map fun assignee =>
          SupportAudit.assigned actorId requestId loaded.assignedAdminAccountId assignee).toList ++
        ((patch.newStatus loaded).map fun status =>
          SupportAudit.statusChanged actorId requestId loaded.status status).toList

/-! ## A request in its parts -/

inductive SupportPhase where
  | asked (call : SupportCall)
  | admitted (actorId : ℕ) (call : SupportCall)
  | opening (accountId : ℕ) (publicId : String) (priority : SupportPriority)
      (body : SupportRequestCreate)
  | assigning (now : Instant) (actorId requestId : ℕ) (loaded : SupportRequest)
      (patch : AdminSupportPatch)
  | writing (requestId : ℕ) (loaded : SupportRequest) (change : SupportChange)
  | elsewhere (workspace : Workspace) (prioritySupport : ℕ → Bool)
  | ended (answer : Except Failure ℕ)

/-- What a session on the desk is opened for. The rest of the platform may change
anything but the threads. -/
inductive DeskRequest where
  | support (call : SupportCall)
  | elsewhere (workspace : Workspace) (prioritySupport : ℕ → Bool)

def DeskRequest.start : DeskRequest → SupportPhase
  | .support call => .asked call
  | .elsewhere workspace prioritySupport => .elsewhere workspace prioritySupport

/-- The thread a call is about, with what the call will write to it. -/
def SupportCall.load (desk : SupportDesk) (actorId : ℕ) : SupportCall → Except Failure SupportPhase
  | .openRequest _ publicId body => do
      let priority ← priorityForAccount desk actorId
      return .opening actorId publicId priority body
  | .replyToRequest _ publicId text => do
      let (requestId, request) ← loadRequest desk actorId publicId
      return .writing requestId request (.recordMerchantReply desk.clock actorId text)
  | .closeRequest _ publicId => do
      let (requestId, request) ← loadRequest desk actorId publicId
      return if request.status = .resolved then .ended (.ok requestId)
        else .writing requestId request (.resolve desk.clock)
  | .replyToSupportRequest _ publicId text => do
      let (requestId, request) ← loadSupportTicket desk publicId
      return .writing requestId request (.recordOperatorReply desk.clock actorId text)
  | .updateSupportRequest _ publicId patch => do
      let (requestId, request) ← loadSupportTicket desk publicId
      return .assigning desk.clock actorId requestId request patch

/-- A patch that changes nothing is answered without a commit. -/
def admitPatch (desk : SupportDesk) (now : Instant) (actorId requestId : ℕ)
    (loaded : SupportRequest) (patch : AdminSupportPatch) : Except Failure SupportPhase := do
  checkAssignee desk.workspace.tables (patch.newAssignee loaded)
  return if patch.newAssignee loaded = none ∧ patch.newStatus loaded = none then
      .ended (.ok requestId)
    else .writing requestId loaded (.update now actorId patch)

/-- The flush and the commit of a changed thread. -/
def SupportDesk.commit (desk : SupportDesk) (requestId : ℕ) (loaded : SupportRequest)
    (change : SupportChange) : SupportDesk :=
  { desk with
    requests := desk.requests.update requestId (Columns.write loaded (change.edit loaded))
    messages := (change.message requestId desk.clock).elim desk.messages desk.messages.insert
    audit := desk.audit ++ change.audit requestId loaded }

/-- What a part reads from outside: the time since the part before it, and the time
between the two flushes of an opening. -/
structure DeskReading where
  elapsed : ℕ
  lag : ℕ := 0
deriving DecidableEq

/-- A failure ends a request. -/
def SupportPhase.orEnded : Except Failure SupportPhase → SupportPhase
  | .error failure => .ended (.error failure)
  | .ok phase => phase

/-- The next part of a request, at the desk's own time. -/
def SupportPhase.perform (hashKey : List Char → String) (enableDevGateway : Bool) (lag : ℕ)
    (desk : SupportDesk) : SupportPhase → SupportDesk × SupportPhase
  | .asked call =>
      (desk, orEnded (( call.admit hashKey enableDevGateway desk).map fun actorId =>
        .admitted actorId call))
  | .admitted actorId call => (desk, orEnded (call.load desk actorId))
  | .opening accountId publicId priority body =>
      -- the unique index on the public id
      if (desk.requests.find? fun _ request => decide (request.publicId = publicId)).isSome then
        (desk, .ended (.error .integrity))
      else
        ({ openRequest desk accountId publicId priority body (desk.clock + lag) with
            clock := desk.clock + lag },
          .ended (.ok desk.requests.next))
  | .assigning now actorId requestId loaded patch =>
      (desk, orEnded (admitPatch desk now actorId requestId loaded patch))
  | .writing requestId loaded change =>
      (desk.commit requestId loaded change, .ended (.ok requestId))
  | .elsewhere workspace prioritySupport =>
      ({ desk with workspace := workspace, prioritySupport := prioritySupport }, .ended (.ok 0))
  | .ended answer => (desk, .ended answer)

def SupportPhase.advance (hashKey : List Char → String) (enableDevGateway : Bool)
    (desk : SupportDesk) (reading : DeskReading) (phase : SupportPhase) :
    SupportDesk × SupportPhase :=
  phase.perform hashKey enableDevGateway reading.lag
    { desk with clock := desk.clock + reading.elapsed }

/-- Merchants and operators on one desk. -/
def supportDesk (hashKey : List Char → String) (enableDevGateway : Bool) :
    Interleaving.Machine SupportDesk SupportPhase DeskRequest DeskReading where
  start := DeskRequest.start
  advance := SupportPhase.advance hashKey enableDevGateway

/-- A desk nobody has written to, and no request under way. -/
def SupportDesk.fresh (clock : Instant) (workspace : Workspace) (prioritySupport : ℕ → Bool) :
    SupportDesk :=
  ⟨clock, workspace, prioritySupport, .empty, .empty, []⟩

abbrev SupportPool := Interleaving.Pool SupportDesk SupportPhase

end ChmabaPay
