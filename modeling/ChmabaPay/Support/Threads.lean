import ChmabaPay.Foundation.Fallible
import ChmabaPay.Payments.Outbox
import ChmabaPay.Routers.Support

/-! # Threads

Whatever sessions are under way on the desk, a thread starts with the text its account
opened it with, its merchant's messages are that account's own, and it counts as answered
exactly when an operator has written to it. A session may write a header it has loaded long
before: what other sessions made of the row in between is then what it writes over.
-/

namespace ChmabaPay

open Calendar Relational Execution Interleaving

/-! ## What a turn does to the desk -/

/-- A later state of the same thread. -/
structure SupportRequest.Continues (before after : SupportRequest) : Prop where
  publicId : after.publicId = before.publicId
  accountId : after.accountId = before.accountId
  subject : after.subject = before.subject
  category : after.category = before.category
  priority : after.priority = before.priority
  createdAt : after.createdAt = before.createdAt
  answered : before.firstResponseAt.isSome → after.firstResponseAt.isSome

section Continues

variable {before middle after : SupportRequest}

theorem SupportRequest.Continues.refl (request : SupportRequest) : request.Continues request :=
  ⟨rfl, rfl, rfl, rfl, rfl, rfl, id⟩

theorem SupportRequest.Continues.trans (hfirst : before.Continues middle)
    (hsecond : middle.Continues after) : before.Continues after :=
  ⟨hsecond.publicId.trans hfirst.publicId, hsecond.accountId.trans hfirst.accountId,
    hsecond.subject.trans hfirst.subject, hsecond.category.trans hfirst.category,
    hsecond.priority.trans hfirst.priority, hsecond.createdAt.trans hfirst.createdAt,
    fun hanswered => hsecond.answered (hfirst.answered hanswered)⟩

end Continues

/-- The instant a change was computed at. -/
def SupportChange.now : SupportChange → Instant
  | .recordMerchantReply now _ _ | .recordOperatorReply now _ _ | .resolve now
  | .update now _ _ => now

/-- The change is an operator's reply. -/
def SupportChange.answers : SupportChange → Bool
  | .recordOperatorReply _ _ _ => true
  | .recordMerchantReply _ _ _ | .resolve _ | .update _ _ _ => false

theorem SupportRequest.assigned_continues (now : Instant) (patch : AdminSupportPatch)
    (request : SupportRequest) :
    request.Continues (request.assigned now patch) ∧
      (request.assigned now patch).firstResponseAt = request.firstResponseAt := by
  unfold assigned
  split
  next => exact ⟨.refl request, rfl⟩
  next => exact ⟨⟨rfl, rfl, rfl, rfl, rfl, rfl, id⟩, rfl⟩

theorem SupportRequest.patched_continues (now : Instant) (patch : AdminSupportPatch)
    (request : SupportRequest) :
    request.Continues (request.patched now patch) ∧
      (request.patched now patch).firstResponseAt = request.firstResponseAt := by
  have hassigned := request.assigned_continues now patch
  unfold patched
  split
  next => exact hassigned
  next => exact ⟨hassigned.1.trans ⟨rfl, rfl, rfl, rfl, rfl, rfl, id⟩, hassigned.2⟩
  next => exact ⟨hassigned.1.trans ⟨rfl, rfl, rfl, rfl, rfl, rfl, id⟩, hassigned.2⟩

/-- What a session makes of the header it holds: only an operator's reply notes a first
response, and only on a header without one. -/
theorem SupportChange.edit_continues (change : SupportChange) (loaded : SupportRequest) :
    loaded.Continues (change.edit loaded) ∧
      (change.edit loaded).firstResponseAt =
        if change.answers = true ∧ loaded.firstResponseAt = none then some change.now
        else loaded.firstResponseAt := by
  cases change with
  | recordMerchantReply now accountId text =>
      exact ⟨⟨rfl, rfl, rfl, rfl, rfl, rfl, id⟩,
        by simp [edit, answers, SupportRequest.recordMerchantReply]⟩
  | recordOperatorReply now accountId text =>
      refine ⟨⟨rfl, rfl, rfl, rfl, rfl, rfl, ?_⟩,
        by simp [edit, answers, SupportRequest.recordOperatorReply, SupportChange.now]⟩
      intro hanswered
      have hfirst : loaded.firstResponseAt ≠ none := Option.isSome_iff_ne_none.mp hanswered
      simpa [edit, SupportRequest.recordOperatorReply, hfirst] using hanswered
  | resolve now =>
      exact ⟨⟨rfl, rfl, rfl, rfl, rfl, rfl, id⟩, by simp [edit, answers, SupportRequest.resolve]⟩
  | update now actorId patch =>
      have hpatched := loaded.patched_continues now patch
      exact ⟨hpatched.1, by simpa [edit, answers] using hpatched.2⟩

/-- What the commit makes of the first response of the row as it stands by then. -/
theorem write_firstResponseAt (change : SupportChange) (loaded current : SupportRequest) :
    (Columns.write loaded (change.edit loaded) current).firstResponseAt =
      if change.answers = true ∧ loaded.firstResponseAt = none then some change.now
      else current.firstResponseAt := by
  have hedit := (change.edit_continues loaded).2
  change Relational.assign loaded.firstResponseAt (change.edit loaded).firstResponseAt
    current.firstResponseAt = _
  rw [hedit]
  by_cases hfirst : change.answers = true ∧ loaded.firstResponseAt = none
  · rw [if_pos hfirst, if_pos hfirst, hfirst.2]
    exact assign_of_ne (Option.some_ne_none _) _
  · rw [if_neg hfirst, if_neg hfirst, Relational.assign, if_pos rfl]

/-- A commit continues the thread, whatever was loaded. -/
theorem write_continues (change : SupportChange) (loaded current : SupportRequest) :
    current.Continues (Columns.write loaded (change.edit loaded) current) := by
  have hedit := (change.edit_continues loaded).1
  have hkept : ∀ {β : Type} [DecidableEq β] {before after : β} (now : β), after = before →
      Relational.assign before after now = now := fun now hsame => if_pos hsame
  refine ⟨hkept _ hedit.publicId, hkept _ hedit.accountId, hkept _ hedit.subject,
    hkept _ hedit.category, hkept _ hedit.priority, hkept _ hedit.createdAt, ?_⟩
  intro hanswered
  rw [write_firstResponseAt]
  split
  next => rfl
  next => exact hanswered

/-! ## What a session holds -/

/-- The thread was loaded by a session, and stands somewhere further on now. -/
def SupportDesk.HasLoaded (desk : SupportDesk) (requestId : ℕ) (loaded : SupportRequest) : Prop :=
  ∃ current, desk.requests.get? requestId = some current ∧ loaded.Continues current

/-- A merchant's reply is by the account of the thread. -/
def SupportChange.OwnedBy (accountId : ℕ) : SupportChange → Prop
  | .recordMerchantReply _ author _ => author = accountId
  | .recordOperatorReply _ _ _ | .resolve _ | .update _ _ _ => True

/-- What a session carries to its next part was read from the desk. -/
def SupportPhase.Holds (desk : SupportDesk) : SupportPhase → Prop
  | .assigning now _ requestId loaded _ => now ≤ desk.clock ∧ desk.HasLoaded requestId loaded
  | .writing requestId loaded change =>
      change.now ≤ desk.clock ∧ desk.HasLoaded requestId loaded ∧ change.OwnedBy loaded.accountId
  | _ => True

/-- Threads go on, messages stay and the clock does not go back. -/
structure SupportDesk.Extends (before after : SupportDesk) : Prop where
  clock : before.clock ≤ after.clock
  requests : ∀ requestId request, before.requests.get? requestId = some request →
    ∃ later, after.requests.get? requestId = some later ∧ request.Continues later
  messages : ∀ key message, before.messages.get? key = some message →
    after.messages.get? key = some message

section Extends

variable {before middle after : SupportDesk}

theorem SupportDesk.Extends.refl (desk : SupportDesk) : desk.Extends desk :=
  ⟨le_rfl, fun _ request hget => ⟨request, hget, .refl request⟩, fun _ _ hget => hget⟩

theorem SupportDesk.Extends.trans (hfirst : before.Extends middle)
    (hsecond : middle.Extends after) : before.Extends after := by
  refine ⟨hfirst.clock.trans hsecond.clock, ?_, ?_⟩
  · intro requestId request hget
    obtain ⟨later, hlater, hcontinues⟩ := hfirst.requests requestId request hget
    obtain ⟨last, hlast, hcontinues'⟩ := hsecond.requests requestId later hlater
    exact ⟨last, hlast, hcontinues.trans hcontinues'⟩
  · intro key message hget
    exact hsecond.messages key message (hfirst.messages key message hget)

theorem SupportDesk.HasLoaded.extends {requestId : ℕ} {loaded : SupportRequest}
    (hloaded : before.HasLoaded requestId loaded) (hextends : before.Extends after) :
    after.HasLoaded requestId loaded := by
  obtain ⟨current, hcurrent, hcontinues⟩ := hloaded
  obtain ⟨later, hlater, hcontinues'⟩ := hextends.requests requestId current hcurrent
  exact ⟨later, hlater, hcontinues.trans hcontinues'⟩

/-- What others do leaves a session's reading good. -/
theorem SupportPhase.Holds.extends {phase : SupportPhase} (hholds : phase.Holds before)
    (hextends : before.Extends after) : phase.Holds after := by
  cases phase with
  | assigning now actorId requestId loaded patch =>
      exact ⟨hholds.1.trans hextends.clock, hholds.2.extends hextends⟩
  | writing requestId loaded change =>
      exact ⟨hholds.1.trans hextends.clock, hholds.2.1.extends hextends, hholds.2.2⟩
  | _ => trivial

end Extends

/-! ## One part of a request -/

theorem SupportDesk.extends_wait (desk : SupportDesk) (elapsed : ℕ) :
    desk.Extends { desk with clock := desk.clock + elapsed } :=
  ⟨Int.le_add_of_nonneg_right (Int.natCast_nonneg _), (SupportDesk.Extends.refl desk).requests,
    fun _ _ hget => hget⟩

theorem SupportDesk.extends_openRequest (desk : SupportDesk) (accountId : ℕ) (publicId : String)
    (priority : SupportPriority) (body : SupportRequestCreate) (lag : ℕ) :
    desk.Extends { openRequest desk accountId publicId priority body (desk.clock + lag) with
      clock := desk.clock + lag } := by
  refine ⟨Int.le_add_of_nonneg_right (Int.natCast_nonneg _), ?_, ?_⟩
  · intro requestId request hget
    exact ⟨request, Table.get?_insert_of_some hget, .refl request⟩
  · intro key message hget
    exact Table.get?_insert_of_some hget

theorem SupportDesk.extends_commit (desk : SupportDesk) (requestId : ℕ) (loaded : SupportRequest)
    (change : SupportChange) : desk.Extends (desk.commit requestId loaded change) := by
  refine ⟨le_rfl, ?_, ?_⟩
  · intro other request hget
    by_cases hother : other = requestId
    · refine ⟨_, ?_, write_continues change loaded request⟩
      simp [SupportDesk.commit, hother ▸ hget, hother]
    · refine ⟨request, ?_, .refl request⟩
      simp [SupportDesk.commit, hother, hget]
  · intro key message hget
    unfold SupportDesk.commit
    cases change.message requestId desk.clock with
    | none => exact hget
    | some added => exact Table.get?_insert_of_some hget

section Perform

variable {hashKey : List Char → String} {enableDevGateway : Bool}

theorem SupportPhase.perform_extends (lag : ℕ) (desk : SupportDesk) (phase : SupportPhase) :
    desk.Extends (phase.perform hashKey enableDevGateway lag desk).1 := by
  cases phase with
  | opening accountId publicId priority body =>
      rw [perform]
      split
      next => exact .refl desk
      next => exact desk.extends_openRequest accountId publicId priority body lag
  | writing requestId loaded change => exact desk.extends_commit requestId loaded change
  | elsewhere workspace prioritySupport =>
      exact ⟨le_rfl, (SupportDesk.Extends.refl desk).requests, fun _ _ hget => hget⟩
  | _ => exact .refl desk

theorem loadRequest_eq_ok {desk : SupportDesk} {accountId : ℕ} {publicId : String}
    {row : ℕ × SupportRequest} (hload : loadRequest desk accountId publicId = .ok row) :
    desk.requests.get? row.1 = some row.2 ∧ row.2.accountId = accountId ∧
      row.2.publicId = publicId := by
  obtain ⟨found, hfound, hload⟩ := Fallible.bind_eq_ok.mp hload
  cases found with
  | none => cases hload
  | some loaded =>
      obtain rfl := Except.ok.inj hload
      have hmem := List.mem_singleton_self loaded
      rw [← oneOrNone_eq_some hfound] at hmem
      simpa using Table.mem_select.mp hmem

theorem loadSupportTicket_eq_ok {desk : SupportDesk} {publicId : String}
    {row : ℕ × SupportRequest} (hload : loadSupportTicket desk publicId = .ok row) :
    desk.requests.get? row.1 = some row.2 ∧ row.2.publicId = publicId := by
  obtain ⟨found, hfound, hload⟩ := Fallible.bind_eq_ok.mp hload
  cases found with
  | none => cases hload
  | some loaded =>
      obtain rfl := Except.ok.inj hload
      have hmem := List.mem_singleton_self loaded
      rw [← oneOrNone_eq_some hfound] at hmem
      simpa using Table.mem_select.mp hmem

theorem SupportDesk.HasLoaded.of_get? {desk : SupportDesk} {requestId : ℕ}
    {request : SupportRequest} (hget : desk.requests.get? requestId = some request) :
    desk.HasLoaded requestId request :=
  ⟨request, hget, .refl request⟩

/-- The session carries a header it has loaded. -/
def SupportPhase.carries : SupportPhase → Bool
  | .assigning _ _ _ _ _ | .writing _ _ _ => true
  | _ => false

/-- What holds of the headers that sessions carry to their next parts: of one that has just
been loaded, and of one whose assignee has been checked. -/
structure Carried (desk : SupportDesk) (valid : SupportPhase → Prop) : Prop where
  idle : ∀ phase : SupportPhase, phase.carries = false → valid phase
  assigning : ∀ actorId requestId loaded patch, desk.requests.get? requestId = some loaded →
    valid (.assigning desk.clock actorId requestId loaded patch)
  writing : ∀ requestId loaded change, desk.requests.get? requestId = some loaded →
    change.now = desk.clock → change.OwnedBy loaded.accountId →
    (∀ now, change = .resolve now → loaded.status ≠ .resolved) →
    valid (.writing requestId loaded change)
  checked : ∀ now actorId requestId loaded patch,
    valid (.assigning now actorId requestId loaded patch) →
    valid (.writing requestId loaded (.update now actorId patch))

/-- What a call carries to its next part it has just read. -/
theorem Carried.load {desk : SupportDesk} {valid : SupportPhase → Prop}
    (hcarried : Carried desk valid) {actorId : ℕ} {call : SupportCall} {phase : SupportPhase}
    (hload : call.load desk actorId = .ok phase) : valid phase := by
  cases call with
  | openRequest credentials publicId body =>
      obtain ⟨priority, -, hphase⟩ := Fallible.bind_eq_ok.mp hload
      obtain rfl := Except.ok.inj hphase
      exact hcarried.idle _ rfl
  | replyToRequest credentials publicId text =>
      obtain ⟨row, hrow, hphase⟩ := Fallible.bind_eq_ok.mp hload
      obtain rfl := Except.ok.inj hphase
      obtain ⟨hget, howner, -⟩ := loadRequest_eq_ok hrow
      exact hcarried.writing _ _ _ hget rfl howner.symm fun _ hchange => by cases hchange
  | closeRequest credentials publicId =>
      obtain ⟨row, hrow, hphase⟩ := Fallible.bind_eq_ok.mp hload
      obtain rfl := Except.ok.inj hphase
      split
      next => exact hcarried.idle _ rfl
      next hopen =>
        exact hcarried.writing _ _ _ (loadRequest_eq_ok hrow).1 rfl trivial fun _ _ => hopen
  | replyToSupportRequest operator publicId text =>
      obtain ⟨row, hrow, hphase⟩ := Fallible.bind_eq_ok.mp hload
      obtain rfl := Except.ok.inj hphase
      exact hcarried.writing _ _ _ (loadSupportTicket_eq_ok hrow).1 rfl trivial
        fun _ hchange => by cases hchange
  | updateSupportRequest operator publicId patch =>
      obtain ⟨row, hrow, hphase⟩ := Fallible.bind_eq_ok.mp hload
      obtain rfl := Except.ok.inj hphase
      exact hcarried.assigning _ _ _ _ (loadSupportTicket_eq_ok hrow).1

theorem Carried.perform {desk : SupportDesk} {valid : SupportPhase → Prop}
    (hcarried : Carried desk valid) (lag : ℕ) {phase : SupportPhase} (hphase : valid phase) :
    valid (phase.perform hashKey enableDevGateway lag desk).2 := by
  cases phase with
  | asked call =>
      simp only [SupportPhase.perform]
      cases call.admit hashKey enableDevGateway desk <;> exact hcarried.idle _ rfl
  | admitted actorId call =>
      simp only [SupportPhase.perform]
      cases hload : call.load desk actorId with
      | error failure => exact hcarried.idle _ rfl
      | ok phase => exact hcarried.load hload
  | opening accountId publicId priority body =>
      rw [SupportPhase.perform]
      split <;> exact hcarried.idle _ rfl
  | assigning now actorId requestId loaded patch =>
      simp only [SupportPhase.perform]
      cases hadmit : admitPatch desk now actorId requestId loaded patch with
      | error failure => exact hcarried.idle _ rfl
      | ok phase =>
          obtain ⟨_, -, hended⟩ := Fallible.bind_eq_ok.mp hadmit
          obtain rfl := Except.ok.inj hended
          split
          next => exact hcarried.idle _ rfl
          next => exact hcarried.checked now actorId requestId loaded patch hphase
  | _ => exact hcarried.idle _ rfl

theorem carried_holds (desk : SupportDesk) : Carried desk fun phase => phase.Holds desk where
  idle phase hidle := by
    cases phase with
    | assigning now actorId requestId loaded patch => cases hidle
    | writing requestId loaded change => cases hidle
    | _ => trivial
  assigning _ _ _ _ hget := ⟨le_rfl, .of_get? hget⟩
  writing _ _ _ hget hnow howned _ := ⟨hnow.le, .of_get? hget, howned⟩
  checked _ _ _ _ _ hassigning := ⟨hassigning.1, hassigning.2, trivial⟩

end Perform

/-! ## Threads as they should be -/

structure SupportDesk.Threaded (desk : SupportDesk) : Prop where
  belongs : ∀ key message, desk.messages.get? key = some message →
    ∃ request, desk.requests.get? message.requestId = some request ∧
      (message.authorKind = .merchant → message.authorAccountId = request.accountId)
  opening : ∀ requestId request, desk.requests.get? requestId = some request →
    ∃ first rest, loadMessages desk requestId = first :: rest ∧ first.2.authorKind = .merchant
  answered : ∀ requestId request, desk.requests.get? requestId = some request →
    (request.firstResponseAt.isSome ↔
      ∃ row ∈ loadMessages desk requestId, row.2.authorKind = .operator)
  distinct : ∀ requestId other request found, desk.requests.get? requestId = some request →
    desk.requests.get? other = some found → request.publicId = found.publicId → requestId = other

theorem SupportDesk.Threaded.fresh (clock : Instant) (workspace : Workspace)
    (prioritySupport : ℕ → Bool) :
    (SupportDesk.fresh clock workspace prioritySupport).Threaded := by
  constructor <;> simp [SupportDesk.fresh]

/-- Only the two tables of the desk matter. -/
theorem SupportDesk.Threaded.of_eq {desk other : SupportDesk} (hthreaded : desk.Threaded)
    (hrequests : other.requests = desk.requests) (hmessages : other.messages = desk.messages) :
    other.Threaded := by
  obtain ⟨hbelongs, hopening, hanswered, hdistinct⟩ := hthreaded
  constructor <;> simp only [loadMessages, hrequests, hmessages] <;> assumption

section Threaded

variable {desk : SupportDesk}

/-- No message is there before its thread. -/
theorem SupportDesk.Threaded.loadMessages_next (hthreaded : desk.Threaded) :
    loadMessages desk desk.requests.next = [] := by
  apply List.filter_eq_nil_iff.mpr
  intro row hrow hkept
  obtain ⟨request, hget, -⟩ := hthreaded.belongs row.1 row.2 (Table.get?_eq_some_iff.mpr hrow)
  rw [of_decide_eq_true hkept, Table.get?_next] at hget
  cases hget

theorem SupportDesk.Threaded.openRequest (hthreaded : desk.Threaded) (accountId : ℕ)
    {publicId : String} (priority : SupportPriority) (body : SupportRequestCreate)
    (stored : Instant)
    (hnew : ∀ requestId request, desk.requests.get? requestId = some request →
      request.publicId ≠ publicId) :
    (openRequest desk accountId publicId priority body stored).Threaded := by
  have hthreads : ∀ requestId,
      loadMessages (ChmabaPay.openRequest desk accountId publicId priority body stored) requestId =
        loadMessages desk requestId ++ if desk.requests.next = requestId then
          [(desk.messages.next, ⟨desk.requests.next, accountId, .merchant, body.body.text, stored⟩)]
        else [] := by
    intro requestId
    simp only [loadMessages, ChmabaPay.openRequest, select_insert, decide_eq_true_eq]
  -- a row of the longer table is the new one or one of before
  have hcases : ∀ requestId request,
      (ChmabaPay.openRequest desk accountId publicId priority body stored).requests.get? requestId =
        some request → requestId = desk.requests.next ∧ request.publicId = publicId ∧
          request.accountId = accountId ∧ request.firstResponseAt = none ∨
        requestId ≠ desk.requests.next ∧ desk.requests.get? requestId = some request := by
    intro requestId request hget
    simp only [ChmabaPay.openRequest, Table.get?_insert] at hget
    split at hget
    next hkey =>
      obtain rfl := Option.some.inj hget
      exact .inl ⟨hkey, rfl, rfl, rfl⟩
    next hkey => exact .inr ⟨hkey, hget⟩
  refine ⟨?_, ?_, ?_, ?_⟩
  · intro key message hget
    simp only [ChmabaPay.openRequest, Table.get?_insert] at hget
    split at hget
    next =>
      obtain rfl := Option.some.inj hget
      exact ⟨_, Table.get?_insert _ _ _ |>.trans (if_pos rfl), fun _ => rfl⟩
    next =>
      obtain ⟨request, hrequest, hauthor⟩ := hthreaded.belongs key message hget
      exact ⟨request, Table.get?_insert_of_some hrequest, hauthor⟩
  · intro requestId request hget
    rw [hthreads]
    rcases hcases requestId request hget with ⟨rfl, -⟩ | ⟨hkey, hold⟩
    · rw [hthreaded.loadMessages_next, if_pos rfl]
      exact ⟨_, [], rfl, rfl⟩
    · obtain ⟨first, rest, hthread, hkind⟩ := hthreaded.opening requestId request hold
      rw [hthread, if_neg (Ne.symm hkey), List.append_nil]
      exact ⟨first, rest, rfl, hkind⟩
  · intro requestId request hget
    rw [hthreads]
    rcases hcases requestId request hget with ⟨rfl, -, -, hunanswered⟩ | ⟨hkey, hold⟩
    · rw [hthreaded.loadMessages_next, if_pos rfl, hunanswered]
      simp
    · rw [if_neg (Ne.symm hkey), List.append_nil]
      exact hthreaded.answered requestId request hold
  · intro requestId other request found hget hother hsame
    rcases hcases requestId request hget with ⟨rfl, hpublic, -⟩ | ⟨-, hold⟩ <;>
      rcases hcases other found hother with ⟨rfl, hpublic', -⟩ | ⟨-, hold'⟩
    · rfl
    · exact absurd (hsame.symm.trans hpublic) (hnew other found hold')
    · exact absurd (hsame.trans hpublic') (hnew requestId request hold)
    · exact hthreaded.distinct requestId other request found hold hold' hsame

/-- What a commit adds to the thread it writes. -/
theorem loadMessages_commit (desk : SupportDesk) (requestId : ℕ) (loaded : SupportRequest)
    (change : SupportChange) (other : ℕ) :
    loadMessages (desk.commit requestId loaded change) other =
      loadMessages desk other ++ if requestId = other then
        ((change.message requestId desk.clock).map fun message =>
          (desk.messages.next, message)).toList
      else [] := by
  cases change with
  | recordMerchantReply now accountId text =>
      simp [loadMessages, SupportDesk.commit, SupportChange.message, select_insert]
  | recordOperatorReply now accountId text =>
      simp [loadMessages, SupportDesk.commit, SupportChange.message, select_insert]
  | resolve now => simp [loadMessages, SupportDesk.commit, SupportChange.message]
  | update now actorId patch => simp [loadMessages, SupportDesk.commit, SupportChange.message]

/-- A row after a commit continues the row under its key. -/
theorem get?_commit {requestId other : ℕ} {loaded found : SupportRequest} {change : SupportChange}
    (hget : (desk.commit requestId loaded change).requests.get? other = some found) :
    ∃ request, desk.requests.get? other = some request ∧ request.Continues found ∧
      found.firstResponseAt = if other = requestId ∧ change.answers = true ∧
        loaded.firstResponseAt = none then some change.now else request.firstResponseAt := by
  simp only [SupportDesk.commit, Table.get?_update] at hget
  split at hget
  next hother =>
    obtain ⟨request, hrequest, rfl⟩ := Option.map_eq_some_iff.mp hget
    refine ⟨request, hrequest, write_continues change loaded request, ?_⟩
    rw [write_firstResponseAt]
    simp only [hother, true_and]
  next hother =>
    refine ⟨found, hget, .refl found, ?_⟩
    rw [if_neg fun h => hother h.1]

theorem SupportDesk.Threaded.commit (hthreaded : desk.Threaded) {requestId : ℕ}
    {loaded : SupportRequest} {change : SupportChange}
    (hloaded : desk.HasLoaded requestId loaded) (howned : change.OwnedBy loaded.accountId) :
    (desk.commit requestId loaded change).Threaded := by
  have hextends := desk.extends_commit requestId loaded change
  obtain ⟨current, hcurrent, hcontinues⟩ := hloaded
  refine ⟨?_, ?_, ?_, ?_⟩
  · intro key message hget
    have hmessage : desk.messages.get? key = some message ∨
        change.message requestId desk.clock = some message := by
      unfold SupportDesk.commit at hget
      cases hadded : change.message requestId desk.clock with
      | none => exact .inl (by simpa [hadded] using hget)
      | some added =>
          simp only [hadded, Option.elim_some, Table.get?_insert] at hget
          split at hget
          next => exact .inr hget
          next => exact .inl hget
    rcases hmessage with hold | hadded
    · obtain ⟨request, hrequest, hauthor⟩ := hthreaded.belongs key message hold
      obtain ⟨later, hlater, hlaterContinues⟩ := hextends.requests _ request hrequest
      exact ⟨later, hlater, fun hkind => (hauthor hkind).trans hlaterContinues.accountId.symm⟩
    · obtain ⟨later, hlater, hlaterContinues⟩ := hextends.requests requestId current hcurrent
      have howner : later.accountId = loaded.accountId :=
        hlaterContinues.accountId.trans hcontinues.accountId
      cases change with
      | recordMerchantReply now accountId text =>
          obtain rfl := Option.some.inj hadded
          exact ⟨later, hlater, fun _ => Eq.trans howned howner.symm⟩
      | recordOperatorReply now accountId text =>
          obtain rfl := Option.some.inj hadded
          exact ⟨later, hlater, fun hkind => by cases hkind⟩
      | resolve now => cases hadded
      | update now actorId patch => cases hadded
  · intro other found hget
    obtain ⟨request, hrequest, -⟩ := get?_commit hget
    obtain ⟨first, rest, hthread, hkind⟩ := hthreaded.opening other request hrequest
    rw [loadMessages_commit, hthread]
    exact ⟨first, _, List.cons_append, hkind⟩
  · intro other found hget
    obtain ⟨request, hrequest, hfound, hfirst⟩ := get?_commit hget
    have hbefore := hthreaded.answered other request hrequest
    rw [loadMessages_commit]
    by_cases hother : requestId = other
    · subst hother
      obtain rfl := Option.some.inj (hcurrent.symm.trans hrequest)
      cases change with
      | recordOperatorReply now accountId text =>
          -- the reply is an operator's, and one of the two instants is there
          have hsome : found.firstResponseAt.isSome := by
            cases hunanswered : loaded.firstResponseAt with
            | none => simp [hfirst, hunanswered, SupportChange.answers]
            | some instant =>
                exact hfound.answered (hcontinues.answered (by simp [hunanswered]))
          simp [hsome, SupportChange.message]
      | recordMerchantReply now accountId text =>
          rw [hfirst]
          simpa [SupportChange.answers, SupportChange.message, or_and_right, exists_or]
            using hbefore
      | resolve now => simpa [hfirst, SupportChange.answers, SupportChange.message] using hbefore
      | update now actorId patch =>
          simpa [hfirst, SupportChange.answers, SupportChange.message] using hbefore
    · rw [if_neg hother, List.append_nil, hfirst, if_neg fun h => hother h.1.symm]
      exact hbefore
  · intro first second request found hget hget' hsame
    obtain ⟨before, hbefore, hcontinues', -⟩ := get?_commit hget
    obtain ⟨before', hbefore', hcontinues'', -⟩ := get?_commit hget'
    exact hthreaded.distinct first second before before' hbefore hbefore'
      (hcontinues'.publicId.symm.trans (hsame.trans hcontinues''.publicId))

end Threaded

section Perform

variable {hashKey : List Char → String} {enableDevGateway : Bool}

theorem SupportPhase.perform_threaded {desk : SupportDesk} (hthreaded : desk.Threaded) (lag : ℕ)
    {phase : SupportPhase} (hholds : phase.Holds desk) :
    (phase.perform hashKey enableDevGateway lag desk).1.Threaded := by
  cases phase with
  | opening accountId publicId priority body =>
      rw [perform]
      split
      next => exact hthreaded
      next hfree =>
        have hnone := Table.find?_eq_none_iff.mp (Option.not_isSome_iff_eq_none.mp hfree)
        refine (hthreaded.openRequest accountId priority body _ ?_).of_eq rfl rfl
        intro requestId request hget
        exact of_decide_eq_false (hnone requestId request hget)
  | writing requestId loaded change => exact hthreaded.commit hholds.2.1 hholds.2.2
  | elsewhere workspace prioritySupport => exact hthreaded.of_eq rfl rfl
  | _ => exact hthreaded

theorem SupportPhase.advance_extends (desk : SupportDesk) (reading : DeskReading)
    (phase : SupportPhase) :
    desk.Extends (phase.advance hashKey enableDevGateway desk reading).1 :=
  (desk.extends_wait reading.elapsed).trans (phase.perform_extends reading.lag _)

/-- Threads stay sound, and what a session carries stays good. -/
theorem threaded_preserved : Preserved (supportDesk hashKey enableDevGateway) (fun _ => True)
    (fun _ _ _ => True) SupportDesk.Threaded fun desk phase => phase.Holds desk where
  start desk request _ _ := by
    cases request <;> trivial
  own desk reading phase hthreaded hholds _ := by
    have hlater : SupportDesk.Threaded { desk with clock := desk.clock + reading.elapsed } :=
      hthreaded.of_eq rfl rfl
    have hwaited := hholds.extends (desk.extends_wait reading.elapsed)
    refine ⟨SupportPhase.perform_threaded hlater reading.lag hwaited, ?_⟩
    exact ((carried_holds _).perform reading.lag hwaited).extends
      (phase.perform_extends reading.lag _)
  other desk reading phase bystander _ _ _ hbystander :=
    hbystander.extends (phase.advance_extends desk reading)

/-! ## Every schedule -/

/-- A turn only adds to the threads. -/
theorem extends_next (pool : SupportPool) (turn : Turn DeskRequest DeskReading) :
    pool.shared.Extends (next (supportDesk hashKey enableDevGateway).step pool turn).shared := by
  cases turn with
  | start request => exact .refl pool.shared
  | advance index reading =>
      cases hat : pool.sessions[index]? with
      | none =>
          rw [next_advance_of_none hat]
          exact .refl pool.shared
      | some phase =>
          rw [next_advance_of_some hat]
          exact phase.advance_extends pool.shared reading

theorem extends_run (pool : SupportPool) (turns : List (Turn DeskRequest DeskReading)) :
    pool.shared.Extends (run (supportDesk hashKey enableDevGateway).step pool turns).shared := by
  induction turns generalizing pool with
  | nil => exact .refl pool.shared
  | cons turn rest ih => exact (extends_next pool turn).trans (ih _)

end Perform

/-- What a schedule makes of an untouched desk. -/
def supportRun (hashKey : List Char → String) (enableDevGateway : Bool) (clock : Instant)
    (workspace : Workspace) (prioritySupport : ℕ → Bool)
    (turns : List (Turn DeskRequest DeskReading)) : SupportPool :=
  run (supportDesk hashKey enableDevGateway).step
    ⟨SupportDesk.fresh clock workspace prioritySupport, []⟩ turns

section Runs

variable (hashKey : List Char → String) (enableDevGateway : Bool) (clock : Instant)
  (workspace : Workspace) (prioritySupport : ℕ → Bool)

theorem supportRun_holds (turns : List (Turn DeskRequest DeskReading)) :
    (supportRun hashKey enableDevGateway clock workspace prioritySupport turns).Holds
      SupportDesk.Threaded fun desk phase => phase.Holds desk :=
  threaded_preserved.run
    (Pool.holds_of_idle (SupportDesk.Threaded.fresh clock workspace prioritySupport) rfl)
    (along_meets_true _ _ turns)

/-- In every schedule a thread starts with a message of the merchant, holds no merchant's
message but its own account's, and counts as answered exactly when an operator has written to
it. Threads are found by their public ids, and nothing that was once in a thread is moved,
changed or lost. -/
theorem threads_sound (first rest : List (Turn DeskRequest DeskReading)) :
    (supportRun hashKey enableDevGateway clock workspace prioritySupport
        (first ++ rest)).shared.Threaded ∧
      (supportRun hashKey enableDevGateway clock workspace prioritySupport first).shared.Extends
        (supportRun hashKey enableDevGateway clock workspace prioritySupport
          (first ++ rest)).shared := by
  refine ⟨(supportRun_holds hashKey enableDevGateway clock workspace prioritySupport _).1, ?_⟩
  unfold supportRun
  rw [run_append]
  exact extends_run _ rest

end Runs

end ChmabaPay
