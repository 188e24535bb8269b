import ChmabaPay.Support.Threads

/-! # First responses

The first response of a thread is noted by a session that found none when it loaded the
header. Another operator may have answered in between: the commit then moves the instant.
Where no session comes late that way, the instant stays, and it is that of the first reply
an operator has in the thread.
-/

namespace ChmabaPay

open Calendar Relational Execution Interleaving

/-- A reply that takes itself for the first, on a thread that was answered at another
instant since the session loaded it. -/
def LateReply (desk : SupportDesk) : SupportPhase → Prop
  | .writing requestId loaded change =>
      change.answers = true ∧ loaded.firstResponseAt = none ∧
        ∃ current answeredAt, desk.requests.get? requestId = some current ∧
          current.firstResponseAt = some answeredAt ∧ answeredAt ≠ change.now
  | _ => False

/-- No session comes late in a turn. -/
def NoLateReply : SupportPool → Turn DeskRequest DeskReading → Prop :=
  Meets (fun _ => True) fun desk _ phase => ¬ LateReply desk phase

/-- The first responses that are noted stay as they are. -/
def SupportDesk.KeepsResponses (before after : SupportDesk) : Prop :=
  ∀ requestId request answeredAt, before.requests.get? requestId = some request →
    request.firstResponseAt = some answeredAt →
    ∃ later, after.requests.get? requestId = some later ∧ later.firstResponseAt = some answeredAt

theorem SupportDesk.KeepsResponses.of_eq {before after : SupportDesk}
    (hrequests : after.requests = before.requests) : before.KeepsResponses after := by
  intro requestId request answeredAt hget hanswered
  exact ⟨request, hrequests ▸ hget, hanswered⟩

/-- A commit keeps them unless it comes late. -/
theorem keepsResponses_commit_iff (desk : SupportDesk) (requestId : ℕ) (loaded : SupportRequest)
    (change : SupportChange) :
    desk.KeepsResponses (desk.commit requestId loaded change) ↔
      ¬ LateReply desk (.writing requestId loaded change) := by
  constructor
  · rintro hkeeps ⟨hanswers, hunanswered, current, answeredAt, hcurrent, hanswered, hne⟩
    obtain ⟨later, hlater, hsame⟩ := hkeeps requestId current answeredAt hcurrent hanswered
    obtain ⟨before, -, -, hfirst⟩ := get?_commit hlater
    rw [if_pos ⟨rfl, hanswers, hunanswered⟩, hsame] at hfirst
    exact hne (Option.some.inj hfirst)
  · intro hlate other request answeredAt hget hanswered
    obtain ⟨later, hlater, -⟩ := (desk.extends_commit requestId loaded change).requests _ _ hget
    obtain ⟨before, hbefore, -, hfirst⟩ := get?_commit hlater
    obtain rfl := Option.some.inj (hget.symm.trans hbefore)
    refine ⟨later, hlater, ?_⟩
    rw [hfirst]
    split
    next hwritten =>
      obtain ⟨rfl, hanswers, hunanswered⟩ := hwritten
      by_contra hmoved
      refine hlate ⟨hanswers, hunanswered, request, answeredAt, hget, hanswered, ?_⟩
      rintro rfl
      exact hmoved rfl
    next => exact hanswered

section Turns

variable {hashKey : List Char → String} {enableDevGateway : Bool}

theorem keepsResponses_advance_iff (desk : SupportDesk) (reading : DeskReading)
    (phase : SupportPhase) :
    desk.KeepsResponses (phase.advance hashKey enableDevGateway desk reading).1 ↔
      ¬ LateReply desk phase := by
  cases phase with
  | writing requestId loaded change =>
      exact keepsResponses_commit_iff { desk with clock := desk.clock + reading.elapsed }
        requestId loaded change
  | opening accountId publicId priority body =>
      refine iff_of_true ?_ id
      simp only [SupportPhase.advance, SupportPhase.perform]
      split
      next => exact .of_eq rfl
      next =>
        intro requestId request answeredAt hget hanswered
        exact ⟨request, Table.get?_insert_of_some hget, hanswered⟩
  | _ => exact iff_of_true (.of_eq rfl) id

/-- In one turn the noted instants stay exactly when no session comes late. -/
theorem keepsResponses_next_iff (pool : SupportPool) (turn : Turn DeskRequest DeskReading) :
    pool.shared.KeepsResponses (next (supportDesk hashKey enableDevGateway).step pool turn).shared ↔
      NoLateReply pool turn :=
  next_iff_meets (pool.shared.KeepsResponses ·) (.of_eq rfl)
    (fun reading phase _ => keepsResponses_advance_iff pool.shared reading phase) turn

end Turns

/-! ## The instant that is noted -/

def isOperatorRow (row : ℕ × SupportMessage) : Bool := decide (row.2.authorKind = .operator)

/-- Threads with the instant of their first answer. -/
structure SupportDesk.Stamped (desk : SupportDesk) : Prop where
  threaded : desk.Threaded
  past : ∀ requestId request, desk.requests.get? requestId = some request →
    request.createdAt ≤ desk.clock
  stamped : ∀ requestId request answeredAt, desk.requests.get? requestId = some request →
    request.firstResponseAt = some answeredAt → request.createdAt ≤ answeredAt ∧
      ∃ row, (loadMessages desk requestId).find? isOperatorRow = some row ∧
        answeredAt ≤ row.2.createdAt

/-- A session reads the clock when it has loaded the header. -/
def SupportPhase.Dated : SupportPhase → Prop
  | .assigning now _ _ loaded _ => loaded.createdAt ≤ now
  | .writing _ loaded change => loaded.createdAt ≤ change.now
  | _ => True

theorem SupportDesk.Stamped.wait {desk : SupportDesk} (hstamped : desk.Stamped) (elapsed : ℕ) :
    SupportDesk.Stamped { desk with clock := desk.clock + elapsed } := by
  refine ⟨hstamped.threaded.of_eq rfl rfl, ?_, hstamped.stamped⟩
  intro requestId request hget
  exact (hstamped.past requestId request hget).trans (desk.extends_wait elapsed).clock

section Stamps

variable {desk : SupportDesk}

/-- The first answer of a thread stays the first. -/
theorem find?_append_of_some {row : ℕ × SupportMessage} {thread added : List (ℕ × SupportMessage)}
    (hfirst : thread.find? isOperatorRow = some row) :
    (thread ++ added).find? isOperatorRow = some row := by
  rw [List.find?_append, hfirst, Option.some_or]

theorem SupportDesk.Stamped.openRequest (hstamped : desk.Stamped) (accountId : ℕ)
    {publicId : String} (priority : SupportPriority) (body : SupportRequestCreate) (lag : ℕ)
    (hnew : ∀ requestId request, desk.requests.get? requestId = some request →
      request.publicId ≠ publicId) :
    SupportDesk.Stamped { openRequest desk accountId publicId priority body (desk.clock + lag) with
      clock := desk.clock + lag } := by
  have hlater : desk.clock ≤ desk.clock + lag := (desk.extends_wait lag).clock
  refine ⟨(hstamped.threaded.openRequest accountId priority body _ hnew).of_eq rfl rfl, ?_, ?_⟩
  · intro requestId request hget
    simp only [ChmabaPay.openRequest, Table.get?_insert] at hget
    split at hget
    next =>
      obtain rfl := Option.some.inj hget
      exact hlater
    next => exact (hstamped.past requestId request hget).trans hlater
  · intro requestId request answeredAt hget hanswered
    simp only [ChmabaPay.openRequest, Table.get?_insert] at hget
    split at hget
    next =>
      -- the new request is not answered
      obtain rfl := Option.some.inj hget
      cases hanswered
    next =>
      obtain ⟨hcreated, row, hfirst, hle⟩ := hstamped.stamped requestId request answeredAt hget
        hanswered
      refine ⟨hcreated, row, ?_, hle⟩
      simp only [loadMessages, ChmabaPay.openRequest, select_insert]
      exact find?_append_of_some hfirst

theorem SupportDesk.Stamped.commit (hstamped : desk.Stamped) {requestId : ℕ}
    {loaded : SupportRequest} {change : SupportChange}
    (hholds : (SupportPhase.writing requestId loaded change).Holds desk)
    (hcreated : loaded.createdAt ≤ change.now)
    (hlate : ¬ LateReply desk (.writing requestId loaded change)) :
    (desk.commit requestId loaded change).Stamped := by
  obtain ⟨hnow, hloaded, howned⟩ := hholds
  refine ⟨hstamped.threaded.commit hloaded howned, ?_, ?_⟩
  · intro other found hget
    obtain ⟨request, hrequest, hcontinues, -⟩ := get?_commit hget
    exact hcontinues.createdAt ▸ hstamped.past other request hrequest
  · intro other found answeredAt hget hanswered
    obtain ⟨request, hrequest, hcontinues, hfirst⟩ := get?_commit hget
    rw [loadMessages_commit, hcontinues.createdAt]
    have hkept : request.firstResponseAt = some answeredAt → request.createdAt ≤ answeredAt ∧
        ∃ row, (loadMessages desk other ++ if requestId = other then
            ((change.message requestId desk.clock).map fun message =>
              (desk.messages.next, message)).toList else []).find? isOperatorRow = some row ∧
          answeredAt ≤ row.2.createdAt := by
      intro hbefore
      obtain ⟨hle, row, hrow, hrowLe⟩ := hstamped.stamped other request answeredAt hrequest hbefore
      exact ⟨hle, row, find?_append_of_some hrow, hrowLe⟩
    rw [hanswered] at hfirst
    split at hfirst
    next hwritten =>
      obtain ⟨rfl, hanswers, hunanswered⟩ := hwritten
      obtain rfl := Option.some.inj hfirst
      cases hbefore : request.firstResponseAt with
      | some instant =>
          -- answered since, but at the very instant
          apply hkept
          rw [hbefore]
          by_contra hne
          refine hlate ⟨hanswers, hunanswered, request, instant, hrequest, hbefore, ?_⟩
          rintro rfl
          exact hne rfl
      | none =>
          obtain ⟨current, hcurrent, hloadedContinues⟩ := hloaded
          obtain rfl := Option.some.inj (hcurrent.symm.trans hrequest)
          have hnobody := (hstamped.threaded.answered other current hcurrent).not.mp
            (by simp [hbefore])
          have hthread : (loadMessages desk other).find? isOperatorRow = none := by
            apply List.find?_eq_none.mpr
            intro row hrow hoperator
            exact hnobody ⟨row, hrow, of_decide_eq_true hoperator⟩
          refine ⟨hloadedContinues.createdAt ▸ hcreated, ?_⟩
          rw [List.find?_append, hthread, Option.none_or, if_pos rfl]
          cases change with
          | recordOperatorReply now accountId text => exact ⟨_, rfl, hnow⟩
          | recordMerchantReply now accountId text => cases hanswers
          | resolve now => cases hanswers
          | update now actorId patch => cases hanswers
    next => exact hkept hfirst.symm

end Stamps

/-! ## Every schedule -/

theorem carried_dated {desk : SupportDesk} (hstamped : desk.Stamped) :
    Carried desk SupportPhase.Dated where
  idle phase hidle := by
    cases phase with
    | assigning now actorId requestId loaded patch => cases hidle
    | writing requestId loaded change => cases hidle
    | _ => trivial
  assigning _ requestId loaded _ hget := hstamped.past requestId loaded hget
  writing requestId loaded _ hget hnow _ _ := (hstamped.past requestId loaded hget).trans hnow.ge
  checked _ _ _ _ _ hassigning := hassigning

section Runs

variable {hashKey : List Char → String} {enableDevGateway : Bool}

theorem SupportPhase.perform_stamped {desk : SupportDesk} (hstamped : desk.Stamped) (lag : ℕ)
    {phase : SupportPhase} (hholds : phase.Holds desk) (hdated : phase.Dated)
    (hlate : ¬ LateReply desk phase) :
    (phase.perform hashKey enableDevGateway lag desk).1.Stamped := by
  cases phase with
  | opening accountId publicId priority body =>
      rw [perform]
      split
      next => exact hstamped
      next hfree =>
        have hnone := Table.find?_eq_none_iff.mp (Option.not_isSome_iff_eq_none.mp hfree)
        apply hstamped.openRequest
        intro requestId request hget
        exact of_decide_eq_false (hnone requestId request hget)
  | writing requestId loaded change => exact hstamped.commit hholds hdated hlate
  | elsewhere workspace prioritySupport =>
      exact ⟨hstamped.threaded.of_eq rfl rfl, hstamped.past, hstamped.stamped⟩
  | _ => exact hstamped

theorem stamped_preserved : Preserved (supportDesk hashKey enableDevGateway) (fun _ => True)
    (fun desk _ phase => ¬ LateReply desk phase) SupportDesk.Stamped
    fun desk phase => phase.Holds desk ∧ phase.Dated where
  start desk request _ _ := by
    cases request <;> exact ⟨trivial, trivial⟩
  own desk reading phase hstamped hheld hlate := by
    have hlater := hstamped.wait reading.elapsed
    have hholds := hheld.1.extends (desk.extends_wait reading.elapsed)
    have hlate' : ¬ LateReply { desk with clock := desk.clock + reading.elapsed } phase := by
      cases phase <;> exact hlate
    refine ⟨SupportPhase.perform_stamped hlater reading.lag hholds hheld.2 hlate', ?_,
      (carried_dated hlater).perform reading.lag hheld.2⟩
    exact ((carried_holds _).perform reading.lag hholds).extends
      (phase.perform_extends reading.lag _)
  other desk reading phase bystander _ _ _ hbystander :=
    ⟨hbystander.1.extends (phase.advance_extends desk reading), hbystander.2⟩

theorem SupportDesk.Stamped.fresh (clock : Instant) (workspace : Workspace)
    (prioritySupport : ℕ → Bool) :
    (SupportDesk.fresh clock workspace prioritySupport).Stamped :=
  ⟨.fresh clock workspace prioritySupport, fun _ _ hget => (Option.some_ne_none _ hget.symm).elim,
    fun _ _ _ hget => (Option.some_ne_none _ hget.symm).elim⟩

end Runs

/-- The first response of every thread stays as it was noted exactly in the schedules where
no operator's reply takes itself for the first on a thread that was answered meanwhile. It
is noted then behind the opening of the thread, and no later than its first message by an
operator is stored. -/
theorem first_responses_kept_iff (hashKey : List Char → String) (enableDevGateway : Bool)
    (clock : Instant) (workspace : Workspace) (prioritySupport : ℕ → Bool)
    (turns : List (Turn DeskRequest DeskReading)) :
    (Along (supportDesk hashKey enableDevGateway).step
        (fun pool turn => pool.shared.KeepsResponses
          (next (supportDesk hashKey enableDevGateway).step pool turn).shared)
        ⟨SupportDesk.fresh clock workspace prioritySupport, []⟩ turns ↔
      Along (supportDesk hashKey enableDevGateway).step NoLateReply
        ⟨SupportDesk.fresh clock workspace prioritySupport, []⟩ turns) ∧
    (Along (supportDesk hashKey enableDevGateway).step NoLateReply
        ⟨SupportDesk.fresh clock workspace prioritySupport, []⟩ turns →
      (supportRun hashKey enableDevGateway clock workspace prioritySupport
        turns).shared.Stamped) := by
  refine ⟨?_, fun halong => ?_⟩
  · constructor
    · exact Along.imp fun pool turn => (keepsResponses_next_iff pool turn).mp
    · exact Along.imp fun pool turn => (keepsResponses_next_iff pool turn).mpr
  · have hfresh : Pool.Holds SupportDesk.Stamped
        (fun desk (phase : SupportPhase) => phase.Holds desk ∧ phase.Dated)
        ⟨SupportDesk.fresh clock workspace prioritySupport, []⟩ :=
      Pool.holds_of_idle (.fresh clock workspace prioritySupport) rfl
    exact (stamped_preserved.run hfresh halong).1

end ChmabaPay
