import ChmabaPay.Foundation.Appending
import ChmabaPay.Routers.Payments
import ChmabaPay.Sessions
import ChmabaPay.Specimen
import ChmabaPay.Workers.DetectionJobs

/-! # The attempt history of a payment

`attempt_history` is one JSON column. Detection jobs, re-issues and the mark of a test key
each read the row, wait for the rail and write the column whole: the list they read, with
one entry more. A history keeps every entry as long as each of these commits finds the
history its session had read, and loses one for good with the first that does not.
-/

namespace ChmabaPay

open Calendar Relational Execution Interleaving

/-! ## The writers -/

/-- The sessions that write a payment row. -/
inductive HistoryWriter where
  | detection
  | testMode
  | reissue
  | hook
  /-- Settlements, sweeps and the like, which leave the history alone. -/
  | other
deriving DecidableEq

/-- Whether the session goes on with the row it loads. A job leaves a terminal payment, a
re-issue one that is not dead, and the mark of a test key is appended in place to a history
that is there, which the session does not notice. -/
def HistoryWriter.admits (payment : Payment) : HistoryWriter → Bool
  | .detection => !payment.status.isTerminal
  | .reissue => decide (payment.status = .expired) || decide (payment.status = .failed)
  | .hook => payment.attemptHistory.isNone
  | .testMode | .other => true

/-- What a session makes of the row it holds, with its entry in the history. -/
inductive HistoryWrite where
  | attempt (record : Attempt) (closedAt : Option Instant)
  | reissued (publicId : String) (mintedAt : Instant)
  | hook (moment : Instant)
deriving DecidableEq

def HistoryWriter.writes : HistoryWriter → HistoryWrite → Bool
  | .detection, .attempt _ _ => true
  | .testMode, .attempt _ _ => true
  | .reissue, .reissued _ _ => true
  | .hook, .hook _ => true
  | _, _ => false

def HistoryWrite.edit : HistoryWrite → Payment → Payment
  | .attempt record closedAt => Payment.recordAttempt record closedAt
  | .reissued publicId mintedAt => Payment.recordReissue publicId mintedAt
  | .hook moment => enqueueOrSkipTestModeBypass moment "test"

def HistoryWrite.entry : HistoryWrite → Attempt
  | .attempt record _ => record
  | .reissued publicId mintedAt => .reissued publicId mintedAt
  | .hook moment => .testModeBypassHook moment

/-- An edit of the other columns, such as the settlement inside a job. -/
structure Aside where
  change : Payment → Payment
  history : ∀ payment, (change payment).attemptHistory = payment.attemptHistory

inductive HistoryPhase where
  | waiting
  | holding (loaded : Payment)
  | committed (entry : Attempt)
  | left
deriving DecidableEq

structure HistorySession where
  writer : HistoryWriter
  phase : HistoryPhase := .waiting
deriving DecidableEq

/-- The next thing a session does with the row. -/
inductive HistoryTurn where
  | load
  | settle (aside : Aside)
  | commit (write : HistoryWrite)
  | leave

/-- A session keeps the row as it loaded it, also behind a commit of its own, and writes the
columns it changed. -/
def advanceHistory (current : Payment) (turn : HistoryTurn) (session : HistorySession) :
    Payment × HistorySession :=
  match turn, session.phase with
  | .load, .waiting =>
      if session.writer.admits current then (current, { session with phase := .holding current })
      else (current, { session with phase := .left })
  | .settle aside, .holding loaded =>
      (Columns.write loaded (aside.change loaded) current,
        { session with phase := .holding (aside.change loaded) })
  | .commit write, .holding loaded =>
      if session.writer.writes write then
        (Columns.write loaded (write.edit loaded) current,
          { session with phase := .committed write.entry })
      else (current, session)
  | .leave, .holding _ => (current, { session with phase := .left })
  | _, _ => (current, session)

def historyMachine : Machine Payment HistorySession HistoryWriter HistoryTurn where
  start writer := { writer := writer }
  advance := advanceHistory

abbrev Histories := Pool Payment HistorySession

/-! ## Nothing lost -/

def Payment.history (payment : Payment) : List Attempt := payment.attemptHistory.getD []

/-- The history a session would write its entry behind. -/
def HistorySession.copy (session : HistorySession) : Option (List Attempt) :=
  match session.phase with
  | .holding loaded => some loaded.history
  | .waiting | .committed _ | .left => none

/-- The entry a session has committed. -/
def HistorySession.entry (session : HistorySession) : Option Attempt :=
  match session.phase with
  | .committed entry => some entry
  | .waiting | .holding _ | .left => none

def Histories.recorded (pool : Histories) : List Attempt :=
  pool.sessions.filterMap HistorySession.entry

/-- The history has an entry for each one it started with and for each one committed. -/
def Histories.NothingLost (before : List Attempt) (pool : Histories) : Prop :=
  (before ++ pool.recorded).Subperm pool.shared.history

instance (before : List Attempt) (pool : Histories) : Decidable (pool.NothingLost before) :=
  inferInstanceAs (Decidable (List.Subperm _ _))

/-- A commit of an entry finds the history that its session had read. -/
def CommitsCurrent (current : Payment) (turn : HistoryTurn) (session : HistorySession) : Prop :=
  ∀ write loaded, turn = .commit write → session.phase = .holding loaded →
    session.writer.writes write = true → loaded.history = current.history

/-! ## One turn -/

theorem HistoryWrite.history_edit (write : HistoryWrite) (loaded : Payment) :
    (write.edit loaded).attemptHistory = some (loaded.history ++ [write.entry]) := by
  cases write <;> rfl

section Turn

variable {current : Payment} {session : HistorySession}

theorem history_write_aside (loaded current : Payment) (aside : Aside) :
    (Columns.write loaded (aside.change loaded) current).history = current.history := by
  have hcolumn : (Columns.write loaded (aside.change loaded) current).attemptHistory =
      assign loaded.attemptHistory (aside.change loaded).attemptHistory
        current.attemptHistory := rfl
  rw [Payment.history, hcolumn, aside.history, assign, if_pos rfl]
  rfl

theorem history_write_edit (loaded current : Payment) (write : HistoryWrite) :
    (Columns.write loaded (write.edit loaded) current).history =
      loaded.history ++ [write.entry] := by
  have hcolumn : (Columns.write loaded (write.edit loaded) current).attemptHistory =
      assign loaded.attemptHistory (write.edit loaded).attemptHistory
        current.attemptHistory := rfl
  have hchanged : (write.edit loaded).attemptHistory ≠ loaded.attemptHistory := by
    rw [write.history_edit]
    intro heq
    have hlength := congrArg (fun history => (history.getD []).length) heq
    simp [Payment.history] at hlength
  rw [Payment.history, hcolumn, assign_of_ne hchanged, write.history_edit]
  rfl

theorem advanceHistory_settle (current loaded : Payment) (aside : Aside)
    (writer : HistoryWriter) :
    advanceHistory current (.settle aside) ⟨writer, .holding loaded⟩ =
      (Columns.write loaded (aside.change loaded) current,
        ⟨writer, .holding (aside.change loaded)⟩) := rfl

theorem advanceHistory_load (current : Payment) (writer : HistoryWriter) :
    advanceHistory current .load ⟨writer, .waiting⟩ =
      if writer.admits current then (current, ⟨writer, .holding current⟩)
      else (current, ⟨writer, .left⟩) := rfl

theorem advanceHistory_commit (current loaded : Payment) {write : HistoryWrite}
    {writer : HistoryWriter} (hwrites : writer.writes write = true) :
    advanceHistory current (.commit write) ⟨writer, .holding loaded⟩ =
      (Columns.write loaded (write.edit loaded) current, ⟨writer, .committed write.entry⟩) :=
  if_pos hwrites

/-- A session that is not about to enter anything. -/
def Calm (turn : HistoryTurn) (session : HistorySession) : Prop :=
  ∀ write loaded, turn = .commit write → session.phase = .holding loaded →
    session.writer.writes write = false

theorem Calm.commitsCurrent {turn : HistoryTurn} (hcalm : Calm turn session) :
    CommitsCurrent current turn session := by
  intro write loaded hturn hphase hwrites
  rw [hcalm write loaded hturn hphase] at hwrites
  cases hwrites

/-- What a turn that enters nothing does. -/
structure SparesHistory (current : Payment) (session : HistorySession)
    (after : Payment × HistorySession) : Prop where
  history : after.1.history = current.history
  entry : after.2.entry = session.entry
  copy : ∀ held, after.2.copy = some held → session.copy = some held ∨ held = current.history

theorem SparesHistory.idle : SparesHistory current session (current, session) :=
  ⟨rfl, rfl, fun _ hcopy => .inl hcopy⟩

theorem advanceHistory_load_spares : SparesHistory current session
    (advanceHistory current .load session) := by
  obtain ⟨writer, phase⟩ := session
  cases phase with
  | waiting =>
      rw [advanceHistory_load]
      split
      · exact ⟨rfl, rfl, fun held hcopy => .inr (Option.some.inj hcopy).symm⟩
      · exact ⟨rfl, rfl, nofun⟩
  | holding loaded => exact .idle
  | committed entry => exact .idle
  | left => exact .idle

theorem advanceHistory_settle_spares (aside : Aside) : SparesHistory current session
    (advanceHistory current (.settle aside) session) := by
  obtain ⟨writer, phase⟩ := session
  cases phase with
  | holding loaded =>
      rw [advanceHistory_settle]
      refine ⟨history_write_aside loaded current aside, rfl, fun held hcopy => .inl ?_⟩
      rw [← hcopy]
      simp only [HistorySession.copy, Payment.history, aside.history]
  | waiting => exact .idle
  | committed entry => exact .idle
  | left => exact .idle

theorem advanceHistory_leave_spares : SparesHistory current session
    (advanceHistory current .leave session) := by
  obtain ⟨writer, phase⟩ := session
  cases phase with
  | holding loaded => exact ⟨rfl, rfl, nofun⟩
  | waiting => exact .idle
  | committed entry => exact .idle
  | left => exact .idle

theorem advanceHistory_commit_spares {write : HistoryWrite} (hcalm : Calm (.commit write) session) :
    SparesHistory current session (advanceHistory current (.commit write) session) := by
  obtain ⟨writer, phase⟩ := session
  cases phase with
  | holding loaded =>
      have hwrites : writer.writes write = false := hcalm write loaded rfl rfl
      have hstays : advanceHistory current (.commit write) ⟨writer, .holding loaded⟩ =
          (current, ⟨writer, .holding loaded⟩) := if_neg (by rw [hwrites]; nofun)
      rw [hstays]
      exact .idle
  | waiting => exact .idle
  | committed entry => exact .idle
  | left => exact .idle

theorem Calm.spares (current : Payment) {turn : HistoryTurn} (hcalm : Calm turn session) :
    SparesHistory current session (advanceHistory current turn session) := by
  cases turn with
  | load => exact advanceHistory_load_spares
  | settle aside => exact advanceHistory_settle_spares aside
  | commit write => exact advanceHistory_commit_spares hcalm
  | leave => exact advanceHistory_leave_spares

/-- A turn enters nothing, or it commits what a session makes of the row it holds. -/
theorem calm_or_commits (turn : HistoryTurn) (session : HistorySession) :
    Calm turn session ∨ ∃ write loaded, turn = .commit write ∧
      session = ⟨session.writer, .holding loaded⟩ ∧ session.writer.writes write = true := by
  by_cases hcalm : Calm turn session
  · exact .inl hcalm
  · simp only [Calm, not_forall] at hcalm
    obtain ⟨write, loaded, hturn, hphase, hwrites⟩ := hcalm
    refine .inr ⟨write, loaded, hturn, ?_, Bool.eq_true_of_not_eq_false hwrites⟩
    rw [← hphase]

theorem commitsCurrent_commit_iff {loaded : Payment} {write : HistoryWrite}
    {writer : HistoryWriter} (hwrites : writer.writes write = true) :
    CommitsCurrent current (.commit write) ⟨writer, .holding loaded⟩ ↔
      loaded.history = current.history := by
  constructor
  · intro hcurrent
    exact hcurrent write loaded rfl rfl hwrites
  · intro hsame _ _ _ hphase _
    rw [← HistoryPhase.holding.inj hphase]
    exact hsame

end Turn

/-! ## Every schedule -/

/-- The history is a list that the sessions append to by copy. -/
def historyAppending : Appending historyMachine Attempt where
  listed := Payment.history
  copy := HistorySession.copy
  entry := HistorySession.entry
  upToDate := CommitsCurrent
  start _ := ⟨rfl, rfl⟩
  advance current turn session := by
    rcases calm_or_commits turn session with hcalm | ⟨write, loaded, rfl, hsession, hwrites⟩
    · have hspares := hcalm.spares current
      exact .inl ⟨hspares.history, hspares.entry, hspares.copy, hcalm.commitsCurrent⟩
    · rw [hsession]
      refine .inr ⟨loaded.history, write.entry, rfl, rfl, ?_⟩
      have hcommitted : historyMachine.advance current (.commit write)
          ⟨session.writer, .holding loaded⟩ =
            (Columns.write loaded (write.edit loaded) current,
              ⟨session.writer, .committed write.entry⟩) :=
        advanceHistory_commit current loaded hwrites
      rw [hcommitted]
      exact ⟨history_write_edit loaded current write, rfl, rfl, commitsCurrent_commit_iff hwrites⟩

/-- No attempt is lost in a schedule exactly when every commit of an entry finds the
history that its session had read. -/
theorem attempts_kept_iff (row : Payment) (turns : List (Turn HistoryWriter HistoryTurn)) :
    Histories.NothingLost row.history (run historyMachine.step ⟨row, []⟩ turns) ↔
      Along historyMachine.step (Meets (fun _ => True) CommitsCurrent) ⟨row, []⟩ turns :=
  historyAppending.subperm_run_iff ⟨row, []⟩ rfl turns

/-- What a job notes on a code that is not paid yet. -/
def unpaidAttempt (moment : Instant) : Attempt :=
  .detection "bakong_open_api" moment none [] "pending" false none

/-- Two jobs poll the code at once. The second notes its attempt behind the history it read
before the first had noted its own. -/
def overwrittenSchedule : List (Turn HistoryWriter HistoryTurn) :=
  [.start .detection, .start .detection, .advance 0 .load, .advance 1 .load,
    .advance 0 (.commit (.attempt (unpaidAttempt (seconds 70)) none)),
    .advance 1 (.commit (.attempt (unpaidAttempt (seconds 75)) none))]

/-- Both jobs have committed, and the attempt of the first is gone. -/
theorem attempt_overwritten :
    (run historyMachine.step ⟨Specimen.offered, []⟩ overwrittenSchedule).sessions.map
        HistorySession.entry =
      [some (unpaidAttempt (seconds 70)), some (unpaidAttempt (seconds 75))] ∧
    ¬ Histories.NothingLost Specimen.offered.history
      (run historyMachine.step ⟨Specimen.offered, []⟩ overwrittenSchedule) := by
  decide +kernel

end ChmabaPay
