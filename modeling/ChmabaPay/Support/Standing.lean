import ChmabaPay.Support.Threads

/-! # Resolved threads

A thread that is resolved has the instant of it, and one that is open or pending has none.
A session that loaded the thread unresolved does not know of an instant that has been noted
since: where it moves the status then, the instant is left behind.
-/

namespace ChmabaPay

open Calendar Relational Execution Interleaving

/-- The status and the instant agree. -/
def SupportRequest.Coherent (request : SupportRequest) : Prop :=
  request.status = .resolved ↔ request.resolvedAt.isSome

def SupportDesk.Coherent (desk : SupportDesk) : Prop :=
  ∀ requestId request, desk.requests.get? requestId = some request → request.Coherent

/-- A session that loaded the thread unresolved moves it between open and pending, and the
thread was resolved meanwhile. -/
def StaleReopen (desk : SupportDesk) : SupportPhase → Prop
  | .writing requestId loaded change =>
      loaded.status ≠ .resolved ∧ (change.edit loaded).status ≠ loaded.status ∧
        (change.edit loaded).status ≠ .resolved ∧
        ∃ current, desk.requests.get? requestId = some current ∧ current.status = .resolved
  | _ => False

def NoStaleReopen : SupportPool → Turn DeskRequest DeskReading → Prop :=
  Meets (fun _ => True) fun desk _ phase => ¬ StaleReopen desk phase

/-- What a session carries was coherent when it was read, and a merchant does not close
what is closed. -/
def SupportPhase.Coherent : SupportPhase → Prop
  | .assigning _ _ _ loaded _ => loaded.Coherent
  | .writing _ loaded (.resolve _) => loaded.Coherent ∧ loaded.status ≠ .resolved
  | .writing _ loaded _ => loaded.Coherent
  | _ => True

/-! ## What a session makes of the two columns -/

/-- A session leaves both columns, resolves an unresolved header, reopens a resolved one or
moves an unresolved one. -/
inductive Standing (loaded edited : SupportRequest) : Prop where
  | left (status : edited.status = loaded.status)
      (resolvedAt : edited.resolvedAt = loaded.resolvedAt)
  | resolved (before : loaded.status ≠ .resolved) (status : edited.status = .resolved)
      (resolvedAt : edited.resolvedAt.isSome)
  | reopened (before : loaded.status = .resolved) (status : edited.status ≠ .resolved)
      (resolvedAt : edited.resolvedAt = none)
  | moved (before : loaded.status ≠ .resolved) (changed : edited.status ≠ loaded.status)
      (status : edited.status ≠ .resolved) (resolvedAt : edited.resolvedAt = loaded.resolvedAt)

theorem SupportRequest.assigned_standing (now : Instant) (patch : AdminSupportPatch)
    (request : SupportRequest) :
    (request.assigned now patch).status = request.status ∧
      (request.assigned now patch).resolvedAt = request.resolvedAt := by
  unfold assigned
  split
  next => exact ⟨rfl, rfl⟩
  next => exact ⟨rfl, rfl⟩

theorem SupportRequest.Coherent.resolvedAt_eq_none {request : SupportRequest}
    (hcoherent : request.Coherent) (hstatus : request.status ≠ .resolved) :
    request.resolvedAt = none :=
  Option.not_isSome_iff_eq_none.mp fun hsome => hstatus (hcoherent.mpr hsome)

/-- A status other than resolved, with the instant cleared. -/
theorem SupportRequest.Coherent.cleared {loaded edited : SupportRequest}
    (hcoherent : loaded.Coherent) (hchanged : edited.status ≠ loaded.status)
    (hstatus : edited.status ≠ .resolved) (hnone : edited.resolvedAt = none) :
    Standing loaded edited := by
  by_cases hbefore : loaded.status = .resolved
  · exact .reopened hbefore hstatus hnone
  · exact .moved hbefore hchanged hstatus (hnone.trans (hcoherent.resolvedAt_eq_none hbefore).symm)

theorem SupportRequest.patched_standing {loaded : SupportRequest} (hcoherent : loaded.Coherent)
    (now : Instant) (patch : AdminSupportPatch) : Standing loaded (loaded.patched now patch) := by
  have hassigned := loaded.assigned_standing now patch
  unfold patched
  cases hstatus : patch.newStatus loaded with
  | none => exact .left hassigned.1 hassigned.2
  | some status =>
      have hchanged : status ≠ loaded.status := by
        simpa using (Option.filter_eq_some_iff.mp hstatus).2
      cases status with
      | resolved => exact .resolved (Ne.symm hchanged) rfl rfl
      | opened => exact hcoherent.cleared hchanged SupportStatus.noConfusion rfl
      | pending => exact hcoherent.cleared hchanged SupportStatus.noConfusion rfl

theorem SupportChange.edit_standing {requestId : ℕ} {loaded : SupportRequest}
    {change : SupportChange}
    (hcoherent : (SupportPhase.writing requestId loaded change).Coherent) :
    Standing loaded (change.edit loaded) := by
  cases change with
  | recordMerchantReply now accountId text =>
      by_cases hpending : loaded.status = .pending
      · refine .moved ?_ ?_ ?_ rfl <;> simp [edit, SupportRequest.recordMerchantReply, hpending]
      · exact .left (if_neg hpending) rfl
  | recordOperatorReply now accountId text =>
      by_cases hopened : loaded.status = .opened
      · refine .moved ?_ ?_ ?_ rfl <;> simp [edit, SupportRequest.recordOperatorReply, hopened]
      · exact .left (if_neg hopened) rfl
  | resolve now => exact .resolved hcoherent.2 rfl rfl
  | update now actorId patch => exact SupportRequest.patched_standing hcoherent now patch

theorem SupportPhase.Coherent.loaded {requestId : ℕ} {loaded : SupportRequest}
    {change : SupportChange}
    (hcoherent : (SupportPhase.writing requestId loaded change).Coherent) : loaded.Coherent := by
  cases change with
  | resolve now => exact hcoherent.1
  | _ => exact hcoherent

/-- A commit leaves a coherent row unless it moves a thread that was resolved meanwhile. -/
theorem Standing.write_coherent_iff {loaded edited current : SupportRequest}
    (hstanding : Standing loaded edited) (hloaded : loaded.Coherent)
    (hcurrent : current.Coherent) :
    (Columns.write loaded edited current).Coherent ↔
      ¬ (loaded.status ≠ .resolved ∧ edited.status ≠ loaded.status ∧ edited.status ≠ .resolved ∧
        current.status = .resolved) := by
  have hstatus : (Columns.write loaded edited current).status =
      Relational.assign loaded.status edited.status current.status := rfl
  have hinstant : (Columns.write loaded edited current).resolvedAt =
      Relational.assign loaded.resolvedAt edited.resolvedAt current.resolvedAt := rfl
  unfold SupportRequest.Coherent
  rw [hstatus, hinstant]
  cases hstanding with
  | left hstatus hinstant =>
      refine iff_of_true ?_ fun hmoved => hmoved.2.1 hstatus
      rw [Relational.assign, if_pos hstatus, Relational.assign, if_pos hinstant]
      exact hcurrent
  | resolved hbefore hstatus hinstant =>
      refine iff_of_true ?_ fun hmoved => hmoved.2.2.1 hstatus
      have hnone := hloaded.resolvedAt_eq_none hbefore
      rw [assign_of_ne (hstatus ▸ Ne.symm hbefore),
        assign_of_ne (hnone ▸ Option.isSome_iff_ne_none.mp hinstant)]
      exact iff_of_true hstatus hinstant
  | reopened hbefore hstatus hinstant =>
      refine iff_of_true ?_ fun hmoved => hmoved.1 hbefore
      have hsome := Option.isSome_iff_ne_none.mp (hloaded.mp hbefore)
      rw [assign_of_ne (hbefore ▸ hstatus), assign_of_ne (hinstant ▸ Ne.symm hsome), hinstant]
      exact iff_of_false hstatus Bool.false_ne_true
  | moved hbefore hchanged hstatus hinstant =>
      -- the status is written and the instant is not
      rw [assign_of_ne hchanged, Relational.assign, if_pos hinstant]
      unfold SupportRequest.Coherent at hcurrent
      simp [hbefore, hchanged, hstatus, hcurrent]

/-! ## One turn -/

section Turns

variable {hashKey : List Char → String} {enableDevGateway : Bool}

theorem coherent_commit_iff {desk : SupportDesk} (hcoherent : desk.Coherent) {requestId : ℕ}
    {loaded : SupportRequest} {change : SupportChange}
    (hphase : (SupportPhase.writing requestId loaded change).Coherent) :
    (desk.commit requestId loaded change).Coherent ↔
      ¬ StaleReopen desk (.writing requestId loaded change) := by
  have hwritten : ∀ current, desk.requests.get? requestId = some current →
      ((Columns.write loaded (change.edit loaded) current).Coherent ↔ _) :=
    fun current hcurrent => (SupportChange.edit_standing hphase).write_coherent_iff hphase.loaded
      (hcoherent requestId current hcurrent)
  constructor
  · rintro hafter ⟨hbefore, hchanged, hstatus, current, hcurrent, hresolved⟩
    have hget : (desk.commit requestId loaded change).requests.get? requestId =
        some (Columns.write loaded (change.edit loaded) current) := by
      simp [SupportDesk.commit, hcurrent]
    exact (hwritten current hcurrent).mp (hafter requestId _ hget)
      ⟨hbefore, hchanged, hstatus, hresolved⟩
  · intro hstale other found hget
    simp only [SupportDesk.commit, Table.get?_update] at hget
    split at hget
    next hother =>
      subst hother
      obtain ⟨current, hcurrent, rfl⟩ := Option.map_eq_some_iff.mp hget
      apply (hwritten current hcurrent).mpr
      rintro ⟨hbefore, hchanged, hstatus, hresolved⟩
      exact hstale ⟨hbefore, hchanged, hstatus, current, hcurrent, hresolved⟩
    next => exact hcoherent other found hget

theorem SupportDesk.Coherent.openRequest {desk : SupportDesk} (hcoherent : desk.Coherent)
    (accountId : ℕ) (publicId : String) (priority : SupportPriority)
    (body : SupportRequestCreate) (stored : Instant) :
    (openRequest desk accountId publicId priority body stored).Coherent := by
  intro requestId request hget
  simp only [ChmabaPay.openRequest, Table.get?_insert] at hget
  split at hget
  next =>
    obtain rfl := Option.some.inj hget
    exact iff_of_false SupportStatus.noConfusion Bool.false_ne_true
  next => exact hcoherent requestId request hget

theorem SupportPhase.perform_coherent_iff {lag : ℕ} {desk : SupportDesk}
    (hcoherent : desk.Coherent) {phase : SupportPhase} (hphase : phase.Coherent) :
    (phase.perform hashKey enableDevGateway lag desk).1.Coherent ↔ ¬ StaleReopen desk phase := by
  cases phase with
  | opening accountId publicId priority body =>
      refine iff_of_true ?_ id
      rw [perform]
      split
      next => exact hcoherent
      next => exact hcoherent.openRequest accountId publicId priority body (desk.clock + lag)
  | writing requestId loaded change => exact coherent_commit_iff hcoherent hphase
  | _ => exact iff_of_true hcoherent id

theorem carried_coherent {desk : SupportDesk} (hcoherent : desk.Coherent) :
    Carried desk SupportPhase.Coherent where
  idle phase hidle := by
    cases phase with
    | assigning now actorId requestId loaded patch => cases hidle
    | writing requestId loaded change => cases hidle
    | _ => trivial
  assigning _ requestId loaded _ hget := hcoherent requestId loaded hget
  writing requestId loaded change hget _ _ hopen := by
    cases change with
    | resolve now => exact ⟨hcoherent requestId loaded hget, hopen now rfl⟩
    | _ => exact hcoherent requestId loaded hget
  checked _ _ _ _ _ hassigning := hassigning

theorem SupportPhase.advance_coherent_iff {desk : SupportDesk} (reading : DeskReading)
    (hcoherent : desk.Coherent) {phase : SupportPhase} (hphase : phase.Coherent) :
    (phase.advance hashKey enableDevGateway desk reading).1.Coherent ↔
      ¬ StaleReopen desk phase := by
  have hstale : StaleReopen { desk with clock := desk.clock + reading.elapsed } phase ↔
      StaleReopen desk phase := by
    cases phase <;> exact Iff.rfl
  have hlater : SupportDesk.Coherent { desk with clock := desk.clock + reading.elapsed } :=
    hcoherent
  exact (SupportPhase.perform_coherent_iff hlater hphase).trans (not_congr hstale)

theorem standing_preserved : Preserved (supportDesk hashKey enableDevGateway) (fun _ => True)
    (fun desk _ phase => ¬ StaleReopen desk phase) SupportDesk.Coherent
    fun _ phase => phase.Coherent where
  start desk request _ _ := by
    cases request <;> trivial
  own desk reading phase hcoherent hphase hstale := by
    refine ⟨(SupportPhase.advance_coherent_iff reading hcoherent hphase).mpr hstale, ?_⟩
    have hlater : SupportDesk.Coherent { desk with clock := desk.clock + reading.elapsed } :=
      hcoherent
    exact (carried_coherent hlater).perform reading.lag hphase
  other _ _ _ _ _ _ _ hbystander := hbystander

/-- From a coherent desk one turn leads to a coherent desk exactly when it reopens nothing
that was resolved meanwhile. -/
theorem coherent_next_iff {pool : SupportPool}
    (hpool : pool.Holds SupportDesk.Coherent fun _ phase => phase.Coherent)
    (turn : Turn DeskRequest DeskReading) :
    (next (supportDesk hashKey enableDevGateway).step pool turn).shared.Coherent ↔
      NoStaleReopen pool turn := by
  refine next_iff_meets SupportDesk.Coherent hpool.1 (fun reading phase hphase => ?_) turn
  exact SupportPhase.advance_coherent_iff reading hpool.1 (hpool.2 phase hphase)

end Turns

/-- After every part of a schedule each thread is resolved exactly when it has the instant of
it, in just those schedules where no session moves a thread between open and pending that it
loaded unresolved and that was resolved meanwhile. -/
theorem resolved_coherent_iff (hashKey : List Char → String) (enableDevGateway : Bool)
    (clock : Instant) (workspace : Workspace) (prioritySupport : ℕ → Bool)
    (turns : List (Turn DeskRequest DeskReading)) :
    (∀ first, first <+: turns →
      (supportRun hashKey enableDevGateway clock workspace prioritySupport first).shared.Coherent) ↔
      Along (supportDesk hashKey enableDevGateway).step NoStaleReopen
        ⟨SupportDesk.fresh clock workspace prioritySupport, []⟩ turns := by
  have hfresh : (SupportDesk.fresh clock workspace prioritySupport).Coherent :=
    fun _ _ hget => (Option.some_ne_none _ hget.symm).elim
  have hstart : Pool.Holds SupportDesk.Coherent (fun _ (phase : SupportPhase) => phase.Coherent)
      ⟨SupportDesk.fresh clock workspace prioritySupport, []⟩ :=
    Pool.holds_of_idle hfresh rfl
  refine (forall_run_iff_along (fun pool : SupportPool => pool.shared.Coherent) _ turns).trans ?_
  refine (and_iff_right hfresh).trans ?_
  exact along_congr_of_invariant
    (Pool.Holds SupportDesk.Coherent fun _ (phase : SupportPhase) => phase.Coherent) _
    NoStaleReopen (fun pool turn hpool => coherent_next_iff hpool turn)
    (fun pool turn hpool hmeets => standing_preserved.step pool turn hpool hmeets) hstart turns

end ChmabaPay
