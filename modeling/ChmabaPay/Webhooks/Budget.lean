import ChmabaPay.Webhooks.Overlap

/-! # One sender at a time

A sender that is through with one job before it takes the next, while merchants
edit their endpoints and new events come in. The scan sends only what waits for an
attempt at an active endpoint. The direct job looks at neither the endpoint nor the
budget, so a job the queue delivers again later posts to an endpoint that has been
disabled since, and beyond the last attempt. Where it is not run for such a
delivery, and no endpoint is disabled under a job that has read its rows, no POST
goes to a disabled endpoint, none for a failed delivery, and no delivery is sent
more often than its budget allows.
-/

namespace ChmabaPay

open Calendar Relational Execution

/-! ## The sender -/

structure SoloSender where
  outbox : Outbox
  sending : Sending

/-- A job is taken, the job in hand goes on, an event comes in, or a merchant edits
an endpoint. -/
inductive SoloTurn where
  | direct (worker deliveryId : ℕ)
  | scan (worker : ℕ) (batchSize : Int)
  | advance (reading : SendReading)
  | enqueueEvent (now : Instant) (paymentId : ℕ) (payment : Payment) (store : Store)
      (type : EventType)
  | updateWebhook (now : Instant) (endpointId : ℕ) (patch : WebhookPatch)

/-- A job is taken once the last one is over. -/
def SoloSender.take (sender : SoloSender) (worker : ℕ) (job : SendJob) : SoloSender :=
  match sender.sending.phase with
  | .closed => { sender with sending := .start (.job worker job) }
  | .begin _ | .deliver _ | .posted _ _ | .call _ => sender

def SoloSender.step (settings : Settings) (sender : SoloSender) :
    SoloTurn → SoloSender × Unit
  | .direct worker deliveryId => (sender.take worker (.direct deliveryId false), ())
  | .scan worker batchSize => (sender.take worker (.fanout batchSize), ())
  | .advance reading =>
      let moved := sender.sending.advance settings sender.outbox reading
      (⟨moved.1, moved.2⟩, ())
  | .enqueueEvent now paymentId payment store type =>
      ({ sender with
        outbox := OutboxCall.perform now sender.outbox
          (.enqueueEvent paymentId payment store type) }, ())
  | .updateWebhook now endpointId patch =>
      ({ sender with
        outbox := OutboxCall.perform now sender.outbox (.updateWebhook endpointId patch) }, ())

/-! ## What a POST may be sent for -/

def Exchange.isSent (deliveryId : ℕ) : Exchange → Bool
  | .sent other _ => decide (other = deliveryId)
  | .answered _ _ | .reset _ => false

/-- How often a delivery has been posted. -/
def postsOf (wire : List Exchange) (deliveryId : ℕ) : ℕ := wire.countP (Exchange.isSent deliveryId)

def Tables.endpointIsActive (tables : Tables) (delivery : EventDelivery) : Bool :=
  (tables.endpoints.get? delivery.endpointId).any (·.isActive)

/-- The delivery that the turn posts. -/
def SoloSender.posts (sender : SoloSender) : SoloTurn → Option ℕ
  | .advance _ => sender.sending.upNext.filter fun deliveryId =>
      (sender.sending.post sender.outbox.tables deliveryId).isSome
  | .direct _ _ | .scan _ _ | .enqueueEvent _ _ _ _ _ | .updateWebhook _ _ _ => none

/-- What is posted goes to an active endpoint, is not given up, and has been posted
less often than allowed. -/
def SoloSender.Lawful (settings : Settings) (sender : SoloSender) (turn : SoloTurn) : Prop :=
  ∀ deliveryId ∈ sender.posts turn, ∃ row ∈ sender.outbox.tables.deliveries.get? deliveryId,
    sender.outbox.tables.endpointIsActive row = true ∧ row.status ≠ .failed ∧
      (postsOf sender.outbox.wire deliveryId : Int) < settings.webhookMaxAttempts

/-- The delivery that a direct job takes up in the turn. -/
def SoloSender.taken (sender : SoloSender) (reading : SendReading) : Option EventDelivery :=
  match sender.sending.phase with
  | .begin (.direct deliveryId force) =>
      match checkDelivery reading.now sender.outbox.tables deliveryId force with
      | .due delivery => some delivery
      | .skipped _ | .raised _ => none
  | .begin (.fanout _) | .deliver _ | .posted _ _ | .call _ | .closed => none

/-- A direct job takes up only a delivery at an active endpoint that is not given up,
and an endpoint is disabled only when the job in hand has nothing left to send there. -/
def SoloSender.Fitting (sender : SoloSender) : SoloTurn → Prop
  | .advance reading => ∀ row ∈ sender.taken reading,
      sender.outbox.tables.endpointIsActive row = true ∧ row.status ≠ .failed
  | .updateWebhook _ endpointId patch => patch.enabled = some false →
      ∀ deliveryId ∈ sender.sending.waiting,
        ∀ row ∈ sender.outbox.tables.deliveries.get? deliveryId, row.endpointId ≠ endpointId
  | .direct _ _ | .scan _ _ | .enqueueEvent _ _ _ _ _ => True

instance (sender : SoloSender) : ∀ turn, Decidable (sender.Fitting turn)
  | .advance reading => inferInstanceAs (Decidable (∀ row ∈ sender.taken reading,
      sender.outbox.tables.endpointIsActive row = true ∧ row.status ≠ .failed))
  | .updateWebhook _ endpointId patch => inferInstanceAs (Decidable
      (patch.enabled = some false → ∀ deliveryId ∈ sender.sending.waiting,
        ∀ row ∈ sender.outbox.tables.deliveries.get? deliveryId, row.endpointId ≠ endpointId))
  | .direct _ _ | .scan _ _ | .enqueueEvent _ _ _ _ _ => inferInstanceAs (Decidable True)

instance (settings : Settings) (sender : SoloSender) (turn : SoloTurn) :
    Decidable (sender.Lawful settings turn) :=
  inferInstanceAs (Decidable (∀ deliveryId ∈ sender.posts turn,
    ∃ row ∈ sender.outbox.tables.deliveries.get? deliveryId,
      sender.outbox.tables.endpointIsActive row = true ∧ row.status ≠ .failed ∧
        (postsOf sender.outbox.wire deliveryId : Int) < settings.webhookMaxAttempts))

/-! ## What a run keeps -/

/-- The delivery waits for an attempt. -/
def EventDelivery.IsOpen (delivery : EventDelivery) : Prop :=
  delivery.status = .pending ∨ delivery.status = .retrying

instance (delivery : EventDelivery) : Decidable delivery.IsOpen :=
  inferInstanceAs (Decidable (_ ∨ _))

/-- The delivery whose POST is out. -/
def Sending.inFlight (sending : Sending) : Option ℕ :=
  match sending.phase with
  | .posted deliveryId _ => some deliveryId
  | .begin _ | .deliver _ | .call _ | .closed => none

/-- The row of a delivery as the job in hand left it, or as it is committed. -/
def Sending.row (sending : Sending) (committed : Table EventDelivery) (deliveryId : ℕ) :
    Option EventDelivery :=
  match sending.loaded.get? deliveryId with
  | none => committed.get? deliveryId
  | some _ => sending.edited.get? deliveryId

def SoloSender.row (sender : SoloSender) (deliveryId : ℕ) : Option EventDelivery :=
  sender.sending.row sender.outbox.tables.deliveries deliveryId

/-- The invariant: what the job in hand has loaded is still what is committed, every
POST is counted in its row, and a row that waits for an attempt has one left. -/
structure SoloSender.Kept (settings : Settings) (sender : SoloSender) : Prop where
  loaded : ∀ deliveryId row, sender.sending.loaded.get? deliveryId = some row →
    sender.outbox.tables.deliveries.get? deliveryId = some row ∧
      (sender.sending.edited.get? deliveryId).isSome
  unread : ∀ deliveryId, sender.sending.loaded.get? deliveryId = none →
    sender.sending.edited.get? deliveryId = none
  idle : sender.sending.isSending = false → ∀ deliveryId,
    sender.sending.loaded.get? deliveryId = none
  job : ∀ request, sender.sending.phase ≠ .call request
  fresh : ∀ deliveryId, sender.row deliveryId = none → postsOf sender.outbox.wire deliveryId = 0
  counted : ∀ deliveryId row, sender.row deliveryId = some row →
    postsOf sender.outbox.wire deliveryId ≤ row.attempts
  budget : ∀ deliveryId row, sender.row deliveryId = some row → row.IsOpen →
    sender.sending.inFlight ≠ some deliveryId → (row.attempts : Int) < settings.webhookMaxAttempts
  bounded : ∀ deliveryId,
    (postsOf sender.outbox.wire deliveryId : Int) ≤ settings.webhookMaxAttempts
  nodup : sender.sending.waiting.Nodup
  waiting : ∀ deliveryId ∈ sender.sending.waiting, sender.sending.inFlight ≠ some deliveryId ∧
    ∃ row, sender.sending.loaded.get? deliveryId = some row ∧
      sender.sending.edited.get? deliveryId = some row ∧ row.IsOpen ∧
      sender.outbox.tables.endpointIsActive row = true
  inFlight : ∀ deliveryId, sender.sending.inFlight = some deliveryId →
    (sender.sending.loaded.get? deliveryId).isSome

section Kept

variable {settings : Settings} {sender : SoloSender}

theorem Sending.row_of_loaded {sending : Sending} {deliveryId : ℕ} {row : EventDelivery}
    (hloaded : sending.loaded.get? deliveryId = some row) (committed : Table EventDelivery) :
    sending.row committed deliveryId = sending.edited.get? deliveryId := by
  rw [Sending.row, hloaded]

theorem Sending.row_of_unread {sending : Sending} {deliveryId : ℕ}
    (hloaded : sending.loaded.get? deliveryId = none) (committed : Table EventDelivery) :
    sending.row committed deliveryId = committed.get? deliveryId := by
  rw [Sending.row, hloaded]

/-- Posting a delivery counts it, and no other. -/
theorem postsOf_sent (wire : List Exchange) (deliveryId : ℕ) (post : WebhookPost) (other : ℕ) :
    postsOf (wire ++ [.sent deliveryId post]) other =
      postsOf wire other + if other = deliveryId then 1 else 0 := by
  simp [postsOf, List.countP_append, Exchange.isSent, List.countP_singleton, eq_comm]

@[simp] theorem postsOf_answered (wire : List Exchange) (deliveryId : ℕ) (answer : Answer)
    (other : ℕ) : postsOf (wire ++ [.answered deliveryId answer]) other = postsOf wire other := by
  simp [postsOf, List.countP_append, Exchange.isSent]

/-- A session between jobs, or one that has only read. -/
theorem SoloSender.Kept.read (hkept : sender.Kept settings)
    (hidle : sender.sending.isSending = false) {moved : Sending} {scanning : List ℕ}
    (hsame : moved.edited = moved.loaded)
    (hloaded : ∀ deliveryId row, moved.loaded.get? deliveryId = some row →
      sender.outbox.tables.deliveries.get? deliveryId = some row)
    (hunread : moved.isSending = false → ∀ deliveryId, moved.loaded.get? deliveryId = none)
    (hjob : ∀ request, moved.phase ≠ .call request) (hflight : moved.inFlight = none)
    (hnodup : moved.waiting.Nodup)
    (hwaiting : ∀ deliveryId ∈ moved.waiting, ∃ row, moved.loaded.get? deliveryId = some row ∧
      row.IsOpen ∧ sender.outbox.tables.endpointIsActive row = true) :
    SoloSender.Kept settings ⟨{ sender.outbox with scanning := scanning }, moved⟩ := by
  have hrow : ∀ deliveryId, moved.row sender.outbox.tables.deliveries deliveryId =
      sender.row deliveryId := by
    intro deliveryId
    rw [SoloSender.row, Sending.row_of_unread (hkept.idle hidle deliveryId), Sending.row]
    split
    · rfl
    · next row hget => rw [hsame, hget, hloaded deliveryId row hget]
  have hnone : ∀ deliveryId, sender.sending.inFlight ≠ some deliveryId := by
    intro deliveryId hposted
    have hsome := hkept.inFlight deliveryId hposted
    rw [hkept.idle hidle] at hsome
    cases hsome
  refine ⟨fun deliveryId row hget => ⟨hloaded deliveryId row hget, ?_⟩, fun deliveryId hget => ?_,
    hunread, hjob, fun deliveryId hget => hkept.fresh deliveryId (hrow deliveryId ▸ hget),
    fun deliveryId row hget => hkept.counted deliveryId row (hrow deliveryId ▸ hget),
    fun deliveryId row hget hopen _ =>
      hkept.budget deliveryId row (hrow deliveryId ▸ hget) hopen (hnone deliveryId),
    hkept.bounded, hnodup, fun deliveryId hmem => ?_, fun deliveryId hposted => ?_⟩
  · rw [hsame]
    exact Option.isSome_iff_exists.mpr ⟨row, hget⟩
  · rw [hsame]
    exact hget
  · obtain ⟨row, hget, hopen, hactive⟩ := hwaiting deliveryId hmem
    refine ⟨by rw [hflight]; nofun, row, hget, ?_, hopen, hactive⟩
    rw [hsame]
    exact hget
  · rw [hflight] at hposted
    cases hposted

/-- The job in hand edits the row of one delivery. -/
theorem SoloSender.Kept.edit (hkept : sender.Kept settings) {deliveryId : ℕ}
    {loaded row : EventDelivery}
    (hloaded : sender.sending.loaded.get? deliveryId = some loaded)
    (hedited : sender.sending.edited.get? deliveryId = some row)
    {change : EventDelivery → EventDelivery} {phase : SendPhase} {wire : List Exchange}
    (hsending : (sender.sending.edit deliveryId change phase).isSending = true)
    (hothers : ∀ other, other ≠ deliveryId →
      postsOf wire other = postsOf sender.outbox.wire other ∧
      sender.sending.inFlight ≠ some other ∧
      (sender.sending.edit deliveryId change phase).inFlight ≠ some other)
    (hcounted : postsOf wire deliveryId ≤ (change row).attempts)
    (hbudget : (change row).IsOpen →
      (sender.sending.edit deliveryId change phase).inFlight ≠ some deliveryId →
      ((change row).attempts : Int) < settings.webhookMaxAttempts)
    (hbounded : (postsOf wire deliveryId : Int) ≤ settings.webhookMaxAttempts)
    (hnodup : (sender.sending.edit deliveryId change phase).waiting.Nodup)
    (hsub : ∀ other ∈ (sender.sending.edit deliveryId change phase).waiting,
      other ≠ deliveryId ∧ other ∈ sender.sending.waiting) :
    SoloSender.Kept settings ⟨{ sender.outbox with wire := wire },
      sender.sending.edit deliveryId change phase⟩ := by
  set moved := sender.sending.edit deliveryId change phase with hmoved
  have hnow : moved.edited.get? deliveryId = some (change row) := by
    simp [hmoved, Sending.edit, hedited]
  have hkeeps : ∀ other, other ≠ deliveryId →
      moved.edited.get? other = sender.sending.edited.get? other := by
    intro other hne
    simp [hmoved, Sending.edit, hne]
  have hrow : ∀ other, other ≠ deliveryId →
      moved.row sender.outbox.tables.deliveries other = sender.row other := by
    intro other hne
    rw [SoloSender.row, Sending.row, Sending.row, hkeeps other hne]
    rfl
  have hrowNow : moved.row sender.outbox.tables.deliveries deliveryId = some (change row) := by
    rw [← hnow]
    have hstill : moved.loaded.get? deliveryId = some loaded := hloaded
    exact Sending.row_of_loaded hstill _
  refine ⟨fun other before hget => ?_, fun other hget => ?_, fun hidle => ?_, fun request => ?_,
    fun other hget => ?_, fun other after hget => ?_, fun other after hget hopen hout => ?_,
    fun other => ?_, hnodup, fun other hmem => ?_, fun other hposted => ?_⟩
  · obtain ⟨hcommitted, hsome⟩ := hkept.loaded other before hget
    refine ⟨hcommitted, ?_⟩
    by_cases hne : other = deliveryId
    · exact Option.isSome_iff_exists.mpr ⟨_, hne ▸ hnow⟩
    · rw [hkeeps other hne]
      exact hsome
  · have hne : other ≠ deliveryId := by
      rintro rfl
      rw [show moved.loaded = sender.sending.loaded from rfl, hloaded] at hget
      cases hget
    rw [hkeeps other hne]
    exact hkept.unread other hget
  · rw [hidle] at hsending
    cases hsending
  · intro hcall
    rw [Sending.isSending, hcall] at hsending
    cases hsending
  · have hne : other ≠ deliveryId := by
      rintro rfl
      exact Option.some_ne_none _ (hrowNow.symm.trans hget)
    rw [(hothers other hne).1]
    exact hkept.fresh other (hrow other hne ▸ hget)
  · by_cases hne : other = deliveryId
    · subst hne
      obtain rfl := Option.some.inj (hrowNow.symm.trans hget)
      exact hcounted
    · rw [(hothers other hne).1]
      exact hkept.counted other after (hrow other hne ▸ hget)
  · by_cases hne : other = deliveryId
    · subst hne
      obtain rfl := Option.some.inj (hrowNow.symm.trans hget)
      exact hbudget hopen hout
    · exact hkept.budget other after (hrow other hne ▸ hget) hopen (hothers other hne).2.1
  · by_cases hne : other = deliveryId
    · rw [hne]
      exact hbounded
    · rw [(hothers other hne).1]
      exact hkept.bounded other
  · obtain ⟨hne, hbefore⟩ := hsub other hmem
    obtain ⟨-, found, hfound, hheld, hopen, hactive⟩ := hkept.waiting other hbefore
    exact ⟨(hothers other hne).2.2, found, hfound, (hkeeps other hne).trans hheld, hopen, hactive⟩
  · by_cases hne : other = deliveryId
    · rw [hne]
      exact Option.isSome_iff_exists.mpr ⟨loaded, hloaded⟩
    · exact absurd hposted (hothers other hne).2.2

/-- The commit leaves every row as the job left it. -/
theorem SoloSender.Kept.commit (hkept : sender.Kept settings)
    (hphase : sender.sending.phase = .deliver []) :
    SoloSender.Kept settings ⟨sender.outbox.commit sender.sending, sender.sending.close⟩ := by
  have hrow : ∀ deliveryId, SoloSender.row
      ⟨sender.outbox.commit sender.sending, sender.sending.close⟩ deliveryId =
        sender.row deliveryId := by
    intro deliveryId
    rw [SoloSender.row, Sending.row_of_unread rfl, Outbox.commit_get?, SoloSender.row,
      Sending.row]
    split
    · next hnone => rw [hkept.unread deliveryId hnone, hnone, writeRow_self]
    · next row hloaded =>
      rw [(hkept.loaded deliveryId row hloaded).1, hloaded]
      exact writeRow_loaded nofun
  have hnone : ∀ deliveryId, sender.sending.inFlight ≠ some deliveryId := by
    intro deliveryId hposted
    rw [Sending.inFlight, hphase] at hposted
    cases hposted
  have hempty : ∀ deliveryId, sender.sending.close.loaded.get? deliveryId = none :=
    fun _ => rfl
  refine ⟨fun deliveryId row hget => ?_, fun _ _ => rfl, fun _ => hempty, fun request => ?_,
    fun deliveryId hget => ?_, fun deliveryId row hget => ?_,
    fun deliveryId row hget hopen _ => ?_, hkept.bounded, List.nodup_nil,
    fun deliveryId hmem => ?_, fun deliveryId hposted => ?_⟩
  · rw [hempty] at hget
    cases hget
  · nofun
  · exact hkept.fresh deliveryId ((hrow deliveryId).symm.trans hget)
  · exact hkept.counted deliveryId row ((hrow deliveryId).symm.trans hget)
  · exact hkept.budget deliveryId row ((hrow deliveryId).symm.trans hget) hopen
      (hnone deliveryId)
  · cases hmem
  · cases hposted

/-- New deliveries have not been posted. -/
theorem SoloSender.Kept.enqueueEvent (hkept : sender.Kept settings)
    (hpositive : 0 < settings.webhookMaxAttempts) (now : Instant) (paymentId : ℕ)
    (payment : Payment) (store : Store) (type : EventType) :
    SoloSender.Kept settings { sender with
      outbox := OutboxCall.perform now sender.outbox
        (.enqueueEvent paymentId payment store type) } := by
  set tables := ChmabaPay.enqueueEvent now sender.outbox.tables paymentId payment store type
    with htables
  have hstays : ∀ deliveryId row, sender.outbox.tables.deliveries.get? deliveryId = some row →
      tables.deliveries.get? deliveryId = some row := fun deliveryId row hget =>
    enqueueEvent_deliveries_get? hget now paymentId payment store type
  have hrow : ∀ deliveryId row, sender.sending.row tables.deliveries deliveryId = some row →
      sender.row deliveryId = some row ∨ sender.row deliveryId = none ∧ row.attempts = 0 := by
    intro deliveryId row hget
    rw [SoloSender.row]
    cases hloaded : sender.sending.loaded.get? deliveryId with
    | none =>
        rw [Sending.row_of_unread hloaded] at hget ⊢
        exact enqueueEvent_deliveries_cases hget
    | some loaded =>
        rw [Sending.row_of_loaded hloaded] at hget ⊢
        exact .inl hget
  have hnone : ∀ deliveryId, sender.sending.row tables.deliveries deliveryId = none →
      sender.row deliveryId = none := by
    intro deliveryId hget
    rw [SoloSender.row]
    cases hloaded : sender.sending.loaded.get? deliveryId with
    | none =>
        rw [Sending.row_of_unread hloaded] at hget ⊢
        by_contra hsome
        obtain ⟨old, hold⟩ := Option.ne_none_iff_exists'.mp hsome
        exact Option.some_ne_none old ((hstays deliveryId old hold).symm.trans hget)
    | some loaded =>
        rw [Sending.row_of_loaded hloaded] at hget ⊢
        exact hget
  refine ⟨fun deliveryId row hget => ?_, hkept.unread, hkept.idle, hkept.job,
    fun deliveryId hget => hkept.fresh deliveryId (hnone deliveryId hget),
    fun deliveryId row hget => ?_, fun deliveryId row hget hopen hout => ?_, hkept.bounded,
    hkept.nodup, hkept.waiting, hkept.inFlight⟩
  · obtain ⟨hcommitted, hsome⟩ := hkept.loaded deliveryId row hget
    exact ⟨hstays deliveryId row hcommitted, hsome⟩
  · rcases hrow deliveryId row hget with hbefore | ⟨hnew, hattempts⟩
    · exact hkept.counted deliveryId row hbefore
    · rw [hattempts]
      exact (hkept.fresh deliveryId hnew).le
  · rcases hrow deliveryId row hget with hbefore | ⟨hnew, hattempts⟩
    · exact hkept.budget deliveryId row hbefore hopen hout
    · rw [hattempts]
      exact hpositive

/-- Nothing that is still to be sent loses its endpoint. -/
theorem SoloSender.Kept.updateWebhook (hkept : sender.Kept settings) (now : Instant)
    {endpointId : ℕ} {patch : WebhookPatch}
    (hfitting : sender.Fitting (.updateWebhook now endpointId patch)) :
    SoloSender.Kept settings { sender with
      outbox := OutboxCall.perform now sender.outbox (.updateWebhook endpointId patch) } := by
  refine ⟨hkept.loaded, hkept.unread, hkept.idle, hkept.job, hkept.fresh, hkept.counted,
    hkept.budget, hkept.bounded, hkept.nodup, fun deliveryId hmem => ?_, hkept.inFlight⟩
  obtain ⟨hout, row, hloaded, hedited, hopen, hactive⟩ := hkept.waiting deliveryId hmem
  refine ⟨hout, row, hloaded, hedited, hopen, ?_⟩
  -- an edit disables only an endpoint that is none of those still to be posted to
  change (Table.get? (sender.outbox.tables.endpoints.update endpointId _)
    row.endpointId).any (·.isActive) = true
  rw [Table.get?_update]
  split
  · next hsame =>
    have hdisabled : patch.enabled ≠ some false := fun hdisabled =>
      hfitting hdisabled deliveryId hmem row (hkept.loaded deliveryId row hloaded).1 hsame
    obtain ⟨endpoint, hendpoint, henabled⟩ := (Option.any_eq_true _ _).mp hactive
    rw [hendpoint]
    cases hpatch : patch.enabled with
    | none => exact henabled
    | some enabled =>
        cases enabled with
        | true => rfl
        | false => exact absurd hpatch hdisabled
  · exact hactive

/-- What stands next in line has an attempt left, at an active endpoint. -/
theorem SoloSender.Kept.upNext (hkept : sender.Kept settings) {deliveryId : ℕ}
    {waiting : List ℕ} (hphase : sender.sending.phase = .deliver (deliveryId :: waiting)) :
    deliveryId ∉ waiting ∧ waiting.Nodup ∧
      ∃ row, sender.outbox.tables.deliveries.get? deliveryId = some row ∧
        sender.sending.loaded.get? deliveryId = some row ∧
        sender.sending.edited.get? deliveryId = some row ∧ row.IsOpen ∧
        sender.outbox.tables.endpointIsActive row = true ∧
        postsOf sender.outbox.wire deliveryId ≤ row.attempts ∧
        (row.attempts : Int) < settings.webhookMaxAttempts := by
  have hwaiting : sender.sending.waiting = deliveryId :: waiting := by
    rw [Sending.waiting, hphase]
  obtain ⟨hnotin, hnodup⟩ := List.nodup_cons.mp (hwaiting ▸ hkept.nodup)
  obtain ⟨hout, row, hloaded, hedited, hopen, hactive⟩ :=
    hkept.waiting deliveryId (hwaiting ▸ List.mem_cons_self)
  have hrow : sender.row deliveryId = some row :=
    (Sending.row_of_loaded hloaded _).trans hedited
  exact ⟨hnotin, hnodup, row, (hkept.loaded deliveryId row hloaded).1, hloaded, hedited, hopen,
    hactive, hkept.counted deliveryId row hrow, hkept.budget deliveryId row hrow hopen hout⟩

theorem Sending.inFlight_ne_of_none {sending : Sending} (hflight : sending.inFlight = none)
    (deliveryId : ℕ) : sending.inFlight ≠ some deliveryId := by
  rw [hflight]
  exact (Option.some_ne_none deliveryId).symm

theorem SoloSender.Kept.advance (hkept : sender.Kept settings) (reading : SendReading)
    (hfitting : sender.Fitting (.advance reading)) :
    SoloSender.Kept settings (next (SoloSender.step settings) sender (.advance reading)) := by
  change SoloSender.Kept settings ⟨(sender.sending.advance settings sender.outbox reading).1,
    (sender.sending.advance settings sender.outbox reading).2⟩
  generalize hmove : sender.sending.advance settings sender.outbox reading = moved
  have hmoved := hmove ▸ sender.sending.moved settings sender.outbox reading
  have hnotSending : ∀ job, sender.sending.phase = .begin job →
      sender.sending.isSending = false := by
    intro job hphase
    rw [Sending.isSending, hphase]
  cases hmoved with
  | ended hphase => exact hkept
  | skipped job hphase =>
      have hempty : ∀ deliveryId, sender.sending.close.loaded.get? deliveryId = none :=
        fun _ => rfl
      refine hkept.read (hnotSending job hphase) rfl (fun deliveryId row hget => ?_)
        (fun _ => hempty) (fun request hcall => ?_) rfl List.nodup_nil (fun deliveryId hmem => ?_)
      · rw [hempty] at hget
        cases hget
      · cases hcall
      · cases hmem
  | checked deliveryId force delivery hphase hdue =>
      have htaken : sender.taken reading = some delivery := by
        simp only [SoloSender.taken, hphase, hdue]
      obtain ⟨hactive, hfailed⟩ := hfitting delivery htaken
      obtain ⟨hcommitted, hsuccess⟩ := checkDelivery_eq_due hdue
      have hopen : delivery.IsOpen := by
        cases hstatus : delivery.status with
        | pending => exact .inl hstatus
        | retrying => exact .inr hstatus
        | success => exact absurd hstatus hsuccess
        | failed => exact absurd hstatus hfailed
      refine hkept.read (hnotSending _ hphase) rfl (fun _ _ hget => hget) (fun hidle => ?_)
        (fun request hcall => ?_) rfl (List.nodup_singleton _) fun other hmem => ?_
      · cases hidle
      · cases hcall
      · rw [List.mem_singleton.mp hmem]
        exact ⟨delivery, hcommitted, hopen, hactive⟩
  | scanned batchSize hphase =>
      refine hkept.read (hnotSending _ hphase) rfl (fun _ _ hget => hget) (fun hidle => ?_)
        (fun request hcall => ?_) rfl (nodup_dueDeliveries _ _ _) fun deliveryId hmem => ?_
      · cases hidle
      · cases hcall
      · obtain ⟨delivery, hcommitted, hdue⟩ := mem_dueDeliveries hmem
        obtain ⟨⟨endpoint, hendpoint, hactive⟩, hopen⟩ := isDue_eq_true hdue
        refine ⟨delivery, hcommitted, hopen, ?_⟩
        rw [Tables.endpointIsActive, hendpoint]
        exact hactive
  | committed hphase => exact hkept.commit hphase
  | orphaned deliveryId waiting hphase hpost =>
      obtain ⟨hnotin, hnodup, row, -, hloaded, hedited, -, -, hcounted, -⟩ :=
        hkept.upNext hphase
      have hflight : sender.sending.inFlight = none := by rw [Sending.inFlight, hphase]
      change SoloSender.Kept settings ⟨{ sender.outbox with wire := sender.outbox.wire }, _⟩
      refine hkept.edit hloaded hedited rfl
        (fun other _ => ⟨rfl, Sending.inFlight_ne_of_none hflight other, fun hposted => ?_⟩)
        hcounted (fun hopen _ => ?_) (hkept.bounded deliveryId) hnodup
        fun other hmem => ⟨fun heq => hnotin (heq ▸ hmem), ?_⟩
      · cases hposted
      · rcases hopen with hstatus | hstatus <;> cases hstatus
      · rw [Sending.waiting, hphase]
        exact List.mem_cons_of_mem _ hmem
  | sent deliveryId waiting post hphase hpost =>
      obtain ⟨hnotin, hnodup, row, -, hloaded, hedited, -, -, hcounted, hbudget⟩ :=
        hkept.upNext hphase
      have hflight : sender.sending.inFlight = none := by rw [Sending.inFlight, hphase]
      have hposts := postsOf_sent sender.outbox.wire deliveryId post deliveryId
      rw [if_pos rfl] at hposts
      refine hkept.edit hloaded hedited rfl
        (fun other hne => ⟨?_, Sending.inFlight_ne_of_none hflight other, ?_⟩)
        ?_ (fun _ hout => absurd rfl hout) ?_ hnodup
        fun other hmem => ⟨fun heq => hnotin (heq ▸ hmem), ?_⟩
      · rw [postsOf_sent, if_neg hne, Nat.add_zero]
      · exact fun hposted => hne (Option.some.inj hposted).symm
      · rw [hposts]
        exact Nat.succ_le_succ hcounted
      · rw [hposts]
        omega
      · rw [Sending.waiting, hphase]
        exact List.mem_cons_of_mem _ hmem
  | answered deliveryId waiting hphase =>
      have hflight : sender.sending.inFlight = some deliveryId := by
        rw [Sending.inFlight, hphase]
      have hwaiting : sender.sending.waiting = waiting := by rw [Sending.waiting, hphase]
      obtain ⟨loaded, hloaded⟩ := Option.isSome_iff_exists.mp (hkept.inFlight deliveryId hflight)
      obtain ⟨row, hedited⟩ :=
        Option.isSome_iff_exists.mp (hkept.loaded deliveryId loaded hloaded).2
      have hcounted := hkept.counted deliveryId row
        ((Sending.row_of_loaded hloaded _).trans hedited)
      refine hkept.edit hloaded hedited rfl
        (fun other hne => ⟨postsOf_answered _ _ _ _, ?_, fun hposted => ?_⟩) ?_
        (fun hopen _ => ?_) ?_ (hwaiting ▸ hkept.nodup) fun other hmem => ?_
      · rw [hflight]
        exact fun hposted => hne (Option.some.inj hposted).symm
      · cases hposted
      · rw [postsOf_answered, EventDelivery.conclude_attempts]
        exact hcounted
      · -- a row that is to be tried again was found to have an attempt left
        rw [EventDelivery.conclude_attempts]
        rcases row.conclude_budget settings reading.now reading.answer with
          hstatus | hstatus | ⟨-, hbudget⟩
        · rcases hopen with hwaits | hwaits <;> rw [hstatus] at hwaits <;> cases hwaits
        · rcases hopen with hwaits | hwaits <;> rw [hstatus] at hwaits <;> cases hwaits
        · exact hbudget
      · rw [postsOf_answered]
        exact hkept.bounded deliveryId
      · have hbefore : other ∈ sender.sending.waiting := hwaiting.symm ▸ hmem
        refine ⟨fun heq => (hkept.waiting other hbefore).1 ?_, hbefore⟩
        rw [heq, hflight]
  | called request hphase => exact absurd hphase (hkept.job request)

theorem SoloSender.Kept.take (hkept : sender.Kept settings) (worker : ℕ) (job : SendJob) :
    (sender.take worker job).Kept settings := by
  unfold SoloSender.take
  split
  · next hphase =>
    have hidle : sender.sending.isSending = false := by rw [Sending.isSending, hphase]
    have hempty : ∀ deliveryId,
        (Sending.start (.job worker job)).loaded.get? deliveryId = none := fun _ => rfl
    refine hkept.read hidle rfl (fun deliveryId row hget => ?_) (fun _ => hempty)
      (fun request hcall => ?_) rfl List.nodup_nil (fun deliveryId hmem => ?_)
    · rw [hempty] at hget
      cases hget
    · cases hcall
    · cases hmem
  · exact hkept
  · exact hkept
  · exact hkept
  · exact hkept

theorem SoloSender.Kept.step (hpositive : 0 < settings.webhookMaxAttempts)
    (hkept : sender.Kept settings) (turn : SoloTurn) (hfitting : sender.Fitting turn) :
    SoloSender.Kept settings (next (SoloSender.step settings) sender turn) := by
  cases turn with
  | direct worker deliveryId => exact hkept.take worker (.direct deliveryId false)
  | scan worker batchSize => exact hkept.take worker (.fanout batchSize)
  | advance reading => exact hkept.advance reading hfitting
  | enqueueEvent now paymentId payment store type =>
      exact hkept.enqueueEvent hpositive now paymentId payment store type
  | updateWebhook now endpointId patch => exact hkept.updateWebhook now hfitting

theorem SoloSender.Kept.lawful (hkept : sender.Kept settings) (turn : SoloTurn) :
    sender.Lawful settings turn := by
  intro deliveryId hposts
  cases turn with
  | advance reading =>
      obtain ⟨hnext, -⟩ := Option.mem_filter_iff.mp hposts
      have hphase : ∃ waiting, sender.sending.phase = .deliver (deliveryId :: waiting) := by
        unfold Sending.upNext at hnext
        split at hnext
        · next waiting hphase =>
          cases hnext
          exact ⟨waiting, hphase⟩
        all_goals cases hnext
      obtain ⟨waiting, hphase⟩ := hphase
      obtain ⟨-, -, row, hcommitted, -, -, hopen, hactive, hcounted, hbudget⟩ :=
        hkept.upNext hphase
      refine ⟨row, hcommitted, hactive, fun hfailed => ?_, by omega⟩
      rcases hopen with hwaits | hwaits <;> rw [hfailed] at hwaits <;> cases hwaits
  | direct worker id => cases hposts
  | scan worker batchSize => cases hposts
  | enqueueEvent now paymentId payment store type => cases hposts
  | updateWebhook now endpointId patch => cases hposts

end Kept

/-! ## Every run -/

/-- Between jobs, with nothing on the wire, and with an attempt left on every row
that waits for one. -/
structure SoloSender.Initial (settings : Settings) (sender : SoloSender) : Prop where
  closed : sender.sending = sender.sending.close
  wire : sender.outbox.wire = []
  budget : ∀ row ∈ sender.outbox.tables.deliveries.rows, row.2.IsOpen →
    (row.2.attempts : Int) < settings.webhookMaxAttempts

theorem SoloSender.Initial.kept {settings : Settings} {sender : SoloSender}
    (hinitial : sender.Initial settings) (hpositive : 0 < settings.webhookMaxAttempts) :
    sender.Kept settings := by
  have hempty : ∀ deliveryId, sender.sending.loaded.get? deliveryId = none := by
    intro deliveryId
    rw [hinitial.closed]
    rfl
  have hposts : ∀ deliveryId, postsOf sender.outbox.wire deliveryId = 0 := by
    intro deliveryId
    rw [hinitial.wire]
    rfl
  have hwaiting : sender.sending.waiting = [] := by
    rw [hinitial.closed]
    rfl
  refine ⟨fun deliveryId row hget => ?_, fun deliveryId _ => ?_, fun _ => hempty,
    fun request hcall => ?_, fun deliveryId _ => hposts deliveryId, fun deliveryId row _ => ?_,
    fun deliveryId row hrow hopen _ => ?_, fun deliveryId => ?_, ?_, fun deliveryId hmem => ?_,
    fun deliveryId hposted => ?_⟩
  · rw [hempty] at hget
    cases hget
  · rw [hinitial.closed]
    rfl
  · rw [hinitial.closed] at hcall
    cases hcall
  · rw [hposts]
    exact Nat.zero_le _
  · rw [SoloSender.row, Sending.row_of_unread (hempty deliveryId)] at hrow
    exact hinitial.budget (deliveryId, row) (Table.get?_eq_some_iff.mp hrow) hopen
  · rw [hposts]
    exact hpositive.le
  · rw [hwaiting]
    exact List.nodup_nil
  · rw [hwaiting] at hmem
    cases hmem
  · rw [hinitial.closed] at hposted
    cases hposted

/-- One sender at a time, with at least one attempt to spend: when no direct job is
run for a delivery that is given up or whose endpoint is disabled, and no endpoint is
disabled under a job that still has to post to it, every POST goes to an active
endpoint, none is sent for a delivery that is given up, and no delivery is ever
posted more often than its budget allows. -/
theorem posts_within_budget {settings : Settings}
    (hpositive : 0 < settings.webhookMaxAttempts) {sender : SoloSender}
    (hinitial : sender.Initial settings) {turns : List SoloTurn}
    (hfitting : Along (SoloSender.step settings) SoloSender.Fitting sender turns) :
    Along (SoloSender.step settings) (SoloSender.Lawful settings) sender turns ∧
      ∀ deliveryId, (postsOf (run (SoloSender.step settings) sender turns).outbox.wire
        deliveryId : Int) ≤ settings.webhookMaxAttempts := by
  have hkept := hinitial.kept hpositive
  have hstep := fun sender turn (hkept : SoloSender.Kept settings sender)
    (hfitting : sender.Fitting turn) => hkept.step hpositive turn hfitting
  refine ⟨?_, (run_invariant_of_along _ _ hstep hkept hfitting).bounded⟩
  exact along_of_invariant _ _ _ hstep (fun _ turn hkept _ => hkept.lawful turn) hkept hfitting

/-- The shop's sender before its first job. -/
def Specimen.soloSender : SoloSender where
  outbox := Specimen.outbox
  sending := (Sending.start (.job 0 (.fanout 20))).close

/-- The shop turns its endpoint on or off. -/
def Specimen.enable (enabled : Bool) : SoloTurn :=
  .updateWebhook (seconds 130) 0 ⟨none, none, some enabled⟩

/-- The scan is refused once, the endpoint is off for a while, and the queue's direct
job delivers when the retry is due. -/
def offForAWhile : List SoloTurn :=
  .scan 0 20 :: (List.replicate 4 (.advance (Specimen.reading 121 503))) ++
  Specimen.enable false :: .scan 0 20 :: List.replicate 2 (.advance (Specimen.reading 131 0)) ++
  Specimen.enable true :: .direct 0 0 :: List.replicate 4 (.advance (Specimen.reading 132 200))

/-- The shop turns its endpoint off before the direct job of a new delivery runs. -/
def offBeforeTheJob : List SoloTurn :=
  [Specimen.enable false, .direct 0 0, .advance (Specimen.reading 131 0),
    .advance (Specimen.reading 131 0)]

theorem posts_within_budget_off_for_a_while :
    postsOf (run (SoloSender.step {}) Specimen.soloSender offForAWhile).outbox.wire 0 = 2 ∧
      Along (SoloSender.step {}) (SoloSender.Lawful {}) Specimen.soloSender offForAWhile ∧
      ∀ deliveryId, (postsOf (run (SoloSender.step {}) Specimen.soloSender
        offForAWhile).outbox.wire deliveryId : Int) ≤ 8 :=
  ⟨by decide +kernel, posts_within_budget (by decide) ⟨rfl, rfl, by decide +kernel⟩
    (by decide +kernel)⟩

theorem disabled_endpoint_posted :
    ¬ Along (SoloSender.step {}) (SoloSender.Lawful {}) Specimen.soloSender offBeforeTheJob := by
  decide +kernel

end ChmabaPay
