import ChmabaPay.Workers.WebhookSender

/-! # What a step of the webhook sender does

Every step of a session is one of eight moves. Beside them stand the facts about
the exchanges on the wire that the properties of the sender read.
-/

namespace ChmabaPay

open Calendar Relational

/-! ## Deliveries that are taken up -/

theorem checkDelivery_eq_due {now : Instant} {tables : Tables} {deliveryId : ℕ} {force : Bool}
    {delivery : EventDelivery}
    (hdue : checkDelivery now tables deliveryId force = .due delivery) :
    tables.deliveries.get? deliveryId = some delivery ∧ delivery.status ≠ .success := by
  unfold checkDelivery at hdue
  split at hdue
  · cases hdue
  · next row hrow =>
    split at hdue
    · cases hdue
    next hstatus =>
      split at hdue
      · cases hdue
      · cases hdue
        exact ⟨hrow, hstatus⟩

theorem mem_dueDeliveries {now : Instant} {tables : Tables} {batchSize : Int} {deliveryId : ℕ}
    (hmem : deliveryId ∈ dueDeliveries now tables batchSize) :
    ∃ delivery, tables.deliveries.get? deliveryId = some delivery ∧
      isDue now tables delivery = true := by
  obtain ⟨⟨key, delivery⟩, hselected, rfl⟩ := List.mem_map.mp (List.mem_of_mem_take hmem)
  exact ⟨delivery, Table.mem_select.mp hselected⟩

theorem nodup_dueDeliveries (now : Instant) (tables : Tables) (batchSize : Int) :
    (dueDeliveries now tables batchSize).Nodup := by
  have hsorted : ((tables.deliveries.select fun _ delivery =>
      isDue now tables delivery).map Prod.fst).Pairwise (· < ·) :=
    List.pairwise_map.mpr (tables.deliveries.sorted.filter _)
  exact (hsorted.imp fun hlt => Nat.ne_of_lt hlt).sublist (List.take_sublist _ _)

theorem isDue_eq_true {now : Instant} {tables : Tables} {delivery : EventDelivery}
    (hdue : isDue now tables delivery = true) :
    (∃ endpoint, tables.endpoints.get? delivery.endpointId = some endpoint ∧
      endpoint.isActive = true) ∧
    (delivery.status = .pending ∨ delivery.status = .retrying) := by
  simp only [isDue, Bool.and_eq_true, Bool.or_eq_true, decide_eq_true_eq, Option.any_eq_true]
    at hdue
  exact hdue.1

/-! ## Rows -/

namespace EventDelivery

variable (settings : Settings) (now : Instant) (answer : Answer) (delivery : EventDelivery)

@[simp] theorem conclude_attempts :
    (delivery.conclude settings now answer).attempts = delivery.attempts := by
  unfold conclude
  split
  · rfl
  · split <;> rfl

@[simp] theorem conclude_endpointId :
    (delivery.conclude settings now answer).endpointId = delivery.endpointId := by
  unfold conclude
  split
  · rfl
  · split <;> rfl

/-- A row still to be tried has attempts left. -/
theorem conclude_budget :
    (delivery.conclude settings now answer).status = .success ∨
    (delivery.conclude settings now answer).status = .failed ∨
    (delivery.conclude settings now answer).status = .retrying ∧
      (delivery.attempts : Int) < settings.webhookMaxAttempts := by
  unfold conclude
  split
  · exact .inl rfl
  · split
    · exact .inr (.inl rfl)
    · next hbudget => exact .inr (.inr ⟨rfl, not_le.mp hbudget⟩)

variable {settings now answer delivery}

theorem conclude_status_of_success (hsuccess : answer.isSuccess = true) :
    (delivery.conclude settings now answer).status = .success := by
  simp [conclude, hsuccess]

end EventDelivery

/-! ## New events -/

theorem scheduleDelivery_get? {eventId key : ℕ} {deliveries : Table EventDelivery}
    {row : EventDelivery} (hrow : deliveries.get? key = some row)
    (endpoint : ℕ × WebhookEndpoint) :
    (scheduleDelivery eventId deliveries endpoint).get? key = some row := by
  unfold scheduleDelivery
  split
  · exact hrow
  · rw [Table.get?_insert, if_neg (Nat.ne_of_lt (Table.lt_next hrow))]
    exact hrow

theorem foldl_scheduleDelivery_get? {eventId key : ℕ} {deliveries : Table EventDelivery}
    {row : EventDelivery} (hrow : deliveries.get? key = some row)
    (endpoints : List (ℕ × WebhookEndpoint)) :
    (endpoints.foldl (scheduleDelivery eventId) deliveries).get? key = some row := by
  induction endpoints generalizing deliveries with
  | nil => exact hrow
  | cons endpoint rest ih => exact ih (scheduleDelivery_get? hrow endpoint)

/-- A new event leaves the deliveries there are alone. -/
theorem enqueueEvent_deliveries_get? {tables : Tables} {key : ℕ} {row : EventDelivery}
    (hrow : tables.deliveries.get? key = some row) (now : Instant) (paymentId : ℕ)
    (payment : Payment) (store : Store) (type : EventType) :
    (enqueueEvent now tables paymentId payment store type).deliveries.get? key = some row :=
  foldl_scheduleDelivery_get? hrow _

/-- A delivery that was not there before has had no attempt. -/
theorem enqueueEvent_deliveries_cases {now : Instant} {tables : Tables} {paymentId : ℕ}
    {payment : Payment} {store : Store} {type : EventType} {key : ℕ} {row : EventDelivery}
    (hrow : (enqueueEvent now tables paymentId payment store type).deliveries.get? key =
      some row) :
    tables.deliveries.get? key = some row ∨
      tables.deliveries.get? key = none ∧ row.attempts = 0 := by
  simp only [enqueueEvent] at hrow
  generalize (targetEndpoints tables store.accountId).filter _ = endpoints at hrow
  induction endpoints using List.reverseRecOn generalizing row with
  | nil => exact .inl hrow
  | append_singleton endpoints endpoint ih =>
      rw [List.foldl_append, List.foldl_cons, List.foldl_nil] at hrow
      generalize hbefore : endpoints.foldl (scheduleDelivery tables.events.next)
        tables.deliveries = before at hrow ih
      unfold scheduleDelivery at hrow
      split at hrow
      · exact ih hrow
      · rw [Table.get?_insert] at hrow
        split at hrow
        · next hnew =>
          cases hrow
          refine .inr ⟨?_, rfl⟩
          -- a key drawn now was not in the table at the start
          by_contra hsome
          obtain ⟨old, hold⟩ := Option.ne_none_iff_exists'.mp hsome
          have hkept : (endpoints.foldl (scheduleDelivery tables.events.next)
              tables.deliveries).get? _ = some old := foldl_scheduleDelivery_get? hold endpoints
          rw [hbefore, hnew, Table.get?_next] at hkept
          cases hkept
        · exact ih hrow

/-! ## The moves -/

/-- What one step of a session makes of the outbox and of itself. -/
inductive Sending.Moved (settings : Settings) (outbox : Outbox) (reading : SendReading)
    (sending : Sending) : Outbox × Sending → Prop
  | ended (hphase : sending.phase = .closed) : Moved settings outbox reading sending
      (outbox, sending)
  | skipped (job : SendJob) (hphase : sending.phase = .begin job) :
      Moved settings outbox reading sending (outbox, sending.close)
  | checked (deliveryId : ℕ) (force : Bool) (delivery : EventDelivery)
      (hphase : sending.phase = .begin (.direct deliveryId force))
      (hdue : checkDelivery reading.now outbox.tables deliveryId force = .due delivery) :
      Moved settings outbox reading sending
        (outbox, sending.take outbox.tables false [deliveryId])
  | scanned (batchSize : Int) (hphase : sending.phase = .begin (.fanout batchSize)) :
      Moved settings outbox reading sending
        ({ outbox with scanning := sending.worker :: outbox.scanning },
          sending.take outbox.tables true (dueDeliveries reading.now outbox.tables batchSize))
  | committed (hphase : sending.phase = .deliver []) :
      Moved settings outbox reading sending (outbox.commit sending, sending.close)
  | orphaned (deliveryId : ℕ) (waiting : List ℕ)
      (hphase : sending.phase = .deliver (deliveryId :: waiting))
      (hpost : sending.post outbox.tables deliveryId = none) :
      Moved settings outbox reading sending
        (outbox, sending.edit deliveryId .orphan (.deliver waiting))
  | sent (deliveryId : ℕ) (waiting : List ℕ) (post : WebhookPost)
      (hphase : sending.phase = .deliver (deliveryId :: waiting))
      (hpost : sending.post outbox.tables deliveryId = some post) :
      Moved settings outbox reading sending
        ({ outbox with wire := outbox.wire ++ [.sent deliveryId post] },
          sending.edit deliveryId .attempt (.posted deliveryId waiting))
  | answered (deliveryId : ℕ) (waiting : List ℕ)
      (hphase : sending.phase = .posted deliveryId waiting) :
      Moved settings outbox reading sending
        ({ outbox with wire := outbox.wire ++ [.answered deliveryId reading.answer] },
          sending.edit deliveryId (.conclude settings reading.now reading.answer)
            (.deliver waiting))
  | called (request : OutboxCall) (hphase : sending.phase = .call request) :
      Moved settings outbox reading sending (request.perform reading.now outbox, sending.close)

theorem Sending.moved (settings : Settings) (outbox : Outbox) (reading : SendReading)
    (sending : Sending) :
    sending.Moved settings outbox reading (sending.advance settings outbox reading) := by
  unfold Sending.advance
  split
  · next deliveryId force hphase =>
    split
    · next delivery hdue => exact .checked deliveryId force delivery hphase hdue
    · exact .skipped _ hphase
    · exact .skipped _ hphase
  · next batchSize hphase =>
    split
    · exact .skipped _ hphase
    · exact .scanned batchSize hphase
  · next hphase => exact .committed hphase
  · next deliveryId waiting hphase =>
    split
    · next hpost => exact .orphaned deliveryId waiting hphase hpost
    · next post hpost => exact .sent deliveryId waiting post hphase hpost
  · next deliveryId waiting hphase => exact .answered deliveryId waiting hphase
  · next request hphase => exact .called request hphase
  · next hphase => exact .ended hphase

/-! ## Rows of a session -/

/-- The session changed the row and has not committed it: a POST is out for the
delivery, or has been. -/
def Sending.Holds (sending : Sending) (deliveryId : ℕ) : Prop :=
  sending.edited.get? deliveryId ≠ sending.loaded.get? deliveryId

instance (sending : Sending) (deliveryId : ℕ) : Decidable (sending.Holds deliveryId) :=
  inferInstanceAs (Decidable (_ ≠ _))

section Sending

variable (sending : Sending)

theorem Sending.not_holds_close (deliveryId : ℕ) : ¬ sending.close.Holds deliveryId :=
  fun hholds => hholds rfl

theorem Sending.not_holds_take (tables : Tables) (scans : Bool) (waiting : List ℕ)
    (deliveryId : ℕ) : ¬ (sending.take tables scans waiting).Holds deliveryId :=
  fun hholds => hholds rfl

theorem Sending.holds_edit_of_ne {deliveryId other : ℕ} (hne : other ≠ deliveryId)
    (change : EventDelivery → EventDelivery) (phase : SendPhase) :
    (sending.edit deliveryId change phase).Holds other ↔ sending.Holds other := by
  simp [Sending.Holds, Sending.edit, hne]

end Sending

/-- What the commit leaves of a row. -/
theorem Outbox.commit_get? (outbox : Outbox) (sending : Sending) (deliveryId : ℕ) :
    (outbox.commit sending).tables.deliveries.get? deliveryId =
      writeRow (fun _ => false) (sending.loaded.get? deliveryId)
        (sending.edited.get? deliveryId) (outbox.tables.deliveries.get? deliveryId) :=
  Table.get?_write _ _ _ _

end ChmabaPay
