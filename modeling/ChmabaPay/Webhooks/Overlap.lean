import ChmabaPay.Foundation.Fallible
import ChmabaPay.Webhooks.Moves
import ChmabaPay.Specimen

/-! # Overlapping senders

A delivery that was answered with a 2xx is not to be sent again, unless an operator
resets it. Nothing in the sender claims a row before the POST: a session that reads
the row while another session's POST for it is out, or not yet committed, sends it
once more. Where that does not happen, every delivery is sent until it succeeds and
then no more, in every interleaving of direct jobs and scans.
-/

namespace ChmabaPay

open Calendar Relational Execution Interleaving Fallible

/-! ## The wire -/

/-- The exchange sends the delivery, or reports its success. -/
def Exchange.Repeats (deliveryId : ℕ) : Exchange → Prop
  | .sent other _ => other = deliveryId
  | .answered other answer => other = deliveryId ∧ answer.isSuccess = true
  | .reset _ => False

/-- Between a 2xx and the next POST of the same delivery, or its next 2xx, an
operator has reset it. -/
def DeliveredOnce (wire : List Exchange) : Prop :=
  ∀ deliveryId answer first middle last again,
    wire = first ++ .answered deliveryId answer :: middle ++ again :: last →
    answer.isSuccess = true → again.Repeats deliveryId → .reset deliveryId ∈ middle

/-- Whether a delivery is done, after one more exchange. -/
def Exchange.settles (deliveryId : ℕ) (done : Bool) : Exchange → Bool
  | .sent _ _ => done
  | .answered other answer => done || (decide (other = deliveryId) && answer.isSuccess)
  | .reset other => done && decide (other ≠ deliveryId)

/-- The delivery was answered with a 2xx and has not been reset since. -/
def delivered (wire : List Exchange) (deliveryId : ℕ) : Bool :=
  wire.foldl (Exchange.settles deliveryId) false

theorem delivered_append (wire : List Exchange) (exchange : Exchange) (deliveryId : ℕ) :
    delivered (wire ++ [exchange]) deliveryId =
      exchange.settles deliveryId (delivered wire deliveryId) := by
  simp [delivered]

@[simp] theorem delivered_sent (wire : List Exchange) (deliveryId : ℕ) (post : WebhookPost)
    (other : ℕ) : delivered (wire ++ [.sent deliveryId post]) other = delivered wire other :=
  delivered_append wire _ other

/-- Resets take deliveries back. -/
theorem delivered_resets (wire : List Exchange) (deliveryIds : List ℕ) (deliveryId : ℕ) :
    delivered (wire ++ deliveryIds.map .reset) deliveryId =
      (delivered wire deliveryId && decide (deliveryId ∉ deliveryIds)) := by
  induction deliveryIds generalizing wire with
  | nil => simp
  | cons head tail ih =>
      have hsplit : wire ++ (head :: tail).map .reset =
          (wire ++ [Exchange.reset head]) ++ tail.map .reset := by simp
      rw [hsplit, ih, delivered_append]
      by_cases hhead : head = deliveryId
      · simp [Exchange.settles, hhead]
      · simp [Exchange.settles, hhead, Ne.symm hhead]

/-- Once done, a delivery is done until it is reset. -/
theorem delivered_of_answered {deliveryId : ℕ} {answer : Answer}
    (hsuccess : answer.isSuccess = true) (first : List Exchange) {middle : List Exchange}
    (hreset : .reset deliveryId ∉ middle) :
    delivered (first ++ .answered deliveryId answer :: middle) deliveryId = true := by
  induction middle using List.reverseRecOn with
  | nil => simp [delivered_append, Exchange.settles, hsuccess]
  | append_singleton middle exchange ih =>
      rw [List.mem_append, not_or] at hreset
      have hbefore := ih hreset.1
      rw [← List.cons_append, ← List.append_assoc, delivered_append, hbefore]
      cases exchange with
      | sent other post => rfl
      | answered other answer => rfl
      | reset other =>
          have hother : other ≠ deliveryId := by
            rintro rfl
            exact hreset.2 List.mem_cons_self
          simp [Exchange.settles, hother]

theorem DeliveredOnce.nil : DeliveredOnce [] := by
  intro deliveryId answer first middle last again hwire
  simp at hwire

/-- One more exchange repeats only what is not done. -/
theorem DeliveredOnce.append {wire : List Exchange} (honce : DeliveredOnce wire)
    {exchange : Exchange}
    (hnew : ∀ deliveryId, exchange.Repeats deliveryId → delivered wire deliveryId = false) :
    DeliveredOnce (wire ++ [exchange]) := by
  intro deliveryId answer first middle last again hwire hsuccess hrepeats
  induction last using List.reverseRecOn with
  | nil =>
      -- the second exchange is the new one
      obtain ⟨hbefore, hlast⟩ := List.append_inj' hwire rfl
      obtain rfl := List.singleton_inj.mp hlast
      by_contra hreset
      have hdone := delivered_of_answered hsuccess first hreset
      rw [← hbefore, hnew deliveryId hrepeats] at hdone
      cases hdone
  | append_singleton last final _ =>
      rw [← List.cons_append, ← List.append_assoc] at hwire
      exact honce deliveryId answer first middle last again (List.append_inj' hwire rfl).1
        hsuccess hrepeats

theorem DeliveredOnce.append_resets {wire : List Exchange} (honce : DeliveredOnce wire)
    (deliveryIds : List ℕ) : DeliveredOnce (wire ++ deliveryIds.map .reset) := by
  induction deliveryIds generalizing wire with
  | nil => simpa using honce
  | cons head tail ih =>
      have hhead : DeliveredOnce (wire ++ [.reset head]) := honce.append fun _ hnone => hnone.elim
      simpa using ih hhead

/-! ## The sessions -/

/-- The deliveries a session has still to send. -/
def Sending.waiting (sending : Sending) : List ℕ :=
  match sending.phase with
  | .deliver waiting | .posted _ waiting => waiting
  | .begin _ | .call _ | .closed => []

/-- The session is between its read and its commit. -/
def Sending.isSending (sending : Sending) : Bool :=
  match sending.phase with
  | .deliver _ | .posted _ _ => true
  | .begin _ | .call _ | .closed => false

/-- What holds of a session, whatever the others do. -/
structure Sending.Sound (outbox : Outbox) (sending : Sending) : Prop where
  present : ∀ deliveryId row, sending.loaded.get? deliveryId = some row →
    (outbox.tables.deliveries.get? deliveryId).isSome
  idle : sending.isSending = false → ∀ deliveryId, ¬ sending.Holds deliveryId
  held : ∀ deliveryId, sending.Holds deliveryId → ∃ row row',
    sending.loaded.get? deliveryId = some row ∧ sending.edited.get? deliveryId = some row' ∧
      row.status ≠ .success ∧
      (delivered outbox.wire deliveryId = true → row'.status = .success)
  nodup : sending.waiting.Nodup
  waiting : ∀ deliveryId ∈ sending.waiting, ¬ sending.Holds deliveryId ∧
    ∃ row, sending.loaded.get? deliveryId = some row ∧ row.status ≠ .success
  posted : ∀ deliveryId waiting, sending.phase = .posted deliveryId waiting →
    deliveryId ∉ waiting ∧ delivered outbox.wire deliveryId = false ∧
      ∃ row row', sending.loaded.get? deliveryId = some row ∧
        sending.edited.get? deliveryId = some row' ∧ row'.attempts = row.attempts + 1

/-- The committed row says that the delivery succeeded. -/
def Outbox.Succeeded (outbox : Outbox) (deliveryId : ℕ) : Prop :=
  ∃ row, outbox.tables.deliveries.get? deliveryId = some row ∧ row.status = .success

/-- A done delivery is committed as such or in the hands of the one session that
will commit it so. -/
structure Senders.Orderly (pool : Senders) : Prop where
  once : DeliveredOnce pool.shared.wire
  kept : ∀ deliveryId, delivered pool.shared.wire deliveryId = true →
    pool.shared.Succeeded deliveryId ∨ ∃ sending ∈ pool.sessions, sending.Holds deliveryId
  apart : pool.Apart Sending.Holds
  sound : ∀ sending ∈ pool.sessions, sending.Sound pool.shared

theorem Sending.Sound.holds_of_posted {outbox : Outbox} {sending : Sending}
    (hsound : sending.Sound outbox) {deliveryId : ℕ} {waiting : List ℕ}
    (hphase : sending.phase = .posted deliveryId waiting) : sending.Holds deliveryId := by
  obtain ⟨-, -, row, row', hloaded, hedited, hattempts⟩ := hsound.posted deliveryId waiting hphase
  intro hsame
  rw [hloaded, hedited] at hsame
  rw [Option.some.inj hsame] at hattempts
  omega

/-- A session that only watched is as sound as before. -/
theorem Sending.Sound.watch {outbox outbox' : Outbox} {sending : Sending}
    (hsound : sending.Sound outbox)
    (hpresent : ∀ deliveryId, (outbox.tables.deliveries.get? deliveryId).isSome →
      (outbox'.tables.deliveries.get? deliveryId).isSome)
    (hwire : ∀ deliveryId, sending.Holds deliveryId →
      delivered outbox'.wire deliveryId = true → delivered outbox.wire deliveryId = true) :
    sending.Sound outbox' where
  present deliveryId row hrow := hpresent deliveryId (hsound.present deliveryId row hrow)
  idle := hsound.idle
  held deliveryId hholds := by
    obtain ⟨row, row', hloaded, hedited, hstatus, hdone⟩ := hsound.held deliveryId hholds
    exact ⟨row, row', hloaded, hedited, hstatus,
      fun hdelivered => hdone (hwire deliveryId hholds hdelivered)⟩
  nodup := hsound.nodup
  waiting := hsound.waiting
  posted deliveryId waiting hphase := by
    obtain ⟨hnotin, hdelivered, hrows⟩ := hsound.posted deliveryId waiting hphase
    refine ⟨hnotin, ?_, hrows⟩
    by_contra hdone
    rw [Bool.not_eq_false] at hdone
    have hbefore := hwire deliveryId (hsound.holds_of_posted hphase) hdone
    rw [hdelivered] at hbefore
    cases hbefore

/-- A session that holds nothing and waits for nothing. -/
theorem Sending.Sound.of_idle {outbox : Outbox} {sending : Sending}
    (hidle : sending.isSending = false) (hloaded : sending.loaded = .empty)
    (hedited : sending.edited = .empty) : sending.Sound outbox := by
  have hnone : ∀ deliveryId, ¬ sending.Holds deliveryId := fun deliveryId hholds =>
    hholds (by rw [hloaded, hedited])
  have hphase : sending.waiting = [] := by
    unfold Sending.isSending at hidle
    unfold Sending.waiting
    split at hidle <;> simp_all
  refine ⟨fun deliveryId row hrow => ?_, fun _ => hnone, fun deliveryId hholds =>
    (hnone deliveryId hholds).elim, by simp [hphase], by simp [hphase],
    fun deliveryId waiting hposted => ?_⟩
  · rw [hloaded] at hrow
    cases hrow
  · rw [Sending.isSending, hposted] at hidle
    cases hidle

theorem Sending.Sound.close (outbox : Outbox) (sending : Sending) :
    sending.close.Sound outbox := .of_idle rfl rfl rfl

/-- A session that has just read. -/
theorem Sending.Sound.take (outbox : Outbox) (sending : Sending) (scans : Bool)
    {waiting : List ℕ} (hnodup : waiting.Nodup)
    (hrows : ∀ deliveryId ∈ waiting, ∃ row,
      outbox.tables.deliveries.get? deliveryId = some row ∧ row.status ≠ .success) :
    (sending.take outbox.tables scans waiting).Sound outbox where
  present deliveryId row hrow := Option.isSome_iff_exists.mpr ⟨row, hrow⟩
  idle hidle := by cases hidle
  held deliveryId hholds := absurd hholds (sending.not_holds_take _ _ _ deliveryId)
  nodup := hnodup
  waiting deliveryId hmem := ⟨sending.not_holds_take _ _ _ deliveryId, hrows deliveryId hmem⟩
  posted deliveryId waiting hphase := by cases hphase

/-- What a session that moved owes the pool. -/
theorem Senders.Orderly.advance {pool : Senders} (horderly : pool.Orderly) {index : ℕ}
    {sending : Sending} (hat : pool.sessions[index]? = some sending) {outbox : Outbox}
    {moved : Sending} (honce : DeliveredOnce outbox.wire)
    (hpresent : ∀ deliveryId, (pool.shared.tables.deliveries.get? deliveryId).isSome →
      (outbox.tables.deliveries.get? deliveryId).isSome)
    (hwire : ∀ deliveryId, delivered outbox.wire deliveryId = true →
      delivered pool.shared.wire deliveryId = true ∨ moved.Holds deliveryId)
    (hsucceeded : ∀ deliveryId, pool.shared.Succeeded deliveryId →
      delivered outbox.wire deliveryId = true → outbox.Succeeded deliveryId)
    (hheld : ∀ deliveryId, sending.Holds deliveryId →
      delivered outbox.wire deliveryId = true →
      outbox.Succeeded deliveryId ∨ moved.Holds deliveryId)
    (htaken : ∀ deliveryId, moved.Holds deliveryId → sending.Holds deliveryId ∨
      ∀ other ∈ pool.sessions.eraseIdx index, ¬ other.Holds deliveryId)
    (hsound : moved.Sound outbox) :
    Senders.Orderly ⟨outbox, pool.sessions.set index moved⟩ := by
  have hapart := horderly.apart.set hat outbox htaken
  have hmoved := Pool.mem_set_self hat moved
  refine ⟨honce, fun deliveryId hdelivered => ?_, hapart, fun member hmember => ?_⟩
  · rcases hwire deliveryId hdelivered with hbefore | hnow
    · rcases horderly.kept deliveryId hbefore with hcommitted | ⟨holder, hholder, hholds⟩
      · exact .inl (hsucceeded deliveryId hcommitted hdelivered)
      · rcases Pool.mem_set_or_eq hat hholder moved with rfl | hstays
        · exact (hheld deliveryId hholds hdelivered).imp_right fun hkeeps =>
            ⟨moved, hmoved, hkeeps⟩
        · exact .inr ⟨holder, hstays, hholds⟩
    · exact .inr ⟨moved, hmoved, hnow⟩
  · obtain ⟨position, hposition⟩ := List.mem_iff_getElem?.mp hmember
    rcases Pool.getElem?_set_cases hposition with ⟨-, rfl⟩ | ⟨hne, hold⟩
    · exact hsound
    · refine (horderly.sound member (List.mem_of_getElem? hold)).watch hpresent ?_
      intro deliveryId hholds hdelivered
      refine (hwire deliveryId hdelivered).resolve_right fun hnow => hne ?_
      -- nobody else holds what the moved session holds
      exact hapart position index member moved hposition
        (Pool.getElem?_set_self hat moved) deliveryId hholds hnow

/-! ## What others do -/

/-- The rows of the deliveries that were asked for again, and no others, are reset. -/
theorem redeliverPaymentEvents_deliveries {now : Instant} {tables tables' : Tables}
    {actorId : ℕ} {publicId : String} {includeSuccesses : Bool} {deliveryIds : List ℕ}
    (hredeliver : redeliverPaymentEvents now tables actorId publicId includeSuccesses =
      .ok (deliveryIds, tables')) (key : ℕ) :
    tables'.deliveries.get? key = (tables.deliveries.get? key).map fun row =>
      if key ∈ deliveryIds then row.rearm now else row := by
  unfold redeliverPaymentEvents at hredeliver
  split at hredeliver
  next =>
    split at hredeliver
    next =>
      dsimp only at hredeliver
      split at hredeliver
      · exact absurd hredeliver throw_bind_ne_ok
      split at hredeliver
      · cases hredeliver
        simp
      · cases hredeliver
        simp only [recordAudit, Table.get?_updateWhere, List.contains_iff_mem]
    next => exact absurd hredeliver throw_ne_ok
  next => exact absurd hredeliver throw_ne_ok

/-- A call resets some deliveries, which the wire records, and leaves the rows of
the others as they are. -/
theorem OutboxCall.perform_spec (now : Instant) (outbox : Outbox) (request : OutboxCall) :
    ∃ deliveryIds : List ℕ,
      (request.perform now outbox).wire = outbox.wire ++ deliveryIds.map .reset ∧
      (∀ key, (outbox.tables.deliveries.get? key).isSome →
        ((request.perform now outbox).tables.deliveries.get? key).isSome) ∧
      ∀ key ∉ deliveryIds, ∀ row, outbox.tables.deliveries.get? key = some row →
        (request.perform now outbox).tables.deliveries.get? key = some row := by
  cases request with
  | enqueueEvent paymentId payment store type =>
      have hkept : ∀ key row, outbox.tables.deliveries.get? key = some row →
          (ChmabaPay.enqueueEvent now outbox.tables paymentId payment store
            type).deliveries.get? key = some row := fun key row hrow =>
        enqueueEvent_deliveries_get? hrow now paymentId payment store type
      refine ⟨[], (List.append_nil _).symm, fun key hsome => ?_, fun key _ row hrow =>
        hkept key row hrow⟩
      obtain ⟨row, hrow⟩ := Option.isSome_iff_exists.mp hsome
      exact Option.isSome_iff_exists.mpr ⟨row, hkept key row hrow⟩
  | updateWebhook endpointId patch =>
      exact ⟨[], (List.append_nil _).symm, fun _ hsome => hsome, fun _ _ _ hrow => hrow⟩
  | retryDelivery actorId deliveryId includeSuccesses =>
      simp only [OutboxCall.perform, ChmabaPay.retryDelivery]
      split
      · next retried tables hretry =>
        split at hretry
        · cases hretry
        · split at hretry
          · cases hretry
          · split at hretry
            · cases hretry
            · cases hretry
              refine ⟨[deliveryId], rfl, fun key hsome => ?_, fun key hkey row hrow => ?_⟩
              · simp only [recordAudit, Table.get?_update]
                split
                · simpa using hsome
                · exact hsome
              · have hne : key ≠ deliveryId := fun hsame => hkey (by simp [hsame])
                simpa [recordAudit, hne] using hrow
      · exact ⟨[], (List.append_nil _).symm, fun _ hsome => hsome, fun _ _ _ hrow => hrow⟩
  | redeliver actorId publicId includeSuccesses =>
      simp only [OutboxCall.perform]
      split
      · next deliveryIds tables hredeliver =>
        have hdeliveries := redeliverPaymentEvents_deliveries hredeliver
        refine ⟨deliveryIds, rfl, fun key hsome => ?_, fun key hkey row hrow => ?_⟩
        · rw [hdeliveries, Option.isSome_map]
          exact hsome
        · simp [hdeliveries, hrow, hkey]
      · exact ⟨[], (List.append_nil _).symm, fun _ hsome => hsome, fun _ _ _ hrow => hrow⟩

/-! ## Every step -/

/-- The delivery the session takes up in its next step. -/
def Sending.upNext (sending : Sending) : Option ℕ :=
  match sending.phase with
  | .deliver (deliveryId :: _) => some deliveryId
  | .deliver [] | .posted _ _ | .begin _ | .call _ | .closed => none

instance (outbox : Outbox) (deliveryId : ℕ) : Decidable (outbox.Succeeded deliveryId) :=
  inferInstanceAs (Decidable (∃ row ∈ outbox.tables.deliveries.get? deliveryId,
    row.status = .success))

/-- A delivery is taken up only while its committed row does not say that it
succeeded and no other session has sent it without having committed. -/
def Senders.Exclusive (pool : Senders) : Turn SendRequest SendReading → Prop
  | .start _ => True
  | .advance index _ => ∀ sending ∈ pool.sessions[index]?, ∀ deliveryId ∈ sending.upNext,
      ¬ pool.shared.Succeeded deliveryId ∧
        ∀ other ∈ pool.sessions.eraseIdx index, ¬ other.Holds deliveryId

instance (pool : Senders) : ∀ turn, Decidable (pool.Exclusive turn)
  | .start _ => inferInstanceAs (Decidable True)
  | .advance index _ => inferInstanceAs (Decidable (∀ sending ∈ pool.sessions[index]?,
      ∀ deliveryId ∈ sending.upNext, ¬ pool.shared.Succeeded deliveryId ∧
        ∀ other ∈ pool.sessions.eraseIdx index, ¬ other.Holds deliveryId))

section Step

variable {pool : Senders} {index : ℕ} {sending : Sending}

/-- Nobody has delivered what a session may take up. -/
theorem Senders.Orderly.delivered_eq_false (horderly : pool.Orderly)
    (hat : pool.sessions[index]? = some sending) {deliveryId : ℕ}
    (hsucceeded : ¬ pool.shared.Succeeded deliveryId) (hholds : ¬ sending.Holds deliveryId)
    (hothers : ∀ other ∈ pool.sessions.eraseIdx index, ¬ other.Holds deliveryId) :
    delivered pool.shared.wire deliveryId = false := by
  by_contra hdone
  rcases horderly.kept deliveryId (Bool.not_eq_false _ ▸ hdone) with hcommitted | hsomeone
  · exact hsucceeded hcommitted
  · obtain ⟨holder, hholder, hheld⟩ := hsomeone
    rcases Pool.mem_or_eq hat hholder with rfl | hother
    · exact hholds hheld
    · exact hothers holder hother hheld

/-- A session that read, or had nothing to do, leaves the outbox as it was. -/
theorem Senders.Orderly.still (horderly : pool.Orderly)
    (hat : pool.sessions[index]? = some sending) (hidle : sending.isSending = false)
    {moved : Sending} (hnone : ∀ deliveryId, ¬ moved.Holds deliveryId) (scanning : List ℕ)
    (hsound : moved.Sound { pool.shared with scanning := scanning }) :
    Senders.Orderly ⟨{ pool.shared with scanning := scanning },
      pool.sessions.set index moved⟩ := by
  have hsending := (horderly.sound sending (List.mem_of_getElem? hat)).idle hidle
  exact horderly.advance hat horderly.once (fun _ hsome => hsome) (fun _ hdone => .inl hdone)
    (fun _ hsucceeded _ => hsucceeded) (fun deliveryId hholds _ => (hsending _ hholds).elim)
    (fun deliveryId hholds => (hnone _ hholds).elim) hsound

/-- The commit leaves a row that was not edited, and a success over any row. -/
theorem Senders.Orderly.commit (horderly : pool.Orderly)
    (hat : pool.sessions[index]? = some sending) :
    Senders.Orderly ⟨pool.shared.commit sending, pool.sessions.set index sending.close⟩ := by
  have hsound := horderly.sound sending (List.mem_of_getElem? hat)
  have hnone := sending.not_holds_close
  have hsame : ∀ deliveryId, ¬ sending.Holds deliveryId →
      (pool.shared.commit sending).tables.deliveries.get? deliveryId =
        pool.shared.tables.deliveries.get? deliveryId := by
    intro deliveryId hholds
    rw [Outbox.commit_get?, not_not.mp hholds, writeRow_self]
  have hwritten : ∀ deliveryId, sending.Holds deliveryId → ∃ row row' current,
      row.status ≠ .success ∧
      (delivered pool.shared.wire deliveryId = true → row'.status = .success) ∧
      (pool.shared.commit sending).tables.deliveries.get? deliveryId =
        some (Columns.write row row' current) := by
    intro deliveryId hholds
    obtain ⟨row, row', hloaded, hedited, hstatus, hdone⟩ := hsound.held deliveryId hholds
    obtain ⟨current, hcurrent⟩ :=
      Option.isSome_iff_exists.mp (hsound.present deliveryId row hloaded)
    have hne : row' ≠ row := fun heq => hholds (by rw [hloaded, hedited, heq])
    refine ⟨row, row', current, hstatus, hdone, ?_⟩
    rw [Outbox.commit_get?, hloaded, hedited, hcurrent, writeRow_of_ne _ hne]
  have hsuccess : ∀ deliveryId, sending.Holds deliveryId →
      delivered pool.shared.wire deliveryId = true →
      (pool.shared.commit sending).Succeeded deliveryId := by
    intro deliveryId hholds hdelivered
    obtain ⟨row, row', current, hstatus, hdone, hget⟩ := hwritten deliveryId hholds
    refine ⟨_, hget, ?_⟩
    change assign row.status row'.status current.status = .success
    rw [hdone hdelivered, assign_of_ne hstatus.symm]
  refine horderly.advance hat horderly.once (fun deliveryId hsome => ?_)
    (fun _ hdone => .inl hdone) (fun deliveryId hsucceeded hdelivered => ?_)
    (fun deliveryId hholds hdelivered => .inl (hsuccess deliveryId hholds hdelivered))
    (fun deliveryId hholds => (hnone deliveryId hholds).elim) (.close _ sending)
  · by_cases hholds : sending.Holds deliveryId
    · obtain ⟨_, _, _, _, _, hget⟩ := hwritten deliveryId hholds
      rw [hget]
      rfl
    · rw [hsame deliveryId hholds]
      exact hsome
  · by_cases hholds : sending.Holds deliveryId
    · exact hsuccess deliveryId hholds hdelivered
    · obtain ⟨row, hrow, hstatus⟩ := hsucceeded
      exact ⟨row, (hsame deliveryId hholds).trans hrow, hstatus⟩

theorem Senders.Orderly.call (horderly : pool.Orderly)
    (hat : pool.sessions[index]? = some sending) (hidle : sending.isSending = false)
    (now : Instant) (request : OutboxCall) :
    Senders.Orderly ⟨request.perform now pool.shared,
      pool.sessions.set index sending.close⟩ := by
  have hsending := (horderly.sound sending (List.mem_of_getElem? hat)).idle hidle
  obtain ⟨deliveryIds, hwire, hpresent, hkept⟩ := request.perform_spec now pool.shared
  have hdelivered : ∀ deliveryId, delivered (request.perform now pool.shared).wire deliveryId =
      true → delivered pool.shared.wire deliveryId = true ∧ deliveryId ∉ deliveryIds := by
    intro deliveryId hdone
    rwa [hwire, delivered_resets, Bool.and_eq_true, decide_eq_true_eq] at hdone
  refine horderly.advance hat ?_ hpresent (fun deliveryId hdone => .inl (hdelivered _ hdone).1)
    (fun deliveryId hsucceeded hdone => ?_) (fun deliveryId hholds _ => (hsending _ hholds).elim)
    (fun deliveryId hholds => (sending.not_holds_close _ hholds).elim) (.close _ sending)
  · rw [hwire]
    exact horderly.once.append_resets deliveryIds
  · obtain ⟨row, hrow, hstatus⟩ := hsucceeded
    exact ⟨row, hkept deliveryId (hdelivered _ hdone).2 row hrow, hstatus⟩

/-- A session edits the row of the delivery it takes up, which nobody has sent. -/
theorem Senders.Orderly.takeUp (horderly : pool.Orderly)
    (hat : pool.sessions[index]? = some sending) {deliveryId : ℕ} {waiting : List ℕ}
    (hphase : sending.phase = .deliver (deliveryId :: waiting))
    (hsucceeded : ¬ pool.shared.Succeeded deliveryId)
    (hothers : ∀ other ∈ pool.sessions.eraseIdx index, ¬ other.Holds deliveryId)
    {change : EventDelivery → EventDelivery} {phase : SendPhase} {wire : List Exchange}
    (honce : DeliveredOnce wire)
    (hwire : ∀ other, delivered wire other = delivered pool.shared.wire other)
    (hnext : (sending.edit deliveryId change phase).waiting = waiting)
    (hposted : ∀ row : EventDelivery, phase = .deliver waiting ∨
      phase = .posted deliveryId waiting ∧ (change row).attempts = row.attempts + 1) :
    Senders.Orderly ⟨{ pool.shared with wire := wire },
      pool.sessions.set index (sending.edit deliveryId change phase)⟩ := by
  have hsound := horderly.sound sending (List.mem_of_getElem? hat)
  have hwaiting : sending.waiting = deliveryId :: waiting := by
    rw [Sending.waiting, hphase]
  obtain ⟨hnotHeld, row, hloaded, hstatus⟩ :=
    hsound.waiting deliveryId (hwaiting ▸ List.mem_cons_self)
  obtain ⟨hnotin, hnodup⟩ := List.nodup_cons.mp (hwaiting ▸ hsound.nodup)
  have hdelivered : delivered wire deliveryId = false := by
    rw [hwire]
    exact horderly.delivered_eq_false hat hsucceeded hnotHeld hothers
  have hedited : (sending.edit deliveryId change phase).edited.get? deliveryId =
      some (change row) := by
    have hsame : sending.edited.get? deliveryId = some row := by
      rw [not_not.mp hnotHeld, hloaded]
    simp [Sending.edit, hsame]
  have hother : ∀ other, other ≠ deliveryId →
      ((sending.edit deliveryId change phase).Holds other ↔ sending.Holds other) :=
    fun other hne => sending.holds_edit_of_ne hne change phase
  refine horderly.advance hat honce (fun _ hsome => hsome)
    (fun other hdone => .inl (hwire other ▸ hdone)) (fun _ hsucceeded _ => hsucceeded)
    (fun other hholds _ => .inr ?_) (fun other hholds => ?_) ?_
  · have hne : other ≠ deliveryId := fun heq => hnotHeld (heq ▸ hholds)
    exact (hother other hne).mpr hholds
  · by_cases hne : other = deliveryId
    · exact .inr (hne ▸ hothers)
    · exact .inl ((hother other hne).mp hholds)
  · refine ⟨hsound.present, fun hidle => ?_, fun other hholds => ?_, ?_, fun other hmem => ?_,
      fun other following hphase' => ?_⟩
    · rcases hposted row with hdeliver | ⟨hpost, -⟩
      · rw [Sending.isSending, Sending.edit, hdeliver] at hidle
        cases hidle
      · rw [Sending.isSending, Sending.edit, hpost] at hidle
        cases hidle
    · by_cases hne : other = deliveryId
      · subst hne
        refine ⟨row, change row, hloaded, hedited, hstatus, fun hdone => ?_⟩
        rw [hdelivered] at hdone
        cases hdone
      · obtain ⟨before, after, hbefore, hafter, hopen, hdone⟩ :=
          hsound.held other ((hother other hne).mp hholds)
        refine ⟨before, after, hbefore, ?_, hopen, fun hnow => hdone (hwire other ▸ hnow)⟩
        simpa [Sending.edit, hne] using hafter
    · rw [hnext]
      exact hnodup
    · rw [hnext] at hmem
      have hne : other ≠ deliveryId := fun heq => hnotin (heq ▸ hmem)
      obtain ⟨hfree, hrow⟩ := hsound.waiting other (hwaiting ▸ List.mem_cons_of_mem _ hmem)
      exact ⟨fun hholds => hfree ((hother other hne).mp hholds), hrow⟩
    · change phase = _ at hphase'
      rcases hposted row with hdeliver | ⟨hpost, hattempts⟩
      · rw [hdeliver] at hphase'
        cases hphase'
      · rw [hpost] at hphase'
        cases hphase'
        exact ⟨hnotin, hdelivered, row, change row, hloaded, hedited, hattempts⟩

/-- The POST was answered: its session alone holds the delivery. -/
theorem Senders.Orderly.answer (settings : Settings) (horderly : pool.Orderly)
    (hat : pool.sessions[index]? = some sending) {deliveryId : ℕ} {waiting : List ℕ}
    (hphase : sending.phase = .posted deliveryId waiting) (now : Instant) (answer : Answer) :
    Senders.Orderly
      ⟨{ pool.shared with wire := pool.shared.wire ++ [.answered deliveryId answer] },
        pool.sessions.set index
          (sending.edit deliveryId (.conclude settings now answer) (.deliver waiting))⟩ := by
  have hsound := horderly.sound sending (List.mem_of_getElem? hat)
  have hwaiting : sending.waiting = waiting := by rw [Sending.waiting, hphase]
  obtain ⟨hnotin, hopen, row, row', hloaded, hedited, hattempts⟩ :=
    hsound.posted deliveryId waiting hphase
  have hheld := hsound.holds_of_posted hphase
  set moved := sending.edit deliveryId (.conclude settings now answer) (.deliver waiting)
    with hmoved
  have hnow : moved.edited.get? deliveryId = some (row'.conclude settings now answer) := by
    simp [hmoved, Sending.edit, hedited]
  have hstays : moved.Holds deliveryId := by
    intro hsame
    rw [hnow] at hsame
    have hrow := Option.some.inj (hsame.trans hloaded)
    have hcount : (row'.conclude settings now answer).attempts = row.attempts := by rw [hrow]
    rw [EventDelivery.conclude_attempts] at hcount
    omega
  have hother : ∀ other, other ≠ deliveryId → (moved.Holds other ↔ sending.Holds other) :=
    fun other hne => sending.holds_edit_of_ne hne _ _
  have hholds : ∀ other, moved.Holds other ↔ sending.Holds other := by
    intro other
    by_cases hne : other = deliveryId
    · exact hne ▸ iff_of_true hstays hheld
    · exact hother other hne
  have hwire : ∀ other, other ≠ deliveryId →
      delivered (pool.shared.wire ++ [.answered deliveryId answer]) other =
        delivered pool.shared.wire other := by
    intro other hne
    simp [delivered_append, Exchange.settles, Ne.symm hne]
  refine horderly.advance hat (horderly.once.append ?_) (fun _ hsome => hsome)
    (fun other hdone => ?_) (fun _ hsucceeded _ => hsucceeded)
    (fun other hholding _ => .inr ((hholds other).mpr hholding))
    (fun other hholding => .inl ((hholds other).mp hholding)) ?_
  · rintro other ⟨rfl, -⟩
    exact hopen
  · by_cases hne : other = deliveryId
    · exact .inr (hne ▸ hstays)
    · exact .inl (hwire other hne ▸ hdone)
  · refine ⟨hsound.present, fun hidle => ?_, fun other hholding => ?_,
      (hwaiting ▸ hsound.nodup : waiting.Nodup), fun other hmem => ?_,
      fun other following hphase' => ?_⟩
    · cases hidle
    · by_cases hne : other = deliveryId
      · subst hne
        obtain ⟨before, after, hbefore, -, hstatus, -⟩ := hsound.held other hheld
        refine ⟨before, _, hbefore, hnow, hstatus, fun hdone => ?_⟩
        -- done by this answer and no earlier one
        rw [delivered_append, hopen] at hdone
        exact EventDelivery.conclude_status_of_success (by simpa [Exchange.settles] using hdone)
      · obtain ⟨before, after, hbefore, hafter, hstatus, hdone⟩ :=
          hsound.held other ((hother other hne).mp hholding)
        refine ⟨before, after, hbefore, ?_, hstatus, fun hlater => hdone ?_⟩
        · simpa [hmoved, Sending.edit, hne] using hafter
        · exact hwire other hne ▸ hlater
    · obtain ⟨hfree, hrow⟩ := hsound.waiting other (hwaiting.symm ▸ hmem)
      exact ⟨fun hholding => hfree ((hholds other).mp hholding), hrow⟩
    · cases hphase'

/-- Every step that takes up no delivery out of turn. -/
theorem Senders.Orderly.step (settings : Settings) (horderly : pool.Orderly)
    (turn : Turn SendRequest SendReading) (hexclusive : pool.Exclusive turn) :
    Senders.Orderly (next (sender settings).step pool turn) := by
  cases turn with
  | start request =>
      have hsound : (Sending.start request).Sound pool.shared := by
        cases request <;> exact .of_idle rfl rfl rfl
      have hnone : ∀ deliveryId, ¬ (Sending.start request).Holds deliveryId := by
        cases request <;> exact fun deliveryId hholds => hholds rfl
      refine ⟨horderly.once, fun deliveryId hdone => ?_, horderly.apart.append hnone,
        fun sending hsending => ?_⟩
      · refine (horderly.kept deliveryId hdone).imp_right ?_
        rintro ⟨sending, hsending, hholds⟩
        exact ⟨sending, List.mem_append_left _ hsending, hholds⟩
      · rcases List.mem_append.mp hsending with hold | hnew
        · exact horderly.sound sending hold
        · rw [List.mem_singleton.mp hnew]
          exact hsound
  | advance index reading =>
      cases hat : pool.sessions[index]? with
      | none =>
          rw [next_advance_of_none hat]
          exact horderly
      | some sending =>
          rw [next_advance_of_some hat]
          have hfree := hexclusive sending hat
          have hclosed := sending.not_holds_close
          change Senders.Orderly ⟨(sending.advance settings pool.shared reading).1,
            pool.sessions.set index (sending.advance settings pool.shared reading).2⟩
          generalize hmove : sending.advance settings pool.shared reading = moved
          have hmoved := hmove ▸ sending.moved settings pool.shared reading
          cases hmoved with
          -- a session that is not sending holds no delivery
          | ended hphase =>
              have hidle : sending.isSending = false := by rw [Sending.isSending, hphase]
              have hsound := horderly.sound sending (List.mem_of_getElem? hat)
              exact horderly.still hat hidle (hsound.idle hidle) _ hsound
          | skipped job hphase =>
              exact horderly.still hat (by rw [Sending.isSending, hphase]) hclosed _
                (.close _ sending)
          | checked deliveryId force delivery hphase hdue =>
              refine horderly.still hat (by rw [Sending.isSending, hphase])
                (sending.not_holds_take _ _ _) _ (.take _ sending _ (List.nodup_singleton _) ?_)
              intro other hmem
              obtain ⟨hrow, hstatus⟩ := checkDelivery_eq_due hdue
              rw [List.mem_singleton.mp hmem]
              exact ⟨delivery, hrow, hstatus⟩
          | scanned batchSize hphase =>
              refine horderly.still hat (by rw [Sending.isSending, hphase])
                (sending.not_holds_take _ _ _) _
                (.take _ sending _ (nodup_dueDeliveries _ _ _) ?_)
              intro deliveryId hmem
              obtain ⟨delivery, hrow, hdue⟩ := mem_dueDeliveries hmem
              refine ⟨delivery, hrow, fun hsuccess => ?_⟩
              rcases (isDue_eq_true hdue).2 with hstatus | hstatus
              · rw [hstatus] at hsuccess
                cases hsuccess
              · rw [hstatus] at hsuccess
                cases hsuccess
          | committed hphase => exact horderly.commit hat
          | orphaned deliveryId waiting hphase hpost =>
              obtain ⟨hopen, hothers⟩ :=
                hfree deliveryId (by rw [Sending.upNext, hphase]; rfl)
              exact horderly.takeUp hat hphase hopen hothers horderly.once (fun _ => rfl) rfl
                fun _ => .inl rfl
          | sent deliveryId waiting post hphase hpost =>
              obtain ⟨hopen, hothers⟩ :=
                hfree deliveryId (by rw [Sending.upNext, hphase]; rfl)
              have hsound := horderly.sound sending (List.mem_of_getElem? hat)
              have hnotHeld := (hsound.waiting deliveryId
                (by rw [Sending.waiting, hphase]; exact List.mem_cons_self)).1
              refine horderly.takeUp hat hphase hopen hothers (horderly.once.append ?_)
                (delivered_sent _ _ _) rfl fun _ => .inr ⟨rfl, rfl⟩
              rintro other rfl
              exact horderly.delivered_eq_false hat hopen hnotHeld hothers
          | answered deliveryId waiting hphase =>
              exact horderly.answer settings hat hphase reading.now reading.answer
          | called request hphase =>
              exact horderly.call hat (by rw [Sending.isSending, hphase]) reading.now request

end Step

/-! ## Every run -/

/-- In every interleaving of direct jobs and scans in which a delivery is taken up
only while it is not committed as a success and no other session has sent it without
having committed, no delivery is sent again after a 2xx, nor answered with a second
one, unless an operator resets it. -/
theorem deliveries_sent_once {settings : Settings} {pool : Senders} (hidle : pool.sessions = [])
    (hwire : pool.shared.wire = []) {turns : List (Turn SendRequest SendReading)}
    (hexclusive : Along (sender settings).step Senders.Exclusive pool turns) :
    DeliveredOnce (run (sender settings).step pool turns).shared.wire := by
  have horderly : pool.Orderly := by
    refine ⟨hwire ▸ .nil, fun deliveryId hdone => ?_, fun index other session session' hat => ?_,
      fun sending hsending => ?_⟩
    · rw [hwire] at hdone
      cases hdone
    · rw [hidle] at hat
      cases hat
    · rw [hidle] at hsending
      cases hsending
  exact (run_invariant_of_along _ _ (fun _ turn hpool => hpool.step settings turn) horderly
    hexclusive).once

/-- The shop's endpoint, and one event with its delivery. -/
def Specimen.outbox : Outbox where
  tables :=
    enqueueEvent (seconds 120)
      { Specimen.sale.tables with
        endpoints := .ofList [⟨1, "https://shop.example/hook", none, true⟩] }
      0 Specimen.offered Specimen.shopStore .scanned
  scanning := []
  wire := []

/-- What the shop's server is sent for it. -/
def Specimen.post : WebhookPost where
  url := "https://shop.example/hook"
  type := .scanned
  body := buildEventPayload (seconds 120) .scanned Specimen.offered Specimen.shopStore

/-- The clock, and an answer of the shop's server. -/
def Specimen.reading (count : ℕ) (statusCode : ℕ) : SendReading :=
  ⟨seconds count, .response statusCode⟩

/-- The direct job is refused once; the scan delivers when the retry is due. -/
def refusedThenScanned : List (Turn SendRequest SendReading) :=
  [.start (.job 0 (.direct 0 false)), .advance 0 (Specimen.reading 121 0),
    .advance 0 (Specimen.reading 121 0), .advance 0 (Specimen.reading 122 503),
    .advance 0 (Specimen.reading 122 0), .start (.job 0 (.fanout 20))] ++
  (List.range 4).map fun count => .advance 1 (Specimen.reading (125 + count) 200)

/-- The direct job and the scan both read the new row before either has its
answer. -/
def readTwice : List (Turn SendRequest SendReading) :=
  [.start (.job 0 (.direct 0 false)), .start (.job 0 (.fanout 20)),
    .advance 0 (Specimen.reading 121 0), .advance 1 (Specimen.reading 121 0),
    .advance 0 (Specimen.reading 121 0), .advance 0 (Specimen.reading 122 200),
    .advance 1 (Specimen.reading 122 0), .advance 1 (Specimen.reading 123 200)]

theorem deliveries_sent_once_refused_then_scanned :
    (run (sender {}).step ⟨Specimen.outbox, []⟩ refusedThenScanned).shared.wire.length = 4 ∧
      DeliveredOnce
        (run (sender {}).step ⟨Specimen.outbox, []⟩ refusedThenScanned).shared.wire :=
  ⟨by decide +kernel, deliveries_sent_once rfl rfl (by decide +kernel)⟩

theorem delivery_sent_twice :
    ¬ DeliveredOnce (run (sender {}).step ⟨Specimen.outbox, []⟩ readTwice).shared.wire := by
  have hwire : (run (sender {}).step ⟨Specimen.outbox, []⟩ readTwice).shared.wire =
      [.sent 0 Specimen.post] ++ .answered 0 (.response 200) :: [] ++
        .sent 0 Specimen.post :: [.answered 0 (.response 200)] := by decide +kernel
  intro honce
  exact absurd (honce 0 _ _ _ _ _ hwire rfl rfl) List.not_mem_nil

end ChmabaPay
