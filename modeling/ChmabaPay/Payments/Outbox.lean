import ChmabaPay.Operations
import ChmabaPay.Payments.Evolution
import ChmabaPay.Workers.Detection

/-! # Every status change is reported

A status change is committed together with one event of its type and with one
pending delivery for every endpoint that wants it. The operations assign statuses
and write events in an order of their own, so what is proved step by step is which
payments still owe an event; at the end of an operation none does.
-/

namespace ChmabaPay

open Calendar Relational Execution Fallible

/-! ## Events and their deliveries -/

/-- The event that reports a status. -/
def PaymentStatus.reportedBy : PaymentStatus → Option EventType
  | .scanned => some .scanned
  | .paid => some .completed
  | .expired => some .expired
  | .superseded => some .superseded
  | .reversed => some .reversed
  | .pending | .failed => none

/-- The events of a payment that were not there before. -/
def newEvents (before after : Tables) (paymentId : ℕ) : List (ℕ × Event) :=
  after.events.select fun key event =>
    decide (before.events.next ≤ key) && decide (event.paymentId = paymentId)

def deliveriesOf (deliveries : Table EventDelivery) (eventId : ℕ) : List EventDelivery :=
  (deliveries.select fun _ delivery => decide (delivery.eventId = eventId)).map Prod.snd

def pendingDelivery (eventId : ℕ) (endpoint : ℕ × WebhookEndpoint) : EventDelivery where
  eventId := eventId
  endpointId := endpoint.1
  status := .pending

/-- No delivery belongs to an event that has not been written. -/
def KnownEvents (tables : Tables) : Prop :=
  ∀ key delivery, tables.deliveries.get? key = some delivery →
    delivery.eventId < tables.events.next

theorem select_insert {α : Type} (table : Table α) (keep : ℕ → α → Bool) (row : α) :
    (table.insert row).select keep =
      table.select keep ++ if keep table.next row then [(table.next, row)] else [] := by
  simp only [Table.select, Table.insert, List.filter_append, List.filter_cons, List.filter_nil]

theorem deliveriesOf_insert (deliveries : Table EventDelivery) (delivery : EventDelivery)
    (eventId : ℕ) :
    deliveriesOf (deliveries.insert delivery) eventId = deliveriesOf deliveries eventId ++
      if delivery.eventId = eventId then [delivery] else [] := by
  simp only [deliveriesOf, select_insert, List.map_append, decide_eq_true_eq]
  split <;> simp

theorem KnownEvents.deliveriesOf_next {tables : Tables} (hknown : KnownEvents tables) :
    deliveriesOf tables.deliveries tables.events.next = [] := by
  rw [deliveriesOf, List.map_eq_nil_iff, List.eq_nil_iff_forall_not_mem]
  rintro ⟨key, delivery⟩ hmem
  obtain ⟨hget, hsame⟩ := Table.mem_select.mp hmem
  have hlt := hknown key delivery hget
  rw [of_decide_eq_true hsame] at hlt
  exact absurd hlt (lt_irrefl _)

/-- A delivery that is not there yet is scheduled. -/
theorem scheduleDelivery_of_new {eventId : ℕ} {deliveries : Table EventDelivery}
    {endpoint : ℕ × WebhookEndpoint}
    (hnew : ∀ delivery ∈ deliveriesOf deliveries eventId, delivery.endpointId ≠ endpoint.1) :
    scheduleDelivery eventId deliveries endpoint =
      deliveries.insert (pendingDelivery eventId endpoint) := by
  have hnone : deliveries.find? (fun _ delivery =>
      decide (delivery.eventId = eventId) && decide (delivery.endpointId = endpoint.1)) =
      none := by
    rw [Table.find?_eq_none_iff]
    intro key delivery hget
    by_contra hfound
    simp only [Bool.not_eq_false, Bool.and_eq_true, decide_eq_true_eq] at hfound
    refine hnew delivery (List.mem_map.mpr ⟨(key, delivery), ?_, rfl⟩) hfound.2
    exact Table.mem_select.mpr ⟨hget, decide_eq_true hfound.1⟩
  simp only [scheduleDelivery, hnone]
  rfl

/-- A loop over endpoints leaves one pending delivery for each of them. -/
theorem deliveriesOf_foldl (eventId : ℕ) {endpoints : List (ℕ × WebhookEndpoint)}
    (hnodup : (endpoints.map Prod.fst).Nodup) (deliveries : Table EventDelivery)
    (hnew : ∀ delivery ∈ deliveriesOf deliveries eventId,
      delivery.endpointId ∉ endpoints.map Prod.fst) :
    deliveriesOf (endpoints.foldl (scheduleDelivery eventId) deliveries) eventId =
      deliveriesOf deliveries eventId ++ endpoints.map (pendingDelivery eventId) := by
  induction endpoints generalizing deliveries with
  | nil => simp
  | cons endpoint rest ih =>
      rw [List.map_cons, List.nodup_cons] at hnodup
      have hfirst : ∀ delivery ∈ deliveriesOf deliveries eventId,
          delivery.endpointId ≠ endpoint.1 :=
        fun delivery hmem hsame => hnew delivery hmem (by simp [hsame])
      have hadded : deliveriesOf (deliveries.insert (pendingDelivery eventId endpoint)) eventId =
          deliveriesOf deliveries eventId ++ [pendingDelivery eventId endpoint] := by
        rw [deliveriesOf_insert, if_pos (show (pendingDelivery eventId endpoint).eventId = eventId
          from rfl)]
      rw [List.foldl_cons, scheduleDelivery_of_new hfirst, ih hnodup.2 _, hadded,
        List.append_assoc, List.map_cons, List.singleton_append]
      intro delivery hmem
      rw [hadded, List.mem_append, List.mem_singleton] at hmem
      rcases hmem with hold | rfl
      · exact fun hrest => hnew delivery hold (List.mem_cons_of_mem _ hrest)
      · exact hnodup.1

theorem deliveriesOf_foldl_of_ne {eventId other : ℕ} (hother : other ≠ eventId)
    (endpoints : List (ℕ × WebhookEndpoint)) (deliveries : Table EventDelivery) :
    deliveriesOf (endpoints.foldl (scheduleDelivery eventId) deliveries) other =
      deliveriesOf deliveries other := by
  induction endpoints generalizing deliveries with
  | nil => rfl
  | cons endpoint rest ih =>
      rw [List.foldl_cons, ih]
      unfold scheduleDelivery
      split
      · rfl
      · rw [deliveriesOf_insert, if_neg hother.symm, List.append_nil]

/-! ## One event is written -/

section Event

variable {now : Instant} {tables : Tables} {paymentId : ℕ} {payment : Payment} {store : Store}
  {type : EventType}

theorem wantedEndpoints_nodup (tables : Tables) (accountId : ℕ) (type : EventType) :
    ((wantedEndpoints tables accountId type).map Prod.fst).Nodup := by
  have hsorted : (wantedEndpoints tables accountId type).Pairwise
      fun first second => first.1 < second.1 :=
    (tables.endpoints.sorted.sublist List.filter_sublist).sublist List.filter_sublist
  exact (List.pairwise_map.mpr hsorted).imp Nat.ne_of_lt

theorem deliveriesOf_enqueueEvent (hknown : KnownEvents tables) :
    deliveriesOf (enqueueEvent now tables paymentId payment store type).deliveries
        tables.events.next =
      (wantedEndpoints tables store.accountId type).map (pendingDelivery tables.events.next) := by
  have hfold := deliveriesOf_foldl tables.events.next
    (wantedEndpoints_nodup tables store.accountId type) tables.deliveries
    (by simp [hknown.deliveriesOf_next])
  rw [hknown.deliveriesOf_next, List.nil_append] at hfold
  exact hfold

theorem deliveriesOf_enqueueEvent_of_lt {eventId : ℕ} (hlt : eventId < tables.events.next) :
    deliveriesOf (enqueueEvent now tables paymentId payment store type).deliveries eventId =
      deliveriesOf tables.deliveries eventId :=
  deliveriesOf_foldl_of_ne (Nat.ne_of_lt hlt) _ _

theorem KnownEvents.enqueueEvent (hknown : KnownEvents tables) :
    KnownEvents (enqueueEvent now tables paymentId payment store type) := by
  have hfold : ∀ (endpoints : List (ℕ × WebhookEndpoint)) (deliveries : Table EventDelivery),
      (∀ key delivery, deliveries.get? key = some delivery →
        delivery.eventId < tables.events.next + 1) →
      ∀ key delivery, (endpoints.foldl (scheduleDelivery tables.events.next) deliveries).get? key =
        some delivery → delivery.eventId < tables.events.next + 1 := by
    intro endpoints
    induction endpoints with
    | nil => exact fun deliveries hall => hall
    | cons endpoint rest ih =>
        intro deliveries hall
        refine ih _ fun key delivery hget => ?_
        unfold scheduleDelivery at hget
        split at hget
        · exact hall key delivery hget
        · rw [Table.get?_insert] at hget
          split at hget
          · rw [← Option.some.inj hget]
            exact Nat.lt_succ_self _
          · exact hall key delivery hget
  exact hfold _ tables.deliveries fun key delivery hget =>
    Nat.lt_succ_of_lt (hknown key delivery hget)

variable (now tables paymentId payment store type) in
theorem newEvents_enqueueEvent {before : Tables} (hnext : before.events.next ≤ tables.events.next)
    (key : ℕ) :
    newEvents before (enqueueEvent now tables paymentId payment store type) key =
      newEvents before tables key ++
        if paymentId = key then
          [(tables.events.next, outboxEvent now paymentId payment store type)]
        else [] := by
  have hevent : (outboxEvent now paymentId payment store type).paymentId = paymentId := rfl
  have hinsert := select_insert tables.events (fun id event =>
    decide (before.events.next ≤ id) && decide (event.paymentId = key))
    (outboxEvent now paymentId payment store type)
  simp only [hevent, decide_eq_true hnext, Bool.true_and, decide_eq_true_eq] at hinsert
  exact hinsert

end Event

/-! ## Who still owes an event -/

/-- The new status of a payment has its event, the only new one of the payment, and
every endpoint that wants it has its delivery. -/
def Reported (before after : Tables) (key : ℕ) (payment : Payment) : Prop :=
  ∃ type store eventId event, payment.status.reportedBy = some type ∧
    before.stores.get? payment.storeId = some store ∧
    newEvents before after key = [(eventId, event)] ∧ event.type = type ∧
    deliveriesOf after.deliveries eventId =
      (wantedEndpoints before store.accountId type).map (pendingDelivery eventId)

/-- What an operation leaves alone in a payment row. -/
structure Payment.SameSale (old new : Payment) : Prop where
  storeId : new.storeId = old.storeId
  referenceId : new.referenceId = old.referenceId
  metadata : new.metadata = old.metadata
  reissuedFromId : new.reissuedFromId = old.reissuedFromId

theorem Payment.SameSale.refl (payment : Payment) : payment.SameSale payment :=
  ⟨rfl, rfl, rfl, rfl⟩

theorem Payment.SameSale.trans {first second third : Payment} (hfirst : first.SameSale second)
    (hsecond : second.SameSale third) : first.SameSale third :=
  ⟨hsecond.storeId.trans hfirst.storeId, hsecond.referenceId.trans hfirst.referenceId,
    hsecond.metadata.trans hfirst.metadata, hsecond.reissuedFromId.trans hfirst.reissuedFromId⟩

/-- An operation on its way: the payments it has changed and not yet reported are in
`owed`. A probe changes silently. -/
structure Reporting (before : Tables) (owed : List ℕ) (after : Tables) : Prop where
  next : before.events.next ≤ after.events.next
  endpoints : after.endpoints = before.endpoints
  known : KnownEvents after
  present : ∀ key old, before.payments.get? key = some old →
    ∃ new, after.payments.get? key = some new
  kept : ∀ key new, after.payments.get? key = some new →
    ∃ old, before.payments.get? key = some old ∧ old.SameSale new
  owing : ∀ key ∈ owed, newEvents before after key = []
  others : ∀ key, key ∉ owed → ∀ old new, before.payments.get? key = some old →
    after.payments.get? key = some new →
    ((new.status = old.status ∨ isSynthetic old.referenceId old.metadata = true) ∧
      newEvents before after key = []) ∨ Reported before after key new

section Reporting

variable {before after : Tables} {owed : List ℕ} {key : ℕ}

theorem newEvents_self (tables : Tables) (key : ℕ) : newEvents tables tables key = [] := by
  rw [newEvents, List.eq_nil_iff_forall_not_mem]
  rintro ⟨id, event⟩ hmem
  obtain ⟨hget, hnew⟩ := Table.mem_select.mp hmem
  simp only [Bool.and_eq_true, decide_eq_true_eq] at hnew
  exact absurd (Table.lt_next hget) (by omega)

theorem Reporting.start (hknown : KnownEvents before) : Reporting before [] before where
  next := le_rfl
  endpoints := rfl
  known := hknown
  present _ old hold := ⟨old, hold⟩
  kept _ new hnew := ⟨new, hnew, .refl new⟩
  owing _ howed := by cases howed
  others key _ old new hold hnew := by
    refine .inl ⟨.inl ?_, newEvents_self before key⟩
    rw [Option.some.inj (hold.symm.trans hnew)]

/-- Steps on other tables change nothing here. -/
theorem Reporting.of_same {after' : Tables} (hreporting : Reporting before owed after)
    (hpayments : after'.payments = after.payments) (hevents : after'.events = after.events)
    (hdeliveries : after'.deliveries = after.deliveries)
    (hendpoints : after'.endpoints = after.endpoints) : Reporting before owed after' := by
  have hnew : ∀ key, newEvents before after' key = newEvents before after key := by
    intro key
    simp only [newEvents, hevents]
  refine ⟨?_, hendpoints.trans hreporting.endpoints, ?_, ?_, ?_, ?_, ?_⟩
  · rw [hevents]
    exact hreporting.next
  · intro id delivery hget
    rw [hdeliveries] at hget
    rw [hevents]
    exact hreporting.known id delivery hget
  · rw [hpayments]
    exact hreporting.present
  · rw [hpayments]
    exact hreporting.kept
  · intro key howed
    rw [hnew]
    exact hreporting.owing key howed
  · intro key howed old new hold hget
    rw [hpayments] at hget
    simp only [Reported, hnew, hdeliveries]
    exact hreporting.others key howed old new hold hget

/-- A payment gets a new status and owes its event. -/
theorem Reporting.assign (hreporting : Reporting before owed after) (key : ℕ)
    (hquiet : newEvents before after key = []) (change : Payment → Payment)
    (hsale : ∀ payment, after.payments.get? key = some payment →
      payment.SameSale (change payment)) :
    Reporting before (key :: owed)
      { after with payments := after.payments.update key change } where
  next := hreporting.next
  endpoints := hreporting.endpoints
  known := hreporting.known
  present other old hold := by
    obtain ⟨current, hcurrent⟩ := hreporting.present other old hold
    rw [Table.get?_update, hcurrent]
    split
    · exact ⟨change current, rfl⟩
    · exact ⟨current, rfl⟩
  kept other new hnew := by
    rw [Table.get?_update] at hnew
    split at hnew
    · next hkey =>
      obtain ⟨current, hcurrent, rfl⟩ := Option.map_eq_some_iff.mp hnew
      obtain ⟨old, hold, hsame⟩ := hreporting.kept other current hcurrent
      exact ⟨old, hold, hsame.trans (hsale current (hkey ▸ hcurrent))⟩
    · exact hreporting.kept other new hnew
  owing other howed := by
    rcases List.mem_cons.mp howed with rfl | hrest
    · exact hquiet
    · exact hreporting.owing other hrest
  others other howed old new hold hnew := by
    rw [List.mem_cons, not_or] at howed
    rw [Table.get?_update, if_neg howed.1] at hnew
    exact hreporting.others other howed.2 old new hold hnew

/-- A payment that owes an event gets it. -/
theorem Reporting.report (hreporting : Reporting before (key :: owed) after)
    (howed : key ∉ owed) (new : Payment) (hnew : after.payments.get? key = some new)
    {type : EventType} (htype : new.status.reportedBy = some type) {store : Store}
    (hstore : before.stores.get? new.storeId = some store) (now : Instant) (payment : Payment) :
    Reporting before owed (enqueueEvent now after key payment store type) where
  next := hreporting.next.trans (Nat.le_succ _)
  endpoints := hreporting.endpoints
  known := hreporting.known.enqueueEvent
  present := hreporting.present
  kept := hreporting.kept
  owing other hother := by
    have hne : key ≠ other := fun hsame => howed (hsame ▸ hother)
    rw [newEvents_enqueueEvent _ _ _ _ _ _ hreporting.next, if_neg hne, List.append_nil]
    exact hreporting.owing other (List.mem_cons_of_mem _ hother)
  others other hother old current hold hcurrent := by
    by_cases hkey : key = other
    · subst hkey
      rw [enqueueEvent_payments] at hcurrent
      obtain rfl := Option.some.inj (hnew.symm.trans hcurrent)
      right
      refine ⟨type, store, after.events.next, outboxEvent now key payment store type, htype,
        hstore, ?_, rfl, ?_⟩
      · rw [newEvents_enqueueEvent _ _ _ _ _ _ hreporting.next, if_pos rfl,
          hreporting.owing key List.mem_cons_self, List.nil_append]
      · rw [deliveriesOf_enqueueEvent hreporting.known]
        simp only [wantedEndpoints, targetEndpoints, hreporting.endpoints]
    · have hothers : other ∉ key :: owed := by
        rw [List.mem_cons, not_or]
        exact ⟨fun hsame => hkey hsame.symm, hother⟩
      have hevents : newEvents before (enqueueEvent now after key payment store type) other =
          newEvents before after other := by
        rw [newEvents_enqueueEvent _ _ _ _ _ _ hreporting.next, if_neg hkey, List.append_nil]
      rw [enqueueEvent_payments] at hcurrent
      rcases hreporting.others other hothers old current hold hcurrent with hquiet | hreported
      · left
        rw [hevents]
        exact hquiet
      · right
        obtain ⟨type', store', eventId, event, htype', hstore', hlist, hevent, hdeliveries⟩ :=
          hreported
        refine ⟨type', store', eventId, event, htype', hstore', hevents.trans hlist, hevent, ?_⟩
        -- the event is one of those written before, so the new deliveries are not its own
        have hmem : (eventId, event) ∈ newEvents before after other := by simp [hlist]
        have hlt := Table.lt_next (Table.mem_select.mp hmem).1
        rw [deliveriesOf_enqueueEvent_of_lt hlt]
        exact hdeliveries

/-- A probe changes and owes nothing. -/
theorem Reporting.silent (hreporting : Reporting before owed after) (howed : key ∉ owed)
    (hquiet : newEvents before after key = []) (change : Payment → Payment)
    (hsale : ∀ payment, after.payments.get? key = some payment →
      payment.SameSale (change payment))
    (hprobe : ∀ old, before.payments.get? key = some old →
      isSynthetic old.referenceId old.metadata = true) :
    Reporting before owed { after with payments := after.payments.update key change } := by
  have hassigned := hreporting.assign key hquiet change hsale
  refine { hassigned with
    owing := fun other hother => hassigned.owing other (List.mem_cons_of_mem _ hother)
    others := fun other hother old new hold hnew => ?_ }
  by_cases hkey : other = key
  · subst hkey
    exact .inl ⟨.inr (hprobe old hold), hquiet⟩
  · exact hassigned.others other (by simp [hkey, hother]) old new hold hnew

/-- A payment gets a new status and its event at once. -/
theorem Reporting.announce (hreporting : Reporting before owed after) (howed : key ∉ owed)
    (hquiet : newEvents before after key = []) {current : Payment}
    (hcurrent : after.payments.get? key = some current) (change : Payment → Payment)
    (hsale : current.SameSale (change current)) {type : EventType}
    (htype : (change current).status.reportedBy = some type) {store : Store}
    (hstore : before.stores.get? current.storeId = some store) (now : Instant)
    (payment : Payment) :
    Reporting before owed
      (enqueueEvent now { after with payments := after.payments.update key change } key payment
        store type) := by
  have hassigned := hreporting.assign key hquiet change fun row hrow => by
    rw [← Option.some.inj (hcurrent.symm.trans hrow)]
    exact hsale
  refine hassigned.report howed (change current) ?_ htype ?_ now payment
  · simp [hcurrent]
  · rw [hsale.storeId]
    exact hstore

/-- A change that leaves the status alone owes nothing. -/
theorem Reporting.touch (hreporting : Reporting before owed after) (key : ℕ)
    (change : Payment → Payment) (hsale : ∀ payment : Payment, payment.SameSale (change payment))
    (hstatus : ∀ payment, (change payment).status = payment.status) :
    Reporting before owed { after with payments := after.payments.update key change } where
  next := hreporting.next
  endpoints := hreporting.endpoints
  known := hreporting.known
  present other old hold := by
    obtain ⟨current, hcurrent⟩ := hreporting.present other old hold
    rw [Table.get?_update, hcurrent]
    split
    · exact ⟨change current, rfl⟩
    · exact ⟨current, rfl⟩
  kept other new hnew := by
    rw [Table.get?_update] at hnew
    split at hnew
    · obtain ⟨current, hcurrent, rfl⟩ := Option.map_eq_some_iff.mp hnew
      obtain ⟨old, hold, hsame⟩ := hreporting.kept other current hcurrent
      exact ⟨old, hold, hsame.trans (hsale current)⟩
    · exact hreporting.kept other new hnew
  owing := hreporting.owing
  others other hother old new hold hnew := by
    rw [Table.get?_update] at hnew
    split at hnew
    · obtain ⟨current, hcurrent, rfl⟩ := Option.map_eq_some_iff.mp hnew
      rw [hstatus, Reported, hstatus, (hsale current).storeId]
      exact hreporting.others other hother old current hold hcurrent
    · exact hreporting.others other hother old new hold hnew

/-- Another payment does not notice. -/
theorem newEvents_announce (hnext : before.events.next ≤ after.events.next) {other : ℕ}
    (hother : key ≠ other) (now : Instant) (payments : Table Payment) (payment : Payment)
    (store : Store) (type : EventType) :
    newEvents before (enqueueEvent now { after with payments := payments } key payment store type)
      other = newEvents before after other := by
  have hevents := newEvents_enqueueEvent now { after with payments := payments } key payment store
    type hnext other
  rw [hevents, if_neg hother, List.append_nil]
  rfl

/-- The replacement codes are retired one after the other. -/
theorem Reporting.retire {store : Store} (now : Instant) {successors : List (ℕ × Payment)}
    (hreporting : Reporting before owed after) (hnodup : (successors.map Prod.fst).Nodup)
    (hrows : ∀ successor ∈ successors, successor.1 ∉ owed ∧
      newEvents before after successor.1 = [] ∧
      ∃ row, after.payments.get? successor.1 = some row ∧
        before.stores.get? row.storeId = some store) :
    Reporting before owed (successors.foldl (retireSuccessor now store) after) := by
  induction successors generalizing after with
  | nil => exact hreporting
  | cons successor rest ih =>
      rw [List.map_cons, List.nodup_cons] at hnodup
      obtain ⟨howed, hquiet, row, hrow, hstore⟩ := hrows successor List.mem_cons_self
      refine ih (hreporting.announce howed hquiet hrow Payment.supersede ⟨rfl, rfl, rfl, rfl⟩ rfl
        hstore now _)
        hnodup.2 fun other hother => ?_
      obtain ⟨howed', hquiet', row', hrow', hstore'⟩ :=
        hrows other (List.mem_cons_of_mem _ hother)
      have hne : successor.1 ≠ other.1 :=
        fun hsame => hnodup.1 (hsame ▸ List.mem_map_of_mem hother)
      refine ⟨howed', ?_, row', ?_, hstore'⟩
      · rw [← hquiet']
        exact newEvents_announce hreporting.next hne now _ _ _ _
      · rw [retireSuccessor, enqueueEvent_payments, Table.get?_update, if_neg hne.symm]
        exact hrow'

/-- Due payments expire one after the other. -/
theorem Reporting.expire {now : Instant} {due : List (ℕ × Payment)} {result : Tables}
    (hreporting : Reporting before [] after) (hstores : after.stores = before.stores)
    (hnodup : (due.map Prod.fst).Nodup)
    (hrows : ∀ row ∈ due, newEvents before after row.1 = [] ∧
      after.payments.get? row.1 = some row.2)
    (hresult : due.foldlM (expirePayment now) after = .ok result) :
    Reporting before [] result := by
  induction due generalizing after with
  | nil =>
      simp only [List.foldlM_nil, pure_eq_ok] at hresult
      exact hresult ▸ hreporting
  | cons row rest ih =>
      rw [List.map_cons, List.nodup_cons] at hnodup
      obtain ⟨hquiet, hrow⟩ := hrows row List.mem_cons_self
      simp only [List.foldlM_cons, bind_eq_ok] at hresult
      obtain ⟨middle, hmiddle, hresult⟩ := hresult
      have hne : ∀ other ∈ rest, row.1 ≠ other.1 :=
        fun other hother hsame => hnodup.1 (hsame ▸ List.mem_map_of_mem hother)
      have hothers := fun other (hother : other ∈ rest) =>
        hrows other (List.mem_cons_of_mem _ hother)
      unfold expirePayment at hmiddle
      dsimp only at hmiddle
      split at hmiddle
      · next hprobe =>
        obtain rfl := Except.ok.inj hmiddle
        have hsilent := hreporting.silent (by simp) hquiet Payment.expire
          (fun _ _ => ⟨rfl, rfl, rfl, rfl⟩) fun old hold => by
            obtain ⟨old', hold', hsame⟩ := hreporting.kept row.1 row.2 hrow
            obtain rfl := Option.some.inj (hold.symm.trans hold')
            rw [← hsame.referenceId, ← hsame.metadata]
            exact hprobe
        refine ih hsilent hstores hnodup.2 (fun other hother => ?_) hresult
        refine ⟨(hothers other hother).1, ?_⟩
        rw [Table.get?_update, if_neg (hne other hother).symm]
        exact (hothers other hother).2
      · split at hmiddle
        · cases hmiddle
        · next store hstore =>
          obtain rfl := Except.ok.inj hmiddle
          have hstore' : before.stores.get? row.2.storeId = some store := hstores ▸ hstore
          have hannounce := hreporting.announce (by simp) hquiet hrow Payment.expire
            ⟨rfl, rfl, rfl, rfl⟩ rfl hstore' now row.2.expire
          refine ih hannounce hstores hnodup.2 (fun other hother => ⟨?_, ?_⟩) hresult
          · rw [← (hothers other hother).1]
            exact newEvents_announce hreporting.next (hne other hother) now _ _ _ _
          · rw [enqueueEvent_payments, Table.get?_update, if_neg (hne other hother).symm]
            exact (hothers other hother).2

end Reporting

/-! ## The operations -/

/-- A replacement code belongs to the store of the payment it replaces. -/
def SuccessorsShareStore (tables : Tables) : Prop :=
  ∀ key payment parentId, tables.payments.get? key = some payment →
    payment.reissuedFromId = some parentId →
    ∃ parent, tables.payments.get? parentId = some parent ∧ parent.storeId = payment.storeId

section Operations

variable {settings : Settings} {now : Instant} {tables tables' : Tables} {paymentId : ℕ}
  {payment : Payment}

theorem markScanned_reporting (hknown : KnownEvents tables)
    (hscan : markScanned now tables paymentId = .ok tables') : Reporting tables [] tables' := by
  have hstart := Reporting.start hknown
  unfold markScanned at hscan
  split at hscan
  · exact Except.ok.inj hscan ▸ hstart
  · next payment hpayment =>
    split at hscan
    · exact Except.ok.inj hscan ▸ hstart
    · dsimp only at hscan
      split at hscan
      · cases hscan
      · next store hstore =>
        rw [← Except.ok.inj hscan]
        exact hstart.announce (by simp) (newEvents_self tables paymentId) hpayment
          (fun _ => payment.scan now) ⟨rfl, rfl, rfl, rfl⟩ rfl hstore now _

theorem recordPlanLedgerEntry_reporting {before : Tables} {owed : List ℕ}
    (hreporting : Reporting before owed tables) (accountId : ℕ) (entry : Payment)
    (reversal : Bool) :
    Reporting before owed (recordPlanLedgerEntry now tables accountId entry reversal) := by
  unfold recordPlanLedgerEntry
  dsimp only
  split
  · exact hreporting
  · exact hreporting.of_same rfl rfl rfl rfl

theorem reversePayment_reporting (hknown : KnownEvents tables)
    (hpayment : tables.payments.get? paymentId = some payment) {reason : Option String}
    (hreverse : reversePayment now tables paymentId payment reason = .ok tables') :
    Reporting tables [] tables' := by
  have hassigned := (Reporting.start hknown).assign paymentId (newEvents_self tables paymentId)
    (fun _ => payment.reverse now reason) fun row hrow => by
      rw [← Option.some.inj (hpayment.symm.trans hrow)]
      exact ⟨rfl, rfl, rfl, rfl⟩
  unfold reversePayment at hreverse
  split at hreverse
  · cases hreverse
  split at hreverse
  · cases hreverse
  dsimp only at hreverse
  split at hreverse
  · cases hreverse
  next store hstore =>
    rw [← Except.ok.inj hreverse]
    refine (recordPlanLedgerEntry_reporting hassigned _ _ _).report (by simp)
      (payment.reverse now reason) ?_ rfl hstore now _
    rw [recordPlanLedgerEntry_payments]
    simp [hpayment]

/-- What `mark_paid` leaves at its commit, whether or not the ledger was written. -/
theorem settlement_reporting (hknown : KnownEvents tables)
    (hsuccessors : SuccessorsShareStore tables)
    (hpayment : tables.payments.get? paymentId = some payment) {store : Store}
    (hstore : tables.stores.get? payment.storeId = some store) (credit : Credit)
    {ledger : Table PlanLedgerEntry} {settled : Tables}
    (hinvoice : settleInvoiceForPayment settings now
      { tables with
        payments := tables.payments.update paymentId fun _ =>
          payment.settle now credit.bakongRef credit.gatewayRaw
        ledger := ledger } paymentId now = .ok settled) :
    Reporting tables [] (enqueueEvent now (retireSuccessors now settled paymentId store) paymentId
      (payment.settle now credit.bakongRef credit.gatewayRaw) store .completed) := by
  set paid := payment.settle now credit.bakongRef credit.gatewayRaw with hpaid
  have hassigned := (Reporting.start hknown).assign paymentId (newEvents_self tables paymentId)
    (fun _ => paid) fun row hrow => by
      rw [← Option.some.inj (hpayment.symm.trans hrow)]
      exact ⟨rfl, rfl, rfl, rfl⟩
  obtain ⟨-, hsales⟩ := settleInvoiceForPayment_keeps hinvoice
  have hsettled : Reporting tables [paymentId] settled :=
    hassigned.of_same hsales.payments hsales.events hsales.deliveries hsales.endpoints
  have hrow : settled.payments.get? paymentId = some paid := by
    rw [hsales.payments]
    simp [hpayment]
  have hquiet : ∀ key, newEvents tables settled key = [] := by
    intro key
    rw [← newEvents_self tables key]
    simp only [newEvents, hsales.events]
  have hmem : ∀ successor ∈ retirableSuccessors settled paymentId,
      settled.payments.get? successor.1 = some successor.2 ∧
        successor.2.reissuedFromId = some paymentId ∧ successor.2.status.isRetirable = true := by
    intro successor hsuccessor
    obtain ⟨hget, hkeep⟩ := Table.mem_select.mp hsuccessor
    simp only [Bool.and_eq_true, decide_eq_true_eq] at hkeep
    exact ⟨hget, hkeep⟩
  have hretired : Reporting tables [paymentId] (retireSuccessors now settled paymentId store) := by
    refine hsettled.retire now ?_ fun successor hsuccessor => ?_
    · have hsorted : (retirableSuccessors settled paymentId).Pairwise
          fun first second => first.1 < second.1 :=
        settled.payments.sorted.sublist List.filter_sublist
      exact (List.pairwise_map.mpr hsorted).imp Nat.ne_of_lt
    · obtain ⟨hget, hlink, hretirable⟩ := hmem successor hsuccessor
      refine ⟨?_, hquiet successor.1, successor.2, hget, ?_⟩
      · -- the payment itself reads paid by now
        rw [List.mem_singleton]
        intro hself
        rw [hself, hrow] at hget
        rw [← Option.some.inj hget] at hretirable
        simp [hpaid, Payment.settle, PaymentStatus.isRetirable] at hretirable
      · obtain ⟨old, hold, hsame⟩ := hsettled.kept _ _ hget
        obtain ⟨parent, hparent, hshares⟩ :=
          hsuccessors _ old paymentId hold (hsame.reissuedFromId ▸ hlink)
        obtain rfl := Option.some.inj (hpayment.symm.trans hparent)
        rw [hsame.storeId, ← hshares]
        exact hstore
  refine hretired.report (by simp) paid ?_ rfl hstore now _
  obtain ⟨events, deliveries, hretire⟩ := retireSuccessors_eq now settled paymentId store
  rw [hretire]
  simp [hrow, hpaid, Payment.settle, PaymentStatus.isRetirable]

theorem settlePayment_reporting (hknown : KnownEvents tables)
    (hsuccessors : SuccessorsShareStore tables)
    (hpayment : tables.payments.get? paymentId = some payment) {credit : Credit}
    (hsettle : settlePayment settings now tables paymentId payment credit = .ok tables') :
    Reporting tables [] tables' := by
  obtain ⟨store, settled, hstore, hinvoice, rfl⟩ := settlePayment_eq_ok hsettle
  obtain ⟨ledger, hrecord⟩ := recordSettlement_eq now tables paymentId
    (payment.settle now credit.bakongRef credit.gatewayRaw) store
  rw [hrecord] at hinvoice
  exact settlement_reporting hknown hsuccessors hpayment hstore credit hinvoice

theorem expireDuePayments_reporting (hknown : KnownEvents tables)
    (hexpire : (duePayments now tables).foldlM (expirePayment now) tables = .ok tables') :
    Reporting tables [] tables' := by
  refine (Reporting.start hknown).expire rfl ?_ (fun row hrow => ?_) hexpire
  · have hsorted : (duePayments now tables).Pairwise fun first second => first.1 < second.1 :=
      (tables.payments.sorted.sublist List.filter_sublist).sublist (List.take_sublist _ _)
    exact (List.pairwise_map.mpr hsorted).imp Nat.ne_of_lt
  · exact ⟨newEvents_self tables row.1, (mem_duePayments hrow).1⟩

/-- The settlement inside a detection job, when it comes to its end. -/
theorem settlePaymentWalk_reporting (hknown : KnownEvents tables)
    (hsuccessors : SuccessorsShareStore tables)
    (hpayment : tables.payments.get? paymentId = some payment) {credit : Credit}
    {ledgerFails : Bool}
    (hfinished : (settlePaymentWalk settings now paymentId payment credit ledgerFails
      tables).finished = true) :
    Reporting tables []
      ((settlePaymentWalk settings now paymentId payment credit ledgerFails tables).last
        tables) := by
  unfold settlePaymentWalk at hfinished ⊢
  cases hstore : tables.stores.get? payment.storeId with
  | none =>
      rw [hstore] at hfinished
      cases hfinished
  | some store =>
      rw [hstore] at hfinished
      have hall := ((settlementWalk_follows settings now paymentId payment credit ledgerFails
        store).andThen (eventWalk_follows now paymentId
          (payment.settle now credit.bakongRef credit.gatewayRaw) store .completed)).of_finished
        hfinished
      simp only [bind_eq_ok] at hall
      obtain ⟨retired, ⟨settled, hinvoice, hretired⟩, hresult⟩ := hall
      obtain ⟨ledger, hrecord⟩ :=
        recordedTables_eq now paymentId payment credit ledgerFails store tables
      rw [hrecord] at hinvoice
      dsimp only
      rw [← Except.ok.inj hresult, ← Except.ok.inj hretired]
      exact settlement_reporting hknown hsuccessors hpayment hstore credit hinvoice

end Operations

end ChmabaPay
