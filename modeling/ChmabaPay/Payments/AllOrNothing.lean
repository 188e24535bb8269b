import ChmabaPay.Payments.Reports

/-! # A settlement inside a detection job

A detection job catches whatever the settlement it calls raises and commits its attempt
record in the same session. What the settlement had assigned by then is committed with
it: a settlement broken off after its first assignment and before its completion event is
kept half done.
-/

namespace ChmabaPay

open Calendar Relational Execution Fallible

/-! ## What a settlement writes -/

/-- A payment without the job's own record of its attempts. -/
def Payment.forgetAttempts (payment : Payment) : Payment :=
  { payment with detectionClosedAt := none, attemptHistory := none }

/-- The tables a settlement writes agree up to the record of attempts. -/
structure SameSettlement (left right : Tables) : Prop where
  payments : ∀ key, (left.payments.get? key).map Payment.forgetAttempts =
    (right.payments.get? key).map Payment.forgetAttempts
  invoices : left.invoices = right.invoices
  subscriptions : left.subscriptions = right.subscriptions
  stores : left.stores = right.stores
  ledger : left.ledger = right.ledger

/-- The completion of the payment has been reported. -/
def Completes (before after : Tables) (paymentId : ℕ) : Prop :=
  ∃ key event, before.events.get? key = none ∧ after.events.get? key = some event ∧
    event.paymentId = paymentId ∧ event.type = .completed

/-- The settlement was kept as a whole with its completion event, or no part of it was. -/
def AllOrNothing (before whole after : Tables) (paymentId : ℕ) : Prop :=
  (SameSettlement after whole ∧ Completes before after paymentId) ∨ SameSettlement after before

/-- One invoice at most is paid with the payment. -/
def PaidOnce (tables : Tables) (paymentId : ℕ) : Prop :=
  ∀ key key' invoice invoice', tables.invoices.get? key = some invoice →
    tables.invoices.get? key' = some invoice' → invoice.chmabapayPaymentId = some paymentId →
    invoice'.chmabapayPaymentId = some paymentId → key = key'

/-- The exception is raised before the first assignment, or the settlement comes as far as
its completion event and the exception is raised after that. -/
def Fault.SparesSettlement (settings : Settings) (now : Instant) (tables : Tables)
    (paymentId : ℕ) (payment : Payment) (credit : Credit) (ledgerFails : Bool)
    (fault : Option Fault) : Prop :=
  (∃ raised ∈ fault, raised.steps = 0) ∨
    PaidOnce tables paymentId ∧ ∃ store, tables.stores.get? payment.storeId = some store ∧
      ∀ raised ∈ fault, (settlementWalk settings now paymentId payment credit ledgerFails store
        tables).states.length < raised.steps

section Agreement

variable {left right third : Tables} {paymentId : ℕ}

theorem SameSettlement.refl (tables : Tables) : SameSettlement tables tables :=
  ⟨fun _ => rfl, rfl, rfl, rfl, rfl⟩

theorem SameSettlement.symm (hsame : SameSettlement left right) : SameSettlement right left :=
  ⟨fun key => (hsame.payments key).symm, hsame.invoices.symm, hsame.subscriptions.symm,
    hsame.stores.symm, hsame.ledger.symm⟩

theorem SameSettlement.trans (hfirst : SameSettlement left right)
    (hsecond : SameSettlement right third) : SameSettlement left third :=
  ⟨fun key => (hfirst.payments key).trans (hsecond.payments key),
    hfirst.invoices.trans hsecond.invoices, hfirst.subscriptions.trans hsecond.subscriptions,
    hfirst.stores.trans hsecond.stores, hfirst.ledger.trans hsecond.ledger⟩

/-- The attempt record is not part of the settlement. -/
theorem appendAttempt_same (paymentId : ℕ) (attempt : Attempt) (closedAt : Option Instant)
    (tables : Tables) :
    SameSettlement (appendAttempt paymentId attempt closedAt tables) tables := by
  refine ⟨fun key => ?_, rfl, rfl, rfl, rfl⟩
  simp only [appendAttempt, Table.get?_update]
  split
  · cases tables.payments.get? key <;> rfl
  · rfl

theorem allOrNothing_congr {before whole : Tables} (hsame : SameSettlement left right)
    (hevents : left.events = right.events) :
    AllOrNothing before whole left paymentId ↔ AllOrNothing before whole right paymentId := by
  have hcompletes : Completes before left paymentId ↔ Completes before right paymentId := by
    simp only [Completes, hevents]
  unfold AllOrNothing
  rw [hcompletes]
  constructor
  · rintro (⟨hwhole, hreported⟩ | hnothing)
    · exact .inl ⟨hsame.symm.trans hwhole, hreported⟩
    · exact .inr (hsame.symm.trans hnothing)
  · rintro (⟨hwhole, hreported⟩ | hnothing)
    · exact .inl ⟨hsame.trans hwhole, hreported⟩
    · exact .inr (hsame.trans hnothing)

end Agreement

/-! ## What a settlement leaves alone -/

/-- A property that reads payments and events alone. -/
def ReadsSales (property : Tables → Prop) : Prop :=
  ∀ state state', state'.payments = state.payments → state'.events = state.events →
    property state → property state'

section Frame

variable {property : Tables → Prop} (hreads : ReadsSales property)

include hreads

theorem keeps_frame {change : Tables → Tables}
    (hpayments : ∀ tables, (change tables).payments = tables.payments)
    (hevents : ∀ tables, (change tables).events = tables.events) :
    Walk.Keeps property (Walk.step change) :=
  .step fun state => hreads state (change state) (hpayments state) (hevents state)

theorem ledgerWalk_keeps (now : Instant) (store : Store) (paid : Payment) (ledgerFails : Bool) :
    Walk.Keeps property (ledgerWalk now store paid ledgerFails) := by
  unfold ledgerWalk
  split
  · exact .pass
  · refine keeps_frame hreads (fun tables => ?_) fun tables => ?_ <;>
      · unfold recordPlanLedgerEntry
        dsimp only
        split <;> rfl

theorem reinstateWalk_keeps (now : Instant) (invoiceId : ℕ) (invoice : PlanInvoice)
    (subscription : PlanSubscription) (creditedId : Option ℕ) (paidAt : Instant)
    (source : String) :
    Walk.Keeps property
      (reinstateWalk now invoiceId invoice subscription creditedId paidAt source) := by
  refine ⟨fun tables htables => (Walk.Keeps.andThen ?_ (.andThen ?_ (.andThen ?_
    (.andThen ?_ ?_)))).states tables htables⟩
  all_goals exact keeps_frame hreads (fun _ => rfl) fun _ => rfl

theorem payInvoiceWalk_keeps (now : Instant) (invoiceId : ℕ) (invoice : PlanInvoice)
    (subscriptionId : ℕ) (paidAt : Instant) :
    Walk.Keeps property (payInvoiceWalk now invoiceId invoice subscriptionId paidAt) := by
  refine .andThen (keeps_frame hreads (fun _ => rfl) fun _ => rfl) (.andThen ?_ ?_)
  · refine keeps_frame hreads (fun tables => ?_) fun tables => ?_ <;>
      · obtain ⟨subscriptions, heq⟩ := activateSubscription_eq now tables subscriptionId
        rw [heq]
  · refine keeps_frame hreads (fun tables => ?_) fun tables => ?_ <;>
      · obtain ⟨subscriptions, heq⟩ := extendCoverage_eq tables invoice
        rw [heq]

theorem welcomeBackWalk_keeps (now : Instant) (accountId planId : ℕ) :
    Walk.Keeps property (welcomeBackWalk now accountId planId) := by
  refine ⟨fun tables htables => ?_⟩
  unfold welcomeBackWalk
  split
  · exact Walk.Keeps.pass.states tables htables
  · refine Walk.Keeps.states (.andThen ?_ ⟨fun lifted hlifted => ?_⟩) tables htables
    · exact keeps_frame hreads (fun _ => rfl) fun _ => rfl
    split
    · exact Walk.Keeps.pass.states lifted hlifted
    · exact (keeps_frame hreads (fun tables => (applyStoreCap_sameSales now tables _ _).payments)
        fun tables => (applyStoreCap_sameSales now tables _ _).events).states lifted hlifted

theorem settleInvoiceWalk_keeps (settings : Settings) (now : Instant) (invoiceId : ℕ)
    (invoice : PlanInvoice) (creditedId : Option ℕ) (paidAt : Instant) (source : String) :
    Walk.Keeps property
      (settleInvoiceWalk settings now invoiceId invoice creditedId paidAt source) := by
  refine ⟨fun tables htables => ?_⟩
  unfold settleInvoiceWalk
  split
  · exact Walk.Keeps.pass.states tables htables
  · split
    · refine Walk.Keeps.states ?_ tables htables
      exact keeps_frame hreads (fun _ => rfl) fun _ => rfl
    · refine (Walk.Keeps.andThen ?_ (welcomeBackWalk_keeps hreads now _ _)).states tables htables
      split
      · exact reinstateWalk_keeps hreads now invoiceId invoice _ creditedId paidAt source
      · exact payInvoiceWalk_keeps hreads now invoiceId invoice _ paidAt

theorem settleInvoiceForPaymentWalk_keeps (settings : Settings) (now : Instant)
    (paidAt : Instant) (creditedId : ℕ) :
    Walk.Keeps property (settleInvoiceForPaymentWalk settings now creditedId paidAt) := by
  refine ⟨fun tables htables => ?_⟩
  unfold settleInvoiceForPaymentWalk
  split
  · exact Walk.Keeps.fail.states tables htables
  · exact Walk.Keeps.pass.states tables htables
  · exact (settleInvoiceWalk_keeps hreads settings now _ _ _ paidAt "khqr").states tables htables

theorem deliveryWalk_keeps (eventId : ℕ) (endpoints : List (ℕ × WebhookEndpoint)) :
    Walk.Keeps property (deliveryWalk eventId endpoints) :=
  .each fun _ _ => keeps_frame hreads (fun _ => rfl) fun _ => rfl

end Frame

/-- A property that reads payments alone. -/
def ReadsPayments (property : Tables → Prop) : Prop :=
  ∀ state state', state'.payments = state.payments → property state → property state'

theorem ReadsPayments.readsSales {property : Tables → Prop} (hreads : ReadsPayments property) :
    ReadsSales property :=
  fun state state' hpayments _ hproperty => hreads state state' hpayments hproperty

/-- Events do not matter to a property of payments. -/
theorem eventWalk_frame {property : Tables → Prop} (hreads : ReadsPayments property)
    (now : Instant) (paymentId : ℕ) (payment : Payment) (store : Store) (type : EventType) :
    Walk.Keeps property (eventWalk now paymentId payment store type) where
  states tables hproperty := by
    unfold eventWalk
    have hadded : Walk.Keeps property
        (Walk.step (addEvent (outboxEvent now paymentId payment store type))) :=
      .step fun state hstate => hreads state _ rfl hstate
    refine (hadded.andThen ?_).states tables hproperty
    exact deliveryWalk_keeps hreads.readsSales _ _

/-! ## Half a settlement -/

/-- The payment reads paid and its completion is not reported. -/
structure HalfSettled (before : Tables) (paymentId : ℕ) (state : Tables) : Prop where
  paid : ∃ row, state.payments.get? paymentId = some row ∧ row.status = .paid
  unreported : ∀ key event, before.events.get? key = none → state.events.get? key = some event →
    event.type = .superseded
  sequence : before.events.next ≤ state.events.next

section HalfSettled

variable {before state state' whole : Tables} {paymentId : ℕ} {payment : Payment}

/-- Half a settlement is neither the whole nor nothing. -/
theorem HalfSettled.not_allOrNothing (hhalf : HalfSettled before paymentId state)
    (hpayment : before.payments.get? paymentId = some payment)
    (hopen : payment.status.isTerminal = false) :
    ¬ AllOrNothing before whole state paymentId := by
  rintro (⟨-, key, event, hnew, hevent, -, hcompleted⟩ | hnothing)
  · rw [hhalf.unreported key event hnew hevent] at hcompleted
    cases hcompleted
  · obtain ⟨row, hrow, hpaid⟩ := hhalf.paid
    have hsame := hnothing.payments paymentId
    rw [hrow, hpayment] at hsame
    rw [Option.map_some, Option.map_some, Option.some.injEq] at hsame
    have hstatus : row.forgetAttempts.status = payment.forgetAttempts.status := by rw [hsame]
    change row.status = payment.status at hstatus
    rw [← hstatus, hpaid] at hopen
    cases hopen

theorem HalfSettled.readsSales : ReadsSales (HalfSettled before paymentId) := by
  intro state state' hpayments hevents hhalf
  constructor
  · rw [hpayments]
    exact hhalf.paid
  · rw [hevents]
    exact hhalf.unreported
  · rw [hevents]
    exact hhalf.sequence

/-- An event about a retired code is not the completion. -/
theorem eventWalk_keeps (now : Instant) (successorId : ℕ) (successor : Payment) (store : Store) :
    Walk.Keeps (HalfSettled before paymentId)
      (eventWalk now successorId successor store .superseded) := by
  refine ⟨fun tables htables => ?_⟩
  unfold eventWalk
  refine (Walk.Keeps.andThen (.step fun state hhalf => ?_)
    (deliveryWalk_keeps HalfSettled.readsSales _ _)).states tables htables
  refine ⟨hhalf.paid, fun key event hnew hevent => ?_, ?_⟩
  · simp only [addEvent, Table.get?_insert] at hevent
    split at hevent
    · obtain rfl := Option.some.inj hevent
      rfl
    · exact hhalf.unreported key event hnew hevent
  · refine hhalf.sequence.trans ?_
    simp [addEvent]

theorem retireSuccessorsWalk_keeps (now : Instant) (store : Store) :
    Walk.Keeps (HalfSettled before paymentId) (retireSuccessorsWalk now paymentId store) := by
  refine ⟨fun tables htables => ?_⟩
  unfold retireSuccessorsWalk
  refine (Walk.Keeps.each fun successor hsuccessor => ?_).states tables htables
  have hother : successor.1 ≠ paymentId := by
    rintro hself
    obtain ⟨row, hrow, hpaid⟩ := htables.paid
    obtain ⟨hget, hkeep⟩ := Table.mem_select.mp hsuccessor
    rw [hself, hrow] at hget
    rw [Bool.and_eq_true, ← Option.some.inj hget, hpaid] at hkeep
    exact absurd hkeep.2 (by decide)
  refine .andThen (.step fun state hhalf => ⟨?_, hhalf.unreported, hhalf.sequence⟩)
    (eventWalk_keeps now _ _ store)
  obtain ⟨row, hrow, hpaid⟩ := hhalf.paid
  refine ⟨row, ?_, hpaid⟩
  rw [Table.get?_update, if_neg (Ne.symm hother), hrow]

theorem assigned_halfSettled (now : Instant) (credit : Credit)
    (hpayment : before.payments.get? paymentId = some payment) :
    HalfSettled before paymentId { before with
      payments := before.payments.update paymentId fun _ =>
        payment.settle now credit.bakongRef credit.gatewayRaw } := by
  refine ⟨⟨payment.settle now credit.bakongRef credit.gatewayRaw, by simp [hpayment], rfl⟩,
    fun key event hnew hevent => ?_, le_rfl⟩
  rw [hnew] at hevent
  cases hevent

/-- From its first assignment to its last a settlement is half done. -/
theorem settlementWalk_halfSettled (settings : Settings) (now : Instant) (credit : Credit)
    (ledgerFails : Bool) (store : Store)
    (hpayment : before.payments.get? paymentId = some payment) :
    ∀ state ∈ (settlementWalk settings now paymentId payment credit ledgerFails store
      before).states, HalfSettled before paymentId state := by
  have hassigned := assigned_halfSettled now credit hpayment
  have hrest : Walk.Keeps (HalfSettled before paymentId)
      (Walk.andThen (ledgerWalk now store
          (payment.settle now credit.bakongRef credit.gatewayRaw) ledgerFails)
        (Walk.andThen (settleInvoiceForPaymentWalk settings now paymentId now)
          (retireSuccessorsWalk now paymentId store))) :=
    (ledgerWalk_keeps HalfSettled.readsSales now store _ ledgerFails).andThen
      ((settleInvoiceForPaymentWalk_keeps HalfSettled.readsSales settings now now paymentId).andThen
        (retireSuccessorsWalk_keeps now store))
  intro state hstate
  rw [settlementWalk, Walk.states_andThen rfl] at hstate
  rcases List.mem_append.mp hstate with hfirst | hlater
  · rw [List.mem_singleton.mp hfirst]
    exact hassigned
  · exact hrest.states _ hassigned state hlater

end HalfSettled

/-! ## The completion event -/

/-- The settlement is over and its event written; deliveries may still be missing. -/
structure ReportedBy (settled : Tables) (event : Event) (state : Tables) : Prop where
  same : SameSettlement state settled
  events : state.events = settled.events.insert event

section Reported

variable {settled before state : Tables} {event : Event} {paymentId : ℕ}

theorem eventWalk_reported (now : Instant) (payment : Payment) (store : Store)
    (type : EventType) (settled : Tables) :
    ∀ state ∈ (eventWalk now paymentId payment store type settled).states,
      ReportedBy settled (outboxEvent now paymentId payment store type) state := by
  set event := outboxEvent now paymentId payment store type
  have hadded : ReportedBy settled event (addEvent event settled) :=
    ⟨⟨fun _ => rfl, rfl, rfl, rfl, rfl⟩, rfl⟩
  have hdeliveries : Walk.Keeps (ReportedBy settled event) (deliveryWalk settled.events.next
      (wantedEndpoints settled store.accountId type)) := by
    refine .each fun endpoint _ => .step fun state hstate => ⟨?_, hstate.events⟩
    exact ⟨hstate.same.payments, hstate.same.invoices, hstate.same.subscriptions,
      hstate.same.stores, hstate.same.ledger⟩
  intro state hstate
  rw [eventWalk, Walk.states_andThen rfl] at hstate
  rcases List.mem_append.mp hstate with hfirst | hlater
  · rw [List.mem_singleton.mp hfirst]
    exact hadded
  · exact hdeliveries.states _ hadded state hlater

theorem ReportedBy.completes (hreported : ReportedBy settled event state)
    (hsequence : before.events.next ≤ settled.events.next) (hpayment : event.paymentId = paymentId)
    (htype : event.type = .completed) : Completes before state paymentId := by
  refine ⟨settled.events.next, event, ?_, by simp [hreported.events], hpayment, htype⟩
  cases hget : before.events.get? settled.events.next with
  | none => rfl
  | some old => exact absurd (Table.lt_next hget) (not_lt.mpr hsequence)

end Reported

/-! ## A job -/

section Jobs

variable {settings : Settings} {now : Instant} {tables : Tables} {paymentId : ℕ}
  {payment : Payment} {credit : Credit} {ledgerFails : Bool} {store : Store}

/-- The settlement part comes to its end when one invoice at most points at the payment. -/
theorem settlementWalk_finished_iff :
    (settlementWalk settings now paymentId payment credit ledgerFails store tables).finished =
      true ↔ PaidOnce tables paymentId := by
  have hfollows := settlementWalk_follows settings now paymentId payment credit ledgerFails store
  obtain ⟨ledger, hrecord⟩ :=
    recordedTables_eq now paymentId payment credit ledgerFails store tables
  constructor
  · intro hfinished key key' invoice invoice' hinvoice hinvoice' hpointer hpointer'
    have hresult := hfollows.of_finished hfinished
    rw [hrecord, bind_eq_ok] at hresult
    obtain ⟨settled, hsettled, -⟩ := hresult
    rcases settleInvoiceForPayment_eq_ok hsettled with ⟨hnone, -⟩ | ⟨_, _, -, -, hunique, -⟩
    · exact absurd hpointer (hnone key invoice hinvoice)
    · rw [hunique key invoice hinvoice hpointer, hunique key' invoice' hinvoice' hpointer']
  · intro honce
    have hone := oneOrNone_select tables.invoices
      (fun _ invoice => decide (invoice.chmabapayPaymentId = some paymentId))
      fun key key' row row' hrow hrow' hkeep hkeep' =>
        honce key key' row row' hrow hrow' (of_decide_eq_true hkeep) (of_decide_eq_true hkeep')
    obtain ⟨found, hfound⟩ := hone
    have hsettled : ∃ settled, settleInvoiceForPayment settings now (recordedTables now paymentId
        payment credit ledgerFails store tables) paymentId now = .ok settled := by
      rw [hrecord]
      simp only [settleInvoiceForPayment, hfound]
      cases found with
      | none => exact ⟨_, rfl⟩
      | some row => exact ⟨_, rfl⟩
    obtain ⟨settled, hsettled⟩ := hsettled
    have hresult : (settleInvoiceForPayment settings now (recordedTables now paymentId payment
        credit ledgerFails store tables) paymentId now >>= fun settled =>
          .ok (retireSuccessors now settled paymentId store)) =
        .ok (retireSuccessors now settled paymentId store) := by
      rw [hsettled]
      rfl
    exact (hfollows.ok hresult).1

/-- What the session holds at the job's last commit. -/
theorem processDetection_reached {db committed : Database} {publicId : String}
    {attempt : Attempt} {closedAt : Option Instant} {fault : Option Fault}
    (hfind : findByPublicId db.tables publicId = some (paymentId, payment))
    (hopen : payment.status.isTerminal = false)
    (hcommit : processDetection settings now db publicId credit attempt closedAt ledgerFails
      fault = .ok committed) :
    committed.tables = appendAttempt paymentId attempt closedAt
      ((settlePaymentWalk settings now paymentId payment credit ledgerFails db.tables).reached
        db.tables (fault.map Fault.steps)) := by
  simp only [processDetection, hfind, hopen, Bool.false_eq_true, if_false, bind_eq_ok] at hcommit
  obtain ⟨outcome, houtcome, hcommit⟩ := hcommit
  simp only [Walk.reached]
  unfold Fault.outcome at houtcome
  split at houtcome
  · next hbroken =>
    obtain rfl := Except.ok.inj houtcome
    simp only [bind_eq_ok] at hcommit
    obtain ⟨settled, hsettled, hcommit⟩ := hcommit
    rw [Tables.commit_eq_ok hcommit, Tables.commit_eq_ok hsettled, hbroken, Option.getD_none]
  · next left hbroken =>
    split at houtcome
    · cases houtcome
    · obtain rfl := Except.ok.inj houtcome
      rw [Tables.commit_eq_ok hcommit, hbroken, Option.getD_some]

/-- Half settled in its early states and reported in its late ones, a walk is all or
nothing unless it stops in an early state. -/
theorem reached_allOrNothing_iff {walk : Walk Tables} {early late : List Tables}
    (hpayment : tables.payments.get? paymentId = some payment)
    (hopen : payment.status.isTerminal = false) (hstates : walk.states = early ++ late)
    (hsteps : walk.states ≠ [])
    (hearly : ∀ state ∈ early, HalfSettled tables paymentId state)
    (hlate : ∀ state ∈ late, SameSettlement state (walk.last tables) ∧
      Completes tables state paymentId) (raised : Option ℕ) :
    AllOrNothing tables (walk.last tables) (walk.reached tables raised) paymentId ↔
      raised = some 0 ∨ early.length < walk.taken raised := by
  rcases walk.reached_cases tables raised hstates with
    ⟨htaken, hreached⟩ | ⟨htaken, hle, hreached⟩ | ⟨htaken, hreached⟩
  · refine iff_of_true ?_ (.inl ((Walk.taken_eq_zero_iff hsteps).mp htaken))
    rw [hreached]
    exact .inr (.refl tables)
  · refine iff_of_false ((hearly _ hreached).not_allOrNothing hpayment hopen) ?_
    rintro (hzero | hlater)
    · rw [(Walk.taken_eq_zero_iff hsteps).mpr hzero] at htaken
      exact lt_irrefl 0 htaken
    · exact not_lt.mpr hle hlater
  · exact iff_of_true (.inl (hlate _ hreached)) (.inr htaken)

end Jobs

section Walks

variable {settings : Settings} {now : Instant} {tables : Tables} {paymentId : ℕ}
  {payment : Payment} {credit : Credit} {ledgerFails : Bool} {store : Store}

theorem settlementWalk_steps (settings : Settings) (now : Instant) (paymentId : ℕ)
    (payment : Payment) (credit : Credit) (ledgerFails : Bool) (store : Store)
    (tables : Tables) :
    (settlementWalk settings now paymentId payment credit ledgerFails store tables).states ≠
      [] := by
  rw [settlementWalk, Walk.states_andThen rfl]
  exact List.append_ne_nil_of_left_ne_nil (by simp [Walk.step]) _

/-- A settlement that cannot come to its end has no late states. -/
theorem settlePaymentWalk_of_stuck (hpayment : tables.payments.get? paymentId = some payment)
    (hstuck : ¬ (PaidOnce tables paymentId ∧ ∃ store,
      tables.stores.get? payment.storeId = some store)) :
    (settlePaymentWalk settings now paymentId payment credit ledgerFails tables).states ≠ [] ∧
      ∀ state ∈ (settlePaymentWalk settings now paymentId payment credit ledgerFails
        tables).states, HalfSettled tables paymentId state := by
  unfold settlePaymentWalk
  cases hstore : tables.stores.get? payment.storeId with
  | none =>
      refine ⟨by simp [Walk.andThen, Walk.step], fun state hstate => ?_⟩
      rw [Walk.states_andThen rfl] at hstate
      rcases List.mem_append.mp hstate with hfirst | hnone
      · rw [List.mem_singleton.mp hfirst]
        exact assigned_halfSettled now credit hpayment
      · cases hnone
  | some store =>
      have hunfinished : (settlementWalk settings now paymentId payment credit ledgerFails store
          tables).finished = false := by
        refine Bool.eq_false_iff.mpr fun hfinished => hstuck ⟨?_, store, hstore⟩
        exact settlementWalk_finished_iff.mp hfinished
      dsimp only
      rw [Walk.andThen_of_not_finished hunfinished]
      exact ⟨settlementWalk_steps _ _ _ _ _ _ _ _,
        settlementWalk_halfSettled settings now credit ledgerFails store hpayment⟩

/-- A settlement that comes to its end is half done up to its completion event and whole
from there on. -/
theorem settlePaymentWalk_of_settled (hpayment : tables.payments.get? paymentId = some payment)
    (hstore : tables.stores.get? payment.storeId = some store)
    (honce : PaidOnce tables paymentId) :
    ∃ late, (settlePaymentWalk settings now paymentId payment credit ledgerFails tables).states =
        (settlementWalk settings now paymentId payment credit ledgerFails store tables).states ++
          late ∧ late ≠ [] ∧
      ∀ state ∈ late, SameSettlement state
          ((settlePaymentWalk settings now paymentId payment credit ledgerFails tables).last
            tables) ∧ Completes tables state paymentId := by
  have hfinished : (settlementWalk settings now paymentId payment credit ledgerFails store
      tables).finished = true := settlementWalk_finished_iff.mpr honce
  have hwalk : settlePaymentWalk settings now paymentId payment credit ledgerFails tables =
      Walk.andThen (settlementWalk settings now paymentId payment credit ledgerFails store)
        (eventWalk now paymentId (payment.settle now credit.bakongRef credit.gatewayRaw) store
          .completed) tables := by
    simp only [settlePaymentWalk, hstore]
  have hlast := congrArg (fun walk => walk.last tables) hwalk
  have hstates := congrArg Walk.states hwalk
  rw [Walk.states_andThen hfinished] at hstates
  rw [Walk.last_andThen hfinished] at hlast
  set settled := (settlementWalk settings now paymentId payment credit ledgerFails store
    tables).last tables with hsettled
  set paid := payment.settle now credit.bakongRef credit.gatewayRaw
  have hhalf : HalfSettled tables paymentId settled :=
    settlementWalk_halfSettled settings now credit ledgerFails store hpayment _
      (Walk.last_mem_states (settlementWalk_steps _ _ _ _ _ _ _ _) tables)
  have hsteps : (eventWalk now paymentId paid store .completed settled).states ≠ [] := by
    rw [eventWalk, Walk.states_andThen rfl]
    exact List.append_ne_nil_of_left_ne_nil (by simp [Walk.step]) _
  have hreported : ∀ state ∈ (eventWalk now paymentId paid store .completed settled).states,
      ReportedBy settled (outboxEvent now paymentId paid store .completed) state :=
    eventWalk_reported now paid store .completed settled
  refine ⟨_, hstates, hsteps, fun state hstate => ⟨?_, ?_⟩⟩
  · rw [hlast]
    exact (hreported state hstate).same.trans
      (hreported _ (Walk.last_mem_states hsteps settled)).same.symm
  · exact (hreported state hstate).completes hhalf.sequence rfl rfl

end Walks

/-- The job keeps the settlement as a whole or no part of it exactly when the exception
is raised before the first assignment, or the settlement comes as far as its completion
event first. -/
theorem detection_all_or_nothing_iff {settings : Settings} {now : Instant}
    {db committed : Database} {publicId : String} {credit : Credit} {attempt : Attempt}
    {closedAt : Option Instant} {ledgerFails : Bool} {fault : Option Fault} {paymentId : ℕ}
    {payment : Payment}
    (hfind : findByPublicId db.tables publicId = some (paymentId, payment))
    (hopen : payment.status.isTerminal = false)
    (hcommit : processDetection settings now db publicId credit attempt closedAt ledgerFails
      fault = .ok committed) :
    AllOrNothing db.tables
        ((settlePaymentWalk settings now paymentId payment credit ledgerFails db.tables).last
          db.tables) committed.tables paymentId ↔
      Fault.SparesSettlement settings now db.tables paymentId payment credit ledgerFails
        fault := by
  obtain ⟨hpayment, -⟩ := findByPublicId_eq_some hfind
  have hzero : fault.map Fault.steps = some 0 ↔ ∃ raised ∈ fault, raised.steps = 0 := by
    simp [Option.map_eq_some_iff]
  rw [processDetection_reached hfind hopen hcommit,
    allOrNothing_congr (appendAttempt_same paymentId attempt closedAt _) rfl,
    Fault.SparesSettlement, ← hzero]
  by_cases hsettled : PaidOnce db.tables paymentId ∧ ∃ store,
      db.tables.stores.get? payment.storeId = some store
  · obtain ⟨honce, store, hstore⟩ := hsettled
    obtain ⟨late, hstates, hlater, hlate⟩ := settlePaymentWalk_of_settled hpayment hstore honce
    have hsteps := List.append_ne_nil_of_right_ne_nil (settlementWalk settings now paymentId
      payment credit ledgerFails store db.tables).states hlater
    rw [← hstates] at hsteps
    rw [reached_allOrNothing_iff hpayment hopen hstates hsteps
      (settlementWalk_halfSettled settings now credit ledgerFails store hpayment) hlate]
    refine or_congr_right ?_
    have hbound : (settlementWalk settings now paymentId payment credit ledgerFails store
        db.tables).states.length <
          (settlePaymentWalk settings now paymentId payment credit ledgerFails
            db.tables).states.length := by
      rw [hstates, List.length_append]
      have hpositive := List.length_pos_iff.mpr hlater
      omega
    rw [Walk.lt_taken_iff hbound]
    simp only [honce, hstore, true_and, Option.some.injEq, exists_eq_left', Option.mem_map,
      forall_exists_index, and_imp, forall_apply_eq_imp_iff₂]
  · obtain ⟨hsteps, hhalf⟩ := settlePaymentWalk_of_stuck hpayment hsettled
    rw [reached_allOrNothing_iff hpayment hopen (List.append_nil _).symm hsteps hhalf
      fun state hstate => by cases hstate]
    refine or_congr_right (iff_of_false ?_ ?_)
    · exact not_lt.mpr (min_le_right _ _)
    · rintro ⟨honce, store, hstore, -⟩
      exact hsettled ⟨honce, store, hstore⟩

namespace Specimen

/-- What the job records of its look at the sale. -/
def look : Attempt := .detection "payway_hosted" (seconds 90) (some 500) [] "PAID" true none

/-- The job that finds the sale credited. -/
def detect (fault : Option Fault) : Except Failure Database :=
  processDetection {} (seconds 90) sale "pay_1" credit look none false fault

/-- The sale as the settlement leaves it. -/
def settledSale : Tables :=
  (settlePaymentWalk {} (seconds 90) 0 offered credit false sale.tables).last sale.tables

end Specimen

theorem detection_all_or_nothing_unbroken :
    ∃ committed, Specimen.detect none = .ok committed ∧
      AllOrNothing Specimen.sale.tables Specimen.settledSale committed.tables 0 := by
  have hdetect : (Specimen.detect none).isOk = true := by decide +kernel
  obtain ⟨committed, hcommit⟩ : ∃ committed, Specimen.detect none = .ok committed := by
    cases hresult : Specimen.detect none with
    | ok committed => exact ⟨committed, rfl⟩
    | error failure =>
        rw [hresult] at hdetect
        cases hdetect
  have hfind : findByPublicId Specimen.sale.tables "pay_1" = some (0, Specimen.offered) := by
    decide +kernel
  refine ⟨committed, hcommit, (detection_all_or_nothing_iff hfind (by decide) hcommit).mpr
    (.inr ⟨?_, Specimen.shopStore, by decide +kernel, fun _ hnone => by cases hnone⟩)⟩
  intro key key' invoice invoice' hinvoice
  have hnone : ∀ key, Specimen.sale.tables.invoices.get? key = none := fun _ => rfl
  rw [hnone] at hinvoice
  cases hinvoice

/-- An exception right after the first assignment leaves the sale paid, without its
completion event and its ledger entry. -/
theorem detection_half_kept :
    ∃ committed, Specimen.detect (some ⟨1, false⟩) = .ok committed ∧
      ¬ AllOrNothing Specimen.sale.tables Specimen.settledSale committed.tables 0 := by
  have hdetect : ((Specimen.detect (some ⟨1, false⟩)).map fun committed =>
      (committed.tables.events.rows, (committed.tables.payments.get? 0).map (·.status))) =
        .ok ([], some .paid) := by decide +kernel
  cases hresult : Specimen.detect (some ⟨1, false⟩) with
  | error failure =>
      rw [hresult] at hdetect
      cases hdetect
  | ok committed =>
      rw [hresult] at hdetect
      obtain ⟨hevents, hstatus⟩ := Prod.mk.inj (Except.ok.inj hdetect)
      refine ⟨committed, rfl, ?_⟩
      rintro (⟨-, key, event, -, hevent, -⟩ | hnothing)
      · rw [Initial.get?_eq_none hevents] at hevent
        cases hevent
      · obtain ⟨row, hrow, hpaid⟩ := Option.map_eq_some_iff.mp hstatus
        have hbefore : Specimen.sale.tables.payments.get? 0 = some Specimen.offered := by
          decide +kernel
        have hsame := hnothing.payments 0
        rw [hrow, hbefore, Option.map_some, Option.map_some, Option.some.injEq] at hsame
        have hpending : row.forgetAttempts.status = Specimen.offered.forgetAttempts.status := by
          rw [hsame]
        change row.status = .pending at hpending
        rw [hpaid] at hpending
        cases hpending

end ChmabaPay
