import ChmabaPay.Payments.AllOrNothing
import ChmabaPay.Specimen
import ChmabaPay.Workers.DetectionJobs

/-! # What a confirmed payment is promoted to

A source that reports a payment as paid hands it to `mark_paid`, which sets the row first
and does everything else afterwards. ABA's answer is handed on whatever the row says, as
long as nothing final has happened to it; Bakong's only while the code is offered.
-/

namespace ChmabaPay

open Calendar Relational Fallible

/-- The row of the payment is paid. -/
def ReadsPaid (paymentId : ℕ) (tables : Tables) : Prop :=
  ∃ row, tables.payments.get? paymentId = some row ∧ row.status = .paid

/-! ## A call of `mark_paid` -/

section Walks

variable {settings : Settings} {now : Instant} {tables : Tables} {paymentId : ℕ}
  {payment : Payment} {credit : Credit} {ledgerFails : Bool}

/-- ABA's approval promotes every payment whose status is not final. -/
theorem PaymentStatus.isHostedPromotable_of_not_terminal {status : PaymentStatus}
    (hopen : status.isTerminal = false) : status.isHostedPromotable = true := by
  cases status with
  | pending | scanned | expired | superseded => rfl
  | paid | failed | reversed => cases hopen

theorem readsPayments_readsPaid : ReadsPayments (ReadsPaid paymentId) := by
  rintro state state' hpayments ⟨row, hrow, hpaid⟩
  exact ⟨row, hpayments ▸ hrow, hpaid⟩

/-- The row is set first, so it is paid in every state a settlement goes through. -/
theorem settlePaymentWalk_readsPaid (settings : Settings) (now : Instant) (credit : Credit)
    (ledgerFails : Bool) (hpayment : tables.payments.get? paymentId = some payment) :
    (settlePaymentWalk settings now paymentId payment credit ledgerFails tables).states ≠ [] ∧
      ∀ state ∈ (settlePaymentWalk settings now paymentId payment credit ledgerFails
        tables).states, ReadsPaid paymentId state := by
  unfold settlePaymentWalk
  cases hstore : tables.stores.get? payment.storeId with
  | none =>
      refine ⟨by simp [Walk.andThen, Walk.step], fun state hstate => ?_⟩
      rw [Walk.states_andThen rfl] at hstate
      rcases List.mem_append.mp hstate with hfirst | hnone
      · rw [List.mem_singleton.mp hfirst]
        exact (assigned_halfSettled now credit hpayment).paid
      · cases hnone
  | some store =>
      have hsteps := settlementWalk_steps settings now paymentId payment credit ledgerFails store
        tables
      have hhalf := settlementWalk_halfSettled settings now credit ledgerFails store hpayment
      dsimp only
      cases hfinished : (settlementWalk settings now paymentId payment credit ledgerFails store
          tables).finished with
      | false =>
          rw [Walk.andThen_of_not_finished hfinished]
          exact ⟨hsteps, fun state hstate => (hhalf state hstate).paid⟩
      | true =>
          rw [Walk.states_andThen hfinished]
          refine ⟨List.append_ne_nil_of_left_ne_nil hsteps _, fun state hstate => ?_⟩
          rcases List.mem_append.mp hstate with hearly | hlate
          · exact (hhalf state hearly).paid
          · have hlast := (hhalf _ (Walk.last_mem_states hsteps tables)).paid
            have hreads : ReadsPayments (ReadsPaid paymentId) := readsPayments_readsPaid
            have hframe := eventWalk_frame hreads now paymentId
              (payment.settle now credit.bakongRef credit.gatewayRaw) store .completed
            exact hframe.states _ hlast state hlate

/-- A settlement leaves the row paid unless it is broken off before its first step. -/
theorem settlePaymentWalk_reached_iff
    (hpayment : tables.payments.get? paymentId = some payment)
    (hopen : payment.status.isTerminal = false) (raised : Option ℕ) :
    ReadsPaid paymentId ((settlePaymentWalk settings now paymentId payment credit ledgerFails
      tables).reached tables raised) ↔ raised ≠ some 0 := by
  obtain ⟨hsteps, hpaid⟩ := settlePaymentWalk_readsPaid settings now credit ledgerFails hpayment
  rw [ne_eq, ← Walk.taken_eq_zero_iff hsteps]
  rcases Walk.reached_cases _ tables raised (List.nil_append _).symm with
    ⟨htaken, hreached⟩ | ⟨hpositive, hle, -⟩ | ⟨htaken, hreached⟩
  · refine iff_of_false ?_ (not_not.mpr htaken)
    rw [hreached]
    rintro ⟨row, hrow, hstatus⟩
    obtain rfl := Option.some.inj (hpayment.symm.trans hrow)
    rw [hstatus] at hopen
    cases hopen
  · exact absurd hpositive (by simpa using hle)
  · exact iff_of_true (hpaid _ hreached) htaken.ne'

end Walks

section Call

variable {settings : Settings} {now : Instant} {tables left : Tables} {paymentId : ℕ}
  {payment : Payment} {interruption : Interruption} {credit : Credit}

/-- What a usable session holds after the call. -/
theorem callMarkPaid_session
    (hfind : findByPublicId tables payment.publicId = some (paymentId, payment))
    (hopen : payment.status.isTerminal = false)
    (hsession : (callMarkPaid settings now tables payment.publicId interruption credit).session =
      some left) :
    left = (settlePaymentWalk settings now paymentId payment credit interruption.ledgerFails
      tables).reached tables (interruption.fault.map Fault.steps) := by
  simp only [callMarkPaid, hfind, hopen, Bool.false_eq_true, if_false] at hsession
  split at hsession
  · cases hsession
  next broken houtcome =>
    obtain rfl := Option.some.inj hsession
    unfold Fault.outcome at houtcome
    split at houtcome
    · cases houtcome
    next hbroken =>
      split at houtcome
      · cases houtcome
      · obtain rfl := Option.some.inj (Except.ok.inj houtcome)
        rw [Walk.reached, hbroken, Option.getD_some]
  next houtcome =>
    split at hsession
    · cases hsession
    next db hcommit =>
      obtain rfl := Option.some.inj hsession
      unfold Fault.outcome at houtcome
      split at houtcome
      next hbroken =>
        rw [Walk.reached, hbroken, Option.getD_none]
        exact Tables.commit_eq_ok hcommit
      · split at houtcome
        · cases houtcome
        · cases houtcome

/-- After the call the row is paid, unless an exception came before it was set. -/
theorem callMarkPaid_readsPaid_iff
    (hfind : findByPublicId tables payment.publicId = some (paymentId, payment))
    (hopen : payment.status.isTerminal = false)
    (hsession : (callMarkPaid settings now tables payment.publicId interruption credit).session =
      some left) :
    ReadsPaid paymentId left ↔ interruption.fault.map Fault.steps ≠ some 0 := by
  rw [callMarkPaid_session hfind hopen hsession]
  exact settlePaymentWalk_reached_iff (Table.find?_eq_some hfind).1 hopen _

/-- The session still has the row. -/
theorem callMarkPaid_row
    (hfind : findByPublicId tables payment.publicId = some (paymentId, payment))
    (hopen : payment.status.isTerminal = false)
    (hsession : (callMarkPaid settings now tables payment.publicId interruption credit).session =
      some left) :
    ∃ row, left.payments.get? paymentId = some row := by
  have hpayment := (Table.find?_eq_some hfind).1
  obtain ⟨-, hpaid⟩ := settlePaymentWalk_readsPaid settings now credit
    interruption.ledgerFails hpayment
  rw [callMarkPaid_session hfind hopen hsession]
  rcases Walk.reached_cases _ tables (interruption.fault.map Fault.steps)
    (List.nil_append _).symm with ⟨-, hreached⟩ | ⟨-, -, hreached⟩ | ⟨-, hreached⟩
  · rw [hreached]
    exact ⟨payment, hpayment⟩
  · cases hreached
  · obtain ⟨row, hrow, -⟩ := hpaid _ hreached
    exact ⟨row, hrow⟩

/-- A call that raises nothing leaves the row paid. -/
theorem callMarkPaid_of_ok {transitioned : Bool}
    (hfind : findByPublicId tables payment.publicId = some (paymentId, payment))
    (hopen : payment.status.isTerminal = false)
    (hcall : (callMarkPaid settings now tables payment.publicId interruption credit).outcome =
      .ok transitioned) :
    ∃ left, (callMarkPaid settings now tables payment.publicId interruption credit).session =
      some left ∧ ReadsPaid paymentId left := by
  simp only [callMarkPaid, hfind, hopen, Bool.false_eq_true, if_false] at hcall ⊢
  split at hcall
  · cases hcall
  · cases hcall
  next houtcome =>
    split at hcall
    · cases hcall
    next db hcommit =>
      refine ⟨db.tables, rfl, ?_⟩
      have hstates := settlePaymentWalk_readsPaid settings now credit
        interruption.ledgerFails (Table.find?_eq_some hfind).1
      rw [Tables.commit_eq_ok hcommit]
      exact hstates.2 _ (Walk.last_mem_states hstates.1 tables)

/-- A job that could save its attempt had a usable session. -/
theorem saveAttempt_eq_ok {session : Option Tables} {attempt : Attempt}
    {closedAt : Option Instant} {saved : Database}
    (hsave : saveAttempt session paymentId attempt closedAt = .ok saved) :
    ∃ left, session = some left ∧
      saved.tables = appendAttempt paymentId attempt closedAt left := by
  unfold saveAttempt at hsave
  split at hsave
  · cases hsave
  · exact ⟨_, rfl, Tables.commit_eq_ok hsave⟩

end Call

/-! ## The call a reconciliation makes -/

section Calls

variable {printing : Printing} {payment : Payment} {calls : RailCalls}

theorem promote_call {markPaid : Credit → MarkPaidCall} {promotable : Bool} {label : String}
    {credit : Credit} {given : ReconcileResult} :
    (promote (some markPaid) promotable label credit given).2 = none ∨
      ∃ handed, (promote (some markPaid) promotable label credit given).2 =
        some (markPaid handed) := by
  cases promotable with
  | false => exact .inl rfl
  | true =>
      refine .inr ⟨credit, ?_⟩
      simp only [promote, Option.filter_some, if_true]
      split <;> rfl

/-- A reconciliation calls `mark_paid` once or not at all. -/
theorem reconcilePayment_call {markPaid : Credit → MarkPaidCall} {hints : ReconcileHints}
    {result : ReconcileResult} {call : Option MarkPaidCall}
    (hanswer : reconcilePayment printing payment calls hints (some markPaid) = (result, call)) :
    call = none ∨ ∃ credit, call = some (markPaid credit) := by
  obtain rfl := congrArg Prod.snd hanswer
  unfold reconcilePayment
  split
  · unfold reconcileHosted
    split
    · exact .inl rfl
    · split
      · exact promote_call
      · exact .inl rfl
  · unfold reconcileBakong
    split
    · exact .inl rfl
    · exact .inl rfl
    · split
      · exact .inl rfl
      · dsimp only
        split
        · unfold settleFromBakong
          cases payment.status.isOpen with
          | false => exact .inl rfl
          | true => exact promote_call
        · exact .inl rfl

end Calls

/-! ## A report that a payment is paid -/

/-- Bakong has a transaction for the payment and reports it as settled. -/
def SettledAtBakong (payment : Payment) (calls : RailCalls) : Prop :=
  ∃ verified tx, askBakong payment calls = .ok verified ∧ verified.transaction = some tx ∧
    tx.isSettled = true

/-- The row is paid, or the result tells that something went wrong. -/
def Traced (tables : Tables) (paymentId : ℕ)
    (answer : ReconcileResult × Option MarkPaidCall) : Prop :=
  (∃ left, sessionAfter tables answer.2 = some left ∧ ReadsPaid paymentId left) ∨
    answer.1.error.isSome = true ∨ answer.1.signals.any (·.isAmountMismatch) = true

section Reports

variable {settings : Settings} {now : Instant} {tables : Tables} {paymentId : ℕ}
  {payment : Payment} {printing : Printing} {calls : RailCalls} {hints : ReconcileHints}
  {interruption : Interruption} {markPaid : Option (Credit → MarkPaidCall)}

/-- A payment is promoted, or what stopped it is in the result. -/
theorem promote_traced {label : String} {credit : Credit} {result : ReconcileResult}
    (hfind : findByPublicId tables payment.publicId = some (paymentId, payment))
    (hopen : payment.status.isTerminal = false) :
    Traced tables paymentId (promote
      (some (callMarkPaid settings now tables payment.publicId interruption)) true label credit
      result) := by
  simp only [promote, Option.filter_some, if_true]
  cases hcall : (callMarkPaid settings now tables payment.publicId interruption credit).outcome with
  | error message => exact .inr (.inl rfl)
  | ok transitioned => exact .inl (callMarkPaid_of_ok hfind hopen hcall)

/-- What is not settled is not reported as paid. -/
theorem decideStatus_ne_paid (tx : Option BakongTransaction) (result : ReconcileResult) :
    (decideStatus tx result).status ≠ .paid := by
  cases tx with
  | none => exact RailStatus.noConfusion
  | some tx =>
      simp only [decideStatus]
      split <;> exact RailStatus.noConfusion

theorem promote_status {promotable : Bool} {label : String} {credit : Credit}
    {result : ReconcileResult} :
    (promote markPaid promotable label credit result).1.status = result.status := by
  unfold promote
  split
  · rfl
  · dsimp only
    split <;> rfl

theorem settleFromBakong_status {verified : ReceiptVerifyResult} {tx : BakongTransaction}
    {result : ReconcileResult} :
    (settleFromBakong printing payment verified tx markPaid result).1.status = .paid := by
  unfold settleFromBakong
  dsimp only
  split
  · rfl
  · rw [promote_status]

/-- Bakong's report is the one that the transaction is settled. -/
theorem reconcileBakong_paid_iff :
    (reconcileBakong printing payment calls hints markPaid).1.status = .paid ↔
      SettledAtBakong payment calls := by
  unfold reconcileBakong SettledAtBakong
  cases askBakong payment calls with
  | error failure =>
      refine iff_of_false ?_ (by simp)
      cases failure with
      | apiError message code => exact decideStatus_ne_paid _ _
      | other message => exact decideStatus_ne_paid _ _
  | ok verified =>
      cases hfound : verified.transaction with
      | none =>
          simp only [hfound]
          refine iff_of_false (decideStatus_ne_paid _ _) ?_
          rintro ⟨verified', tx, hverified, htx, -⟩
          rw [← Except.ok.inj hverified, hfound] at htx
          cases htx
      | some tx =>
          simp only [hfound]
          cases hsettled : tx.isSettled with
          | true =>
              simp only [if_true]
              exact iff_of_true settleFromBakong_status ⟨verified, tx, rfl, hfound, hsettled⟩
          | false =>
              simp only [Bool.false_eq_true, if_false]
              refine iff_of_false (decideStatus_ne_paid _ _) ?_
              rintro ⟨verified', tx', hverified, htx, hsettled'⟩
              rw [← Except.ok.inj hverified, hfound] at htx
              rw [← Option.some.inj htx, hsettled] at hsettled'
              cases hsettled'

/-- A settled transaction promotes the row, or is noted as a mismatch, while the code is
offered; afterwards nothing is done. -/
theorem settleFromBakong_traced_iff {verified : ReceiptVerifyResult} {tx : BakongTransaction}
    {signals : List Signal}
    (hfind : findByPublicId tables payment.publicId = some (paymentId, payment))
    (hopen : payment.status.isTerminal = false)
    (hsignals : signals.any (·.isAmountMismatch) = false) :
    Traced tables paymentId (settleFromBakong printing payment verified tx
        (some (callMarkPaid settings now tables payment.publicId interruption))
        { bakongResult := some verified, signals := signals }) ↔
      payment.status.isOpen = true := by
  cases hoffered : payment.status.isOpen with
  | true =>
      refine iff_of_true ?_ rfl
      simp only [settleFromBakong, hoffered, Option.filter_some, if_true]
      cases hagrees : (checkAmount payment tx).1 with
      | true => exact promote_traced hfind hopen
      | false =>
          -- amounts that disagree are noted, and nothing is marked
          right; right
          simp only [promote, Option.filter_some, Bool.false_eq_true, if_false, List.any_append,
            hsignals, Bool.false_or, Bool.or_eq_true]
          right
          unfold checkAmount at hagrees ⊢
          dsimp only at hagrees ⊢
          split at hagrees
          · cases hagrees
          next hcompared =>
            rw [if_neg hcompared]
            split at hagrees
            next expected amount hexpected hamount =>
              split at hagrees
              · cases hagrees
              next hdiffer =>
                rw [if_neg hdiffer]
                rfl
            · cases hagrees
  | false =>
      refine iff_of_false ?_ Bool.false_ne_true
      simp only [settleFromBakong, hoffered, Option.filter_some, Bool.false_eq_true, if_false]
      rintro (⟨left, hleft, row, hrow, hpaid⟩ | herror | hmismatch)
      · obtain rfl := Option.some.inj hleft
        obtain rfl := Option.some.inj ((Table.find?_eq_some hfind).1.symm.trans hrow)
        rw [hpaid] at hopen
        cases hopen
      · cases herror
      · rw [List.any_append, hsignals] at hmismatch
        cases hmismatch

/-- A payment is reported as paid with its row paid, or with an error or a mismatch of the
amounts, exactly when it is not one that only Bakong confirms after its code lapsed or was
replaced. -/
theorem reported_paid_traced_iff
    (hfind : findByPublicId tables payment.publicId = some (paymentId, payment))
    (hopen : payment.status.isTerminal = false) :
    ((reconcilePayment printing payment calls hints
        (some (callMarkPaid settings now tables payment.publicId interruption))).1.status = .paid →
      Traced tables paymentId (reconcilePayment printing payment calls hints
        (some (callMarkPaid settings now tables payment.publicId interruption)))) ↔
      ¬ (payment.isHosted = false ∧ SettledAtBakong payment calls ∧
        (payment.status = .expired ∨ payment.status = .superseded)) := by
  cases hhosted : payment.gatewayStatusRaw.bind (·.paywayHosted) with
  | some hosted =>
      have hrail : payment.isHosted = true := by
        rw [Payment.isHosted, hhosted]
        rfl
      refine iff_of_true ?_ (by simp [hrail])
      simp only [reconcilePayment, hhosted, reconcileHosted]
      split
      · exact fun hpending => by cases hpending
      · split
        · intro _
          rw [PaymentStatus.isHostedPromotable_of_not_terminal hopen]
          exact promote_traced hfind hopen
        · exact fun hpending => by cases hpending
  | none =>
      have hrail : payment.isHosted = false := by
        rw [Payment.isHosted, hhosted]
        rfl
      have hlapsed : payment.status.isOpen = false ↔
          payment.status = .expired ∨ payment.status = .superseded := by
        revert hopen
        cases payment.status <;> decide
      simp only [reconcilePayment, hhosted, hrail, true_and, ← hlapsed]
      rw [reconcileBakong_paid_iff, not_and, Bool.not_eq_false]
      refine imp_congr_right fun hsettled => ?_
      obtain ⟨verified, tx, hask, htx, htrue⟩ := hsettled
      simp only [reconcileBakong, hask, htx, htrue, if_true]
      exact settleFromBakong_traced_iff hfind hopen rfl

end Reports

namespace Specimen

/-- A ledger on which every payment of five dollars is settled. -/
def ledgerCalls : RailCalls where
  fetchHostedStatus := fun _ => .error "ConnectTimeout"
  search := fun _ => .ok (some
    { hash := some "c0de", currency := some "USD", amount := some (.integer 5)
      status := some "Success" })
  fetchPaymentStatus := fun _ => .error "ConnectTimeout"

def printing : Printing where
  amountText := fun _ => "5.0"
  lookupsJson := fun _ => "[]"

/-- The offered code has lapsed. -/
def lapsed : Payment := { offered with status := .expired }

def lapsedTables : Tables := { sale.tables with payments := .ofList [lapsed] }

/-- What is found out about a payment of the shop, with nothing going wrong on the way. -/
def reconciled (tables : Tables) (payment : Payment) : ReconcileResult × Option MarkPaidCall :=
  reconcilePayment printing payment ledgerCalls {}
    (some (callMarkPaid {} (seconds 600) tables payment.publicId {}))

end Specimen

section

open Specimen

theorem reported_paid_traced_offered :
    findByPublicId sale.tables offered.publicId = some (0, offered) ∧
      ((reconciled sale.tables offered).1.status = .paid →
        Traced sale.tables 0 (reconciled sale.tables offered)) := by
  have hfind : findByPublicId sale.tables offered.publicId = some (0, offered) := by rfl
  refine ⟨hfind, (reported_paid_traced_iff hfind rfl).mpr fun hlapsed => ?_⟩
  simpa [offered, requestedPayment] using hlapsed.2.2

/-- The ledger confirms a code that has lapsed: the report says paid, the row says expired,
and nothing tells them apart. -/
theorem reported_paid_untraced :
    findByPublicId lapsedTables lapsed.publicId = some (0, lapsed) ∧
      lapsed.status.isTerminal = false ∧ (reconciled lapsedTables lapsed).1.status = .paid ∧
      ¬ Traced lapsedTables 0 (reconciled lapsedTables lapsed) := by
  refine ⟨rfl, rfl, rfl, ?_⟩
  have hcall : (reconciled lapsedTables lapsed).2 = none := by rfl
  have herror : (reconciled lapsedTables lapsed).1.error = none := by rfl
  have hsignals :
      (reconciled lapsedTables lapsed).1.signals.any (·.isAmountMismatch) = false := by rfl
  rintro (⟨left, hleft, row, hrow, hpaid⟩ | herror' | hmismatch)
  · rw [hcall] at hleft
    obtain rfl := Option.some.inj hleft
    have hget : lapsedTables.payments.get? 0 = some lapsed := by rfl
    rw [hget] at hrow
    rw [← Option.some.inj hrow] at hpaid
    cases hpaid
  · rw [herror] at herror'
    cases herror'
  · rw [hsignals] at hmismatch
    cases hmismatch

end

end ChmabaPay
