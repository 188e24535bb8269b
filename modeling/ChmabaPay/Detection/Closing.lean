import ChmabaPay.Detection.Promotion

/-! # The last look at a payment

The job that closes the detection window of a payment tells three cases apart: settled,
answered, and not known. It reads them off the status and the error of a reconciliation. A
status of paid is taken for a settled row, and a missing error for an answer.
-/

namespace ChmabaPay

open Calendar Relational Fallible

/-! ## What the rail said -/

/-- The API answered that it has no transaction under this identifier. -/
def AnsweredMissing (search : BakongSearch) (lookup : Lookup) : Prop :=
  search lookup = .ok none ∨
    ∃ message, search lookup = .error (.apiError message (some bakongErrorNotFound))

/-- Every lookup of the payment was made, and was answered with no transaction. -/
def MissingAtBakong (payment : Payment) (calls : RailCalls) : Prop :=
  (receiptOf payment).lookups ≠ [] ∧
    ∀ named ∈ (receiptOf payment).lookups, AnsweredMissing calls.search named.2

/-- The rail of the payment answered for it, and the answer is not that it is paid. -/
def SaidUnpaid (payment : Payment) (calls : RailCalls) : Prop :=
  match payment.gatewayStatusRaw.bind (·.paywayHosted) with
  | some hosted => ∃ answer, calls.fetchHostedStatus hosted = .ok answer ∧ answer.paid = false
  | none =>
      (∃ verified tx, askBakong payment calls = .ok verified ∧ verified.transaction = some tx ∧
        tx.isSettled = false) ∨ MissingAtBakong payment calls

/-- The row was set before `mark_paid` raised, if it did. -/
def Interruption.SparesRow (interruption : Interruption) : Prop :=
  interruption.fault.map Fault.steps ≠ some 0

/-- When the job knows what it closes on. A confirmation of ABA has to reach the row. One of
Bakong has to as well, and does so only for an offered code whose amount agrees. Bakong's
silence has to be an answer to every lookup, or a refusal of our credentials, which is
reported. -/
def Informed (payment : Payment) (calls : RailCalls) (interruption : Interruption) : Prop :=
  match payment.gatewayStatusRaw.bind (·.paywayHosted) with
  | some hosted => ∀ answer, calls.fetchHostedStatus hosted = .ok answer → answer.paid = true →
      interruption.SparesRow
  | none =>
      match askBakong payment calls with
      | .error (.apiError _ code) => code = some bakongErrorUnauthorized
      | .error (.other _) => False
      | .ok verified =>
          match verified.transaction with
          | none => MissingAtBakong payment calls
          | some tx => tx.isSettled = true → payment.status.isOpen = true ∧
              (checkAmount payment tx).1 = true ∧ interruption.SparesRow

section Answers

variable {payment : Payment} {calls : RailCalls}

theorem AnsweredMissing.tryLookup {search : BakongSearch} {lookup : Lookup}
    {requireStatus : Option String} (hmissing : AnsweredMissing search lookup) :
    ChmabaPay.tryLookup search requireStatus lookup = .ok none := by
  unfold ChmabaPay.tryLookup
  rcases hmissing with hnone | ⟨message, hrefused⟩
  · rw [hnone]
    rfl
  · rw [hrefused]
    rfl

/-- When all is answered and missing, Bakong's answer is that nothing is found. -/
theorem MissingAtBakong.askBakong (hmissing : MissingAtBakong payment calls) :
    ∃ verified, ChmabaPay.askBakong payment calls = .ok verified ∧ verified.transaction = none :=
  cascade_misses_iff.mpr fun named hnamed => (hmissing.2 named hnamed).tryLookup

end Answers

/-! ## A job that closes -/

section Jobs

variable {settings : Settings} {printing : Printing} {now : Instant} {db : Database}
  {calls : RailCalls} {interruption : Interruption} {job : DetectionJob} {handled : Handled}
  {paymentId : ℕ} {payment : Payment} {left : Tables}

/-- The attempt record does not change what the row says. -/
theorem appendAttempt_readsPaid_iff {attempt : Attempt} {closedAt : Option Instant} :
    ReadsPaid paymentId (appendAttempt paymentId attempt closedAt left) ↔
      ReadsPaid paymentId left := by
  simp only [ReadsPaid, appendAttempt, Table.get?_update, if_pos]
  cases left.payments.get? paymentId with
  | none => simp
  | some row => simp [Payment.recordAttempt]

/-- A job that closes the window of a payment has reconciled it, and commits what its
session holds. -/
theorem processOne_closed
    (hfind : findByPublicId db.tables job.paymentPublicId = some (paymentId, payment))
    (hjob : processOne settings printing now db calls interruption job = .ok handled)
    (hclosed : handled.closedAt.isSome = true) :
    payment.status.isTerminal = false ∧ ∃ result call left attempt,
      reconcilePayment printing payment calls {}
        (sessionMarkPaid settings now db.tables payment.publicId interruption) = (result, call) ∧
      sessionAfter db.tables call = some left ∧
      handled.closedAt = some now ∧
      handled.db.tables = appendAttempt paymentId attempt (some now) left ∧
      handled.alert = (closeDetectionWindow payment.publicId result).2 := by
  simp only [processOne, hfind] at hjob
  split at hjob
  · obtain rfl := Except.ok.inj hjob
    cases hclosed
  next hopen =>
  split at hjob
  · obtain rfl := Except.ok.inj hjob
    cases hclosed
  refine ⟨Bool.not_eq_true _ ▸ hopen, ?_⟩
  generalize reconcilePayment printing payment calls {} _ = answer at hjob ⊢
  obtain ⟨result, call⟩ := answer
  dsimp only at hjob
  split at hjob
  · simp only [bind_eq_ok, pure_eq_ok] at hjob
    obtain ⟨saved, -, rfl⟩ := hjob
    cases hclosed
  next matchedCents hmatched =>
    simp only [bind_eq_ok, pure_eq_ok] at hjob
    obtain ⟨saved, hsaved, rfl⟩ := hjob
    cases hfinal : job.final with
    | false =>
        rw [hfinal] at hclosed
        cases hclosed
    | true =>
        obtain ⟨left, hleft, htables⟩ := saveAttempt_eq_ok hsaved
        rw [hfinal] at htables
        exact ⟨result, call, left, _, rfl, hleft, rfl, htables, rfl⟩

/-- The mark a job commits stands in the row. -/
theorem processOne_mark
    (hfind : findByPublicId db.tables job.paymentPublicId = some (paymentId, payment))
    (hjob : processOne settings printing now db calls interruption job = .ok handled)
    (hclosed : handled.closedAt.isSome = true) :
    (handled.db.tables.payments.get? paymentId).bind (·.detectionClosedAt) = handled.closedAt := by
  obtain ⟨hopen, result, call, left, attempt, hanswer, hleft, hmark, htables, -⟩ :=
    processOne_closed hfind hjob hclosed
  have hget := (Table.find?_eq_some hfind).1
  have hsame : payment.publicId = job.paymentPublicId :=
    of_decide_eq_true (Table.find?_eq_some hfind).2
  rw [← hsame] at hfind
  have hrow : ∃ row, left.payments.get? paymentId = some row := by
    rcases reconcilePayment_call hanswer with rfl | ⟨credit, rfl⟩
    · obtain rfl := Option.some.inj hleft
      exact ⟨payment, hget⟩
    · exact callMarkPaid_row hfind hopen hleft
  obtain ⟨row, hrow⟩ := hrow
  rw [htables, hmark]
  simp only [appendAttempt, Table.get?_update, if_pos, hrow]
  rfl

/-- For a payment that ABA approves, the job does what a detection job that reads only the
credit does. -/
theorem processOne_approved {hosted : HostedSession} {answer : HostedStatus}
    (hfind : findByPublicId db.tables job.paymentPublicId = some (paymentId, payment))
    (hopen : payment.status.isTerminal = false)
    (hhosted : payment.gatewayStatusRaw.bind (·.paywayHosted) = some hosted)
    (hfetch : calls.fetchHostedStatus hosted = .ok answer) (hpaid : answer.paid = true)
    (hlate : interruption.late = false) :
    ∃ attempt, (processOne settings printing now db calls interruption job).map Handled.db =
      processDetection settings now db job.paymentPublicId (hostedCredit payment hosted answer)
        attempt (if job.final then some now else none) interruption.ledgerFails
        interruption.fault := by
  have hsame : payment.publicId = job.paymentPublicId :=
    of_decide_eq_true (Table.find?_eq_some hfind).2
  have hrail : payment.isHosted = true := by
    rw [Payment.isHosted, hhosted]
    rfl
  have hpromotable := PaymentStatus.isHostedPromotable_of_not_terminal hopen
  have hcents : ∃ cents,
      matchedAmountCents ((expectedAmountUsd payment).map .double) = .ok cents := by
    cases expectedAmountUsd payment with
    | none => exact ⟨none, rfl⟩
    | some value => exact ⟨_, rfl⟩
  obtain ⟨cents, hcents⟩ := hcents
  have hsaved : ∀ (saving : Except Failure Database) closedAt alert,
      (saving.bind fun saved => .ok { db := saved, closedAt := closedAt, alert := alert }).map
        Handled.db = saving := by
    intro saving closedAt alert
    cases saving <;> rfl
  simp only [processOne, processDetection, hfind, hopen, hrail, Bool.false_eq_true, if_false,
    reconcilePayment, hhosted, reconcileHosted, hfetch, hpaid, if_true, hpromotable,
    sessionMarkPaid, promote, Option.filter_some, hsame, callMarkPaid, Bool.true_eq_false,
    false_and]
  cases houtcome : Fault.outcome interruption.fault (settlePaymentWalk settings now paymentId
      payment (hostedCredit payment hosted answer) interruption.ledgerFails db.tables)
      db.tables with
  | error failure =>
      have hintegrity : failure = .integrity := by
        unfold Fault.outcome at houtcome
        split at houtcome
        · cases houtcome
        · split at houtcome
          · exact (Except.error.inj houtcome).symm
          · cases houtcome
      refine ⟨.testModeBypassHook now, ?_⟩
      simp only [hcents, sessionAfter, saveAttempt, hintegrity]
      rfl
  | ok broken =>
      cases broken with
      | some left =>
          simp only [hcents, sessionAfter, saveAttempt]
          exact ⟨_, hsaved _ _ _⟩
      | none =>
          simp only [hlate, Bool.false_eq_true, if_false]
          cases hcommit : ((settlePaymentWalk settings now paymentId payment
              (hostedCredit payment hosted answer) interruption.ledgerFails db.tables).last
              db.tables).commit with
          | error failure =>
              have hintegrity : failure = .integrity := by
                unfold Tables.commit at hcommit
                split at hcommit
                · cases hcommit
                · exact (Except.error.inj hcommit).symm
              refine ⟨.testModeBypassHook now, ?_⟩
              simp only [hcents, sessionAfter, saveAttempt, hintegrity]
              rfl
          | ok settled =>
              simp only [hcents, sessionAfter, saveAttempt]
              exact ⟨_, hsaved _ _ _⟩

end Jobs

/-! ## What is known of the payment -/

section Known

variable {settings : Settings} {printing : Printing} {now : Instant} {tables left : Tables}
  {calls : RailCalls} {interruption : Interruption} {paymentId : ℕ} {payment : Payment}
  {result : ReconcileResult} {call : Option MarkPaidCall}

theorem closeDetectionWindow_alerts_iff {publicId : String} :
    (closeDetectionWindow publicId result).2.isSome = true ↔
      result.status ≠ .paid ∧ result.error.isSome = true := by
  unfold closeDetectionWindow
  split
  next hpaid => simp [hpaid]
  next hunpaid =>
    cases result.error with
    | none => simp
    | some error => simp [hunpaid]

theorem not_readsPaid
    (hfind : findByPublicId tables payment.publicId = some (paymentId, payment))
    (hopen : payment.status.isTerminal = false) : ¬ ReadsPaid paymentId tables := by
  rintro ⟨row, hrow, hpaid⟩
  obtain rfl := Option.some.inj ((Table.find?_eq_some hfind).1.symm.trans hrow)
  rw [hpaid] at hopen
  cases hopen

/-- The result of a promotion has the status it was given, and the session is the one
`mark_paid` leaves. -/
theorem promote_session {label : String} {credit : Credit} {given : ReconcileResult}
    (hfind : findByPublicId tables payment.publicId = some (paymentId, payment))
    (hopen : payment.status.isTerminal = false)
    (hanswer : promote (sessionMarkPaid settings now tables payment.publicId interruption) true
      label credit given = (result, call))
    (hleft : sessionAfter tables call = some left) :
    ReadsPaid paymentId left ↔ interruption.SparesRow := by
  have hcall : call =
      some (callMarkPaid settings now tables payment.publicId interruption credit) := by
    simp only [promote, sessionMarkPaid, Option.filter_some, if_true] at hanswer
    split at hanswer
    · exact (Prod.mk.inj hanswer).2.symm
    · exact (Prod.mk.inj hanswer).2.symm
  subst hcall
  exact callMarkPaid_readsPaid_iff hfind hopen hleft

/-- ABA's answer is known when a confirmation reaches the row. -/
theorem reconcileHosted_informed_iff {hosted : HostedSession}
    (hhosted : payment.gatewayStatusRaw.bind (·.paywayHosted) = some hosted)
    (hfind : findByPublicId tables payment.publicId = some (paymentId, payment))
    (hopen : payment.status.isTerminal = false)
    (hanswer : reconcileHosted payment hosted calls
      (sessionMarkPaid settings now tables payment.publicId interruption) = (result, call))
    (hleft : sessionAfter tables call = some left) :
    (ReadsPaid paymentId left ∨ SaidUnpaid payment calls ∨
        (closeDetectionWindow payment.publicId result).2.isSome = true) ↔
      Informed payment calls interruption := by
  rw [closeDetectionWindow_alerts_iff]
  simp only [SaidUnpaid, Informed, hhosted]
  unfold reconcileHosted at hanswer
  cases hfetch : calls.fetchHostedStatus hosted with
  | error message =>
      -- no answer, and an alert
      rw [hfetch] at hanswer
      obtain ⟨rfl, -⟩ := Prod.mk.inj hanswer
      refine iff_of_true (.inr (.inr ⟨RailStatus.noConfusion, rfl⟩)) fun answer hanswered => ?_
      cases hanswered
  | ok answer =>
      simp only [hfetch] at hanswer
      cases hpaid : answer.paid with
      | false =>
          refine iff_of_true (.inr (.inl ⟨answer, rfl, hpaid⟩)) fun answer' hanswered hpaid' => ?_
          rw [← Except.ok.inj hanswered, hpaid] at hpaid'
          cases hpaid'
      | true =>
          have hpromotable := PaymentStatus.isHostedPromotable_of_not_terminal hopen
          rw [hpaid, hpromotable] at hanswer
          have hsession := promote_session hfind hopen hanswer hleft
          have hstatus : result.status = .paid := by
            have hfirst := congrArg (fun made => made.1.status) hanswer
            rw [if_pos rfl, promote_status] at hfirst
            exact hfirst.symm
          rw [hsession, hstatus]
          constructor
          · rintro (hspared | ⟨answer', hanswered, hunpaid⟩ | ⟨hunpaid, -⟩)
            · exact fun _ _ _ => hspared
            · rw [← Except.ok.inj hanswered, hpaid] at hunpaid
              cases hunpaid
            · exact absurd rfl hunpaid
          · exact fun hinformed => .inl (hinformed answer rfl hpaid)

/-- What the link page adds does not change the status or the error. -/
theorem displayPage_error (hints : ReconcileHints) (given : ReconcileResult) :
    (displayPage payment calls hints given).error = given.error := by
  unfold displayPage
  dsimp only
  split
  · split <;> rfl
  · rfl

theorem decideStatus_error (tx : Option BakongTransaction) (given : ReconcileResult) :
    (decideStatus tx given).error = given.error := by
  cases tx <;> rfl

/-- Nothing is marked and nothing is said when a result without an error is displayed. -/
theorem displayed_alerts_iff {tx : Option BakongTransaction} {given : ReconcileResult}
    (hresult : decideStatus tx (displayPage payment calls {} given) = result) :
    (closeDetectionWindow payment.publicId result).2.isSome = true ↔
      given.error.isSome = true := by
  rw [closeDetectionWindow_alerts_iff, ← hresult, decideStatus_error, displayPage_error]
  exact and_iff_right (decideStatus_ne_paid _ _)

/-- Bakong's answer is known when a settled transaction reaches the row, when every lookup is
answered, or when the credentials are refused. -/
theorem reconcileBakong_informed_iff
    (hoffline : payment.gatewayStatusRaw.bind (·.paywayHosted) = none)
    (hfind : findByPublicId tables payment.publicId = some (paymentId, payment))
    (hopen : payment.status.isTerminal = false)
    (hanswer : reconcileBakong printing payment calls {}
      (sessionMarkPaid settings now tables payment.publicId interruption) = (result, call))
    (hleft : sessionAfter tables call = some left) :
    (ReadsPaid paymentId left ∨ SaidUnpaid payment calls ∨
        (closeDetectionWindow payment.publicId result).2.isSome = true) ↔
      Informed payment calls interruption := by
  have hunpaid := not_readsPaid hfind hopen
  simp only [SaidUnpaid, Informed, hoffline]
  unfold reconcileBakong at hanswer
  cases hask : askBakong payment calls with
  | error failure =>
      have hunanswered : ¬ MissingAtBakong payment calls := fun hmissing => by
        obtain ⟨verified, hverified, -⟩ := hmissing.askBakong
        rw [hask] at hverified
        cases hverified
      cases failure with
      | apiError message code =>
          simp only [hask] at hanswer
          obtain ⟨hresult, rfl⟩ := Prod.mk.inj hanswer
          obtain rfl := Option.some.inj hleft
          rw [displayed_alerts_iff hresult]
          by_cases hrefused : code = some bakongErrorUnauthorized
          · simp [hrefused]
          · simp [hrefused, hunpaid, hunanswered]
      | other message =>
          simp only [hask] at hanswer
          obtain ⟨hresult, rfl⟩ := Prod.mk.inj hanswer
          obtain rfl := Option.some.inj hleft
          rw [displayed_alerts_iff hresult]
          simp [hunpaid, hunanswered]
  | ok verified =>
      cases hfound : verified.transaction with
      | none =>
          simp only [hask, hfound] at hanswer
          obtain ⟨hresult, rfl⟩ := Prod.mk.inj hanswer
          obtain rfl := Option.some.inj hleft
          rw [displayed_alerts_iff hresult]
          simp [hunpaid, hfound]
      | some tx =>
          have hunanswered : ¬ MissingAtBakong payment calls := fun hmissing => by
            obtain ⟨verified', hverified, hnone⟩ := hmissing.askBakong
            rw [hask] at hverified
            rw [← Except.ok.inj hverified, hfound] at hnone
            cases hnone
          cases hsettled : tx.isSettled with
          | false =>
              refine iff_of_true (.inr (.inl (.inl ⟨verified, tx, rfl, hfound, hsettled⟩))) ?_
              simp [hfound, hsettled]
          | true =>
              simp only [hask, hfound, hsettled, if_true] at hanswer
              have hstatus : result.status = .paid := by
                have hfirst := congrArg (fun made => made.1.status) hanswer
                rw [settleFromBakong_status] at hfirst
                exact hfirst.symm
              have hsaid : ¬ ∃ verified' tx', (Except.ok verified :
                  Except BakongFailure ReceiptVerifyResult) = .ok verified' ∧
                  verified'.transaction = some tx' ∧ tx'.isSettled = false := by
                rintro ⟨verified', tx', hverified, htx, hunsettled⟩
                rw [← Except.ok.inj hverified, hfound] at htx
                rw [← Option.some.inj htx, hsettled] at hunsettled
                cases hunsettled
              have hsilent : ¬ (closeDetectionWindow payment.publicId result).2.isSome = true := by
                rw [closeDetectionWindow_alerts_iff, hstatus]
                exact fun halert => halert.1 rfl
              simp only [hsaid, hunanswered, hsilent, or_false, hfound, hsettled, forall_const]
              -- a settled transaction is marked only for an offered code with its amount
              simp only [settleFromBakong, sessionMarkPaid, Option.filter_some] at hanswer
              cases hoffered : payment.status.isOpen with
              | false =>
                  simp only [hoffered, Bool.false_eq_true, if_false] at hanswer
                  obtain ⟨-, rfl⟩ := Prod.mk.inj hanswer
                  obtain rfl := Option.some.inj hleft
                  simp [hunpaid]
              | true =>
                  simp only [hoffered, if_true] at hanswer
                  cases hagrees : (checkAmount payment tx).1 with
                  | false =>
                      simp only [hagrees, promote, Option.filter_some, Bool.false_eq_true,
                        if_false] at hanswer
                      obtain ⟨-, rfl⟩ := Prod.mk.inj hanswer
                      obtain rfl := Option.some.inj hleft
                      simp [hunpaid]
                  | true =>
                      rw [hagrees] at hanswer
                      rw [promote_session hfind hopen hanswer hleft]
                      simp

end Known

/-- The last job of a payment closes its window with the row paid, with an answer of the rail
that it is not, or with an alert, exactly when it is informed. -/
theorem closing_informed_iff {settings : Settings} {printing : Printing} {now : Instant}
    {db : Database} {calls : RailCalls} {interruption : Interruption} {job : DetectionJob}
    {handled : Handled} {paymentId : ℕ} {payment : Payment}
    (hfind : findByPublicId db.tables job.paymentPublicId = some (paymentId, payment))
    (hjob : processOne settings printing now db calls interruption job = .ok handled)
    (hclosed : handled.closedAt.isSome = true) :
    (ReadsPaid paymentId handled.db.tables ∨ SaidUnpaid payment calls ∨
        handled.alert.isSome = true) ↔ Informed payment calls interruption := by
  obtain ⟨hopen, result, call, left, attempt, hanswer, hleft, -, htables, halert⟩ :=
    processOne_closed hfind hjob hclosed
  have hsame : payment.publicId = job.paymentPublicId :=
    of_decide_eq_true (Table.find?_eq_some hfind).2
  rw [← hsame] at hfind
  rw [htables, appendAttempt_readsPaid_iff, halert]
  unfold reconcilePayment at hanswer
  cases hhosted : payment.gatewayStatusRaw.bind (·.paywayHosted) with
  | some hosted =>
      rw [hhosted] at hanswer
      exact reconcileHosted_informed_iff hhosted hfind hopen hanswer hleft
  | none =>
      rw [hhosted] at hanswer
      exact reconcileBakong_informed_iff hhosted hfind hopen hanswer hleft

namespace Specimen

/-- The code of the offered payment is ABA's. -/
def hostedOffered : Payment :=
  { offered with
    gatewayStatusRaw := some {
      paywayHosted := some ⟨"client", "token", "0", "tran", some 180, "khqr"⟩
      entries := [] } }

def hostedSale : Database :=
  ⟨{ sale.tables with payments := .ofList [hostedOffered] }, by decide⟩

/-- ABA answers for every session, and Bakong for none of its lookups. -/
def answeringCalls (action : String) : RailCalls where
  fetchHostedStatus := fun _ => .ok { action := action }
  search := fun _ => .error (.other "ConnectTimeout")
  fetchPaymentStatus := fun _ => .error "ConnectTimeout"

/-- The last look at the offered payment. -/
def lastLook (db : Database) (calls : RailCalls) : Except Failure Handled :=
  processOne { bakongApiToken := some "token" } printing (seconds 4000) db calls {}
    ⟨"pay_1", true⟩

end Specimen

section

open Specimen

/-- An approval of ABA closes the window with the row paid. -/
theorem closing_informed_approved :
    ∃ handled, lastLook hostedSale (answeringCalls "approved") = .ok handled ∧
      handled.closedAt = some (seconds 4000) ∧
      (ReadsPaid 0 handled.db.tables ∨ SaidUnpaid hostedOffered (answeringCalls "approved") ∨
        handled.alert.isSome = true) := by
  have hfind : findByPublicId hostedSale.tables
      (⟨"pay_1", true⟩ : DetectionJob).paymentPublicId = some (0, hostedOffered) := by rfl
  have hjob : ∃ handled, lastLook hostedSale (answeringCalls "approved") = .ok handled ∧
      handled.closedAt = some (seconds 4000) := ⟨_, rfl, rfl⟩
  obtain ⟨handled, hjob, hclosed⟩ := hjob
  refine ⟨handled, hjob, hclosed, ?_⟩
  have hinformed : Informed hostedOffered (answeringCalls "approved") {} := fun _ _ _ => by
    simp [Interruption.SparesRow]
  unfold lastLook at hjob
  exact (closing_informed_iff hfind hjob (by rw [hclosed]; rfl)).mpr hinformed

/-- Bakong times out for a code built here: the window is closed without an alert, on a
payment of which nothing is known. -/
theorem closing_uninformed_timeout :
    ∃ handled, lastLook sale (answeringCalls "approved") = .ok handled ∧
      handled.closedAt = some (seconds 4000) ∧
      findByPublicId sale.tables "pay_1" = some (0, offered) ∧
      ¬ (ReadsPaid 0 handled.db.tables ∨ SaidUnpaid offered (answeringCalls "approved") ∨
        handled.alert.isSome = true) := by
  refine ⟨_, rfl, rfl, rfl, ?_⟩
  rintro (⟨row, hrow, hpaid⟩ | (⟨verified, tx, hask, -⟩ | ⟨-, hmissing⟩) | halert)
  · rw [← Option.some.inj hrow] at hpaid
    cases hpaid
  · cases hask
  · rcases hmissing ("md5", ⟨.md5, "pay_1", none, none⟩) (by decide) with hnone | ⟨_, hrefused⟩
    · cases hnone
    · cases hrefused
  · cases halert

end

end ChmabaPay
