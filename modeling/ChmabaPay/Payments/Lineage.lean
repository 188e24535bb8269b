import ChmabaPay.Foundation.Forest
import ChmabaPay.Payments.Evolution
import ChmabaPay.Specimen

/-! # One sale, several codes

A code and everything re-issued from it, directly or through other re-issues, is
one sale. Settling a code retires its direct replacements and nothing else, and
a re-issue asks about its own parent only, so what keeps a settled sale closed
is a condition on the whole lineage. The main result states it.
-/

namespace ChmabaPay

open Calendar Relational Execution Fallible Forest

def Tables.reissuedFrom (tables : Tables) (key : ℕ) : Option ℕ :=
  (tables.payments.get? key).bind Payment.reissuedFromId

/-- The codes of one sale: connected by re-issue links. -/
def Tables.SameSale (tables : Tables) : ℕ → ℕ → Prop := SameTree tables.reissuedFrom

/-- While a payment of a sale is paid or reversed, no other code of it is offered. -/
def SoldOnce (tables : Tables) : Prop :=
  ∀ key key' payment payment', tables.payments.get? key = some payment →
    tables.payments.get? key' = some payment' → key ≠ key' → tables.SameSale key key' →
    payment.status.isSettled = true → payment'.status.isOpen = false

/-- Every re-issue has its parent in the table. -/
def Tables.Rooted (tables : Tables) : Prop :=
  ∀ key payment parentKey, tables.payments.get? key = some payment →
    payment.reissuedFromId = some parentKey → tables.payments.get? parentKey ≠ none

section Lineage

variable {mandate : Mandate} {tables tables' : Tables}

theorem reissuedFrom_eq_some {key parentKey : ℕ} :
    tables.reissuedFrom key = some parentKey ↔ ∃ payment,
      tables.payments.get? key = some payment ∧ payment.reissuedFromId = some parentKey :=
  Option.bind_eq_some_iff

/-- Re-issue links stay as they are, and a new code is re-issued from one that was
there before. -/
structure Tables.KeepsLineage (before after : Tables) : Prop where
  old : ∀ key payment, before.payments.get? key = some payment →
    ∃ payment', after.payments.get? key = some payment' ∧
      payment'.reissuedFromId = payment.reissuedFromId
  new : ∀ key payment' parentKey, before.payments.get? key = none →
    after.payments.get? key = some payment' → payment'.reissuedFromId = some parentKey →
    before.payments.get? parentKey ≠ none

theorem PaymentsEvolve.keepsLineage (hevolve : PaymentsEvolve mandate tables tables') :
    tables.KeepsLineage tables' where
  old key payment hpayment := by
    obtain ⟨payment', hpayment', hevolves⟩ := hevolve.persists key payment hpayment
    exact ⟨payment', hpayment', hevolves.parent⟩
  new key payment' parentKey hnone hpayment' hlink := by
    obtain ⟨-, parent, hparent, -⟩ :=
      (hevolve.origin key payment' hnone hpayment').parent parentKey hlink
    simp [hparent]

theorem Tables.KeepsLineage.rooted (hkeeps : tables.KeepsLineage tables')
    (hrooted : tables.Rooted) : tables'.Rooted := by
  intro key payment' parentKey hpayment' hlink
  have hparent : tables.payments.get? parentKey ≠ none := by
    cases hpayment : tables.payments.get? key with
    | none => exact hkeeps.new key payment' parentKey hpayment hpayment' hlink
    | some payment =>
        obtain ⟨row, hrow, hsame⟩ := hkeeps.old key payment hpayment
        obtain rfl := Option.some.inj (hrow.symm.trans hpayment')
        exact hrooted key payment parentKey hpayment (hsame ▸ hlink)
  obtain ⟨parent, hparent⟩ := Option.ne_none_iff_exists'.mp hparent
  obtain ⟨parent', hparent', -⟩ := hkeeps.old parentKey parent hparent
  simp [hparent']

/-- Where a node of the later forest hung in the earlier one: a new leaf at its
parent, everything else at itself. -/
def anchor (tables tables' : Tables) (key : ℕ) : ℕ :=
  match tables.payments.get? key with
  | some _ => key
  | none => (tables'.reissuedFrom key).getD key

theorem anchor_of_known {key : ℕ} (hknown : tables.payments.get? key ≠ none) :
    anchor tables tables' key = key := by
  obtain ⟨payment, hpayment⟩ := Option.ne_none_iff_exists'.mp hknown
  simp [anchor, hpayment]

theorem anchor_of_reissued {key parentKey : ℕ} {payment' : Payment}
    (hnew : tables.payments.get? key = none) (hpayment' : tables'.payments.get? key = some payment')
    (hlink : payment'.reissuedFromId = some parentKey) : anchor tables tables' key = parentKey := by
  simp [anchor, hnew, Tables.reissuedFrom, hpayment', hlink]

theorem anchor_of_original {key : ℕ} {payment' : Payment}
    (hpayment' : tables'.payments.get? key = some payment')
    (hlink : payment'.reissuedFromId = none) : anchor tables tables' key = key := by
  unfold anchor
  split
  · rfl
  · simp [Tables.reissuedFrom, hpayment', hlink]

/-- New codes join no two sales. -/
theorem Tables.KeepsLineage.sameSale (hkeeps : tables.KeepsLineage tables')
    (hrooted : tables.Rooted) {first second : ℕ} (hsale : tables'.SameSale first second) :
    tables.SameSale (anchor tables tables' first) (anchor tables tables' second) := by
  refine SameTree.map (anchor tables tables') (fun above below hlink => ?_) hsale
  obtain ⟨payment', hpayment', hparent⟩ := reissuedFrom_eq_some.mp hlink
  cases hpayment : tables.payments.get? below with
  | none =>
      have habove := hkeeps.new below payment' above hpayment hpayment' hparent
      rw [anchor_of_reissued hpayment hpayment' hparent, anchor_of_known habove]
      exact .refl _
  | some payment =>
      obtain ⟨row, hrow, hsame⟩ := hkeeps.old below payment hpayment
      obtain rfl := Option.some.inj (hrow.symm.trans hpayment')
      have hlink' : payment.reissuedFromId = some above := hsame ▸ hparent
      rw [anchor_of_known (hrooted below payment above hpayment hlink'),
        anchor_of_known (by simp [hpayment])]
      exact .rel _ _ (reissuedFrom_eq_some.mpr ⟨payment, hpayment, hlink'⟩)

/-- A key that is not in the table belongs to no sale. -/
theorem Tables.Rooted.eq_of_unknown (hrooted : tables.Rooted) {first second : ℕ}
    (hsale : tables.SameSale first second) (hunknown : tables.payments.get? second = none) :
    first = second := by
  refine (SameTree.eq_or_known (fun key => tables.payments.get? key ≠ none)
    (fun above below hlink => ?_) hsale).resolve_right fun hboth => hboth.2 hunknown
  obtain ⟨payment, hpayment, hparent⟩ := reissuedFrom_eq_some.mp hlink
  exact ⟨hrooted below payment above hpayment hparent, by simp [hpayment]⟩

end Lineage

/-! ## What keeps a sold sale closed -/

/-- A credit is confirmed only where every other code of the sale still offered
is a direct replacement, and a dead code is re-issued only while nothing of its
sale is settled. -/
structure KeepsSold (op : Op) (tables : Tables) : Prop where
  credit : ∀ publicId credit paymentId payment, op = .markPaid publicId credit →
    findByPublicId tables publicId = some (paymentId, payment) →
    payment.status.isTerminal = false →
    ∀ other row, tables.payments.get? other = some row → other ≠ paymentId →
      tables.SameSale paymentId other → row.status.isOpen = true →
      row.reissuedFromId = some paymentId
  reissue : ∀ parentKey parent, op.reissues tables parentKey →
    tables.payments.get? parentKey = some parent →
    parent.status = .expired ∨ parent.status = .failed →
    ∀ other row, tables.payments.get? other = some row → tables.SameSale other parentKey →
      row.status.isSettled = false

section Steps

variable {settings : Settings} {now : Instant} {tables tables' : Tables}

/-- A payment is settled after an operation because it was before, or because its
credit was confirmed and its direct replacements retired. -/
theorem perform_credits {op : Op} {response : Response} {key : ℕ}
    (hperform : perform settings now tables op = .ok (response, tables'))
    (hcredits : op.credits response key) :
    (∃ publicId credit payment, op = .markPaid publicId credit ∧
        findByPublicId tables publicId = some (key, payment) ∧
        payment.status.isTerminal = false) ∧
      ∀ other successor, other ≠ key → tables'.payments.get? other = some successor →
        successor.reissuedFromId = some key → successor.status.isOpen = false := by
  cases op with
  | markPaid publicId credit =>
      simp only [perform, bind_eq_ok, pure_eq_ok, Prod.mk.injEq] at hperform
      obtain ⟨⟨settledId, settled⟩, hmark, hresponse, rfl⟩ := hperform
      obtain rfl : settledId = some key := by simpa using hresponse.trans hcredits
      rcases markPaid_eq_ok hmark with ⟨hnone, -⟩ | ⟨found, payment, hfound, hfind, hopen, hsettle⟩
      · cases hnone
      · obtain rfl := Option.some.inj hfound
        exact ⟨⟨publicId, credit, payment, rfl, hfind, hopen⟩, fun other successor hne hsuccessor
          hlink => settlePayment_retires hsettle hne hsuccessor hlink⟩
  | _ => exact absurd hcredits id

theorem SoldOnce.perform {op : Op} {response : Response} (hrooted : tables.Rooted)
    (hsold : SoldOnce tables) (hkeeps : KeepsSold op tables)
    (hperform : perform settings now tables op = .ok (response, tables')) :
    SoldOnce tables' := by
  have hevolve := perform_payments hperform
  intro key key' payment payment' hpayment hpayment' hne hsale hsettled
  by_contra hopen
  rw [Bool.not_eq_false] at hopen
  -- The settled row is an old one, since new rows are pending.
  cases hold : tables.payments.get? key with
  | none =>
      rw [(hevolve.origin key payment hold hpayment).status] at hsettled
      cases hsettled
  | some old =>
      have hsale' := hevolve.keepsLineage.sameSale hrooted hsale
      rw [anchor_of_known (by simp [hold])] at hsale'
      obtain ⟨row, hrow, hevolves⟩ := hevolve.persists key old hold
      obtain rfl := Option.some.inj (hrow.symm.trans hpayment)
      cases hold' : tables.payments.get? key' with
      | none =>
          -- The open row is new: a re-issue in the lineage of a settled payment.
          have horigin := hevolve.origin key' payment' hold' hpayment'
          cases hlink : payment'.reissuedFromId with
          | none =>
              rw [anchor_of_original hpayment' hlink] at hsale'
              exact hne (hrooted.eq_of_unknown hsale' hold')
          | some parentKey =>
              rw [anchor_of_reissued hold' hpayment' hlink] at hsale'
              obtain ⟨hreissues, parent, hget, -, hdead⟩ := horigin.parent parentKey hlink
              have hclean :=
                hkeeps.reissue parentKey parent hreissues hget hdead key old hold hsale'
              rcases hevolves.settles hsettled with hwas | hcredits
              · simp [hclean] at hwas
              · obtain ⟨⟨publicId, credit, -, rfl, -⟩, -⟩ := perform_credits hperform hcredits
                exact hreissues
      | some old' =>
          rw [anchor_of_known (by simp [hold'])] at hsale'
          obtain ⟨row', hrow', hevolves'⟩ := hevolve.persists key' old' hold'
          obtain rfl := Option.some.inj (hrow'.symm.trans hpayment')
          have hwasOpen := hevolves'.opened hopen
          rcases hevolves.settles hsettled with hwas | hcredits
          · have hclosed := hsold key key' old old' hold hold' hne hsale' hwas
            simp [hclosed] at hwasOpen
          · obtain ⟨⟨publicId, credit, found, hop, hfind, hterminal⟩, hretired⟩ :=
              perform_credits hperform hcredits
            have hchild := hkeeps.credit publicId credit key found hop hfind hterminal key' old'
              hold' hne.symm hsale' hwasOpen
            have hclosed := hretired key' row' hne.symm hpayment'
              (hevolves'.parent.trans hchild)
            simp [hclosed] at hopen

end Steps

/-! ## Runs -/

/-- In every run that confirms credits and re-issues codes only where the rest of
the sale allows it, no code of a settled sale is offered. -/
theorem sale_sold_once {settings : Settings} {world : World} (hinitial : Initial world)
    {inputs : List Timed}
    (halong : Along (step settings) (fun state input => KeepsSold input.op state.db.tables)
      world inputs) :
    SoldOnce (run (step settings) world inputs).db.tables := by
  have hpayments := Initial.get?_eq_none hinitial.payments
  refine (run_invariant_of_along
    (fun state : World => state.db.tables.Rooted ∧ SoldOnce state.db.tables)
    (fun state input => KeepsSold input.op state.db.tables) ?_ ⟨?_, ?_⟩ halong).2
  · rintro state input ⟨hrooted, hsold⟩ hkeeps
    rcases next_step settings state input with
      ⟨failure, hstep⟩ | ⟨response, tables', hperform, hvalid, hstep⟩
    · simpa [next, hstep] using And.intro hrooted hsold
    · simp only [next, hstep]
      exact ⟨(perform_payments hperform).keepsLineage.rooted hrooted,
        hsold.perform hrooted hkeeps hperform⟩
  · intro key payment parentKey hpayment
    simp [hpayments] at hpayment
  · intro key key' payment payment' hpayment
    simp [hpayments] at hpayment

/-- A sale at the shop. -/
def shopOrder : PaymentRequest where
  amountCents := 1500
  referenceId := some "order-1"
  metadata := none
  idempotencyKey := none

/-- A code is created, expires, is re-issued, and then the first code is paid. -/
def resoldRun : List Timed :=
  [Specimen.after 0 (.createPayment Specimen.rail 1 shopOrder "pay_1"),
    Specimen.after 400 .expireDuePayments,
    Specimen.after 60 (.reissuePayment Specimen.rail 0 "pay_2"),
    Specimen.after 60 (.markPaid "pay_1" Specimen.credit)]

/-- Nothing is settled yet, and the code a credit arrives for has no relative but
its direct replacements. -/
theorem KeepsSold.of_children {op : Op} {tables : Tables}
    (hunsettled : tables.payments.rows.all (fun row => !row.2.status.isSettled) = true)
    (hchildren : ∀ publicId credit paymentId payment, op = .markPaid publicId credit →
      findByPublicId tables publicId = some (paymentId, payment) →
      tables.payments.rows.all (fun row => decide (row.1 = paymentId ∨
        row.2.reissuedFromId = some paymentId)) = true) :
    KeepsSold op tables := by
  refine ⟨?_, ?_⟩
  · intro publicId credit paymentId payment hop hfind _ other row hrow hne _ _
    have hrelated := List.all_eq_true.mp (hchildren publicId credit paymentId payment hop hfind) _
      (Table.get?_eq_some_iff.mp hrow)
    exact (of_decide_eq_true hrelated).resolve_left hne
  · intro _ _ _ _ _ other row hrow _
    have hclosed := List.all_eq_true.mp hunsettled _ (Table.get?_eq_some_iff.mp hrow)
    simpa using hclosed

theorem KeepsSold.of_unsettled {op : Op} {tables : Tables}
    (hop : ∀ publicId credit, op ≠ .markPaid publicId credit)
    (hunsettled : tables.payments.rows.all (fun row => !row.2.status.isSettled) = true) :
    KeepsSold op tables :=
  .of_children hunsettled fun publicId credit _ _ heq => absurd heq (hop publicId credit)

theorem sale_sold_once_resold :
    Along (step {}) (fun state input => KeepsSold input.op state.db.tables) Specimen.world
        resoldRun ∧
      SoldOnce (run (step {}) Specimen.world resoldRun).db.tables := by
  have hcredit : ∀ publicId credit paymentId payment,
      Op.markPaid "pay_1" Specimen.credit = .markPaid publicId credit →
      findByPublicId (run (step {}) Specimen.world (resoldRun.take 3)).db.tables publicId =
        some (paymentId, payment) →
      (run (step {}) Specimen.world (resoldRun.take 3)).db.tables.payments.rows.all
        (fun row => decide (row.1 = paymentId ∨ row.2.reissuedFromId = some paymentId)) =
          true := by
    rintro publicId credit paymentId payment hop hfind
    obtain ⟨rfl, rfl⟩ := Op.markPaid.inj hop
    have hfirst : (findByPublicId (run (step {}) Specimen.world (resoldRun.take 3)).db.tables
        "pay_1").map Prod.fst = some 0 := by decide +kernel
    rw [hfind] at hfirst
    obtain rfl : paymentId = 0 := by simpa using hfirst
    decide +kernel
  have halong : Along (step {}) (fun state input => KeepsSold input.op state.db.tables)
      Specimen.world resoldRun :=
    ⟨.of_unsettled nofun (by decide +kernel), .of_unsettled nofun (by decide +kernel),
      .of_unsettled nofun (by decide +kernel), .of_children (by decide +kernel) hcredit, trivial⟩
  exact ⟨halong, sale_sold_once Specimen.initial_world halong⟩

/-- A code is re-issued twice in a row, and then the first of the three is paid. -/
def grandchildRun : List Timed :=
  [Specimen.after 0 (.createPayment Specimen.rail 1 shopOrder "pay_1"),
    Specimen.after 400 .expireDuePayments,
    Specimen.after 60 (.reissuePayment Specimen.rail 0 "pay_2"),
    Specimen.after 400 .expireDuePayments,
    Specimen.after 60 (.reissuePayment Specimen.rail 1 "pay_3"),
    Specimen.after 60 (.markPaid "pay_1" Specimen.credit)]

/-- The third code is still offered for a sale that was paid. -/
theorem sale_sold_twice :
    Initial Specimen.world ∧
      ¬ SoldOnce (run (step {}) Specimen.world grandchildRun).db.tables := by
  refine ⟨Specimen.initial_world, fun hsold => ?_⟩
  set final := run (step {}) Specimen.world grandchildRun with hfinal
  have hpaid : (final.db.tables.payments.get? 0).map Payment.status = some .paid := by
    decide +kernel
  have hopen : (final.db.tables.payments.get? 2).map Payment.status = some .pending := by
    decide +kernel
  have hfirst : final.db.tables.reissuedFrom 1 = some 0 := by decide +kernel
  have hsecond : final.db.tables.reissuedFrom 2 = some 1 := by decide +kernel
  obtain ⟨payment, hpayment, hstatus⟩ := Option.map_eq_some_iff.mp hpaid
  obtain ⟨payment', hpayment', hstatus'⟩ := Option.map_eq_some_iff.mp hopen
  have hsale : final.db.tables.SameSale 0 2 :=
    .trans 0 1 2 (.rel 0 1 hfirst) (.rel 1 2 hsecond)
  have hclosed := hsold 0 2 payment payment' hpayment hpayment' (by decide) hsale
    (by simp [hstatus, PaymentStatus.isSettled])
  simp [hstatus', PaymentStatus.isOpen] at hclosed

end ChmabaPay
