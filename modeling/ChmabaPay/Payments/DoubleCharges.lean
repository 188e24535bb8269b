import ChmabaPay.Payments.Ledger
import ChmabaPay.Payments.Lineage
import ChmabaPay.Services.Alerts

/-! # Two settlements of one sale

A sale is a lineage of re-issues, or the payments of a store that share a reference. The
check behind a settlement looks for the reference alone, which a lineage hands down but
need not have. Over whole runs, two paid payments of a sale with a reference were reported
when the second of them was settled, unless posting that settlement raised.
-/

namespace ChmabaPay

open Calendar Relational Execution Fallible Forest

/-! ## One step -/

section Steps

variable {settings : Settings} {now : Instant} {tables tables' : Tables}

/-- What is paid was paid before or has just been credited. -/
theorem perform_paid {op : Op} {response : Response}
    (hperform : perform settings now tables op = .ok (response, tables')) {key : ℕ}
    {payment' : Payment} (hpayment' : tables'.payments.get? key = some payment')
    (hpaid : payment'.status = .paid) :
    op.credits response key ∨
      ∃ payment, tables.payments.get? key = some payment ∧ payment.status = .paid := by
  have hevolve := perform_payments hperform
  cases hpayment : tables.payments.get? key with
  | none =>
      have horigin := (hevolve.origin key payment' hpayment hpayment').status
      rw [hpaid] at horigin
      cases horigin
  | some payment =>
      -- only settling and reversing touch the status of what is paid
      by_cases hcredit : ∃ publicId credit, op = .markPaid publicId credit
      · obtain ⟨publicId, credit, rfl⟩ := hcredit
        simp only [perform, bind_eq_ok, pure_eq_ok, Prod.mk.injEq] at hperform
        obtain ⟨⟨settledId, settled⟩, hmark, hresponse, rfl⟩ := hperform
        rcases markPaid_eq_ok hmark with ⟨-, rfl⟩ | ⟨paymentId, row, rfl, -, -, hsettle⟩
        · exact .inr ⟨payment', hpayment ▸ hpayment', hpaid⟩
        -- besides the credited row a settlement touches only unpaid codes
        · by_cases hkey : key = paymentId
          · subst hkey
            exact .inl hresponse.symm
          · rw [(settlePayment_payments hsettle).1, settledPayments_eq_modify,
              Table.get?_modify, hpayment] at hpayment'
            obtain rfl := Option.some.inj hpayment'
            rw [settledChange, if_neg hkey] at hpaid
            split at hpaid
            · cases hpaid
            · exact .inr ⟨payment, rfl, hpaid⟩
      · by_cases hreversal : ∃ paymentId reason, op = .reversePayment paymentId reason
        · obtain ⟨paymentId, reason, rfl⟩ := hreversal
          simp only [perform, bind_eq_ok, pure_eq_ok, Prod.mk.injEq] at hperform
          obtain ⟨row, hrow, reversed, hreverse, -, rfl⟩ := hperform
          obtain ⟨-, events, deliveries, ledger, rfl⟩ := reversePayment_eq_ok hreverse
          simp only [Table.get?_update] at hpayment'
          split at hpayment'
          · rw [hpayment] at hpayment'
            obtain rfl := Option.some.inj hpayment'
            cases hpaid
          · obtain rfl := Option.some.inj (hpayment.symm.trans hpayment')
            exact .inr ⟨payment, rfl, hpaid⟩
        · obtain ⟨-, hsame⟩ := perform_sameAt (fun publicId credit heq =>
            hcredit ⟨publicId, credit, heq⟩) (fun paymentId reason heq =>
            hreversal ⟨paymentId, reason, heq⟩) hperform
          obtain ⟨new, hnew, hcounts⟩ := (hsame key).persists payment hpayment
          obtain rfl := Option.some.inj (hpayment'.symm.trans hnew)
          exact .inr ⟨payment, rfl, hcounts.paid_iff.mp hpaid⟩

/-- A re-issue stands where its parent stands. -/
theorem reissuePayment_store {rail : Rail} {parentId paymentId : ℕ} {parent : Payment}
    {publicId : String}
    (hreissue : reissuePayment settings rail now tables parentId parent publicId =
      .ok (paymentId, tables')) {key : ℕ} {new : Payment}
    (hnone : tables.payments.get? key = none) (hnew : tables'.payments.get? key = some new) :
    new.reissuedFromId = some parentId ∧ new.storeId = parent.storeId := by
  obtain ⟨-, ⟨rfl, -⟩ | ⟨payment, -, hissued, -, rfl⟩⟩ := reissuePayment_eq_ok hreissue
  · rw [hnone] at hnew
    cases hnew
  · simp only [Table.get?_insert] at hnew
    split at hnew
    · obtain rfl := Option.some.inj hnew
      exact ⟨hissued.parent, hissued.store⟩
    · simp [hnone] at hnew

theorem createPayment_parent {rail : Rail} {storeId paymentId : ℕ} {store : Store}
    {request : PaymentRequest} {publicId : String}
    (hcreate : createPayment settings rail now tables storeId store request publicId =
      .ok (paymentId, tables')) {key : ℕ} {new : Payment}
    (hnone : tables.payments.get? key = none) (hnew : tables'.payments.get? key = some new) :
    new.reissuedFromId = none := by
  rcases createPayment_eq_ok hcreate with ⟨rfl, -⟩ | ⟨payment, -, hcreated, rfl⟩
  · rw [hnone] at hnew
    cases hnew
  · simp only [Table.get?_insert] at hnew
    split at hnew
    · obtain rfl := Option.some.inj hnew
      exact hcreated.parent
    · rw [hnone] at hnew
      cases hnew

theorem perform_parent {op : Op} {response : Response}
    (hperform : perform settings now tables op = .ok (response, tables')) {key parentKey : ℕ}
    {new : Payment} (hnone : tables.payments.get? key = none)
    (hnew : tables'.payments.get? key = some new)
    (hlink : new.reissuedFromId = some parentKey) :
    ∃ parent, tables.payments.get? parentKey = some parent ∧ new.storeId = parent.storeId ∧
      new.referenceId = parent.referenceId := by
  obtain ⟨hreissues, parent, hparent, hreference, -⟩ :=
    ((perform_payments hperform).origin key new hnone hnew).parent parentKey hlink
  refine ⟨parent, hparent, ?_, hreference⟩
  cases op with
  | reissuePayment rail parentId publicId =>
      simp only [perform, bind_eq_ok, pure_eq_ok, Prod.mk.injEq] at hperform
      obtain ⟨row, hrow, ⟨paymentId, created⟩, hreissue, -, rfl⟩ := hperform
      obtain rfl : parentKey = parentId := hreissues
      obtain rfl := Option.some.inj (hparent.symm.trans (requirePayment_eq_ok hrow))
      exact (reissuePayment_store hreissue hnone hnew).2
  | getInvoiceKhqr rail accountId invoiceId publicId =>
      simp only [perform, bind_eq_ok, pure_eq_ok, Prod.mk.injEq] at hperform
      obtain ⟨⟨paymentId, collected⟩, hkhqr, -, rfl⟩ := hperform
      obtain ⟨invoice, minted, hqId, hq, -, -, -, -, hminted, rfl⟩ := getInvoiceKhqr_eq_ok hkhqr
      -- the code of an invoice is the stored one, a re-issue of it, or a new payment
      rcases invoicePayment_eq_ok hminted with
        ⟨storedId, stored, -, hstored, ⟨-, rfl⟩ | hreissue⟩ | ⟨request, -, -, hcreate⟩
      · rw [hnone] at hnew
        cases hnew
      · obtain ⟨hparentId, hstore⟩ := reissuePayment_store hreissue hnone hnew
        obtain rfl := Option.some.inj (hparentId.symm.trans hlink)
        obtain rfl := Option.some.inj (hparent.symm.trans hstored)
        exact hstore
      · rw [createPayment_parent hcreate hnone hnew] at hlink
        cases hlink
  | signUp | createPayment | markScanned | markPaid | reversePayment | expireDuePayments
  | changePlan | issueDueInvoices | enforceGrace | resolveInvoice | assignAccountPlan =>
      exact absurd hreissues not_false

end Steps

/-! ## A sale keeps its store and its reference -/

/-- A re-issue has the store and the reference of the code it replaces. -/
def HandedDown (tables : Tables) : Prop :=
  ∀ key payment parentKey, tables.payments.get? key = some payment →
    payment.reissuedFromId = some parentKey → ∃ parent,
      tables.payments.get? parentKey = some parent ∧ payment.storeId = parent.storeId ∧
        payment.referenceId = parent.referenceId

section Sales

variable {settings : Settings} {now : Instant} {tables tables' : Tables}

theorem HandedDown.perform (hhanded : HandedDown tables) {op : Op} {response : Response}
    (hperform : perform settings now tables op = .ok (response, tables')) :
    HandedDown tables' := by
  have hevolve := perform_payments hperform
  intro key payment' parentKey hpayment' hlink
  have hbefore : ∃ parent, tables.payments.get? parentKey = some parent ∧
      payment'.storeId = parent.storeId ∧ payment'.referenceId = parent.referenceId := by
    cases hpayment : tables.payments.get? key with
    | none => exact perform_parent hperform hpayment hpayment' hlink
    | some payment =>
        obtain ⟨new, hnew, hevolves⟩ := hevolve.persists key payment hpayment
        obtain rfl := Option.some.inj (hpayment'.symm.trans hnew)
        obtain ⟨parent, hparent, hstore, hreference⟩ :=
          hhanded key payment parentKey hpayment (hevolves.parent ▸ hlink)
        exact ⟨parent, hparent, hevolves.store.trans hstore, hevolves.reference.trans hreference⟩
  obtain ⟨parent, hparent, hstore, hreference⟩ := hbefore
  obtain ⟨parent', hparent', hevolves⟩ := hevolve.persists parentKey parent hparent
  exact ⟨parent', hparent', hstore.trans hevolves.store.symm,
    hreference.trans hevolves.reference.symm⟩

/-- What a payment says about its sale. -/
def Payment.saleOf (payment : Payment) : ℕ × Option String :=
  (payment.storeId, payment.referenceId)

/-- Along a lineage, store and reference are the same. -/
theorem HandedDown.sameSale (hhanded : HandedDown tables) {key key' : ℕ}
    (hsale : tables.SameSale key key') :
    (tables.payments.get? key).map Payment.saleOf =
      (tables.payments.get? key').map Payment.saleOf := by
  induction hsale with
  | rel above below hlink =>
      obtain ⟨payment, hpayment, hparentKey⟩ := reissuedFrom_eq_some.mp hlink
      obtain ⟨parent, hparent, hstore, hreference⟩ :=
        hhanded below payment above hpayment hparentKey
      rw [hpayment, hparent, Option.map_some, Option.map_some, Payment.saleOf, Payment.saleOf,
        hstore, hreference]
  | refl node => rfl
  | symm _ _ _ ih => exact ih.symm
  | trans _ _ _ _ _ ih ih' => exact ih.trans ih'

end Sales

/-! ## Every run -/

section Runs

variable {repr : String → String} {feed : ActivityFeed} {settings : Settings} {world : World}

/-- An operation, and what comes of posting it to the activity feed. -/
structure Posted where
  timed : Timed
  reply : TelegramReply

/-- The state some posted operations lead to. -/
def afterPosted (settings : Settings) (world : World) (inputs : List Posted) : World :=
  run (step settings) world (inputs.map Posted.timed)

theorem afterPosted_concat (inputs : List Posted) (input : Posted) :
    afterPosted settings world (inputs ++ [input]) =
      next (step settings) (afterPosted settings world inputs) input.timed := by
  rw [afterPosted, List.map_append, List.map_singleton, run_append, run_cons, run_nil]
  rfl

/-- Posting a settlement to the activity feed never raises. -/
def PostsQuietly (feed : ActivityFeed) (settings : Settings) (world : World)
    (inputs : List Posted) : Prop :=
  ∀ earlier input later settled, inputs = earlier ++ input :: later →
    (step settings (afterPosted settings world earlier) input.timed).2 =
      .ok (.settled (some settled)) → ∃ sent, feed.notifyActivity input.reply = .ok sent

theorem PostsQuietly.of_append {inputs : List Posted} {last : Posted}
    (hquiet : PostsQuietly feed settings world (inputs ++ [last])) :
    PostsQuietly feed settings world inputs := by
  rintro earlier input later settled rfl hsettles
  exact hquiet earlier input (later ++ [last]) settled (by simp) hsettles

/-- Two payments belong to one sale: one lineage, or one store and one reference. -/
def Tables.OneSale (tables : Tables) (key key' : ℕ) : Prop :=
  tables.SameSale key key' ∨ ∃ payment payment', tables.payments.get? key = some payment ∧
    tables.payments.get? key' = some payment' ∧ payment.saleOf = payment'.saleOf ∧
    payment.referenceId.getD "" ≠ ""

/-- The settlement of one of the two payments, made when the other was paid, raised an
alert. -/
def Alerted (repr : String → String) (feed : ActivityFeed) (settings : Settings) (world : World)
    (inputs : List Posted) (key key' : ℕ) : Prop :=
  ∃ earlier input later settled other, inputs = earlier ++ input :: later ∧
    (settled = key ∧ other = key' ∨ settled = key' ∧ other = key) ∧
    (step settings (afterPosted settings world earlier) input.timed).2 =
      .ok (.settled (some settled)) ∧
    (((afterPosted settings world earlier).db.tables.payments.get? other).map Payment.status =
      some .paid) ∧
    raisedAlert repr feed settings (afterPosted settings world earlier) input.timed
      input.reply ≠ none

theorem Alerted.symm {inputs : List Posted} {key key' : ℕ}
    (halerted : Alerted repr feed settings world inputs key key') :
    Alerted repr feed settings world inputs key' key := by
  obtain ⟨earlier, input, later, settled, other, hinputs, hkeys, hrest⟩ := halerted
  exact ⟨earlier, input, later, settled, other, hinputs, hkeys.symm, hrest⟩

theorem Alerted.append {inputs : List Posted} {key key' : ℕ} (last : Posted)
    (halerted : Alerted repr feed settings world inputs key key') :
    Alerted repr feed settings world (inputs ++ [last]) key key' := by
  obtain ⟨earlier, input, later, settled, other, rfl, hrest⟩ := halerted
  exact ⟨earlier, input, later ++ [last], settled, other, by simp, hrest⟩

/-- The check finds the other payment of the reference. -/
theorem findDoubleCharge_ne_none {tables : Tables} {key key' : ℕ} {payment payment' : Payment}
    (hpayment' : tables.payments.get? key' = some payment') (hne : key' ≠ key)
    (hpaid : payment'.status = .paid) (hsale : payment.saleOf = payment'.saleOf)
    (hreference : payment.referenceId.getD "" ≠ "") :
    findDoubleCharge tables key payment ≠ none := by
  obtain ⟨reference, hname⟩ : ∃ reference, payment.referenceId = some reference := by
    refine Option.ne_none_iff_exists'.mp fun hnone => hreference ?_
    rw [hnone]
    rfl
  rw [hname, Option.getD_some] at hreference
  obtain ⟨hstore, hsame⟩ := Prod.mk.inj hsale
  have hmem : (key', payment') ∈ tables.payments.select fun key'' other =>
      decide (other.storeId = payment.storeId) && decide (other.referenceId = some reference) &&
        decide (other.status = .paid) && decide (key'' ≠ key) := by
    refine Table.mem_select.mpr ⟨hpayment', ?_⟩
    simp [hstore, ← hsame, hname, hpaid, hne]
  unfold findDoubleCharge
  rw [hname, Option.filter_some, if_pos (by simpa using hreference)]
  simp only [ne_eq, List.head?_eq_none_iff]
  exact List.ne_nil_of_mem hmem

/-- The store of a settled payment is still there behind the settlement. -/
theorem perform_credited_store {now : Instant} {tables tables' : Tables} {op : Op}
    {response : Response} (hperform : perform settings now tables op = .ok (response, tables'))
    {key : ℕ} {payment : Payment} (hcredits : op.credits response key)
    (hpayment : tables'.payments.get? key = some payment) :
    response = .settled (some key) ∧ ∃ store, tables'.stores.get? payment.storeId = some store := by
  cases op with
  | markPaid publicId credit =>
      obtain rfl : response = .settled (some key) := hcredits
      simp only [perform, bind_eq_ok, pure_eq_ok, Prod.mk.injEq] at hperform
      obtain ⟨⟨settledId, settled⟩, hmark, hresponse, rfl⟩ := hperform
      rcases markPaid_eq_ok hmark with ⟨rfl, -⟩ | ⟨paymentId, row, rfl, hfind, -, hsettle⟩
      · cases hresponse
      · obtain rfl := Option.some.inj (Response.settled.inj hresponse)
        obtain ⟨store, -, hstore, -⟩ := settlePayment_eq_ok hsettle
        obtain ⟨moment, hkept⟩ := (settlePayment_payments hsettle).2.stores _ store hstore
        rw [settlePayment_paid (findByPublicId_eq_some hfind).1 hsettle] at hpayment
        obtain rfl := Option.some.inj hpayment
        exact ⟨rfl, _, hkept⟩
  | signUp | createPayment | reissuePayment | markScanned | reversePayment | expireDuePayments
  | changePlan | getInvoiceKhqr | issueDueInvoices | enforceGrace | resolveInvoice
  | assignAccountPlan => exact absurd hcredits not_false

/-- A settlement beside a paid payment of the same sale is reported. -/
theorem alerted_of_credited {earlier : List Posted} {input : Posted} {tables' : Tables}
    {response : Response} {hvalid : Constraints tables'}
    (hquiet : PostsQuietly feed settings world (earlier ++ [input]))
    (hperform : perform settings (input.timed.moment (afterPosted settings world earlier))
      (afterPosted settings world earlier).db.tables input.timed.op = .ok (response, tables'))
    (hstep : step settings (afterPosted settings world earlier) input.timed =
      (⟨input.timed.moment (afterPosted settings world earlier), ⟨tables', hvalid⟩⟩,
        .ok response))
    {key key' : ℕ} {payment payment' before' : Payment}
    (hcredits : input.timed.op.credits response key)
    (hpayment : tables'.payments.get? key = some payment)
    (hpayment' : tables'.payments.get? key' = some payment') (hne : key' ≠ key)
    (hpaid : payment'.status = .paid) (hsale : payment.saleOf = payment'.saleOf)
    (hreference : payment.referenceId.getD "" ≠ "")
    (hbefore : (afterPosted settings world earlier).db.tables.payments.get? key' = some before')
    (hwas : before'.status = .paid) :
    Alerted repr feed settings world (earlier ++ [input]) key key' := by
  obtain ⟨rfl, store, hstore⟩ := perform_credited_store hperform hcredits hpayment
  have hfound := findDoubleCharge_ne_none hpayment' hne hpaid hsale hreference
  obtain ⟨sent, hsent⟩ := hquiet earlier input [] key rfl (by rw [hstep])
  refine ⟨earlier, input, [], key, key', rfl, .inl ⟨rfl, rfl⟩, by rw [hstep], ?_, ?_⟩
  · rw [hbefore, Option.map_some, hwas]
  · unfold raisedAlert
    rw [hstep, hsent]
    simp only [hpayment, hstore, Option.bind_eq_bind, Option.bind_some, alertIfDoubleCharged,
      ne_eq, Option.map_eq_none_iff]
    exact hfound

theorem alerted_of_paid (hinitial : Initial world) (inputs : List Posted)
    (hquiet : PostsQuietly feed settings world inputs) {key key' : ℕ}
    {payment payment' : Payment}
    (hpayment : (afterPosted settings world inputs).db.tables.payments.get? key = some payment)
    (hpayment' : (afterPosted settings world inputs).db.tables.payments.get? key' = some payment')
    (hne : key' ≠ key) (hpaid : payment.status = .paid) (hpaid' : payment'.status = .paid)
    (hsale : payment.saleOf = payment'.saleOf) (hreference : payment.referenceId.getD "" ≠ "") :
    Alerted repr feed settings world inputs key key' := by
  induction inputs using List.reverseRecOn generalizing key key' payment payment' with
  | nil =>
      rw [afterPosted, List.map_nil, run_nil, Initial.get?_eq_none hinitial.payments] at hpayment
      cases hpayment
  | append_singleton earlier input ih =>
      replace ih := @ih hquiet.of_append
      rw [afterPosted_concat, next] at hpayment hpayment'
      rcases next_step settings (afterPosted settings world earlier) input.timed with
        ⟨failure, hstep⟩ | ⟨response, tables', hperform, hvalid, hstep⟩
      · rw [hstep] at hpayment hpayment'
        exact (ih hpayment hpayment' hne hpaid hpaid' hsale hreference).append input
      · rw [hstep] at hpayment hpayment'
        have hevolve := perform_payments hperform
        have hreference' : payment'.referenceId.getD "" ≠ "" := by
          rw [← (Prod.mk.inj hsale).2]
          exact hreference
        -- the last step credited one of the two, or both were paid before it
        rcases perform_paid hperform hpayment hpaid with hcredits | ⟨before, hbefore, hwas⟩ <;>
          rcases perform_paid hperform hpayment' hpaid' with
            hcredits' | ⟨before', hbefore', hwas'⟩
        · obtain ⟨rfl, -⟩ := perform_credited_store hperform hcredits hpayment
          obtain ⟨hsame, -⟩ := perform_credited_store hperform hcredits' hpayment'
          exact absurd (Option.some.inj (Response.settled.inj hsame)).symm hne
        · exact alerted_of_credited hquiet hperform hstep hcredits hpayment hpayment' hne hpaid'
            hsale hreference hbefore' hwas'
        · exact (alerted_of_credited hquiet hperform hstep hcredits' hpayment' hpayment hne.symm
            hpaid hsale.symm hreference' hbefore hwas).symm
        · have hkept : ∀ key old new,
              (afterPosted settings world earlier).db.tables.payments.get? key = some old →
              tables'.payments.get? key = some new → old.saleOf = new.saleOf := by
            intro key old new hold hnew
            obtain ⟨found, hfound, hevolves⟩ := hevolve.persists key old hold
            obtain rfl := Option.some.inj (hnew.symm.trans hfound)
            exact Prod.ext hevolves.store.symm hevolves.reference.symm
          have hsame := hkept key before payment hbefore hpayment
          have hsame' := hkept key' before' payment' hbefore' hpayment'
          have hname : before.referenceId.getD "" ≠ "" := by
            rw [(Prod.mk.inj hsame).2]
            exact hreference
          exact (ih hbefore hbefore' hne hwas hwas' (hsame.trans (hsale.trans hsame'.symm))
            hname).append input

theorem handedDown_run (hinitial : Initial world) (inputs : List Timed) :
    HandedDown (run (step settings) world inputs).db.tables := by
  refine run_invariant (fun state : World => HandedDown state.db.tables) (fun _ => True) ?_ ?_
    fun _ _ => trivial
  · intro state input hhanded _
    rcases next_step settings state input with
      ⟨failure, hstep⟩ | ⟨response, tables', hperform, hvalid, hstep⟩
    · rw [next, hstep]
      exact hhanded
    · rw [next, hstep]
      exact hhanded.perform hperform
  · intro key payment parentKey hpayment
    rw [Initial.get?_eq_none hinitial.payments] at hpayment
    cases hpayment

/-- In every run in which posting a settlement raises nothing, two paid payments of one sale
that carries a reference were reported by the settlement of the later one. -/
theorem double_charge_alerted (repr : String → String) (feed : ActivityFeed)
    (settings : Settings) {world : World} (hinitial : Initial world) (inputs : List Posted)
    (hquiet : PostsQuietly feed settings world inputs) {key key' : ℕ} {payment payment' : Payment}
    (hpayment : (afterPosted settings world inputs).db.tables.payments.get? key = some payment)
    (hpayment' : (afterPosted settings world inputs).db.tables.payments.get? key' = some payment')
    (hne : key' ≠ key) (hpaid : payment.status = .paid) (hpaid' : payment'.status = .paid)
    (hsale : (afterPosted settings world inputs).db.tables.OneSale key key')
    (hreference : payment.referenceId.getD "" ≠ "") :
    Alerted repr feed settings world inputs key key' := by
  have hsame : payment.saleOf = payment'.saleOf := by
    rcases hsale with hlineage | ⟨row, row', hrow, hrow', hsame, -⟩
    · have hhanded : HandedDown (afterPosted settings world inputs).db.tables :=
        handedDown_run hinitial _
      have hlines := hhanded.sameSale hlineage
      rw [hpayment, hpayment'] at hlines
      exact Option.some.inj hlines
    · obtain rfl := Option.some.inj (hpayment.symm.trans hrow)
      obtain rfl := Option.some.inj (hpayment'.symm.trans hrow')
      exact hsame
  exact alerted_of_paid hinitial inputs hquiet hpayment hpayment' hne hpaid hpaid' hsame hreference

end Runs

/-- A code is created, expires, is re-issued, and then both codes are paid, the later one
first. -/
def Specimen.paidTwice (referenceId : Option String) : List Timed :=
  [after 0 (.createPayment rail 1 { order with referenceId := referenceId } "pay_1"),
    after 400 .expireDuePayments, after 60 (.reissuePayment rail 0 "pay_2"),
    after 60 (.markPaid "pay_2" credit), after 60 (.markPaid "pay_1" credit)]

/-- The same, with every post answered alike. -/
def Specimen.postedTwice (referenceId : Option String) (reply : TelegramReply) : List Posted :=
  (paidTwice referenceId).map fun timed => ⟨timed, reply⟩

/-- A feed that is on. -/
def Specimen.feed : ActivityFeed where
  activityTelegramChatId := some "-1001"
  telegramBotToken := some "token"

theorem Specimen.reply_of_postedTwice {referenceId : Option String} {reply : TelegramReply}
    {earlier later : List Posted} {input : Posted}
    (hinputs : postedTwice referenceId reply = earlier ++ input :: later) :
    input.reply = reply := by
  have hmem : input ∈ postedTwice referenceId reply := by simp [hinputs]
  obtain ⟨timed, -, rfl⟩ := List.mem_map.mp hmem
  rfl

theorem Specimen.postsQuietly {referenceId : Option String} {reply : TelegramReply} {sent : Bool}
    (hsent : feed.notifyActivity reply = .ok sent) :
    PostsQuietly feed {} Specimen.world (postedTwice referenceId reply) := by
  intro earlier input later settled hinputs _
  rw [reply_of_postedTwice hinputs]
  exact ⟨sent, hsent⟩

theorem double_charge_alerted_reissued :
    Alerted id Specimen.feed {} Specimen.world
      (Specimen.postedTwice (some "order-1") (.answered 200 (.dictionary true))) 0 1 := by
  set final := afterPosted {} Specimen.world
    (Specimen.postedTwice (some "order-1") (.answered 200 (.dictionary true))) with hfinal
  have hfirst : (final.db.tables.payments.get? 0).map
      (fun payment => (payment.status, payment.referenceId)) = some (.paid, some "order-1") := by
    decide +kernel
  have hsecond : (final.db.tables.payments.get? 1).map Payment.status = some .paid := by
    decide +kernel
  have hlink : final.db.tables.reissuedFrom 1 = some 0 := by decide +kernel
  obtain ⟨payment, hpayment, hshown⟩ := Option.map_eq_some_iff.mp hfirst
  obtain ⟨payment', hpayment', hpaid'⟩ := Option.map_eq_some_iff.mp hsecond
  obtain ⟨hpaid, hname⟩ := Prod.mk.inj hshown
  have hsent : Specimen.feed.notifyActivity (.answered 200 (.dictionary true)) = .ok true := by
    decide +kernel
  exact double_charge_alerted id Specimen.feed {} Specimen.initial_world _
    (Specimen.postsQuietly hsent) hpayment hpayment' (by decide) hpaid hpaid'
    (.inl (.rel 0 1 hlink)) (by rw [hname]; decide)

/-- A post that is answered by a page of HTML ends the settlement before it looks. -/
example : ¬ Alerted id Specimen.feed {} Specimen.world
    (Specimen.postedTwice (some "order-1") (.answered 200 .unreadable)) 0 1 := by
  rintro ⟨earlier, input, later, _, _, hinputs, -, -, -, hraised⟩
  have hreply := Specimen.reply_of_postedTwice hinputs
  have hraises : Specimen.feed.notifyActivity input.reply = .error () := by
    rw [hreply]
    decide +kernel
  simp [raisedAlert, hraises] at hraised

/-- Without a reference nobody is told. -/
theorem double_charge_unnoticed :
    Initial Specimen.world ∧
      PostsQuietly Specimen.feed {} Specimen.world
        (Specimen.postedTwice none (.answered 200 (.dictionary true))) ∧
      (run (step {}) Specimen.world (Specimen.paidTwice none)).db.tables.OneSale 0 1 ∧
      ((run (step {}) Specimen.world (Specimen.paidTwice none)).db.tables.payments.get? 0).map
        Payment.status = some .paid ∧
      ((run (step {}) Specimen.world (Specimen.paidTwice none)).db.tables.payments.get? 1).map
        Payment.status = some .paid ∧
      ¬ Alerted id Specimen.feed {} Specimen.world
        (Specimen.postedTwice none (.answered 200 (.dictionary true))) 0 1 := by
  have hsent : Specimen.feed.notifyActivity (.answered 200 (.dictionary true)) = .ok true := by
    decide +kernel
  refine ⟨Specimen.initial_world, Specimen.postsQuietly hsent, .inl (.rel 0 1 (by decide +kernel)),
    by decide +kernel, by decide +kernel, ?_⟩
  rintro ⟨earlier, input, later, _, _, hinputs, -, -, -, hraised⟩
  have hsilent : Along (step {}) (fun state timed => raisedAlert id Specimen.feed {} state timed
      (.answered 200 (.dictionary true)) = none) Specimen.world (Specimen.paidTwice none) := by
    decide +kernel
  have hsame : Specimen.paidTwice none =
      earlier.map Posted.timed ++ input.timed :: later.map Posted.timed := by
    have hmapped := congrArg (List.map Posted.timed) hinputs
    simpa [Specimen.postedTwice, Function.comp_def] using hmapped
  rw [hsame] at hsilent
  rw [Specimen.reply_of_postedTwice hinputs] at hraised
  exact hraised hsilent.middle

end ChmabaPay
