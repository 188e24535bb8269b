import ChmabaPay.Foundation.Execution
import ChmabaPay.Foundation.Numerals
import ChmabaPay.Payments.Decoding
import ChmabaPay.Payments.Evolution
import ChmabaPay.Payments.Hundredths
import ChmabaPay.Payments.Rails

/-! # One amount, many texts

An amount is kept as a number of hundredths. The hosted checkout, the code built offline and
the events each print it on their own, and a person reads it with its thousands grouped.
-/

namespace ChmabaPay

open Calendar Relational Fallible Execution

/-! ## What the texts denote -/

/-- A text denotes an amount of hundredths. -/
def Denotes (text : List Char) (amountCents : Int) : Prop :=
  Numerals.value? text = some ((amountCents : ℚ) / 100)

/-- What `create_payment` accepts: one hundredth at least, and riel only as a whole. -/
def Payable (amountCents : Int) (currency : Currency) : Prop :=
  1 ≤ amountCents ∧ (currency = .khr → amountCents % 100 = 0)

section Texts

/-- Whole units denote the amount they are a hundredth of. -/
theorem denotes_whole {count : ℕ} (hwhole : count % 100 = 0) :
    Denotes (Nat.toDigits 10 (count / 100)) count := by
  have hsplit : (count : ℚ) = (count / 100 : ℕ) * 100 := by
    exact_mod_cast (Nat.div_mul_cancel (Nat.dvd_of_mod_eq_zero hwhole)).symm
  rw [Denotes, Numerals.value?_toDigits, Int.cast_natCast, hsplit, mul_div_cancel_right₀]
  norm_num

/-- Units and two decimals denote the amount in hundredths. -/
theorem denotes_point (count : ℕ) :
    Denotes (Nat.toDigits 10 (count / 100) ++ '.' ::
      List.leftpad 2 '0' (Nat.toDigits 10 (count % 100))) count := by
  have hplaces : (List.leftpad 2 '0' (Nat.toDigits 10 (count % 100))).length = 2 :=
    length_zeroPadded (by omega) (by omega)
  have hsplit : (count : ℚ) = (count / 100 : ℕ) * 100 + (count % 100 : ℕ) := by
    exact_mod_cast (Nat.div_add_mod' count 100).symm
  rw [Denotes, Numerals.value?_point hplaces, Option.some.injEq, Int.cast_natCast]
  rw [hsplit]
  ring

theorem moneyToStr_denotes {amountCents : Int} {currency : Currency}
    (hpayable : Payable amountCents currency) :
    Denotes (moneyToStr amountCents currency false).toList amountCents := by
  obtain ⟨count, rfl⟩ := Int.eq_ofNat_of_zero_le (by have := hpayable.1; omega : 0 ≤ amountCents)
  have hsign : ¬ ((count : Int) < 0) := by omega
  cases currency with
  | usd =>
      simp only [moneyToStr, Int.natAbs_natCast, hsign, if_false, List.nil_append,
        Bool.false_eq_true, String.toList_ofList]
      exact denotes_point count
  | khr =>
      have hwhole : count % 100 = 0 := by exact_mod_cast hpayable.2 rfl
      simp only [moneyToStr, Int.natAbs_natCast, hsign, if_false, List.nil_append,
        Bool.false_eq_true, hwhole, Nat.zero_lt_succ, true_or, if_true, String.toList_ofList]
      exact denotes_whole hwhole

theorem hundredthsText_denotes {hundredths : Int} (hlow : 0 ≤ hundredths) :
    Denotes (hundredthsText hundredths) hundredths := by
  obtain ⟨count, rfl⟩ := Int.eq_ofNat_of_zero_le hlow
  have hsign : ¬ ((count : Int) < 0) := by omega
  simp only [hundredthsText, Int.natAbs_natCast, hsign, if_false, List.nil_append]
  split
  next hwhole => exact denotes_whole hwhole
  next hpart => exact denotes_point count

/-- An accepted amount is divided without a loss: by exact arithmetic every one, and by
doubles those of 52 bits. -/
theorem printedCents_payable {arithmetic : Arithmetic} {amountCents : Int} {currency : Currency}
    (hpayable : Payable amountCents currency)
    (hbits : arithmetic = .doubles → amountCents ≤ 2 ^ 52) :
    printedCents arithmetic amountCents currency = amountCents := by
  obtain ⟨hone, hwhole⟩ := hpayable
  have hdouble : ∀ number, 0 ≤ number → number ≤ 2 ^ 52 →
      Doubles.nearest ((number : ℤ) : ℚ) = number := fun number hlow hhigh =>
    Doubles.nearest_of_isDouble (by exact_mod_cast hlow)
      (Doubles.isDouble_intCast (by rw [abs_of_nonneg hlow]; omega))
  cases currency with
  | khr =>
      obtain ⟨riel, rfl⟩ : ∃ riel, amountCents = 100 * riel :=
        ⟨amountCents / 100, by have := hwhole rfl; omega⟩
      have hdivided : ((100 * riel : ℤ) : ℚ) / 100 = riel := by
        push_cast
        ring
      have hnearest : arithmetic.nearest (riel : ℚ) = riel := by
        cases arithmetic with
        | exact => rfl
        | doubles =>
            have hsmall := hbits rfl
            exact hdouble riel (by omega) (by omega)
      rw [printedCents, hdivided, hnearest, Doubles.halfEven_intCast]
  | usd =>
      rw [printedCents]
      cases arithmetic with
      | exact =>
          simp only [Arithmetic.nearest]
          rw [mul_div_cancel₀ _ (by norm_num), Doubles.halfEven_intCast]
      | doubles =>
          simp only [Arithmetic.nearest]
          rw [hdouble amountCents (by omega) (hbits rfl)]
          exact halfEven_quotient_of_le (by omega) (hbits rfl)

theorem filter_go_groupThousands (digits : List Char) :
    (groupThousands.go digits).filter (· ≠ ',') = digits.filter (· ≠ ',') := by
  induction digits using groupThousands.go.induct with
  | case1 first second third fourth rest ih =>
      rw [groupThousands.go]
      simp only [List.filter_cons, ih]
      simp
  | case2 short hshort =>
      unfold groupThousands.go
      split
      · exact absurd rfl (hshort _ _ _ _ _)
      · rfl

/-- Grouping adds commas and nothing else. -/
theorem filter_groupThousands {digits : List Char}
    (hdigits : ∀ digit ∈ digits, digit.isDigit = true) :
    (groupThousands digits).filter (· ≠ ',') = digits := by
  rw [groupThousands, List.filter_reverse, filter_go_groupThousands, ← List.filter_reverse,
    List.reverse_reverse, List.filter_eq_self]
  intro digit hdigit
  rw [decide_eq_true_iff]
  rintro rfl
  exact absurd (hdigits _ hdigit) (by decide)

/-- Without its commas the grouped text is the plain one. -/
theorem moneyToStr_grouped (amountCents : Int) (currency : Currency) :
    (moneyToStr amountCents currency true).toList.filter (· ≠ ',') =
      (moneyToStr amountCents currency false).toList := by
  have hsign : (if amountCents < 0 then ['-'] else []).filter (· ≠ ',') =
      if amountCents < 0 then ['-'] else [] := by
    split <;> rfl
  have hwhole (count : ℕ) := filter_groupThousands (Numerals.all_isDigit_toDigits count)
  have hdecimals : (List.leftpad 2 '0' (Nat.toDigits 10 (amountCents.natAbs % 100))).filter
      (· ≠ ',') = List.leftpad 2 '0' (Nat.toDigits 10 (amountCents.natAbs % 100)) := by
    refine List.filter_eq_self.mpr fun digit hdigit => ?_
    rw [decide_eq_true_iff]
    rintro rfl
    exact absurd (Numerals.all_isDigit_leftpad _ _ _ hdigit) (by decide)
  cases currency with
  | usd =>
      simp only [moneyToStr, if_true, Bool.false_eq_true, if_false, String.toList_ofList,
        List.filter_append, hsign, hwhole]
      rw [List.filter_cons_of_pos (by decide), hdecimals]
  | khr =>
      simp only [moneyToStr, if_true, Bool.false_eq_true, if_false, String.toList_ofList,
        List.filter_append, hsign, hwhole]

end Texts

/-! ## The texts of a payment -/

section Offline

variable {nowDt nowTime expiresAt : Instant} {store : Store} {link : PaymentLink}
  {amountCents : Int} {billNumber payload : String} {currency : Option String}
  {arithmetic : Arithmetic}

theorem lookup_payloadElements {accountId iso amount name checksum : List Char}
    {t62 window : List (String × List Char)} :
    (payloadElements accountId iso amount name t62 window ++ [("63", checksum)]).lookup "53" =
        some iso ∧
      (payloadElements accountId iso amount name t62 window ++ [("63", checksum)]).lookup "54" =
        some amount :=
  ⟨rfl, rfl⟩

/-- Tag 54 of a payload is the text of its amount. -/
theorem parseTlv_amount
    (hbuild : buildKhqrPayload arithmetic nowDt nowTime store link amountCents billNumber
      expiresAt currency = .ok payload) :
    (parseTlv payload.toList).lookup "54" = some (amountText arithmetic amountCents
      (printedCurrency (selectedCurrency currency link))) := by
  obtain ⟨-, -, -, -, helements, rfl⟩ := buildKhqrPayload_eq_ok_iff.mp hbuild
  rw [khqrElements] at helements ⊢
  rw [parseTlv_printedPayload (printable_of_tagged (tagged_payloadElements _ _ _ _ _ _) helements)]
  exact lookup_payloadElements.2

end Offline

/-- The three texts of a payment's amount, and the grouped one. Where the offline code divides
by doubles, the amount has 52 bits. -/
structure Payment.Rendered (payment : Payment) : Prop where
  hosted : Denotes (moneyToStr payment.amountCents payment.currency false).toList
    payment.amountCents
  offline : ∀ arithmetic nowDt nowTime store link billNumber expiresAt payload,
    (arithmetic = .doubles → payment.amountCents ≤ 2 ^ 52) →
    buildKhqrPayload arithmetic nowDt nowTime store link payment.amountCents billNumber expiresAt
      (some payment.currency.name) = .ok payload →
    ∃ text, (parseTlv payload.toList).lookup "54" = some text ∧ Denotes text payment.amountCents
  event : ∀ moment type store,
    Denotes (buildEventPayload moment type payment store).amount.toList payment.amountCents
  grouped : (moneyToStr payment.amountCents payment.currency true).toList.filter (· ≠ ',') =
    (moneyToStr payment.amountCents payment.currency false).toList

theorem Payment.rendered {payment : Payment}
    (hpayable : Payable payment.amountCents payment.currency) : payment.Rendered where
  hosted := moneyToStr_denotes hpayable
  offline := by
    intro arithmetic nowDt nowTime store link billNumber expiresAt payload hbits hbuild
    have hprinted : printedCurrency payment.currency.name = payment.currency := by
      cases payment.currency <;> decide
    refine ⟨_, parseTlv_amount hbuild, ?_⟩
    rw [selectedCurrency_name, hprinted, amountText_eq, printedCents_payable hpayable hbits]
    exact hundredthsText_denotes (by have := hpayable.1; omega)
  event := fun _ _ _ => moneyToStr_denotes hpayable
  grouped := moneyToStr_grouped _ _

/-! ## Every payment can be printed -/

/-- Every row has an amount that was accepted. -/
def Tables.Payable (tables : Tables) : Prop :=
  ∀ key payment, tables.payments.get? key = some payment →
    ChmabaPay.Payable payment.amountCents payment.currency

section Steps

variable {settings : Settings} {rail : Rail} {now : Instant} {tables tables' : Tables}

/-- Rows that keep their amounts stay payable. -/
theorem Tables.Payable.of_persists {mandate : Mandate} (hpayable : tables.Payable)
    (hevolve : PaymentsEvolve mandate tables tables')
    (hrows : ∀ key, tables.payments.get? key = none → tables'.payments.get? key = none) :
    tables'.Payable := by
  intro key payment' hpayment'
  cases hpayment : tables.payments.get? key with
  | none => cases (hrows key hpayment).symm.trans hpayment'
  | some payment =>
      obtain ⟨row, hrow, hevolves⟩ := hevolve.persists key payment hpayment
      obtain rfl := Option.some.inj (hrow.symm.trans hpayment')
      have hterms := hevolves.terms
      simp only [Payment.terms, Prod.mk.injEq] at hterms
      obtain ⟨-, hamount, hcurrency, -⟩ := hterms
      rw [hamount, hcurrency]
      exact hpayable key payment hpayment

theorem Tables.Payable.insert (hpayable : tables.Payable) {payment : Payment}
    (hpayment : ChmabaPay.Payable payment.amountCents payment.currency)
    (hpayments : tables'.payments = tables.payments.insert payment) : tables'.Payable := by
  intro key row hrow
  rw [hpayments, Table.get?_insert] at hrow
  split at hrow
  · obtain rfl := Option.some.inj hrow
    exact hpayment
  · exact hpayable key row hrow

theorem refuseAmount_eq_ok {link : PaymentLink} {amountCents : Int}
    (hamount : refuseAmount link amountCents = .ok ()) : 1 ≤ amountCents := by
  unfold refuseAmount at hamount
  split at hamount
  · cases hamount
  · omega

/-- A request in riel that gets a payment is one of whole riel. -/
theorem createPayment_whole {storeId paymentId : ℕ} {store : Store} {request : PaymentRequest}
    {publicId : String} {linkId : ℕ} {link : PaymentLink}
    (hcreate : createPayment settings rail now tables storeId store request publicId =
      .ok (paymentId, tables'))
    (hlink : loadActiveLink tables storeId request.currency = .ok (linkId, link)) :
    link.currency = .khr → request.amountCents % 100 = 0 := by
  intro hkhr
  by_contra hpart
  simp only [createPayment, bind_eq_ok, hlink, Except.ok.injEq] at hcreate
  obtain ⟨-, -, -, -, _, rfl, hcreate⟩ := hcreate
  rw [if_pos ⟨hkhr, hpart⟩] at hcreate
  simp [bind_eq_ok] at hcreate

theorem Tables.Payable.createPayment (hpayable : tables.Payable) {storeId paymentId : ℕ}
    {store : Store} {request : PaymentRequest} {publicId : String}
    (hcreate : createPayment settings rail now tables storeId store request publicId =
      .ok (paymentId, tables')) : tables'.Payable := by
  obtain ⟨linkId, link, hlink, ⟨_, _, -, -, -, -, rfl⟩ | ⟨-, minted, hamount, -, hinserted⟩⟩ :=
    createPayment_spec hcreate
  · exact hpayable
  · have hwhole := createPayment_whole hcreate hlink
    rw [hinserted]
    exact hpayable.insert ⟨refuseAmount_eq_ok hamount, hwhole⟩ rfl

theorem Tables.Payable.reissue (hpayable : tables.Payable) {parentId paymentId : ℕ}
    {parent : Payment} {publicId : String}
    (hparent : tables.payments.get? parentId = some parent)
    (hreissue : reissuePayment settings rail now tables parentId parent publicId =
      .ok (paymentId, tables')) : tables'.Payable := by
  obtain ⟨-, ⟨rfl, -⟩ | ⟨_, rfl, -⟩⟩ := reissuePayment_eq_ok hreissue
  · exact hpayable
  · obtain ⟨minted, -, rfl⟩ := reissuePayment_minted hreissue
    have hrecorded : Tables.Payable { tables with
        payments := tables.payments.update parentId (Payment.recordReissue publicId now) } := by
      intro key row hrow
      rw [Table.get?_update] at hrow
      split at hrow
      next hkey =>
        rw [hkey, hparent] at hrow
        obtain rfl := Option.some.inj hrow
        exact hpayable parentId parent hparent
      next => exact hpayable key row hrow
    have hsuccessor : ChmabaPay.Payable
        (successorPayment now parentId parent minted publicId).amountCents
        (successorPayment now parentId parent minted publicId).currency :=
      hpayable parentId parent hparent
    exact hrecorded.insert hsuccessor rfl

theorem Tables.Payable.perform (hpayable : tables.Payable) {op : Op} {response : Response}
    (hperform : perform settings now tables op = .ok (response, tables')) :
    tables'.Payable := by
  have hevolve := perform_payments hperform
  have hrewritten : tables'.payments = tables.payments → tables'.Payable := by
    intro hpayments key row hrow
    exact hpayable key row (hpayments ▸ hrow)
  have hmodified : (∃ change, tables'.payments = tables.payments.modify change) →
      tables'.Payable := by
    rintro ⟨change, hpayments⟩
    refine hpayable.of_persists hevolve fun key hnone => ?_
    rw [hpayments, Table.get?_modify, hnone]
    rfl
  cases op with
  | signUp email name renameExisting =>
      simp only [ChmabaPay.perform, Except.ok.injEq, Prod.mk.injEq] at hperform
      obtain ⟨-, rfl⟩ := hperform
      exact hrewritten (upsertAccount_sameSales _ _ _ _ _).payments
  | createPayment rail storeId request publicId =>
      simp only [ChmabaPay.perform, bind_eq_ok, pure_eq_ok, Prod.mk.injEq] at hperform
      obtain ⟨store, -, ⟨paymentId, created⟩, hcreate, -, rfl⟩ := hperform
      exact hpayable.createPayment hcreate
  | reissuePayment rail parentId publicId =>
      simp only [ChmabaPay.perform, bind_eq_ok, pure_eq_ok, Prod.mk.injEq] at hperform
      obtain ⟨parent, hparent, ⟨paymentId, created⟩, hreissue, -, rfl⟩ := hperform
      exact hpayable.reissue (requirePayment_eq_ok hparent) hreissue
  | getInvoiceKhqr rail accountId invoiceId publicId =>
      simp only [ChmabaPay.perform, bind_eq_ok, pure_eq_ok, Prod.mk.injEq] at hperform
      obtain ⟨⟨paymentId, collected⟩, hkhqr, -, rfl⟩ := hperform
      obtain ⟨invoice, minted, hqId, hq, -, -, -, -, hminted, rfl⟩ := getInvoiceKhqr_eq_ok hkhqr
      have hkept : minted.Payable := by
        rcases invoicePayment_eq_ok hminted with
          ⟨storedId, stored, -, hstored, ⟨-, rfl⟩ | hreissue⟩ | ⟨request, -, -, hcreate⟩
        · exact hpayable
        · exact hpayable.reissue hstored hreissue
        · exact hpayable.createPayment hcreate
      exact hkept
  | markScanned paymentId =>
      simp only [ChmabaPay.perform, bind_eq_ok, pure_eq_ok, Prod.mk.injEq] at hperform
      obtain ⟨scanned, hscan, -, rfl⟩ := hperform
      rcases markScanned_eq_ok hscan with rfl | ⟨payment, events, deliveries, -, -, rfl⟩
      · exact hpayable
      · exact hmodified ⟨fun key row => if key = paymentId then payment.scan now else row, rfl⟩
  | markPaid publicId credit =>
      simp only [ChmabaPay.perform, bind_eq_ok, pure_eq_ok, Prod.mk.injEq] at hperform
      obtain ⟨⟨settledId, settled⟩, hmark, -, rfl⟩ := hperform
      rcases markPaid_eq_ok hmark with ⟨-, rfl⟩ | ⟨paymentId, payment, rfl, -, -, hsettle⟩
      · exact hpayable
      · exact hmodified ⟨_, (settlePayment_payments hsettle).1.trans
          (settledPayments_eq_modify _ _ _)⟩
  | reversePayment paymentId reason =>
      simp only [ChmabaPay.perform, bind_eq_ok, pure_eq_ok, Prod.mk.injEq] at hperform
      obtain ⟨payment, -, reversed, hreverse, -, rfl⟩ := hperform
      obtain ⟨-, events, deliveries, ledger, rfl⟩ := reversePayment_eq_ok hreverse
      exact hmodified
        ⟨fun key row => if key = paymentId then payment.reverse now reason else row, rfl⟩
  | expireDuePayments =>
      simp only [ChmabaPay.perform, bind_eq_ok, pure_eq_ok, Prod.mk.injEq] at hperform
      obtain ⟨⟨count, expired⟩, hexpire, -, rfl⟩ := hperform
      obtain ⟨events, deliveries, rfl⟩ := expireDuePayments_eq_ok hexpire
      exact hmodified ⟨fun key row =>
        if ((duePayments now tables).map Prod.fst).contains key then row.expire else row, rfl⟩
  | changePlan accountId planCode =>
      simp only [ChmabaPay.perform, bind_eq_ok, pure_eq_ok, Prod.mk.injEq] at hperform
      obtain ⟨⟨out, changed⟩, hchange, -, rfl⟩ := hperform
      exact hrewritten (changePlan_sameSales hchange).payments
  | issueDueInvoices limit =>
      simp only [ChmabaPay.perform, Except.ok.injEq, Prod.mk.injEq] at hperform
      obtain ⟨-, rfl⟩ := hperform
      obtain ⟨invoices, heq⟩ := issueDueInvoices_eq settings now tables limit
      exact hrewritten (by rw [heq])
  | enforceGrace limit =>
      simp only [ChmabaPay.perform, Except.ok.injEq, Prod.mk.injEq] at hperform
      obtain ⟨-, rfl⟩ := hperform
      exact hrewritten (enforceGrace_sameSales settings now tables limit).payments
  | resolveInvoice actorId invoiceId action reason amountCents =>
      simp only [ChmabaPay.perform, bind_eq_ok, pure_eq_ok, Prod.mk.injEq] at hperform
      obtain ⟨resolved, hresolve, -, rfl⟩ := hperform
      exact hrewritten (resolveInvoice_sameSales hresolve).payments
  | assignAccountPlan actorId accountId planCode reason =>
      simp only [ChmabaPay.perform, bind_eq_ok, pure_eq_ok, Prod.mk.injEq] at hperform
      obtain ⟨⟨subscriptionId, assigned⟩, hassign, -, rfl⟩ := hperform
      exact hrewritten (assignAccountPlan_sameSales hassign).payments

end Steps

/-! ## Every reachable state -/

theorem Initial.payable {world : World} (hinitial : Initial world) :
    world.db.tables.Payable := by
  intro key payment hpayment
  rw [Initial.get?_eq_none hinitial.payments] at hpayment
  cases hpayment

theorem step_payable (settings : Settings) {world : World}
    (hpayable : world.db.tables.Payable) (input : Timed) :
    (next (step settings) world input).db.tables.Payable := by
  unfold next
  rcases next_step settings world input with
    ⟨failure, hstep⟩ | ⟨response, tables, hperform, hvalid, hstep⟩
  · rw [hstep]
    exact hpayable
  · rw [hstep]
    exact hpayable.perform hperform

/-- After every run the texts of every payment denote its amount. -/
theorem amounts_rendered {settings : Settings} {world : World} (hinitial : Initial world)
    (inputs : List Timed) {key : ℕ} {payment : Payment}
    (hpayment : (run (step settings) world inputs).db.tables.payments.get? key = some payment) :
    payment.Rendered := by
  have hadmitted : ∀ input ∈ inputs, True := fun _ _ => trivial
  have hpayable := run_invariant (fun world : World => world.db.tables.Payable) (fun _ => True)
    (fun _ input hworld _ => step_payable settings hworld input) hinitial.payable hadmitted
  exact Payment.rendered (hpayable key payment hpayment)

/-- The shop takes five dollars. -/
def Specimen.fiveDollars : Timed where
  elapsed := 0
  op := .createPayment rail 1 ⟨500, none, none, none, none, none⟩ "sale"

theorem amounts_rendered_sale :
    ∃ payment, (run (step {}) Specimen.world [Specimen.fiveDollars]).db.tables.payments.get? 0 =
      some payment ∧ payment.amountCents = 500 ∧ payment.Rendered := by
  obtain ⟨payment, hpayment, hamount⟩ : ∃ payment,
      (run (step {}) Specimen.world [Specimen.fiveDollars]).db.tables.payments.get? 0 =
          some payment ∧
        payment.amountCents = 500 := ⟨_, rfl, rfl⟩
  exact ⟨payment, hpayment, hamount,
    amounts_rendered Specimen.initial_world [Specimen.fiveDollars] hpayment⟩

end ChmabaPay
