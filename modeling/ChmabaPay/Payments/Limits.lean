import ChmabaPay.Payments.Copies
import ChmabaPay.Payments.Currencies
import ChmabaPay.Payments.Hundredths

/-! # What the encoders can print

The limits of the schemas are set without regard to the encoders. A Bakong account of up to
120 characters is admitted, and the template around it takes 63. A reference of up to 255 is
admitted, and an element takes 99.
-/

namespace ChmabaPay

open Calendar Fallible

/-! ## Numbers of a few digits -/

/-- A reading of the clock, or any other datetime from the epoch on: its year has four
digits. -/
structure ClockReading (moment : Instant) : Prop where
  start : 0 ≤ moment
  stop : moment < seconds 253402300800

theorem ClockReading.epoch {moment : Instant} (hclock : ClockReading moment) :
    0 ≤ epochSeconds moment ∧ epochSeconds moment < 253402300800 := by
  have hstart : LE.le (α := Int) 0 moment := hclock.start
  have hstop : LT.lt (α := Int) moment (253402300800 * 1000000) := hclock.stop
  have hdiv : epochSeconds moment = (moment : Int) / 1000000 := Int.tdiv_eq_ediv_of_nonneg hstart
  rw [hdiv]
  omega

theorem length_integerText_le {number : Int} {digits : ℕ} (hdigits : 0 < digits)
    (hlow : 0 ≤ number) (hhigh : number < 10 ^ digits) : (integerText number).length ≤ digits := by
  obtain ⟨number, rfl⟩ := Int.eq_ofNat_of_zero_le hlow
  rw [integerText, if_neg (by omega), Int.natAbs_natCast]
  exact Nat.toDigits_length 10 number digits hdigits (by exact_mod_cast hhigh)

/-- The time a code has left, as a number of seconds. -/
theorem ttlSeconds_le {expiresAt nowDt : Instant} (hexpires : ClockReading expiresAt)
    (hnow : ClockReading nowDt) :
    1 ≤ ttlSeconds expiresAt nowDt ∧ ttlSeconds expiresAt nowDt < 253402300800 := by
  refine ⟨le_max_left _ _, max_lt (by decide) ?_⟩
  have hstop : LT.lt (α := Int) expiresAt (253402300800 * 1000000) := hexpires.stop
  have hstart : LE.le (α := Int) 0 nowDt := hnow.start
  change Int.tdiv (expiresAt - nowDt : Int) 1000000 < 253402300800
  rw [Int.tdiv_eq_ediv, Int.sign_eq_one_of_pos (by decide)]
  split <;> omega

section Templates

variable {clientId bill reference : List Char} {nowEpoch expiry : Int}

/-- The fields of a private template are short just when those of the caller are. -/
theorem privateFields_short_iff (hbill : bill ≠ []) (hclient : clientId.length ≤ 64)
    (hlength : bill.length ≤ 64) (hnow : 0 ≤ nowEpoch ∧ nowEpoch < 253402300800)
    (hexpiry : 0 ≤ expiry ∧ expiry < 506804601600) :
    Short (privateFields clientId bill reference nowEpoch expiry) ↔ reference.length ≤ 99 := by
  have hnetwork : "PAYWAY@ABA".toList.length ≤ 99 := by decide
  have hterminal : (terminalId nowEpoch).length ≤ 99 := by
    rw [length_terminalId]
    omega
  have hissued : (integerText nowEpoch).length ≤ 12 :=
    length_integerText_le (by omega) hnow.1 (by omega)
  have huntil : (integerText expiry).length ≤ 12 :=
    length_integerText_le (by omega) hexpiry.1 (by omega)
  have hfields : Short (privateFields clientId bill reference nowEpoch expiry) ↔
      (clientId ≠ [] → "PAYWAY@ABA".toList.length ≤ 99) ∧ bill.length ≤ 99 ∧
        reference.length ≤ 99 ∧ (integerText expiry).length ≤ 99 ∧
        (clientId ≠ [] → clientId.length ≤ 99) ∧ (terminalId nowEpoch).length ≤ 99 ∧
        (integerText nowEpoch).length ≤ 99 := by
    unfold Short privateFields
    rw [if_pos hbill]
    by_cases hempty : clientId = []
    · simp only [hempty, ne_eq, not_true_eq_false, if_false, List.nil_append, List.append_nil,
        List.cons_append, List.forall_mem_cons, List.not_mem_nil, false_imp_iff, implies_true,
        and_true, true_and]
    · simp only [hempty, ne_eq, not_false_eq_true, if_true, true_imp_iff, List.cons_append,
        List.nil_append, List.forall_mem_cons, List.not_mem_nil, false_imp_iff, implies_true,
        and_true]
  rw [hfields]
  constructor
  · rintro ⟨-, -, hreference, -⟩
    exact hreference
  · intro hreference
    exact ⟨fun _ => hnetwork, by omega, hreference, by omega, fun _ => by omega, hterminal,
      by omega⟩

/-- The validity window of a clock reading is always short enough. -/
theorem validityParts_short (hnow : 0 ≤ nowEpoch ∧ nowEpoch < 253402300800) :
    Short (validityParts nowEpoch) ∧ (encode (validityParts nowEpoch)).length ≤ 99 := by
  have hwindow : khqrValidityWindowMs = 2592000000 := by decide
  have hissued : (integerText (nowEpoch * 1000)).length ≤ 16 :=
    length_integerText_le (by omega) (by omega) (by omega)
  have huntil : (integerText (nowEpoch * 1000 + khqrValidityWindowMs)).length ≤ 16 :=
    length_integerText_le (by omega) (by omega) (by omega)
  have hshort : Short (validityParts nowEpoch) := by
    simp only [Short, validityParts, List.forall_mem_cons, List.not_mem_nil, false_imp_iff,
      implies_true, and_true]
    omega
  refine ⟨hshort, ?_⟩
  rw [length_encode (printable_of_tagged (tagged_validityParts nowEpoch) hshort)]
  simp only [validityParts, Packing.size_cons, Packing.size_nil, partWidth]
  omega

end Templates

/-! ## What is admitted -/

/-- A destination as `LinkCreate` and its columns admit it, and a payment on it that
`create_payment` accepts with `hosted_qr` false: the checks pass, the row fits its columns,
and the public id is eighteen random bytes in base 64. -/
structure AcceptedOffline (link : PaymentLink) (request : PaymentRequest) (publicId : String) :
    Prop where
  account : 3 ≤ link.merchantAccountId.length ∧ link.merchantAccountId.length ≤ 120
  name : ∀ text ∈ link.merchantName, text.length ≤ 120
  client : ∀ text ∈ link.paywayClientId, text.length ≤ 64
  offline : request.hostedQr = some false
  amount : refuseAmount link request.amountCents = .ok ()
  whole : link.currency = .khr → request.amountCents % 100 = 0
  column : fitsInteger request.amountCents = true
  publicId : publicId.length = 24

/-- Account, reference, currency and amount of a request are of lengths the encoder can
print. -/
structure FromLinkFits (body : KhqrFromLinkRequest) (token : String) (slug : List Char) :
    Prop where
  account : (body.account slug).length ≤ 63
  reference : body.bakongDirect = true ∨ (body.reference token).length ≤ 99
  currency : (pythonInt (pythonUpper body.chosenCurrency).toList).isSome →
    body.chosenCurrency.length ≤ 99
  amount : ∃ value, body.amount.value.toRat? = some value ∧ value ≤ 10 ^ 99

/-- A currency that is no number is printed in three characters. -/
theorem length_currencyIso_iff (currency : String) :
    (currencyIso (pythonUpper currency)).length ≤ 99 ↔
      ((pythonInt (pythonUpper currency).toList).isSome → currency.length ≤ 99) := by
  have hlength : (pythonUpper currency).toList.length = currency.length := by
    rw [toList_pythonUpper, List.length_map, String.length_toList]
  have hnames : pythonInt "USD".toList = none ∧ pythonInt "KHR".toList = none := by
    decide +kernel
  have hnumbers : "840".toList.length ≤ 99 ∧ "116".toList.length ≤ 99 := by decide
  rw [currencyIso_eq]
  by_cases husd : pythonUpper currency = "USD"
  · rw [if_pos husd, husd, hnames.1]
    exact iff_of_true hnumbers.1 (by simp)
  by_cases hkhr : pythonUpper currency = "KHR"
  · rw [if_neg husd, if_pos hkhr, hkhr, hnames.2]
    exact iff_of_true hnumbers.2 (by simp)
  rw [if_neg husd, if_neg hkhr]
  split
  next hnumber =>
      rw [hlength]
      exact ⟨fun hshort _ => hshort, fun hshort => hshort hnumber⟩
  next hnumber => exact iff_of_true hnumbers.1 fun hsome => absurd hsome hnumber

section Admitted

variable {nowDt nowTime expiresAt : Instant} {store : Store} {link : PaymentLink}
  {request : PaymentRequest} {publicId : String}

theorem accepted_returns_iff (haccepted : AcceptedOffline link request publicId)
    (hnowDt : ClockReading nowDt) (hnowTime : ClockReading nowTime)
    (hexpires : ClockReading expiresAt) :
    (∃ payload, buildKhqrPayload .doubles nowDt nowTime store link request.amountCents publicId
      expiresAt (some link.currency.name) = .ok payload) ↔
        link.merchantAccountId.length ≤ 63 := by
  have hepoch := hnowTime.epoch
  obtain ⟨hlow, hhigh⟩ := ttlSeconds_le hexpires hnowDt
  have hclient : link.clientId.length ≤ 64 := by
    unfold PaymentLink.clientId
    cases hid : link.paywayClientId with
    | none => simp
    | some text =>
        rw [Option.getD_some, String.length_toList]
        exact haccepted.client text hid
  have hbill : publicId.toList.length = 24 := by
    rw [String.length_toList]
    exact haccepted.publicId
  -- a public id has 24 characters, so every private field fits
  have hprivate : Short (privateParts link.clientId publicId.toList (epochSeconds nowTime)
      (epochSeconds nowTime + ttlSeconds expiresAt nowDt)) :=
    (privateFields_short_iff (List.ne_nil_of_length_eq_add_one hbill) hclient (by omega) hepoch
      (by omega)).mpr (by omega)
  have hiso : (currencyIso link.currency.name).length ≤ 99 := by
    cases link.currency <;> decide +kernel
  have hone : 0 ≤ request.amountCents := by
    have hchecked := haccepted.amount
    unfold refuseAmount at hchecked
    split at hchecked
    · cases hchecked
    · omega
  have hmax : request.amountCents ≤ integerMax := by
    have hcolumn := haccepted.column
    rw [fitsInteger, Bool.and_eq_true, decide_eq_true_iff, decide_eq_true_iff] at hcolumn
    exact hcolumn.2
  obtain ⟨hfinite, hamount⟩ := column_printable hone hmax (printedCurrency link.currency.name)
  rw [buildKhqrPayload_returns_iff, selectedCurrency_name, String.length_toList]
  constructor
  · rintro ⟨-, -, haccount, -⟩
    exact haccount
  · intro haccount
    exact ⟨hfinite, hprivate, haccount, validityParts_short hepoch, hiso, hamount⟩

variable {settings : Settings} {outside : KhqrOutside} {body : KhqrFromLinkRequest}
  {slug url : List Char}

theorem admitted_returns_iff (hclock : ClockReading outside.now)
    (hslug : normalizeLink body.link.toList = .ok (slug, url)) :
    (∃ response, khqrFromLink settings outside body = .ok response) ↔
      FromLinkFits body outside.token slug := by
  have hepoch := hclock.epoch
  obtain ⟨hlow, hhigh⟩ := @length_bill body outside.token
  have hclient : (orElse body.paywayClientId "").toList.length ≤ 64 := by
    unfold orElse
    cases hid : body.paywayClientId.filter (· ≠ "") with
    | none => simp
    | some text =>
        rw [Option.getD_some, String.length_toList]
        exact body.clientLength text (Option.filter_eq_some_iff.mp hid).1
  have httl : 30 ≤ body.ttl settings ∧ body.ttl settings ≤ 2592000 := by
    unfold KhqrFromLinkRequest.ttl
    omega
  have hbill : (body.bill outside.token).toList ≠ [] := List.ne_nil_of_length_pos hlow
  have hprivate : Short (privateFields (orElse body.paywayClientId "").toList
      (body.bill outside.token).toList (body.reference outside.token).toList
      (epochSeconds outside.now) (epochSeconds outside.now + body.ttl settings)) ↔
      (body.reference outside.token).toList.length ≤ 99 :=
    privateFields_short_iff hbill hclient hhigh hepoch (by omega)
  have hwindow := validityParts_short hepoch
  -- only the reference of the private fields can be too long, and only where they are built
  have hfields : FromLinkShort body.bakongDirect (orElse body.paywayClientId "").toList
      (body.bill outside.token).toList (body.reference outside.token).toList
      (epochSeconds outside.now) (body.ttl settings) ↔
      (body.bakongDirect = true ∨ (body.reference outside.token).length ≤ 99) := by
    rw [String.length_toList] at hprivate
    rw [FromLinkShort, hprivate]
    cases body.bakongDirect with
    | true => simp
    | false => simp [hwindow.1]
  have hvalidity : (encode (fromLinkValidity body.bakongDirect
      (epochSeconds outside.now))).length ≤ 99 := by
    unfold fromLinkValidity
    split
    · exact Nat.zero_le _
    · exact hwindow.2
  have hiso := length_currencyIso_iff body.chosenCurrency
  rw [khqrFromLink_returns_iff hslug]
  simp only [fromLinkPayload_returns_iff, hfields, hvalidity, hiso]
  constructor
  · rintro ⟨cents, hcents, hfinite, hreference, -, haccount, hcurrency, hamount, -⟩
    exact ⟨haccount, hreference, hcurrency,
      (printable_amount_iff _).mp ⟨cents, hcents, hfinite, hamount⟩⟩
  · rintro ⟨haccount, hreference, hcurrency, hprintable⟩
    obtain ⟨cents, hcents, hfinite, hamount⟩ := (printable_amount_iff _).mpr hprintable
    exact ⟨cents, hcents, hfinite, hreference, by omega, haccount, hcurrency, hamount, trivial⟩

end Admitted

/-- For an accepted payment the first encoder returns a payload just when the account has at
most 63 characters. For an admitted request whose link has a slug the second returns one just
when account, reference, currency and amount are short enough. -/
theorem builders_return_iff {nowDt nowTime expiresAt : Instant} {store : Store}
    {link : PaymentLink} {request : PaymentRequest} {publicId : String} {settings : Settings}
    {outside : KhqrOutside} {body : KhqrFromLinkRequest} {slug url : List Char} :
    (AcceptedOffline link request publicId → ClockReading nowDt → ClockReading nowTime →
      ClockReading expiresAt →
      ((∃ payload, buildKhqrPayload .doubles nowDt nowTime store link request.amountCents
        publicId expiresAt (some link.currency.name) = .ok payload) ↔
          link.merchantAccountId.length ≤ 63)) ∧
    (ClockReading outside.now → normalizeLink body.link.toList = .ok (slug, url) →
      ((∃ response, khqrFromLink settings outside body = .ok response) ↔
        FromLinkFits body outside.token slug)) :=
  ⟨accepted_returns_iff, admitted_returns_iff⟩

section

open Specimen

/-- `{"link": "ABAPAYpe518710Y", "amount": 5.0}` with a bill number. -/
def Specimen.linkRequest (billNumber : String) (hbill : billNumber.length ≤ 64) :
    KhqrFromLinkRequest where
  link := "ABAPAYpe518710Y"
  amount := statedFive
  billNumber := some billNumber
  linkLength := by decide
  accepted := statedFive_accepted
  billLength := by
    intro text htext
    rwa [← Option.some.inj htext]
  referenceLength := by simp
  ttlRange := by simp
  bakongLength := by simp
  clientLength := by simp

/-- The page of the link shows the shop's name. -/
def Specimen.khqrOutside : KhqrOutside where
  merchantName _ := some "Shop"
  token := ""
  md5 := id
  now := seconds 1790000000
  createdAt := seconds 1790000000

/-- A destination on an account of so many characters. -/
def Specimen.accountLink (length : ℕ) : PaymentLink :=
  { link 1 with merchantAccountId := String.ofList (List.replicate length 'a') }

/-- Five dollars, by a code of our own. -/
def Specimen.offlineRequest : PaymentRequest where
  amountCents := 500
  referenceId := none
  metadata := none
  idempotencyKey := none
  hostedQr := some false

def Specimen.offlinePayload (length : ℕ) : Except KhqrError String :=
  buildKhqrPayload .doubles (seconds 1790000000) (seconds 1790000000) shopStore (accountLink length)
    offlineRequest.amountCents "Zk3vQx9TtB7mLw2RyHn5aPcD" (seconds 1790000300)
    (some (accountLink length).currency.name)

theorem length_accountLink (length : ℕ) :
    (accountLink length).merchantAccountId.length = length := by
  simp [accountLink]

theorem accountLink_accepted {length : ℕ} (hlow : 3 ≤ length) (hhigh : length ≤ 120) :
    AcceptedOffline (accountLink length) offlineRequest "Zk3vQx9TtB7mLw2RyHn5aPcD" where
  account := by rw [length_accountLink]; exact ⟨hlow, hhigh⟩
  name := by simp [accountLink, link]
  client := by simp [accountLink, link]
  offline := rfl
  amount := rfl
  whole := by simp [accountLink, link]
  column := by decide
  publicId := by decide

theorem clockReading_specimen :
    ClockReading (seconds 1790000000) ∧ ClockReading (seconds 1790000300) :=
  ⟨⟨by decide, by decide⟩, by decide, by decide⟩

theorem linkRequest_slug {billNumber : String} {hbill : billNumber.length ≤ 64} :
    normalizeLink (linkRequest billNumber hbill).link.toList =
      .ok ("ABAPAYpe518710Y".toList, "https://link.payway.com.kh/ABAPAYpe518710Y".toList) := by
  have hlink : (linkRequest billNumber hbill).link = "ABAPAYpe518710Y" := rfl
  rw [hlink]
  decide +kernel

theorem linkRequest_bill {billNumber token : String} {hbill : billNumber.length ≤ 64}
    (hne : billNumber ≠ "") : (linkRequest billNumber hbill).bill token = billNumber := by
  have hgiven : (some billNumber).filter (fun text => decide (text ≠ "")) = some billNumber :=
    Option.filter_eq_some_iff.mpr ⟨rfl, by simpa using hne⟩
  simp only [KhqrFromLinkRequest.bill, orElse, linkRequest, hgiven, Option.getD_some]

theorem linkRequest_cents {billNumber : String} {hbill : billNumber.length ≤ 64} :
    (linkRequest billNumber hbill).cents = .ok 500 := by
  have hdouble : statedFive.double = .ok 5 := by decide +kernel
  exact cents_eq_ok_iff.mpr ⟨5, hdouble, by decide +kernel, by decide +kernel⟩

theorem linkRequest_fits {billNumber : String} {hbill : billNumber.length ≤ 64}
    (hne : billNumber ≠ "") :
    FromLinkFits (linkRequest billNumber hbill) "" "ABAPAYpe518710Y".toList := by
  have hcurrency : (pythonInt (pythonUpper "USD").toList).isSome = false := by decide +kernel
  have haccount : (pythonStrip (String.ofList "ABAPAYpe518710Y".toList).toList).length = 15 := by
    decide +kernel
  constructor
  case account => exact haccount.le.trans (by omega)
  case reference =>
    right
    rw [KhqrFromLinkRequest.reference, linkRequest_bill hne]
    exact hbill.trans (by omega)
  case currency =>
    intro hsome
    cases hcurrency.symm.trans hsome
  case amount => exact ⟨50 * 10 ^ (-1 : ℤ), rfl, by norm_num⟩

theorem linkRequest_returns {billNumber : String} (hbill : billNumber.length ≤ 64)
    (hne : billNumber ≠ "") :
    ∃ response, khqrFromLink {} khqrOutside (linkRequest billNumber hbill) = .ok response :=
  (admitted_returns_iff clockReading_specimen.1 linkRequest_slug).mpr (linkRequest_fits hne)

theorem builders_return_longest :
    (∃ payload, offlinePayload 63 = .ok payload) ∧
      ∃ response, khqrFromLink {} khqrOutside (linkRequest "CHMABA0000000001" (by decide)) =
        .ok response := by
  have hreturns := @builders_return_iff (seconds 1790000000) (seconds 1790000000)
    (seconds 1790000300) shopStore (accountLink 63) offlineRequest "Zk3vQx9TtB7mLw2RyHn5aPcD" {}
    khqrOutside (linkRequest "CHMABA0000000001" (by decide)) "ABAPAYpe518710Y".toList
    "https://link.payway.com.kh/ABAPAYpe518710Y".toList
  constructor
  · unfold offlinePayload
    rw [hreturns.1 (accountLink_accepted (by decide) (by decide)) clockReading_specimen.1
      clockReading_specimen.1 clockReading_specimen.2, length_accountLink]
  · exact (hreturns.2 clockReading_specimen.1 linkRequest_slug).mpr
      (linkRequest_fits (by decide))

/-- An account of 64 characters. -/
theorem builders_raise :
    AcceptedOffline (accountLink 64) offlineRequest "Zk3vQx9TtB7mLw2RyHn5aPcD" ∧
      ¬ ∃ payload, offlinePayload 64 = .ok payload := by
  refine ⟨accountLink_accepted (by decide) (by decide), ?_⟩
  unfold offlinePayload
  rw [accepted_returns_iff (accountLink_accepted (by decide) (by decide)) clockReading_specimen.1
    clockReading_specimen.1 clockReading_specimen.2, length_accountLink]
  decide

end

end ChmabaPay
