import ChmabaPay.Foundation.Fallible
import ChmabaPay.Foundation.Packing
import ChmabaPay.Payments.Elements
import ChmabaPay.Specimen

/-! # What a payload carries

Every element of a payload is read back by the parser, level by level. The private
template is packed against 99 characters of its own and then has to fit, with its header,
into the 99 of tag 62: an optional field that fits the first may cost the whole template.
-/

namespace ChmabaPay

open Calendar Fallible Packing

/-! ## Printed elements -/

/-- The tags the builder prints, on every level. -/
def payloadTags : List String :=
  ["00", "01", "02", "03", "04", "05", "06", "30", "50", "52", "53", "54", "58", "59", "60",
    "62", "63", "99"]

theorem payloadTags_digits : ∀ tag ∈ payloadTags,
    tag.toList.length = 2 ∧ tag.toList.all Char.isDigit = true := by decide

/-- A known tag, and a length that two digits can say. -/
def Printable (part : String × List Char) : Prop :=
  part.1 ∈ payloadTags ∧ part.2.length ≤ 99

def Tagged (parts : List (String × List Char)) : Prop := ∀ part ∈ parts, part.1 ∈ payloadTags

def Short (parts : List (String × List Char)) : Prop := ∀ part ∈ parts, part.2.length ≤ 99

instance (parts : List (String × List Char)) : Decidable (Short parts) :=
  inferInstanceAs (Decidable (∀ part ∈ parts, _))

theorem printable_mk {tag : String} {value : List Char} (htag : tag ∈ payloadTags)
    (hvalue : value.length ≤ 99) : Printable (tag, value) := ⟨htag, hvalue⟩

/-- The characters an element takes. -/
def partWidth (part : String × List Char) : ℕ := 4 + part.2.length

section Printed

variable {part : String × List Char} {parts : List (String × List Char)}

theorem Printable.wellFormed (hpart : Printable part) : WellFormed part :=
  ⟨(payloadTags_digits _ hpart.1).1, (payloadTags_digits _ hpart.1).2, hpart.2⟩

theorem length_element (hpart : Printable part) : (element part).length = partWidth part := by
  obtain ⟨first, second, -, -, -, heq⟩ := hpart.wellFormed.element_eq
  rw [heq, partWidth]
  simp only [List.length_cons]
  omega

theorem length_encode (hparts : ∀ part ∈ parts, Printable part) :
    (encode parts).length = size partWidth parts := by
  induction parts with
  | nil => rfl
  | cons part rest ih =>
      rw [encode, List.flatMap_cons, List.length_append, ← encode,
        length_element (hparts part List.mem_cons_self),
        ih fun other hother => hparts other (List.mem_cons_of_mem _ hother), size_cons]

theorem encode_ne_nil (hparts : ∀ part ∈ parts, Printable part) (hmem : part ∈ parts) :
    encode parts ≠ [] := by
  intro hempty
  have hlength := length_encode hparts
  obtain ⟨first, rest, rfl⟩ := List.exists_cons_of_ne_nil (List.ne_nil_of_mem hmem)
  rw [hempty, size_cons, partWidth] at hlength
  simp only [List.length_nil] at hlength
  omega

theorem parseTlv_printed (hparts : ∀ part ∈ parts, Printable part) :
    parseTlv (encode parts) = parts :=
  parseTlv_encode fun part hpart => (hparts part hpart).wellFormed

theorem printable_of_tagged (htags : Tagged parts) (hshort : Short parts) :
    ∀ part ∈ parts, Printable part := fun part hpart => ⟨htags part hpart, hshort part hpart⟩

theorem encode_append (first second : List (String × List Char)) :
    encode (first ++ second) = encode first ++ encode second := List.flatMap_append

@[simp] theorem encode_singleton : encode [part] = element part := by simp [encode]

end Printed

/-! ## The loops of the builder -/

section Loops

variable {text printed : List Char} {parts : List (String × List Char)}

theorem tlvs_loop : parts.foldlM (fun text part => do
      return text ++ (← tlv part.1 part.2)) text = .ok printed ↔
    Short parts ∧ printed = text ++ encode parts := by
  induction parts generalizing text with
  | nil => simp [encode, Short, pure_eq_ok, eq_comm (a := printed)]
  | cons part rest ih =>
      simp only [List.foldlM_cons, bind_eq_ok, pure_eq_ok, tlv_eq_ok_iff]
      constructor
      · rintro ⟨_, ⟨_, ⟨hshort, rfl⟩, rfl⟩, hrest⟩
        obtain ⟨hall, rfl⟩ := ih.mp hrest
        refine ⟨List.forall_mem_cons.mpr ⟨hshort, hall⟩, ?_⟩
        simp [encode]
      · rintro ⟨hall, rfl⟩
        refine ⟨_, ⟨_, ⟨hall part List.mem_cons_self, rfl⟩, rfl⟩, ih.mpr
          ⟨fun other hother => hall other (List.mem_cons_of_mem _ hother), ?_⟩⟩
        simp [encode]

theorem tlvs_eq_ok_iff : tlvs parts = .ok printed ↔ Short parts ∧ printed = encode parts := by
  rw [tlvs, tlvs_loop, List.nil_append]

/-- The loop over candidate elements takes the ones that greedy packing takes. -/
theorem packFitting_loop {fits : List Char → Bool} (budget : ℕ)
    (hfits : ∀ text, fits text = true ↔ text.length ≤ budget) (htags : Tagged parts) :
    parts.foldlM (packFitting fits) text = .ok printed ↔
      Short parts ∧ printed = text ++ encode (pack partWidth budget text.length parts) := by
  induction parts generalizing text with
  | nil => simp [encode, Short, pack, pure_eq_ok, eq_comm (a := printed)]
  | cons part rest ih =>
      have hrest : Tagged rest := fun other hother => htags other (List.mem_cons_of_mem _ hother)
      have hstep (hpart : Printable part) : encode (pack partWidth budget text.length
          (part :: rest)) = if fits (text ++ element part) then
            element part ++ encode (pack partWidth budget (text ++ element part).length rest)
          else encode (pack partWidth budget text.length rest) := by
        have hwidth : (text ++ element part).length = text.length + partWidth part := by
          rw [List.length_append, length_element hpart]
        rw [pack, hwidth]
        by_cases hroom : text.length + partWidth part ≤ budget
        · rw [if_pos hroom, if_pos ((hfits _).mpr (hwidth ▸ hroom))]
          simp [encode]
        · rw [if_neg hroom, if_neg (fun hfit => hroom (hwidth ▸ (hfits _).mp hfit))]
      simp only [List.foldlM_cons, packFitting, bind_eq_ok, pure_eq_ok, tlv_eq_ok_iff]
      constructor
      · rintro ⟨_, ⟨_, ⟨hshort, rfl⟩, rfl⟩, hloop⟩
        obtain ⟨hall, hprinted⟩ := (ih hrest).mp hloop
        refine ⟨List.forall_mem_cons.mpr ⟨hshort, hall⟩, ?_⟩
        rw [hstep ⟨htags part List.mem_cons_self, hshort⟩, hprinted]
        split <;> simp
      · rintro ⟨hall, rfl⟩
        have hshort := hall part List.mem_cons_self
        refine ⟨_, ⟨_, ⟨hshort, rfl⟩, rfl⟩, (ih hrest).mpr
          ⟨fun other hother => hall other (List.mem_cons_of_mem _ hother), ?_⟩⟩
        rw [hstep ⟨htags part List.mem_cons_self, hshort⟩]
        split <;> simp

theorem packElement_eq_ok_iff (htags : Tagged parts) :
    parts.foldlM packElement [] = .ok printed ↔
      Short parts ∧ printed = encode (pack partWidth 99 0 parts) := by
  rw [packElement, packFitting_loop 99 (fun text => decide_eq_true_iff) htags,
    List.nil_append, List.length_nil]

theorem printable_pack {budget used : ℕ} (htags : Tagged parts) (hshort : Short parts) :
    ∀ part ∈ pack partWidth budget used parts, Printable part := fun part hpart =>
  have hmem := (pack_sublist used parts).subset hpart
  ⟨htags part hmem, hshort part hmem⟩

end Loops

/-! ## The checksum -/

theorem crc16CcittFalse_lt (data : List UInt8) : crc16CcittFalse data < 65536 := by
  have hbit : ∀ crc, crcBit crc < 65536 := by
    intro crc
    unfold crcBit
    split <;> exact Nat.lt_succ_of_le Nat.and_le_right
  have hbyte : ∀ (crc : ℕ) (byte : UInt8), crcBit^[8] (crc ^^^ (byte.toNat <<< 8)) < 65536 := by
    intro crc byte
    rw [Function.iterate_succ_apply']
    exact hbit _
  unfold crc16CcittFalse crc16CcittFalseFrom
  induction data using List.reverseRecOn with
  | nil => decide
  | append_singleton data byte _ =>
      rw [List.foldl_append]
      exact hbyte _ byte

/-- The checksum has four hex digits. -/
theorem length_payloadChecksum (body : List Char) : (payloadChecksum body).length = 4 := by
  have hdigits := Nat.toDigits_length 16 (crc16CcittFalse
    ((body ++ "6304".toList).flatMap String.utf8EncodeChar)) 4 (by omega) (crc16CcittFalse_lt _)
  rw [payloadChecksum, checksumText, List.length_leftpad, List.length_map]
  omega

/-- The checksum is always printed. -/
theorem withChecksum_eq (body : List Char) :
    withChecksum body = .ok (String.ofList (body ++ element ("63", payloadChecksum body))) := by
  have hfield : tlv "63" (payloadChecksum body) = .ok (element ("63", payloadChecksum body)) :=
    tlv_eq_ok_iff.mpr ⟨by rw [length_payloadChecksum]; omega, rfl⟩
  rw [withChecksum, hfield]
  rfl

/-! ## What the builder prints -/

/-- The elements of a payload in front of its checksum. -/
def payloadElements (accountId iso amount name : List Char)
    (t62 window : List (String × List Char)) : List (String × List Char) :=
  emvcoElements (encode (accountParts accountId)) iso amount name (encode t62) ++
    if window = [] then [] else [("99", encode window)]

def printedPayload (elements : List (String × List Char)) : String :=
  String.ofList (encode elements ++ element ("63", payloadChecksum (encode elements)))

theorem tagged_accountParts (accountId : List Char) : Tagged (accountParts accountId) := by
  simp [Tagged, accountParts, payloadTags]

@[simp] theorem validityParts_ne_nil (nowEpoch : Int) : validityParts nowEpoch ≠ [] :=
  List.cons_ne_nil _ _

theorem tagged_validityParts (nowEpoch : Int) : Tagged (validityParts nowEpoch) := by
  simp [Tagged, validityParts, payloadTags]

theorem tagged_payloadElements (accountId iso amount name : List Char)
    (t62 window : List (String × List Char)) :
    Tagged (payloadElements accountId iso amount name t62 window) := by
  unfold Tagged payloadElements emvcoElements payloadTags
  by_cases ht62 : encode t62 = [] <;> by_cases hwindow : window = [] <;> simp [ht62, hwindow]

theorem tagged_privateFields (clientId bill reference : List Char) (nowEpoch expiry : Int) :
    Tagged (privateFields clientId bill reference nowEpoch expiry) := by
  unfold Tagged privateFields payloadTags
  by_cases hclient : clientId = [] <;> by_cases hbill : bill = [] <;> simp [hclient, hbill]

theorem tagged_privateParts (clientId bill : List Char) (nowEpoch expiry : Int) :
    Tagged (privateParts clientId bill nowEpoch expiry) := tagged_privateFields _ _ _ _ _

theorem tagged_additionalParts (inner bill termId : List Char) :
    Tagged (additionalParts inner bill termId) := by
  unfold Tagged additionalParts payloadTags
  by_cases hinner : inner = [] <;> by_cases hbill : bill = [] <;> simp [hinner, hbill]

/-- A payload reads as its elements and the checksum. -/
theorem parseTlv_printedPayload {elements : List (String × List Char)}
    (helements : ∀ part ∈ elements, Printable part) :
    parseTlv (printedPayload elements).toList =
      elements ++ [("63", payloadChecksum (encode elements))] := by
  have hchecksum : Printable ("63", payloadChecksum (encode elements)) :=
    printable_mk (by decide) (by rw [length_payloadChecksum]; omega)
  have hparts : ∀ part ∈ elements ++ [("63", payloadChecksum (encode elements))],
      Printable part :=
    List.forall_mem_append.mpr ⟨helements, by simpa using hchecksum⟩
  rw [printedPayload, String.toList_ofList, ← encode_singleton, ← encode_append,
    parseTlv_printed hparts]

/-- Tag 62 is among the elements where it carries any. -/
theorem mem_payloadElements_iff {accountId iso amount name value checksum : List Char}
    {t62 window : List (String × List Char)} :
    ("62", value) ∈ payloadElements accountId iso amount name t62 window ++
        [("63", checksum)] ↔ value = encode t62 ∧ encode t62 ≠ [] := by
  unfold payloadElements emvcoElements
  by_cases ht62 : encode t62 = [] <;> by_cases hwindow : window = [] <;> simp [ht62, hwindow]

section Build

variable {arithmetic : Arithmetic} {nowDt nowTime expiresAt : Instant} {store : Store}
  {link : PaymentLink} {amountCents : Int} {billNumber payload : String}
  {currency : Option String}

/-- The client id of the link as the builder reads it. -/
def PaymentLink.clientId (link : PaymentLink) : List Char := (link.paywayClientId.getD "").toList

/-- The value of the expiry field. -/
def expiryText (nowDt nowTime expiresAt : Instant) : List Char :=
  integerText (epochSeconds nowTime + ttlSeconds expiresAt nowDt)

/-- The private template, with the optional fields that fit it. -/
def privateTemplate (link : PaymentLink) (bill : List Char) (nowEpoch : Int) (expiry : Int) :
    List (String × List Char) :=
  pack partWidth 99 0 (privateParts link.clientId bill nowEpoch expiry)

/-- The elements of tag 62. -/
def additionalData (inner bill termId : List Char) : List (String × List Char) :=
  pack partWidth 99 0 (additionalParts inner bill termId)

theorem length_terminalId {nowEpoch : Int} : (terminalId nowEpoch).length = 9 := by
  refine length_zeroPadded (by omega) ?_
  omega

/-- The fields of tag 62 are short enough when those of the private template are. -/
theorem additionalParts_short {clientId bill inner : List Char} {nowEpoch expiry : Int}
    (hinner : inner.length ≤ 99) (hprivate : Short (privateParts clientId bill nowEpoch expiry)) :
    Short (additionalParts inner bill (terminalId nowEpoch)) := by
  intro part hpart
  unfold additionalParts at hpart
  rcases List.mem_append.mp hpart with hpart | hpart
  · rcases List.mem_append.mp hpart with hpart | hpart
    · split at hpart
      · rw [List.mem_singleton.mp hpart]
        exact hinner
      · cases hpart
    · split at hpart
      · next hbill =>
        rw [List.mem_singleton.mp hpart]
        refine hprivate ("02", bill) ?_
        rw [privateParts, privateFields, if_pos hbill]
        exact List.mem_append_left _ (List.mem_append_left _ (List.mem_append_left _
          (List.mem_append_right _ List.mem_cons_self)))
      · cases hpart
  · have hterminal : (terminalId nowEpoch).length = 9 := length_terminalId
    rw [List.mem_singleton.mp hpart]
    simp only
    omega

theorem length_encode_pack {parts : List (String × List Char)} (budget : ℕ)
    (htags : Tagged parts) (hshort : Short parts) :
    (encode (pack partWidth budget 0 parts)).length ≤ budget := by
  have hsize : 0 + size partWidth (pack partWidth budget 0 parts) ≤ budget :=
    used_add_size_pack_le (Nat.zero_le budget) parts
  rw [length_encode (printable_pack htags hshort)]
  omega

/-- The elements the builder prints for a payment. -/
def khqrElements (arithmetic : Arithmetic) (nowDt nowTime : Instant) (store : Store)
    (link : PaymentLink) (amountCents : Int) (billNumber : String) (expiresAt : Instant)
    (currency : Option String) : List (String × List Char) :=
  let selected := selectedCurrency currency link
  let nowEpoch := epochSeconds nowTime
  payloadElements link.merchantAccountId.toList (currencyIso selected)
    (amountText arithmetic amountCents (printedCurrency selected)) (displayName store link).toList
    (additionalData (encode (privateTemplate link billNumber.toList nowEpoch
      (nowEpoch + ttlSeconds expiresAt nowDt))) billNumber.toList (terminalId nowEpoch))
    (validityParts nowEpoch)

theorem tagged_khqrElements : Tagged (khqrElements arithmetic nowDt nowTime store link
    amountCents billNumber expiresAt currency) :=
  tagged_payloadElements _ _ _ _ _ _

/-- The builder returns a payload just when the amount can be divided and every element is
short enough, on every level, those of the private template that it leaves out included. -/
theorem buildKhqrPayload_eq_ok_iff :
    buildKhqrPayload arithmetic nowDt nowTime store link amountCents billNumber expiresAt
        currency = .ok payload ↔
      amountOverflows arithmetic amountCents
        (printedCurrency (selectedCurrency currency link)) = false ∧
      Short (privateParts link.clientId billNumber.toList (epochSeconds nowTime)
        (epochSeconds nowTime + ttlSeconds expiresAt nowDt)) ∧
      Short (accountParts link.merchantAccountId.toList) ∧
      Short (validityParts (epochSeconds nowTime)) ∧
      Short (khqrElements arithmetic nowDt nowTime store link amountCents billNumber expiresAt
        currency) ∧
      payload = printedPayload (khqrElements arithmetic nowDt nowTime store link amountCents
        billNumber expiresAt currency) := by
  simp only [buildKhqrPayload, bind_eq_ok, formatAmount_eq_ok_iff, tlvs_eq_ok_iff,
    tlv_eq_ok_iff, withChecksum_eq, packElement_eq_ok_iff (tagged_privateParts _ _ _ _),
    packElement_eq_ok_iff (tagged_additionalParts _ _ _), Except.ok.injEq]
  constructor
  · rintro ⟨amount, ⟨hfinite, hamount⟩, account, ⟨haccount, haccounts⟩, inner, ⟨hprivate, hinner⟩,
      t62, ⟨-, ht62⟩, named, ⟨hnamed, hprinted⟩, validity, ⟨hvalidity, hvalidities⟩, window,
      ⟨hwindow, hwindows⟩, hpayload⟩
    rw [ht62, hinner, haccounts, ← hamount] at hnamed hprinted
    rw [hvalidities] at hwindow hwindows
    rw [← hwindows, hprinted] at hpayload
    refine ⟨hfinite, hprivate, haccount, hvalidity, ?_, hpayload.symm.trans ?_⟩
    · exact List.forall_mem_append.mpr ⟨hnamed, by simpa using hwindow⟩
    · simp only [printedPayload, khqrElements, payloadElements, validityParts_ne_nil, if_false,
        encode_append, encode_singleton]
      rfl
  · rintro ⟨hfinite, hprivate, haccount, hvalidity, helements, hpayload⟩
    subst hpayload
    obtain ⟨hnamed, hwindow⟩ := List.forall_mem_append.mp helements
    have hinner := length_encode_pack 99 (tagged_privateParts _ _ _ _) hprivate
    refine ⟨_, ⟨hfinite, rfl⟩, _, ⟨haccount, rfl⟩, _, ⟨hprivate, rfl⟩, _,
      ⟨additionalParts_short hinner hprivate, rfl⟩, _, ⟨hnamed, rfl⟩, _, ⟨hvalidity, rfl⟩, _,
      ⟨by simpa using hwindow, rfl⟩, ?_⟩
    simp only [printedPayload, khqrElements, payloadElements, validityParts_ne_nil, if_false,
      encode_append, encode_singleton]
    rfl

/-- A payload reads as its elements, tag 62 among them where it carries any; what stands in
tag 62 and in its private template is what greedy packing takes. -/
theorem parseTlv_buildKhqrPayload
    (hbuild : buildKhqrPayload arithmetic nowDt nowTime store link amountCents billNumber
      expiresAt currency = .ok payload) :
    ∃ inner t62, inner = pack partWidth 99 0 (privateParts link.clientId billNumber.toList
        (epochSeconds nowTime) (epochSeconds nowTime + ttlSeconds expiresAt nowDt)) ∧
      t62 = pack partWidth 99 0
        (additionalParts (encode inner) billNumber.toList (terminalId (epochSeconds nowTime))) ∧
      (∀ part ∈ inner, Printable part) ∧ (∀ part ∈ t62, Printable part) ∧
      ∀ value, ("62", value) ∈ parseTlv payload.toList ↔
        value = encode t62 ∧ encode t62 ≠ [] := by
  obtain ⟨-, hprivate, -, -, helements, rfl⟩ := buildKhqrPayload_eq_ok_iff.mp hbuild
  have hinner := length_encode_pack 99 (tagged_privateParts _ _ _ _) hprivate
  refine ⟨_, _, rfl, rfl, printable_pack (tagged_privateParts _ _ _ _) hprivate,
    printable_pack (tagged_additionalParts _ _ _) (additionalParts_short hinner hprivate),
    fun value => ?_⟩
  rw [parseTlv_printedPayload (printable_of_tagged tagged_khqrElements helements)]
  exact mem_payloadElements_iff

end Build

/-! ## The required fields -/

/-- Bill, reference and expiry are found in subtag 50 of tag 62. -/
def CarriesRequired (payload : String) (bill expiry : List Char) : Prop :=
  ∃ t62 inner, ("62", t62) ∈ parseTlv payload.toList ∧ ("50", inner) ∈ parseTlv t62 ∧
    ("02", bill) ∈ parseTlv inner ∧ ("06", bill) ∈ parseTlv inner ∧
    ("05", expiry) ∈ parseTlv inner

/-- The characters the required fields take, with the name of the network for a link that
has a client id. -/
def requiredWidth (clientId bill expiry : List Char) : ℕ :=
  (if clientId ≠ [] then 14 else 0) + 2 * (4 + bill.length) + (4 + expiry.length)

/-- The characters used once the client id stands behind them, where it fits. -/
def clientWidth (clientId : List Char) (required : ℕ) : ℕ :=
  if clientId ≠ [] ∧ required + (4 + clientId.length) ≤ 99 then
    required + (4 + clientId.length)
  else required

/-- The terminal and the timestamp, as far as they fit the template behind what is used,
leave it small enough for tag 62. -/
def OptionalLeaveRoom (used terminal timestamp : ℕ) : Prop :=
  if used + terminal + timestamp ≤ 99 then used + terminal + timestamp ≤ 95
  else if used + terminal ≤ 99 then used + terminal ≤ 95
  else if used + timestamp ≤ 99 then used + timestamp ≤ 95
  else used ≤ 95

instance (used terminal timestamp : ℕ) :
    Decidable (OptionalLeaveRoom used terminal timestamp) :=
  inferInstanceAs (Decidable (ite _ _ (ite _ _ (ite _ _ _))))

section Required

variable {clientId bill : List Char} {nowEpoch expiry : Int}

def requiredParts (clientId bill : List Char) (expiry : Int) : List (String × List Char) :=
  (if clientId ≠ [] then [("00", "PAYWAY@ABA".toList)] else []) ++
    [("02", bill), ("06", bill), ("05", integerText expiry)]

def optionalParts (clientId : List Char) (nowEpoch : Int) : List (String × List Char) :=
  (if clientId ≠ [] then [("01", clientId)] else []) ++
    [("03", terminalId nowEpoch), ("04", integerText nowEpoch)]

theorem privateParts_eq (hbill : bill ≠ []) :
    privateParts clientId bill nowEpoch expiry =
      requiredParts clientId bill expiry ++ optionalParts clientId nowEpoch := by
  unfold privateParts privateFields requiredParts optionalParts
  rw [if_pos hbill]
  simp only [List.append_assoc, List.cons_append, List.nil_append]

theorem size_requiredParts :
    size partWidth (requiredParts clientId bill expiry) =
      requiredWidth clientId bill (integerText expiry) := by
  unfold requiredParts requiredWidth
  split
  · simp only [size_append, size_cons, size_nil, partWidth]
    have hnetwork : "PAYWAY@ABA".toList.length = 10 := by decide
    omega
  · simp only [size_append, size_cons, size_nil, partWidth]
    omega

/-- The required fields come first, and the optional ones fill what is left of 99. -/
theorem template_eq (hbill : bill ≠ [])
    (hfits : requiredWidth clientId bill (integerText expiry) ≤ 99) :
    pack partWidth 99 0 (privateParts clientId bill nowEpoch expiry) =
      requiredParts clientId bill expiry ++
        pack partWidth 99 (requiredWidth clientId bill (integerText expiry))
          (optionalParts clientId nowEpoch) := by
  rw [privateParts_eq hbill, pack_append (by rw [size_requiredParts]; omega), size_requiredParts,
    Nat.zero_add]

/-- Two fields behind what is used: both, the first, the second or neither are taken. -/
theorem size_pack_pair_le_iff {first second : String × List Char} {used : ℕ} :
    used + size partWidth (pack partWidth 99 used [first, second]) ≤ 95 ↔
      OptionalLeaveRoom used (partWidth first) (partWidth second) := by
  unfold OptionalLeaveRoom
  by_cases hfirst : used + partWidth first ≤ 99
  · by_cases hsecond : used + partWidth first + partWidth second ≤ 99
    · simp only [pack, hfirst, hsecond, if_true, size_cons, size_nil]
      omega
    · simp only [pack, hfirst, hsecond, if_true, if_false, size_cons, size_nil]
      omega
  · have hboth : ¬ used + partWidth first + partWidth second ≤ 99 := by omega
    by_cases hsecond : used + partWidth second ≤ 99
    · simp only [pack, hfirst, hboth, hsecond, if_true, if_false, size_cons, size_nil]
      omega
    · simp only [pack, hfirst, hboth, hsecond, if_false, size_nil]
      omega

/-- The client id is taken or left out, and the other two follow it. -/
theorem size_pack_optionalParts {required : ℕ} :
    required + size partWidth (pack partWidth 99 required (optionalParts clientId nowEpoch)) =
      clientWidth clientId required + size partWidth (pack partWidth 99
        (clientWidth clientId required)
        [("03", terminalId nowEpoch), ("04", integerText nowEpoch)]) := by
  have hwidth : partWidth ("01", clientId) = 4 + clientId.length := rfl
  unfold optionalParts clientWidth
  by_cases hnone : clientId = []
  · simp only [hnone, ne_eq, not_true_eq_false, false_and, if_false, List.nil_append]
  · by_cases hroom : required + (4 + clientId.length) ≤ 99
    · simp only [ne_eq, hnone, not_false_eq_true, hroom, and_self, if_true, List.cons_append,
        List.nil_append]
      rw [pack_cons_of_le (by rw [hwidth]; exact hroom), size_cons, hwidth]
      omega
    · simp only [ne_eq, hnone, not_false_eq_true, hroom, and_false, if_true, if_false,
        List.cons_append, List.nil_append]
      rw [pack_cons_of_lt (by rw [hwidth]; omega)]

theorem size_template_le_iff (hbill : bill ≠ [])
    (hfits : requiredWidth clientId bill (integerText expiry) ≤ 99) :
    size partWidth (pack partWidth 99 0 (privateParts clientId bill nowEpoch expiry)) ≤ 95 ↔
      OptionalLeaveRoom
        (clientWidth clientId (requiredWidth clientId bill (integerText expiry))) 13
        (4 + (integerText nowEpoch).length) := by
  have hterminal : partWidth ("03", terminalId nowEpoch) = 13 := by
    unfold partWidth
    rw [length_terminalId]
  rw [template_eq hbill hfits, size_append, size_requiredParts, size_pack_optionalParts,
    size_pack_pair_le_iff, hterminal]
  rfl

end Required

section Payload

variable {arithmetic : Arithmetic} {nowDt nowTime expiresAt : Instant} {store : Store}
  {link : PaymentLink} {amountCents : Int} {billNumber payload : String}
  {currency : Option String}

/-- The template stands first in tag 62, where it fits with its header. -/
theorem mem_additional_iff {inner bill termId value : List Char} :
    ("50", value) ∈ pack partWidth 99 0 (additionalParts inner bill termId) ↔
      value = inner ∧ inner ≠ [] ∧ inner.length ≤ 95 := by
  have hwidth : partWidth ("50", inner) = 4 + inner.length := rfl
  have hrest : ∀ used, ("50", value) ∉ pack partWidth 99 used
      ((if bill ≠ [] then [("01", bill)] else []) ++ [("03", termId)]) := by
    intro used hmem
    have hparts := (pack_sublist used _).subset hmem
    split at hparts <;> simp at hparts
  unfold additionalParts
  by_cases hempty : inner = []
  · simp only [hempty, ne_eq, not_true_eq_false, if_false, List.nil_append, false_and, and_false,
      iff_false]
    exact hrest 0
  · rw [if_pos hempty, List.append_assoc, List.singleton_append]
    by_cases hroom : 0 + partWidth ("50", inner) ≤ 99
    · rw [pack_cons_of_le hroom, List.mem_cons]
      have hshort : inner.length ≤ 95 := by omega
      constructor
      · rintro (heq | hmem)
        · exact ⟨(Prod.mk.inj heq).2, hempty, hshort⟩
        · exact absurd hmem (hrest _)
      · rintro ⟨rfl, -, -⟩
        exact .inl rfl
    · rw [pack_cons_of_lt (by omega)]
      refine iff_of_false (hrest 0) ?_
      rintro ⟨-, -, hshort⟩
      omega

/-- A payload carries its required fields where the optional ones leave the template room. -/
theorem carriesRequired_of_leaveRoom
    (hbuild : buildKhqrPayload arithmetic nowDt nowTime store link amountCents billNumber
      expiresAt currency = .ok payload)
    (hfits : requiredWidth link.clientId billNumber.toList
      (expiryText nowDt nowTime expiresAt) + 4 ≤ 99)
    (hbill : billNumber.toList ≠ [])
    (hroom : OptionalLeaveRoom (clientWidth link.clientId
      (requiredWidth link.clientId billNumber.toList (expiryText nowDt nowTime expiresAt)))
      13 (4 + (integerText (epochSeconds nowTime)).length)) :
    CarriesRequired payload billNumber.toList (expiryText nowDt nowTime expiresAt) := by
  obtain ⟨inner, t62, hinner, ht62, hprivate, hadditional, hread⟩ :=
    parseTlv_buildKhqrPayload hbuild
  have hlength : (encode inner).length = size partWidth inner := length_encode hprivate
  have hsize := (size_template_le_iff hbill (by unfold expiryText at hfits; omega)).mpr hroom
  rw [← hinner, ← hlength] at hsize
  have hrequired : ∀ part ∈ requiredParts link.clientId billNumber.toList
      (epochSeconds nowTime + ttlSeconds expiresAt nowDt), part ∈ inner := by
    intro part hpart
    rw [hinner, template_eq hbill (by unfold expiryText at hfits; omega)]
    exact List.mem_append_left _ hpart
  have htemplate : ("50", encode inner) ∈ t62 := by
    rw [ht62]
    exact mem_additional_iff.mpr ⟨rfl, encode_ne_nil hprivate
      (hrequired _ (List.mem_append_right _ List.mem_cons_self)), hsize⟩
  refine ⟨encode t62, encode inner, (hread _).mpr ⟨rfl, encode_ne_nil hadditional htemplate⟩,
    ?_, ?_, ?_, ?_⟩
  · rw [parseTlv_printed hadditional]
    exact htemplate
  all_goals
    rw [parseTlv_printed hprivate]
    refine hrequired _ (List.mem_append_right _ ?_)
    simp only [List.mem_cons, expiryText, true_or, or_true]

/-- A payload that carries them has a bill number, and its template left room. -/
theorem leaveRoom_of_carriesRequired
    (hbuild : buildKhqrPayload arithmetic nowDt nowTime store link amountCents billNumber
      expiresAt currency = .ok payload)
    (hfits : requiredWidth link.clientId billNumber.toList
      (expiryText nowDt nowTime expiresAt) + 4 ≤ 99)
    (hcarries : CarriesRequired payload billNumber.toList
      (expiryText nowDt nowTime expiresAt)) :
    billNumber.toList ≠ [] ∧ OptionalLeaveRoom (clientWidth link.clientId
      (requiredWidth link.clientId billNumber.toList (expiryText nowDt nowTime expiresAt)))
      13 (4 + (integerText (epochSeconds nowTime)).length) := by
  obtain ⟨inner, t62, hinner, ht62, hprivate, hadditional, hread⟩ :=
    parseTlv_buildKhqrPayload hbuild
  obtain ⟨_, value, hfield, htemplate, hbillField, -, -⟩ := hcarries
  obtain ⟨rfl, -⟩ := (hread _).mp hfield
  rw [parseTlv_printed hadditional, ht62, mem_additional_iff] at htemplate
  obtain ⟨rfl, -, hshort⟩ := htemplate
  rw [parseTlv_printed hprivate, hinner] at hbillField
  have hbill : billNumber.toList ≠ [] := by
    intro hempty
    have hparts := (pack_sublist _ _).subset hbillField
    rw [hempty] at hparts
    unfold privateParts privateFields at hparts
    split at hparts <;> simp at hparts
  rw [length_encode hprivate, hinner] at hshort
  exact ⟨hbill, (size_template_le_iff hbill (by unfold expiryText at hfits; omega)).mp hshort⟩

theorem length_integerText {number : Int} (hlow : 1000000000 ≤ number)
    (hhigh : number < 10000000000) : (integerText number).length = 10 := by
  unfold integerText
  rw [if_neg (by omega)]
  have hupper : (Nat.toDigits 10 number.natAbs).length ≤ 10 :=
    Nat.toDigits_length 10 _ 10 (by omega) (by omega)
  have hlower : ¬ (Nat.toDigits 10 number.natAbs).length ≤ 9 := by
    rw [Nat.length_toDigits_le_iff (by omega) (by omega)]
    omega
  omega

/-- With clock readings of ten digits, as they are now, a public id of 24 characters never
stays in the payload of a link without a client id. -/
theorem public_id_pushed_out
    (hbuild : buildKhqrPayload arithmetic nowDt nowTime store link amountCents billNumber
      expiresAt currency = .ok payload)
    (hbill : billNumber.toList.length = 24) (hclient : link.clientId = [])
    (hnow : 1000000000 ≤ epochSeconds nowTime)
    (hexpiry : epochSeconds nowTime + ttlSeconds expiresAt nowDt < 10000000000) :
    ¬ CarriesRequired payload billNumber.toList (expiryText nowDt nowTime expiresAt) := by
  have hpositive : 1 ≤ ttlSeconds expiresAt nowDt := le_max_left _ _
  have hexpiryLength : (expiryText nowDt nowTime expiresAt).length = 10 :=
    length_integerText (by omega) hexpiry
  have hwidth : requiredWidth link.clientId billNumber.toList
      (expiryText nowDt nowTime expiresAt) = 70 := by
    simp [requiredWidth, hclient, hbill, hexpiryLength]
  intro hcarries
  obtain ⟨-, hroom⟩ := leaveRoom_of_carriesRequired hbuild (by omega) hcarries
  rw [hwidth, hclient, length_integerText hnow (by omega)] at hroom
  exact absurd hroom (by decide)

end Payload

/-! ## When a payload is built -/

theorem length_encode_accountParts {accountId : List Char}
    (hshort : Short (accountParts accountId)) :
    (encode (accountParts accountId)).length = 36 + accountId.length := by
  rw [length_encode (printable_of_tagged (tagged_accountParts accountId) hshort)]
  have hswitch : "abaakhppxxx@abaa".toList.length = 16 := by decide
  have hbank : "ABA Bank".toList.length = 8 := by decide
  simp only [accountParts, size_cons, size_nil, partWidth, hswitch, hbank]
  omega

/-- The template of an account of up to 63 characters can be printed. -/
theorem account_short_iff {accountId : List Char} :
    Short (accountParts accountId) ∧ (encode (accountParts accountId)).length ≤ 99 ↔
      accountId.length ≤ 63 := by
  have hswitch : "abaakhppxxx@abaa".toList.length = 16 := by decide
  have hbank : "ABA Bank".toList.length = 8 := by decide
  constructor
  · rintro ⟨hshort, hlength⟩
    rw [length_encode_accountParts hshort] at hlength
    omega
  · intro hlength
    have hshort : Short (accountParts accountId) := by
      simp only [Short, accountParts, List.forall_mem_cons, List.not_mem_nil, false_imp_iff,
        implies_true, and_true, hswitch, hbank]
      omega
    refine ⟨hshort, ?_⟩
    rw [length_encode_accountParts hshort]
    omega

/-- The elements around the templates that are not of a fixed length. -/
theorem short_payloadElements_iff {accountId iso amount name : List Char}
    {t62 window : List (String × List Char)} :
    Short (payloadElements accountId iso amount name t62 window) ↔
      (encode (accountParts accountId)).length ≤ 99 ∧ iso.length ≤ 99 ∧ amount.length ≤ 99 ∧
        (encode t62).length ≤ 99 ∧ (encode window).length ≤ 99 := by
  have hname : (name.take 99).length ≤ 99 := List.length_take_le _ _
  obtain ⟨hformat, hinitiation, hcategory, hcountry, hcity⟩ :
      "01".toList.length ≤ 99 ∧ "12".toList.length ≤ 99 ∧ "8999".toList.length ≤ 99 ∧
        "KH".toList.length ≤ 99 ∧ "N/A".toList.length ≤ 99 := by decide
  have ht62 : Short (if encode t62 ≠ [] then [("62", encode t62)] else []) ↔
      (encode t62).length ≤ 99 := by
    by_cases hempty : encode t62 = [] <;> simp [Short, hempty]
  have hwindow : Short (if window = [] then [] else [("99", encode window)]) ↔
      (encode window).length ≤ 99 := by
    by_cases hempty : window = []
    · simp [Short, hempty, encode]
    · simp [Short, hempty]
  unfold Short at ht62 hwindow ⊢
  unfold payloadElements emvcoElements
  rw [List.forall_mem_append, List.forall_mem_append, ht62, hwindow]
  simp only [List.forall_mem_cons, List.not_mem_nil, false_imp_iff, implies_true, and_true]
  constructor
  · rintro ⟨⟨⟨-, -, haccount, -, hiso, hamount, -⟩, hadditional⟩, hvalidity⟩
    exact ⟨haccount, hiso, hamount, hadditional, hvalidity⟩
  · rintro ⟨haccount, hiso, hamount, hadditional, hvalidity⟩
    exact ⟨⟨⟨hformat, hinitiation, haccount, hcategory, hiso, hamount, hcountry, hname, hcity⟩,
      hadditional⟩, hvalidity⟩

section Returns

variable {arithmetic : Arithmetic} {nowDt nowTime expiresAt : Instant} {store : Store}
  {link : PaymentLink} {amountCents : Int} {billNumber : String} {currency : Option String}

/-- A payload is built just when the amount can be divided and the fields of every level are
short enough. -/
theorem buildKhqrPayload_returns_iff :
    (∃ payload, buildKhqrPayload arithmetic nowDt nowTime store link amountCents billNumber
      expiresAt currency = .ok payload) ↔
      amountOverflows arithmetic amountCents
        (printedCurrency (selectedCurrency currency link)) = false ∧
      Short (privateParts link.clientId billNumber.toList (epochSeconds nowTime)
        (epochSeconds nowTime + ttlSeconds expiresAt nowDt)) ∧
      link.merchantAccountId.toList.length ≤ 63 ∧
      (Short (validityParts (epochSeconds nowTime)) ∧
        (encode (validityParts (epochSeconds nowTime))).length ≤ 99) ∧
      (currencyIso (selectedCurrency currency link)).length ≤ 99 ∧
      (amountText arithmetic amountCents
        (printedCurrency (selectedCurrency currency link))).length ≤ 99 := by
  simp only [buildKhqrPayload_eq_ok_iff, exists_and_left, exists_eq, and_true, khqrElements,
    short_payloadElements_iff, ← account_short_iff]
  constructor
  · rintro ⟨hfinite, hprivate, haccount, hvalidity, htemplate, hiso, hamount, -, hwindow⟩
    exact ⟨hfinite, hprivate, ⟨haccount, htemplate⟩, ⟨hvalidity, hwindow⟩, hiso, hamount⟩
  · rintro ⟨hfinite, hprivate, ⟨haccount, htemplate⟩, ⟨hvalidity, hwindow⟩, hiso, hamount⟩
    have hinner := length_encode_pack 99 (tagged_privateParts _ _ _ _) hprivate
    exact ⟨hfinite, hprivate, haccount, hvalidity, htemplate, hiso, hamount,
      length_encode_pack 99 (tagged_additionalParts _ _ _) (additionalParts_short hinner hprivate),
      hwindow⟩

end Returns

/-! ## Every payload -/

/-- Where the required fields fit tag 62 with their header, the payload carries them just
when there is a bill number and the optional fields leave the template room. -/
theorem required_fields_carried_iff {arithmetic : Arithmetic}
    {nowDt nowTime expiresAt : Instant} {store : Store} {link : PaymentLink} {amountCents : Int}
    {billNumber payload : String} {currency : Option String}
    (hbuild : buildKhqrPayload arithmetic nowDt nowTime store link amountCents billNumber
      expiresAt currency = .ok payload)
    (hfits : requiredWidth link.clientId billNumber.toList
      (expiryText nowDt nowTime expiresAt) + 4 ≤ 99) :
    CarriesRequired payload billNumber.toList (expiryText nowDt nowTime expiresAt) ↔
      billNumber.toList ≠ [] ∧ OptionalLeaveRoom (clientWidth link.clientId
        (requiredWidth link.clientId billNumber.toList (expiryText nowDt nowTime expiresAt)))
        13 (4 + (integerText (epochSeconds nowTime)).length) := by
  constructor
  · exact leaveRoom_of_carriesRequired hbuild hfits
  · rintro ⟨hbill, hroom⟩
    exact carriesRequired_of_leaveRoom hbuild hfits hbill hroom

/-- The shop's code for five dollars and five minutes, on the dollar link. -/
def Specimen.payloadFor (billNumber : String) : Except KhqrError String :=
  buildKhqrPayload .doubles (seconds 1790000000) (seconds 1790000000) shopStore (link 1) 500
    billNumber (seconds 1790000300) none

theorem required_fields_carried_short :
    ∃ payload, Specimen.payloadFor "CHMABA0000000001" = .ok payload ∧
      CarriesRequired payload "CHMABA0000000001".toList "1790000300".toList := by
  obtain ⟨payload, hbuild⟩ : ∃ payload, Specimen.payloadFor "CHMABA0000000001" = .ok payload :=
    buildKhqrPayload_returns_iff.mpr (by decide +kernel)
  exact ⟨payload, hbuild, (required_fields_carried_iff hbuild (by decide +kernel)).mpr
    (by decide +kernel)⟩

/-- A public id as it is drawn, on a link without a client id. -/
theorem required_fields_dropped :
    ∃ payload, Specimen.payloadFor "Zk3vQx9TtB7mLw2RyHn5aPcD" = .ok payload ∧
      requiredWidth (Specimen.link 1).clientId "Zk3vQx9TtB7mLw2RyHn5aPcD".toList
        "1790000300".toList + 4 ≤ 99 ∧
      ¬ CarriesRequired payload "Zk3vQx9TtB7mLw2RyHn5aPcD".toList "1790000300".toList := by
  obtain ⟨payload, hbuild⟩ :
      ∃ payload, Specimen.payloadFor "Zk3vQx9TtB7mLw2RyHn5aPcD" = .ok payload :=
    buildKhqrPayload_returns_iff.mpr (by decide +kernel)
  exact ⟨payload, hbuild, by decide +kernel, public_id_pushed_out hbuild (by decide +kernel)
    (by decide +kernel) (by decide +kernel) (by decide +kernel)⟩

end ChmabaPay
