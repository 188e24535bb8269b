import ChmabaPay.Accounts.Cookies
import ChmabaPay.Payments.Arguments
import ChmabaPay.Security

/-! # What a signature proves

A header is read back as it was written: it verifies for the body and the secret it was made
with, while it is not too old, and for another body or secret only where the codes agree. A header
that verifies, whoever wrote it, holds the code of the body in a second that is near.
-/

namespace ChmabaPay

open Base64 Encodings Relational

section Header

variable (hmac : Hmac)

theorem hexCodes_plain {char : Char} (hchar : char ∈ Sha256.hexCodes) :
    char ≠ ',' ∧ isPythonSpace char = false ∧ char.toNat < 128 := by
  have hall : (Sha256.hexCodes.all fun char => decide (char ≠ ',') && !isPythonSpace char &&
      decide (char.toNat < 128)) = true := by decide
  simpa [and_assoc] using List.all_eq_true.mp hall char hchar

theorem isDigit_plain {char : Char} (hdigit : char.isDigit = true) :
    char ≠ ',' ∧ isPythonSpace char = false := by
  refine ⟨?_, isDecimal_not_space ?_⟩
  · rintro rfl
    exact absurd hdigit (by decide)
  · rw [Digits.isDecimal, Digits.decimal?_of_isDigit hdigit]
    rfl

/-- A chunk that is a name and a value without blanks. -/
theorem headerPart_append {name value : List Char} (hname : '=' ∉ name)
    (hnameBlank : pythonStrip name = name) (hvalue : pythonStrip value = value) :
    headerPart (name ++ '=' :: value) = some (name, value) := by
  have hother : ∀ char ∈ name, decide (char ≠ '=') = true := by
    intro char hchar
    refine decide_eq_true ?_
    rintro rfl
    exact hname hchar
  have htake : (name ++ '=' :: value).takeWhile (· ≠ '=') = name := by
    rw [List.takeWhile_append_of_pos hother]
    simp
  have hdrop : (name ++ '=' :: value).dropWhile (· ≠ '=') = '=' :: value := by
    rw [List.dropWhile_append_of_pos hother]
    simp
  rw [headerPart, if_pos (by simp), htake, hdrop, hnameBlank, List.drop_succ_cons, List.drop_zero,
    hvalue]

theorem pythonStrip_of_forall {text : List Char}
    (htext : ∀ char ∈ text, isPythonSpace char = false) : pythonStrip text = text :=
  pythonStrip_eq_self (fun char hchar => htext char (List.mem_of_mem_head? hchar))
    fun char hchar => htext char (List.mem_of_getLast? hchar)

/-- The two parts of a header, as they were written. -/
theorem parts_signatureHeader (payload : List Byte) (secret : List Char) (t : ℕ) :
    ((signatureHeader hmac payload secret t).splitOn ',').filterMap headerPart =
      [(['t'], Nat.toDigits 10 t), (['v', '1'], signPayload hmac payload secret t)] := by
  have hdigits := Numerals.all_isDigit_toDigits t
  have hfirst : ',' ∉ ['t', '='] ++ Nat.toDigits 10 t := by
    simp only [List.mem_append, List.mem_cons, List.not_mem_nil, or_false]
    rintro ((heq | heq) | hmem)
    · cases heq
    · cases heq
    · exact (isDigit_plain (hdigits _ hmem)).1 rfl
  have hsecond : ',' ∉ ['v', '1', '='] ++ signPayload hmac payload secret t := by
    simp only [List.mem_append, List.mem_cons, List.not_mem_nil, or_false]
    rintro ((heq | heq | heq) | hmem)
    · cases heq
    · cases heq
    · cases heq
    · exact (hexCodes_plain (hmac.hex _ _ _ hmem)).1 rfl
  have hstamp : pythonStrip (Nat.toDigits 10 t) = Nat.toDigits 10 t :=
    pythonStrip_of_forall fun char hchar => (isDigit_plain (hdigits char hchar)).2
  have hcode : pythonStrip (signPayload hmac payload secret t) =
      signPayload hmac payload secret t :=
    pythonStrip_of_forall fun char hchar => (hexCodes_plain (hmac.hex _ _ char hchar)).2.1
  have hprint : Json.printInt (t : ℤ) = Nat.toDigits 10 t := by simp [Json.printInt]
  rw [signatureHeader, hprint, List.splitOn_append_cons_self_of_not_mem hfirst,
    List.splitOn_eq_singleton hsecond]
  have hleft : headerPart (['t', '='] ++ Nat.toDigits 10 t) =
      some (['t'], Nat.toDigits 10 t) :=
    @headerPart_append ['t'] (Nat.toDigits 10 t) (by decide) (by decide) hstamp
  have hright : headerPart (['v', '1', '='] ++ signPayload hmac payload secret t) =
      some (['v', '1'], signPayload hmac payload secret t) :=
    @headerPart_append ['v', '1'] (signPayload hmac payload secret t) (by decide) (by decide) hcode
  have hchunks : [['t', '='] ++ Nat.toDigits 10 t,
      ['v', '1', '='] ++ signPayload hmac payload secret t].filterMap headerPart =
        [(['t'], Nat.toDigits 10 t), (['v', '1'], signPayload hmac payload secret t)] := by
    rw [List.filterMap_cons, hleft, List.filterMap_cons, hright, List.filterMap_nil]
  exact hchunks

theorem headerValue_signatureHeader (payload : List Byte) (secret : List Char) (t : ℕ) :
    headerValue (signatureHeader hmac payload secret t) ['t'] = some (Nat.toDigits 10 t) ∧
      headerValue (signatureHeader hmac payload secret t) ['v', '1'] =
        some (signPayload hmac payload secret t) := by
  unfold headerValue
  rw [parts_signatureHeader]
  exact ⟨rfl, rfl⟩

/-- A second that a float holds has few digits. -/
theorem length_le_of_lt_floatLimit {t : ℕ} (hfloat : t < floatLimit) :
    (Nat.toDigits 10 t).length ≤ maxStrDigits := by
  rw [Nat.length_toDigits_le_iff (by decide) (by decide)]
  obtain ⟨exponent, hexponent, hlimit⟩ : ∃ exponent ≤ maxStrDigits, floatLimit ≤ 2 ^ exponent :=
    ⟨1024, by decide, Nat.sub_le _ _⟩
  calc t < floatLimit := hfloat
    _ ≤ 2 ^ exponent := hlimit
    _ ≤ 10 ^ exponent := Nat.pow_le_pow_left (by decide) exponent
    _ ≤ 10 ^ maxStrDigits := Nat.pow_le_pow_right (by decide) hexponent

/-- A header that verifies has both parts, a second that is near and the code of the body. -/
theorem verifySignature_eq_true {payload : List Byte} {secret header : List Char} {now : ℚ}
    {maxAgeSeconds : ℕ}
    (hverify : verifySignature hmac payload secret header now maxAgeSeconds = .ok true) :
    ∃ tRaw t, headerValue header ['t'] = some tRaw ∧ pythonInt tRaw = some t ∧
      |now - t| ≤ maxAgeSeconds ∧
      headerValue header ['v', '1'] = some (signPayload hmac payload secret t) := by
  unfold verifySignature at hverify
  split at hverify
  next tRaw v1 hstamp hcode =>
    split at hverify
    · cases hverify
    · split at hverify
      · cases hverify
      · next t hread =>
        split at hverify
        · cases hverify
        split at hverify
        · cases hverify
        · next hage =>
          split at hverify
          · have hsame := of_decide_eq_true (Except.ok.inj hverify)
            exact ⟨tRaw, t, hstamp, hread, not_lt.mp hage, hsame ▸ hcode⟩
          · cases hverify
  next => cases hverify

end Header

/-- The header of a delivery verifies, for a body and a secret, exactly while it is not too old
and where their code is the one it was made with. A header that verifies, whoever wrote it, states
a second that is near and the code of the body in that second. -/
theorem signature_verified_iff (hmac : Hmac) (payload : List Byte) (secret : List Char)
    (now : ℚ) (maxAgeSeconds : ℕ) :
    (∀ (signedPayload : List Byte) (signedSecret : List Char) (t : ℕ),
      t < floatLimit →
      verifySignature hmac payload secret (signatureHeader hmac signedPayload signedSecret t) now
          maxAgeSeconds =
        .ok (decide (|now - t| ≤ maxAgeSeconds ∧
          signPayload hmac payload secret t = signPayload hmac signedPayload signedSecret t))) ∧
    ∀ header, verifySignature hmac payload secret header now maxAgeSeconds = .ok true →
      ∃ tRaw t, headerValue header ['t'] = some tRaw ∧ pythonInt tRaw = some t ∧
        |now - t| ≤ maxAgeSeconds ∧
        headerValue header ['v', '1'] = some (signPayload hmac payload secret t) := by
  constructor
  · intro signedPayload signedSecret t hfloat
    obtain ⟨hstamp, hcode⟩ := headerValue_signatureHeader hmac signedPayload signedSecret t
    -- a code is ASCII, so the comparison does not raise
    have hascii : ((signPayload hmac signedPayload signedSecret t).all fun char =>
        decide (char.toNat < 128)) = true := by
      rw [List.all_eq_true]
      intro char hchar
      exact decide_eq_true (hexCodes_plain (hmac.hex _ _ char hchar)).2.2
    have hstated : ¬ (Nat.toDigits 10 t = [] ∨
        signPayload hmac signedPayload signedSecret t = []) := by
      rintro (hnil | hnil)
      · exact Nat.toDigits_ne_nil hnil
      · exact hmac.nonempty _ _ hnil
    have hread : pythonInt (Nat.toDigits 10 t) = some (t : ℤ) := by
      rw [pythonInt_toDigits, if_neg (not_lt.mpr (length_le_of_lt_floatLimit hfloat))]
    simp only [verifySignature, hstamp, hcode, if_neg hstated, hread, Int.cast_natCast,
      Int.natAbs_natCast, if_neg (not_le.mpr hfloat)]
    by_cases hage : (maxAgeSeconds : ℚ) < |now - t|
    · rw [if_pos hage, decide_eq_false fun hboth => not_le.mpr hage hboth.1]
    · rw [if_neg hage, if_pos hascii]
      simp [not_lt.mp hage]
  · exact fun header hverify => verifySignature_eq_true hmac hverify

namespace Specimen

def signedBody : List Byte := Encodings.encode "evt_1".toList

def forgedBody : List Byte := Encodings.encode "evt_2".toList

/-- The parts the other way round, with blanks around them and a sign. -/
def respelledHeader : List Char :=
  ("v1 = 38dbf09892c165f42f6544ebf991e734a4fe3a07037e461a104779c20f05ce80, " ++
    "t = +1700000000").toList

end Specimen

/-- A signed body is taken within five minutes, another body is not, and a header that somebody
has respelled states the second and the code all the same. -/
theorem signature_verified_iff_respelled :
    let secret := "whsec_a".toList
    let signed := signatureHeader hmacSha256 Specimen.signedBody secret 1700000000
    verifySignature hmacSha256 Specimen.signedBody secret signed 1700000300 300 = .ok true ∧
    verifySignature hmacSha256 Specimen.forgedBody secret signed 1700000300 300 = .ok false ∧
    ∃ tRaw t, headerValue Specimen.respelledHeader ['t'] = some tRaw ∧
      pythonInt tRaw = some t ∧ |(1700000300 : ℚ) - t| ≤ (300 : ℕ) ∧
      headerValue Specimen.respelledHeader ['v', '1'] =
        some (signPayload hmacSha256 Specimen.signedBody secret t) := by
  intro secret signed
  have hfloat : 1700000000 < floatLimit := by decide +kernel
  have hnear : |(1700000300 : ℚ) - (1700000000 : ℕ)| ≤ (300 : ℕ) := by norm_num
  refine ⟨?_, ?_, ?_⟩
  · refine ((signature_verified_iff hmacSha256 Specimen.signedBody secret 1700000300 300).1
      Specimen.signedBody secret 1700000000 hfloat).trans ?_
    rw [decide_eq_true ⟨hnear, rfl⟩]
  · have hother : signPayload hmacSha256 Specimen.forgedBody secret (1700000000 : ℕ) ≠
        signPayload hmacSha256 Specimen.signedBody secret (1700000000 : ℕ) := by decide +kernel
    refine ((signature_verified_iff hmacSha256 Specimen.forgedBody secret 1700000300 300).1
      Specimen.signedBody secret 1700000000 hfloat).trans ?_
    rw [decide_eq_false fun hboth => hother hboth.2]
  · refine (signature_verified_iff hmacSha256 Specimen.signedBody secret 1700000300 300).2
      Specimen.respelledHeader ?_
    decide +kernel

end ChmabaPay
