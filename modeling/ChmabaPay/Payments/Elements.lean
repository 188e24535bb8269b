import ChmabaPay.Khqr

/-! # Elements and the parser

The grammar of an element is two ASCII digits, two ASCII digits of length and that many
characters. `tlv` prints what the grammar reads. The loop of `parse_tlv` asks `isdigit` and
`int` instead, which know other digits, signs and blanks, so it may go on where the grammar
ends.
-/

namespace ChmabaPay

open Framing

/-! ## Printing -/

/-- The text of one element. -/
def element (part : String × List Char) : List Char :=
  part.1.toList ++ zeroPadded 2 part.2.length ++ part.2

def encode (parts : List (String × List Char)) : List Char := parts.flatMap element

/-- A tag of two digits, and a length that two digits can say. -/
structure WellFormed (part : String × List Char) : Prop where
  tag : part.1.toList.length = 2
  digits : part.1.toList.all Char.isDigit = true
  short : part.2.length ≤ 99

theorem length_zeroPadded {width number : ℕ} (hwidth : 0 < width)
    (hnumber : number < 10 ^ width) : (zeroPadded width number).length = width := by
  have hdigits := Nat.toDigits_length 10 number width hwidth hnumber
  unfold zeroPadded
  rw [List.length_leftpad]
  omega

theorem tlv_eq_ok_iff {tag : String} {value text : List Char} :
    tlv tag value = .ok text ↔ value.length ≤ 99 ∧ element (tag, value) = text := by
  unfold tlv
  split
  · next hlong =>
    constructor
    · intro htlv
      cases htlv
    · intro hshort
      omega
  · next hshort =>
    rw [Except.ok.injEq]
    exact ⟨fun htext => ⟨by omega, htext⟩, fun htext => htext.2⟩

/-! ## The grammar -/

def digitValue (char : Char) : ℕ := char.toNat - 48

/-- The length two digits say. -/
def statedLength (tens units : Char) : ℕ := 10 * digitValue tens + digitValue units

/-- One element of the grammar. -/
def readGrammar : List Char → Option ((String × List Char) × List Char)
  | first :: second :: tens :: units :: rest =>
      if first.isDigit && second.isDigit && (tens.isDigit && units.isDigit) then
        if rest.length < statedLength tens units then none
        else some ((String.ofList [first, second], rest.take (statedLength tens units)),
          rest.drop (statedLength tens units))
      else none
  | _ => none

theorem readGrammar_shrinks {text rest : List Char} {element : String × List Char}
    (hread : readGrammar text = some (element, rest)) : rest.length < text.length := by
  unfold readGrammar at hread
  split at hread
  · repeat' split at hread
    all_goals cases hread
    simp only [List.length_drop, List.length_cons]
    omega
  · cases hread

def grammarReader : Reader Char (String × List Char) where
  read := readGrammar
  shrinks := readGrammar_shrinks

theorem eq_digitChar {char : Char} (hdigit : char.isDigit = true) :
    digitValue char < 10 ∧ char = Nat.digitChar (digitValue char) := by
  have hrange : 48 ≤ char.toNat ∧ char.toNat < 58 := by
    simp only [Char.isDigit, Bool.and_eq_true, decide_eq_true_eq, UInt32.le_iff_toNat_le] at hdigit
    exact ⟨hdigit.1, Nat.lt_succ_of_le hdigit.2⟩
  refine ⟨by unfold digitValue; omega, ?_⟩
  have hdigits : ∀ value < 10, Nat.digitChar value = Char.ofNat (value + 48) := by decide
  rw [hdigits _ (by unfold digitValue; omega), digitValue,
    Nat.sub_add_cancel hrange.1, Char.ofNat_toNat]

/-- A length is printed as its two digits. -/
theorem zeroPadded_two :
    ∀ number < 100, zeroPadded 2 number =
      [Nat.digitChar (number / 10), Nat.digitChar (number % 10)] := by
  decide +kernel

theorem digitValue_digitChar : ∀ value < 10,
    (Nat.digitChar value).isDigit = true ∧ digitValue (Nat.digitChar value) = value := by
  decide

theorem pythonInt_digits : ∀ tens < 10, ∀ units < 10,
    pythonInt [Nat.digitChar tens, Nat.digitChar units] = some ((10 * tens + units : ℕ) : Int) := by
  decide +kernel

/-- The characters of a well-formed element. -/
theorem WellFormed.element_eq {part : String × List Char} (hpart : WellFormed part) :
    ∃ first second, first.isDigit = true ∧ second.isDigit = true ∧
      String.ofList [first, second] = part.1 ∧
      element part = first :: second :: Nat.digitChar (part.2.length / 10) ::
        Nat.digitChar (part.2.length % 10) :: part.2 := by
  obtain ⟨first, second, hchars⟩ := List.length_eq_two.mp hpart.tag
  have hdigits := hpart.digits
  have hshort := hpart.short
  rw [hchars] at hdigits
  simp only [List.all_cons, List.all_nil, Bool.and_true, Bool.and_eq_true] at hdigits
  refine ⟨first, second, hdigits.1, hdigits.2, by rw [← hchars, String.ofList_toList], ?_⟩
  rw [element, hchars, zeroPadded_two _ (by omega)]
  rfl

theorem readGrammar_element {part : String × List Char} (hpart : WellFormed part)
    (rest : List Char) : readGrammar (element part ++ rest) = some (part, rest) := by
  obtain ⟨first, second, hfirst, hsecond, hname, heq⟩ := hpart.element_eq
  have hshort := hpart.short
  obtain ⟨htens, hten⟩ := digitValue_digitChar (part.2.length / 10) (by omega)
  obtain ⟨hunits, hunit⟩ := digitValue_digitChar (part.2.length % 10) (by omega)
  have hlength : statedLength (Nat.digitChar (part.2.length / 10))
      (Nat.digitChar (part.2.length % 10)) = part.2.length := by
    rw [statedLength, hten, hunit, Nat.div_add_mod]
  rw [heq]
  simp only [List.cons_append, readGrammar, hfirst, hsecond, htens, hunits, Bool.and_self,
    if_true, hlength, hname, List.length_append]
  rw [if_neg (by omega), List.take_left, List.drop_left]

theorem readGrammar_eq_some {text rest : List Char} {part : String × List Char}
    (hread : readGrammar text = some (part, rest)) :
    WellFormed part ∧ text = element part ++ rest := by
  unfold readGrammar at hread
  split at hread
  · next first second tens units rest' =>
    split at hread
    · next hdigits =>
      split at hread
      · cases hread
      · next hlength =>
        obtain ⟨rfl, rfl⟩ := Prod.mk.inj (Option.some.inj hread)
        simp only [Bool.and_eq_true] at hdigits
        obtain ⟨⟨hfirst, hsecond⟩, htens, hunits⟩ := hdigits
        obtain ⟨hten, htens⟩ := eq_digitChar htens
        obtain ⟨hunit, hunits⟩ := eq_digitChar hunits
        have hlength : statedLength tens units < 100 := by
          unfold statedLength
          omega
        have htake : (rest'.take (statedLength tens units)).length = statedLength tens units := by
          rw [List.length_take]
          omega
        have hdiv : statedLength tens units / 10 = digitValue tens := by
          rw [statedLength, Nat.mul_add_div (by omega), Nat.div_eq_of_lt hunit, Nat.add_zero]
        have hmod : statedLength tens units % 10 = digitValue units := by
          rw [statedLength, Nat.mul_add_mod, Nat.mod_eq_of_lt hunit]
        refine ⟨⟨by rw [String.toList_ofList]; rfl, ?_, by rw [htake]; omega⟩, ?_⟩
        · rw [String.toList_ofList]
          simp [hfirst, hsecond]
        · rw [element, String.toList_ofList, htake, zeroPadded_two _ hlength, hdiv, hmod,
            ← htens, ← hunits]
          simp
    · cases hread
  · cases hread

/-- The loop takes what the grammar takes. -/
theorem grammar_refines : grammarReader.Refines elementReader := by
  intro text part rest hread
  obtain ⟨hpart, rfl⟩ := readGrammar_eq_some hread
  obtain ⟨first, second, hfirst, hsecond, hname, heq⟩ := hpart.element_eq
  have hshort := hpart.short
  have hlength := pythonInt_digits (part.2.length / 10) (by omega) (part.2.length % 10) (by omega)
  rw [Nat.div_add_mod] at hlength
  change readElement _ = _
  rw [heq]
  simp only [List.cons_append, readElement, Digits.isDigit_of_isDigit hfirst,
    Digits.isDigit_of_isDigit hsecond, Bool.and_self, if_true, hlength, hname, Int.toNat_natCast,
    List.length_append]
  rw [if_neg (by omega), if_neg (by omega), List.take_left, List.drop_left]

/-! ## Reading back -/

section Parts

variable {parts : List (String × List Char)}

theorem parseTlv_nil : parseTlv [] = [] := Reader.elements_of_none rfl

/-- Elements in front are read, and reading goes on behind them. -/
theorem parseTlv_encode_append (hparts : ∀ part ∈ parts, WellFormed part) (rest : List Char) :
    parseTlv (encode parts ++ rest) = parts ++ parseTlv rest :=
  Reader.elements_print_append
    (fun part hpart rest => grammar_refines _ _ _ (readGrammar_element (hparts part hpart) rest))
    rest

/-- The parser returns what was printed. -/
theorem parseTlv_encode (hparts : ∀ part ∈ parts, WellFormed part) :
    parseTlv (encode parts) = parts := by
  rw [← List.append_nil (encode parts), parseTlv_encode_append hparts, parseTlv_nil,
    List.append_nil]

end Parts

/-! ## The longest well-formed prefix -/

/-- Well-formed elements in front of a text that goes on with no other. -/
def LongestPrefix (text : List Char) (parts : List (String × List Char)) : Prop :=
  (∀ part ∈ parts, WellFormed part) ∧
    ∃ rest, text = encode parts ++ rest ∧
      ∀ part behind, WellFormed part → rest ≠ element part ++ behind

/-- What `isdigit` and `int` take for the header of an element that is all there. -/
def LaxHeader (text : List Char) : Prop :=
  ∃ first second tens units rest, ∃ length : ℕ,
    text = first :: second :: tens :: units :: rest ∧ Digits.isDigit first = true ∧
      Digits.isDigit second = true ∧ pythonInt [tens, units] = some (length : Int) ∧
      length ≤ rest.length

section Longest

variable {text : List Char} {parts : List (String × List Char)}

theorem wellFormed_grammar (text : List Char) :
    ∀ part ∈ grammarReader.elements text, WellFormed part := by
  induction text using grammarReader.induction_read with
  | refused text hread => simp [Reader.elements_of_none hread]
  | taken text part rest hread ih =>
      rw [Reader.elements_of_some hread]
      exact List.forall_mem_cons.mpr ⟨(readGrammar_eq_some hread).1, ih⟩

/-- The grammar reads the longest prefix, and there is no other. -/
theorem longestPrefix_iff : LongestPrefix text parts ↔ parts = grammarReader.elements text := by
  constructor
  · rintro ⟨hparts, rest, rfl, hends⟩
    have hrest : grammarReader.read rest = none := by
      cases hread : grammarReader.read rest with
      | none => rfl
      | some taken =>
          obtain ⟨hpart, hprinted⟩ := readGrammar_eq_some hread
          exact absurd hprinted (hends _ _ hpart)
    rw [encode, Reader.elements_print_append fun part hpart =>
      readGrammar_element (hparts part hpart), Reader.elements_of_none hrest, List.append_nil]
  · rintro rfl
    refine ⟨wellFormed_grammar text, grammarReader.leftover text, ?_, ?_⟩
    · exact (Reader.print_elements_append_leftover
        (fun _ _ _ hread => (readGrammar_eq_some hread).2) text).symm
    · intro part behind hpart hprinted
      have hread := readGrammar_element hpart behind
      rw [← hprinted] at hread
      cases (grammarReader.read_leftover text).symm.trans hread

theorem readElement_eq_none_iff : readElement text = none ↔ ¬ LaxHeader text := by
  constructor
  · rintro hread ⟨first, second, tens, units, rest, length, rfl, hfirst, hsecond, hlength, hall⟩
    simp only [readElement, hfirst, hsecond, Bool.and_self, if_true, hlength,
      Int.toNat_natCast] at hread
    rw [if_neg (by omega), if_neg (by omega)] at hread
    cases hread
  · intro hheader
    unfold readElement
    split
    · next first second tens units rest =>
      split
      · next hdigits =>
        rw [Bool.and_eq_true] at hdigits
        split
        · rfl
        · next length hlength =>
          split
          · rfl
          · split
            · rfl
            · next hsign hall =>
              obtain ⟨length, rfl⟩ := Int.eq_ofNat_of_zero_le (not_lt.mp hsign)
              refine absurd ⟨first, second, tens, units, rest, length, rfl, hdigits.1, hdigits.2,
                hlength, ?_⟩ hheader
              rw [Int.toNat_natCast] at hall
              omega
      · rfl
    · rfl

/-- The parser reads exactly the longest well-formed prefix just when the loop takes
nothing behind it for a header either. -/
theorem parseTlv_longest_prefix_iff (text : List Char) :
    LongestPrefix text (parseTlv text) ↔ ¬ LaxHeader (grammarReader.leftover text) := by
  rw [longestPrefix_iff, ← readElement_eq_none_iff]
  exact grammar_refines.elements_eq_iff text

/-- A sign in front of the length: the element is read, and `tlv` prints another text. -/
theorem parseTlv_signed_length :
    parseTlv "00+1A".toList = [("00", ['A'])] ∧
      ¬ LongestPrefix "00+1A".toList (parseTlv "00+1A".toList) := by
  have hread : elementReader.read "00+1A".toList = some (("00", ['A']), []) := by
    decide +kernel
  have hparsed : parseTlv "00+1A".toList = [("00", ['A'])] := by
    rw [parseTlv, Reader.elements_of_some hread]
    exact congrArg _ parseTlv_nil
  refine ⟨hparsed, ?_⟩
  rw [hparsed]
  rintro ⟨-, rest, htext, -⟩
  have hfirst : ("00+1A".toList)[2]? = (encode [("00", ['A'])] ++ rest)[2]? :=
    congrArg (fun text => text[2]?) htext
  have hprinted : encode [("00", ['A'])] = "0001A".toList := by decide +kernel
  rw [hprinted, List.getElem?_append_left (by decide)] at hfirst
  exact absurd hfirst (by decide)

end Longest

end ChmabaPay
