import ChmabaPay.Foundation.Trimming
import ChmabaPay.Khqr

/-! # The spelling of a currency

A currency reaches the encoders as a text of any spelling. One copy trims it before it looks
up its number and the other does not. Both trim it before they choose how the amount is
printed.
-/

namespace ChmabaPay

open Trimming

/-! ## Upper case -/

def upperChar (char : Char) : Char :=
  if char = '\u0131' then 'I' else if char = '\u017f' then 'S' else char.toUpper

theorem toList_pythonUpper (text : String) :
    (pythonUpper text).toList = text.toList.map upperChar := by
  rw [pythonUpper, String.toList_ofList]
  rfl

/-- The letters that change are the small ASCII letters. -/
theorem toUpper_cases (char : Char) :
    char.toUpper = char ∨ ∃ index < 26, char = Char.ofNat (97 + index) := by
  by_cases hsmall : 97 ≤ char.toNat ∧ char.toNat ≤ 122
  · refine .inr ⟨char.toNat - 97, by omega, ?_⟩
    rw [Nat.add_sub_cancel' hsmall.1, Char.ofNat_toNat]
  · left
    unfold Char.toUpper
    have hlarge : ¬ (char.val ≥ 'a'.val ∧ char.val ≤ 'z'.val) := by
      rintro ⟨hlow, hhigh⟩
      exact hsmall ⟨UInt32.le_iff_toNat_le.mp hlow, UInt32.le_iff_toNat_le.mp hhigh⟩
    rw [dif_neg hlarge]

theorem upperChar_small : ∀ index < 26,
    isPythonSpace (upperChar (Char.ofNat (97 + index))) = isPythonSpace (Char.ofNat (97 + index)) ∧
      upperChar (upperChar (Char.ofNat (97 + index))) = upperChar (Char.ofNat (97 + index)) := by
  decide +kernel

theorem upperChar_spec (char : Char) :
    isPythonSpace (upperChar char) = isPythonSpace char ∧
      upperChar (upperChar char) = upperChar char := by
  by_cases hdotless : char = '\u0131'
  · rw [hdotless]
    decide +kernel
  by_cases hlong : char = '\u017f'
  · rw [hlong]
    decide +kernel
  rcases toUpper_cases char with hsame | ⟨index, hindex, rfl⟩
  · have hkept : upperChar char = char := by
      rw [upperChar, if_neg hdotless, if_neg hlong, hsame]
    rw [hkept, hkept]
    exact ⟨rfl, rfl⟩
  · exact upperChar_small index hindex

theorem pythonUpper_pythonUpper (text : String) :
    pythonUpper (pythonUpper text) = pythonUpper text := by
  apply String.toList_inj.mp
  rw [toList_pythonUpper, toList_pythonUpper, List.map_map]
  exact List.map_congr_left fun char _ => (upperChar_spec char).2

/-- `text.strip()`. -/
def stripped (text : String) : String := String.ofList (pythonStrip text.toList)

theorem pythonUpper_stripped (text : String) :
    pythonUpper (stripped text) = stripped (pythonUpper text) := by
  apply String.toList_inj.mp
  rw [toList_pythonUpper, stripped, stripped, String.toList_ofList, String.toList_ofList,
    toList_pythonUpper]
  exact (trim_map (fun char => (upperChar_spec char).1) text.toList).symm

theorem stripped_stripped (text : String) : stripped (stripped text) = stripped text := by
  rw [stripped, stripped, String.toList_ofList]
  exact congrArg String.ofList (trim_trim text.toList)

/-- Both copies print the amount in the same currency. -/
theorem printedCurrency_stripped (text : String) :
    printedCurrency (pythonUpper (stripped text)) = printedCurrency (pythonUpper text) := by
  have hplain : pythonUpper (stripped (pythonUpper (stripped text))) =
      pythonUpper (stripped text) := by
    rw [← pythonUpper_stripped, stripped_stripped, pythonUpper_pythonUpper]
  have hgiven : pythonUpper (stripped (pythonUpper text)) = pythonUpper (stripped text) := by
    rw [← pythonUpper_stripped, pythonUpper_pythonUpper]
  unfold printedCurrency
  rw [← stripped, ← stripped, hplain, hgiven]

/-! ## Numbers -/

section Int

variable {text : List Char} {number : Int}

theorem mem_of_mem_intercalate {separator char : Char} {groups : List (List Char)}
    (hmem : char ∈ [separator].intercalate groups) :
    char = separator ∨ ∃ group ∈ groups, char ∈ group := by
  induction groups with
  | nil => simp [List.intercalate] at hmem
  | cons group rest ih =>
      cases rest with
      | nil => exact .inr ⟨group, List.mem_cons_self, by simpa [List.intercalate] using hmem⟩
      | cons next others =>
          rw [List.intercalate_cons_cons, List.mem_append, List.mem_append] at hmem
          rcases hmem with (hmem | hmem) | hmem
          · exact .inr ⟨group, List.mem_cons_self, hmem⟩
          · exact .inl (List.mem_singleton.mp hmem)
          · rcases ih hmem with hchar | ⟨other, hother, hin⟩
            · exact .inl hchar
            · exact .inr ⟨other, List.mem_cons_of_mem _ hother, hin⟩

theorem digits_not_space : ∀ base ∈ Digits.zeros, ∀ value < 10,
    isPythonSpace (Char.ofNat (base + value)) = false := by
  decide +kernel

theorem isDecimal_not_space {char : Char} (hdecimal : Digits.isDecimal char = true) :
    isPythonSpace char = false := by
  rw [Digits.isDecimal, Digits.decimal?, Option.isSome_map, List.find?_isSome] at hdecimal
  obtain ⟨base, hbase, hrange⟩ := hdecimal
  rw [Bool.and_eq_true, decide_eq_true_iff, decide_eq_true_iff] at hrange
  have hchar : char = Char.ofNat (base + (char.toNat - base)) := by
    rw [Nat.add_sub_cancel' hrange.1, Char.ofNat_toNat]
  rw [hchar]
  exact digits_not_space base hbase _ (by omega)

/-- What `int` reads: signs, underscores and digits. -/
def IntChar (char : Char) : Prop :=
  char = '-' ∨ char = '+' ∨ char = '_' ∨ Digits.isDecimal char = true

theorem IntChar.not_space {char : Char} (hchar : IntChar char) : isPythonSpace char = false := by
  rcases hchar with rfl | rfl | rfl | hdecimal
  · decide
  · decide
  · decide
  · exact isDecimal_not_space hdecimal

theorem intChar_of_groups {digits : List Char}
    (hgroups : (digits.splitOn '_').all (fun group =>
      !group.isEmpty && group.all Digits.isDecimal) = true) : ∀ char ∈ digits, IntChar char := by
  intro char hchar
  have hjoin : ['_'].intercalate (digits.splitOn '_') = digits := List.intercalate_splitOn '_'
  rw [← hjoin] at hchar
  rcases mem_of_mem_intercalate hchar with rfl | ⟨group, hgroup, hmem⟩
  · exact .inr (.inr (.inl rfl))
  · have hall := List.all_eq_true.mp hgroups group hgroup
    rw [Bool.and_eq_true] at hall
    exact .inr (.inr (.inr (List.all_eq_true.mp hall.2 char hmem)))

/-- A text that `int` reads has nothing but signs, digits and underscores behind its
blanks. -/
theorem pythonInt_chars (hread : pythonInt text = some number) :
    ∀ char ∈ intStrip text, IntChar char := by
  have hcore : ∀ (negative : Bool) (digits : List Char), (if (digits.splitOn '_').all (fun group =>
        !group.isEmpty && group.all Digits.isDecimal) = true then
      if maxStrDigits < (digits.splitOn '_').flatten.length then none
      else (Digits.reading (digits.splitOn '_').flatten).map fun magnitude =>
        if negative = true then -(magnitude : Int) else magnitude
    else none) = some number → ∀ char ∈ digits, IntChar char := by
    intro negative digits hsome
    split at hsome
    next hgroups => exact intChar_of_groups hgroups
    next => cases hsome
  unfold pythonInt at hread
  cases htext : intStrip text with
  | nil => simp
  | cons first rest =>
      rw [htext] at hread
      by_cases hminus : first = '-'
      · subst hminus
        exact List.forall_mem_cons.mpr ⟨.inl rfl, hcore true rest hread⟩
      · by_cases hplus : first = '+'
        · subst hplus
          exact List.forall_mem_cons.mpr ⟨.inr (.inl rfl), hcore false rest hread⟩
        · refine hcore false (first :: rest) ?_
          simpa [hminus, hplus] using hread

/-- A text of capital letters is no number. -/
theorem pythonInt_capitals (hne : text ≠ [])
    (hcapitals : ∀ char ∈ text, char.isUpper = true) : pythonInt text = none := by
  have hletters : ∀ index < 26, isIntSpace (Char.ofNat (65 + index)) = false ∧
      Char.ofNat (65 + index) ≠ '-' ∧ Char.ofNat (65 + index) ≠ '+' ∧
      Char.ofNat (65 + index) ≠ '_' ∧ Digits.isDecimal (Char.ofNat (65 + index)) = false := by
    decide +kernel
  have hcapital : ∀ char : Char, char.isUpper = true →
      isIntSpace char = false ∧ ¬ IntChar char := by
    intro char hupper
    have hrange : 65 ≤ char.toNat ∧ char.toNat ≤ 90 := by
      have hbounds : 65 ≤ char.val ∧ char.val ≤ 90 := of_decide_eq_true hupper
      exact ⟨UInt32.le_iff_toNat_le.mp hbounds.1, UInt32.le_iff_toNat_le.mp hbounds.2⟩
    have hchar : char = Char.ofNat (65 + (char.toNat - 65)) := by
      rw [Nat.add_sub_cancel' hrange.1, Char.ofNat_toNat]
    obtain ⟨hspace, hminus, hplus, hline, hdecimal⟩ := hletters (char.toNat - 65) (by omega)
    rw [hchar]
    refine ⟨hspace, ?_⟩
    rintro (heq | heq | heq | heq)
    · exact hminus heq
    · exact hplus heq
    · exact hline heq
    · exact Bool.false_ne_true (hdecimal.symm.trans heq)
  cases hread : pythonInt text with
  | none => rfl
  | some number =>
      have hstrip : intStrip text = text :=
        trim_eq_self (.of_forall fun char hchar => (hcapital char (hcapitals char hchar)).1)
      have hchars := pythonInt_chars hread
      rw [hstrip] at hchars
      obtain ⟨char, hchar⟩ := List.exists_mem_of_ne_nil text hne
      exact absurd (hchars char hchar) (hcapital char (hcapitals char hchar)).2

/-- Trimming a text does not change what `int` reads in it. -/
theorem pythonInt_strip (hread : pythonInt text = some number) :
    pythonInt (pythonStrip text) = some number := by
  have hchars := pythonInt_chars hread
  obtain ⟨pre, post, htext, hpre, hpost, -⟩ := exists_trim isIntSpace text
  have hspace : ∀ char, isIntSpace char = true → isPythonSpace char = true := by
    intro char hchar
    rw [isIntSpace, Bool.and_eq_true] at hchar
    exact hchar.1
  have hcore : pythonStrip text = intStrip text := by
    conv_lhs => rw [htext]
    exact trim_append (fun char hchar => hspace char (hpre char hchar))
      (fun char hchar => hspace char (hpost char hchar))
      (.of_forall fun char hchar => (hchars char hchar).not_space)
  have hagain : intStrip (intStrip text) = intStrip text := trim_trim text
  rw [hcore]
  unfold pythonInt at hread ⊢
  rw [hagain]
  exact hread

end Int

/-! ## The number of a currency -/

theorem currencyIso_eq (currency : String) :
    currencyIso currency =
      if currency = "USD" then "840".toList
      else if currency = "KHR" then "116".toList
      else if (pythonInt currency.toList).isSome then currency.toList else "840".toList := by
  by_cases husd : currency = "USD"
  · subst husd
    decide +kernel
  · by_cases hkhr : currency = "KHR"
    · subst hkhr
      decide +kernel
    · have husd' : (currency == "USD") = false := beq_eq_false_iff_ne.mpr husd
      have hkhr' : (currency == "KHR") = false := beq_eq_false_iff_ne.mpr hkhr
      have hnone : currencyIsoNumeric.lookup currency = none := by
        rw [currencyIsoNumeric, List.lookup_cons, husd', List.lookup_cons, hkhr', List.lookup_nil]
      rw [currencyIso, hnone, if_neg husd, if_neg hkhr]
      rfl

/-- The number does not depend on whether a currency is trimmed: it is trimmed already, or
it is neither the riel nor a number, or it is the dollar's number between separators `int`
refuses. -/
def SpeltAlike (currency : String) : Prop :=
  let plain := pythonUpper (stripped currency)
  let given := pythonUpper currency
  given = plain ∨ plain ≠ "KHR" ∧ (pythonInt plain.toList = none ∨
    plain = "840" ∧ pythonInt given.toList = none)

instance (currency : String) : Decidable (SpeltAlike currency) :=
  inferInstanceAs (Decidable (_ ∨ _ ∧ (_ ∨ _ ∧ _)))

theorem currencyIso_stripped_iff (currency : String) :
    currencyIso (pythonUpper (stripped currency)) = currencyIso (pythonUpper currency) ↔
      SpeltAlike currency := by
  have hstrip := pythonUpper_stripped currency
  have hread : ∀ number, pythonInt (pythonUpper currency).toList = some number →
      pythonInt (pythonUpper (stripped currency)).toList = some number := by
    intro number hnumber
    rw [hstrip, stripped, String.toList_ofList]
    exact pythonInt_strip hnumber
  unfold SpeltAlike
  generalize pythonUpper (stripped currency) = plain at *
  generalize pythonUpper currency = given at *
  by_cases hsame : given = plain
  · simp [hsame]
  -- a text that is in the table is trimmed
  have husd : given ≠ "USD" := by
    rintro rfl
    exact hsame (hstrip.trans (by decide)).symm
  have hkhr : given ≠ "KHR" := by
    rintro rfl
    exact hsame (hstrip.trans (by decide)).symm
  have hnames : pythonInt "USD".toList = none ∧ pythonInt "KHR".toList = none := by
    decide +kernel
  rw [currencyIso_eq given, if_neg husd, if_neg hkhr, currencyIso_eq plain]
  cases hgiven : pythonInt given.toList with
  | some number =>
      -- both are numbers, spelt differently
      have hplain := hread number hgiven
      have hdollar : plain ≠ "USD" := by
        rintro rfl
        cases hplain.symm.trans hnames.1
      have hriel : plain ≠ "KHR" := by
        rintro rfl
        cases hplain.symm.trans hnames.2
      rw [if_neg hdollar, if_neg hriel, hplain]
      refine iff_of_false (fun heq => hsame (String.toList_inj.mp heq).symm) ?_
      rintro (heq | ⟨-, hnone | ⟨-, hnone⟩⟩)
      · exact hsame heq
      · cases hplain.symm.trans hnone
      · cases hgiven.symm.trans hnone
  | none =>
      by_cases hdollar : plain = "USD"
      · subst hdollar
        exact iff_of_true rfl (.inr ⟨by decide, .inl hnames.1⟩)
      by_cases hriel : plain = "KHR"
      · subst hriel
        have hnumbers : "116".toList ≠ "840".toList := by decide
        refine iff_of_false (fun heq => hnumbers heq) ?_
        rintro (heq | ⟨hne, -⟩)
        · exact hsame heq
        · exact hne rfl
      rw [if_neg hdollar, if_neg hriel]
      cases hplain : pythonInt plain.toList with
      | none => exact iff_of_true rfl (.inr ⟨hriel, .inl hplain⟩)
      | some number =>
          constructor
          · intro heq
            exact .inr ⟨hriel, .inr ⟨String.toList_inj.mp heq, hgiven⟩⟩
          · rintro (heq | ⟨-, hnone | ⟨heq, -⟩⟩)
            · exact absurd heq hsame
            · cases hplain.symm.trans hnone
            · rw [heq]
              rfl

end ChmabaPay
