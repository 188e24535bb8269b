import Mathlib.Data.List.TakeWhile
import Mathlib.Tactic

/-! # Decimal numerals

A numeral is a run of digits, and behind a point another. It denotes a rational number. The
printed forms of a natural number and of a number of fractions of ten denote what was
printed.
-/

namespace Numerals

/-- The number a run of ASCII digits denotes. -/
def natural? (digits : List Char) : Option ℕ :=
  if digits ≠ [] ∧ digits.all Char.isDigit = true then some (Nat.ofDigitChars 10 digits 0)
  else none

/-- The number a numeral denotes. -/
def value? (text : List Char) : Option ℚ :=
  match text.dropWhile (· ≠ '.') with
  | [] => (natural? text).map Nat.cast
  | _ :: fraction => do
      let whole ← natural? (text.takeWhile (· ≠ '.'))
      let part ← natural? fraction
      return whole + part / 10 ^ fraction.length

theorem all_isDigit_toDigits (number : ℕ) :
    ∀ digit ∈ Nat.toDigits 10 number, digit.isDigit = true := fun _ hdigit =>
  Nat.isDigit_of_mem_toDigits (by decide) (by decide) hdigit

theorem all_isDigit_leftpad (width number : ℕ) :
    ∀ digit ∈ List.leftpad width '0' (Nat.toDigits 10 number), digit.isDigit = true := by
  intro digit hdigit
  rcases List.mem_append.mp hdigit with hzero | hdigit
  · rw [List.eq_of_mem_replicate hzero]
    rfl
  · exact all_isDigit_toDigits number digit hdigit

theorem natural?_toDigits (number : ℕ) : natural? (Nat.toDigits 10 number) = some number := by
  have hne : Nat.toDigits 10 number ≠ [] :=
    List.ne_nil_of_length_pos Nat.length_toDigits_pos
  rw [natural?, if_pos ⟨hne, List.all_eq_true.mpr (all_isDigit_toDigits number)⟩,
    Nat.ofDigitChars_ten_toDigits]

theorem natural?_leftpad (width number : ℕ) :
    natural? (List.leftpad width '0' (Nat.toDigits 10 number)) = some number := by
  have hne : List.leftpad width '0' (Nat.toDigits 10 number) ≠ [] :=
    List.append_ne_nil_of_right_ne_nil _ (List.ne_nil_of_length_pos Nat.length_toDigits_pos)
  rw [natural?, if_pos ⟨hne, List.all_eq_true.mpr (all_isDigit_leftpad width number)⟩,
    List.leftpad, Nat.ofDigitChars_append, Nat.ofDigitChars_replicate_zero, Nat.mul_zero,
    Nat.ofDigitChars_ten_toDigits]

/-- Digits have no point among them. -/
theorem ne_point {digits : List Char} (hdigits : ∀ digit ∈ digits, digit.isDigit = true) :
    ∀ digit ∈ digits, decide (digit ≠ '.') = true := by
  intro digit hdigit
  rw [decide_eq_true_iff]
  rintro rfl
  exact absurd (hdigits _ hdigit) (by decide)

/-- The digits of a natural number denote it. -/
theorem value?_toDigits (number : ℕ) : value? (Nat.toDigits 10 number) = some (number : ℚ) := by
  rw [value?, List.dropWhile_eq_nil_iff.mpr (ne_point (all_isDigit_toDigits number)),
    natural?_toDigits]
  rfl

/-- A number of units and one of fractions, in a fixed number of places, denote their sum. -/
theorem value?_point {whole part places : ℕ}
    (hplaces : (List.leftpad places '0' (Nat.toDigits 10 part)).length = places) :
    value? (Nat.toDigits 10 whole ++ '.' :: List.leftpad places '0' (Nat.toDigits 10 part)) =
      some ((whole : ℚ) + part / 10 ^ places) := by
  have hwhole := ne_point (all_isDigit_toDigits whole)
  rw [value?, List.dropWhile_append_of_pos hwhole, List.takeWhile_append_of_pos hwhole,
    List.dropWhile_cons_of_neg (by simp), List.takeWhile_cons_of_neg (by simp), List.append_nil]
  simp only [natural?_toDigits, natural?_leftpad, hplaces]
  rfl

end Numerals
