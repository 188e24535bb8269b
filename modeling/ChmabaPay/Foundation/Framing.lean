import Mathlib.Tactic

/-! # Texts of elements

A reader takes one element off the front of a text and leaves less of it behind. Reading on
until it refuses splits the text into the elements and a rest. Two readers that agree on
what the stricter one takes give the same elements just when the laxer one refuses what the
stricter one leaves.
-/

namespace Framing

/-- A way to read one element. -/
structure Reader (α β : Type) where
  read : List α → Option (β × List α)
  shrinks : ∀ {text element rest}, read text = some (element, rest) →
    rest.length < text.length

namespace Reader

variable {α β : Type} (reader : Reader α β)

/-- The elements up to the first refusal. -/
def elements (text : List α) : List β :=
  match _hread : reader.read text with
  | none => []
  | some (element, rest) => element :: elements rest
termination_by text.length
decreasing_by exact reader.shrinks _hread

/-- The text that the first refusal leaves. -/
def leftover (text : List α) : List α :=
  match _hread : reader.read text with
  | none => text
  | some (_, rest) => leftover rest
termination_by text.length
decreasing_by exact reader.shrinks _hread

variable {reader} {text rest : List α} {element : β}

theorem elements_of_none (hread : reader.read text = none) : reader.elements text = [] := by
  rw [elements]
  split
  · rfl
  next hsome =>
    rw [hread] at hsome
    cases hsome

theorem elements_of_some (hread : reader.read text = some (element, rest)) :
    reader.elements text = element :: reader.elements rest := by
  rw [elements]
  split
  next hnone =>
    rw [hread] at hnone
    cases hnone
  next hsome =>
    obtain ⟨rfl, rfl⟩ := Prod.mk.inj (Option.some.inj (hread.symm.trans hsome))
    rfl

theorem leftover_of_none (hread : reader.read text = none) : reader.leftover text = text := by
  rw [leftover]
  split
  · rfl
  next hsome =>
    rw [hread] at hsome
    cases hsome

theorem leftover_of_some (hread : reader.read text = some (element, rest)) :
    reader.leftover text = reader.leftover rest := by
  rw [leftover]
  split
  next hnone =>
    rw [hread] at hnone
    cases hnone
  next hsome =>
    obtain ⟨rfl, rfl⟩ := Prod.mk.inj (Option.some.inj (hread.symm.trans hsome))
    rfl

/-- Induction along the elements that are read. -/
theorem induction_read {motive : List α → Prop}
    (refused : ∀ text, reader.read text = none → motive text)
    (taken : ∀ text element rest, reader.read text = some (element, rest) → motive rest →
      motive text) (text : List α) : motive text := by
  induction hlength : text.length using Nat.strong_induction_on generalizing text with
  | _ length ih =>
      cases hread : reader.read text with
      | none => exact refused text hread
      | some taken' =>
          have hshrinks := reader.shrinks hread
          exact taken text taken'.1 taken'.2 hread (ih _ (hlength ▸ hshrinks) _ rfl)

theorem read_leftover (text : List α) : reader.read (reader.leftover text) = none := by
  induction text using reader.induction_read with
  | refused text hread => rw [leftover_of_none hread, hread]
  | taken text element rest hread ih => rw [leftover_of_some hread, ih]

section Print

variable {print : β → List α}

/-- What is read is printed again in front of the leftover. -/
theorem print_elements_append_leftover
    (hsound : ∀ text element rest, reader.read text = some (element, rest) →
      text = print element ++ rest) (text : List α) :
    (reader.elements text).flatMap print ++ reader.leftover text = text := by
  induction text using reader.induction_read with
  | refused text hread => rw [elements_of_none hread, leftover_of_none hread]; rfl
  | taken text element rest hread ih =>
      rw [elements_of_some hread, leftover_of_some hread, List.flatMap_cons, List.append_assoc,
        ih, ← hsound text element rest hread]

/-- Printed elements are read, and reading goes on behind them. -/
theorem elements_print_append {values : List β}
    (hprinted : ∀ value ∈ values, ∀ rest,
      reader.read (print value ++ rest) = some (value, rest)) (rest : List α) :
    reader.elements (values.flatMap print ++ rest) = values ++ reader.elements rest := by
  induction values with
  | nil => rfl
  | cons value values ih =>
      rw [List.flatMap_cons, List.append_assoc,
        elements_of_some (hprinted value List.mem_cons_self _),
        ih fun other hother => hprinted other (List.mem_cons_of_mem _ hother), List.cons_append]

end Print

section Refines

variable {strict lax : Reader α β}

/-- The second reader takes whatever the first one takes. -/
def Refines (strict lax : Reader α β) : Prop :=
  ∀ text element rest, strict.read text = some (element, rest) →
    lax.read text = some (element, rest)

/-- The laxer reader reads what the stricter one does, and goes on behind it. -/
theorem Refines.elements (hrefines : strict.Refines lax) (text : List α) :
    lax.elements text = strict.elements text ++ lax.elements (strict.leftover text) := by
  induction text using strict.induction_read with
  | refused text hread => rw [elements_of_none hread, leftover_of_none hread, List.nil_append]
  | taken text element rest hread ih =>
      rw [elements_of_some hread, leftover_of_some hread,
        elements_of_some (hrefines text element rest hread), ih, List.cons_append]

theorem elements_eq_nil_iff : reader.elements text = [] ↔ reader.read text = none := by
  constructor
  · intro hempty
    cases hread : reader.read text with
    | none => rfl
    | some taken =>
        rw [elements_of_some hread] at hempty
        cases hempty
  · exact elements_of_none

/-- The two read the same elements just when the laxer one stops where the stricter one
does. -/
theorem Refines.elements_eq_iff (hrefines : strict.Refines lax) (text : List α) :
    lax.elements text = strict.elements text ↔ lax.read (strict.leftover text) = none := by
  rw [hrefines.elements text, List.append_right_eq_self, elements_eq_nil_iff]

end Refines

end Reader

end Framing
