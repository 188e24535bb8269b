import Mathlib.Tactic

/-! # Reports on edges

Something is up or down, time after time. A report is due only when that changes, so the
reports on it are of a rise and a fall in turn, whatever the levels are.
-/

namespace Edges

inductive Edge where
  | rise
  | fall
deriving DecidableEq

/-- What is reported when one level follows another. -/
def between : Bool → Bool → List Edge
  | false, true => [.rise]
  | true, false => [.fall]
  | _, _ => []

/-- A rise and a fall in turn, the next one being the one this level allows. -/
def Alternating : Bool → List Edge → Prop
  | _, [] => True
  | level, .rise :: rest => level = false ∧ Alternating true rest
  | level, .fall :: rest => level = true ∧ Alternating false rest

theorem alternating_between (before after : Bool) (rest : List Edge) :
    Alternating before (between before after ++ rest) ↔ Alternating after rest := by
  cases before <;> cases after
  · rfl
  · exact and_iff_right rfl
  · exact and_iff_right rfl
  · rfl

/-- What only rises is reported once. -/
theorem between_append {first second third : Bool} (hsecond : first = true → second = true)
    (hthird : second = true → third = true) :
    between first second ++ between second third = between first third := by
  cases first
  · cases second
    · rfl
    · rw [hthird rfl]
      rfl
  · rw [hsecond rfl, hthird (hsecond rfl)]
    rfl

/-- A rise to what was or is up, and the fall of what was only. -/
theorem between_fall (before after : Prop) [Decidable before] [Decidable after] :
    between (decide before) (decide (before ∨ after)) ++
        (if (before ∨ after) ∧ ¬after then [.fall] else []) =
      between (decide before) (decide after) := by
  by_cases hbefore : before <;> by_cases hafter : after <;> simp [hbefore, hafter, between]

/-- The reports on a run of levels. -/
def reports : Bool → List Bool → List Edge
  | _, [] => []
  | before, after :: rest => between before after ++ reports after rest

theorem alternating_reports (before : Bool) (levels : List Bool) :
    Alternating before (reports before levels) := by
  induction levels generalizing before with
  | nil => trivial
  | cons after rest ih => exact (alternating_between before after _).mpr (ih after)

end Edges
