import Mathlib.Tactic

/-! # Greedy packing

Items of some width are taken in order into a space of a fixed budget. An item that does
not fit is left out and the ones after it are still tried, so what is taken is decided by
the order, and a prefix that fits as a whole is always taken.
-/

namespace Packing

section Pack

variable {α : Type} (width : α → ℕ) (budget : ℕ)

/-- The items taken into a space of which some is used. -/
def pack (used : ℕ) : List α → List α
  | [] => []
  | item :: rest =>
      if used + width item ≤ budget then item :: pack (used + width item) rest
      else pack used rest

/-- The space some items take. -/
def size (items : List α) : ℕ := (items.map width).sum

variable {width budget}

@[simp] theorem size_nil : size width [] = 0 := rfl

@[simp] theorem size_cons (item : α) (rest : List α) :
    size width (item :: rest) = width item + size width rest := by
  simp [size]

@[simp] theorem size_append (first second : List α) :
    size width (first ++ second) = size width first + size width second := by
  simp [size]

theorem pack_cons_of_le {used : ℕ} {item : α} {rest : List α}
    (hfits : used + width item ≤ budget) :
    pack width budget used (item :: rest) =
      item :: pack width budget (used + width item) rest := by
  rw [pack, if_pos hfits]

theorem pack_cons_of_lt {used : ℕ} {item : α} {rest : List α}
    (hlarge : budget < used + width item) :
    pack width budget used (item :: rest) = pack width budget used rest := by
  rw [pack, if_neg (by omega)]

theorem pack_sublist (used : ℕ) (items : List α) :
    (pack width budget used items).Sublist items := by
  induction items generalizing used with
  | nil => exact List.Sublist.slnil
  | cons item rest ih =>
      unfold pack
      split
      · exact (ih _).cons_cons item
      · exact (ih _).cons item

/-- What is taken stays within the budget. -/
theorem used_add_size_pack_le {used : ℕ} (hused : used ≤ budget) (items : List α) :
    used + size width (pack width budget used items) ≤ budget := by
  induction items generalizing used with
  | nil => simpa [pack] using hused
  | cons item rest ih =>
      unfold pack
      split
      next hfits =>
        have hrest := ih hfits
        rw [size_cons]
        omega
      next => exact ih hused

/-- The space that is used when items of some widths have been tried. -/
def filled (budget used : ℕ) : List ℕ → ℕ
  | [] => used
  | width :: rest =>
      if used + width ≤ budget then filled budget (used + width) rest else filled budget used rest

theorem used_add_size_pack (used : ℕ) (items : List α) :
    used + size width (pack width budget used items) = filled budget used (items.map width) := by
  induction items generalizing used with
  | nil => rfl
  | cons item rest ih =>
      rw [List.map_cons, filled]
      by_cases hroom : used + width item ≤ budget
      · rw [if_pos hroom, pack_cons_of_le hroom, size_cons, ← ih]
        omega
      · rw [if_neg hroom, pack_cons_of_lt (by omega), ih]

/-- Where what a larger space takes fits the smaller one, the smaller one takes the same. -/
theorem pack_eq_pack {small large used : ℕ} {items : List α} (hspaces : small ≤ large)
    (hfits : used + size width (pack width large used items) ≤ small) :
    pack width small used items = pack width large used items := by
  induction items generalizing used with
  | nil => rfl
  | cons item rest ih =>
      by_cases hroom : used + width item ≤ large
      · rw [pack_cons_of_le hroom, size_cons] at hfits
        rw [pack_cons_of_le hroom, pack_cons_of_le (by omega), ih (by omega)]
      · rw [pack_cons_of_lt (by omega)] at hfits
        rw [pack_cons_of_lt (by omega), pack_cons_of_lt (by omega), ih hfits]

/-- Items that fit as a whole are all taken, and packing goes on behind them. -/
theorem pack_append {used : ℕ} {first : List α} (hfits : used + size width first ≤ budget)
    (second : List α) :
    pack width budget used (first ++ second) =
      first ++ pack width budget (used + size width first) second := by
  induction first generalizing used with
  | nil => simp
  | cons item rest ih =>
      simp only [size_cons] at hfits
      have hitem : used + width item ≤ budget := by omega
      have hrest : used + width item + size width rest ≤ budget := by omega
      rw [List.cons_append, pack_cons_of_le hitem, ih hrest, size_cons, ← Nat.add_assoc,
        List.cons_append]

end Pack

end Packing
