import Mathlib.Data.List.Infix
import Mathlib.Tactic

/-! # Patterns of a query

A pattern of `LIKE` holds characters that stand for themselves, `_` for any one character
and `%` for any number of them. A pattern that ends in its only wildcard asks for a prefix.
-/

namespace Patterns

/-- `text LIKE pattern`. -/
def like : List Char → List Char → Bool
  | [], text => text.isEmpty
  | '%' :: pattern, text => text.tails.any (like pattern)
  | '_' :: pattern, text => text.tail?.any (like pattern)
  | char :: pattern, first :: rest => char == first && like pattern rest
  | _ :: _, [] => false

/-- Nothing but a wildcard behind a stem asks for the stem in front. -/
theorem like_stem {stem : List Char} (hstem : '%' ∉ stem ∧ '_' ∉ stem) (text : List Char) :
    like (stem ++ ['%']) text = true ↔ stem <+: text := by
  induction stem generalizing text with
  | nil =>
      refine iff_of_true ?_ List.nil_prefix
      rw [List.nil_append, like, List.any_eq_true]
      exact ⟨[], (List.mem_tails _ _).mpr List.nil_suffix, rfl⟩
  | cons char stem ih =>
      rw [List.mem_cons, List.mem_cons, not_or, not_or] at hstem
      obtain ⟨⟨hany, hstem⟩, hone, hstem'⟩ := hstem
      cases text with
      | nil =>
          rw [List.cons_append, like]
          · simp
          · exact fun heq => hany heq.symm
          · exact fun heq => hone heq.symm
      | cons first rest =>
          rw [List.cons_append, like]
          · rw [Bool.and_eq_true, beq_iff_eq, ih ⟨hstem, hstem'⟩, List.cons_prefix_cons]
          · exact fun heq => hany heq.symm
          · exact fun heq => hone heq.symm

section Mapped

variable {α β : Type*} {f : α → List β}

/-- A text written element by element begins with a stem when its first elements are written
as the stem's, one for each. -/
theorem prefix_flatMap_iff {alphabet stem : List β}
    (hwritten : ∀ element, ∃ first rest, f element = first :: rest ∧
      (first ∈ alphabet → rest = []))
    (hstem : ∀ letter ∈ stem, letter ∈ alphabet) (text : List α) :
    stem <+: text.flatMap f ↔
      (text.take stem.length).map f = stem.map fun letter => [letter] := by
  induction stem generalizing text with
  | nil => simp
  | cons letter stem ih =>
      rw [List.forall_mem_cons] at hstem
      cases text with
      | nil => simp
      | cons element text =>
          obtain ⟨first, rest, heq, halone⟩ := hwritten element
          rw [List.flatMap_cons, heq, List.cons_append, List.cons_prefix_cons, List.length_cons,
            List.take_succ_cons, List.map_cons, List.map_cons, heq, List.cons.injEq,
            List.cons.injEq, ← ih hstem.2]
          constructor
          · rintro ⟨rfl, htail⟩
            rw [halone hstem.1, List.nil_append] at htail
            exact ⟨⟨rfl, halone hstem.1⟩, htail⟩
          · rintro ⟨⟨rfl, rfl⟩, htail⟩
            exact ⟨rfl, by rwa [List.nil_append]⟩

theorem map_singletons {g : α → List β} {core : List α} {stem : List β}
    (hwritten : ∀ element ∈ core, ∀ letter ∈ stem, f element = [letter] → g element = [letter])
    (hcore : core.map f = stem.map fun letter => [letter]) :
    core.map g = stem.map fun letter => [letter] := by
  induction core generalizing stem with
  | nil => rw [List.map_nil, ← hcore, List.map_nil]
  | cons element core ih =>
      cases stem with
      | nil => cases hcore
      | cons letter stem =>
          rw [List.map_cons, List.map_cons, List.cons.injEq] at hcore
          rw [List.map_cons, List.map_cons, hwritten element List.mem_cons_self letter
            List.mem_cons_self hcore.1]
          exact congrArg _ (ih (fun other hother next hnext => hwritten other
            (List.mem_cons_of_mem _ hother) next (List.mem_cons_of_mem _ hnext)) hcore.2)

end Mapped

end Patterns
