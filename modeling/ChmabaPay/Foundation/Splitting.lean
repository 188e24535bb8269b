import Mathlib.Tactic

/-! # Splitting by a scanner

A scanner goes through a text and cuts it at some of its places, starting anew behind each. A
list of texts that were joined comes back from it when it reads them apart: none of them is cut
inside, and the place behind each but the last one is.
-/

namespace Splitting

structure Splitter (σ α : Type) where
  start : σ
  next : σ → α → σ
  cuts : σ → α → Bool
  restarts : ∀ state element, cuts state element = true → next state element = start

variable {σ α : Type} (splitter : Splitter σ α)

namespace Splitter

/-- What lies between the cuts. -/
def pieces : σ → List α → List (List α)
  | _, [] => [[]]
  | state, element :: rest =>
      if splitter.cuts state element then [] :: pieces (splitter.next state element) rest
      else (pieces (splitter.next state element) rest).modifyHead (element :: ·)

theorem pieces_ne_nil (state : σ) (text : List α) : splitter.pieces state text ≠ [] := by
  induction text generalizing state with
  | nil => exact List.cons_ne_nil _ _
  | cons element rest ih =>
      rw [Splitter.pieces]
      split
      · exact List.cons_ne_nil _ _
      · rw [ne_eq, List.modifyHead_eq_nil_iff]
        exact ih _

/-- The state behind a text. -/
def run (state : σ) (text : List α) : σ := text.foldl splitter.next state

/-- The text is not cut inside. -/
def whole : σ → List α → Bool
  | _, [] => true
  | state, element :: rest =>
      !splitter.cuts state element && whole (splitter.next state element) rest

/-- From one state to another through a text, without a cut. -/
def Through (state : σ) (text : List α) (last : σ) : Prop :=
  splitter.whole state text = true ∧ splitter.run state text = last

/-- The texts are read apart when this stands between them. -/
def ReadsApart (separator : α) : List (List α) → Prop
  | [] => True
  | [last] => splitter.whole splitter.start last = true
  | text :: rest =>
      splitter.whole splitter.start text = true ∧
        splitter.cuts (splitter.run splitter.start text) separator = true ∧
          ReadsApart separator rest

end Splitter

/-! ## Texts in a row -/

section Rows

variable {splitter} {state : σ}

namespace Splitter.Through

theorem nil (state : σ) : splitter.Through state [] state := ⟨rfl, rfl⟩

theorem cons {element : α} {rest : List α} {middle last : σ}
    (hcuts : splitter.cuts state element = false) (hnext : splitter.next state element = middle)
    (hrest : splitter.Through middle rest last) :
    splitter.Through state (element :: rest) last := by
  subst hnext
  refine ⟨?_, hrest.2⟩
  rw [Splitter.whole, hcuts, hrest.1]
  rfl

theorem append {first second : List α} {middle last : σ}
    (hfirst : splitter.Through state first middle) (hsecond : splitter.Through middle second last) :
    splitter.Through state (first ++ second) last := by
  induction first generalizing state with
  | nil =>
      obtain rfl : state = middle := hfirst.2
      exact hsecond
  | cons element rest ih =>
      obtain ⟨hwhole, hrun⟩ := hfirst
      rw [Splitter.whole, Bool.and_eq_true, Bool.not_eq_true'] at hwhole
      exact cons hwhole.1 rfl (ih ⟨hwhole.2, hrun⟩)

end Splitter.Through

/-- The pieces in a row, with the separator between them, are the text. -/
theorem intercalate_pieces {separator : α}
    (hcuts : ∀ state element, splitter.cuts state element = true → element = separator)
    (state : σ) (text : List α) : [separator].intercalate (splitter.pieces state text) = text := by
  induction text generalizing state with
  | nil => rfl
  | cons element rest ih =>
      obtain ⟨piece, pieces, hpieces⟩ :=
        List.exists_cons_of_ne_nil (splitter.pieces_ne_nil (splitter.next state element) rest)
      have hrest := ih (splitter.next state element)
      rw [Splitter.pieces]
      split
      · have hseparator : element = separator := hcuts state element ‹_›
        rw [hseparator] at hpieces hrest ⊢
        rw [hpieces] at hrest ⊢
        rw [List.intercalate_cons_cons, hrest, List.nil_append, List.singleton_append]
      · rw [hpieces] at hrest ⊢
        rw [List.modifyHead_cons, ← hrest]
        cases pieces <;> rfl

/-- A text is its only piece when it is not cut. -/
theorem pieces_eq_singleton_iff {text : List α} :
    splitter.pieces state text = [text] ↔ splitter.whole state text = true := by
  induction text generalizing state with
  | nil => exact iff_of_true rfl rfl
  | cons element rest ih =>
      rw [Splitter.pieces, Splitter.whole]
      cases splitter.cuts state element with
      | true => simp
      | false =>
          obtain ⟨piece, pieces, hpieces⟩ :=
            List.exists_cons_of_ne_nil (splitter.pieces_ne_nil (splitter.next state element) rest)
          rw [if_neg Bool.false_ne_true, Bool.not_false, Bool.true_and, ← ih, hpieces,
            List.modifyHead_cons, List.cons.injEq, List.cons.injEq, List.cons.injEq,
            and_iff_right rfl]

/-- A text is the first piece when it is not cut and the separator behind it is. -/
theorem pieces_eq_cons_iff {text behind : List α} {separator : α} {others : List (List α)} :
    splitter.pieces state (text ++ separator :: behind) = text :: others ↔
      splitter.whole state text = true ∧
        splitter.cuts (splitter.run state text) separator = true ∧
          splitter.pieces splitter.start behind = others := by
  induction text generalizing state with
  | nil =>
      rw [List.nil_append, Splitter.pieces, Splitter.run, List.foldl_nil]
      cases hcuts : splitter.cuts state separator with
      | true =>
          rw [if_pos rfl, splitter.restarts _ _ hcuts, List.cons.injEq]
          simp [Splitter.whole]
      | false =>
          obtain ⟨piece, pieces, hpieces⟩ := List.exists_cons_of_ne_nil
            (splitter.pieces_ne_nil (splitter.next state separator) behind)
          rw [if_neg Bool.false_ne_true, hpieces]
          simp
  | cons element rest ih =>
      rw [List.cons_append, Splitter.pieces, Splitter.whole, Splitter.run, List.foldl_cons,
        ← Splitter.run]
      cases splitter.cuts state element with
      | true => simp
      | false =>
          rw [if_neg Bool.false_ne_true, Bool.not_false, Bool.true_and, ← ih]
          obtain ⟨piece, pieces, hpieces⟩ := List.exists_cons_of_ne_nil
            (splitter.pieces_ne_nil (splitter.next state element) (rest ++ separator :: behind))
          rw [hpieces, List.modifyHead_cons, List.cons.injEq, List.cons.injEq, List.cons.injEq,
            and_iff_right rfl]

/-- Joined texts come back exactly when they are read apart. -/
theorem pieces_intercalate_iff {separator : α} {texts : List (List α)} (htexts : texts ≠ []) :
    splitter.pieces splitter.start ([separator].intercalate texts) = texts ↔
      splitter.ReadsApart separator texts := by
  induction texts with
  | nil => contradiction
  | cons text rest ih =>
      cases rest with
      | nil =>
          rw [List.intercalate_singleton]
          exact pieces_eq_singleton_iff
      | cons second rest =>
          rw [List.intercalate_cons_cons, List.append_assoc, List.singleton_append,
            Splitter.ReadsApart, ← ih (List.cons_ne_nil _ _)]
          · exact pieces_eq_cons_iff
          · exact List.cons_ne_nil _ _

end Rows

end Splitting
