import Mathlib.Data.List.TakeWhile
import Mathlib.Tactic

/-! # Trimming

A list without the elements of a kind at its two ends.
-/

namespace Trimming

variable {α β : Type} {p : α → Bool}

def trim (p : α → Bool) (list : List α) : List α :=
  ((list.dropWhile p).reverse.dropWhile p).reverse

/-- A list that neither begins nor ends with an element of the kind. -/
structure Trimmed (p : α → Bool) (core : List α) : Prop where
  head : ∀ first ∈ core.head?, p first = false
  last : ∀ last ∈ core.getLast?, p last = false

theorem Trimmed.of_forall {core : List α} (hcore : ∀ element ∈ core, p element = false) :
    Trimmed p core where
  head first hfirst := hcore first (List.mem_of_mem_head? hfirst)
  last last hlast := hcore last (List.mem_of_mem_getLast? hlast)

theorem dropWhile_of_head {core : List α} (hhead : ∀ first ∈ core.head?, p first = false) :
    core.dropWhile p = core := by
  cases core with
  | nil => rfl
  | cons first rest =>
      have hfirst := hhead first rfl
      exact List.dropWhile_cons_of_neg (by rw [hfirst]; decide)

/-- The ends are cut off and what lies between them stays. -/
theorem trim_append {pre core post : List α} (hpre : ∀ element ∈ pre, p element = true)
    (hpost : ∀ element ∈ post, p element = true) (hcore : Trimmed p core) :
    trim p (pre ++ core ++ post) = core := by
  unfold trim
  rw [List.append_assoc, List.dropWhile_append_of_pos hpre]
  cases core with
  | nil =>
      have hnone : post.dropWhile p = [] := List.dropWhile_eq_nil_iff.mpr hpost
      rw [List.nil_append, hnone]
      rfl
  | cons first rest =>
      have hfirst := hcore.head first rfl
      rw [List.cons_append, List.dropWhile_cons_of_neg (by rw [hfirst]; decide),
        ← List.cons_append, List.reverse_append,
        List.dropWhile_append_of_pos fun element hmem => hpost element (List.mem_reverse.mp hmem),
        dropWhile_of_head (by rw [List.head?_reverse]; exact hcore.last), List.reverse_reverse]

/-- Every list is what trimming leaves between two ends. -/
theorem exists_trim (p : α → Bool) (list : List α) :
    ∃ pre post, list = pre ++ trim p list ++ post ∧ (∀ element ∈ pre, p element = true) ∧
      (∀ element ∈ post, p element = true) ∧ Trimmed p (trim p list) := by
  have hsplit (list : List α) : list = list.takeWhile p ++ list.dropWhile p :=
    List.takeWhile_append_dropWhile.symm
  have hback := congrArg List.reverse (hsplit (list.dropWhile p).reverse)
  rw [List.reverse_reverse, List.reverse_append] at hback
  refine ⟨list.takeWhile p, ((list.dropWhile p).reverse.takeWhile p).reverse, ?_, ?_, ?_, ?_, ?_⟩
  · rw [trim, List.append_assoc, ← hback]
    exact hsplit list
  · intro element hmem
    exact List.mem_takeWhile_imp hmem
  · intro element hmem
    exact List.mem_takeWhile_imp (List.mem_reverse.mp hmem)
  · intro first hfirst
    have hhead := List.head?_dropWhile_not p list
    rw [hback] at hhead
    cases hcore : trim p list with
    | nil =>
        rw [hcore] at hfirst
        cases hfirst
    | cons head rest =>
        rw [hcore] at hfirst
        have htrimmed : ((list.dropWhile p).reverse.dropWhile p).reverse = head :: rest := hcore
        rw [htrimmed] at hhead
        obtain rfl := Option.some.inj hfirst
        simpa using hhead
  · intro last hlast
    have hhead := List.head?_dropWhile_not p (list.dropWhile p).reverse
    rw [trim, List.getLast?_reverse] at hlast
    rw [hlast] at hhead
    simpa using hhead

theorem trim_eq_self {core : List α} (hcore : Trimmed p core) : trim p core = core := by
  have htrim := trim_append (List.forall_mem_nil _) (List.forall_mem_nil _) hcore
  simpa using htrim

theorem trim_trim (list : List α) : trim p (trim p list) = trim p list := by
  obtain ⟨_, _, -, -, -, hcore⟩ := exists_trim p list
  exact trim_eq_self hcore

/-- A map that keeps the kind of every element commutes with trimming. -/
theorem trim_map {q : β → Bool} {f : α → β} (hkind : ∀ element, q (f element) = p element)
    (list : List α) : trim q (list.map f) = (trim p list).map f := by
  have hdrop : ∀ list : List α, (list.map f).dropWhile q = (list.dropWhile p).map f := by
    intro list
    rw [List.dropWhile_map]
    exact congrArg _ (congrArg (List.dropWhile · list) (funext hkind))
  unfold trim
  rw [hdrop, ← List.map_reverse, hdrop, List.map_reverse]

end Trimming
