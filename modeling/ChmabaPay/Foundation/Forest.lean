import Mathlib.Logic.Relation

/-! # Forests of parent links

A partial parent function splits its nodes into trees. New leaves may be added
to a forest without joining two trees that were apart.
-/

namespace Forest

variable {κ : Type*} {parent parent' : κ → Option κ}

/-- Connected by links, in any direction. -/
def SameTree (parent : κ → Option κ) : κ → κ → Prop :=
  Relation.EqvGen fun above below => parent below = some above

theorem SameTree.symm {first second : κ} (htree : SameTree parent first second) :
    SameTree parent second first :=
  Relation.EqvGen.symm _ _ htree

/-- A map of nodes that keeps links within trees keeps trees together. -/
theorem SameTree.map (anchor : κ → κ)
    (hanchor : ∀ above below, parent' below = some above →
      SameTree parent (anchor above) (anchor below))
    {first second : κ} (htree : SameTree parent' first second) :
    SameTree parent (anchor first) (anchor second) := by
  induction htree with
  | rel above below hlink => exact hanchor above below hlink
  | refl node => exact .refl _
  | symm _ _ _ ih => exact ih.symm
  | trans _ _ _ _ _ ih ih' => exact .trans _ _ _ ih ih'

/-- A node outside every link is a tree of its own. -/
theorem SameTree.eq_or_known (known : κ → Prop)
    (hknown : ∀ above below, parent below = some above → known above ∧ known below)
    {first second : κ} (htree : SameTree parent first second) :
    first = second ∨ (known first ∧ known second) := by
  induction htree with
  | rel above below hlink => exact .inr (hknown above below hlink)
  | refl node => exact .inl rfl
  | symm _ _ _ ih => exact ih.imp Eq.symm And.symm
  | trans _ _ _ _ _ ih ih' =>
      rcases ih with rfl | hfirst
      · exact ih'
      · rcases ih' with rfl | hsecond
        · exact .inr hfirst
        · exact .inr ⟨hfirst.1, hsecond.2⟩

end Forest
