import Mathlib.Tactic

/-! # Leads-to

Along a sequence of states that goes on for ever, one predicate leads to another
when every state with the first is followed by one with the second. The rules are
those of everyday liveness proofs: a predicate that persists until something keeps
happening, transitivity, and induction over a rank.
-/

section LeadsTo

variable {σ : Type*} {states : ℕ → σ} {first second third : σ → Prop}

/-- Every state with the first property is followed by one with the second. -/
def LeadsTo (states : ℕ → σ) (first second : σ → Prop) : Prop :=
  ∀ index, first (states index) → ∃ later, index ≤ later ∧ second (states later)

theorem LeadsTo.of_imp (himp : ∀ index, first (states index) → second (states index)) :
    LeadsTo states first second :=
  fun index hfirst => ⟨index, le_rfl, himp index hfirst⟩

theorem LeadsTo.trans (hfirst : LeadsTo states first second)
    (hsecond : LeadsTo states second third) : LeadsTo states first third := by
  intro index hindex
  obtain ⟨middle, hmiddle, hsecondAt⟩ := hfirst index hindex
  obtain ⟨later, hlater, hthird⟩ := hsecond middle hsecondAt
  exact ⟨later, hmiddle.trans hlater, hthird⟩

theorem LeadsTo.or (hfirst : LeadsTo states first third) (hsecond : LeadsTo states second third) :
    LeadsTo states (fun state => first state ∨ second state) third :=
  fun index hindex => hindex.elim (hfirst index) (hsecond index)

/-- What persists until the goal reaches it when something that brings it about
happens again and again. -/
theorem LeadsTo.of_unless
    (hunless : ∀ index, first (states index) →
      first (states (index + 1)) ∨ second (states (index + 1)))
    (hevent : ∀ index, ∃ later, index ≤ later ∧
      (first (states later) → second (states (later + 1)))) :
    LeadsTo states first second := by
  intro index hindex
  obtain ⟨later, hlater, hbrings⟩ := hevent index
  -- walk to the event: either the goal comes on the way, or the property lasts until there
  have hwalk : ∀ distance, first (states (index + distance)) ∨
      ∃ reached, index ≤ reached ∧ second (states reached) := by
    intro distance
    induction distance with
    | zero => exact .inl hindex
    | succ distance ih =>
        rcases ih with hlasts | hreached
        · exact (hunless _ hlasts).imp id fun hgoal => ⟨_, by omega, hgoal⟩
        · exact .inr hreached
  rcases hwalk (later - index) with hlasts | hreached
  · rw [Nat.add_sub_cancel' hlater] at hlasts
    exact ⟨later + 1, by omega, hbrings hlasts⟩
  · exact hreached

/-- A rank that keeps going down reaches the goal. -/
theorem LeadsTo.of_rank (ranked : ℕ → σ → Prop)
    (hrank : ∀ rank, LeadsTo states (ranked rank)
      fun state => second state ∨ ∃ smaller < rank, ranked smaller state) (rank : ℕ) :
    LeadsTo states (ranked rank) second := by
  induction rank using Nat.strong_induction_on with
  | h rank ih =>
      intro index hindex
      obtain ⟨later, hlater, hgoal | ⟨smaller, hsmaller, hranked⟩⟩ := hrank rank index hindex
      · exact ⟨later, hlater, hgoal⟩
      · obtain ⟨reached, hreached, hgoal⟩ := ih smaller hsmaller later hranked
        exact ⟨reached, hlater.trans hreached, hgoal⟩

end LeadsTo
