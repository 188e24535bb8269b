import Mathlib.Tactic

/-! # Finite executions of a state machine

A machine consumes one input at a time and answers each with a response. A run
is the list of inputs it consumed; its trace pairs every input with the answer
it got. Safety is proved once per step and lifted to whole runs here, both for
unconditional invariants and for runs all of whose steps meet a condition.
-/

namespace Execution

variable {σ ι ο : Type*}

/-- The state after one input. -/
def next (step : σ → ι → σ × ο) (state : σ) (input : ι) : σ := (step state input).1

/-- The state after a list of inputs. -/
def run (step : σ → ι → σ × ο) (state : σ) (inputs : List ι) : σ :=
  inputs.foldl (next step) state

/-- Every input with the answer it got, in order. -/
def trace (step : σ → ι → σ × ο) : σ → List ι → List (ι × ο)
  | _, [] => []
  | state, input :: rest =>
      (input, (step state input).2) :: trace step (next step state input) rest

/-- A property of every step of a run: of the state it started in and its input. -/
def Along (step : σ → ι → σ × ο) (property : σ → ι → Prop) : σ → List ι → Prop
  | _, [] => True
  | state, input :: rest =>
      property state input ∧ Along step property (next step state input) rest

instance decidableAlong (step : σ → ι → σ × ο) (property : σ → ι → Prop)
    [∀ state input, Decidable (property state input)] :
    ∀ state inputs, Decidable (Along step property state inputs)
  | _, [] => inferInstanceAs (Decidable True)
  | state, input :: rest =>
      have := decidableAlong step property (next step state input) rest
      inferInstanceAs (Decidable (_ ∧ _))

variable {step : σ → ι → σ × ο}

@[simp] theorem run_nil (state : σ) : run step state [] = state := rfl

@[simp] theorem run_cons (state : σ) (input : ι) (rest : List ι) :
    run step state (input :: rest) = run step (next step state input) rest := rfl

theorem run_append (state : σ) (first second : List ι) :
    run step state (first ++ second) = run step (run step state first) second :=
  List.foldl_append

/-- Every input of a run stands in its trace with the answer it got there. -/
theorem mem_trace (state : σ) (first : List ι) (input : ι) (rest : List ι) :
    (input, (step (run step state first) input).2) ∈
      trace step state (first ++ input :: rest) := by
  induction first generalizing state with
  | nil => exact List.mem_cons_self
  | cons head tail ih => exact List.mem_cons_of_mem _ (ih (next step state head))

theorem Along.imp {property weaker : σ → ι → Prop}
    (himp : ∀ state input, property state input → weaker state input) {state : σ}
    {inputs : List ι} (halong : Along step property state inputs) :
    Along step weaker state inputs := by
  induction inputs generalizing state with
  | nil => trivial
  | cons input rest ih => exact ⟨himp state input halong.1, ih halong.2⟩

/-- The step behind the first part of a run. -/
theorem Along.middle {property : σ → ι → Prop} {state : σ} {first rest : List ι} {input : ι}
    (halong : Along step property state (first ++ input :: rest)) :
    property (run step state first) input := by
  induction first generalizing state with
  | nil => exact halong.1
  | cons head tail ih => exact ih halong.2

/-- A predicate kept by every step that meets the condition holds after every
run whose steps all meet it. -/
theorem run_invariant_of_along (invariant : σ → Prop) (condition : σ → ι → Prop)
    (hstep : ∀ state input, invariant state → condition state input →
      invariant (next step state input))
    {state : σ} (hstate : invariant state) {inputs : List ι}
    (halong : Along step condition state inputs) : invariant (run step state inputs) := by
  induction inputs generalizing state with
  | nil => exact hstate
  | cons input rest ih => exact ih (hstep state input hstate halong.1) halong.2

/-- A predicate kept by every admitted input holds after every run of admitted
inputs. -/
theorem run_invariant (invariant : σ → Prop) (admitted : ι → Prop)
    (hstep : ∀ state input, invariant state → admitted input →
      invariant (next step state input))
    {state : σ} (hstate : invariant state) {inputs : List ι}
    (hinputs : ∀ input ∈ inputs, admitted input) : invariant (run step state inputs) := by
  induction inputs generalizing state with
  | nil => exact hstate
  | cons input rest ih =>
      exact ih (hstep state input hstate (hinputs input List.mem_cons_self))
        fun later hlater => hinputs later (List.mem_cons_of_mem _ hlater)

/-- What every step satisfies from an invariant state holds along the run. -/
theorem along_of_invariant (invariant : σ → Prop) (condition property : σ → ι → Prop)
    (hstep : ∀ state input, invariant state → condition state input →
      invariant (next step state input))
    (hproperty : ∀ state input, invariant state → condition state input →
      property state input)
    {state : σ} (hstate : invariant state) {inputs : List ι}
    (halong : Along step condition state inputs) : Along step property state inputs := by
  induction inputs generalizing state with
  | nil => trivial
  | cons input rest ih =>
      exact ⟨hproperty state input hstate halong.1,
        ih (hstep state input hstate halong.1) halong.2⟩

/-- Two properties of steps that agree from every invariant state agree along the
run, when one of them keeps the invariant. -/
theorem along_congr_of_invariant (invariant : σ → Prop) (property condition : σ → ι → Prop)
    (hiff : ∀ state input, invariant state → (property state input ↔ condition state input))
    (hstep : ∀ state input, invariant state → condition state input →
      invariant (next step state input))
    {state : σ} (hstate : invariant state) (inputs : List ι) :
    Along step property state inputs ↔ Along step condition state inputs := by
  induction inputs generalizing state with
  | nil => exact Iff.rfl
  | cons input rest ih =>
      constructor
      · rintro ⟨hproperty, hrest⟩
        have hcondition := (hiff state input hstate).mp hproperty
        exact ⟨hcondition, (ih (hstep state input hstate hcondition)).mp hrest⟩
      · rintro ⟨hcondition, hrest⟩
        exact ⟨(hiff state input hstate).mpr hcondition,
          (ih (hstep state input hstate hcondition)).mpr hrest⟩

/-- Where every admitted step keeps a property exactly under a condition, a run keeps
it exactly when all its steps meet the condition. -/
theorem run_iff_along (invariant property : σ → Prop) (admitted condition : σ → ι → Prop)
    (hstep : ∀ state input, invariant state → invariant (next step state input))
    (hiff : ∀ state input, invariant state → admitted state input →
      (property (next step state input) ↔ property state ∧ condition state input))
    {state : σ} (hstate : invariant state) {inputs : List ι}
    (hadmitted : Along step admitted state inputs) :
    property (run step state inputs) ↔ property state ∧ Along step condition state inputs := by
  induction inputs generalizing state with
  | nil => exact (and_iff_left trivial).symm
  | cons input rest ih =>
      rw [run_cons, ih (hstep state input hstate) hadmitted.2,
        hiff state input hstate hadmitted.1, and_assoc]
      exact Iff.rfl

/-- A property of states holds after every part of a run when it holds at the start
and after every step. -/
theorem forall_run_iff_along (property : σ → Prop) (state : σ) (inputs : List ι) :
    (∀ first, first <+: inputs → property (run step state first)) ↔
      property state ∧ Along step (fun state input => property (next step state input)) state
        inputs := by
  induction inputs generalizing state with
  | nil => simp [Along]
  | cons input rest ih =>
      have hrest := ih (next step state input)
      constructor
      · intro hall
        refine ⟨hall [] (List.nil_prefix), hrest.mp fun first hfirst => ?_⟩
        exact hall (input :: first) ((List.prefix_cons_inj input).mpr hfirst)
      · rintro ⟨hstate, halong⟩ first hfirst
        cases first with
        | nil => exact hstate
        | cons head first =>
            obtain ⟨hhead, htail⟩ := List.cons_prefix_cons.mp hfirst
            subst hhead
            exact hrest.mpr halong first htail

/-- A property that a step brings about exactly under a condition, and that no step takes away,
holds after a run when it held at the start or some step of the run met the condition. -/
theorem run_iff_or_exists (property : σ → Prop) (condition : σ → ι → Prop)
    (hstep : ∀ state input,
      property (next step state input) ↔ property state ∨ condition state input)
    (state : σ) (inputs : List ι) :
    property (run step state inputs) ↔ property state ∨
      ∃ first input rest, inputs = first ++ input :: rest ∧
        condition (run step state first) input := by
  induction inputs generalizing state with
  | nil => simp
  | cons head tail ih =>
      rw [run_cons, ih (next step state head), hstep]
      constructor
      · rintro ((hstate | hhead) | ⟨first, input, rest, rfl, hinput⟩)
        · exact .inl hstate
        · exact .inr ⟨[], head, tail, rfl, hhead⟩
        · exact .inr ⟨head :: first, input, rest, rfl, hinput⟩
      · rintro (hstate | ⟨first, input, rest, hsplit, hinput⟩)
        · exact .inl (.inl hstate)
        · cases first with
          | nil =>
              obtain ⟨rfl, -⟩ := List.cons.inj hsplit
              exact .inl (.inr hinput)
          | cons other first =>
              obtain ⟨rfl, rfl⟩ := List.cons.inj hsplit
              exact .inr ⟨first, input, rest, rfl, hinput⟩

/-- An invariant that also reads the answers given so far. -/
theorem run_invariant_trace (invariant : σ → List (ι × ο) → Prop) (admitted : ι → Prop)
    (hstep : ∀ state history input, invariant state history → admitted input →
      invariant (next step state input) (history ++ [(input, (step state input).2)]))
    {state : σ} {history : List (ι × ο)} (hstate : invariant state history)
    {inputs : List ι} (hinputs : ∀ input ∈ inputs, admitted input) :
    invariant (run step state inputs) (history ++ trace step state inputs) := by
  induction inputs generalizing state history with
  | nil => simpa [trace] using hstate
  | cons input rest ih =>
      have hnext := hstep state history input hstate (hinputs input List.mem_cons_self)
      have htail := ih hnext fun later hlater => hinputs later (List.mem_cons_of_mem _ hlater)
      simpa [trace] using htail

end Execution
