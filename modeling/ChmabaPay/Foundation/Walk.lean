import Mathlib.Tactic

/-! # Operations that may be broken off

An operation changes a state step by step, and the state belongs to somebody who
may keep it when the operation is broken off. Its walk lists the state after every
step and says whether it came to its end.
-/

structure Walk (σ : Type*) where
  states : List σ := []
  finished : Bool := true

namespace Walk

variable {σ α : Type*}

/-- Where the walk has led to. -/
def last (walk : Walk σ) (start : σ) : σ := walk.states.getLastD start

def step (change : σ → σ) (start : σ) : Walk σ := { states := [change start] }

/-- No step at all. -/
def pass (_ : σ) : Walk σ := {}

/-- The operation fails here of its own accord. -/
def fail (_ : σ) : Walk σ := { finished := false }

/-- The second operation starts where the first has ended. -/
def andThen (first second : σ → Walk σ) (start : σ) : Walk σ :=
  if (first start).finished then
    { states := (first start).states ++ (second ((first start).last start)).states
      finished := (second ((first start).last start)).finished }
  else first start

def each (body : α → σ → Walk σ) : List α → σ → Walk σ
  | [] => pass
  | item :: rest => andThen (body item) (each body rest)

/-- The state an exception leaves behind: one from outside that is raised after
`raised` steps, or the operation's own. -/
def brokenOff (walk : Walk σ) (start : σ) (raised : Option ℕ) : Option σ :=
  match raised.filter fun count => decide (count < walk.states.length) with
  | some count => (start :: walk.states)[count]?
  | none => if walk.finished then none else some (walk.last start)

section Rules

variable {first second : σ → Walk σ} {start : σ}

@[simp] theorem last_step (change : σ → σ) (start : σ) :
    (step change start).last start = change start := rfl

@[simp] theorem last_pass (start : σ) : (pass start).last start = start := rfl

theorem last_append (states more : List σ) (finished : Bool) (start : σ) :
    (Walk.mk (states ++ more) finished).last start =
      (Walk.mk more finished).last ((Walk.mk states true).last start) := by
  simp only [last]
  cases more with
  | nil => simp
  | cons state more =>
      rw [List.getLastD_eq_getLast?, List.getLastD_eq_getLast?, List.getLast?_append]
      simp

@[simp] theorem last_andThen (hfirst : (first start).finished = true) :
    (andThen first second start).last start =
      (second ((first start).last start)).last ((first start).last start) := by
  simp only [andThen, hfirst, if_true]
  exact last_append _ _ _ _

@[simp] theorem finished_andThen (hfirst : (first start).finished = true) :
    (andThen first second start).finished =
      (second ((first start).last start)).finished := by
  simp only [andThen, hfirst, if_true]

theorem states_andThen (hfirst : (first start).finished = true) :
    (andThen first second start).states =
      (first start).states ++ (second ((first start).last start)).states := by
  simp only [andThen, hfirst, if_true]

theorem andThen_of_not_finished (hfirst : (first start).finished = false) :
    andThen first second start = first start := by
  simp [andThen, hfirst]

/-- A walk with a step leads to one of its states. -/
theorem last_mem_states {walk : Walk σ} (hsteps : walk.states ≠ []) (start : σ) :
    walk.last start ∈ walk.states := by
  rw [last, List.getLastD_eq_getLast?, List.getLast?_eq_some_getLast hsteps, Option.getD_some]
  exact List.getLast_mem hsteps

/-- Where a walk leads to is its start or one of its states. -/
theorem last_mem (walk : Walk σ) (start : σ) : walk.last start ∈ start :: walk.states := by
  by_cases hsteps : walk.states = []
  · rw [last, hsteps]
    exact List.mem_cons_self
  · exact List.mem_cons_of_mem _ (last_mem_states hsteps start)

/-- How many steps were made. -/
def taken (walk : Walk σ) (raised : Option ℕ) : ℕ :=
  min (raised.getD walk.states.length) walk.states.length

/-- Where the walk was when it was broken off or came to its end. -/
def reached (walk : Walk σ) (start : σ) (raised : Option ℕ) : σ :=
  (walk.brokenOff start raised).getD (walk.last start)

theorem getElem?_last (walk : Walk σ) (start : σ) :
    (start :: walk.states)[walk.states.length]? = some (walk.last start) := by
  obtain ⟨states, finished⟩ := walk
  cases states with
  | nil => rfl
  | cons state rest =>
      simp only [last, List.length_cons, List.getElem?_cons_succ, List.getLastD_cons]
      rw [List.getLastD_eq_getLast?, List.getLast?_eq_getElem?]
      cases rest with
      | nil => rfl
      | cons next rest => simp

/-- An exception that comes too late breaks nothing off. -/
theorem reached_eq_last {walk : Walk σ} {raised : Option ℕ}
    (hlate : ∀ count ∈ raised, walk.states.length ≤ count) (start : σ) :
    walk.reached start raised = walk.last start := by
  have hnone : raised.filter (fun count => decide (count < walk.states.length)) = none := by
    refine Option.filter_eq_none_iff.mpr fun count hcount => ?_
    simpa using hlate count hcount
  unfold reached brokenOff
  rw [hnone]
  dsimp only
  split <;> rfl

/-- The state reached is the one after the steps made. -/
theorem getElem?_reached (walk : Walk σ) (start : σ) (raised : Option ℕ) :
    (start :: walk.states)[walk.taken raised]? = some (walk.reached start raised) := by
  by_cases hlate : ∀ count ∈ raised, walk.states.length ≤ count
  · have htaken : walk.taken raised = walk.states.length := by
      cases raised with
      | none => simp [taken]
      | some count => simpa [taken] using hlate count rfl
    rw [reached_eq_last hlate, htaken, getElem?_last]
  · push Not at hlate
    obtain ⟨count, rfl, hcount⟩ := hlate
    have hsome : (start :: walk.states)[count]? =
        some ((start :: walk.states).get ⟨count, by simp; omega⟩) := by simp
    simp only [taken, reached, brokenOff, Option.getD_some, min_eq_left hcount.le,
      Option.filter_some, hcount, decide_true, if_true, hsome]

/-- A walk in two parts is broken off before its first step, or in one of its parts. -/
theorem reached_cases (walk : Walk σ) (start : σ) (raised : Option ℕ) {early late : List σ}
    (hstates : walk.states = early ++ late) :
    (walk.taken raised = 0 ∧ walk.reached start raised = start) ∨
      (0 < walk.taken raised ∧ walk.taken raised ≤ early.length ∧
        walk.reached start raised ∈ early) ∨
      (early.length < walk.taken raised ∧ walk.reached start raised ∈ late) := by
  have hget := getElem?_reached walk start raised
  rw [hstates] at hget
  rcases htaken : walk.taken raised with _ | count
  · rw [htaken] at hget
    exact .inl ⟨rfl, (Option.some.inj hget).symm⟩
  · rw [htaken, List.getElem?_cons_succ] at hget
    by_cases hcount : count < early.length
    · rw [List.getElem?_append_left hcount] at hget
      exact .inr (.inl ⟨by omega, by omega, List.mem_of_getElem? hget⟩)
    · rw [List.getElem?_append_right (not_lt.mp hcount)] at hget
      exact .inr (.inr ⟨by omega, List.mem_of_getElem? hget⟩)

/-- The walk got beyond some of its steps when nothing was raised within them. -/
theorem lt_taken_iff {walk : Walk σ} {raised : Option ℕ} {bound : ℕ}
    (hbound : bound < walk.states.length) :
    bound < walk.taken raised ↔ ∀ count ∈ raised, bound < count := by
  cases raised with
  | none => simpa [taken] using hbound
  | some count =>
      simp only [taken, Option.getD_some, Option.mem_def, Option.some.injEq, forall_eq', lt_min_iff]
      exact and_iff_left hbound

theorem taken_eq_zero_iff {walk : Walk σ} {raised : Option ℕ} (hsteps : walk.states ≠ []) :
    walk.taken raised = 0 ↔ raised = some 0 := by
  have hpositive := List.length_pos_iff.mpr hsteps
  have hiff : 0 < walk.taken raised ↔ ∀ count ∈ raised, 0 < count := lt_taken_iff hpositive
  cases raised with
  | none =>
      have htaken : 0 < walk.taken none := hiff.mpr fun _ hcount => by cases hcount
      exact iff_of_false htaken.ne' (by simp)
  | some count =>
      simp only [Option.mem_def, Option.some.injEq, forall_eq'] at hiff ⊢
      omega

/-- Every state of a walk, when the walk starts well. -/
structure Keeps (property : σ → Prop) (operation : σ → Walk σ) : Prop where
  states : ∀ start, property start → ∀ state ∈ (operation start).states, property state

theorem Keeps.last {property : σ → Prop} {operation : σ → Walk σ}
    (hkeeps : Keeps property operation) {start : σ} (hstart : property start) :
    property ((operation start).last start) := by
  rcases List.mem_cons.mp ((operation start).last_mem start) with hsame | hlater
  · rw [hsame]
    exact hstart
  · exact hkeeps.states start hstart _ hlater

theorem Keeps.step {property : σ → Prop} {change : σ → σ}
    (hchange : ∀ state, property state → property (change state)) :
    Keeps property (Walk.step change) where
  states start hstart state hstate := by
    rw [List.mem_singleton.mp hstate]
    exact hchange start hstart

theorem Keeps.pass {property : σ → Prop} : Keeps property (Walk.pass : σ → Walk σ) where
  states _ _ _ hstate := by cases hstate

theorem Keeps.fail {property : σ → Prop} : Keeps property (Walk.fail : σ → Walk σ) where
  states _ _ _ hstate := by cases hstate

theorem Keeps.andThen {property : σ → Prop} (hfirst : Keeps property first)
    (hsecond : Keeps property second) : Keeps property (Walk.andThen first second) where
  states start hstart state hstate := by
    cases hfinished : (first start).finished with
    | false =>
        rw [andThen_of_not_finished hfinished] at hstate
        exact hfirst.states start hstart state hstate
    | true =>
        rw [states_andThen hfinished] at hstate
        rcases List.mem_append.mp hstate with hearly | hlate
        · exact hfirst.states start hstart state hearly
        · exact hsecond.states _ (hfirst.last hstart) state hlate

theorem Keeps.each {property : σ → Prop} {body : α → σ → Walk σ} {items : List α}
    (hbody : ∀ item ∈ items, Keeps property (body item)) :
    Keeps property (Walk.each body items) := by
  induction items with
  | nil => exact .pass
  | cons item rest ih =>
      exact (hbody item List.mem_cons_self).andThen
        (ih fun other hother => hbody other (List.mem_cons_of_mem item hother))

end Rules

/-! ## Walks of functions -/

section Follows

variable {ε : Type*} {first second : σ → Walk σ} {f g : σ → Except ε σ}

/-- The walk ends where the function does, and fails when it fails. -/
def Follows (operation : σ → Walk σ) (f : σ → Except ε σ) : Prop :=
  ∀ start, match f start with
    | .ok result => (operation start).finished = true ∧ (operation start).last start = result
    | .error _ => (operation start).finished = false

theorem Follows.step (change : σ → σ) :
    Follows (Walk.step change) fun state => (.ok (change state) : Except ε σ) :=
  fun _ => ⟨rfl, rfl⟩

theorem Follows.pass : Follows (Walk.pass : σ → Walk σ) (.ok : σ → Except ε σ) :=
  fun _ => ⟨rfl, rfl⟩

theorem Follows.andThen (hfirst : Follows first f) (hsecond : Follows second g) :
    Follows (Walk.andThen first second) fun state => f state >>= g := by
  intro start
  have hstart := hfirst start
  simp only [bind, Except.bind]
  cases hf : f start with
  | error failure =>
      simp only [hf] at hstart ⊢
      rw [andThen_of_not_finished hstart]
      exact hstart
  | ok middle =>
      simp only [hf] at hstart ⊢
      have hmiddle := hsecond middle
      cases hg : g middle with
      | error failure =>
          simp only [hg] at hmiddle ⊢
          rw [finished_andThen hstart.1, hstart.2]
          exact hmiddle
      | ok result =>
          simp only [hg] at hmiddle ⊢
          rw [finished_andThen hstart.1, last_andThen hstart.1, hstart.2]
          exact hmiddle

/-- A loop. -/
theorem Follows.each {body : α → σ → Walk σ} {change : σ → α → Except ε σ}
    (hbody : ∀ item, Follows (body item) fun state => change state item) (items : List α) :
    Follows (Walk.each body items) fun state => items.foldlM change state := by
  induction items with
  | nil => exact .pass
  | cons item rest ih =>
      simp only [List.foldlM_cons]
      exact (hbody item).andThen ih

/-- A loop of operations that never fail ends like a fold. -/
theorem Follows.each_ok {body : α → σ → Walk σ} {change : σ → α → σ}
    (hbody : ∀ item, Follows (body item) fun state => (.ok (change state item) : Except ε σ))
    (items : List α) :
    Follows (Walk.each body items) fun state => (.ok (items.foldl change state) : Except ε σ) := by
  induction items with
  | nil => exact .pass
  | cons item rest ih => exact (hbody item).andThen ih

theorem Follows.ok {operation : σ → Walk σ} (hfollows : Follows operation f) {start result : σ}
    (hresult : f start = .ok result) :
    (operation start).finished = true ∧ (operation start).last start = result := by
  have hstart := hfollows start
  rwa [hresult] at hstart

theorem Follows.of_finished {operation : σ → Walk σ} (hfollows : Follows operation f) {start : σ}
    (hfinished : (operation start).finished = true) :
    f start = .ok ((operation start).last start) := by
  have hstart := hfollows start
  cases hf : f start with
  | error failure =>
      rw [hf] at hstart
      rw [show (operation start).finished = false from hstart] at hfinished
      cases hfinished
  | ok result =>
      rw [hf] at hstart
      rw [hstart.2]

end Follows

end Walk
