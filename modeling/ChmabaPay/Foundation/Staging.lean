import Mathlib.Tactic.Common

/-! # Work staged in a session

A call edits rows in a session and commits them in one piece, or fails on the way. Two
copies of the rows are in play, the committed ones and the ones the session sees, and a
failure leaves both where they were. What a call commits is read off a rule for each
construct of its body.
-/

namespace Staging

structure Desk (σ : Type) where
  committed : σ
  staged : σ

abbrev Work (ε σ α : Type) := EStateM ε (Desk σ) α

section Constructs

variable {ε σ α : Type}

/-- A read of the staged rows, which may refuse them. -/
def query (reader : σ → Except ε α) : Work ε σ α := fun desk =>
  match reader desk.staged with
  | .ok value => .ok value desk
  | .error failure => .error failure desk

def stage (edit : σ → σ) : Work ε σ Unit := fun desk =>
  .ok () { desk with staged := edit desk.staged }

def commit : Work ε σ Unit := fun desk => .ok () { desk with committed := desk.staged }

/-- A call in a session of its own: the rows it leaves committed, and its answer. -/
def call (work : Work ε σ α) (rows : σ) : σ × Except ε α :=
  match work ⟨rows, rows⟩ with
  | .ok value desk => (desk.committed, .ok value)
  | .error failure desk => (desk.committed, .error failure)

end Constructs

/-! ## Work that only stages -/

/-- Over the committed rows, from staged rows of a kind, the work commits nothing; what
it stages is said where it does not fail. -/
def Stages {ε σ α : Type} (rows : σ) (before : σ → Prop) (work : Work ε σ α)
    (after : α → σ → Prop) : Prop :=
  ∀ staged, before staged →
    match work ⟨rows, staged⟩ with
    | .ok value desk => desk.committed = rows ∧ after value desk.staged
    | .error _ desk => desk.committed = rows

section Rules

variable {ε σ α β : Type} {rows : σ} {before : σ → Prop}

theorem Stages.pure {value : α} {after : α → σ → Prop}
    (hafter : ∀ staged, before staged → after value staged) :
    Stages (ε := ε) rows before (pure value) after :=
  fun staged hbefore => ⟨rfl, hafter staged hbefore⟩

theorem Stages.query {reader : σ → Except ε α} {after : α → σ → Prop}
    (hafter : ∀ staged value, before staged → reader staged = .ok value → after value staged) :
    Stages rows before (query reader) after := by
  intro staged hbefore
  unfold Staging.query
  cases hread : reader staged with
  | error failure => simp only
  | ok value =>
      simp only
      exact ⟨trivial, hafter staged value hbefore hread⟩

theorem Stages.stage {edit : σ → σ} {after : Unit → σ → Prop}
    (hafter : ∀ staged, before staged → after () (edit staged)) :
    Stages (ε := ε) rows before (stage edit) after :=
  fun staged hbefore => ⟨rfl, hafter staged hbefore⟩

theorem Stages.bind {first : Work ε σ α} {rest : α → Work ε σ β} {middle : α → σ → Prop}
    {after : β → σ → Prop} (hfirst : Stages rows before first middle)
    (hrest : ∀ value, Stages rows (middle value) (rest value) after) :
    Stages rows before (first >>= rest) after := by
  intro staged hbefore
  have hstaged := hfirst staged hbefore
  change match EStateM.bind first rest ⟨rows, staged⟩ with
    | .ok value desk => desk.committed = rows ∧ after value desk.staged
    | .error _ desk => desk.committed = rows
  unfold EStateM.bind
  cases hrun : first ⟨rows, staged⟩ with
  | error failure desk =>
      rw [hrun] at hstaged
      exact hstaged
  | ok value desk =>
      rw [hrun] at hstaged
      obtain ⟨hcommitted, hmiddle⟩ := hstaged
      obtain ⟨committed, later⟩ := desk
      obtain rfl : committed = rows := hcommitted
      exact hrest value later hmiddle

theorem Stages.query_bind {reader : σ → Except ε α} {rest : α → Work ε σ β}
    {after : β → σ → Prop}
    (hrest : ∀ value, Stages rows (fun staged => before staged ∧ reader staged = .ok value)
      (rest value) after) :
    Stages rows before (Staging.query reader >>= rest) after :=
  Stages.bind (Stages.query fun _ _ hbefore hread => ⟨hbefore, hread⟩) hrest

theorem Stages.stage_bind {edit : σ → σ} {rest : Unit → Work ε σ β} {after : β → σ → Prop}
    (hrest : Stages rows (fun later => ∃ staged, before staged ∧ edit staged = later)
      (rest ()) after) :
    Stages rows before (Staging.stage edit >>= rest) after := by
  have hstaged : Stages (ε := ε) rows before (Staging.stage edit) fun _ later =>
      ∃ staged, before staged ∧ edit staged = later :=
    Stages.stage fun staged hbefore => ⟨staged, hbefore, rfl⟩
  exact Stages.bind hstaged fun _ => hrest

/-- Work done for one item after the other, under an invariant of the items done. -/
theorem Stages.forM {work : α → Work ε σ PUnit} (invariant : List α → σ → Prop)
    (items : List α)
    (hwork : ∀ done item rest, items = done ++ item :: rest →
      Stages rows (invariant done) (work item) fun _ => invariant (done ++ [item]))
    (hbefore : ∀ staged, before staged → invariant [] staged) :
    Stages rows before (items.forM work) fun _ => invariant items := by
  -- the items done so far are carried along the list
  have hfrom : ∀ rest done, items = done ++ rest →
      Stages rows (invariant done) (rest.forM work) fun _ => invariant items := by
    intro rest
    induction rest with
    | nil =>
        intro done hdone
        obtain rfl : items = done := by simpa using hdone
        exact Stages.pure fun _ hinvariant => hinvariant
    | cons item rest ih =>
        intro done hdone
        refine Stages.bind (hwork done item rest hdone) fun _ => ?_
        exact ih (done ++ [item]) (by simp [hdone])
  intro staged hstaged
  exact hfrom items [] rfl staged (hbefore staged hstaged)

theorem Stages.imp {work : Work ε σ α} {stronger : σ → Prop} {after weaker : α → σ → Prop}
    (hwork : Stages rows before work after) (hbefore : ∀ staged, stronger staged → before staged)
    (hafter : ∀ value staged, after value staged → weaker value staged) :
    Stages rows stronger work weaker := by
  intro staged hstaged
  have hresult := hwork staged (hbefore staged hstaged)
  cases hrun : work ⟨rows, staged⟩ with
  | error failure desk =>
      rw [hrun] at hresult
      exact hresult
  | ok value desk =>
      rw [hrun] at hresult
      exact ⟨hresult.1, hafter value desk.staged hresult.2⟩

end Rules

/-! ## Whole calls -/

/-- Over the committed rows, from staged rows of a kind, the work commits what it says
where it does not fail, and nothing where it does. -/
def Commits {ε σ α : Type} (rows : σ) (before : σ → Prop) (work : Work ε σ α)
    (concluded : α → σ → Prop) : Prop :=
  ∀ staged, before staged →
    match work ⟨rows, staged⟩ with
    | .ok value desk => concluded value desk.committed
    | .error _ desk => desk.committed = rows

section Calls

variable {ε σ α β : Type} {rows : σ} {before : σ → Prop}

theorem Commits.bind {first : Work ε σ α} {rest : α → Work ε σ β} {middle : α → σ → Prop}
    {concluded : β → σ → Prop} (hfirst : Stages rows before first middle)
    (hrest : ∀ value, Commits rows (middle value) (rest value) concluded) :
    Commits rows before (first >>= rest) concluded := by
  intro staged hbefore
  have hstaged := hfirst staged hbefore
  change match EStateM.bind first rest ⟨rows, staged⟩ with
    | .ok value desk => concluded value desk.committed
    | .error _ desk => desk.committed = rows
  unfold EStateM.bind
  cases hrun : first ⟨rows, staged⟩ with
  | error failure desk =>
      rw [hrun] at hstaged
      exact hstaged
  | ok value desk =>
      rw [hrun] at hstaged
      obtain ⟨hcommitted, hmiddle⟩ := hstaged
      obtain ⟨committed, later⟩ := desk
      obtain rfl : committed = rows := hcommitted
      exact hrest value later hmiddle

/-- A fact beside the staged rows is at hand for the rest. -/
theorem Commits.assume {work : Work ε σ α} {concluded : α → σ → Prop} {fact : Prop}
    (hwork : fact → Commits rows before work concluded) :
    Commits rows (fun staged => before staged ∧ fact) work concluded :=
  fun staged hbefore => hwork hbefore.2 staged hbefore.1

/-- A read of staged rows that are known. -/
theorem Commits.query_at {here : σ} {reader : σ → Except ε α} {rest : α → Work ε σ β}
    {concluded : β → σ → Prop}
    (hrest : ∀ value, reader here = .ok value → Commits rows (· = here) (rest value) concluded) :
    Commits rows (· = here) (Staging.query reader >>= rest) concluded := by
  have hread : Stages rows (· = here) (Staging.query reader) fun value staged =>
      staged = here ∧ reader here = .ok value := by
    refine Stages.query fun staged value hstaged hvalue => ?_
    subst hstaged
    exact ⟨rfl, hvalue⟩
  refine Commits.bind hread fun value staged hstaged => ?_
  exact hrest value hstaged.2 staged hstaged.1

/-- An edit of staged rows that are known. -/
theorem Commits.stage_at {here : σ} {edit : σ → σ} {rest : Unit → Work ε σ β}
    {concluded : β → σ → Prop}
    (hrest : Commits rows (· = edit here) (rest ()) concluded) :
    Commits rows (· = here) (Staging.stage edit >>= rest) concluded := by
  have hstaged : Stages (ε := ε) rows (· = here) (Staging.stage edit) fun _ => (· = edit here) :=
    Stages.stage fun staged hstaged => congrArg edit hstaged
  exact Commits.bind hstaged fun _ => hrest

/-- A read, for what does not depend on its answer. -/
theorem Commits.query_keeping {reader : σ → Except ε α} {rest : α → Work ε σ β}
    {concluded : β → σ → Prop} (hrest : ∀ value, Commits rows before (rest value) concluded) :
    Commits rows before (Staging.query reader >>= rest) concluded :=
  Commits.bind (Stages.query fun _ _ hbefore _ => hbefore) hrest

/-- An edit that keeps what holds of the staged rows. -/
theorem Commits.stage_keeping {edit : σ → σ} {rest : Unit → Work ε σ β}
    {concluded : β → σ → Prop} (hedit : ∀ staged, before staged → before (edit staged))
    (hrest : Commits rows before (rest ()) concluded) :
    Commits rows before (Staging.stage edit >>= rest) concluded := by
  have hstaged : Stages (ε := ε) rows before (Staging.stage edit) fun _ => before :=
    Stages.stage hedit
  exact Commits.bind hstaged fun _ => hrest

/-- The one commit, and the answer after it. -/
theorem Commits.commit {value : α} {concluded : α → σ → Prop}
    (hconcluded : ∀ staged, before staged → concluded value staged) :
    Commits (ε := ε) rows before (do commit; return value) concluded := by
  intro staged hbefore
  exact hconcluded staged hbefore

/-- An answer without a commit. -/
theorem Commits.pure {value : α} {concluded : α → σ → Prop}
    (hconcluded : ∀ staged, before staged → concluded value rows) :
    Commits (ε := ε) rows before (pure value) concluded := by
  intro staged hbefore
  exact hconcluded staged hbefore

theorem Commits.imp {work : Work ε σ α} {concluded weaker : α → σ → Prop}
    (hwork : Commits rows before work concluded)
    (himp : ∀ value committed, concluded value committed → weaker value committed) :
    Commits rows before work weaker := by
  intro staged hbefore
  have hresult := hwork staged hbefore
  cases hrun : work ⟨rows, staged⟩ with
  | error failure desk =>
      rw [hrun] at hresult
      exact hresult
  | ok value desk =>
      rw [hrun] at hresult
      exact himp value desk.committed hresult

/-- What a call leaves: the rows of before where it fails. -/
theorem Commits.call {work : Work ε σ α} {concluded : α → σ → Prop}
    (hwork : Commits rows (· = rows) work concluded) :
    (∃ value, (call work rows).2 = .ok value ∧ concluded value (call work rows).1) ∨
      ∃ failure, call work rows = (rows, .error failure) := by
  have hcommits := hwork rows rfl
  unfold Staging.call
  cases hrun : work ⟨rows, rows⟩ with
  | error failure desk =>
      rw [hrun] at hcommits
      simp only at hcommits ⊢
      exact .inr ⟨failure, by rw [hcommits]⟩
  | ok value desk =>
      rw [hrun] at hcommits
      exact .inl ⟨value, rfl, hcommits⟩

end Calls

end Staging
