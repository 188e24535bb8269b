import ChmabaPay.Foundation.Execution

/-! # Interleaved sessions

Any number of sessions take turns on a shared state. A schedule opens sessions
and lets one of them take its next step, in any order. An invariant of every
schedule has three obligations: a session starts in it, a session's own step
keeps it, and so does a step of any other session.
-/

namespace Interleaving

open Execution

variable {κ σ ρ τ : Type*}

/-- The shared state and the sessions opened so far. -/
structure Pool (κ σ : Type*) where
  shared : κ
  sessions : List σ

/-- One choice of the scheduler. A step may read something from outside. -/
inductive Turn (ρ τ : Type*) where
  | start (request : ρ)
  | advance (index : ℕ) (reading : τ)

/-- How a session begins, and what its next step does to the shared state and
to itself. -/
structure Machine (κ σ ρ τ : Type*) where
  start : ρ → σ
  advance : κ → τ → σ → κ × σ

/-- One turn. Nothing happens when no session stands at the index. -/
def Machine.step (machine : Machine κ σ ρ τ) (pool : Pool κ σ) :
    Turn ρ τ → Pool κ σ × Unit
  | .start request => ({ pool with sessions := pool.sessions ++ [machine.start request] }, ())
  | .advance index reading =>
      match pool.sessions[index]? with
      | none => (pool, ())
      | some session =>
          let moved := machine.advance pool.shared reading session
          (⟨moved.1, pool.sessions.set index moved.2⟩, ())

theorem next_advance_of_none {machine : Machine κ σ ρ τ} {pool : Pool κ σ} {index : ℕ}
    (hnone : pool.sessions[index]? = none) (reading : τ) :
    next machine.step pool (.advance index reading) = pool := by
  simp [next, Machine.step, hnone]

theorem next_advance_of_some {machine : Machine κ σ ρ τ} {pool : Pool κ σ} {index : ℕ}
    {session : σ} (hat : pool.sessions[index]? = some session) (reading : τ) :
    next machine.step pool (.advance index reading) =
      ⟨(machine.advance pool.shared reading session).1,
        pool.sessions.set index (machine.advance pool.shared reading session).2⟩ := by
  simp [next, Machine.step, hat]

/-- The shared state and every session are as they should be. -/
def Pool.Holds (common : κ → Prop) (valid : κ → σ → Prop) (pool : Pool κ σ) : Prop :=
  common pool.shared ∧ ∀ session ∈ pool.sessions, valid pool.shared session

/-- A turn opens an admitted session, or lets a session take a step that meets
the condition. -/
def Meets (admitted : ρ → Prop) (condition : κ → τ → σ → Prop) (pool : Pool κ σ) :
    Turn ρ τ → Prop
  | .start request => admitted request
  | .advance index reading => ∀ session, pool.sessions[index]? = some session →
      condition pool.shared reading session

instance (admitted : ρ → Prop) (condition : κ → τ → σ → Prop) [DecidablePred admitted]
    [∀ shared reading session, Decidable (condition shared reading session)]
    (pool : Pool κ σ) : ∀ turn, Decidable (Meets admitted condition pool turn)
  | .start request => inferInstanceAs (Decidable (admitted request))
  | .advance index reading =>
      inferInstanceAs (Decidable (∀ session ∈ pool.sessions[index]?,
        condition pool.shared reading session))

/-- The obligations of an invariant over every schedule. -/
structure Preserved (machine : Machine κ σ ρ τ) (admitted : ρ → Prop)
    (condition : κ → τ → σ → Prop) (common : κ → Prop) (valid : κ → σ → Prop) : Prop where
  start : ∀ shared request, common shared → admitted request →
    valid shared (machine.start request)
  own : ∀ shared reading session, common shared → valid shared session →
    condition shared reading session →
    common (machine.advance shared reading session).1 ∧
      valid (machine.advance shared reading session).1
        (machine.advance shared reading session).2
  other : ∀ shared reading session bystander, common shared → valid shared session →
    condition shared reading session → valid shared bystander →
    valid (machine.advance shared reading session).1 bystander

section Preserved

variable {machine : Machine κ σ ρ τ} {admitted : ρ → Prop} {condition : κ → τ → σ → Prop}
  {common : κ → Prop} {valid : κ → σ → Prop}

theorem Preserved.step (hpreserved : Preserved machine admitted condition common valid)
    (pool : Pool κ σ) (turn : Turn ρ τ) (hpool : pool.Holds common valid)
    (hmeets : Meets admitted condition pool turn) :
    (next machine.step pool turn).Holds common valid := by
  obtain ⟨hcommon, hvalid⟩ := hpool
  cases turn with
  | start request =>
      refine ⟨hcommon, fun session hsession => ?_⟩
      rcases List.mem_append.mp hsession with hold | hnew
      · exact hvalid session hold
      · rw [List.mem_singleton.mp hnew]
        exact hpreserved.start pool.shared request hcommon hmeets
  | advance index reading =>
      cases hat : pool.sessions[index]? with
      | none =>
          rw [next_advance_of_none hat]
          exact ⟨hcommon, hvalid⟩
      | some session =>
          rw [next_advance_of_some hat]
          have hsession := hvalid session (List.mem_of_getElem? hat)
          have hown := hpreserved.own pool.shared reading session hcommon hsession
            (hmeets session hat)
          refine ⟨hown.1, fun member hmember => ?_⟩
          -- either the session that moved or one that only watched
          rcases List.mem_or_eq_of_mem_set hmember with hold | hnew
          · exact hpreserved.other pool.shared reading session member hcommon hsession
              (hmeets session hat) (hvalid member hold)
          · rw [hnew]
            exact hown.2

theorem Preserved.run (hpreserved : Preserved machine admitted condition common valid)
    {pool : Pool κ σ} (hpool : pool.Holds common valid) {turns : List (Turn ρ τ)}
    (halong : Along machine.step (Meets admitted condition) pool turns) :
    (run machine.step pool turns).Holds common valid :=
  run_invariant_of_along _ _ hpreserved.step hpool halong

/-- What a turn does to the shared state is what the session that moves does to it. -/
theorem next_iff_meets {pool : Pool κ σ} (property : κ → Prop) (hidle : property pool.shared)
    (hadvance : ∀ reading, ∀ session ∈ pool.sessions,
      (property (machine.advance pool.shared reading session).1 ↔
        condition pool.shared reading session)) (turn : Turn ρ τ) :
    property (next machine.step pool turn).shared ↔ Meets (fun _ => True) condition pool turn := by
  cases turn with
  | start request => exact iff_of_true hidle trivial
  | advance index reading =>
      cases hat : pool.sessions[index]? with
      | none =>
          rw [next_advance_of_none hat]
          refine iff_of_true hidle fun session hsession => ?_
          rw [hat] at hsession
          cases hsession
      | some session =>
          rw [next_advance_of_some hat, hadvance reading session (List.mem_of_getElem? hat)]
          constructor
          · intro hcondition found hfound
            rwa [← Option.some.inj (hat.symm.trans hfound)]
          · intro hmeets
            exact hmeets session hat

/-- A run without a condition on its turns. -/
theorem along_meets_true (machine : Machine κ σ ρ τ) (pool : Pool κ σ)
    (turns : List (Turn ρ τ)) :
    Along machine.step (Meets (fun _ => True) fun _ _ _ => True) pool turns := by
  induction turns generalizing pool with
  | nil => trivial
  | cons turn rest ih =>
      refine ⟨?_, ih _⟩
      cases turn with
      | start request => trivial
      | advance index reading => exact fun _ _ => trivial

/-- Whoever carries something before a turn still does, unless it is the session
that moved. -/
theorem Pool.mem_set_or_eq {pool : Pool κ σ} {index : ℕ} {session carrier : σ}
    (hat : pool.sessions[index]? = some session) (hcarrier : carrier ∈ pool.sessions) (moved : σ) :
    carrier = session ∨ carrier ∈ pool.sessions.set index moved := by
  obtain ⟨position, hposition, rfl⟩ := List.getElem_of_mem hcarrier
  by_cases hindex : index = position
  · subst hindex
    rw [List.getElem?_eq_getElem hposition] at hat
    exact .inl (Option.some.inj hat)
  · refine .inr (List.mem_iff_getElem.mpr ⟨position, by simpa using hposition, ?_⟩)
    rw [List.getElem_set_ne hindex]

theorem Pool.getElem?_set_self {pool : Pool κ σ} {index : ℕ} {session : σ}
    (hat : pool.sessions[index]? = some session) (moved : σ) :
    (pool.sessions.set index moved)[index]? = some moved :=
  List.getElem?_set_self (List.getElem?_eq_some_iff.mp hat).1

theorem Pool.mem_set_self {pool : Pool κ σ} {index : ℕ} {session : σ}
    (hat : pool.sessions[index]? = some session) (moved : σ) :
    moved ∈ pool.sessions.set index moved :=
  List.mem_set (List.getElem?_eq_some_iff.mp hat).1 moved

/-- A session of the pool is the one at a place or one of the others. -/
theorem Pool.mem_or_eq {pool : Pool κ σ} {index : ℕ} {session found : σ}
    (hat : pool.sessions[index]? = some session) (hfound : found ∈ pool.sessions) :
    found = session ∨ found ∈ pool.sessions.eraseIdx index := by
  obtain ⟨position, hposition⟩ := List.mem_iff_getElem?.mp hfound
  by_cases hindex : position = index
  · rw [hindex, hat] at hposition
    exact .inl (Option.some.inj hposition).symm
  · exact .inr (List.mem_eraseIdx_iff_getElem?.mpr ⟨position, hindex, hposition⟩)

/-- After a turn a place holds the session that moved or one that only watched. -/
theorem Pool.getElem?_set_cases {sessions : List σ} {index position : ℕ} {moved found : σ}
    (hfound : (sessions.set index moved)[position]? = some found) :
    position = index ∧ found = moved ∨ position ≠ index ∧ sessions[position]? = some found := by
  by_cases hindex : index = position
  · rw [List.getElem?_set, if_pos hindex] at hfound
    split at hfound
    · exact .inl ⟨hindex.symm, (Option.some.inj hfound).symm⟩
    · cases hfound
  · rw [List.getElem?_set_ne hindex] at hfound
    exact .inr ⟨Ne.symm hindex, hfound⟩

/-- All sessions are good after a turn when they were before and the one that moved
stayed so. -/
theorem Pool.forall_mem_set_iff {sessions : List σ} {index : ℕ} {session moved : σ}
    (hat : sessions[index]? = some session) {good : σ → Prop} {condition : Prop}
    (hmoved : good moved ↔ good session ∧ condition) :
    (∀ member ∈ sessions.set index moved, good member) ↔
      (∀ member ∈ sessions, good member) ∧ condition := by
  have hin : moved ∈ sessions.set index moved :=
    List.mem_set (List.getElem?_eq_some_iff.mp hat).1 moved
  constructor
  · intro hall
    obtain ⟨hsession, hcondition⟩ := hmoved.mp (hall moved hin)
    refine ⟨fun member hmember => ?_, hcondition⟩
    obtain ⟨position, hposition⟩ := List.mem_iff_getElem?.mp hmember
    by_cases hindex : index = position
    · subst hindex
      rw [hat] at hposition
      exact Option.some.inj hposition ▸ hsession
    · refine hall member (List.mem_iff_getElem?.mpr ⟨position, ?_⟩)
      rw [List.getElem?_set_ne hindex]
      exact hposition
  · rintro ⟨hall, hcondition⟩ member hmember
    rcases List.mem_or_eq_of_mem_set hmember with hold | rfl
    · exact hall member hold
    · exact hmoved.mpr ⟨hall session (List.mem_of_getElem? hat), hcondition⟩

/-! ### What only one session may hold -/

section Apart

variable {β : Type*} (holds : σ → β → Prop)

/-- No two sessions hold the same thing. -/
def Pool.Apart (pool : Pool κ σ) : Prop :=
  ∀ (index other : ℕ) (session session' : σ), pool.sessions[index]? = some session →
    pool.sessions[other]? = some session' → ∀ thing, holds session thing →
    holds session' thing → index = other

variable {holds}

/-- A session that starts with nothing takes nothing from the others. -/
theorem Pool.Apart.append {pool : Pool κ σ} (hapart : pool.Apart holds) {session : σ}
    (hempty : ∀ thing, ¬ holds session thing) :
    Pool.Apart holds ⟨pool.shared, pool.sessions ++ [session]⟩ := by
  have hbefore : ∀ (position : ℕ) (found : σ),
      (pool.sessions ++ [session])[position]? = some found →
      ∀ thing, holds found thing → pool.sessions[position]? = some found := by
    intro position found hfound thing hholds
    rw [List.getElem?_append] at hfound
    split at hfound
    · exact hfound
    · obtain rfl := List.mem_singleton.mp (List.mem_of_getElem? hfound)
      exact absurd hholds (hempty thing)
  intro index other found found' hindex hother thing hholds hholds'
  exact hapart index other found found' (hbefore index found hindex thing hholds)
    (hbefore other found' hother thing hholds') thing hholds hholds'

/-- A session may go on holding what it held, and may take what nobody holds. -/
theorem Pool.Apart.set {pool : Pool κ σ} (hapart : pool.Apart holds) {index : ℕ}
    {session moved : σ} (hat : pool.sessions[index]? = some session) (shared : κ)
    (hmoved : ∀ thing, holds moved thing → holds session thing ∨
      ∀ other ∈ pool.sessions.eraseIdx index, ¬ holds other thing) :
    Pool.Apart holds ⟨shared, pool.sessions.set index moved⟩ := by
  have hothers : ∀ (position : ℕ) (found : σ), position ≠ index →
      pool.sessions[position]? = some found → ∀ thing, holds moved thing → ¬ holds found thing := by
    intro position found hne hfound thing hholds hfoundHolds
    rcases hmoved thing hholds with hheld | hfree
    · exact hne (hapart position index found session hfound hat thing hfoundHolds hheld)
    · exact hfree found (List.mem_eraseIdx_iff_getElem?.mpr ⟨position, hne, hfound⟩) hfoundHolds
  intro first second found found' hfirst hsecond thing hholds hholds'
  rcases Pool.getElem?_set_cases hfirst with ⟨rfl, rfl⟩ | ⟨hne, hold⟩
  · rcases Pool.getElem?_set_cases hsecond with ⟨rfl, -⟩ | ⟨hne', hold'⟩
    · rfl
    · exact absurd hholds' (hothers second found' hne' hold' thing hholds)
  · rcases Pool.getElem?_set_cases hsecond with ⟨rfl, rfl⟩ | ⟨-, hold'⟩
    · exact absurd hholds (hothers first found hne hold thing hholds')
    · exact hapart first second found found' hold hold' thing hholds hholds'

/-- Holding less, or holding it under other names, keeps sessions apart. -/
theorem Pool.Apart.map {γ : Type*} {holds' : σ → γ → Prop} {pool : Pool κ σ}
    (hapart : pool.Apart holds) (shift : γ → β)
    (hshift : ∀ session ∈ pool.sessions, ∀ thing, holds' session thing →
      holds session (shift thing)) : pool.Apart holds' :=
  fun index other session session' hindex hother thing hholds hholds' =>
    hapart index other session session' hindex hother (shift thing)
      (hshift session (List.mem_of_getElem? hindex) thing hholds)
      (hshift session' (List.mem_of_getElem? hother) thing hholds')

end Apart

/-- What the sessions hold of something, all together. -/
def Pool.tally (pool : Pool κ σ) (measure : σ → ℕ) : ℕ := (pool.sessions.map measure).sum

/-- A turn changes a tally by what it changes in the session that moves. -/
theorem Pool.tally_set {pool : Pool κ σ} {index : ℕ} {session : σ}
    (hat : pool.sessions[index]? = some session) (measure : σ → ℕ) (shared : κ) (moved : σ) :
    Pool.tally ⟨shared, pool.sessions.set index moved⟩ measure + measure session =
      pool.tally measure + measure moved := by
  obtain ⟨hindex, rfl⟩ := List.getElem?_eq_some_iff.mp hat
  have hbefore := ((List.getElem_cons_eraseIdx_perm hindex).map measure).sum_eq
  have hafter := ((List.set_perm_cons_eraseIdx hindex moved).map measure).sum_eq
  simp only [List.map_cons, List.sum_cons] at hbefore hafter
  simp only [Pool.tally]
  omega

/-- A pool without sessions holds as soon as its shared state does. -/
theorem Pool.holds_of_idle {pool : Pool κ σ} (hcommon : common pool.shared)
    (hidle : pool.sessions = []) : pool.Holds common valid := by
  refine ⟨hcommon, fun session hsession => ?_⟩
  rw [hidle] at hsession
  cases hsession

end Preserved

end Interleaving
