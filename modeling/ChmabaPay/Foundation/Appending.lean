import ChmabaPay.Foundation.Interleaving

/-! # Lists appended to by copy

Sessions copy a shared list and later write it back with an entry of their own at the
end. As long as everyone who writes back still holds the list as it is, the list is a
rearrangement of all that was entered. The first who does not makes it too short, and so
is every copy from then on: what is lost never comes back.
-/

namespace Interleaving

open Execution

variable {κ σ ρ τ α : Type*}

/-- Replacing a session by one that picks the same changes nothing of what is picked. -/
theorem Pool.filterMap_set_perm {sessions : List σ} {index : ℕ} {session moved : σ}
    (hat : sessions[index]? = some session) {pick : σ → Option α}
    (hsame : pick moved = pick session) :
    ((sessions.set index moved).filterMap pick).Perm (sessions.filterMap pick) := by
  obtain ⟨hindex, rfl⟩ := List.getElem?_eq_some_iff.mp hat
  have hbefore := (List.getElem_cons_eraseIdx_perm hindex).filterMap pick
  have hafter := (List.set_perm_cons_eraseIdx hindex moved).filterMap pick
  rw [List.filterMap_cons] at hbefore hafter
  rw [hsame] at hafter
  exact hafter.trans hbefore

/-- A session that starts to be picked adds what is picked of it. -/
theorem Pool.filterMap_set_perm_cons {sessions : List σ} {index : ℕ} {session moved : σ}
    (hat : sessions[index]? = some session) {pick : σ → Option α} {added : α}
    (hbefore : pick session = none) (hafter : pick moved = some added) :
    ((sessions.set index moved).filterMap pick).Perm (added :: sessions.filterMap pick) := by
  obtain ⟨hindex, rfl⟩ := List.getElem?_eq_some_iff.mp hat
  have hold := (List.getElem_cons_eraseIdx_perm hindex).filterMap pick
  have hnew := (List.set_perm_cons_eraseIdx hindex moved).filterMap pick
  rw [List.filterMap_cons_none hbefore] at hold
  rw [List.filterMap_cons_some hafter] at hnew
  exact hnew.trans (hold.cons added)

/-- A list that the sessions of a machine append to. A step leaves the list alone, and at
most takes a copy of it; or it writes an entry behind the copy the session holds. -/
structure Appending (machine : Machine κ σ ρ τ) (α : Type*) where
  listed : κ → List α
  copy : σ → Option (List α)
  entry : σ → Option α
  /-- What a step has to meet when it writes: its copy is the list. -/
  upToDate : κ → τ → σ → Prop
  start : ∀ request, copy (machine.start request) = none ∧ entry (machine.start request) = none
  advance : ∀ shared reading session,
    (listed (machine.advance shared reading session).1 = listed shared ∧
      entry (machine.advance shared reading session).2 = entry session ∧
      (∀ held, copy (machine.advance shared reading session).2 = some held →
        copy session = some held ∨ held = listed shared) ∧
      upToDate shared reading session) ∨
    ∃ held added, copy session = some held ∧ entry session = none ∧
      listed (machine.advance shared reading session).1 = held ++ [added] ∧
      copy (machine.advance shared reading session).2 = none ∧
      entry (machine.advance shared reading session).2 = some added ∧
      (upToDate shared reading session ↔ held = listed shared)

namespace Appending

variable {machine : Machine κ σ ρ τ} (appending : Appending machine α) {before : List α}
  {pool : Pool κ σ} {turn : Turn ρ τ}

/-- What the sessions have entered. -/
def entered (pool : Pool κ σ) : List α := pool.sessions.filterMap appending.entry

/-- The list is what there was and what has been entered, in some order. -/
structure Whole (before : List α) (pool : Pool κ σ) : Prop where
  listed : (before ++ appending.entered pool).Perm (appending.listed pool.shared)
  copies : ∀ session ∈ pool.sessions, ∀ held, appending.copy session = some held →
    held <+: appending.listed pool.shared

/-- The list is too short for that, and so is every copy of it. -/
structure Short (before : List α) (pool : Pool κ σ) : Prop where
  listed : (appending.listed pool.shared).length < (before ++ appending.entered pool).length
  copies : ∀ session ∈ pool.sessions, ∀ held, appending.copy session = some held →
    held.length < (before ++ appending.entered pool).length

variable {appending}

variable (appending) in
theorem entered_append_start (shared : κ) (sessions : List σ) (request : ρ) :
    appending.entered ⟨shared, sessions ++ [machine.start request]⟩ =
      appending.entered ⟨shared, sessions⟩ := by
  rw [entered, entered, List.filterMap_append,
    List.filterMap_cons_none (appending.start request).2, List.filterMap_nil, List.append_nil]

/-- A session that has just begun holds no copy. -/
theorem forall_copy_append_start {sessions : List σ} (request : ρ) {good : List α → Prop}
    (hall : ∀ session ∈ sessions, ∀ held, appending.copy session = some held → good held) :
    ∀ session ∈ sessions ++ [machine.start request], ∀ held,
      appending.copy session = some held → good held := by
  intro session hsession held hcopy
  rcases List.mem_append.mp hsession with hold | hnew
  · exact hall session hold held hcopy
  · rw [List.mem_singleton.mp hnew, (appending.start request).1] at hcopy
    cases hcopy

/-- What holds of every copy holds of them after a turn when it does of the copy that the
moved session is left with. -/
theorem forall_copy_set {sessions : List σ} {index : ℕ} {moved : σ} {good good' : List α → Prop}
    (hall : ∀ session ∈ sessions, ∀ held, appending.copy session = some held → good held)
    (hweaker : ∀ held, good held → good' held)
    (hmoved : ∀ held, appending.copy moved = some held → good' held) :
    ∀ session ∈ sessions.set index moved, ∀ held,
      appending.copy session = some held → good' held := by
  intro session hsession held hcopy
  rcases List.mem_or_eq_of_mem_set hsession with hold | hnew
  · exact hweaker held (hall session hold held hcopy)
  · rw [hnew] at hcopy
    exact hmoved held hcopy

/-! ### One session moves -/

section Moving

variable {index : ℕ} {session moved : σ} {shared' : κ} {held : List α} {added : α}

/-- A session that leaves the list alone enters nothing either. -/
theorem length_entered_set (before : List α) (shared' : κ)
    (hat : pool.sessions[index]? = some session)
    (hentry : appending.entry moved = appending.entry session) :
    (before ++ appending.entered ⟨shared', pool.sessions.set index moved⟩).length =
      (before ++ appending.entered pool).length := by
  have hlength := (Pool.filterMap_set_perm hat hentry).length_eq
  simp only [entered, List.length_append, hlength]

/-- A session that writes enters one thing. -/
theorem length_entered_set_cons (before : List α) (shared' : κ)
    (hat : pool.sessions[index]? = some session)
    (hfresh : appending.entry session = none) (hentry : appending.entry moved = some added) :
    (before ++ appending.entered ⟨shared', pool.sessions.set index moved⟩).length =
      (before ++ appending.entered pool).length + 1 := by
  have hlength := (Pool.filterMap_set_perm_cons hat hfresh hentry).length_eq
  rw [List.length_cons] at hlength
  simp only [entered, List.length_append, hlength]
  omega

/-- A session that leaves the list alone, holding no copy but its own or one of the list
as it is, keeps it too short. -/
theorem Short.left (hshort : appending.Short before pool)
    (hat : pool.sessions[index]? = some session)
    (hleft : appending.listed shared' = appending.listed pool.shared)
    (hentry : appending.entry moved = appending.entry session)
    (hcopy : ∀ held, appending.copy moved = some held →
      appending.copy session = some held ∨ held = appending.listed pool.shared) :
    appending.Short before ⟨shared', pool.sessions.set index moved⟩ := by
  have hlength := length_entered_set before shared' hat hentry
  constructor
  · rw [hlength, hleft]
    exact hshort.listed
  · rw [hlength]
    refine forall_copy_set hshort.copies (fun _ hless => hless) fun held hheld => ?_
    rcases hcopy held hheld with hown | rfl
    · exact hshort.copies session (List.mem_of_getElem? hat) held hown
    · exact hshort.listed

/-- Writing back a copy that is too short makes the list as long as what was there, while
one thing more has been entered. -/
theorem Short.wrote (hat : pool.sessions[index]? = some session)
    (hbelow : ∀ session ∈ pool.sessions, ∀ held, appending.copy session = some held →
      held.length ≤ (before ++ appending.entered pool).length)
    (hless : held.length < (before ++ appending.entered pool).length)
    (hfresh : appending.entry session = none) (hentry : appending.entry moved = some added)
    (hwritten : appending.listed shared' = held ++ [added])
    (hdone : appending.copy moved = none) :
    appending.Short before ⟨shared', pool.sessions.set index moved⟩ := by
  have hlength := length_entered_set_cons before shared' hat hfresh hentry
  constructor
  · rw [hlength, hwritten, List.length_append, List.length_singleton]
    omega
  · rw [hlength]
    refine forall_copy_set hbelow (fun copied hcopied => ?_) fun other hother => ?_
    · exact Nat.lt_succ_of_le hcopied
    · rw [hdone] at hother
      cases hother

theorem Whole.left (hwhole : appending.Whole before pool)
    (hat : pool.sessions[index]? = some session)
    (hleft : appending.listed shared' = appending.listed pool.shared)
    (hentry : appending.entry moved = appending.entry session)
    (hcopy : ∀ held, appending.copy moved = some held →
      appending.copy session = some held ∨ held = appending.listed pool.shared) :
    appending.Whole before ⟨shared', pool.sessions.set index moved⟩ := by
  constructor
  · rw [hleft]
    exact ((Pool.filterMap_set_perm hat hentry).append_left before).trans hwhole.listed
  · rw [hleft]
    refine forall_copy_set hwhole.copies (fun _ hprefix => hprefix) fun held hheld => ?_
    rcases hcopy held hheld with hown | rfl
    · exact hwhole.copies session (List.mem_of_getElem? hat) held hown
    · exact List.prefix_rfl

/-- Whoever writes behind the list as it is adds to it. -/
theorem Whole.wrote (hwhole : appending.Whole before pool)
    (hat : pool.sessions[index]? = some session)
    (hfresh : appending.entry session = none) (hentry : appending.entry moved = some added)
    (hwritten : appending.listed shared' = appending.listed pool.shared ++ [added])
    (hdone : appending.copy moved = none) :
    appending.Whole before ⟨shared', pool.sessions.set index moved⟩ := by
  constructor
  · rw [hwritten]
    have hperm := Pool.filterMap_set_perm_cons hat hfresh hentry
    have hmoved := (hperm.append_left before).trans List.perm_middle
    have hadded := hmoved.trans (hwhole.listed.cons added)
    exact hadded.trans (List.perm_append_singleton _ _).symm
  · rw [hwritten]
    refine forall_copy_set hwhole.copies (fun held hprefix => ?_) fun other hother => ?_
    · exact hprefix.trans (List.prefix_append _ _)
    · rw [hdone] at hother
      cases hother

/-- Whoever writes behind another copy does so behind a proper prefix of the list. -/
theorem Whole.overwrote (hwhole : appending.Whole before pool)
    (hat : pool.sessions[index]? = some session) (hheld : appending.copy session = some held)
    (hother : held ≠ appending.listed pool.shared)
    (hfresh : appending.entry session = none) (hentry : appending.entry moved = some added)
    (hwritten : appending.listed shared' = held ++ [added])
    (hdone : appending.copy moved = none) :
    appending.Short before ⟨shared', pool.sessions.set index moved⟩ := by
  have hlength := hwhole.listed.length_eq
  have hprefix := hwhole.copies session (List.mem_of_getElem? hat) held hheld
  have hless : held.length < (appending.listed pool.shared).length := by
    refine lt_of_le_of_ne hprefix.length_le fun hsame => ?_
    exact hother (List.IsPrefix.eq_of_length hprefix hsame)
  refine Short.wrote hat (fun other hmem copied hcopied => ?_) (hlength ▸ hless) hfresh hentry
    hwritten hdone
  rw [hlength]
  exact (hwhole.copies other hmem copied hcopied).length_le

end Moving

/-- What is lost stays lost. -/
theorem Short.step (hshort : appending.Short before pool) (turn : Turn ρ τ) :
    appending.Short before (next machine.step pool turn) := by
  cases turn with
  | start request =>
      have hsame := entered_append_start appending pool.shared pool.sessions request
      constructor
      · change _ < (before ++ appending.entered ⟨_, _⟩).length
        rw [hsame]
        exact hshort.listed
      · change ∀ session ∈ _, ∀ held, _ → _ < (before ++ appending.entered ⟨_, _⟩).length
        rw [hsame]
        exact forall_copy_append_start request hshort.copies
  | advance index reading =>
      cases hat : pool.sessions[index]? with
      | none =>
          rw [next_advance_of_none hat]
          exact hshort
      | some session =>
          rw [next_advance_of_some hat]
          rcases appending.advance pool.shared reading session with
            ⟨hleft, hentry, hcopy, -⟩ | ⟨held, added, hheld, hfresh, hwritten, hdone, hentry, -⟩
          · exact hshort.left hat hleft hentry hcopy
          · have hless := hshort.copies session (List.mem_of_getElem? hat) held hheld
            have hbelow := fun other hother copied hcopied =>
              (hshort.copies other hother copied hcopied).le
            exact Short.wrote hat hbelow hless hfresh hentry hwritten hdone

/-- A turn that meets the condition loses nothing, and one that does not cuts the list
short. -/
theorem Whole.step (hwhole : appending.Whole before pool) (turn : Turn ρ τ) :
    Meets (fun _ => True) appending.upToDate pool turn ∧
        appending.Whole before (next machine.step pool turn) ∨
      ¬ Meets (fun _ => True) appending.upToDate pool turn ∧
        appending.Short before (next machine.step pool turn) := by
  cases turn with
  | start request =>
      have hsame := entered_append_start appending pool.shared pool.sessions request
      refine .inl ⟨trivial, ⟨?_, forall_copy_append_start request hwhole.copies⟩⟩
      change (before ++ appending.entered ⟨_, _⟩).Perm _
      rw [hsame]
      exact hwhole.listed
  | advance index reading =>
      cases hat : pool.sessions[index]? with
      | none =>
          rw [next_advance_of_none hat]
          refine .inl ⟨fun session hsession => ?_, hwhole⟩
          rw [hat] at hsession
          cases hsession
      | some session =>
          rw [next_advance_of_some hat]
          have hmeets : Meets (fun _ : ρ => True) appending.upToDate pool (.advance index reading) ↔
              appending.upToDate pool.shared reading session := by
            constructor
            · intro hall
              exact hall session hat
            · intro hcurrent other hother
              rw [hat] at hother
              exact Option.some.inj hother ▸ hcurrent
          rw [hmeets]
          rcases appending.advance pool.shared reading session with
            ⟨hleft, hentry, hcopy, hcurrent⟩ |
            ⟨held, added, hheld, hfresh, hwritten, hdone, hentry, hcurrent⟩
          · exact .inl ⟨hcurrent, hwhole.left hat hleft hentry hcopy⟩
          · by_cases hsame : held = appending.listed pool.shared
            · rw [hsame] at hwritten
              exact .inl ⟨hcurrent.mpr hsame, hwhole.wrote hat hfresh hentry hwritten hdone⟩
            · -- the copy is a proper prefix, so at least one entry is written over
              refine .inr ⟨fun hup => hsame (hcurrent.mp hup), ?_⟩
              exact hwhole.overwrote hat hheld hsame hfresh hentry hwritten hdone

variable (appending) in
theorem whole_of_idle (hidle : pool.sessions = []) :
    appending.Whole (appending.listed pool.shared) pool := by
  constructor
  · rw [entered, hidle, List.filterMap_nil, List.append_nil]
  · intro session hsession
    rw [hidle] at hsession
    cases hsession

theorem Short.run (hshort : appending.Short before pool) (turns : List (Turn ρ τ)) :
    appending.Short before (run machine.step pool turns) :=
  run_invariant (appending.Short before) (fun _ => True) (fun _ turn hshort _ => hshort.step turn)
    hshort fun _ _ => trivial

/-- The same of a schedule: all its turns meet the condition, or the first that does not
has cut the list short for good. -/
theorem Whole.run (hwhole : appending.Whole before pool) (turns : List (Turn ρ τ)) :
    Along machine.step (Meets (fun _ => True) appending.upToDate) pool turns ∧
        appending.Whole before (run machine.step pool turns) ∨
      ¬ Along machine.step (Meets (fun _ => True) appending.upToDate) pool turns ∧
        appending.Short before (run machine.step pool turns) := by
  induction turns generalizing pool with
  | nil => exact .inl ⟨trivial, hwhole⟩
  | cons turn rest ih =>
      rcases hwhole.step turn with ⟨hmeets, hnext⟩ | ⟨hfails, hnext⟩
      · rcases ih hnext with ⟨halong, hend⟩ | ⟨hfails, hend⟩
        · exact .inl ⟨⟨hmeets, halong⟩, hend⟩
        · exact .inr ⟨fun halong => hfails halong.2, hend⟩
      · exact .inr ⟨fun halong => hfails halong.1, hnext.run rest⟩

variable (appending) in
/-- Every schedule keeps what the list started with and everything entered since exactly
when each step of it meets the condition. -/
theorem subperm_run_iff (pool : Pool κ σ) (hidle : pool.sessions = []) (turns : List (Turn ρ τ)) :
    (appending.listed pool.shared ++ appending.entered (run machine.step pool turns)).Subperm
        (appending.listed (run machine.step pool turns).shared) ↔
      Along machine.step (Meets (fun _ => True) appending.upToDate) pool turns := by
  rcases (whole_of_idle appending hidle).run turns with
    ⟨halong, hwhole⟩ | ⟨hfails, hshort⟩
  · exact iff_of_true hwhole.listed.subperm halong
  · refine iff_of_false (fun hsubperm => ?_) hfails
    have hlength := hsubperm.length_le
    have hless := hshort.listed
    omega

end Appending

end Interleaving
