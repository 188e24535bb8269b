import ChmabaPay.Foundation.Table

/-! # Units of work

A session edits rows it has loaded and writes them back at its commit, row by
row under the primary key and column by column. In between, other sessions
commit. Three tables are in play: the rows as the session loaded them, the rows
as it holds them, and the rows committed by now. A row the session has not
edited is read afresh by every statement; a row it has edited is kept in its
identity map, and only the columns it changed are written.
-/

namespace Relational

/-- One column at the commit: written when the session changed it. -/
def assign {β : Type} [DecidableEq β] (loaded edited current : β) : β :=
  if edited = loaded then current else edited

/-- Rows that are written column by column. -/
class Columns (α : Type) where
  write : α → α → α → α
  write_loaded : ∀ loaded edited, write loaded edited loaded = edited

section Assign

variable {β : Type} [DecidableEq β]

@[simp] theorem assign_loaded (loaded edited : β) : assign loaded edited loaded = edited := by
  unfold assign
  split
  next hsame => exact hsame.symm
  next => rfl

theorem assign_of_ne {loaded edited : β} (hne : edited ≠ loaded) (current : β) :
    assign loaded edited current = edited := if_neg hne

theorem assign_cases (loaded edited current : β) :
    assign loaded edited current = current ∨ assign loaded edited current = edited := by
  unfold assign
  split
  next => exact .inl rfl
  next => exact .inr rfl

end Assign

/-- Rows written as a whole, such as those that are only ever inserted. -/
@[reducible] def Columns.whole (α : Type) [DecidableEq α] : Columns α := ⟨assign, assign_loaded⟩

/-! ## One key -/

section Rows

variable {α : Type} [DecidableEq α]

/-- What the session remembers having loaded, after reading again. -/
def reloadRow (loaded edited current : Option α) : Option α :=
  if edited = loaded then current else loaded

/-- What a statement of the session sees. -/
def viewRow (loaded edited current : Option α) : Option α :=
  if edited = loaded then current else edited

/-- What the commit leaves under the key. An inserted row may be turned away, and
is when the key is taken. -/
def writeRow [Columns α] (refused : α → Bool) (loaded edited current : Option α) : Option α :=
  match loaded, edited with
  | some before, some after =>
      if after = before then current else current.map (Columns.write before after)
  | none, some added => if refused added || current.isSome then current else some added
  | some _, none => none
  | none, none => current

@[simp] theorem reloadRow_loaded (loaded edited : Option α) :
    reloadRow loaded edited loaded = loaded := ite_self loaded

@[simp] theorem viewRow_loaded (loaded edited : Option α) :
    viewRow loaded edited loaded = edited := by
  unfold viewRow
  split
  next hsame => exact hsame.symm
  next => rfl

/-- An edited row is not read again. -/
theorem reloadRow_of_ne {loaded edited : Option α} (hne : edited ≠ loaded)
    (current : Option α) : reloadRow loaded edited current = loaded := if_neg hne

theorem viewRow_of_ne {loaded edited : Option α} (hne : edited ≠ loaded)
    (current : Option α) : viewRow loaded edited current = edited := if_neg hne

/-- A commit that finds the row as it was loaded leaves what the session holds. -/
theorem writeRow_loaded [Columns α] {refused : α → Bool} {loaded edited : Option α}
    (hadmitted : ∀ added, loaded = none → edited = some added → refused added = false) :
    writeRow refused loaded edited loaded = edited := by
  unfold writeRow
  split
  next before after =>
    split
    next hsame => rw [hsame]
    next => simp [Columns.write_loaded]
  next added => simp [hadmitted added rfl rfl]
  next => rfl
  next => rfl

/-- A row the session did not edit is left as it is committed. -/
theorem writeRow_self [Columns α] (refused : α → Bool) (loaded current : Option α) :
    writeRow refused loaded loaded current = current := by
  cases loaded with
  | none => rfl
  | some row => simp [writeRow]

/-- Only the columns the session changed are written over a row. -/
theorem writeRow_of_ne [Columns α] (refused : α → Bool) {before after : α}
    (hne : after ≠ before) (current : α) :
    writeRow refused (some before) (some after) (some current) =
      some (Columns.write before after current) := by
  simp [writeRow, hne]

end Rows

/-! ## Whole tables -/

namespace Table

variable {α : Type}

/-- The rows a function has below a bound. -/
def gather (bound : ℕ) (pick : ℕ → Option α) : Table α where
  rows := (List.range bound).filterMap fun key => (pick key).map fun row => (key, row)
  next := bound
  sorted := by
    refine List.Pairwise.filterMap _ ?_ List.pairwise_lt_range
    intro first second hlt entry hentry entry' hentry'
    obtain ⟨row, -, rfl⟩ := Option.map_eq_some_iff.mp hentry
    obtain ⟨row', -, rfl⟩ := Option.map_eq_some_iff.mp hentry'
    exact hlt
  fresh := by
    intro entry hentry
    obtain ⟨key, hkey, hentry⟩ := List.mem_filterMap.mp hentry
    obtain ⟨row, -, rfl⟩ := Option.map_eq_some_iff.mp hentry
    exact List.mem_range.mp hkey

theorem get?_gather {bound : ℕ} {pick : ℕ → Option α}
    (hbound : ∀ key, bound ≤ key → pick key = none) (key : ℕ) :
    (gather bound pick).get? key = pick key := by
  refine Option.ext fun row => ?_
  rw [get?_eq_some_iff]
  constructor
  · intro hmem
    obtain ⟨other, -, hentry⟩ := List.mem_filterMap.mp hmem
    obtain ⟨value, hvalue, heq⟩ := Option.map_eq_some_iff.mp hentry
    obtain ⟨rfl, rfl⟩ := Prod.mk.inj heq
    exact hvalue
  · intro hpick
    have hlt : key < bound := by
      by_contra hge
      rw [hbound key (Nat.le_of_not_lt hge)] at hpick
      cases hpick
    exact List.mem_filterMap.mpr ⟨key, List.mem_range.mpr hlt, by simp [hpick]⟩

theorem get?_of_next_le {table : Table α} {key : ℕ} (hkey : table.next ≤ key) :
    table.get? key = none := by
  cases hget : table.get? key with
  | none => rfl
  | some row => exact absurd (lt_next hget) (Nat.not_lt.mpr hkey)

/-- Three tables put together key by key. -/
def combine (choose : Option α → Option α → Option α → Option α)
    (loaded edited current : Table α) : Table α :=
  gather (max current.next (max loaded.next edited.next)) fun key =>
    choose (loaded.get? key) (edited.get? key) (current.get? key)

theorem get?_combine {choose : Option α → Option α → Option α → Option α}
    (hnone : choose none none none = none) (loaded edited current : Table α) (key : ℕ) :
    (combine choose loaded edited current).get? key =
      choose (loaded.get? key) (edited.get? key) (current.get? key) := by
  refine get?_gather (fun key hkey => ?_) key
  rw [get?_of_next_le (le_trans (le_max_left _ _) hkey),
    get?_of_next_le (le_trans ((le_max_left _ _).trans (le_max_right _ _)) hkey),
    get?_of_next_le (le_trans ((le_max_right _ _).trans (le_max_right _ _)) hkey), hnone]

variable [DecidableEq α]

/-- The rows the session remembers having loaded, after reading again. -/
def reload (loaded edited current : Table α) : Table α :=
  combine reloadRow loaded edited current

/-- The rows a statement of the session sees: its own edits over what is
committed by now. -/
def view (loaded edited current : Table α) : Table α := combine viewRow loaded edited current

/-- The rows after the commit. -/
def write [Columns α] (loaded edited current : Table α) : Table α :=
  combine (writeRow fun _ => false) loaded edited current

/-- The rows after the commit when inserts go around a conflict with a row that
is already there. -/
def writeAround [Columns α] (conflict : α → α → Prop) [DecidableRel conflict]
    (loaded edited current : Table α) : Table α :=
  combine
    (writeRow fun added => (current.find? fun _ row => decide (conflict row added)).isSome)
    loaded edited current

@[simp] theorem get?_reload (loaded edited current : Table α) (key : ℕ) :
    (reload loaded edited current).get? key =
      reloadRow (loaded.get? key) (edited.get? key) (current.get? key) :=
  get?_combine rfl _ _ _ _

@[simp] theorem get?_view (loaded edited current : Table α) (key : ℕ) :
    (view loaded edited current).get? key =
      viewRow (loaded.get? key) (edited.get? key) (current.get? key) :=
  get?_combine rfl _ _ _ _

@[simp] theorem get?_write [Columns α] (loaded edited current : Table α) (key : ℕ) :
    (write loaded edited current).get? key =
      writeRow (fun _ => false) (loaded.get? key) (edited.get? key) (current.get? key) :=
  get?_combine rfl _ _ _ _

theorem get?_writeAround [Columns α] (conflict : α → α → Prop) [DecidableRel conflict]
    (loaded edited current : Table α) (key : ℕ) :
    (writeAround conflict loaded edited current).get? key =
      writeRow (fun added => (current.find? fun _ row => decide (conflict row added)).isSome)
        (loaded.get? key) (edited.get? key) (current.get? key) :=
  get?_combine rfl _ _ _ _

end Table

end Relational
