import Mathlib.Algebra.BigOperators.Group.Finset.Basic
import Mathlib.Data.List.Sort
import Mathlib.Tactic

/-! # Keyed tables

A relational table is a finite map from primary keys to rows together with the
sequence the next key is drawn from. Rows are kept in key order, so a table is
determined by its lookups. Rows do not contain their own key: rewriting a row
can never move it.
-/

namespace Relational

/-- Rows in key order, and the sequence the next primary key is drawn from. -/
structure Table (α : Type) where
  rows : List (ℕ × α)
  next : ℕ
  sorted : rows.Pairwise (fun first second => first.1 < second.1)
  fresh : ∀ row ∈ rows, row.1 < next

namespace Table

variable {α : Type}

def empty : Table α := ⟨[], 0, .nil, by simp⟩

/-- Primary-key lookup. -/
def get? (table : Table α) (key : ℕ) : Option α :=
  (table.rows.find? (fun row => row.1 == key)).map Prod.snd

/-- The rows satisfying a filter, in key order. -/
def select (table : Table α) (keep : ℕ → α → Bool) : List (ℕ × α) :=
  table.rows.filter fun row => keep row.1 row.2

/-- The first row in key order satisfying a filter. -/
def find? (table : Table α) (keep : ℕ → α → Bool) : Option (ℕ × α) :=
  table.rows.find? fun row => keep row.1 row.2

/-- Insert under the next key of the sequence. -/
def insert (table : Table α) (row : α) : Table α where
  rows := table.rows ++ [(table.next, row)]
  next := table.next + 1
  sorted := by
    refine List.pairwise_append.mpr ⟨table.sorted, List.pairwise_singleton _ _, ?_⟩
    intro first hfirst second hsecond
    rw [List.mem_singleton] at hsecond
    subst second
    exact table.fresh first hfirst
  fresh := by
    intro entry hentry
    rcases List.mem_append.mp hentry with hentry | hentry
    · exact Nat.lt_succ_of_lt (table.fresh entry hentry)
    · rw [List.mem_singleton] at hentry
      subst entry
      exact Nat.lt_succ_self _

/-- Rewrite every row in place. -/
def modify (table : Table α) (change : ℕ → α → α) : Table α where
  rows := table.rows.map fun row => (row.1, change row.1 row.2)
  next := table.next
  sorted := List.pairwise_map.mpr table.sorted
  fresh := by
    intro entry hentry
    obtain ⟨row, hrow, rfl⟩ := List.mem_map.mp hentry
    exact table.fresh row hrow

/-- Rewrite the row under one key. -/
def update (table : Table α) (key : ℕ) (change : α → α) : Table α :=
  table.modify fun current row => if current = key then change row else row

/-- Rewrite the rows satisfying a filter. -/
def updateWhere (table : Table α) (keep : ℕ → α → Bool) (change : α → α) : Table α :=
  table.modify fun key row => if keep key row then change row else row

/-- Delete the row under one key. The sequence does not give the key out again. -/
def erase (table : Table α) (key : ℕ) : Table α where
  rows := table.rows.filter fun row => decide (row.1 ≠ key)
  next := table.next
  sorted := table.sorted.filter _
  fresh := fun row hrow => table.fresh row (List.mem_of_mem_filter hrow)

/-- Draw keys from the sequence up to a bound without inserting rows. -/
def drawTo (table : Table α) (bound : ℕ) : Table α where
  rows := table.rows
  next := max table.next bound
  sorted := table.sorted
  fresh := fun row hrow => lt_max_of_lt_left (table.fresh row hrow)

/-- The table of a list, keyed from zero. -/
def ofList (rows : List α) : Table α := rows.foldl insert empty

/-! ## Lookups -/

theorem key_unique (table : Table α) {key : ℕ} {first second : α}
    (hfirst : (key, first) ∈ table.rows) (hsecond : (key, second) ∈ table.rows) :
    first = second := by
  have hsorted := table.sorted
  generalize table.rows = rows at *
  induction rows with
  | nil => simp at hfirst
  | cons row rest ih =>
      obtain ⟨hhead, htail⟩ := List.pairwise_cons.mp hsorted
      rcases List.mem_cons.mp hfirst with heq | hrest <;>
        rcases List.mem_cons.mp hsecond with heq' | hrest'
      · exact congrArg Prod.snd (heq.trans heq'.symm)
      · exact absurd (heq ▸ hhead _ hrest') (lt_irrefl _)
      · exact absurd (heq' ▸ hhead _ hrest) (lt_irrefl _)
      · exact ih hrest hrest' htail

theorem get?_eq_some_iff {table : Table α} {key : ℕ} {row : α} :
    table.get? key = some row ↔ (key, row) ∈ table.rows := by
  unfold get?
  constructor
  · intro hget
    obtain ⟨entry, hfind, rfl⟩ := Option.map_eq_some_iff.mp hget
    have hkey : entry.1 = key := by simpa using List.find?_some hfind
    rw [← hkey]
    exact List.mem_of_find?_eq_some hfind
  · intro hmem
    cases hfind : table.rows.find? (fun row => row.1 == key) with
    | none =>
        have hnone := List.find?_eq_none.mp hfind (key, row) hmem
        simp at hnone
    | some entry =>
        obtain ⟨current, value⟩ := entry
        have hkey : current = key := by simpa using List.find?_some hfind
        subst current
        have hvalue := table.key_unique (List.mem_of_find?_eq_some hfind) hmem
        simp [hvalue]

theorem get?_eq_none_iff {table : Table α} {key : ℕ} :
    table.get? key = none ↔ ∀ row, (key, row) ∉ table.rows := by
  rw [Option.eq_none_iff_forall_ne_some]
  exact forall_congr' fun row => not_congr get?_eq_some_iff

/-- No row exists at or beyond the sequence. -/
theorem lt_next {table : Table α} {key : ℕ} {row : α} (hget : table.get? key = some row) :
    key < table.next :=
  table.fresh _ (get?_eq_some_iff.mp hget)

@[simp] theorem get?_next (table : Table α) : table.get? table.next = none := by
  cases hget : table.get? table.next with
  | none => rfl
  | some row => exact absurd (lt_next hget) (lt_irrefl _)

@[simp] theorem mem_select {table : Table α} {keep : ℕ → α → Bool} {key : ℕ} {row : α} :
    (key, row) ∈ table.select keep ↔ table.get? key = some row ∧ keep key row = true := by
  simp [select, get?_eq_some_iff]

theorem find?_eq_some {table : Table α} {keep : ℕ → α → Bool} {key : ℕ} {row : α}
    (hfind : table.find? keep = some (key, row)) :
    table.get? key = some row ∧ keep key row = true :=
  ⟨get?_eq_some_iff.mpr (List.mem_of_find?_eq_some hfind), by simpa using List.find?_some hfind⟩

theorem find?_eq_none_iff {table : Table α} {keep : ℕ → α → Bool} :
    table.find? keep = none ↔ ∀ key row, table.get? key = some row → keep key row = false := by
  simp [find?, get?_eq_some_iff]

@[simp] theorem get?_empty (key : ℕ) : (empty : Table α).get? key = none := rfl

@[simp] theorem get?_modify (table : Table α) (change : ℕ → α → α) (key : ℕ) :
    (table.modify change).get? key = (table.get? key).map (change key) := by
  cases hget : table.get? key with
  | none =>
      refine get?_eq_none_iff.mpr fun row hrow => ?_
      obtain ⟨⟨current, value⟩, hmem, heq⟩ := List.mem_map.mp hrow
      obtain ⟨rfl, -⟩ := Prod.mk.inj heq
      exact get?_eq_none_iff.mp hget value hmem
  | some row =>
      exact get?_eq_some_iff.mpr (List.mem_map.mpr ⟨(key, row), get?_eq_some_iff.mp hget, rfl⟩)

@[simp] theorem get?_update (table : Table α) (key : ℕ) (change : α → α) (current : ℕ) :
    (table.update key change).get? current =
      if current = key then (table.get? current).map change else table.get? current := by
  rw [update, get?_modify]
  split <;> simp

@[simp] theorem get?_updateWhere (table : Table α) (keep : ℕ → α → Bool) (change : α → α)
    (key : ℕ) :
    (table.updateWhere keep change).get? key =
      (table.get? key).map fun row => if keep key row then change row else row :=
  get?_modify _ _ _

@[simp] theorem get?_insert (table : Table α) (row : α) (key : ℕ) :
    (table.insert row).get? key = if key = table.next then some row else table.get? key := by
  split
  next heq =>
    subst key
    exact get?_eq_some_iff.mpr (List.mem_append_right _ List.mem_cons_self)
  next hne =>
    refine Option.ext fun value => ?_
    rw [get?_eq_some_iff, get?_eq_some_iff, insert, List.mem_append, List.mem_singleton,
      Prod.mk.injEq, or_iff_left (fun h => hne h.1)]

/-- A row stays where it is when another one is inserted. -/
theorem get?_insert_of_some {table : Table α} {row added : α} {key : ℕ}
    (hget : table.get? key = some row) : (table.insert added).get? key = some row := by
  rw [get?_insert, if_neg (lt_next hget).ne, hget]

@[simp] theorem get?_erase (table : Table α) (key current : ℕ) :
    (table.erase key).get? current = if current = key then none else table.get? current := by
  refine Option.ext fun row => ?_
  rw [get?_eq_some_iff]
  simp only [erase, List.mem_filter, decide_eq_true_eq, ← get?_eq_some_iff]
  split
  next hkey => simp [hkey]
  next hkey => simp [hkey]

@[simp] theorem get?_drawTo (table : Table α) (bound key : ℕ) :
    (table.drawTo bound).get? key = table.get? key := rfl

@[simp] theorem next_modify (table : Table α) (change : ℕ → α → α) :
    (table.modify change).next = table.next := rfl

@[simp] theorem next_update (table : Table α) (key : ℕ) (change : α → α) :
    (table.update key change).next = table.next := rfl

@[simp] theorem next_updateWhere (table : Table α) (keep : ℕ → α → Bool) (change : α → α) :
    (table.updateWhere keep change).next = table.next := rfl

@[simp] theorem next_erase (table : Table α) (key : ℕ) : (table.erase key).next = table.next := rfl

@[simp] theorem next_insert (table : Table α) (row : α) :
    (table.insert row).next = table.next + 1 := rfl

/-- A row of a table after an insert is the new one or one of before. -/
theorem exists_get?_insert {table : Table α} {row : α} {holds : α → Prop} :
    (∃ key found, (table.insert row).get? key = some found ∧ holds found) ↔
      holds row ∨ ∃ key found, table.get? key = some found ∧ holds found := by
  constructor
  · rintro ⟨key, found, hget, hholds⟩
    rw [get?_insert] at hget
    split at hget
    · obtain rfl := Option.some.inj hget
      exact .inl hholds
    · exact .inr ⟨key, found, hget, hholds⟩
  · rintro (hholds | ⟨key, found, hget, hholds⟩)
    · exact ⟨table.next, row, by simp, hholds⟩
    · have hkey : key ≠ table.next := (lt_next hget).ne
      exact ⟨key, found, by rw [get?_insert, if_neg hkey, hget], hholds⟩

/-- A row of a table after an update is the updated one or one of the others. -/
theorem exists_get?_update {table : Table α} {key : ℕ} {row : α} {change : α → α}
    {holds : α → Prop} (hrow : table.get? key = some row) :
    (∃ other found, (table.update key change).get? other = some found ∧ holds found) ↔
      holds (change row) ∨
        ∃ other found, other ≠ key ∧ table.get? other = some found ∧ holds found := by
  constructor
  · rintro ⟨other, found, hget, hholds⟩
    rw [get?_update] at hget
    split at hget
    next hother =>
      rw [hother, hrow] at hget
      obtain rfl := Option.some.inj hget
      exact .inl hholds
    next hother => exact .inr ⟨other, found, hother, hget, hholds⟩
  · rintro (hholds | ⟨other, found, hother, hget, hholds⟩)
    · exact ⟨key, change row, by rw [get?_update, if_pos rfl, hrow]; rfl, hholds⟩
    · exact ⟨other, found, by rw [get?_update, if_neg hother, hget], hholds⟩

/-- Lookups and the sequence determine a table. -/
theorem ext_get? {first second : Table α} (hnext : first.next = second.next)
    (hget : ∀ key, first.get? key = second.get? key) : first = second := by
  have hmem : ∀ row, row ∈ first.rows ↔ row ∈ second.rows := by
    rintro ⟨key, row⟩
    rw [← get?_eq_some_iff, ← get?_eq_some_iff, hget]
  have hnodup (table : Table α) : table.rows.Nodup :=
    table.sorted.imp fun hlt heq => absurd (congrArg Prod.fst heq) (Nat.ne_of_lt hlt)
  have hperm : first.rows.Perm second.rows :=
    (List.perm_ext_iff_of_nodup (hnodup first) (hnodup second)).mpr hmem
  have hrows : first.rows = second.rows :=
    hperm.eq_of_pairwise (fun _ _ _ _ hlt hgt => absurd hlt (lt_asymm hgt))
      first.sorted second.sorted
  cases first
  cases second
  simp only at hnext hrows
  subst hnext hrows
  rfl

/-- Only what an update makes of the row it finds matters. -/
theorem update_congr {table : Table α} {key : ℕ} {change change' : α → α}
    (hsame : ∀ row, table.get? key = some row → change row = change' row) :
    table.update key change = table.update key change' := by
  refine ext_get? rfl fun other => ?_
  rw [get?_update, get?_update]
  split
  next hother =>
    subst hother
    exact Option.map_congr fun row hrow => hsame row hrow
  next => rfl

/-- Rewriting the keys of a list one after the other rewrites them all, when a
second rewrite of a row changes nothing. -/
theorem updateWhere_cons (table : Table α) (key : ℕ) (keys : List ℕ) {change : α → α}
    (hchange : ∀ row, change (change row) = change row) :
    (table.update key change).updateWhere (fun current _ => keys.contains current) change =
      table.updateWhere (fun current _ => (key :: keys).contains current) change := by
  refine ext_get? rfl fun current => ?_
  cases hget : table.get? current with
  | none => simp [hget]
  | some row =>
      by_cases heq : current = key <;> by_cases hmem : current ∈ keys <;>
        simp_all

/-- Selecting by key is selecting by the filter the keys were read with. -/
theorem updateWhere_select (table : Table α) (keep : ℕ → α → Bool) (change : α → α) :
    table.updateWhere (fun key _ => ((table.select keep).map Prod.fst).contains key) change =
      table.updateWhere keep change := by
  refine ext_get? rfl fun key => ?_
  cases hget : table.get? key with
  | none => simp [hget]
  | some row =>
      have hiff : key ∈ (table.select keep).map Prod.fst ↔ keep key row = true := by
        simp [hget]
      by_cases hkeep : keep key row = true
      · simp only [get?_updateWhere, hget, Option.map_some, List.contains_iff_mem,
          hiff.mpr hkeep, if_true, hkeep]
      · have hout : key ∉ (table.select keep).map Prod.fst := fun hmem => hkeep (hiff.mp hmem)
        simp only [get?_updateWhere, hget, Option.map_some, List.contains_iff_mem, hout,
          if_false, hkeep, Bool.false_eq_true]

/-! ## Unique indexes -/

/-- No two rows of the table stand in the conflict relation. A unique index is
the relation "both rows carry the same indexed columns". -/
def Unique (table : Table α) (conflict : α → α → Prop) : Prop :=
  table.rows.Pairwise fun first second => ¬ conflict first.2 second.2

instance (table : Table α) (conflict : α → α → Prop) [DecidableRel conflict] :
    Decidable (table.Unique conflict) :=
  inferInstanceAs (Decidable (table.rows.Pairwise _))

theorem unique_iff {table : Table α} {conflict : α → α → Prop}
    (hsymm : ∀ first second, conflict first second → conflict second first) :
    table.Unique conflict ↔ ∀ key key' row row', table.get? key = some row →
      table.get? key' = some row' → conflict row row' → key = key' := by
  constructor
  · intro hunique key key' row row' hrow hrow' hconflict
    have hpairs := hunique.and table.sorted
    by_contra hne
    have hboth : ∀ entry ∈ table.rows, ∀ entry' ∈ table.rows, entry.1 < entry'.1 →
        ¬ conflict entry.2 entry'.2 := by
      clear hrow hrow'
      generalize table.rows = rows at hpairs
      induction rows with
      | nil => simp
      | cons head rest ih =>
          obtain ⟨hhead, hrest⟩ := List.pairwise_cons.mp hpairs
          intro entry hentry entry' hentry' hlt
          rcases List.mem_cons.mp hentry with rfl | hentry <;>
            rcases List.mem_cons.mp hentry' with heq | hentry'
          · exact absurd hlt (heq ▸ lt_irrefl _)
          · exact (hhead _ hentry').1
          · exact absurd hlt (lt_asymm (heq ▸ (hhead _ hentry).2))
          · exact ih hrest _ hentry _ hentry' hlt
    rcases Nat.lt_or_gt_of_ne hne with hlt | hlt
    · exact hboth _ (get?_eq_some_iff.mp hrow) _ (get?_eq_some_iff.mp hrow') hlt hconflict
    · exact hboth _ (get?_eq_some_iff.mp hrow') _ (get?_eq_some_iff.mp hrow) hlt
        (hsymm _ _ hconflict)
  · intro hkeys
    refine List.Pairwise.imp_of_mem ?_ table.sorted
    intro first second hfirst hsecond hlt hconflict
    exact (Nat.ne_of_lt hlt) (hkeys _ _ _ _ (get?_eq_some_iff.mpr hfirst)
      (get?_eq_some_iff.mpr hsecond) hconflict)

/-- A unique index depends on the lookups alone. -/
theorem Unique.of_get? {table table' : Table α} {conflict : α → α → Prop}
    (hsymm : ∀ first second, conflict first second → conflict second first)
    (hget : ∀ key, table'.get? key = table.get? key) (hunique : table.Unique conflict) :
    table'.Unique conflict := by
  refine (unique_iff hsymm).mpr fun key key' row row' hrow hrow' hconflict => ?_
  exact (unique_iff hsymm).mp hunique key key' row row' (hget key ▸ hrow) (hget key' ▸ hrow')
    hconflict

/-- An edit that leaves the indexed columns alone keeps the index. -/
theorem Unique.modify {table : Table α} {conflict : α → α → Prop} {change : ℕ → α → α}
    (hunique : table.Unique conflict)
    (hchange : ∀ key row key' row', table.get? key = some row → table.get? key' = some row' →
      conflict (change key row) (change key' row') → conflict row row') :
    (table.modify change).Unique conflict := by
  unfold Unique Table.modify
  refine List.pairwise_map.mpr (List.Pairwise.imp_of_mem ?_ hunique)
  intro first second hfirst hsecond hfree hconflict
  exact hfree (hchange _ _ _ _ (get?_eq_some_iff.mpr hfirst) (get?_eq_some_iff.mpr hsecond)
    hconflict)

/-- A new row that meets no conflict keeps the index. -/
theorem Unique.insert {table : Table α} {conflict : α → α → Prop} {row : α}
    (hunique : table.Unique conflict)
    (hfree : ∀ key other, table.get? key = some other → ¬ conflict other row) :
    (table.insert row).Unique conflict := by
  unfold Unique Table.insert
  refine List.pairwise_append.mpr ⟨hunique, List.pairwise_singleton _ _, ?_⟩
  intro first hfirst second hsecond
  rw [List.mem_singleton] at hsecond
  subst second
  exact hfree _ _ (get?_eq_some_iff.mpr hfirst)

/-! ## Counting rows -/

/-- No row satisfies the predicate. -/
def Never (table : Table α) (holds : α → Prop) : Prop :=
  ∀ key row, table.get? key = some row → ¬ holds row

/-- At most one row satisfies the predicate. -/
def AtMostOnce (table : Table α) (holds : α → Prop) : Prop :=
  ∀ key key' row row', table.get? key = some row → table.get? key' = some row' →
    holds row → holds row' → key = key'

/-- Exactly one row satisfies the predicate. -/
def Once (table : Table α) (holds : α → Prop) : Prop :=
  ∃! key, ∃ row, table.get? key = some row ∧ holds row

section Counting

variable {table table' : Table α} {holds : α → Prop}

instance (table : Table α) (holds : α → Prop) [DecidablePred holds] :
    Decidable (table.Never holds) :=
  decidable_of_iff (∀ row ∈ table.rows, ¬ holds row.2)
    ⟨fun hrows key row hrow => hrows (key, row) (get?_eq_some_iff.mp hrow),
      fun hnever row hrow => hnever row.1 row.2 (get?_eq_some_iff.mpr hrow)⟩

theorem Never.insert (hnever : table.Never holds) {row : α} (hrow : holds row) :
    (table.insert row).Once holds := by
  refine ⟨table.next, ⟨row, by simp, hrow⟩, ?_⟩
  rintro key ⟨other, hother, hholds⟩
  by_contra hne
  rw [get?_insert, if_neg hne] at hother
  exact hnever key other hother hholds

theorem Never.of_get? (hsame : ∀ key, table'.get? key = table.get? key)
    (hnever : table.Never holds) : table'.Never holds :=
  fun key row hrow => hnever key row (hsame key ▸ hrow)

theorem AtMostOnce.of_get? (hsame : ∀ key, table'.get? key = table.get? key)
    (honce : table.AtMostOnce holds) : table'.AtMostOnce holds :=
  fun key key' row row' hrow hrow' =>
    honce key key' row row' (hsame key ▸ hrow) (hsame key' ▸ hrow')

theorem Once.of_get? (hsame : ∀ key, table'.get? key = table.get? key)
    (honce : table.Once holds) : table'.Once holds := by
  unfold Once
  simp only [hsame]
  exact honce

end Counting

/-! ## Totals -/

/-- The sum of a column over all rows. -/
def total (table : Table α) (weight : ℕ → α → ℤ) : ℤ :=
  (table.rows.map fun row => weight row.1 row.2).sum

/-- What one key contributes to a total. -/
def share (table : Table α) (weight : ℕ → α → ℤ) (key : ℕ) : ℤ :=
  ((table.get? key).map (weight key)).getD 0

section Totals

variable {table table' : Table α} {weight weight' : ℕ → α → ℤ}

theorem share_of_get? {key : ℕ} {row : α} (hget : table.get? key = some row) :
    table.share weight key = weight key row := by
  simp [share, hget]

theorem share_of_none {key : ℕ} (hget : table.get? key = none) : table.share weight key = 0 := by
  simp [share, hget]

/-- A total is the sum of the shares below any bound on the keys. -/
theorem total_eq_sum_share (table : Table α) (weight : ℕ → α → ℤ) {bound : ℕ}
    (hbound : table.next ≤ bound) :
    table.total weight = ∑ key ∈ Finset.range bound, table.share weight key := by
  have hfresh : ∀ row ∈ table.rows, row.1 < bound :=
    fun row hrow => Nat.lt_of_lt_of_le (table.fresh row hrow) hbound
  have hsorted := table.sorted
  unfold total share get?
  generalize table.rows = rows at hfresh hsorted
  induction rows with
  | nil => simp
  | cons head rest ih =>
      obtain ⟨hhead, hrest⟩ := List.pairwise_cons.mp hsorted
      -- the first key is below all others, so no later row answers for it
      have habsent : rest.find? (fun row => row.1 == head.1) = none :=
        List.find?_eq_none.mpr fun row hrow => by simpa using (hhead row hrow).ne'
      have hsplit : ∀ key, ((((head :: rest).find? fun row => row.1 == key).map Prod.snd).map
          (weight key)).getD 0 = (if key = head.1 then weight head.1 head.2 else 0) +
            (((rest.find? fun row => row.1 == key).map Prod.snd).map (weight key)).getD 0 := by
        intro key
        by_cases heq : key = head.1
        · simp [heq, habsent]
        · simp [heq, beq_false_of_ne (Ne.symm heq)]
      rw [List.map_cons, List.sum_cons,
        ih (fun row hrow => hfresh row (List.mem_cons_of_mem _ hrow)) hrest,
        Finset.sum_congr rfl fun key _ => hsplit key, Finset.sum_add_distrib,
        Finset.sum_ite_eq' (Finset.range bound) head.1 fun _ => weight head.1 head.2,
        if_pos (Finset.mem_range.mpr (hfresh head List.mem_cons_self))]

/-- Totals agree when every key contributes the same. -/
theorem total_congr (hshare : ∀ key, table'.share weight' key = table.share weight key) :
    table'.total weight' = table.total weight := by
  rw [total_eq_sum_share table' weight' (le_max_left table'.next table.next),
    total_eq_sum_share table weight (le_max_right table'.next table.next)]
  exact Finset.sum_congr rfl fun key _ => hshare key

/-- One key makes the difference. -/
theorem total_add {key : ℕ} {difference : ℤ}
    (hkey : table'.share weight' key = table.share weight key + difference)
    (hother : ∀ other, other ≠ key → table'.share weight' other = table.share weight other) :
    table'.total weight' = table.total weight + difference := by
  set bound := max (key + 1) (max table'.next table.next)
  have hnext' : table'.next ≤ bound := (le_max_left _ _).trans (le_max_right _ _)
  have hnext : table.next ≤ bound := (le_max_right _ _).trans (le_max_right _ _)
  have hmem : key ∈ Finset.range bound :=
    Finset.mem_range.mpr (Nat.lt_of_lt_of_le (Nat.lt_succ_self key) (le_max_left _ _))
  rw [total_eq_sum_share table' weight' hnext', total_eq_sum_share table weight hnext,
    ← Finset.add_sum_erase _ _ hmem, ← Finset.add_sum_erase _ (table.share weight) hmem, hkey,
    Finset.sum_congr rfl fun other hin => hother other (Finset.ne_of_mem_erase hin)]
  ring

/-- A sum over the rows that meet a filter. -/
theorem sum_select (table : Table α) (keep : ℕ → α → Bool) (measure : ℕ → α → ℤ) :
    ((table.select keep).map fun row => measure row.1 row.2).sum =
      table.total fun key row => if keep key row then measure key row else 0 := by
  unfold select total
  induction table.rows with
  | nil => rfl
  | cons head rest ih =>
      rw [List.filter_cons, List.map_cons, List.sum_cons, ← ih]
      by_cases hkeep : keep head.1 head.2 = true
      · simp only [hkeep, if_true, List.map_cons, List.sum_cons]
      · simp only [hkeep, if_false, zero_add, Bool.false_eq_true]

/-- How many rows meet a filter. -/
theorem length_select (table : Table α) (keep : ℕ → α → Bool) :
    ((table.select keep).length : ℤ) =
      table.total fun key row => if keep key row then 1 else 0 := by
  rw [← sum_select table keep fun _ _ => 1, List.map_const', List.sum_replicate]
  simp

theorem total_insert (table : Table α) (weight : ℕ → α → ℤ) (row : α) :
    (table.insert row).total weight = table.total weight + weight table.next row := by
  simp [total, insert]

end Totals

end Table

end Relational
