import Mathlib.Tactic

/-! # Agendas

Items kept in the order of the instant they come due. Adding an item keeps the
order, so what is due at an instant is always a first part of the list.
-/

/-- Items in the order in which they come due. -/
@[ext]
structure Agenda (α : Type*) where
  items : List (Int × α) := []
  sorted : items.Pairwise fun first second => first.1 ≤ second.1 := by simp

namespace Agenda

variable {α : Type*}

def add (agenda : Agenda α) (due : Int) (item : α) : Agenda α where
  items := agenda.items.orderedInsert (fun first second => first.1 ≤ second.1) (due, item)
  sorted :=
    have : Std.Total fun first second : Int × α => first.1 ≤ second.1 :=
      ⟨fun first second => Int.le_total first.1 second.1⟩
    have : IsTrans (Int × α) fun first second => first.1 ≤ second.1 :=
      ⟨fun _ _ _ hfirst hsecond => Int.le_trans hfirst hsecond⟩
    agenda.sorted.orderedInsert _ _

/-- What has come due, the earliest first. -/
def dueBy (agenda : Agenda α) (now : Int) : List (Int × α) :=
  agenda.items.takeWhile fun item => decide (item.1 ≤ now)

/-- The agenda without its first items. -/
def drop (agenda : Agenda α) (count : ℕ) : Agenda α where
  items := agenda.items.drop count
  sorted := agenda.sorted.sublist (List.drop_sublist count agenda.items)

/-- The agenda without the items that fail a test. -/
def keep (agenda : Agenda α) (test : α → Bool) : Agenda α where
  items := agenda.items.filter fun item => test item.2
  sorted := agenda.sorted.sublist List.filter_sublist

/-- The agenda with every item replaced by its image. -/
def map {β : Type*} (agenda : Agenda α) (f : α → β) : Agenda β where
  items := agenda.items.map fun item => (item.1, f item.2)
  sorted := agenda.sorted.map _ fun _ _ hle => hle

theorem map_add {β : Type*} (agenda : Agenda α) (f : α → β) (due : Int) (item : α) :
    (agenda.add due item).map f = (agenda.map f).add due (f item) := by
  ext1
  exact List.map_orderedInsert _ _ (fun entry : Int × α => (entry.1, f entry.2)) agenda.items
    (due, item) (fun _ _ => Iff.rfl) fun _ _ => Iff.rfl

@[simp] theorem items_drop (agenda : Agenda α) (count : ℕ) :
    (agenda.drop count).items = agenda.items.drop count := rfl

theorem add_perm (agenda : Agenda α) (due : Int) (item : α) :
    (agenda.add due item).items.Perm ((due, item) :: agenda.items) :=
  List.perm_orderedInsert _ _ _

@[simp] theorem mem_add {agenda : Agenda α} {due : Int} {item : α} {entry : Int × α} :
    entry ∈ (agenda.add due item).items ↔ entry = (due, item) ∨ entry ∈ agenda.items :=
  List.mem_orderedInsert _

@[simp] theorem mem_keep {agenda : Agenda α} {test : α → Bool} {entry : Int × α} :
    entry ∈ (agenda.keep test).items ↔ entry ∈ agenda.items ∧ test entry.2 = true := by
  simp [keep]

theorem dueBy_le {agenda : Agenda α} {now : Int} {entry : Int × α}
    (hentry : entry ∈ agenda.dueBy now) : entry.1 ≤ now := by
  simpa using (List.all_eq_true.mp List.all_takeWhile) entry hentry

/-- The due items come first, in their own order. -/
theorem dueBy_eq_take (agenda : Agenda α) (now : Int) :
    agenda.dueBy now = agenda.items.take (agenda.dueBy now).length :=
  (List.prefix_iff_eq_take.mp (List.takeWhile_prefix _))

/-- What stands behind the due items is not due. -/
theorem lt_of_mem_drop {agenda : Agenda α} {now : Int} {entry : Int × α}
    (hentry : entry ∈ agenda.items.drop (agenda.dueBy now).length) : now < entry.1 := by
  obtain ⟨items, hsorted⟩ := agenda
  simp only [dueBy] at hentry
  induction items with
  | nil => simp at hentry
  | cons head rest ih =>
      rw [List.pairwise_cons] at hsorted
      by_cases hhead : head.1 ≤ now
      · simp only [List.takeWhile_cons, decide_eq_true hhead, if_true, List.length_cons,
          List.drop_succ_cons] at hentry
        exact ih hsorted.2 hentry
      · simp only [List.takeWhile_cons, decide_eq_false hhead, Bool.false_eq_true, if_false,
          List.length_nil, List.drop_zero] at hentry
        rcases List.mem_cons.mp hentry with rfl | hrest
        · omega
        · have := hsorted.1 entry hrest
          omega

/-- Adding a later item does not move the earlier ones. -/
theorem getElem?_add_of_lt {agenda : Agenda α} {position : ℕ} {entry : Int × α}
    (hentry : agenda.items[position]? = some entry) {due : Int} (hdue : entry.1 < due) (item : α) :
    (agenda.add due item).items[position]? = some entry := by
  obtain ⟨items, hsorted⟩ := agenda
  simp only [add]
  induction items generalizing position with
  | nil => simp at hentry
  | cons head rest ih =>
      rw [List.pairwise_cons] at hsorted
      have hhead : head.1 ≤ entry.1 := by
        rcases List.mem_cons.mp (List.mem_of_getElem? hentry) with rfl | hrest
        · exact le_rfl
        · exact hsorted.1 entry hrest
      rw [List.orderedInsert_cons, if_neg (by simp only; omega)]
      cases position with
      | zero => exact hentry
      | succ position =>
          simp only [List.getElem?_cons_succ] at hentry ⊢
          exact ih hsorted.2 hentry

end Agenda
