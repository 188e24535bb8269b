import ChmabaPay.Foundation.Agenda

/-! # Queues with delayed items

A queue served in the order of arrival, and beside it the items that may join it
only from an instant on. Joining is a step of its own: an implementation may let
the due items join at once, in batches or when somebody asks.
-/

@[ext]
structure DelayQueue (α : Type*) where
  ready : List α := []
  waiting : Agenda α := {}

namespace DelayQueue

variable {α : Type*} (queue : DelayQueue α)

/-- The first `count` waiting items join the queue. -/
def promote (count : ℕ) : DelayQueue α where
  ready := queue.ready ++ (queue.waiting.items.take count).map Prod.snd
  waiting := queue.waiting.drop count

def put (item : α) : DelayQueue α := { queue with ready := queue.ready ++ [item] }

def defer (due : Int) (item : α) : DelayQueue α :=
  { queue with waiting := queue.waiting.add due item }

/-- The queue without the first `count` ready items. -/
def skip (count : ℕ) : DelayQueue α := { queue with ready := queue.ready.drop count }

/-- Everything in the queue, in the order in which it can be served. -/
def all : List α := queue.ready ++ queue.waiting.items.map Prod.snd

/-- Only due items join. -/
def Due (now : Int) (count : ℕ) : Prop :=
  ∀ entry ∈ queue.waiting.items.take count, entry.1 ≤ now

@[simp] theorem promote_zero : queue.promote 0 = queue := by
  simp [promote, Agenda.drop]

theorem promote_promote (count more : ℕ) :
    (queue.promote count).promote more = queue.promote (count + more) := by
  simp [promote, Agenda.drop, List.take_add]

@[simp] theorem all_promote (count : ℕ) : (queue.promote count).all = queue.all := by
  simp [all, promote, List.take_append_drop]

theorem all_put (item : α) : (queue.put item).all.Perm (item :: queue.all) := by
  simp only [all, put, List.append_assoc, List.singleton_append]
  exact List.perm_middle

theorem all_defer (due : Int) (item : α) : (queue.defer due item).all.Perm (item :: queue.all) := by
  have hadd := (queue.waiting.add_perm due item).map Prod.snd
  exact (hadd.append_left queue.ready).trans List.perm_middle

/-- What is taken and what stays is what was there. -/
theorem take_append_all_skip (count : ℕ) :
    queue.ready.take count ++ (queue.skip count).all = queue.all := by
  simp [all, skip, ← List.append_assoc, List.take_append_drop]

theorem due_dueBy (now : Int) : queue.Due now (queue.waiting.dueBy now).length := by
  intro entry hentry
  rw [← Agenda.dueBy_eq_take] at hentry
  exact Agenda.dueBy_le hentry

theorem Due.mono {queue : DelayQueue α} {now later : Int} {count : ℕ} (hdue : queue.Due now count)
    (hlater : now ≤ later) : queue.Due later count :=
  fun entry hentry => (hdue entry hentry).trans hlater

theorem due_zero (now : Int) : queue.Due now 0 := by simp [Due]

end DelayQueue
