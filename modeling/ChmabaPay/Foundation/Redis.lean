import ChmabaPay.Foundation.Agenda

/-! # Streams, sorted sets and expiring keys

The data types a shared key-value server offers to its clients, one function
for each command. A command is atomic: whatever clients do, they do it one
command at a time.
-/

namespace Redis

variable {α : Type*}

/-! ## Streams -/

/-- An entry a consumer of the group has been handed and has not acknowledged. -/
structure PendingEntry where
  entry : ℕ
  consumer : String
  deliveredAt : Int
deriving DecidableEq, Repr

/-- A stream read by one consumer group. Entries are numbered as they are added
and stay in the stream; the group has been handed a first part of them and keeps
the unacknowledged ones in the order of their numbers. -/
structure Stream (α : Type*) where
  entries : List α := []
  hasGroup : Bool := false
  delivered : ℕ := 0
  pending : List PendingEntry := []
  delivered_le : delivered ≤ entries.length := by simp
  pending_lt : ∀ waiting ∈ pending, waiting.entry < delivered := by simp
  pending_nodup : (pending.map PendingEntry.entry).Nodup := by simp

namespace Stream

/-- The entries no consumer has been handed. -/
def undelivered (stream : Stream α) : List α := stream.entries.drop stream.delivered

/-- XADD. -/
def xadd (stream : Stream α) (record : α) : Stream α :=
  { stream with
    entries := stream.entries ++ [record]
    delivered_le := by
      have := stream.delivered_le
      simp only [List.length_append, List.length_singleton]
      omega }

/-- XGROUP CREATE from the beginning of the stream; a group that exists stays. -/
def xgroupCreate (stream : Stream α) : Stream α := { stream with hasGroup := true }

/-- XREADGROUP of new entries: the records with their numbers. -/
def xreadgroup (stream : Stream α) (now : Int) (consumer : String) (count : ℕ) :
    List (α × ℕ) × Stream α :=
  let fresh := stream.undelivered.take count
  (fresh.zipIdx stream.delivered,
    { stream with
      delivered := stream.delivered + fresh.length
      pending := stream.pending ++
        (List.range' stream.delivered fresh.length).map (⟨·, consumer, now⟩)
      delivered_le := by
        have := stream.delivered_le
        simp only [fresh, undelivered, List.length_take, List.length_drop]
        omega
      pending_lt := by
        intro waiting hwaiting
        rcases List.mem_append.mp hwaiting with hold | hnew
        · have := stream.pending_lt waiting hold
          omega
        · obtain ⟨number, hnumber, rfl⟩ := List.mem_map.mp hnew
          have := List.mem_range'_1.mp hnumber
          simp only
          omega
      pending_nodup := by
        have hnew : ∀ first last, ((List.range' first last).map
            (fun number => (⟨number, consumer, now⟩ : PendingEntry))).map PendingEntry.entry =
            List.range' first last := fun first last => by simp [Function.comp_def]
        rw [List.map_append, hnew, List.nodup_append]
        refine ⟨stream.pending_nodup, List.nodup_range', fun old hold new hfresh heq => ?_⟩
        obtain ⟨waiting, hwaiting, rfl⟩ := List.mem_map.mp hold
        have := stream.pending_lt waiting hwaiting
        have := List.mem_range'_1.mp hfresh
        omega })

/-- XACK. -/
def xack (stream : Stream α) (entry : ℕ) : Stream α :=
  { stream with
    pending := stream.pending.filter fun waiting => decide (waiting.entry ≠ entry)
    pending_lt := fun waiting hwaiting =>
      stream.pending_lt waiting (List.mem_of_mem_filter hwaiting)
    pending_nodup := stream.pending_nodup.sublist (List.filter_sublist.map _) }

/-- The entries XAUTOCLAIM takes over: of the first ten times `count` unacknowledged
ones, up to `count` that were handed out long enough ago. -/
def stale (stream : Stream α) (now minIdle : Int) (count : ℕ) : List PendingEntry :=
  ((stream.pending.take (10 * count)).filter
    fun waiting => decide (minIdle ≤ now - waiting.deliveredAt)).take count

/-- XAUTOCLAIM from the beginning of the pending list. -/
def xautoclaim (stream : Stream α) (now : Int) (consumer : String) (minIdle : Int)
    (count : ℕ) : List (α × ℕ) × Stream α :=
  let claimed := (stream.stale now minIdle count).map PendingEntry.entry
  (claimed.filterMap fun number => (stream.entries[number]?).map (·, number),
    { stream with
      pending := stream.pending.map fun waiting =>
        if waiting.entry ∈ claimed then ⟨waiting.entry, consumer, now⟩ else waiting
      pending_lt := by
        intro waiting hwaiting
        obtain ⟨old, hold, rfl⟩ := List.mem_map.mp hwaiting
        have := stream.pending_lt old hold
        split <;> exact this
      pending_nodup := by
        rw [List.map_map]
        convert stream.pending_nodup using 2
        funext waiting
        simp only [Function.comp_apply]
        split <;> rfl })

/-- The entries written and never handed to a consumer, as XINFO GROUPS counts
them for the group. -/
def lag (stream : Stream α) : ℕ := stream.entries.length - stream.delivered

variable (stream : Stream α) (now : Int) (consumer : String) (minIdle : Int) (count : ℕ)

@[simp] theorem entries_xadd (record : α) :
    (stream.xadd record).entries = stream.entries ++ [record] := rfl

@[simp] theorem undelivered_xadd (record : α) :
    (stream.xadd record).undelivered = stream.undelivered ++ [record] :=
  List.drop_append_of_le_length stream.delivered_le

@[simp] theorem pending_xadd (record : α) : (stream.xadd record).pending = stream.pending := rfl

@[simp] theorem entries_xreadgroup :
    (stream.xreadgroup now consumer count).2.entries = stream.entries := rfl

@[simp] theorem undelivered_xreadgroup :
    (stream.xreadgroup now consumer count).2.undelivered = stream.undelivered.drop count := by
  simp only [xreadgroup, undelivered, List.length_take, List.length_drop, List.drop_drop]
  rcases Nat.le_total count (stream.entries.length - stream.delivered) with hcount | hcount
  · rw [Nat.min_eq_left hcount]
  · rw [Nat.min_eq_right hcount, List.drop_eq_nil_of_le (by omega),
      List.drop_eq_nil_of_le (by omega)]

/-- A reader is handed the oldest of the undelivered records. -/
@[simp] theorem records_xreadgroup :
    (stream.xreadgroup now consumer count).1.map Prod.fst = stream.undelivered.take count := by
  simp [xreadgroup]

theorem mem_xreadgroup {read : α × ℕ} (hread : read ∈ (stream.xreadgroup now consumer count).1) :
    stream.entries[read.2]? = some read.1 := by
  obtain ⟨hle, hget⟩ := List.mem_zipIdx_iff_le_and_getElem?_sub.mp hread
  rw [List.getElem?_take] at hget
  split at hget
  · simp only [undelivered, List.getElem?_drop] at hget
    rwa [Nat.add_sub_cancel' hle] at hget
  · cases hget

@[simp] theorem entries_xack (entry : ℕ) : (stream.xack entry).entries = stream.entries := rfl

@[simp] theorem undelivered_xack (entry : ℕ) :
    (stream.xack entry).undelivered = stream.undelivered := rfl

@[simp] theorem entries_xautoclaim :
    (stream.xautoclaim now consumer minIdle count).2.entries = stream.entries := rfl

@[simp] theorem undelivered_xautoclaim :
    (stream.xautoclaim now consumer minIdle count).2.undelivered = stream.undelivered := rfl

theorem mem_xautoclaim {claimed : α × ℕ}
    (hclaimed : claimed ∈ (stream.xautoclaim now consumer minIdle count).1) :
    stream.entries[claimed.2]? = some claimed.1 := by
  obtain ⟨number, -, hnumber⟩ := List.mem_filterMap.mp hclaimed
  obtain ⟨record, hrecord, rfl⟩ := Option.map_eq_some_iff.mp hnumber
  exact hrecord

/-- What a reader is handed goes into the pending list. -/
theorem exists_pending_of_read {record : α} (hrecord : record ∈ stream.undelivered.take count) :
    ∃ waiting ∈ (stream.xreadgroup now consumer count).2.pending,
      stream.entries[waiting.entry]? = some record := by
  obtain ⟨offset, hoffset, rfl⟩ := List.getElem_of_mem hrecord
  refine ⟨⟨stream.delivered + offset, consumer, now⟩, List.mem_append_right _ ?_, ?_⟩
  · rw [List.mem_map]
    exact ⟨stream.delivered + offset, List.mem_range'_1.mpr ⟨by omega, by omega⟩, rfl⟩
  · rw [← List.getElem?_drop, ← undelivered, List.getElem_take, List.getElem?_eq_getElem]

/-- What comes into the pending list has just been read. -/
theorem mem_pending_xreadgroup {waiting : PendingEntry}
    (hwaiting : waiting ∈ (stream.xreadgroup now consumer count).2.pending) :
    waiting ∈ stream.pending ∨ waiting.deliveredAt = now ∧
      ∃ read ∈ (stream.xreadgroup now consumer count).1, read.2 = waiting.entry := by
  rcases List.mem_append.mp hwaiting with hold | hnew
  · exact .inl hold
  · obtain ⟨number, hnumber, rfl⟩ := List.mem_map.mp hnew
    obtain ⟨hle, hlt⟩ := List.mem_range'_1.mp hnumber
    have hoffset : number - stream.delivered < (stream.undelivered.take count).length := by omega
    refine .inr ⟨rfl, ((stream.undelivered.take count)[number - stream.delivered], number), ?_, rfl⟩
    exact List.mem_zipIdx_iff_le_and_getElem?_sub.mpr ⟨hle, List.getElem?_eq_getElem hoffset⟩

theorem pending_subset_xreadgroup :
    stream.pending ⊆ (stream.xreadgroup now consumer count).2.pending :=
  List.subset_append_left _ _

/-- A claim changes who holds an entry, not which entries are held. -/
theorem exists_pending_xautoclaim {waiting : PendingEntry} (hwaiting : waiting ∈ stream.pending) :
    ∃ claimed ∈ (stream.xautoclaim now consumer minIdle count).2.pending,
      claimed.entry = waiting.entry := by
  refine ⟨_, List.mem_map_of_mem hwaiting, ?_⟩
  split <;> rfl

/-- Nothing is taken over while every entry has been handed out recently. -/
theorem xautoclaim_eq_self
    (hrecent : ∀ waiting ∈ stream.pending, now - waiting.deliveredAt < minIdle) :
    stream.xautoclaim now consumer minIdle count = ([], stream) := by
  have hstale : stream.stale now minIdle count = [] := by
    rw [stale, List.filter_eq_nil_iff.mpr, List.take_nil]
    intro waiting hwaiting
    have := hrecent waiting (List.mem_of_mem_take hwaiting)
    simp only [decide_eq_true_eq]
    omega
  obtain ⟨entries, hasGroup, delivered, pending, hle, hlt, hnodup⟩ := stream
  simp [xautoclaim, hstale]

/-- The numbers claimed are different and of entries handed out before. -/
theorem claimed_subperm :
    ((stream.stale now minIdle count).map PendingEntry.entry).Subperm
      (List.range stream.delivered) := by
  have hsublist : (stream.stale now minIdle count).Sublist stream.pending :=
    (List.take_sublist _ _).trans (List.filter_sublist.trans (List.take_sublist _ _))
  apply List.Nodup.subperm (stream.pending_nodup.sublist (hsublist.map _))
  intro number hnumber
  obtain ⟨waiting, hwaiting, rfl⟩ := List.mem_map.mp hnumber
  exact List.mem_range.mpr (stream.pending_lt waiting (hsublist.subset hwaiting))

/-- Among the claimed records none occurs more often than among the delivered
ones. -/
theorem countP_xautoclaim_le (test : α → Bool) :
    ((stream.xautoclaim now consumer minIdle count).1.map Prod.fst).countP test +
      stream.undelivered.countP test ≤ stream.entries.countP test := by
  have htake : ∀ bound, (List.range bound).filterMap (stream.entries[·]?) =
      stream.entries.take bound := by
    intro bound
    induction bound with
    | zero => rfl
    | succ bound ih =>
        rw [List.range_succ, List.filterMap_append, ih, List.take_add_one]
        cases hlast : stream.entries[bound]? <;> simp [hlast]
  have hsplit : stream.entries.countP test =
      (stream.entries.take stream.delivered).countP test + stream.undelivered.countP test := by
    rw [undelivered, ← List.countP_append, List.take_append_drop]
  have hrecords : (stream.xautoclaim now consumer minIdle count).1.map Prod.fst =
      ((stream.stale now minIdle count).map PendingEntry.entry).filterMap
        (stream.entries[·]?) := by
    simp [xautoclaim, List.map_filterMap, Function.comp_def]
  rw [hsplit, hrecords, ← htake, List.countP_filterMap, List.countP_filterMap]
  have := (stream.claimed_subperm now minIdle count).countP_le
    (fun number => ((stream.entries[number]?).map test).getD false)
  omega

end Stream

/-! ## Sorted sets -/

/-- Members in the order of their scores, each of them once. -/
structure SortedSet (α : Type*) extends Agenda α where
  distinct : (items.map Prod.snd).Nodup := by simp

namespace SortedSet

variable [DecidableEq α]

/-- ZREM. -/
def zrem (set : SortedSet α) (member : α) : SortedSet α where
  toAgenda := set.toAgenda.keep fun other => decide (other ≠ member)
  distinct := set.distinct.sublist (List.filter_sublist.map _)

/-- ZADD: a member that is there gets the new score. -/
def zadd (set : SortedSet α) (score : Int) (member : α) : SortedSet α where
  toAgenda := (set.zrem member).toAgenda.add score member
  distinct := by
    have hperm := ((set.zrem member).toAgenda.add_perm score member).map Prod.snd
    rw [hperm.nodup_iff, List.map_cons, List.nodup_cons]
    refine ⟨fun hmember => ?_, (set.zrem member).distinct⟩
    obtain ⟨item, hitem, rfl⟩ := List.mem_map.mp hmember
    simp [zrem] at hitem

def members (set : SortedSet α) : List α := set.items.map Prod.snd

/-- ZRANGEBYSCORE from below up to a score, the first `count` of them. -/
def zrangebyscore (set : SortedSet α) (score : Int) (count : ℕ) : List α :=
  ((set.dueBy score).take count).map Prod.snd

def zcard (set : SortedSet α) : ℕ := set.items.length

@[simp] theorem mem_members_zrem {set : SortedSet α} {member other : α} :
    other ∈ (set.zrem member).members ↔ other ∈ set.members ∧ other ≠ member := by
  simp only [members, zrem, List.mem_map, Agenda.mem_keep, decide_eq_true_eq]
  aesop

@[simp] theorem mem_members_zadd {set : SortedSet α} {score : Int} {member other : α} :
    other ∈ (set.zadd score member).members ↔ other = member ∨ other ∈ set.members := by
  have hperm := ((set.zrem member).toAgenda.add_perm score member).map Prod.snd
  have hmem : other ∈ (set.zadd score member).members ↔
      other = member ∨ other ∈ (set.zrem member).members := by
    rw [← List.mem_cons]
    exact hperm.mem_iff
  rw [hmem, mem_members_zrem]
  tauto

theorem toAgenda_zrem_of_not_mem {set : SortedSet α} {member : α} (hmember : member ∉ set.members) :
    (set.zrem member).toAgenda = set.toAgenda := by
  apply Agenda.ext
  simp only [zrem, Agenda.keep, List.filter_eq_self]
  intro item hitem
  refine decide_eq_true fun hsame => hmember ?_
  rw [← hsame]
  exact List.mem_map_of_mem hitem

/-- Taking a member out takes it out once. -/
theorem countP_zrem {set : SortedSet α} {member : α} (hmember : member ∈ set.members)
    (test : α → Bool) :
    (set.zrem member).members.countP test + (if test member then 1 else 0) =
      set.members.countP test := by
  have herase : (set.zrem member).members = set.members.erase member := by
    rw [members, members, set.distinct.erase_eq_filter]
    simp [zrem, Agenda.keep, List.filter_map, Function.comp_def, bne, beq_eq_decide]
  rw [herase, (List.perm_cons_erase hmember).countP_eq, List.countP_cons]

theorem countP_zadd_le (set : SortedSet α) (score : Int) (member : α) (test : α → Bool) :
    (set.zadd score member).members.countP test ≤
      set.members.countP test + (if test member then 1 else 0) := by
  have hperm : (set.zadd score member).members.Perm (member :: (set.zrem member).members) :=
    ((set.zrem member).toAgenda.add_perm score member).map Prod.snd
  have hsublist : (set.zrem member).members.Sublist set.members :=
    List.filter_sublist.map Prod.snd
  rw [hperm.countP_eq, List.countP_cons]
  exact Nat.add_le_add_right hsublist.countP_le _

end SortedSet

/-! ## Keys that expire -/

/-- Keys with the instant they expire at. -/
abbrev Keyspace := List (String × Int)

namespace Keyspace

/-- The keys still there. -/
def alive (keys : Keyspace) (now : Int) : Keyspace :=
  keys.filter fun entry => decide (now < entry.2)

def holds (keys : Keyspace) (now : Int) (key : String) : Bool :=
  (keys.alive now).any fun entry => entry.1 == key

/-- SET NX EX: whether the key was free and has been taken. -/
def setNx (keys : Keyspace) (now : Int) (key : String) (ttl : Int) : Bool × Keyspace :=
  if keys.holds now key then (false, keys)
  else (true, keys.alive now ++ [(key, now + ttl)])

section Lookups

variable {keys : Keyspace} {now later ttl : Int} {key other : String}

theorem holds_eq_true_iff : keys.holds now key = true ↔
    ∃ entry ∈ keys, entry.1 = key ∧ now < entry.2 := by
  simp only [holds, alive, List.any_eq_true, List.mem_filter, decide_eq_true_eq, beq_iff_eq]
  constructor
  · rintro ⟨entry, ⟨hmem, halive⟩, hkey⟩
    exact ⟨entry, hmem, hkey, halive⟩
  · rintro ⟨entry, hmem, hkey, halive⟩
    exact ⟨entry, ⟨hmem, halive⟩, hkey⟩

/-- A key that was taken is there until its time to live is over. -/
theorem holds_setNx_self (hfree : keys.holds now key = false) (hnow : now ≤ later) :
    (keys.setNx now key ttl).2.holds later key = decide (later < now + ttl) := by
  rw [Bool.eq_iff_iff, decide_eq_true_iff, holds_eq_true_iff, setNx, if_neg (by simp [hfree])]
  constructor
  · rintro ⟨entry, hmem, hkey, halive⟩
    rcases List.mem_append.mp hmem with hold | hnew
    · -- an older entry of the key would have been there already
      have htaken : keys.holds now key = true := by
        refine holds_eq_true_iff.mpr ⟨entry, List.mem_of_mem_filter hold, hkey, ?_⟩
        omega
      rw [hfree] at htaken
      cases htaken
    · rw [List.mem_singleton.mp hnew] at halive
      exact halive
  · intro halive
    exact ⟨(key, now + ttl), List.mem_append_right _ (List.mem_singleton.mpr rfl), rfl, halive⟩

/-- Taking a key leaves the others alone. -/
theorem holds_setNx_of_ne (hother : other ≠ key) (hnow : now ≤ later) :
    (keys.setNx now other ttl).2.holds later key = keys.holds later key := by
  unfold setNx
  split
  · rfl
  · rw [Bool.eq_iff_iff, holds_eq_true_iff, holds_eq_true_iff]
    constructor
    · rintro ⟨entry, hmem, hkey, halive⟩
      rcases List.mem_append.mp hmem with hold | hnew
      · exact ⟨entry, List.mem_of_mem_filter hold, hkey, halive⟩
      · rw [List.mem_singleton.mp hnew] at hkey
        exact absurd hkey hother
    · rintro ⟨entry, hmem, hkey, halive⟩
      refine ⟨entry, List.mem_append_left _ (List.mem_filter.mpr ⟨hmem, ?_⟩), hkey, halive⟩
      rw [decide_eq_true_eq]
      omega

end Lookups

end Keyspace

end Redis
