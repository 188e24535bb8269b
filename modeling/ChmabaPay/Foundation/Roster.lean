import Mathlib.Tactic

/-! # A roster with a limited number of places

Of all members some are active. A change of the limit takes the newest active members
off, or brings the newest others back; a swap brings one chosen member back and takes
the newest of the rest off where it has to. How many members are active afterwards
follows from the counts alone, so a limit applied twice changes nothing the second
time, whatever was swapped in between.
-/

namespace Roster

variable {α : Type*} [LinearOrder α]

/-- The largest members, `count` of them or all there are. -/
def newest (count : ℕ) (members : Finset α) : Finset α :=
  members.filter fun item => (members.filter (item < ·)).card < count

/-- Bring the number of active members to the limit, as far as there are members. -/
def limit (size : ℕ) (all active : Finset α) : Finset α :=
  if size < active.card then active \ newest (active.card - size) active
  else active ∪ newest (size - active.card) (all \ active)

/-- Bring one member back and make room for it. -/
def swap (size : ℕ) (chosen : α) (active : Finset α) : Finset α :=
  insert chosen active \
    newest ((insert chosen active).card - size) ((insert chosen active).erase chosen)

variable {count size : ℕ} {members all active : Finset α} {chosen : α}

theorem mem_newest {item : α} : item ∈ newest count members ↔
    item ∈ members ∧ (members.filter (item < ·)).card < count := by
  rw [newest, Finset.mem_filter]

theorem newest_subset : newest count members ⊆ members := Finset.filter_subset _ _

/-! ## The newest of a list -/

/-- The first elements of a descending list are its largest. -/
theorem mem_take_iff {items : List α} (hsorted : items.Pairwise (· > ·)) {item : α} :
    item ∈ items.take count ↔
      item ∈ items ∧ (items.toFinset.filter (item < ·)).card < count := by
  induction items generalizing count with
  | nil => simp
  | cons head rest ih =>
      obtain ⟨hhead, hrest⟩ := List.pairwise_cons.mp hsorted
      cases count with
      | zero => simp
      | succ count =>
          rw [List.take_succ_cons, List.mem_cons, ih hrest, List.mem_cons, List.toFinset_cons,
            Finset.filter_insert]
          constructor
          · rintro (rfl | ⟨hmem, hcard⟩)
            · -- nothing is larger than the head
              have hnone : rest.toFinset.filter (item < ·) = ∅ := by
                rw [Finset.filter_eq_empty_iff]
                intro other hother
                exact not_lt.mpr (hhead other (List.mem_toFinset.mp hother)).le
              simp [hnone]
            · refine ⟨.inr hmem, ?_⟩
              rw [if_pos (hhead item hmem)]
              exact (Finset.card_insert_le _ _).trans_lt (Nat.succ_lt_succ hcard)
          · rintro ⟨rfl | hmem, hcard⟩
            · exact .inl rfl
            · refine .inr ⟨hmem, ?_⟩
              have hnew : head ∉ rest.toFinset.filter (item < ·) := by
                intro hhead'
                have hself := hhead head (List.mem_toFinset.mp (Finset.mem_filter.mp hhead').1)
                exact lt_irrefl head hself
              rw [if_pos (hhead item hmem), Finset.card_insert_of_notMem hnew] at hcard
              omega

theorem toFinset_take {items : List α} (hsorted : items.Pairwise (· > ·)) (count : ℕ) :
    (items.take count).toFinset = newest count items.toFinset := by
  ext item
  rw [List.mem_toFinset, mem_take_iff hsorted, mem_newest, List.mem_toFinset]

theorem card_newest (count : ℕ) (members : Finset α) :
    (newest count members).card = min count members.card := by
  have hsorted : (members.sort (· ≥ ·)).Pairwise (· > ·) := by
    have hle := Finset.pairwise_sort members (· ≥ ·)
    have hne : (members.sort (· ≥ ·)).Pairwise (· ≠ ·) := Finset.sort_nodup members (· ≥ ·)
    exact (hle.and hne).imp fun hboth => lt_of_le_of_ne hboth.1 hboth.2.symm
  have htake := toFinset_take hsorted count
  rw [Finset.sort_toFinset] at htake
  rw [← htake, List.toFinset_card_of_nodup, List.length_take, Finset.length_sort]
  exact (Finset.sort_nodup members (· ≥ ·)).sublist (List.take_sublist _ _)

@[simp] theorem newest_zero (members : Finset α) : newest 0 members = ∅ := by
  simp [newest]

/-! ## The limit -/

theorem limit_subset (hsub : active ⊆ all) : limit size all active ⊆ all := by
  unfold limit
  split
  · exact Finset.sdiff_subset.trans hsub
  · exact Finset.union_subset hsub (newest_subset.trans Finset.sdiff_subset)

theorem card_limit (hsub : active ⊆ all) :
    (limit size all active).card = min all.card size := by
  have hle := Finset.card_le_card hsub
  unfold limit
  split
  · next hmany =>
    rw [Finset.card_sdiff_of_subset newest_subset, card_newest]
    omega
  · next hfew =>
    have hdisjoint : Disjoint active (newest (size - active.card) (all \ active)) :=
      Finset.disjoint_of_subset_right newest_subset Finset.disjoint_sdiff
    rw [Finset.card_union_of_disjoint hdisjoint, card_newest, Finset.card_sdiff_of_subset hsub]
    omega

/-- Nobody is taken off while another is brought back. -/
theorem limit_comparable (size : ℕ) (all active : Finset α) :
    limit size all active ⊆ active ∨ active ⊆ limit size all active := by
  unfold limit
  split
  · exact .inl Finset.sdiff_subset
  · exact .inr Finset.subset_union_left

/-- The members that change are as many as the counts differ by. -/
theorem card_sdiff_limit (size : ℕ) (all active : Finset α) :
    (active \ limit size all active).card = active.card - (limit size all active).card ∧
      (limit size all active \ active).card = (limit size all active).card - active.card := by
  rcases limit_comparable size all active with hless | hmore
  · refine ⟨Finset.card_sdiff_of_subset hless, ?_⟩
    rw [Finset.sdiff_eq_empty_iff_subset.mpr hless, Finset.card_empty,
      Nat.sub_eq_zero_of_le (Finset.card_le_card hless)]
  · refine ⟨?_, Finset.card_sdiff_of_subset hmore⟩
    rw [Finset.sdiff_eq_empty_iff_subset.mpr hmore, Finset.card_empty,
      Nat.sub_eq_zero_of_le (Finset.card_le_card hmore)]

/-- A limit that is kept already changes nothing. -/
theorem limit_of_card (hsub : active ⊆ all) (hcard : active.card = min all.card size) :
    limit size all active = active := by
  have hall := Finset.card_sdiff_of_subset hsub
  rw [limit, if_neg (by omega)]
  have hnone : newest (size - active.card) (all \ active) = ∅ := by
    rw [← Finset.card_eq_zero, card_newest]
    omega
  rw [hnone, Finset.union_empty]

/-! ## The swap -/

theorem chosen_mem_swap : chosen ∈ swap size chosen active := by
  rw [swap, Finset.mem_sdiff]
  refine ⟨Finset.mem_insert_self _ _, fun hgone => ?_⟩
  exact Finset.notMem_erase chosen _ (newest_subset hgone)

/-- What the swap takes off. -/
theorem sdiff_swap (hnew : chosen ∉ active) :
    active \ swap size chosen active = newest (active.card + 1 - size) active := by
  have herase : (insert chosen active).erase chosen = active := Finset.erase_insert hnew
  rw [swap, herase, Finset.card_insert_of_notMem hnew]
  ext item
  rw [Finset.mem_sdiff, Finset.mem_sdiff, Finset.mem_insert]
  constructor
  · rintro ⟨hmem, hkept⟩
    by_contra hgone
    exact hkept ⟨.inr hmem, hgone⟩
  · intro hgone
    exact ⟨newest_subset hgone, fun hkept => hkept.2 hgone⟩

/-- With the limit kept and room for one, a swap keeps the count and takes at most one
off. -/
theorem card_swap (hsub : active ⊆ all) (hchosen : chosen ∈ all) (hnew : chosen ∉ active)
    (hcard : active.card = min all.card size) (hsize : 1 ≤ size) :
    (swap size chosen active).card = active.card ∧
      (active \ swap size chosen active).card ≤ 1 := by
  have hlt : active.card < all.card :=
    Finset.card_lt_card (Finset.ssubset_iff_subset_ne.mpr
      ⟨hsub, fun hsame => hnew (hsame ▸ hchosen)⟩)
  have hfull : active.card = size := by omega
  refine ⟨?_, ?_⟩
  · have herase : (insert chosen active).erase chosen = active := Finset.erase_insert hnew
    have hgone : newest (active.card + 1 - size) active ⊆ insert chosen active :=
      newest_subset.trans (Finset.subset_insert _ _)
    rw [swap, herase, Finset.card_insert_of_notMem hnew, Finset.card_sdiff_of_subset hgone,
      card_newest, Finset.card_insert_of_notMem hnew]
    omega
  · rw [sdiff_swap hnew, card_newest]
    omega

/-! ## Who stays -/

/-- Everybody else who is active is older or newer. -/
theorem card_older_newer {item : α} (hitem : item ∈ active) :
    (active.filter (· < item)).card + (active.filter (item < ·)).card + 1 = active.card := by
  have hsplit : active.filter (fun other => ¬ other < item) =
      insert item (active.filter (item < ·)) := by
    ext other
    rw [Finset.mem_insert, Finset.mem_filter, Finset.mem_filter, not_lt, le_iff_eq_or_lt]
    constructor
    · rintro ⟨hother, rfl | hlt⟩
      · exact .inl rfl
      · exact .inr ⟨hother, hlt⟩
    · rintro (rfl | ⟨hother, hlt⟩)
      · exact ⟨hitem, .inl rfl⟩
      · exact ⟨hother, .inr hlt⟩
  have hcards := Finset.card_filter_add_card_filter_not (s := active) (· < item)
  rw [hsplit, Finset.card_insert_of_notMem (by simp)] at hcards
  omega

/-- A member stays under the limit when fewer than that many are older. -/
theorem mem_limit_iff {item : α} (hitem : item ∈ active) :
    item ∈ limit size all active ↔ (active.filter (· < item)).card < size := by
  have hcards := card_older_newer hitem
  unfold limit
  split
  · rw [Finset.mem_sdiff, mem_newest]
    constructor
    · rintro ⟨-, hkept⟩
      by_contra hmany
      exact hkept ⟨hitem, by omega⟩
    · exact fun hfew => ⟨hitem, fun hgone => by omega⟩
  · exact ⟨fun _ => by omega, fun _ => Finset.mem_union_left _ hitem⟩

/-- A member survives a swap when the chosen one leaves it a place. -/
theorem mem_swap_iff {item : α} (hitem : item ∈ active) (hnew : chosen ∉ active) :
    item ∈ swap size chosen active ↔ (active.filter (· < item)).card + 1 < size := by
  have hcards := card_older_newer hitem
  have herase : (insert chosen active).erase chosen = active := Finset.erase_insert hnew
  rw [swap, herase, Finset.card_insert_of_notMem hnew, Finset.mem_sdiff, mem_newest]
  constructor
  · rintro ⟨-, hkept⟩
    by_contra hmany
    exact hkept ⟨hitem, by omega⟩
  · exact fun hfew => ⟨Finset.mem_insert_of_mem hitem, fun hgone => by omega⟩

/-! ## Down and up again -/

/-- The newest of all is among the newest. -/
theorem max_mem_newest {item : α} (hcount : 0 < count) (hitem : item ∈ members)
    (hmax : ∀ other ∈ members, other ≤ item) : item ∈ newest count members := by
  refine mem_newest.mpr ⟨hitem, ?_⟩
  have hnone : members.filter (item < ·) = ∅ := by
    rw [Finset.filter_eq_empty_iff]
    exact fun other hother => not_lt.mpr (hmax other hother)
  rw [hnone, Finset.card_empty]
  exact hcount

/-- Whoever is not among the newest is older than they are. -/
theorem lt_of_mem_newest {older newer : α} (hnewer : newer ∈ newest count members)
    (hmember : older ∈ members) (hnot : older ∉ newest count members) : older < newer := by
  by_contra hle
  apply hnot
  refine mem_newest.mpr ⟨hmember, (Finset.card_le_card ?_).trans_lt (mem_newest.mp hnewer).2⟩
  intro other hother
  rw [Finset.mem_filter] at hother ⊢
  exact ⟨hother.1, (not_lt.mp hle).trans_lt hother.2⟩

/-- The members that stay under a limit are the oldest. -/
theorem lt_of_limit {older newer : α} (holder : older ∈ limit size all all) (hnewer : newer ∈ all)
    (hgone : newer ∉ limit size all all) : older < newer := by
  unfold limit at holder hgone
  split at holder
  next hmany =>
    rw [if_pos hmany, Finset.mem_sdiff, not_and, not_not] at hgone
    obtain ⟨hmember, hnot⟩ := Finset.mem_sdiff.mp holder
    exact lt_of_mem_newest (hgone hnewer) hmember hnot
  next hfew =>
    rw [if_neg hfew] at hgone
    exact absurd (Finset.mem_union_left _ hnewer) hgone

/-- A limit that is lowered and raised again leaves the same members active exactly when it
never took anybody off before or was not lowered. -/
theorem limit_down_up_iff {low high : ℕ} (hle : low ≤ high) (all : Finset α) :
    limit high all (limit low all (limit high all all)) = limit high all all ↔
      all.card ≤ high ∨ low = high := by
  have hsubset : limit high all all ⊆ all := limit_subset (Finset.Subset.refl all)
  have hcard : (limit high all all).card = min all.card high := card_limit (Finset.Subset.refl all)
  have hlower : limit low all (limit high all all) ⊆ all := limit_subset hsubset
  have hlowerCard : (limit low all (limit high all all)).card = min all.card low :=
    card_limit hsubset
  constructor
  · intro hback
    by_contra hneither
    obtain ⟨hmany, hlowered⟩ := not_or.mp hneither
    -- The newest member was taken off first, and is brought back before the others.
    have hsome : all.Nonempty := Finset.card_pos.mp (by omega)
    have hmax := all.le_max'
    have hmember := all.max'_mem hsome
    have hgone : all.max' hsome ∉ limit high all all := by
      rw [limit, if_pos (by omega), Finset.mem_sdiff, not_and, not_not]
      exact fun _ => max_mem_newest (by omega) hmember hmax
    have hstillGone : all.max' hsome ∉ limit low all (limit high all all) := by
      rw [limit, if_pos (by omega)]
      exact fun hmem => hgone (Finset.mem_sdiff.mp hmem).1
    apply hgone
    rw [← hback]
    generalize limit low all (limit high all all) = active at hstillGone hlowerCard hlower
    rw [limit, if_neg (by omega)]
    refine Finset.mem_union_right _ (max_mem_newest (by omega)
      (Finset.mem_sdiff.mpr ⟨hmember, hstillGone⟩) fun other hother => ?_)
    exact hmax other (Finset.mem_sdiff.mp hother).1
  · rintro (hroom | rfl)
    · have hall (active : Finset α) (hactive : active ⊆ all) : limit high all active = all := by
        refine Finset.eq_of_subset_of_card_le (limit_subset hactive) ?_
        rw [card_limit hactive]
        omega
      rw [hall _ hlower, hall _ (Finset.Subset.refl all)]
    · rw [limit_of_card hsubset hcard, limit_of_card hsubset hcard]

end Roster
