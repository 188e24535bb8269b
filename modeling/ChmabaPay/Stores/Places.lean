import ChmabaPay.Foundation.Fallible
import ChmabaPay.Foundation.Roster
import ChmabaPay.Services.Slots

/-! # The stores of an account as a roster

The stores of an account are its members and the ones without a billing hold are
active. The store cap is the limit of the roster, and a moved slot is its swap.
-/

namespace ChmabaPay

open Calendar Relational Fallible

/-- The keys of the account's stores. -/
def Tables.storesOf (tables : Tables) (accountId : ℕ) : Finset ℕ :=
  ((tables.stores.select fun _ store =>
    decide (store.accountId = accountId)).map Prod.fst).toFinset

/-- The keys of the account's stores that are not held. -/
def Tables.unheldStores (tables : Tables) (accountId : ℕ) : Finset ℕ :=
  ((tables.stores.select fun _ store =>
    decide (store.accountId = accountId) && !store.isHeld).map Prod.fst).toFinset

section Members

variable {tables : Tables} {accountId key : ℕ}

theorem mem_map_select {α : Type} {table : Table α} {keep : ℕ → α → Bool} :
    key ∈ (table.select keep).map Prod.fst ↔
      ∃ row, table.get? key = some row ∧ keep key row = true := by
  simp only [List.mem_map, Prod.exists, Table.mem_select, exists_and_right, exists_eq_right]

theorem mem_storesOf : key ∈ tables.storesOf accountId ↔
    ∃ store, tables.stores.get? key = some store ∧ store.accountId = accountId := by
  simp only [Tables.storesOf, List.mem_toFinset, mem_map_select, decide_eq_true_eq]

theorem mem_unheldStores : key ∈ tables.unheldStores accountId ↔
    ∃ store, tables.stores.get? key = some store ∧ store.accountId = accountId ∧
      store.isHeld = false := by
  simp only [Tables.unheldStores, List.mem_toFinset, mem_map_select, Bool.and_eq_true,
    decide_eq_true_eq, Bool.not_eq_true']

theorem unheldStores_subset : tables.unheldStores accountId ⊆ tables.storesOf accountId := by
  intro key hkey
  obtain ⟨store, hstore, haccount, -⟩ := mem_unheldStores.mp hkey
  exact mem_storesOf.mpr ⟨store, hstore, haccount⟩

/-- Both sets are read off the stores table alone. -/
theorem storesOf_congr {tables' : Tables} (hstores : tables'.stores = tables.stores) :
    tables'.storesOf accountId = tables.storesOf accountId ∧
      tables'.unheldStores accountId = tables.unheldStores accountId := by
  simp only [Tables.storesOf, Tables.unheldStores, hstores, and_self]

end Members

/-! ## Selected rows in order -/

section Order

variable {α : Type} (table : Table α) (keep : ℕ → α → Bool)

theorem map_select_sorted : ((table.select keep).map Prod.fst).Pairwise (· < ·) :=
  List.pairwise_map.mpr (table.sorted.sublist List.filter_sublist)

/-- The last rows of a selection have its newest keys. -/
theorem toFinset_take_reverse (count : ℕ) :
    (((table.select keep).reverse.take count).map Prod.fst).toFinset =
      Roster.newest count ((table.select keep).map Prod.fst).toFinset := by
  have hsorted : ((table.select keep).map Prod.fst).reverse.Pairwise (· > ·) :=
    List.pairwise_reverse.mpr (map_select_sorted table keep)
  rw [List.map_take, List.map_reverse, Roster.toFinset_take hsorted, List.toFinset_reverse]

theorem length_select :
    (table.select keep).length = ((table.select keep).map Prod.fst).toFinset.card := by
  rw [List.toFinset_card_of_nodup, List.length_map]
  exact (map_select_sorted table keep).imp Nat.ne_of_lt

theorem filter_select (also : ℕ × α → Bool) :
    (table.select keep).filter also =
      table.select fun key row => keep key row && also (key, row) := by
  rw [Table.select, Table.select, List.filter_filter]
  exact List.filter_congr fun row _ => Bool.and_comm _ _

end Order

/-! ## Holding and releasing -/

section Holds

variable (tables : Tables) (accountId : ℕ) (keys : List ℕ) (moment : Option Instant)

/-- Setting or clearing the hold of some stores. -/
def Tables.holdStores (tables : Tables) (keys : List ℕ) (moment : Option Instant) : Tables :=
  { tables with
    stores := tables.stores.updateWhere (fun key _ => keys.contains key) (Store.hold moment) }

theorem get?_holdStores (key : ℕ) :
    (tables.holdStores keys moment).stores.get? key = (tables.stores.get? key).map fun store =>
      if key ∈ keys then store.hold moment else store := by
  simp only [Tables.holdStores, Table.get?_updateWhere, List.contains_iff_mem]

@[simp] theorem storesOf_holdStores :
    (tables.holdStores keys moment).storesOf accountId = tables.storesOf accountId := by
  ext key
  simp only [mem_storesOf, get?_holdStores, Option.map_eq_some_iff]
  constructor
  · rintro ⟨_, ⟨store, hstore, rfl⟩, haccount⟩
    exact ⟨store, hstore, by split at haccount <;> exact haccount⟩
  · rintro ⟨store, hstore, haccount⟩
    exact ⟨_, ⟨store, hstore, rfl⟩, by split <;> exact haccount⟩

theorem unheldStores_hold (now : Instant) :
    (tables.holdStores keys (some now)).unheldStores accountId =
      tables.unheldStores accountId \ keys.toFinset := by
  ext key
  simp only [mem_unheldStores, get?_holdStores, Option.map_eq_some_iff, Finset.mem_sdiff,
    List.mem_toFinset]
  constructor
  · rintro ⟨_, ⟨store, hstore, rfl⟩, haccount, hfree⟩
    split at hfree
    · cases hfree
    · next hkept =>
      rw [if_neg hkept] at haccount
      exact ⟨⟨store, hstore, haccount, hfree⟩, hkept⟩
  · rintro ⟨⟨store, hstore, haccount, hfree⟩, hkept⟩
    exact ⟨store, ⟨store, hstore, if_neg hkept⟩, haccount, hfree⟩

theorem unheldStores_release (hown : ∀ key ∈ keys, key ∈ tables.storesOf accountId) :
    (tables.holdStores keys none).unheldStores accountId =
      tables.unheldStores accountId ∪ keys.toFinset := by
  ext key
  simp only [mem_unheldStores, get?_holdStores, Option.map_eq_some_iff, Finset.mem_union,
    List.mem_toFinset]
  constructor
  · rintro ⟨_, ⟨store, hstore, rfl⟩, haccount, hfree⟩
    by_cases hkey : key ∈ keys
    · exact .inr hkey
    · rw [if_neg hkey] at haccount hfree
      exact .inl ⟨store, hstore, haccount, hfree⟩
  · rintro (⟨store, hstore, haccount, hfree⟩ | hkey)
    · refine ⟨_, ⟨store, hstore, rfl⟩, ?_, ?_⟩ <;> split
      · exact haccount
      · exact haccount
      · rfl
      · exact hfree
    · obtain ⟨store, hstore, haccount⟩ := mem_storesOf.mp (hown key hkey)
      exact ⟨store.hold none, ⟨store, hstore, if_pos hkey⟩, haccount, rfl⟩

/-- The stores of another account do not notice. -/
theorem unheldStores_holdStores_of_ne {other : ℕ} (hother : other ≠ accountId)
    (hown : ∀ key ∈ keys, key ∈ tables.storesOf accountId) :
    (tables.holdStores keys moment).unheldStores other = tables.unheldStores other := by
  ext key
  simp only [mem_unheldStores, get?_holdStores, Option.map_eq_some_iff]
  have hforeign : ∀ store, tables.stores.get? key = some store → store.accountId = other →
      key ∉ keys := by
    intro store hstore haccount hkey
    obtain ⟨store', hstore', haccount'⟩ := mem_storesOf.mp (hown key hkey)
    obtain rfl := Option.some.inj (hstore.symm.trans hstore')
    exact hother (haccount.symm.trans haccount')
  constructor
  · rintro ⟨_, ⟨store, hstore, rfl⟩, haccount, hfree⟩
    have hkept := hforeign store hstore (by split at haccount <;> exact haccount)
    rw [if_neg hkept] at haccount hfree
    exact ⟨store, hstore, haccount, hfree⟩
  · rintro ⟨store, hstore, haccount, hfree⟩
    exact ⟨store, ⟨store, hstore, if_neg (hforeign store hstore haccount)⟩, haccount, hfree⟩

end Holds

theorem length_unheld (tables : Tables) (accountId : ℕ) :
    (tables.stores.select fun _ store =>
      decide (store.accountId = accountId) && !store.isHeld).length =
      (tables.unheldStores accountId).card :=
  length_select _ _

/-! ## The cap -/

section Cap

variable (now : Instant) (tables : Tables) (accountId cap : ℕ)

/-- The cap holds or releases by the counts of free and held stores. -/
theorem applyStoreCap_some :
    applyStoreCap now tables accountId (some cap) =
      let free := tables.stores.select fun _ store =>
        decide (store.accountId = accountId) && !store.isHeld
      let held := tables.stores.select fun _ store =>
        decide (store.accountId = accountId) && store.isHeld
      if cap < free.length then
        tables.holdStores ((free.reverse.take (free.length - cap)).map Prod.fst) (some now)
      else if free.length < cap ∧ held ≠ [] then
        tables.holdStores ((held.reverse.take (cap - free.length)).map Prod.fst) none
      else tables := by
  simp only [applyStoreCap, filter_select]
  rfl

@[simp] theorem storesOf_applyStoreCap (maxStores : Option ℕ) (other : ℕ) :
    (applyStoreCap now tables accountId maxStores).storesOf other = tables.storesOf other := by
  cases maxStores with
  | none => rfl
  | some cap =>
      rw [applyStoreCap_some]
      dsimp only
      split
      · exact storesOf_holdStores _ _ _ _
      · split
        · exact storesOf_holdStores _ _ _ _
        · rfl

theorem heldStores_eq :
    ((tables.stores.select fun _ store =>
      decide (store.accountId = accountId) && store.isHeld).map Prod.fst).toFinset =
      tables.storesOf accountId \ tables.unheldStores accountId := by
  ext key
  rw [List.mem_toFinset, mem_map_select, Finset.mem_sdiff, mem_storesOf, mem_unheldStores]
  simp only [Bool.and_eq_true, decide_eq_true_eq]
  constructor
  · rintro ⟨store, hstore, haccount, hheld⟩
    refine ⟨⟨store, hstore, haccount⟩, ?_⟩
    rintro ⟨other, hother, -, hfree⟩
    obtain rfl := Option.some.inj (hstore.symm.trans hother)
    rw [hheld] at hfree
    cases hfree
  · rintro ⟨⟨store, hstore, haccount⟩, hnot⟩
    refine ⟨store, hstore, haccount, ?_⟩
    by_contra hfree
    exact hnot ⟨store, hstore, haccount, Bool.eq_false_iff.mpr hfree⟩

/-- The cap is the limit of the roster. -/
theorem unheldStores_applyStoreCap :
    (applyStoreCap now tables accountId (some cap)).unheldStores accountId =
      Roster.limit cap (tables.storesOf accountId) (tables.unheldStores accountId) := by
  rw [applyStoreCap_some, Roster.limit]
  dsimp only
  rw [length_unheld]
  split
  · rw [unheldStores_hold, toFinset_take_reverse]
    rfl
  · split
    · rw [unheldStores_release, toFinset_take_reverse, heldStores_eq]
      intro key hkey
      have hmem := List.mem_toFinset.mpr hkey
      rw [toFinset_take_reverse, heldStores_eq] at hmem
      exact Finset.sdiff_subset (Roster.newest_subset hmem)
    · next hmany hidle =>
      -- either the limit is met or nothing is held
      rw [not_and_or, not_not] at hidle
      rcases hidle with hfull | hnone
      · have hzero : cap - (tables.unheldStores accountId).card = 0 := by
          change ¬ (tables.unheldStores accountId).card < cap at hfull
          omega
        rw [hzero, Roster.newest_zero, Finset.union_empty]
      · rw [← heldStores_eq, hnone]
        simp [Roster.newest]

/-- What a selection of the account's stores takes are stores of the account. -/
theorem mem_storesOf_of_take {keep : Store → Bool} {count key : ℕ}
    (hkey : key ∈ (((tables.stores.select fun _ store =>
      decide (store.accountId = accountId) && keep store).reverse.take count).map Prod.fst)) :
    key ∈ tables.storesOf accountId := by
  obtain ⟨⟨_, store⟩, hmem, rfl⟩ := List.mem_map.mp hkey
  obtain ⟨hstore, hkeep⟩ :=
    Table.mem_select.mp (List.mem_reverse.mp (List.mem_of_mem_take hmem))
  rw [Bool.and_eq_true, decide_eq_true_eq] at hkeep
  exact mem_storesOf.mpr ⟨store, hstore, hkeep.1⟩

theorem unheldStores_applyStoreCap_of_ne (maxStores : Option ℕ) {other : ℕ}
    (hother : other ≠ accountId) :
    (applyStoreCap now tables accountId maxStores).unheldStores other =
      tables.unheldStores other := by
  cases maxStores with
  | none => rfl
  | some cap =>
      rw [applyStoreCap_some]
      dsimp only
      split
      · exact unheldStores_holdStores_of_ne _ _ _ _ hother
          fun key hkey => mem_storesOf_of_take tables accountId hkey
      · split
        · exact unheldStores_holdStores_of_ne _ _ _ _ hother
            fun key hkey => mem_storesOf_of_take tables accountId hkey
        · rfl

/-- A cap that is kept already changes nothing. -/
theorem applyStoreCap_of_card
    (hcard : (tables.unheldStores accountId).card =
      min (tables.storesOf accountId).card cap) :
    applyStoreCap now tables accountId (some cap) = tables := by
  have hheld := length_select tables.stores fun _ store =>
    decide (store.accountId = accountId) && store.isHeld
  rw [heldStores_eq, Finset.card_sdiff_of_subset unheldStores_subset] at hheld
  rw [applyStoreCap_some]
  dsimp only
  rw [length_unheld, if_neg (by omega), if_neg]
  rintro ⟨hfew, hsome⟩
  refine hsome (List.length_eq_zero_iff.mp ?_)
  omega

theorem card_applyStoreCap :
    ((applyStoreCap now tables accountId (some cap)).unheldStores accountId).card =
      min (tables.storesOf accountId).card cap := by
  rw [unheldStores_applyStoreCap, Roster.card_limit unheldStores_subset]

end Cap

/-! ## The swap -/

section Swap

variable {now : Instant} {tables tables' : Tables} {accountId : ℕ} {storePublicId : String}
  {move : StoreSlotMove}

theorem getStore_eq_ok {storeId : ℕ} {store : Store}
    (hget : getStore tables accountId storePublicId = .ok (storeId, store)) :
    tables.stores.get? storeId = some store ∧ store.accountId = accountId ∧
      store.publicId = storePublicId := by
  simp only [getStore, bind_eq_ok] at hget
  obtain ⟨found, hfound, hget⟩ := hget
  cases found with
  | none => cases hget
  | some row =>
      obtain rfl := Except.ok.inj hget
      have hmem : (storeId, store) ∈ tables.stores.select fun _ store =>
          decide (store.accountId = accountId) && decide (store.publicId = storePublicId) := by
        rw [oneOrNone_eq_some hfound]
        exact List.mem_singleton_self _
      simpa using Table.mem_select.mp hmem

/-- What moving a slot does: nothing for a live store, and otherwise a release and the
holds that make room for it. -/
theorem moveStoreSlot_eq_ok
    (hmove : moveStoreSlot now tables accountId storePublicId = .ok (move, tables')) :
    ∃ store, getStore tables accountId storePublicId = .ok (move.storeId, store) ∧
      tables.stores.get? move.storeId = some store ∧ store.accountId = accountId ∧
      store.status ≠ .disabled ∧
      ((store.isHeld = false ∧ tables' = tables) ∨
        (store.isHeld = true ∧ ∃ maxStores,
          planMaxStores tables accountId = .ok maxStores ∧
          tables' = { (tables.holdStores [move.storeId] none).holdStores
            ((displacedStores (tables.holdStores [move.storeId] none) accountId move.storeId
              maxStores).map Prod.fst) (some now) with audit := tables'.audit })) := by
  simp only [moveStoreSlot, bind_eq_ok] at hmove
  obtain ⟨⟨storeId, store⟩, hget, hmove⟩ := hmove
  obtain ⟨hstore, haccount, -⟩ := getStore_eq_ok hget
  dsimp only at hmove
  split at hmove
  · exact absurd hmove throw_bind_ne_ok
  next henabled =>
    split at hmove
    · next hlive =>
      simp only [pure_eq_ok, Prod.mk.injEq] at hmove
      obtain ⟨rfl, rfl⟩ := hmove
      exact ⟨store, hget, hstore, haccount, henabled, .inl ⟨by simp [Store.isHeld, hlive], rfl⟩⟩
    · next hheld =>
      simp only [bind_eq_ok, pure_eq_ok, Prod.mk.injEq] at hmove
      obtain ⟨maxStores, hmax, rfl, rfl⟩ := hmove
      have hreleased : tables.stores.update storeId (Store.hold none) =
          (tables.holdStores [storeId] none).stores :=
        Table.ext_get? rfl fun key => by
          rw [Table.get?_update, get?_holdStores]
          by_cases hkey : key = storeId <;> simp [hkey]
      refine ⟨store, hget, hstore, haccount, henabled, .inr ⟨?_, maxStores, hmax, ?_⟩⟩
      · exact Option.isSome_iff_ne_none.mpr hheld
      · rw [hreleased]
        rfl

theorem mem_storesOf_of_displaced {storeId key : ℕ} {maxStores : Option ℕ}
    (hkey : key ∈ (displacedStores tables accountId storeId maxStores).map Prod.fst) :
    key ∈ tables.storesOf accountId := by
  unfold displacedStores at hkey
  split at hkey
  · cases hkey
  · dsimp only at hkey
    obtain ⟨⟨_, store⟩, hmem, rfl⟩ := List.mem_map.mp hkey
    obtain ⟨hstore, hkeep⟩ := Table.mem_select.mp
      (List.mem_of_mem_filter (List.mem_reverse.mp (List.mem_of_mem_take hmem)))
    rw [Bool.and_eq_true, decide_eq_true_eq] at hkeep
    exact mem_storesOf.mpr ⟨store, hstore, hkeep.1⟩

theorem unheldStores_swap_of_ne {storeId : ℕ} {maxStores : Option ℕ} {other : ℕ}
    (hown : storeId ∈ tables.storesOf accountId) (hother : other ≠ accountId) :
    ((tables.holdStores [storeId] none).holdStores
        ((displacedStores (tables.holdStores [storeId] none) accountId storeId
          maxStores).map Prod.fst) (some now)).unheldStores other =
      tables.unheldStores other := by
  rw [unheldStores_holdStores_of_ne _ accountId _ _ hother,
    unheldStores_holdStores_of_ne _ accountId _ _ hother]
  · intro key hkey
    rw [List.mem_singleton.mp hkey]
    exact hown
  · exact fun key hkey => mem_storesOf_of_displaced hkey

theorem unheldStores_release_one {storeId : ℕ} (hown : storeId ∈ tables.storesOf accountId) :
    (tables.holdStores [storeId] none).unheldStores accountId =
      insert storeId (tables.unheldStores accountId) := by
  rw [unheldStores_release]
  · ext key
    simp
  · intro key hkey
    rw [List.mem_singleton.mp hkey]
    exact hown

/-- Without an allowance the store is back and nothing makes room for it. -/
theorem unheldStores_swap_none {storeId : ℕ} (hown : storeId ∈ tables.storesOf accountId) :
    ((tables.holdStores [storeId] none).holdStores
        ((displacedStores (tables.holdStores [storeId] none) accountId storeId
          none).map Prod.fst) (some now)).unheldStores accountId =
      insert storeId (tables.unheldStores accountId) := by
  rw [unheldStores_hold, unheldStores_release_one hown]
  exact Finset.sdiff_empty

/-- Moving a slot is the swap of the roster. -/
theorem unheldStores_swap {storeId cap : ℕ} (hown : storeId ∈ tables.storesOf accountId) :
    ((tables.holdStores [storeId] none).holdStores
        ((displacedStores (tables.holdStores [storeId] none) accountId storeId
          (some cap)).map Prod.fst) (some now)).unheldStores accountId =
      Roster.swap cap storeId (tables.unheldStores accountId) := by
  have hreleased := unheldStores_release_one hown
  set released := tables.holdStores [storeId] none
  rw [unheldStores_hold, displacedStores, filter_select, length_unheld, toFinset_take_reverse,
    hreleased, Roster.swap]
  have hcandidates : ((released.stores.select fun key store =>
      decide (store.accountId = accountId) && !store.isHeld &&
        decide (key ≠ storeId)).map Prod.fst).toFinset =
      (insert storeId (tables.unheldStores accountId)).erase storeId := by
    rw [← hreleased]
    ext key
    rw [List.mem_toFinset, mem_map_select, Finset.mem_erase, mem_unheldStores]
    simp only [Bool.and_eq_true, decide_eq_true_eq, Bool.not_eq_true']
    constructor
    · rintro ⟨store, hstore, ⟨haccount, hfree⟩, hne⟩
      exact ⟨hne, store, hstore, haccount, hfree⟩
    · rintro ⟨hne, store, hstore, haccount, hfree⟩
      exact ⟨store, hstore, ⟨haccount, hfree⟩, hne⟩
  rw [hcandidates]

end Swap

end ChmabaPay
