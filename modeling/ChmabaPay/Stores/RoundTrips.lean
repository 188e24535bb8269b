import ChmabaPay.Stores.Swaps

/-! # A plan given up and taken again

The cap holds the newest stores first and releases the newest held store first. A store held
by the higher cap is therefore released before one the lower cap held.
-/

namespace ChmabaPay

open Calendar Relational

/-- The keys of the account's stores that are held. -/
def Tables.heldStores (tables : Tables) (accountId : ℕ) : Finset ℕ :=
  tables.storesOf accountId \ tables.unheldStores accountId

section RoundTrip

variable {tables : Tables} {accountId : ℕ}

theorem unheldStores_of_free
    (hfree : ∀ key store, tables.stores.get? key = some store → store.accountId = accountId →
      store.isHeld = false) : tables.unheldStores accountId = tables.storesOf accountId := by
  refine Finset.Subset.antisymm unheldStores_subset fun key hkey => ?_
  obtain ⟨store, hstore, haccount⟩ := mem_storesOf.mp hkey
  exact mem_unheldStores.mpr ⟨store, hstore, haccount, hfree key store hstore haccount⟩

/-- The held stores of two states of the same stores agree when the others do. -/
theorem heldStores_eq_iff {tables' : Tables}
    (hstores : tables'.storesOf accountId = tables.storesOf accountId) :
    tables'.heldStores accountId = tables.heldStores accountId ↔
      tables'.unheldStores accountId = tables.unheldStores accountId := by
  have hfirst : tables.unheldStores accountId ⊆ tables.storesOf accountId := unheldStores_subset
  have hsecond : tables'.unheldStores accountId ⊆ tables'.storesOf accountId := unheldStores_subset
  unfold Tables.heldStores
  rw [hstores] at hsecond ⊢
  constructor
  · intro hheld
    rw [← Finset.sdiff_sdiff_eq_self hsecond, hheld, Finset.sdiff_sdiff_eq_self hfirst]
  · intro hunheld
    rw [hunheld]

/-- Back under the cap it had, an account has the same stores held, the ones released are
those that were held below it, and the oldest stores are live: exactly when the cap holds no
store, or the account never went below it. -/
theorem cap_round_trip_iff
    (hfree : ∀ key store, tables.stores.get? key = some store → store.accountId = accountId →
      store.isHeld = false) {low high : ℕ} (hle : low ≤ high) (first second third : Instant) :
    let once := applyStoreCap first tables accountId (some high)
    let below := applyStoreCap second once accountId (some low)
    let back := applyStoreCap third below accountId (some high)
    (back.heldStores accountId = once.heldStores accountId ∧
        back.unheldStores accountId \ below.unheldStores accountId =
          once.unheldStores accountId \ below.unheldStores accountId ∧
        ∀ live ∈ back.unheldStores accountId, ∀ held ∈ back.heldStores accountId, live < held) ↔
      (tables.storesOf accountId).card ≤ high ∨ low = high := by
  intro once below back
  have hstores : back.storesOf accountId = once.storesOf accountId := by
    rw [storesOf_applyStoreCap, storesOf_applyStoreCap]
  have honce : once.unheldStores accountId =
      Roster.limit high (tables.storesOf accountId) (tables.storesOf accountId) := by
    rw [unheldStores_applyStoreCap, unheldStores_of_free hfree]
  have hback : back.unheldStores accountId = Roster.limit high (tables.storesOf accountId)
      (Roster.limit low (tables.storesOf accountId) (once.unheldStores accountId)) := by
    rw [unheldStores_applyStoreCap, unheldStores_applyStoreCap, storesOf_applyStoreCap,
      storesOf_applyStoreCap]
  rw [heldStores_eq_iff hstores, ← Roster.limit_down_up_iff hle, ← honce, ← hback]
  constructor
  · exact fun hsame => hsame.1
  · intro hsame
    refine ⟨hsame, by rw [hsame], fun live hlive held hheld => ?_⟩
    unfold Tables.heldStores at hheld
    rw [hsame, honce] at hlive hheld
    rw [storesOf_applyStoreCap, storesOf_applyStoreCap, storesOf_applyStoreCap] at hheld
    obtain ⟨hmember, hgone⟩ := Finset.mem_sdiff.mp hheld
    exact Roster.lt_of_limit hlive hmember hgone

end RoundTrip

section

open Specimen

/-- The shop with its three stores goes from a plan for three to one for two and back. -/
theorem cap_round_trip_chain :
    (applyStoreCap 3 (applyStoreCap 2 (applyStoreCap 1 chain 1 (some 3)) 1 (some 2)) 1
        (some 3)).heldStores 1 = (applyStoreCap 1 chain 1 (some 3)).heldStores 1 := by
  have hfree : ∀ key store, chain.stores.get? key = some store → store.accountId = 1 →
      store.isHeld = false := by
    intro key store hget _
    have hnone : ∀ row ∈ chain.stores.rows, row.2.isHeld = false := by decide
    exact hnone (key, store) (Table.get?_eq_some_iff.mp hget)
  have hle : 2 ≤ 3 := by decide
  exact ((cap_round_trip_iff hfree hle 1 2 3).mpr (.inl (by decide +kernel))).1

/-- From a plan for two to one for one and back, the third store is live and the second is
held. -/
theorem cap_round_trip_swapped :
    (applyStoreCap 1 chain 1 (some 2)).heldStores 1 = {3} ∧
      (applyStoreCap 3 (applyStoreCap 2 (applyStoreCap 1 chain 1 (some 2)) 1 (some 1)) 1
        (some 2)).heldStores 1 = {2} := by
  decide +kernel

end

end ChmabaPay
