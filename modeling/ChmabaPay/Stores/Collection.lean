import ChmabaPay.Stores.Effects
import ChmabaPay.Stores.Swaps

/-! # The collection store under the store cap

Plan fees are collected through one store, owned by a platform administrator. A freeze
leaves administrators alone. The store cap does not know that store: it holds whatever
is newest, and the collection store stays live only while few enough of its owner's
live stores are older.
-/

namespace ChmabaPay

open Calendar Relational Execution Fallible

/-- The store fees are collected through, when an administrator owns it. -/
structure Collects (settings : Settings) (tables : Tables) (hqId : ℕ) (hq : Store) : Prop where
  resolved : resolveHqStore settings tables = .ok (some (hqId, hq))
  owner : ∃ owner, tables.accounts.get? hq.accountId = some owner ∧ owner.isPlatformAdmin = true

/-- The step neither holds the collection store nor freezes its owner. -/
def CollectionOpen (settings : Settings) (before after : Tables) : Prop :=
  ∀ hqId hq, Collects settings before hqId hq →
    (∀ hq', after.stores.get? hqId = some hq' → hq'.isHeld = true → hq.isHeld = true) ∧
      ∀ owner owner', before.accounts.get? hq.accountId = some owner →
        after.accounts.get? hq.accountId = some owner' → owner'.status = .restricted →
        owner.status = .restricted

/-- The owner's live stores older than a given one. -/
def olderLive (tables : Tables) (accountId storeId : ℕ) : ℕ :=
  ((tables.unheldStores accountId).filter (· < storeId)).card

/-- A cap on the owner's stores reaches beyond the older live ones, and so does the
plan when another store is brought back. -/
def StoreInput.SparesCollection (settings : Settings) (world : World) (input : StoreInput) :
    Prop :=
  ∀ hqId hq, Collects settings world.db.tables hqId hq → hq.isHeld = false →
    match input.op with
    | .request op => ∀ cap, op.Caps world.db.tables hq.accountId (some cap) →
        olderLive world.db.tables hq.accountId hqId < cap
    | .moveSlot accountId storePublicId => accountId = hq.accountId → ∀ chosen cap,
        getStore world.db.tables accountId storePublicId = .ok chosen → chosen.2.isHeld = true →
        planMaxStores world.db.tables accountId = .ok (some cap) →
        olderLive world.db.tables hq.accountId hqId + 1 < cap

section Steps

variable {settings : Settings} {now : Instant} {before after : Tables} {hqId : ℕ} {hq : Store}

theorem Collects.mem_unheldStores (hcollects : Collects settings before hqId hq)
    (hlive : hq.isHeld = false) : hqId ∈ before.unheldStores hq.accountId :=
  ChmabaPay.mem_unheldStores.mpr ⟨hq, resolveHqStore_eq_ok hcollects.resolved, rfl, hlive⟩

/-- A store whose account lists it as live is not held. -/
theorem not_held_of_mem {accountId key : ℕ} {store : Store}
    (hmem : key ∈ after.unheldStores accountId) (hstore : after.stores.get? key = some store) :
    store.isHeld = false := by
  obtain ⟨found, hfound, -, hfree⟩ := ChmabaPay.mem_unheldStores.mp hmem
  rw [Option.some.inj (hstore.symm.trans hfound)]
  exact hfree

theorem perform_collects {op : Op} {response : Response}
    (hspares : ∀ hqId hq, Collects settings before hqId hq → hq.isHeld = false →
      ∀ cap, op.Caps before hq.accountId (some cap) → olderLive before hq.accountId hqId < cap)
    (hperform : perform settings now before op = .ok (response, after)) :
    CollectionOpen settings before after := by
  have hhoused := perform_housed hperform
  intro hqId hq hcollects
  refine ⟨fun hq' hget hheld => ?_, fun owner owner' howner howner' hfrozen => ?_⟩
  · by_contra hnot
    have hlive : hq.isHeld = false := Bool.eq_false_iff.mpr hnot
    have hmem := hcollects.mem_unheldStores hlive
    have hkept : hqId ∈ after.unheldStores hq.accountId := by
      rcases hhoused.stores with hsame | ⟨accountId, maxStores, hcaps, hstores⟩
      · rw [(storesOf_congr hsame).2]
        exact hmem
      · rw [(storesOf_congr hstores).2]
        by_cases haccount : hq.accountId = accountId
        · subst haccount
          cases maxStores with
          | none => exact hmem
          | some cap =>
              rw [unheldStores_applyStoreCap, Roster.mem_limit_iff hmem]
              exact hspares hqId hq hcollects hlive cap hcaps
        · rw [unheldStores_applyStoreCap_of_ne _ _ _ _ haccount]
          exact hmem
    rw [not_held_of_mem hkept hget] at hheld
    cases hheld
  · obtain ⟨admin, hadmin, hself⟩ := hcollects.owner
    obtain rfl := Option.some.inj (hadmin.symm.trans howner)
    obtain ⟨account', haccount', -, hserved⟩ := hhoused.admins hq.accountId admin hadmin
    obtain rfl := Option.some.inj (haccount'.symm.trans howner')
    exact hserved hself hfrozen

theorem moveStoreSlot_collects {accountId : ℕ} {storePublicId : String} {move : StoreSlotMove}
    (hspares : ∀ hqId hq, Collects settings before hqId hq → hq.isHeld = false →
      accountId = hq.accountId → ∀ chosen cap,
      getStore before accountId storePublicId = .ok chosen → chosen.2.isHeld = true →
      planMaxStores before accountId = .ok (some cap) →
      olderLive before hq.accountId hqId + 1 < cap)
    (hmove : moveStoreSlot now before accountId storePublicId = .ok (move, after)) :
    CollectionOpen settings before after := by
  obtain ⟨store, hget, hstore, haccount, -, ⟨-, rfl⟩ | ⟨hheld, maxStores, hmax, hmoved⟩⟩ :=
    moveStoreSlot_eq_ok hmove
  · intro hqId hq hcollects
    refine ⟨fun hq' hget hheld => ?_, fun owner owner' howner howner' hfrozen => ?_⟩
    · rwa [← Option.some.inj (hget.symm.trans (resolveHqStore_eq_ok hcollects.resolved))]
    · rwa [Option.some.inj (howner.symm.trans howner')]
  have haccounts : after.accounts = before.accounts := by
    rw [hmoved]
    rfl
  have hown : move.storeId ∈ before.storesOf accountId :=
    mem_storesOf.mpr ⟨store, hstore, haccount⟩
  intro hqId hq hcollects
  refine ⟨fun hq' hget' hheld' => ?_, fun owner owner' howner howner' hfrozen => ?_⟩
  · by_contra hnot
    have hlive : hq.isHeld = false := Bool.eq_false_iff.mpr hnot
    have hmem := hcollects.mem_unheldStores hlive
    have hstores : after.stores = ((before.holdStores [move.storeId] none).holdStores
        ((displacedStores (before.holdStores [move.storeId] none) accountId move.storeId
          maxStores).map Prod.fst) (some now)).stores := by
      rw [hmoved]
    have hkept : hqId ∈ after.unheldStores hq.accountId := by
      rw [(storesOf_congr hstores).2]
      by_cases hself : accountId = hq.accountId
      · subst hself
        cases maxStores with
        | none =>
            rw [unheldStores_swap_none hown]
            exact Finset.mem_insert_of_mem hmem
        | some cap =>
            have hnew : move.storeId ∉ before.unheldStores hq.accountId := by
              intro hin
              rw [not_held_of_mem hin hstore] at hheld
              cases hheld
            rw [unheldStores_swap hown, Roster.mem_swap_iff hmem hnew]
            exact hspares hqId hq hcollects hlive rfl _ cap hget hheld hmax
      · rw [unheldStores_swap_of_ne hown (Ne.symm hself)]
        exact hmem
    rw [not_held_of_mem hkept hget'] at hheld'
    cases hheld'
  · rw [haccounts] at howner'
    rwa [Option.some.inj (howner.symm.trans howner')]

end Steps

theorem storeStep_collects {settings : Settings} {world : World} {input : StoreInput}
    (hspares : input.SparesCollection settings world) :
    CollectionOpen settings world.db.tables
      (next (storeStep settings) world input).db.tables := by
  simp only [next, storeStep]
  cases htransact : storeTransact settings (input.moment world) world.db input.op with
  | error failure =>
      intro hqId hq hcollects
      refine ⟨fun hq' hget hheld => ?_, fun owner owner' howner howner' hfrozen => ?_⟩
      · rwa [← Option.some.inj (hget.symm.trans (resolveHqStore_eq_ok hcollects.resolved))]
      · rwa [Option.some.inj (howner.symm.trans howner')]
  | ok committed =>
      obtain ⟨elapsed, op⟩ := input
      rcases storeTransact_eq_ok htransact with
        ⟨request, response, rfl, hperform⟩ | ⟨accountId, storePublicId, move, rfl, hmove⟩
      · exact perform_collects hspares hperform
      · exact moveStoreSlot_collects hspares hmove

/-- In a run whose caps and swaps reach beyond the older live stores of its owner, the
collection store stays open, and its owner is never frozen. -/
theorem collection_stays_open {settings : Settings} {world : World} {inputs : List StoreInput}
    (hspares : Along (storeStep settings)
      (fun world input => input.SparesCollection settings world) world inputs) :
    Along (storeStep settings)
      (fun world input => CollectionOpen settings world.db.tables
        (next (storeStep settings) world input).db.tables) world inputs :=
  hspares.imp fun _ _ hinput => storeStep_collects hinput

namespace Specimen

/-- A store of the platform's own account that is older than the collection store. -/
def deskStore : Store :=
  { hqStore with publicId := "store_desk", name := "Front desk", isInternal := false }

/-- The collection store is the younger of the platform's two stores. -/
def collectionTables : Tables :=
  { tables with
    stores := .ofList [shopStore, deskStore, hqStore]
    plans := .ofList
      [{ plan "free" 0 with maxStores := some 1 }, { plan "duo" 0 with maxStores := some 2 }] }

theorem constraints_collectionTables : Constraints collectionTables := by decide

def collectionWorld : World := ⟨0, collectionTables, constraints_collectionTables⟩

/-- The platform's account moves to a plan for two stores, the shop to the free one. -/
def collectionRun : List StoreInput :=
  [⟨60000000, .request (.changePlan 0 "duo")⟩, ⟨60000000, .request (.changePlan 1 "free")⟩]

/-- The platform's account moves to the free plan. -/
def freeDesk : StoreInput := ⟨60000000, .request (.changePlan 0 "free")⟩

end Specimen

theorem collection_stays_open_run :
    Along (storeStep {}) (fun world input => CollectionOpen {} world.db.tables
      (next (storeStep {}) world input).db.tables) Specimen.collectionWorld
      Specimen.collectionRun := by
  refine collection_stays_open ⟨?_, ?_, trivial⟩
  · intro hqId hq hcollects _ cap hcaps
    have hresolved : resolveHqStore {} Specimen.collectionTables =
        .ok (some (2, Specimen.hqStore)) := by decide +kernel
    obtain ⟨rfl, rfl⟩ := Prod.mk.inj
      (Option.some.inj (Except.ok.inj (hresolved.symm.trans hcollects.resolved)))
    obtain ⟨-, change, hread, -, hmax⟩ := hcaps
    have hplan : (readPlanChange Specimen.collectionTables 0 "duo").map (·.plan.maxStores) =
        .ok (some 2) := by decide +kernel
    change readPlanChange Specimen.collectionTables 0 "duo" = .ok change at hread
    rw [hread] at hplan
    obtain rfl : cap = 2 := Option.some.inj (hmax.symm.trans (Except.ok.inj hplan))
    change olderLive Specimen.collectionTables 0 2 < 2
    decide +kernel
  · intro hqId hq hcollects _ cap hcaps
    obtain ⟨hself, -⟩ := hcaps
    set before := (next (storeStep {}) Specimen.collectionWorld
      ⟨60000000, .request (.changePlan 0 "duo")⟩).db.tables with hbefore
    have hresolved : resolveHqStore {} before = .ok (some (2, Specimen.hqStore)) := by
      decide +kernel
    obtain ⟨rfl, rfl⟩ := Prod.mk.inj
      (Option.some.inj (Except.ok.inj (hresolved.symm.trans hcollects.resolved)))
    cases hself

/-- The free plan has room for one store, and the collection store is the newer one. -/
theorem collection_store_held :
    ¬ CollectionOpen {} Specimen.collectionWorld.db.tables
      (next (storeStep {}) Specimen.collectionWorld Specimen.freeDesk).db.tables := by
  intro hopen
  have hcollects : Collects {} Specimen.collectionWorld.db.tables 2 Specimen.hqStore :=
    ⟨by decide +kernel, Specimen.operator, by decide +kernel, rfl⟩
  have hheld :
      (next (storeStep {}) Specimen.collectionWorld Specimen.freeDesk).db.tables.stores.get? 2 =
        some (Specimen.hqStore.hold (some 60000000)) := by decide +kernel
  have hsame := (hopen 2 Specimen.hqStore hcollects).1 _ hheld rfl
  cases hsame

end ChmabaPay
