import ChmabaPay.Specimen
import ChmabaPay.Stores.Places

/-! # Caps and swaps in any order

The store cap counts and the moved slot swaps, so the two agree on how many stores are
live: after a cap the count is what the cap allows, and no swap under that cap changes
it. A cap repeated after any swaps finds nothing to do.
-/

namespace ChmabaPay

open Calendar Relational Execution Fallible

/-- An account's stores, and the cap applied last. -/
structure Capping where
  tables : Tables
  cap : Option ℕ := none

/-- What happens to the stores of an account, and anything that happens elsewhere. -/
inductive CapInput where
  | applyCap (now : Instant) (maxStores : ℕ)
  | moveSlot (now : Instant) (storePublicId : String)
  | elsewhere (change : Tables → Tables)

def capStep (accountId : ℕ) (state : Capping) : CapInput → Capping × Except Failure Unit
  | .applyCap now maxStores =>
      (⟨applyStoreCap now state.tables accountId (some maxStores), some maxStores⟩, .ok ())
  | .moveSlot now storePublicId =>
      match moveStoreSlot now state.tables accountId storePublicId with
      | .ok (_, moved) => ({ state with tables := moved }, .ok ())
      | .error failure => (state, .error failure)
  | .elsewhere change =>
      ({ state with tables := { change state.tables with stores := state.tables.stores } }, .ok ())

/-- A slot is moved after a cap of at least one store, while the live plan has that
cap. -/
def CapInput.Admitted (accountId : ℕ) (state : Capping) : CapInput → Prop
  | .moveSlot _ _ => ∃ cap, state.cap = some cap ∧ 1 ≤ cap ∧
      planMaxStores state.tables accountId = .ok (some cap)
  | .applyCap _ _ | .elsewhere _ => True

/-! ## What each operation leaves -/

/-- No store changes its status, appears or goes. -/
def SameStatuses (before after : Tables) : Prop :=
  ∀ key, (after.stores.get? key).map Store.status = (before.stores.get? key).map Store.status

/-- The cap is met, by holding or by releasing as many stores as the counts differ by,
and applying it again changes nothing. -/
structure Capped (accountId cap : ℕ) (before after : Tables) : Prop where
  count : (after.unheldStores accountId).card = min (before.storesOf accountId).card cap
  held : (before.unheldStores accountId \ after.unheldStores accountId).card =
    (before.unheldStores accountId).card - (after.unheldStores accountId).card
  released : (after.unheldStores accountId \ before.unheldStores accountId).card =
    (after.unheldStores accountId).card - (before.unheldStores accountId).card
  again : ∀ later, applyStoreCap later after accountId (some cap) = after
  statuses : SameStatuses before after

/-- The chosen store is live, one other store at most is held for it, and the cap has
nothing to do. -/
structure Swapped (accountId cap storeId : ℕ) (before after : Tables) : Prop where
  chosen : storeId ∈ after.unheldStores accountId
  count : (after.unheldStores accountId).card = (before.unheldStores accountId).card
  displaced : (before.unheldStores accountId \ after.unheldStores accountId).card ≤ 1
  again : ∀ later, applyStoreCap later after accountId (some cap) = after
  statuses : SameStatuses before after

/-- What every step of a run satisfies. -/
def CapInput.Kept (accountId : ℕ) (state : Capping) (input : CapInput) : Prop :=
  match input with
  | .applyCap _ maxStores => Capped accountId maxStores state.tables
      (next (capStep accountId) state input).tables
  | .moveSlot now storePublicId => ∀ cap, state.cap = some cap → ∀ move moved,
      moveStoreSlot now state.tables accountId storePublicId = .ok (move, moved) →
        Swapped accountId cap move.storeId state.tables moved
  | .elsewhere _ => SameStatuses state.tables (next (capStep accountId) state input).tables

section Steps

variable {tables : Tables} {accountId cap : ℕ} {now : Instant}

theorem sameStatuses_holdStores (tables : Tables) (keys : List ℕ) (moment : Option Instant) :
    SameStatuses tables (tables.holdStores keys moment) := by
  intro key
  rw [get?_holdStores, Option.map_map]
  congr 1
  funext store
  simp only [Function.comp_apply]
  split <;> rfl

theorem SameStatuses.trans {first second third : Tables} (hfirst : SameStatuses first second)
    (hsecond : SameStatuses second third) : SameStatuses first third :=
  fun key => (hsecond key).trans (hfirst key)

theorem applyStoreCap_sameStatuses : SameStatuses tables
    (applyStoreCap now tables accountId (some cap)) := by
  rw [applyStoreCap_some]
  dsimp only
  split
  · exact sameStatuses_holdStores _ _ _
  · split
    · exact sameStatuses_holdStores _ _ _
    · exact fun _ => rfl

theorem applyStoreCap_capped : Capped accountId cap tables
    (applyStoreCap now tables accountId (some cap)) := by
  have hcount := card_applyStoreCap now tables accountId cap
  have hchanged := Roster.card_sdiff_limit cap (tables.storesOf accountId)
    (tables.unheldStores accountId)
  rw [← unheldStores_applyStoreCap now] at hchanged
  refine ⟨hcount, hchanged.1, hchanged.2, fun later => ?_, applyStoreCap_sameStatuses⟩
  exact applyStoreCap_of_card later _ accountId cap (by rw [hcount, storesOf_applyStoreCap])

theorem moveStoreSlot_sameStatuses {storePublicId : String} {move : StoreSlotMove}
    {moved : Tables}
    (hmove : moveStoreSlot now tables accountId storePublicId = .ok (move, moved)) :
    SameStatuses tables moved := by
  obtain ⟨store, -, -, -, -, ⟨-, rfl⟩ | ⟨-, maxStores, -, hmoved⟩⟩ := moveStoreSlot_eq_ok hmove
  · exact fun _ => rfl
  · have hboth := (sameStatuses_holdStores tables [move.storeId] none).trans
      (sameStatuses_holdStores (tables.holdStores [move.storeId] none)
        ((displacedStores (tables.holdStores [move.storeId] none) accountId move.storeId
          maxStores).map Prod.fst) (some now))
    rw [hmoved]
    exact hboth

/-- While the cap is met a moved slot is a fair exchange. -/
theorem moveStoreSlot_swapped {storePublicId : String} {move : StoreSlotMove} {moved : Tables}
    (hcount : (tables.unheldStores accountId).card = min (tables.storesOf accountId).card cap)
    (hcap : 1 ≤ cap) (hlive : planMaxStores tables accountId = .ok (some cap))
    (hmove : moveStoreSlot now tables accountId storePublicId = .ok (move, moved)) :
    moved.storesOf accountId = tables.storesOf accountId ∧
      Swapped accountId cap move.storeId tables moved := by
  have hstatuses := moveStoreSlot_sameStatuses hmove
  obtain ⟨store, -, hstore, haccount, -, ⟨hfree, rfl⟩ | ⟨hheld, maxStores, hmax, hmoved⟩⟩ :=
    moveStoreSlot_eq_ok hmove
  · refine ⟨rfl, mem_unheldStores.mpr ⟨store, hstore, haccount, hfree⟩, rfl, ?_, fun later => ?_,
      hstatuses⟩
    · rw [sdiff_self]
      exact Nat.zero_le 1
    · exact applyStoreCap_of_card later _ accountId cap hcount
  · obtain rfl : some cap = maxStores := Except.ok.inj (hlive.symm.trans hmax)
    have hown : move.storeId ∈ tables.storesOf accountId :=
      mem_storesOf.mpr ⟨store, hstore, haccount⟩
    have hnew : move.storeId ∉ tables.unheldStores accountId := by
      intro hmem
      obtain ⟨other, hother, -, hfree⟩ := mem_unheldStores.mp hmem
      rw [← Option.some.inj (hstore.symm.trans hother), hheld] at hfree
      cases hfree
    have hunheld : moved.unheldStores accountId =
        Roster.swap cap move.storeId (tables.unheldStores accountId) := by
      rw [hmoved]
      exact unheldStores_swap hown
    have hstores : moved.storesOf accountId = tables.storesOf accountId := by
      rw [hmoved]
      exact (storesOf_holdStores _ _ _ _).trans (storesOf_holdStores _ _ _ _)
    have hswap := Roster.card_swap unheldStores_subset hown hnew hcount hcap
    rw [← hunheld] at hswap
    refine ⟨hstores, ?_, hswap.1, hswap.2, fun later => ?_, hstatuses⟩
    · rw [hunheld]
      exact Roster.chosen_mem_swap
    · exact applyStoreCap_of_card later _ accountId cap (by rw [hswap.1, hcount, hstores])

end Steps

/-! ## Runs -/

/-- The cap applied last is met. -/
def Capping.Met (accountId : ℕ) (state : Capping) : Prop :=
  ∀ cap, state.cap = some cap →
    (state.tables.unheldStores accountId).card =
      min (state.tables.storesOf accountId).card cap

section Runs

variable {accountId : ℕ} {state : Capping} {input : CapInput}

theorem Capping.Met.next (hmet : state.Met accountId) (hinput : input.Admitted accountId state) :
    (next (capStep accountId) state input).Met accountId := by
  cases input with
  | applyCap now maxStores =>
      rintro cap hcap
      obtain rfl := Option.some.inj hcap
      simp only [Execution.next, capStep]
      rw [card_applyStoreCap, storesOf_applyStoreCap]
  | moveSlot now storePublicId =>
      obtain ⟨cap, hcap, hsize, hlive⟩ := hinput
      simp only [Execution.next, capStep]
      cases hmove : moveStoreSlot now state.tables accountId storePublicId with
      | error failure => exact hmet
      | ok outcome =>
          obtain ⟨move, moved⟩ := outcome
          intro current hcurrent
          obtain rfl := Option.some.inj (hcap.symm.trans hcurrent)
          obtain ⟨hstores, hswapped⟩ := moveStoreSlot_swapped (hmet cap hcap) hsize hlive hmove
          rw [hswapped.count, hstores]
          exact hmet cap hcap
  | elsewhere change => exact hmet

theorem CapInput.kept_of_met (hmet : state.Met accountId)
    (hinput : input.Admitted accountId state) : input.Kept accountId state := by
  cases input with
  | applyCap now maxStores => exact applyStoreCap_capped
  | moveSlot now storePublicId =>
      obtain ⟨cap, hcap, hsize, hlive⟩ := hinput
      intro current hcurrent move moved hmove
      obtain rfl := Option.some.inj (hcap.symm.trans hcurrent)
      exact (moveStoreSlot_swapped (hmet cap hcap) hsize hlive hmove).2
  | elsewhere change => exact fun _ => rfl

end Runs

/-- From any stores and any held set, every sequence of caps and of swaps made under the
cap applied last keeps the count at what that cap allows. -/
theorem store_caps_and_swaps_agree {accountId : ℕ} {tables : Tables} {inputs : List CapInput}
    (hinputs : Along (capStep accountId) (fun state input => input.Admitted accountId state)
      { tables := tables } inputs) :
    Along (capStep accountId) (fun state input => input.Kept accountId state)
      { tables := tables } inputs :=
  along_of_invariant (Capping.Met accountId) _ _ (fun _ _ hmet hinput => hmet.next hinput)
    (fun _ _ hmet hinput => CapInput.kept_of_met hmet hinput) (fun _ hcap => by cases hcap) hinputs

namespace Specimen

/-- A further store of the shop. -/
def branch (publicId : String) : Store :=
  { shopStore with publicId := publicId, name := "Branch" }

/-- The shop has three stores and is on a plan for one of them. -/
def chain : Tables :=
  { tables with
    stores := .ofList [hqStore, shopStore, branch "store_b", branch "store_c"]
    plans := .ofList [{ plan "single" 0 with maxStores := some 1 }]
    subscriptions := .ofList
      [{ accountId := 1, planId := 0, status := .active, nextBillingAt := 0, createdAt := 0 }] }

/-- The cap holds the two branches, the shop prefers one of them, and the cap is applied
again. -/
def preferBranch : List CapInput :=
  [.applyCap 1 1, .moveSlot 2 "store_c", .applyCap 3 1]

end Specimen

theorem store_caps_and_swaps_agree_chain :
    Along (capStep 1) (fun state input => input.Kept 1 state) { tables := Specimen.chain }
        Specimen.preferBranch ∧
      (run (capStep 1) { tables := Specimen.chain } Specimen.preferBranch).tables.unheldStores 1 =
        {3} := by
  refine ⟨store_caps_and_swaps_agree ⟨trivial, ⟨1, rfl, le_rfl, ?_⟩, trivial, trivial⟩, ?_⟩
  · decide +kernel
  · decide +kernel

end ChmabaPay
