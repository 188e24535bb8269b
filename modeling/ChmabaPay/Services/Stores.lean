import ChmabaPay.Database

/-! # Holding and releasing stores

A plan smaller than the account's store count holds the surplus. The hold is a
timestamp beside the store's status, so it never overwrites an operator's
decision.
-/

namespace ChmabaPay

open Calendar Relational

def Store.isHeld (store : Store) : Bool := store.billingSuspendedAt.isSome

/-- Hold the stores over the allowance, newest first, or release held ones while
there is room, highest key first. -/
def applyStoreCap (now : Instant) (tables : Tables) (accountId : ℕ)
    (maxStores : Option ℕ) : Tables :=
  match maxStores with
  | none => tables
  | some cap =>
      let stores := tables.stores.select fun _ store => decide (store.accountId = accountId)
      let held := stores.filter fun row => row.2.isHeld
      let free := stores.filter fun row => !row.2.isHeld
      if cap < free.length then
        let surplus := (free.reverse.take (free.length - cap)).map Prod.fst
        { tables with
          stores := tables.stores.updateWhere (fun key _ => surplus.contains key)
            fun store => { store with billingSuspendedAt := some now } }
      else if free.length < cap ∧ held ≠ [] then
        let shortage := (held.reverse.take (cap - free.length)).map Prod.fst
        { tables with
          stores := tables.stores.updateWhere (fun key _ => shortage.contains key)
            fun store => { store with billingSuspendedAt := none } }
      else tables

/-- Setting or clearing the billing hold. -/
def Store.hold (moment : Option Instant) (store : Store) : Store :=
  { store with billingSuspendedAt := moment }

/-- The store cap touches the hold of some stores and nothing else. -/
theorem applyStoreCap_eq (now : Instant) (tables : Tables) (accountId : ℕ)
    (maxStores : Option ℕ) :
    ∃ keep moment, applyStoreCap now tables accountId maxStores =
      { tables with stores := tables.stores.updateWhere keep (Store.hold moment) } := by
  have hidle : tables.stores = tables.stores.updateWhere (fun _ _ => false) (Store.hold none) :=
    Table.ext_get? rfl fun key => by simp
  unfold applyStoreCap
  cases maxStores with
  | none => exact ⟨_, _, congrArg (fun stores => { tables with stores }) hidle⟩
  | some cap =>
      dsimp only
      split
      · exact ⟨_, some now, rfl⟩
      · split
        · exact ⟨_, none, rfl⟩
        · exact ⟨_, _, congrArg (fun stores => { tables with stores }) hidle⟩

/-! ## What operations keep of their surroundings -/

/-- Plans are only read, accounts are never deleted, and a store keeps
everything but its billing hold. -/
structure Tables.Keeps (before after : Tables) : Prop where
  plans : after.plans = before.plans
  accounts : ∀ key account, before.accounts.get? key = some account →
    ∃ account', after.accounts.get? key = some account'
  stores : ∀ key store, before.stores.get? key = some store →
    ∃ moment, after.stores.get? key = some (store.hold moment)

theorem Tables.Keeps.refl (tables : Tables) : tables.Keeps tables :=
  ⟨rfl, fun _ account haccount => ⟨account, haccount⟩,
    fun _ store hstore => ⟨store.billingSuspendedAt, hstore⟩⟩

theorem Tables.Keeps.trans {first second third : Tables} (hfirst : first.Keeps second)
    (hsecond : second.Keeps third) : first.Keeps third := by
  refine ⟨hsecond.plans.trans hfirst.plans, ?_, ?_⟩
  · intro key account haccount
    obtain ⟨account', haccount'⟩ := hfirst.accounts key account haccount
    exact hsecond.accounts key account' haccount'
  · intro key store hstore
    obtain ⟨moment, hmoment⟩ := hfirst.stores key store hstore
    exact hsecond.stores key (store.hold moment) hmoment

/-- Tables that agree on plans, accounts and stores. -/
theorem Tables.Keeps.of_eq {before after : Tables} (hplans : after.plans = before.plans)
    (haccounts : after.accounts = before.accounts) (hstores : after.stores = before.stores) :
    before.Keeps after :=
  ⟨hplans, fun _ account haccount => ⟨account, haccounts ▸ haccount⟩,
    fun _ store hstore => ⟨store.billingSuspendedAt, hstores ▸ hstore⟩⟩

theorem applyStoreCap_keeps (now : Instant) (tables : Tables) (accountId : ℕ)
    (maxStores : Option ℕ) : tables.Keeps (applyStoreCap now tables accountId maxStores) := by
  obtain ⟨keep, moment, heq⟩ := applyStoreCap_eq now tables accountId maxStores
  rw [heq]
  refine ⟨rfl, fun _ account haccount => ⟨account, haccount⟩, fun key store hstore => ?_⟩
  by_cases hselected : keep key store = true
  · exact ⟨moment, by simp [hstore, hselected]⟩
  · exact ⟨store.billingSuspendedAt, by simp [hstore, hselected, Store.hold]⟩

end ChmabaPay
