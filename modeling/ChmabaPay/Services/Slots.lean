import ChmabaPay.Services.Allowance

/-! # Choosing which stores stay live

The merchant's half of the store cap: a held store is brought back, and the newest of
the other live stores are held in its place as far as the allowance asks for it.
-/

namespace ChmabaPay

open Calendar Relational

/-- A store of the account, addressed by its public id. -/
def getStore (tables : Tables) (accountId : ℕ) (storePublicId : String) :
    Except Failure (ℕ × Store) := do
  match ← oneOrNone (tables.stores.select fun _ store =>
      decide (store.accountId = accountId) && decide (store.publicId = storePublicId)) with
  | some row => return row
  | none => throw (.http 404 "store_not_found")

/-- The result of one swap. A store brought back on a plan with room displaces nothing
and still moved. -/
structure StoreSlotMove where
  storeId : ℕ
  displaced : Option (ℕ × Store)
  moved : Bool

/-- The stores that make room for one that is back: the newest of the other live ones,
as many as there are too many. -/
def displacedStores (tables : Tables) (accountId storeId : ℕ) (maxStores : Option ℕ) :
    List (ℕ × Store) :=
  match maxStores with
  | none => []
  | some cap =>
      let live := tables.stores.select fun _ store =>
        decide (store.accountId = accountId) && !store.isHeld
      let candidates := (live.filter fun row => decide (row.1 ≠ storeId)).reverse
      candidates.take (live.length - cap)

/-- Bring a held store back and hold whichever store makes room for it. -/
def moveStoreSlot (now : Instant) (tables : Tables) (accountId : ℕ) (storePublicId : String) :
    Except Failure (StoreSlotMove × Tables) := do
  let (storeId, store) ← getStore tables accountId storePublicId
  if store.status = .disabled then throw (.http 409 "store_disabled")
  if store.billingSuspendedAt = none then
    return ({ storeId, displaced := none, moved := false }, tables)
  let maxStores ← planMaxStores tables accountId
  let released := { tables with stores := tables.stores.update storeId (Store.hold none) }
  let displaced := displacedStores released accountId storeId maxStores
  let held := { released with
    stores := released.stores.updateWhere
      (fun key _ => (displaced.map Prod.fst).contains key) (Store.hold (some now)) }
  return ({ storeId, displaced := displaced.head?, moved := true },
    recordAudit held (some accountId) storeId
      (.storeSlotMoved store.name (displaced.head?.map fun row => (row.1, row.2.name))))

end ChmabaPay
