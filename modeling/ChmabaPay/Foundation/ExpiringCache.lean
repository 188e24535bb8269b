import Mathlib.Tactic

/-! # Caches whose entries expire

Every entry carries the moment it expires. Storing a value starts its time anew; a change of
the value in place does not. An entry whose time is over is not found.
-/

namespace ExpiringCache

variable {κ ν τ : Type}

/-- The value under a key, and when it expires. -/
abbrev Cache (κ ν τ : Type) := κ → Option (ν × τ)

namespace Cache

def empty : Cache κ ν τ := fun _ => none

/-- The value under a key, unless its time is over. -/
def get [LT τ] [DecidableLT τ] (cache : Cache κ ν τ) (moment : τ) (key : κ) : Option ν :=
  (cache key).bind fun entry => if moment < entry.2 then some entry.1 else none

def set [DecidableEq κ] [Add τ] (cache : Cache κ ν τ) (moment lifetime : τ) (key : κ)
    (value : ν) : Cache κ ν τ :=
  Function.update cache key (some (value, moment + lifetime))

/-- The object under a key is changed where it is. -/
def modify [DecidableEq κ] (cache : Cache κ ν τ) (key : κ) (change : ν → ν) : Cache κ ν τ :=
  Function.update cache key ((cache key).map fun entry => (change entry.1, entry.2))

def pop [DecidableEq κ] (cache : Cache κ ν τ) (key : κ) : Cache κ ν τ :=
  Function.update cache key none

section Reads

variable [LT τ] [DecidableLT τ] {cache : Cache κ ν τ} {key : κ} {moment : τ}

theorem get_of_eq {value : ν} {expires : τ} (hentry : cache key = some (value, expires)) :
    cache.get moment key = if moment < expires then some value else none := by
  rw [get, hentry]
  rfl

theorem get_of_none (hentry : cache key = none) : cache.get moment key = none := by
  rw [get, hentry]
  rfl

end Reads

section Writes

variable [DecidableEq κ] {cache : Cache κ ν τ} {key other : κ}

@[simp] theorem set_self [Add τ] (moment lifetime : τ) (value : ν) :
    cache.set moment lifetime key value key = some (value, moment + lifetime) :=
  Function.update_self _ _ _

theorem set_of_ne [Add τ] (hne : other ≠ key) (moment lifetime : τ) (value : ν) :
    cache.set moment lifetime key value other = cache other := Function.update_of_ne hne _ _

@[simp] theorem modify_self (change : ν → ν) :
    cache.modify key change key = (cache key).map fun entry => (change entry.1, entry.2) :=
  Function.update_self _ _ _

theorem modify_of_ne (hne : other ≠ key) (change : ν → ν) :
    cache.modify key change other = cache other := Function.update_of_ne hne _ _

end Writes

end Cache

end ExpiringCache
