/-
# The cache

A cache keeps the last items that were pushed, as many as it has room for.
-/
import ReportRelay.Config

namespace ReportRelay

/-- The last items pushed, oldest first. -/
structure Cache (α : Type) where
  /-- The number of items for which there is room. -/
  capacity : Nat
  /-- The items, oldest first. -/
  items : List α
  deriving Repr

namespace Cache

variable {α : Type}

/-- An empty cache; a capacity of zero stands for the fallback. -/
def ofCapacity (capacity : Nat) : Cache α :=
  ⟨if capacity = 0 then fallbackCapacity else capacity, []⟩

/-- Adds an item, and drops the oldest ones beyond the capacity. -/
def push (cache : Cache α) (item : α) : Cache α :=
  let items := cache.items ++ [item]
  { cache with items := items.drop (items.length - cache.capacity) }

end Cache

end ReportRelay
