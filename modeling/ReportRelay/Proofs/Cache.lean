/-
# What a cache keeps

A cache holds the last items that were pushed, as many as it has room for, and the settings
of a hub leave room for at least one.  What it holds is a stretch of the pushed items, and so is
what it holds with the items that come next.
-/
import Mathlib.Data.List.DropRight
import ReportRelay.Cache

namespace ReportRelay

/-- The settings leave room for at least one report. -/
theorem HubConfig.cache_pos (config : HubConfig) : 0 < config.cache := by
  unfold cache
  split
  · decide
  · next h => exact Nat.pos_of_ne_zero h

namespace Cache

variable {α β : Type}

/-- A cache for the settings of a hub has the room that they ask for. -/
@[simp] theorem ofCapacity_cache (config : HubConfig) :
    (ofCapacity config.cache : Cache α) = ⟨config.cache, []⟩ := by
  rw [ofCapacity, if_neg (Nat.ne_of_gt config.cache_pos)]

/-! ## The last items of a list -/

/-- Asking for more items than there are gives them all. -/
theorem rtake_min (items : List α) (room : Nat) :
    items.rtake (min items.length room) = items.rtake room := by
  rw [List.rtake, List.rtake]
  congr 1
  omega

/-- The last images are the images of the last items. -/
theorem rtake_map (f : α → β) (items : List α) (room : Nat) :
    (items.map f).rtake room = (items.rtake room).map f := by
  rw [List.rtake, List.rtake, List.length_map, List.map_drop]

/-- Adding an item to the last ones of a list, and dropping what there is no room for, gives
the last ones of the longer list. -/
theorem drop_append_rtake (items : List α) (item : α) (room : Nat) :
    (items.rtake room ++ [item]).drop ((items.rtake room ++ [item]).length - room)
      = (items ++ [item]).rtake room := by
  have hlast : items.rtake room ++ [item]
      = (items ++ [item]).drop (items.length - room) := by
    rw [List.rtake, List.drop_append_of_le_length (Nat.sub_le _ _)]
  rw [hlast, List.drop_drop, List.length_drop, List.rtake, List.length_append,
    List.length_singleton]
  congr 1
  omega

/-! ## Pushes -/

/-- **A cache keeps the last items that were pushed**, as many as it has room for. -/
theorem foldl_push (room : Nat) (items : List α) :
    items.foldl push ⟨room, []⟩ = ⟨room, items.rtake room⟩ := by
  induction items using List.reverseRecOn with
  | nil => simp
  | append_singleton items item ih =>
      rw [List.foldl_append, ih]
      exact congrArg (Cache.mk room) (drop_append_rtake items item room)

end Cache

/-! ## Stretches of a list -/

section Stretch

variable {α : Type} {items : List α} {first middle last : Nat}

/-- The items from one place in a list up to another. -/
def stretch (items : List α) (first last : Nat) : List α := (items.take last).drop first

/-- A stretch that ends where the list begins is empty. -/
@[simp] theorem stretch_zero (items : List α) (first : Nat) : stretch items first 0 = [] := by
  simp [stretch]

/-- Two stretches of which one goes on where the other ends are one. -/
theorem stretch_append (hfirst : first ≤ middle) (hmiddle : middle ≤ last)
    (hlast : last ≤ items.length) :
    stretch items first middle ++ stretch items middle last = stretch items first last := by
  have hlength : (items.take middle).length = middle :=
    List.length_take_of_le (hmiddle.trans hlast)
  have hsplit : items.take last = items.take middle ++ stretch items middle last := by
    rw [stretch, ← List.take_append_drop middle (items.take last), List.take_take,
      Nat.min_eq_left hmiddle, List.drop_append_of_le_length hlength.ge,
      List.drop_eq_nil_of_le hlength.le, List.nil_append]
  show _ = (items.take last).drop first
  rw [hsplit, List.drop_append_of_le_length (by rw [hlength]; exact hfirst)]
  rfl

/-- The last items of those up to a place are the stretch that ends there. -/
theorem rtake_take (room : Nat) (hlast : last ≤ items.length) :
    (items.take last).rtake room = stretch items (last - room) last := by
  rw [List.rtake, List.length_take_of_le hlast, stretch]

end Stretch

end ReportRelay
