/-
# Statuses given with a stack of groups to visit

`settle` gives the groups of a tree their statuses along the tree.  `sweep` does so with a stack of
the places of the groups that are still to be visited: it takes the topmost place, gives the one
group there the status of its counts, and puts the places of the groups below it on the stack.

A visit changes the status of one group and nothing else, so the groups at the places on the stack
stay as large as they were (`extent_modifyAt_rate`), and the stack empties.  What is left to do is
to settle the groups at the places on the stack (`sweep_eq_foldl`).  So the pass that begins at the
root settles the tree (`sweep_root`) and leaves out no group, whatever the shape of the tree.
-/
import Mathlib.Algebra.Order.Group.Nat
import ReportRelay.Proofs.Group.Counters

namespace ReportRelay

namespace TestGroup

/-! ## Places -/

/-- The group at a place: at each number on the way, it is the one that has this number among the
groups below. -/
def at? : List Nat → TestGroup → Option TestGroup
  | [], group => some group
  | index :: place, group => group.groups[index]?.bind (at? place)

/-- Changes the group at a place. -/
def modifyAt (change : TestGroup → TestGroup) : List Nat → TestGroup → TestGroup
  | [], group => change group
  | index :: place, group =>
    { group with groups := group.groups.modify index (modifyAt change place) }

variable {place : List Nat} {tree group : TestGroup} {change other : TestGroup → TestGroup}

/-- A group below the group at a place has its number there. -/
theorem at?_concat (place : List Nat) (index : Nat) (tree : TestGroup) :
    at? (place ++ [index]) tree = (at? place tree).bind fun group => group.groups[index]? := by
  induction place generalizing tree with
  | nil => exact Option.bind_fun_some _
  | cons first place ih =>
      show tree.groups[first]?.bind (at? (place ++ [index])) = (tree.groups[first]?.bind _).bind _
      rw [Option.bind_assoc]
      congr 1
      funext child
      exact ih child

/-- A change below the group at a place is a change of that group. -/
theorem modifyAt_concat (place : List Nat) (index : Nat) (tree : TestGroup) :
    modifyAt change (place ++ [index]) tree = modifyAt (modifyAt change [index]) place tree := by
  induction place generalizing tree with
  | nil => rfl
  | cons first place ih =>
      rw [List.cons_append, modifyAt, modifyAt]
      congr 2
      funext child
      exact ih child

/-- Two changes of the group at a place are one. -/
theorem modifyAt_modifyAt (place : List Nat) (tree : TestGroup) :
    modifyAt change place (modifyAt other place tree)
      = modifyAt (fun group => change (other group)) place tree := by
  induction place generalizing tree with
  | nil => rfl
  | cons index place ih =>
      simp only [modifyAt, List.modify_modify_eq]
      congr 2
      funext child
      exact ih child

/-- What a change does to other groups than the one at the place does not matter. -/
theorem modifyAt_congr (h : ∀ group, at? place tree = some group → change group = other group) :
    modifyAt change place tree = modifyAt other place tree := by
  induction place generalizing tree with
  | nil => exact h tree rfl
  | cons index place ih =>
      rw [modifyAt, modifyAt]
      congr 1
      apply List.ext_getElem?
      intro position
      rw [List.getElem?_modify, List.getElem?_modify]
      cases hchild : tree.groups[position]? with
      | none => rfl
      | some child =>
          by_cases hposition : index = position
          · have hsame : modifyAt change place child = modifyAt other place child := by
              apply ih
              intro group hgroup
              apply h
              rw [at?, hposition, hchild, Option.bind_some, hgroup]
            simp [hposition, hsame]
          · simp [hposition]

/-- To change nothing at a place is to change nothing. -/
theorem modifyAt_id (place : List Nat) (tree : TestGroup) :
    modifyAt (fun group => group) place tree = tree := by
  induction place generalizing tree with
  | nil => rfl
  | cons index place ih =>
      have hid : modifyAt (fun group => group) place = id := funext ih
      rw [modifyAt, hid, List.modify_id]
      cases tree
      rfl

/-! ## Settled trees -/

/-- Gives one group the status of its counts. -/
def rate (group : TestGroup) : TestGroup := { group with status := group.tally.status }

/-- A group is settled with the groups below it. -/
theorem settle_eq (group : TestGroup) :
    group.settle = { group.rate with groups := group.groups.map settle } := by
  cases group with
  | mk name status tally tests groups => rw [settle, settleAll_eq_map, rate]

@[simp] theorem settle_groups (group : TestGroup) :
    group.settle.groups = group.groups.map settle := by
  rw [settle_eq]

/-- The groups of a settled tree are settled, each at its place. -/
theorem at?_settle (place : List Nat) (tree : TestGroup) :
    at? place tree.settle = (at? place tree).map settle := by
  induction place generalizing tree with
  | nil => rfl
  | cons index place ih =>
      rw [at?, at?, settle_groups, List.getElem?_map]
      cases tree.groups[index]? with
      | none => rfl
      | some child => exact ih child

/-- A visit changes nothing that settling the tree does not change again. -/
theorem settle_modifyAt_rate (place : List Nat) (tree : TestGroup) :
    (modifyAt rate place tree).settle = tree.settle := by
  induction place generalizing tree with
  | nil => rw [modifyAt, settle_eq, settle_eq]; rfl
  | cons index place ih =>
      have hgroups : (tree.groups.modify index (modifyAt rate place)).map settle
          = tree.groups.map settle := by
        apply List.ext_getElem?
        intro position
        rw [List.getElem?_map, List.getElem?_map, List.getElem?_modify]
        cases tree.groups[position]? with
        | none => rfl
        | some child => by_cases hposition : index = position <;> simp [hposition, ih]
      rw [modifyAt, settle_eq, settle_eq, hgroups]
      rfl

mutual

/-- The groups of a settled tree are those of the tree, each settled. -/
theorem preorder_settle (group : TestGroup) :
    group.settle.preorder = group.preorder.map settle := by
  cases group with
  | mk name status tally tests groups =>
      rw [settle, preorder, preorder, List.map_cons, preorderAll_settleAll, settle]

/-- The groups of settled trees are those of the trees, each settled. -/
theorem preorderAll_settleAll (groups : List TestGroup) :
    preorderAll (settleAll groups) = (preorderAll groups).map settle := by
  cases groups with
  | nil => rfl
  | cons group groups =>
      rw [settleAll, preorderAll, preorderAll, List.map_append, preorder_settle,
        preorderAll_settleAll]

end

/-! ## The groups that are left -/

/-- The places of the groups below a place, so many of them, the last one first. -/
def placesBelow (place : List Nat) (count : Nat) : List (List Nat) :=
  (List.range count).reverse.map fun index => place ++ [index]

/-- The number of groups at a place and below it; a place outside of the tree counts as one. -/
def extent (tree : TestGroup) (place : List Nat) : Nat :=
  ((at? place tree).map fun group => group.preorder.length).getD 1

/-- A visit leaves the groups at all places as large as they are. -/
theorem extent_modifyAt_rate (visited : List Nat) (tree : TestGroup) :
    extent (modifyAt rate visited tree) = extent tree := by
  have hextent : ∀ tree : TestGroup, extent tree = extent tree.settle := by
    intro tree
    funext place
    rw [extent, extent, at?_settle, Option.map_map]
    simp only [Function.comp_def, preorder_settle, List.length_map]
  rw [hextent, settle_modifyAt_rate, ← hextent]

/-- A group is one more than the groups below it with all that is below them. -/
theorem extent_eq (h : at? place tree = some group) :
    extent tree place
      = ((placesBelow place group.groups.length).map (extent tree)).sum + 1 := by
  have hbelow : (List.range group.groups.length).map (fun index => extent tree (place ++ [index]))
      = group.groups.map fun child => child.preorder.length := by
    apply List.ext_getElem (by simp)
    intro index hindex _
    rw [List.length_map, List.length_range] at hindex
    simp [extent, at?_concat, h, List.getElem?_eq_getElem hindex]
  rw [placesBelow, List.map_map, List.map_reverse, List.sum_reverse]
  show _ = ((List.range _).map fun index => extent tree (place ++ [index])).sum + 1
  rw [hbelow, extent, h, Option.map_some, Option.getD_some, preorder_eq, List.length_cons,
    List.length_flatMap]

/-- A place outside of the tree counts as one. -/
theorem extent_of_none (h : at? place tree = none) : extent tree place = 1 := by
  rw [extent, h]
  rfl

/-! ## The pass -/

/-- Gives statuses to the groups at the places on the stack and to those below them, one after
another from the top of the stack. -/
def sweep (tree : TestGroup) : List (List Nat) → TestGroup
  | [] => tree
  | place :: stack =>
    match _ : at? place tree with
    | none => sweep tree stack
    | some group =>
      sweep (modifyAt rate place tree) (placesBelow place group.groups.length ++ stack)
termination_by stack => (stack.map (extent tree)).sum
decreasing_by
  · next h =>
      rw [List.map_cons, List.sum_cons, extent_of_none h]
      omega
  · next h =>
      rw [extent_modifyAt_rate, List.map_append, List.sum_append, List.map_cons, List.sum_cons,
        extent_eq h]
      omega

/-- Changes of groups below a group are changes of what it holds. -/
theorem foldl_modifyAt_below (indices : List Nat) (group : TestGroup) :
    indices.foldl (fun group index => modifyAt change [index] group) group
      = { group with
          groups := indices.foldl (fun groups index => groups.modify index change) group.groups } := by
  induction indices generalizing group with
  | nil =>
      cases group
      rfl
  | cons index indices ih =>
      rw [List.foldl_cons, List.foldl_cons, ih]
      rfl

/-- Changes of the groups below a place are a change of the group at the place. -/
theorem foldl_modifyAt_concat (place indices : List Nat) (tree : TestGroup) :
    (indices.map fun index => place ++ [index]).foldl (fun tree place => modifyAt change place tree)
        tree
      = modifyAt (fun group =>
          indices.foldl (fun group index => modifyAt change [index] group) group) place tree := by
  induction indices generalizing tree with
  | nil => exact (modifyAt_id place tree).symm
  | cons index indices ih =>
      rw [List.map_cons, List.foldl_cons, ih, modifyAt_concat, modifyAt_modifyAt]
      rfl

/-- Groups that are changed one after another, none of them twice, are each changed once. -/
theorem getElem?_foldl_modify {indices : List Nat} (hnodup : indices.Nodup)
    (groups : List TestGroup) (position : Nat) :
    (indices.foldl (fun groups index => groups.modify index change) groups)[position]?
      = groups[position]?.map fun group => if position ∈ indices then change group else group := by
  induction indices generalizing groups with
  | nil => simp
  | cons index indices ih =>
      rw [List.nodup_cons] at hnodup
      rw [List.foldl_cons, ih hnodup.2, List.getElem?_modify]
      cases groups[position]? with
      | none => rfl
      | some group =>
          by_cases hposition : index = position
          · subst hposition
            simp [hnodup.1]
          · simp [hposition, Ne.symm hposition]

/-- Groups of which every one is changed once are all changed. -/
theorem foldl_modify_range (groups : List TestGroup) :
    (List.range groups.length).reverse.foldl (fun groups index => groups.modify index change) groups
      = groups.map change := by
  apply List.ext_getElem?
  intro position
  rw [getElem?_foldl_modify (List.nodup_reverse.mpr List.nodup_range), List.getElem?_map]
  by_cases hposition : position < groups.length
  · simp [hposition]
  · simp [Nat.not_lt.mp hposition]

/-- **What is left to do is to settle the groups at the places on the stack.** -/
theorem sweep_eq_foldl (tree : TestGroup) (stack : List (List Nat)) :
    sweep tree stack = stack.foldl (fun tree place => modifyAt settle place tree) tree := by
  fun_induction sweep tree stack with
  | case1 tree => rfl
  | case2 tree place stack hnone ih =>
      have hnothing : modifyAt settle place tree = modifyAt (fun group => group) place tree :=
        modifyAt_congr (by simp [hnone])
      rw [ih, List.foldl_cons, hnothing, modifyAt_id]
  | case3 tree place stack group hgroup ih =>
      have hvisit : (placesBelow place group.groups.length).foldl
          (fun tree place => modifyAt settle place tree) (modifyAt rate place tree)
          = modifyAt settle place tree := by
        rw [placesBelow, foldl_modifyAt_concat, modifyAt_modifyAt]
        apply modifyAt_congr
        intro found hfound
        rw [hgroup, Option.some.injEq] at hfound
        subst hfound
        rw [foldl_modifyAt_below, settle_eq]
        congr 1
        exact foldl_modify_range group.groups
      rw [ih, List.foldl_append, hvisit, List.foldl_cons]

/-- **The pass that begins at the root settles the tree.** -/
theorem sweep_root (tree : TestGroup) : sweep tree [[]] = tree.settle := by
  rw [sweep_eq_foldl]
  rfl

end TestGroup

end ReportRelay
