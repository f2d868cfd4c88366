/-
# The tree of tests is the trie of their directories

`TestGroup.IsTrie` says of a group at a path that it and all groups below it are what the
directories of the tests ask for: it holds the tests of its own directory, and below it stands
one group for each segment that continues the path in some directory, in the order in which
the tests come to them.  Siblings are told apart by their names; since a group has one name for
each segment, that is to tell them apart by segments.

Inserting a test keeps this of the whole tree: the groups on the way to its directory change as
the test asks, and no others do.
-/
import Mathlib.Data.List.Induction
import Mathlib.Data.List.Nodup
import ReportRelay.Group.Build

namespace ReportRelay

/-! ## Segments below a path -/

/-- The segment that continues a path in a directory. -/
def segmentAfter? (path dir : List String) : Option String :=
  if path.isPrefixOf dir then dir[path.length]? else none

/-- A segment continues a path in a directory if the longer path leads there. -/
theorem segmentAfter?_eq_some {path dir : List String} {segment : String} :
    segmentAfter? path dir = some segment ↔ path ++ [segment] <+: dir := by
  rw [segmentAfter?]
  constructor
  · intro h
    split at h
    · next hleads =>
        rw [List.isPrefixOf_iff_prefix] at hleads
        obtain ⟨rest, rfl⟩ := hleads
        cases rest with
        | nil => simp at h
        | cons first rest =>
            have hfirst : first = segment := by simpa using h
            exact ⟨rest, by simp [hfirst]⟩
    · cases h
  · rintro ⟨rest, rfl⟩
    simp

/-- The segments that continue a path in the directories of tests, in the order in which the
tests come to them. -/
def nextSegments (path : List String) (tests : List TestResult) : List String :=
  (tests.filterMap fun test => segmentAfter? path (directory test.name)).eraseDups

/-- The segments below a path are those of the directories that go on from it. -/
theorem mem_nextSegments {path : List String} {tests : List TestResult} {segment : String} :
    segment ∈ nextSegments path tests
      ↔ ∃ test ∈ tests, path ++ [segment] <+: directory test.name := by
  simp only [nextSegments, List.mem_eraseDups, List.mem_filterMap, segmentAfter?_eq_some]

/-- A duplicate at the end is erased. -/
theorem eraseDups_concat (l : List String) (a : String) :
    (l ++ [a]).eraseDups = if a ∈ l then l.eraseDups else l.eraseDups ++ [a] := by
  rw [List.eraseDups_append]
  by_cases hmem : a ∈ l <;> simp [hmem, List.removeAll, List.eraseDups_cons]

/-- No duplicates are left. -/
theorem nodup_eraseDups (l : List String) : l.eraseDups.Nodup := by
  induction l using List.reverseRecOn with
  | nil => simp
  | append_singleton l a ih =>
      rw [eraseDups_concat]
      split
      · exact ih
      · next hmem =>
          rw [List.nodup_append]
          refine ⟨ih, List.nodup_singleton a, ?_⟩
          rintro b hb c hc rfl
          rw [List.mem_singleton] at hc
          exact hmem (hc ▸ List.mem_eraseDups.mp hb)

/-- A test whose directory does not go on from a path adds no segment below it. -/
theorem nextSegments_of_none {path : List String} {test : TestResult}
    (h : segmentAfter? path (directory test.name) = none) (tests : List TestResult) :
    nextSegments path (tests ++ [test]) = nextSegments path tests := by
  simp [nextSegments, h]

/-- A test whose directory goes on from a path adds its segment, unless it is there. -/
theorem nextSegments_of_some {path : List String} {test : TestResult} {segment : String}
    (h : segmentAfter? path (directory test.name) = some segment) (tests : List TestResult) :
    nextSegments path (tests ++ [test])
      = if segment ∈ nextSegments path tests then nextSegments path tests
        else nextSegments path tests ++ [segment] := by
  rw [nextSegments, nextSegments, List.filterMap_append, List.filterMap_cons, h,
    List.filterMap_nil, eraseDups_concat]
  simp only [List.mem_eraseDups]

/-- Below one group, different segments have different names. -/
theorem childName_injective (parent : String) : Function.Injective (childName parent) := by
  intro a b h
  rw [childName, childName] at h
  split at h
  · exact h
  · rw [← String.toList_inj] at h ⊢
    simpa using h

namespace TestGroup

/-! ## Changing a child -/

/-- Inserting a test leaves the name of a group as it is. -/
@[simp] theorem insertAt_name (test : TestResult) (path : List String) (group : TestGroup) :
    (insertAt test path group).name = group.name := by
  cases path <;> rfl

variable {change : TestGroup → TestGroup} {groups : List TestGroup} {target : String}

/-- Changing a child adds its name at the end, unless it is there. -/
theorem map_name_updateChild (hname : ∀ group, (change group).name = group.name) :
    (updateChild target change groups).map name
      = if target ∈ groups.map name then groups.map name else groups.map name ++ [target] := by
  induction groups with
  | nil => simp [updateChild, hname, fresh]
  | cons group groups ih =>
      rw [updateChild]
      by_cases hgroup : group.name = target
      · simp [hgroup, hname]
      · rw [if_neg hgroup, List.map_cons, ih]
        by_cases hmem : target ∈ groups.map name
        · simp [hmem]
        · simp [hmem, Ne.symm hgroup]

/-- Among groups of different names, only the child of the given name is changed. -/
theorem mem_updateChild (hnodup : (groups.map name).Nodup) {child : TestGroup}
    (hchild : child ∈ updateChild target change groups) :
    (child ∈ groups ∧ child.name ≠ target) ∨
      ∃ old, child = change old ∧
        ((old ∈ groups ∧ old.name = target) ∨
          (old = fresh target ∧ target ∉ groups.map name)) := by
  induction groups with
  | nil =>
      rw [updateChild, List.mem_singleton] at hchild
      exact Or.inr ⟨fresh target, hchild, Or.inr ⟨rfl, List.not_mem_nil⟩⟩
  | cons group groups ih =>
      rw [List.map_cons, List.nodup_cons] at hnodup
      rw [updateChild] at hchild
      by_cases hgroup : group.name = target
      · rw [if_pos hgroup, List.mem_cons] at hchild
        rcases hchild with rfl | hchild
        · exact Or.inr ⟨group, rfl, Or.inl ⟨List.mem_cons_self, hgroup⟩⟩
        · refine Or.inl ⟨List.mem_cons_of_mem _ hchild, fun heq => hnodup.1 ?_⟩
          rw [hgroup, ← heq]
          exact List.mem_map_of_mem hchild
      · rw [if_neg hgroup, List.mem_cons] at hchild
        rcases hchild with rfl | hchild
        · exact Or.inl ⟨List.mem_cons_self, hgroup⟩
        · rcases ih hnodup.2 hchild with ⟨hmem, hne⟩ | ⟨old, heq, ⟨hmem, hold⟩ | ⟨hfresh, hnot⟩⟩
          · exact Or.inl ⟨List.mem_cons_of_mem _ hmem, hne⟩
          · exact Or.inr ⟨old, heq, Or.inl ⟨List.mem_cons_of_mem _ hmem, hold⟩⟩
          · refine Or.inr ⟨old, heq, Or.inr ⟨hfresh, ?_⟩⟩
            rw [List.map_cons, List.mem_cons]
            exact fun h => h.elim (fun heq => hgroup heq.symm) hnot

/-! ## The trie -/

/-- A group at a path, with all groups below it, is the trie of the directories of tests. -/
inductive IsTrie (tests : List TestResult) : List String → TestGroup → Prop
  /-- It holds the tests of its directory and one group for each segment below it, and those
  groups are tries. -/
  | intro {path : List String} {group : TestGroup}
      (htests : group.tests = tests.filter fun test => directory test.name = path)
      (hgroups : group.groups.map name = (nextSegments path tests).map (childName group.name))
      (hbelow : ∀ child ∈ group.groups, ∀ segment, child.name = childName group.name segment →
        IsTrie tests (path ++ [segment]) child) :
      IsTrie tests path group

variable {tests : List TestResult} {path : List String} {group : TestGroup} {test : TestResult}

namespace IsTrie

/-- It holds the tests of its directory. -/
theorem tests_eq (h : IsTrie tests path group) :
    group.tests = tests.filter fun test => directory test.name = path := by
  cases h with
  | intro htests hgroups hbelow => exact htests

/-- Below it stands one group for each segment. -/
theorem groups_eq (h : IsTrie tests path group) :
    group.groups.map name = (nextSegments path tests).map (childName group.name) := by
  cases h with
  | intro htests hgroups hbelow => exact hgroups

/-- The groups below it are tries. -/
theorem child (h : IsTrie tests path group) {child : TestGroup} (hchild : child ∈ group.groups)
    {segment : String} (hname : child.name = childName group.name segment) :
    IsTrie tests (path ++ [segment]) child := by
  cases h with
  | intro htests hgroups hbelow => exact hbelow child hchild segment hname

/-- A segment has a group below it if some directory goes on with it. -/
theorem mem_groups (h : IsTrie tests path group) {segment : String} :
    childName group.name segment ∈ group.groups.map name ↔ segment ∈ nextSegments path tests := by
  rw [h.groups_eq, List.mem_map_of_injective (childName_injective group.name)]

/-- The groups below it have different names. -/
theorem nodup_groups (h : IsTrie tests path group) : (group.groups.map name).Nodup := by
  rw [h.groups_eq]
  exact (nodup_eraseDups _).map (childName_injective group.name)

/-- A fresh group is the trie at a path to which no directory leads. -/
theorem fresh (h : ∀ test ∈ tests, ¬path <+: directory test.name) (name : String) :
    IsTrie tests path (fresh name) := by
  have hsegments : nextSegments path tests = [] := by
    refine List.eq_nil_iff_forall_not_mem.mpr fun segment hmem => ?_
    obtain ⟨test, htest, hleads⟩ := mem_nextSegments.mp hmem
    exact h test htest ((List.prefix_append path [segment]).trans hleads)
  refine intro ?_ ?_ fun child hchild => by cases hchild
  · refine (List.filter_eq_nil_iff.mpr fun test htest hdir => h test htest ?_).symm
    obtain rfl := of_decide_eq_true hdir
    exact List.prefix_rfl
  · rw [hsegments]
    rfl

/-! ## Inserting a test -/

/-- A test is nothing to the groups that are not on the way to its directory. -/
theorem skip (h : IsTrie tests path group) (hdir : ¬path <+: directory test.name) :
    IsTrie (tests ++ [test]) path group := by
  induction h with
  | @intro path group htests hgroups hbelow ih =>
      have hlonger : ∀ segment, ¬path ++ [segment] <+: directory test.name :=
        fun segment hleads => hdir ((List.prefix_append path [segment]).trans hleads)
      have hnone : segmentAfter? path (directory test.name) = none := by
        rw [Option.eq_none_iff_forall_ne_some]
        exact fun segment hsome => hlonger segment (segmentAfter?_eq_some.mp hsome)
      have hne : directory test.name ≠ path := fun heq => hdir (heq ▸ List.prefix_rfl)
      refine intro ?_ ?_ fun child hchild segment hname => ?_
      · simp [htests, hne]
      · rw [nextSegments_of_none hnone, hgroups]
      · exact ih child hchild segment hname (hlonger segment)

/-- **Inserting a test at the rest of its directory gives the trie with that test.** -/
theorem insertAt {rest : List String} (h : IsTrie tests path group)
    (hdir : directory test.name = path ++ rest) :
    IsTrie (tests ++ [test]) path (insertAt test rest group) := by
  -- the path is read from the root, so the induction is on what is left of the directory
  induction rest generalizing path group with
  | nil =>
      rw [List.append_nil] at hdir
      -- the directory ends here, so the test is nothing to the groups below
      have hlonger : ∀ segment, ¬path ++ [segment] <+: directory test.name := by
        intro segment hleads
        have hlength := hleads.length_le
        rw [hdir, List.length_append, List.length_singleton] at hlength
        omega
      have hnone : segmentAfter? path (directory test.name) = none := by
        rw [Option.eq_none_iff_forall_ne_some]
        exact fun segment hsome => hlonger segment (segmentAfter?_eq_some.mp hsome)
      refine intro ?_ ?_ fun child hchild segment hname => ?_
      · show group.tests ++ [test] = _
        simp [h.tests_eq, hdir]
      · rw [nextSegments_of_none hnone]
        exact h.groups_eq
      · exact (h.child hchild hname).skip (hlonger segment)
  | cons segment rest ih =>
      have hsome : segmentAfter? path (directory test.name) = some segment :=
        segmentAfter?_eq_some.mpr ⟨rest, by simp [hdir]⟩
      have hne : directory test.name ≠ path := by
        intro heq
        rw [heq] at hdir
        simp at hdir
      have hdir' : directory test.name = (path ++ [segment]) ++ rest := by simp [hdir]
      refine intro ?_ ?_ fun child hchild other hname => ?_
      · show group.tests = _
        simp [h.tests_eq, hne]
      · show (updateChild (childName group.name segment) (TestGroup.insertAt test rest)
          group.groups).map name = _
        rw [map_name_updateChild (insertAt_name test rest), insertAt_name,
          nextSegments_of_some hsome]
        -- the name is looked for among siblings, and is there exactly if the segment is
        by_cases hmem : segment ∈ nextSegments path tests
        · rw [if_pos hmem, if_pos (h.mem_groups.mpr hmem), h.groups_eq]
        · rw [if_neg hmem, if_neg fun hchild => hmem (h.mem_groups.mp hchild), h.groups_eq]
          simp
      · rw [insertAt_name] at hname
        rcases mem_updateChild h.nodup_groups hchild with ⟨hmem, hother⟩ | ⟨old, rfl, hold⟩
        · -- a sibling: its segment is another one, so the directory does not lead to it
          refine (h.child hmem hname).skip fun hleads => hother ?_
          have hsegment := segmentAfter?_eq_some.mpr hleads
          rw [hsome, Option.some.injEq] at hsegment
          rw [hname, hsegment]
        · rcases hold with ⟨hmem, htarget⟩ | ⟨rfl, hnot⟩
          · -- the child on the way to the directory
            have hsegment : other = segment := by
              rw [insertAt_name, htarget] at hname
              exact (childName_injective group.name hname).symm
            rw [hsegment]
            exact ih (h.child hmem htarget) hdir'
          · -- a fresh child: no directory before this one went on with the segment
            have hsegment : other = segment :=
              (childName_injective group.name ((insertAt_name test rest _).symm.trans hname)).symm
            rw [hsegment]
            refine ih (fresh (fun test htest hleads => hnot ?_) _) hdir'
            rw [h.mem_groups]
            exact mem_nextSegments.mpr ⟨test, htest, hleads⟩

/-- Inserting a test into the tree gives the trie with that test. -/
theorem insert (h : IsTrie tests [] group) (test : TestResult) :
    IsTrie (tests ++ [test]) [] (group.insert test) :=
  h.insertAt rfl

/-- Inserting tests one after another gives the trie with those tests. -/
theorem foldl_insert (h : IsTrie tests [] group) (more : List TestResult) :
    IsTrie (tests ++ more) [] (more.foldl TestGroup.insert group) := by
  induction more generalizing tests group with
  | nil => simpa using h
  | cons test more ih => simpa using ih (h.insert test)

end IsTrie

/-! ## Statuses -/

/-- Giving statuses to groups changes each by itself. -/
theorem settleAll_eq_map (groups : List TestGroup) : settleAll groups = groups.map settle := by
  induction groups with
  | nil => rfl
  | cons group groups ih => rw [settleAll, ih, List.map_cons]

/-- Giving a status to a group leaves its name as it is. -/
@[simp] theorem settle_name (group : TestGroup) : group.settle.name = group.name := by
  cases group
  rfl

/-- Giving a status to a group leaves its counts as they are. -/
@[simp] theorem settle_tally (group : TestGroup) : group.settle.tally = group.tally := by
  cases group
  rfl

namespace IsTrie

/-- Giving statuses to the groups of a trie leaves it a trie. -/
theorem settle (h : IsTrie tests path group) : IsTrie tests path group.settle := by
  induction h with
  | @intro path group htests hgroups hbelow ih =>
      have hbelow' : group.settle.groups = group.groups.map TestGroup.settle := by
        cases group
        exact settleAll_eq_map _
      refine intro ?_ ?_ fun child hchild segment hname => ?_
      · rw [← htests]
        cases group
        rfl
      · rw [hbelow', List.map_map, settle_name, ← hgroups]
        exact List.map_congr_left fun child _ => settle_name child
      · rw [hbelow', List.mem_map] at hchild
        obtain ⟨old, hold, rfl⟩ := hchild
        rw [settle_name, settle_name] at hname
        exact ih old hold segment hname

end IsTrie

/-- **The tree of sorted tests is their trie.** -/
theorem isTrie_ofSorted (tests : List TestResult) : IsTrie tests [] (ofSorted tests) := by
  have hempty : IsTrie [] [] (fresh "") := IsTrie.fresh (fun _ h => by cases h) ""
  exact (hempty.foldl_insert tests).settle

end TestGroup

end ReportRelay
