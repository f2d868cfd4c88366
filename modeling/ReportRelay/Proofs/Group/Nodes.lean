/-
# The groups of a tree by their paths

Every group of a tree stands at a path: the segments on the way to it from the root, each read
off the names of a group and of the one above it.  In the tree of tests the paths of the groups
are distinct, and they are the prefixes of the directories of the tests.

A group's name does not tell its path: the names of the groups at an empty segment, and of those
below it, leave that segment out.  So the theorems speak of paths and not of names.
-/
import ReportRelay.Group.Report
import ReportRelay.Proofs.Group.NameOrder
import ReportRelay.Proofs.Group.Trie

namespace ReportRelay

/-- The segment that the name of a group adds to that of the group above it. -/
def segmentBelow (parent child : String) : String :=
  if parent = "" then child else String.ofList (child.toList.drop (parent.toList.length + 1))

/-- The name of a group at a segment adds that segment. -/
@[simp] theorem segmentBelow_childName (parent segment : String) :
    segmentBelow parent (childName parent segment) = segment := by
  rw [segmentBelow, childName]
  split
  · rfl
  · simp

namespace TestGroup

/-! ## Paths of groups -/

mutual

/-- The groups of a tree with their paths, given the path of the tree; each group comes after
the one that holds it. -/
def nodesAt (path : List String) : TestGroup → List (List String × TestGroup)
  | ⟨name, status, tally, tests, groups⟩ =>
    (path, ⟨name, status, tally, tests, groups⟩) :: nodesBelow path name groups

/-- The groups of trees with their paths, given the path and name of the group above. -/
def nodesBelow (path : List String) (parent : String) :
    List TestGroup → List (List String × TestGroup)
  | [] => []
  | group :: groups =>
    nodesAt (path ++ [segmentBelow parent group.name]) group ++ nodesBelow path parent groups

end

/-- The groups of a tree with their paths from its root. -/
def nodes (root : TestGroup) : List (List String × TestGroup) := nodesAt [] root

/-- The groups below one come with those below them. -/
theorem nodesBelow_eq_flatMap (path : List String) (parent : String) (groups : List TestGroup) :
    nodesBelow path parent groups
      = groups.flatMap fun child => nodesAt (path ++ [segmentBelow parent child.name]) child := by
  induction groups with
  | nil => rfl
  | cons group groups ih => rw [nodesBelow, ih, List.flatMap_cons]

/-- A group comes before those below it. -/
theorem nodesAt_eq (path : List String) (group : TestGroup) :
    nodesAt path group = (path, group) ::
      group.groups.flatMap fun child =>
        nodesAt (path ++ [segmentBelow group.name child.name]) child := by
  cases group with
  | mk name status tally tests groups => rw [nodesAt, nodesBelow_eq_flatMap]

mutual

/-- Every group of a tree has a path. -/
theorem map_snd_nodesAt (path : List String) (group : TestGroup) :
    (nodesAt path group).map Prod.snd = group.preorder := by
  cases group with
  | mk name status tally tests groups =>
      rw [nodesAt, preorder, List.map_cons, map_snd_nodesBelow]

/-- Every group of trees has a path. -/
theorem map_snd_nodesBelow (path : List String) (parent : String) (groups : List TestGroup) :
    (nodesBelow path parent groups).map Prod.snd = preorderAll groups := by
  cases groups with
  | nil => rfl
  | cons group groups =>
      rw [nodesBelow, preorderAll, List.map_append, map_snd_nodesAt, map_snd_nodesBelow]

end

/-! ## Paths in a trie -/

namespace IsTrie

variable {tests : List TestResult} {path : List String} {group : TestGroup}

/-- The groups below a group have the segments below its path, in their order. -/
theorem map_segmentBelow (h : IsTrie tests path group) :
    group.groups.map (fun child => segmentBelow group.name child.name)
      = nextSegments path tests := by
  have hgroups := congrArg (List.map (segmentBelow group.name)) h.groups_eq
  rw [List.map_map, List.map_map] at hgroups
  have hid : segmentBelow group.name ∘ childName group.name = id := by
    funext segment
    exact segmentBelow_childName group.name segment
  rw [hid, List.map_id] at hgroups
  exact hgroups

/-- A group below another has the name that goes with its segment. -/
theorem childName_segmentBelow (h : IsTrie tests path group) {child : TestGroup}
    (hchild : child ∈ group.groups) :
    child.name = childName group.name (segmentBelow group.name child.name) := by
  have hmem := List.mem_map_of_mem (f := name) hchild
  rw [h.groups_eq, List.mem_map] at hmem
  obtain ⟨segment, -, hname⟩ := hmem
  rw [← hname, segmentBelow_childName]

/-- Every group of a trie is a trie at its path. -/
theorem of_mem_nodesAt (h : IsTrie tests path group) {node : List String × TestGroup}
    (hnode : node ∈ nodesAt path group) : IsTrie tests node.1 node.2 := by
  induction h with
  | @intro path group htests hgroups hbelow ih =>
      have htrie : IsTrie tests path group := intro htests hgroups hbelow
      rw [nodesAt_eq, List.mem_cons, List.mem_flatMap] at hnode
      rcases hnode with rfl | ⟨child, hchild, hnode⟩
      · exact htrie
      · exact ih child hchild _ (htrie.childName_segmentBelow hchild) hnode

/-- A group below another stands at its path and one segment more. -/
theorem child_mem_nodesAt (h : IsTrie tests path group) {node : List String × TestGroup}
    (hnode : node ∈ nodesAt path group) {child : TestGroup} (hchild : child ∈ node.2.groups) :
    (node.1 ++ [segmentBelow node.2.name child.name], child) ∈ nodesAt path group := by
  induction h with
  | @intro path group htests hgroups hbelow ih =>
      have htrie : IsTrie tests path group := intro htests hgroups hbelow
      rw [nodesAt_eq, List.mem_cons, List.mem_flatMap] at hnode ⊢
      rcases hnode with rfl | ⟨above, habove, hnode⟩
      · refine Or.inr ⟨child, hchild, ?_⟩
        rw [nodesAt_eq]
        exact List.mem_cons_self
      · exact Or.inr ⟨above, habove,
          ih above habove _ (htrie.childName_segmentBelow habove) hnode⟩

/-- The paths of the groups below a group go on from its path to some directory. -/
theorem mem_paths (h : IsTrie tests path group) {other : List String} :
    other ∈ (nodesAt path group).map Prod.fst
      ↔ other = path ∨ ∃ segment rest, other = path ++ segment :: rest ∧
          ∃ test ∈ tests, other <+: directory test.name := by
  -- the path is split after its first segment below the group, which names the child to go to
  induction h with
  | @intro path group htests hgroups hbelow ih =>
      have htrie : IsTrie tests path group := intro htests hgroups hbelow
      rw [nodesAt_eq, List.map_cons, List.mem_cons, List.map_flatMap, List.mem_flatMap]
      refine or_congr_right ⟨?_, ?_⟩
      · rintro ⟨child, hchild, hother⟩
        rw [ih child hchild _ (htrie.childName_segmentBelow hchild)] at hother
        rcases hother with rfl | ⟨segment, rest, rfl, hdir⟩
        · refine ⟨_, [], rfl, mem_nextSegments.mp ?_⟩
          rw [← htrie.map_segmentBelow]
          exact List.mem_map_of_mem hchild
        · exact ⟨segmentBelow group.name child.name, segment :: rest, by simp, hdir⟩
      · rintro ⟨segment, rest, rfl, test, htest, hdir⟩
        have hsplit : path ++ segment :: rest = (path ++ [segment]) ++ rest := by simp
        have hsegment : segment ∈ nextSegments path tests := by
          refine mem_nextSegments.mpr ⟨test, htest, ?_⟩
          rw [hsplit] at hdir
          exact (List.prefix_append _ rest).trans hdir
        rw [← htrie.map_segmentBelow, List.mem_map] at hsegment
        obtain ⟨child, hchild, hbelow'⟩ := hsegment
        refine ⟨child, hchild, ?_⟩
        rw [ih child hchild _ (htrie.childName_segmentBelow hchild), hbelow']
        cases rest with
        | nil => exact Or.inl rfl
        | cons next rest => exact Or.inr ⟨next, rest, hsplit, test, htest, hdir⟩

/-- The path of a group below another goes on from the path of that one. -/
theorem prefix_of_mem_paths (h : IsTrie tests path group) {other : List String}
    (hother : other ∈ (nodesAt path group).map Prod.fst) : path <+: other := by
  rcases h.mem_paths.mp hother with rfl | ⟨segment, rest, rfl, -⟩
  · exact List.prefix_rfl
  · exact List.prefix_append _ _

/-- Different groups of a trie have different paths. -/
theorem nodup_paths (h : IsTrie tests path group) :
    ((nodesAt path group).map Prod.fst).Nodup := by
  induction h with
  | @intro path group htests hgroups hbelow ih =>
      have htrie : IsTrie tests path group := intro htests hgroups hbelow
      -- the path of a group below starts with the segment of the child that leads to it
      have hstart : ∀ child ∈ group.groups, ∀ other ∈ (nodesAt
          (path ++ [segmentBelow group.name child.name]) child).map Prod.fst,
          path ++ [segmentBelow group.name child.name] <+: other :=
        fun child hchild other hother =>
          (htrie.child hchild (htrie.childName_segmentBelow hchild)).prefix_of_mem_paths hother
      rw [nodesAt_eq, List.map_cons, List.nodup_cons, List.map_flatMap, List.nodup_flatMap]
      refine ⟨?_, fun child hchild => ?_, ?_⟩
      · rw [List.mem_flatMap]
        rintro ⟨child, hchild, hpath⟩
        have hlength := (hstart child hchild path hpath).length_le
        rw [List.length_append, List.length_singleton] at hlength
        omega
      · exact ih child hchild _ (htrie.childName_segmentBelow hchild)
      · -- two children have different segments, so no path starts with both
        have hsegments : (group.groups.map fun child =>
            segmentBelow group.name child.name).Nodup := by
          rw [htrie.map_segmentBelow]
          exact nodup_eraseDups _
        rw [List.Nodup, List.pairwise_map] at hsegments
        refine hsegments.imp_of_mem fun hfirst hsecond hne other hother hother' => hne ?_
        have hpaths := List.prefix_of_prefix_length_le (hstart _ hfirst other hother)
          (hstart _ hsecond other hother') (by simp)
        have heq := hpaths.eq_of_length (by simp)
        simpa using heq

/-! ## The tests of a trie -/

/-- Elements taken by different keys, key after key, are the elements that have one of them. -/
theorem flatMap_filter_perm (key : TestResult → List String) {keys : List (List String)}
    (hnodup : keys.Nodup) (l : List TestResult) :
    (keys.flatMap fun k => l.filter fun a => key a = k).Perm
      (l.filter fun a => key a ∈ keys) := by
  induction keys with
  | nil => simp
  | cons k keys ih =>
      rw [List.nodup_cons] at hnodup
      -- the elements with one of the keys are split into those with the first and the others
      have hfirst : (l.filter fun a => key a ∈ k :: keys).filter (fun a => key a = k)
          = l.filter fun a => key a = k := by
        rw [List.filter_filter]
        refine List.filter_congr fun a _ => ?_
        by_cases hk : key a = k <;> simp [hk]
      have hrest : (l.filter fun a => key a ∈ k :: keys).filter (fun a => !decide (key a = k))
          = l.filter fun a => key a ∈ keys := by
        rw [List.filter_filter]
        refine List.filter_congr fun a _ => ?_
        by_cases hk : key a = k
        · simp [hk, hnodup.1]
        · simp [hk]
      have hsplit := List.filter_append_perm (fun a => decide (key a = k))
        (l.filter fun a => key a ∈ k :: keys)
      rw [hfirst, hrest] at hsplit
      rw [List.flatMap_cons]
      exact ((List.Perm.refl _).append (ih hnodup.2)).trans hsplit

/-- The groups of a trie hold the tests directory by directory. -/
theorem allTests_eq_flatMap (h : IsTrie tests [] group) :
    group.allTests = ((nodesAt [] group).map Prod.fst).flatMap fun other =>
      tests.filter fun test => directory test.name = other := by
  rw [allTests, ← map_snd_nodesAt [], List.flatMap_map, List.flatMap_map]
  exact List.flatMap_congr fun node hnode => (h.of_mem_nodesAt hnode).tests_eq

/-- The directory of every test is the path of a group, since the root stands at the empty
path. -/
theorem directory_mem_paths (h : IsTrie tests [] group) {test : TestResult}
    (htest : test ∈ tests) : directory test.name ∈ (nodesAt [] group).map Prod.fst := by
  rw [h.mem_paths]
  cases hdir : directory test.name with
  | nil => exact Or.inl rfl
  | cons segment rest =>
      exact Or.inr ⟨segment, rest, rfl, test, htest, hdir ▸ List.prefix_rfl⟩

/-- The groups of a trie hold every test once. -/
theorem allTests_perm (h : IsTrie tests [] group) : group.allTests.Perm tests := by
  have hall : tests.filter (fun test => directory test.name ∈ (nodesAt [] group).map Prod.fst)
      = tests :=
    List.filter_eq_self.mpr fun _ htest => decide_eq_true (h.directory_mem_paths htest)
  have hperm := flatMap_filter_perm (fun test => directory test.name) h.nodup_paths tests
  rw [hall] at hperm
  rw [h.allTests_eq_flatMap]
  exact hperm

end IsTrie

end TestGroup

/-! ## Grouped reports -/

/-- A report that is accepted has its sorted tests as a tree. -/
theorem Report.root_eq {report : Report} {grouped : GroupedReport}
    (h : report.group = .ok grouped) : grouped.root = .ofSorted (sortTests report.tests) := by
  rw [Report.group] at h
  cases hversion : checkVersion report.minversion with
  | error fault =>
      rw [hversion] at h
      cases h
  | ok _ =>
      rw [hversion] at h
      cases h
      rfl

/-- The tree of a report that is accepted is the trie of its sorted tests. -/
theorem Report.isTrie_root {report : Report} {grouped : GroupedReport}
    (h : report.group = .ok grouped) :
    TestGroup.IsTrie (sortTests report.tests) [] grouped.root := by
  rw [Report.root_eq h]
  exact TestGroup.isTrie_ofSorted _

/-- A report whose tests are in order already is grouped as they stand. -/
theorem Report.group_of_sorted {report : Report}
    (hversion : checkVersion report.minversion = .ok ())
    (hsorted : report.tests.Pairwise fun a b => NameOrder.shown a.name b.name = true) :
    report.group = .ok ⟨report.id, report.minversion, .ofJson? report.createdAt,
      .ofSorted report.tests, report.extra⟩ := by
  have hsame : sortTests report.tests = report.tests := List.mergeSort_of_pairwise hsorted
  rw [Report.group, hversion, hsame]
  rfl

/-- **A report is grouped as the trie of its test names.**  Its tests are put into the stable
order of names.  The groups stand at distinct paths, which are those that lead to the directory
of some test, and the root.  A group holds the tests of which its path is the directory, in
their order, and the groups below it have the segments that continue its path, each at the place
of the first test that has it.  So the tree holds every test of the report once. -/
theorem group_nodes {report : Report} {grouped : GroupedReport}
    (h : report.group = .ok grouped) :
    let sorted := sortTests report.tests
    let nodes := grouped.root.nodes
    (sorted.Perm report.tests ∧
      (sorted.Pairwise fun a b => NameOrder.shown a.name b.name = true) ∧
      ∀ a b, NameOrder.shown a.name b.name = true → [a, b].Sublist report.tests →
        [a, b].Sublist sorted) ∧
    (nodes.map Prod.snd = grouped.root.preorder ∧
      ([], grouped.root) ∈ nodes ∧
      (nodes.map Prod.fst).Nodup ∧
      ∀ path, path ∈ nodes.map Prod.fst ↔
        path = [] ∨ ∃ test ∈ report.tests, path <+: directory test.name) ∧
    (∀ path group, (path, group) ∈ nodes →
      group.tests = (sorted.filter fun test => directory test.name = path) ∧
      group.groups.map TestGroup.name
        = (nextSegments path sorted).map (childName group.name) ∧
      group.groups.map (fun child => segmentBelow group.name child.name)
        = nextSegments path sorted ∧
      ∀ child ∈ group.groups,
        (path ++ [segmentBelow group.name child.name], child) ∈ nodes) ∧
    grouped.root.allTests.Perm report.tests := by
  intro sorted nodes
  have hroot := Report.root_eq h
  have htrie : TestGroup.IsTrie sorted [] grouped.root := by
    rw [hroot]
    exact TestGroup.isTrie_ofSorted sorted
  have hperm : sorted.Perm report.tests := sortTests_perm report.tests
  refine ⟨⟨hperm, sortTests_pairwise report.tests, fun a b => sortTests_stable⟩,
    ⟨TestGroup.map_snd_nodesAt [] grouped.root, ?_, htrie.nodup_paths, fun path => ?_⟩,
    fun path group hnode => ?_, htrie.allTests_perm.trans hperm⟩
  · show _ ∈ TestGroup.nodesAt [] grouped.root
    rw [TestGroup.nodesAt_eq]
    exact List.mem_cons_self
  · show path ∈ (TestGroup.nodesAt [] grouped.root).map Prod.fst ↔ _
    rw [htrie.mem_paths]
    constructor
    · rintro (hnil | ⟨segment, rest, -, test, htest, hdir⟩)
      · exact Or.inl hnil
      · exact Or.inr ⟨test, hperm.mem_iff.mp htest, hdir⟩
    · rintro (hnil | ⟨test, htest, hdir⟩)
      · exact Or.inl hnil
      · cases path with
        | nil => exact Or.inl rfl
        | cons segment rest =>
            exact Or.inr ⟨segment, rest, rfl, test, hperm.mem_iff.mpr htest, hdir⟩
  · have hgroup := htrie.of_mem_nodesAt hnode
    exact ⟨hgroup.tests_eq, hgroup.groups_eq, hgroup.map_segmentBelow,
      fun child hchild => htrie.child_mem_nodesAt hnode hchild⟩

/-- Empty segments make groups of their own, also where their names are those of others: of
these tests, one stands below an empty segment at the root and one beside it. -/
theorem group_nodes_of_empty_segments :
    let report : Report := ⟨"r", 1, none,
      [⟨"x/t", .success, []⟩, ⟨"/x/t", .failed, []⟩, ⟨"x//t", .skipped, []⟩,
        ⟨"", .success, []⟩], []⟩
    ∃ grouped, report.group = .ok grouped ∧
      (["x"] ∈ grouped.root.nodes.map Prod.fst ∧ ["", "x"] ∈ grouped.root.nodes.map Prod.fst ∧
        ["x", ""] ∈ grouped.root.nodes.map Prod.fst) ∧
      ["t"] ∉ grouped.root.nodes.map Prod.fst := by
  intro report
  have hpaths := (group_nodes (show report.group = .ok _ from rfl)).2.1.2.2.2
  refine ⟨_, rfl, ⟨(hpaths _).mpr ?_, (hpaths _).mpr ?_, (hpaths _).mpr ?_⟩, fun h => ?_⟩
  · decide
  · decide
  · decide
  · have hnot := (hpaths _).mp h
    revert hnot
    decide

end ReportRelay
