/-
# The names of groups and the search for them

A group is named by its path, except that empty segments at the beginning of the path are left
out (`IsTrie.name_eq`): while the name is empty, the group is taken for the root.  The groups at
paths that begin with a segment that is not empty are named in full, and the search finds just
these (`IsTrie.find?_eq_some_iff`).  A test whose name begins with a slash stands below an empty
segment, and only such tests do.
-/
import ReportRelay.Proofs.Group.Nodes
import ReportRelay.Proofs.Group.Paths

namespace ReportRelay

/-- The directory of a name begins with an empty segment if the name begins with a slash. -/
theorem head?_directory_eq_empty (name : String) :
    (directory name).head? = some "" ↔ name.toList.head? = some '/' := by
  rw [directory, segments]
  cases hname : name.toList with
  | nil => simp [splitSlashes]
  | cons c rest =>
      rw [splitSlashes]
      have hne : splitSlashes rest ≠ [] := by
        rw [splitSlashes_eq_splitOn]
        exact List.splitOn_ne_nil _ _
      obtain ⟨first, more, hsplit⟩ := List.exists_cons_of_ne_nil hne
      by_cases hc : c = '/'
      · rw [if_pos hc, hsplit]
        simp [hc]
      · rw [if_neg hc, hsplit]
        cases more <;> simp [hc]

namespace TestGroup

variable {tests : List TestResult} {path : List String} {group : TestGroup}

/-! ## Names -/

/-- A group stands at the path that is given for the tree. -/
theorem mem_nodesAt_self (path : List String) (group : TestGroup) :
    (path, group) ∈ nodesAt path group := by
  rw [nodesAt_eq]
  exact List.mem_cons_self

/-- The groups below a child are below the group. -/
theorem mem_nodesAt_of_child {child : TestGroup} (hchild : child ∈ group.groups)
    {node : List String × TestGroup}
    (hnode : node ∈ nodesAt (path ++ [segmentBelow group.name child.name]) child) :
    node ∈ nodesAt path group := by
  rw [nodesAt_eq]
  exact List.mem_cons_of_mem _ (List.mem_flatMap.mpr ⟨child, hchild, hnode⟩)

/-- The root is named by the empty text, also when tests have been put into its tree. -/
@[simp] theorem ofSorted_name (tests : List TestResult) : (ofSorted tests).name = "" := by
  have hfold : ∀ root : TestGroup, (tests.foldl insert root).name = root.name := by
    intro root
    induction tests generalizing root with
    | nil => rfl
    | cons test tests ih => rw [List.foldl_cons, ih, insert, insertAt_name]
  rw [ofSorted, settle_name, hfold]
  rfl

namespace IsTrie

/-- The path of a group leads to the directories of all tests below it. -/
theorem prefix_directory (h : IsTrie tests path group) {test : TestResult}
    (htest : test ∈ group.allTests) : path <+: directory test.name := by
  rw [allTests, ← map_snd_nodesAt path, List.mem_flatMap] at htest
  obtain ⟨below, hbelow, htest⟩ := htest
  obtain ⟨node, hnode, rfl⟩ := List.mem_map.mp hbelow
  rw [(h.of_mem_nodesAt hnode).tests_eq, List.mem_filter, decide_eq_true_eq] at htest
  rw [htest.2]
  exact h.prefix_of_mem_paths (List.mem_map_of_mem hnode)

/-- A group is named by its path without the empty segments at the beginning. -/
theorem name_eq (h : IsTrie tests path group)
    (hname : group.name = "/".intercalate (path.dropWhile (· = "")))
    {node : List String × TestGroup} (hnode : node ∈ nodesAt path group) :
    node.2.name = "/".intercalate (node.1.dropWhile (· = "")) := by
  induction h with
  | @intro path group htests hgroups hbelow ih =>
      have htrie : IsTrie tests path group := intro htests hgroups hbelow
      rw [nodesAt_eq, List.mem_cons, List.mem_flatMap] at hnode
      rcases hnode with rfl | ⟨child, hchild, hnode⟩
      · exact hname
      · apply ih child hchild _ (htrie.childName_segmentBelow hchild) _ hnode
        rw [htrie.childName_segmentBelow hchild, hname, segmentBelow_childName,
          childName_dropWhile]

/-- The segments of the paths below a group hold no slash. -/
theorem slash_notMem (h : IsTrie tests path group) (hpath : ∀ segment ∈ path, '/' ∉ segment.toList)
    {other : List String} (hother : other ∈ (nodesAt path group).map Prod.fst) :
    ∀ segment ∈ other, '/' ∉ segment.toList := by
  rcases h.mem_paths.mp hother with rfl | ⟨segment, rest, -, test, -, hdir⟩
  · exact hpath
  · exact slash_notMem_of_leads hdir

end IsTrie

/-! ## The search -/

/-- The search below a group finds what all groups that lead to the path find. -/
theorem findAmong?_eq_some {text : String} {groups : List TestGroup} {found : TestGroup}
    (hfind : ∀ child ∈ groups, leadsTo child.name.toList text.toList = true →
      find? text child = some found)
    (hleads : ∃ child ∈ groups, leadsTo child.name.toList text.toList = true) :
    findAmong? text groups = some found := by
  induction groups with
  | nil =>
      obtain ⟨child, hchild, -⟩ := hleads
      exact absurd hchild List.not_mem_nil
  | cons group groups ih =>
      rw [findAmong?]
      by_cases hgroup : leadsTo group.name.toList text.toList = true
      · rw [if_pos hgroup, hfind group List.mem_cons_self hgroup]
      · rw [if_neg hgroup]
        apply ih
        · exact fun child hchild => hfind child (List.mem_cons_of_mem _ hchild)
        · obtain ⟨child, hchild, hleads⟩ := hleads
          rcases List.mem_cons.mp hchild with rfl | hchild
          · exact absurd hleads hgroup
          · exact ⟨child, hchild, hleads⟩

/-- What the search below a group finds, some group that leads to the path finds. -/
theorem exists_of_findAmong? {text : String} {groups : List TestGroup} {found : TestGroup}
    (h : findAmong? text groups = some found) :
    ∃ child ∈ groups, leadsTo child.name.toList text.toList = true ∧
      find? text child = some found := by
  induction groups with
  | nil => cases h
  | cons group groups ih =>
      have hrest : findAmong? text groups = some found →
          ∃ child ∈ group :: groups, leadsTo child.name.toList text.toList = true ∧
            find? text child = some found := by
        intro h
        obtain ⟨child, hchild, hfound⟩ := ih h
        exact ⟨child, List.mem_cons_of_mem _ hchild, hfound⟩
      rw [findAmong?] at h
      by_cases hgroup : leadsTo group.name.toList text.toList = true
      · rw [if_pos hgroup] at h
        cases hfind : find? text group with
        | some other =>
            rw [hfind] at h
            exact ⟨group, List.mem_cons_self, hgroup, hfind.trans h⟩
        | none =>
            rw [hfind] at h
            exact hrest h
      · rw [if_neg hgroup] at h
        exact hrest h

/-- The search stops at a group of the name, and goes on below any other. -/
theorem find?_eq (text : String) (group : TestGroup) :
    find? text group
      = if text = group.name then some group else findAmong? text group.groups := by
  cases group with
  | mk name status tally tests groups => rw [find?]

namespace IsTrie

/-- What the search finds is a group of the tree, of the name that was looked for. -/
theorem of_find? (h : IsTrie tests path group) {text : String} {found : TestGroup}
    (hfound : find? text group = some found) :
    found.name = text ∧ ∃ other, (other, found) ∈ nodesAt path group := by
  induction h with
  | @intro path group htests hgroups hbelow ih =>
      have htrie : IsTrie tests path group := intro htests hgroups hbelow
      rw [find?_eq] at hfound
      by_cases htext : text = group.name
      · rw [if_pos htext, Option.some.injEq] at hfound
        subst hfound
        exact ⟨htext.symm, path, mem_nodesAt_self path group⟩
      · rw [if_neg htext] at hfound
        obtain ⟨child, hchild, -, hfound⟩ := exists_of_findAmong? hfound
        obtain ⟨hname, other, hother⟩ :=
          ih child hchild _ (htrie.childName_segmentBelow hchild) hfound
        exact ⟨hname, other, mem_nodesAt_of_child hchild hother⟩

/-- Of the groups below a group that is named in full, only the one that stands on the way leads
to a path. -/
theorem child_of_leadsTo (h : IsTrie tests path group)
    (hname : group.name = "/".intercalate path) (hhead : path.head? ≠ some "")
    {child : TestGroup} (hchild : child ∈ group.groups) {other : List String}
    (hne : other ≠ []) (hother : ∀ segment ∈ other, '/' ∉ segment.toList) :
    leadsTo child.name.toList ("/".intercalate other).toList = true
      ↔ path ++ [segmentBelow group.name child.name] <+: other := by
  have hsegment : segmentBelow group.name child.name ∈ nextSegments path tests := by
    rw [← h.map_segmentBelow]
    exact List.mem_map_of_mem hchild
  obtain ⟨test, -, hdir⟩ := mem_nextSegments.mp hsegment
  have hsegments : segments child.name = path ++ [segmentBelow group.name child.name] := by
    rw [← segments_intercalate (List.append_ne_nil_of_right_ne_nil _ (List.cons_ne_nil _ _))
      (slash_notMem_of_leads hdir), ← childName_intercalate hhead, ← hname,
      ← h.childName_segmentBelow hchild]
  rw [leadsTo_iff, segments_intercalate hne hother, hsegments]

/-- The search finds a group by its path, unless that begins with an empty segment. -/
theorem find?_of_mem (h : IsTrie tests path group)
    (hname : group.name = "/".intercalate path) (hpath : ∀ segment ∈ path, '/' ∉ segment.toList)
    {node : List String × TestGroup} (hnode : node ∈ nodesAt path group)
    (hhead : node.1.head? ≠ some "") : find? ("/".intercalate node.1) group = some node.2 := by
  induction h with
  | @intro path group htests hgroups hbelow ih =>
      have htrie : IsTrie tests path group := intro htests hgroups hbelow
      have hslash := htrie.slash_notMem hpath (List.mem_map_of_mem hnode)
      obtain ⟨rest, hrest⟩ := htrie.prefix_of_mem_paths (List.mem_map_of_mem hnode)
      have hpathHead : path.head? ≠ some "" := by
        cases path with
        | nil => simp
        | cons segment path =>
            rw [← hrest] at hhead
            exact hhead
      rw [nodesAt_eq, List.mem_cons, List.mem_flatMap] at hnode
      rw [find?_eq]
      rcases hnode with rfl | ⟨child, hchild, hnode⟩
      · rw [if_pos hname.symm]
      · have hchildTrie := htrie.child hchild (htrie.childName_segmentBelow hchild)
        have hleads := hchildTrie.prefix_of_mem_paths (List.mem_map_of_mem hnode)
        have hne : node.1 ≠ [] := by
          intro hnil
          rw [hnil, List.prefix_nil] at hleads
          exact absurd hleads (by simp)
        have htext : "/".intercalate node.1 ≠ group.name := by
          intro heq
          have hsame := intercalate_inj hslash hhead hpath hpathHead (heq.trans hname)
          have hlength := hleads.length_le
          rw [hsame, List.length_append, List.length_singleton] at hlength
          omega
        rw [if_neg htext]
        apply findAmong?_eq_some
        · intro sibling hsibling hsiblingLeads
          -- the sibling stands at the same segment as the child, and so is the child
          have hother := (htrie.child_of_leadsTo hname hpathHead hsibling hne hslash).mp
            hsiblingLeads
          have hsegments := (List.prefix_of_prefix_length_le hother hleads (by simp)).eq_of_length
            (by simp)
          have hsegment : segmentBelow group.name sibling.name
              = segmentBelow group.name child.name := by simpa using hsegments
          have hnames : sibling.name = child.name := by
            rw [htrie.childName_segmentBelow hsibling, hsegment,
              ← htrie.childName_segmentBelow hchild]
          obtain rfl := List.inj_on_of_nodup_map htrie.nodup_groups hsibling hchild hnames
          apply ih sibling hsibling _ (htrie.childName_segmentBelow hsibling) _ _ hnode
          · rw [← childName_intercalate hpathHead, ← hname]
            exact htrie.childName_segmentBelow hsibling
          · exact fun segment hsegment => hslash segment (hleads.subset hsegment)
        · exact ⟨child, hchild,
            (htrie.child_of_leadsTo hname hpathHead hchild hne hslash).mpr hleads⟩

/-- Below the group of an empty segment, nothing is found: the search goes there only for texts
that begin with a slash, and no group has such a name. -/
theorem head?_of_leadsTo (h : IsTrie tests [] group) (hname : group.name = "")
    {child : TestGroup} (hchild : child ∈ group.groups) {node : List String × TestGroup}
    (hnode : node ∈ nodesAt [segmentBelow group.name child.name] child)
    (hleads : leadsTo child.name.toList node.2.name.toList = true) (hne : node.2.name ≠ "") :
    node.1.head? ≠ some "" := by
  intro hempty
  have hmem : node ∈ nodesAt [] group := mem_nodesAt_of_child hchild hnode
  have hnodeName := h.name_eq (hname.trans String.intercalate_nil.symm) hmem
  have hchildTrie := h.child hchild (h.childName_segmentBelow hchild)
  obtain ⟨rest, hrest⟩ := hchildTrie.prefix_of_mem_paths (List.mem_map_of_mem hnode)
  have hsegment : segmentBelow group.name child.name = "" := by
    rw [← hrest] at hempty
    simpa using hempty
  have hchildName : child.name = "" := by
    rw [h.childName_segmentBelow hchild, hsegment, hname, childName, if_pos rfl]
  have hslash : ∀ segment ∈ node.1.dropWhile (· = ""), '/' ∉ segment.toList := by
    intro segment hsegment
    apply h.slash_notMem (by simp) (List.mem_map_of_mem hmem)
    exact (List.dropWhile_sublist _).subset hsegment
  have hpath : node.1.dropWhile (· = "") ≠ [] := by
    intro hnil
    apply hne
    rw [hnodeName, hnil, String.intercalate_nil]
  rw [leadsTo_iff, hchildName, hnodeName, segments_intercalate hpath hslash] at hleads
  obtain ⟨more, hmore⟩ := hleads
  apply head?_dropWhile_ne node.1
  rw [← hmore]
  rfl

/-- **The search finds just the groups at paths that do not begin with an empty segment**, each by
its path. -/
theorem find?_eq_some_iff (h : IsTrie tests [] group) (hname : group.name = "") {text : String}
    {found : TestGroup} :
    find? text group = some found ↔ ∃ other, (other, found) ∈ nodesAt [] group ∧
      other.head? ≠ some "" ∧ text = "/".intercalate other := by
  have hroot : group.name = "/".intercalate ([] : List String) := by
    rw [hname, String.intercalate_nil]
  constructor
  · intro hfound
    have hfoundName := (h.of_find? hfound).1
    rw [find?_eq] at hfound
    by_cases htext : text = group.name
    · rw [if_pos htext, Option.some.injEq] at hfound
      subst hfound
      exact ⟨[], mem_nodesAt_self [] group, by simp, htext.trans hroot⟩
    · rw [if_neg htext] at hfound
      obtain ⟨child, hchild, hleads, hfound⟩ := exists_of_findAmong? hfound
      have hchildTrie := h.child hchild (h.childName_segmentBelow hchild)
      obtain ⟨-, other, hother⟩ := hchildTrie.of_find? hfound
      have hhead : other.head? ≠ some "" := by
        apply h.head?_of_leadsTo hname hchild hother
        · show leadsTo child.name.toList found.name.toList = true
          rw [hfoundName]
          exact hleads
        · show found.name ≠ ""
          rw [hfoundName, ← hname]
          exact htext
      refine ⟨other, mem_nodesAt_of_child hchild hother, hhead, ?_⟩
      rw [← hfoundName, ← dropWhile_of_head?_ne hhead]
      exact h.name_eq hroot (mem_nodesAt_of_child hchild hother)
  · rintro ⟨other, hother, hhead, rfl⟩
    exact h.find?_of_mem hroot (by simp) hother hhead

/-! ## Names that tell groups apart -/

/-- The paths begin with segments that are not empty if no name of a test begins with a slash. -/
theorem head?_ne_iff (h : IsTrie tests [] group) :
    (∀ test ∈ tests, test.name.toList.head? ≠ some '/')
      ↔ ∀ other ∈ (nodesAt [] group).map Prod.fst, other.head? ≠ some "" := by
  constructor
  · intro hnames other hother hempty
    rcases h.mem_paths.mp hother with rfl | ⟨segment, rest, rfl, test, htest, more, hdir⟩
    · cases hempty
    · apply hnames test htest
      rw [← head?_directory_eq_empty, ← hdir]
      exact hempty
  · intro hpaths test htest hslash
    apply hpaths (directory test.name) (h.directory_mem_paths htest)
    exact (head?_directory_eq_empty test.name).mpr hslash

/-- Groups at paths that do not begin with empty segments have different names. -/
theorem nodup_names (h : IsTrie tests [] group) (hname : group.name = "")
    (hpaths : ∀ other ∈ (nodesAt [] group).map Prod.fst, other.head? ≠ some "") :
    (group.preorder.map name).Nodup := by
  have hnodeName : ∀ node ∈ nodesAt [] group, node.2.name = "/".intercalate node.1 := by
    intro node hnode
    rw [h.name_eq (hname.trans String.intercalate_nil.symm) hnode,
      dropWhile_of_head?_ne (hpaths _ (List.mem_map_of_mem hnode))]
  have hnames : group.preorder.map name
      = ((nodesAt [] group).map Prod.fst).map fun path => "/".intercalate path := by
    rw [← map_snd_nodesAt [], List.map_map, List.map_map]
    exact List.map_congr_left hnodeName
  rw [hnames]
  apply h.nodup_paths.map_on
  intro path hpath other hother
  exact intercalate_inj (h.slash_notMem (by simp) hpath) (hpaths path hpath)
    (h.slash_notMem (by simp) hother) (hpaths other hother)

/-- The group of an empty segment below the root has the name of the root. -/
theorem not_nodup_names (h : IsTrie tests [] group) (hname : group.name = "")
    {other : List String} (hother : other ∈ (nodesAt [] group).map Prod.fst)
    (hempty : other.head? = some "") : ¬(group.preorder.map name).Nodup := by
  obtain ⟨rest, rfl⟩ : ∃ rest, other = "" :: rest := by
    cases other with
    | nil => cases hempty
    | cons segment rest => exact ⟨rest, by rw [Option.some.inj hempty]⟩
  -- the way to the path leads through a child at the empty segment
  have hchild : [""] ∈ (nodesAt [] group).map Prod.fst := by
    rcases h.mem_paths.mp hother with hnil | ⟨segment, more, heq, test, htest, hdir⟩
    · cases hnil
    · apply h.mem_paths.mpr
      exact Or.inr ⟨"", [], rfl, test, htest, (List.prefix_append [""] rest).trans hdir⟩
  obtain ⟨node, hnode, hpath⟩ := List.mem_map.mp hchild
  have hnodeName : node.2.name = "" := by
    rw [h.name_eq (hname.trans String.intercalate_nil.symm) hnode, hpath]
    simp
  rw [nodesAt_eq] at hnode
  rcases List.mem_cons.mp hnode with rfl | hbelow
  · cases hpath
  · rw [← map_snd_nodesAt [], nodesAt_eq, List.map_cons, List.map_cons, List.nodup_cons]
    intro hnodup
    apply hnodup.1
    have hmem := List.mem_map_of_mem (f := name) (List.mem_map_of_mem (f := Prod.snd) hbelow)
    rw [hnodeName, ← hname] at hmem
    exact hmem

end IsTrie

end TestGroup

/-! ## Grouped reports -/

/-- **Groups are named by their paths, but empty segments at the beginning of a path are left
out.**  The path of a group leads to the directories of all tests below it.  A group at a path
that does not begin with an empty segment is named in full, only the root has the empty name
among these, and the search finds such a group by its name; nothing else is found.  All groups
are such, and just then have different names, if no name of a test begins with a slash. -/
theorem group_names {report : Report} {grouped : GroupedReport}
    (h : report.group = .ok grouped) :
    let nodes := grouped.root.nodes
    let plain := ∀ test ∈ report.tests, test.name.toList.head? ≠ some '/'
    (nodes.map Prod.snd = grouped.root.preorder ∧
      ∀ path group, (path, group) ∈ nodes →
        (∀ test ∈ group.allTests, path <+: directory test.name) ∧
        group.name = "/".intercalate (path.dropWhile (· = ""))) ∧
    (∀ path group, (path, group) ∈ nodes → path.head? ≠ some "" →
      group.name = "/".intercalate path ∧ (group.name = "" ↔ path = []) ∧
      grouped.root.find? group.name = some group) ∧
    (∀ text found, grouped.root.find? text = some found ↔
      ∃ path, (path, found) ∈ nodes ∧ path.head? ≠ some "" ∧ text = "/".intercalate path) ∧
    (plain ↔ ∀ path ∈ nodes.map Prod.fst, path.head? ≠ some "") ∧
    (plain ↔ (grouped.root.preorder.map TestGroup.name).Nodup) := by
  intro nodes plain
  have hroot := Report.root_eq h
  have htrie : TestGroup.IsTrie (sortTests report.tests) [] grouped.root := by
    rw [hroot]
    exact TestGroup.isTrie_ofSorted _
  have hname : grouped.root.name = "" := by
    rw [hroot]
    exact TestGroup.ofSorted_name _
  have hplain : plain ↔ ∀ path ∈ nodes.map Prod.fst, path.head? ≠ some "" := by
    apply Iff.trans _ htrie.head?_ne_iff
    apply forall_congr'
    intro test
    rw [(sortTests_perm report.tests).mem_iff]
  refine ⟨⟨TestGroup.map_snd_nodesAt [] grouped.root, fun path group hnode => ⟨?_, ?_⟩⟩,
    fun path group hnode hhead => ?_, fun text found => htrie.find?_eq_some_iff hname, hplain, ?_⟩
  · exact fun test htest => (htrie.of_mem_nodesAt hnode).prefix_directory htest
  · exact htrie.name_eq (hname.trans String.intercalate_nil.symm) hnode
  · have hgroupName : group.name = "/".intercalate path := by
      rw [htrie.name_eq (hname.trans String.intercalate_nil.symm) hnode,
        dropWhile_of_head?_ne hhead]
    refine ⟨hgroupName, ?_, ?_⟩
    · rw [hgroupName, intercalate_eq_empty_iff]
      apply or_iff_left
      intro hone
      exact hhead (by rw [hone]; rfl)
    · rw [hgroupName]
      exact (htrie.find?_eq_some_iff hname).mpr ⟨path, hnode, hhead, rfl⟩
  · rw [hplain]
    refine ⟨htrie.nodup_names hname, fun hnodup path hpath hempty => ?_⟩
    exact htrie.not_nodup_names hname hpath hempty hnodup

/-- Among these tests none has a name that begins with a slash, so all groups are found by their
names, also those at empty segments further below. -/
theorem group_names_of_nested :
    let report : Report := ⟨"r", 1, none,
      [⟨"x/t", .success, []⟩, ⟨"x/y/t", .failed, []⟩, ⟨"x//t", .skipped, []⟩,
        ⟨"t", .success, []⟩], []⟩
    ∃ grouped, report.group = .ok grouped ∧
      (grouped.root.preorder.map TestGroup.name).Nodup ∧
      ∀ group ∈ grouped.root.preorder, grouped.root.find? group.name = some group := by
  intro report
  obtain ⟨⟨hnodes, -⟩, hfind, -, hpaths, hnodup⟩ :=
    group_names (show report.group = .ok _ from rfl)
  have hplain : ∀ test ∈ report.tests, test.name.toList.head? ≠ some '/' := by decide
  refine ⟨_, rfl, hnodup.mp hplain, fun group hgroup => ?_⟩
  rw [← hnodes, List.mem_map] at hgroup
  obtain ⟨⟨path, group⟩, hnode, rfl⟩ := hgroup
  exact (hfind path group hnode (hpaths.mp hplain _ (List.mem_map_of_mem hnode))).2.2

/-- A test whose name begins with a slash stands below a group that has the name of the root, in a
group that is found neither by its path nor by its name. -/
theorem names_of_leading_slash :
    let report : Report := ⟨"r", 1, none, [⟨"/x/t", .success, []⟩], []⟩
    ∃ grouped, report.group = .ok grouped ∧
      grouped.root.nodes.map (fun node => (node.1, node.2.name))
        = [([], ""), ([""], ""), (["", "x"], "x")] ∧
      grouped.root.find? "/x" = none ∧ grouped.root.find? "x" = none := by
  intro report
  have hsorted : sortTests report.tests = report.tests := List.mergeSort_singleton _
  refine ⟨⟨report.id, 1, .ofJson? none, .ofSorted report.tests, []⟩, ?_, ?_, ?_, ?_⟩
  · rw [← hsorted]
    rfl
  · decide
  · rfl
  · rfl

end ReportRelay
