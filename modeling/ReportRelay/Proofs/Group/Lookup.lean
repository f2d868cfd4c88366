/-
# The search for a group follows its path

A text that does not begin with a slash is cut into the segments of a path, and the search from the
root of a tree goes to the group that stands there, or finds nothing if no directory of a test leads
there (`IsTrie.find?_eq_some_iff_segments`).

A group that has been found this way is named in full, and so are the groups below it.  The search
that starts from it goes the rest of the way: it finds what the search from the root does, if the
text leads through the group, and nothing otherwise (`IsTrie.find?_from`).
-/
import ReportRelay.Proofs.Group.Names

namespace ReportRelay

/-- The path of a text begins with an empty segment if there is nothing before the first slash. -/
theorem head?_segments_eq_empty (name : String) :
    (segments name).head? = some "" ↔ name = "" ∨ name.toList.head? = some '/' := by
  rw [segments, ← String.toList_inj]
  cases hname : name.toList with
  | nil => simp [splitSlashes]
  | cons c rest =>
      rw [splitSlashes]
      by_cases hc : c = '/'
      · simp [hc]
      · rw [if_neg hc]
        cases splitSlashes rest <;> simp [hc]

namespace TestGroup

variable {tests : List TestResult} {path : List String} {group : TestGroup}

/-- A name leads to the texts that it is, or that go on from it after a slash. -/
theorem leadsTo_eq_true_iff (name text : String) :
    leadsTo name.toList text.toList = true
      ↔ text = name ∨ name.toList ++ ['/'] <+: text.toList := by
  rw [leadsTo, Bool.or_eq_true, beq_iff_eq, List.isPrefixOf_iff_prefix, String.toList_inj]

namespace IsTrie

/-! ## Subtrees by their paths -/

/-- The groups below a group of a tree are in the tree. -/
theorem mem_nodesAt_trans (h : IsTrie tests path group) {node below : List String × TestGroup}
    (hnode : node ∈ nodesAt path group) (hmem : below ∈ nodesAt node.1 node.2) :
    below ∈ nodesAt path group := by
  induction h with
  | @intro path group htests hgroups hbelow ih =>
      have htrie : IsTrie tests path group := intro htests hgroups hbelow
      rw [nodesAt_eq, List.mem_cons, List.mem_flatMap] at hnode
      rcases hnode with rfl | ⟨child, hchild, hnode⟩
      · exact hmem
      · exact mem_nodesAt_of_child hchild
          (ih child hchild _ (htrie.childName_segmentBelow hchild) hnode)

/-- The groups below a group of a tree are those at the paths that go on from its path. -/
theorem mem_nodesAt_iff (h : IsTrie tests path group) {node : List String × TestGroup}
    (hnode : node ∈ nodesAt path group) {below : List String × TestGroup} :
    below ∈ nodesAt node.1 node.2 ↔ below ∈ nodesAt path group ∧ node.1 <+: below.1 := by
  have htrie := h.of_mem_nodesAt hnode
  constructor
  · intro hmem
    exact ⟨h.mem_nodesAt_trans hnode hmem,
      htrie.prefix_of_mem_paths (List.mem_map_of_mem hmem)⟩
  · rintro ⟨hmem, rest, hrest⟩
    -- some group stands at that path below the group, and only one does so in the tree
    have hpath : below.1 ∈ (nodesAt node.1 node.2).map Prod.fst := by
      rw [htrie.mem_paths]
      cases rest with
      | nil => exact Or.inl (by rw [← hrest, List.append_nil])
      | cons segment rest =>
          refine Or.inr ⟨segment, rest, hrest.symm, ?_⟩
          rcases h.mem_paths.mp (List.mem_map_of_mem hmem) with heq | ⟨-, -, -, hdir⟩
          · have hlength := (h.prefix_of_mem_paths (List.mem_map_of_mem hnode)).length_le
            have hlonger := congrArg List.length hrest
            rw [heq, List.length_append, List.length_cons] at hlonger
            omega
          · exact hdir
    obtain ⟨other, hother, heq⟩ := List.mem_map.mp hpath
    obtain rfl := List.inj_on_of_nodup_map h.nodup_paths (h.mem_nodesAt_trans hnode hother) hmem heq
    exact hother

/-! ## The search from the root -/

/-- **The search from the root goes to the group at the path of the text.** -/
theorem find?_eq_some_iff_segments (h : IsTrie tests [] group) (hname : group.name = "")
    {text : String} (hne : text ≠ "") (hslash : text.toList.head? ≠ some '/') {found : TestGroup} :
    find? text group = some found ↔ (segments text, found) ∈ nodesAt [] group := by
  rw [h.find?_eq_some_iff hname]
  constructor
  · rintro ⟨other, hother, -, rfl⟩
    have hother' : other ≠ [] := fun hnil => hne (by rw [hnil, String.intercalate_nil])
    rwa [segments_intercalate hother' (h.slash_notMem (by simp) (List.mem_map_of_mem hother))]
  · intro hmem
    refine ⟨segments text, hmem, ?_, (intercalate_segments text).symm⟩
    rw [Ne, head?_segments_eq_empty, not_or]
    exact ⟨hne, hslash⟩

/-- There is a group to be found if the path of the text leads to the directory of a test. -/
theorem isSome_find?_iff (h : IsTrie tests [] group) (hname : group.name = "")
    {text : String} (hne : text ≠ "") (hslash : text.toList.head? ≠ some '/') :
    (find? text group).isSome = true ↔ ∃ test ∈ tests, segments text <+: directory test.name := by
  have hpath : (find? text group).isSome = true
      ↔ segments text ∈ (nodesAt [] group).map Prod.fst := by
    rw [Option.isSome_iff_exists, List.mem_map]
    constructor
    · rintro ⟨found, hfound⟩
      exact ⟨_, (h.find?_eq_some_iff_segments hname hne hslash).mp hfound, rfl⟩
    · rintro ⟨⟨other, found⟩, hmem, rfl⟩
      exact ⟨found, (h.find?_eq_some_iff_segments hname hne hslash).mpr hmem⟩
  obtain ⟨segment, rest, hsegments⟩ := List.exists_cons_of_ne_nil (segments_ne_nil text)
  rw [hpath, h.mem_paths, hsegments]
  constructor
  · rintro (hnil | ⟨-, -, -, hdir⟩)
    · cases hnil
    · exact hdir
  · exact fun hdir => Or.inr ⟨segment, rest, rfl, hdir⟩

/-! ## The search from another group -/

/-- The search from a group below the root that is named in full goes to the group at the path of
the text as well, if that stands below the group. -/
theorem find?_below_iff (h : IsTrie tests path group)
    (hname : group.name = "/".intercalate path) (hpath : ∀ segment ∈ path, '/' ∉ segment.toList)
    (hne : path ≠ []) (hhead : path.head? ≠ some "") {text : String} {found : TestGroup} :
    find? text group = some found ↔ (segments text, found) ∈ nodesAt path group := by
  have hheads : ∀ {other : List String}, (other, found) ∈ nodesAt path group →
      other.head? ≠ some "" := by
    intro other hother
    obtain ⟨rest, rfl⟩ := h.prefix_of_mem_paths (List.mem_map_of_mem hother)
    rwa [List.head?_append_of_ne_nil _ hne]
  have hfull : group.name = "/".intercalate (path.dropWhile (· = "")) := by
    rw [dropWhile_of_head?_ne hhead, hname]
  constructor
  · intro hfound
    obtain ⟨hfoundName, other, hother⟩ := h.of_find? hfound
    have hotherNe : other ≠ [] := by
      rintro rfl
      exact hne (List.prefix_nil.mp (h.prefix_of_mem_paths (List.mem_map_of_mem hother)))
    rwa [← hfoundName, h.name_eq hfull hother, dropWhile_of_head?_ne (hheads hother),
      segments_intercalate hotherNe (h.slash_notMem hpath (List.mem_map_of_mem hother))]
  · intro hmem
    have hfind := h.find?_of_mem hname hpath hmem (hheads hmem)
    rwa [intercalate_segments] at hfind

/-- **The search from a group that was found from the root finds what the search from the root
does, if the text leads through the group**, and nothing otherwise. -/
theorem find?_from (h : IsTrie tests [] group) (hname : group.name = "") {name : String}
    {found : TestGroup} (hfound : find? name group = some found) (hne : found ≠ group)
    (text : String) :
    find? text found
      = if text = found.name ∨ found.name.toList ++ ['/'] <+: text.toList then find? text group
        else none := by
  obtain ⟨other, hother, hhead, rfl⟩ := (h.find?_eq_some_iff hname).mp hfound
  have hotherNe : other ≠ [] := by
    rintro rfl
    have hroot := List.inj_on_of_nodup_map h.nodup_paths hother (mem_nodesAt_self [] group) rfl
    exact hne (congrArg Prod.snd hroot)
  have hslash := h.slash_notMem (by simp) (List.mem_map_of_mem hother)
  have hfoundName : found.name = "/".intercalate other := (h.of_find? hfound).1
  have htrie : IsTrie tests other found := h.of_mem_nodesAt hother
  -- the text leads through the group if its segments go on from the path of the group
  have hleads : text = found.name ∨ found.name.toList ++ ['/'] <+: text.toList
      ↔ other <+: segments text := by
    rw [← leadsTo_eq_true_iff, leadsTo_iff, hfoundName, segments_intercalate hotherNe hslash]
  apply Option.ext
  intro below
  rw [htrie.find?_below_iff hfoundName hslash hotherNe hhead, h.mem_nodesAt_iff hother]
  by_cases hthrough : other <+: segments text
  · -- such a text is not empty, and does not begin with a slash
    have hplain : ¬(segments text).head? = some "" := by
      obtain ⟨rest, hrest⟩ := hthrough
      rwa [← hrest, List.head?_append_of_ne_nil _ hotherNe]
    rw [head?_segments_eq_empty, not_or] at hplain
    rw [if_pos (hleads.mpr hthrough), h.find?_eq_some_iff_segments hname hplain.1 hplain.2]
    exact and_iff_left hthrough
  · rw [if_neg (fun hor => hthrough (hleads.mp hor))]
    constructor
    · exact fun hmem => absurd hmem.2 hthrough
    · intro hnone
      cases hnone

end IsTrie

end TestGroup

/-! ## Grouped reports -/

/-- **The search goes exactly to the group at the path of the text.**  Only the empty text finds
the root.  Any other text that does not begin with a slash finds the group that stands at its
segments, and there is one if these begin the directory of some test.  From a group below the root
that was found, a text finds what it does from the root, if it is the name of the group or goes on
from it after a slash, and nothing otherwise. -/
theorem find_segments {report : Report} {grouped : GroupedReport}
    (h : report.group = .ok grouped) :
    let root := grouped.root
    (∀ text, root.find? text = some root ↔ text = "") ∧
    (∀ text found, text ≠ "" → text.toList.head? ≠ some '/' →
      (root.find? text = some found ↔ (segments text, found) ∈ root.nodes)) ∧
    (∀ text, text ≠ "" → text.toList.head? ≠ some '/' →
      ((root.find? text).isSome = true
        ↔ ∃ test ∈ report.tests, segments text <+: directory test.name)) ∧
    ∀ name group, root.find? name = some group → group ≠ root → group.name = name ∧ ∀ text,
      group.find? text
        = if text = group.name ∨ group.name.toList ++ ['/'] <+: text.toList then root.find? text
          else none := by
  intro root
  have htrie : TestGroup.IsTrie (sortTests report.tests) [] root := Report.isTrie_root h
  have hname : root.name = "" := by
    show grouped.root.name = ""
    rw [Report.root_eq h]
    exact TestGroup.ofSorted_name _
  refine ⟨fun text => ⟨fun hfound => ?_, ?_⟩, fun text found hne hslash => ?_,
    fun text hne hslash => ?_, fun name group hgroup hne => ?_⟩
  · rw [← (htrie.of_find? hfound).1, hname]
  · rintro rfl
    rw [TestGroup.find?_eq, if_pos hname.symm]
  · exact htrie.find?_eq_some_iff_segments hname hne hslash
  · rw [htrie.isSome_find?_iff hname hne hslash]
    simp only [(sortTests_perm report.tests).mem_iff]
  · exact ⟨(htrie.of_find? hgroup).1, htrie.find?_from hname hgroup hne⟩

/-- Among names that are prefixes of each other, differ in case, have empty segments or begin with a
slash, a text finds the group of its own segments, from the root and from a group on the way. -/
theorem find_segments_of_similar_names :
    let report : Report := ⟨"r", 1, none,
      [⟨"a/b/t", .success, []⟩, ⟨"ab/t", .failed, []⟩, ⟨"A/b/t", .skipped, []⟩,
        ⟨"a//é/t", .success, []⟩, ⟨"/a/t", .failed, []⟩], []⟩
    ∃ grouped, report.group = .ok grouped ∧
      (grouped.root.find? "a//é").isSome = true ∧ (grouped.root.find? "a/é").isSome = false ∧
      ∃ group, grouped.root.find? "a" = some group ∧ (["a"], group) ∈ grouped.root.nodes ∧
        group.find? "a//é" = grouped.root.find? "a//é" ∧ group.find? "ab" = none := by
  intro report
  obtain ⟨grouped, hgrouped⟩ : ∃ grouped, report.group = .ok grouped := ⟨_, rfl⟩
  obtain ⟨hroot, hfind, hsome, hfrom⟩ := find_segments hgrouped
  have hdeep := (hsome "a//é" (by decide) (by decide)).mpr (by decide)
  have hnone := mt (hsome "a/é" (by decide) (by decide)).mp (by decide)
  obtain ⟨group, hgroup⟩ :=
    Option.isSome_iff_exists.mp ((hsome "a" (by decide) (by decide)).mpr (by decide))
  have hne : group ≠ grouped.root := by
    rintro rfl
    exact absurd ((hroot "a").mp hgroup) (by decide)
  obtain ⟨hname, hbelow⟩ := hfrom "a" group hgroup hne
  refine ⟨grouped, hgrouped, hdeep, Bool.eq_false_iff.mpr hnone, group, hgroup,
    (hfind "a" group (by decide) (by decide)).mp hgroup, ?_, ?_⟩
  · rw [hbelow, hname, if_pos (by decide)]
  · rw [hbelow, hname, if_neg (by decide)]

end ReportRelay
