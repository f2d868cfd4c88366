/-
# Grouping does not depend on the order of submission

The tests of one name stand in the sorted list as they were submitted, and tests of different
names as their names ask for.  So the sorted list depends only on what the tests of each name
are and on their order among themselves (`sortTests_congr`).

The tree holds all tests of one name in one group, where they keep that order.  So its tests,
listed group by group, are as good as those that were submitted: grouping them again gives the
same tree.
-/
import ReportRelay.Proofs.Group.Nodes

namespace ReportRelay

/-- The tests of a name, in their order. -/
def testsOf (name : String) (tests : List TestResult) : List TestResult :=
  tests.filter fun test => test.name = name

@[simp] theorem testsOf_cons (name : String) (test : TestResult) (tests : List TestResult) :
    testsOf name (test :: tests)
      = if test.name = name then test :: testsOf name tests else testsOf name tests := by
  simp only [testsOf, List.filter_cons, decide_eq_true_eq]

/-- The tests of a name have that name. -/
theorem mem_testsOf {name : String} {test : TestResult} {tests : List TestResult} :
    test ∈ testsOf name tests ↔ test ∈ tests ∧ test.name = name := by
  rw [testsOf, List.mem_filter, decide_eq_true_eq]

/-! ## Sorting -/

/-- Sorting leaves the tests of a name in their order, whatever the folding. -/
theorem testsOf_mergeSort (fold : Char → List Char) (name : String) (tests : List TestResult) :
    testsOf name (tests.mergeSort fun a b => NameOrder.precedes fold a.name b.name)
      = testsOf name tests := by
  -- tests of one name are in order already, so a stable sort keeps them as a sublist
  have hsorted : (testsOf name tests).Pairwise fun a b =>
      NameOrder.precedes fold a.name b.name = true := by
    apply List.pairwise_of_forall_mem_list
    intro a ha b hb
    rw [(mem_testsOf.mp ha).2, (mem_testsOf.mp hb).2]
    exact NameOrder.precedes_self fold name
  have hsublist : (testsOf name tests).Sublist
      (tests.mergeSort fun a b => NameOrder.precedes fold a.name b.name) :=
    List.sublist_mergeSort (NameOrder.byName_trans fold) (NameOrder.byName_total fold) hsorted
      List.filter_sublist
  have hfiltered := hsublist.filter fun test => decide (test.name = name)
  have hagain : (testsOf name tests).filter (fun test => decide (test.name = name))
      = testsOf name tests := by
    rw [testsOf, List.filter_filter]
    simp only [Bool.and_self]
  rw [hagain] at hfiltered
  apply Eq.symm
  apply hfiltered.eq_of_length
  exact (((List.mergeSort_perm tests _).filter _).length_eq).symm

/-- Sorting leaves the tests of a name in their order. -/
theorem testsOf_sortTests (name : String) (tests : List TestResult) :
    testsOf name (sortTests tests) = testsOf name tests :=
  testsOf_mergeSort Text.lower name tests

/-- Tests in order are determined by the tests of each name, whatever the folding. -/
theorem eq_of_testsOf_eq {fold : Char → List Char} {tests others : List TestResult}
    (htests : tests.Pairwise fun a b => NameOrder.precedes fold a.name b.name = true)
    (hothers : others.Pairwise fun a b => NameOrder.precedes fold a.name b.name = true)
    (h : ∀ name, testsOf name tests = testsOf name others) : tests = others := by
  induction tests generalizing others with
  | nil =>
      cases others with
      | nil => rfl
      | cons other others =>
          have hname := h other.name
          simp [testsOf] at hname
  | cons test tests ih =>
      cases others with
      | nil =>
          have hname := h test.name
          simp [testsOf] at hname
      | cons other others =>
          rw [List.pairwise_cons] at htests hothers
          -- each of the first tests occurs in the other list, and so may not stand after its first
          have hfirst : test.name = other.name := by
            apply NameOrder.precedes_antisymm fold
            · have hmem : other ∈ testsOf other.name (test :: tests) := by
                rw [h other.name]
                exact mem_testsOf.mpr ⟨List.mem_cons_self, rfl⟩
              rcases List.mem_cons.mp (mem_testsOf.mp hmem).1 with heq | hmem
              · rw [heq]
                exact NameOrder.precedes_self fold _
              · exact htests.1 other hmem
            · have hmem : test ∈ testsOf test.name (other :: others) := by
                rw [← h test.name]
                exact mem_testsOf.mpr ⟨List.mem_cons_self, rfl⟩
              rcases List.mem_cons.mp (mem_testsOf.mp hmem).1 with heq | hmem
              · rw [heq]
                exact NameOrder.precedes_self fold _
              · exact hothers.1 test hmem
          have hheads := h other.name
          rw [testsOf_cons, testsOf_cons, if_pos hfirst, if_pos rfl, List.cons.injEq] at hheads
          obtain ⟨rfl, -⟩ := hheads
          rw [ih htests.2 hothers.2 fun name => ?_]
          have hname := h name
          rw [testsOf_cons, testsOf_cons] at hname
          by_cases hother : test.name = name
          · rw [if_pos hother, if_pos hother] at hname
            exact (List.cons.inj hname).2
          · rwa [if_neg hother, if_neg hother] at hname

/-- **Sorting depends only on the tests of each name.** -/
theorem sortTests_congr {tests others : List TestResult}
    (h : ∀ name, testsOf name tests = testsOf name others) :
    sortTests tests = sortTests others := by
  apply eq_of_testsOf_eq (sortTests_pairwise tests) (sortTests_pairwise others)
  intro name
  rw [testsOf_sortTests, testsOf_sortTests, h]

/-- A report is grouped by its sorted tests alone, whatever else is the same. -/
theorem Report.group_congr (report : Report) {tests : List TestResult}
    (h : sortTests tests = sortTests report.tests) :
    Report.group { report with tests := tests } = report.group := by
  unfold Report.group
  rw [h]

/-! ## The tests of a tree -/

namespace TestGroup

/-- Taking a list for one of several different keys takes it at most once. -/
theorem flatMap_ite_eq {keys : List (List String)} (hnodup : keys.Nodup) (key : List String)
    (items : List TestResult) :
    (keys.flatMap fun k => if key = k then items else []) = if key ∈ keys then items else [] := by
  induction keys with
  | nil => rfl
  | cons k keys ih =>
      rw [List.nodup_cons] at hnodup
      rw [List.flatMap_cons, ih hnodup.2]
      by_cases hk : key = k
      · subst hk
        rw [if_pos rfl, if_neg hnodup.1, if_pos List.mem_cons_self, List.append_nil]
      · simp [hk]

/-- The tests of one name stand in one group of a trie, in their order. -/
theorem IsTrie.testsOf_allTests {tests : List TestResult} {group : TestGroup}
    (h : IsTrie tests [] group) (name : String) :
    testsOf name group.allTests = testsOf name tests := by
  have hgroup : ∀ path : List String,
      (tests.filter fun test => directory test.name = path).filter
          (fun test => decide (test.name = name))
        = if directory name = path then testsOf name tests else [] := by
    intro path
    rw [List.filter_filter]
    split
    · next hdir =>
        apply List.filter_congr
        intro test _
        by_cases hname : test.name = name <;> simp [hname, hdir]
    · next hdir =>
        apply List.filter_eq_nil_iff.mpr
        intro test _
        by_cases hname : test.name = name <;> simp [hname, hdir]
  rw [h.allTests_eq_flatMap, testsOf, List.filter_flatMap]
  simp only [hgroup]
  rw [flatMap_ite_eq h.nodup_paths]
  split
  · rfl
  · next hnot =>
      -- a test of the name would have its directory among the paths
      apply Eq.symm
      apply List.filter_eq_nil_iff.mpr
      intro test htest hname
      apply hnot
      rw [← of_decide_eq_true hname]
      exact h.directory_mem_paths htest

end TestGroup

/-! ## Grouped reports -/

/-- **Grouping does not depend on the order in which tests of different names are submitted.**
Two reports that differ in their tests only, and have the same tests of each name in the same
order, are grouped alike.  In particular, so is a report with the tests of its tree, listed group
by group, each group before those below it. -/
theorem group_of_reordered (report : Report) {tests : List TestResult}
    (h : ∀ name, testsOf name tests = testsOf name report.tests) :
    tests.Perm report.tests ∧
      Report.group { report with tests := tests } = report.group ∧
      ∀ grouped, report.group = .ok grouped →
        Report.group { report with tests := grouped.root.preorder.flatMap TestGroup.tests }
          = .ok grouped := by
  have hsorted : sortTests tests = sortTests report.tests := sortTests_congr h
  refine ⟨?_, report.group_congr hsorted, fun grouped hgrouped => ?_⟩
  · apply (sortTests_perm tests).symm.trans
    rw [hsorted]
    exact sortTests_perm report.tests
  · rw [← hgrouped]
    apply report.group_congr
    apply sortTests_congr
    intro name
    have htrie : TestGroup.IsTrie (sortTests report.tests) [] grouped.root := by
      rw [Report.root_eq hgrouped]
      exact TestGroup.isTrie_ofSorted _
    show testsOf name grouped.root.allTests = _
    rw [htrie.testsOf_allTests, testsOf_sortTests]

/-- Two tests of one name between tests of other names may change places with those, but not
with each other. -/
theorem group_of_reordered_pair :
    let report : Report := ⟨"r", 1, none,
      [⟨"b/t", .success, []⟩, ⟨"a", .failed, []⟩, ⟨"B/t", .skipped, []⟩, ⟨"a", .success, []⟩], []⟩
    let tests : List TestResult :=
      [⟨"a", .failed, []⟩, ⟨"a", .success, []⟩, ⟨"B/t", .skipped, []⟩, ⟨"b/t", .success, []⟩]
    (∀ name, testsOf name tests = testsOf name report.tests) ∧
      Report.group { report with tests := tests } = report.group ∧
      ∃ grouped, report.group = .ok grouped ∧
        Report.group { report with tests := grouped.root.preorder.flatMap TestGroup.tests }
          = .ok grouped := by
  intro report tests
  have hsame : ∀ name, testsOf name tests = testsOf name report.tests := by
    intro name
    by_cases ha : "a" = name
    · subst ha
      rfl
    · by_cases hb : "b/t" = name
      · subst hb
        rfl
      · by_cases hB : "B/t" = name <;> simp [tests, report, ha, hb, hB]
  obtain ⟨-, hgroup, htree⟩ := group_of_reordered report hsame
  exact ⟨hsame, hgroup, _, rfl, htree _ rfl⟩

end ReportRelay
