/-
# What the status of a group says of its tests

A group has the status of its counts, and these are the counts of the tests of its subtree.  So its
status tells how these tests came out, and that is told as well by its own tests and the statuses of
the groups below it: a failed test shows in every group on the way to it, and a group is all of one
other outcome if its tests and groups are.
-/
import ReportRelay.Proofs.Group.Sweep

namespace ReportRelay

/-- The status of groups of which all tests have an outcome. -/
def TestStatus.asGroup : TestStatus → GroupStatus
  | success => .success
  | failed => .failed
  | skipped => .skipped

/-- A status sums up tests: it says whether there are any, whether some have failed, and whether
they are all of one other outcome. -/
structure GroupStatus.SumsUp (status : GroupStatus) (tests : List TestResult) : Prop where
  failed : status = .failed ↔ ∃ test ∈ tests, test.status = .failed
  skipped : status = .skipped ↔ tests ≠ [] ∧ ∀ test ∈ tests, test.status = .skipped
  warning : status = .warning ↔ (∀ test ∈ tests, test.status ≠ .failed) ∧
    (∃ test ∈ tests, test.status = .skipped) ∧ ∃ test ∈ tests, test.status = .success
  success : status = .success ↔ tests ≠ [] ∧ ∀ test ∈ tests, test.status = .success
  unknown : status = .unknown ↔ tests = []

/-! ## The status of counts -/

namespace Tally

variable {t : Tally}

/-- Where nothing is counted, the status is unknown. -/
theorem status_eq_unknown_iff : t.status = .unknown ↔ t.tests = 0 := by
  rw [status]
  split_ifs <;> simp_all

/-- One failed test makes a failure. -/
theorem AddsUp.status_eq_failed_iff (h : t.AddsUp) : t.status = .failed ↔ 0 < t.count .failed := by
  have htests := h.tests
  rw [status, count]
  split_ifs <;> simp <;> omega

/-- Tests of one outcome, but for failed ones, make the status of that outcome only if there are no
others. -/
theorem AddsUp.status_eq_asGroup_iff (h : t.AddsUp) {outcome : TestStatus}
    (houtcome : outcome ≠ .failed) :
    t.status = outcome.asGroup ↔ 0 < t.tests ∧ t.count outcome = t.tests := by
  have htests := h.tests
  rw [status]
  cases outcome with
  | failed => exact absurd rfl houtcome
  | success | skipped => split_ifs <;> simp [TestStatus.asGroup, count] <;> omega

/-- Skipped tests among others, none of which has failed, make a warning. -/
theorem AddsUp.status_eq_warning_iff (h : t.AddsUp) :
    t.status = .warning ↔ t.count .failed = 0 ∧ 0 < t.count .skipped ∧ 0 < t.count .success := by
  have htests := h.tests
  rw [status, count, count, count]
  split_ifs <;> simp <;> omega

end Tally

namespace TestGroup

variable {group : TestGroup}

/-! ## The status of a group -/

/-- Every group of a settled tree has the status of its counts. -/
theorem status_of_mem_settle (group : TestGroup) :
    ∀ below ∈ group.settle.preorder, below.status = below.tally.status := by
  intro below hbelow
  rw [preorder_settle, List.mem_map] at hbelow
  obtain ⟨old, -, rfl⟩ := hbelow
  cases old
  rfl

namespace Conserves

/-- A count is not zero if the subtree has a test of that outcome. -/
theorem count_pos_iff (h : group.Conserves) (outcome : TestStatus) :
    0 < group.tally.count outcome ↔ ∃ test ∈ group.allTests, test.status = outcome := by
  rw [h.count_allTests, List.countP_pos_iff]
  simp only [decide_eq_true_eq]

/-- A group counts a test if its subtree has one. -/
theorem tests_pos_iff (h : group.Conserves) : 0 < group.tally.tests ↔ group.allTests ≠ [] := by
  rw [h.tests_eq_length, List.length_pos_iff]

/-- A group counts its tests under one outcome if all tests of the subtree have it. -/
theorem count_eq_tests_iff (h : group.Conserves) (outcome : TestStatus) :
    group.tally.count outcome = group.tally.tests
      ↔ ∀ test ∈ group.allTests, test.status = outcome := by
  rw [h.count_allTests, h.tests_eq_length, List.countP_eq_length]
  simp only [decide_eq_true_eq]

/-- The counts of a group are a failure if some test of the subtree has failed. -/
theorem status_eq_failed_iff (h : group.Conserves) :
    group.tally.status = .failed ↔ ∃ test ∈ group.allTests, test.status = .failed := by
  rw [h.addsUp.status_eq_failed_iff, h.count_pos_iff]

/-- The counts of a group have the status of another outcome if all tests of the subtree have the
outcome, and there are some. -/
theorem status_eq_asGroup_iff (h : group.Conserves) {outcome : TestStatus}
    (houtcome : outcome ≠ .failed) :
    group.tally.status = outcome.asGroup
      ↔ group.allTests ≠ [] ∧ ∀ test ∈ group.allTests, test.status = outcome := by
  rw [h.addsUp.status_eq_asGroup_iff houtcome, h.tests_pos_iff, h.count_eq_tests_iff]

/-- **The status of the counts of a group sums up the tests of its subtree.** -/
theorem sumsUp (h : group.Conserves) : group.tally.status.SumsUp group.allTests where
  failed := h.status_eq_failed_iff
  skipped := h.status_eq_asGroup_iff (by decide : TestStatus.skipped ≠ .failed)
  warning := by
    have hnone : group.tally.count .failed = 0
        ↔ ∀ test ∈ group.allTests, test.status ≠ .failed := by
      rw [h.count_allTests, List.countP_eq_zero]
      simp only [decide_eq_true_eq]
    rw [h.addsUp.status_eq_warning_iff, h.count_pos_iff, h.count_pos_iff, hnone]
  success := h.status_eq_asGroup_iff (by decide : TestStatus.success ≠ .failed)
  unknown := by
    rw [Tally.status_eq_unknown_iff, h.tests_eq_length, List.length_eq_zero_iff]

/-! ## The statuses of the groups below -/

/-- The counts of a group with tests have the status of an outcome, but for a failure, if its own
tests have the outcome and the groups below it the status. -/
theorem status_eq_asGroup_iff_below (h : group.Conserves) (hne : group.allTests ≠ [])
    {outcome : TestStatus} (houtcome : outcome ≠ .failed) :
    group.tally.status = outcome.asGroup
      ↔ (∀ test ∈ group.tests, test.status = outcome) ∧
        ∀ child ∈ group.groups, child.tally.status = outcome.asGroup := by
  rw [h.status_eq_asGroup_iff houtcome, and_iff_right hne, allTests_eq, List.forall_mem_append,
    List.forall_mem_flatMap]
  cases h with
  | intro haddsUp hcount hpos hbelow =>
      apply and_congr_right'
      apply forall₂_congr
      intro child hchild
      have htests := (hbelow child hchild).tests_pos_iff.mp (hpos child hchild)
      rw [(hbelow child hchild).status_eq_asGroup_iff houtcome, and_iff_right htests]

end Conserves

mutual

/-- The groups below a group of a tree are groups of the tree. -/
theorem preorder_subset {group below : TestGroup} (h : below ∈ group.preorder) :
    below.preorder ⊆ group.preorder := by
  cases group with
  | mk name status tally tests groups =>
      rw [preorder, List.mem_cons] at h
      rcases h with rfl | h
      · exact List.Subset.refl _
      · rw [preorder]
        exact List.subset_cons_of_subset _ (preorderAll_subset h)

/-- The groups below a group of trees are groups of the trees. -/
theorem preorderAll_subset {groups : List TestGroup} {below : TestGroup}
    (h : below ∈ preorderAll groups) : below.preorder ⊆ preorderAll groups := by
  cases groups with
  | nil => cases h
  | cons group groups =>
      rw [preorderAll, List.mem_append] at h
      rw [preorderAll]
      rcases h with h | h
      · exact List.subset_append_of_subset_left _ (preorder_subset h)
      · exact List.subset_append_of_subset_right _ (preorderAll_subset h)

end

/-- The groups of the list of a group are groups of its tree. -/
theorem mem_preorder_of_child {child : TestGroup} (h : child ∈ group.groups) :
    child ∈ group.preorder := by
  rw [preorder_eq]
  apply List.mem_cons_of_mem
  rw [List.mem_flatMap]
  refine ⟨child, h, ?_⟩
  rw [preorder_eq]
  exact List.mem_cons_self

/-- The tests below a group of a tree are tests of the tree. -/
theorem allTests_subset {below : TestGroup} (h : below ∈ group.preorder) :
    below.allTests ⊆ group.allTests := by
  intro test htest
  rw [allTests, List.mem_flatMap] at htest ⊢
  obtain ⟨other, hother, htest⟩ := htest
  exact ⟨other, preorder_subset h hother, htest⟩

/-- A failed test shows in every group on the way to it. -/
theorem Conserves.status_eq_failed_of_below (h : group.Conserves) {below : TestGroup}
    (hbelow : below ∈ group.preorder) (hfailed : below.tally.status = .failed) :
    group.tally.status = .failed := by
  rw [(h.of_mem_preorder below hbelow).status_eq_failed_iff] at hfailed
  obtain ⟨test, htest, hfailed⟩ := hfailed
  exact h.status_eq_failed_iff.mpr ⟨test, allTests_subset hbelow htest, hfailed⟩

end TestGroup

/-! ## Grouped reports -/

/-- **The status of a group sums up the tests of its subtree.**  It is given to every group by a
pass with a stack that begins at the root.  It is unknown only for the root of a report without
tests.  A group is failed if one below it is; if it has tests, it is successful or skipped if all
its own tests and all groups below it are. -/
theorem group_statuses {report : Report} {grouped : GroupedReport}
    (h : report.group = .ok grouped) :
    let root := grouped.root
    let inserted := (sortTests report.tests).foldl TestGroup.insert (.fresh "")
    (root = inserted.sweep [[]] ∧ ∀ group ∈ root.preorder, group.status = group.tally.status) ∧
    (∀ group ∈ root.preorder, group.status.SumsUp group.allTests) ∧
    ((∀ group ∈ root.preorder.tail, group.allTests ≠ []) ∧
      (root.allTests = [] ↔ report.tests = [])) ∧
    ∀ group ∈ root.preorder,
      (∀ below ∈ group.preorder, below.status = .failed → group.status = .failed) ∧
      (group.allTests ≠ [] →
        (group.status = .success
          ↔ (∀ test ∈ group.tests, test.status = .success) ∧
            ∀ child ∈ group.groups, child.status = .success) ∧
        (group.status = .skipped
          ↔ (∀ test ∈ group.tests, test.status = .skipped) ∧
            ∀ child ∈ group.groups, child.status = .skipped)) := by
  intro root inserted
  have hroot : root = inserted.settle := Report.root_eq h
  have hconserves : root.Conserves := by
    rw [hroot]
    exact (TestGroup.conserves_ofSorted _).1
  have hbelow := hconserves.of_mem_preorder
  have hstatus : ∀ group ∈ root.preorder, group.status = group.tally.status := by
    rw [hroot]
    exact TestGroup.status_of_mem_settle inserted
  have hlength : root.tally.tests = report.tests.length := by
    rw [hroot]
    exact (TestGroup.conserves_ofSorted _).2.trans (sortTests_perm report.tests).length_eq
  refine ⟨⟨?_, hstatus⟩, fun group hgroup => ?_, ⟨fun group hgroup => ?_, ?_⟩,
    fun group hgroup => ⟨fun below hmem => ?_, fun hne => ?_⟩⟩
  · rw [TestGroup.sweep_root, hroot]
  · rw [hstatus group hgroup]
    exact (hbelow group hgroup).sumsUp
  · apply (hbelow group (List.mem_of_mem_tail hgroup)).tests_pos_iff.mp
    exact hconserves.pos_of_mem_tail group hgroup
  · rw [← List.length_eq_zero_iff, ← hconserves.tests_eq_length, hlength, List.length_eq_zero_iff]
  · rw [hstatus group hgroup, hstatus below (TestGroup.preorder_subset hgroup hmem)]
    exact (hbelow group hgroup).status_eq_failed_of_below hmem
  · -- the groups below have the status of their counts too
    have hchildren : ∀ status : GroupStatus, (∀ child ∈ group.groups, child.status = status)
        ↔ ∀ child ∈ group.groups, child.tally.status = status := by
      intro status
      apply forall₂_congr
      intro child hchild
      rw [hstatus child
        (TestGroup.preorder_subset hgroup (TestGroup.mem_preorder_of_child hchild))]
    have hall : ∀ outcome : TestStatus, outcome ≠ .failed →
        (group.status = outcome.asGroup ↔ (∀ test ∈ group.tests, test.status = outcome) ∧
          ∀ child ∈ group.groups, child.status = outcome.asGroup) := by
      intro outcome houtcome
      rw [hstatus group hgroup, hchildren]
      exact (hbelow group hgroup).status_eq_asGroup_iff_below hne houtcome
    exact ⟨hall .success (by decide), hall .skipped (by decide)⟩

/-- A failed test makes the root failed, while the group beside it has only a warning, and the one
below that is skipped. -/
theorem group_statuses_of_mixed_outcomes :
    let report : Report := ⟨"r", 1, none,
      [⟨"a/b/t", .skipped, []⟩, ⟨"a/t", .success, []⟩, ⟨"c/t", .failed, []⟩], []⟩
    ∃ grouped, report.group = .ok grouped ∧
      grouped.root.preorder.map (fun group => (group.name, group.status))
        = [("", .failed), ("a", .warning), ("a/b", .skipped), ("c", .failed)] ∧
      ∀ group ∈ grouped.root.preorder, group.status.SumsUp group.allTests := by
  intro report
  have hgroup := Report.group_of_sorted (show checkVersion report.minversion = .ok () from rfl)
    (show report.tests.Pairwise _ by decide)
  exact ⟨_, hgroup, by decide, (group_statuses hgroup).2.1⟩

end ReportRelay
