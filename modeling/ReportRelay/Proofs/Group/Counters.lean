/-
# The counts of groups are conserved

`TestGroup.Conserves` says of a group that its counts are those of its own tests and of the
groups below it together, and that the same holds of all groups below it.  Inserting a test
counts it in the groups on the way from the root to its directory: each of these has one test
more of its own, or one group below it that counts one test more, which may be a fresh one.  So
the tree conserves its counts at every group as soon as the test has reached its directory.
-/
import Mathlib.Algebra.Ring.Nat
import ReportRelay.Proofs.Group.Nodes

namespace ReportRelay

/-! ## Counts by status -/

namespace Tally

/-- The count of the tests of a status. -/
def count (t : Tally) : TestStatus → Nat
  | .success => t.success
  | .failed => t.failed
  | .skipped => t.skipped

/-- The counts by status add up to the others. -/
structure AddsUp (t : Tally) : Prop where
  attempted : t.attempted = t.success + t.failed
  tests : t.tests = t.success + t.failed + t.skipped

/-- Nothing adds up to nothing. -/
theorem addsUp_empty : empty.AddsUp := ⟨rfl, rfl⟩

/-- The test that is counted has one status. -/
theorem count_record (t : Tally) (status other : TestStatus) :
    (t.record status).count other = t.count other + if status = other then 1 else 0 := by
  cases status <;> cases other <;> rfl

/-- The test that is counted is one test more. -/
theorem tests_record (t : Tally) (status : TestStatus) :
    (t.record status).tests = t.tests + 1 := by
  cases status <;> rfl

/-- Counts that add up do so with one test more. -/
theorem AddsUp.record {t : Tally} (h : t.AddsUp) (status : TestStatus) :
    (t.record status).AddsUp := by
  obtain ⟨hattempted, htests⟩ := h
  cases status <;> constructor <;> simp only [Tally.record] <;> omega

end Tally

/-- Every test has one of the statuses. -/
theorem countP_status (tests : List TestResult) :
    tests.countP (fun test => test.status = .success)
      + tests.countP (fun test => test.status = .failed)
      + tests.countP (fun test => test.status = .skipped) = tests.length := by
  induction tests with
  | nil => rfl
  | cons test tests ih =>
      simp only [List.countP_cons, List.length_cons]
      cases test.status <;> simp <;> omega

namespace TestGroup

/-! ## Subtrees -/

/-- The groups of a list with those below them, each by itself. -/
theorem preorderAll_eq_flatMap (groups : List TestGroup) :
    preorderAll groups = groups.flatMap preorder := by
  induction groups with
  | nil => rfl
  | cons group groups ih => rw [preorderAll, ih, List.flatMap_cons]

/-- A group comes before those below it. -/
theorem preorder_eq (group : TestGroup) :
    group.preorder = group :: group.groups.flatMap preorder := by
  cases group with
  | mk name status tally tests groups => rw [preorder, preorderAll_eq_flatMap]

/-- The tests of a subtree are those of its group and those of the subtrees below. -/
theorem allTests_eq (group : TestGroup) :
    group.allTests = group.tests ++ group.groups.flatMap allTests := by
  rw [allTests, preorder_eq, List.flatMap_cons, List.flatMap_assoc]
  rfl

/-! ## Conservation -/

/-- A group counts its own tests and those of the groups below it, each of which counts at least
one, and so do the groups below it. -/
inductive Conserves : TestGroup → Prop
  /-- The counts of the group are right, and the groups below it conserve theirs. -/
  | intro {group : TestGroup} (haddsUp : group.tally.AddsUp)
      (hcount : ∀ status, group.tally.count status
        = group.tests.countP (fun test => test.status = status)
          + (group.groups.map fun child => child.tally.count status).sum)
      (hpos : ∀ child ∈ group.groups, 1 ≤ child.tally.tests)
      (hbelow : ∀ child ∈ group.groups, Conserves child) : Conserves group

variable {group : TestGroup}

/-- A fresh group has counted nothing. -/
theorem conserves_fresh (name : String) : (fresh name).Conserves := by
  refine .intro Tally.addsUp_empty (fun status => ?_) ?_ ?_
  · cases status <;> rfl
  · intro child hchild
    cases hchild
  · intro child hchild
    cases hchild

/-! ## Inserting a test -/

/-- Inserting a test counts it once. -/
@[simp] theorem insertAt_tally (test : TestResult) (path : List String) (group : TestGroup) :
    (insertAt test path group).tally = group.tally.record test.status := by
  cases path <;> rfl

section UpdateChild

variable {target : String} {change : TestGroup → TestGroup} {groups : List TestGroup}

/-- What holds of every group, and of a fresh one that is changed, holds after a change of a
child that keeps it. -/
theorem forall_updateChild {P : TestGroup → Prop} (hgroups : ∀ child ∈ groups, P child)
    (hchange : ∀ child, P child → P (change child)) (hfresh : P (change (fresh target))) :
    ∀ child ∈ updateChild target change groups, P child := by
  induction groups with
  | nil =>
      intro child hchild
      rw [updateChild, List.mem_singleton] at hchild
      exact hchild ▸ hfresh
  | cons group groups ih =>
      rw [List.forall_mem_cons] at hgroups
      rw [updateChild]
      split
      · exact List.forall_mem_cons.mpr ⟨hchange group hgroups.1, hgroups.2⟩
      · exact List.forall_mem_cons.mpr ⟨hgroups.1, ih hgroups.2⟩

/-- A sum over groups grows by what the change adds to one of them, if a fresh group adds
nothing. -/
theorem sum_updateChild {size : TestGroup → Nat} {more : Nat}
    (hchange : ∀ child, size (change child) = size child + more)
    (hfresh : size (fresh target) = 0) :
    ((updateChild target change groups).map size).sum = (groups.map size).sum + more := by
  induction groups with
  | nil => simp [updateChild, hchange, hfresh]
  | cons group groups ih =>
      rw [updateChild]
      split
      · simp only [List.map_cons, List.sum_cons, hchange]
        omega
      · simp only [List.map_cons, List.sum_cons, ih]
        omega

end UpdateChild

namespace Conserves

/-- The counts of the group add up. -/
theorem addsUp (h : group.Conserves) : group.tally.AddsUp := by
  cases h with
  | intro haddsUp hcount hpos hbelow => exact haddsUp

/-- The group counts its own tests and those of the groups below it. -/
theorem count_eq (h : group.Conserves) (status : TestStatus) :
    group.tally.count status = group.tests.countP (fun test => test.status = status)
      + (group.groups.map fun child => child.tally.count status).sum := by
  cases h with
  | intro haddsUp hcount hpos hbelow => exact hcount status

/-- **Inserting a test conserves the counts.** -/
theorem insertAt (h : group.Conserves) (test : TestResult) (path : List String) :
    (insertAt test path group).Conserves := by
  -- along the path the test is one of the group's own only at the end, and before that one of
  -- those that a group below counts
  induction path generalizing group with
  | nil =>
      cases h with
      | intro haddsUp hcount hpos hbelow =>
          refine .intro (haddsUp.record test.status) (fun status => ?_) hpos hbelow
          show (group.tally.record test.status).count status
            = (group.tests ++ [test]).countP _
              + (group.groups.map fun child => child.tally.count status).sum
          rw [Tally.count_record, hcount, List.countP_append, List.countP_singleton]
          simp only [decide_eq_true_eq]
          omega
  | cons segment path ih =>
      cases h with
      | intro haddsUp hcount hpos hbelow =>
          refine .intro (haddsUp.record test.status) (fun status => ?_) ?_ ?_
          · have hchange : ∀ child : TestGroup,
                (TestGroup.insertAt test path child).tally.count status
                  = child.tally.count status + if test.status = status then 1 else 0 := by
              intro child
              rw [insertAt_tally, Tally.count_record]
            have hfresh : (fresh (childName group.name segment)).tally.count status = 0 := by
              cases status <;> rfl
            show (group.tally.record test.status).count status
              = group.tests.countP _ + ((updateChild _ _ group.groups).map _).sum
            rw [Tally.count_record, hcount, sum_updateChild hchange hfresh, Nat.add_assoc]
          · refine forall_updateChild hpos (fun child _ => ?_) ?_ <;>
              rw [insertAt_tally, Tally.tests_record] <;> omega
          · exact forall_updateChild hbelow (fun child hchild => ih hchild)
              (ih (conserves_fresh _))

/-- Inserting tests one after another conserves the counts, and counts each test. -/
theorem foldl_insert (h : group.Conserves) (tests : List TestResult) :
    (tests.foldl insert group).Conserves ∧
      (tests.foldl insert group).tally.tests = group.tally.tests + tests.length := by
  induction tests generalizing group with
  | nil => exact ⟨h, rfl⟩
  | cons test tests ih =>
      obtain ⟨hconserves, htests⟩ := ih (h.insertAt test (directory test.name))
      refine ⟨hconserves, ?_⟩
      rw [List.foldl_cons, List.length_cons, insert, htests, insertAt_tally, Tally.tests_record]
      omega

/-! ## Statuses -/

/-- Giving statuses to the groups leaves the counts as they are. -/
theorem settle (h : group.Conserves) : group.settle.Conserves := by
  induction h with
  | @intro group haddsUp hcount hpos hbelow ih =>
      obtain ⟨name, status, tally, tests, groups⟩ := group
      rw [TestGroup.settle, settleAll_eq_map]
      refine .intro haddsUp (fun status => ?_) ?_ ?_
      · rw [hcount, List.map_map]
        simp only [Function.comp_def, settle_tally]
      · simpa using hpos
      · simpa using ih

/-! ## Subtrees of a group that conserves its counts -/

/-- Every group of the tree conserves its counts. -/
theorem of_mem_preorder (h : group.Conserves) : ∀ below ∈ group.preorder, below.Conserves := by
  induction h with
  | @intro group haddsUp hcount hpos hbelow ih =>
      rw [preorder_eq, List.forall_mem_cons]
      refine ⟨.intro haddsUp hcount hpos hbelow, fun below hmem => ?_⟩
      obtain ⟨child, hchild, hmem⟩ := List.mem_flatMap.mp hmem
      exact ih child hchild below hmem

/-- Every group below another one counts a test. -/
theorem pos_of_mem_tail (h : group.Conserves) :
    ∀ below ∈ group.preorder.tail, 1 ≤ below.tally.tests := by
  induction h with
  | @intro group haddsUp hcount hpos hbelow ih =>
      rw [preorder_eq, List.tail_cons]
      intro below hmem
      obtain ⟨child, hchild, hmem⟩ := List.mem_flatMap.mp hmem
      rw [preorder_eq, List.mem_cons] at hmem
      rcases hmem with rfl | hmem
      · exact hpos below hchild
      · refine ih child hchild below ?_
        rw [preorder_eq]
        exact hmem

/-- A group counts the tests of its subtree by their statuses. -/
theorem count_allTests (h : group.Conserves) (status : TestStatus) :
    group.tally.count status = group.allTests.countP fun test => test.status = status := by
  induction h with
  | @intro group haddsUp hcount hpos hbelow ih =>
      rw [hcount, allTests_eq, List.countP_append, List.countP_flatMap]
      congr 2
      exact List.map_congr_left fun child hchild => ih child hchild

/-- A group counts the tests of its subtree. -/
theorem tests_eq_length (h : group.Conserves) : group.tally.tests = group.allTests.length := by
  rw [h.addsUp.tests, ← countP_status, ← h.count_allTests, ← h.count_allTests,
    ← h.count_allTests]
  rfl

end Conserves

/-- The tree of sorted tests conserves its counts, and counts each test. -/
theorem conserves_ofSorted (tests : List TestResult) :
    (ofSorted tests).Conserves ∧ (ofSorted tests).tally.tests = tests.length := by
  obtain ⟨hconserves, htests⟩ := (conserves_fresh "").foldl_insert tests
  refine ⟨hconserves.settle, ?_⟩
  rw [ofSorted, settle_tally, htests]
  exact Nat.zero_add _

end TestGroup

/-! ## Grouped reports -/

/-- **A grouped report conserves its counts.**  Each count of a group by status is that of its
own tests and of the groups below it together.  The tests that ran are those that passed or
failed, and with those that were skipped they are all tests of the subtree.  The root counts the
tests of the report, and every other group counts at least one. -/
theorem group_counts {report : Report} {grouped : GroupedReport}
    (h : report.group = .ok grouped) :
    (∀ group ∈ grouped.root.preorder,
      (∀ status, group.tally.count status
        = group.tests.countP (fun test => test.status = status)
          + (group.groups.map fun child => child.tally.count status).sum) ∧
      group.tally.attempted = group.tally.success + group.tally.failed ∧
      group.tally.tests = group.tally.success + group.tally.failed + group.tally.skipped ∧
      group.tally.tests = group.allTests.length) ∧
    grouped.root.tally.tests = report.tests.length ∧
    ∀ group ∈ grouped.root.preorder.tail, 1 ≤ group.tally.tests := by
  obtain ⟨hconserves, htests⟩ := TestGroup.conserves_ofSorted (sortTests report.tests)
  rw [← Report.root_eq h] at hconserves htests
  refine ⟨fun group hgroup => ?_, ?_, hconserves.pos_of_mem_tail⟩
  · have hbelow := hconserves.of_mem_preorder group hgroup
    exact ⟨hbelow.count_eq, hbelow.addsUp.attempted, hbelow.addsUp.tests,
      hbelow.tests_eq_length⟩
  · rw [htests]
    exact (sortTests_perm report.tests).length_eq

/-- Three tests, two of them at one directory: all groups on the way count them. -/
theorem group_counts_of_nested_names :
    let report : Report := ⟨"r", 1, none,
      [⟨"a/b/t", .success, []⟩, ⟨"a/b/u", .failed, []⟩, ⟨"a/t", .skipped, []⟩], []⟩
    ∃ grouped, report.group = .ok grouped ∧ grouped.root.tally.tests = 3 ∧
      ∀ group ∈ grouped.root.preorder.tail, 1 ≤ group.tally.tests := by
  intro report
  have hcounts := group_counts (show report.group = .ok _ from rfl)
  exact ⟨_, rfl, hcounts.2.1, hcounts.2.2⟩

end ReportRelay
