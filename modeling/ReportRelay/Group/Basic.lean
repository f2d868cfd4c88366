/-
# Groups of tests

A group holds the tests of one directory of names and the groups of the directories below
it.  It counts all tests of its subtree by outcome, and its status sums those counts up.
-/
import ReportRelay.Report.Encode

namespace ReportRelay

/-! ## Counts -/

/-- Counts of tests by outcome. -/
structure Tally where
  /-- All tests. -/
  tests : Nat
  /-- The tests that ran. -/
  attempted : Nat
  /-- The tests that passed. -/
  success : Nat
  /-- The tests that failed. -/
  failed : Nat
  /-- The tests that did not run. -/
  skipped : Nat
  deriving DecidableEq, Repr

namespace Tally

/-- Nothing counted. -/
def empty : Tally := ⟨0, 0, 0, 0, 0⟩

/-- Counts one more test. -/
def record (t : Tally) : TestStatus → Tally
  | .success =>
    { t with tests := t.tests + 1, attempted := t.attempted + 1, success := t.success + 1 }
  | .failed =>
    { t with tests := t.tests + 1, attempted := t.attempted + 1, failed := t.failed + 1 }
  | .skipped => { t with tests := t.tests + 1, skipped := t.skipped + 1 }

end Tally

/-! ## Status -/

/-- The status of a group. -/
inductive GroupStatus where
  /-- Nothing has been counted. -/
  | unknown
  /-- All tests ran and passed. -/
  | success
  /-- All tests that ran passed, and some did not run. -/
  | warning
  /-- Some test failed. -/
  | failed
  /-- No test ran. -/
  | skipped
  deriving DecidableEq, Repr

namespace GroupStatus

/-- The word for a status. -/
def name : GroupStatus → String
  | unknown => "unknown"
  | success => "success"
  | warning => "warning"
  | failed => "failed"
  | skipped => "skipped"

/-- The sentence that explains a status. -/
def reason : GroupStatus → String
  | unknown => "No tests were run."
  | success => "All tests were run and passed."
  | warning => "All tests which ran passed, but some tests were skipped"
  | failed => "At least one test failed."
  | skipped => "All tests were skipped"

end GroupStatus

/-- The status that counts amount to. -/
def Tally.status (t : Tally) : GroupStatus :=
  if t.tests = 0 then .unknown
  else if 0 < t.failed then .failed
  else if t.skipped = t.tests then .skipped
  else if 0 < t.skipped then .warning
  else .success

/-! ## Groups -/

/-- A group of tests. -/
structure TestGroup where
  /-- The full path, which is empty for the root. -/
  name : String
  /-- The status. -/
  status : GroupStatus
  /-- The counts of the whole subtree. -/
  tally : Tally
  /-- The tests of this directory. -/
  tests : List TestResult
  /-- The groups of the directories below. -/
  groups : List TestGroup
  deriving Repr

namespace TestGroup

/-- A group that has counted nothing yet. -/
def fresh (name : String) : TestGroup := ⟨name, .unknown, .empty, [], []⟩

mutual

/-- The group with the groups below it, each after the one that holds it. -/
def preorder : TestGroup → List TestGroup
  | ⟨name, status, tally, tests, groups⟩ =>
    ⟨name, status, tally, tests, groups⟩ :: preorderAll groups

/-- The groups of a list with those below them. -/
def preorderAll : List TestGroup → List TestGroup
  | [] => []
  | group :: groups => preorder group ++ preorderAll groups

end

/-- The tests of the whole subtree, group by group. -/
def allTests (group : TestGroup) : List TestResult := group.preorder.flatMap tests

/-! ## Documents -/

mutual

/-- A group as a document. -/
def toJson : TestGroup → Json
  | ⟨name, status, tally, tests, groups⟩ =>
    .ofMembers [("name", .string name), ("status", .string status.name),
      ("statusReason", .string status.reason), ("tests", .array (tests.map TestResult.toJson)),
      ("groups", .array (toJsonAll groups)), ("numTests", .ofNat tally.tests),
      ("numAttempted", .ofNat tally.attempted), ("numSuccess", .ofNat tally.success),
      ("numFailed", .ofNat tally.failed), ("numSkipped", .ofNat tally.skipped)]

/-- Groups as documents. -/
def toJsonAll : List TestGroup → List Json
  | [] => []
  | group :: groups => toJson group :: toJsonAll groups

end

end TestGroup

end ReportRelay
