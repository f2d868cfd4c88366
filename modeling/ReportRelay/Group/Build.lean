/-
# Building the tree of groups

The tests enter the tree one after another in the order of their names.  A test is counted
by every group on the way from the root to its directory, and groups that are missing on
the way are made.  Then every group gets its status from its own counts.
-/
import ReportRelay.Group.Basic
import ReportRelay.Group.NameOrder

namespace ReportRelay

/-! ## Paths -/

/-- The segments of a path between its slashes; there is always at least one. -/
def splitSlashes : List Char → List (List Char)
  | [] => [[]]
  | c :: rest =>
    if c = '/' then [] :: splitSlashes rest
    else
      match splitSlashes rest with
      | [] => [[c]]
      | segment :: segments => (c :: segment) :: segments

/-- The segments of a name. -/
def segments (name : String) : List String := (splitSlashes name.toList).map String.ofList

/-- The directory of a test: the segments of its name without the last. -/
def directory (name : String) : List String := (segments name).dropLast

/-- The path of a segment below a group; the root adds nothing in front. -/
def childName (parent segment : String) : String :=
  if parent = "" then segment else parent ++ "/" ++ segment

/-! ## Inserting a test -/

namespace TestGroup

/-- Counts a test in a group. -/
def record (group : TestGroup) (status : TestStatus) : TestGroup :=
  { group with tally := group.tally.record status }

/-- Changes the first group of a name, or a fresh one at the end if there is none. -/
def updateChild (name : String) (change : TestGroup → TestGroup) :
    List TestGroup → List TestGroup
  | [] => [change (fresh name)]
  | group :: groups =>
    if group.name = name then change group :: groups
    else group :: updateChild name change groups

/-- Puts a test into the group at the end of a path, and counts it on the way there. -/
def insertAt (test : TestResult) : List String → TestGroup → TestGroup
  | [], group => { group.record test.status with tests := group.tests ++ [test] }
  | segment :: path, group =>
    { group.record test.status with
      groups := updateChild (childName group.name segment) (insertAt test path) group.groups }

/-- Puts a test into the tree at the directory of its name. -/
def insert (root : TestGroup) (test : TestResult) : TestGroup :=
  insertAt test (directory test.name) root

/-! ## The statuses -/

mutual

/-- Gives every group of the tree the status of its own counts. -/
def settle : TestGroup → TestGroup
  | ⟨name, _, tally, tests, groups⟩ => ⟨name, tally.status, tally, tests, settleAll groups⟩

/-- Gives every group of the trees the status of its own counts. -/
def settleAll : List TestGroup → List TestGroup
  | [] => []
  | group :: groups => settle group :: settleAll groups

end

/-- The tree of tests that are in the order in which they are shown. -/
def ofSorted (tests : List TestResult) : TestGroup :=
  settle (tests.foldl insert (fresh ""))

end TestGroup

/-- Tests in the order in which they are shown; tests of one name keep their order. -/
def sortTests (tests : List TestResult) : List TestResult :=
  tests.mergeSort fun a b => NameOrder.shown a.name b.name

end ReportRelay
