/-
# Reports

A report of a test run: a flat list of test results, each with a slash-separated name and
an outcome.  Fields that grouping does not need are kept as they came.
-/
import ReportRelay.Json.Basic

namespace ReportRelay

/-! ## Outcomes -/

/-- The outcome of a test. -/
inductive TestStatus where
  /-- The test ran and passed. -/
  | success
  /-- The test ran and failed. -/
  | failed
  /-- The test did not run. -/
  | skipped
  deriving DecidableEq, Repr

namespace TestStatus

/-- The word for an outcome. -/
def name : TestStatus → String
  | success => "success"
  | failed => "failed"
  | skipped => "skipped"

/-- The outcome that a word stands for. -/
def ofName? (word : String) : Option TestStatus :=
  if word = "success" then some success
  else if word = "failed" then some failed
  else if word = "skipped" then some skipped
  else none

end TestStatus

/-! ## Results and reports -/

/-- The result of one test. -/
structure TestResult where
  /-- The slash-separated name. -/
  name : String
  /-- The outcome. -/
  status : TestStatus
  /-- The other fields. -/
  extra : Members
  deriving Repr

/-- A report that can be grouped. -/
structure Report where
  /-- The identifier that its producer gave it. -/
  id : String
  /-- The least version of a reader that understands it. -/
  minversion : UInt64
  /-- The creation time as it was given. -/
  createdAt : Option Json
  /-- The results in the order of the producer. -/
  tests : List TestResult
  /-- The other fields. -/
  extra : Members
  deriving Repr

/-- The greatest version of a report that is understood here. -/
def supportedVersion : UInt64 := 1

end ReportRelay
