/-
# Grouped reports

A report whose tests have been arranged as a tree of groups.
-/
import ReportRelay.Group.Build
import ReportRelay.Group.Find
import ReportRelay.Report.CreatedAt
import ReportRelay.Report.Decode

namespace ReportRelay

/-- A report with its tests grouped. -/
structure GroupedReport where
  /-- The identifier of the report. -/
  id : String
  /-- The version that the report asks for. -/
  minversion : UInt64
  /-- The creation time. -/
  createdAt : CreatedAt
  /-- The tree of tests. -/
  root : TestGroup
  /-- The other fields of the report. -/
  extra : Members
  deriving Repr

/-- Groups the tests of a report, unless the report asks for too new a version. -/
def Report.group (report : Report) : Except ReportError GroupedReport := do
  checkVersion report.minversion
  .ok {
    id := report.id
    minversion := report.minversion
    createdAt := .ofJson? report.createdAt
    root := .ofSorted (sortTests report.tests)
    extra := report.extra }

namespace GroupedReport

/-- Reads a document as a report and groups it. -/
def ofJson (document : Json) : Except ReportError GroupedReport := do
  let report ← Report.decode document
  report.group

/-- The members of a grouped report. -/
def members (report : GroupedReport) : List (String × Json) :=
  ("id", .string report.id) :: ("minversion", .ofWord report.minversion)
    :: ("createdAt", report.createdAt.toJson) :: ("tests", report.root.toJson) :: report.extra

/-- A grouped report as a document. -/
def toJson (report : GroupedReport) : Json := .ofMembers report.members

end GroupedReport

end ReportRelay
