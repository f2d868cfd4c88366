/-
# Writing reports

The members of reports and test results as JSON documents.  The fields that were read come
first, and the other fields follow as they were kept.
-/
import ReportRelay.Report.Basic

namespace ReportRelay

/-- An outcome is written as its word. -/
def TestStatus.toJson (status : TestStatus) : Json := .string status.name

/-- The members of a test result. -/
def TestResult.members (test : TestResult) : List (String × Json) :=
  ("name", .string test.name) :: ("status", test.status.toJson) :: test.extra

/-- A test result as a document. -/
def TestResult.toJson (test : TestResult) : Json := .ofMembers test.members

/-- The members of a report; an absent creation time is left out. -/
def Report.members (report : Report) : List (String × Json) :=
  ("id", .string report.id) :: ("minversion", .ofWord report.minversion)
    :: report.createdAt.toList.map (fun time => ("createdAt", time))
    ++ ("tests", .array (report.tests.map TestResult.toJson)) :: report.extra

/-- A report as a document. -/
def Report.toJson (report : Report) : Json := .ofMembers report.members

end ReportRelay
