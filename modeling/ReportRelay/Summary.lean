/-
# Summaries of reports

The log lines that sum up a grouped report: one about the report, and one about each of
the groups below the root.  A report with a failure, or without tests, is a warning.
-/
import ReportRelay.Group.Report
import ReportRelay.Log

namespace ReportRelay

namespace GroupedReport

/-- The name under which summaries are written. -/
def summaryWriter : String := "LogWriter"

/-- The level of the line about a report. -/
def summaryLevel : GroupStatus → LogLevel
  | .failed => .warn
  | .unknown => .warn
  | _ => .info

/-- The line about a report. -/
def reportLine (report : GroupedReport) : LogLine :=
  ⟨summaryLevel report.root.status, "report",
    [("id", .string report.id), ("created_at", .string report.createdAt.display),
      ("status", .string report.root.status.name), ("tests", .ofNat report.root.tally.tests),
      ("failed", .ofNat report.root.tally.failed),
      ("skipped", .ofNat report.root.tally.skipped)]⟩

/-- The line about a group of a report. -/
def groupLine (report : GroupedReport) (group : TestGroup) : LogLine :=
  ⟨.info, "group",
    [("report", .string report.id), ("group", .string group.name),
      ("status", .string group.status.name), ("tests", .ofNat group.tally.tests)]⟩

/-- The lines that sum up a report. -/
def summary (report : GroupedReport) : List LogLine :=
  report.reportLine :: report.root.groups.map report.groupLine

end GroupedReport

end ReportRelay
