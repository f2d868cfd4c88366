/-
# Why a report cannot be grouped

The causes, in the order in which they are looked for, and their texts.
-/
import ReportRelay.Json.Printer
import ReportRelay.Report.Basic
import ReportRelay.Text.Quoted

namespace ReportRelay

/-- Why a report cannot be grouped. -/
inductive ReportError where
  /-- The report asks for a later version than the supported one. -/
  | unsupportedVersion (found supported : UInt64)
  /-- The named test has an outcome that is none of the three. -/
  | unknownStatus (test status : String)
  /-- The document does not have the form of a report. -/
  | malformed
  deriving DecidableEq, Repr

namespace ReportError

/-- The short name of the cause in logs. -/
def label : ReportError → String
  | unsupportedVersion _ _ => "report_unsupported_minversion"
  | unknownStatus _ _ => "report_unknown_test_status"
  | malformed => "report_malformed"

/-- The text for the viewer of a report. -/
def message : ReportError → String
  | unsupportedVersion found supported =>
    s!"cannot parse report, minversion {found} > {supported}"
  | unknownStatus test status =>
    let test := Text.quoted test
    let status := Text.quoted status
    s!"cannot parse report, test {test} has unknown status {status}"
  | malformed => "malformed report"

/-- The text that states the cause alone. -/
def display : ReportError → String
  | unsupportedVersion found supported =>
    s!"unsupported minversion {found} (max supported {supported})"
  | unknownStatus test status =>
    let test := Text.quoted test
    let status := Text.quoted status
    s!"test {test} has unknown status {status}"
  | malformed => "malformed report"

end ReportError

/-- Accepts a version up to the supported one. -/
def checkVersion (found : UInt64) : Except ReportError Unit :=
  if supportedVersion < found then .error (.unsupportedVersion found supportedVersion)
  else .ok ()

end ReportRelay
