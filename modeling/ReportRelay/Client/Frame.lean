/-
# Frames of a stream

What the client makes of a text frame: a grouped report, nothing for a message of a type
it does not know, or an error.
-/
import ReportRelay.Client.Error
import ReportRelay.Group.Report

namespace ReportRelay

/-- Decodes a frame of a stream. -/
def decodeFrame (frame : String) : Except ClientError (Option GroupedReport) :=
  match Message.parse frame with
  | .error fault => .error (.protocol fault)
  | .ok .unknown => .ok none
  | .ok (.newReport document) =>
    match GroupedReport.ofJson document with
    | .error cause => .error (.schema cause)
    | .ok report => .ok (some report)

end ReportRelay
