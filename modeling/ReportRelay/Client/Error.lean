/-
# Errors of the client

What can go wrong while a stream is followed.  Trouble with the connection ends it; a bad
frame is dropped and the connection stays open.
-/
import ReportRelay.Message
import ReportRelay.Report.Error

namespace ReportRelay

/-- An error that the client observes. -/
inductive ClientError where
  /-- No connection could be opened. -/
  | connect (text : String)
  /-- The open connection failed. -/
  | transport (text : String)
  /-- A frame was no message. -/
  | protocol (fault : Message.Fault)
  /-- A message carried a report that cannot be grouped. -/
  | schema (error : ReportError)
  deriving DecidableEq, Repr

namespace ClientError

/-- The short name of the cause in logs. -/
def label : ClientError → String
  | connect _ => "client_connect"
  | transport _ => "client_transport"
  | protocol _ => "client_protocol"
  | schema _ => "client_schema"

/-- The text with a short heading. -/
def message : ClientError → String
  | connect text => s!"connect: {text}"
  | transport text => s!"transport: {text}"
  | protocol fault => "protocol: " ++ fault.message
  | schema error => error.message

/-- The text that states the cause in full. -/
def display : ClientError → String
  | connect text => s!"connect failed: {text}"
  | transport text => s!"transport error: {text}"
  | protocol fault => "protocol error: " ++ fault.message
  | schema error => "schema error: " ++ error.display

/-- Tells whether the error ends the connection. -/
def isTransport : ClientError → Bool
  | connect _ => true
  | transport _ => true
  | protocol _ => false
  | schema _ => false

end ClientError

end ReportRelay
