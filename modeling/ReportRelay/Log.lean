/-
# Log lines

A log line is a message with a level and named fields.
-/
import ReportRelay.Json.Printer

namespace ReportRelay

/-- How much a log line matters. -/
inductive LogLevel where
  | debug
  | info
  | warn
  | error
  deriving DecidableEq, Repr

/-- The word for a level. -/
def LogLevel.name : LogLevel → String
  | debug => "DEBUG"
  | info => "INFO"
  | warn => "WARN"
  | error => "ERROR"

/-- A line of a log. -/
structure LogLine where
  /-- The level. -/
  level : LogLevel
  /-- The message. -/
  message : String
  /-- The fields. -/
  fields : List (String × Json) := []
  deriving Repr

namespace LogLine

/-- A line as a document, its fields beside its level and its message. -/
def toJson (line : LogLine) : Json :=
  .ofMembers (("level", .string line.level.name) :: ("message", .string line.message)
    :: line.fields)

/-- The text of a field: strings as they are, other values as they are printed. -/
def fieldText (field : String × Json) : String :=
  match field.2 with
  | .string s => field.1 ++ "=" ++ s
  | value => field.1 ++ "=" ++ value.render

/-- A line as text. -/
def render (line : LogLine) : String :=
  " ".intercalate (line.level.name :: line.message :: line.fields.map fieldText)

end LogLine

end ReportRelay
