/-
# Creation times

The creation time of a report is a timestamp, or a number of milliseconds given as a
number or as its decimal text.  A report without a readable one has an unknown creation
time; that is no error.
-/
import ReportRelay.Json.Basic
import ReportRelay.Text.Blank
import ReportRelay.Time.Rfc3339

namespace ReportRelay

/-- A creation time. -/
inductive CreatedAt where
  /-- A point in time. -/
  | known (t : Instant)
  /-- No point in time could be read. -/
  | unknown
  deriving DecidableEq, Repr

namespace CreatedAt

/-- The signed word that the whole text spells: an optional sign and at least one digit. -/
def integer? (text : List Char) : Option Int :=
  let (negative, digits) :=
    match text with
    | '-' :: rest => (true, rest)
    | '+' :: rest => (false, rest)
    | _ => (false, text)
  if digits.isEmpty || !(afterDigits 10 digits).isEmpty then none
  else
    let limit := 0x8000000000000000 + (if negative then 1 else 0)
    (digitsBelow? 10 limit 0 (leadingDigits 10 digits)).map fun n =>
      if negative then -(n : Int) else (n : Int)

/-- A creation time that may have been read. -/
def ofInstant? : Option Instant → CreatedAt
  | some t => known t
  | none => unknown

/-- The creation time that a text spells, white space around it aside: a timestamp, or
else a number of milliseconds. -/
def ofText (text : List Char) : CreatedAt :=
  let text := Text.trim text
  match Rfc3339.parse? text with
  | some t => known t
  | none => ofInstant? ((integer? text).bind Instant.ofMillis?)

/-- The creation time that the field of a report stands for, if the field is there. -/
def ofJson? : Option Json → CreatedAt
  | some (.string s) => ofText s.toList
  | some (.number n) => ofInstant? (n.signed?.bind Instant.ofMillis?)
  | _ => unknown

/-- The text for people. -/
def display : CreatedAt → String
  | known t => t.render
  | unknown => "unknown"

/-- The text as a JSON value; null if the time is unknown. -/
def toJson : CreatedAt → Json
  | known t => .string t.render
  | unknown => .null

end CreatedAt

end ReportRelay
