/-
# Messages

What travels on a stream of reports: one message a frame, tagged with its type.  A frame
with a type that is not known here is a message to be ignored.

A message may also be spelled as an array that starts with its type.  In an object the type
may stand anywhere, but only once; other members of the object are not looked at.

A text that is no message is refused for the fault that comes first in it, be it one of the
form of JSON or one of the form of a message.
-/
import ReportRelay.Json.Printer
import ReportRelay.Json.Reader

namespace ReportRelay

/-- A message. -/
inductive Message where
  /-- A report has been published, or is being replayed. -/
  | newReport (report : Json)
  /-- A message of another type. -/
  | unknown
  deriving Repr

namespace Message

/-- The type of a message about a report. -/
def reportType : String := "new_report"

/-- The name of the type in logs. -/
def label : Message → String
  | newReport _ => reportType
  | unknown => "unknown"

/-- The text frame of a message: the type comes first. -/
def frameChars : Message → List Char
  | newReport report =>
    "\x7b\"type\":\"new_report\",\"report\":".toList ++ report.print ++ ['\x7d']
  | unknown => "\x7b\"type\":\"unknown\"\x7d".toList

/-- The text frame of a message as a string. -/
def frame (message : Message) : String := String.ofList message.frameChars

/-! ## Reading frames -/

/-- Why a frame is no message: the fault that is met first when the text is read. -/
inductive Fault where
  /-- The text departs from the form of JSON. -/
  | notJson
  /-- The text departs from the form of a message. -/
  | notMessage
  deriving DecidableEq, Repr

/-- The text of a fault. -/
def Fault.message : Fault → String
  | notJson => "frame is not JSON"
  | notMessage => "frame is not a message"

/-- The values of a key among members as they are spelled. -/
def valuesOf (key : String) (pairs : List (String × Json)) : List Json :=
  (pairs.filter fun pair => pair.1 = key).map Prod.snd

/-- The message of an object: its type once, and the report once if the type asks for
one. -/
def ofMembers? (pairs : List (String × Json)) : Option Message :=
  match valuesOf "type" pairs with
  | [.string type] =>
    if type = reportType then
      match valuesOf "report" pairs with
      | [report] => some (newReport report)
      | _ => none
    else some unknown
  | _ => none

/-- The message of an array: its type, and the report after it if the type asks for one. -/
def ofItems? (items : List Json) : Option Message :=
  match items with
  | [.string type] => if type = reportType then none else some unknown
  | [.string type, report] => if type = reportType then some (newReport report) else none
  | _ => none

/-- The message of a value of which the outermost object is as it is spelled. -/
def ofSpelled? : Json.Spelled → Option Message
  | .members pairs => ofMembers? pairs
  | .other (.array items) => ofItems? items
  | .other _ => none

/-! ## Values that break off

A text that holds no whole value may depart from the form of a message before the place where
the value breaks off. -/

/-- Tells whether the text starts with a value that is no string: an array or an object as
soon as it opens, another value when it is whole. -/
def startsOther (text : List Char) : Bool :=
  match Json.skipBlanks text with
  | '"' :: _ => false
  | '[' :: _ => true
  | '\x7b' :: _ => true
  | text => (Json.readScalar text).isSome

/-- Tells whether members name the type twice, or name one that is no string, before they
break off; given the reader of values, a bound on their number, and whether the type has been
named before. -/
def misnamesType (value : List Char → Option (Json × List Char)) :
    Nat → Bool → List Char → Bool
  | 0, _, _ => false
  | fuel + 1, named, text =>
    match Json.readKey text with
    | none => false
    | some (key, rest) =>
      let isType := key == "type"
      if isType && named then true
      else
        match Json.afterColon? rest with
        | none => false
        | some rest =>
          if isType && startsOther rest then true
          else
            match value rest with
            | none => false
            | some (_, rest) =>
              match Json.skipBlanks rest with
              | ',' :: rest => misnamesType value fuel (named || isType) rest
              | _ => false

/-- Tells whether a value that breaks off departs from the form of a message before. -/
def departsEarly (text : List Char) : Bool :=
  match Json.skipBlanks text with
  | '[' :: rest => startsOther rest
  | '\x7b' :: rest =>
    misnamesType (Json.readValue (text.length + 1) (Json.greatestDepth - 1)) (text.length + 1)
      false rest
  | _ => false

/-! ## Whole frames -/

/-- Reads a frame: a message, and nothing but blanks after it. -/
def parseChars (text : List Char) : Except Fault Message :=
  match Json.readSpelled (text.length + 1) Json.greatestDepth text with
  | none => .error (if departsEarly text then .notMessage else .notJson)
  | some (spelled, rest) =>
    match ofSpelled? spelled with
    | none => .error .notMessage
    | some message =>
      if (Json.skipBlanks rest).isEmpty then .ok message else .error .notJson

/-- Reads a frame given as a string. -/
def parse (text : String) : Except Fault Message := parseChars text.toList

end Message

end ReportRelay
