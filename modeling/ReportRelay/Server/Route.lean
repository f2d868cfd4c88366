/-
# Requests

The routes of the server: reports are published by posting them on either of two paths,
and streams are opened on either of two others.  A body that is JSON is published whatever
it says; any other body is turned away and changes nothing.
-/
import ReportRelay.Json.Reader

namespace ReportRelay

/-! ## Requests and responses -/

/-- A request that does not ask for a stream. -/
structure Request where
  /-- The method. -/
  method : String
  /-- The path, with scheme and host in front of it or a query after it if they are given. -/
  target : String
  /-- The body. -/
  body : ByteArray

/-- The body of a response. -/
inductive ResponseBody where
  /-- No body. -/
  | empty
  /-- A document. -/
  | document (value : Json)
  /-- A text for people. -/
  | text (message : String)

/-- A response. -/
structure Response where
  /-- The status code. -/
  status : Nat
  /-- The body. -/
  body : ResponseBody

namespace Response

/-- The type of the body. -/
def contentType (response : Response) : Option String :=
  match response.body with
  | .empty => none
  | .document _ => some "application/json"
  | .text _ => some "text/plain; charset=utf-8"

/-- The body as a document, if it is one. -/
def document? (response : Response) : Option Json :=
  match response.body with
  | .document value => some value
  | _ => none

/-- A report has been published. -/
def success : Response := ⟨200, .document (.ofMembers [("success", .bool true)])⟩

/-- The body is not JSON. -/
def badInput : Response := ⟨400, .document (.ofMembers [("error", .string "bad input")])⟩

/-- The request for a stream lacks what an upgrade of the connection needs. -/
def upgradeRequired : Response := ⟨400, .text "connection is not an upgrade"⟩

/-- A stream is opened with another method, and only the head of the response is asked
for. -/
def getRequired : Response := ⟨405, .text "request method must be GET"⟩

/-- There is nothing under the path. -/
def notFound : Response := ⟨404, .empty⟩

/-- The method does not go with the path. -/
def badMethod : Response := ⟨405, .empty⟩

/-- The body is too large. -/
def tooLarge : Response := ⟨413, .text "length limit exceeded"⟩

end Response

/-! ## Routes -/

/-- What a path stands for. -/
inductive Route where
  /-- Reports are published there. -/
  | publish
  /-- Streams are opened there. -/
  | stream
  deriving DecidableEq, Repr

/-- Tells whether a scheme may contain the character. -/
def isSchemeChar (c : Char) : Bool := c.isAlphanum || c = '+' || c = '-' || c = '.'

/-- What follows scheme and host in a target that starts with them. -/
def afterHost? (target : List Char) : Option (List Char) :=
  match target.dropWhile isSchemeChar with
  | ':' :: '/' :: '/' :: rest => some (rest.dropWhile fun c => c != '/' && c != '?' && c != '#')
  | _ => none

/-- The path of a request target: what follows scheme and host, if they are given, up to a
query or a fragment. -/
def pathOfTarget (target : String) : String :=
  let chars := target.toList
  String.ofList (((afterHost? chars).getD chars).takeWhile fun c => c != '?' && c != '#')

/-- The route of a request target. -/
def Route.ofTarget? (target : String) : Option Route :=
  let path := pathOfTarget target
  if path = "/api/publish_report" ∨ path = "/submit" then some .publish
  else if path = "/api/stream" ∨ path = "/stream" then some .stream
  else none

/-- The greatest number of bytes of a body. -/
def greatestBody : Nat := 2097152

/-- The document that a body holds. -/
def bodyDocument? (body : ByteArray) : Option Json := (String.fromUTF8? body).bind Json.parse?

/-- What is to be done about a request: the report to be published, if there is one, and
the response. -/
def Request.outcome (request : Request) : Option Json × Response :=
  match Route.ofTarget? request.target with
  | none => (none, .notFound)
  | some .publish =>
    if request.method ≠ "POST" then (none, .badMethod)
    else if greatestBody < request.body.size then (none, .tooLarge)
    else
      match bodyDocument? request.body with
      | some report => (some report, .success)
      | none => (none, .badInput)
  | some .stream =>
    if request.method = "GET" then (none, .upgradeRequired)
    else if request.method = "HEAD" then (none, .getRequired)
    else (none, .badMethod)

end ReportRelay
