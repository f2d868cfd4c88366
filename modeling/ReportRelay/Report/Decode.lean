/-
# Reading reports

A document is read in three steps, so that the reader learns the most telling cause of a
failure: a version that is too new, then a test with an unknown outcome, then any other
departure from the form of a report.

The first two steps look at the document without knowing whether it has the form of a
report; the third is `Report.ofJson?`, which on its own decides what a report is.
-/
import ReportRelay.Report.Error

namespace ReportRelay

/-! ## The form of a report -/

/-- The value of a field that may be absent: a default when it is, nothing when it is
there and cannot be read. -/
def fieldOr {α : Type} (absent : α) (read : Json → Option α) : Option Json → Option α
  | none => some absent
  | some value => read value

/-- An outcome: its word, or an object with the word as its only key and null as its
value. -/
def TestStatus.ofJson? : Json → Option TestStatus
  | .string word => ofName? word
  | .object [(word, .null)] => ofName? word
  | _ => none

/-- The fields of a test result that are read. -/
def TestResult.fields : List String := ["name", "status"]

/-- The fields of a report that are read. -/
def Report.fields : List String := ["id", "minversion", "createdAt", "tests"]

/-- A test result: the name may be absent, the outcome may not. -/
def TestResult.ofJson? : Json → Option TestResult
  | .object members => do
    let name ← fieldOr "" Json.string? (Members.get? members "name")
    let status ← (Members.get? members "status").bind TestStatus.ofJson?
    some ⟨name, status, Members.without members fields⟩
  | _ => none

/-- A creation time is kept as it is; null stands for an absent one. -/
def createdAtOf : Option Json → Option Json
  | some .null => none
  | field => field

/-- The list of test results. -/
def TestResult.listOfJson? (value : Json) : Option (List TestResult) :=
  value.items?.bind fun items => items.mapM ofJson?

/-- A report: only the identifier must be there. -/
def Report.ofJson? : Json → Option Report
  | .object members => do
    let id ← (Members.get? members "id").bind Json.string?
    let minversion ← fieldOr 0 Json.word? (Members.get? members "minversion")
    let tests ← fieldOr [] TestResult.listOfJson? (Members.get? members "tests")
    some ⟨id, minversion, createdAtOf (Members.get? members "createdAt"), tests,
      Members.without members fields⟩
  | _ => none

/-! ## The order of the checks -/

/-- The version that a document asks for, zero if it does not say so with a word. -/
def peekVersion (document : Json) : UInt64 :=
  ((document.get? "minversion").bind Json.word?).getD 0

/-- The complaint about a test whose outcome is a string that names none. -/
def statusFault? (test : Json) : Option ReportError :=
  match (test.get? "status").bind Json.string? with
  | none => none
  | some status =>
    if (TestStatus.ofName? status).isSome then none
    else some (.unknownStatus (((test.get? "name").bind Json.string?).getD "") status)

/-- The complaint about the first test of a document that has one. -/
def firstStatusFault? (document : Json) : Option ReportError :=
  (((document.get? "tests").bind Json.items?).getD []).findSome? statusFault?

/-- Reads a document as a report. -/
def Report.decode (document : Json) : Except ReportError Report := do
  checkVersion (peekVersion document)
  match firstStatusFault? document with
  | some fault => .error fault
  | none =>
    match Report.ofJson? document with
    | some report => .ok report
    | none => .error .malformed

end ReportRelay
