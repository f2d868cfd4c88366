/-
# The order of names

Names are compared without regard to case first, character by character after folding
each to its lower-case form, and by their exact text when that does not tell them apart.
The folding is a parameter: the order is total whatever it is.
-/
import ReportRelay.Text.Lower

namespace ReportRelay

namespace NameOrder

/-- Compares characters by code point. -/
def compareChars (a b : Char) : Ordering := compare a.toNat b.toNat

/-- The folded form of a name. -/
def folded (fold : Char → List Char) (name : String) : List Char := name.toList.flatMap fold

/-- Compares two names by their folded forms, and then by their text. -/
def compareNames (fold : Char → List Char) (a b : String) : Ordering :=
  (List.compareLex compareChars (folded fold a) (folded fold b)).then
    (List.compareLex compareChars a.toList b.toList)

/-- Tells whether the first name may stand before the second. -/
def precedes (fold : Char → List Char) (a b : String) : Bool :=
  (compareNames fold a b).isLE

/-- The order in which tests are shown. -/
def shown (a b : String) : Bool := precedes Text.lower a b

end NameOrder

end ReportRelay
