/-
# Ranges of code points

Character properties are given as ascending lists of closed ranges of code points.
-/

namespace ReportRelay

/-- A property of characters, as ascending closed ranges of code points. -/
abbrev CodeRanges := List (Nat × Nat)

/-- Tells whether the code point lies in one of the ranges; the search stops at the first
range beyond it. -/
def CodeRanges.has : CodeRanges → Nat → Bool
  | [], _ => false
  | (first, last) :: rest, n =>
    if n < first then false else if n ≤ last then true else CodeRanges.has rest n

end ReportRelay
