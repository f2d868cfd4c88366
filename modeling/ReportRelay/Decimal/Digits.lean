/-
# Digits

The value of a digit and of a row of digits in a base.
-/

namespace ReportRelay

/-- The value of a digit in a base up to sixteen; letters of either case stand for the
digits from ten on. -/
def digit? (base : Nat) (c : Char) : Option Nat :=
  let n :=
    if c.isDigit then c.toNat - '0'.toNat
    else if 'a' ≤ c ∧ c ≤ 'f' then c.toNat - 'a'.toNat + 10
    else if 'A' ≤ c ∧ c ≤ 'F' then c.toNat - 'A'.toNat + 10
    else base
  if n < base then some n else none

/-- The number that a row of digits stands for, the first of most weight. -/
def ofDigits (base : Nat) (digits : List Nat) : Nat := digits.foldl (fun n d => base * n + d) 0

/-- The number that a row of digits stands for after a number already read, if it stays
below a limit. -/
def digitsBelow? (base limit : Nat) (n : Nat) : List Nat → Option Nat
  | [] => some n
  | d :: rest =>
    if base * n + d < limit then digitsBelow? base limit (base * n + d) rest else none

/-- The digits in a base at the front of a text. -/
def leadingDigits (base : Nat) (text : List Char) : List Nat :=
  (text.takeWhile fun c => (digit? base c).isSome).filterMap (digit? base)

/-- A text after the digits at its front. -/
def afterDigits (base : Nat) (text : List Char) : List Char :=
  text.dropWhile fun c => (digit? base c).isSome

end ReportRelay
