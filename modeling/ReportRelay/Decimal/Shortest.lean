/-
# The shortest decimal text of a binary64 number

The digits are the fewest that read back as the number under rounding to nearest, and
of those the closest.  They are laid out positionally when the exponent of the leading
digit is from `-5` up to `15`, otherwise with a signed exponent; a number without a
fraction shows one digit after the point in positional notation.
-/
import ReportRelay.Decimal.Double

namespace ReportRelay

namespace Magnitude

/-! ## Choosing the digits -/

/-- A decimal number, `digits · 10 ^ exponent`. -/
structure Decimal where
  /-- The integer that is scaled. -/
  digits : Nat
  /-- The power of ten that scales it. -/
  exponent : Int
  deriving DecidableEq, Repr

/-- Tells whether the gap to the next smaller number is half the gap to the next larger
one, which is so at the powers of two. -/
def isNarrowBelow (x : Magnitude) : Bool :=
  x.significand == 1 <<< 52 && x.exponent != leastExponent

/-- The number as a fraction. -/
def ratio (x : Magnitude) : Nat × Nat :=
  (x.significand <<< x.exponent.toNat, 1 <<< (-x.exponent).toNat)

/-- The exponent of the leading decimal digit of a positive integer. -/
def decimalLog (n : Nat) : Nat :=
  if 10000000000000000 ≤ n then decimalLog (n / 10000000000000000) + 16
  else if 10 ≤ n then decimalLog (n / 10) + 1
  else 0

/-- The exponent of the leading decimal digit of a positive fraction. -/
def leadingExponent (num den : Nat) : Int :=
  if den ≤ num then decimalLog (num / den) else -(decimalLog ((den - 1) / num) + 1 : Nat)

/-- The quotient of two integers, rounded up. -/
def ceilQuotient (num den : Nat) : Nat := (num + den - 1) / den

/-- A number on the grid of the multiples of a power of ten, and those multiples that read
back as the number. -/
structure Window where
  /-- The least multiple that reads back. -/
  least : Nat
  /-- The greatest multiple that reads back. -/
  greatest : Nat
  /-- The greatest multiple that does not exceed the number. -/
  floor : Nat
  /-- By how much the number exceeds it, as the numerator of a fraction. -/
  excess : Nat
  /-- The denominator of that fraction. -/
  unit : Nat

/-- The window of a number on the grid of the multiples of `10 ^ grid`.  The reals that round
to the number lie between the two midpoints to its neighbours, which belong to them when its
significand is even. -/
def window (x : Magnitude) (grid : Int) : Window :=
  let num := Nat.pow 10 (-grid).toNat <<< x.exponent.toNat
  let den := Nat.pow 10 grid.toNat <<< (-x.exponent).toNat
  let low := (if x.isNarrowBelow then 4 * x.significand - 1 else 4 * x.significand - 2) * num
  let high := (4 * x.significand + 2) * num
  let closed := x.significand % 2 == 0
  { least := if closed then ceilQuotient low (4 * den) else low / (4 * den) + 1
    greatest := if closed then high / (4 * den) else ceilQuotient high (4 * den) - 1
    floor := x.significand * num / den
    excess := x.significand * num % den
    unit := den }

/-- The multiple of `10 ^ k` next to the number that reads back, in units of `10 ^ k`: the
closer of two, and the even one of two equally close. -/
def Window.pick? (w : Window) (k : Nat) : Option Nat :=
  let step := Nat.pow 10 k
  let below := w.floor / step
  match decide (w.least ≤ below * step), decide ((below + 1) * step ≤ w.greatest) with
  | true, true =>
    let distance := w.floor % step * w.unit + w.excess
    let whole := step * w.unit
    some (if 2 * distance < whole || (2 * distance == whole && below % 2 == 0) then below
      else below + 1)
  | true, false => some below
  | false, true => some (below + 1)
  | false, false => none

/-- Moves the trailing zeros of the digits into the exponent. -/
def Decimal.strip (d : Decimal) : Decimal :=
  if h : d.digits = 0 ∨ d.digits % 10 ≠ 0 then d
  else Decimal.strip ⟨d.digits / 10, d.exponent + 1⟩
  termination_by d.digits
  decreasing_by omega

/-- The exact value as a decimal. -/
def exactDecimal (x : Magnitude) : Decimal :=
  ⟨(x.significand <<< x.exponent.toNat) * Nat.pow 5 (-x.exponent).toNat, min x.exponent 0⟩

/-- How many digits after the leading one always suffice. -/
def greatestPrecision : Nat := 16

/-- The decimal with the fewest digits that reads back as the positive number: the coarsest
grid that has one is taken. -/
def shortest (x : Magnitude) : Decimal :=
  let (num, den) := x.ratio
  let grid := leadingExponent num den - greatestPrecision
  let w := x.window grid
  let found := (List.range (greatestPrecision + 1)).findSome? fun n =>
    let k := greatestPrecision - n
    (w.pick? k).map fun digits => Decimal.mk digits (grid + k)
  (found.getD x.exactDecimal).strip

/-! ## Laying them out -/

/-- The least exponent of the leading digit that is written positionally. -/
def leastPositional : Int := -5

/-- The least exponent of the leading digit above which the notation is scientific again. -/
def firstScientific : Int := 16

/-- The digits before and after the point, for a point after `whole` of the digits. -/
def positional (digits : List Char) (whole : Int) : List Char :=
  if whole ≤ 0 then '0' :: '.' :: List.replicate (-whole).toNat '0' ++ digits
  else
    let n := whole.toNat
    if digits.length ≤ n then digits ++ List.replicate (n - digits.length) '0' ++ ['.', '0']
    else digits.take n ++ '.' :: digits.drop n

/-- One digit before the point and a signed exponent; no point after a lone digit. -/
def scientific (digits : List Char) (lead : Int) : List Char :=
  digits.take 1 ++ (if digits.length ≤ 1 then [] else '.' :: digits.drop 1)
    ++ 'e' :: (if lead < 0 then '-' else '+') :: Nat.toDigits 10 lead.natAbs

/-- The text of the number. -/
def text (x : Magnitude) : List Char :=
  if x.isZero then ['0', '.', '0']
  else
    let d := x.shortest
    let digits := Nat.toDigits 10 d.digits
    let lead : Int := digits.length - 1 + d.exponent
    if leastPositional ≤ lead ∧ lead < firstScientific then positional digits (lead + 1)
    else scientific digits lead

end Magnitude

/-- The text of a signed number; negative zero keeps its sign. -/
def Double.text (x : Double) : List Char :=
  if x.negative then '-' :: x.magnitude.text else x.magnitude.text

end ReportRelay
