/-
# Binary64 numbers

Finite binary64 numbers as exact dyadic rationals, rounding of a quotient to the
nearest of them, and the value of a decimal numeral.

A decimal numeral `s · 10 ^ e` is valued in two roundings: `s` is rounded first, and
the result is multiplied or divided once by the rounded power of ten.  So the value
is the nearest number when `s` is below `2 ^ 53` and `|e|` is at most `22`, and may be
one unit away from it beyond.
-/

namespace ReportRelay

/-! ## Magnitudes -/

/-- A finite non-negative binary64 number, `significand · 2 ^ exponent`.

Numbers built here have a significand below `2 ^ 53`, and one below `2 ^ 52` only with
the least exponent, so that each number has one form. -/
structure Magnitude where
  /-- The integer that is scaled. -/
  significand : Nat
  /-- The power of two that scales it. -/
  exponent : Int
  deriving DecidableEq, Repr, Inhabited

namespace Magnitude

/-- The exponent of the subnormal numbers. -/
def leastExponent : Int := -1074

/-- The exponent of the largest finite numbers. -/
def greatestExponent : Int := 971

/-- The number zero. -/
def zero : Magnitude := ⟨0, leastExponent⟩

/-- Tells whether the number is zero. -/
def isZero (x : Magnitude) : Bool := x.significand == 0

/-- The integer nearest to `num / den`; halfway between two it is the even one. -/
def roundHalfEven (num den : Nat) : Nat :=
  let q := num / den
  let r := num % den
  if 2 * r > den || (2 * r == den && q % 2 == 1) then q + 1 else q

/-- The exponent at which `num / den` has a significand of 53 bits, but never below
the least one. -/
def exponentFor (num den : Nat) : Int :=
  let size : Int := (Nat.log2 num : Int) - Nat.log2 den
  let reached := den <<< size.toNat ≤ num <<< (-size).toNat
  max leastExponent (if reached then size - 52 else size - 53)

/-- The number nearest to `num / den`, ties to the even significand; nothing when that
is beyond the largest finite number. -/
def ofRatio? (num den : Nat) : Option Magnitude :=
  if num = 0 then some zero
  else
    let e := exponentFor num den
    let s := roundHalfEven (num <<< (-e).toNat) (den <<< e.toNat)
    let x : Magnitude := if s = 1 <<< 53 then ⟨1 <<< 52, e + 1⟩ else ⟨s, e⟩
    if greatestExponent < x.exponent then none else some x

/-- The number nearest to `num / den · 2 ^ e`. -/
def ofScaledRatio? (num den : Nat) (e : Int) : Option Magnitude :=
  ofRatio? (num <<< e.toNat) (den <<< (-e).toNat)

/-- The rounded product. -/
def mul? (x y : Magnitude) : Option Magnitude :=
  ofScaledRatio? (x.significand * y.significand) 1 (x.exponent + y.exponent)

/-- The rounded quotient. -/
def div? (x y : Magnitude) : Option Magnitude :=
  ofScaledRatio? x.significand y.significand (x.exponent - y.exponent)

/-! ## The value of a decimal numeral -/

/-- The exponent of the largest power of ten that is a finite number. -/
def greatestTenPower : Nat := 308

/-- The power of ten as a number. -/
def tenPower? (e : Nat) : Option Magnitude := ofRatio? (Nat.pow 10 e) 1

/-- Multiplies by `10 ^ e`; only zero can be scaled beyond the greatest power of ten. -/
def scaleUp? (x : Magnitude) (e : Nat) : Option Magnitude :=
  if e ≤ greatestTenPower then (tenPower? e).bind x.mul?
  else if x.isZero then some x
  else none

/-- Divides by the greatest power of ten a number of times, while anything is left to
divide. -/
def divideStrides? : Nat → Magnitude → Option Magnitude
  | 0, x => some x
  | n + 1, x =>
    if x.isZero then some x
    else ((tenPower? greatestTenPower).bind x.div?).bind (divideStrides? n)

/-- Divides by `10 ^ e`, in strides of the greatest power of ten and a last one of what
remains. -/
def scaleDown? (x : Magnitude) (e : Nat) : Option Magnitude :=
  let strides := (e - 1) / greatestTenPower
  (divideStrides? strides x).bind fun y =>
    (tenPower? (e - strides * greatestTenPower)).bind y.div?

/-- The value of the numeral `digits · 10 ^ e`; nothing when it is too large. -/
def ofDecimal? (digits : Nat) (e : Int) : Option Magnitude :=
  match ofRatio? digits 1 with
  | none => none
  | some x => if 0 ≤ e then x.scaleUp? e.toNat else x.scaleDown? (-e).toNat

end Magnitude

/-! ## Signed numbers -/

/-- A finite binary64 number; zero has two signs. -/
structure Double where
  /-- Whether the sign is minus. -/
  negative : Bool
  /-- The number without its sign. -/
  magnitude : Magnitude
  deriving DecidableEq, Repr, Inhabited

end ReportRelay
