/-
# Points in time

A point in time is a count of seconds since the start of 1970 and of nanoseconds within
the second.  A leap second has no count of its own: it is written as the second before it
with a thousand million nanoseconds or more.
-/
import ReportRelay.Time.Calendar

namespace ReportRelay

/-- A point in time. -/
structure Instant where
  /-- The seconds since the start of 1970 in universal time. -/
  seconds : Int
  /-- The nanoseconds within the second; from a thousand million on, within the leap
  second that follows. -/
  nanos : Nat
  deriving DecidableEq, Repr

namespace Instant

/-- The nanoseconds of a second. -/
def nanosPerSecond : Nat := 1000000000

/-- The seconds of a day. -/
def secondsPerDay : Int := 86400

/-- The least number of milliseconds that stands for a point in time. -/
def leastMillis : Int := -8334601228800000

/-- The greatest number of milliseconds that stands for a point in time. -/
def greatestMillis : Int := 8210266876799999

/-- The point in time so many milliseconds after the start of 1970, if it is in range. -/
def ofMillis? (n : Int) : Option Instant :=
  if leastMillis ≤ n ∧ n ≤ greatestMillis then
    some ⟨n / 1000, (n % 1000).toNat * 1000000⟩
  else none

/-! ## Text -/

/-- The decimal text of a number with zeros in front up to a width. -/
def padded (width n : Nat) : List Char :=
  let digits := Nat.toDigits 10 n
  List.replicate (width - digits.length) '0' ++ digits

/-- The text of a year: four digits, or a sign and at least four digits where four do not
suffice. -/
def yearText (year : Int) : List Char :=
  if 0 ≤ year ∧ year ≤ 9999 then padded 4 year.toNat
  else (if year < 0 then '-' else '+') :: padded 4 year.natAbs

/-- The text of a fraction of a second: none, three, six or nine digits, as few as hold
it. -/
def fractionText (nanos : Nat) : List Char :=
  if nanos = 0 then []
  else if nanos % 1000000 = 0 then '.' :: padded 3 (nanos / 1000000)
  else if nanos % 1000 = 0 then '.' :: padded 6 (nanos / 1000)
  else '.' :: padded 9 nanos

/-- The text of a time of day in seconds; a leap second is the sixtieth of its minute. -/
def timeText (secondOfDay nanos : Nat) : List Char :=
  let leap := nanosPerSecond ≤ nanos
  let second := secondOfDay % 60 + (if leap then 1 else 0)
  padded 2 (secondOfDay / 3600) ++ ':' :: padded 2 (secondOfDay / 60 % 60)
    ++ ':' :: padded 2 second
    ++ fractionText (if leap then nanos - nanosPerSecond else nanos)

/-- The text of a date. -/
def dateText (date : Date) : List Char :=
  yearText date.year ++ '-' :: padded 2 date.month ++ '-' :: padded 2 date.day

/-- The text of a point in time in universal time. -/
def text (t : Instant) : List Char :=
  dateText (Date.ofDays (t.seconds / secondsPerDay))
    ++ 'T' :: timeText (t.seconds % secondsPerDay).toNat t.nanos
    ++ "+00:00".toList

/-- The text as a string. -/
def render (t : Instant) : String := String.ofList t.text

end Instant

end ReportRelay
