/-
# The calendar

Dates of the proleptic Gregorian calendar, which has a year zero, and their numbering by
days since the first of January 1970.

The numbering counts years from the first of March, so that the leap day is the last day
of its year, and works in cycles of four hundred years, which all have the same number of
days.
-/

namespace ReportRelay

/-- A date: the month is from one to twelve and the day counts from one. -/
structure Date where
  /-- The year, with a year zero before the year one. -/
  year : Int
  /-- The month. -/
  month : Nat
  /-- The day of the month. -/
  day : Nat
  deriving DecidableEq, Repr

namespace Date

/-! ## Valid dates -/

/-- Every fourth year is a leap year, but of the full centuries only every fourth. -/
def isLeapYear (year : Int) : Bool :=
  year % 4 = 0 && (year % 100 ≠ 0 || year % 400 = 0)

/-- The number of days of a month. -/
def daysInMonth (year : Int) (month : Nat) : Nat :=
  if month = 2 then (if isLeapYear year then 29 else 28)
  else if month = 4 ∨ month = 6 ∨ month = 9 ∨ month = 11 then 30
  else 31

/-- A date that the calendar has. -/
def Valid (date : Date) : Prop :=
  1 ≤ date.month ∧ date.month ≤ 12 ∧ 1 ≤ date.day ∧ date.day ≤ daysInMonth date.year date.month

instance (date : Date) : Decidable date.Valid := by unfold Valid; infer_instance

/-! ## Day numbers -/

/-- The days of a cycle of four hundred years. -/
def cycleDays : Int := 146097

/-- The days from the first of March of the year zero to the first of January 1970. -/
def epochOffset : Int := 719468

/-- The days before the month in a year that starts with March, which is month zero. -/
def daysBeforeMonth (month : Int) : Int := (153 * month + 2) / 5

/-- The days before a year in its cycle, which starts with year zero. -/
def daysBeforeYear (year : Int) : Int := 365 * year + year / 4 - year / 100

/-- The number of days from the first of January 1970 to the date. -/
def toDays (date : Date) : Int :=
  let year := if date.month ≤ 2 then date.year - 1 else date.year
  let month : Int := if date.month ≤ 2 then date.month + 9 else date.month - 3
  let cycle := year / 400
  cycle * cycleDays + daysBeforeYear (year % 400) + daysBeforeMonth month + (date.day - 1)
    - epochOffset

/-- The year of the cycle to which a day of the cycle belongs. -/
def yearOfCycleDay (day : Int) : Int :=
  (day - day / 1460 + day / 36524 - day / 146096) / 365

/-- The date so many days after the first of January 1970. -/
def ofDays (days : Int) : Date :=
  let shifted := days + epochOffset
  let cycle := shifted / cycleDays
  let cycleDay := shifted % cycleDays
  let year := yearOfCycleDay cycleDay
  let yearDay := cycleDay - daysBeforeYear year
  let month := (5 * yearDay + 2) / 153
  let day := (yearDay - daysBeforeMonth month + 1).toNat
  if month < 10 then ⟨cycle * 400 + year, (month + 3).toNat, day⟩
  else ⟨cycle * 400 + year + 1, (month - 9).toNat, day⟩

end Date

end ReportRelay
