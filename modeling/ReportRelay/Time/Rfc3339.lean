/-
# Reading points in time

Timestamps as internet protocols write them: a date of four, two and two digits, a
separator, a time of day with an optional fraction, and the offset from universal time.
The second may be the sixtieth, a leap second; of the fraction nine digits count.
-/
import ReportRelay.Decimal.Digits
import ReportRelay.Time.Instant

namespace ReportRelay

namespace Rfc3339

/-! ## Pieces -/

/-- A number of exactly so many digits. -/
def fixedDigits (count : Nat) (text : List Char) : Option (Nat × List Char) :=
  let digits := leadingDigits 10 (text.take count)
  if digits.length = count then some (ofDigits 10 digits, text.drop count) else none

/-- A given character. -/
def literal (c : Char) : List Char → Option (List Char)
  | d :: rest => if d = c then some rest else none
  | [] => none

/-- The nanoseconds that the digits after the point stand for; digits after the ninth do
not count. -/
def nanosOfDigits (digits : List Nat) : Nat :=
  let kept := digits.take 9
  ofDigits 10 kept * Nat.pow 10 (9 - kept.length)

/-- The optional fraction of a second, which has at least one digit. -/
def fraction (text : List Char) : Option (Nat × List Char) :=
  match text with
  | '.' :: rest =>
    let digits := leadingDigits 10 rest
    if digits.isEmpty then none else some (nanosOfDigits digits, afterDigits 10 rest)
  | _ => some (0, text)

/-- The offset from universal time in minutes: the letter for none, or a sign, hours below
twenty-four and minutes below sixty. -/
def offset (text : List Char) : Option (Int × List Char) :=
  match text with
  | [] => none
  | c :: rest =>
    if c = 'Z' ∨ c = 'z' then some (0, rest)
    else if c = '+' ∨ c = '-' ∨ c = '\u2212' then do
      let (hours, rest) ← fixedDigits 2 rest
      let rest ← literal ':' rest
      let (minutes, rest) ← fixedDigits 2 rest
      if hours < 24 ∧ minutes < 60 then
        let n : Int := 60 * hours + minutes
        some (if c = '+' then n else -n, rest)
      else none
    else none

/-! ## Timestamps -/

/-- A timestamp as it is spelled: local date and time, and the offset from universal time
in minutes. -/
structure Timestamp where
  /-- The local date. -/
  date : Date
  /-- The local hour. -/
  hour : Nat
  /-- The local minute. -/
  minute : Nat
  /-- The local second, sixty for a leap second. -/
  second : Nat
  /-- The nanoseconds within the second. -/
  nanos : Nat
  /-- The minutes by which local time is ahead of universal time. -/
  offset : Int
  deriving DecidableEq, Repr

/-- The separator of date and time. -/
def isSeparator (c : Char) : Bool := c = 'T' || c = 't' || c = ' '

/-- The timestamp that the whole text spells. -/
def timestamp? (text : List Char) : Option Timestamp := do
  let (year, text) ← fixedDigits 4 text
  let text ← literal '-' text
  let (month, text) ← fixedDigits 2 text
  let text ← literal '-' text
  let (day, text) ← fixedDigits 2 text
  let text ← match text with
    | c :: rest => if isSeparator c then some rest else none
    | [] => none
  let (hour, text) ← fixedDigits 2 text
  let text ← literal ':' text
  let (minute, text) ← fixedDigits 2 text
  let text ← literal ':' text
  let (second, text) ← fixedDigits 2 text
  let (nanos, text) ← fraction text
  let (ahead, text) ← offset text
  let date : Date := ⟨year, month, day⟩
  if text.isEmpty ∧ date.Valid ∧ hour < 24 ∧ minute < 60 ∧ second ≤ 60 then
    some ⟨date, hour, minute, second, nanos, ahead⟩
  else none

/-- The point in time of a timestamp; a leap second is counted with the second before it. -/
def Timestamp.instant (t : Timestamp) : Instant :=
  let leap := t.second = 60
  let second := if leap then 59 else t.second
  let ofDay : Int := 3600 * t.hour + 60 * t.minute + second
  ⟨t.date.toDays * Instant.secondsPerDay + ofDay - 60 * t.offset,
    if leap then t.nanos + Instant.nanosPerSecond else t.nanos⟩

/-- The point in time that the whole text spells. -/
def parse? (text : List Char) : Option Instant :=
  (timestamp? text).map Timestamp.instant

end Rfc3339

end ReportRelay
