/-
# Dates and their numbers

Dates and day numbers stand for each other: the number of the date of a day is the day
(`toDays_ofDays`), and the date of the number of a date that the calendar has is the date
(`Valid.ofDays_toDays`).  The first of January 1970 has the number zero, and the date after a date
has the number after its number (`Valid.toDays_next`), so the numbering is the calendar's.

A day is placed by its cycle, the year of the cycle and the day of that year, which starts with
March.  `InCycle` says which places there are.  Both directions go by the place: a date has one
(`Valid.exists_inCycle`), a number has one (`exists_dayNumber`), and each of them is computed from
the place (`InCycle.ofDays`, `InCycle.toDays`).
-/
import Mathlib.Tactic.IntervalCases
import ReportRelay.Time.Calendar

namespace ReportRelay

namespace Date

/-! ## Leap years -/

/-- Every fourth year is a leap year, but of the full centuries only every fourth. -/
theorem isLeapYear_iff {year : Int} :
    isLeapYear year = true ↔ year % 4 = 0 ∧ (year % 100 ≠ 0 ∨ year % 400 = 0) := by
  simp [isLeapYear]

/-- The leap years are those of one cycle over and over. -/
theorem isLeapYear_cycle (cycle year : Int) :
    isLeapYear (cycle * 400 + year) = isLeapYear year := by
  rw [Bool.eq_iff_iff, isLeapYear_iff, isLeapYear_iff]
  omega

/-! ## Places in a cycle -/

/-- The days of a year that starts with March: it ends with the February of the next. -/
def daysOfYear (year : Int) : Int := if isLeapYear (year + 1) then 366 else 365

/-- A cycle has the year, and the year has the day. -/
structure InCycle (year day : Int) : Prop where
  /-- The years of a cycle count from zero. -/
  year_nonneg : 0 ≤ year
  /-- A cycle has four hundred years. -/
  year_lt : year < 400
  /-- The days of a year count from zero. -/
  day_nonneg : 0 ≤ day
  /-- The year is long enough. -/
  day_lt : day < daysOfYear year

variable {year day c a b e : Int}

/-- A year has at most three hundred and sixty-six days. -/
theorem InCycle.day_le (h : InCycle year day) : day ≤ 365 := by
  have hlt := h.day_lt
  unfold daysOfYear at hlt
  split at hlt <;> omega

/-- A year of a cycle is given by the century `a`, by the span `b` of four years in it and by the
year `e` of the span. -/
structure YearParts (a b e : Int) : Prop where
  /-- A cycle has four centuries. -/
  century : 0 ≤ a ∧ a ≤ 3
  /-- A century has twenty-five spans. -/
  span : 0 ≤ b ∧ b ≤ 24
  /-- A span has four years. -/
  single : 0 ≤ e ∧ e ≤ 3

/-- Every year of a cycle has its parts. -/
theorem exists_yearParts (h : 0 ≤ year ∧ year < 400) :
    ∃ a b e, YearParts a b e ∧ year = 100 * a + 4 * b + e :=
  ⟨year / 100, year % 100 / 4, year % 4, ⟨by omega, by omega, by omega⟩, by omega⟩

/-- The days before a year are those of the parts before it. -/
theorem YearParts.daysBeforeYear (h : YearParts a b e) :
    daysBeforeYear (100 * a + 4 * b + e) = 36524 * a + 1461 * b + 365 * e := by
  obtain ⟨_, _, _⟩ := h
  unfold Date.daysBeforeYear
  omega

/-- The last year of a span has a leap day, but in the last span of a century only if the century
is the last as well. -/
theorem YearParts.daysOfYear (h : YearParts a b e) :
    daysOfYear (100 * a + 4 * b + e) = if e = 3 ∧ (b = 24 → a = 3) then 366 else 365 := by
  obtain ⟨_, _, _⟩ := h
  have hleap : isLeapYear (100 * a + 4 * b + e + 1) = true ↔ e = 3 ∧ (b = 24 → a = 3) := by
    rw [isLeapYear_iff]
    omega
  simp only [Date.daysOfYear, hleap]

/-- The places in a cycle by the parts of the year. -/
theorem YearParts.inCycle_iff (h : YearParts a b e) :
    InCycle (100 * a + 4 * b + e) day
      ↔ 0 ≤ day ∧ (day ≤ 364 ∨ day = 365 ∧ e = 3 ∧ (b = 24 → a = 3)) := by
  have hdays := h.daysOfYear
  obtain ⟨_, _, _⟩ := h
  constructor
  · rintro ⟨-, -, hnonneg, hlt⟩
    rw [hdays] at hlt
    split at hlt <;> omega
  · intro hday
    refine ⟨by omega, by omega, hday.1, ?_⟩
    rw [hdays]
    split <;> omega

/-- A day of a cycle belongs to the year that it was counted in. -/
theorem InCycle.yearOfCycleDay (h : InCycle year day) :
    yearOfCycleDay (daysBeforeYear year + day) = year := by
  obtain ⟨a, b, e, hparts, rfl⟩ := exists_yearParts ⟨h.year_nonneg, h.year_lt⟩
  rw [hparts.daysBeforeYear]
  rw [hparts.inCycle_iff] at h
  obtain ⟨_, _, _⟩ := hparts
  unfold Date.yearOfCycleDay
  generalize hc : 36524 * a + 1461 * b + 365 * e + day = c
  -- the last day of the cycle is the one that all four quotients count
  by_cases hlast : c = 146096
  · omega
  · have hcycle : c / 146096 = 0 := by omega
    have hcentury : c / 36524 = a := by omega
    rw [hcycle, hcentury]
    -- the leap days of the century, and the one of the span if the day is late enough in it
    by_cases hlate : 1460 ≤ 24 * a + b + 365 * e + day
    · have hleap : c / 1460 = 25 * a + b + 1 := by omega
      omega
    · have hleap : c / 1460 = 25 * a + b := by omega
      omega

/-- A place is within the cycle. -/
theorem InCycle.lt_cycleDays (h : InCycle year day) :
    0 ≤ daysBeforeYear year + day ∧ daysBeforeYear year + day < cycleDays := by
  obtain ⟨a, b, e, hparts, rfl⟩ := exists_yearParts ⟨h.year_nonneg, h.year_lt⟩
  rw [hparts.daysBeforeYear]
  rw [hparts.inCycle_iff] at h
  obtain ⟨_, _, _⟩ := hparts
  unfold cycleDays
  omega

/-- Every day of a cycle has a place. -/
theorem exists_inCycle (hnonneg : 0 ≤ c) (hlt : c < cycleDays) :
    ∃ year day, InCycle year day ∧ c = daysBeforeYear year + day := by
  unfold cycleDays at hlt
  -- the last century and the last year of a span are a day longer than the division says
  obtain ⟨a, r, ha, hr, hc⟩ : ∃ a r : Int,
      (0 ≤ a ∧ a ≤ 3) ∧ (0 ≤ r ∧ (r < 36524 ∨ r = 36524 ∧ a = 3)) ∧ c = 36524 * a + r := by
    by_cases hlast : c = 146096
    · exact ⟨3, 36524, by omega, by omega, by omega⟩
    · exact ⟨c / 36524, c % 36524, by omega, by omega, by omega⟩
  obtain ⟨b, s, hb, hs, hspan⟩ : ∃ b s : Int,
      (0 ≤ b ∧ b ≤ 24) ∧ (0 ≤ s ∧ s ≤ 1460) ∧ r = 1461 * b + s :=
    ⟨r / 1461, r % 1461, by omega, by omega, by omega⟩
  obtain ⟨e, day, he, hday, hsingle⟩ : ∃ e day : Int,
      (0 ≤ e ∧ e ≤ 3) ∧ (0 ≤ day ∧ (day < 365 ∨ day = 365 ∧ e = 3)) ∧ s = 365 * e + day := by
    by_cases hlast : s = 1460
    · exact ⟨3, 365, by omega, by omega, by omega⟩
    · exact ⟨s / 365, s % 365, by omega, by omega, by omega⟩
  have hparts : YearParts a b e := ⟨ha, hb, he⟩
  refine ⟨100 * a + 4 * b + e, day, hparts.inCycle_iff.mpr (by omega), ?_⟩
  rw [hparts.daysBeforeYear]
  omega

/-! ## Months -/

/-- A day of a year lies in the month that the date of the day has. -/
theorem month_bounds (day : Int) :
    daysBeforeMonth ((5 * day + 2) / 153) ≤ day
      ∧ day < daysBeforeMonth ((5 * day + 2) / 153 + 1) := by
  unfold daysBeforeMonth
  omega

/-- There is one month that a day of a year lies in. -/
theorem month_eq {month : Int} (hle : daysBeforeMonth month ≤ day)
    (hlt : day < daysBeforeMonth (month + 1)) : (5 * day + 2) / 153 = month := by
  unfold daysBeforeMonth at hle hlt
  omega

/-- From March on the length of a month is the difference of the days before it and before the
next. -/
theorem daysInMonth_march (year : Int) {month : Nat} (hmarch : 3 ≤ month) (hdec : month ≤ 12) :
    (daysInMonth year month : Int)
      = daysBeforeMonth ((month : Int) - 3 + 1) - daysBeforeMonth ((month : Int) - 3) := by
  interval_cases month <;> rfl

/-- February has what the other months leave of the year. -/
theorem daysInMonth_february (cycle year : Int) :
    (daysInMonth (cycle * 400 + year + 1) 2 : Int) = daysOfYear year - 337 := by
  have hleap : isLeapYear (cycle * 400 + year + 1) = isLeapYear (year + 1) := by
    rw [Int.add_assoc, isLeapYear_cycle]
  rw [daysInMonth, if_pos rfl, hleap, daysOfYear]
  split <;> rfl

/-- A month has four weeks at least and thirty-one days at most. -/
theorem daysInMonth_bounds (year : Int) (month : Nat) :
    28 ≤ daysInMonth year month ∧ daysInMonth year month ≤ 31 := by
  unfold daysInMonth
  split_ifs <;> omega

/-! ## Dates and numbers of a place -/

/-- The date of a place. -/
def ofYearDay (cycle year day : Int) : Date :=
  let month := (5 * day + 2) / 153
  let dayOfMonth := (day - daysBeforeMonth month + 1).toNat
  if month < 10 then ⟨cycle * 400 + year, (month + 3).toNat, dayOfMonth⟩
  else ⟨cycle * 400 + year + 1, (month - 9).toNat, dayOfMonth⟩

/-- The number of a place. -/
def dayNumber (cycle year day : Int) : Int :=
  cycle * cycleDays + (daysBeforeYear year + day) - epochOffset

/-- The date of the number of a place is the date of the place. -/
theorem InCycle.ofDays (h : InCycle year day) (cycle : Int) :
    ofDays (dayNumber cycle year day) = ofYearDay cycle year day := by
  obtain ⟨hlow, hhigh⟩ := h.lt_cycleDays
  have hyear := h.yearOfCycleDay
  have hshift : dayNumber cycle year day + epochOffset
      = daysBeforeYear year + day + cycle * cycleDays := by
    unfold dayNumber
    omega
  have hcycle : (daysBeforeYear year + day + cycle * cycleDays) / cycleDays = cycle := by
    unfold cycleDays at *
    omega
  have hday : (daysBeforeYear year + day + cycle * cycleDays) % cycleDays
      = daysBeforeYear year + day := by
    unfold cycleDays at *
    omega
  have hrest : daysBeforeYear year + day - daysBeforeYear year = day := by omega
  simp only [Date.ofDays, hshift, hcycle, hday, hyear, hrest]
  rfl

/-- The number of the date of a place is the number of the place. -/
theorem InCycle.toDays (h : InCycle year day) (cycle : Int) :
    toDays (ofYearDay cycle year day) = dayNumber cycle year day := by
  have hday := h.day_le
  obtain ⟨hyear, hyear', hday', -⟩ := h
  obtain ⟨hle, -⟩ := month_bounds day
  unfold ofYearDay dayNumber
  generalize hmonth : (5 * day + 2) / 153 = month at *
  dsimp only
  split
  · have hcycle : (cycle * 400 + year) / 400 = cycle := by omega
    have hrest : (cycle * 400 + year) % 400 = year := by omega
    have hmarch : ¬ (month + 3).toNat ≤ 2 := by omega
    have hback : (((month + 3).toNat : Nat) : Int) - 3 = month := by omega
    simp only [Date.toDays, if_neg hmarch, hcycle, hrest, hback]
    omega
  · have hcycle : (cycle * 400 + year + 1 - 1) / 400 = cycle := by omega
    have hrest : (cycle * 400 + year + 1 - 1) % 400 = year := by omega
    have hmarch : (month - 9).toNat ≤ 2 := by omega
    have hback : (((month - 9).toNat : Nat) : Int) + 9 = month := by omega
    simp only [Date.toDays, if_pos hmarch, hcycle, hrest, hback]
    omega

/-- The calendar has the date of a place. -/
theorem InCycle.valid (h : InCycle year day) (cycle : Int) : (ofYearDay cycle year day).Valid := by
  have hday := h.day_le
  obtain ⟨-, -, hday', hlt⟩ := h
  obtain ⟨hle, hnext⟩ := month_bounds day
  unfold ofYearDay
  generalize hmonth : (5 * day + 2) / 153 = month at *
  dsimp only
  split
  · have hdays := daysInMonth_march (cycle * 400 + year)
      (show 3 ≤ (month + 3).toNat by omega) (by omega)
    rw [show (((month + 3).toNat : Nat) : Int) - 3 = month by omega] at hdays
    unfold Valid
    dsimp only
    omega
  · have hfirst : month = 10 ∨ month = 11 := by omega
    rcases hfirst with rfl | rfl
    · have hbefore : daysBeforeMonth 10 = 306 := rfl
      have hafter : daysBeforeMonth (10 + 1) = 337 := rfl
      have hdays : daysInMonth (cycle * 400 + year + 1) 1 = 31 := rfl
      show _ ∧ _ ∧ _ ∧ _ ≤ daysInMonth (cycle * 400 + year + 1) 1
      dsimp only
      omega
    · have hbefore : daysBeforeMonth 11 = 337 := rfl
      have hdays := daysInMonth_february cycle year
      show _ ∧ _ ∧ _ ∧ _ ≤ daysInMonth (cycle * 400 + year + 1) 2
      dsimp only
      omega

/-- Every date that the calendar has is the date of a place. -/
theorem Valid.exists_inCycle {date : Date} (h : date.Valid) :
    ∃ cycle year day, InCycle year day ∧ date = ofYearDay cycle year day := by
  obtain ⟨y, m, d⟩ := date
  obtain ⟨hmonth, hmonth', hday, hday'⟩ := h
  dsimp only at *
  by_cases hfirst : m ≤ 2
  -- January and February belong to the year that started with the March before
  · have hyear : (y - 1) / 400 * 400 + (y - 1) % 400 + 1 = y := by omega
    have hcase : m = 1 ∨ m = 2 := by omega
    rcases hcase with rfl | rfl
    · have hdays : daysInMonth y 1 = 31 := rfl
      have hplace : InCycle ((y - 1) % 400) (306 + (d - 1)) := by
        refine ⟨by omega, by omega, by omega, ?_⟩
        unfold daysOfYear
        split <;> omega
      have hten : (5 * (306 + ((d : Int) - 1)) + 2) / 153 = 10 := by omega
      refine ⟨(y - 1) / 400, _, _, hplace, ?_⟩
      simp only [ofYearDay, hten, daysBeforeMonth]
      rw [if_neg (by decide), Date.mk.injEq]
      omega
    · have hdays := daysInMonth_february ((y - 1) / 400) ((y - 1) % 400)
      rw [hyear] at hdays
      have hplace : InCycle ((y - 1) % 400) (337 + (d - 1)) :=
        ⟨by omega, by omega, by omega, by omega⟩
      have hle := hplace.day_le
      have heleven : (5 * (337 + ((d : Int) - 1)) + 2) / 153 = 11 := by omega
      refine ⟨(y - 1) / 400, _, _, hplace, ?_⟩
      simp only [ofYearDay, heleven, daysBeforeMonth]
      rw [if_neg (by decide), Date.mk.injEq]
      omega
  · have hdays := daysInMonth_march y (show 3 ≤ m by omega) hmonth'
    have hthis : (5 * (daysBeforeMonth (m - 3) + (d - 1)) + 2) / 153 = (m : Int) - 3 :=
      month_eq (by omega) (by omega)
    have hplace : InCycle (y % 400) (daysBeforeMonth (m - 3) + (d - 1)) := by
      unfold daysBeforeMonth at hdays ⊢
      refine ⟨by omega, by omega, by omega, ?_⟩
      unfold daysOfYear
      split <;> omega
    refine ⟨y / 400, _, _, hplace, ?_⟩
    simp only [ofYearDay, hthis]
    rw [if_pos (by omega), Date.mk.injEq]
    omega

/-- Every number is the number of a place. -/
theorem exists_dayNumber (days : Int) :
    ∃ cycle year day, InCycle year day ∧ days = dayNumber cycle year day := by
  have hnonneg : 0 ≤ (days + epochOffset) % cycleDays := Int.emod_nonneg _ (by decide)
  have hlt : (days + epochOffset) % cycleDays < cycleDays := Int.emod_lt_of_pos _ (by decide)
  obtain ⟨year, day, hplace, heq⟩ := exists_inCycle hnonneg hlt
  refine ⟨(days + epochOffset) / cycleDays, year, day, hplace, ?_⟩
  unfold dayNumber
  rw [← heq]
  unfold cycleDays
  omega

/-! ## Dates and numbers -/

/-- **The number of the date of a day is the day.** -/
theorem toDays_ofDays (days : Int) : (ofDays days).toDays = days := by
  obtain ⟨cycle, year, day, hplace, rfl⟩ := exists_dayNumber days
  rw [hplace.ofDays, hplace.toDays]

/-- The calendar has the date of every day. -/
theorem valid_ofDays (days : Int) : (ofDays days).Valid := by
  obtain ⟨cycle, year, day, hplace, rfl⟩ := exists_dayNumber days
  rw [hplace.ofDays]
  exact hplace.valid cycle

/-- **The date of the number of a date is the date**, if the calendar has it. -/
theorem Valid.ofDays_toDays {date : Date} (h : date.Valid) : ofDays date.toDays = date := by
  obtain ⟨cycle, year, day, hplace, rfl⟩ := h.exists_inCycle
  rw [hplace.toDays, hplace.ofDays]

/-- The numbers of the dates with a year of four digits. -/
theorem Valid.toDays_bounds {date : Date} (h : date.Valid)
    (hyear : 0 ≤ date.year ∧ date.year ≤ 9999) :
    -719528 ≤ date.toDays ∧ date.toDays ≤ 2932896 := by
  obtain ⟨-, hle⟩ := daysInMonth_bounds date.year date.month
  obtain ⟨hmonth, hmonth', hday, hday'⟩ := h
  unfold toDays daysBeforeYear daysBeforeMonth cycleDays epochOffset
  by_cases hfirst : date.month ≤ 2
  · simp only [if_pos hfirst]
    omega
  · simp only [if_neg hfirst]
    omega

/-! ## One day after another -/

/-- The date of the day after. -/
def next (date : Date) : Date :=
  if date.day < daysInMonth date.year date.month then { date with day := date.day + 1 }
  else if date.month < 12 then ⟨date.year, date.month + 1, 1⟩
  else ⟨date.year + 1, 1, 1⟩

/-- The calendar has the first day of every month. -/
theorem valid_first (year : Int) {month : Nat} (h : 1 ≤ month ∧ month ≤ 12) :
    Valid ⟨year, month, 1⟩ := by
  obtain ⟨hweeks, -⟩ := daysInMonth_bounds year month
  show 1 ≤ month ∧ month ≤ 12 ∧ 1 ≤ 1 ∧ 1 ≤ daysInMonth year month
  omega

/-- The calendar has the date after a date. -/
theorem Valid.next {date : Date} (h : date.Valid) : date.next.Valid := by
  obtain ⟨hmonth, hmonth', hday, hday'⟩ := h
  unfold Date.next
  split
  · next hless => exact ⟨hmonth, hmonth', Nat.succ_pos _, hless⟩
  · split
    · next hless => exact valid_first _ ⟨Nat.succ_pos _, hless⟩
    · exact valid_first _ (by decide)

/-- The first of March follows the last of February. -/
theorem toDays_march (year : Int) :
    toDays ⟨year, 3, 1⟩ = toDays ⟨year, 2, daysInMonth year 2⟩ + 1 := by
  have hleap := @isLeapYear_iff year
  have hdays : daysInMonth year 2 = if isLeapYear year then 29 else 28 := rfl
  rw [hdays]
  by_cases h : isLeapYear year = true
  · rw [if_pos h]
    rw [h] at hleap
    simp [toDays, daysBeforeYear, cycleDays, daysBeforeMonth] at *
    omega
  · rw [if_neg h]
    rw [hleap] at h
    simp [toDays, daysBeforeYear, cycleDays, daysBeforeMonth] at *
    omega

/-- **The days are numbered one by one**: the date after a date has the number after its
number. -/
theorem Valid.toDays_next {date : Date} (h : date.Valid) : date.next.toDays = date.toDays + 1 := by
  obtain ⟨year, month, day⟩ := date
  obtain ⟨hmonth, hmonth', hday, hday'⟩ := h
  dsimp only at *
  unfold Date.next
  split
  · simp only [toDays]
    omega
  · next hlast =>
      obtain rfl : day = daysInMonth year month := Nat.le_antisymm hday' (Nat.not_lt.mp hlast)
      split
      · next hless =>
          by_cases hfeb : month = 2
          · subst hfeb
            exact toDays_march year
          · dsimp only at hless
            interval_cases month
            all_goals
              first
                | exact absurd rfl hfeb
                | simp [toDays, daysInMonth, daysBeforeMonth]
                  omega
      · next hlast =>
          obtain rfl : month = 12 := Nat.le_antisymm hmonth' (Nat.not_lt.mp hlast)
          simp [toDays, daysInMonth, daysBeforeMonth]
          omega

/-- The date of the next number is the date after the date of the number. -/
theorem ofDays_succ (days : Int) : ofDays (days + 1) = (ofDays days).next := by
  have hvalid := valid_ofDays days
  have hnext := hvalid.toDays_next
  rw [toDays_ofDays] at hnext
  rw [← hnext, hvalid.next.ofDays_toDays]

/-- The numbering starts with the first of January 1970. -/
theorem ofDays_zero : ofDays 0 = ⟨1970, 1, 1⟩ := rfl

end Date

end ReportRelay
