/-
# Points in time and their texts

The text of a point in time spells its timestamp in universal time (`Instant.spells_text`), and
this timestamp stands for the point in time that was written (`Instant.instant_inUtc`).

Timestamps with different offsets stand for the same point in time if their local times differ by
the same number of minutes (`Timestamp.instant_moved`), whatever ends of days, months and years
the local time is carried over.
-/
import ReportRelay.Proofs.Time.Rfc3339

namespace ReportRelay

namespace Rfc3339

open Instant (fractionText dateText nanosPerSecond secondsPerDay)

namespace Timestamp

variable {t : Timestamp}

/-! ## The text of a timestamp -/

/-- The text of a timestamp. -/
def text (t : Timestamp) : List Char :=
  dateText t.date ++ 'T' :: (t.clockText ++ fractionText t.nanos ++ offsetText t.offset)

/-- A timestamp that is spelled is in range, with less than a second of nanoseconds. -/
theorem Spells.inRange {text : List Char} (h : t.Spells text) :
    t.InRange ∧ t.nanos < nanosPerSecond := by
  obtain ⟨range, -, hfraction, -⟩ := h
  exact ⟨range, hfraction.lt⟩

/-- The text of a timestamp in range spells it. -/
theorem spells_text (range : t.InRange) (hnanos : t.nanos < nanosPerSecond)
    (hoffset : -1440 < t.offset ∧ t.offset < 1440) : t.Spells t.text :=
  .mk range rfl (spellsFraction_fractionText hnanos) (spellsOffset_offsetText hoffset)

/-! ## Local time -/

/-- The minutes of local time since the start of 1970. -/
def localMinutes (t : Timestamp) : Int := t.date.toDays * 1440 + 60 * t.hour + t.minute

/-- The timestamp with the local time and the offset moved by so many minutes. -/
def moved (minutes : Int) (t : Timestamp) : Timestamp :=
  let later := t.localMinutes + minutes
  { t with
    date := Date.ofDays (later / 1440)
    hour := (later % 1440 / 60).toNat
    minute := (later % 60).toNat
    offset := t.offset + minutes }

/-- The local time is moved by the minutes. -/
theorem localMinutes_moved (minutes : Int) (t : Timestamp) :
    (t.moved minutes).localMinutes = t.localMinutes + minutes := by
  unfold moved
  generalize t.localMinutes + minutes = later
  simp only [localMinutes, Date.toDays_ofDays]
  omega

/-- A timestamp stands for a point in time by its local minute, its offset and what it has beside
whole minutes. -/
theorem instant_eq (t : Timestamp) :
    t.instant = ⟨60 * (t.localMinutes - t.offset) + (if t.second = 60 then 59 else t.second : Nat),
      if t.second = 60 then t.nanos + nanosPerSecond else t.nanos⟩ := by
  unfold instant localMinutes secondsPerDay
  rw [Instant.mk.injEq]
  refine ⟨?_, rfl⟩
  split <;> omega

/-- **Moving the local time and the offset together does not change the point in time.** -/
theorem instant_moved (minutes : Int) (t : Timestamp) :
    (t.moved minutes).instant = t.instant := by
  rw [instant_eq, instant_eq, localMinutes_moved]
  have hsame : t.localMinutes + minutes - (t.moved minutes).offset = t.localMinutes - t.offset := by
    show t.localMinutes + minutes - (t.offset + minutes) = _
    omega
  rw [hsame]
  rfl

/-- A moved timestamp is in range if its year has four digits. -/
theorem InRange.moved (range : t.InRange) {minutes : Int}
    (hyear : 0 ≤ (t.moved minutes).date.year ∧ (t.moved minutes).date.year ≤ 9999) :
    (t.moved minutes).InRange := by
  refine ⟨Date.valid_ofDays _, hyear, ?_, ?_, range.second⟩
  · show (_ % 1440 / 60 : Int).toNat < 24
    omega
  · show (_ % 60 : Int).toNat < 60
    omega

end Timestamp

end Rfc3339

namespace Instant

open Rfc3339 (Timestamp)

variable {t : Instant}

/-! ## Universal time -/

/-- The year of a point in time in universal time. -/
def year (t : Instant) : Int := (Date.ofDays (t.seconds / secondsPerDay)).year

/-- The nanoseconds are within the second, or within the leap second that follows the last second
of a minute. -/
def Proper (t : Instant) : Prop :=
  t.nanos < nanosPerSecond ∨ t.nanos < 2 * nanosPerSecond ∧ t.seconds % 60 = 59

/-- A timestamp in range stands for a proper point in time. -/
theorem proper_instant {t : Timestamp} (range : t.InRange) (hnanos : t.nanos < nanosPerSecond) :
    t.instant.Proper := by
  have hsecond := range.second
  unfold nanosPerSecond at hnanos
  rw [Timestamp.instant_eq]
  unfold Proper nanosPerSecond
  dsimp only
  split
  · right
    omega
  · left
    omega

/-- The timestamp of a point in time in universal time. -/
def inUtc (t : Instant) : Timestamp :=
  let secondOfDay := (t.seconds % secondsPerDay).toNat
  let leap := nanosPerSecond ≤ t.nanos
  { date := Date.ofDays (t.seconds / secondsPerDay)
    hour := secondOfDay / 3600
    minute := secondOfDay / 60 % 60
    second := secondOfDay % 60 + if leap then 1 else 0
    nanos := if leap then t.nanos - nanosPerSecond else t.nanos
    offset := 0 }

/-- **The timestamp in universal time stands for the point in time.** -/
theorem instant_inUtc (h : t.Proper) : t.inUtc.instant = t := by
  obtain ⟨seconds, nanos⟩ := t
  unfold Proper at h
  rw [Timestamp.instant_eq, mk.injEq]
  unfold inUtc Timestamp.localMinutes secondsPerDay
  simp only [Date.toDays_ofDays]
  unfold nanosPerSecond at *
  dsimp only at h
  constructor
  · split_ifs <;> omega
  · split_ifs <;> omega

/-- The timestamp in universal time is in range if the year has four digits. -/
theorem inRange_inUtc (t : Instant) (hyear : 0 ≤ t.year ∧ t.year ≤ 9999) : t.inUtc.InRange := by
  refine ⟨Date.valid_ofDays _, hyear, ?_, ?_, ?_⟩
  · show (t.seconds % 86400).toNat / 3600 < 24
    omega
  · exact Nat.mod_lt _ (by decide)
  · show (t.seconds % 86400).toNat % 60 + (if _ then 1 else 0) ≤ 60
    split <;> omega

/-- The timestamp in universal time has less than a second of nanoseconds. -/
theorem nanos_inUtc_lt (h : t.Proper) : t.inUtc.nanos < nanosPerSecond := by
  show (if nanosPerSecond ≤ t.nanos then t.nanos - nanosPerSecond else t.nanos) < nanosPerSecond
  unfold Proper nanosPerSecond at *
  split <;> omega

/-- The text of a point in time is that of its timestamp in universal time. -/
theorem text_eq (t : Instant) : t.text = t.inUtc.text := by
  have hoffset : Rfc3339.offsetText 0 = "+00:00".toList := rfl
  unfold text timeText Timestamp.text Timestamp.clockText inUtc
  dsimp only
  rw [hoffset]
  simp only [List.append_assoc, List.cons_append]

/-- **The text of a point in time spells its timestamp in universal time.** -/
theorem spells_text (h : t.Proper) (hyear : 0 ≤ t.year ∧ t.year ≤ 9999) :
    t.inUtc.Spells t.text := by
  have hoffset : -1440 < t.inUtc.offset ∧ t.inUtc.offset < 1440 := by
    show (-1440 : Int) < 0 ∧ (0 : Int) < 1440
    decide
  rw [text_eq]
  exact Timestamp.spells_text (inRange_inUtc t hyear) (nanos_inUtc_lt h) hoffset

/-! ## Milliseconds -/

/-- The point in time is so many milliseconds after the start of 1970. -/
def IsMillis (t : Instant) (n : Int) : Prop :=
  t.nanos < nanosPerSecond ∧ t.seconds * nanosPerSecond + t.nanos = n * 1000000

/-- One point in time is so many milliseconds after the start of 1970. -/
theorem isMillis_iff {n : Int} : t.IsMillis n ↔ t = ⟨n / 1000, (n % 1000).toNat * 1000000⟩ := by
  obtain ⟨seconds, nanos⟩ := t
  unfold IsMillis nanosPerSecond
  rw [mk.injEq]
  dsimp only
  omega

/-- The milliseconds of a point in time are in range if the year has four digits. -/
theorem IsMillis.bounds {n : Int} (h : t.IsMillis n) (hyear : 0 ≤ t.year ∧ t.year ≤ 9999) :
    leastMillis ≤ n ∧ n ≤ greatestMillis := by
  have hdays := (Date.valid_ofDays (t.seconds / secondsPerDay)).toDays_bounds hyear
  rw [Date.toDays_ofDays] at hdays
  unfold IsMillis nanosPerSecond at h
  unfold secondsPerDay at hdays
  unfold leastMillis greatestMillis
  omega

/-- A signed word has room for the milliseconds of a point in time if the year has four digits. -/
theorem IsMillis.fits {n : Int} (h : t.IsMillis n) (hyear : 0 ≤ t.year ∧ t.year ≤ 9999) :
    -0x8000000000000000 ≤ n ∧ n < 0x8000000000000000 := by
  have hbounds := h.bounds hyear
  unfold leastMillis greatestMillis at hbounds
  omega

/-- **A number of milliseconds stands for the point in time that is as many after the start of
1970**, if its year has four digits. -/
theorem IsMillis.ofMillis? {n : Int} (h : t.IsMillis n) (hyear : 0 ≤ t.year ∧ t.year ≤ 9999) :
    ofMillis? n = some t := by
  rw [Instant.ofMillis?, if_pos (h.bounds hyear), isMillis_iff.mp h]

/-- A point in time that whole milliseconds stand for is proper. -/
theorem IsMillis.proper {n : Int} (h : t.IsMillis n) : t.Proper := .inl h.1

end Instant

end ReportRelay
