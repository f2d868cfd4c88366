/-
# Spellings of a timestamp

A text is read as a timestamp if it spells it: `Timestamp.Spells` states the spellings, with the
separators, the fractions and the offsets that there are, and the reader accepts exactly these
texts (`timestamp?_iff`).

Each piece is read back from where it was written.  A number of a fixed width is the number with
zeros in front (`fixedDigits_iff`); a fraction and an offset end where they have to, since no
offset starts like the rest of a fraction.
-/
import Mathlib.Data.List.Induction
import Mathlib.Data.List.TakeWhile
import ReportRelay.Proofs.Json.Tokens
import ReportRelay.Proofs.Time.Calendar
import ReportRelay.Time.Rfc3339

namespace ReportRelay

namespace Rfc3339

open Instant (padded fractionText dateText nanosPerSecond)

/-! ## Rows of digits -/

/-- All characters of the text are digits. -/
def AllDigits (text : List Char) : Prop := ∀ c ∈ text, (digit? 10 c).isSome = true

/-- The values of the digits of a text. -/
def values (text : List Char) : List Nat := text.filterMap (digit? 10)

/-- The number that the digits of a text stand for. -/
def value (text : List Char) : Nat := ofDigits 10 (values text)

variable {text rest : List Char} {width n : Nat} {ahead : Int}

/-- A digit is the character of its value. -/
theorem exists_digitChar {c : Char} (h : (digit? 10 c).isSome = true) :
    ∃ d < 10, c = Nat.digitChar d := by
  -- the letters stand for digits from ten on
  have hdigit : c.isDigit = true := by
    by_contra hnot
    unfold digit? at h
    dsimp only at h
    rw [if_neg hnot] at h
    split_ifs at h <;> first | omega | cases h
  have hbounds := Char.isDigit_iff_toNat.mp hdigit
  simp only [Char.reduceToNat] at hbounds
  have hlt : c.toNat - 48 < 10 := by omega
  refine ⟨c.toNat - 48, hlt, Char.toNat_inj.mp ?_⟩
  rw [Nat.toNat_digitChar_of_lt_ten hlt]
  omega

/-- The characters of the values below ten are digits. -/
theorem isSome_digit?_digitChar {d : Nat} (h : d < 10) :
    (digit? 10 (Nat.digitChar d)).isSome = true := by
  rw [Json.digit?_digitChar (by decide) h]
  rfl

/-- One more digit. -/
theorem value_concat (text : List Char) {d : Nat} (h : d < 10) :
    value (text ++ [Nat.digitChar d]) = 10 * value text + d := by
  have hd : digit? 10 (Nat.digitChar d) = some d := Json.digit?_digitChar (by decide) h
  unfold value values ofDigits
  rw [List.filterMap_append, List.filterMap_cons_some hd, List.filterMap_nil, List.foldl_append]
  rfl

/-- The values of digits are below ten. -/
theorem lt_of_mem_values {d : Nat} (h : d ∈ values text) : d < 10 := by
  obtain ⟨c, -, hc⟩ := List.mem_filterMap.mp h
  obtain ⟨e, he, rfl⟩ := exists_digitChar (by rw [hc]; rfl)
  rw [Json.digit?_digitChar (by decide) he] at hc
  cases hc
  exact he

/-- A row of digits stands for a number that its length can hold. -/
theorem ofDigits_lt {digits : List Nat} (h : ∀ d ∈ digits, d < 10) :
    ofDigits 10 digits < 10 ^ digits.length := by
  induction digits using List.reverseRecOn with
  | nil => exact Nat.zero_lt_one
  | append_singleton digits d ih =>
      have hinit := ih fun d hd => h d (List.mem_append_left _ hd)
      have hd := h d (List.mem_append_right _ (List.mem_singleton_self d))
      have hconcat : ofDigits 10 (digits ++ [d]) = 10 * ofDigits 10 digits + d := by
        rw [ofDigits, List.foldl_append]
        rfl
      rw [hconcat, List.length_append, List.length_singleton, Nat.pow_succ]
      omega

/-- A row of digits has as many values. -/
theorem AllDigits.length_values (h : AllDigits text) : (values text).length = text.length :=
  List.filterMap_length_eq_length.mpr h

/-! ## Numbers of a fixed width -/

/-- A number of one digit. -/
theorem padded_one (h : n < 10) : padded 1 n = [Nat.digitChar n] := by
  unfold padded
  rw [Nat.toDigits_of_lt_base h]
  rfl

/-- The last digit of a number comes last. -/
theorem padded_succ (hwidth : 0 < width) (n : Nat) :
    padded (width + 1) n = padded width (n / 10) ++ [Nat.digitChar (n % 10)] := by
  unfold padded
  rw [Nat.toDigits_eq_if (by decide)]
  split
  · next hsmall =>
      obtain ⟨width, rfl⟩ := Nat.exists_eq_succ_of_ne_zero (Nat.ne_of_gt hwidth)
      rw [Nat.div_eq_of_lt hsmall, Nat.mod_eq_of_lt hsmall]
      simp [List.replicate_succ']
  · simp

/-- A number that the width holds is written as a row of that many digits that stands for it. -/
theorem padded_digits (hwidth : 0 < width) (h : n < 10 ^ width) :
    AllDigits (padded width n) ∧ (padded width n).length = width
      ∧ value (padded width n) = n := by
  induction width, hwidth using Nat.le_induction generalizing n with
  | base =>
      have hone : n < 10 := h
      rw [padded_one hone]
      refine ⟨fun c hc => ?_, rfl, ?_⟩
      · rw [List.mem_singleton.mp hc]
        exact isSome_digit?_digitChar hone
      · rw [← List.nil_append [_], value_concat [] hone]
        exact Nat.zero_add n
  | succ width hwidth ih =>
      have hlast : n % 10 < 10 := Nat.mod_lt _ (by decide)
      rw [Nat.pow_succ] at h
      obtain ⟨hall, hlength, hvalue⟩ := ih (show n / 10 < 10 ^ width by omega)
      rw [padded_succ hwidth]
      refine ⟨fun c hc => ?_, ?_, ?_⟩
      · rcases List.mem_append.mp hc with hc | hc
        · exact hall c hc
        · rw [List.mem_singleton.mp hc]
          exact isSome_digit?_digitChar hlast
      · rw [List.length_append, hlength, List.length_singleton]
      · rw [value_concat _ hlast, hvalue]
        exact Nat.div_add_mod n 10

/-- A row of digits is how its number is written in that width. -/
theorem AllDigits.eq_padded (h : AllDigits text) (hne : text ≠ []) :
    padded text.length (value text) = text := by
  induction text using List.reverseRecOn with
  | nil => exact absurd rfl hne
  | append_singleton text c ih =>
      obtain ⟨d, hd, rfl⟩ := exists_digitChar (h c (by simp))
      rw [value_concat text hd, List.length_append, List.length_singleton]
      rcases Nat.eq_zero_or_pos text.length with hnil | hpos
      · rw [List.length_eq_zero_iff] at hnil
        subst hnil
        exact (congrArg _ (Nat.zero_add d)).trans (padded_one hd)
      · have hinit := ih (fun c hc => h c (List.mem_append_left _ hc)) (List.length_pos_iff.mp hpos)
        have hdiv : (10 * value text + d) / 10 = value text := by omega
        have hmod : (10 * value text + d) % 10 = d := by omega
        rw [padded_succ hpos, hdiv, hmod, hinit]

/-- A row of digits is read as its values. -/
theorem AllDigits.leadingDigits_eq (h : AllDigits text) : leadingDigits 10 text = values text := by
  rw [leadingDigits, List.takeWhile_eq_self_iff.mpr h, values]

/-- A text with as many digits at its front as it has characters is a row of digits. -/
theorem allDigits_of_length_le (h : text.length ≤ (leadingDigits 10 text).length) :
    AllDigits text := by
  have hle := Nat.le_trans h (List.length_filterMap_le _ _)
  exact List.takeWhile_eq_self_iff.mp ((List.takeWhile_sublist _).eq_of_length_le hle)

/-- **A number of a fixed width is read from its text with zeros in front**, and from no other. -/
theorem fixedDigits_iff (hwidth : 0 < width) :
    fixedDigits width text = some (n, rest) ↔ n < 10 ^ width ∧ text = padded width n ++ rest := by
  unfold fixedDigits
  dsimp only
  constructor
  · intro h
    split at h
    · next hlength =>
        cases h
        have hall : AllDigits (text.take width) :=
          allDigits_of_length_le (by rw [hlength]; exact List.length_take_le _ _)
        rw [hall.leadingDigits_eq] at hlength ⊢
        rw [hall.length_values] at hlength
        have htext := hall.eq_padded (List.length_pos_iff.mp (by omega))
        have hlt : value (text.take width) < 10 ^ (values (text.take width)).length :=
          ofDigits_lt fun _ => lt_of_mem_values
        rw [hall.length_values, hlength] at hlt
        rw [hlength] at htext
        refine ⟨hlt, ?_⟩
        show text = padded width (value (text.take width)) ++ _
        rw [htext, List.take_append_drop]
    · cases h
  · rintro ⟨hlt, rfl⟩
    obtain ⟨hall, hlength, hvalue⟩ := padded_digits hwidth hlt
    rw [List.take_left' hlength, List.drop_left' hlength, hall.leadingDigits_eq,
      if_pos (hall.length_values.trans hlength)]
    show some (value _, rest) = _
    rw [hvalue]

/-- A character is read where it stands. -/
theorem literal_iff {c : Char} : literal c text = some rest ↔ text = c :: rest := by
  cases text with
  | nil => simp [literal]
  | cons d text => simp [literal]

/-- A reader that starts with a number of a fixed width goes on after it. -/
theorem bind_fixedDigits_iff {α : Type} {a : α} {f : Nat × List Char → Option α}
    (hwidth : 0 < width) :
    (fixedDigits width text >>= f) = some a
      ↔ ∃ n rest, n < 10 ^ width ∧ text = padded width n ++ rest ∧ f (n, rest) = some a := by
  rw [Option.bind_eq_bind, Option.bind_eq_some_iff]
  constructor
  · rintro ⟨⟨n, rest⟩, hread, h⟩
    obtain ⟨hlt, htext⟩ := (fixedDigits_iff hwidth).mp hread
    exact ⟨n, rest, hlt, htext, h⟩
  · rintro ⟨n, rest, hlt, htext, h⟩
    exact ⟨(n, rest), (fixedDigits_iff hwidth).mpr ⟨hlt, htext⟩, h⟩

/-- A reader that starts with a given character goes on after it. -/
theorem bind_literal_iff {α : Type} {a : α} {c : Char} {f : List Char → Option α} :
    (literal c text >>= f) = some a ↔ ∃ rest, text = c :: rest ∧ f rest = some a := by
  rw [Option.bind_eq_bind, Option.bind_eq_some_iff]
  simp only [literal_iff]

/-! ## Fractions -/

/-- The spellings of a fraction of a second: none at all, or a point and at least one digit. -/
inductive SpellsFraction : Nat → List Char → Prop
  | whole : SpellsFraction 0 []
  | digits {row : List Char} (hne : row ≠ []) (hall : AllDigits row) :
      SpellsFraction (nanosOfDigits (values row)) ('.' :: row)

/-- The text goes on with neither a digit nor a point, as every offset does. -/
def StartsOffset (rest : List Char) : Prop :=
  ∀ c ∈ rest.head?, (digit? 10 c).isSome = false ∧ c ≠ '.'

/-- A row of digits that an offset follows is read to its end. -/
theorem AllDigits.append (h : AllDigits text) (hrest : StartsOffset rest) :
    leadingDigits 10 (text ++ rest) = values text ∧ afterDigits 10 (text ++ rest) = rest := by
  have hstop : rest.takeWhile (fun c => (digit? 10 c).isSome) = []
      ∧ rest.dropWhile (fun c => (digit? 10 c).isSome) = rest := by
    cases rest with
    | nil => exact ⟨rfl, rfl⟩
    | cons c rest =>
        obtain ⟨hdigit, -⟩ := hrest c rfl
        exact ⟨List.takeWhile_cons_of_neg (by rw [hdigit]; decide),
          List.dropWhile_cons_of_neg (by rw [hdigit]; decide)⟩
  constructor
  · rw [leadingDigits, List.takeWhile_append_of_pos h, hstop.1, List.append_nil, values]
  · rw [afterDigits, List.dropWhile_append_of_pos h, hstop.2]

/-- A fraction is read from its spelling. -/
theorem SpellsFraction.fraction (h : SpellsFraction n text) (hrest : StartsOffset rest) :
    fraction (text ++ rest) = some (n, rest) := by
  cases h with
  | whole =>
      cases rest with
      | nil => rfl
      | cons c rest =>
          obtain ⟨-, hpoint⟩ := hrest c rfl
          simp [Rfc3339.fraction, hpoint]
  | @digits row hne hall =>
      obtain ⟨hleading, hafter⟩ := hall.append hrest
      have hempty : (values row).isEmpty = false := by
        rw [← Bool.not_eq_true, List.isEmpty_iff_length_eq_zero, hall.length_values]
        exact fun hnil => hne (List.length_eq_zero_iff.mp hnil)
      simp only [List.cons_append, Rfc3339.fraction, hleading, hafter, hempty]
      rfl

/-- What is read as a fraction is one of its spellings. -/
theorem exists_spellsFraction (h : fraction text = some (n, rest)) :
    ∃ row, SpellsFraction n row ∧ text = row ++ rest := by
  unfold fraction at h
  split at h
  · next tail =>
      dsimp only at h
      split at h
      · cases h
      · next hempty =>
          cases h
          refine ⟨'.' :: tail.takeWhile fun c => (digit? 10 c).isSome, .digits ?_ ?_, ?_⟩
          · intro hnil
            rw [leadingDigits, hnil] at hempty
            exact hempty rfl
          · exact fun c hc => List.mem_takeWhile_imp (p := fun c => (digit? 10 c).isSome) hc
          · rw [List.cons_append, afterDigits, List.takeWhile_append_dropWhile]
  · cases h
    exact ⟨[], .whole, rfl⟩

/-- The digits that count are the nanoseconds of less than a second. -/
theorem SpellsFraction.lt (h : SpellsFraction n text) : n < nanosPerSecond := by
  cases h with
  | whole => decide
  | @digits row hne hall =>
      have hlt : ofDigits 10 ((values row).take 9) < 10 ^ ((values row).take 9).length :=
        ofDigits_lt fun d hd => lt_of_mem_values (List.mem_of_mem_take hd)
      have hle : ((values row).take 9).length ≤ 9 := List.length_take_le _ _
      have hpow : 10 ^ ((values row).take 9).length * 10 ^ (9 - ((values row).take 9).length)
          = nanosPerSecond := by
        rw [← Nat.pow_add, Nat.add_sub_cancel' hle]
        rfl
      rw [← hpow]
      exact Nat.mul_lt_mul_of_pos_right hlt (Nat.pow_pos (by decide))

/-- A number of at most nine digits spells the nanoseconds that it stands for as a fraction. -/
theorem spellsFraction_padded (hwidth : 0 < width) (hle : width ≤ 9) (h : n < 10 ^ width) :
    SpellsFraction (n * 10 ^ (9 - width)) ('.' :: padded width n) := by
  obtain ⟨hall, hlength, hvalue⟩ := padded_digits hwidth h
  have hne : padded width n ≠ [] := List.length_pos_iff.mp (by omega)
  have hnanos : nanosOfDigits (values (padded width n)) = n * 10 ^ (9 - width) := by
    unfold nanosOfDigits
    dsimp only
    rw [List.take_of_length_le (by rw [hall.length_values]; omega), hall.length_values, hlength]
    show value _ * _ = _
    rw [hvalue]
    rfl
  rw [← hnanos]
  exact .digits hne hall

/-- The text of a fraction spells it. -/
theorem spellsFraction_fractionText (h : n < nanosPerSecond) :
    SpellsFraction n (fractionText n) := by
  unfold nanosPerSecond at h
  unfold fractionText
  split_ifs with hzero hmillis hmicros
  · subst hzero
    exact .whole
  · have hspells := @spellsFraction_padded 3 (n / 1000000) (by decide) (by decide)
      (by omega)
    rwa [show n / 1000000 * 10 ^ (9 - 3) = n by omega] at hspells
  · have hspells := @spellsFraction_padded 6 (n / 1000) (by decide) (by decide)
      (by omega)
    rwa [show n / 1000 * 10 ^ (9 - 6) = n by omega] at hspells
  · have hspells := @spellsFraction_padded 9 n (by decide) (by decide) (by omega)
    rwa [show n * 10 ^ (9 - 9) = n by omega] at hspells

/-! ## Offsets -/

/-- The text of hours and minutes. -/
def hoursText (hours minutes : Nat) : List Char := padded 2 hours ++ ':' :: padded 2 minutes

/-- The spellings of an offset: the letter for none in either case, or a sign, of which there are
two for the offsets behind universal time, and hours and minutes. -/
inductive SpellsOffset : Int → List Char → Prop
  | utc {c : Char} (hc : c = 'Z' ∨ c = 'z') : SpellsOffset 0 [c]
  | ahead {hours minutes : Nat} (hhours : hours < 24) (hminutes : minutes < 60) :
      SpellsOffset (60 * hours + minutes : Nat) ('+' :: hoursText hours minutes)
  | behind {c : Char} {hours minutes : Nat} (hc : c = '-' ∨ c = '\u2212') (hhours : hours < 24)
      (hminutes : minutes < 60) :
      SpellsOffset (-(60 * hours + minutes : Nat)) (c :: hoursText hours minutes)

/-- After a sign the hours and the minutes are read. -/
theorem offset_signed {c : Char} (hc : c = '+' ∨ c = '-' ∨ c = '\u2212') :
    offset (c :: text) = some (ahead, rest) ↔ ∃ hours minutes : Nat, hours < 24 ∧ minutes < 60 ∧
      ahead = (if c = '+' then ((60 * hours + minutes : Nat) : Int)
        else -((60 * hours + minutes : Nat) : Int)) ∧
      text = hoursText hours minutes ++ rest := by
  have hletter : ¬ (c = 'Z' ∨ c = 'z') := by
    rcases hc with rfl | rfl | rfl <;> decide
  have htwo : 0 < 2 := by decide
  unfold offset hoursText
  dsimp only
  rw [if_neg hletter, if_pos hc, bind_fixedDigits_iff htwo]
  constructor
  · rintro ⟨hours, _, -, rfl, h⟩
    rw [bind_literal_iff] at h
    obtain ⟨_, rfl, h⟩ := h
    rw [bind_fixedDigits_iff htwo] at h
    obtain ⟨minutes, left, -, rfl, h⟩ := h
    split at h
    · next hrange =>
        rw [Option.some.injEq, Prod.mk.injEq] at h
        obtain ⟨rfl, rfl⟩ := h
        refine ⟨hours, minutes, hrange.1, hrange.2, rfl, ?_⟩
        rw [List.append_assoc, List.cons_append]
    · cases h
  · rintro ⟨hours, minutes, hhours, hminutes, rfl, rfl⟩
    refine ⟨hours, _, by omega, List.append_assoc _ _ _, ?_⟩
    refine bind_literal_iff.mpr ⟨_, rfl, ?_⟩
    refine (bind_fixedDigits_iff htwo).mpr ⟨minutes, _, by omega, rfl, ?_⟩
    exact if_pos ⟨hhours, hminutes⟩

/-- **An offset is read from its spellings**, and from no other text. -/
theorem offset_iff :
    offset text = some (ahead, rest) ↔ ∃ row, SpellsOffset ahead row ∧ text = row ++ rest := by
  constructor
  · intro h
    cases text with
    | nil => cases h
    | cons c text =>
        by_cases hletter : c = 'Z' ∨ c = 'z'
        · simp only [offset, if_pos hletter] at h
          cases h
          exact ⟨[c], .utc hletter, rfl⟩
        · by_cases hsign : c = '+' ∨ c = '-' ∨ c = '\u2212'
          · obtain ⟨hours, minutes, hhours, hminutes, rfl, rfl⟩ := (offset_signed hsign).mp h
            rcases hsign with rfl | hminus
            · exact ⟨_, .ahead hhours hminutes, rfl⟩
            · have hplus : c ≠ '+' := by rcases hminus with rfl | rfl <;> decide
              rw [if_neg hplus]
              exact ⟨_, .behind hminus hhours hminutes, rfl⟩
          · simp only [offset, if_neg hletter, if_neg hsign] at h
            cases h
  · rintro ⟨row, hrow, rfl⟩
    cases hrow with
    | utc hc => simp [offset, hc]
    | ahead hhours hminutes =>
        exact (offset_signed (.inl rfl)).mpr ⟨_, _, hhours, hminutes, rfl, rfl⟩
    | behind hc hhours hminutes =>
        refine (offset_signed (.inr hc)).mpr ⟨_, _, hhours, hminutes, ?_, rfl⟩
        rw [if_neg (by rcases hc with rfl | rfl <;> decide)]

/-- An offset does not go on with what comes before it. -/
theorem SpellsOffset.startsOffset (h : SpellsOffset ahead text) : StartsOffset text := by
  cases h with
  | utc hc =>
      rintro c ⟨⟩
      rcases hc with rfl | rfl <;> decide
  | ahead hhours hminutes =>
      rintro c ⟨⟩
      decide
  | behind hc hhours hminutes =>
      rintro c ⟨⟩
      rcases hc with rfl | rfl <;> decide

/-- An offset is less than a day. -/
theorem SpellsOffset.bounds (h : SpellsOffset ahead text) : -1440 < ahead ∧ ahead < 1440 := by
  cases h with
  | utc => decide
  | ahead => omega
  | behind => omega

/-- The text of an offset. -/
def offsetText (ahead : Int) : List Char :=
  (if ahead < 0 then '-' else '+') :: hoursText (ahead.natAbs / 60) (ahead.natAbs % 60)

/-- The text of an offset spells it. -/
theorem spellsOffset_offsetText (h : -1440 < ahead ∧ ahead < 1440) :
    SpellsOffset ahead (offsetText ahead) := by
  have hhours : ahead.natAbs / 60 < 24 := by omega
  have hminutes : ahead.natAbs % 60 < 60 := Nat.mod_lt _ (by decide)
  have hsum : 60 * (ahead.natAbs / 60) + ahead.natAbs % 60 = ahead.natAbs := Nat.div_add_mod _ _
  unfold offsetText
  split
  · have hspells := SpellsOffset.behind (.inl rfl) hhours hminutes
    rwa [hsum, show -(ahead.natAbs : Int) = ahead by omega] at hspells
  · have hspells := SpellsOffset.ahead hhours hminutes
    rwa [hsum, show (ahead.natAbs : Int) = ahead by omega] at hspells

/-! ## Timestamps -/

/-- A timestamp has a date of the calendar in a year of four digits, and a time of day in which the
second may be the sixtieth. -/
structure Timestamp.InRange (t : Timestamp) : Prop where
  /-- The calendar has the date. -/
  valid : t.date.Valid
  /-- The year has four digits. -/
  year : 0 ≤ t.date.year ∧ t.date.year ≤ 9999
  /-- The hours of a day count from zero. -/
  hour : t.hour < 24
  /-- The minutes of an hour count from zero. -/
  minute : t.minute < 60
  /-- The sixtieth second is a leap second. -/
  second : t.second ≤ 60

/-- The local time of day of a timestamp as text. -/
def Timestamp.clockText (t : Timestamp) : List Char :=
  padded 2 t.hour ++ ':' :: padded 2 t.minute ++ ':' :: padded 2 t.second

/-- The text spells the timestamp. -/
inductive Timestamp.Spells (t : Timestamp) : List Char → Prop
  | mk {separator : Char} {fraction offset : List Char} (range : t.InRange)
      (hseparator : isSeparator separator = true) (hfraction : SpellsFraction t.nanos fraction)
      (hoffset : SpellsOffset t.offset offset) :
      t.Spells (dateText t.date ++ separator :: (t.clockText ++ fraction ++ offset))

/-- The spelling of a timestamp, piece after piece. -/
theorem Timestamp.spelling_eq (t : Timestamp) (hyear : 0 ≤ t.date.year ∧ t.date.year ≤ 9999)
    (separator : Char) (fraction offset : List Char) :
    dateText t.date ++ separator :: (t.clockText ++ fraction ++ offset)
      = padded 4 t.date.year.toNat ++ '-' :: (padded 2 t.date.month ++ '-' ::
        (padded 2 t.date.day ++ separator :: (padded 2 t.hour ++ ':' :: (padded 2 t.minute ++ ':' ::
          (padded 2 t.second ++ (fraction ++ offset)))))) := by
  unfold dateText Instant.yearText Timestamp.clockText
  rw [if_pos hyear]
  simp only [List.append_assoc, List.cons_append]

/-- A text that is read as a timestamp spells it. -/
theorem spells_of_timestamp? {t : Timestamp} (h : timestamp? text = some t) : t.Spells text := by
  have htwo : 0 < 2 := by decide
  unfold timestamp? at h
  rw [bind_fixedDigits_iff (by decide)] at h
  obtain ⟨year, _, hyear, rfl, h⟩ := h
  rw [bind_literal_iff] at h
  obtain ⟨_, rfl, h⟩ := h
  rw [bind_fixedDigits_iff htwo] at h
  obtain ⟨month, _, -, rfl, h⟩ := h
  rw [bind_literal_iff] at h
  obtain ⟨_, rfl, h⟩ := h
  rw [bind_fixedDigits_iff htwo] at h
  obtain ⟨day, _, -, rfl, h⟩ := h
  dsimp only at h
  split at h
  · next separator _ =>
      split at h
      · next hseparator =>
          change (fixedDigits 2 _ >>= _) = _ at h
          rw [bind_fixedDigits_iff htwo] at h
          obtain ⟨hour, _, -, rfl, h⟩ := h
          rw [bind_literal_iff] at h
          obtain ⟨_, rfl, h⟩ := h
          rw [bind_fixedDigits_iff htwo] at h
          obtain ⟨minute, _, -, rfl, h⟩ := h
          rw [bind_literal_iff] at h
          obtain ⟨_, rfl, h⟩ := h
          rw [bind_fixedDigits_iff htwo] at h
          obtain ⟨second, _, -, rfl, h⟩ := h
          replace h := Option.bind_eq_some_iff.mp h
          obtain ⟨⟨nanos, _⟩, hnanos, h⟩ := h
          replace h := Option.bind_eq_some_iff.mp h
          obtain ⟨⟨ahead, rest⟩, hahead, h⟩ := h
          obtain ⟨fraction, hfraction, rfl⟩ := exists_spellsFraction hnanos
          obtain ⟨offset, hoffset, rfl⟩ := offset_iff.mp hahead
          dsimp only at h
          split at h
          · next hrange =>
              cases h
              obtain ⟨hrest, hvalid, hhour, hminute, hsecond⟩ := hrange
              rw [List.isEmpty_iff] at hrest
              subst hrest
              have hdigits : 0 ≤ (year : Int) ∧ (year : Int) ≤ 9999 := by omega
              have htext := Timestamp.spelling_eq
                ⟨⟨year, month, day⟩, hour, minute, second, nanos, ahead⟩ hdigits separator fraction
                offset
              rw [Int.toNat_natCast] at htext
              rw [List.append_nil, ← htext]
              exact .mk ⟨hvalid, hdigits, hhour, hminute, hsecond⟩ hseparator hfraction hoffset
          · cases h
      · cases h
  · cases h

/-- A spelling of a timestamp is read as the timestamp. -/
theorem Timestamp.Spells.timestamp? {t : Timestamp} (h : t.Spells text) :
    timestamp? text = some t := by
  have htwo : 0 < 2 := by decide
  obtain @⟨separator, fraction, offset, ⟨hvalid, hyear, hhour, hminute, hsecond⟩, hseparator,
    hfraction, hoffset⟩ := h
  have hdate : (⟨(t.date.year.toNat : Int), t.date.month, t.date.day⟩ : Date) = t.date := by
    rw [Int.toNat_of_nonneg hyear.1]
  have hmonth := hvalid.2.1
  have hday := hvalid.2.2.2
  have hmonths := Date.daysInMonth_bounds t.date.year t.date.month
  rw [Timestamp.spelling_eq t hyear]
  unfold Rfc3339.timestamp?
  refine (bind_fixedDigits_iff (by decide)).mpr ⟨t.date.year.toNat, _, by omega, rfl, ?_⟩
  refine bind_literal_iff.mpr ⟨_, rfl, ?_⟩
  refine (bind_fixedDigits_iff htwo).mpr ⟨t.date.month, _, by omega, rfl, ?_⟩
  refine bind_literal_iff.mpr ⟨_, rfl, ?_⟩
  refine (bind_fixedDigits_iff htwo).mpr ⟨t.date.day, _, by omega, rfl, ?_⟩
  dsimp only
  rw [if_pos hseparator]
  show (fixedDigits 2 _ >>= _) = _
  refine (bind_fixedDigits_iff htwo).mpr ⟨t.hour, _, by omega, rfl, ?_⟩
  refine bind_literal_iff.mpr ⟨_, rfl, ?_⟩
  refine (bind_fixedDigits_iff htwo).mpr ⟨t.minute, _, by omega, rfl, ?_⟩
  refine bind_literal_iff.mpr ⟨_, rfl, ?_⟩
  refine (bind_fixedDigits_iff htwo).mpr ⟨t.second, _, by omega, rfl, ?_⟩
  refine Option.bind_eq_some_iff.mpr ⟨_, hfraction.fraction hoffset.startsOffset, ?_⟩
  refine Option.bind_eq_some_iff.mpr
    ⟨_, offset_iff.mpr ⟨offset, hoffset, (List.append_nil offset).symm⟩, ?_⟩
  dsimp only
  rw [hdate, if_pos ⟨rfl, hvalid, hhour, hminute, hsecond⟩]

/-- **The reader accepts the spellings of a timestamp and nothing else.** -/
theorem timestamp?_iff {t : Timestamp} : timestamp? text = some t ↔ t.Spells text :=
  ⟨spells_of_timestamp?, Timestamp.Spells.timestamp?⟩

end Rfc3339

end ReportRelay
