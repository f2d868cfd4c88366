/-
# Spellings of a creation time

A creation time can be given as a number of milliseconds, as the decimal text of the number and as
a timestamp, the texts with white space around them or not.  Spellings of the same point in time
are read as the same creation time (`CreatedAt.spellings_agree`), and the text that is shown for a
creation time is one of them.

The string is tried as a timestamp first.  This does not stand in the way of a number, since a
timestamp has a hyphen after its year and a number has one at its front at most
(`DecimalOf.parse?`).
-/
import ReportRelay.Proofs.Time.Instant
import ReportRelay.Report.CreatedAt

namespace ReportRelay

open Rfc3339 (Timestamp AllDigits SpellsOffset)

/-! ## White space -/

namespace Text

variable {core text : List Char}

/-- The text is the core with white space around it, or is the core itself. -/
def Surrounds (text core : List Char) : Prop :=
  ∃ before after, (∀ c ∈ before, isBlank c = true) ∧ (∀ c ∈ after, isBlank c = true) ∧
    text = before ++ core ++ after

/-- A text is its own core. -/
theorem Surrounds.refl (text : List Char) : Surrounds text text :=
  ⟨[], [], by simp, by simp, by simp⟩

/-- The text starts and ends with something that is not white space. -/
def Bare (text : List Char) : Prop :=
  (∃ c rest, text = c :: rest ∧ isBlank c = false) ∧
    ∃ rest c, text = rest ++ [c] ∧ isBlank c = false

/-- A text without white space is bare. -/
theorem bare_of_not_blank (hne : text ≠ []) (h : ∀ c ∈ text, isBlank c = false) : Bare text := by
  constructor
  · obtain ⟨c, rest, rfl⟩ := List.exists_cons_of_ne_nil hne
    exact ⟨c, rest, rfl, h c (List.mem_cons_self ..)⟩
  · exact ⟨text.dropLast, text.getLast hne, (List.dropLast_concat_getLast hne).symm,
      h _ (List.getLast_mem hne)⟩

/-- Anything may stand between two bare texts. -/
theorem Bare.append {first last : List Char} (hfirst : Bare first) (hlast : Bare last)
    (middle : List Char) : Bare (first ++ (middle ++ last)) := by
  obtain ⟨⟨c, rest, rfl, hc⟩, -⟩ := hfirst
  obtain ⟨-, rest', d, rfl, hd⟩ := hlast
  exact ⟨⟨c, _, rfl, hc⟩, c :: rest ++ (middle ++ rest'), d, by simp, hd⟩

/-- **Trimming leaves the core of a text**, if it is bare. -/
theorem Surrounds.trim (h : Surrounds text core) (hbare : Bare core) : trim text = core := by
  obtain ⟨before, after, hbefore, hafter, rfl⟩ := h
  obtain ⟨⟨first, tail, hfirst, hfirst'⟩, init, last, hlast, hlast'⟩ := hbare
  have hfront : (before ++ core ++ after).dropWhile isBlank = core ++ after := by
    rw [List.append_assoc, List.dropWhile_append_of_pos hbefore, hfirst, List.cons_append,
      List.dropWhile_cons_of_neg (by rw [hfirst']; decide)]
  have hback : (core ++ after).reverse.dropWhile isBlank = core.reverse := by
    rw [List.reverse_append, List.dropWhile_append_of_pos (by simpa using hafter), hlast,
      List.reverse_concat, List.dropWhile_cons_of_neg (by rw [hlast']; decide)]
  rw [Text.trim, hfront, hback, List.reverse_reverse]

end Text

/-- A digit is not white space. -/
theorem Rfc3339.AllDigits.not_blank {row : List Char} (h : AllDigits row) :
    ∀ c ∈ row, Text.isBlank c = false := by
  have hall : ∀ d : Fin 10, Text.isBlank (Nat.digitChar d.val) = false := by decide
  intro c hc
  obtain ⟨d, hd, rfl⟩ := Rfc3339.exists_digitChar (h c hc)
  exact hall ⟨d, hd⟩

/-! ## Timestamps -/

namespace Rfc3339

open Instant (padded)

variable {text : List Char}

/-- There is no white space in an offset. -/
theorem SpellsOffset.not_blank {ahead : Int} (h : SpellsOffset ahead text) :
    ∀ c ∈ text, Text.isBlank c = false := by
  have hhours : ∀ hours minutes, hours < 24 → minutes < 60 →
      ∀ c ∈ hoursText hours minutes, Text.isBlank c = false := by
    intro hours minutes hhours hminutes c hc
    have htwo : 0 < 2 := by decide
    rcases List.mem_append.mp hc with hc | hc
    · exact (padded_digits htwo (by omega)).1.not_blank c hc
    · rcases List.mem_cons.mp hc with rfl | hc
      · decide
      · exact (padded_digits htwo (by omega)).1.not_blank c hc
  intro c hc
  cases h with
  | utc hletter =>
      rw [List.mem_singleton.mp hc]
      rcases hletter with rfl | rfl <;> decide
  | ahead hlt hlt' =>
      rcases List.mem_cons.mp hc with rfl | hc
      · decide
      · exact hhours _ _ hlt hlt' c hc
  | behind hsign hlt hlt' =>
      rcases List.mem_cons.mp hc with rfl | hc
      · rcases hsign with rfl | rfl <;> decide
      · exact hhours _ _ hlt hlt' c hc

/-- An offset is not empty. -/
theorem SpellsOffset.ne_nil {ahead : Int} (h : SpellsOffset ahead text) : text ≠ [] := by
  cases h <;> exact List.cons_ne_nil _ _

/-- A spelling of a timestamp starts with four digits and a hyphen, and ends with an offset. -/
theorem Timestamp.Spells.exists_parts {t : Timestamp} (h : t.Spells text) :
    ∃ year middle offset, AllDigits year ∧ year.length = 4 ∧ SpellsOffset t.offset offset ∧
      text = year ++ ('-' :: middle ++ offset) := by
  obtain @⟨separator, fraction, offset, range, hseparator, hfraction, hoffset⟩ := h
  have hyear := range.year
  obtain ⟨hall, hlength, -⟩ := padded_digits (show 0 < 4 by decide)
    (show t.date.year.toNat < 10 ^ 4 by omega)
  rw [Timestamp.spelling_eq t hyear]
  refine ⟨_, padded 2 t.date.month ++ '-' :: (padded 2 t.date.day ++ separator ::
    (padded 2 t.hour ++ ':' :: (padded 2 t.minute ++ ':' :: (padded 2 t.second ++ fraction)))),
    offset, hall, hlength, hoffset, ?_⟩
  simp only [List.append_assoc, List.cons_append]

/-- A spelling of a timestamp is bare. -/
theorem Timestamp.Spells.bare {t : Timestamp} (h : t.Spells text) : Text.Bare text := by
  obtain ⟨year, middle, offset, hyear, hlength, hoffset, rfl⟩ := h.exists_parts
  have hyear' : year ≠ [] := List.length_pos_iff.mp (by omega)
  exact (Text.bare_of_not_blank hyear' hyear.not_blank).append
    (Text.bare_of_not_blank hoffset.ne_nil hoffset.not_blank) ('-' :: middle)

/-- A spelling of a timestamp has a hyphen after its first character. -/
theorem Timestamp.Spells.hyphen_mem_tail {t : Timestamp} (h : t.Spells text) : '-' ∈ text.tail := by
  obtain ⟨year, middle, offset, -, hlength, -, rfl⟩ := h.exists_parts
  obtain ⟨c, rest, rfl⟩ := List.exists_cons_of_length_pos (show 0 < year.length by omega)
  simp

/-- The point in time of a spelling is that of the timestamp. -/
theorem Timestamp.Spells.parse? {t : Timestamp} (h : t.Spells text) :
    parse? text = some t.instant := by
  rw [Rfc3339.parse?, h.timestamp?]
  rfl

end Rfc3339

/-! ## Numbers -/

namespace CreatedAt

/-- The number that is read after its sign. -/
def afterSign? (negative : Bool) (digits : List Char) : Option Int :=
  if digits.isEmpty || !(afterDigits 10 digits).isEmpty then none
  else
    let limit := 0x8000000000000000 + (if negative then 1 else 0)
    (digitsBelow? 10 limit 0 (leadingDigits 10 digits)).map fun n =>
      if negative then -(n : Int) else (n : Int)

/-- Without a sign a number is read as with a plus sign. -/
theorem integer?_unsigned {c : Char} (hminus : c ≠ '-') (hplus : c ≠ '+') (rest : List Char) :
    integer? (c :: rest) = afterSign? false (c :: rest) := by
  unfold integer? afterSign?
  simp [hminus, hplus]

/-- The digits of a number are read after the sign, if a word has room for the number. -/
theorem afterSign?_toDigits (negative : Bool) {m : Nat}
    (h : m < 0x8000000000000000 + (if negative then 1 else 0)) :
    afterSign? negative (Nat.toDigits 10 m)
      = some (if negative then -(m : Int) else (m : Int)) := by
  obtain ⟨hleading, hafter⟩ := Json.leadingDigits_toDigits m
  have hempty : (Nat.toDigits 10 m).isEmpty = false := by
    rw [← Bool.not_eq_true, List.isEmpty_iff]
    exact Nat.toDigits_ne_nil
  unfold afterSign?
  rw [hleading, hafter, hempty]
  simp only [Json.digitsBelow?_digitsOf h]
  rfl

end CreatedAt

/-- The decimal texts of an integer: its digits, with a plus sign or without it, or after a minus
sign. -/
inductive DecimalOf : Int → List Char → Prop
  | plain (n : Nat) : DecimalOf n (Nat.toDigits 10 n)
  | plus (n : Nat) : DecimalOf n ('+' :: Nat.toDigits 10 n)
  | minus (n : Nat) : DecimalOf (-n) ('-' :: Nat.toDigits 10 n)

namespace DecimalOf

variable {n : Int} {text : List Char}

/-- The digits of a number are digits. -/
theorem allDigits (m : Nat) : AllDigits (Nat.toDigits 10 m) :=
  fun _ hc => Json.isSome_digit?_of_mem hc

/-- A decimal text is bare. -/
theorem bare (h : DecimalOf n text) : Text.Bare text := by
  have hsigned : ∀ (c : Char) (m : Nat), Text.isBlank c = false →
      Text.Bare (c :: Nat.toDigits 10 m) := by
    intro c m hc
    refine Text.bare_of_not_blank (List.cons_ne_nil _ _) fun d hd => ?_
    rcases List.mem_cons.mp hd with rfl | hd
    · exact hc
    · exact (allDigits m).not_blank d hd
  cases h with
  | plain m => exact Text.bare_of_not_blank Nat.toDigits_ne_nil (allDigits m).not_blank
  | plus m => exact hsigned '+' m (by decide)
  | minus m => exact hsigned '-' m (by decide)

/-- A number is no timestamp: all after its first character are digits. -/
theorem parse? (h : DecimalOf n text) : Rfc3339.parse? text = none := by
  have hnot : ∀ m, '-' ∉ Nat.toDigits 10 m := by
    intro m hmem
    cases allDigits m '-' hmem
  rw [Rfc3339.parse?, Option.map_eq_none_iff]
  cases hread : Rfc3339.timestamp? text with
  | none => rfl
  | some t =>
      have hmem := (Rfc3339.timestamp?_iff.mp hread).hyphen_mem_tail
      cases h with
      | plain m => exact absurd (List.mem_of_mem_tail hmem) (hnot m)
      | plus m => exact absurd hmem (hnot m)
      | minus m => exact absurd hmem (hnot m)

/-- **A number is read from its decimal texts**, if a word has room for it. -/
theorem integer? (h : DecimalOf n text) (hlower : -0x8000000000000000 ≤ n)
    (hupper : n < 0x8000000000000000) : CreatedAt.integer? text = some n := by
  cases h with
  | plain m =>
      have hread := CreatedAt.afterSign?_toDigits false (show m < 0x8000000000000000 + 0 by omega)
      cases hdigits : Nat.toDigits 10 m with
      | nil => exact absurd hdigits Nat.toDigits_ne_nil
      | cons c rest =>
          have hdigit := allDigits m c (by rw [hdigits]; exact List.mem_cons_self ..)
          have hminus : c ≠ '-' := by
            rintro rfl
            cases hdigit
          have hplus : c ≠ '+' := by
            rintro rfl
            cases hdigit
          rw [hdigits] at hread
          rw [CreatedAt.integer?_unsigned hminus hplus, hread]
          rfl
  | plus m => exact CreatedAt.afterSign?_toDigits false (show m < 0x8000000000000000 + 0 by omega)
  | minus m => exact CreatedAt.afterSign?_toDigits true (show m < 0x8000000000000000 + 1 by omega)

end DecimalOf

/-! ## Creation times -/

namespace CreatedAt

variable {text core : List Char}

/-- A timestamp with white space around it is read as its point in time. -/
theorem ofText_spelling {t : Timestamp} (h : t.Spells core) (htext : Text.Surrounds text core) :
    ofText text = known t.instant := by
  unfold ofText
  rw [htext.trim h.bare]
  dsimp only
  rw [h.parse?]

/-- A number with white space around it is read as the point in time so many milliseconds after
the start of 1970. -/
theorem ofText_decimal {n : Int} {t : Instant} (h : DecimalOf n core)
    (htext : Text.Surrounds text core) (ht : t.IsMillis n) (hyear : 0 ≤ t.year ∧ t.year ≤ 9999) :
    ofText text = known t := by
  obtain ⟨hlower, hupper⟩ := ht.fits hyear
  unfold ofText
  rw [htext.trim h.bare]
  dsimp only
  rw [h.parse?, h.integer? hlower hupper, Option.bind_some, ht.ofMillis? hyear]
  rfl

/-- A number of milliseconds is read as the point in time so many after the start of 1970. -/
theorem ofJson?_number {n : Int} {t : Instant} (ht : t.IsMillis n)
    (hyear : 0 ≤ t.year ∧ t.year ≤ 9999) :
    ∃ number, Number.ofInt? n = some number ∧ ofJson? (some (.number number)) = known t := by
  obtain ⟨hlower, hupper⟩ := ht.fits hyear
  have hupper' : n < 0x10000000000000000 := by omega
  refine ⟨.integer n hlower hupper', dif_pos ⟨hlower, hupper'⟩, ?_⟩
  have hsigned : Number.signed? (.integer n hlower hupper') = some n := if_pos hupper
  rw [ofJson?, hsigned, Option.bind_some, ht.ofMillis? hyear]
  rfl

/-- The creation time that a string is read as. -/
def ofString (s : String) : CreatedAt := ofJson? (some (.string s))

/-- A string is read by its text. -/
theorem ofString_eq (s : String) : ofString s = ofText s.toList := rfl

/-- What is shown for a point in time is read as the point in time. -/
theorem ofString_display {t : Instant} (h : t.Proper) (hyear : 0 ≤ t.year ∧ t.year ≤ 9999) :
    ofString (known t).display = known t := by
  have htext : (known t).display.toList = t.text := String.toList_ofList
  rw [ofString_eq, htext, ofText_spelling (Instant.spells_text h hyear) (.refl _),
    Instant.instant_inUtc h]

/-- **All spellings of a creation time agree.**

A number of milliseconds, its decimal texts with white space around them and the text that is shown
for the point in time are all read as the point in time so many milliseconds after the start of
1970.  A spelling of a timestamp is read as its point in time, and so is the text that is shown for
it.  The timestamp with the local time and the offset moved by the same minutes can be spelled, and
all its spellings are read alike. -/
theorem spellings_agree :
    (∀ n : Int, ∃ t : Instant, t.IsMillis n ∧ (0 ≤ t.year ∧ t.year ≤ 9999 →
      (∃ number, Number.ofInt? n = some number ∧ ofJson? (some (.number number)) = known t) ∧
      (∀ s decimal, DecimalOf n decimal → Text.Surrounds s.toList decimal →
        ofString s = known t) ∧
      ofString (known t).display = known t)) ∧
    ∀ (s : String) (t : Timestamp), t.Spells s.toList →
      ofString s = known t.instant ∧
      (0 ≤ t.instant.year ∧ t.instant.year ≤ 9999 →
        ofString (ofString s).display = ofString s) ∧
      ∀ minutes : Int, 0 ≤ (t.moved minutes).date.year ∧ (t.moved minutes).date.year ≤ 9999 →
        -1440 < t.offset + minutes ∧ t.offset + minutes < 1440 →
        (∃ s' : String, (t.moved minutes).Spells s'.toList) ∧
        ∀ s' : String, (t.moved minutes).Spells s'.toList → ofString s' = ofString s := by
  have hread : ∀ (s : String) (t : Timestamp), t.Spells s.toList →
      ofString s = known t.instant := by
    intro s t h
    rw [ofString_eq, ofText_spelling h (.refl _)]
  constructor
  · intro n
    obtain ⟨t, ht⟩ : ∃ t : Instant, t.IsMillis n := ⟨_, Instant.isMillis_iff.mpr rfl⟩
    refine ⟨t, ht, fun hyear => ⟨ofJson?_number ht hyear, fun s decimal h hs => ?_, ?_⟩⟩
    · rw [ofString_eq, ofText_decimal h hs ht hyear]
    · exact ofString_display ht.proper hyear
  · intro s t h
    obtain ⟨range, hnanos⟩ := h.inRange
    refine ⟨hread s t h, fun hyear => ?_, fun minutes hyear hoffset => ⟨?_, fun s' h' => ?_⟩⟩
    · rw [hread s t h]
      exact ofString_display (Instant.proper_instant range hnanos) hyear
    · have hspells := Timestamp.spells_text (range.moved hyear) hnanos hoffset
      refine ⟨String.ofList (t.moved minutes).text, ?_⟩
      rwa [String.toList_ofList]
    · rw [hread s t h, hread s' _ h', Timestamp.instant_moved]

/-- A leap second of the end of a year, in universal time and in an offset where it is the next
year, and the millisecond half a second before it. -/
theorem spellings_agree_at_year_end :
    ofString " +1483228799500\n" = known ⟨1483228799, 500000000⟩ ∧
    ofString (ofString "2016-12-31T23:59:60.5Z").display = ofString "2016-12-31T23:59:60.5Z" ∧
    ofString "2017-01-01t01:29:60.500+01:30" = ofString "2016-12-31T23:59:60.5Z" := by
  obtain ⟨hmillis, hspelled⟩ := spellings_agree
  obtain ⟨t, ht, hnumber⟩ := hmillis 1483228799500
  obtain rfl := Instant.isMillis_iff.mp ht
  have htime : Timestamp.Spells ⟨⟨2016, 12, 31⟩, 23, 59, 60, 500000000, 0⟩
      "2016-12-31T23:59:60.5Z".toList := Rfc3339.timestamp?_iff.mp rfl
  obtain ⟨-, hshown, hmoved⟩ := hspelled _ _ htime
  refine ⟨?_, hshown (by decide), (hmoved 90 (by decide) (by decide)).2 _ ?_⟩
  · exact (hnumber (by decide)).2.1 _ _ (.plus 1483228799500)
      ⟨[' '], ['\n'], List.forall_mem_singleton.mpr rfl, List.forall_mem_singleton.mpr rfl, rfl⟩
  · exact Rfc3339.timestamp?_iff.mp rfl

end CreatedAt

end ReportRelay
