/-
# Reading back strings and numerals

The text of a string is read back as the string, whatever follows it (`readString_text`): each
character is written so that the reader takes it up as itself.

A numeral is read up to the first character that cannot go on with it.  The characters that may
follow a value are such characters, so a number that is read from a text is read as well from
the text with more behind it (`readNumber_append`).  The text of an integer is read back as the
integer (`readNumber_integerText`).
-/
import Mathlib.Data.List.TakeWhile
import Mathlib.Tactic.SplitIfs
import ReportRelay.Json.Printer
import ReportRelay.Json.Reader

namespace ReportRelay

namespace Json

/-! ## Digits -/

/-- A digit has the value that it was written for, in any base that has it. -/
theorem digit?_digitChar {base n : Nat} (hbase : base ≤ 16) (h : n < base) :
    digit? base (Nat.digitChar n) = some n := by
  have hall : ∀ b : Fin 17, ∀ m : Fin b.val, digit? b.val (Nat.digitChar m.val) = some m.val := by
    decide
  exact hall ⟨base, Nat.lt_succ_of_le hbase⟩ ⟨n, h⟩

/-! ## Strings -/

/-- A four-digit escape of a control character is read as the character. -/
theorem readString_unicode {c : Char} (hc : c.toNat < 0x20) (read rest : List Char) :
    readString .any read
        ('\\' :: 'u' :: '0' :: '0' :: hexDigit (c.toNat / 16) :: hexDigit (c.toNat % 16) :: rest)
      = readString .any (c :: read) rest := by
  have hzero : digit? 16 '0' = some 0 := by decide
  have hhigh : digit? 16 (hexDigit (c.toNat / 16)) = some (c.toNat / 16) :=
    digit?_digitChar (Nat.le_refl _) (by omega)
  have hlow : digit? 16 (hexDigit (c.toNat % 16)) = some (c.toNat % 16) :=
    digit?_digitChar (Nat.le_refl _) (Nat.mod_lt _ (by decide))
  have hcode : 16 * (c.toNat / 16) + c.toNat % 16 = c.toNat := Nat.div_add_mod _ _
  -- a control character is no half of a pair
  have hafter : afterHex none c.toNat read = some (.any, c :: read) := by
    rw [afterHex, if_neg (by simp [isHighSurrogate]; omega),
      if_neg (by simp [isLowSurrogate]; omega), Char.ofNat_toNat]
  simp [readString, stringStep, hzero, hhigh, hlow, hcode, hafter]

/-- A character is read as it was written. -/
theorem readString_escape (c : Char) (read rest : List Char) :
    readString .any read (escape c ++ rest) = readString .any (c :: read) rest := by
  unfold escape
  split_ifs with hquote hslash hcontrol hback htab hline hform hreturn
  · subst hquote
    rfl
  · subst hslash
    rfl
  -- a control character has a short escape or a four-digit one
  · subst hback
    rfl
  · subst htab
    rfl
  · subst hline
    rfl
  · subst hform
    rfl
  · subst hreturn
    rfl
  · exact readString_unicode hcontrol read rest
  · show readString .any read (c :: rest) = _
    rw [readString]
    · simp [stringStep, hslash, hcontrol]
    · simpa using hquote

/-- The characters of a string are read up to its closing quote. -/
theorem readString_flatMap (chars read rest : List Char) :
    readString .any read (chars.flatMap escape ++ '"' :: rest)
      = some (String.ofList (read.reverse ++ chars), rest) := by
  induction chars generalizing read with
  | nil =>
      rw [List.append_nil]
      rfl
  | cons c chars ih =>
      rw [List.flatMap_cons, List.append_assoc, readString_escape, ih, List.reverse_cons,
        List.append_assoc]
      rfl

/-- **The text of a string is read back as the string.** -/
theorem readString_text (s : String) (rest : List Char) :
    readString .any [] (s.toList.flatMap escape ++ '"' :: rest) = some (s, rest) := by
  rw [readString_flatMap, List.reverse_nil, List.nil_append, String.ofList_toList]

/-! ## Ends of values -/

/-- The text can follow a value: it is over, or goes on with a comma or a closing character. -/
def Ends (rest : List Char) : Prop := ∀ c ∈ rest.head?, c = ',' ∨ c = ']' ∨ c = '\x7d'

/-- The end of a text can follow a value. -/
theorem ends_nil : Ends [] := by
  intro c hc
  cases hc

/-- A text that starts with one of the three characters can follow a value. -/
theorem ends_cons {c : Char} (h : c = ',' ∨ c = ']' ∨ c = '\x7d') (rest : List Char) :
    Ends (c :: rest) := by
  intro d hd
  cases hd
  exact h

/-- What follows a value is nothing, or starts with one of the three characters. -/
@[elab_as_elim]
theorem Ends.cases {P : List Char → Prop} {rest : List Char} (h : Ends rest) (nil : P [])
    (comma : ∀ rest, P (',' :: rest)) (bracket : ∀ rest, P (']' :: rest))
    (brace : ∀ rest, P ('\x7d' :: rest)) : P rest := by
  cases rest with
  | nil => exact nil
  | cons c rest =>
      rcases h c rfl with rfl | rfl | rfl
      · exact comma rest
      · exact bracket rest
      · exact brace rest

/-- What follows a value does not go on with a row of digits. -/
theorem Ends.takeWhile_digits {rest : List Char} (h : Ends rest) :
    rest.takeWhile (fun c => (digit? 10 c).isSome) = [] ∧
      rest.dropWhile (fun c => (digit? 10 c).isSome) = rest := by
  exact h.cases ⟨rfl, rfl⟩ (fun _ => ⟨rfl, rfl⟩) (fun _ => ⟨rfl, rfl⟩) fun _ => ⟨rfl, rfl⟩

/-! ## Numerals -/

/-- The digits at the front of a text end with the text. -/
theorem leadingDigits_append (text : List Char) {rest : List Char} (h : Ends rest) :
    leadingDigits 10 (text ++ rest) = leadingDigits 10 text := by
  have hsame : (text ++ rest).takeWhile (fun c => (digit? 10 c).isSome)
      = text.takeWhile (fun c => (digit? 10 c).isSome) := by
    rw [List.takeWhile_append, h.takeWhile_digits.1, List.append_nil]
    split
    · next hlength =>
        exact (List.takeWhile_sublist _).eq_of_length hlength |>.symm
    · rfl
  rw [leadingDigits, hsame, leadingDigits]

/-- What comes after the digits at the front of a text is followed by what follows the text. -/
theorem afterDigits_append (text : List Char) {rest : List Char} (h : Ends rest) :
    afterDigits 10 (text ++ rest) = afterDigits 10 text ++ rest := by
  rw [afterDigits, afterDigits, List.dropWhile_append, h.takeWhile_digits.2]
  split
  · next hempty => rw [List.isEmpty_iff.mp hempty, List.nil_append]
  · rfl

/-- A reader is local if what can follow a value does not change what it reads before. -/
def Local {α : Type} (reader : List Char → Option (α × List Char)) : Prop :=
  ∀ text rest, Ends rest →
    reader (text ++ rest) = (reader text).map fun (a, left) => (a, left ++ rest)

/-- Fractions are read locally. -/
theorem local_readFraction : Local readFraction := by
  intro text rest h
  cases text with
  | nil =>
      exact h.cases rfl (fun _ => rfl) (fun _ => rfl) fun _ => rfl
  | cons c text =>
      by_cases hc : c = '.'
      · subst hc
        simp only [List.cons_append, readFraction, leadingDigits_append text h,
          afterDigits_append text h]
        split <;> rfl
      · simp [readFraction, hc]

/-- An exponent need not have a sign. -/
theorem readExponentDigits_unsigned {c : Char} (hminus : c ≠ '-') (hplus : c ≠ '+')
    (text : List Char) :
    readExponentDigits (c :: text)
      = if (leadingDigits 10 (c :: text)).isEmpty then none
        else some ((((digitsBelow? 10 greatestExponent 0 (leadingDigits 10 (c :: text))).getD
          greatestExponent : Nat) : Int), afterDigits 10 (c :: text)) := by
  unfold readExponentDigits
  simp [hminus, hplus]

/-- The digits of an exponent are read locally. -/
theorem local_readExponentDigits : Local readExponentDigits := by
  intro text rest h
  cases text with
  | nil =>
      exact h.cases rfl (fun _ => rfl) (fun _ => rfl) fun _ => rfl
  | cons c text =>
      by_cases hminus : c = '-'
      · subst hminus
        simp only [List.cons_append, readExponentDigits, leadingDigits_append text h,
          afterDigits_append text h]
        split <;> rfl
      · by_cases hplus : c = '+'
        · subst hplus
          simp only [List.cons_append, readExponentDigits, leadingDigits_append text h,
            afterDigits_append text h]
          split <;> rfl
        · have hleading := leadingDigits_append (c :: text) h
          have hafter := afterDigits_append (c :: text) h
          rw [List.cons_append] at hleading hafter
          rw [List.cons_append, readExponentDigits_unsigned hminus hplus,
            readExponentDigits_unsigned hminus hplus, hleading, hafter]
          split <;> rfl

/-- Exponents are read locally. -/
theorem local_readExponent : Local readExponent := by
  intro text rest h
  cases text with
  | nil =>
      exact h.cases rfl (fun _ => rfl) (fun _ => rfl) fun _ => rfl
  | cons c text =>
      by_cases hlower : c = 'e'
      · subst hlower
        simp only [List.cons_append, readExponent, local_readExponentDigits text rest h]
        cases readExponentDigits text <;> rfl
      · by_cases hupper : c = 'E'
        · subst hupper
          simp only [List.cons_append, readExponent, local_readExponentDigits text rest h]
          cases readExponentDigits text <;> rfl
        · simp [readExponent, hlower, hupper]

/-- Numerals without a sign are read locally. -/
theorem local_readUnsigned (negative : Bool) : Local (readUnsigned negative) := by
  intro text rest h
  simp only [readUnsigned, leadingDigits_append text h, afterDigits_append text h,
    local_readFraction _ rest h]
  split
  · rfl
  · rfl
  · cases readFraction (afterDigits 10 text) with
    | none => rfl
    | some fraction =>
        obtain ⟨fraction, left⟩ := fraction
        simp only [Option.map_some, local_readExponent left rest h]
        cases readExponent left <;> rfl

/-- Numerals are read locally. -/
theorem local_readNumeral : Local readNumeral := by
  intro text rest h
  cases text with
  | nil =>
      exact h.cases rfl (fun _ => rfl) (fun _ => rfl) fun _ => rfl
  | cons c text =>
      by_cases hminus : c = '-'
      · subst hminus
        exact local_readUnsigned true text rest h
      · have hunsigned := local_readUnsigned false (c :: text) rest h
        simpa [readNumeral, hminus] using hunsigned

/-- **Numbers are read locally.** -/
theorem local_readNumber : Local readNumber := by
  intro text rest h
  simp only [readNumber, local_readNumeral text rest h]
  cases readNumeral text with
  | none => rfl
  | some numeral =>
      obtain ⟨numeral, left⟩ := numeral
      rw [Option.map_some, Option.map_map]
      rfl

/-! ## Integers -/

/-- The decimal digits of a number as they are read. -/
def digitsOf (n : Nat) : List Nat := (Nat.toDigits 10 n).filterMap (digit? 10)

/-- The digits of a number are the one digit of a small number, or those of its tenth and
its last one. -/
theorem digitsOf_eq (n : Nat) :
    digitsOf n = if n < 10 then [n] else digitsOf (n / 10) ++ [n % 10] := by
  rw [digitsOf, Nat.toDigits_eq_if (by decide)]
  split
  · next hsmall =>
      rw [List.filterMap_cons_some (digit?_digitChar (by decide) hsmall), List.filterMap_nil]
  · have hlast : digit? 10 (Nat.digitChar (n % 10)) = some (n % 10) :=
      digit?_digitChar (by decide) (Nat.mod_lt _ (by decide))
    rw [List.filterMap_append, List.filterMap_cons_some hlast, List.filterMap_nil]
    rfl

/-- A positive number does not start with a zero. -/
theorem exists_digitsOf_cons {n : Nat} (h : 0 < n) :
    ∃ d rest, digitsOf n = d :: rest ∧ d ≠ 0 := by
  -- along the tenths of the number, which keep the first digit
  induction n using Nat.strongRecOn with
  | ind n ih =>
      rw [digitsOf_eq]
      split
      · exact ⟨n, [], rfl, Nat.ne_of_gt h⟩
      · next hlarge =>
          obtain ⟨d, rest, hdigits, hd⟩ := ih (n / 10) (by omega) (by omega)
          exact ⟨d, rest ++ [n % 10], by rw [hdigits, List.cons_append], hd⟩

/-- A row of digits may be taken up in two parts. -/
theorem digitsBelow?_append (base limit n : Nat) (digits later : List Nat) :
    digitsBelow? base limit n (digits ++ later)
      = (digitsBelow? base limit n digits).bind fun m => digitsBelow? base limit m later := by
  induction digits generalizing n with
  | nil => rfl
  | cons d digits ih =>
      simp only [List.cons_append, digitsBelow?]
      split
      · exact ih _
      · rfl

/-- The digits of a number below a limit stand for it. -/
theorem digitsBelow?_digitsOf {limit n : Nat} (h : n < limit) :
    digitsBelow? 10 limit 0 (digitsOf n) = some n := by
  induction n using Nat.strongRecOn with
  | ind n ih =>
      rw [digitsOf_eq]
      split
      · simp [digitsBelow?, h]
      · next hlarge =>
          have hsum : 10 * (n / 10) + n % 10 = n := Nat.div_add_mod _ _
          rw [digitsBelow?_append, ih (n / 10) (by omega) (by omega), Option.bind_some,
            digitsBelow?, hsum, if_pos h]
          rfl

/-- All characters of the text of a number are digits. -/
theorem isSome_digit?_of_mem {n : Nat} {c : Char} (h : c ∈ Nat.toDigits 10 n) :
    (digit? 10 c).isSome = true := by
  have hdigit := Nat.isDigit_of_mem_toDigits (by decide) (by decide) h
  have hle : c.toNat - '0'.toNat < 10 := by
    have hbounds := Char.isDigit_iff_toNat.mp hdigit
    simp only [Char.reduceToNat] at *
    omega
  rw [digit?, if_pos hdigit]
  simp only [hle, if_true, Option.isSome_some]

/-- The text of a number is its digits and nothing more. -/
theorem leadingDigits_toDigits (n : Nat) :
    leadingDigits 10 (Nat.toDigits 10 n) = digitsOf n ∧ afterDigits 10 (Nat.toDigits 10 n) = [] := by
  have hall : ∀ c ∈ Nat.toDigits 10 n, (digit? 10 c).isSome = true :=
    fun c hc => isSome_digit?_of_mem hc
  constructor
  · rw [leadingDigits, List.takeWhile_eq_self_iff.mpr hall, digitsOf]
  · exact List.dropWhile_eq_nil_iff.mpr hall

/-- The text of a number is read as a numeral with its digits. -/
theorem readUnsigned_toDigits (negative : Bool) (n : Nat) :
    readUnsigned negative (Nat.toDigits 10 n) = some (⟨negative, digitsOf n, none, none⟩, []) := by
  obtain ⟨hleading, hafter⟩ := leadingDigits_toDigits n
  rw [readUnsigned, hleading, hafter]
  rcases Nat.eq_zero_or_pos n with rfl | hpos
  · rfl
  · obtain ⟨d, rest, hdigits, hd⟩ := exists_digitsOf_cons hpos
    rw [hdigits]
    simp [readFraction, readExponent, hd]

/-- The text of a number does not start with a sign. -/
theorem readNumeral_toDigits (n : Nat) :
    readNumeral (Nat.toDigits 10 n) = readUnsigned false (Nat.toDigits 10 n) := by
  unfold readNumeral
  split
  · next heq =>
      have hminus := isSome_digit?_of_mem (n := n) (c := '-') (by rw [heq]; simp)
      cases hminus
  · rfl

/-- The digits of a number spell the number or its negative, of which zero has none. -/
theorem integer?_digitsOf {m : Nat} (h : m < UInt64.size) (negative : Bool) :
    Numeral.integer? ⟨negative, digitsOf m, none, none⟩
      = if negative then (if m = 0 then none else some (-(m : Int))) else some (m : Int) := by
  unfold Numeral.integer?
  simp only [digitsBelow?_digitsOf h]
  rfl

/-- **The text of an integer is read back as the integer.** -/
theorem readNumber_integerText (n : Int) (lower : -0x8000000000000000 ≤ n)
    (upper : n < 0x10000000000000000) :
    readNumber (integerText n) = some (.integer n lower upper, []) := by
  have hsize : UInt64.size = 0x10000000000000000 := rfl
  have hbelow : n.natAbs < UInt64.size := by omega
  -- the digits are those of the absolute value, and the sign is read before them
  have hnumber : ∀ negative, Numeral.integer? ⟨negative, digitsOf n.natAbs, none, none⟩ = some n →
      Numeral.number? ⟨negative, digitsOf n.natAbs, none, none⟩
        = some (.integer n lower upper) := by
    intro negative h
    rw [Numeral.number?, h, Option.bind_some, Number.ofInt?, dif_pos ⟨lower, upper⟩]
  unfold integerText
  split
  · next hneg =>
      have hread : readNumeral ('-' :: Nat.toDigits 10 n.natAbs)
          = some (⟨true, digitsOf n.natAbs, none, none⟩, []) := readUnsigned_toDigits true _
      have hinteger := integer?_digitsOf hbelow true
      rw [if_pos rfl, if_neg (by omega), show -(n.natAbs : Int) = n by omega] at hinteger
      rw [readNumber, hread]
      show (Numeral.number? _).map _ = _
      rw [hnumber true hinteger]
      rfl
  · next hnonneg =>
      have hread := (readNumeral_toDigits n.natAbs).trans (readUnsigned_toDigits false _)
      have hinteger := integer?_digitsOf hbelow false
      rw [if_neg (by decide), show (n.natAbs : Int) = n by omega] at hinteger
      rw [readNumber, hread]
      show (Numeral.number? _).map _ = _
      rw [hnumber false hinteger]
      rfl

end Json

/-! ## Numbers that are read back -/

/-- The text of the number is read back as the number. -/
def Number.ReadsBack (n : Number) : Prop := Json.readNumber (Json.numberText n) = some (n, [])

namespace Json

/-- The text of a number that is read back is read back from the front of a longer text. -/
theorem readNumber_append {n : Number} (h : n.ReadsBack) {rest : List Char} (hrest : Ends rest) :
    readNumber (numberText n ++ rest) = some (n, rest) := by
  rw [local_readNumber _ rest hrest, h]
  rfl

/-- A number starts with a minus sign or a digit. -/
theorem exists_head_of_readNumber {text rest : List Char} {n : Number}
    (h : readNumber text = some (n, rest)) :
    ∃ c tail, text = c :: tail ∧ (c = '-' ∨ (digit? 10 c).isSome = true) := by
  cases text with
  | nil => cases h
  | cons c tail =>
      refine ⟨c, tail, rfl, ?_⟩
      by_contra hnot
      rw [not_or, Bool.not_eq_true] at hnot
      -- without a sign and without a digit there is no numeral
      have hdigits : leadingDigits 10 (c :: tail) = [] := by
        rw [leadingDigits, List.takeWhile_cons_of_neg (by rw [hnot.2]; decide),
          List.filterMap_nil]
      have hnone : readNumeral (c :: tail) = none := by
        simp [readNumeral, hnot.1, readUnsigned, hdigits]
      rw [readNumber, hnone] at h
      cases h

end Json

end ReportRelay
