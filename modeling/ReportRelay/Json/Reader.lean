/-
# Reading JSON

A strict reader: four blank characters, no comments, no trailing commas, no leading
zeros, no raw control characters in strings, no unpaired surrogate escapes, and nothing
after the value.  Arrays and objects may be nested up to a fixed depth, which is also
the measure on which the reader recurses.

A numeral without point and exponent that fits 64 bits is an integer.  The digits of
any other numeral are taken up while they fit an unsigned word; a digit of the integer
part that does not fit counts as a zero, and one of the fraction that does not fit is
dropped with those after it.  A numeral that is too large for a binary64 number is not
accepted.
-/
import ReportRelay.Decimal.Digits
import ReportRelay.Json.Basic

namespace ReportRelay

namespace Json

/-! ## Blanks -/

/-- The four characters that may stand between tokens. -/
def isBlank (c : Char) : Bool :=
  c = ' ' || c = '\t' || c = '\n' || c = '\r'

/-- The text after its leading blanks. -/
def skipBlanks (text : List Char) : List Char := text.dropWhile isBlank

/-! ## Strings -/

/-- What the reader of a string expects next. -/
inductive Expected where
  /-- A character, an escape or the closing quote. -/
  | any
  /-- The character after a backslash. -/
  | escape
  /-- As many hexadecimal digits as are left, after those already valued, of the second
  half of a surrogate pair if there is a first. -/
  | hex (first : Option Nat) (code : Nat) (left : Nat)
  /-- The backslash of the second half of a surrogate pair. -/
  | backslash (first : Nat)
  /-- The letter after that backslash. -/
  | letter (first : Nat)

/-- The character of a short escape. -/
def shortEscape? (c : Char) : Option Char :=
  match c with
  | '"' => some '"'
  | '\\' => some '\\'
  | '/' => some '/'
  | 'b' => some '\x08'
  | 'f' => some '\x0c'
  | 'n' => some '\n'
  | 'r' => some '\r'
  | 't' => some '\t'
  | _ => none

/-- Tells whether the code unit opens a surrogate pair. -/
def isHighSurrogate (n : Nat) : Bool := 0xD800 ≤ n && n < 0xDC00

/-- Tells whether the code unit closes a surrogate pair. -/
def isLowSurrogate (n : Nat) : Bool := 0xDC00 ≤ n && n < 0xE000

/-- The state after a complete four-digit escape: a character, or the wait for the
second half of a pair. -/
def afterHex (first : Option Nat) (code : Nat) (read : List Char) :
    Option (Expected × List Char) :=
  match first with
  | none =>
    if isHighSurrogate code then some (.backslash code, read)
    else if isLowSurrogate code then none
    else some (.any, Char.ofNat code :: read)
  | some high =>
    if isLowSurrogate code then
      some (.any, Char.ofNat (0x10000 + (high - 0xD800) * 0x400 + (code - 0xDC00)) :: read)
    else none

/-- One character of a string other than its closing quote: the next expectation and the
characters read so far, last first. -/
def stringStep (expected : Expected) (read : List Char) (c : Char) :
    Option (Expected × List Char) :=
  match expected with
  | .any =>
    if c = '\\' then some (.escape, read)
    else if c.toNat < 0x20 then none
    else some (.any, c :: read)
  | .escape =>
    if c = 'u' then some (.hex none 0 4, read)
    else (shortEscape? c).map fun d => (.any, d :: read)
  | .hex first code left =>
    match digit? 16 c with
    | none => none
    | some d =>
      if left ≤ 1 then afterHex first (16 * code + d) read
      else some (.hex first (16 * code + d) (left - 1), read)
  | .backslash first => if c = '\\' then some (.letter first, read) else none
  | .letter first => if c = 'u' then some (.hex (some first) 0 4, read) else none

/-- The rest of a string up to its closing quote, and what follows it. -/
def readString (expected : Expected) (read : List Char) :
    List Char → Option (String × List Char)
  | [] => none
  | c :: rest =>
    match expected, c with
    | .any, '"' => some (String.ofList read.reverse, rest)
    | _, _ =>
      match stringStep expected read c with
      | none => none
      | some (expected, read) => readString expected read rest

/-! ## Numbers -/

/-- A numeral as it is spelled. -/
structure Numeral where
  /-- Whether it starts with a minus sign. -/
  negative : Bool
  /-- The digits before the point. -/
  whole : List Nat
  /-- The digits after the point, if there is a point. -/
  fraction : Option (List Nat)
  /-- The exponent, if there is one. -/
  exponent : Option Int
  deriving DecidableEq, Repr

namespace Numeral

/-- Takes up digits while the number fits an unsigned word; with it, how many digits
were left out. -/
def absorb (n : Nat) : List Nat → Nat × Nat
  | [] => (n, 0)
  | d :: rest => if 10 * n + d < UInt64.size then absorb (10 * n + d) rest else (n, rest.length + 1)

/-- The binary64 value: digits of the integer part that are left out count as zeros. -/
def float? (numeral : Numeral) : Option Double :=
  let (digits, dropped) := absorb 0 numeral.whole
  let fraction := numeral.fraction.getD []
  let (digits, ignored) := absorb digits fraction
  let e : Int := numeral.exponent.getD 0 + dropped - (fraction.length - ignored : Nat)
  (Magnitude.ofDecimal? digits e).map fun x => ⟨numeral.negative, x⟩

/-- The integer that is spelled, if its digits fit an unsigned word; a negative zero is
none. -/
def integer? (numeral : Numeral) : Option Int :=
  if numeral.fraction.isSome || numeral.exponent.isSome then none
  else
    match digitsBelow? 10 UInt64.size 0 numeral.whole with
    | none => none
    | some n =>
      if numeral.negative then (if n = 0 then none else some (-(n : Int))) else some (n : Int)

/-- The number: an integer when it is spelled as one and is in range. -/
def number? (numeral : Numeral) : Option Number :=
  match numeral.integer?.bind Number.ofInt? with
  | some integer => some integer
  | none => numeral.float?.map .float

end Numeral

/-- The digits after a point, of which there is at least one; nothing is read where no
point stands. -/
def readFraction (text : List Char) : Option (Option (List Nat) × List Char) :=
  match text with
  | '.' :: rest =>
    let digits := leadingDigits 10 rest
    if digits.isEmpty then none else some (some digits, afterDigits 10 rest)
  | _ => some (none, text)

/-- The exponent that stands for those that no number of digits makes up for. -/
def greatestExponent : Nat := 0x80000000

/-- The exponent after its letter: an optional sign and at least one digit. -/
def readExponentDigits (text : List Char) : Option (Int × List Char) :=
  let (negative, text) :=
    match text with
    | '-' :: rest => (true, rest)
    | '+' :: rest => (false, rest)
    | _ => (false, text)
  let digits := leadingDigits 10 text
  let n : Int := (digitsBelow? 10 greatestExponent 0 digits).getD greatestExponent
  if digits.isEmpty then none else some (if negative then -n else n, afterDigits 10 text)

/-- The exponent; nothing is read where no exponent letter stands. -/
def readExponent (text : List Char) : Option (Option Int × List Char) :=
  match text with
  | 'e' :: rest => (readExponentDigits rest).map fun (e, rest) => (some e, rest)
  | 'E' :: rest => (readExponentDigits rest).map fun (e, rest) => (some e, rest)
  | _ => some (none, text)

/-- A numeral without its sign: no zero before another digit. -/
def readUnsigned (negative : Bool) (text : List Char) : Option (Numeral × List Char) :=
  match leadingDigits 10 text with
  | [] => none
  | 0 :: _ :: _ => none
  | whole =>
    match readFraction (afterDigits 10 text) with
    | none => none
    | some (fraction, rest) =>
      match readExponent rest with
      | none => none
      | some (e, rest) => some (⟨negative, whole, fraction, e⟩, rest)

/-- A numeral. -/
def readNumeral (text : List Char) : Option (Numeral × List Char) :=
  match text with
  | '-' :: rest => readUnsigned true rest
  | _ => readUnsigned false text

/-- A number. -/
def readNumber (text : List Char) : Option (Number × List Char) :=
  match readNumeral text with
  | none => none
  | some (numeral, rest) => numeral.number?.map fun n => (n, rest)

/-! ## Values -/

/-- One or more items with commas between them, up to the closing character; items read
so far come last first.  The fuel bounds the number of items. -/
def readList {α : Type} (item : List Char → Option (α × List Char)) (close : Char) :
    Nat → List α → List Char → Option (List α × List Char)
  | 0, _, _ => none
  | fuel + 1, read, text =>
    match item text with
    | none => none
    | some (a, rest) =>
      match skipBlanks rest with
      | [] => none
      | c :: rest =>
        if c = ',' then readList item close fuel (a :: read) rest
        else if c = close then some ((a :: read).reverse, rest)
        else none

/-- The items between an opening character already read and the closing one, of which
there may be none. -/
def readItems {α : Type} (item : List Char → Option (α × List Char)) (close : Char)
    (fuel : Nat) (text : List Char) : Option (List α × List Char) :=
  match skipBlanks text with
  | [] => none
  | c :: rest => if c = close then some ([], rest) else readList item close fuel [] (c :: rest)

/-- The key of a member, up to its closing quote. -/
def readKey (text : List Char) : Option (String × List Char) :=
  match skipBlanks text with
  | '"' :: rest => readString .any [] rest
  | _ => none

/-- What follows the colon between a key and its value. -/
def afterColon? (text : List Char) : Option (List Char) :=
  match skipBlanks text with
  | ':' :: rest => some rest
  | _ => none

/-- A member of an object, given the reader of its value. -/
def readMember (value : List Char → Option (Json × List Char)) (text : List Char) :
    Option ((String × Json) × List Char) :=
  match readKey text with
  | none => none
  | some (key, rest) =>
    match (afterColon? rest).bind value with
    | none => none
    | some (v, rest) => some ((key, v), rest)

/-- A fixed word. -/
def readWord (word : List Char) (value : Json) (text : List Char) : Option (Json × List Char) :=
  if word.isPrefixOf text then some (value, text.drop word.length) else none

/-- A value that is no array and no object. -/
def readScalar (text : List Char) : Option (Json × List Char) :=
  match text with
  | [] => none
  | c :: rest =>
    if c = '"' then (readString .any [] rest).map fun (s, rest) => (.string s, rest)
    else if c = 'n' then readWord "null".toList .null text
    else if c = 't' then readWord "true".toList (.bool true) text
    else if c = 'f' then readWord "false".toList (.bool false) text
    else (readNumber text).map fun (n, rest) => (.number n, rest)

/-- A value after optional blanks, in which arrays and objects are nested up to the given
depth. -/
def readValue (fuel : Nat) : (depth : Nat) → List Char → Option (Json × List Char)
  | 0, text =>
    match skipBlanks text with
    | '[' :: _ => none
    | '\x7b' :: _ => none
    | text => readScalar text
  | depth + 1, text =>
    match skipBlanks text with
    | '[' :: rest =>
      (readItems (readValue fuel depth) ']' fuel rest).map fun (items, rest) =>
        (.array items, rest)
    | '\x7b' :: rest =>
      (readItems (readMember (readValue fuel depth)) '\x7d' fuel rest).map fun (pairs, rest) =>
        (.ofMembers pairs, rest)
    | text => readScalar text

/-- How deep arrays and objects may be nested. -/
def greatestDepth : Nat := 127

/-- What a reader makes of a whole text: its outcome, if only blanks follow. -/
def complete? {α : Type} (outcome : Option (α × List Char)) : Option α :=
  match outcome with
  | none => none
  | some (a, rest) => if (skipBlanks rest).isEmpty then some a else none

/-- The value that the whole text spells. -/
def parseChars? (text : List Char) : Option Json :=
  complete? (readValue (text.length + 1) greatestDepth text)

/-- The value that a text spells. -/
def parse? (text : String) : Option Json := parseChars? text.toList

/-! ## Spellings of an object -/

/-- A value of which the outermost object is kept as it is spelled, with repeated keys. -/
inductive Spelled where
  /-- An object with its members in the order of the text. -/
  | members (pairs : List (String × Json))
  /-- A value that is no object. -/
  | other (value : Json)

/-- The value that is spelled. -/
def Spelled.value : Spelled → Json
  | .members pairs => .ofMembers pairs
  | .other value => value

/-- A value after optional blanks, its outermost object as it is spelled. -/
def readSpelled (fuel depth : Nat) (text : List Char) : Option (Spelled × List Char) :=
  match depth, skipBlanks text with
  | depth + 1, '\x7b' :: rest =>
    (readItems (readMember (readValue fuel depth)) '\x7d' fuel rest).map fun (pairs, rest) =>
      (.members pairs, rest)
  | _, _ => (readValue fuel depth text).map fun (value, rest) => (.other value, rest)

/-- The spelling of the value that the whole text spells. -/
def spelled? (text : List Char) : Option Spelled :=
  complete? (readSpelled (text.length + 1) greatestDepth text)

end Json

end ReportRelay
