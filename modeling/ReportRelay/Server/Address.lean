/-
# Socket addresses

Internet addresses of both versions with a port: reading them and their canonical text.

In the text of a version six address the longest run of two or more zero groups, the first
of equally long ones, is left out; an address that wraps one of version four shows that in
its dotted form.
-/
import ReportRelay.Decimal.Digits

namespace ReportRelay

/-- An internet address with a port. -/
inductive Address where
  /-- Four octets. -/
  | v4 (octets : List Nat) (port : Nat)
  /-- Eight groups of sixteen bits, and a scope that is zero if there is none. -/
  | v6 (groups : List Nat) (scope port : Nat)
  deriving DecidableEq, Repr

namespace Address

/-! ## Reading -/

/-- A number below a limit, of as many digits as stand at the front. -/
def number (base limit : Nat) (text : List Char) : Option (Nat × List Char) :=
  let digits := leadingDigits base text
  if digits.isEmpty then none
  else (digitsBelow? base limit 0 digits).map fun n => (n, afterDigits base text)

/-- A given character. -/
def literal (c : Char) : List Char → Option (List Char)
  | d :: rest => if d = c then some rest else none
  | [] => none

/-- An octet in decimal, without a zero in front of another digit. -/
def octet (text : List Char) : Option (Nat × List Char) :=
  match text with
  | '0' :: c :: rest => if c.isDigit then none else some (0, c :: rest)
  | _ => number 10 256 text

/-- Four octets with dots between them. -/
def octets (text : List Char) : Option (List Nat × List Char) := do
  let (a, text) ← octet text
  let (b, text) ← octet (← literal '.' text)
  let (c, text) ← octet (← literal '.' text)
  let (d, text) ← octet (← literal '.' text)
  some ([a, b, c, d], text)

/-- A group: up to four hexadecimal digits. -/
def group (text : List Char) : Option (Nat × List Char) :=
  if 4 < (leadingDigits 16 text).length then none
  else number 16 UInt16.size text

/-- Up to so many groups with colons between them, and whether they end with four octets,
which stand for two groups. -/
def groups (first : Bool) : Nat → List Char → List Nat × Bool × List Char
  | 0, text => ([], false, text)
  | room + 1, text =>
    let start := if first then some text else literal ':' text
    match if room = 0 then none else start.bind octets with
    | some ([a, b, c, d], rest) => ([256 * a + b, 256 * c + d], true, rest)
    | _ =>
      match start.bind group with
      | none => ([], false, text)
      | some (n, rest) =>
        let (more, dotted, rest) := groups false room rest
        (n :: more, dotted, rest)

/-- Eight groups, of which a run of zeros may be left out between two colons. -/
def eightGroups (text : List Char) : Option (List Nat × List Char) :=
  let (head, dotted, rest) := groups true 8 text
  if head.length = 8 then some (head, rest)
  else if dotted then none
  else do
    let rest ← literal ':' rest
    let rest ← literal ':' rest
    let (tail, _, rest) := groups true (7 - head.length) rest
    some (head ++ List.replicate (8 - head.length - tail.length) 0 ++ tail, rest)

/-- The port after its colon, at the end of the text. -/
def port? (text : List Char) : Option Nat := do
  let (n, rest) ← number 10 UInt16.size (← literal ':' text)
  if rest.isEmpty then some n else none

/-- The scope after its percent sign; there may be none. -/
def scope (text : List Char) : Nat × List Char :=
  match (literal '%' text).bind (number 10 UInt32.size) with
  | some found => found
  | none => (0, text)

/-- The address that the whole text spells. -/
def parse? (text : String) : Option Address :=
  match text.toList with
  | '[' :: rest => do
    let (groups, rest) ← eightGroups rest
    let (scope, rest) := scope rest
    let port ← port? (← literal ']' rest)
    some (v6 groups scope port)
  | chars => do
    let (octets, rest) ← octets chars
    some (v4 octets (← port? rest))

/-! ## Writing -/

/-- The decimal text of a number. -/
def decimal (n : Nat) : List Char := Nat.toDigits 10 n

/-- Texts with a character between them. -/
def joined (separator : Char) : List (List Char) → List Char
  | [] => []
  | [text] => text
  | text :: texts => text ++ separator :: joined separator texts

/-- The text of octets. -/
def octetText (octets : List Nat) : List Char := joined '.' (octets.map decimal)

/-- The text of groups. -/
def groupText (groups : List Nat) : List Char := joined ':' (groups.map (Nat.toDigits 16))

/-- The number of zeros at the front. -/
def zerosAhead (groups : List Nat) : Nat := (groups.takeWhile (· == 0)).length

/-- Where the longest run of zeros starts, and its length; the first of equally long
ones. -/
def longestZeros : List Nat → Nat × Nat
  | [] => (0, 0)
  | n :: rest =>
    let here := zerosAhead (n :: rest)
    let (start, length) := longestZeros rest
    if length ≤ here then (0, here) else (start + 1, length)

/-- The text of eight groups. -/
def ipText (groups : List Nat) : List Char :=
  match groups with
  | [0, 0, 0, 0, 0, 0xFFFF, a, b] =>
    "::ffff:".toList ++ octetText [a / 256, a % 256, b / 256, b % 256]
  | _ =>
    let (start, length) := longestZeros groups
    if length ≤ 1 then groupText groups
    else groupText (groups.take start) ++ ':' :: ':' :: groupText (groups.drop (start + length))

/-- The canonical text. -/
def text : Address → List Char
  | v4 octets port => octetText octets ++ ':' :: decimal port
  | v6 groups scope port =>
    '[' :: ipText groups ++ (if scope = 0 then [] else '%' :: decimal scope)
      ++ ']' :: ':' :: decimal port

/-- The canonical text as a string. -/
def render (address : Address) : String := String.ofList address.text

end Address

end ReportRelay
