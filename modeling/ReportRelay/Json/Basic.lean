/-
# JSON values

Documents as an inductive type.  An integer that fits 64 bits stays an integer; every
other number is a binary64 number.  The members of an object are kept in ascending
order of their keys, each key once, which `Members.insertNew` maintains.
-/
import ReportRelay.Decimal.Double

namespace ReportRelay

/-! ## Numbers -/

/-- A JSON number: an integer from `-2 ^ 63` to `2 ^ 64 - 1`, or a binary64 number. -/
inductive Number where
  | integer (n : Int) (lower : -0x8000000000000000 ≤ n) (upper : n < 0x10000000000000000)
  | float (x : Double)
  deriving DecidableEq, Repr

namespace Number

/-- The integer as a number, if it is in range. -/
def ofInt? (n : Int) : Option Number :=
  if h : -0x8000000000000000 ≤ n ∧ n < 0x10000000000000000 then some (.integer n h.1 h.2)
  else none

/-- A word is in range. -/
def ofWord (n : UInt64) : Number :=
  .integer n.toNat (by omega) (by have := n.toNat_lt; omega)

/-- The number as a word, if it is an integer and not negative. -/
def word? : Number → Option UInt64
  | .integer n _ _ => if 0 ≤ n then some (UInt64.ofNat n.toNat) else none
  | .float _ => none

/-- The number as a signed word, if it is an integer below `2 ^ 63`. -/
def signed? : Number → Option Int
  | .integer n _ _ => if n < 0x8000000000000000 then some n else none
  | .float _ => none

end Number

/-! ## Values -/

/-- A JSON value. -/
inductive Json where
  | null
  | bool (b : Bool)
  | number (n : Number)
  | string (s : String)
  | array (items : List Json)
  | object (members : List (String × Json))
  deriving Repr, Inhabited

/-- The members of an object: ascending keys, each once. -/
abbrev Members := List (String × Json)

namespace Members

/-- Adds a member in its place in the order of keys, unless its key is there. -/
def insertNew (member : String × Json) : Members → Members
  | [] => [member]
  | first :: rest =>
    if member.1 < first.1 then member :: first :: rest
    else if member.1 = first.1 then first :: rest
    else first :: insertNew member rest

/-- The members listed in any order; of a repeated key the last value stays. -/
def ofList (pairs : List (String × Json)) : Members := pairs.foldr insertNew []

/-- The value of a key. -/
def get? (members : Members) (key : String) : Option Json :=
  members.lookup key

/-- The members other than those with the given keys. -/
def without (members : Members) (keys : List String) : Members :=
  members.filter fun pair => !keys.contains pair.1

end Members

namespace Json

/-- The value of a key, if this is an object that has it. -/
def get? (key : String) : Json → Option Json
  | .object members => Members.get? members key
  | _ => none

/-- The text of a string value. -/
def string? : Json → Option String
  | .string s => some s
  | _ => none

/-- The items of an array. -/
def items? : Json → Option (List Json)
  | .array items => some items
  | _ => none

/-- The value as a word: an integer number that is not negative. -/
def word? : Json → Option UInt64
  | .number n => n.word?
  | _ => none

/-- A word as a number value. -/
def ofWord (n : UInt64) : Json := .number (.ofWord n)

/-- A count as a number value. -/
def ofNat (n : Nat) : Json := .ofWord (UInt64.ofNat n)

/-- The object with the members listed in any order. -/
def ofMembers (pairs : List (String × Json)) : Json := .object (Members.ofList pairs)

end Json

end ReportRelay
