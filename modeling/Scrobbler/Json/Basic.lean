import Scrobbler.Decimal.Binary64
import Scrobbler.NameMap

/-!
JSON values. A number is a whole number that fits 64 bits, signed or unsigned, or a binary64 number;
an object is a list of members in the order in which they are written. Free-form objects keep their
members sorted by name, with one member for each name.
-/

namespace Scrobbler

open Decimal

/-- A JSON number. Whole numbers from `-2 ^ 63` to `2 ^ 64 - 1` are kept exactly, except that
`-0` is a binary64 number like every number with a fraction or an exponent. -/
inductive Json.Number
  | integer (value : Int)
  | float (negative : Bool) (magnitude : Binary64)
  deriving DecidableEq, Repr

inductive Json
  | null
  | bool (value : Bool)
  | number (value : Json.Number)
  | text (value : String)
  | array (items : List Json)
  | object (members : List (String × Json))
  deriving Repr

namespace Json

/-- Members sorted by name. -/
abbrev Members := NameMap Json

mutual

/-- The same value with the members of every object sorted by name. -/
def sorted : Json → Json
  | .array items => .array (sortedItems items)
  | .object members => .object (NameMap.ofList (sortedMembers members))
  | value => value

def sortedItems : List Json → List Json
  | [] => []
  | item :: rest => sorted item :: sortedItems rest

def sortedMembers : List (String × Json) → List (String × Json)
  | [] => []
  | (name, value) :: rest => (name, sorted value) :: sortedMembers rest

end

/-- The number of a whole number. -/
def ofInt (n : Int) : Json := .number (.integer n)

/-- The number of a natural number. -/
def ofNat (n : Nat) : Json := .number (.integer n)

/-- A text, or `null` when there is none. -/
def ofText? : Option String → Json
  | some s => .text s
  | none => .null

/-- The last member of that name, if the value is an object that has one. -/
def member? (name : String) : Json → Option Json
  | .object members => members.reverse.lookup name
  | _ => none

def text? : Json → Option String
  | .text s => some s
  | _ => none

end Json

end Scrobbler
