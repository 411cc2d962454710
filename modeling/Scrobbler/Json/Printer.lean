import Scrobbler.Json.Basic
import Scrobbler.Decimal.Shortest

/-!
The written form of JSON values: compact, with the members of an object in their order, or indented
by two spaces a level. Only quotes, backslashes and the characters below U+0020 are escaped.
-/

namespace Scrobbler.Json

open Decimal

/-- A digit of the base sixteen, in lower case. -/
def hexDigit (n : Nat) : Char := (Nat.digitChar n)

/-- The written form of one character of a text. -/
def escapeChar (c : Char) : List Char :=
  if c = '\"' then ['\\', '\"']
  else if c = '\\' then ['\\', '\\']
  else if c = '\x08' then ['\\', 'b']
  else if c = '\t' then ['\\', 't']
  else if c = '\n' then ['\\', 'n']
  else if c = '\x0c' then ['\\', 'f']
  else if c = '\r' then ['\\', 'r']
  else if c.toNat < 0x20 then
    ['\\', 'u', '0', '0', hexDigit (c.toNat / 16), hexDigit (c.toNat % 16)]
  else [c]

/-- A text in quotes. -/
def quoted (s : String) : List Char :=
  '\"' :: (s.toList.flatMap escapeChar ++ ['\"'])

/-- The digits of a natural number. -/
def naturalChars (n : Nat) : List Char := Nat.toDigits 10 n

/-- A whole number, with a minus sign if it is negative. -/
def integerChars : Int → List Char
  | .ofNat n => naturalChars n
  | .negSucc n => '-' :: naturalChars (n + 1)

/-- A magnitude is written positionally when the power of ten of its first digit lies between these
limits, and with an exponent otherwise. -/
def positionalRange : Int × Int := (-5, 15)

/-- The written form of a magnitude: a point or an exponent is always there, a lone digit after the
point is `0`, and an exponent has a sign and no leading zeros. -/
def magnitudeChars (x : Binary64) : List Char :=
  let shortest := x.shortest
  let digits := naturalChars shortest.digits
  let top : Int := shortest.exponent + digits.length - 1
  if x.significand = 0 then ['0', '.', '0']
  else if positionalRange.1 ≤ top ∧ top ≤ positionalRange.2 then
    if 0 ≤ shortest.exponent then
      digits ++ List.replicate shortest.exponent.toNat '0' ++ ['.', '0']
    else if 0 ≤ top then
      digits.take (top.toNat + 1) ++ '.' :: digits.drop (top.toNat + 1)
    else '0' :: '.' :: (List.replicate ((-top).toNat - 1) '0' ++ digits)
  else
    digits.take 1 ++ (if digits.length = 1 then [] else '.' :: digits.drop 1) ++
      'e' :: (if 0 ≤ top then '+' else '-') :: naturalChars top.natAbs

def Number.chars : Number → List Char
  | .integer n => integerChars n
  | .float negative x => if negative then '-' :: magnitudeChars x else magnitudeChars x

mutual

/-- The compact written form. -/
def chars : Json → List Char
  | .null => ['n', 'u', 'l', 'l']
  | .bool true => ['t', 'r', 'u', 'e']
  | .bool false => ['f', 'a', 'l', 's', 'e']
  | .number n => n.chars
  | .text s => quoted s
  | .array [] => ['[', ']']
  | .array (item :: rest) => '[' :: (chars item ++ (itemsChars rest ++ [']']))
  | .object [] => ['\x7b', '\x7d']
  | .object ((name, value) :: rest) =>
      '\x7b' :: (quoted name ++ ':' :: (chars value ++ (membersChars rest ++ ['\x7d'])))

/-- Items that follow a first one. -/
def itemsChars : List Json → List Char
  | [] => []
  | item :: rest => ',' :: (chars item ++ itemsChars rest)

/-- Members that follow a first one. -/
def membersChars : List (String × Json) → List Char
  | [] => []
  | (name, value) :: rest => ',' :: (quoted name ++ ':' :: (chars value ++ membersChars rest))

end

/-- The compact written form. -/
def render (value : Json) : String := String.ofList value.chars

/-- The written form of an object without nested values, one member a line. -/
def renderLines (members : List (String × Json)) : String :=
  String.ofList <|
    ['\x7b', '\n'] ++
      List.intercalate [',', '\n']
        (members.map fun (name, value) => [' ', ' '] ++ quoted name ++ [':', ' '] ++ value.chars) ++
      ['\n', '\x7d']

end Scrobbler.Json
