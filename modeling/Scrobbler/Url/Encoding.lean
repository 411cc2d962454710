import Scrobbler.Text.Integer
import Scrobbler.Text.Utf8

/-!
Encodings of text in addresses. A byte that may not stand for itself is written as a percent sign
and two digits of the base sixteen.
-/

namespace Scrobbler.Url

/-- A digit of the base sixteen, in upper case. -/
def upperHex (n : Nat) : Char := (Nat.digitChar n).toUpper

/-- A byte in its percent form. -/
def percent (b : UInt8) : List Char := ['%', upperHex (b.toNat / 16), upperHex (b.toNat % 16)]

/-- Writes the characters for which `escapes` holds, and all that are not printable ASCII, in the
percent form of their bytes. -/
def escape (escapes : Char → Bool) (s : List Char) : List Char :=
  s.flatMap fun c =>
    if c.toNat < 0x20 || 0x7F ≤ c.toNat || escapes c then
      (Text.Utf8.encode (String.singleton c)).flatMap percent
    else [c]

/-- What does not stand for itself in a path. -/
def escapesInPath (c : Char) : Bool :=
  c == ' ' || c == '\"' || c == '<' || c == '>' || c == '\x60' || c == '\x7b' || c == '\x7d'

/-- What does not stand for itself in a query; an apostrophe only does so where the scheme is one of
those that have a host. -/
def escapesInQuery (special : Bool) (c : Char) : Bool :=
  c == ' ' || c == '\"' || c == '#' || c == '<' || c == '>' || (special && c == '\x27')

/-- What does not stand for itself in a fragment. -/
def escapesInFragment (c : Char) : Bool :=
  c == ' ' || c == '\"' || c == '<' || c == '>' || c == '\x60'

/-- What does not stand for itself in the name and the password of a user. -/
def escapesInUser (c : Char) : Bool :=
  escapesInPath c || "#/:;=?@[\\]^|".toList.contains c

/-- The bytes that a text in percent form stands for. -/
def unescape (s : List UInt8) : List UInt8 :=
  match s with
  | [] => []
  | a :: b :: c :: rest =>
      match a == 0x25, Text.hexDigit? (Char.ofNat b.toNat), Text.hexDigit? (Char.ofNat c.toNat) with
      | true, some high, some low => UInt8.ofNat (high * 16 + low) :: unescape rest
      | _, _, _ => a :: unescape (b :: c :: rest)
  | a :: rest => a :: unescape rest

/-- The text that a text in percent form stands for. -/
def unescape? (s : List Char) : Option (List Char) :=
  (Text.Utf8.text? (unescape (Text.Utf8.encode (String.ofList s)))).map String.toList

namespace Form

/-- A byte that stands for itself in form text. -/
def isPlain (b : UInt8) : Bool :=
  (0x30 ≤ b && b ≤ 0x39) || (0x41 ≤ b && b ≤ 0x5A) || (0x61 ≤ b && b ≤ 0x7A) ||
    b == 0x2A || b == 0x2D || b == 0x2E || b == 0x5F

/-- A byte of form text; a space becomes a plus sign. -/
def encodeByte (b : UInt8) : List Char :=
  if isPlain b then [Char.ofNat b.toNat]
  else if b == 0x20 then ['+']
  else percent b

def encode (s : String) : List Char := (Text.Utf8.encode s).flatMap encodeByte

/-- Names with their values, each pair after a separator but the first of an empty query. -/
def append (query : List Char) (pairs : List (String × String)) : List Char :=
  pairs.foldl
    (fun query (name, value) =>
      query ++ (if query.isEmpty then [] else ['&']) ++ encode name ++ '=' :: encode value)
    query

end Form

end Scrobbler.Url
