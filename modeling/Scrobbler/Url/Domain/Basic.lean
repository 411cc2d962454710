import Scrobbler.Text.Normal.Form
import Scrobbler.Url.Domain.Allowed
import Scrobbler.Url.Domain.Direction
import Scrobbler.Url.Domain.Joining
import Scrobbler.Url.Domain.Mapping
import Scrobbler.Url.Domain.Punycode

/-!
Domain names. A name may be written with characters of any script; its ASCII form, which is the same
for all ways to write it, has small letters, and marks each label that is not ASCII.
-/

namespace Scrobbler.Url.Domain

def isAscii (c : Char) : Bool := c.toNat < 0x80

/-- Characters that no host has. -/
def isForbidden (c : Char) : Bool :=
  c.toNat ≤ 0x20 || c.toNat = 0x7F || "#/:<>?@[\\]^|%".toList.contains c

/-- The form of a character in a name. -/
def form? (c : Char) : Option (List Char) :=
  if isAscii c then some [c.toLower]
  else
    match mapped? c with
    | some form => some form
    | none => if isAllowed c then some [c] else none

/-- The characters of a name in the forms that names have. -/
def normalized? (s : List Char) : Option (List Char) := do
  let name := Text.Normal.form (← s.mapM form?).flatten
  if name.any isForbidden then none else some name

/-- The labels of a name: its parts between full stops. -/
def labels : List Char → List (List Char)
  | [] => [[]]
  | c :: rest =>
      if c = '.' then [] :: labels rest
      else
        match labels rest with
        | [] => [[c]]
        | label :: others => (c :: label) :: others

/-- What a label starts with whose other characters stand for a label that is not ASCII. -/
def mark : List Char := ['x', 'n', '-', '-']

/-- The longest label that is taken apart or put together. -/
def decodeLimit : Nat := 2000

def encodeLimit : Nat := 1000

/-- A character that names have in this form. -/
def isKept (c : Char) : Bool :=
  form? c == some [c] && !isForbidden c && c ≠ '.'

/-- The label that a marked label stands for. It may have no other form, and must not be ASCII. -/
def unmarked? (s : List Char) : Option (List Char) := do
  if decodeLimit < s.length ∨ !s.all isAscii ∨ s.getLast?.all (· == '-') then none
  else
    let label ← Punycode.decode s
    if label.all isKept && Text.Normal.form label == label then some label else none

/-- The characters of a label. -/
def meaning? (label : List Char) : Option (List Char) :=
  if mark.isPrefixOf label then unmarked? (label.drop mark.length) else some label

/-- The characters of a label may stand where they do. -/
def fits (label : List Char) : Bool :=
  !label.head?.any isMark && joinersFit [] label &&
    (label.all isAscii || label.length ≤ encodeLimit)

/-- The labels go in one direction each, if any of them is written from right to left. -/
def directionsFit (ls : List (List Char)) : Bool :=
  !ls.any (·.any isRightToLeft) || ls.all fun label => isOrdered (label.map direction)

/-- The ASCII form of a label. -/
def asciiLabel (label : List Char) : List Char :=
  if label.all isAscii then label else mark ++ Punycode.encode label

/-- The ASCII form of a name. -/
def ascii? (s : List Char) : Option (List Char) := do
  let ls ← (labels (← normalized? s)).mapM meaning?
  if ls.all fits && directionsFit ls then some (List.intercalate ['.'] (ls.map asciiLabel))
  else none

end Scrobbler.Url.Domain
