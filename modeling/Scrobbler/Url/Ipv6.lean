import Scrobbler.Url.Ipv4

/-!
Numeric hosts of eight pieces of sixteen bits. Two colons stand for a run of pieces that are zero;
the written form has them for the longest run.
-/

namespace Scrobbler.Url.Ipv6

/-- The parts of a text between its colons. -/
def split : List Char → List (List Char)
  | [] => [[]]
  | c :: rest =>
      if c = ':' then [] :: split rest
      else
        match split rest with
        | [] => [[c]]
        | part :: others => (c :: part) :: others

/-- A piece has one to four digits of base sixteen. -/
def piece? (part : List Char) : Option Nat :=
  if part.isEmpty ∨ 4 < part.length then none else Ipv4.value? 16 part

/-- A byte of the dotted form, which starts with no needless zero. -/
def byte? (part : List Char) : Option Nat :=
  if part.isEmpty ∨ (1 < part.length ∧ part.head? = some '0') then none
  else (Ipv4.value? 10 part).filter (· < 256)

/-- Two pieces in the dotted form of four bytes. -/
def dotted? (part : List Char) : Option (List Nat) := do
  match ← (Ipv4.parts part).mapM byte? with
  | [a, b, c, d] => some [a * 256 + b, c * 256 + d]
  | _ => none

/-- The pieces of parts; only the last one of all may be dotted. -/
def piecesOf? (atEnd : Bool) : List (List Char) → Option (List Nat)
  | [] => some []
  | [part] => if atEnd && part.contains '.' then dotted? part else (piece? part).map ([·])
  | part :: rest => do return (← piece? part) :: (← piecesOf? atEnd rest)

/-- The pieces of a text. -/
def pieces? (atEnd : Bool) (s : List Char) : Option (List Nat) :=
  if s.isEmpty then some [] else piecesOf? atEnd (split s)

/-- What stands before and after the first two colons in a row. -/
def splitGap : List Char → List Char × Option (List Char)
  | [] => ([], none)
  | ':' :: ':' :: rest => ([], some rest)
  | c :: rest => (c :: (splitGap rest).1, (splitGap rest).2)

/-- The eight pieces of an address. -/
def address? (s : List Char) : Option (List Nat) := do
  match splitGap s with
  | (whole, none) => (← pieces? true whole) |> fun ps => if ps.length = 8 then some ps else none
  | (before, some after) =>
      let before ← pieces? false before
      let after ← pieces? true after
      let missing := 8 - (before.length + after.length)
      if missing = 0 then none else some (before ++ List.replicate missing 0 ++ after)

/-- The number of zero pieces from place `i` on. -/
def zerosAt (pieces : List Nat) (i : Nat) : Nat := ((pieces.drop i).takeWhile (· == 0)).length

/-- The place of the first of the longest runs of zero pieces. -/
def longestRun (pieces : List Nat) : Nat :=
  (List.range pieces.length).foldl
    (fun best i => if zerosAt pieces best < zerosAt pieces i then i else best) 0

/-- Pieces between colons. -/
def joined (pieces : List Nat) : List Char :=
  List.intercalate [':'] (pieces.map (Nat.toDigits 16))

/-- The written form. -/
def chars (pieces : List Nat) : List Char :=
  let place := longestRun pieces
  let count := zerosAt pieces place
  if count < 2 then joined pieces
  else joined (pieces.take place) ++ [':', ':'] ++ joined (pieces.drop (place + count))

end Scrobbler.Url.Ipv6
