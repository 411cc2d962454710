import Scrobbler.Url.Encoding

/-!
Paths of addresses: segments between slashes, of which some stand for the path itself or for the one
above. In paths of files, a first segment may be the letter of a drive.
-/

namespace Scrobbler.Url

/-- In most addresses a backslash counts as a slash. -/
def isSlash (special : Bool) (c : Char) : Bool := c == '/' || (special && c == '\\')

/-- The parts of a text between its slashes. -/
def splitSlashes (special : Bool) : List Char → List (List Char)
  | [] => [[]]
  | c :: rest =>
      if isSlash special c then [] :: splitSlashes special rest
      else
        match splitSlashes special rest with
        | [] => [[c]]
        | segment :: others => (c :: segment) :: others

/-- A segment that stands for the path itself. -/
def isDot (segment : List Char) : Bool :=
  [".", "%2e"].contains (String.ofList (segment.map Char.toLower))

/-- A segment that stands for the path above. -/
def isDoubleDot (segment : List Char) : Bool :=
  ["..", ".%2e", "%2e.", "%2e%2e"].contains (String.ofList (segment.map Char.toLower))

/-- A letter with a colon, or with a bar in its place. -/
def isDrive : List Char → Bool
  | [c, d] => c.isAlpha && (d == ':' || d == '|')
  | _ => false

/-- The segment is the letter of a drive, perhaps with a backslash behind it. -/
def startsWithDrive (segment : List Char) : Bool :=
  isDrive (segment.take 2) && (segment.drop 2).head?.all (· == '\\')

/-- How far a path was followed. -/
structure Walk where
  /-- The segments so far, last first, in their escaped form. -/
  passed : List (List Char)
  /-- The path was entered by the letter of a drive. -/
  onDrive : Bool

namespace Walk

/-- The start of a path. -/
def start : Walk := ⟨[], false⟩

/-- Goes to the path above, but not above a drive. -/
def up (w : Walk) : Walk :=
  match w.passed with
  | last :: rest => if startsWithDrive last then w else { w with passed := rest }
  | [] => w

def plain (segment : List Char) (w : Walk) : Walk :=
  { w with passed := escape escapesInPath segment :: w.passed }

/-- Enters a segment. In the path of a file the letter of a drive is the first segment by itself,
whatever follows it. -/
def enter (file : Bool) (segment : List Char) (w : Walk) : Walk :=
  if file && w.passed.isEmpty then
    if isDrive segment then ⟨[segment.take 1 ++ [':']], true⟩
    else if isDrive (segment.take 2) && segment[1]? == some ':' then
      ({ w with passed := [segment.take 2] } : Walk).plain (segment.drop 2)
    else w.plain segment
  else w.plain segment

/-- Follows segments. A path that ends in a dot segment ends in a slash. -/
def follow (file : Bool) (w : Walk) : List (List Char) → Walk
  | [] => w
  | segment :: rest =>
      let w :=
        if isDoubleDot segment then w.up
        else if isDot segment then w
        else w.enter file segment
      let w :=
        if rest.isEmpty && (isDoubleDot segment || isDot segment) then w.plain [] else w
      follow file w rest

/-- The segments of a path. -/
def segments (w : Walk) : List (List Char) := w.passed.reverse

end Walk

/-- The segments of a path without the empty ones at its head; one segment stays. -/
def dropEmptyHead (segments : List (List Char)) : List (List Char) :=
  match segments.dropWhile List.isEmpty with
  | [] => [[]]
  | rest => rest

end Scrobbler.Url
