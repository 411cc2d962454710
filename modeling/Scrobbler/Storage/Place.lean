/-!
Places on a disk, and the paths that lead to them. A path is a text of names with slashes between
them; it starts at the root of the disk if it starts with a slash, and at another place otherwise.
-/

namespace Scrobbler

/-- A place on a disk: the names on the way to it from the root, the last one first. The root is the
empty list. -/
abbrev Place := List String

namespace Place

/-- Where a part of a path leads from a place, as far as names tell. Double dots lead outwards; the
root is its own outside. -/
def follow (place : Place) (part : String) : Place :=
  if part = "" ∨ part = "." then place
  else if part = ".." then place.tail
  else part :: place

/-- Where a path starts that is used at a place. -/
def start (base : Place) (path : String) : Place :=
  if path.toList.head? = some '/' then [] else base

/-- The parts of a path. -/
def parts (path : String) : List String := (path.toList.splitOn '/').map String.ofList

/-- The place that a path leads to, as far as names tell. -/
def ofPath (base : Place) (path : String) : Place := (parts path).foldl follow (start base path)

/-- The path of a place from the root. -/
def path (place : Place) : String := "/" ++ "/".intercalate place.reverse

/-- The path of what is called `name` in a directory. -/
def pathIn (directory name : String) : String :=
  if directory.toList.getLast? = some '/' then directory ++ name else directory ++ "/" ++ name

end Place

end Scrobbler
