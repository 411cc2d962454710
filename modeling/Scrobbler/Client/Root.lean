import Scrobbler.Text.Blank

/-!
Roots: the addresses that paths are appended to. The root of the listens server ends in `/1`, the
version of its interface; the other roots end in no slash.
-/

namespace Scrobbler.Root

/-- The end of every root of the listens server. -/
def version : List Char := ['/', '1']

/-- Drops one slash at the end, if there is one. -/
def dropSlash (root : List Char) : List Char :=
  if root.getLast? = some '/' then root.dropLast else root

/-- Drops one slash at the end, and appends the version unless it is there. -/
def versionedChars (root : List Char) : List Char :=
  if version.isSuffixOf (dropSlash root) then dropSlash root else dropSlash root ++ version

/-- The root of the listens server, with or without its version and a slash at the end. -/
def versioned (root : String) : String := String.ofList (versionedChars root.toList)

/-- Drops all slashes at the end. -/
def trimmed (root : String) : String :=
  String.ofList (Text.dropEndWhile (· = '/') root.toList)

/-- The address of a path below a root. -/
def address (root path : String) : String :=
  root ++ "/" ++ String.ofList (path.toList.dropWhile (· = '/'))

end Scrobbler.Root
