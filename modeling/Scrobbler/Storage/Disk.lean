import Scrobbler.Storage.Place
import Scrobbler.Text.Utf8

/-!
Files and directories on a disk. Whoever uses it may read, write and remove all of them.
-/

namespace Scrobbler

/-- What stands at a place. -/
inductive DiskEntry
  | file (content : List UInt8)
  | directory
  deriving DecidableEq, Repr

/-- Files and directories by place. The root is a directory, and is not listed. -/
abbrev Disk := List (Place × DiskEntry)

/-- Why a file or directory cannot be read, written, created or removed. -/
inductive DiskError
  | notFound
  | alreadyExists
  | notDirectory
  | isDirectory
  | nameTooLong
  | notText
  deriving DecidableEq, Repr

/-- The wording of an error. -/
def DiskError.message : DiskError → String
  | .notFound => "No such file or directory (os error 2)"
  | .alreadyExists => "File exists (os error 17)"
  | .notDirectory => "Not a directory (os error 20)"
  | .isDirectory => "Is a directory (os error 21)"
  | .nameTooLong => "File name too long (os error 36)"
  | .notText => "stream did not contain valid UTF-8"

namespace Disk

/-- The most bytes that a path has. -/
def longestPath : Nat := 4095

/-- The most bytes that a name has. -/
def longestName : Nat := 255

/-- What stands at a place. -/
def entry? (disk : Disk) (place : Place) : Option DiskEntry :=
  if place.isEmpty then some .directory else disk.lookup place

/-- Leaves nothing at a place. -/
def erase (disk : Disk) (place : Place) : Disk := disk.filter fun (other, _) => other ≠ place

/-- Puts something at a place. -/
def set (disk : Disk) (place : Place) (entry : DiskEntry) : Disk :=
  (place, entry) :: disk.erase place

/-- Goes along a part of a path from a place, which must be a directory. -/
def step (disk : Disk) (place : Place) (part : String) : Except DiskError Place :=
  match disk.entry? place with
  | some .directory =>
      if longestName < Text.Utf8.size part then .error .nameTooLong else .ok (place.follow part)
  | some (.file _) => .error .notDirectory
  | none => .error .notFound

/-- Goes along the parts of a path. -/
def walk (disk : Disk) (place : Place) (parts : List String) : Except DiskError Place :=
  parts.foldlM disk.step place

/-- The place that a path leads to. Only at that place there may be nothing. -/
def resolve (disk : Disk) (base : Place) (path : String) : Except DiskError Place :=
  if path.isEmpty then .error .notFound
  else if longestPath < Text.Utf8.size path then .error .nameTooLong
  else disk.walk (.start base path) (Place.parts path)

/-- The bytes of a file. -/
def readBytes (disk : Disk) (base : Place) (path : String) : Except DiskError (List UInt8) := do
  match disk.entry? (← disk.resolve base path) with
  | some (.file content) => return content
  | some .directory => throw .isDirectory
  | none => throw .notFound

/-- The text of a file. -/
def readText (disk : Disk) (base : Place) (path : String) : Except DiskError String := do
  let content ← disk.readBytes base path
  (Text.Utf8.text? content).elim (.error .notText) .ok

/-- Writes a file in place of any other. -/
def write (disk : Disk) (base : Place) (path : String) (content : List UInt8) :
    Except DiskError Disk := do
  let place ← disk.resolve base path
  if disk.entry? place = some .directory then throw .isDirectory
  else return disk.set place (.file content)

/-- Removes a file. -/
def remove (disk : Disk) (base : Place) (path : String) : Except DiskError Disk := do
  let place ← disk.resolve base path
  match disk.entry? place with
  | some (.file _) => return disk.erase place
  | some .directory => throw .isDirectory
  | none => throw .notFound

/-- Creates the directories that are missing along the parts of a path. -/
def makeAlong (disk : Disk) (place : Place) : List String → Except DiskError Disk
  | [] => .ok disk
  | part :: rest =>
      let next := place.follow part
      match disk.entry? next with
      | some .directory => makeAlong disk next rest
      | some (.file _) => .error (if rest.isEmpty then .alreadyExists else .notDirectory)
      | none =>
          if longestName < Text.Utf8.size part then .error .nameTooLong
          else makeAlong (disk.set next .directory) next rest

/-- Creates a directory and those on the way to it, unless they are there. -/
def makeDirectories (disk : Disk) (base : Place) (path : String) : Except DiskError Disk :=
  if longestPath < Text.Utf8.size path then .error .nameTooLong
  else disk.makeAlong (.start base path) (Place.parts path)

/-- The disk with a directory at a place and on the way to it, where nothing is listed. -/
def withDirectory (disk : Disk) : Place → Disk
  | [] => disk
  | name :: outer =>
      let disk := disk.withDirectory outer
      if (disk.lookup (name :: outer)).isSome then disk else disk.set (name :: outer) .directory

/-- The disk with a file at a place, and directories on the way to it. -/
def withFile (disk : Disk) (place : Place) (content : List UInt8) : Disk :=
  (disk.withDirectory place.tail).set place (.file content)

end Disk

end Scrobbler
