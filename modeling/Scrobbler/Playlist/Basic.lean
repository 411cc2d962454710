import Scrobbler.Json.Record
import Scrobbler.Text.Blank

/-!
Playlists in the JSPF format.
-/

namespace Scrobbler

open Json (Wire Fields Decoder Members)

structure PlaylistTrack where
  identifier : String
  title : Option String
  creator : Option String
  album : Option String
  /-- Milliseconds. -/
  duration : Option UInt64
  extension : Members
  deriving Repr

namespace PlaylistTrack

def fields : Fields PlaylistTrack :=
  mk <$> .withDefault "identifier" .text ""
    <*> .optional "title" .text
    <*> .optional "creator" .text
    <*> .optional "album" .text
    <*> .optional "duration" .uint64
    <*> .withDefault "extension" .object []

def toJson (t : PlaylistTrack) : Json :=
  .object <|
    ("identifier", .text t.identifier) ::
      (Json.memberIf "title" (t.title.map .text) ++
        Json.memberIf "creator" (t.creator.map .text) ++
        Json.memberIf "album" (t.album.map .text) ++
        Json.memberIf "duration" (t.duration.map Json.ofUInt64) ++
        Json.membersIf "extension" t.extension)

instance : Wire PlaylistTrack := ⟨fields.closed, toJson⟩

end PlaylistTrack

structure Playlist where
  title : String
  creator : Option String
  annotation : Option String
  identifier : Option String
  date : Option String
  track : List PlaylistTrack
  extension : Members
  deriving Repr

namespace Playlist

def fields : Fields Playlist :=
  mk <$> .withDefault "title" .text ""
    <*> .optional "creator" .text
    <*> .optional "annotation" .text
    <*> .optional "identifier" .text
    <*> .optional "date" .text
    <*> .withDefault "track" Wire.decoder []
    <*> .withDefault "extension" .object []

def members (p : Playlist) : List (String × Json) :=
  ("title", .text p.title) ::
    (Json.memberIf "creator" (p.creator.map .text) ++
      Json.memberIf "annotation" (p.annotation.map .text) ++
      Json.memberIf "identifier" (p.identifier.map .text) ++
      Json.memberIf "date" (p.date.map .text) ++
      ("track", Wire.toJson p.track) :: Json.membersIf "extension" p.extension)

/-- The part of an identifier after its last slash, once the slashes at its end are gone; there is
none when nothing else is left. -/
def lastSegment? (identifier : List Char) : Option (List Char) :=
  let segment := (Text.dropEndWhile (· = '/') identifier).reverse.takeWhile (· ≠ '/')
  if segment.isEmpty then none else some segment.reverse

/-- The MBID of a playlist, which ends its identifier. -/
def mbid? (p : Playlist) : Option String :=
  p.identifier.bind fun identifier => (lastSegment? identifier.toList).map String.ofList

end Playlist

/-- A playlist as it is sent: inside an object of its own. -/
structure PlaylistDocument where
  playlist : Playlist
  deriving Repr

namespace PlaylistDocument

def fields : Fields PlaylistDocument :=
  mk <$> .required "playlist" Playlist.fields.closed

def toJson (d : PlaylistDocument) : Json :=
  .object [("playlist", .object d.playlist.members)]

instance : Wire PlaylistDocument := ⟨fields.closed, toJson⟩

end PlaylistDocument

/-- A page of playlists. -/
structure PlaylistsPage where
  playlists : List PlaylistDocument
  playlistCount : UInt64
  count : UInt64
  offset : UInt64
  deriving Repr

namespace PlaylistsPage

def fields : Fields PlaylistsPage :=
  mk <$> .withDefault "playlists" Wire.decoder []
    <*> .withDefault "playlist_count" .uint64 0
    <*> .withDefault "count" .uint64 0
    <*> .withDefault "offset" .uint64 0

/-- The page of a reply. -/
def decoder : Decoder PlaylistsPage := fields.closed

end PlaylistsPage

/-- The MBID of a new playlist, in a reply. -/
def Playlist.newMbid : Decoder String := Fields.closed (.required "playlist_mbid" .text)

/-- Which of a user's playlists are meant. -/
inductive PlaylistKind
  | owned
  | createdFor
  | collaborator
  deriving DecidableEq, Repr

instance : Inhabited PlaylistKind := ⟨.owned⟩

/-- What the kind adds to the path of a request. -/
def PlaylistKind.pathSuffix : PlaylistKind → String
  | .owned => ""
  | .createdFor => "/createdfor"
  | .collaborator => "/collaborator"

end Scrobbler
