import Scrobbler.Calendar.Timestamp
import Scrobbler.Listen.Basic
import Scrobbler.Pin
import Scrobbler.Playlist.Basic
import Scrobbler.Statistics.Basic
import Scrobbler.Table.Grid
import Scrobbler.Word

/-!
Rows of the tables that show listens, statistics, playlists and pins.
-/

namespace Scrobbler

structure ListenRow where
  listenedAt : String
  artist : String
  track : String
  release : String
  deriving DecidableEq, Repr

structure StatRow where
  rank : UInt64
  name : String
  artist : String
  listens : UInt64
  deriving DecidableEq, Repr

structure PlaylistRow where
  title : String
  creator : String
  tracks : Nat
  mbid : String
  deriving DecidableEq, Repr

structure PinRow where
  pinned : String
  artist : String
  track : String
  blurb : String
  deriving DecidableEq, Repr

namespace Rows

def ofListens (listens : List Listen) : List ListenRow :=
  listens.map fun l =>
    { listenedAt := Timestamp.format l.listenedAt
      artist := l.trackMetadata.artistName
      track := l.trackMetadata.trackName
      release := l.trackMetadata.releaseName.getD "" }

/-- The row of a statistic. The artist has a column of its own unless artists are counted. -/
def ofStat (entity : Entity) (rank : UInt64) (s : EntityStat) : StatRow :=
  { rank := rank
    name := s.nameOf entity
    artist := if entity = .artist then "" else s.artistName
    listens := s.listenCount }

/-- The rank of the statistic at a place, from the one after `offset`. Ranks are words of 64 bits: there
is none where a sum leaves them. -/
def rank? (offset : UInt64) (place : Nat) : Option UInt64 :=
  (Word.add? offset place).bind (Word.add? · 1)

/-- Statistics are ranked in their order. If one of them has no rank, there are no rows at all: the program
panics. -/
def ofStats (entity : Entity) (stats : List EntityStat) (offset : UInt64) : Option (List StatRow) :=
  stats.zipIdx.mapM fun (s, place) => (rank? offset place).map (ofStat entity · s)

def ofPlaylists (playlists : List PlaylistDocument) : List PlaylistRow :=
  playlists.map fun d =>
    { title := d.playlist.title
      creator := d.playlist.creator.getD ""
      tracks := d.playlist.track.length
      mbid := d.playlist.mbid?.getD "" }

def ofPins (pins : List Pin) : List PinRow :=
  pins.map fun p =>
    { pinned := Timestamp.format (some p.created)
      artist := (p.trackMetadata.map (·.artistName)).getD ""
      track := (p.trackMetadata.map (·.trackName)).getD ""
      blurb := p.blurb.getD "" }

end Rows

namespace Table

private def digits (n : Nat) : String := String.ofList (Json.naturalChars n)

def ofListens (rows : List ListenRow) : List String :=
  Grid.render ["listened_at", "artist", "track", "release"]
    (rows.map fun r => [r.listenedAt, r.artist, r.track, r.release])

def ofStats (rows : List StatRow) : List String :=
  Grid.render ["rank", "name", "artist", "listens"]
    (rows.map fun r => [digits r.rank.toNat, r.name, r.artist, digits r.listens.toNat])

def ofPlaylists (rows : List PlaylistRow) : List String :=
  Grid.render ["title", "creator", "tracks", "mbid"]
    (rows.map fun r => [r.title, r.creator, digits r.tracks, r.mbid])

def ofPins (rows : List PinRow) : List String :=
  Grid.render ["pinned", "artist", "track", "blurb"]
    (rows.map fun r => [r.pinned, r.artist, r.track, r.blurb])

end Table

end Scrobbler
