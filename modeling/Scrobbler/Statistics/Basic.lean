import Scrobbler.Json.Record
import Scrobbler.NameError
import Scrobbler.Text.Blank
import Scrobbler.Text.Lowercase

/-!
Statistics of a user's listens: what was played most, and when, over a range of time.
-/

namespace Scrobbler

open Json (Wire Fields Decoder Members)

/-- What statistics count. -/
inductive Entity
  | artist
  | release
  | recording
  deriving DecidableEq, Repr

namespace Entity

def name : Entity → String
  | .artist => "artist"
  | .release => "release"
  | .recording => "recording"

/-- Reads a name in any case, in the singular or the plural. -/
def parse (s : String) : Except NameError Entity :=
  let lowered := (Text.lowercase (Text.trim s)).toList
  match String.ofList (Text.dropEndWhile (· = 's') lowered) with
  | "artist" => .ok .artist
  | "release" => .ok .release
  | "recording" => .ok .recording
  | other => .error ⟨"entity", other⟩

end Entity

/-- The time that statistics cover. -/
inductive StatsRange
  | week
  | month
  | year
  | allTime
  deriving DecidableEq, Repr

namespace StatsRange

instance : Inhabited StatsRange := ⟨.allTime⟩

def name : StatsRange → String
  | .week => "week"
  | .month => "month"
  | .year => "year"
  | .allTime => "all_time"

/-- Reads a name in any case, with hyphens or underscores. -/
def parse (s : String) : Except NameError StatsRange :=
  let lowered := (Text.lowercase (Text.trim s)).toList
  match String.ofList (lowered.map fun c => if c = '-' then '_' else c) with
  | "week" => .ok .week
  | "month" => .ok .month
  | "year" => .ok .year
  | "all_time" => .ok .allTime
  | other => .error ⟨"range", other⟩

end StatsRange

/-- How often something was played. -/
structure EntityStat where
  artistName : String
  releaseName : Option String
  trackName : Option String
  listenCount : UInt64
  extra : Members
  deriving Repr

namespace EntityStat

def fields : Fields (Members → EntityStat) :=
  mk <$> .withDefault "artist_name" .text ""
    <*> .optional "release_name" .text
    <*> .optional "track_name" .text
    <*> .required "listen_count" .uint64

def toJson (s : EntityStat) : Json :=
  .object <|
    [("artist_name", .text s.artistName),
      ("release_name", Json.ofText? s.releaseName),
      ("track_name", Json.ofText? s.trackName),
      ("listen_count", Json.ofUInt64 s.listenCount)] ++ s.extra

instance : Wire EntityStat := ⟨fields.extensible, toJson⟩

/-- What the statistic counts, by name; empty when it is not given. -/
def nameOf (entity : Entity) (s : EntityStat) : String :=
  match entity with
  | .artist => s.artistName
  | .release => s.releaseName.getD ""
  | .recording => s.trackName.getD ""

end EntityStat

/-- What a user played most. -/
structure TopEntities where
  userId : String
  range : String
  offset : UInt64
  count : UInt64
  fromTs : Option Int64
  toTs : Option Int64
  lastUpdated : Option Int64
  artists : List EntityStat
  releases : List EntityStat
  recordings : List EntityStat
  totalArtists : Option UInt64
  totalReleases : Option UInt64
  totalRecordings : Option UInt64
  deriving Repr

namespace TopEntities

def fields : Fields TopEntities :=
  mk <$> .required "user_id" .text
    <*> .required "range" .text
    <*> .withDefault "offset" .uint64 0
    <*> .withDefault "count" .uint64 0
    <*> .optional "from_ts" .int64
    <*> .optional "to_ts" .int64
    <*> .optional "last_updated" .int64
    <*> .withDefault "artists" Wire.decoder []
    <*> .withDefault "releases" Wire.decoder []
    <*> .withDefault "recordings" Wire.decoder []
    <*> .optional "total_artist_count" .uint64
    <*> .optional "total_release_count" .uint64
    <*> .optional "total_recording_count" .uint64

/-- The statistics of a reply. -/
def decoder : Decoder TopEntities := Fields.closed (.required "payload" fields.closed)

def entities (entity : Entity) (t : TopEntities) : List EntityStat :=
  match entity with
  | .artist => t.artists
  | .release => t.releases
  | .recording => t.recordings

def total (entity : Entity) (t : TopEntities) : Option UInt64 :=
  match entity with
  | .artist => t.totalArtists
  | .release => t.totalReleases
  | .recording => t.totalRecordings

end TopEntities

end Scrobbler
