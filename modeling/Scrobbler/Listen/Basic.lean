import Scrobbler.Json.Record
import Scrobbler.NameError
import Scrobbler.Text.Blank
import Scrobbler.Text.Lowercase

/-!
Listens: each records that a user played a track, and perhaps when. Members of a listen that have no
field here are kept, and written back as they were.
-/

namespace Scrobbler

open Json (Wire Fields Decoder Members)

/-- What was played. -/
structure TrackMetadata where
  artistName : String
  trackName : String
  releaseName : Option String
  additionalInfo : Members
  extra : Members
  deriving Repr

structure Listen where
  /-- Seconds since 1970. -/
  listenedAt : Option Int64
  trackMetadata : TrackMetadata
  extra : Members
  deriving Repr

namespace TrackMetadata

def fields : Fields (Members → TrackMetadata) :=
  mk <$> .required "artist_name" .text
    <*> .required "track_name" .text
    <*> .optional "release_name" .text
    <*> .withDefault "additional_info" (.map (·.getD []) (.nullable .object)) []

def toJson (m : TrackMetadata) : Json :=
  .object <|
    [("artist_name", .text m.artistName), ("track_name", .text m.trackName)] ++
      Json.memberIf "release_name" (m.releaseName.map .text) ++
      Json.membersIf "additional_info" m.additionalInfo ++ m.extra

instance : Wire TrackMetadata := ⟨fields.extensible, toJson⟩

end TrackMetadata

namespace Listen

def fields : Fields (Members → Listen) :=
  mk <$> .optional "listened_at" .int64
    <*> .required "track_metadata" Wire.decoder

def toJson (l : Listen) : Json :=
  .object <|
    Json.memberIf "listened_at" (l.listenedAt.map Json.ofInt64) ++
      ("track_metadata", l.trackMetadata.toJson) :: l.extra

instance : Wire Listen := ⟨fields.extensible, toJson⟩

/-- A listen of which only artist and track are known. -/
def ofTrack (artist track : String) : Listen :=
  ⟨none, ⟨artist, track, none, [], []⟩, []⟩

def withRelease (release : String) (l : Listen) : Listen :=
  { l with trackMetadata := { l.trackMetadata with releaseName := some release } }

def withListenedAt (seconds : Int64) (l : Listen) : Listen :=
  { l with listenedAt := some seconds }

/-- Sets one member of the additional information. -/
def withInfo (name : String) (value : Json) (l : Listen) : Listen :=
  { l with
    trackMetadata :=
      { l.trackMetadata with
        additionalInfo := NameMap.set name value l.trackMetadata.additionalInfo } }

def withoutTimestamp (l : Listen) : Listen := { l with listenedAt := none }

end Listen

/-- What a submission of listens means. -/
inductive ListenType
  | single
  | bulk
  | playingNow
  deriving DecidableEq, Repr

namespace ListenType

/-- The name of a listen type in requests. -/
def name : ListenType → String
  | .single => "single"
  | .bulk => "import"
  | .playingNow => "playing_now"

/-- All listen types by name. -/
def byName : List (String × ListenType) :=
  [single, bulk, playingNow].map fun type => (type.name, type)

instance : Wire ListenType := ⟨.variant byName, fun type => .text type.name⟩

/-- Reads a name in any case. -/
def parse (s : String) : Except NameError ListenType :=
  match Text.lowercase (Text.trim s) with
  | "single" => .ok .single
  | "import" => .ok .bulk
  | "playing_now" | "playing-now" => .ok .playingNow
  | other => .error ⟨"listen type", other⟩

end ListenType

end Scrobbler
