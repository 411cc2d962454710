import Scrobbler.Json.Record

/-!
Timelines: the events that a user sees, and the recommendations that a user puts on the timelines
of followers.
-/

namespace Scrobbler

open Json (Wire Fields Decoder)

structure TimelineEvent where
  id : Option UInt64
  eventType : String
  userName : String
  created : Int64
  metadata : Json
  deriving Repr

namespace TimelineEvent

def fields : Fields TimelineEvent :=
  mk <$> .optional "id" .uint64
    <*> .required "event_type" .text
    <*> .required "user_name" .text
    <*> .required "created" .int64
    <*> .withDefault "metadata" .any .null

def toJson (e : TimelineEvent) : Json :=
  .object [
    ("id", Json.ofOption Json.ofUInt64 e.id),
    ("event_type", .text e.eventType),
    ("user_name", .text e.userName),
    ("created", Json.ofInt64 e.created),
    ("metadata", e.metadata)]

instance : Wire TimelineEvent := ⟨fields.closed, toJson⟩

end TimelineEvent

/-- What is told of a track that is recommended. -/
structure TrackRecommendation where
  artistName : String
  trackName : String
  releaseName : Option String
  recordingMbid : Option String
  recordingMsid : Option String
  deriving DecidableEq, Repr

namespace TrackRecommendation

def fields : Fields TrackRecommendation :=
  mk <$> .required "artist_name" .text
    <*> .required "track_name" .text
    <*> .optional "release_name" .text
    <*> .optional "recording_mbid" .text
    <*> .optional "recording_msid" .text

def toJson (r : TrackRecommendation) : Json :=
  .object <|
    [("artist_name", .text r.artistName), ("track_name", .text r.trackName)] ++
      Json.memberIf "release_name" (r.releaseName.map .text) ++
      Json.memberIf "recording_mbid" (r.recordingMbid.map .text) ++
      Json.memberIf "recording_msid" (r.recordingMsid.map .text)

instance : Wire TrackRecommendation := ⟨fields.closed, toJson⟩

end TrackRecommendation

/-- The events of a reply. -/
def TimelineEvent.page : Decoder (List TimelineEvent) :=
  Fields.closed (.required "payload" (Fields.closed (.withDefault "events" Wire.decoder [])))

end Scrobbler
