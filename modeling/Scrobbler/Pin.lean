import Scrobbler.Listen.Basic

/-!
Pins: recordings that users show on their profiles.
-/

namespace Scrobbler

open Json (Wire Fields Decoder)

structure Pin where
  rowId : UInt64
  recordingMsid : Option String
  recordingMbid : Option String
  blurb : Option String
  created : Int64
  pinnedUntil : Option Int64
  trackMetadata : Option TrackMetadata
  deriving Repr

namespace Pin

def fields : Fields Pin :=
  mk <$> .required "row_id" .uint64
    <*> .optional "recording_msid" .text
    <*> .optional "recording_mbid" .text
    <*> .optional "blurb_content" .text
    <*> .required "created" .int64
    <*> .optional "pinned_until" .int64
    <*> .optional "track_metadata" Wire.decoder

def toJson (p : Pin) : Json :=
  .object [
    ("row_id", Json.ofUInt64 p.rowId),
    ("recording_msid", Json.ofText? p.recordingMsid),
    ("recording_mbid", Json.ofText? p.recordingMbid),
    ("blurb_content", Json.ofText? p.blurb),
    ("created", Json.ofInt64 p.created),
    ("pinned_until", Json.ofOption Json.ofInt64 p.pinnedUntil),
    ("track_metadata", Json.ofOption TrackMetadata.toJson p.trackMetadata)]

instance : Wire Pin := ⟨fields.closed, toJson⟩

end Pin

/-- A page of pins. -/
structure PinsPage where
  pins : List Pin
  count : UInt64
  offset : UInt64
  totalCount : UInt64
  userName : Option String
  deriving Repr

namespace PinsPage

def fields : Fields PinsPage :=
  mk <$> .withDefault "pinned_recordings" Wire.decoder []
    <*> .withDefault "count" .uint64 0
    <*> .withDefault "offset" .uint64 0
    <*> .withDefault "total_count" .uint64 0
    <*> .optional "user_name" .text

/-- The page of a reply. -/
def decoder : Decoder PinsPage := fields.closed

end PinsPage

end Scrobbler
