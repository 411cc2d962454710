import Scrobbler.Json.Record

/-!
Feedback: whether a user loves or hates a recording, and how a user rates a recommendation.
-/

namespace Scrobbler

open Json (Wire Fields Decoder)

inductive FeedbackScore
  | love
  | hate
  | neutral
  deriving DecidableEq, Repr

namespace FeedbackScore

/-- The number that stands for a score. -/
def value : FeedbackScore → Int
  | .love => 1
  | .hate => -1
  | .neutral => 0

/-- The score of a number. -/
def ofInt? : Int → Option FeedbackScore
  | 1 => some .love
  | -1 => some .hate
  | 0 => some .neutral
  | _ => none

/-- A score is written as a signed 8-bit number. -/
def decoder : Decoder FeedbackScore := fun depth node => do
  let n ← Decoder.integer (Word.signed 8) depth node
  (ofInt? n).elim (.error (.invalidScore n)) .ok

instance : Wire FeedbackScore := ⟨decoder, fun score => Json.ofInt score.value⟩

end FeedbackScore

/-- What a user thinks of a recommendation. -/
inductive RecommendationRating
  | love
  | like
  | hate
  | dislike
  | badRecommendation
  deriving DecidableEq, Repr

namespace RecommendationRating

def name : RecommendationRating → String
  | .love => "love"
  | .like => "like"
  | .hate => "hate"
  | .dislike => "dislike"
  | .badRecommendation => "bad_recommendation"

/-- All ratings by name. -/
def byName : List (String × RecommendationRating) :=
  [love, like, hate, dislike, badRecommendation].map fun rating => (rating.name, rating)

instance : Wire RecommendationRating := ⟨.variant byName, fun rating => .text rating.name⟩

end RecommendationRating

/-- The feedback of a user on a recording. -/
structure Feedback where
  recordingMsid : Option String
  recordingMbid : Option String
  score : FeedbackScore
  userId : String
  created : Option Int64
  trackMetadata : Option Json
  deriving Repr

namespace Feedback

def fields : Fields Feedback :=
  mk <$> .optional "recording_msid" .text
    <*> .optional "recording_mbid" .text
    <*> .required "score" Wire.decoder
    <*> .required "user_id" .text
    <*> .optional "created" .int64
    <*> .optional "track_metadata" .any

def toJson (f : Feedback) : Json :=
  .object [
    ("recording_msid", Json.ofText? f.recordingMsid),
    ("recording_mbid", Json.ofText? f.recordingMbid),
    ("score", Wire.toJson f.score),
    ("user_id", .text f.userId),
    ("created", Json.ofOption Json.ofInt64 f.created),
    ("track_metadata", f.trackMetadata.getD .null)]

instance : Wire Feedback := ⟨fields.closed, toJson⟩

end Feedback

/-- A page of feedback. -/
structure FeedbackPage where
  feedback : List Feedback
  count : UInt64
  offset : UInt64
  totalCount : UInt64
  deriving Repr

namespace FeedbackPage

def fields : Fields FeedbackPage :=
  mk <$> .withDefault "feedback" Wire.decoder []
    <*> .withDefault "count" .uint64 0
    <*> .withDefault "offset" .uint64 0
    <*> .withDefault "total_count" .uint64 0

/-- The page of a reply. -/
def decoder : Decoder FeedbackPage := fields.closed

end FeedbackPage

end Scrobbler
