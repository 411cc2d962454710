import Scrobbler.Client.Call
import Scrobbler.Feedback

/-!
Calls about what users think of recordings and recommendations.
-/

namespace Scrobbler

open Json (Wire)

namespace Client

variable (c : Client)

/-- Loves or hates a recording, or takes that back. -/
def submitFeedback (token recordingMsid : String) (score : FeedbackScore) :
    Checked (Exchange Status) :=
  .ok
    { draft :=
        (c.post token "feedback/recording-feedback").withMembers
          [("recording_msid", .text recordingMsid), ("score", Wire.toJson score)]
      receive := Receive.status }

/-- A page of a user's feedback, with the metadata of the tracks. -/
def feedback (user : String) (offset : UInt64) (count : Option UInt32)
    (score : Option FeedbackScore) : Checked (Exchange FeedbackPage) := do
  let user ← require user "username"
  return {
    draft :=
      (((c.get ("feedback/user/" ++ user ++ "/get-feedback")).withQuery
        [("metadata", "true"), ("offset", decimal offset.toNat)]).withParameter "score"
          (score.map fun s => signedDecimal s.value)).withParameter "count"
            (count.map fun n => decimal n.toNat)
    receive := Receive.json FeedbackPage.decoder }

/-- A user's feedback on recordings, whose identifiers are separated by commas. -/
def feedbackOn (user recordings : String) : Checked (Exchange FeedbackPage) := do
  let user ← require user "username"
  return {
    draft :=
      (c.get ("feedback/user/" ++ user ++ "/get-feedback-for-recordings")).withQuery
        [("recordings", recordings)]
    receive := Receive.json FeedbackPage.decoder }

/-- Rates a recommendation. -/
def rateRecommendation (token recordingMbid : String) (rating : RecommendationRating) :
    Checked (Exchange Status) :=
  .ok
    { draft :=
        (c.post token "recommendation/feedback/submit").withMembers
          [("rating", Wire.toJson rating), ("recording_mbid", .text recordingMbid)]
      receive := Receive.status }

/-- Takes back the rating of a recommendation. -/
def unrateRecommendation (token recordingMbid : String) : Checked (Exchange Status) :=
  .ok
    { draft :=
        (c.post token "recommendation/feedback/delete").withMembers
          [("recording_mbid", .text recordingMbid)]
      receive := Receive.status }

/-- A user's ratings of recommendations, whose identifiers are separated by commas. -/
def recommendationRatings (user mbids : String) : Checked (Exchange Json) := do
  let user ← require user "username"
  return {
    draft :=
      (c.get ("recommendation/feedback/user/" ++ user ++ "/recordings")).withQuery
        [("mbids", mbids)]
    receive := Receive.json .any }

end Client

end Scrobbler
