import Scrobbler.Client.Call
import Scrobbler.Release

/-!
Calls about releases: their covers, their entries in the release database, and reviews.
-/

namespace Scrobbler

namespace Client

variable (c : Client)

/-- The address of a cover image; there is none unless the status is 200. -/
def coverArt (releaseMbid recordingMsid : String) : Checked (Exchange (Option String)) :=
  .ok
    { draft :=
        (c.get "get-cover-art/").withQuery
          [("release_mbid", releaseMbid), ("recording_msid", recordingMsid)]
      receive := fun r => do
        let r ← r.check
        if r.status.code = 200 then Receive.body CoverArt.imageUrl r else return none }

/-- Releases whose covers are close to a colour. Number signs before the colour do not count. -/
def releasesOfColor (color : String) (count : Option UInt32) : Checked (Exchange Json) :=
  .ok
    { draft :=
        (c.get ("color/" ++ String.ofList (color.toList.dropWhile (· = '#')))).withParameter "count"
          (count.map fun n => decimal n.toNat)
      receive := Receive.json .any }

/-- The entry of a release in the release database, with its group. -/
def lookupRelease (mbid : String) : Checked (Exchange Json) := do
  let mbid ← require mbid "release MBID"
  return {
    draft :=
      (Draft.get (c.settings.musicbrainzRoot ++ "/release/" ++ mbid)).withQuery
        [("fmt", "json"), ("inc", "release-groups")]
    receive := Receive.json .any }

/-- The entries of the releases that contain a track. -/
def lookupReleasesWith (trackMbid : String) : Checked (Exchange Json) := do
  let trackMbid ← require trackMbid "track MBID"
  return {
    draft :=
      (Draft.get (c.settings.musicbrainzRoot ++ "/release")).withQuery
        [("track", trackMbid), ("fmt", "json")]
    receive := Receive.json .any }

/-- Publishes a review. -/
def submitReview (accessToken : String) (review : Review) : Checked (Exchange Json) := do
  let accessToken ← require accessToken "access token"
  return {
    draft :=
      ((Draft.post (c.settings.critiquebrainzRoot ++ "/review/")).withCredential
        (.bearer accessToken)).withBody review.toJson
    receive := Receive.json .any }

end Client

end Scrobbler
