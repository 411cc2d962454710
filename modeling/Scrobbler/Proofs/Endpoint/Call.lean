import Scrobbler.Endpoint.Collection
import Scrobbler.Endpoint.Community
import Scrobbler.Endpoint.Opinion
import Scrobbler.Endpoint.Releases
import Scrobbler.Endpoint.Statistics
import Scrobbler.Proofs.Http.Delivery

/-!
Calls as data. Whatever holds of all calls of a client is stated about one type, which has a constructor
for every call but the submission of listens. A call that is made is either refused for its arguments,
and then nothing is done, or it is one exchange.
-/

namespace Scrobbler

/-- A call of a client, with its arguments; the index is the type of its result. -/
inductive Call : Type → Type
  | recentListens (users : List String) (limit : Option UInt32) : Call (List Listen)
  | listens (user : String) (minTs maxTs : Option Int64) (count : Option UInt32) : Call (List Listen)
  | listenCount (user : String) : Call UInt64
  | deleteListen (token recordingMsid : String) (listenedAt : Int64) : Call Status
  | latestImport (user service : String) : Call Int64
  | setLatestImport (token service : String) (time : Int64) : Call Status
  | validateToken (token : String) : Call TokenValidation
  | feed (user token : String) (minTs maxTs : Option Int64) (count : Option UInt32) :
      Call (List TimelineEvent)
  | follow (user token : String) : Call Status
  | unfollow (user token : String) : Call Status
  | followers (user : String) : Call (List String)
  | following (user : String) : Call (List String)
  | similarUsers (user : String) : Call (List SimilarUser)
  | recommendTrack (user token : String) (track : TrackRecommendation) : Call Status
  | submitFeedback (token recordingMsid : String) (score : FeedbackScore) : Call Status
  | feedback (user : String) (offset : UInt64) (count : Option UInt32) (score : Option FeedbackScore) :
      Call FeedbackPage
  | feedbackOn (user recordings : String) : Call FeedbackPage
  | rateRecommendation (token recordingMbid : String) (rating : RecommendationRating) : Call Status
  | unrateRecommendation (token recordingMbid : String) : Call Status
  | recommendationRatings (user mbids : String) : Call Json
  | createPlaylist (token : String) (playlist : PlaylistDocument) : Call String
  | editPlaylist (token mbid : String) (playlist : PlaylistDocument) : Call Status
  | playlists (user : String) (token : Option String) (offset : UInt64) (count : UInt32)
      (kind : PlaylistKind) : Call PlaylistsPage
  | playlist (mbid : String) (token : Option String) : Call PlaylistDocument
  | addTracks (token mbid : String) (tracks : List PlaylistTrack) (offset : Option UInt64) : Call Status
  | deleteTracks (token mbid : String) (index count : UInt64) : Call Status
  | moveTracks (token mbid recordingMbid : String) (source target count : UInt64) : Call Status
  | copyPlaylist (token mbid : String) : Call String
  | deletePlaylist (token mbid : String) : Call Status
  | pin (token recordingMsid : String) (recordingMbid blurb : Option String) : Call Status
  | unpin (token : String) : Call Status
  | deletePin (token : String) (id : UInt64) : Call Status
  | pins (user : String) (offset : UInt64) (count : UInt32) : Call PinsPage
  | coverArt (releaseMbid recordingMsid : String) : Call (Option String)
  | releasesOfColor (color : String) (count : Option UInt32) : Call Json
  | lookupRelease (mbid : String) : Call Json
  | lookupReleasesWith (trackMbid : String) : Call Json
  | submitReview (accessToken : String) (review : Review) : Call Json
  | topEntities (user : String) (entity : Entity) (range : StatsRange) (offset : UInt64)
      (count : Option UInt32) : Call TopEntities
  | listeningActivity (user : String) (range : StatsRange) : Call ListeningReport
  | dailyActivity (user : String) (range : StatsRange) : Call DailyReport
  | artistMap (user : String) (range : StatsRange) (recalculate : Bool) : Call Json

namespace Call

variable {α : Type}

/-- What a client makes of a call. -/
def exchange (c : Client) : Call α → Checked (Exchange α)
  | recentListens users limit => c.recentListens users limit
  | listens user minTs maxTs count => c.listens user minTs maxTs count
  | listenCount user => c.listenCount user
  | deleteListen token recordingMsid listenedAt => c.deleteListen token recordingMsid listenedAt
  | latestImport user service => c.latestImport user service
  | setLatestImport token service time => c.setLatestImport token service time
  | validateToken token => c.validateToken token
  | feed user token minTs maxTs count => c.feed user token minTs maxTs count
  | follow user token => c.follow user token
  | unfollow user token => c.unfollow user token
  | followers user => c.followers user
  | following user => c.following user
  | similarUsers user => c.similarUsers user
  | recommendTrack user token track => c.recommendTrack user token track
  | submitFeedback token recordingMsid score => c.submitFeedback token recordingMsid score
  | feedback user offset count score => c.feedback user offset count score
  | feedbackOn user recordings => c.feedbackOn user recordings
  | rateRecommendation token recordingMbid rating => c.rateRecommendation token recordingMbid rating
  | unrateRecommendation token recordingMbid => c.unrateRecommendation token recordingMbid
  | recommendationRatings user mbids => c.recommendationRatings user mbids
  | createPlaylist token document => c.createPlaylist token document
  | editPlaylist token mbid document => c.editPlaylist token mbid document
  | playlists user token offset count kind => c.playlists user token offset count kind
  | playlist mbid token => c.playlist mbid token
  | addTracks token mbid tracks offset => c.addTracks token mbid tracks offset
  | deleteTracks token mbid index count => c.deleteTracks token mbid index count
  | moveTracks token mbid recordingMbid source target count =>
      c.moveTracks token mbid recordingMbid source target count
  | copyPlaylist token mbid => c.copyPlaylist token mbid
  | deletePlaylist token mbid => c.deletePlaylist token mbid
  | pin token recordingMsid recordingMbid blurb => c.pin token recordingMsid recordingMbid blurb
  | unpin token => c.unpin token
  | deletePin token id => c.deletePin token id
  | pins user offset count => c.pins user offset count
  | coverArt releaseMbid recordingMsid => c.coverArt releaseMbid recordingMsid
  | releasesOfColor color count => c.releasesOfColor color count
  | lookupRelease mbid => c.lookupRelease mbid
  | lookupReleasesWith trackMbid => c.lookupReleasesWith trackMbid
  | submitReview accessToken review => c.submitReview accessToken review
  | topEntities user entity range offset count => c.topEntities user entity range offset count
  | listeningActivity user range => c.listeningActivity user range
  | dailyActivity user range => c.dailyActivity user range
  | artistMap user range recalculate => c.artistMap user range recalculate

/-- The session that makes a call. -/
def session (c : Client) (call : Call α) : Session (Checked α) := Exchange.perform (call.exchange c)

variable {c : Client} {call : Call α} {server : Server} {taken : Nat}

/-- A call that is refused does nothing. -/
theorem run_session_of_error {error : ServiceError} (h : call.exchange c = .error error) :
    (call.session c).run server taken = ⟨.error error, taken, []⟩ := by
  rw [session, h]
  rfl

/-- A call that is not refused makes one attempt, and its result depends on nothing else. -/
theorem run_session_of_ok {e : Exchange α} (h : call.exchange c = .ok e) :
    (call.session c).run server taken =
      ⟨e.result (server.deliver taken e.draft).outcome,
        (server.deliver taken e.draft).takenAfter taken,
        [.attempt e.draft (server.deliver taken e.draft)]⟩ := by
  rw [session, h]
  rfl

end Call

section

variable {α : Type} {value name : String} {next : String → Checked α}

/-- A check of an argument comes before all that follows it. -/
theorem require_bind :
    (require value name >>= next) =
      if Text.isBlank value then .error (.missingArgument name) else next value := by
  unfold require
  split <;> rfl

end

/-- What is made of arguments has a property, unless they are refused. -/
def Checked.Ensures {α : Type} (property : α → Prop) (result : Checked α) : Prop :=
  ∀ value, result = .ok value → property value

namespace Checked.Ensures

variable {α : Type} {property : α → Prop}

theorem done {value : α} (h : property value) : Ensures property (.ok value) := by
  rintro _ ⟨⟩
  exact h

/-- What holds of the result of a call holds of the same call under a condition, since a refusal has no
result. -/
theorem guarded {condition : Prop} [Decidable condition] {error : ServiceError} {result : Checked α}
    (h : Ensures property result) : Ensures property (if condition then .error error else result) := by
  split
  · nofun
  · exact h

/-- What holds of the result of a call holds of the same call behind a check. -/
theorem require {value name : String} {next : String → Checked α} (h : Ensures property (next value)) :
    Ensures property (require value name >>= next) := by
  rw [require_bind]
  exact .guarded h

end Checked.Ensures

end Scrobbler
