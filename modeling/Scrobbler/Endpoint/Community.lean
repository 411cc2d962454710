import Scrobbler.Endpoint.History
import Scrobbler.Timeline
import Scrobbler.User

/-!
Calls about users and those whom they follow: tokens, timelines, followers and similar users.
-/

namespace Scrobbler

open Json (Wire)

namespace Client

variable (c : Client)

/-- Asks whom a token belongs to. -/
def validateToken (token : String) : Checked (Exchange TokenValidation) := do
  let token ← require token "user token"
  return {
    draft := (c.get "validate-token").withCredential (.token token)
    receive := Receive.json Wire.decoder }

/-- The events that a user sees. -/
def feed (user token : String) (minTs maxTs : Option Int64) (count : Option UInt32) :
    Checked (Exchange (List TimelineEvent)) := do
  let user ← require user "username"
  let token ← require token "user token"
  return {
    draft :=
      ((c.get ("user/" ++ user ++ "/feed/events")).withQuery
        (rangeQuery minTs maxTs count)).withCredential (.token token)
    receive := Receive.json TimelineEvent.page }

/-- Starts or stops following a user. The status is not judged here, so that the caller can tell
one refusal from another. -/
def changeFollow (action user token : String) : Checked (Exchange Status) := do
  let user ← require user "username"
  let token ← require token "user token"
  return {
    draft := c.post token ("user/" ++ user ++ "/" ++ action)
    receive := Receive.anyStatus }

def follow (user token : String) : Checked (Exchange Status) :=
  c.changeFollow "follow" user token

def unfollow (user token : String) : Checked (Exchange Status) :=
  c.changeFollow "unfollow" user token

/-- The names of a user's followers. -/
def followers (user : String) : Checked (Exchange (List String)) := do
  let user ← require user "username"
  return {
    draft := c.get ("user/" ++ user ++ "/followers")
    receive := Receive.json Followers.page }

/-- The names of the users that a user follows. -/
def following (user : String) : Checked (Exchange (List String)) := do
  let user ← require user "username"
  return {
    draft := c.get ("user/" ++ user ++ "/following")
    receive := Receive.json Following.page }

/-- Users with a taste similar to a user's. -/
def similarUsers (user : String) : Checked (Exchange (List SimilarUser)) := do
  let user ← require user "username"
  return {
    draft := c.get ("user/" ++ user ++ "/similar-users")
    receive := Receive.json SimilarUser.page }

/-- Puts a track on the timelines of a user's followers. -/
def recommendTrack (user token : String) (track : TrackRecommendation) :
    Checked (Exchange Status) := do
  let user ← require user "username"
  return {
    draft :=
      (c.post token ("user/" ++ user ++ "/timeline-event/create/recording")).withMembers
        [("metadata", track.toJson)]
    receive := Receive.status }

end Client

end Scrobbler
