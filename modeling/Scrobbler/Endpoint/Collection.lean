import Scrobbler.Client.Call
import Scrobbler.Pin
import Scrobbler.Playlist.Basic

/-!
Calls about what users collect: playlists and pins.
-/

namespace Scrobbler

open Json (Wire)

namespace Client

variable (c : Client)

/-- Creates a playlist, which must have a title, and returns its MBID. -/
def createPlaylist (token : String) (playlist : PlaylistDocument) : Checked (Exchange String) := do
  let _ ← require playlist.playlist.title "playlist title"
  return {
    draft := (c.post token "playlist/create").withBody playlist.toJson
    receive := Receive.json Playlist.newMbid }

/-- A change of a playlist. -/
def changePlaylist (token mbid : String) (path : String → String) (body : Draft → Draft) :
    Checked (Exchange Status) := do
  let mbid ← require mbid "playlist MBID"
  return {
    draft := body (c.post token (path mbid))
    receive := Receive.status }

/-- Replaces what is said about a playlist. -/
def editPlaylist (token mbid : String) (playlist : PlaylistDocument) : Checked (Exchange Status) :=
  c.changePlaylist token mbid ("playlist/edit/" ++ ·) (·.withBody playlist.toJson)

/-- The playlists of a user. Private ones are shown to the owner of the token only. -/
def playlists (user : String) (token : Option String) (offset : UInt64) (count : UInt32)
    (kind : PlaylistKind) : Checked (Exchange PlaylistsPage) := do
  let user ← require user "username"
  return {
    draft :=
      ((c.get ("user/" ++ user ++ "/playlists" ++ kind.pathSuffix)).withQuery
        [("offset", decimal offset.toNat), ("count", decimal count.toNat)]).withOptionalToken token
    receive := Receive.json PlaylistsPage.decoder }

/-- One playlist. -/
def playlist (mbid : String) (token : Option String) : Checked (Exchange PlaylistDocument) := do
  let mbid ← require mbid "playlist MBID"
  return {
    draft := (c.get ("playlist/" ++ mbid)).withOptionalToken token
    receive := Receive.json Wire.decoder }

/-- Inserts tracks before the one at `offset`, or after the last one. -/
def addTracks (token mbid : String) (tracks : List PlaylistTrack) (offset : Option UInt64) :
    Checked (Exchange Status) :=
  c.changePlaylist token mbid (fun mbid => "playlist/" ++ mbid ++ "/item/add") fun draft =>
    (draft.withMembers [("playlist", .object [("track", Wire.toJson tracks)])]).withParameter
      "offset" (offset.map fun n => decimal n.toNat)

/-- Removes `count` tracks, from the one at `index` on. -/
def deleteTracks (token mbid : String) (index count : UInt64) : Checked (Exchange Status) :=
  c.changePlaylist token mbid (fun mbid => "playlist/" ++ mbid ++ "/item/delete")
    (·.withMembers [("count", Json.ofUInt64 count), ("index", Json.ofUInt64 index)])

/-- Moves `count` tracks, from the one at `source` on, to another place. -/
def moveTracks (token mbid recordingMbid : String) (source target count : UInt64) :
    Checked (Exchange Status) :=
  c.changePlaylist token mbid (fun mbid => "playlist/" ++ mbid ++ "/item/move")
    (·.withMembers
      [("count", Json.ofUInt64 count), ("from", Json.ofUInt64 source),
        ("mbid", .text recordingMbid), ("to", Json.ofUInt64 target)])

/-- Copies a playlist for the owner of the token, and returns the MBID of the copy. -/
def copyPlaylist (token mbid : String) : Checked (Exchange String) := do
  let mbid ← require mbid "playlist MBID"
  return {
    draft := c.post token ("playlist/" ++ mbid ++ "/copy")
    receive := Receive.json Playlist.newMbid }

def deletePlaylist (token mbid : String) : Checked (Exchange Status) :=
  c.changePlaylist token mbid (fun mbid => "playlist/" ++ mbid ++ "/delete") id

/-- Shows a recording on the profile of the token's owner, in place of any other. -/
def pin (token recordingMsid : String) (recordingMbid blurb : Option String) :
    Checked (Exchange Status) :=
  .ok
    { draft :=
        (c.post token "pin").withMembers
          [("blurb_content", Json.ofText? blurb), ("recording_mbid", Json.ofText? recordingMbid),
            ("recording_msid", .text recordingMsid)]
      receive := Receive.status }

/-- Takes the pinned recording off the profile of the token's owner. -/
def unpin (token : String) : Checked (Exchange Status) :=
  .ok { draft := c.post token "pin/unpin", receive := Receive.status }

def deletePin (token : String) (id : UInt64) : Checked (Exchange Status) :=
  .ok { draft := c.post token ("pin/delete/" ++ decimal id.toNat), receive := Receive.status }

/-- The recordings that a user has pinned. -/
def pins (user : String) (offset : UInt64) (count : UInt32) : Checked (Exchange PinsPage) := do
  let user ← require user "username"
  return {
    draft :=
      (c.get (user ++ "/pins")).withQuery
        [("offset", decimal offset.toNat), ("count", decimal count.toNat)]
    receive := Receive.json PinsPage.decoder }

end Client

end Scrobbler
