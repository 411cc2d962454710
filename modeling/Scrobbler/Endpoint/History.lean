import Scrobbler.Client.Call
import Scrobbler.Counter
import Scrobbler.Listen.Page

/-!
Calls about the listens of users: reading, counting and deleting them, and keeping the time up to
which they were imported from another service.
-/

namespace Scrobbler

/-- A number that counts as not given when it is zero. -/
def nonZero (n : Option Int) : Option Int := n.filter (· ≠ 0)

/-- The range of a page: what is older than `maxTs`, newer than `minTs`, and how much of it. -/
def rangeQuery (minTs maxTs : Option Int64) (count : Option UInt32) : List (String × String) :=
  [("max_ts", nonZero (maxTs.map Int64.toInt)), ("min_ts", nonZero (minTs.map Int64.toInt)),
    ("count", nonZero (count.map fun n => (n.toNat : Int)))].filterMap
    fun (name, value) => value.map fun n => (name, signedDecimal n)

namespace Client

variable (c : Client)

/-- The latest listens of several users. -/
def recentListens (users : List String) (limit : Option UInt32) :
    Checked (Exchange (List Listen)) :=
  .ok
    { draft :=
        (c.get ("users/" ++ ",".intercalate users ++ "/recent-listens")).withParameter "limit"
          ((nonZero (limit.map fun n => (n.toNat : Int))).map signedDecimal)
      receive := fun r => (Receive.json ListensPage.decoder r).map (·.listens) }

/-- A page of a user's listens. A page has a beginning or an end, not both. -/
def listens (user : String) (minTs maxTs : Option Int64) (count : Option UInt32) :
    Checked (Exchange (List Listen)) := do
  let user ← require user "username"
  if minTs.any (· ≠ 0) && maxTs.any (· ≠ 0) then
    throw (.invalidArgument "cannot have both min_ts and max_ts defined at the same time")
  return {
    draft := (c.get ("user/" ++ user ++ "/listens")).withQuery (rangeQuery minTs maxTs count)
    receive := fun r => (Receive.json ListensPage.decoder r).map (·.listens) }

/-- The number of a user's listens. -/
def listenCount (user : String) : Checked (Exchange UInt64) := do
  let user ← require user "username"
  return {
    draft := c.get ("user/" ++ user ++ "/listen-count")
    receive := Receive.json Counter.listenCount }

/-- Deletes the listen of a recording at a time. -/
def deleteListen (token recordingMsid : String) (listenedAt : Int64) : Checked (Exchange Status) :=
  .ok
    { draft :=
        (c.post token "delete-listen").withMembers
          [("listened_at", Json.ofInt64 listenedAt), ("recording_msid", .text recordingMsid)]
      receive := Receive.status }

/-- The time up to which a user's listens were imported from a service. -/
def latestImport (user service : String) : Checked (Exchange Int64) :=
  .ok
    { draft := (c.get "latest-import").withQuery [("user_name", user), ("service", service)]
      receive := Receive.json Counter.latestImport }

/-- Sets the time up to which listens were imported from a service. -/
def setLatestImport (token service : String) (time : Int64) : Checked (Exchange Status) :=
  .ok
    { draft :=
        (c.post token "latest-import").withMembers
          [("service", .text service), ("ts", Json.ofInt64 time)]
      receive := Receive.status }

end Client

end Scrobbler
