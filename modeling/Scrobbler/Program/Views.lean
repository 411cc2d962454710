import Scrobbler.Endpoint.Collection
import Scrobbler.Endpoint.Community
import Scrobbler.Endpoint.History
import Scrobbler.Endpoint.Statistics
import Scrobbler.Program.Machine
import Scrobbler.Table.Rows

/-!
The commands that show what the server knows of a user, and those that follow users.
-/

namespace Scrobbler.Program

/-- Makes a call and goes on with its result; an error ends the program. -/
def showing {α : Type} (call : Checked (Exchange α)) (what : String) (next : α → Session Nat) :
    Session Nat :=
  (Exchange.perform call).bind fun
    | .ok value => next value
    | .error error => failure (what ++ ". Err: " ++ error.message)

/-- Prints lines, and ends the program. -/
def done (lines : List String) : Session Nat := (printAll lines).bind fun _ => .done 0

/-- Shows the listens of a user. -/
def listens (m : Machine) (user : String) (count : Option UInt32) (minTs maxTs : Option Int64) :
    Session Nat :=
  showing (m.client.listens user minTs maxTs count) "Cannot fetch listens" fun listens =>
    if listens.isEmpty then done [Notice.info ("No listens found for " ++ user ++ ".")]
    else done (Table.ofListens (Rows.ofListens listens))

/-- Follows a user. -/
def follow (m : Machine) (user : String) (given : Option String) : Session Nat :=
  withToken m given fun token =>
    showing (m.client.follow user token) ("Cannot follow " ++ user) fun status =>
      if status.isSuccess then done [Notice.success ("Now following " ++ user ++ ".")]
      else if status.code = 400 then done [Notice.warning ("Already following " ++ user ++ ".")]
      else done [Notice.warning ("Cannot follow " ++ user ++ ": status " ++ status.render)]

/-- Stops following a user. -/
def unfollow (m : Machine) (user : String) (given : Option String) : Session Nat :=
  withToken m given fun token =>
    showing (m.client.unfollow user token) ("Cannot unfollow " ++ user) fun status =>
      if status.isSuccess then done [Notice.success ("Stopped following " ++ user ++ ".")]
      else done [Notice.warning ("Cannot unfollow " ++ user ++ ": status " ++ status.render)]

/-- Names of users under a title. -/
def nameLines (title : String) (names : List String) : List String :=
  if names.isEmpty then [Notice.info (title ++ " nobody.")]
  else
    Notice.info (title ++ " " ++ decimal names.length ++ " users:") :: names.map ("  " ++ ·)

/-- Shows the followers of a user. -/
def followers (m : Machine) (user : String) : Session Nat :=
  showing (m.client.followers user) "Cannot fetch followers" fun names =>
    done (nameLines (user ++ " is followed by") names)

/-- Shows the users that a user follows. -/
def following (m : Machine) (user : String) : Session Nat :=
  showing (m.client.following user) "Cannot fetch followed users" fun names =>
    done (nameLines (user ++ " follows") names)

/-- Shows what a user is said to have played most. The title is printed before the ranks are counted. -/
def showTop (user : String) (entity : Entity) (range : StatsRange) (top : TopEntities) : Session Nat :=
  let entities := top.entities entity
  if entities.isEmpty then
    done
      [Notice.info
        ("No " ++ entity.name ++ " statistics for " ++ user ++ " (" ++ range.name ++ ").")]
  else
    .print
      (Notice.info
        ("Top " ++ entity.name ++ "s of " ++ user ++ " (" ++ range.name ++ "), " ++
          ((top.total entity).elim "?" fun n => decimal n.toNat) ++ " in total"))
      (match Rows.ofStats entity entities top.offset with
      | some rows => done (Table.ofStats rows)
      | none => crash)

/-- Shows what a user played most. -/
def stats (m : Machine) (user : String) (entity : Entity) (range : StatsRange)
    (count : Option UInt32) : Session Nat :=
  (Exchange.perform (m.client.topEntities user entity range 0 count)).bind fun
    | .ok top => showTop user entity range top
    | .error error =>
        if error.status?.any Status.isNoContent then
          done [Notice.info ("Statistics for " ++ user ++ " have not been calculated yet.")]
        else failure ("Cannot fetch statistics. Err: " ++ error.message)

/-- Shows the playlists of a user. -/
def playlists (m : Machine) (user : String) (kind : PlaylistKind) (count : UInt32)
    (token : Option String) : Session Nat :=
  showing (m.client.playlists user token 0 count kind) "Cannot fetch playlists" fun page =>
    if page.playlists.isEmpty then done [Notice.info ("No playlists found for " ++ user ++ ".")]
    else
      done
        (Notice.info
            ("Showing " ++ decimal page.playlists.length ++ " of " ++
              decimal page.playlistCount.toNat ++ " playlists") ::
          Table.ofPlaylists (Rows.ofPlaylists page.playlists))

/-- Shows the pins of a user. -/
def pins (m : Machine) (user : String) (count : UInt32) : Session Nat :=
  showing (m.client.pins user 0 count) "Cannot fetch pins" fun page =>
    if page.pins.isEmpty then done [Notice.info (user ++ " has no pins.")]
    else done (Table.ofPins (Rows.ofPins page.pins))

end Scrobbler.Program
