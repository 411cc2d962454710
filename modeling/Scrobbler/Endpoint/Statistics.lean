import Scrobbler.Client.Call
import Scrobbler.Statistics.Activity
import Scrobbler.Statistics.Basic

/-!
Calls for statistics. Until the server has computed them it answers without a body, which is an
error here.
-/

namespace Scrobbler

namespace Client

variable (c : Client)

/-- The path of a user's statistics. -/
def statisticsPath (user what : String) : String := "stats/user/" ++ user ++ "/" ++ what

/-- What a user played most. -/
def topEntities (user : String) (entity : Entity) (range : StatsRange) (offset : UInt64)
    (count : Option UInt32) : Checked (Exchange TopEntities) := do
  let user ← require user "username"
  return {
    draft :=
      ((c.get (statisticsPath user (entity.name ++ "s"))).withQuery
        [("offset", decimal offset.toNat), ("range", range.name)]).withParameter "count"
          (count.map fun n => decimal n.toNat)
    receive := Receive.content TopEntities.decoder }

/-- How much a user listened over time. -/
def listeningActivity (user : String) (range : StatsRange) :
    Checked (Exchange ListeningReport) := do
  let user ← require user "username"
  return {
    draft :=
      (c.get (statisticsPath user "listening-activity")).withQuery [("range", range.name)]
    receive := Receive.content ListeningReport.decoder }

/-- How much a user listened at the hours of each weekday. -/
def dailyActivity (user : String) (range : StatsRange) : Checked (Exchange DailyReport) := do
  let user ← require user "username"
  return {
    draft := (c.get (statisticsPath user "daily-activity")).withQuery [("range", range.name)]
    receive := Receive.content DailyReport.decoder }

/-- Where a user's artists come from. -/
def artistMap (user : String) (range : StatsRange) (recalculate : Bool) :
    Checked (Exchange Json) := do
  let user ← require user "username"
  return {
    draft :=
      (c.get (statisticsPath user "artist-map")).withQuery
        [("range", range.name), ("force_recalculate", if recalculate then "true" else "false")]
    receive := Receive.content .any }

end Client

end Scrobbler
