import Scrobbler.Json.Record

/-!
Activity: how many listens a user had in stretches of time, and at the hours of each weekday.
-/

namespace Scrobbler

open Json (Wire Fields Decoder)

/-- The number of listens in one stretch of time. -/
structure ListeningActivity where
  fromTs : Int64
  toTs : Int64
  timeRange : String
  listenCount : UInt64
  deriving DecidableEq, Repr

namespace ListeningActivity

def fields : Fields ListeningActivity :=
  mk <$> .required "from_ts" .int64
    <*> .required "to_ts" .int64
    <*> .required "time_range" .text
    <*> .required "listen_count" .uint64

def toJson (a : ListeningActivity) : Json :=
  .object [
    ("from_ts", Json.ofInt64 a.fromTs),
    ("to_ts", Json.ofInt64 a.toTs),
    ("time_range", .text a.timeRange),
    ("listen_count", Json.ofUInt64 a.listenCount)]

instance : Wire ListeningActivity := ⟨fields.closed, toJson⟩

end ListeningActivity

/-- The number of listens at one hour of a day. -/
structure HourActivity where
  hour : UInt8
  listenCount : UInt64
  deriving DecidableEq, Repr

namespace HourActivity

def fields : Fields HourActivity :=
  mk <$> .required "hour" .uint8
    <*> .required "listen_count" .uint64

def toJson (a : HourActivity) : Json :=
  .object [("hour", Json.ofNat a.hour.toNat), ("listen_count", Json.ofUInt64 a.listenCount)]

instance : Wire HourActivity := ⟨fields.closed, toJson⟩

end HourActivity

/-- A user's activity over time. -/
structure ListeningReport where
  userId : String
  range : String
  listeningActivity : List ListeningActivity
  deriving DecidableEq, Repr

namespace ListeningReport

def fields : Fields ListeningReport :=
  mk <$> .required "user_id" .text
    <*> .required "range" .text
    <*> .required "listening_activity" Wire.decoder

/-- The report of a reply. -/
def decoder : Decoder ListeningReport := Fields.closed (.required "payload" fields.closed)

end ListeningReport

/-- A user's activity at the hours of each weekday, sorted by the name of the day. -/
structure DailyReport where
  userId : String
  range : String
  dailyActivity : NameMap (List HourActivity)
  deriving DecidableEq, Repr

namespace DailyReport

/-- Days by name; of days with one name the last is kept. -/
def days : Decoder (NameMap (List HourActivity)) :=
  .map NameMap.ofList (.entriesOf Wire.decoder)

def fields : Fields DailyReport :=
  mk <$> .required "user_id" .text
    <*> .required "range" .text
    <*> .required "daily_activity" days

/-- The report of a reply. -/
def decoder : Decoder DailyReport := Fields.closed (.required "payload" fields.closed)

end DailyReport

end Scrobbler
