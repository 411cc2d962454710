import Scrobbler.Calendar.Date
import Scrobbler.Json.Printer

/-!
Times as they are shown: the minute of a timestamp in universal time, as date and time of day.
-/

namespace Scrobbler

/-- A minute of the calendar. -/
structure Minute where
  date : Date
  hour : Nat
  minute : Nat
  deriving DecidableEq, Repr

namespace Minute

/-- The minute that lies `minutes` minutes after 1970-01-01 00:00. -/
def ofMinutes (minutes : Int) : Minute :=
  let minuteOfDay := (minutes % 1440).toNat
  ⟨.ofDays (minutes / 1440), minuteOfDay / 60, minuteOfDay % 60⟩

/-- The number of minutes from 1970-01-01 00:00 to a minute. -/
def toMinutes (m : Minute) : Int := m.date.toDays * 1440 + m.hour * 60 + m.minute

/-- The digits of a number, with zeros in front up to the given length. -/
def padded (length n : Nat) : List Char :=
  let digits := Json.naturalChars n
  List.replicate (length - digits.length) '0' ++ digits

/-- A year has at least four digits, and a sign if it is negative or has more than four. -/
def yearChars (year : Int) : List Char :=
  if year < 0 then '-' :: padded 4 year.natAbs
  else if 9999 < year then '+' :: padded 4 year.natAbs
  else padded 4 year.natAbs

/-- Year, month, day, hour and minute. -/
def chars (m : Minute) : List Char :=
  yearChars m.date.year ++ '-' :: padded 2 m.date.month ++ '-' :: padded 2 m.date.day ++
    ' ' :: padded 2 m.hour ++ ':' :: padded 2 m.minute

end Minute

namespace Timestamp

/-- The first and the last second that are shown. -/
def limits : Int × Int := (-8334601228800, 8210266876799)

/-- The minute of a timestamp, or a hyphen where there is none to show. -/
def format (seconds : Option Int64) : String :=
  match seconds with
  | some seconds =>
      let seconds := seconds.toInt
      if limits.1 ≤ seconds ∧ seconds ≤ limits.2 then
        String.ofList (Minute.ofMinutes (seconds / 60)).chars
      else "-"
  | none => "-"

end Timestamp

end Scrobbler
