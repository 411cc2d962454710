import Scrobbler.Json.Record
import Scrobbler.Text.Blank

/-!
Counters in replies. A server may write a counter as a number or as a text, with the same meaning.
-/

namespace Scrobbler.Counter

open Json (DecodeError Decoder Fields)

/-- The whole number that a value stands for. -/
def ofJson : Json → Except DecodeError Int
  | .number (.integer n) =>
      if Word.fits (Word.signed 64) n then .ok n else .error (.notAnInteger (.integer n))
  | .number other => .error (.notAnInteger other)
  | .text s =>
      match Text.readInt64 (Text.trim s) with
      | .ok n => .ok n
      | .error fault => .error (.integerText fault)
  | other => .error (.integerExpected other)

/-- A counter that may be negative. -/
def signed : Decoder Int64 := fun depth node => do
  return Int64.ofInt (← ofJson (← Decoder.any depth node))

/-- A counter that is at least zero. It may not pass the greatest signed number. -/
def unsigned : Decoder UInt64 := fun depth node => do
  let n ← ofJson (← Decoder.any depth node)
  if 0 ≤ n then return UInt64.ofNat n.toNat else throw (.integerText .tooSmall)

/-- The number of a user's listens, in a reply. -/
def listenCount : Decoder UInt64 :=
  Fields.closed (.required "payload" (Fields.closed (.required "count" unsigned)))

/-- The time up to which listens were imported, in a reply. -/
def latestImport : Decoder Int64 := Fields.closed (.required "latest_import" signed)

end Scrobbler.Counter
