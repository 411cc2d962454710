import Scrobbler.Http.Status
import Scrobbler.Json.Record
import Scrobbler.Text.Blank

/-!
Responses: status, headers and the bytes of the body, kept as they came so that they can be looked
at more than once.
-/

namespace Scrobbler

open Json (Wire DecodeError Decoder)

structure Response where
  status : Status
  /-- Names in lower case, with the bytes of their values, in the order in which they came. -/
  headers : List (String × List UInt8)
  body : List UInt8
  deriving DecidableEq, Repr

/-- How many requests a server still takes. -/
structure RateLimit where
  limit : Nat
  remaining : Nat
  /-- Seconds until requests are counted anew. -/
  resetIn : Nat
  deriving DecidableEq, Repr

namespace Response

/-- A byte that may stand in a header that is read as text: a tab or printable ASCII. -/
def isPrintable (b : UInt8) : Bool := b == 0x09 || (0x20 ≤ b && b ≤ 0x7E)

/-- The first header of that name, if all its bytes are printable. -/
def header? (name : String) (r : Response) : Option String :=
  (r.headers.lookup name).bind fun value =>
    if value.all isPrintable then
      some (String.ofList (value.map fun b => Char.ofNat b.toNat))
    else none

def contentType? (r : Response) : Option String := r.header? "content-type"

/-- The body, if it is UTF-8. -/
def text? (r : Response) : Option String := Text.Utf8.text? r.body

/-- Decodes the body. -/
def json {α : Type} (decoder : Decoder α) (r : Response) : Except DecodeError α :=
  decoder.runBytes r.body

/-- A header that holds a natural number. -/
def count? (name : String) (r : Response) : Option Nat :=
  (r.header? name).bind fun value => (Text.readUInt64 (Text.trim value)).toOption

/-- The rate limit, if the response tells how many requests remain, and until when. -/
def rateLimit? (r : Response) : Option RateLimit := do
  let remaining ← r.count? "x-ratelimit-remaining"
  let resetIn ← r.count? "x-ratelimit-reset-in"
  return ⟨(r.count? "x-ratelimit-limit").getD 0, remaining, resetIn⟩

end Response

end Scrobbler
