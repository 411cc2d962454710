import Scrobbler.Listen.Basic

/-!
Pages of listens, as the server sends them.
-/

namespace Scrobbler

open Json (Wire Fields Decoder)

structure ListensPage where
  listens : List Listen
  count : Option UInt64
  userId : Option String
  deriving Repr

namespace ListensPage

def fields : Fields ListensPage :=
  mk <$> .withDefault "listens" Wire.decoder []
    <*> .optional "count" .uint64
    <*> .optional "user_id" .text

/-- The page of a reply. -/
def decoder : Decoder ListensPage := Fields.closed (.required "payload" fields.closed)

end ListensPage

end Scrobbler
