import Scrobbler.Json.Record

/-!
Releases: their cover art, and reviews of them and of other things.
-/

namespace Scrobbler

open Json (Fields Decoder)

/-- The address of a cover image, in a reply. An object may lack it. -/
def CoverArt.imageUrl : Decoder (Option String) :=
  Fields.closed (.field "image_url" (.nullable .text) (some none) none)

structure Review where
  entityId : String
  entityType : String
  text : String
  languageCode : String
  rating : Option UInt8
  deriving DecidableEq, Repr

/-- The licence of every review. -/
def Review.license : String := "CC BY-SA 3.0"

/-- The review as it is sent, as a final text. -/
def Review.toJson (r : Review) : Json :=
  .object [
    ("entity_id", .text r.entityId),
    ("entity_type", .text r.entityType),
    ("is_draft", .bool false),
    ("language", .text r.languageCode),
    ("license_choice", .text Review.license),
    ("rating", Json.ofOption (fun n => Json.ofNat n.toNat) r.rating),
    ("text", .text r.text)]

end Scrobbler
