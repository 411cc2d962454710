import Scrobbler.Json.Record

/-!
Users: their tokens, and the users that they follow or resemble.
-/

namespace Scrobbler

open Json (Wire Fields Decoder)
open Decimal

/-- What the server says about a token. -/
structure TokenValidation where
  valid : Bool
  userName : Option String
  message : String
  code : UInt16
  deriving DecidableEq, Repr

namespace TokenValidation

def fields : Fields TokenValidation :=
  mk <$> .required "valid" .bool
    <*> .optional "user_name" .text
    <*> .withDefault "message" .text ""
    <*> .withDefault "code" .uint16 0

def toJson (v : TokenValidation) : Json :=
  .object [
    ("valid", .bool v.valid),
    ("user_name", Json.ofText? v.userName),
    ("message", .text v.message),
    ("code", Json.ofNat v.code.toNat)]

instance : Wire TokenValidation := ⟨fields.closed, toJson⟩

/-- The user that a valid token belongs to. -/
def owner? (v : TokenValidation) : Option String := if v.valid then v.userName else none

end TokenValidation

/-- A token that was found valid, the user that it belongs to, and when it was found valid. -/
structure StoredToken where
  token : String
  userName : String
  /-- Seconds since 1970. -/
  validatedAt : Int64
  deriving DecidableEq, Repr

namespace StoredToken

def fields : Fields StoredToken :=
  mk <$> .required "token" .text
    <*> .required "user_name" .text
    <*> .required "validated_at" .int64

def members (t : StoredToken) : List (String × Json) :=
  [("token", .text t.token), ("user_name", .text t.userName),
    ("validated_at", Json.ofInt64 t.validatedAt)]

instance : Wire StoredToken := ⟨fields.closed, fun t => .object t.members⟩

end StoredToken

/-- A binary64 number. -/
structure Similarity where
  negative : Bool
  magnitude : Binary64
  deriving DecidableEq, Repr

/-- A user with a similar taste. -/
structure SimilarUser where
  userName : String
  similarity : Similarity
  deriving DecidableEq, Repr

namespace SimilarUser

/-- The binary64 number nearest to a number. -/
def similarityOf : Json.Number → Similarity
  | .integer n => ⟨n < 0, .ofNat n.natAbs⟩
  | .float negative magnitude => ⟨negative, magnitude⟩

def fields : Fields SimilarUser :=
  mk <$> .required "user_name" .text
    <*> .required "similarity" (.map similarityOf .number)

def toJson (u : SimilarUser) : Json :=
  .object [
    ("user_name", .text u.userName),
    ("similarity", .number (.float u.similarity.negative u.similarity.magnitude))]

instance : Wire SimilarUser := ⟨fields.closed, toJson⟩

/-- The users of a reply. -/
def page : Decoder (List SimilarUser) := Fields.closed (.required "payload" Wire.decoder)

end SimilarUser

/-- The names of a user's followers, in a reply. -/
def Followers.page : Decoder (List String) :=
  Fields.closed (.required "followers" (.list .text))

/-- The names of the users that a user follows, in a reply. -/
def Following.page : Decoder (List String) :=
  Fields.closed (.required "following" (.list .text))

end Scrobbler
