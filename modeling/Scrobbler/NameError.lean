/-!
Names that users choose from a fixed set, and the error at a name outside it.
-/

namespace Scrobbler

/-- A name that is none of its set; `kind` is what the set holds. -/
structure NameError where
  kind : String
  name : String
  deriving DecidableEq, Repr

/-- The wording of the error. -/
def NameError.message (e : NameError) : String := "invalid " ++ e.kind ++ ": " ++ e.name

end Scrobbler
