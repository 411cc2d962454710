import Scrobbler.NameMap
import Scrobbler.Text.Blank

/-!
The environment: variables by name. A variable that is blank counts as not set.
-/

namespace Scrobbler

abbrev Environment := NameMap String

namespace Environment

/-- The value of a variable that is not blank. -/
def value? (name : String) (env : Environment) : Option String :=
  (env.lookup name).filter fun value => !Text.isBlank value

/-- The value of a variable, or another one when it is blank or not set. -/
def valueOr (name default : String) (env : Environment) : String :=
  (env.value? name).getD default

/-- The name of the variable that holds the root of the listens server. -/
def apiVariable : String := "LISTENBRAINZ_API_URL"

/-- The name of the variable that holds the root of the release database. -/
def musicbrainzVariable : String := "MUSICBRAINZ_API_URL"

/-- The name of the variable that holds the root of the review server. -/
def critiquebrainzVariable : String := "CRITIQUEBRAINZ_API_URL"

/-- The name of the variable that holds the user token. -/
def tokenVariable : String := "LISTENBRAINZ_TOKEN"

/-- The user token, if one is set. -/
def userToken? (env : Environment) : Option String := env.value? tokenVariable

end Environment

end Scrobbler
