import Scrobbler.Client.Root
import Scrobbler.Environment

/-!
Settings: which servers to speak to, how long a submission may be, and how often it is repeated.
-/

namespace Scrobbler

structure Settings where
  apiRoot : String
  musicbrainzRoot : String
  critiquebrainzRoot : String
  /-- The greatest number of bytes of a payload that is not split. -/
  maxListenSize : Nat
  /-- The milliseconds between two attempts. -/
  retryDelay : Nat
  /-- How often a submission is repeated. -/
  defaultRetries : Nat
  deriving DecidableEq, Repr

namespace Settings

/-- The settings when nothing else is said. -/
def standard : Settings where
  apiRoot := "https://api.listenbrainz.org"
  musicbrainzRoot := "https://musicbrainz.org/ws/2"
  critiquebrainzRoot := "https://critiquebrainz.org/ws/1"
  maxListenSize := 10000
  retryDelay := 3000
  defaultRetries := 3

/-- The settings with the roots that the environment names. -/
def ofEnvironment (env : Environment) : Settings :=
  { standard with
    apiRoot := env.valueOr Environment.apiVariable standard.apiRoot
    musicbrainzRoot := env.valueOr Environment.musicbrainzVariable standard.musicbrainzRoot
    critiquebrainzRoot :=
      env.valueOr Environment.critiquebrainzVariable standard.critiquebrainzRoot }

/-- The settings with roots in the form that a client uses. -/
def normalized (s : Settings) : Settings :=
  { s with
    apiRoot := Root.versioned s.apiRoot
    musicbrainzRoot := Root.trimmed s.musicbrainzRoot
    critiquebrainzRoot := Root.trimmed s.critiquebrainzRoot }

end Settings

/-- A client: settings whose roots are in normal form. -/
structure Client where
  settings : Settings
  deriving DecidableEq, Repr

namespace Client

def ofSettings (s : Settings) : Client := ⟨s.normalized⟩

/-- A client of the listens server at a root, with standard settings otherwise. -/
def ofRoot (root : String) : Client := ofSettings { Settings.standard with apiRoot := root }

/-- The address of a path on the listens server. -/
def apiAddress (c : Client) (path : String) : String := Root.address c.settings.apiRoot path

end Client

end Scrobbler
