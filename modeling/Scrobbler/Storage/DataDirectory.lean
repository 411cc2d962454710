import Scrobbler.Environment
import Scrobbler.Storage.Place

/-!
Where the program keeps its data. The environment may name the directory for the data of all
programs; otherwise there is one in the home directory.
-/

namespace Scrobbler.DataDirectory

/-- The name of the variable that holds the directory for data. Only a path from the root counts. -/
def sharedVariable : String := "XDG_DATA_HOME"

/-- The name of the variable that holds the home directory. -/
def homeVariable : String := "HOME"

/-- The directory that the environment names. -/
def named? (env : Environment) : Option String :=
  (env.lookup sharedVariable).filter fun path => path.toList.head? = some '/'

/-- The directory for data in the home directory. -/
def inHome? (env : Environment) : Option String :=
  ((env.lookup homeVariable).filter (!·.isEmpty)).map (Place.pathIn · ".local/share")

/-- The directory for the data of all programs. Without any it is the working directory. -/
def shared (env : Environment) : String := (named? env).getD ((inHome? env).getD ".")

/-- The directory of the program's data. -/
def own (env : Environment) : String := Place.pathIn (shared env) "lbcli"

/-- The path of the environment file. -/
def environmentFile (env : Environment) : String := Place.pathIn (own env) ".env"

end Scrobbler.DataDirectory
