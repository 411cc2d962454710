import Scrobbler.Storage.Disk
import Scrobbler.User

/-!
The token store: one file that holds the user token that was last found valid.
-/

namespace Scrobbler

open Json (Wire DecodeError)

/-- Why the store fails. -/
inductive StoreError
  | disk (error : DiskError)
  | content (error : DecodeError)
  deriving Repr

/-- The wording of an error. -/
def StoreError.message : StoreError → String
  | .disk error => error.message
  | .content error => error.message

/-- A token store, which is kept in a directory of the program. -/
structure TokenStore where
  /-- The place at which the path of the directory is used. -/
  base : Place
  /-- The path of the program's directory. -/
  owner : String
  deriving DecidableEq, Repr

namespace TokenStore

/-- The path of the directory of the store. -/
def directory (store : TokenStore) : String := Place.pathIn store.owner "cache"

/-- The path of the file that holds the token. -/
def path (store : TokenStore) : String := Place.pathIn store.directory "token.json"

/-- The text that a token is kept as. -/
def render (token : StoredToken) : String := Json.renderLines token.members

/-- Reads the token. -/
def load (store : TokenStore) (disk : Disk) : Except StoreError StoredToken := do
  let text ← (disk.readText store.base store.path).mapError .disk
  (Wire.ofText text : Except DecodeError StoredToken).mapError .content

/-- Writes a token in place of any other. -/
def save (store : TokenStore) (disk : Disk) (token : StoredToken) : Except StoreError Disk := do
  let disk ← (disk.makeDirectories store.base store.directory).mapError .disk
  (disk.write store.base store.path (Text.Utf8.encode (render token))).mapError .disk

/-- Removes the token, if there is one. -/
def clear (store : TokenStore) (disk : Disk) : Except StoreError Disk :=
  match disk.remove store.base store.path with
  | .ok disk => .ok disk
  | .error .notFound => .ok disk
  | .error error => .error (.disk error)

end TokenStore

end Scrobbler
