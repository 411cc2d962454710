import Scrobbler.Url.Host
import Scrobbler.Url.Path

/-!
Addresses, as the URL standard has them: a scheme, perhaps a host, a path, and perhaps a query and a
fragment. All parts are in their escaped form.
-/

namespace Scrobbler

namespace Url

/-- Who asks for something at a host. -/
structure User where
  name : List Char
  password : Option (List Char)
  deriving DecidableEq, Repr

/-- What stands after two slashes. -/
structure Authority where
  user : User
  host : Option Host
  port : Option Nat
  deriving DecidableEq, Repr

inductive Path
  /-- Segments, each after a slash. -/
  | segments (list : List (List Char))
  /-- Text that starts with no slash. -/
  | text (chars : List Char)
  deriving DecidableEq, Repr

end Url

structure Url where
  scheme : List Char
  authority : Option Url.Authority
  path : Url.Path
  query : Option (List Char)
  fragment : Option (List Char)
  deriving DecidableEq, Repr

namespace Url

/-- The schemes whose addresses have a host, with the ports that they have when none is given. -/
def defaultPorts : List (String × Nat) :=
  [("http", 80), ("https", 443), ("ftp", 21), ("ws", 80), ("wss", 443)]

/-- The port that a scheme has when none is given. -/
def defaultPort? (scheme : List Char) : Option Nat := defaultPorts.lookup (String.ofList scheme)

/-- The scheme of files. -/
def fileScheme : List Char := "file".toList

def User.none : User := ⟨[], Option.none⟩

/-- The written form, with the sign behind it. -/
def User.chars (user : User) : List Char :=
  if user.name.isEmpty && user.password.isNone then []
  else user.name ++ (user.password.elim [] (':' :: ·)) ++ ['@']

/-- The written form, with the slashes in front of it. -/
def Authority.chars (a : Authority) : List Char :=
  ['/', '/'] ++ a.user.chars ++ (a.host.elim [] Host.chars) ++
    (a.port.elim [] fun port => ':' :: Nat.toDigits 10 port)

/-- The written form. -/
def Path.chars : Path → List Char
  | .segments list => list.flatMap ('/' :: ·)
  | .text chars => chars

/-- The path starts with two slashes. -/
def Path.startsEmpty : Path → Bool
  | .segments ([] :: _ :: _) => true
  | _ => false

/-- What keeps the slashes at the start of a path from being taken for those of a host. -/
def Path.guard (p : Path) : List Char := if p.startsEmpty then ['/', '.'] else []

/-- The path of an address. -/
def pathChars (u : Url) : List Char := u.path.chars

/-- The written form. -/
def chars (u : Url) : List Char :=
  u.scheme ++ [':'] ++ (u.authority.elim u.path.guard Authority.chars) ++ u.pathChars ++
    (u.query.elim [] ('?' :: ·)) ++ (u.fragment.elim [] ('#' :: ·))

def render (u : Url) : String := String.ofList u.chars

def host? (u : Url) : Option Host := u.authority.bind (·.host)

/-- The address is one of HTTP. -/
def isHttp (u : Url) : Bool := ["http", "https"].contains (String.ofList u.scheme)

/-- Characters of host names with which no request can be sent. -/
def unsendable : List Char := ['\"', '\x60', '\x7b', '\x7d']

/-- The most characters that the address of a request may have. -/
def lengthLimit : Nat := 65534

/-- A request can be sent to the address. -/
def isSendable (u : Url) : Bool :=
  u.isHttp && u.chars.length ≤ lengthLimit &&
    match u.host? with
    | some (.named name) => !name.any unsendable.contains
    | _ => true

/-- The user is one whose name, or password if there is no name, can be told to a server. -/
def User.isReadable (user : User) : Bool :=
  (unescape? user.name).isSome &&
    (!user.name.isEmpty || (user.password.bind unescape?).isSome)

/-- The address without the user, if there is one that can be told to the server in another way. That is a
Basic header of the HTTP library, which requests leave out. -/
def withoutUser (u : Url) : Url :=
  { u with
    authority := u.authority.map fun a =>
      if a.user.isReadable then { a with user := .none } else a }

/-- Appends parameters to the query. A query that stays empty is dropped. -/
def appendQuery (pairs : List (String × String)) (u : Url) : Url :=
  let query := Form.append (u.query.getD []) pairs
  { u with query := if query.isEmpty then none else some query }

end Url

end Scrobbler
