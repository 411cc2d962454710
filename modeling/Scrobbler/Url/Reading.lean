import Scrobbler.Text.Blank
import Scrobbler.Url.Basic

/-!
Reading of addresses. The scheme decides how the rest is read: most schemes of the web have a host,
which is read as a domain name; files may have one, and drives; in all other addresses the host is
taken as it is, if there is one, and so is a path that starts with no slash.
-/

namespace Scrobbler.Url

/-- Characters that do not count at the ends of an address. -/
def isMargin (c : Char) : Bool := c.toNat ≤ 0x20

/-- Drops what does not count in an address: margins, tabs and line ends. -/
def clean (s : List Char) : List Char :=
  (Text.dropEndWhile isMargin (s.dropWhile isMargin)).filter fun c =>
    c ≠ '\t' && c ≠ '\n' && c ≠ '\r'

def isSchemeChar (c : Char) : Bool := c.isAlphanum || c == '+' || c == '-' || c == '.'

/-- The scheme of an address in lower case, and what follows the colon. -/
def splitScheme? (s : List Char) : Option (List Char × List Char) :=
  match s with
  | c :: _ =>
      if c.isAlpha then
        match s.dropWhile isSchemeChar with
        | ':' :: rest => some ((s.takeWhile isSchemeChar).map Char.toLower, rest)
        | _ => none
      else none
  | [] => none

/-- What follows the first `mark`, if there is one. -/
def after? (mark : Char) (s : List Char) : Option (List Char) :=
  match s.dropWhile (· ≠ mark) with
  | _ :: rest => some rest
  | [] => none

/-- The part of an address before its query and its fragment. -/
def beforeQuery (s : List Char) : List Char := s.takeWhile fun c => c ≠ '?' && c ≠ '#'

/-- The query of an address. -/
def queryOf (special : Bool) (s : List Char) : Option (List Char) :=
  (after? '?' (s.takeWhile (· ≠ '#'))).map (escape (escapesInQuery special))

/-- The fragment of an address. -/
def fragmentOf (s : List Char) : Option (List Char) := (after? '#' s).map (escape escapesInFragment)

/-- An address whose path, query and fragment are in `rest`. -/
def withRest (special : Bool) (scheme : List Char) (authority : Option Authority) (path : Path)
    (rest : List Char) : Url :=
  ⟨scheme, authority, path, queryOf special rest, fragmentOf rest⟩

/-- Drops a slash at the head. -/
def dropSlash (special : Bool) : List Char → List Char
  | c :: rest => if isSlash special c then rest else c :: rest
  | [] => []

/-- The segments of a path after its first slash. -/
def segmentsOf (special : Bool) (path : List Char) : List (List Char) :=
  (Walk.start.follow false (splitSlashes special path)).segments

/-- The end of the part of an address that names the host. -/
def endsAuthority (special : Bool) (c : Char) : Bool := isSlash special c || c == '?' || c == '#'

/-- The text before the last `@`, and the one after it. -/
def splitUser (s : List Char) : Option (List Char) × List Char :=
  let after := (s.reverse.takeWhile (· ≠ '@')).reverse
  if after.length = s.length then (none, s)
  else (some (s.take (s.length - after.length - 1)), after)

/-- The user that a text names. An empty password is none. -/
def readUser (s : List Char) : User :=
  { name := escape escapesInUser (s.takeWhile (· ≠ ':'))
    password := ((after? ':' s).filter (!·.isEmpty)).map (escape escapesInUser) }

/-- The host at the head of a text, which ends at the first colon outside of brackets. -/
def hostText (inside : Bool) : List Char → List Char
  | [] => []
  | c :: rest =>
      if c = ':' ∧ !inside then []
      else c :: hostText (if c = '[' then true else if c = ']' then false else inside) rest

/-- The port after a host, and what follows it; the one of the scheme is not kept. A backslash ends
a port. -/
def readPort? (scheme : List Char) : List Char → Option (Option Nat × List Char)
  | ':' :: s =>
      let digits := s.takeWhile Char.isDigit
      let rest := s.dropWhile Char.isDigit
      if rest.head?.any (· ≠ '\\') then none
      else if digits.isEmpty then some (none, rest)
      else
        match Text.Integer.readNatural 65535 digits with
        | .ok n => some (if defaultPort? scheme = some n then none else some n, rest)
        | .error _ => none
  | rest => some (none, rest)

/-- The host of a text. Only where hosts are taken as they are may there be none, and then there is
no user and no port. -/
def readHost? (special : Bool) (user : User) (host port : List Char) : Option (Option Host) :=
  if special then (Host.ofDomain? host).map some
  else if host.isEmpty then
    if user = .none ∧ port.isEmpty then some none else none
  else (Host.ofText? host).map some

/-- Reads what stands between the two slashes and the path, and returns what follows it. -/
def readAuthority? (special : Bool) (scheme s : List Char) : Option (Authority × List Char) := do
  let text := s.takeWhile fun c => !endsAuthority special c
  let rest := s.dropWhile fun c => !endsAuthority special c
  let (userText, place) := splitUser text
  if userText = some [] ∧ place.isEmpty ∧ !rest.isEmpty then none
  else
    let user := (userText.map readUser).getD .none
    let hostChars := hostText false place
    let portChars := place.drop hostChars.length
    let host ← readHost? special user hostChars portChars
    let (port, more) ← readPort? scheme portChars
    return (⟨user, host, port⟩, more ++ rest)

/-- Reads an address of a scheme whose addresses have a host. -/
def readSpecial? (scheme rest : List Char) : Option Url := do
  let (authority, rest) ← readAuthority? true scheme (rest.dropWhile (isSlash true))
  let path := segmentsOf true (dropSlash true (beforeQuery rest))
  return withRest true scheme (some authority) (.segments path) rest

/-- The path after a host that was taken as it is; it may be empty. -/
def pathAfterHost (path : List Char) : Path :=
  .segments (if path.isEmpty then [] else segmentsOf false (dropSlash false path))

/-- Reads an address of any other scheme than those of the web and of files. -/
def readOther? (scheme rest : List Char) : Option Url :=
  match rest with
  | '/' :: '/' :: rest => do
      let (authority, rest) ← readAuthority? false scheme rest
      return withRest false scheme (some authority) (pathAfterHost (beforeQuery rest)) rest
  | '/' :: path =>
      some (withRest false scheme none (.segments (segmentsOf false (beforeQuery path))) rest)
  | _ =>
      some (withRest false scheme none (.text (escape (fun _ => false) (beforeQuery rest))) rest)

/-- An address of a file: a path that is entered by the letter of a drive has no host. -/
def fileUrl (host : Option Host) (path rest : List Char) : Url :=
  let walk := Walk.start.follow true (splitSlashes true path)
  withRest true fileScheme (some ⟨.none, if walk.onDrive then none else host, none⟩)
    (.segments (dropEmptyHead walk.segments)) rest

/-- The host of a file; the local one is not kept. -/
def fileHost? (s : List Char) : Option (Option Host) :=
  if s.isEmpty then some none
  else
    (Host.ofDomain? s).map fun host =>
      if host = .named "localhost".toList then none else some host

/-- Reads an address of a file. -/
def readFile? (rest : List Char) : Option Url :=
  let path := beforeQuery rest
  match path with
  | a :: b :: tail =>
      if isSlash true a && isSlash true b then
        let host := tail.takeWhile fun c => !isSlash true c
        if isDrive host then some (fileUrl none tail rest)
        else do
          let host? ← fileHost? host
          return fileUrl host? (dropSlash true (tail.dropWhile fun c => !isSlash true c)) rest
      else some (fileUrl none (dropSlash true path) rest)
  | _ => some (fileUrl none (dropSlash true path) rest)

/-- Reads an address. -/
def parse (s : String) : Option Url := do
  let (scheme, rest) ← splitScheme? (clean s.toList)
  if (defaultPort? scheme).isSome then readSpecial? scheme rest
  else if scheme = fileScheme then readFile? rest
  else readOther? scheme rest

end Scrobbler.Url
