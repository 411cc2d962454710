import Scrobbler.Client.Error
import Scrobbler.Client.Settings
import Scrobbler.Http.Session

/-!
Calls: a call checks its arguments, sends one request and reads the response. Calls differ in the
request and in what they make of the response, and in nothing else.
-/

namespace Scrobbler

open Json (Wire Decoder)

/-- One request, and what is made of the response. A call is an exchange, or the error that an
argument rules it out with. -/
structure Exchange (α : Type) where
  draft : Draft
  receive : Response → Checked α

namespace Exchange

variable {α : Type}

/-- The result of an exchange. -/
def result (e : Exchange α) : Except TransportError Response → Checked α
  | .ok response => e.receive response
  | .error error => .error (.transport error)

/-- Makes a call. -/
def perform : Checked (Exchange α) → Session (Checked α)
  | .error error => .done (.error error)
  | .ok exchange => .send exchange.draft fun outcome => .done (exchange.result outcome)

end Exchange

namespace Receive

variable {α : Type}

/-- The status, whatever it is. -/
def anyStatus (r : Response) : Checked Status := .ok r.status

/-- The status, if it is a success. -/
def status (r : Response) : Checked Status := r.check.map (·.status)

/-- The body. -/
def body (decoder : Decoder α) (r : Response) : Checked α :=
  match r.json decoder with
  | .ok value => .ok value
  | .error error => .error (.json error)

/-- The body of a success. -/
def json (decoder : Decoder α) (r : Response) : Checked α := do
  body decoder (← r.check)

/-- The body of a success that has one. -/
def content (decoder : Decoder α) (r : Response) : Checked α := do
  let r ← r.check
  if r.status.isNoContent then throw (.api (.generic r)) else body decoder r

end Receive

namespace Draft

/-- A request to read an address. -/
def get (address : String) : Draft := ⟨.get, address, none, none, none⟩

/-- A request to change what is at an address. -/
def post (address : String) : Draft := ⟨.post, address, none, none, none⟩

def withQuery (pairs : List (String × String)) (d : Draft) : Draft := { d with query := some pairs }

/-- Appends one parameter if it is given. -/
def withParameter (name : String) (value : Option String) (d : Draft) : Draft :=
  match value with
  | some value => { d with query := some (d.query.getD [] ++ [(name, value)]) }
  | none => d

def withCredential (credential : Credential) (d : Draft) : Draft :=
  { d with credential := some credential }

/-- Adds a user token, if one is given that is not empty. -/
def withOptionalToken (token : Option String) (d : Draft) : Draft :=
  match token with
  | some token => if token.isEmpty then d else d.withCredential (.token token)
  | none => d

def withBody (body : Json) (d : Draft) : Draft := { d with body := some body }

/-- Sets the body to an object, with its members sorted by name. -/
def withMembers (members : List (String × Json)) (d : Draft) : Draft :=
  d.withBody (Json.object members).sorted

end Draft

namespace Client

/-- A request to read a path of the listens server. -/
def get (c : Client) (path : String) : Draft := .get (c.apiAddress path)

/-- A request, in the name of a token's owner, to change a path of the listens server. -/
def post (c : Client) (token path : String) : Draft :=
  (Draft.post (c.apiAddress path)).withCredential (.token token)

end Client

/-- The digits of a number. -/
def decimal (n : Nat) : String := String.ofList (Json.naturalChars n)

/-- The digits of a whole number, with its sign. -/
def signedDecimal (n : Int) : String := String.ofList (Json.integerChars n)

end Scrobbler
