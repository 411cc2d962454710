import Scrobbler.Http.Response
import Scrobbler.Json.Printer
import Scrobbler.Url.Reading

/-!
Requests. A draft says what is wanted; the request that is sent exists only if its address is one of
HTTP and its header may be sent.
-/

namespace Scrobbler

inductive Method
  | get
  | post
  deriving DecidableEq, Repr

namespace Method

def name : Method → String
  | .get => "GET"
  | .post => "POST"

end Method

/-- Who makes a request: the owner of a user token, or of an access token to the review server. -/
inductive Credential
  | token (secret : String)
  | bearer (secret : String)
  deriving DecidableEq, Repr

/-- The value of the header that holds a credential. -/
def Credential.header : Credential → String
  | .token secret => "Token " ++ secret
  | .bearer secret => "Bearer " ++ secret

/-- What is wanted of a server. -/
structure Draft where
  method : Method
  address : String
  /-- Parameters to be appended to the query of the address. -/
  query : Option (List (String × String))
  credential : Option Credential
  body : Option Json
  deriving Repr

/-- A request that can be sent. -/
structure Request where
  method : Method
  url : Url
  /-- The header of the credential. It is the only one of its name here: the Basic header that the HTTP
  library adds when the address names a user is left out. -/
  authorization : Option String
  /-- The text of the body; a body is always JSON. -/
  body : Option String
  deriving DecidableEq, Repr

/-- Why no response came. -/
inductive TransportError
  /-- The request could not be built; the address is known if it is the one that requests cannot be
  sent to. -/
  | unbuildable (address : Option String)
  /-- No answer came to the request. -/
  | undelivered (address : String)
  /-- The answer broke off. -/
  | bodyCut
  deriving DecidableEq, Repr

/-- The wording of an error. -/
def TransportError.message : TransportError → String
  | .unbuildable none => "builder error"
  | .unbuildable (some address) => "builder error for url (" ++ address ++ ")"
  | .undelivered address => "error sending request for url (" ++ address ++ ")"
  | .bodyCut => "error decoding response body"

namespace Draft

/-- A text may be sent as the value of a header unless it has a control character other than a
tab. -/
def isHeaderText (s : String) : Bool :=
  s.toList.all fun c => c == '\t' || (0x20 ≤ c.toNat && c.toNat ≠ 0x7F)

/-- A credential may be sent. -/
def credentialFits (d : Draft) : Bool :=
  d.credential.all fun credential => isHeaderText credential.header

/-- The address of the request, with the parameters in its query. -/
def urlWithQuery (d : Draft) (url : Url) : Url :=
  d.query.elim url fun pairs => url.appendQuery pairs

/-- Builds the request. An address without a host is refused before its query is made up. A user that is
named in the address does not stay there; the Basic header that the HTTP library makes of such a user is
left out of the request. -/
def request (d : Draft) : Except TransportError Request :=
  match Url.parse d.address with
  | none => .error (.unbuildable none)
  | some url =>
      if url.host?.isNone then .error (.unbuildable (some url.render))
      else
        let url := d.urlWithQuery url.withoutUser
        if !d.credentialFits then .error (.unbuildable none)
        else if !url.isSendable then .error (.unbuildable (some url.render))
        else
          .ok
            { method := d.method
              url := url
              authorization := d.credential.map Credential.header
              body := d.body.map Json.render }

end Draft

end Scrobbler
