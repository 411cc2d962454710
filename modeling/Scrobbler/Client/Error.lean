import Scrobbler.Http.Request
import Scrobbler.Text.Search

/-!
Errors of calls. A response with a status that is no success becomes an error that keeps the
response; its message is the most specific one that can be had.
-/

namespace Scrobbler

open Json (DecodeError)

/-- A response that was not taken for a success. -/
structure ApiError where
  status : Status
  statusText : String
  message : String
  response : Response
  deriving DecidableEq, Repr

inductive ServiceError
  | api (error : ApiError)
  | transport (error : TransportError)
  | json (error : DecodeError)
  | missingArgument (name : String)
  | invalidArgument (reason : String)
  deriving Repr

namespace ApiError

/-- The message that holds for every response of that status. -/
def genericMessage (status : Status) : String := "HTTP Error " ++ status.phrase

/-- The error of a response about which nothing more is said. -/
def generic (response : Response) : ApiError :=
  ⟨response.status, response.status.phrase, genericMessage response.status, response⟩

/-- The body is marked as JSON. -/
def isJson (response : Response) : Bool :=
  response.contentType?.any fun type => Text.occursIn "application/json".toList type.toList

/-- What the body says about the error: the member `error` of JSON, and the whole of other text. -/
def bodyMessage? (response : Response) : Option String :=
  if isJson response then do
    let body ← (response.json .any).toOption
    (← body.member? "error").text?
  else do
    let text := Text.trim (← response.text?)
    if text.isEmpty then none else some text

/-- The error of a response. -/
def ofResponse (response : Response) : ApiError :=
  { generic response with
    message := (bodyMessage? response).getD (genericMessage response.status) }

end ApiError

namespace ServiceError

/-- The wording of an error. -/
def message : ServiceError → String
  | .api error => error.message
  | .transport error => "transport: " ++ error.message
  | .json error => "json: " ++ error.message
  | .missingArgument name => name ++ " missing"
  | .invalidArgument reason => "invalid argument: " ++ reason

/-- The status of the response that the error comes from. -/
def status? : ServiceError → Option Status
  | .api error => some error.status
  | _ => none

end ServiceError

/-- A result, or the error that took its place. -/
abbrev Checked := Except ServiceError

namespace Response

/-- The response, if its status is a success. -/
def check (r : Response) : Checked Response :=
  if r.status.isSuccess then .ok r else .error (.api (.ofResponse r))

end Response

/-- A required argument. -/
def require (value name : String) : Checked String :=
  if Text.isBlank value then .error (.missingArgument name) else .ok value

end Scrobbler
