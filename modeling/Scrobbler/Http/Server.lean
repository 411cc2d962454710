import Scrobbler.Http.Request

/-!
Servers. A server takes requests one after the other, and its reply to each may depend on how many
it has taken. An unreachable server takes none.

A request is sent once, and its reply is the final outcome of that. The HTTP library may follow redirects
on the way from a request to its final answer; they are not modelled, and neither are the further requests
of a redirect.
-/

namespace Scrobbler

/-- What comes of a request that a server has read: the final outcome of one send. An answer is the one
after all redirects that the HTTP library follows, which are not modelled themselves. -/
inductive Reply
  | answer (response : Response)
  /-- Nothing that is HTTP comes back. -/
  | drop
  /-- The answer breaks off inside its body. -/
  | cut
  deriving DecidableEq, Repr

inductive Server
  /-- The reply to each request, by the number of requests taken before. -/
  | scripted (reply : Nat → Reply)
  | unreachable

/-- What became of one attempt to send a request. -/
structure Delivery where
  /-- The server has read the request. -/
  received : Bool
  outcome : Except TransportError Response

namespace Response

/-- Spaces around the value of a header are not sent. -/
def trimHeader (value : List UInt8) : List UInt8 :=
  let isSpace (b : UInt8) : Bool := b == 0x20 || b == 0x09
  ((value.dropWhile isSpace).reverse.dropWhile isSpace).reverse

/-- A response as it arrives: without spaces around the values of headers, and without a body where
the status allows none. -/
def onWire (r : Response) : Response :=
  { r with
    headers := r.headers.map fun (name, value) => (name, trimHeader value)
    body := if r.status.code = 204 ∨ r.status.code = 304 then [] else r.body }

end Response

namespace Reply

/-- What comes back from an address. -/
def outcome (address : String) : Reply → Except TransportError Response
  | .answer response => .ok response.onWire
  | .drop => .error (.undelivered address)
  | .cut => .error .bodyCut

/-- The reply of a server that agrees to everything. -/
def agreement : Reply :=
  .answer
    ⟨⟨200⟩, [("content-type", Text.Utf8.encode "application/json")],
      Text.Utf8.encode (Json.object [("status", .text "ok")]).render⟩

end Reply

namespace Server

/-- A server that gives the replies of a list in order, and agrees to everything after that. -/
def ofReplies (replies : List Reply) : Server :=
  .scripted fun taken => replies.getD taken .agreement

/-- Sends a request to a server that has taken `taken` requests, and waits for its final outcome. One send
counts as one request, since redirects are not modelled. -/
def deliver (server : Server) (taken : Nat) (draft : Draft) : Delivery :=
  match draft.request with
  | .error fault => ⟨false, .error fault⟩
  | .ok request =>
      match server with
      | .scripted reply => ⟨true, (reply taken).outcome request.url.render⟩
      | .unreachable => ⟨false, .error (.undelivered request.url.render)⟩

end Server

end Scrobbler
