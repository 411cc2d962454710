import Mathlib.Data.List.Basic
import Scrobbler.Proofs.Http.Delivery

/-!
Credentials of requests. Two sessions that are the same but for the credential of their requests do the
same, against every server, as long as both credentials can be sent.
-/

namespace Scrobbler

/-- A header can hold the credential. -/
def Credential.Fits (credential : Credential) : Prop := Draft.isHeaderText credential.header = true

/-- A text may be sent in a header exactly if both of its parts may. -/
theorem Draft.isHeaderText_append (s t : String) :
    isHeaderText (s ++ t) = (isHeaderText s && isHeaderText t) := by
  simp only [isHeaderText, String.toList_append, List.all_append]

/-- A token that can be sent can be sent as either credential. -/
theorem Credential.fits_of_isHeaderText {secret : String} (h : Draft.isHeaderText secret = true) :
    (token secret).Fits ∧ (bearer secret).Fits := by
  simp only [Fits, header, Draft.isHeaderText_append, h]
  decide

/-- The request of another caller. -/
def Request.withAuthorization (header : String) (r : Request) : Request :=
  { r with authorization := some header }

/-- The attempt of another caller. -/
def Event.withCredential (credential : Credential) : Event → Event
  | .attempt draft delivery => .attempt (draft.withCredential credential) delivery
  | event => event

namespace Draft

variable {draft : Draft} {own other : Credential}

/-- Of a request that is built, the credential decides one header. -/
theorem request_withCredential (hOwn : draft.credential = some own) (hFits : own.Fits)
    (hOther : other.Fits) :
    (draft.withCredential other).request = draft.request.map (·.withAuthorization other.header) := by
  have hCredential : draft.credentialFits = true := by
    rw [credentialFits, hOwn]
    exact hFits
  have hNew : (draft.withCredential other).credentialFits = true := hOther
  have hUrl (url : Url) : (draft.withCredential other).urlWithQuery url = draft.urlWithQuery url := rfl
  unfold request
  have hAddress : (draft.withCredential other).address = draft.address := rfl
  rw [hAddress]
  cases Url.parse draft.address with
  | none => rfl
  | some url =>
      simp only [hUrl, hCredential, hNew]
      split
      · rfl
      · by_cases hSend : (draft.urlWithQuery url.withoutUser).isSendable = true <;>
          simp [hSend, Except.map, withCredential, Request.withAuthorization]

end Draft

/-- What becomes of a request does not depend on who makes it. -/
theorem Server.deliver_withCredential (server : Server) (taken : Nat) {draft : Draft}
    {own other : Credential} (hOwn : draft.credential = some own) (hFits : own.Fits)
    (hOther : other.Fits) :
    server.deliver taken (draft.withCredential other) = server.deliver taken draft := by
  unfold deliver
  rw [Draft.request_withCredential hOwn hFits hOther]
  cases draft.request with
  | error fault => rfl
  | ok request => cases server <;> rfl

/-- One outcome is that of the same session with another credential in all its requests. The traces are
compared in full; of a request that the server has read, its parts are the same as well. -/
structure Outcome.Reassigned {α : Type} (own other : Credential) (o o' : Outcome α) : Prop where
  value : o'.value = o.value
  trace : o'.trace = o.trace.map (·.withCredential other)
  taken : o'.taken = o.taken
  lines : o'.lines = o.lines
  waited : o'.waited = o.waited
  attempts : o'.attempts = o.attempts.map (·.withCredential other)
  requests : o'.requests = o.requests.map (·.withAuthorization other.header)
  authorization : ∀ request ∈ o.requests, request.authorization = some own.header

namespace Session

variable {α β : Type} {own other : Credential}

/-- The second session is the first one with another credential in all its requests. -/
inductive Reassigned (own other : Credential) : Session α → Session α → Prop
  | done (value : α) : Reassigned own other (.done value) (.done value)
  | send {draft : Draft} {next next' : Except TransportError Response → Session α}
      (hOwn : draft.credential = some own)
      (rest : ∀ outcome, Reassigned own other (next outcome) (next' outcome)) :
      Reassigned own other (.send draft next) (.send (draft.withCredential other) next')
  | wait (milliseconds : Nat) {next next' : Session α} (rest : Reassigned own other next next') :
      Reassigned own other (.wait milliseconds next) (.wait milliseconds next')
  | print (line : String) {next next' : Session α} (rest : Reassigned own other next next') :
      Reassigned own other (.print line next) (.print line next')

namespace Reassigned

/-- Sessions with another credential go on with another credential. -/
theorem bind {session session' : Session α} {f f' : α → Session β} (h : Reassigned own other session session')
    (hNext : ∀ value, Reassigned own other (f value) (f' value)) :
    Reassigned own other (session.bind f) (session'.bind f') := by
  induction h with
  | done value => exact hNext value
  | send hOwn rest ih => exact .send hOwn ih
  | wait milliseconds rest ih => exact .wait milliseconds ih
  | print line rest ih => exact .print line ih

/-- Both sessions do the same, but for the credential of their attempts. -/
theorem run {session session' : Session α} (h : Reassigned own other session session')
    (hFits : own.Fits) (hOther : other.Fits) (server : Server) (taken : Nat) :
    session'.run server taken =
      { session.run server taken with
        trace := (session.run server taken).trace.map (·.withCredential other) } := by
  induction h generalizing taken with
  | done value => rfl
  | @send draft next next' hOwn rest ih =>
      simp only [Session.run, server.deliver_withCredential taken hOwn hFits hOther, ih]
      rfl
  | wait milliseconds rest ih =>
      rw [Session.run, ih taken]
      rfl
  | print line rest ih =>
      rw [Session.run, ih taken]
      rfl

/-- All attempts of the first session have its own credential. -/
theorem credential_of_mem_trace {session session' : Session α} (h : Reassigned own other session session')
    {server : Server} {taken : Nat} {draft : Draft} {delivery : Delivery}
    (hMem : .attempt draft delivery ∈ (session.run server taken).trace) :
    draft.credential = some own := by
  induction h generalizing taken with
  | done value => cases hMem
  | send hOwn rest ih =>
      rcases List.mem_cons.mp hMem with hHere | hLater
      · cases hHere
        exact hOwn
      · exact ih _ hLater
  | wait milliseconds rest ih => exact ih ((List.mem_cons.mp hMem).resolve_left nofun)
  | print line rest ih => exact ih ((List.mem_cons.mp hMem).resolve_left nofun)

end Reassigned

end Session

namespace Event

variable {own other : Credential} {event : Event}

theorem draft?_withCredential :
    (event.withCredential other).draft? = event.draft?.map (·.withCredential other) := by
  cases event <;> rfl

/-- A request with another credential is the same but for its header, as long as both can be sent. -/
theorem received?_withCredential (hOwn : ∀ draft ∈ event.draft?, draft.credential = some own)
    (hFits : own.Fits) (hOther : other.Fits) :
    (event.withCredential other).received? =
      event.received?.map (·.withAuthorization other.header) := by
  cases event with
  | attempt draft delivery =>
      obtain ⟨received, outcome⟩ := delivery
      cases received with
      | false => rfl
      | true =>
          have hRequest := Draft.request_withCredential (hOwn draft rfl) hFits hOther
          simp only [withCredential, received?, hRequest]
          cases draft.request <;> rfl
  | wait milliseconds => rfl
  | line text => rfl

/-- A request tells the server the credential of its draft. -/
theorem authorization_of_received? {request : Request}
    (hOwn : ∀ draft ∈ event.draft?, draft.credential = some own) (h : event.received? = some request) :
    request.authorization = some own.header := by
  cases event with
  | attempt draft delivery =>
      obtain ⟨received, outcome⟩ := delivery
      cases received with
      | false => cases h
      | true =>
          cases hRequest : draft.request with
          | error fault => simp [received?, hRequest, Except.toOption] at h
          | ok sent =>
              obtain ⟨url, hSent⟩ := Draft.exists_url_of_request hRequest
              obtain rfl : sent = request := by simpa [received?, hRequest, Except.toOption] using h
              rw [hSent, hOwn draft rfl]
              rfl
  | wait milliseconds => cases h
  | line text => cases h

theorem line?_withCredential : (event.withCredential other).line? = event.line? := by
  cases event <;> rfl

theorem waited_withCredential : (event.withCredential other).waited = event.waited := by
  cases event <;> rfl

end Event

/-- What both sessions do differs in the credential of the requests alone. -/
theorem Session.Reassigned.outcome {α : Type} {own other : Credential} {session session' : Session α}
    (h : Reassigned own other session session') (hFits : own.Fits) (hOther : other.Fits)
    (server : Server) (taken : Nat) :
    Outcome.Reassigned own other (session.run server taken) (session'.run server taken) := by
  have hCredential : ∀ event ∈ (session.run server taken).trace, ∀ draft ∈ event.draft?,
      draft.credential = some own := by
    intro event hMem draft hDraft
    cases event with
    | attempt sent delivery =>
        obtain rfl : sent = draft := Option.some.inj hDraft
        exact h.credential_of_mem_trace hMem
    | wait milliseconds => cases hDraft
    | line text => cases hDraft
  rw [h.run hFits hOther]
  refine ⟨rfl, rfl, rfl, ?lines, ?waited, ?attempts, ?requests, ?authorization⟩
  case lines => simp [Outcome.lines, List.filterMap_map, Event.line?_withCredential]
  case waited => simp [Outcome.waited, List.foldr_map, Event.waited_withCredential]
  case attempts =>
    simp [Outcome.attempts, List.filterMap_map, List.map_filterMap,
      Event.draft?_withCredential]
  case requests =>
    simp only [Outcome.requests, List.filterMap_map, List.map_filterMap]
    refine List.filterMap_congr fun event hMem => ?_
    exact Event.received?_withCredential (hCredential event hMem) hFits hOther
  case authorization =>
    intro request hRequest
    obtain ⟨event, hMem, hReceived⟩ := List.mem_filterMap.mp hRequest
    exact Event.authorization_of_received? (hCredential event hMem) hReceived

end Scrobbler
