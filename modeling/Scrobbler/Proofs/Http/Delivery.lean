import Mathlib.Tactic.Common
import Scrobbler.Client.Call

/-!
Deliveries: what comes back for a request does not depend on its body, and every attempt of a
session leaves its delivery in the trace.
-/

namespace Scrobbler

namespace Draft

theorem urlWithQuery_withBody (body : Option Json) (d : Draft) (url : Url) :
    ({ d with body } : Draft).urlWithQuery url = d.urlWithQuery url := rfl

theorem credentialFits_withBody (body : Option Json) (d : Draft) :
    ({ d with body } : Draft).credentialFits = d.credentialFits := rfl

/-- A body changes nothing else of the request that is built. -/
theorem request_withBody (body : Json) (d : Draft) :
    (d.withBody body).request =
      d.request.map fun request => { request with body := some body.render } := by
  unfold request withBody
  cases Url.parse d.address with
  | none => rfl
  | some url =>
      simp only [credentialFits_withBody, urlWithQuery_withBody]
      by_cases hHost : url.host?.isNone = true
      · simp [hHost, Except.map]
      by_cases hFits : d.credentialFits = true
      · by_cases hSend : (d.urlWithQuery url.withoutUser).isSendable = true <;>
          simp [hHost, hFits, hSend, Except.map]
      · simp [hHost, hFits, Except.map]

/-- All but the address of a request is as it is drafted. -/
theorem exists_url_of_request {d : Draft} {request : Request} (h : d.request = .ok request) :
    ∃ url, request = ⟨d.method, url, d.credential.map Credential.header, d.body.map Json.render⟩ := by
  unfold Draft.request at h
  split at h
  · cases h
  · next url hUrl =>
      by_cases hHost : url.host?.isNone = true
      · simp [hHost] at h
      by_cases hFits : d.credentialFits = true
      · by_cases hSend : (d.urlWithQuery url.withoutUser).isSendable = true
        · simp only [hHost, hFits, hSend] at h
          exact ⟨_, (Except.ok.inj h).symm⟩
        · simp [hHost, hFits, hSend] at h
      · simp [hHost, hFits] at h

end Draft

/-- An answer that has nothing but a status. -/
def Reply.ofStatus (code : Nat) : Reply := .answer ⟨⟨code⟩, [], []⟩

namespace Server

/-- Whether and how a request is answered does not depend on its body. -/
theorem deliver_withBody (server : Server) (taken : Nat) (body : Json) (d : Draft) :
    server.deliver taken (d.withBody body) = server.deliver taken d := by
  unfold deliver
  rw [Draft.request_withBody]
  cases hRequest : d.request with
  | error fault => rfl
  | ok request => cases server <;> rfl

/-- Only a server that has read a request answers it. -/
theorem received_of_answered {server : Server} {taken : Nat} {d : Draft} {response : Response}
    (h : (server.deliver taken d).outcome = .ok response) :
    (server.deliver taken d).received = true := by
  unfold deliver at h ⊢
  cases hRequest : d.request with
  | error fault => simp [hRequest] at h
  | ok request =>
      cases server with
      | scripted reply => rfl
      | unreachable => simp [hRequest] at h

/-- Only a request that can be built is answered. -/
theorem exists_request_of_answered {server : Server} {taken : Nat} {d : Draft} {response : Response}
    (h : (server.deliver taken d).outcome = .ok response) : ∃ request, d.request = .ok request := by
  unfold deliver at h
  cases hRequest : d.request with
  | error fault => simp [hRequest] at h
  | ok request => exact ⟨request, rfl⟩

/-- A server that answers with the statuses of a list in order, and agrees to everything after
that. -/
def ofStatuses (codes : List Nat) : Server := .ofReplies (codes.map Reply.ofStatus)

/-- A server made from statuses answers every request. -/
theorem exists_answer_ofStatuses (codes : List Nat) (taken : Nat) :
    ∃ response, (codes.map Reply.ofStatus).getD taken .agreement = .answer response := by
  rw [List.getD_eq_getElem?_getD, List.getElem?_map]
  cases codes[taken]? <;> exact ⟨_, rfl⟩

end Server

/-- The number of requests that the server has taken after an attempt. -/
def Delivery.takenAfter (d : Delivery) (taken : Nat) : Nat :=
  if d.received then taken + 1 else taken

/-- The draft of an attempt, with what became of it. -/
def Event.sent? : Event → Option (Draft × Delivery)
  | .attempt draft delivery => some (draft, delivery)
  | _ => none

/-- The milliseconds that a wait was meant to take. -/
def Event.wait? : Event → Option Nat
  | .wait milliseconds => some milliseconds
  | _ => none

namespace Outcome

variable {α : Type}

/-- What was sent, in order, with what became of it. -/
def sent (o : Outcome α) : List (Draft × Delivery) := o.trace.filterMap Event.sent?

/-- What became of the attempts, in order. -/
def deliveries (o : Outcome α) : List Delivery := o.sent.map Prod.snd

/-- Every attempt was answered. -/
def IsAnswered (o : Outcome α) : Prop :=
  ∀ delivery ∈ o.deliveries, ∃ response, delivery.outcome = .ok response

/-- The waits, in order, each as long as it was meant to take. -/
def waits (o : Outcome α) : List Nat := o.trace.filterMap Event.wait?

theorem attempts_eq_map_sent (o : Outcome α) : o.attempts = o.sent.map Prod.fst := by
  unfold attempts sent
  rw [List.map_filterMap]
  congr 1
  funext event
  cases event <;> rfl

/-- No wait takes longer than the longest one. -/
theorem waited_eq_foldr (o : Outcome α) :
    o.waited = (o.waits.map fun wait => min wait Event.longestWait).foldr (· + ·) 0 := by
  unfold waited waits
  induction o.trace with
  | nil => rfl
  | cons event trace ih =>
      rw [List.foldr_cons, ih]
      cases event <;> simp [List.filterMap_cons, Event.waited, Event.wait?]

/-- Equal waits add up to a multiple of the time that one takes. -/
theorem waited_of_waits_eq (o : Outcome α) {count wait : Nat}
    (h : o.waits = List.replicate count wait) : o.waited = count * min wait Event.longestWait := by
  rw [waited_eq_foldr, h, List.map_replicate]
  exact List.sum_replicate_nat

end Outcome

namespace Session

variable {α β : Type} {server : Server} {taken : Nat}

/-- The result of two sessions is that of the second, after what the server took in the first. -/
theorem value_run_bind (session : Session α) (f : α → Session β) :
    ((session.bind f).run server taken).value =
      ((f (session.run server taken).value).run server (session.run server taken).taken).value := by
  rw [run_bind]

theorem taken_run_bind (session : Session α) (f : α → Session β) :
    ((session.bind f).run server taken).taken =
      ((f (session.run server taken).value).run server (session.run server taken).taken).taken := by
  rw [run_bind]

/-- The trace of two sessions is that of the first, and then that of the second. -/
theorem trace_run_bind (session : Session α) (f : α → Session β) :
    ((session.bind f).run server taken).trace =
      (session.run server taken).trace ++
        ((f (session.run server taken).value).run server (session.run server taken).taken).trace := by
  rw [run_bind]

theorem sent_run_done (value : α) : ((done value).run server taken).sent = [] := rfl

/-- What two sessions send is what the first sends, and then what the second does. -/
theorem sent_run_bind (session : Session α) (f : α → Session β) :
    ((session.bind f).run server taken).sent =
      (session.run server taken).sent ++
        ((f (session.run server taken).value).run server (session.run server taken).taken).sent := by
  rw [run_bind]
  exact List.filterMap_append

theorem lines_run_bind (session : Session α) (f : α → Session β) :
    ((session.bind f).run server taken).lines =
      (session.run server taken).lines ++
        ((f (session.run server taken).value).run server (session.run server taken).taken).lines := by
  rw [run_bind]
  exact List.filterMap_append

theorem waits_run_bind (session : Session α) (f : α → Session β) :
    ((session.bind f).run server taken).waits =
      (session.run server taken).waits ++
        ((f (session.run server taken).value).run server (session.run server taken).taken).waits := by
  rw [run_bind]
  exact List.filterMap_append

/-- A session that sends nothing, and has the same result for all servers. -/
def Yields (session : Session α) (value : α) : Prop :=
  ∀ server taken, (session.run server taken).value = value ∧
    (session.run server taken).taken = taken ∧ (session.run server taken).sent = []

namespace Yields

variable {session next : Session α} {f : α → Session β} {value : α} {result : β}

theorem done (value : α) : (Session.done value).Yields value := fun _ _ => ⟨rfl, rfl, rfl⟩

theorem print {line : String} (h : next.Yields value) : (Session.print line next).Yields value := by
  intro server taken
  obtain ⟨hValue, hTaken, hSent⟩ := h server taken
  exact ⟨hValue, hTaken, hSent⟩

theorem wait {milliseconds : Nat} (h : next.Yields value) :
    (Session.wait milliseconds next).Yields value := by
  intro server taken
  obtain ⟨hValue, hTaken, hSent⟩ := h server taken
  exact ⟨hValue, hTaken, hSent⟩

/-- What comes after a session that sends nothing is done as if it came first. -/
theorem bind_before (h : session.Yields value) (f : α → Session β) (server : Server) (taken : Nat) :
    ((session.bind f).run server taken).value = ((f value).run server taken).value ∧
      ((session.bind f).run server taken).taken = ((f value).run server taken).taken ∧
      ((session.bind f).run server taken).sent = ((f value).run server taken).sent := by
  obtain ⟨hValue, hTaken, hSent⟩ := h server taken
  rw [value_run_bind, taken_run_bind, sent_run_bind, hValue, hTaken, hSent]
  exact ⟨rfl, rfl, rfl⟩

/-- A session that sends nothing changes only the result of the one before it. -/
theorem bind_after (h : (f (session.run server taken).value).Yields result) :
    ((session.bind f).run server taken).value = result ∧
      ((session.bind f).run server taken).taken = (session.run server taken).taken ∧
      ((session.bind f).run server taken).sent = (session.run server taken).sent := by
  obtain ⟨hValue, hTaken, hSent⟩ := h server (session.run server taken).taken
  rw [value_run_bind, taken_run_bind, sent_run_bind, hSent, List.append_nil]
  exact ⟨hValue, hTaken, rfl⟩

/-- Two sessions that send nothing, one after the other, have the result of the second. -/
theorem bind (h : session.Yields value) (hNext : (f value).Yields result) :
    (session.bind f).Yields result := by
  intro server taken
  obtain ⟨hValue, hTaken, hSent⟩ := h.bind_before f server taken
  rw [hValue, hTaken, hSent]
  exact hNext server taken

end Yields

/-- A session that sends one request, and nothing more. -/
theorem run_send_of_yields (server : Server) (taken : Nat) (draft : Draft) {value : α}
    (ends : Except TransportError Response → Session α)
    (h : (ends (server.deliver taken draft).outcome).Yields value) :
    ((send draft ends).run server taken).value = value ∧
      ((send draft ends).run server taken).sent = [(draft, server.deliver taken draft)] := by
  obtain ⟨hValue, -, hSent⟩ := h server ((server.deliver taken draft).takenAfter taken)
  exact ⟨hValue, congrArg ((draft, server.deliver taken draft) :: ·) hSent⟩

end Session

end Scrobbler
