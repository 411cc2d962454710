import Scrobbler.Http.Server

/-!
Sessions: programs that send requests, wait and print lines. A session only says what is done next;
running it against a server gives its result and the trace of all that it did.
-/

namespace Scrobbler

inductive Session (α : Type)
  | done (value : α)
  | send (draft : Draft) (next : Except TransportError Response → Session α)
  | wait (milliseconds : Nat) (next : Session α)
  | print (line : String) (next : Session α)

/-- One thing that a session did. -/
inductive Event
  | attempt (draft : Draft) (delivery : Delivery)
  | wait (milliseconds : Nat)
  | line (text : String)

/-- The end of a session: its result, the number of requests that the server has taken, and what
was done, in order. -/
structure Outcome (α : Type) where
  value : α
  taken : Nat
  trace : List Event

namespace Session

variable {α β : Type}

/-- Goes on after the result. -/
def bind (session : Session α) (f : α → Session β) : Session β :=
  match session with
  | .done value => f value
  | .send draft next => .send draft fun outcome => (next outcome).bind f
  | .wait milliseconds next => .wait milliseconds (next.bind f)
  | .print line next => .print line (next.bind f)

instance : Monad Session where
  pure := .done
  bind := bind

/-- Runs a session against a server that has taken `taken` requests. -/
def run (server : Server) (taken : Nat) : Session α → Outcome α
  | .done value => ⟨value, taken, []⟩
  | .send draft next =>
      let delivery := server.deliver taken draft
      let taken := if delivery.received then taken + 1 else taken
      let rest := (next delivery.outcome).run server taken
      { rest with trace := .attempt draft delivery :: rest.trace }
  | .wait milliseconds next =>
      let rest := next.run server taken
      { rest with trace := .wait milliseconds :: rest.trace }
  | .print line next =>
      let rest := next.run server taken
      { rest with trace := .line line :: rest.trace }

/-- A session that goes on does first what it did before, and then the rest. -/
theorem run_bind (server : Server) (taken : Nat) (session : Session α) (f : α → Session β) :
    (session.bind f).run server taken =
      let first := session.run server taken
      let second := (f first.value).run server first.taken
      { second with trace := first.trace ++ second.trace } := by
  induction session generalizing taken with
  | done value => simp [bind, run]
  | send draft next ih => simp [bind, run, ih]
  | wait milliseconds next ih => simp [bind, run, ih]
  | print line next ih => simp [bind, run, ih]

end Session

namespace Event

/-- The draft of an attempt. -/
def draft? : Event → Option Draft
  | .attempt draft _ => some draft
  | _ => none

/-- The request that a server has read. -/
def received? : Event → Option Request
  | .attempt draft ⟨true, _⟩ => draft.request.toOption
  | _ => none

/-- The milliseconds of thirty years; no wait takes longer. -/
def longestWait : Nat := 30 * 365 * 24 * 60 * 60 * 1000

/-- The milliseconds waited. -/
def waited : Event → Nat
  | .wait milliseconds => min milliseconds longestWait
  | _ => 0

/-- The line printed. -/
def line? : Event → Option String
  | .line text => some text
  | _ => none

end Event

namespace Outcome

variable {α : Type}

/-- What was sent, in order. -/
def attempts (o : Outcome α) : List Draft := o.trace.filterMap Event.draft?

/-- The requests that the server has read, in order. -/
def requests (o : Outcome α) : List Request := o.trace.filterMap Event.received?

/-- The milliseconds waited in all. -/
def waited (o : Outcome α) : Nat := 
  o.trace.foldr (fun event total => event.waited + total) 0

/-- The lines printed, in order. -/
def lines (o : Outcome α) : List String := o.trace.filterMap Event.line?

end Outcome

end Scrobbler
