import Scrobbler.Client.Call
import Scrobbler.Listen.Batch
import Scrobbler.Notice

/-!
Submissions. A batch that fits into one payload is sent as it is, and sent again after a pause while
the server asks for patience or no answer comes. Any other batch is cut in halves that are submitted
one after the other, each with all the retries of the whole. A half that fails in the end makes the
whole batch start again with one retry less.
-/

namespace Scrobbler

/-- What became of a submission that did not fail in sending its last request. -/
inductive Submission
  /-- The server answered, whatever the status. -/
  | completed (response : Response)
  /-- A batch in halves failed, and no retries were left. -/
  | abandoned (error : ServiceError)
  deriving Repr

namespace Submission

def response? : Submission → Option Response
  | completed response => some response
  | abandoned _ => none

def status? (s : Submission) : Option Status := s.response?.map (·.status)

def isSuccess (s : Submission) : Bool := s.status?.any Status.isSuccess

/-- The response of a success, or the error. -/
def result : Submission → Checked Response
  | completed response => response.check
  | abandoned error => .error error

/-- The result of a single request that is not repeated. -/
def ofOutcome : Except TransportError Response → Checked Submission
  | .ok response => .ok (.completed response)
  | .error error => .error (.transport error)

/-- What is printed when a request is repeated: there is nothing to print for an answer that does
not ask for patience, since such a request is not repeated. -/
def retryNotice? (listens delay left : Nat) : Except TransportError Response → Option String
  | .ok response =>
      if response.status.isRateLimited then
        some <| Notice.warning <|
          "Rate limited while submitting " ++ decimal listens ++ " listens. Retrying in " ++
            decimal delay ++ "ms (" ++ decimal left ++ " left)."
      else none
  | .error error =>
      some <| Notice.warning <|
        "Failed to submit " ++ decimal listens ++ " listens: " ++
          (ServiceError.transport error).message ++ ". Retrying in " ++ decimal delay ++ "ms (" ++
            decimal left ++ " left)."

/-- What is printed when a batch in halves starts again. -/
def resubmitNotice (listens : Nat) (error : ServiceError) (left : Nat) : String :=
  Notice.warning <|
    "Split submission of " ++ decimal listens ++ " listens failed: " ++ error.message ++
      ". Resubmitting (" ++ decimal left ++ " left)."

end Submission

namespace Client

variable (c : Client)

/-- A batch is sent in one request: its payload is not too long, or it cannot be cut. -/
def fits (type : ListenType) (batch : List Listen) : Bool :=
  Batch.payloadSize (Batch.prepare type batch) ≤ c.settings.maxListenSize || batch.length < 2

/-- The request that sends a batch. -/
def submissionDraft (token : String) (type : ListenType) (batch : List Listen) : Draft :=
  (c.post token "submit-listens").withBody (Batch.body type (Batch.prepare type batch))

/-- Only a batch of two or more is ever halved: a single listen is sent whatever its size. -/
theorem two_le_length_of_not_fits {c : Client} {type : ListenType} {batch : List Listen}
    (h : ¬c.fits type batch = true) : 2 ≤ batch.length := by
  simp [fits] at h
  omega

/-- Submits a batch, with a number of retries. -/
def submit (token : String) (type : ListenType) (retries : Nat) (batch : List Listen) :
    Session (Checked Submission) :=
  if hFits : c.fits type batch then
    .send (c.submissionDraft token type batch) fun outcome =>
      match _ : retries with
      | 0 => .done (Submission.ofOutcome outcome)
      | left + 1 =>
          match Submission.retryNotice? batch.length c.settings.retryDelay retries outcome with
          | none => .done (Submission.ofOutcome outcome)
          | some notice =>
              .print notice (.wait c.settings.retryDelay (submit token type left batch))
  else
    have := Batch.length_halves_fst_lt (two_le_length_of_not_fits hFits)
    have := Batch.length_halves_snd_lt (two_le_length_of_not_fits hFits)
    let halves : Session (Checked Submission) :=
      (submit token type retries (Batch.halves batch).1).bind fun
        | .error error => .done (.error error)
        | .ok _ => submit token type retries (Batch.halves batch).2
    halves.bind fun
      | .ok submission => .done (.ok submission)
      | .error error =>
          match _ : retries with
          | 0 => .done (.ok (.abandoned error))
          | left + 1 =>
              .print (Submission.resubmitNotice batch.length error retries)
                (submit token type left batch)
termination_by (retries, batch.length)
decreasing_by
  all_goals simp_wf
  all_goals subst_vars
  all_goals first
    | exact Prod.Lex.left _ _ (by omega)
    | exact Prod.Lex.right _ (by assumption)

/-- Submits a batch with the retries of the settings. -/
def submitListens (token : String) (type : ListenType) (batch : List Listen) :
    Session (Checked Submission) :=
  c.submit token type c.settings.defaultRetries batch

end Client

end Scrobbler
