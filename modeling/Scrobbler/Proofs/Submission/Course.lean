import Mathlib.Tactic.Common
import Scrobbler.Proofs.Http.Delivery
import Scrobbler.Submission.Basic

/-!
Courses of submissions. The requests of a submission are kept with the places of their parts in the
batch, so that two listens that look alike are still told apart. The course of a submission is the
tree of all that it did; everything that holds of its runs is proved by induction on it.
-/

namespace Scrobbler

/-- One request of a submission: the part of the batch that it carried, the place of the first listen
of that part, and what became of the request. -/
structure Shipment where
  start : Nat
  part : List Listen
  delivery : Delivery

namespace Shipment

/-- The place after the last listen. -/
def stop (s : Shipment) : Nat := s.start + s.part.length

/-- The listen at a place was in the payload. -/
def Carries (s : Shipment) (place : Nat) : Prop := s.start ≤ place ∧ place < s.stop

instance (s : Shipment) (place : Nat) : Decidable (s.Carries place) :=
  inferInstanceAs (Decidable (_ ∧ _))

/-- The answer was a success. -/
def isAccepted (s : Shipment) : Bool :=
  s.delivery.outcome.toOption.any fun response => response.status.isSuccess

/-- No answer came. -/
def isLost (s : Shipment) : Bool := !s.delivery.outcome.isOk

theorem isLost_iff {s : Shipment} :
    s.isLost = true ↔ ∃ error, s.delivery.outcome = .error error := by
  unfold isLost
  cases s.delivery.outcome <;> simp [Except.isOk, Except.toBool]

/-- A request is accepted exactly if it was answered with a success. -/
theorem isAccepted_iff {s : Shipment} :
    s.isAccepted = true ↔
      ∃ response, s.delivery.outcome = .ok response ∧ response.status.isSuccess = true := by
  unfold isAccepted
  cases s.delivery.outcome <;> simp [Except.toOption]

/-- An accepted request was answered. -/
theorem isAccepted_eq_false_of_isLost {s : Shipment} (h : s.isLost = true) :
    s.isAccepted = false := by
  obtain ⟨error, hOutcome⟩ := isLost_iff.mp h
  simp [isAccepted, hOutcome, Except.toOption]

end Shipment

namespace Client

variable (c : Client) (token : String) (type : ListenType) (server : Server)

/-- What becomes of the request with which a batch is submitted; it does not depend on the batch. -/
def delivery (taken : Nat) : Delivery := server.deliver taken (c.post token "submit-listens")

/-- What becomes of a submission does not depend on the listens in it. -/
theorem deliver_submissionDraft (taken : Nat) (part : List Listen) :
    server.deliver taken (c.submissionDraft token type part) = c.delivery token server taken :=
  server.deliver_withBody taken _ _

/-- Submits both halves of a batch, one after the other, unless the first one fails. -/
def submitHalves (retries : Nat) (batch : List Listen) : Session (Checked Submission) :=
  (c.submit token type retries (Batch.halves batch).1).bind fun
    | .error error => .done (.error error)
    | .ok _ => c.submit token type retries (Batch.halves batch).2

/-- What is printed when a request of a batch is repeated. -/
def retryNotice? (retries : Nat) (batch : List Listen) (taken : Nat) : Option String :=
  Submission.retryNotice? batch.length c.settings.retryDelay retries
    (c.delivery token server taken).outcome

variable {c token type server} {retries left taken : Nat} {batch : List Listen}

/-- A batch that fits is sent once, if the budget is spent or the outcome does not ask for more. -/
theorem run_submit_settled (hFits : c.fits type batch = true)
    (hLast : retries = 0 ∨ c.retryNotice? token server retries batch taken = none) :
    (c.submit token type retries batch).run server taken =
      ⟨Submission.ofOutcome (c.delivery token server taken).outcome,
        (c.delivery token server taken).takenAfter taken,
        [.attempt (c.submissionDraft token type batch) (c.delivery token server taken)]⟩ := by
  rw [submit, dif_pos hFits]
  simp only [Session.run, deliver_submissionDraft]
  cases retries with
  | zero => rfl
  | succ left =>
      have hNone := hLast.resolve_left (Nat.succ_ne_zero left)
      unfold retryNotice? at hNone
      simp [hNone, Session.run, Delivery.takenAfter]

/-- A batch that fits is announced, waited for and sent again with a smaller budget where the outcome
asks for it. -/
theorem run_submit_repeated (hFits : c.fits type batch = true) {notice : String}
    (hNotice : c.retryNotice? token server (left + 1) batch taken = some notice) :
    (c.submit token type (left + 1) batch).run server taken =
      let rest := (c.submit token type left batch).run server
        ((c.delivery token server taken).takenAfter taken)
      { rest with
        trace :=
          .attempt (c.submissionDraft token type batch) (c.delivery token server taken) ::
            .line notice :: .wait c.settings.retryDelay :: rest.trace } := by
  unfold retryNotice? at hNotice
  rw [submit, dif_pos hFits]
  simp [Session.run, deliver_submissionDraft, hNotice, Delivery.takenAfter]

/-- After an error of the first half the second is not sent. -/
theorem run_submitHalves_stopped {error : ServiceError}
    (hFailed : ((c.submit token type retries (Batch.halves batch).1).run server taken).value =
      .error error) :
    (c.submitHalves token type retries batch).run server taken =
      (c.submit token type retries (Batch.halves batch).1).run server taken := by
  rw [submitHalves, Session.run_bind]
  simp only [hFailed, Session.run, List.append_nil]
  rw [← hFailed]

/-- After the first half, whatever its status, the second is sent with the same budget. -/
theorem run_submitHalves_continued {submission : Submission}
    (hOk : ((c.submit token type retries (Batch.halves batch).1).run server taken).value =
      .ok submission) :
    (c.submitHalves token type retries batch).run server taken =
      let first := (c.submit token type retries (Batch.halves batch).1).run server taken
      let second := (c.submit token type retries (Batch.halves batch).2).run server first.taken
      { second with trace := first.trace ++ second.trace } := by
  rw [submitHalves, Session.run_bind]
  simp only [hOk]

/-- A batch that does not fit is sent in halves; an error of theirs is answered with the rest of the
budget. -/
theorem submit_of_not_fits (hCut : ¬c.fits type batch = true) :
    c.submit token type retries batch =
      (c.submitHalves token type retries batch).bind fun
        | .ok submission => .done (.ok submission)
        | .error error =>
            match retries with
            | 0 => .done (.ok (.abandoned error))
            | left + 1 =>
                .print (Submission.resubmitNotice batch.length error (left + 1))
                  (c.submit token type left batch) := by
  rw [submit, dif_neg hCut]
  cases retries <;> rfl

/-- Halves that raise no error decide for their batch. -/
theorem run_submit_merged (hCut : ¬c.fits type batch = true) {submission : Submission}
    (hOk : ((c.submitHalves token type retries batch).run server taken).value = .ok submission) :
    (c.submit token type retries batch).run server taken =
      (c.submitHalves token type retries batch).run server taken := by
  rw [submit_of_not_fits hCut, Session.run_bind]
  simp only [hOk, Session.run, List.append_nil]
  rw [← hOk]

/-- An error of the halves is the end of a batch without a budget, which is abandoned. -/
theorem run_submit_abandoned (hCut : ¬c.fits type batch = true) {error : ServiceError}
    (hFailed : ((c.submitHalves token type 0 batch).run server taken).value = .error error) :
    (c.submit token type 0 batch).run server taken =
      { (c.submitHalves token type 0 batch).run server taken with
        value := .ok (.abandoned error) } := by
  rw [submit_of_not_fits hCut, Session.run_bind]
  simp only [hFailed, Session.run, List.append_nil]

/-- An error of the halves starts the whole batch again with a smaller budget. -/
theorem run_submit_restarted (hCut : ¬c.fits type batch = true) {error : ServiceError}
    (hFailed : ((c.submitHalves token type (left + 1) batch).run server taken).value =
      .error error) :
    (c.submit token type (left + 1) batch).run server taken =
      let pass := (c.submitHalves token type (left + 1) batch).run server taken
      let rest := (c.submit token type left batch).run server pass.taken
      { rest with
        trace :=
          pass.trace ++
            .line (Submission.resubmitNotice batch.length error (left + 1)) :: rest.trace } := by
  rw [submit_of_not_fits hCut, Session.run_bind]
  simp only [hFailed, Session.run]

variable (c token type server) in
/-- The requests of a submission against a server that has taken `taken` requests, in order, for a
batch whose first listen is at the place `start`. -/
def shipments (retries taken start : Nat) (batch : List Listen) : List Shipment :=
  if hFits : c.fits type batch then
    ⟨start, batch, c.delivery token server taken⟩ ::
      match _ : retries with
      | 0 => []
      | left + 1 =>
          if (c.retryNotice? token server retries batch taken).isSome then
            shipments left ((c.delivery token server taken).takenAfter taken) start batch
          else []
  else
    have := Batch.length_halves_fst_lt (two_le_length_of_not_fits hFits)
    have := Batch.length_halves_snd_lt (two_le_length_of_not_fits hFits)
    let first := (Batch.halves batch).1
    let second := (Batch.halves batch).2
    let afterFirst := (c.submit token type retries first).run server taken
    let pass := (c.submitHalves token type retries batch).run server taken
    shipments retries taken start first ++
      (if afterFirst.value.isOk then
        shipments retries afterFirst.taken (start + first.length) second
      else []) ++
      match _ : retries with
      | 0 => []
      | left + 1 => if pass.value.isOk then [] else shipments left pass.taken start batch
termination_by (retries, batch.length)
decreasing_by
  all_goals simp_wf
  all_goals subst_vars
  all_goals first
    | exact Prod.Lex.left _ _ (by omega)
    | exact Prod.Lex.right _ (by assumption)

end Client

/-- What a course is about: a whole batch, or one pass over its two halves. -/
inductive Stage
  | whole
  | halves

/-- The course of a submission: how its requests and its outcome come about. -/
inductive Course (c : Client) (token : String) (type : ListenType) (server : Server) :
    Stage → Nat → Nat → Nat → List Listen → List Shipment → Outcome (Checked Submission) → Prop
  /-- The request is not repeated: no retries are left, or its answer is to be kept. -/
  | settled {retries taken start : Nat} {batch : List Listen}
      (hFits : c.fits type batch = true)
      (hLast : retries = 0 ∨ c.retryNotice? token server retries batch taken = none) :
      Course c token type server .whole retries taken start batch
        [⟨start, batch, c.delivery token server taken⟩]
        ⟨Submission.ofOutcome (c.delivery token server taken).outcome,
          (c.delivery token server taken).takenAfter taken,
          [.attempt (c.submissionDraft token type batch) (c.delivery token server taken)]⟩
  /-- The request is repeated after a pause. -/
  | repeated {left taken start : Nat} {batch : List Listen} {notice : String}
      {shipments : List Shipment} {outcome : Outcome (Checked Submission)}
      (hFits : c.fits type batch = true)
      (hNotice : c.retryNotice? token server (left + 1) batch taken = some notice)
      (rest : Course c token type server .whole left
        ((c.delivery token server taken).takenAfter taken) start batch shipments outcome) :
      Course c token type server .whole (left + 1) taken start batch
        (⟨start, batch, c.delivery token server taken⟩ :: shipments)
        { outcome with
          trace :=
            .attempt (c.submissionDraft token type batch) (c.delivery token server taken) ::
              .line notice :: .wait c.settings.retryDelay :: outcome.trace }
  /-- The first half fails, and the second one is not submitted. -/
  | stopped {retries taken start : Nat} {batch : List Listen} {shipments : List Shipment}
      {outcome : Outcome (Checked Submission)} {error : ServiceError}
      (first : Course c token type server .whole retries taken start (Batch.halves batch).1
        shipments outcome)
      (hFailed : outcome.value = .error error) :
      Course c token type server .halves retries taken start batch shipments outcome
  /-- The second half is submitted after the first one. -/
  | continued {retries taken start : Nat} {batch : List Listen} {shipments more : List Shipment}
      {outcome last : Outcome (Checked Submission)} {submission : Submission}
      (first : Course c token type server .whole retries taken start (Batch.halves batch).1
        shipments outcome)
      (hOk : outcome.value = .ok submission)
      (second : Course c token type server .whole retries outcome.taken
        (start + (Batch.halves batch).1.length) (Batch.halves batch).2 more last) :
      Course c token type server .halves retries taken start batch (shipments ++ more)
        { last with trace := outcome.trace ++ last.trace }
  /-- No half failed. -/
  | merged {retries taken start : Nat} {batch : List Listen} {shipments : List Shipment}
      {outcome : Outcome (Checked Submission)} {submission : Submission}
      (hCut : ¬c.fits type batch = true)
      (pass : Course c token type server .halves retries taken start batch shipments outcome)
      (hOk : outcome.value = .ok submission) :
      Course c token type server .whole retries taken start batch shipments outcome
  /-- A half failed, and no retries are left. -/
  | abandoned {taken start : Nat} {batch : List Listen} {shipments : List Shipment}
      {outcome : Outcome (Checked Submission)} {error : ServiceError}
      (hCut : ¬c.fits type batch = true)
      (pass : Course c token type server .halves 0 taken start batch shipments outcome)
      (hFailed : outcome.value = .error error) :
      Course c token type server .whole 0 taken start batch shipments
        { outcome with value := .ok (.abandoned error) }
  /-- A half failed, and the batch starts again. -/
  | restarted {left taken start : Nat} {batch : List Listen} {shipments more : List Shipment}
      {outcome last : Outcome (Checked Submission)} {error : ServiceError}
      (hCut : ¬c.fits type batch = true)
      (pass : Course c token type server .halves (left + 1) taken start batch shipments outcome)
      (hFailed : outcome.value = .error error)
      (rest : Course c token type server .whole left outcome.taken start batch more last) :
      Course c token type server .whole (left + 1) taken start batch (shipments ++ more)
        { last with
          trace :=
            outcome.trace ++
              .line (Submission.resubmitNotice batch.length error (left + 1)) :: last.trace }

namespace Client

variable (c : Client) (token : String) (type : ListenType) (server : Server)

/-- The requests of one pass over the two halves of a batch. -/
def halvesShipments (retries taken start : Nat) (batch : List Listen) : List Shipment :=
  let first := (Batch.halves batch).1
  let afterFirst := (c.submit token type retries first).run server taken
  c.shipments token type server retries taken start first ++
    if afterFirst.value.isOk then
      c.shipments token type server retries afterFirst.taken (start + first.length)
        (Batch.halves batch).2
    else []

variable {c token type server} {retries left taken start : Nat} {batch : List Listen}

/-- The requests of a batch that does not fit are those of its halves, and those of a new start. -/
theorem shipments_of_not_fits (hCut : ¬c.fits type batch = true) :
    c.shipments token type server retries taken start batch =
      c.halvesShipments token type server retries taken start batch ++
        match retries with
        | 0 => []
        | left + 1 =>
            let pass := (c.submitHalves token type (left + 1) batch).run server taken
            if pass.value.isOk then []
            else c.shipments token type server left pass.taken start batch := by
  rw [shipments.eq_def, dif_neg hCut]
  cases retries <;> rfl

/-- A pass over two halves has a course if each half has one. -/
theorem course_halves
    (first : ∀ taken start, Course c token type server .whole retries taken start
      (Batch.halves batch).1 (c.shipments token type server retries taken start (Batch.halves batch).1)
      ((c.submit token type retries (Batch.halves batch).1).run server taken))
    (second : ∀ taken start, Course c token type server .whole retries taken start
      (Batch.halves batch).2 (c.shipments token type server retries taken start (Batch.halves batch).2)
      ((c.submit token type retries (Batch.halves batch).2).run server taken))
    (taken start : Nat) :
    Course c token type server .halves retries taken start batch
      (c.halvesShipments token type server retries taken start batch)
      ((c.submitHalves token type retries batch).run server taken) := by
  cases hValue : ((c.submit token type retries (Batch.halves batch).1).run server taken).value with
  | error error =>
      rw [run_submitHalves_stopped hValue]
      simpa [halvesShipments, hValue, Except.isOk, Except.toBool] using
        Course.stopped (first taken start) hValue
  | ok submission =>
      rw [run_submitHalves_continued hValue]
      simpa [halvesShipments, hValue, Except.isOk, Except.toBool] using
        Course.continued (first taken start) hValue (second _ _)

variable (c token type server) in
/-- Every run of a submission has a course, with the requests that `shipments` lists. -/
theorem course (retries taken start : Nat) (batch : List Listen) :
    Course c token type server .whole retries taken start batch
      (c.shipments token type server retries taken start batch)
      ((c.submit token type retries batch).run server taken) := by
  by_cases hFits : c.fits type batch = true
  · rw [shipments.eq_def, dif_pos hFits]
    cases retries with
    | zero =>
        rw [run_submit_settled hFits (.inl rfl)]
        exact .settled hFits (.inl rfl)
    | succ left =>
        cases hNotice : c.retryNotice? token server (left + 1) batch taken with
        | none =>
            rw [run_submit_settled hFits (.inr hNotice)]
            simpa [hNotice] using .settled hFits (.inr hNotice)
        | some notice =>
            rw [run_submit_repeated hFits hNotice]
            simpa [hNotice] using .repeated hFits hNotice (course left _ start batch)
  · have hFirst := Batch.length_halves_fst_lt (two_le_length_of_not_fits hFits)
    have hSecond := Batch.length_halves_snd_lt (two_le_length_of_not_fits hFits)
    have pass := course_halves (fun taken start => course retries taken start (Batch.halves batch).1)
      (fun taken start => course retries taken start (Batch.halves batch).2) taken start
    rw [shipments_of_not_fits hFits]
    cases hValue : ((c.submitHalves token type retries batch).run server taken).value with
    | ok submission =>
        rw [run_submit_merged hFits hValue]
        cases retries with
        | zero => simpa using .merged hFits pass hValue
        | succ left => simpa [hValue, Except.isOk, Except.toBool] using .merged hFits pass hValue
    | error error =>
        cases retries with
        | zero =>
            rw [run_submit_abandoned hFits hValue]
            simpa using .abandoned hFits pass hValue
        | succ left =>
            rw [run_submit_restarted hFits hValue]
            simpa [hValue, Except.isOk, Except.toBool] using
              .restarted hFits pass hValue (course left _ start batch)
termination_by (retries, batch.length)
decreasing_by
  all_goals subst_vars
  all_goals first
    | exact Prod.Lex.left _ _ (by omega)
    | exact Prod.Lex.right _ (by assumption)

end Client

end Scrobbler
