import Scrobbler.Proofs.Submission.Acceptance
import Scrobbler.Proofs.Submission.Coverage
import Scrobbler.Proofs.Submission.FlatLoop

/-!
The last attempt of a submission decides its outcome. An answer is returned as it is, and it is the
answer to the last part of the batch. A failure is raised by a batch that is sent in one request, and
handed back by a batch in halves; no earlier answer and no earlier failure comes to light.
-/

namespace Scrobbler

namespace Batch

/-- Batches with the same last listen still have one when they are prepared. -/
theorem getLast?_prepare (type : ListenType) {part batch : List Listen}
    (h : part.getLast? = batch.getLast?) :
    (prepare type part).getLast? = (prepare type batch).getLast? := by
  cases type with
  | single => exact h
  | bulk => exact h
  | playingNow => rw [prepare, prepare, List.getLast?_map, List.getLast?_map, h]

end Batch

namespace Course

variable {c : Client} {token : String} {type : ListenType} {server : Server} {stage : Stage}
  {retries taken start : Nat} {batch : List Listen} {shipments : List Shipment}
  {outcome : Outcome (Checked Submission)}

theorem shipments_ne_nil
    (course : Course c token type server stage retries taken start batch shipments outcome) :
    shipments ≠ [] := by
  obtain ⟨earlier, last, rfl, -⟩ := course.exists_last
  simp

/-- A failure that is raised is that of the last request, which was not answered. -/
theorem ne_answer_of_error
    (course : Course c token type server stage retries taken start batch shipments outcome)
    {error : ServiceError} (hFailed : outcome.value = .error error) {last : Shipment}
    (hLast : shipments.getLast? = some last) (response : Response) :
    last.delivery.outcome ≠ .ok response := by
  obtain ⟨earlier, lost, rfl, hLost⟩ := course.exists_last_of_error hFailed
  obtain rfl : lost = last := by simpa using hLast
  obtain ⟨failure, hFailure⟩ := Shipment.isLost_iff.mp hLost
  simp [hFailure]

/-- If the last request of a submission is answered, it carried the last part. -/
theorem getLast?_parts_of_answer
    (course : Course c token type server stage retries taken start batch shipments outcome)
    {last : Shipment} (hLast : shipments.getLast? = some last) {response : Response}
    (hAnswer : last.delivery.outcome = .ok response) :
    (partsOf c type batch stage).getLast? = some last.part := by
  induction course with
  | settled hFits hKept =>
      obtain rfl : _ = last := by simpa using hLast
      simp [partsOf, Client.parts_of_fits hFits]
  | repeated hFits hNotice rest ih =>
      rw [List.getLast?_cons_of_ne_nil rest.shipments_ne_nil] at hLast
      exact ih hLast
  | stopped first hFailed ih => exact absurd hAnswer (first.ne_answer_of_error hFailed hLast response)
  | continued first hOk second ihFirst ihSecond =>
      rw [List.getLast?_append_of_ne_nil _ second.shipments_ne_nil] at hLast
      rw [partsOf, List.getLast?_append_of_ne_nil _ (Client.parts_ne_nil c type _)]
      exact ihSecond hLast
  | merged hCut pass hOk ih =>
      rw [partsOf, Client.parts_of_not_fits hCut]
      exact ih hLast
  | abandoned hCut pass hFailed ih =>
      exact absurd hAnswer (pass.ne_answer_of_error hFailed hLast response)
  | restarted hCut pass hFailed rest ihPass ihRest =>
      rw [List.getLast?_append_of_ne_nil _ rest.shipments_ne_nil] at hLast
      exact ihRest hLast

/-- A failure of the last request is raised if the batch is sent in one request, and handed back
otherwise. -/
theorem value_of_lost
    (course : Course c token type server .whole retries taken start batch shipments outcome)
    {last : Shipment} (hDecides : Decides last outcome.value) {error : TransportError}
    (hLost : last.delivery.outcome = .error error) :
    outcome.value =
      if c.fits type batch then .error (.transport error) else .ok (.abandoned (.transport error)) := by
  simp only [Decides, hLost] at hDecides
  rcases hDecides with hRaised | hAbandoned
  · rw [hRaised, if_pos (course.fits_of_error rfl hRaised)]
  · have hCut : ¬c.fits type batch = true := fun hFits =>
      course.ne_abandoned_of_fits rfl hFits _ hAbandoned
    rw [hAbandoned, if_neg hCut]

end Course

namespace Client

/-- The last attempt decides what a submission ends with. If it was answered, that answer is returned,
and the attempt carried the last part of the batch, with the last listen at its end. If it failed, the
failure is raised when the batch is sent in one request, and handed back when it is not. So a batch in
halves never raises, and a batch that is sent in one request is never abandoned. -/
theorem value_run_submit (c : Client) (token : String) (type : ListenType) (server : Server)
    (retries taken : Nat) (batch : List Listen) :
    let outcome := (c.submit token type retries batch).run server taken
    (∃ earlier part delivery,
      outcome.sent = earlier ++ [(c.submissionDraft token type part, delivery)] ∧
        match delivery.outcome with
        | .ok response =>
            outcome.value = .ok (.completed response) ∧
              (c.parts type batch).getLast? = some part ∧
              (Batch.prepare type part).getLast? = (Batch.prepare type batch).getLast?
        | .error error =>
            outcome.value =
              if c.fits type batch then .error (.transport error)
              else .ok (.abandoned (.transport error))) ∧
      (c.fits type batch = false → ∃ submission, outcome.value = .ok submission) ∧
      (c.fits type batch = true → ∀ error, outcome.value ≠ .ok (.abandoned error)) := by
  intro outcome
  have course := c.course token type server retries taken 0 batch
  refine ⟨?_, ?_, fun hFits error => course.ne_abandoned_of_fits rfl hFits error⟩
  · obtain ⟨earlier, last, hEq, hDecides⟩ := course.exists_last
    refine ⟨earlier.map fun s => (c.submissionDraft token type s.part, s.delivery), last.part,
      last.delivery, ?_, ?_⟩
    · rw [course.sent_eq, hEq, List.map_append]
      rfl
    · cases hOutcome : last.delivery.outcome with
      | ok response =>
          have hValue : outcome.value = .ok (.completed response) := by
            simpa only [Course.Decides, hOutcome] using hDecides
          have hLast : (c.parts type batch).getLast? = some last.part :=
            course.getLast?_parts_of_answer (by rw [hEq, List.getLast?_concat]) hOutcome
          exact ⟨hValue, hLast, Batch.getLast?_prepare type (getLast?_of_last_part hLast)⟩
      | error error => exact course.value_of_lost hDecides hOutcome
  · intro hCut
    cases hValue : outcome.value with
    | ok submission => exact ⟨submission, rfl⟩
    | error error =>
        have hFits := course.fits_of_error rfl hValue
        rw [hCut] at hFits
        exact absurd hFits Bool.false_ne_true

end Client

end Scrobbler
