import Scrobbler.Proofs.Listen.Payload
import Scrobbler.Proofs.Submission.Course

/-!
What holds of the requests of every submission: they are the attempts of its run, each carries a
part of the batch from the place where that part stands, and the last one decides the outcome.
-/

namespace Scrobbler

variable {c : Client} {token : String} {type : ListenType} {server : Server} {stage : Stage}
  {retries taken start : Nat} {batch : List Listen} {shipments : List Shipment}
  {outcome : Outcome (Checked Submission)}

namespace Course

/-- What a run sends are the requests of its course, in order. -/
theorem sent_eq
    (course : Course c token type server stage retries taken start batch shipments outcome) :
    outcome.sent =
      shipments.map fun s => (c.submissionDraft token type s.part, s.delivery) := by
  induction course with
  | settled hFits hLast => rfl
  | repeated hFits hNotice rest ih =>
      unfold Outcome.sent at ih
      simp [Outcome.sent, List.filterMap_cons, Event.sent?, ih]
  | stopped first hFailed ih => exact ih
  | continued first hOk second ihFirst ihSecond =>
      unfold Outcome.sent at ihFirst ihSecond
      simp [Outcome.sent, ihFirst, ihSecond]
  | merged hCut pass hOk ih => exact ih
  | abandoned hCut pass hFailed ih => exact ih
  | restarted hCut pass hFailed rest ihPass ihRest =>
      unfold Outcome.sent at ihPass ihRest
      simp [Outcome.sent, List.filterMap_cons, Event.sent?, ihPass, ihRest]

/-- The attempts of a run are the requests of its course, in order. -/
theorem attempts_eq
    (course : Course c token type server stage retries taken start batch shipments outcome) :
    outcome.attempts = shipments.map fun s => c.submissionDraft token type s.part := by
  rw [outcome.attempts_eq_map_sent, course.sent_eq, List.map_map]
  rfl

theorem deliveries_eq
    (course : Course c token type server stage retries taken start batch shipments outcome) :
    outcome.deliveries = shipments.map Shipment.delivery := by
  rw [Outcome.deliveries, course.sent_eq, List.map_map]
  rfl

/-- What becomes of a request is what becomes of one that the server takes at some time. -/
theorem exists_delivery_of_mem
    (course : Course c token type server stage retries taken start batch shipments outcome)
    {s : Shipment} (hMem : s ∈ shipments) :
    ∃ earlier, s.delivery = c.delivery token server earlier := by
  induction course with
  | @settled retries taken start batch hFits hLast =>
      obtain rfl := List.mem_singleton.mp hMem
      exact ⟨taken, rfl⟩
  | @repeated left taken start batch notice shipments outcome hFits hNotice rest ih =>
      rcases List.mem_cons.mp hMem with rfl | hMem
      · exact ⟨taken, rfl⟩
      · exact ih hMem
  | stopped first hFailed ih => exact ih hMem
  | continued first hOk second ihFirst ihSecond =>
      exact (List.mem_append.mp hMem).elim ihFirst ihSecond
  | merged hCut pass hOk ih => exact ih hMem
  | abandoned hCut pass hFailed ih => exact ih hMem
  | restarted hCut pass hFailed rest ihPass ihRest =>
      exact (List.mem_append.mp hMem).elim ihPass ihRest

/-- Each request carries a part of the batch, from the place where that part stands. -/
theorem exists_append_of_mem
    (course : Course c token type server stage retries taken start batch shipments outcome)
    {s : Shipment} (hMem : s ∈ shipments) :
    ∃ before after, batch = before ++ s.part ++ after ∧ s.start = start + before.length := by
  induction course with
  | settled hFits hLast =>
      obtain rfl := List.mem_singleton.mp hMem
      exact ⟨[], [], by simp, rfl⟩
  | repeated hFits hNotice rest ih =>
      rcases List.mem_cons.mp hMem with rfl | hMem
      · exact ⟨[], [], by simp, rfl⟩
      · exact ih hMem
  | @stopped retries taken start batch shipments outcome error first hFailed ih =>
      obtain ⟨before, after, hPart, hStart⟩ := ih hMem
      refine ⟨before, after ++ (Batch.halves batch).2, ?_, hStart⟩
      rw [← List.append_assoc, ← hPart, Batch.halves_fst_append_snd]
  | @continued retries taken start batch shipments more outcome last submission first hOk second
      ihFirst ihSecond =>
      rcases List.mem_append.mp hMem with hMem | hMem
      · obtain ⟨before, after, hPart, hStart⟩ := ihFirst hMem
        refine ⟨before, after ++ (Batch.halves batch).2, ?_, hStart⟩
        rw [← List.append_assoc, ← hPart, Batch.halves_fst_append_snd]
      · obtain ⟨before, after, hPart, hStart⟩ := ihSecond hMem
        refine ⟨(Batch.halves batch).1 ++ before, after, ?_, ?_⟩
        · rw [List.append_assoc, List.append_assoc, ← List.append_assoc before, ← hPart,
            Batch.halves_fst_append_snd]
        · rw [hStart, List.length_append, Nat.add_assoc]
  | merged hCut pass hOk ih => exact ih hMem
  | abandoned hCut pass hFailed ih => exact ih hMem
  | restarted hCut pass hFailed rest ihPass ihRest =>
      rcases List.mem_append.mp hMem with hMem | hMem
      · exact ihPass hMem
      · exact ihRest hMem

/-- A request carries the listens of the batch from its place on. -/
theorem part_eq
    (course : Course c token type server stage retries taken 0 batch shipments outcome)
    {s : Shipment} (hMem : s ∈ shipments) :
    s.part = (batch.drop s.start).take s.part.length := by
  obtain ⟨before, after, hPart, hStart⟩ := course.exists_append_of_mem hMem
  rw [hStart, Nat.zero_add]
  simp [hPart]

/-- A request stays within the places of its batch. -/
theorem bounds_of_mem
    (course : Course c token type server stage retries taken start batch shipments outcome)
    {s : Shipment} (hMem : s ∈ shipments) : start ≤ s.start ∧ s.stop ≤ start + batch.length := by
  obtain ⟨before, after, hPart, hStart⟩ := course.exists_append_of_mem hMem
  have hLength := congrArg List.length hPart
  simp only [List.length_append] at hLength
  unfold Shipment.stop
  omega

/-- The last request decides what a submission ends with: an answer is returned, and a failure is
raised or, once halves are involved, handed back. -/
def Decides (last : Shipment) (value : Checked Submission) : Prop :=
  match last.delivery.outcome with
  | .ok response => value = .ok (.completed response)
  | .error error =>
      value = .error (.transport error) ∨ value = .ok (.abandoned (.transport error))

/-- There is a last request, and it decides the outcome. -/
theorem exists_last
    (course : Course c token type server stage retries taken start batch shipments outcome) :
    ∃ earlier last, shipments = earlier ++ [last] ∧ Decides last outcome.value := by
  induction course with
  | @settled retries taken start batch hFits hLast =>
      refine ⟨[], ⟨start, batch, c.delivery token server taken⟩, rfl, ?_⟩
      unfold Decides
      cases (c.delivery token server taken).outcome with
      | ok response => rfl
      | error error => exact .inl rfl
  | repeated hFits hNotice rest ih =>
      obtain ⟨earlier, last, rfl, hDecides⟩ := ih
      exact ⟨_ :: earlier, last, rfl, hDecides⟩
  | stopped first hFailed ih => exact ih
  | continued first hOk second ihFirst ihSecond =>
      obtain ⟨earlier, last, rfl, hDecides⟩ := ihSecond
      exact ⟨_ ++ earlier, last, (List.append_assoc ..).symm, hDecides⟩
  | merged hCut pass hOk ih => exact ih
  | @abandoned taken start batch shipments outcome error hCut pass hFailed ih =>
      obtain ⟨earlier, last, rfl, hDecides⟩ := ih
      refine ⟨earlier, last, rfl, ?_⟩
      unfold Decides at hDecides ⊢
      rw [hFailed] at hDecides
      split at hDecides <;> simp_all
  | restarted hCut pass hFailed rest ihPass ihRest =>
      obtain ⟨earlier, last, rfl, hDecides⟩ := ihRest
      exact ⟨_ ++ earlier, last, (List.append_assoc ..).symm, hDecides⟩

/-- The answer that is returned is that of the last request. -/
theorem exists_last_of_completed
    (course : Course c token type server stage retries taken start batch shipments outcome)
    {response : Response} (hCompleted : outcome.value = .ok (.completed response)) :
    ∃ earlier last, shipments = earlier ++ [last] ∧ last.delivery.outcome = .ok response := by
  obtain ⟨earlier, last, hEq, hDecides⟩ := course.exists_last
  refine ⟨earlier, last, hEq, ?_⟩
  unfold Decides at hDecides
  rw [hCompleted] at hDecides
  split at hDecides <;> simp_all

/-- A submission that raises an error lost its last request. -/
theorem exists_last_of_error
    (course : Course c token type server stage retries taken start batch shipments outcome)
    {error : ServiceError} (hFailed : outcome.value = .error error) :
    ∃ earlier last, shipments = earlier ++ [last] ∧ last.isLost = true := by
  obtain ⟨earlier, last, hEq, hDecides⟩ := course.exists_last
  refine ⟨earlier, last, hEq, ?_⟩
  rw [Shipment.isLost_iff]
  unfold Decides at hDecides
  rw [hFailed] at hDecides
  split at hDecides <;> simp_all

/-- A batch that is sent once has the course of one request, whatever its delivery is called. -/
theorem settled_of_delivery {delivery : Delivery} (hFits : c.fits type batch = true)
    (hLast : retries = 0 ∨ c.retryNotice? token server retries batch taken = none)
    (hDelivery : c.delivery token server taken = delivery) :
    Course c token type server .whole retries taken start batch [⟨start, batch, delivery⟩]
      ⟨Submission.ofOutcome delivery.outcome, delivery.takenAfter taken,
        [.attempt (c.submissionDraft token type batch) delivery]⟩ := by
  subst hDelivery
  exact .settled hFits hLast

/-- A batch that is repeated has the course of the repetition behind its first request. -/
theorem repeated_of_delivery {left : Nat} {delivery : Delivery} {notice : String}
    (hFits : c.fits type batch = true) (hDelivery : c.delivery token server taken = delivery)
    (hNotice : Submission.retryNotice? batch.length c.settings.retryDelay (left + 1)
      delivery.outcome = some notice)
    (rest : Course c token type server .whole left (delivery.takenAfter taken) start batch shipments
      outcome) :
    Course c token type server .whole (left + 1) taken start batch
      (⟨start, batch, delivery⟩ :: shipments)
      { outcome with
        trace :=
          .attempt (c.submissionDraft token type batch) delivery ::
            .line notice :: .wait c.settings.retryDelay :: outcome.trace } := by
  subst hDelivery
  exact .repeated hFits hNotice rest

/-- An error of the first half ends the course of both. -/
theorem stopped_of_halves {first second : List Listen} {error : ServiceError}
    (hHalves : Batch.halves batch = (first, second))
    (course : Course c token type server .whole retries taken start first shipments outcome)
    (hFailed : outcome.value = .error error) :
    Course c token type server .halves retries taken start batch shipments outcome := by
  refine .stopped ?_ hFailed
  rw [hHalves]
  exact course

/-- The course of two halves is that of the first, and then that of the second. -/
theorem continued_of_halves {first second : List Listen} {more : List Shipment}
    {last : Outcome (Checked Submission)} {submission : Submission}
    (hHalves : Batch.halves batch = (first, second))
    (course : Course c token type server .whole retries taken start first shipments outcome)
    (hOk : outcome.value = .ok submission)
    (rest : Course c token type server .whole retries outcome.taken (start + first.length) second
      more last) :
    Course c token type server .halves retries taken start batch (shipments ++ more)
      { last with trace := outcome.trace ++ last.trace } := by
  refine .continued ?_ hOk ?_
  · rw [hHalves]
    exact course
  · rw [hHalves]
    exact rest

/-- A submission has one course. -/
theorem unique
    (course : Course c token type server stage retries taken start batch shipments outcome)
    {otherShipments : List Shipment} {otherOutcome : Outcome (Checked Submission)}
    (other : Course c token type server stage retries taken start batch otherShipments
      otherOutcome) :
    shipments = otherShipments ∧ outcome = otherOutcome := by
  induction course generalizing otherShipments otherOutcome with
  | settled hFits hLast =>
      cases other with
      | settled => exact ⟨rfl, rfl⟩
      | repeated _ hNotice => simp [hNotice] at hLast
      | merged hCut => exact absurd hFits hCut
      | abandoned hCut => exact absurd hFits hCut
      | restarted hCut => exact absurd hFits hCut
  | repeated hFits hNotice rest ih =>
      cases other with
      | settled _ hLast => simp [hNotice] at hLast
      | repeated _ hOther rest =>
          obtain ⟨rfl, rfl⟩ := ih rest
          obtain rfl := Option.some.inj (hNotice.symm.trans hOther)
          exact ⟨rfl, rfl⟩
      | merged hCut => exact absurd hFits hCut
      | restarted hCut => exact absurd hFits hCut
  | stopped first hFailed ih =>
      cases other with
      | stopped first => exact ih first
      | continued first hOk =>
          obtain ⟨rfl, rfl⟩ := ih first
          simp [hOk] at hFailed
  | continued first hOk second ihFirst ihSecond =>
      cases other with
      | stopped first hFailed =>
          obtain ⟨rfl, rfl⟩ := ihFirst first
          simp [hOk] at hFailed
      | continued first hOk second =>
          obtain ⟨rfl, rfl⟩ := ihFirst first
          obtain ⟨rfl, rfl⟩ := ihSecond second
          exact ⟨rfl, rfl⟩
  | merged hCut pass hOk ih =>
      cases other with
      | settled hFits => exact absurd hFits hCut
      | repeated hFits => exact absurd hFits hCut
      | merged _ pass => exact ih pass
      | abandoned _ pass hFailed =>
          obtain ⟨rfl, rfl⟩ := ih pass
          simp [hOk] at hFailed
      | restarted _ pass hFailed =>
          obtain ⟨rfl, rfl⟩ := ih pass
          simp [hOk] at hFailed
  | abandoned hCut pass hFailed ih =>
      cases other with
      | settled hFits => exact absurd hFits hCut
      | merged _ pass hOk =>
          obtain ⟨rfl, rfl⟩ := ih pass
          simp [hOk] at hFailed
      | abandoned _ pass hOther =>
          obtain ⟨rfl, rfl⟩ := ih pass
          obtain rfl := Except.error.inj (hFailed.symm.trans hOther)
          exact ⟨rfl, rfl⟩
  | restarted hCut pass hFailed rest ihPass ihRest =>
      cases other with
      | settled hFits => exact absurd hFits hCut
      | repeated hFits => exact absurd hFits hCut
      | merged _ pass hOk =>
          obtain ⟨rfl, rfl⟩ := ihPass pass
          simp [hOk] at hFailed
      | restarted _ pass hOther rest =>
          obtain ⟨rfl, rfl⟩ := ihPass pass
          obtain ⟨rfl, rfl⟩ := ihRest rest
          obtain rfl := Except.error.inj (hFailed.symm.trans hOther)
          exact ⟨rfl, rfl⟩

/-- A course tells what a submission sends and how it ends. -/
theorem shipments_eq
    (course : Course c token type server .whole retries taken start batch shipments outcome) :
    c.shipments token type server retries taken start batch = shipments :=
  ((c.course token type server retries taken start batch).unique course).1

/-- A course leads to the outcome of the run, and to no other. -/
theorem run_eq
    (course : Course c token type server .whole retries taken start batch shipments outcome) :
    (c.submit token type retries batch).run server taken = outcome :=
  ((c.course token type server retries taken start batch).unique course).2

end Course

namespace Client

/-- A client of a server on the same machine that sends every listen in a request of its own. -/
def loopback (retryDelay : Nat) : Client :=
  .ofSettings { Settings.standard with apiRoot := "http://[::1]", maxListenSize := 0, retryDelay }

theorem fits_loopback (retryDelay : Nat) (batch : List Listen) :
    (loopback retryDelay).fits type batch = decide (batch.length < 2) := by
  have hSize := Batch.payloadSize_pos (Batch.prepare type batch)
  have hLimit : (loopback retryDelay).settings.maxListenSize = 0 := rfl
  simp only [fits, hLimit]
  grind

/-- The client on the same machine can build the request that submits a batch. -/
theorem request_loopback (retryDelay : Nat) :
    (((loopback retryDelay).post "secret" "submit-listens").request).isOk = true := by
  have hBuilt : (((loopback 0).post "secret" "submit-listens").request).isOk = true := by
    decide +kernel
  exact hBuilt

/-- If the request can be built, the server gives the reply that is listed for it. -/
theorem delivery_ofReplies (replies : List Reply)
    (hBuilt : ((c.post token "submit-listens").request).isOk = true) (taken : Nat) :
    ∃ address, c.delivery token (.ofReplies replies) taken =
      ⟨true, (replies.getD taken .agreement).outcome address⟩ := by
  unfold delivery Server.deliver
  cases hRequest : (c.post token "submit-listens").request with
  | error fault => simp [hRequest, Except.isOk, Except.toBool] at hBuilt
  | ok request => exact ⟨request.url.render, rfl⟩

/-- A server that only gives statuses answers every attempt of a submission. -/
theorem isAnswered_run_submit {codes : List Nat}
    (hBuilt : ((c.post token "submit-listens").request).isOk = true) :
    ((c.submit token type retries batch).run (.ofStatuses codes) taken).IsAnswered := by
  have course := c.course token type (.ofStatuses codes) retries taken 0 batch
  intro delivery hSent
  rw [course.deliveries_eq] at hSent
  obtain ⟨s, hMem, hEq⟩ := List.mem_map.mp hSent
  obtain ⟨earlier, hDelivery⟩ := course.exists_delivery_of_mem hMem
  obtain ⟨address, hListed⟩ := delivery_ofReplies (codes.map Reply.ofStatus) hBuilt earlier
  obtain ⟨response, hReply⟩ := Server.exists_answer_ofStatuses codes earlier
  exact ⟨response.onWire, by rw [← hEq, hDelivery, Server.ofStatuses, hListed, hReply]; rfl⟩

end Client

end Scrobbler
