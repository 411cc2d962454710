import Scrobbler.Proofs.Submission.FlatLoop

/-!
The ceiling of payloads. Whatever the server does and whatever retries are left, each request of a
submission carries one of the parts of the batch, so that its payload is no longer than the settings
allow or holds a single listen; and nothing is cut that fits.
-/

namespace Scrobbler

namespace Course

variable {c : Client} {token : String} {type : ListenType} {server : Server} {stage : Stage}
  {retries taken start : Nat} {batch : List Listen} {shipments : List Shipment}
  {outcome : Outcome (Checked Submission)}

/-- Every request carries a part. -/
theorem part_mem_partsOf
    (course : Course c token type server stage retries taken start batch shipments outcome)
    {s : Shipment} (hMem : s ∈ shipments) : s.part ∈ partsOf c type batch stage := by
  induction course with
  | settled hFits hLast =>
      obtain rfl := List.mem_singleton.mp hMem
      rw [partsOf, Client.parts_of_fits hFits]
      exact List.mem_singleton_self _
  | repeated hFits hNotice rest ih =>
      rcases List.mem_cons.mp hMem with rfl | hMem
      · rw [partsOf, Client.parts_of_fits hFits]
        exact List.mem_singleton_self _
      · exact ih hMem
  | stopped first hFailed ih => exact List.mem_append_left _ (ih hMem)
  | continued first hOk second ihFirst ihSecond =>
      rcases List.mem_append.mp hMem with hMem | hMem
      · exact List.mem_append_left _ (ihFirst hMem)
      · exact List.mem_append_right _ (ihSecond hMem)
  | merged hCut pass hOk ih =>
      rw [partsOf, Client.parts_of_not_fits hCut]
      exact ih hMem
  | abandoned hCut pass hFailed ih =>
      rw [partsOf, Client.parts_of_not_fits hCut]
      exact ih hMem
  -- A batch that starts again is cut as it was the first time.
  | restarted hCut pass hFailed rest ihPass ihRest =>
      rcases List.mem_append.mp hMem with hMem | hMem
      · rw [partsOf, Client.parts_of_not_fits hCut]
        exact ihPass hMem
      · exact ihRest hMem

end Course

namespace Client

variable {c : Client} {token : String} {type : ListenType} {batch : List Listen}

/-- Leaving out timestamps leaves out no listen. -/
theorem length_prepare (type : ListenType) (listens : List Listen) :
    (Batch.prepare type listens).length = listens.length := by
  cases type <;> simp [Batch.prepare]

/-- A batch fits one request if the text of its payload is not above the ceiling, or it is a single
listen. -/
theorem fits_iff :
    c.fits type batch = true ↔
      Text.Utf8.size (Batch.payload (Batch.prepare type batch)).render ≤ c.settings.maxListenSize ∨
        (Batch.prepare type batch).length ≤ 1 := by
  rw [fits, Bool.or_eq_true, decide_eq_true_eq, decide_eq_true_eq, length_prepare, Batch.payloadSize]
  omega

theorem not_fits_iff :
    ¬c.fits type batch = true ↔
      c.settings.maxListenSize < Batch.payloadSize (Batch.prepare type batch) ∧
        2 ≤ batch.length := by
  rw [fits, Bool.or_eq_true, decide_eq_true_eq, decide_eq_true_eq]
  omega

/-- The body of the request that is built is the written form of the body that was asked for. -/
theorem body_of_request {part : List Listen} {request : Request}
    (hRequest : (c.submissionDraft token type part).request = .ok request) :
    request.body = some (Batch.body type (Batch.prepare type part)).render := by
  rw [submissionDraft, Draft.request_withBody] at hRequest
  cases hBuilt : (c.post token "submit-listens").request with
  | error fault => simp [hBuilt, Except.map] at hRequest
  | ok built =>
      rw [hBuilt] at hRequest
      obtain rfl := Except.ok.inj hRequest
      rfl

/-- Every attempt of a submission carries a part of the batch, and the text of its payload is within
the ceiling or holds at most one listen. The parts are the same for all servers and retries: they are
what is reached by halving batches that are too long and have at least two listens, until that is no
longer so. -/
theorem attempts_within_ceiling (c : Client) (token : String) (type : ListenType) (server : Server)
    (retries taken : Nat) (batch : List Listen) :
    (∀ draft ∈ ((c.submit token type retries batch).run server taken).attempts,
      ∃ part ∈ c.parts type batch,
        let array := (Batch.payload (Batch.prepare type part)).render
        draft = c.submissionDraft token type part ∧
          (Text.Utf8.size array ≤ c.settings.maxListenSize ∨
            (Batch.prepare type part).length ≤ 1) ∧
          ∀ request, draft.request = .ok request →
            request.body =
              some ("\x7b\"listen_type\":\"" ++ type.name ++ "\",\"payload\":" ++ array ++ "\x7d")) ∧
      ∀ part, part ∈ c.parts type batch ↔
        (Batch.payloadSize (Batch.prepare type part) ≤ c.settings.maxListenSize ∨
            part.length ≤ 1) ∧
          ∃ path, Batch.branch batch path = part ∧
            ∀ above below, path = above ++ below → below ≠ [] →
              c.settings.maxListenSize <
                  Batch.payloadSize (Batch.prepare type (Batch.branch batch above)) ∧
                2 ≤ (Batch.branch batch above).length := by
  constructor
  · intro draft hDraft
    have course := c.course token type server retries taken 0 batch
    rw [course.attempts_eq] at hDraft
    obtain ⟨s, hMem, rfl⟩ := List.mem_map.mp hDraft
    have hPart : s.part ∈ c.parts type batch := course.part_mem_partsOf hMem
    refine ⟨s.part, hPart, rfl, fits_iff.mp (fits_of_mem_parts hPart), fun request hRequest => ?_⟩
    rw [body_of_request hRequest, Batch.render_body]
  · intro part
    simp only [mem_parts_iff, not_fits_iff]
    rw [fits_iff, length_prepare, Batch.payloadSize]

end Client

end Scrobbler
