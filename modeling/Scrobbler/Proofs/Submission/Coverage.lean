import Scrobbler.Proofs.Submission.Shipments

/-!
Which listens of a batch are sent. A listen that no request carried was passed over: a request for
earlier listens got no answer, and all requests after it were for later ones.
-/

namespace Scrobbler

/-- The last request that starts no later than a place carries the listen there, or it carries
earlier listens only and got no answer. -/
def Reaches (shipments : List Shipment) (place : Nat) : Prop :=
  ∃ before s after, shipments = before ++ s :: after ∧ (∀ later ∈ after, place < later.start) ∧
    (s.Carries place ∨ s.isLost = true ∧ s.stop ≤ place)

namespace Reaches

variable {shipments more : List Shipment} {place : Nat}

/-- Earlier requests do not matter to what is reached by later ones. -/
theorem after_shipments (earlier : List Shipment) (h : Reaches shipments place) :
    Reaches (earlier ++ shipments) place := by
  obtain ⟨before, s, after, rfl, hAfter, hReach⟩ := h
  exact ⟨earlier ++ before, s, after, (List.append_assoc ..).symm, hAfter, hReach⟩

/-- What is reached stays reached when only requests for later listens follow. -/
theorem before_shipments (h : Reaches shipments place) (hMore : ∀ s ∈ more, place < s.start) :
    Reaches (shipments ++ more) place := by
  obtain ⟨before, s, after, rfl, hAfter, hReach⟩ := h
  refine ⟨before, s, after ++ more, by simp, fun later hMem => ?_, hReach⟩
  exact (List.mem_append.mp hMem).elim (hAfter later) (hMore later)

end Reaches

namespace Course

variable {c : Client} {token : String} {type : ListenType} {server : Server} {stage : Stage}
  {retries taken start : Nat} {batch : List Listen} {shipments : List Shipment}
  {outcome : Outcome (Checked Submission)}

theorem length_halves (batch : List Listen) :
    (Batch.halves batch).1.length + (Batch.halves batch).2.length = batch.length := by
  rw [← List.length_append, Batch.halves_fst_append_snd]

/-- Every place of a batch is reached. -/
theorem reaches
    (course : Course c token type server stage retries taken start batch shipments outcome)
    {place : Nat} (hStart : start ≤ place) (hStop : place < start + batch.length) :
    Reaches shipments place := by
  induction course with
  | settled hFits hLast =>
      exact ⟨[], _, [], rfl, by simp, .inl ⟨hStart, hStop⟩⟩
  | repeated hFits hNotice rest ih => exact (ih hStart hStop).after_shipments [_]
  | @stopped retries taken start batch shipments outcome error first hFailed ih =>
      by_cases hHalf : place < start + (Batch.halves batch).1.length
      · exact ih hStart hHalf
      -- The second half is not sent, and the last request of the first one got no answer.
      obtain ⟨earlier, last, rfl, hLost⟩ := first.exists_last_of_error hFailed
      have hBounds := first.bounds_of_mem (List.mem_append_right earlier (List.mem_singleton_self last))
      exact ⟨earlier, last, [], rfl, by simp, .inr ⟨hLost, by omega⟩⟩
  | @continued retries taken start batch shipments more outcome last submission first hOk second
      ihFirst ihSecond =>
      have hLength := length_halves batch
      by_cases hHalf : place < start + (Batch.halves batch).1.length
      · refine (ihFirst hStart hHalf).before_shipments fun s hMem => ?_
        exact Nat.lt_of_lt_of_le hHalf (second.bounds_of_mem hMem).1
      · exact (ihSecond (by omega) (by omega)).after_shipments _
  | merged hCut pass hOk ih => exact ih hStart hStop
  | abandoned hCut pass hFailed ih => exact ih hStart hStop
  | restarted hCut pass hFailed rest ihPass ihRest =>
      exact (ihRest hStart hStop).after_shipments _

/-- Only a batch in halves is abandoned. -/
theorem ne_abandoned_of_fits
    (course : Course c token type server stage retries taken start batch shipments outcome)
    (hStage : stage = .whole) (hFits : c.fits type batch = true) (error : ServiceError) :
    outcome.value ≠ .ok (.abandoned error) := by
  induction course with
  | settled _ hLast =>
      unfold Submission.ofOutcome
      split <;> simp
  | repeated _ hNotice rest ih => exact ih rfl hFits
  | stopped first hFailed ih => nomatch hStage
  | continued first hOk second ihFirst ihSecond => nomatch hStage
  | merged hCut pass hOk ih => exact absurd hFits hCut
  | abandoned hCut pass hFailed ih => exact absurd hFits hCut
  | restarted hCut pass hFailed rest ihPass ihRest => exact absurd hFits hCut

/-- A batch whose first half has fewer than two listens has no half that could be abandoned and
passed over. -/
theorem carried_of_length_lt_four
    (course : Course c token type server stage retries taken start batch shipments outcome)
    {response : Response} (hCompleted : outcome.value = .ok (.completed response))
    (hShort : batch.length < 4) {place : Nat} (hStart : start ≤ place)
    (hStop : place < start + batch.length) : ∃ s ∈ shipments, s.Carries place := by
  induction course generalizing response with
  | settled hFits hLast => exact ⟨_, List.mem_singleton_self _, hStart, hStop⟩
  | repeated hFits hNotice rest ih =>
      obtain ⟨s, hMem, hCarries⟩ := ih hCompleted hShort hStart hStop
      exact ⟨s, List.mem_cons_of_mem _ hMem, hCarries⟩
  | stopped first hFailed ih => simp [hCompleted] at hFailed
  | @continued retries taken start batch shipments more outcome last submission first hOk second
      ihFirst ihSecond =>
      have hLength := length_halves batch
      have hHalves : (Batch.halves batch).1.length = batch.length / 2 := by
        simp [Batch.halves]
        omega
      by_cases hHalf : place < start + (Batch.halves batch).1.length
      · cases submission with
        | completed first =>
            obtain ⟨s, hMem, hCarries⟩ := ihFirst hOk (by omega) hStart hHalf
            exact ⟨s, List.mem_append_left _ hMem, hCarries⟩
        | abandoned error =>
            have hFits : c.fits type (Batch.halves batch).1 = true := by
              simp only [Client.fits, Bool.or_eq_true, decide_eq_true_eq]
              omega
            exact absurd hOk (first.ne_abandoned_of_fits rfl hFits error)
      · obtain ⟨s, hMem, hCarries⟩ := ihSecond hCompleted (by omega) (by omega) (by omega)
        exact ⟨s, List.mem_append_right _ hMem, hCarries⟩
  | merged hCut pass hOk ih => exact ih hCompleted hShort hStart hStop
  | abandoned hCut pass hFailed ih => simp at hCompleted
  | restarted hCut pass hFailed rest ihPass ihRest =>
      obtain ⟨s, hMem, hCarries⟩ := ihRest hCompleted hShort hStart hStop
      exact ⟨s, List.mem_append_right _ hMem, hCarries⟩

end Course

namespace Client

/-- If a submission ends with an answer, every listen of the batch was in the payload of an attempt,
unless it was passed over. Then the batch has at least four listens, a request for earlier listens
only got no answer, and it was followed by requests that were all for later listens only. -/
theorem carried_or_passed_over_of_completed (c : Client) (token : String) (type : ListenType)
    (server : Server) (retries taken : Nat) (batch : List Listen) (response : Response)
    (hCompleted : ((c.submit token type retries batch).run server taken).value =
      .ok (.completed response)) :
    let shipments := c.shipments token type server retries taken 0 batch
    ((c.submit token type retries batch).run server taken).attempts =
        shipments.map (fun s => c.submissionDraft token type s.part) ∧
      (∀ s ∈ shipments, s.part = (batch.drop s.start).take s.part.length) ∧
      ∀ place < batch.length,
        (∃ s ∈ shipments, s.Carries place) ∨
          4 ≤ batch.length ∧ ∃ before lost after,
            shipments = before ++ lost :: after ∧ lost.isLost = true ∧ lost.stop ≤ place ∧
              after ≠ [] ∧ ∀ s ∈ after, place < s.start := by
  intro shipments
  have course := c.course token type server retries taken 0 batch
  refine ⟨course.attempts_eq, fun s hMem => course.part_eq hMem, fun place hPlace => ?_⟩
  by_cases hShort : batch.length < 4
  · exact .inl (course.carried_of_length_lt_four hCompleted hShort (Nat.zero_le _) (by omega))
  obtain ⟨before, s, after, hEq, hAfter, hCarries | ⟨hLost, hStop⟩⟩ :=
    course.reaches (Nat.zero_le place) (by omega)
  · exact .inl ⟨s, by simp [shipments, hEq], hCarries⟩
  refine .inr ⟨by omega, before, s, after, hEq, hLost, hStop, ?_, hAfter⟩
  -- The last request was answered, so that the lost one is not the last.
  rintro rfl
  obtain ⟨earlier, last, hLastEq, hAnswer⟩ := course.exists_last_of_completed hCompleted
  obtain ⟨error, hNone⟩ := Shipment.isLost_iff.mp hLost
  rw [hEq] at hLastEq
  obtain rfl := List.singleton_inj.mp (List.append_inj' hLastEq rfl).2
  simp [hAnswer] at hNone

/-- A server that does not answer the first request, and agrees to the two requests after it. -/
def skippingServer : Server := .ofReplies [.drop, .ofStatus 200, .ofStatus 200]

/-- Of four listens that have to be sent one by one, the first is lost with all its retries. The half
that it stands in is abandoned, the other half is sent, and the second listen is passed over. -/
theorem exists_course_passing_over (listen : Listen) :
    ∃ shipments outcome response,
      Course (loopback 3000) "secret" .single skippingServer .whole 0 0 0
          [listen, listen, listen, listen] shipments outcome ∧
        outcome.value = .ok (.completed response) ∧ response.status.isSuccess = true ∧
        ∀ s ∈ shipments, ¬s.Carries 1 := by
  have hBuilt := request_loopback 3000
  obtain ⟨first, hFirst⟩ := delivery_ofReplies [.drop, .ofStatus 200, .ofStatus 200] hBuilt 0
  obtain ⟨second, hSecond⟩ := delivery_ofReplies [.drop, .ofStatus 200, .ofStatus 200] hBuilt 1
  obtain ⟨third, hThird⟩ := delivery_ofReplies [.drop, .ofStatus 200, .ofStatus 200] hBuilt 2
  have hFits : (loopback 3000).fits .single [listen] = true := by simp [fits_loopback]
  have hCutTwo : ¬(loopback 3000).fits .single [listen, listen] = true := by simp [fits_loopback]
  have hCutFour : ¬(loopback 3000).fits .single [listen, listen, listen, listen] = true := by
    simp [fits_loopback]
  have hTwo : Batch.halves [listen, listen] = ([listen], [listen]) := by
    simp [Batch.halves]
  have hFour : Batch.halves [listen, listen, listen, listen] =
      ([listen, listen], [listen, listen]) := by
    simp [Batch.halves]
  have lost : Course (loopback 3000) "secret" .single skippingServer .whole 0 0 0 [listen] _ _ :=
    .settled_of_delivery hFits (.inl rfl) hFirst
  have skipped := Course.abandoned hCutTwo (.stopped_of_halves hTwo lost rfl) rfl
  have third : Course (loopback 3000) "secret" .single skippingServer .whole 0 1 2 [listen] _ _ :=
    .settled_of_delivery hFits (.inl rfl) hSecond
  have fourth : Course (loopback 3000) "secret" .single skippingServer .whole 0 2 3 [listen] _ _ :=
    .settled_of_delivery hFits (.inl rfl) hThird
  have sent := Course.merged hCutTwo (.continued_of_halves hTwo third rfl fourth) rfl
  have course := Course.merged hCutFour (.continued_of_halves hFour skipped rfl sent) rfl
  exact ⟨_, _, _, course, rfl, rfl, by simp [Shipment.Carries, Shipment.stop]⟩

/-- The second of the four listens was passed over: the first request was lost, and all others were for
later listens. -/
theorem passed_over_second_of_four :
    let listen := Listen.ofTrack "Portishead" "Roads"
    let batch := [listen, listen, listen, listen]
    (∃ response, (((loopback 3000).submit "secret" .single 0 batch).run skippingServer 0).value =
        .ok (.completed response)) ∧
      ∃ before lost after,
        (loopback 3000).shipments "secret" .single skippingServer 0 0 0 batch =
            before ++ lost :: after ∧
          lost.isLost = true ∧ lost.stop ≤ 1 ∧ after ≠ [] ∧ ∀ s ∈ after, 1 < s.start := by
  intro listen batch
  obtain ⟨shipments, outcome, response, course, hValue, -, hNone⟩ :=
    exists_course_passing_over listen
  have hCompleted : (((loopback 3000).submit "secret" .single 0 batch).run skippingServer 0).value =
      .ok (.completed response) := by
    rw [course.run_eq, hValue]
  obtain ⟨-, -, hPlaces⟩ := carried_or_passed_over_of_completed _ _ _ _ _ _ _ _ hCompleted
  refine ⟨⟨response, hCompleted⟩, ?_⟩
  rcases hPlaces 1 (by simp [batch]) with ⟨s, hMem, hCarries⟩ | ⟨-, hPassed⟩
  · rw [course.shipments_eq] at hMem
    exact absurd hCarries (hNone s hMem)
  · exact hPassed

/-- A submission may end with a success although a listen was in none of its payloads. -/
theorem not_forall_carried_of_success :
    ¬∀ (c : Client) (token : String) (type : ListenType) (server : Server) (retries taken : Nat)
        (batch : List Listen) (response : Response), batch ≠ [] →
      ((c.submit token type retries batch).run server taken).value = .ok (.completed response) →
        response.status.isSuccess = true → ∀ place < batch.length,
          ∃ s ∈ c.shipments token type server retries taken 0 batch, s.Carries place := by
  intro h
  let listen := Listen.ofTrack "Portishead" "Roads"
  obtain ⟨shipments, outcome, response, course, hValue, hSuccess, hNone⟩ :=
    exists_course_passing_over listen
  obtain ⟨s, hMem, hCarries⟩ := h _ _ _ _ _ _ _ response (by simp)
    ((congrArg Outcome.value course.run_eq).trans hValue) hSuccess 1 (by simp)
  rw [course.shipments_eq] at hMem
  exact hNone s hMem hCarries

end Client

end Scrobbler
