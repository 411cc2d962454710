import Scrobbler.Proofs.Submission.Shipments

/-!
How often a listen is accepted. A request is repeated only if it was not accepted, so a listen is
accepted again only when its whole batch starts again, after a request for later listens was lost.
-/

namespace Scrobbler

/-- Two requests for the listen at a place were accepted, with some other requests in between. -/
def AcceptedAgain (shipments middle : List Shipment) (place : Nat) : Prop :=
  ∃ before first second after, shipments = before ++ first :: (middle ++ second :: after) ∧
    (first.isAccepted = true ∧ first.Carries place) ∧
    second.isAccepted = true ∧ second.Carries place

namespace AcceptedAgain

variable {shipments more middle : List Shipment} {place : Nat}

/-- A listen that is accepted again was accepted twice in one of two parts of a submission, or once
in each. -/
theorem of_append (h : AcceptedAgain (shipments ++ more) middle place) :
    AcceptedAgain shipments middle place ∨ AcceptedAgain more middle place ∨
      ∃ first second, first ∈ shipments ∧ second ∈ more ∧
        (first.isAccepted = true ∧ first.Carries place) ∧ second.Carries place ∧
        ∃ before rest, shipments = before ++ first :: rest ∧ ∀ s ∈ rest, s ∈ middle := by
  obtain ⟨before, first, second, after, hEq, hFirst, hSecond⟩ := h
  rcases List.append_eq_append_iff.mp hEq with ⟨gap, rfl, hMore⟩ | ⟨rest, rfl, hRest⟩
  · exact .inr (.inl ⟨gap, first, second, after, hMore, hFirst, hSecond⟩)
  cases rest with
  | nil => exact .inr (.inl ⟨[], first, second, after, hRest.symm, hFirst, hSecond⟩)
  | cons head rest =>
      obtain ⟨rfl, hTail⟩ := List.cons.inj hRest
      rcases List.append_eq_append_iff.mp hTail with ⟨gap, rfl, hMore⟩ | ⟨gap, rfl, hMore⟩
      · cases gap with
        | nil =>
            obtain rfl : more = second :: after := hMore.symm
            exact .inr (.inr ⟨first, second, by simp, by simp, hFirst, hSecond.2, before, middle,
              by simp, fun s hMem => hMem⟩)
        | cons head gap =>
            obtain ⟨rfl, rfl⟩ := List.cons.inj hMore
            exact .inl ⟨before, first, second, gap, by simp, hFirst, hSecond⟩
      · exact .inr (.inr ⟨first, second, by simp, by simp [hMore], hFirst, hSecond.2, before, rest,
          rfl, fun s hMem => List.mem_append_left _ hMem⟩)

end AcceptedAgain

namespace Submission

/-- A request is not repeated after it was accepted. -/
theorem retryNotice?_of_isSuccess {listens delay left : Nat} {response : Response}
    (h : response.status.isSuccess = true) : retryNotice? listens delay left (.ok response) = none := by
  have hKept : response.status.isRateLimited = false := by
    simp only [Status.isSuccess, Status.isRateLimited] at h ⊢
    grind
  simp [retryNotice?, hKept]

end Submission

namespace Course

variable {c : Client} {token : String} {type : ListenType} {server : Server} {stage : Stage}
  {retries taken start : Nat} {batch : List Listen} {shipments middle : List Shipment}
  {outcome : Outcome (Checked Submission)}

/-- A request that is repeated was not accepted. -/
theorem isAccepted_eq_false_of_notice {notice : String}
    (hNotice : c.retryNotice? token server retries batch taken = some notice) :
    Shipment.isAccepted ⟨start, batch, c.delivery token server taken⟩ = false := by
  rw [Bool.eq_false_iff]
  intro hAccepted
  obtain ⟨response, hAnswer, hSuccess⟩ := Shipment.isAccepted_iff.mp hAccepted
  replace hAnswer : (c.delivery token server taken).outcome = .ok response := hAnswer
  simp [Client.retryNotice?, hAnswer, Submission.retryNotice?_of_isSuccess hSuccess] at hNotice

/-- Only a batch that is sent in one request raises an error. -/
theorem fits_of_error
    (course : Course c token type server stage retries taken start batch shipments outcome)
    (hStage : stage = .whole) {error : ServiceError} (hFailed : outcome.value = .error error) :
    c.fits type batch = true := by
  induction course with
  | settled hFits hLast => exact hFits
  | repeated hFits hNotice rest ih => exact hFits
  | stopped first hError ih => nomatch hStage
  | continued first hOk second ihFirst ihSecond => nomatch hStage
  | merged hCut pass hOk ih => simp [hFailed] at hOk
  | abandoned hCut pass hError ih => simp at hFailed
  | restarted hCut pass hError rest ihPass ihRest => exact ihRest rfl hFailed

/-- A batch that raises an error was not accepted. -/
theorem isAccepted_eq_false_of_error
    (course : Course c token type server stage retries taken start batch shipments outcome)
    (hStage : stage = .whole) {error : ServiceError} (hFailed : outcome.value = .error error) :
    ∀ s ∈ shipments, s.isAccepted = false := by
  induction course with
  | @settled retries taken start batch hFits hLast =>
      intro s hMem
      obtain rfl := List.mem_singleton.mp hMem
      unfold Shipment.isAccepted
      cases hOutcome : (c.delivery token server taken).outcome with
      | ok response => simp [hOutcome, Submission.ofOutcome] at hFailed
      | error error => rfl
  | repeated hFits hNotice rest ih =>
      intro s hMem
      rcases List.mem_cons.mp hMem with rfl | hMem
      · exact isAccepted_eq_false_of_notice hNotice
      · exact ih rfl hFailed s hMem
  | stopped first hError ih => nomatch hStage
  | continued first hOk second ihFirst ihSecond => nomatch hStage
  | merged hCut pass hOk ih => simp [hFailed] at hOk
  | abandoned hCut pass hError ih => simp at hFailed
  | restarted hCut pass hError rest ihPass ihRest => exact absurd (rest.fits_of_error rfl hFailed) hCut

/-- Of a batch that is sent in one request, only the last request may be accepted. -/
theorem exists_last_of_fits
    (course : Course c token type server stage retries taken start batch shipments outcome)
    (hStage : stage = .whole) (hFits : c.fits type batch = true) :
    ∃ earlier delivery, shipments = earlier ++ [⟨start, batch, delivery⟩] ∧
      ∀ s ∈ earlier, s.isAccepted = false := by
  induction course with
  | settled hFits hLast => exact ⟨[], _, rfl, by simp⟩
  | repeated _ hNotice rest ih =>
      obtain ⟨earlier, delivery, rfl, hEarlier⟩ := ih rfl hFits
      refine ⟨_ :: earlier, delivery, rfl, fun s hMem => ?_⟩
      rcases List.mem_cons.mp hMem with rfl | hMem
      · exact isAccepted_eq_false_of_notice hNotice
      · exact hEarlier s hMem
  | stopped first hFailed ih => nomatch hStage
  | continued first hOk second ihFirst ihSecond => nomatch hStage
  | merged hCut pass hOk ih => exact absurd hFits hCut
  | abandoned hCut pass hFailed ih => exact absurd hFits hCut
  | restarted hCut pass hFailed rest ihPass ihRest => exact absurd hFits hCut

/-- If a pass over two halves fails, its last request was lost, and it was for later listens than
any that were accepted. -/
theorem exists_lost_of_failed_pass
    (course : Course c token type server stage retries taken start batch shipments outcome)
    (hStage : stage = .halves) {error : ServiceError} (hFailed : outcome.value = .error error)
    {s : Shipment} (hMem : s ∈ shipments) (hAccepted : s.isAccepted = true) {place : Nat}
    (hCarries : s.Carries place) :
    ∃ earlier lost, shipments = earlier ++ [lost] ∧ lost.isLost = true ∧ place < lost.start := by
  cases course with
  | stopped first hError =>
      simp [first.isAccepted_eq_false_of_error rfl hFailed s hMem] at hAccepted
  | continued first hOk second =>
      obtain ⟨earlier, lost, rfl, hLost⟩ := second.exists_last_of_error hFailed
      refine ⟨_ ++ earlier, lost, (List.append_assoc ..).symm, hLost, ?_⟩
      rcases List.mem_append.mp hMem with hMem | hMem
      · have hBounds := first.bounds_of_mem hMem
        have hLater := second.bounds_of_mem (List.mem_append_right earlier (List.mem_singleton_self lost))
        have := hCarries.2
        omega
      · simp [second.isAccepted_eq_false_of_error rfl hFailed s hMem] at hAccepted
  | settled => nomatch hStage
  | repeated => nomatch hStage
  | merged => nomatch hStage
  | abandoned => nomatch hStage
  | restarted => nomatch hStage

/-- A lost request that comes last comes after one that was accepted. -/
theorem mem_of_lost_last {before rest earlier : List Shipment} {first lost : Shipment}
    (hEq : shipments = before ++ first :: rest) (hAccepted : first.isAccepted = true)
    (hLastEq : shipments = earlier ++ [lost]) (hLost : lost.isLost = true) : lost ∈ rest := by
  rw [hEq] at hLastEq
  rcases rest.eq_nil_or_concat with rfl | ⟨others, last, rfl⟩
  · obtain rfl := List.singleton_inj.mp (List.append_inj' hLastEq rfl).2
    simp [Shipment.isAccepted_eq_false_of_isLost hLost] at hAccepted
  · rw [List.concat_eq_append] at hLastEq ⊢
    rw [← List.cons_append, ← List.append_assoc] at hLastEq
    obtain rfl := List.singleton_inj.mp (List.append_inj' hLastEq rfl).2
    exact List.mem_append_right _ (List.mem_singleton_self last)

/-- Between two requests that were accepted for the same listen, one for later listens was lost, and
there were retries to start again with. -/
theorem exists_lost_of_acceptedAgain
    (course : Course c token type server stage retries taken start batch shipments outcome)
    {place : Nat} (hAgain : AcceptedAgain shipments middle place) :
    0 < retries ∧ ∃ lost ∈ middle, lost.isLost = true ∧ place < lost.start := by
  induction course with
  | settled hFits hLast =>
      obtain ⟨before, first, second, after, hEq, -⟩ := hAgain
      have := congrArg List.length hEq
      simp at this
      omega
  | repeated hFits hNotice rest ih =>
      rw [← List.singleton_append] at hAgain
      rcases hAgain.of_append with hAgain | hAgain | hAgain
      · obtain ⟨before, first, second, after, hEq, -⟩ := hAgain
        have := congrArg List.length hEq
        simp at this
        omega
      · exact ⟨Nat.succ_pos _, (ih hAgain).2⟩
      · obtain ⟨first, second, hMem, -, ⟨hAccepted, -⟩, -⟩ := hAgain
        obtain rfl := List.mem_singleton.mp hMem
        simp [isAccepted_eq_false_of_notice hNotice] at hAccepted
  | stopped first hFailed ih => exact ih hAgain
  | continued first hOk second ihFirst ihSecond =>
      rcases hAgain.of_append with hAgain | hAgain | hAgain
      · exact ihFirst hAgain
      · exact ihSecond hAgain
      -- No listen is in both halves.
      · obtain ⟨s, later, hMem, hLaterMem, ⟨-, hCarries⟩, hLater, -⟩ := hAgain
        have := (first.bounds_of_mem hMem).2
        have := (second.bounds_of_mem hLaterMem).1
        have := hCarries.2
        have := hLater.1
        omega
  | merged hCut pass hOk ih => exact ih hAgain
  | abandoned hCut pass hFailed ih => exact ih hAgain
  | restarted hCut pass hFailed rest ihPass ihRest =>
      refine ⟨Nat.succ_pos _, ?_⟩
      rcases hAgain.of_append with hAgain | hAgain | hAgain
      · exact (ihPass hAgain).2
      · exact (ihRest hAgain).2
      · obtain ⟨first, second, hMem, -, ⟨hAccepted, hCarries⟩, -, before, rest, hEq, hMiddle⟩ := hAgain
        obtain ⟨earlier, lost, hLastEq, hLost, hLater⟩ :=
          pass.exists_lost_of_failed_pass rfl hFailed hMem hAccepted hCarries
        have hRest := mem_of_lost_last hEq hAccepted hLastEq hLost
        exact ⟨lost, hMiddle lost hRest, hLost, hLater⟩

end Course

namespace Client

/-- A listen is accepted by two requests of a submission only if there are retries, and a request
between the two, for later listens only, was lost. -/
theorem exists_lost_between_acceptances (c : Client) (token : String) (type : ListenType)
    (server : Server) (retries taken : Nat) (batch : List Listen) :
    let shipments := c.shipments token type server retries taken 0 batch
    ((c.submit token type retries batch).run server taken).sent =
        shipments.map (fun s => (c.submissionDraft token type s.part, s.delivery)) ∧
      (∀ s ∈ shipments, s.part = (batch.drop s.start).take s.part.length) ∧
      ∀ before first middle second after place,
        shipments = before ++ first :: (middle ++ second :: after) →
          first.isAccepted = true → first.Carries place →
          second.isAccepted = true → second.Carries place →
            0 < retries ∧ ∃ lost ∈ middle, lost.isLost = true ∧ place < lost.start := by
  intro shipments
  have course := c.course token type server retries taken 0 batch
  refine ⟨course.sent_eq, fun s hMem => course.part_eq hMem, ?_⟩
  intro before first middle second after place hEq hFirst hFirstCarries hSecond hSecondCarries
  exact course.exists_lost_of_acceptedAgain
    ⟨before, first, second, after, hEq, ⟨hFirst, hFirstCarries⟩, hSecond, hSecondCarries⟩

/-- A server that agrees to the first request, and does not answer the two requests after it. -/
def resentServer : Server :=
  .ofReplies [.ofStatus 200, .drop, .drop, .ofStatus 200, .ofStatus 200]

/-- Of two listens that have to be sent one by one, the first is accepted and the second is lost with
all its retries. The batch starts again, and the first listen is accepted once more. -/
theorem exists_course_accepting_twice (listen : Listen) :
    ∃ first middle second after outcome,
      Course (loopback 3000) "secret" .single resentServer .whole 1 0 0 [listen, listen]
          (first :: (middle ++ second :: after)) outcome ∧
        (first.isAccepted = true ∧ first.Carries 0) ∧
        second.isAccepted = true ∧ second.Carries 0 := by
  let replies : List Reply := [.ofStatus 200, .drop, .drop, .ofStatus 200, .ofStatus 200]
  have hBuilt := request_loopback 3000
  obtain ⟨_, hFirst⟩ := delivery_ofReplies replies hBuilt 0
  obtain ⟨_, hSecond⟩ := delivery_ofReplies replies hBuilt 1
  obtain ⟨_, hThird⟩ := delivery_ofReplies replies hBuilt 2
  obtain ⟨_, hFourth⟩ := delivery_ofReplies replies hBuilt 3
  obtain ⟨_, hFifth⟩ := delivery_ofReplies replies hBuilt 4
  have hFits : (loopback 3000).fits .single [listen] = true := by simp [fits_loopback]
  have hCut : ¬(loopback 3000).fits .single [listen, listen] = true := by simp [fits_loopback]
  have hHalves : Batch.halves [listen, listen] = ([listen], [listen]) := by
    simp [Batch.halves]
  have accepted : Course (loopback 3000) "secret" .single resentServer .whole 1 0 0 [listen] _ _ :=
    .settled_of_delivery hFits (.inr (by rw [retryNotice?, resentServer, hFirst]; rfl)) hFirst
  have lostAgain : Course (loopback 3000) "secret" .single resentServer .whole 0 2 1 [listen] _ _ :=
    .settled_of_delivery hFits (.inl rfl) hThird
  have lost : Course (loopback 3000) "secret" .single resentServer .whole 1 1 1 [listen] _ _ :=
    .repeated_of_delivery hFits hSecond rfl lostAgain
  have first : Course (loopback 3000) "secret" .single resentServer .whole 0 3 0 [listen] _ _ :=
    .settled_of_delivery hFits (.inl rfl) hFourth
  have second : Course (loopback 3000) "secret" .single resentServer .whole 0 4 1 [listen] _ _ :=
    .settled_of_delivery hFits (.inl rfl) hFifth
  have again := Course.merged hCut (.continued_of_halves hHalves first rfl second) rfl
  have course :=
    Course.restarted hCut (.continued_of_halves hHalves accepted rfl lost) rfl again
  refine ⟨_, [_, _], _, _, _, course, ⟨rfl, ?_⟩, rfl, ?_⟩
  · simp [Shipment.Carries, Shipment.stop]
  · simp [Shipment.Carries, Shipment.stop]

/-- The first of two listens is accepted twice, and the request for the second was lost in between. -/
theorem exists_lost_between_two_acceptances :
    let listen := Listen.ofTrack "Portishead" "Roads"
    ∃ first middle second after,
      (loopback 3000).shipments "secret" .single resentServer 1 0 0 [listen, listen] =
          first :: (middle ++ second :: after) ∧
        (first.isAccepted = true ∧ first.Carries 0) ∧
        (second.isAccepted = true ∧ second.Carries 0) ∧
        ∃ lost ∈ middle, lost.isLost = true ∧ 0 < lost.start := by
  intro listen
  obtain ⟨first, middle, second, after, outcome, course, hFirst, hSecond⟩ :=
    exists_course_accepting_twice listen
  obtain ⟨-, -, hBetween⟩ :=
    exists_lost_between_acceptances (loopback 3000) "secret" .single resentServer 1 0 [listen, listen]
  obtain ⟨-, hLost⟩ := hBetween [] first middle second after 0 course.shipments_eq hFirst.1 hFirst.2
    hSecond.1 hSecond.2
  exact ⟨first, middle, second, after, course.shipments_eq, hFirst, hSecond, hLost⟩

/-- Two requests of one submission may both be accepted and both carry the same listen. -/
theorem not_forall_accepted_once :
    ¬∀ (c : Client) (token : String) (type : ListenType) (server : Server) (retries taken : Nat)
        (batch : List Listen) (place : Nat) (before middle after : List Shipment)
        (first second : Shipment),
      c.shipments token type server retries taken 0 batch =
          before ++ first :: (middle ++ second :: after) →
        first.isAccepted = true → second.isAccepted = true →
          ¬(first.Carries place ∧ second.Carries place) := by
  intro h
  obtain ⟨first, middle, second, after, outcome, course, hFirst, hSecond⟩ :=
    exists_course_accepting_twice (Listen.ofTrack "Portishead" "Roads")
  exact h _ _ _ _ _ _ _ 0 [] middle after first second course.shipments_eq hFirst.1 hSecond.1
    ⟨hFirst.2, hSecond.2⟩

end Client

end Scrobbler
