import Mathlib.Algebra.GroupWithZero.Nat
import Scrobbler.Proofs.Submission.Parts
import Scrobbler.Proofs.Submission.Shipments

/-!
Submissions to a server that answers every request. The parts of a batch do not depend on the
answers, and each is sent until an answer comes that does not ask for patience, or until no retries
are left; then the next part has its turn with all the retries again.
-/

namespace Scrobbler

/-- How often one part is sent to a server that has taken `taken` requests, when `limited` tells
which answers ask for patience: up to the first one that does not, and at most once more than there
are retries. -/
def sendings (limited : Nat → Bool) (retries taken : Nat) : Nat :=
  min (retries + 1) ((List.range (retries + 1)).findIdx (fun i => !limited (taken + i)) + 1)

/-- How often each of some parts is sent, one after the other. -/
def sendingsOf (limited : Nat → Bool) (retries : Nat) : Nat → List (List Listen) → List Nat
  | _, [] => []
  | taken, _ :: parts =>
      sendings limited retries taken ::
        sendingsOf limited retries (taken + sendings limited retries taken) parts

section Sendings

variable {limited : Nat → Bool} {retries taken : Nat}

/-- A part is sent at least once. -/
theorem sendings_pos : 0 < sendings limited retries taken := by
  unfold sendings
  omega

/-- Without a budget a part is sent once, whatever the server answers. -/
theorem sendings_zero : sendings limited 0 taken = 1 := by
  unfold sendings
  omega

/-- A part whose first request meets no rate limit is sent once. -/
theorem sendings_of_not_limited (h : limited taken = false) :
    sendings limited retries taken = 1 := by
  unfold sendings
  rw [List.range_succ_eq_map, List.findIdx_cons]
  simp [h]

/-- A part that meets a rate limit is sent again, with a budget that is smaller by one. -/
theorem sendings_succ_of_limited (h : limited taken = true) :
    sendings limited (retries + 1) taken = sendings limited retries (taken + 1) + 1 := by
  have hShift : (fun i => !limited (taken + (i + 1))) = fun i => !limited (taken + 1 + i) := by
    funext i
    rw [Nat.add_right_comm, Nat.add_assoc]
  unfold sendings
  rw [List.range_succ_eq_map, List.findIdx_cons, List.findIdx_map]
  simp only [Nat.add_zero, h, Bool.not_true, cond_false, Function.comp_def, Nat.succ_eq_add_one,
    hShift]
  omega

/-- Parts that come later are sent to a server that has taken all requests for the earlier ones. -/
theorem sendingsOf_append (first second : List (List Listen)) :
    sendingsOf limited retries taken (first ++ second) =
      sendingsOf limited retries taken first ++
        sendingsOf limited retries (taken + (sendingsOf limited retries taken first).sum) second := by
  induction first generalizing taken with
  | nil => simp [sendingsOf]
  | cons part first ih => simp [sendingsOf, ih, Nat.add_assoc]

/-- Each part has its own number of sendings. -/
theorem length_sendingsOf (parts : List (List Listen)) :
    (sendingsOf limited retries taken parts).length = parts.length := by
  induction parts generalizing taken with
  | nil => rfl
  | cons part parts ih => simp [sendingsOf, ih]

end Sendings

namespace Client

/-- The answer to a request asks for patience. -/
def limits (c : Client) (token : String) (server : Server) (taken : Nat) : Bool :=
  (c.delivery token server taken).outcome.toOption.any fun response =>
    response.status.isRateLimited

end Client

/-- A run that sends some parts one after the other, each as often as its answers ask for. -/
structure FlatRun (c : Client) (token : String) (type : ListenType) (server : Server)
    (retries taken : Nat) (parts : List (List Listen)) (outcome : Outcome (Checked Submission)) :
    Prop where
  attempts :
    outcome.attempts =
      (parts.zip (sendingsOf (c.limits token server) retries taken parts)).flatMap
        fun (part, count) => List.replicate count (c.submissionDraft token type part)
  taken_eq :
    outcome.taken = taken + (sendingsOf (c.limits token server) retries taken parts).sum
  waits :
    outcome.waits =
      List.replicate
        ((sendingsOf (c.limits token server) retries taken parts).map (· - 1)).sum
        c.settings.retryDelay
  completed :
    ∃ response, (c.delivery token server (outcome.taken - 1)).outcome = .ok response ∧
      outcome.value = .ok (.completed response)

namespace FlatRun

variable {c : Client} {token : String} {type : ListenType} {server : Server}
  {retries left taken : Nat} {batch : List Listen} {parts more : List (List Listen)}
  {outcome last : Outcome (Checked Submission)} {response : Response}

/-- One request whose answer is kept. -/
theorem single (hAnswer : (c.delivery token server taken).outcome = .ok response)
    (hLast : retries = 0 ∨ c.limits token server taken = false) :
    FlatRun c token type server retries taken [batch]
      ⟨.ok (.completed response), taken + 1,
        [.attempt (c.submissionDraft token type batch) (c.delivery token server taken)]⟩ := by
  have hOnce : sendings (c.limits token server) retries taken = 1 := by
    rcases hLast with rfl | hKept
    · exact sendings_zero
    · exact sendings_of_not_limited hKept
  refine ⟨?_, ?_, ?_, response, hAnswer, rfl⟩
  · simp [sendingsOf, hOnce, Outcome.attempts, Event.draft?]
  · simp [sendingsOf, hOnce]
  · simp [sendingsOf, hOnce, Outcome.waits, Event.wait?]

/-- One request that is repeated, and those that follow for the same part. -/
theorem again {notice : String} (hLimited : c.limits token server taken = true)
    (rest : FlatRun c token type server left (taken + 1) [batch] outcome) :
    FlatRun c token type server (left + 1) taken [batch]
      { outcome with
        trace :=
          .attempt (c.submissionDraft token type batch) (c.delivery token server taken) ::
            .line notice :: .wait c.settings.retryDelay :: outcome.trace } := by
  have hOnceMore : sendings (c.limits token server) (left + 1) taken =
      sendings (c.limits token server) left (taken + 1) + 1 := sendings_succ_of_limited hLimited
  have hSome : 0 < sendings (c.limits token server) left (taken + 1) := sendings_pos
  obtain ⟨hAttempts, hTaken, hWaits, hCompleted⟩ := rest
  refine ⟨?_, ?_, ?_, hCompleted⟩
  · unfold Outcome.attempts at hAttempts
    simp [sendingsOf] at hAttempts
    simp [sendingsOf, hOnceMore, Outcome.attempts, List.filterMap_cons, Event.draft?, hAttempts,
      List.replicate_succ]
  · simp [sendingsOf] at hTaken
    simp [sendingsOf, hOnceMore, hTaken]
    omega
  · unfold Outcome.waits at hWaits
    simp [sendingsOf] at hWaits
    simp [sendingsOf, hOnceMore, Outcome.waits, List.filterMap_cons, Event.wait?, hWaits]
    rw [← List.replicate_succ]
    congr 1
    omega

/-- Some parts, and others after them. -/
theorem append (first : FlatRun c token type server retries taken parts outcome)
    (second : FlatRun c token type server retries outcome.taken more last) :
    FlatRun c token type server retries taken (parts ++ more)
      { last with trace := outcome.trace ++ last.trace } := by
  obtain ⟨hAttempts, hTaken, hWaits, -⟩ := first
  obtain ⟨hMoreAttempts, hMoreTaken, hMoreWaits, hCompleted⟩ := second
  unfold Outcome.attempts at hAttempts hMoreAttempts
  unfold Outcome.waits at hWaits hMoreWaits
  rw [hTaken] at hMoreAttempts hMoreTaken hMoreWaits
  refine ⟨?_, ?_, ?_, hCompleted⟩
  · simp only [Outcome.attempts, List.filterMap_append, hAttempts, hMoreAttempts]
    rw [sendingsOf_append, List.zip_append (length_sendingsOf parts).symm, List.flatMap_append]
  · rw [sendingsOf_append, List.sum_append, ← Nat.add_assoc]
    exact hMoreTaken
  · simp only [Outcome.waits, List.filterMap_append, hWaits, hMoreWaits]
    rw [sendingsOf_append, List.map_append, List.sum_append, List.replicate_append_replicate]

/-- A flat run waits once before each repetition, each time no longer than thirty years. -/
theorem waited_eq (flat : FlatRun c token type server retries taken parts outcome) :
    outcome.waited =
      ((sendingsOf (c.limits token server) retries taken parts).map (· - 1)).sum *
        min c.settings.retryDelay Event.longestWait :=
  outcome.waited_of_waits_eq flat.waits

end FlatRun

namespace Submission

/-- An answer is repeated only if it asks for patience. -/
theorem retryNotice?_of_answer {listens delay left : Nat} {response : Response} :
    (retryNotice? listens delay left (.ok response)).isSome = response.status.isRateLimited := by
  cases h : response.status.isRateLimited <;> simp [retryNotice?, h]

end Submission

namespace Course

variable {c : Client} {token : String} {type : ListenType} {server : Server} {stage : Stage}
  {retries taken start : Nat} {batch : List Listen} {shipments : List Shipment}
  {outcome : Outcome (Checked Submission)}

/-- The parts that a stage of a submission sends when all its requests are answered. -/
def partsOf (c : Client) (type : ListenType) (batch : List Listen) : Stage → List (List Listen)
  | .whole => c.parts type batch
  | .halves => c.parts type (Batch.halves batch).1 ++ c.parts type (Batch.halves batch).2

/-- Where the server answers, a request is repeated exactly if the answer is a rate limit. -/
theorem limits_of_answer {response : Response}
    (hAnswer : (c.delivery token server taken).outcome = .ok response) :
    (c.retryNotice? token server retries batch taken).isSome = c.limits token server taken := by
  simp [Client.retryNotice?, Client.limits, hAnswer, Submission.retryNotice?_of_answer,
    Except.toOption]

/-- A course whose requests are all answered is a flat loop over the parts of its batch. -/
theorem flatRun
    (course : Course c token type server stage retries taken start batch shipments outcome)
    (hAnswered : ∀ s ∈ shipments, ∃ response, s.delivery.outcome = .ok response) :
    FlatRun c token type server retries taken (partsOf c type batch stage) outcome := by
  induction course with
  | @settled retries taken start batch hFits hLast =>
      obtain ⟨response, hAnswer⟩ := hAnswered _ (List.mem_singleton_self _)
      have hReceived : (c.delivery token server taken).received = true :=
        Server.received_of_answered hAnswer
      have hKept : retries = 0 ∨ c.limits token server taken = false := by
        refine hLast.imp_right fun hNone => ?_
        rw [← limits_of_answer hAnswer, hNone, Option.isSome_none]
      have hValue : Submission.ofOutcome (c.delivery token server taken).outcome =
          .ok (.completed response) := by
        rw [hAnswer]
        rfl
      simp only [partsOf, Client.parts_of_fits hFits, hValue, Delivery.takenAfter, hReceived,
        if_true]
      exact FlatRun.single hAnswer hKept
  | @repeated left taken start batch notice shipments outcome hFits hNotice rest ih =>
      obtain ⟨response, hAnswer⟩ := hAnswered _ List.mem_cons_self
      have hReceived : (c.delivery token server taken).received = true :=
        Server.received_of_answered hAnswer
      have hLimited : c.limits token server taken = true := by
        rw [← limits_of_answer hAnswer, hNotice, Option.isSome_some]
      have ih := ih fun s hMem => hAnswered s (List.mem_cons_of_mem _ hMem)
      simp only [partsOf, Client.parts_of_fits hFits, Delivery.takenAfter, hReceived,
        if_true] at ih ⊢
      exact ih.again hLimited
  | stopped first hFailed ih =>
      obtain ⟨response, -, hValue⟩ := (ih hAnswered).completed
      simp [hValue] at hFailed
  | continued first hOk second ihFirst ihSecond =>
      exact (ihFirst fun s hMem => hAnswered s (List.mem_append_left _ hMem)).append
        (ihSecond fun s hMem => hAnswered s (List.mem_append_right _ hMem))
  | merged hCut pass hOk ih =>
      rw [partsOf, Client.parts_of_not_fits hCut]
      exact ih hAnswered
  | abandoned hCut pass hFailed ih =>
      obtain ⟨response, -, hValue⟩ := (ih hAnswered).completed
      simp [hValue] at hFailed
  | restarted hCut pass hFailed rest ihPass ihRest =>
      obtain ⟨response, -, hValue⟩ :=
        (ihPass fun s hMem => hAnswered s (List.mem_append_left _ hMem)).completed
      simp [hValue] at hFailed

end Course

namespace Client

/-- By induction on the course: a submission whose attempts are all answered is flat, since no batch
starts again. -/
theorem flatRun_of_isAnswered {c : Client} {token : String} {type : ListenType} {server : Server}
    {retries taken : Nat} {batch : List Listen}
    (hAnswered : ((c.submit token type retries batch).run server taken).IsAnswered) :
    FlatRun c token type server retries taken (c.parts type batch)
      ((c.submit token type retries batch).run server taken) := by
  have course := c.course token type server retries taken 0 batch
  refine course.flatRun fun s hMem => hAnswered _ ?_
  rw [course.deliveries_eq]
  exact List.mem_map_of_mem hMem

/-- A submission whose attempts are all answered is a flat loop. It sends the parts of its batch one
after the other, each up to the first answer that does not ask for patience and at most once more
than there are retries; it ends with the last answer; and it pauses between two attempts for the same
part, for as long as the settings say or as a wait can take. -/
theorem run_submit_of_answered (c : Client) (token : String) (type : ListenType) (server : Server)
    (retries taken : Nat) (batch : List Listen)
    (hAnswered : ((c.submit token type retries batch).run server taken).IsAnswered) :
    let outcome := (c.submit token type retries batch).run server taken
    let parts := c.parts type batch
    let counts := sendingsOf (c.limits token server) retries taken parts
    outcome.attempts =
        ((parts.zip counts).flatMap fun (part, count) =>
          List.replicate count (c.submissionDraft token type part)) ∧
      outcome.taken = taken + counts.sum ∧
      (∃ response, (c.delivery token server (taken + counts.sum - 1)).outcome = .ok response ∧
        outcome.value = .ok (.completed response)) ∧
      outcome.waits = List.replicate (counts.map (· - 1)).sum c.settings.retryDelay ∧
      outcome.waited = (counts.map (· - 1)).sum * min c.settings.retryDelay Event.longestWait ∧
      parts.flatten = batch := by
  intro outcome parts counts
  have flat := flatRun_of_isAnswered hAnswered
  refine ⟨flat.attempts, flat.taken_eq, ?_, flat.waits, flat.waited_eq, flatten_parts c type batch⟩
  rw [← flat.taken_eq]
  exact flat.completed

/-- Two listens that have to be sent one by one, to a server that asks for patience before it takes
the first, and again and again for the second. -/
theorem run_submit_of_answered_two_parts :
    let c := loopback 3000
    let first := Listen.ofTrack "Portishead" "Roads"
    let second := Listen.ofTrack "Portishead" "Glory Box"
    let outcome := (c.submit "secret" .single 1 [first, second]).run
      (.ofStatuses [429, 200, 429, 429]) 0
    outcome.IsAnswered ∧
      outcome.attempts =
        [c.submissionDraft "secret" .single [first], c.submissionDraft "secret" .single [first],
          c.submissionDraft "secret" .single [second],
          c.submissionDraft "secret" .single [second]] ∧
      outcome.waited = 6000 := by
  intro c first second outcome
  have hAnswered : outcome.IsAnswered :=
    isAnswered_run_submit (request_loopback 3000)
  obtain ⟨hAttempts, -, -, -, hWaited, -⟩ := run_submit_of_answered _ _ _ _ _ _ _ hAnswered
  have hParts : c.parts .single [first, second] = [[first], [second]] := by
    rw [parts_of_not_fits (by decide +kernel)]
    rw [parts_of_fits (by decide +kernel), parts_of_fits (by decide +kernel)]
    simp [Batch.halves]
  have hCounts : sendingsOf (c.limits "secret" (.ofStatuses [429, 200, 429, 429])) 1 0
      [[first], [second]] = [2, 2] := by
    decide +kernel
  rw [hParts, hCounts] at hAttempts hWaited
  exact ⟨hAnswered, hAttempts, hWaited⟩

/-- A pause of more than thirty years is cut short, so that the time waited is not always a multiple
of the pause of the settings. -/
theorem not_waited_eq_mul_retryDelay :
    ¬∀ (c : Client) (token : String) (type : ListenType) (server : Server) (retries taken : Nat)
        (batch : List Listen),
      ((c.submit token type retries batch).run server taken).IsAnswered →
        ((c.submit token type retries batch).run server taken).waited =
          ((sendingsOf (c.limits token server) retries taken (c.parts type batch)).map (· - 1)).sum *
            c.settings.retryDelay := by
  intro h
  let c := loopback (Event.longestWait + 1)
  let listen := Listen.ofTrack "Portishead" "Roads"
  have hAnswered : ((c.submit "secret" .single 1 [listen]).run (.ofStatuses [429]) 0).IsAnswered :=
    isAnswered_run_submit (request_loopback _)
  have hWaited := (flatRun_of_isAnswered hAnswered).waited_eq
  have hCounts : sendingsOf (c.limits "secret" (.ofStatuses [429])) 1 0 [[listen]] =
      [2] := by
    decide +kernel
  rw [h c _ _ _ _ _ _ hAnswered, parts_of_fits (by decide +kernel), hCounts] at hWaited
  revert hWaited
  decide +kernel

end Client

end Scrobbler
