import Mathlib.Data.Nat.Choose.Basic
import Mathlib.Data.Nat.Log
import Scrobbler.Proofs.Submission.Shipments

/-!
How many requests a submission can take. A request may be repeated, a batch may be cut, and a batch
in halves may start again with one retry less, so that neither the retries nor the batch get smaller
with every request. The number of requests obeys the recurrence of the binomial coefficients, over
the retries and the depth to which a batch can be cut. Each pause is announced by a line, and comes
between two requests.
-/

namespace Scrobbler

/-- The most requests that a number of listens can take with a number of retries. -/
def requestLimit (retries listens : Nat) : Nat :=
  max 1 listens * (retries + 1 + Nat.clog 2 listens).choose retries

section RequestLimit

variable {retries listens : Nat}

theorem requestLimit_of_pos (hPos : 0 < listens) :
    requestLimit retries listens =
      listens * (retries + 1 + Nat.clog 2 listens).choose retries := by
  rw [requestLimit, Nat.max_eq_right hPos]

/-- A batch of no listens is sent like a single one. -/
theorem requestLimit_zero : requestLimit retries 0 = retries + 1 := by
  rw [requestLimit, Nat.clog_zero_right, Nat.add_zero, Nat.choose_succ_self_right, Nat.max_zero,
    Nat.one_mul]

theorem requestLimit_pos : 0 < requestLimit retries listens :=
  Nat.mul_pos (by omega) (Nat.choose_pos (by omega))

/-- One more retry allows at least one more request. -/
theorem requestLimit_lt_succ : requestLimit retries listens < requestLimit (retries + 1) listens := by
  have hPascal := Nat.choose_succ_succ' (retries + 1 + Nat.clog 2 listens) retries
  have hPos : 0 < (retries + 1 + Nat.clog 2 listens).choose (retries + 1) :=
    Nat.choose_pos (by omega)
  have hShift : retries + 1 + 1 + Nat.clog 2 listens = retries + 1 + Nat.clog 2 listens + 1 := by
    omega
  unfold requestLimit
  rw [hShift, hPascal]
  exact Nat.mul_lt_mul_of_pos_left (by omega) (by omega)

/-- Two halves can be cut less deep than the whole, by one. -/
theorem requestLimit_halves_le (hCut : 2 ≤ listens) :
    requestLimit retries (listens / 2) + requestLimit retries (listens - listens / 2) ≤
      listens * (retries + Nat.clog 2 listens).choose retries := by
  have hDepth : Nat.clog 2 listens = Nat.clog 2 ((listens + 1) / 2) + 1 :=
    Nat.clog_of_two_le (by decide) hCut
  have hHalf : ∀ half, 0 < half → half ≤ (listens + 1) / 2 →
      requestLimit retries half ≤ half * (retries + Nat.clog 2 listens).choose retries := by
    intro half hPos hLe
    have hShallow := Nat.clog_mono_right 2 hLe
    rw [requestLimit_of_pos hPos]
    exact Nat.mul_le_mul_left half (Nat.choose_le_choose retries (by omega))
  have hFirst := hHalf (listens / 2) (by omega) (by omega)
  have hSecond := hHalf (listens - listens / 2) (by omega) (by omega)
  have hSplit := Nat.add_mul (listens / 2) (listens - listens / 2)
    ((retries + Nat.clog 2 listens).choose retries)
  rw [show listens / 2 + (listens - listens / 2) = listens by omega] at hSplit
  omega

/-- Both halves take no more requests than the whole may take. -/
theorem requestLimit_halves_le_self (hCut : 2 ≤ listens) :
    requestLimit retries (listens / 2) + requestLimit retries (listens - listens / 2) ≤
      requestLimit retries listens := by
  refine (requestLimit_halves_le hCut).trans ?_
  rw [requestLimit_of_pos (by omega)]
  exact Nat.mul_le_mul_left listens (Nat.choose_le_choose retries (by omega))

/-- A pass over both halves, and the whole once more with one retry less. -/
theorem requestLimit_halves_add_le (hCut : 2 ≤ listens) :
    requestLimit (retries + 1) (listens / 2) + requestLimit (retries + 1) (listens - listens / 2) +
        requestLimit retries listens ≤
      requestLimit (retries + 1) listens := by
  have hPascal := Nat.choose_succ_succ' (retries + 1 + Nat.clog 2 listens) retries
  have hShift : retries + 1 + 1 + Nat.clog 2 listens = retries + 1 + Nat.clog 2 listens + 1 := by
    omega
  have hPos : 0 < listens := by omega
  have hPass : requestLimit (retries + 1) (listens / 2) +
      requestLimit (retries + 1) (listens - listens / 2) ≤
        listens * (retries + 1 + Nat.clog 2 listens).choose (retries + 1) :=
    requestLimit_halves_le hCut
  have hWhole : requestLimit (retries + 1) listens =
      requestLimit retries listens +
        listens * (retries + 1 + Nat.clog 2 listens).choose (retries + 1) := by
    rw [requestLimit_of_pos hPos, requestLimit_of_pos hPos, hShift, hPascal, Nat.mul_add]
  omega

end RequestLimit

namespace Submission

/-- The line tells that a request is repeated after a pause. -/
def isRetryNotice (line : String) : Bool :=
  (Notice.warning "Rate limited while submitting ").toList.isPrefixOf line.toList ||
    (Notice.warning "Failed to submit ").toList.isPrefixOf line.toList

variable {listens delay left : Nat}

/-- What is printed before a repetition is told from its wording. -/
theorem isRetryNotice_of_retryNotice? {outcome : Except TransportError Response} {line : String}
    (h : retryNotice? listens delay left outcome = some line) : isRetryNotice line = true := by
  cases outcome with
  | ok response =>
      simp only [retryNotice?, Option.ite_none_right_eq_some] at h
      obtain ⟨-, hLine⟩ := h
      obtain rfl := Option.some.inj hLine
      simp [isRetryNotice, Notice.warning]
  | error error =>
      obtain rfl := Option.some.inj h
      simp [isRetryNotice, Notice.warning]

/-- What is printed before a new start has another wording. -/
theorem isRetryNotice_resubmitNotice (error : ServiceError) :
    isRetryNotice (resubmitNotice listens error left) = false := by
  simp [isRetryNotice, resubmitNotice, Notice.warning, List.isPrefixOf]

end Submission

namespace Course

variable {c : Client} {token : String} {type : ListenType} {server : Server} {stage : Stage}
  {retries taken start : Nat} {batch : List Listen} {shipments : List Shipment}
  {outcome : Outcome (Checked Submission)}

/-- The most requests that a stage of a submission can take. -/
def limitOf (retries : Nat) (batch : List Listen) : Stage → Nat
  | .whole => requestLimit retries batch.length
  | .halves =>
      requestLimit retries (Batch.halves batch).1.length +
        requestLimit retries (Batch.halves batch).2.length

/-- The limit of the halves is the sum of their limits. -/
theorem limitOf_halves (retries : Nat) (batch : List Listen) :
    limitOf retries batch .halves =
      requestLimit retries (batch.length / 2) +
        requestLimit retries (batch.length - batch.length / 2) := by
  have hFirst : (Batch.halves batch).1.length = batch.length / 2 := by
    simp only [Batch.halves, List.splitAt_eq, List.length_take]
    omega
  have hSecond : (Batch.halves batch).2.length = batch.length - batch.length / 2 := by
    simp only [Batch.halves, List.splitAt_eq, List.length_drop]
  rw [limitOf, hFirst, hSecond]

/-- By induction on the course: no stage of a submission sends more requests than its limit. -/
theorem length_shipments_le
    (course : Course c token type server stage retries taken start batch shipments outcome) :
    shipments.length ≤ limitOf retries batch stage := by
  induction course with
  | settled hFits hLast => exact requestLimit_pos
  | repeated hFits hNotice rest ih => exact Nat.lt_of_le_of_lt ih requestLimit_lt_succ
  | stopped first hFailed ih => exact ih.trans (Nat.le_add_right _ _)
  | continued first hOk second ihFirst ihSecond =>
      rw [List.length_append]
      exact Nat.add_le_add ihFirst ihSecond
  | merged hCut pass hOk ih =>
      rw [limitOf_halves] at ih
      exact ih.trans (requestLimit_halves_le_self (Client.two_le_length_of_not_fits hCut))
  | abandoned hCut pass hFailed ih =>
      rw [limitOf_halves] at ih
      exact ih.trans (requestLimit_halves_le_self (Client.two_le_length_of_not_fits hCut))
  | restarted hCut pass hFailed rest ihPass ihRest =>
      rw [limitOf_halves] at ihPass
      rw [List.length_append]
      exact (Nat.add_le_add ihPass ihRest).trans
        (requestLimit_halves_add_le (Client.two_le_length_of_not_fits hCut))

/-- There is a pause for each line that announces one, and no other. -/
theorem waits_eq
    (course : Course c token type server stage retries taken start batch shipments outcome) :
    outcome.waits =
      List.replicate (outcome.lines.countP Submission.isRetryNotice) c.settings.retryDelay := by
  induction course with
  | settled hFits hLast => rfl
  | repeated hFits hNotice rest ih =>
      have hRetry := Submission.isRetryNotice_of_retryNotice? hNotice
      unfold Outcome.waits Outcome.lines at ih
      simp [Outcome.waits, Outcome.lines, List.filterMap_cons, Event.wait?, Event.line?, hRetry, ih,
        List.replicate_succ]
  | stopped first hFailed ih => exact ih
  | continued first hOk second ihFirst ihSecond =>
      unfold Outcome.waits Outcome.lines at ihFirst ihSecond
      simp [Outcome.waits, Outcome.lines, ihFirst, ihSecond, List.replicate_append_replicate]
  | merged hCut pass hOk ih => exact ih
  | abandoned hCut pass hFailed ih => exact ih
  | restarted hCut pass hFailed rest ihPass ihRest =>
      unfold Outcome.waits Outcome.lines at ihPass ihRest
      simp [Outcome.waits, Outcome.lines, List.filterMap_cons, Event.wait?, Event.line?,
        Submission.isRetryNotice_resubmitNotice, ihPass, ihRest, List.replicate_append_replicate]

/-- A pause comes between two requests. -/
theorem countP_lines_lt
    (course : Course c token type server stage retries taken start batch shipments outcome) :
    outcome.lines.countP Submission.isRetryNotice < shipments.length := by
  induction course with
  | settled hFits hLast => exact Nat.one_pos
  | repeated hFits hNotice rest ih =>
      have hRetry := Submission.isRetryNotice_of_retryNotice? hNotice
      unfold Outcome.lines at ih
      simpa [Outcome.lines, List.filterMap_cons, Event.line?, hRetry] using ih
  | stopped first hFailed ih => exact ih
  | continued first hOk second ihFirst ihSecond =>
      unfold Outcome.lines at ihFirst ihSecond
      simp only [Outcome.lines, List.filterMap_append, List.countP_append, List.length_append]
      omega
  | merged hCut pass hOk ih => exact ih
  | abandoned hCut pass hFailed ih => exact ih
  | restarted hCut pass hFailed rest ihPass ihRest =>
      unfold Outcome.lines at ihPass ihRest
      simp only [Outcome.lines, List.filterMap_append, List.filterMap_cons, Event.line?,
        List.countP_append, List.countP_cons, Submission.isRetryNotice_resubmitNotice,
        List.length_append]
      simp only [Bool.false_eq_true, if_false]
      omega

/-- Each line tells of one retry less, and there was one. -/
theorem exists_left_of_mem_lines
    (course : Course c token type server stage retries taken start batch shipments outcome)
    {line : String} (hMem : line ∈ outcome.lines) :
    ∃ left, 0 < left ∧ left ≤ retries ∧
      ((∃ listens answer,
          Submission.retryNotice? listens c.settings.retryDelay left answer = some line) ∨
        ∃ listens error, line = Submission.resubmitNotice listens error left) := by
  induction course with
  | settled hFits hLast => exact absurd hMem List.not_mem_nil
  | @repeated left taken start batch notice shipments outcome hFits hNotice rest ih =>
      have hLines : line = notice ∨ line ∈ outcome.lines := by
        simpa [Outcome.lines, List.filterMap_cons, Event.line?] using hMem
      rcases hLines with rfl | hMem
      · exact ⟨left + 1, Nat.succ_pos left, Nat.le_refl _, .inl ⟨_, _, hNotice⟩⟩
      · obtain ⟨earlier, hPos, hLe, hKind⟩ := ih hMem
        exact ⟨earlier, hPos, Nat.le_succ_of_le hLe, hKind⟩
  | stopped first hFailed ih => exact ih hMem
  | @continued retries taken start batch shipments more outcome last submission first hOk second
      ihFirst ihSecond =>
      have hLines : line ∈ outcome.lines ∨ line ∈ last.lines := by
        simpa only [Outcome.lines, List.filterMap_append, List.mem_append] using hMem
      exact hLines.elim ihFirst ihSecond
  | merged hCut pass hOk ih => exact ih hMem
  | abandoned hCut pass hFailed ih => exact ih hMem
  | @restarted left taken start batch shipments more outcome last error hCut pass hFailed rest ihPass
      ihRest =>
      have hLines : line ∈ outcome.lines ∨
          line = Submission.resubmitNotice batch.length error (left + 1) ∨ line ∈ last.lines := by
        simpa only [Outcome.lines, List.filterMap_append, List.filterMap_cons, Event.line?,
          List.mem_append, List.mem_cons] using hMem
      rcases hLines with hMem | rfl | hMem
      · exact ihPass hMem
      · exact ⟨left + 1, Nat.succ_pos left, Nat.le_refl _, .inr ⟨_, _, rfl⟩⟩
      · obtain ⟨earlier, hPos, hLe, hKind⟩ := ihRest hMem
        exact ⟨earlier, hPos, Nat.le_succ_of_le hLe, hKind⟩

end Course

namespace Client

/-- A submission ends after a bounded number of requests, whatever the server does. Every line that it
prints tells of a retry that was left. It pauses once for each line that announces a pause, for as long
as the settings say or as a wait can take, and has fewer pauses than requests. -/
theorem run_submit_bounded (c : Client) (token : String) (type : ListenType) (server : Server)
    (retries taken : Nat) (batch : List Listen) :
    let outcome := (c.submit token type retries batch).run server taken
    let pauses := outcome.lines.countP Submission.isRetryNotice
    (batch = [] → outcome.attempts.length ≤ retries + 1) ∧
      (batch ≠ [] →
        outcome.attempts.length ≤
          batch.length * (retries + 1 + Nat.clog 2 batch.length).choose retries) ∧
      (∀ line ∈ outcome.lines, ∃ left, 0 < left ∧ left ≤ retries ∧
        ((∃ listens answer,
            Submission.retryNotice? listens c.settings.retryDelay left answer = some line) ∨
          ∃ listens error, line = Submission.resubmitNotice listens error left)) ∧
      outcome.waits = List.replicate pauses c.settings.retryDelay ∧
      outcome.waited = pauses * min c.settings.retryDelay Event.longestWait ∧
      pauses < outcome.attempts.length := by
  intro outcome pauses
  have course := c.course token type server retries taken 0 batch
  have hLimit : outcome.attempts.length ≤ requestLimit retries batch.length := by
    rw [course.attempts_eq, List.length_map]
    exact course.length_shipments_le
  refine ⟨?_, ?_, fun line hMem => course.exists_left_of_mem_lines hMem, course.waits_eq, ?_, ?_⟩
  · rintro rfl
    rwa [List.length_nil, requestLimit_zero] at hLimit
  · intro hNonempty
    rwa [requestLimit_of_pos (List.length_pos_iff.mpr hNonempty)] at hLimit
  · exact outcome.waited_of_waits_eq course.waits_eq
  · rw [course.attempts_eq, List.length_map]
    exact course.countP_lines_lt

/-- No answer comes from a server that cannot be reached. -/
theorem exists_error_of_unreachable (c : Client) (token : String) (taken : Nat) :
    ∃ error, (c.delivery token .unreachable taken).outcome = .error error := by
  unfold delivery Server.deliver
  cases (c.post token "submit-listens").request with
  | error fault => exact ⟨fault, rfl⟩
  | ok request => exact ⟨_, rfl⟩

/-- One pause of more than thirty years is cut short, so that the time waited is not the pause of the
settings for each line that announces one. -/
theorem not_forall_waited_eq_mul_notices :
    ¬∀ (c : Client) (token : String) (type : ListenType) (server : Server) (retries taken : Nat)
        (batch : List Listen),
      ((c.submit token type retries batch).run server taken).waited =
        c.settings.retryDelay *
          ((c.submit token type retries batch).run server taken).lines.countP
            Submission.isRetryNotice := by
  intro h
  let c := Client.ofSettings
    { Settings.standard with apiRoot := "nope", retryDelay := Event.longestWait + 1 }
  let listen := Listen.ofTrack "Portishead" "Roads"
  have hFits : c.fits .single [listen] = true := by simp [fits]
  obtain ⟨error, hError⟩ := exists_error_of_unreachable c "secret" 0
  have hNotice := congrArg
    (Submission.retryNotice? [listen].length c.settings.retryDelay 1) hError
  have course : Course c "secret" .single .unreachable .whole 1 0 0 [listen] _ _ :=
    .repeated hFits hNotice (.settled hFits (.inl rfl))
  have hPauses := congrArg List.length course.waits_eq
  rw [List.length_replicate] at hPauses
  have hWaited := Outcome.waited_of_waits_eq _ course.waits_eq
  have hClaimed := h c "secret" .single .unreachable 1 0 [listen]
  rw [course.run_eq, hWaited, ← hPauses] at hClaimed
  have hOnce : 1 * min (Event.longestWait + 1) Event.longestWait = (Event.longestWait + 1) * 1 :=
    hClaimed
  omega

end Client

end Scrobbler
