import Mathlib.Data.List.Basic
import Scrobbler.Proofs.Submission.Shipments

/-!
Batches that are sent in one request. Such a submission is a bounded loop: the same request is sent until
an answer comes that is kept whatever happens, or until no retries are left. How many retries there are
shows only in what is printed, unless they run out.
-/

namespace Scrobbler

/-- An answer came that does not ask for patience. -/
def Delivery.IsFinal (d : Delivery) : Prop :=
  ∃ response, d.outcome = .ok response ∧ response.status.code ≠ 429

instance (d : Delivery) : Decidable d.IsFinal :=
  match hOutcome : d.outcome with
  | .ok response => decidable_of_iff (response.status.code ≠ 429) (by simp [Delivery.IsFinal, hOutcome])
  | .error _ => isFalse (by simp [Delivery.IsFinal, hOutcome])

/-- What is done, without the text of a line. -/
def Event.withoutText : Event → Event
  | .line _ => .line ""
  | event => event

namespace Submission

variable {listens delay left : Nat}

/-- Only a final answer is taken without a word. -/
theorem retryNotice?_eq_none_iff {d : Delivery} :
    retryNotice? listens delay left d.outcome = none ↔ d.IsFinal := by
  unfold Delivery.IsFinal
  cases d.outcome with
  | error error => simp [retryNotice?]
  | ok response => simp [retryNotice?, Status.isRateLimited]

end Submission

namespace Server

variable {server : Server} {draft : Draft} {taken : Nat}

/-- A request that is not read meets the same end at any time. -/
theorem deliver_of_not_received (h : (server.deliver taken draft).received = false) (later : Nat) :
    server.deliver later draft = server.deliver taken draft := by
  unfold deliver at h ⊢
  cases hRequest : draft.request with
  | error fault => rfl
  | ok request =>
      cases server with
      | scripted reply => simp [hRequest] at h
      | unreachable => rfl

/-- The attempts after one attempt get the replies from the next one on. -/
theorem deliver_takenAfter (server : Server) (draft : Draft) (taken i : Nat) :
    server.deliver ((server.deliver taken draft).takenAfter taken + i) draft =
      server.deliver (taken + (i + 1)) draft := by
  cases hReceived : (server.deliver taken draft).received with
  | true => rw [Delivery.takenAfter, hReceived, if_pos rfl, Nat.add_right_comm, Nat.add_assoc]
  | false => rw [deliver_of_not_received hReceived (_ + i), deliver_of_not_received hReceived (taken + (i + 1))]

/-- Whether a request reaches the server does not depend on how many came before. -/
theorem received_deliver (server : Server) (draft : Draft) (taken later : Nat) :
    (server.deliver later draft).received = (server.deliver taken draft).received := by
  unfold deliver
  cases draft.request with
  | error fault => rfl
  | ok request => cases server <;> rfl

/-- A server that can be reached reads every request that can be built. -/
theorem received?_attempt {request : Request} (hRequest : draft.request = .ok request)
    (hReachable : server ≠ .unreachable) :
    (Event.attempt draft (server.deliver taken draft)).received? = some request := by
  unfold deliver
  cases server with
  | scripted reply => simp [hRequest, Event.received?, Except.toOption]
  | unreachable => exact absurd rfl hReachable

end Server

namespace Client

section

variable (c : Client) (token : String) (type : ListenType) (server : Server)

/-- A request that is repeated: it is told what went wrong, and a pause is made. -/
def round (retries taken : Nat) (batch : List Listen) : List Event :=
  .attempt (c.submissionDraft token type batch) (c.delivery token server taken) ::
    ((c.retryNotice? token server retries batch taken).map Event.line).toList ++
      [.wait c.settings.retryDelay]

/-- A batch is sent `again` times in vain, and then once more. -/
def loop (retries taken : Nat) (batch : List Listen) (again : Nat) : Outcome (Checked Submission) where
  value := Submission.ofOutcome (c.delivery token server (taken + again)).outcome
  taken := if (c.delivery token server taken).received then taken + (again + 1) else taken
  trace :=
    (List.range again).flatMap (fun i => c.round token type server (retries - i) (taken + i) batch) ++
      [.attempt (c.submissionDraft token type batch) (c.delivery token server (taken + again))]

end

variable {c : Client} {token : String} {type : ListenType} {server : Server}
  {retries left taken again : Nat} {batch : List Listen}

/-- The delivery after one more attempt is the next one, also where the server cannot be reached. -/
theorem delivery_takenAfter (i : Nat) :
    c.delivery token server ((c.delivery token server taken).takenAfter taken + i) =
      c.delivery token server (taken + (i + 1)) :=
  server.deliver_takenAfter _ taken i

/-- A loop starts with a request that is repeated. -/
theorem loop_succ {notice : String}
    (hNotice : c.retryNotice? token server (left + 1) batch taken = some notice) :
    c.loop token type server (left + 1) taken batch (again + 1) =
      let rest := c.loop token type server left ((c.delivery token server taken).takenAfter taken) batch again
      { rest with
        trace :=
          .attempt (c.submissionDraft token type batch) (c.delivery token server taken) ::
            .line notice :: .wait c.settings.retryDelay :: rest.trace } := by
  have hRounds (i : Nat) : c.round token type server (left + 1 - (i + 1)) (taken + (i + 1)) batch =
      c.round token type server (left - i)
        ((c.delivery token server taken).takenAfter taken + i) batch := by
    rw [round, round, retryNotice?, retryNotice?, delivery_takenAfter, Nat.add_sub_add_right]
  have hReceived : (c.delivery token server ((c.delivery token server taken).takenAfter taken)).received =
      (c.delivery token server taken).received := server.received_deliver _ _ _
  unfold loop
  rw [delivery_takenAfter, hReceived, List.range_succ_eq_map, List.flatMap_cons, List.flatMap_map]
  simp only [Nat.succ_eq_add_one, hRounds, Nat.sub_zero, Nat.add_zero]
  congr 1
  · unfold Delivery.takenAfter
    split
    · omega
    · rfl
  · rw [round, hNotice]
    rfl

/-- A batch that fits is sent in a loop, which ends at the first final answer or when no retries are
left. -/
theorem run_submit_eq_loop (hFits : c.fits type batch = true) (hLe : again ≤ retries)
    (hRepeated : ∀ i < again, ¬(c.delivery token server (taken + i)).IsFinal)
    (hLast : again = retries ∨ (c.delivery token server (taken + again)).IsFinal) :
    (c.submit token type retries batch).run server taken =
      c.loop token type server retries taken batch again := by
  induction again generalizing retries taken with
  | zero =>
      have hSettled : retries = 0 ∨ c.retryNotice? token server retries batch taken = none := by
        apply hLast.imp Eq.symm
        exact Submission.retryNotice?_eq_none_iff.mpr
      rw [run_submit_settled hFits hSettled]
      rfl
  | succ again ih =>
      obtain ⟨left, rfl⟩ := Nat.exists_eq_add_one_of_ne_zero (Nat.ne_zero_of_lt hLe)
      cases hNotice : c.retryNotice? token server (left + 1) batch taken with
      | none =>
          have hFinal := Submission.retryNotice?_eq_none_iff.mp hNotice
          exact absurd hFinal (hRepeated 0 (Nat.succ_pos again))
      | some notice =>
          rw [run_submit_repeated hFits hNotice, loop_succ hNotice, ih]
          · exact Nat.le_of_succ_le_succ hLe
          · intro i hLess
            rw [delivery_takenAfter]
            exact hRepeated (i + 1) (Nat.succ_lt_succ hLess)
          · rw [delivery_takenAfter]
            exact hLast.imp_left Nat.succ.inj

theorem filterMap_singleton {β : Type} (pick : Event → Option β) (event : Event) :
    [event].filterMap pick = (pick event).toList := by
  cases hPick : pick event <;> simp [hPick]

/-- What is picked from a round: something of its request, of its line and of its pause. -/
theorem filterMap_round {β : Type} (pick : Event → Option β) :
    (c.round token type server retries taken batch).filterMap pick =
      (pick (.attempt (c.submissionDraft token type batch) (c.delivery token server taken))).toList ++
        ((c.retryNotice? token server retries batch taken).bind (pick <| .line ·)).toList ++
          (pick (.wait c.settings.retryDelay)).toList := by
  rw [round, List.cons_append, ← List.singleton_append, List.filterMap_append, List.filterMap_append,
    filterMap_singleton, filterMap_singleton, List.append_assoc]
  cases c.retryNotice? token server retries batch taken with
  | none => rfl
  | some notice => simp [filterMap_singleton]

/-- If one thing is picked from each round of a loop, these things are picked from the loop, and then that
of its last request. -/
theorem filterMap_loop {β : Type} {pick : Event → Option β} (f : Nat → β)
    (hRound : ∀ i < again,
      (c.round token type server (retries - i) (taken + i) batch).filterMap pick = [f i]) :
    (c.loop token type server retries taken batch again).trace.filterMap pick =
      (List.range again).map f ++
        (pick (.attempt (c.submissionDraft token type batch)
          (c.delivery token server (taken + again)))).toList := by
  rw [loop, List.filterMap_append, List.filterMap_flatMap, filterMap_singleton, List.map_eq_flatMap]
  congr 1
  apply List.flatMap_congr
  intro i hMem
  exact hRound i (List.mem_range.mp hMem)

end Client

/-- What shows of a run that sends one request `again` times in vain and then once more: it is the same
request each time, and before each time but the first one line tells how many retries are left, and one pause
is made. -/
structure Repeats (c : Client) (token : String) (type : ListenType) (server : Server)
    (retries taken : Nat) (batch : List Listen) (again : Nat) (outcome : Outcome (Checked Submission)) :
    Prop where
  attempts : outcome.attempts = List.replicate (again + 1) (c.submissionDraft token type batch)
  requests : ∀ request, (c.submissionDraft token type batch).request = .ok request →
    server ≠ .unreachable → outcome.requests = List.replicate (again + 1) request
  deliveries : outcome.deliveries =
    (List.range (again + 1)).map fun i => c.delivery token server (taken + i)
  waits : outcome.waits = List.replicate again c.settings.retryDelay
  lines : outcome.lines.map some =
    (List.range again).map fun i => c.retryNotice? token server (retries - i) batch (taken + i)

namespace Client

variable {c : Client} {token : String} {type : ListenType} {server : Server}
  {retries taken again : Nat} {batch : List Listen}

/-- The loop repeats as often as the outcome is not final. -/
theorem repeats_loop (hRepeated : ∀ i < again, ¬(c.delivery token server (taken + i)).IsFinal) :
    Repeats c token type server retries taken batch again
      (c.loop token type server retries taken batch again) where
  attempts := by
    rw [Outcome.attempts, filterMap_loop fun _ => c.submissionDraft token type batch]
    · rw [List.map_const', List.length_range, List.replicate_succ']
      rfl
    · intro i hLess
      simp [filterMap_round, Event.draft?]
  requests := by
    intro request hRequest hReachable
    have hReceived (i : Nat) : (Event.attempt (c.submissionDraft token type batch)
        (c.delivery token server (taken + i))).received? = some request := by
      rw [← deliver_submissionDraft c token type server _ batch]
      exact Server.received?_attempt hRequest hReachable
    rw [Outcome.requests, filterMap_loop fun _ => request]
    · rw [List.map_const', List.length_range, List.replicate_succ', hReceived]
      rfl
    · intro i hLess
      rw [filterMap_round, hReceived]
      simp [Event.received?]
  deliveries := by
    rw [Outcome.deliveries, Outcome.sent, filterMap_loop fun i =>
      (c.submissionDraft token type batch, c.delivery token server (taken + i))]
    · rw [List.map_append, List.map_map, List.range_succ, List.map_append]
      rfl
    · intro i hLess
      simp [filterMap_round, Event.sent?]
  waits := by
    rw [Outcome.waits, filterMap_loop fun _ => c.settings.retryDelay]
    · rw [List.map_const', List.length_range]
      exact List.append_nil _
    · intro i hLess
      simp [filterMap_round, Event.wait?]
  lines := by
    have hTold {i : Nat} (hLess : i < again) :
        ∃ notice, c.retryNotice? token server (retries - i) batch (taken + i) = some notice := by
      apply Option.ne_none_iff_exists'.mp
      intro hNone
      exact hRepeated i hLess (Submission.retryNotice?_eq_none_iff.mp hNone)
    rw [Outcome.lines, filterMap_loop fun i =>
      (c.retryNotice? token server (retries - i) batch (taken + i)).getD ""]
    · rw [List.map_append, List.map_map]
      show _ ++ [] = _
      rw [List.append_nil]
      apply List.map_congr_left
      intro i hMem
      obtain ⟨notice, hNotice⟩ := hTold (List.mem_range.mp hMem)
      simp [hNotice]
    · intro i hLess
      obtain ⟨notice, hNotice⟩ := hTold hLess
      simp [filterMap_round, Event.line?, hNotice]

/-- Without its texts, a round is the same however many retries are left. -/
theorem map_withoutText_round (hRepeated : ¬(c.delivery token server taken).IsFinal) :
    (c.round token type server retries taken batch).map Event.withoutText =
      [.attempt (c.submissionDraft token type batch) (c.delivery token server taken), .line "",
        .wait c.settings.retryDelay] := by
  cases hNotice : c.retryNotice? token server retries batch taken with
  | none => exact absurd (Submission.retryNotice?_eq_none_iff.mp hNotice) hRepeated
  | some notice =>
      rw [round, hNotice]
      rfl

/-- The number of retries shows only in the texts of a loop. -/
theorem map_withoutText_loop (more : Nat)
    (hRepeated : ∀ i < again, ¬(c.delivery token server (taken + i)).IsFinal) :
    (c.loop token type server more taken batch again).trace.map Event.withoutText =
      (c.loop token type server retries taken batch again).trace.map Event.withoutText := by
  unfold loop
  rw [List.map_append, List.map_append, List.map_flatMap, List.map_flatMap]
  congr 1
  apply List.flatMap_congr
  intro i hMem
  have hRepeated := hRepeated i (List.mem_range.mp hMem)
  rw [map_withoutText_round hRepeated, map_withoutText_round hRepeated]

/-- A batch that fits in one request is submitted in a bounded loop. If an answer that does not ask for
patience comes while retries are left, the first such answer is returned, and a larger number of retries
would change nothing but the counts in the lines. Otherwise all retries are used up, and what came last
decides. A pause takes as long as the settings say, or thirty years if that is longer. -/
theorem run_submit_of_fits (c : Client) (token : String) (type : ListenType) (server : Server)
    (retries taken : Nat) (batch : List Listen) (hFits : c.fits type batch = true) :
    let outcome := (c.submit token type retries batch).run server taken
    let pause := min c.settings.retryDelay Event.longestWait
    (∀ again ≤ retries,
      (∀ i < again, ¬(c.delivery token server (taken + i)).IsFinal) →
      (c.delivery token server (taken + again)).IsFinal →
        Repeats c token type server retries taken batch again outcome ∧
          outcome.waited = again * pause ∧
          (∃ response, (c.delivery token server (taken + again)).outcome = .ok response ∧
            outcome.value = .ok (.completed response)) ∧
          ∀ more ≥ retries,
            let other := (c.submit token type more batch).run server taken
            other.value = outcome.value ∧ other.taken = outcome.taken ∧
              other.trace.map Event.withoutText = outcome.trace.map Event.withoutText) ∧
      ((∀ i ≤ retries, ¬(c.delivery token server (taken + i)).IsFinal) →
        Repeats c token type server retries taken batch retries outcome ∧
          outcome.waited = retries * pause ∧
          match (c.delivery token server (taken + retries)).outcome with
          | .ok response =>
              response.status.code = 429 ∧ outcome.value = .ok (.completed response)
          | .error error => outcome.value = .error (.transport error)) := by
  intro outcome pause
  constructor
  · intro again hLe hRepeated hFinal
    have hLoop : outcome = c.loop token type server retries taken batch again :=
      run_submit_eq_loop hFits hLe hRepeated (.inr hFinal)
    have hRepeats : Repeats c token type server retries taken batch again outcome := by
      rw [hLoop]
      exact repeats_loop hRepeated
    refine ⟨hRepeats, outcome.waited_of_waits_eq hRepeats.waits, ?_, ?_⟩
    · obtain ⟨response, hAnswer, -⟩ := hFinal
      refine ⟨response, hAnswer, ?_⟩
      rw [hLoop, loop, hAnswer]
      rfl
    · intro more hMore
      rw [hLoop, run_submit_eq_loop hFits (Nat.le_trans hLe hMore) hRepeated (.inr hFinal)]
      exact ⟨rfl, rfl, map_withoutText_loop more hRepeated⟩
  · intro hRepeated
    have hBefore (i : Nat) (hLess : i < retries) : ¬(c.delivery token server (taken + i)).IsFinal :=
      hRepeated i (Nat.le_of_lt hLess)
    have hLoop : outcome = c.loop token type server retries taken batch retries :=
      run_submit_eq_loop hFits (Nat.le_refl _) hBefore (.inl rfl)
    have hRepeats : Repeats c token type server retries taken batch retries outcome := by
      rw [hLoop]
      exact repeats_loop hBefore
    refine ⟨hRepeats, outcome.waited_of_waits_eq hRepeats.waits, ?_⟩
    have hLast := hRepeated retries (Nat.le_refl _)
    rw [hLoop, loop]
    cases hOutcome : (c.delivery token server (taken + retries)).outcome with
    | error error => rfl
    | ok response =>
        refine ⟨?_, rfl⟩
        by_contra hCode
        exact hLast ⟨response, hOutcome, hCode⟩

/-- Of two answers, only the second one is final. -/
theorem isFinal_loopback_iff (retryDelay i : Nat) (hLe : i ≤ 1) :
    ((loopback retryDelay).delivery "secret" (.ofStatuses [429, 200]) (0 + i)).IsFinal ↔ i = 1 := by
  have hAnswers : ∀ i ≤ 1,
      ((loopback 0).delivery "secret" (.ofStatuses [429, 200]) (0 + i)).IsFinal ↔ i = 1 := by
    decide +kernel
  exact hAnswers i hLe

theorem not_isFinal_loopback (retryDelay : Nat) :
    ∀ i < 1, ¬((loopback retryDelay).delivery "secret" (.ofStatuses [429, 200]) (0 + i)).IsFinal := by
  intro i hLess
  rw [isFinal_loopback_iff retryDelay i (Nat.le_of_lt hLess)]
  exact Nat.ne_of_lt hLess

/-- One listen, for a server that asks for patience once: it is sent twice. -/
theorem run_submit_of_fits_one_listen :
    let c := loopback 3000
    let listen := Listen.ofTrack "Portishead" "Roads"
    let outcome := (c.submit "secret" .single 1 [listen]).run (.ofStatuses [429, 200]) 0
    outcome.attempts = List.replicate 2 (c.submissionDraft "secret" .single [listen]) ∧
      outcome.waited = 3000 ∧
      outcome.lines =
        ["[!] Rate limited while submitting 1 listens. Retrying in 3000ms (1 left)."] := by
  intro c listen outcome
  have hFits : c.fits .single [listen] = true := fits_loopback 3000 [listen]
  have hFinal := (isFinal_loopback_iff 3000 1 (Nat.le_refl _)).mpr rfl
  obtain ⟨hRepeats, hWaited, -⟩ :=
    (run_submit_of_fits c "secret" .single _ 1 0 [listen] hFits).1 1 (Nat.le_refl _) (not_isFinal_loopback 3000)
      hFinal
  refine ⟨hRepeats.attempts, hWaited, ?_⟩
  apply List.map_injective_iff.mpr fun _ _ => Option.some.inj
  rw [hRepeats.lines]
  decide +kernel

/-- A pause of more than thirty years is cut short, and the counts in the lines tell two numbers of retries
apart. -/
theorem not_waited_eq_and_run_eq :
    (¬∀ (c : Client) (token : String) (type : ListenType) (server : Server)
        (retries taken again : Nat) (batch : List Listen),
      c.fits type batch = true → again ≤ retries →
      (∀ i < again, ¬(c.delivery token server (taken + i)).IsFinal) →
      (c.delivery token server (taken + again)).IsFinal →
        ((c.submit token type retries batch).run server taken).waited =
          again * c.settings.retryDelay) ∧
      ¬∀ (c : Client) (token : String) (type : ListenType) (server : Server)
          (retries more taken again : Nat) (batch : List Listen),
        c.fits type batch = true → retries ≤ more → again ≤ retries →
        (∀ i < again, ¬(c.delivery token server (taken + i)).IsFinal) →
        (c.delivery token server (taken + again)).IsFinal →
          (c.submit token type more batch).run server taken =
            (c.submit token type retries batch).run server taken := by
  let server := Server.ofStatuses [429, 200]
  let listen := Listen.ofTrack "Portishead" "Roads"
  have hFits (retryDelay : Nat) : (loopback retryDelay).fits .single [listen] = true :=
    fits_loopback retryDelay [listen]
  have hRepeated (retryDelay : Nat) :
      ∀ i < 1, ¬((loopback retryDelay).delivery "secret" server (0 + i)).IsFinal :=
    not_isFinal_loopback retryDelay
  have hFinal (retryDelay : Nat) :
      ((loopback retryDelay).delivery "secret" server (0 + 1)).IsFinal :=
    (isFinal_loopback_iff retryDelay 1 (Nat.le_refl _)).mpr rfl
  have hRepeats (retryDelay left : Nat) :
      Repeats (loopback retryDelay) "secret" .single server (left + 1) 0 [listen] 1
        (((loopback retryDelay).submit "secret" .single (left + 1) [listen]).run server 0) := by
    rw [run_submit_eq_loop (hFits retryDelay) (Nat.le_add_left 1 left) (hRepeated retryDelay)
      (.inr (hFinal retryDelay))]
    exact repeats_loop (hRepeated retryDelay)
  constructor
  · intro h
    let tooLong := Event.longestWait + 1
    have hClaimed := h (loopback tooLong) "secret" .single server 1 0 1 [listen] (hFits _)
      (Nat.le_refl _) (hRepeated _) (hFinal _)
    rw [Outcome.waited_of_waits_eq _ (hRepeats tooLong 0).waits] at hClaimed
    revert hClaimed
    decide
  · intro h
    have hClaimed := h (loopback 3000) "secret" .single server 1 2 0 1 [listen] (hFits _)
      (Nat.le_succ 1) (Nat.le_refl _) (hRepeated _) (hFinal _)
    have hLines := (hRepeats 3000 1).lines
    rw [hClaimed, (hRepeats 3000 0).lines] at hLines
    revert hLines
    decide +kernel

end Client

end Scrobbler
