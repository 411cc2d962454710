import Mathlib.Algebra.BigOperators.Group.List.Basic
import Scrobbler.Proofs.Http.Address
import Scrobbler.Proofs.Program.ImportBatches
import Scrobbler.Proofs.Submission.RequestBound

/-!
The pauses of an import. Besides those of its submissions, an import makes a pause when the response to a
batch says that the server takes no more requests, for as long as the response tells. It does so after the
last batch as well, when nothing is left to be sent.
-/

namespace Scrobbler.Program

/-- The milliseconds until the server takes requests again, when a submission ended with a response that
says so. -/
def cooldown? : Checked Submission → Option Nat
  | .ok (.completed response) =>
      if response.count? "x-ratelimit-remaining" = some 0 then
        (response.count? "x-ratelimit-reset-in").map (· * 1000)
      else none
  | _ => none

/-- The runs of the submissions of batches, one after the other, with a server that has taken `taken`
requests. -/
def submissionRuns (c : Client) (token : String) (type : ListenType) (server : Server) :
    Nat → List (List Listen) → List (Outcome (Checked Submission))
  | _, [] => []
  | taken, batch :: rest =>
      let submitted := (c.submitListens token type batch).run server taken
      submitted :: submissionRuns c token type server submitted.taken rest

/-- Submissions with pauses: after each one, and before anything else is sent, comes the pause that it asks
for, and no other. -/
inductive Paced : List (Outcome (Checked Submission)) → List Event → Prop
  | nil : Paced [] []
  | cons {submitted : Outcome (Checked Submission)} {rest : List (Outcome (Checked Submission))}
      {remarks events : List Event} (hRemarks : Silent remarks)
      (hWaits : remarks.filterMap Event.wait? = (cooldown? submitted.value).toList)
      (more : Paced rest events) :
      Paced (submitted :: rest) (submitted.trace ++ remarks ++ events)

section

variable {c : Client} {token : String} {type : ListenType} {server : Server} {taken : Nat}

/-- A pause is made for a rate limit of which nothing remains. -/
theorem waits_awaitRateLimit (response : Response) :
    ((awaitRateLimit response).run server taken).waits =
      (cooldown? (.ok (.completed response))).toList := by
  show _ = Option.toList (if _ then _ else none)
  unfold awaitRateLimit Response.rateLimit?
  cases response.count? "x-ratelimit-remaining" with
  | none => rfl
  | some remaining =>
      cases response.count? "x-ratelimit-reset-in" with
      | none => cases remaining <;> rfl
      | some resetIn => cases remaining <;> rfl

/-- A report only prints. -/
theorem waits_report (label : String) (value : Checked Submission) :
    ((report label value).run server taken).waits = [] := by
  unfold report
  cases failureNotice? label value <;> rfl

variable (c token type server taken) in
/-- A batch of an import is submitted, and then the pause is made that the submission asks for. -/
theorem trace_importBatch_paced (label : String) (batch : List Listen) :
    let submitted := (c.submitListens token type batch).run server taken
    ∃ remarks, Silent remarks ∧ remarks.filterMap Event.wait? = (cooldown? submitted.value).toList ∧
      ((importBatch c token type label batch).run server taken).trace = submitted.trace ++ remarks := by
  intro submitted
  obtain ⟨remarks, hRemarks, hTrace⟩ := trace_importBatch c token type server taken label batch
  refine ⟨remarks, hRemarks, ?_, hTrace⟩
  have hWaits : ((importBatch c token type label batch).run server taken).waits =
      submitted.waits ++ remarks.filterMap Event.wait? := by
    rw [Outcome.waits, hTrace, List.filterMap_append]
    rfl
  rw [importBatch, Session.waits_run_bind, Session.waits_run_bind, waits_report, List.nil_append] at hWaits
  rw [← List.append_cancel_left hWaits]
  obtain ⟨hReported, -⟩ := report_yields label submitted.value server submitted.taken
  rw [hReported]
  rcases submitted.value with error | ⟨response | error⟩
  · rfl
  · show (((awaitRateLimit response).bind _).run server _).waits = _
    rw [Session.waits_run_bind, waits_awaitRateLimit]
    exact List.append_nil _
  · rfl

/-- The batches of an import are submitted with the pauses that their submissions ask for. -/
theorem paced_importBatches (total index : Nat) (batches : List (List Listen)) :
    Paced (submissionRuns c token type server taken batches)
      ((importBatches c token type total index batches).run server taken).trace := by
  induction batches generalizing taken index with
  | nil => exact .nil
  | cons batch rest ih =>
      let label := "Batch " ++ decimal index ++ "/" ++ decimal total
      obtain ⟨remarks, hRemarks, hWaits, hTrace⟩ :=
        trace_importBatch_paced c token type server taken label batch
      obtain ⟨-, hTaken, -⟩ := run_importBatch c token type server taken 0 label batch
      rw [importBatches, Session.trace_run_bind, Session.trace_run_bind, hTrace, hTaken]
      simp only [Session.run, List.append_nil]
      exact .cons hRemarks hWaits (ih (index + 1))

/-- The pauses of submissions, each with the one after it. -/
theorem Paced.waits_eq {runs : List (Outcome (Checked Submission))} {events : List Event}
    (h : Paced runs events) :
    events.filterMap Event.wait? = runs.flatMap fun run => run.waits ++ (cooldown? run.value).toList := by
  induction h with
  | nil => rfl
  | cons hRemarks hWaits more ih =>
      rw [List.filterMap_append, List.filterMap_append, ih, hWaits]
      rfl

/-- The time that passes is that of the submissions, and that of the pauses after them. -/
theorem Paced.sum_waits {runs : List (Outcome (Checked Submission))} {events : List Event}
    (h : Paced runs events) :
    ((events.filterMap Event.wait?).map fun wait => min wait Event.longestWait).sum =
      (runs.map Outcome.waited).sum +
        (runs.map fun run => min ((cooldown? run.value).getD 0) Event.longestWait).sum := by
  rw [h.waits_eq]
  induction runs generalizing events with
  | nil => rfl
  | cons run rest ih =>
      cases h with
      | cons hRemarks hWaits more =>
          have hRun : (run.waits.map fun wait => min wait Event.longestWait).sum = run.waited :=
            run.waited_eq_foldr.symm
          have hPause : ((cooldown? run.value).toList.map fun wait => min wait Event.longestWait).sum =
              min ((cooldown? run.value).getD 0) Event.longestWait := by
            cases cooldown? run.value <;> simp
          simp only [List.flatMap_cons, List.map_append, List.map_cons, List.sum_append, List.sum_cons,
            hRun, hPause, ih more]
          omega

/-- Each run of an import submits one of its batches. -/
theorem mem_submissionRuns {batches : List (List Listen)} {run : Outcome (Checked Submission)}
    (hMem : run ∈ submissionRuns c token type server taken batches) :
    ∃ batch ∈ batches, ∃ earlier, run = (c.submitListens token type batch).run server earlier := by
  induction batches generalizing taken with
  | nil => nomatch hMem
  | cons batch rest ih =>
      rcases List.mem_cons.mp hMem with rfl | hMem
      · exact ⟨batch, List.mem_cons_self, taken, rfl⟩
      · obtain ⟨other, hOther, earlier, hRun⟩ := ih hMem
        exact ⟨other, List.mem_cons_of_mem batch hOther, earlier, hRun⟩

/-- The pauses of a submission are those that its settings ask for. -/
theorem waits_of_mem_submissionRuns {batches : List (List Listen)} {run : Outcome (Checked Submission)}
    (hMem : run ∈ submissionRuns c token type server taken batches) :
    run.waits =
      List.replicate (run.lines.countP Submission.isRetryNotice) c.settings.retryDelay := by
  obtain ⟨batch, -, earlier, rfl⟩ := mem_submissionRuns hMem
  exact (c.course token type server c.settings.defaultRetries earlier 0 batch).waits_eq

variable {m : Machine} {files : List String} {contents : List (List Listen)}

/-- No time passes while files are read. -/
theorem waits_readFiles : ((readFiles m files).run server taken).waits = [] := by
  induction files with
  | nil => rfl
  | cons first rest ih =>
      unfold readFiles
      split
      · rfl
      · split
        · rfl
        · show (((readFiles m rest).bind _).run server taken).waits = []
          rw [Session.waits_run_bind, ih]
          rfl

/-- An import of files that can be read submits their listens with the pauses that are asked for. -/
theorem trace_importFiles_paced {given : Option String} {token : String}
    (hToken : m.token given = .ok token) (hFiles : List.Forall₂ m.Reads files contents)
    (batchSize : Nat) (type : ListenType) (server : Server) (taken : Nat) :
    ∃ before events imported,
      ((importFiles m files batchSize type given).run server taken).trace =
        before ++ events ++ [.line (closingNotice imported contents.flatten.length)] ∧
      Silent before ∧ before.filterMap Event.wait? = [] ∧
      Paced (submissionRuns m.client token type server taken (Batch.chunks batchSize contents.flatten))
        events := by
  obtain ⟨hValue, hTaken, hSent⟩ := readFiles_yields hFiles server taken
  have hBefore := silent_of_sent_eq_nil hSent
  have hWaits : ((readFiles m files).run server taken).waits = [] := waits_readFiles
  simp only [importFiles, withToken, hToken, Session.trace_run_bind, hValue, hTaken]
  cases hListens : contents.flatten with
  | nil =>
      refine ⟨_, [], 0, ?_, hBefore, hWaits, ?_⟩
      · rw [List.append_nil]
        rfl
      · rw [Batch.chunks]
        exact .nil
  | cons listen rest =>
      let batches := Batch.chunks batchSize (listen :: rest)
      refine ⟨_, _, ((importBatches m.client token type batches.length 1 batches).run server taken).value,
        ?_, hBefore, hWaits, paced_importBatches batches.length 1 batches⟩
      rw [List.append_assoc, Session.trace_run_bind]
      rfl

/-- The time that an import takes is that of its submissions, and that of the pauses after them. -/
theorem sum_waited_importFiles {given : Option String} {token : String}
    (hToken : m.token given = .ok token) (hFiles : List.Forall₂ m.Reads files contents)
    (batchSize : Nat) (type : ListenType) (server : Server) (taken : Nat) :
    let runs := submissionRuns m.client token type server taken
      (Batch.chunks batchSize contents.flatten)
    ((importFiles m files batchSize type given).run server taken).waited =
      (runs.map Outcome.waited).sum +
        (runs.map fun run => min ((cooldown? run.value).getD 0) Event.longestWait).sum := by
  intro runs
  obtain ⟨before, events, imported, hTrace, -, hNoWaits, hPaced⟩ :=
    trace_importFiles_paced hToken hFiles batchSize type server taken
  have hWaits : ((importFiles m files batchSize type given).run server taken).waits =
      events.filterMap Event.wait? := by
    rw [Outcome.waits, hTrace, List.filterMap_append, List.filterMap_append, hNoWaits]
    exact List.append_nil _
  rw [Outcome.waited_eq_foldr, hWaits]
  exact hPaced.sum_waits

/-- Pauses that are not cut short add up to the pauses that are asked for if the last one is none. -/
theorem sum_capped_eq_iff {α : Type} (pause : α → Nat) (runs : List α) {limit : Nat} (hLimit : 0 < limit)
    (hShort : ∀ run ∈ runs.dropLast, pause run ≤ limit) :
    (runs.map fun run => min (pause run) limit).sum = (runs.dropLast.map pause).sum ↔
      ∀ last ∈ runs.getLast?, pause last = 0 := by
  rcases List.eq_nil_or_concat runs with rfl | ⟨earlier, last, rfl⟩
  · simp
  · rw [List.concat_eq_append] at hShort ⊢
    rw [List.dropLast_concat] at hShort ⊢
    have hEarlier : (earlier.map fun run => min (pause run) limit) = earlier.map pause := by
      apply List.map_congr_left
      intro run hMem
      exact Nat.min_eq_left (hShort run hMem)
    simp only [List.map_append, hEarlier, List.map_cons, List.map_nil, List.sum_append, List.sum_singleton,
      List.getLast?_concat, Option.mem_some_iff, forall_eq']
    omega

/-- The pauses of an import of files that can be read. Each submission is followed by the pause that its
response asks for, if it is completed and its response asks for one, and nothing else takes time; pauses
are cut at thirty years. As this holds of the last batch too, the import only waits between batches if the
last response asks for no pause. -/
theorem waited_importFiles (m : Machine) (files : List String) (contents : List (List Listen))
    (batchSize : Nat) (type : ListenType) (given : Option String) (token : String) (server : Server)
    (taken : Nat) (hToken : m.token given = .ok token)
    (hFiles : List.Forall₂ m.Reads files contents) :
    let outcome := (importFiles m files batchSize type given).run server taken
    let runs := submissionRuns m.client token type server taken
      (Batch.chunks batchSize contents.flatten)
    let pause (run : Outcome (Checked Submission)) : Nat := (cooldown? run.value).getD 0
    (∃ before events imported,
      outcome.trace = before ++ events ++ [.line (closingNotice imported contents.flatten.length)] ∧
      Silent before ∧ before.filterMap Event.wait? = [] ∧ Paced runs events) ∧
    (∀ run ∈ runs, run.waits =
      List.replicate (run.lines.countP Submission.isRetryNotice) m.client.settings.retryDelay) ∧
    outcome.waited =
      (runs.map Outcome.waited).sum + (runs.map fun run => min (pause run) Event.longestWait).sum ∧
    ((∀ run ∈ runs.dropLast, pause run ≤ Event.longestWait) →
      (outcome.waited = (runs.map Outcome.waited).sum + (runs.dropLast.map pause).sum ↔
        ∀ last ∈ runs.getLast?, pause last = 0)) := by
  intro outcome runs pause
  have hWaited : outcome.waited =
      (runs.map Outcome.waited).sum + (runs.map fun run => min (pause run) Event.longestWait).sum :=
    sum_waited_importFiles hToken hFiles batchSize type server taken
  refine ⟨trace_importFiles_paced hToken hFiles batchSize type server taken,
    fun run => waits_of_mem_submissionRuns, hWaited, fun hShort => ?_⟩
  rw [hWaited, Nat.add_left_cancel_iff]
  exact sum_capped_eq_iff pause runs (by decide) hShort

end

/-- A response that asks for a pause of five seconds. -/
def exhaustedResponse : Response :=
  ⟨⟨200⟩, [("x-ratelimit-remaining", Text.Utf8.encode "0"),
    ("x-ratelimit-reset-in", Text.Utf8.encode "5")], []⟩

/-- A server that asks for a pause each time. -/
def exhaustedServer : Server := .scripted fun _ => .answer exhaustedResponse

/-- One listen is submitted without a pause, and asks for one. -/
theorem run_submitListens_exhausted (taken : Nat) :
    let run := (loopbackMachine.client.submitListens "secret" .bulk [bareListen]).run exhaustedServer taken
    run.waited = 0 ∧ cooldown? run.value = some 5000 := by
  have hFits : loopbackMachine.client.fits .bulk [bareListen] = true := fits_replicate 1 (by decide)
  have hAnswer : (loopbackMachine.client.delivery "secret" exhaustedServer taken).outcome =
      .ok exhaustedResponse.onWire := by
    have hBuilt : (loopbackMachine.client.post "secret" "submit-listens").request.isOk = true := by
      decide +kernel
    obtain ⟨request, hRequest⟩ := Draft.exists_request_of_isOk hBuilt
    rw [Client.delivery, Server.deliver, hRequest]
    rfl
  have hKept : loopbackMachine.client.retryNotice? "secret" exhaustedServer
      loopbackMachine.client.settings.defaultRetries [bareListen] taken = none := by
    rw [Client.retryNotice?, hAnswer]
    rfl
  intro run
  have hRun : run = _ := Client.run_submit_settled hFits (.inr hKept)
  have hValue : run.value = .ok (.completed exhaustedResponse.onWire) := by
    rw [hRun, hAnswer]
    rfl
  constructor
  · rw [hRun]
    rfl
  · rw [hValue]
    decide +kernel

theorem chunks_one_of_two : Batch.chunks 1 [bareListen, bareListen] = [[bareListen], [bareListen]] := by
  rw [Batch.chunks_eq_map]
  rfl

/-- Two listens in two batches: after the second one, the import waits as long as after the first. -/
theorem waited_importFiles_of_two_batches :
    let outcome := (importFiles loopbackMachine ["a.json", "a.json"] 1 .bulk none).run exhaustedServer 0
    let runs := submissionRuns loopbackMachine.client "secret" .bulk exhaustedServer 0
      [[bareListen], [bareListen]]
    loopbackMachine.token none = .ok "secret" ∧ outcome.waited = 10000 ∧
      (runs.map Outcome.waited).sum +
        (runs.dropLast.map fun run => (cooldown? run.value).getD 0).sum = 5000 := by
  intro outcome runs
  have hToken : loopbackMachine.token none = .ok "secret" := rfl
  obtain ⟨-, -, hWaited, -⟩ := waited_importFiles loopbackMachine ["a.json", "a.json"] _ 1 .bulk none
    "secret" exhaustedServer 0 hToken (reads_replicate 2)
  have hChunks : Batch.chunks 1 (List.replicate 2 [bareListen]).flatten = [[bareListen], [bareListen]] :=
    chunks_one_of_two
  obtain ⟨hFirst, hFirstPause⟩ := run_submitListens_exhausted 0
  obtain ⟨hSecond, hSecondPause⟩ := run_submitListens_exhausted
    ((loopbackMachine.client.submitListens "secret" .bulk [bareListen]).run exhaustedServer 0).taken
  rw [hChunks] at hWaited
  simp only [submissionRuns, List.map_cons, List.map_nil, List.sum_cons, List.sum_nil, hFirst,
    hFirstPause, hSecond, hSecondPause, Option.getD_some] at hWaited
  refine ⟨hToken, hWaited, ?_⟩
  simp only [runs, submissionRuns, List.map_cons, List.map_nil, List.sum_cons, List.sum_nil, hFirst,
    hFirstPause, hSecond, List.dropLast_cons_cons, List.dropLast_singleton, Option.getD_some]
  rfl

/-- An import also waits when nothing is left to be sent. -/
theorem not_forall_waited_between_batches :
    ¬∀ (m : Machine) (files : List String) (contents : List (List Listen)) (batchSize : Nat)
        (type : ListenType) (given : Option String) (token : String) (server : Server) (taken : Nat),
      m.token given = .ok token → List.Forall₂ m.Reads files contents →
        let runs := submissionRuns m.client token type server taken
          (Batch.chunks batchSize contents.flatten)
        ((importFiles m files batchSize type given).run server taken).waited =
          (runs.map Outcome.waited).sum +
            (runs.dropLast.map fun run => (cooldown? run.value).getD 0).sum := by
  intro h
  have hToken : loopbackMachine.token none = .ok "secret" := rfl
  have hChunks : Batch.chunks 1000 (List.replicate 1 [bareListen]).flatten = [[bareListen]] :=
    chunks_replicate (by decide) (by decide) bareListen
  have hClaimed := h loopbackMachine _ _ 1000 .bulk none "secret" exhaustedServer 0 hToken
    (reads_replicate 1)
  obtain ⟨-, hPause⟩ := run_submitListens_exhausted 0
  rw [sum_waited_importFiles hToken (reads_replicate 1), hChunks, Nat.add_left_cancel_iff] at hClaimed
  simp only [submissionRuns, List.map_cons, List.map_nil, List.sum_cons, List.sum_nil,
    List.dropLast_singleton, hPause, Option.getD_some] at hClaimed
  exact absurd hClaimed (by decide)

end Scrobbler.Program
