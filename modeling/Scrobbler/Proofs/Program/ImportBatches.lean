import Scrobbler.Proofs.Program.ImportTotal

/-!
The batches that an import submits. Either some file cannot be read as listens, and nothing is sent; or
all files can, and their listens are submitted in order, cut into batches of the size that is asked for.
What becomes of a batch has no bearing on those after it.
-/

namespace Scrobbler

namespace Batch

variable {α : Type}

/-- The number of batches of a size for a number of items. -/
def chunkCount (size length : Nat) : Nat := (length + size - 1) / size

theorem chunkCount_zero {size : Nat} (hSize : 0 < size) : chunkCount size 0 = 0 :=
  Nat.div_eq_of_lt (by omega)

/-- The first batch takes its size away from what is left. -/
theorem chunkCount_sub {size length : Nat} (hSize : 0 < size) (hLength : 0 < length) :
    chunkCount size length = chunkCount size (length - size) + 1 := by
  unfold chunkCount
  rcases Nat.lt_or_ge length size with hLess | hMore
  · rw [Nat.sub_eq_zero_of_le (Nat.le_of_lt hLess), Nat.div_eq_of_lt (by omega : 0 + size - 1 < size)]
    exact Nat.div_eq_of_lt_le (by omega) (by omega)
  · rw [← Nat.add_div_right _ hSize]
    congr 1
    omega

/-- The first batch is full, or takes all there is. -/
theorem chunks_of_ne_nil {size : Nat} {items : List α} (hNe : items ≠ []) :
    chunks size items = items.take (max size 1) :: chunks size (items.drop (max size 1)) := by
  obtain ⟨item, rest, rfl⟩ := List.exists_cons_of_ne_nil hNe
  have hSize : max size 1 = size - 1 + 1 := by omega
  rw [chunks, hSize, List.take_succ_cons, List.drop_succ_cons]

/-- A section of what is left after some items is a later section of all of them. -/
theorem extract_drop (items : List α) (first start stop : Nat) :
    (items.drop first).extract start (min stop (items.length - first)) =
      items.extract (start + first) (min (stop + first) items.length) := by
  have hCount : min (stop + first) items.length - (start + first) =
      min stop (items.length - first) - start := by
    omega
  simp only [List.extract_eq_take_drop, List.drop_drop, hCount, Nat.add_comm first start]

/-- The batches of a list are its sections of the size, where zero counts as one. -/
theorem chunks_eq_map (size : Nat) (items : List α) :
    chunks size items = (List.range (chunkCount (max size 1) items.length)).map fun i =>
      items.extract (i * max size 1) (min ((i + 1) * max size 1) items.length) := by
  have hPos : 0 < max size 1 := by omega
  induction hLength : items.length using Nat.strongRecOn generalizing items with
  | ind length ih =>
      subst hLength
      by_cases hNe : items = []
      · subst hNe
        rw [List.length_nil, chunkCount_zero hPos, chunks]
        rfl
      · have hItems : 0 < items.length := List.length_pos_iff.mpr hNe
        have hLess : (items.drop (max size 1)).length < items.length := by
          rw [List.length_drop]
          omega
        have hRest := ih _ hLess _ rfl
        rw [List.length_drop] at hRest
        rw [chunks_of_ne_nil hNe, hRest, chunkCount_sub hPos hItems, List.range_succ_eq_map, List.map_cons,
          List.map_map]
        refine congrArg₂ List.cons ?_ (List.map_congr_left fun i _ => ?_)
        · rw [Nat.zero_mul, Nat.zero_add, Nat.one_mul, List.extract_eq_take_drop, Nat.sub_zero,
            List.drop_zero]
          exact List.take_eq_take_min
        · rw [extract_drop, Function.comp_apply, ← Nat.succ_mul, ← Nat.succ_mul]

end Batch

namespace Program

/-- Nothing is sent. -/
def Silent (events : List Event) : Prop := ∀ event ∈ events, event.draft? = none

/-- Submissions of batches, one after the other: each starts with all retries of the settings when the
one before has ended, whatever its outcome, and nothing is sent besides. -/
inductive Submits (c : Client) (token : String) (type : ListenType) (server : Server) :
    Nat → List (List Listen) → List Event → Prop
  | nil (taken : Nat) : Submits c token type server taken [] []
  | cons {taken : Nat} {batch : List Listen} {rest : List (List Listen)}
      {submitted : Outcome (Checked Submission)} {remarks events : List Event}
      (hSubmitted : submitted = (c.submit token type c.settings.defaultRetries batch).run server taken)
      (hRemarks : Silent remarks) (more : Submits c token type server submitted.taken rest events) :
      Submits c token type server taken (batch :: rest) (submitted.trace ++ remarks ++ events)

section

variable {m : Machine} {files : List String} {contents : List (List Listen)}

/-- A run that sends nothing has a silent trace. -/
theorem silent_of_sent_eq_nil {β : Type} {outcome : Outcome β} (h : outcome.sent = []) :
    Silent outcome.trace := by
  intro event hMem
  have hSent := List.filterMap_eq_nil_iff.mp h event hMem
  cases event with
  | attempt draft delivery => cases hSent
  | wait milliseconds => rfl
  | line text => rfl

section Submissions

variable (c : Client) (token : String) (type : ListenType) (server : Server)

/-- A batch of an import is submitted, and then only lines are printed and time passes. -/
theorem trace_importBatch (taken : Nat) (label : String) (batch : List Listen) :
    ∃ remarks, Silent remarks ∧ ((importBatch c token type label batch).run server taken).trace =
      ((c.submitListens token type batch).run server taken).trace ++ remarks := by
  obtain ⟨-, -, hSent⟩ := run_importBatch c token type server taken 0 label batch
  rw [importBatch, Session.sent_run_bind, List.append_right_eq_self] at hSent
  refine ⟨_, silent_of_sent_eq_nil hSent, ?_⟩
  rw [importBatch, Session.trace_run_bind]

/-- The batches of an import are submitted one after the other. -/
theorem submits_importBatches (total index taken : Nat) (batches : List (List Listen)) :
    Submits c token type server taken batches
      ((importBatches c token type total index batches).run server taken).trace := by
  induction batches generalizing taken index with
  | nil => exact .nil taken
  | cons batch rest ih =>
      obtain ⟨remarks, hRemarks, hTrace⟩ :=
        trace_importBatch c token type server taken ("Batch " ++ decimal index ++ "/" ++ decimal total) batch
      obtain ⟨-, hTaken, -⟩ := run_importBatch c token type server taken 0
        ("Batch " ++ decimal index ++ "/" ++ decimal total) batch
      have hRest := ih (index + 1) ((c.submitListens token type batch).run server taken).taken
      rw [importBatches, Session.trace_run_bind, Session.trace_run_bind, hTrace, hTaken]
      simp only [Session.run, List.append_nil]
      exact .cons rfl hRemarks hRest

end Submissions

/-- Reading stops at a file that cannot be read as listens, and nothing is sent. -/
theorem readFiles_yields_none (h : ∃ file ∈ files, ∀ listens, ¬m.Reads file listens) :
    (readFiles m files).Yields none := by
  induction files with
  | nil =>
      obtain ⟨file, hMem, -⟩ := h
      cases hMem
  | cons first rest ih =>
      unfold readFiles
      split
      · exact (Session.Yields.done none).print
      · next text hText =>
          split
          · exact (Session.Yields.done none).print
          · next listens hListens =>
              refine Session.Yields.print ((ih ?_).bind (.done none))
              obtain ⟨file, hMem, hFails⟩ := h
              rcases List.mem_cons.mp hMem with rfl | hMem
              · exact absurd ⟨text, hText, hListens⟩ (hFails listens)
              · exact ⟨file, hMem, hFails⟩

/-- What an import says in the end: that there was nothing, or how much was imported. -/
def closingNotice (imported total : Nat) : String :=
  if total = 0 then Notice.success "Nothing to import." else importedNotice imported total

/-- An import of files that can be read submits their listens, batch by batch. -/
theorem trace_importFiles {given : Option String} {token : String} (hToken : m.token given = .ok token)
    (hFiles : List.Forall₂ m.Reads files contents) (batchSize : Nat) (type : ListenType)
    (server : Server) (taken : Nat) :
    let outcome := (importFiles m files batchSize type given).run server taken
    outcome.value = 0 ∧ ∃ before events imported,
      outcome.trace =
        before ++ events ++ [.line (closingNotice imported contents.flatten.length)] ∧
      Silent before ∧
      Submits m.client token type server taken (Batch.chunks batchSize contents.flatten) events := by
  intro outcome
  obtain ⟨hValue, hTaken, hSent⟩ := readFiles_yields hFiles server taken
  have hBefore := silent_of_sent_eq_nil hSent
  simp only [outcome, importFiles, withToken, hToken, Session.trace_run_bind, Session.value_run_bind,
    hValue, hTaken]
  cases hListens : contents.flatten with
  | nil =>
      refine ⟨rfl, _, [], 0, ?_, hBefore, ?_⟩
      · rw [List.append_nil]
        rfl
      · rw [Batch.chunks]
        exact .nil taken
  | cons listen rest =>
      let batches := Batch.chunks batchSize (listen :: rest)
      have hSubmits := submits_importBatches m.client token type server batches.length 1 taken batches
      refine ⟨?_, _, _, ((importBatches m.client token type batches.length 1 batches).run server
        taken).value, ?_, hBefore, hSubmits⟩
      · rw [Session.value_run_bind]
        rfl
      · rw [List.append_assoc, Session.trace_run_bind]
        rfl

/-- An import is all or nothing. If some file cannot be read as listens, nothing is sent. Otherwise all
listens are submitted in order, in batches of the size that is asked for, where zero counts as one. Which
batches these are depends on the files alone, so no answer of the server keeps a batch from being
submitted, or changes it. -/
theorem importFiles_all_or_nothing (m : Machine) (files : List String) (batchSize : Nat)
    (type : ListenType) (given : Option String) (token : String) (server : Server) (taken : Nat)
    (hToken : m.token given = .ok token) :
    let outcome := (importFiles m files batchSize type given).run server taken
    ((∃ file ∈ files, ∀ listens, ¬m.Reads file listens) →
      outcome.value = 1 ∧ outcome.attempts = []) ∧
    ∀ contents, List.Forall₂ m.Reads files contents →
      let listens := contents.flatten
      let size := max batchSize 1
      let batches := (List.range ((listens.length + size - 1) / size)).map fun i =>
        listens.extract (i * size) (min ((i + 1) * size) listens.length)
      outcome.value = 0 ∧ ∃ before events imported,
        outcome.trace = before ++ events ++ [.line (closingNotice imported listens.length)] ∧
        Silent before ∧ Submits m.client token type server taken batches events := by
  intro outcome
  constructor
  · intro hUnreadable
    obtain ⟨hValue, -, hSent⟩ := readFiles_yields_none hUnreadable server taken
    simp only [outcome, importFiles, withToken, hToken]
    rw [Outcome.attempts_eq_map_sent, Session.sent_run_bind, hSent, Session.value_run_bind, hValue]
    exact ⟨rfl, rfl⟩
  · intro contents hFiles listens size batches
    have hTrace := trace_importFiles hToken hFiles batchSize type server taken
    rw [Batch.chunks_eq_map] at hTrace
    exact hTrace

/-- A file of one listen that is given twice is imported in two batches when the size is zero; together
with a file that is not there, nothing is sent. -/
theorem importFiles_of_one_file_twice :
    let unreadable := (importFiles loopbackMachine ["a.json", "b.json"] 0 .bulk none).run rejectingServer 0
    let outcome := (importFiles loopbackMachine ["a.json", "a.json"] 0 .bulk none).run rejectingServer 0
    loopbackMachine.token none = .ok "secret" ∧
      (unreadable.value = 1 ∧ unreadable.attempts = []) ∧
      outcome.value = 0 ∧ ∃ before events imported,
        outcome.trace = before ++ events ++ [.line (importedNotice imported 2)] ∧ Silent before ∧
          Submits loopbackMachine.client "secret" .bulk rejectingServer 0 [[bareListen], [bareListen]]
            events := by
  intro unreadable outcome
  have hToken : loopbackMachine.token none = .ok "secret" := rfl
  have hMissing : loopbackMachine.disk.readText loopbackMachine.workingDirectory "b.json" =
      .error .notFound := by decide +kernel
  obtain ⟨hNothing, -⟩ := importFiles_all_or_nothing loopbackMachine ["a.json", "b.json"] 0 .bulk none
    "secret" rejectingServer 0 hToken
  obtain ⟨-, hAll⟩ := importFiles_all_or_nothing loopbackMachine ["a.json", "a.json"] 0 .bulk none
    "secret" rejectingServer 0 hToken
  refine ⟨hToken, hNothing ⟨"b.json", by simp, ?_⟩, hAll _ (reads_replicate 2)⟩
  rintro listens ⟨text, hText, -⟩
  rw [hMissing] at hText
  cases hText

end

end Program

end Scrobbler
