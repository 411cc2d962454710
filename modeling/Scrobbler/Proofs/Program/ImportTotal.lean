import Scrobbler.Proofs.Program.Consignment

/-!
The total that an import prints. It counts every listen of a batch by the last answer to that batch,
so that it may count listens which no answer accepted, and leave out others.
-/

namespace Scrobbler.Program

open Json (Wire DecodeError)

/-- A file can be read, and holds some listens. -/
def Machine.Reads (m : Machine) (file : String) (listens : List Listen) : Prop :=
  ∃ text, m.disk.readText m.workingDirectory file = .ok text ∧
    (Wire.ofText text : Except DecodeError (List Listen)) = .ok listens

/-- What an import says in the end. -/
def importedNotice (imported total : Nat) : String :=
  Notice.success ("Imported " ++ decimal imported ++ " of " ++ decimal total ++ " listens.")

section

variable {m : Machine} {files : List String} {contents : List (List Listen)}

/-- Reading files that can be read sends nothing, and gives all their listens in order. -/
theorem readFiles_yields (hFiles : List.Forall₂ m.Reads files contents) :
    (readFiles m files).Yields (some contents.flatten) := by
  induction hFiles with
  | nil => exact .done _
  | @cons file listens files contents hFile hRest ih =>
      obtain ⟨text, hText, hListens⟩ := hFile
      unfold readFiles
      simp only [hText, hListens]
      have hAll : ((readFiles m files).bind fun others => .done (others.map (listens ++ ·))).Yields
          (some (listens ++ contents.flatten)) := ih.bind (.done _)
      exact hAll.print

/-- An import submits the batches of all listens, and prints in the end how many it counts. -/
theorem run_importFiles {given : Option String} {token : String} (hToken : m.token given = .ok token)
    (hFiles : List.Forall₂ m.Reads files contents) (hNe : contents.flatten ≠ []) (batchSize : Nat)
    (type : ListenType) (server : Server) (taken : Nat) :
    let outcome := (importFiles m files batchSize type given).run server taken
    let consigned := consignments m.client token type server taken 0
      (Batch.chunks batchSize contents.flatten)
    outcome.sent = consigned.flatMap (fun x =>
        x.shipments.map fun s => (m.client.submissionDraft token type s.part, s.delivery)) ∧
      outcome.lines.getLast? =
        some (importedNotice (consigned.map Consignment.counted).sum contents.flatten.length) := by
  intro outcome consigned
  have hRead := readFiles_yields hFiles
  obtain ⟨hReadValue, hReadTaken, -⟩ := hRead server taken
  obtain ⟨hCounted, hSent⟩ := run_importBatches m.client token type server
    (Batch.chunks batchSize contents.flatten).length 1 taken 0
    (Batch.chunks batchSize contents.flatten)
  obtain ⟨listen, rest, hSome⟩ := List.exists_cons_of_ne_nil hNe
  simp only [outcome, consigned, importFiles, withToken, hToken]
  constructor
  · rw [(hRead.bind_before _ server taken).2.2]
    simp only [hSome] at hSent ⊢
    rw [Session.sent_run_bind, hSent]
    exact List.append_nil _
  · rw [Session.lines_run_bind, hReadValue, hReadTaken]
    simp only [hSome] at hCounted ⊢
    rw [Session.lines_run_bind, hCounted, List.getLast?_append, List.getLast?_append]
    rfl

/-- The total that an import prints counts the listens of the batches whose last request was accepted.
It is at most the number of accepted listens exactly if those batches together hold no more listens that
no accepted request carried than the other batches hold listens that one did. Both kinds of listens only
stand in batches that are sent in halves; one that is only counted was given up, since the last request
that started no later than it was not accepted, and requests for later listens followed. -/
theorem imported_le_accepted_iff (m : Machine) (files : List String) (contents : List (List Listen))
    (batchSize : Nat) (type : ListenType) (given : Option String) (token : String) (server : Server)
    (taken : Nat) (hToken : m.token given = .ok token)
    (hFiles : List.Forall₂ m.Reads files contents) (hNe : contents.flatten ≠ []) :
    let listens := contents.flatten
    let consigned :=
      consignments m.client token type server taken 0 (Batch.chunks batchSize listens)
    let places := List.range listens.length
    let counted (place : Nat) : Bool := consigned.any (·.counts place)
    let accepted (place : Nat) : Bool := consigned.any (·.accepts place)
    let outcome := (importFiles m files batchSize type given).run server taken
    outcome.sent = consigned.flatMap (fun x =>
        x.shipments.map fun s => (m.client.submissionDraft token type s.part, s.delivery)) ∧
      (∀ x ∈ consigned, ∀ s ∈ x.shipments,
        s.part = (listens.drop s.start).take s.part.length) ∧
      outcome.lines.getLast? = some (importedNotice (places.countP counted) listens.length) ∧
      (places.countP counted ≤ places.countP accepted ↔
        ((consigned.filter Consignment.isSuccess).map Consignment.unaccepted).sum ≤
          ((consigned.filter fun x => !x.isSuccess).map Consignment.accepted).sum) ∧
      (∀ place, counted place ≠ accepted place →
        ∃ x ∈ consigned, x.Holds place ∧ ¬m.client.fits type x.batch = true) ∧
      ∀ place, counted place = true → accepted place = false →
        ∃ x ∈ consigned, x.Holds place ∧ ∃ before s after, x.shipments = before ++ s :: after ∧
          s.isAccepted = false ∧ s.start ≤ place ∧ after ≠ [] ∧
          ∀ later ∈ after, place < later.start := by
  intro listens consigned places counted accepted outcome
  obtain ⟨hSent, hLine⟩ := run_importFiles hToken hFiles hNe batchSize type server taken
  have hFlatten : (Batch.chunks batchSize listens).flatten = listens := Batch.flatten_chunks _ _
  have hCounted : places.countP counted = (consigned.map Consignment.counted).sum := by
    have h := countP_counts m.client token type server taken 0 (Batch.chunks batchSize listens)
    rw [hFlatten, ← List.range_eq_range'] at h
    exact h
  have hAccepted : places.countP accepted = (consigned.map Consignment.accepted).sum := by
    have h := countP_accepts m.client token type server taken 0 (Batch.chunks batchSize listens)
    rw [hFlatten, ← List.range_eq_range'] at h
    exact h
  refine ⟨hSent, ?_, ?_, ?_, ?_, ?_⟩
  · intro x hMem s hShipment
    rw [← hFlatten]
    exact part_eq_of_mem hMem hShipment
  · rw [hCounted]
    exact hLine
  · rw [hCounted, hAccepted]
    have hSums := Consignment.sum_counted_add consigned
    omega
  · exact fun place hDiffer => exists_not_fits_of_ne hDiffer
  · intro place hCounts hNot
    obtain ⟨x, hMem, hX⟩ := List.any_eq_true.mp hCounts
    have hXNot : x.accepts place = false := by
      rw [Bool.eq_false_iff]
      exact List.any_eq_false.mp hNot x hMem
    exact ⟨x, hMem, given_up_of_counts hMem hX hXNot⟩

end

/-- A listen of nothing. -/
def bareListen : Listen := .ofTrack "" ""

/-- A machine with a file of one listen, whose server is on the same machine. -/
def loopbackMachine : Machine where
  workingDirectory := []
  environment := [("LISTENBRAINZ_API_URL", "http://[::1]"), ("LISTENBRAINZ_TOKEN", "secret")]
  disk := Disk.withFile [] ["a.json"] <| Text.Utf8.encode
    "[\x7b\"track_metadata\":\x7b\"artist_name\":\"\",\"track_name\":\"\"\x7d\x7d]"
  now := 0

/-- Whatever the number of times that the file is given, it is read each time. -/
theorem reads_replicate (count : Nat) :
    List.Forall₂ loopbackMachine.Reads (List.replicate count "a.json")
      (List.replicate count [bareListen]) := by
  have hReads : loopbackMachine.Reads "a.json" [bareListen] :=
    ⟨"[\x7b\"track_metadata\":\x7b\"artist_name\":\"\",\"track_name\":\"\"\x7d\x7d]",
      by decide +kernel, by with_unfolding_all rfl⟩
  induction count with
  | zero => exact .nil
  | succ count ih => exact .cons hReads ih

/-- With the usual ceiling, up to 185 bare listens fit one request. -/
theorem fits_replicate (count : Nat) (hPos : 0 < count) :
    loopbackMachine.client.fits .bulk (List.replicate count bareListen) = decide (count ≤ 185) := by
  have hSize : bareListen.writtenSize = 53 := by decide +kernel
  have hLimit : loopbackMachine.client.settings.maxListenSize = 10000 := rfl
  simp only [Client.fits, Batch.prepare, Batch.payloadSize_replicate hPos, hSize, hLimit,
    List.length_replicate]
  grind

/-- An even number of equal listens has equal halves. -/
theorem halves_replicate (count : Nat) (listen : Listen) :
    Batch.halves (List.replicate (count + count) listen) =
      (List.replicate count listen, List.replicate count listen) := by
  have hHalf : (count + count) / 2 = count := by omega
  rw [Batch.halves, List.length_replicate, hHalf, List.splitAt_eq, List.take_replicate,
    List.drop_replicate, Nat.min_eq_left (Nat.le_add_left count count), Nat.add_sub_cancel]

/-- A server that rejects the first request, and agrees to the second. -/
def rejectingServer : Server := .ofStatuses [400, 200]

/-- Two hundred listens are sent in halves. The first half is rejected, and the second is accepted:
all of them are counted. -/
theorem counted_of_rejected_half :
    let consigned := consignments loopbackMachine.client "secret" .bulk rejectingServer 0 0
      [List.replicate 200 bareListen]
    (consigned.map Consignment.counted).sum = 200 ∧
      (List.range 200).countP (fun place => consigned.any (·.accepts place)) = 100 := by
  have hBuilt : (loopbackMachine.client.post "secret" "submit-listens").request.isOk = true := by
    decide +kernel
  obtain ⟨_, hFirst⟩ := Client.delivery_ofReplies ([400, 200].map Reply.ofStatus) hBuilt 0
  obtain ⟨_, hSecond⟩ := Client.delivery_ofReplies ([400, 200].map Reply.ofStatus) hBuilt 1
  have hFits : loopbackMachine.client.fits .bulk (List.replicate 100 bareListen) = true := by
    rw [fits_replicate 100 (by decide)]
    rfl
  have hCut : ¬loopbackMachine.client.fits .bulk (List.replicate 200 bareListen) = true := by
    rw [fits_replicate 200 (by decide)]
    decide
  have rejected : Course loopbackMachine.client "secret" .bulk rejectingServer .whole 3 0 0
      (List.replicate 100 bareListen) _ _ :=
    .settled_of_delivery hFits
      (.inr (by rw [Client.retryNotice?, rejectingServer, Server.ofStatuses, hFirst]; rfl)) hFirst
  have accepted : Course loopbackMachine.client "secret" .bulk rejectingServer .whole 3 1 100
      (List.replicate 100 bareListen) _ _ :=
    .settled_of_delivery hFits
      (.inr (by rw [Client.retryNotice?, rejectingServer, Server.ofStatuses, hSecond]; rfl)) hSecond
  have course :=
    Course.merged hCut (.continued_of_halves (halves_replicate 100 _) rejected rfl accepted) rfl
  have hShipments : loopbackMachine.client.shipments "secret" .bulk rejectingServer
      loopbackMachine.client.settings.defaultRetries 0 0 (List.replicate 200 bareListen) = _ :=
    course.shipments_eq
  intro consigned
  simp only [consigned, consignments, hShipments]
  constructor
  · rfl
  · rw [List.countP_congr (q := fun place => decide (100 ≤ place ∧ place < 200)) ?_]
    · decide +kernel
    intro place hPlace
    simp [Consignment.accepts, Shipment.isAccepted, Shipment.Carries, Shipment.stop, Reply.outcome,
      Reply.ofStatus, Response.onWire, Except.toOption, Status.isSuccess]

theorem chunks_replicate {size count : Nat} (hPos : 0 < count) (hSize : count ≤ size)
    (listen : Listen) : Batch.chunks size (List.replicate count [listen]).flatten =
      [List.replicate count listen] := by
  rw [List.flatten_replicate_singleton]
  refine Batch.chunks_of_length_le ?_ ?_
  · rw [Ne, List.replicate_eq_nil_iff]
    exact Nat.ne_of_gt hPos
  · rw [List.length_replicate]
    exact hSize

theorem flatten_replicate_ne_nil : (List.replicate 200 [bareListen]).flatten ≠ [] := by
  rw [List.flatten_replicate_singleton, Ne, List.replicate_eq_nil_iff]
  decide

/-- The total that is printed for two hundred listens of which half were rejected. -/
theorem importedNotice_of_rejected_half :
    let files := List.replicate 200 "a.json"
    let listens := (List.replicate 200 [bareListen]).flatten
    let consigned := consignments loopbackMachine.client "secret" .bulk rejectingServer 0 0
      (Batch.chunks 1000 listens)
    loopbackMachine.token none = .ok "secret" ∧
      ((importFiles loopbackMachine files 1000 .bulk none).run rejectingServer 0).lines.getLast? =
        some (importedNotice 200 200) ∧
      (List.range 200).countP (fun place => consigned.any (·.accepts place)) = 100 := by
  intro files listens consigned
  have hToken : loopbackMachine.token none = .ok "secret" := rfl
  have hLength : listens.length = 200 := by
    simp only [listens, List.flatten_replicate_singleton, List.length_replicate]
  obtain ⟨-, -, hLine, -⟩ := imported_le_accepted_iff loopbackMachine files _ 1000 .bulk none "secret"
    rejectingServer 0 hToken (reads_replicate 200) flatten_replicate_ne_nil
  obtain ⟨hCounted, hAccepted⟩ := counted_of_rejected_half
  have hChunks : Batch.chunks 1000 listens = [List.replicate 200 bareListen] :=
    chunks_replicate (by decide) (by decide) bareListen
  have hSum := countP_counts loopbackMachine.client "secret" .bulk rejectingServer 0 0
    [List.replicate 200 bareListen]
  rw [hCounted, List.flatten_singleton, List.length_replicate, ← List.range_eq_range'] at hSum
  replace hLine : ((importFiles loopbackMachine files 1000 .bulk none).run rejectingServer
      0).lines.getLast? = some (importedNotice ((List.range listens.length).countP fun place =>
        consigned.any (·.counts place)) listens.length) := hLine
  simp only [consigned, hChunks, hLength, hSum] at hLine ⊢
  exact ⟨hToken, hLine, hAccepted⟩

/-- The total that an import prints may be greater than the number of accepted listens. -/
theorem not_forall_imported_le_accepted :
    ¬∀ (m : Machine) (files : List String) (contents : List (List Listen)) (batchSize : Nat)
        (type : ListenType) (given : Option String) (token : String) (server : Server)
        (taken imported : Nat), m.token given = .ok token →
      List.Forall₂ m.Reads files contents → contents.flatten ≠ [] →
        ((importFiles m files batchSize type given).run server taken).lines.getLast? =
            some (importedNotice imported contents.flatten.length) →
          imported ≤ (List.range contents.flatten.length).countP fun place =>
            (consignments m.client token type server taken 0
              (Batch.chunks batchSize contents.flatten)).any (·.accepts place) := by
  intro h
  have hToken : loopbackMachine.token none = .ok "secret" := rfl
  obtain ⟨-, hLine⟩ := run_importFiles hToken (reads_replicate 200) flatten_replicate_ne_nil 1000 .bulk
    rejectingServer 0
  have hLe := h _ _ _ _ _ _ _ _ _ _ hToken (reads_replicate 200) flatten_replicate_ne_nil hLine
  obtain ⟨hCounted, hAccepted⟩ := counted_of_rejected_half
  have hChunks : Batch.chunks 1000 (List.replicate 200 [bareListen]).flatten =
      [List.replicate 200 bareListen] := chunks_replicate (by decide) (by decide) bareListen
  rw [hChunks, hCounted, List.flatten_replicate_singleton, List.length_replicate, hAccepted] at hLe
  exact absurd hLe (by decide)

end Scrobbler.Program
