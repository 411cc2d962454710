import Scrobbler.Program.Scrobbling
import Scrobbler.Proofs.Submission.Acceptance
import Scrobbler.Proofs.Submission.Coverage

/-!
The batches of an import, each with the requests that it was submitted with. An import counts the
listens of a batch when the last of its requests was accepted.
-/

namespace Scrobbler

namespace Batch

/-- No listen is lost between batches, and none is moved. -/
theorem flatten_chunks {α : Type} (size : Nat) (items : List α) :
    (chunks size items).flatten = items := by
  fun_induction chunks size items with
  | case1 => rfl
  | case2 item rest ih => rw [List.flatten_cons, ih, List.cons_append, List.take_append_drop]

/-- Items that fit one batch are one batch. -/
theorem chunks_of_length_le {α : Type} {size : Nat} {items : List α} (hNe : items ≠ [])
    (hLength : items.length ≤ size) : chunks size items = [items] := by
  cases items with
  | nil => exact absurd rfl hNe
  | cons item rest =>
      rw [List.length_cons] at hLength
      rw [chunks, List.take_of_length_le (by omega), List.drop_of_length_le (by omega), chunks]

end Batch

namespace Program

/-- A batch of an import: the place of its first listen among all that are imported, its listens, and
the requests of its submission. -/
structure Consignment where
  start : Nat
  batch : List Listen
  shipments : List Shipment

namespace Consignment

/-- The listen at a place is in the batch. -/
def Holds (x : Consignment) (place : Nat) : Prop :=
  x.start ≤ place ∧ place < x.start + x.batch.length

instance (x : Consignment) (place : Nat) : Decidable (x.Holds place) :=
  inferInstanceAs (Decidable (_ ∧ _))

/-- The last request of the batch was accepted. -/
def isSuccess (x : Consignment) : Bool := x.shipments.getLast?.any Shipment.isAccepted

/-- The number of listens that are counted for the batch. -/
def counted (x : Consignment) : Nat := if x.isSuccess then x.batch.length else 0

/-- The listen at a place is counted. -/
def counts (x : Consignment) (place : Nat) : Bool := x.isSuccess && decide (x.Holds place)

/-- A request for the listen at a place was accepted. -/
def accepts (x : Consignment) (place : Nat) : Bool :=
  x.shipments.any fun s => s.isAccepted && decide (s.Carries place)

/-- The number of listens of the batch that an accepted request carried. -/
def accepted (x : Consignment) : Nat := (List.range' x.start x.batch.length).countP x.accepts

/-- The number of listens of the batch that no accepted request carried. -/
def unaccepted (x : Consignment) : Nat :=
  (List.range' x.start x.batch.length).countP fun place => !x.accepts place

end Consignment

/-- The batches of an import, one after the other, to a server that has taken `taken` requests. -/
def consignments (c : Client) (token : String) (type : ListenType) (server : Server) :
    Nat → Nat → List (List Listen) → List Consignment
  | _, _, [] => []
  | taken, start, batch :: rest =>
      ⟨start, batch, c.shipments token type server c.settings.defaultRetries taken start batch⟩ ::
        consignments c token type server
          ((c.submitListens token type batch).run server taken).taken (start + batch.length) rest

section

variable {c : Client} {token : String} {type : ListenType} {server : Server} {taken start : Nat}
  {batch : List Listen} {batches : List (List Listen)} {x : Consignment}

/-- Each batch of an import has the course of a submission. -/
theorem exists_course_of_mem (hMem : x ∈ consignments c token type server taken start batches) :
    ∃ earlier outcome, Course c token type server .whole c.settings.defaultRetries earlier x.start
      x.batch x.shipments outcome := by
  induction batches generalizing taken start with
  | nil => nomatch hMem
  | cons batch rest ih =>
      rcases List.mem_cons.mp hMem with rfl | hMem
      · exact ⟨taken, _, c.course token type server _ taken start batch⟩
      · exact ih hMem

/-- No batch stands before the first place. -/
theorem start_le_of_mem (hMem : x ∈ consignments c token type server taken start batches) :
    start ≤ x.start := by
  induction batches generalizing taken start with
  | nil => nomatch hMem
  | cons batch rest ih =>
      rcases List.mem_cons.mp hMem with rfl | hMem
      · exact Nat.le_refl start
      · exact Nat.le_trans (Nat.le_add_right start batch.length) (ih hMem)

/-- Each batch stands where it was cut from the listens of the import. -/
theorem exists_append_of_mem
    (hMem : x ∈ consignments c token type server taken start batches) :
    ∃ before after, batches.flatten = before ++ x.batch ++ after ∧ x.start = start + before.length := by
  induction batches generalizing taken start with
  | nil => nomatch hMem
  | cons batch rest ih =>
      rcases List.mem_cons.mp hMem with rfl | hMem
      · exact ⟨[], rest.flatten, rfl, rfl⟩
      · obtain ⟨before, after, hEq, hStart⟩ := ih hMem
        refine ⟨batch ++ before, after, ?_, ?_⟩
        · rw [List.flatten_cons, hEq, List.append_assoc, List.append_assoc, List.append_assoc]
        · rw [hStart, List.length_append, Nat.add_assoc]

/-- A submission ends with a success if its last request was accepted, and only then. -/
theorem success_eq
    {shipments : List Shipment} {outcome : Outcome (Checked Submission)} {retries : Nat}
    (course : Course c token type server .whole retries taken start batch shipments outcome) :
    (outcome.value.toOption.bind Submission.response?).any (·.status.isSuccess) =
      shipments.getLast?.any Shipment.isAccepted := by
  obtain ⟨earlier, last, rfl, hDecides⟩ := course.exists_last
  rw [List.getLast?_append, List.getLast?_singleton, Option.some_or, Option.any_some]
  unfold Course.Decides at hDecides
  unfold Shipment.isAccepted
  cases hOutcome : last.delivery.outcome with
  | ok response =>
      rw [hOutcome] at hDecides
      rw [hDecides]
      rfl
  | error error =>
      rw [hOutcome] at hDecides
      rcases hDecides with hDecides | hDecides <;>
      · rw [hDecides]
        rfl

/-- Reporting a submission sends nothing, and gives the response that it ended with. -/
theorem report_yields (label : String) (outcome : Checked Submission) :
    (report label outcome).Yields (outcome.toOption.bind Submission.response?) := by
  unfold report
  cases failureNotice? label outcome with
  | none => exact .done _
  | some notice => exact (Session.Yields.done _).print

theorem awaitRateLimit_yields (response : Response) : (awaitRateLimit response).Yields () := by
  unfold awaitRateLimit
  cases response.rateLimit?.filter fun limit => limit.remaining = 0 with
  | none => exact .done _
  | some limit => exact (Session.Yields.done _).wait.print

variable (c token type server) in
/-- The submission of a batch of an import. What is said about it afterwards sends nothing. -/
theorem run_importBatch (taken start : Nat) (label : String) (batch : List Listen) :
    let shipments :=
      c.shipments token type server c.settings.defaultRetries taken start batch
    let outcome := (importBatch c token type label batch).run server taken
    let submitted := (c.submitListens token type batch).run server taken
    outcome.value = Consignment.counted ⟨start, batch, shipments⟩ ∧
      outcome.taken = submitted.taken ∧ outcome.sent = submitted.sent := by
  intro shipments outcome submitted
  apply Session.Yields.bind_after
  have hSuccess := success_eq (c.course token type server c.settings.defaultRetries taken start batch)
  refine (report_yields label _).bind ?_
  unfold Consignment.counted Consignment.isSuccess
  rw [← hSuccess]
  unfold Client.submitListens
  cases (((c.submit token type c.settings.defaultRetries batch).run server taken).value).toOption.bind
      Submission.response? with
  | none => exact .done _
  | some response => exact (awaitRateLimit_yields response).bind (.done _)

variable (c token type server) in
/-- The batches of an import are submitted one after the other, and what is counted is the sum of what
is counted for each. -/
theorem run_importBatches (total index taken start : Nat) (batches : List (List Listen)) :
    let outcome := (importBatches c token type total index batches).run server taken
    let consigned := consignments c token type server taken start batches
    outcome.value = (consigned.map Consignment.counted).sum ∧
      outcome.sent = consigned.flatMap fun x =>
        x.shipments.map fun s => (c.submissionDraft token type s.part, s.delivery) := by
  induction batches generalizing taken start index with
  | nil => exact ⟨rfl, rfl⟩
  | cons batch rest ih =>
      obtain ⟨hValue, hTaken, hSent⟩ := run_importBatch c token type server taken start
        ("Batch " ++ decimal index ++ "/" ++ decimal total) batch
      have course := c.course token type server c.settings.defaultRetries taken start batch
      obtain ⟨hRestValue, hRestSent⟩ := ih (index + 1)
        ((c.submitListens token type batch).run server taken).taken (start + batch.length)
      intro outcome consigned
      constructor
      · simp only [outcome, importBatches, Session.value_run_bind, hValue, hTaken, Session.run,
          hRestValue]
        rfl
      · simp only [outcome, importBatches, Session.sent_run_bind, hSent, hTaken, hRestSent,
          Session.sent_run_done, List.append_nil, consigned, consignments, List.flatMap_cons]
        rw [← course.sent_eq]
        rfl

/-- The batches share no places: where a property only holds of places in the batch, and the others come
later, it is counted for the batch alone. -/
theorem countP_any_batch {p : Consignment → Nat → Bool} {xs : List Consignment}
    (hLater : ∀ y ∈ xs, x.start + x.batch.length ≤ y.start)
    (hInside : ∀ y ∈ xs, ∀ place, p y place = true → y.Holds place) :
    (List.range' x.start x.batch.length).countP (fun place => (x :: xs).any (p · place)) =
      (List.range' x.start x.batch.length).countP (p x) := by
  refine List.countP_congr fun place hPlace => ?_
  have hStop := (List.mem_range'_1.mp hPlace).2
  have hOthers : xs.any (p · place) = false := by
    rw [List.any_eq_false]
    intro y hMem hHolds
    have := hLater y hMem
    have := (hInside y hMem place hHolds).1
    omega
  rw [List.any_cons, hOthers, Bool.or_false]

/-- The batch has no places among those of later ones. -/
theorem countP_any_later {p : Consignment → Nat → Bool} {xs : List Consignment} {size : Nat}
    (hInside : ∀ place, p x place = true → x.Holds place) :
    (List.range' (x.start + x.batch.length) size).countP (fun place => (x :: xs).any (p · place)) =
      (List.range' (x.start + x.batch.length) size).countP fun place => xs.any (p · place) := by
  refine List.countP_congr fun place hPlace => ?_
  have hStart := (List.mem_range'_1.mp hPlace).1
  have hOutside : p x place = false := by
    rw [Bool.eq_false_iff]
    exact fun hHolds => Nat.not_lt.mpr hStart (hInside place hHolds).2
  rw [List.any_cons, hOutside, Bool.false_or]

/-- The places of an import with a property that only holds inside of batches are counted batch by
batch. -/
theorem countP_any_consignments {p : Consignment → Nat → Bool}
    (hInside : ∀ x ∈ consignments c token type server taken start batches,
      ∀ place, p x place = true → x.Holds place) :
    (List.range' start batches.flatten.length).countP (fun place =>
        (consignments c token type server taken start batches).any (p · place)) =
      ((consignments c token type server taken start batches).map fun x =>
        (List.range' x.start x.batch.length).countP (p x)).sum := by
  induction batches generalizing taken start with
  | nil => rfl
  | cons batch rest ih =>
      let x : Consignment :=
        ⟨start, batch, c.shipments token type server c.settings.defaultRetries taken start batch⟩
      let others := consignments c token type server
        ((c.submitListens token type batch).run server taken).taken (start + batch.length) rest
      have hOthers : ∀ y ∈ others, ∀ place, p y place = true → y.Holds place :=
        fun y hMem => hInside y (List.mem_cons_of_mem x hMem)
      have hFirst : (List.range' start batch.length).countP (fun place =>
          (x :: others).any (p · place)) = (List.range' start batch.length).countP (p x) :=
        countP_any_batch (x := x) (fun y hMem => start_le_of_mem hMem) hOthers
      have hRest : (List.range' (start + batch.length) rest.flatten.length).countP (fun place =>
          (x :: others).any (p · place)) = (others.map fun y =>
            (List.range' y.start y.batch.length).countP (p y)).sum :=
        (countP_any_later (x := x) (hInside x List.mem_cons_self)).trans (ih hOthers)
      rw [List.flatten_cons, List.length_append, ← List.range'_append_1, List.countP_append]
      exact congrArg₂ (· + ·) hFirst hRest

namespace Consignment

theorem counts_iff {place : Nat} : x.counts place = true ↔ x.isSuccess = true ∧ x.Holds place := by
  rw [counts, Bool.and_eq_true, decide_eq_true_eq]

/-- All places of a batch are counted, or none is. -/
theorem countP_counts_eq_counted :
    (List.range' x.start x.batch.length).countP x.counts = x.counted := by
  have hSame : ∀ place ∈ List.range' x.start x.batch.length, x.counts place = x.isSuccess := by
    intro place hPlace
    have hHolds : x.Holds place := List.mem_range'_1.mp hPlace
    simp [counts, hHolds]
  rw [List.countP_congr fun place hPlace => by rw [hSame place hPlace]]
  unfold counted
  cases x.isSuccess <;> simp

/-- Each listen of a batch was accepted or not. -/
theorem accepted_add_unaccepted : x.accepted + x.unaccepted = x.batch.length := by
  have hPlaces := List.length_eq_countP_add_countP x.accepts (l := List.range' x.start x.batch.length)
  simp only [List.length_range', Bool.not_eq_true, Bool.decide_eq_false] at hPlaces
  exact hPlaces.symm

/-- What an import counts too much are the listens not accepted in batches that are counted, and what it
leaves out are the listens accepted in batches that are not. -/
theorem sum_counted_add (xs : List Consignment) :
    (xs.map counted).sum + ((xs.filter fun x => !x.isSuccess).map accepted).sum =
      (xs.map accepted).sum + ((xs.filter isSuccess).map unaccepted).sum := by
  induction xs with
  | nil => rfl
  | cons x rest ih =>
      have hLength := x.accepted_add_unaccepted
      cases hSuccess : x.isSuccess with
      | false => simp [hSuccess, counted]; omega
      | true => simp [hSuccess, counted]; omega

end Consignment

/-- Each request of an import carries a part of all listens, from the place where that part stands. -/
theorem part_eq_of_mem (hMem : x ∈ consignments c token type server taken 0 batches) {s : Shipment}
    (hSent : s ∈ x.shipments) : s.part = (batches.flatten.drop s.start).take s.part.length := by
  obtain ⟨earlier, outcome, course⟩ := exists_course_of_mem hMem
  obtain ⟨before, after, hBatch, hStart⟩ := exists_append_of_mem hMem
  obtain ⟨first, last, hPart, hPlace⟩ := course.exists_append_of_mem hSent
  have hDrop : batches.flatten = (before ++ first) ++ (s.part ++ (last ++ after)) := by
    rw [hBatch, hPart]
    simp only [List.append_assoc]
  have hLength : s.start = (before ++ first).length := by
    rw [hPlace, hStart, List.length_append, Nat.zero_add]
  rw [hDrop, hLength, List.drop_left, List.take_left]

/-- Only listens of the batch are accepted with it. -/
theorem holds_of_accepts (hMem : x ∈ consignments c token type server taken start batches)
    {place : Nat} (hAccepts : x.accepts place = true) : x.Holds place := by
  obtain ⟨earlier, outcome, course⟩ := exists_course_of_mem hMem
  obtain ⟨s, hSent, hAccepted⟩ := List.any_eq_true.mp hAccepts
  simp only [Bool.and_eq_true, decide_eq_true_eq] at hAccepted
  have hBounds := course.bounds_of_mem hSent
  exact ⟨Nat.le_trans hBounds.1 hAccepted.2.1, Nat.lt_of_lt_of_le hAccepted.2.2 hBounds.2⟩

variable (c token type server) in
/-- Among the places of an import, as many are counted as listens. -/
theorem countP_counts (taken start : Nat) (batches : List (List Listen)) :
    (List.range' start batches.flatten.length).countP (fun place =>
        (consignments c token type server taken start batches).any (·.counts place)) =
      ((consignments c token type server taken start batches).map Consignment.counted).sum := by
  rw [countP_any_consignments (p := Consignment.counts)]
  · simp only [Consignment.countP_counts_eq_counted]
  · exact fun x _ place hCounts => (Consignment.counts_iff.mp hCounts).2

variable (c token type server) in
/-- Among the places of an import, as many are accepted as listens of its batches. -/
theorem countP_accepts (taken start : Nat) (batches : List (List Listen)) :
    (List.range' start batches.flatten.length).countP (fun place =>
        (consignments c token type server taken start batches).any (·.accepts place)) =
      ((consignments c token type server taken start batches).map Consignment.accepted).sum :=
  countP_any_consignments fun _ hMem _ hAccepts => holds_of_accepts hMem hAccepts

/-- A batch that is sent in one request is accepted as a whole or not at all. -/
theorem accepts_eq_isSuccess_of_fits
    (hMem : x ∈ consignments c token type server taken start batches)
    (hFits : c.fits type x.batch = true) {place : Nat} (hHolds : x.Holds place) :
    x.accepts place = x.isSuccess := by
  obtain ⟨taken, outcome, course⟩ := exists_course_of_mem hMem
  obtain ⟨earlier, delivery, hEq, hEarlier⟩ := course.exists_last_of_fits rfl hFits
  have hNone : (earlier.any fun s => s.isAccepted && decide (s.Carries place)) = false := by
    rw [List.any_eq_false]
    intro s hMem
    simp [hEarlier s hMem]
  have hCarries : Shipment.Carries ⟨x.start, x.batch, delivery⟩ place := hHolds
  unfold Consignment.accepts Consignment.isSuccess
  rw [hEq, List.any_append, hNone, List.getLast?_append]
  simp [hCarries]

/-- Where counting and accepting differ, the batch was sent in halves. -/
theorem exists_not_fits_of_ne {place : Nat}
    (hDiffer : (consignments c token type server taken start batches).any (·.counts place) ≠
      (consignments c token type server taken start batches).any (·.accepts place)) :
    ∃ x ∈ consignments c token type server taken start batches,
      x.Holds place ∧ ¬c.fits type x.batch = true := by
  by_contra hNone
  have hSame : ∀ x ∈ consignments c token type server taken start batches,
      x.counts place = x.accepts place := by
    intro x hMem
    by_cases hHolds : x.Holds place
    · have hFits : c.fits type x.batch = true := by
        by_contra hCut
        exact hNone ⟨x, hMem, hHolds, hCut⟩
      rw [accepts_eq_isSuccess_of_fits hMem hFits hHolds]
      simp [Consignment.counts, hHolds]
    · have hNot : x.accepts place = false := by
        rw [Bool.eq_false_iff]
        exact fun hAccepts => hHolds (holds_of_accepts hMem hAccepts)
      rw [hNot]
      simp [Consignment.counts, hHolds]
  apply hDiffer
  rw [Bool.eq_iff_iff, List.any_eq_true, List.any_eq_true]
  constructor
  · rintro ⟨x, hMem, hCounts⟩
    exact ⟨x, hMem, hSame x hMem ▸ hCounts⟩
  · rintro ⟨x, hMem, hAccepts⟩
    exact ⟨x, hMem, hSame x hMem ▸ hAccepts⟩

/-- A listen that is counted without having been accepted was given up: the last request that started
no later than it was not accepted, and requests for later listens followed. -/
theorem given_up_of_counts (hMem : x ∈ consignments c token type server taken start batches)
    {place : Nat} (hCounts : x.counts place = true) (hNot : x.accepts place = false) :
    x.Holds place ∧ ∃ before s after, x.shipments = before ++ s :: after ∧
      s.isAccepted = false ∧ s.start ≤ place ∧ after ≠ [] ∧ ∀ later ∈ after, place < later.start := by
  obtain ⟨taken, outcome, course⟩ := exists_course_of_mem hMem
  obtain ⟨hSuccess, hHolds⟩ := Consignment.counts_iff.mp hCounts
  obtain ⟨before, s, after, hEq, hAfter, hReach⟩ := course.reaches hHolds.1 hHolds.2
  have hNotAccepted : s.isAccepted = false := by
    rcases hReach with hCarries | ⟨hLost, -⟩
    · unfold Consignment.accepts at hNot
      rw [List.any_eq_false] at hNot
      have := hNot s (by simp [hEq])
      simpa [hCarries] using this
    · exact Shipment.isAccepted_eq_false_of_isLost hLost
  refine ⟨hHolds, before, s, after, hEq, hNotAccepted, ?_, ?_, hAfter⟩
  · rcases hReach with hCarries | ⟨-, hStop⟩
    · exact hCarries.1
    · exact Nat.le_trans (Nat.le_add_right s.start s.part.length) hStop
  · rintro rfl
    unfold Consignment.isSuccess at hSuccess
    rw [hEq, List.getLast?_append] at hSuccess
    simp [hNotAccepted] at hSuccess

end

end Program

end Scrobbler
