import Mathlib.Algebra.Order.BigOperators.Group.List
import Mathlib.Algebra.Order.Group.Nat
import Mathlib.Data.List.Infix
import Scrobbler.Proofs.Submission.Ceiling
import Scrobbler.Proofs.Submission.RetryLoop

/-!
Fewer and longer requests. A batch is cut only where its payload is too long, and always at its midpoint.
So a greater ceiling, or listens that are written shorter, leave out some of the cuts and make no other ones:
what was sent in several requests that follow each other is then sent in one.
-/

namespace Scrobbler

namespace Batch

variable {α β : Type} {coarse fine more rest : List (List α)}

/-- Each list of `coarse` is made of one or more lists of `fine` that follow each other, and all of `fine`
is used up in order. -/
def Merges (coarse fine : List (List α)) : Prop :=
  ∃ groups : List (List (List α)),
    (∀ group ∈ groups, group ≠ []) ∧ groups.flatten = fine ∧ groups.map List.flatten = coarse

/-- The places at which the parts of a list begin and end, counted in its items. -/
def boundaries (parts : List (List α)) : List Nat := parts.inits.map fun earlier => earlier.flatten.length

namespace Merges

/-- Any pieces may be merged into one. -/
theorem single (hNe : fine ≠ []) : Merges [fine.flatten] fine :=
  ⟨[fine], by simpa using hNe, by simp, rfl⟩

/-- Merging is done side by side. -/
theorem append (first : Merges coarse fine) (second : Merges more rest) :
    Merges (coarse ++ more) (fine ++ rest) := by
  obtain ⟨groups, hGroups, rfl, rfl⟩ := first
  obtain ⟨others, hOthers, rfl, rfl⟩ := second
  refine ⟨groups ++ others, ?_, List.flatten_append, List.map_append⟩
  intro group hMem
  exact (List.mem_append.mp hMem).elim (hGroups group) (hOthers group)

/-- Merging does not depend on what the items are. -/
theorem map (f : α → β) (h : Merges coarse fine) : Merges (coarse.map (List.map f)) (fine.map (List.map f)) := by
  obtain ⟨groups, hGroups, rfl, rfl⟩ := h
  refine ⟨groups.map (List.map (List.map f)), ?_, List.map_flatten.symm, ?_⟩
  · intro group hMem
    obtain ⟨origin, hOrigin, rfl⟩ := List.mem_map.mp hMem
    simpa using hGroups origin hOrigin
  · simp only [List.map_map]
    exact List.map_congr_left fun group _ => List.map_flatten.symm

/-- Merging leaves no more lists. -/
theorem length_le (h : Merges coarse fine) : coarse.length ≤ fine.length := by
  obtain ⟨groups, hGroups, rfl, rfl⟩ := h
  have hLengths : ∀ count ∈ groups.map List.length, 1 ≤ count := by
    intro count hMem
    obtain ⟨group, hGroup, rfl⟩ := List.mem_map.mp hMem
    exact List.length_pos_of_ne_nil (hGroups group hGroup)
  rw [List.length_map, List.length_flatten]
  simpa using List.length_le_sum_of_one_le _ hLengths

/-- Merging removes boundaries and makes no new ones. -/
theorem boundaries_subset (h : Merges coarse fine) : boundaries coarse ⊆ boundaries fine := by
  obtain ⟨groups, -, rfl, rfl⟩ := h
  intro place hPlace
  obtain ⟨earlier, hEarlier, rfl⟩ := List.mem_map.mp hPlace
  obtain ⟨before, ⟨after, rfl⟩, rfl⟩ := List.prefix_map_iff.mp ((List.mem_inits _ _).mp hEarlier)
  refine List.mem_map.mpr ⟨before.flatten, ?_, by rw [List.flatten_flatten]⟩
  rw [List.mem_inits, List.flatten_append]
  exact List.prefix_append _ _

end Merges

/-- The boundaries depend on the lengths of the parts alone. -/
theorem boundaries_map (f : α → β) (parts : List (List α)) :
    boundaries (parts.map (List.map f)) = boundaries parts := by
  unfold boundaries
  rw [List.map_inits, List.map_map]
  refine List.map_congr_left fun earlier _ => ?_
  rw [Function.comp_apply, ← List.map_flatten, List.length_map]

/-- Both halves of a batch are written shorter than the batch. -/
theorem payloadSize_prepare_halves_lt (type : ListenType) {batch : List Listen} (h : 2 ≤ batch.length) :
    payloadSize (prepare type (halves batch).1) < payloadSize (prepare type batch) ∧
      payloadSize (prepare type (halves batch).2) < payloadSize (prepare type batch) := by
  have hWhole : prepare type (halves batch).1 ++ prepare type (halves batch).2 = prepare type batch := by
    rw [← prepare_append, halves_fst_append_snd]
  rw [← hWhole]
  exact payloadSize_lt_append (prepare_ne_nil type (halves_fst_ne_nil h))
    (prepare_ne_nil type (halves_snd_ne_nil h))

end Batch

/-- The written form in which a listen is sent. -/
def Listen.sentAs (type : ListenType) (listen : Listen) : Json := (listen.preparedFor type).toJson

/-- The items of the payload that a request carries. -/
def Draft.items (d : Draft) : List Json :=
  match d.body.bind (Json.member? "payload") with
  | some (.array items) => items
  | _ => []

namespace Outcome

variable {α : Type}

/-- Every attempt had an answer that does not ask for patience. -/
def IsUndelayed (o : Outcome α) : Prop := ∀ delivery ∈ o.deliveries, delivery.IsFinal

/-- The payloads that were sent, in order. -/
def payloads (o : Outcome α) : List (List Json) := o.attempts.map Draft.items

end Outcome

namespace Course

variable {c : Client} {token : String} {type : ListenType} {server : Server} {stage : Stage}
  {retries taken start : Nat} {batch : List Listen} {shipments : List Shipment}
  {outcome : Outcome (Checked Submission)}

/-- A submission whose requests are all answered raises no error. -/
theorem ne_error_of_isFinal
    (course : Course c token type server stage retries taken start batch shipments outcome)
    (hFinal : ∀ s ∈ shipments, s.delivery.IsFinal) (error : ServiceError) : outcome.value ≠ .error error := by
  intro hFailed
  obtain ⟨earlier, last, rfl, hLost⟩ := course.exists_last_of_error hFailed
  obtain ⟨fault, hFault⟩ := Shipment.isLost_iff.mp hLost
  obtain ⟨response, hAnswer, -⟩ := hFinal last (List.mem_append_right _ (List.mem_singleton_self last))
  simp [hFault] at hAnswer

/-- If no answer asks for patience, each part is sent once. -/
theorem map_part_eq
    (course : Course c token type server stage retries taken start batch shipments outcome)
    (hFinal : ∀ s ∈ shipments, s.delivery.IsFinal) : shipments.map Shipment.part = partsOf c type batch stage := by
  induction course with
  | settled hFits hLast =>
      rw [partsOf, Client.parts_of_fits hFits]
      rfl
  -- Only an answer that asks for patience would be followed by the same part again.
  | repeated hFits hNotice rest ih =>
      rw [Client.retryNotice?, Submission.retryNotice?_eq_none_iff.mpr (hFinal _ List.mem_cons_self)] at hNotice
      cases hNotice
  | stopped first hFailed ih => exact absurd hFailed (first.ne_error_of_isFinal hFinal _)
  | continued first hOk second ihFirst ihSecond =>
      rw [List.map_append, ihFirst fun s hMem => hFinal s (List.mem_append_left _ hMem),
        ihSecond fun s hMem => hFinal s (List.mem_append_right _ hMem)]
      rfl
  | merged hCut pass hOk ih =>
      rw [partsOf, Client.parts_of_not_fits hCut]
      exact ih hFinal
  | abandoned hCut pass hFailed ih => exact absurd hFailed (pass.ne_error_of_isFinal hFinal _)
  | restarted hCut pass hFailed rest ihPass ihRest =>
      exact absurd hFailed (pass.ne_error_of_isFinal (fun s hMem => hFinal s (List.mem_append_left _ hMem)) _)

end Course

namespace Client

/-- There is a submission of the batch that sends these payloads in order, to a server that answers every
request and never asks for patience. -/
def SendsOnce (c : Client) (type : ListenType) (batch : List Listen) (payloads : List (List Json)) : Prop :=
  ∃ token server retries taken,
    ((c.submit token type retries batch).run server taken).IsUndelayed ∧
      ((c.submit token type retries batch).run server taken).payloads = payloads

variable {c wider : Client} {token : String} {type shorter : ListenType} {batch : List Listen}
  {payloads : List (List Json)}

/-- A request carries the listens of its part, as they are sent. -/
theorem items_submissionDraft (part : List Listen) :
    (c.submissionDraft token type part).items = part.map (Listen.sentAs type) := by
  show (Batch.prepare type part).map Listen.toJson = _
  rw [Batch.prepare_eq_map, List.map_map]
  rfl

/-- What is sent when nothing has to be repeated are the parts of the batch. -/
theorem SendsOnce.eq_parts (h : c.SendsOnce type batch payloads) :
    payloads = (c.parts type batch).map (List.map (Listen.sentAs type)) := by
  obtain ⟨token, server, retries, taken, hUndelayed, rfl⟩ := h
  have course := c.course token type server retries taken 0 batch
  have hParts : (c.shipments token type server retries taken 0 batch).map Shipment.part =
      c.parts type batch := by
    refine course.map_part_eq fun s hMem => hUndelayed _ ?_
    rw [course.deliveries_eq]
    exact List.mem_map_of_mem hMem
  rw [Outcome.payloads, course.attempts_eq, ← hParts, List.map_map, List.map_map]
  exact List.map_congr_left fun s _ => items_submissionDraft s.part

/-- If whatever fits in one request also fits in one of another kind, then the parts of the other kind are
made of parts of the first kind. -/
theorem merges_parts (h : ∀ part, c.fits type part = true → wider.fits shorter part = true)
    (batch : List Listen) : Batch.Merges (wider.parts shorter batch) (c.parts type batch) := by
  -- The induction is on the cuts of the other kind: each of them is made for the first kind, too.
  fun_induction parts wider shorter batch with
  | case1 batch hFits =>
      have hSingle := Batch.Merges.single (parts_ne_nil c type batch)
      rwa [flatten_parts] at hSingle
  | case2 batch hCut hFirst hSecond ihFirst ihSecond =>
      rw [parts_of_not_fits fun hFits => hCut (h batch hFits)]
      exact ihFirst.append ihSecond

/-- What fits below a ceiling fits below a greater one. -/
theorem fits_of_maxListenSize_le (hLe : c.settings.maxListenSize ≤ wider.settings.maxListenSize)
    (hFits : c.fits type batch = true) : wider.fits type batch = true := by
  simp only [fits, Bool.or_eq_true, decide_eq_true_eq] at hFits ⊢
  omega

/-- What fits with its timestamps fits without them. -/
theorem fits_playingNow (hFits : c.fits type batch = true) : c.fits .playingNow batch = true := by
  have hSize := Batch.payloadSize_prepare_playingNow_le type batch
  simp only [fits, Bool.or_eq_true, decide_eq_true_eq] at hFits ⊢
  omega

/-- A server that agrees to everything lets every part be sent once. -/
theorem sendsOnce_parts (hBuilt : ((c.post token "submit-listens").request).isOk = true) (type : ListenType)
    (batch : List Listen) :
    c.SendsOnce type batch ((c.parts type batch).map (List.map (Listen.sentAs type))) := by
  have hUndelayed : ((c.submit token type 0 batch).run (.ofReplies []) 0).IsUndelayed := by
    have course := c.course token type (.ofReplies []) 0 0 0 batch
    intro delivery hSent
    rw [course.deliveries_eq] at hSent
    obtain ⟨s, hMem, rfl⟩ := List.mem_map.mp hSent
    obtain ⟨earlier, hDelivery⟩ := course.exists_delivery_of_mem hMem
    obtain ⟨address, hReply⟩ := delivery_ofReplies [] hBuilt earlier
    rw [hDelivery, hReply]
    exact ⟨_, rfl, by decide⟩
  have hSent : c.SendsOnce type batch ((c.submit token type 0 batch).run (.ofReplies []) 0).payloads :=
    ⟨token, .ofReplies [], 0, 0, hUndelayed, rfl⟩
  rwa [hSent.eq_parts] at hSent

/-- Listens that are written shorter, and ceilings that are greater, only merge requests. Two payloads in
one take a byte less than both, so that each half of a batch is written shorter than the batch. If no answer
asks for patience, the payloads below a ceiling are made of payloads below a smaller one that follow each
other, and there are no more of them. A batch that plays now takes no more requests than it does as an import
below the same ceiling, and is cut at no other places. -/
theorem requests_merge :
    (∀ first second : List Listen, first ≠ [] → second ≠ [] →
        Batch.payloadSize (first ++ second) = Batch.payloadSize first + Batch.payloadSize second - 1) ∧
      (∀ (type : ListenType) (batch : List Listen), 2 ≤ batch.length →
        Batch.payloadSize (Batch.prepare type (Batch.halves batch).1) <
            Batch.payloadSize (Batch.prepare type batch) ∧
          Batch.payloadSize (Batch.prepare type (Batch.halves batch).2) <
            Batch.payloadSize (Batch.prepare type batch)) ∧
      (∀ (c wider : Client) (type : ListenType) (batch : List Listen) (fine coarse : List (List Json)),
        c.settings.maxListenSize ≤ wider.settings.maxListenSize →
        c.SendsOnce type batch fine → wider.SendsOnce type batch coarse →
          Batch.Merges coarse fine ∧ coarse.length ≤ fine.length) ∧
      ∀ (c other : Client) (batch : List Listen) (imported playing : List (List Json)),
        c.settings.maxListenSize = other.settings.maxListenSize →
        c.SendsOnce .bulk batch imported → other.SendsOnce .playingNow batch playing →
          playing.length ≤ imported.length ∧ Batch.boundaries playing ⊆ Batch.boundaries imported := by
  refine ⟨fun _ _ => Batch.payloadSize_append, fun type _ => Batch.payloadSize_prepare_halves_lt type, ?_, ?_⟩
  · intro c wider type batch fine coarse hLe hFine hCoarse
    obtain rfl := hFine.eq_parts
    obtain rfl := hCoarse.eq_parts
    have hParts : Batch.Merges (wider.parts type batch) (c.parts type batch) :=
      merges_parts (fun _ hFits => fits_of_maxListenSize_le hLe hFits) batch
    exact ⟨hParts.map _, (hParts.map _).length_le⟩
  · intro c other batch imported playing hEq hImported hPlaying
    obtain rfl := hImported.eq_parts
    obtain rfl := hPlaying.eq_parts
    have hParts : Batch.Merges (other.parts .playingNow batch) (c.parts .bulk batch) :=
      merges_parts (fun _ hFits => fits_of_maxListenSize_le hEq.le (fits_playingNow hFits)) batch
    rw [List.length_map, List.length_map, Batch.boundaries_map, Batch.boundaries_map]
    exact ⟨hParts.length_le, hParts.boundaries_subset⟩

/-- Three listens: they take three requests if each has to be sent alone, two below a ceiling of 250 bytes,
and one below that ceiling if they play now. -/
theorem requests_merge_of_three_listens :
    let listen (track : String) := (Listen.ofTrack "Portishead" track).withListenedAt 1700000000
    let first := [listen "Roads"]
    let second := [listen "Glory Box", listen "Numb"]
    let wider := ofSettings { Settings.standard with apiRoot := "http://[::1]", maxListenSize := 250 }
    Batch.payloadSize (first ++ second) = 95 + 192 - 1 ∧
      Batch.payloadSize (Batch.halves (first ++ second)).1 < 286 ∧
      Batch.payloadSize (Batch.halves (first ++ second)).2 < 286 ∧
      ∃ alone imported playing,
        (loopback 0).settings.maxListenSize ≤ wider.settings.maxListenSize ∧
          (loopback 0).SendsOnce .bulk (first ++ second) alone ∧
          wider.SendsOnce .bulk (first ++ second) imported ∧
          wider.SendsOnce .playingNow (first ++ second) playing ∧
          alone.length = 3 ∧ imported.length = 2 ∧ playing.length = 1 ∧
          Batch.Merges imported alone ∧ Batch.boundaries playing ⊆ Batch.boundaries imported := by
  intro listen first second wider
  obtain ⟨hAppend, hHalves, hCeilings, hPlaying⟩ := requests_merge
  have hCut : Batch.halves (first ++ second) = (first, second) := by simp [Batch.halves, first, second]
  have hSizes : Batch.payloadSize first = 95 ∧ Batch.payloadSize second = 192 := by decide +kernel
  have hJoined : Batch.payloadSize (first ++ second) = 95 + 192 - 1 := by
    rw [hAppend first second (List.cons_ne_nil _ _) (List.cons_ne_nil _ _), hSizes.1, hSizes.2]
  have hShorter := hHalves .bulk (first ++ second) (Nat.le_add_left 2 1)
  simp only [Batch.prepare_bulk, hJoined] at hShorter
  have hBuilt : ((wider.post "secret" "submit-listens").request).isOk = true := request_loopback 0
  have hCeiling : (loopback 0).settings.maxListenSize ≤ wider.settings.maxListenSize := Nat.zero_le _
  have hAlone := sendsOnce_parts (request_loopback 0) .bulk (first ++ second)
  have hImported := sendsOnce_parts hBuilt .bulk (first ++ second)
  have hNow := sendsOnce_parts hBuilt .playingNow (first ++ second)
  have hNotWhole : ¬wider.fits .bulk (first ++ second) = true := by
    rw [not_fits_iff, Batch.prepare_bulk, hJoined]
    exact ⟨by decide, Nat.le_add_left 2 1⟩
  have hSecond : wider.fits .bulk second = true := by
    rw [fits, Batch.prepare_bulk, hSizes.2]
    rfl
  refine ⟨hJoined, hShorter.1, hShorter.2, _, _, _, hCeiling, hAlone, hImported, hNow, ?_, ?_, ?_,
    (hCeilings _ _ _ _ _ _ hCeiling hAlone hImported).1, (hPlaying _ _ _ _ _ rfl hImported hNow).2⟩
  · rw [parts_of_not_fits (by simp [fits_loopback, first, second]), hCut,
      parts_of_fits (by simp [fits_loopback, first]), parts_of_not_fits (by simp [fits_loopback, second]),
      parts_of_fits (by simp [fits_loopback, Batch.halves, second]),
      parts_of_fits (by simp [fits_loopback, Batch.halves, second])]
    rfl
  · rw [parts_of_not_fits hNotWhole, hCut, parts_of_fits (by simp [fits, first]), parts_of_fits hSecond]
    rfl
  · rw [parts_of_fits (by decide +kernel)]
    rfl

end Client

end Scrobbler
