import Scrobbler.Proofs.Json.Document
import Scrobbler.Proofs.Listen.RoundTrip
import Scrobbler.Proofs.Submission.Ceiling
import Scrobbler.Proofs.Submission.LastAttempt

/-!
What submissions put on the wire. Whatever the server does, the body of every request is an object of a
listen type and items, and the items are decoded as a contiguous part of the batch that was submitted:
as it is, or without its timestamps when it plays now.
-/

namespace Scrobbler

open Json (Wire)

/-- A request brings items to the server: its body has their listen type and the items as its only
members, and so has the tree that the text of its body is read as. -/
structure Draft.Brings (draft : Draft) (type : ListenType) (items : List Json) : Prop where
  body : draft.body = some (.object [("listen_type", .text type.name), ("payload", .array items)])
  text : ∀ request, draft.request = .ok request → ∃ text, request.body = some text ∧
    Json.Document.ofText text =
      ⟨.object [(.ofString "listen_type", .text (.ofString type.name)),
        (.ofString "payload", (Json.array items).node)] .closed, false⟩

namespace Batch

variable {type : ListenType} {part : List Listen} {limit : Nat}

/-- The body of a request has whole numbers only, if its payload does. -/
theorem isWhole_body (hLegible : (payload part).Legible limit) : (body type part).isWhole = true := by
  simp [body, Json.isWhole, Json.isWholeMembers, hLegible.whole]

/-- A batch is sent as it is, except that listens being played have no timestamp. -/
theorem prepare_eq (type : ListenType) (part : List Listen) :
    prepare type part =
      if type = .playingNow then part.map fun listen => { listen with listenedAt := none } else part := by
  cases type <;> rfl

/-- A listen being played is sent without the member for its timestamp. -/
theorem member?_of_playingNow (hRegular : ∀ listen ∈ part, listen.Regular) {item : Json}
    (hItem : item ∈ (prepare .playingNow part).map Listen.toJson) :
    item.member? "listened_at" = none := by
  obtain ⟨sent, hSent, rfl⟩ := List.mem_map.mp hItem
  obtain ⟨stamped, hStamped, rfl⟩ := List.mem_map.mp hSent
  exact Listen.member?_withoutTimestamp (hRegular stamped hStamped)

end Batch

namespace Client

variable {c : Client} {token : String} {type : ListenType} {batch part : List Listen} {limit : Nat}

/-- The draft of a part brings the prepared listens of that part. -/
theorem brings_submissionDraft
    (hLegible : (Batch.payload (Batch.prepare type part)).Legible limit) :
    (c.submissionDraft token type part).Brings type ((Batch.prepare type part).map Listen.toJson) where
  body := rfl
  text request hRequest := by
    refine ⟨_, body_of_request hRequest, ?_⟩
    rw [Json.Document.ofText_render (Batch.isWhole_body hLegible)]
    rfl

/-- Every request of a submission brings a contiguous part of the batch to the server, whichever
attempt at it this is: the items are decoded as the listens of that part, and those that play now
have lost their timestamps and nothing else. The listens were decoded or built, their numbers are
whole, and they are nested no deeper than the decoder may go. -/
theorem attempts_bring_listens (c : Client) (token : String) (type : ListenType) (server : Server)
    (retries taken : Nat) {batch : List Listen} {limit : Nat}
    (hObtained : ∀ listen ∈ batch, listen.Obtained)
    (hLegible : (Batch.payload batch).Legible limit) :
    ∀ draft ∈ ((c.submit token type retries batch).run server taken).attempts,
      ∃ part ∈ c.parts type batch, ∃ items,
        part <:+: batch ∧ draft = c.submissionDraft token type part ∧ draft.Brings type items ∧
          Wire.decoder limit (Json.array items).node =
            .ok (if type = .playingNow then part.map fun listen => { listen with listenedAt := none }
              else part) ∧
          (type = .playingNow → ∀ item ∈ items, item.member? "listened_at" = none) := by
  intro draft hDraft
  have course := c.course token type server retries taken 0 batch
  rw [course.attempts_eq] at hDraft
  obtain ⟨s, hMem, rfl⟩ := List.mem_map.mp hDraft
  have hPart : s.part ∈ c.parts type batch := course.part_mem_partsOf hMem
  have hInfix : s.part <:+: batch := by
    have hFlat := List.infix_of_mem_flatten hPart
    rwa [flatten_parts] at hFlat
  have hRegular : ∀ listen ∈ s.part, listen.Regular := fun listen hListen =>
    Listen.regular_of_obtained (hObtained listen (hInfix.subset hListen))
  have hPrepared : (Batch.payload (Batch.prepare type s.part)).Legible limit :=
    Batch.legible_payload_prepare type (fun _ hListen => hInfix.subset hListen) hLegible
  refine ⟨s.part, hPart, (Batch.prepare type s.part).map Listen.toJson, hInfix, rfl,
    brings_submissionDraft hPrepared, ?_, ?_⟩
  · rw [← Batch.prepare_eq]
    exact Batch.decoder_payload (Batch.regular_prepare type hRegular) hPrepared
  · rintro rfl item hItem
    exact Batch.member?_of_playingNow hRegular hItem

/-- A listen that was built and one that was decoded, each with a timestamp and members that no field
stands for, are sent as they play now: the first request is repeated, and a second one follows. -/
theorem attempts_bring_built_and_decoded :
    let built := ((Listen.ofTrack "Sigur Rós" "Hoppípolla").withListenedAt 1700000000).withInfo "tags"
      (.array [.text "\u266b \"live\"", .object [("year", .ofInt 2005)]])
    let decoded : Listen :=
      ⟨some (-1), ⟨"Ásgeir", "Torrent", some "In the Silence", [], [("mbid_mapping", .null)]⟩,
        [("inserted_at", .ofInt 1700000100)]⟩
    let outcome := ((loopback 0).submit "secret" .playingNow 1 [built, decoded]).run
      (.ofStatuses [429, 200, 200]) 0
    (∀ listen ∈ [built, decoded], listen.Obtained) ∧
      (Batch.payload [built, decoded]).Legible 127 ∧
      outcome.attempts ≠ [] ∧
      ∀ draft ∈ outcome.attempts,
        ∃ part ∈ (loopback 0).parts .playingNow [built, decoded], ∃ items,
          part <:+: [built, decoded] ∧
            draft = (loopback 0).submissionDraft "secret" .playingNow part ∧
            draft.Brings .playingNow items ∧
            Wire.decoder 127 (Json.array items).node =
              .ok (part.map fun listen => { listen with listenedAt := none }) ∧
            ∀ item ∈ items, item.member? "listened_at" = none := by
  intro built decoded outcome
  have hTags : (Json.array [.text "\u266b \"live\"", .object [("year", .ofInt 2005)]]).Canonical := by
    refine .array (List.forall_mem_cons.mpr ⟨.text _, List.forall_mem_singleton.mpr ?_⟩)
    exact .object (List.pairwise_singleton _ _) (List.forall_mem_singleton.mpr (.integer (by decide)))
  have hDecoded : Wire.decoder 127 (Json.object [("inserted_at", .ofInt 1700000100),
      ("track_metadata", .object [("artist_name", .text "Ásgeir"), ("mbid_mapping", .null),
        ("release_name", .text "In the Silence"), ("track_name", .text "Torrent"),
        ("additional_info", .null)]), ("listened_at", .ofInt (-1))]).node = .ok decoded := by
    rfl
  have hObtained : ∀ listen ∈ [built, decoded], listen.Obtained := by
    simp only [List.forall_mem_cons, List.not_mem_nil, false_imp_iff, implies_true, and_true]
    exact ⟨.withInfo "tags" hTags (.withListenedAt 1700000000 (.ofTrack "Sigur Rós" "Hoppípolla")),
      .decoded hDecoded⟩
  have hLegible : (Batch.payload [built, decoded]).Legible 127 := ⟨by decide, by decide⟩
  have course := (loopback 0).course "secret" .playingNow (.ofStatuses [429, 200, 200]) 1 0 0
    [built, decoded]
  refine ⟨hObtained, hLegible, ?_, fun draft hDraft => ?_⟩
  · rw [course.attempts_eq]
    exact fun hNone => course.shipments_ne_nil (List.map_eq_nil_iff.mp hNone)
  · obtain ⟨part, hPart, items, hInfix, hSame, hBrings, hBack, hStamp⟩ :=
      attempts_bring_listens (loopback 0) "secret" .playingNow (.ofStatuses [429, 200, 200]) 1 0
        hObtained hLegible draft hDraft
    exact ⟨part, hPart, items, hInfix, hSame, hBrings, hBack, hStamp rfl⟩

end Client

end Scrobbler
