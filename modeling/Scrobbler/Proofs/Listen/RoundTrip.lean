import Scrobbler.Listen.Batch
import Scrobbler.Proofs.Json.Record

/-!
Listens are decoded as they were written. A listen that was decoded, or built from artist and track, is
regular: what it keeps besides its fields is canonical and bears no name of a field. Regular listens of
whole numbers come back with every member, in particular those that no field stands for.
-/

namespace Scrobbler

open Json (Wire Fields Decoder Members)

namespace TrackMetadata

/-- What is kept besides the fields is canonical, and no field. -/
structure Regular (m : TrackMetadata) : Prop where
  additionalInfo : (Json.object m.additionalInfo).Canonical
  extra : fields.IsExtra m.extra

variable {m : TrackMetadata} {depth : Nat}

theorem fields_ensures :
    fields.Ensures fun build => ∃ artistName trackName releaseName additionalInfo,
      build = mk artistName trackName releaseName additionalInfo ∧
        (Json.object additionalInfo).Canonical := by
  have hArtist : (mk <$> Fields.required "artist_name" .text).Ensures fun build =>
      ∃ artistName, build = mk artistName :=
    (Fields.ensures_true _).map fun artistName _ => ⟨artistName, rfl⟩
  have hTrack := hArtist.seq (Fields.ensures_true (.required "track_name" .text))
    (R := fun build => ∃ artistName trackName, build = mk artistName trackName) (by
      rintro _ trackName ⟨artistName, rfl⟩ -
      exact ⟨artistName, trackName, rfl⟩)
  have hRelease := hTrack.seq (Fields.ensures_true (.optional "release_name" .text))
    (R := fun build => ∃ artistName trackName releaseName, build = mk artistName trackName releaseName)
    (by
      rintro _ releaseName ⟨artistName, trackName, rfl⟩ -
      exact ⟨artistName, trackName, releaseName, rfl⟩)
  refine hRelease.seq (Q := fun info => (Json.object info).Canonical)
    (Fields.ensures_field (.map (.nullable Json.canonical_empty Decoder.object_ensures)) ?_) ?_
  · rintro _ ⟨⟩
    exact Json.canonical_empty
  · rintro _ info ⟨artistName, trackName, releaseName, rfl⟩ hInfo
    exact ⟨artistName, trackName, releaseName, info, rfl, hInfo⟩

/-- Decoded metadata are regular. -/
theorem decoder_ensures : (Wire.decoder : Decoder TrackMetadata).Ensures Regular := by
  intro depth node m hDecoded
  obtain ⟨build, extra, ⟨artistName, trackName, releaseName, info, rfl, hInfo⟩, hExtra, rfl⟩ :=
    Fields.extensible_ensures fields_ensures depth node m hDecoded
  exact ⟨hInfo, hExtra⟩

/-- Metadata are read back from the members that they are written as. -/
theorem fills_written (hInfo : (Json.object m.additionalInfo).Canonical)
    (hLegible : ∀ member ∈ Json.membersIf "additional_info" m.additionalInfo,
      member.2.Legible depth) :
    fields.Fills depth
      ([("artist_name", .text m.artistName), ("track_name", .text m.trackName)] ++
        Json.memberIf "release_name" (m.releaseName.map .text) ++
        Json.membersIf "additional_info" m.additionalInfo)
      (mk m.artistName m.trackName m.releaseName m.additionalInfo) := by
  have hArtist : (Fields.required "artist_name" .text).Fills depth
      [("artist_name", .text m.artistName)] m.artistName := Fields.fills_field rfl
  have hTrack : (Fields.required "track_name" .text).Fills depth
      [("track_name", .text m.trackName)] m.trackName := Fields.fills_field rfl
  have hRelease : (Fields.optional "release_name" .text).Fills depth
      (Json.memberIf "release_name" (m.releaseName.map .text)) m.releaseName :=
    Fields.fills_optional fun _ _ => ⟨nofun, rfl⟩
  have hAdditional : (Fields.withDefault "additional_info"
      (.map (·.getD []) (.nullable .object)) []).Fills depth
      (Json.membersIf "additional_info" m.additionalInfo) m.additionalInfo := by
    unfold Json.membersIf at hLegible ⊢
    split at hLegible
    · next hEmpty =>
        rw [if_pos hEmpty, List.isEmpty_iff.mp hEmpty]
        exact Fields.fills_missing
    · next hSome =>
        rw [if_neg hSome]
        have hObject := Decoder.object_node hInfo (hLegible _ List.mem_cons_self)
        have hBack : Decoder.nullable .object depth (Json.object m.additionalInfo).node =
            .ok (some m.additionalInfo) := Decoder.nullable_node nofun hObject
        refine Fields.fills_field ?_
        rw [Decoder.map, hBack]
        rfl
  refine (((hArtist.map mk).seq hTrack ?_).seq hRelease ?_).seq hAdditional ?_
  · simp
  · intro member hMem
    simp [Json.name_of_mem_memberIf hMem]
  · intro member hMem
    rw [Json.membersIf_eq_memberIf] at hMem
    simp [Json.name_of_mem_memberIf hMem]

/-- Regular metadata are decoded as they were written. -/
theorem decoder_node (hRegular : m.Regular) (hLegible : m.toJson.Legible depth) :
    Wire.decoder depth m.toJson.node = .ok m := by
  obtain ⟨inner, rfl, hInner⟩ := Json.legible_object_iff.mp hLegible
  obtain ⟨hWritten, hExtra⟩ := List.forall_mem_append.mp hInner
  obtain ⟨-, hInfo⟩ := List.forall_mem_append.mp hWritten
  exact Fields.extensible_node (fills_written hRegular.additionalInfo hInfo) hRegular.extra hExtra

end TrackMetadata

namespace Listen

/-- What is kept besides the fields is canonical, and no field. -/
structure Regular (listen : Listen) : Prop where
  trackMetadata : listen.trackMetadata.Regular
  extra : fields.IsExtra listen.extra

variable {listen : Listen} {depth : Nat}

theorem fields_ensures :
    fields.Ensures fun build => ∃ listenedAt trackMetadata,
      build = mk listenedAt trackMetadata ∧ trackMetadata.Regular := by
  have hListenedAt : (mk <$> Fields.optional "listened_at" .int64).Ensures fun build =>
      ∃ listenedAt, build = mk listenedAt :=
    (Fields.ensures_true _).map fun listenedAt _ => ⟨listenedAt, rfl⟩
  refine hListenedAt.seq (Fields.ensures_field TrackMetadata.decoder_ensures nofun) ?_
  rintro _ trackMetadata ⟨listenedAt, rfl⟩ hRegular
  exact ⟨listenedAt, trackMetadata, rfl, hRegular⟩

/-- Decoded listens are regular. -/
theorem decoder_ensures : (Wire.decoder : Decoder Listen).Ensures Regular := by
  intro depth node listen hDecoded
  obtain ⟨build, extra, ⟨listenedAt, trackMetadata, rfl, hRegular⟩, hExtra, rfl⟩ :=
    Fields.extensible_ensures fields_ensures depth node listen hDecoded
  exact ⟨hRegular, hExtra⟩

/-- A listen is read back from the members that it is written as. -/
theorem fills_written (hRegular : listen.trackMetadata.Regular)
    (hLegible : listen.trackMetadata.toJson.Legible depth) :
    fields.Fills depth
      (Json.memberIf "listened_at" (listen.listenedAt.map Json.ofInt64) ++
        [("track_metadata", listen.trackMetadata.toJson)])
      (mk listen.listenedAt listen.trackMetadata) := by
  have hListenedAt : (Fields.optional "listened_at" .int64).Fills depth
      (Json.memberIf "listened_at" (listen.listenedAt.map Json.ofInt64)) listen.listenedAt :=
    Fields.fills_optional fun seconds _ => ⟨nofun, Decoder.int64_node depth seconds⟩
  have hMetadata : (Fields.required "track_metadata" Wire.decoder).Fills depth
      [("track_metadata", listen.trackMetadata.toJson)] listen.trackMetadata :=
    Fields.fills_field (TrackMetadata.decoder_node hRegular hLegible)
  refine (hListenedAt.map mk).seq hMetadata ?_
  simp

/-- Regular listens are decoded as they were written. -/
theorem decoder_node (hRegular : listen.Regular) (hLegible : listen.toJson.Legible depth) :
    Wire.decoder depth listen.toJson.node = .ok listen := by
  obtain ⟨inner, rfl, hInner⟩ := Json.legible_object_iff.mp hLegible
  obtain ⟨-, hRest⟩ := List.forall_mem_append.mp hInner
  obtain ⟨hMetadata, hExtra⟩ := List.forall_mem_cons.mp hRest
  have hBack := Fields.extensible_node (fills_written hRegular.trackMetadata hMetadata)
    hRegular.extra hExtra
  rw [List.append_assoc] at hBack
  exact hBack

/-- A listen that was decoded, or built from artist and track. -/
inductive Obtained : Listen → Prop
  | decoded {depth : Nat} {node : Json.Node} {listen : Listen}
      (hDecoded : Wire.decoder depth node = .ok listen) : Obtained listen
  | ofTrack (artist track : String) : Obtained (ofTrack artist track)
  | withRelease (release : String) {listen : Listen} (h : Obtained listen) :
      Obtained (listen.withRelease release)
  | withListenedAt (seconds : Int64) {listen : Listen} (h : Obtained listen) :
      Obtained (listen.withListenedAt seconds)
  | withInfo (name : String) {value : Json} (hValue : value.Canonical) {listen : Listen}
      (h : Obtained listen) : Obtained (listen.withInfo name value)
  | withoutTimestamp {listen : Listen} (h : Obtained listen) : Obtained listen.withoutTimestamp

/-- Listens that come from a text are regular. -/
theorem regular_of_obtained (h : listen.Obtained) : listen.Regular := by
  induction h with
  | decoded hDecoded => exact decoder_ensures _ _ _ hDecoded
  | ofTrack artist track =>
      exact ⟨⟨Json.canonical_empty, Fields.isExtra_nil _⟩, Fields.isExtra_nil _⟩
  | withRelease release h ih => exact ⟨⟨ih.trackMetadata.additionalInfo, ih.trackMetadata.extra⟩, ih.extra⟩
  | withListenedAt seconds h ih => exact ⟨ih.trackMetadata, ih.extra⟩
  | withInfo name hValue h ih =>
      exact ⟨⟨ih.trackMetadata.additionalInfo.set name hValue, ih.trackMetadata.extra⟩, ih.extra⟩
  | withoutTimestamp h ih => exact ⟨ih.trackMetadata, ih.extra⟩

theorem legible_withoutTimestamp (h : listen.toJson.Legible depth) :
    listen.withoutTimestamp.toJson.Legible depth := by
  obtain ⟨inner, rfl, hInner⟩ := Json.legible_object_iff.mp h
  obtain ⟨-, hRest⟩ := List.forall_mem_append.mp hInner
  exact Json.legible_object_iff.mpr ⟨inner, rfl, hRest⟩

/-- Without its timestamp, a regular listen has no member of that name left, since none that it keeps
bears the name of a field. -/
theorem member?_withoutTimestamp (hRegular : listen.Regular) :
    listen.withoutTimestamp.toJson.member? "listened_at" = none := by
  have hExtra : ∀ member ∈ listen.extra, member.1 ≠ "listened_at" := by
    intro member hMem
    have hOther := hRegular.extra.unclaimed member hMem
    simp only [fields, Fields.take?_seq_eq_none, Fields.take?_map_eq_none,
      Fields.take?_optional_eq_none] at hOther
    exact hOther.1
  show List.lookup "listened_at"
    (("track_metadata", listen.trackMetadata.toJson) :: listen.extra).reverse = none
  rw [List.lookup_eq_none_iff]
  intro member hMem
  rcases List.mem_cons.mp (List.mem_reverse.mp hMem) with rfl | hMem
  · rfl
  · exact bne_iff_ne.mpr (hExtra member hMem).symm

end Listen

namespace Batch

variable {batch part : List Listen} {limit : Nat}

theorem regular_prepare (type : ListenType) (hRegular : ∀ listen ∈ batch, listen.Regular) :
    ∀ listen ∈ prepare type batch, listen.Regular := by
  cases type with
  | single => exact hRegular
  | bulk => exact hRegular
  | playingNow =>
      intro listen hMem
      obtain ⟨stamped, hStamped, rfl⟩ := List.mem_map.mp hMem
      exact ⟨(hRegular stamped hStamped).trackMetadata, (hRegular stamped hStamped).extra⟩

/-- What is sent of a part is legible if the whole batch is. -/
theorem legible_payload_prepare (type : ListenType) (hPart : ∀ listen ∈ part, listen ∈ batch)
    (hLegible : (payload batch).Legible limit) : (payload (prepare type part)).Legible limit := by
  obtain ⟨inner, rfl, hItems⟩ := Json.legible_array_iff.mp hLegible
  have hListen : ∀ listen ∈ part, listen.toJson.Legible inner := fun listen hMem =>
    hItems _ (List.mem_map_of_mem (hPart listen hMem))
  refine Json.legible_array_iff.mpr ⟨inner, rfl, fun item hItem => ?_⟩
  obtain ⟨sent, hSent, rfl⟩ := List.mem_map.mp hItem
  cases type with
  | single => exact hListen sent hSent
  | bulk => exact hListen sent hSent
  | playingNow =>
      obtain ⟨stamped, hStamped, rfl⟩ := List.mem_map.mp hSent
      exact Listen.legible_withoutTimestamp (hListen stamped hStamped)

/-- A payload of regular listens is decoded as it was written. -/
theorem decoder_payload (hRegular : ∀ listen ∈ batch, listen.Regular)
    (hLegible : (payload batch).Legible limit) :
    Wire.decoder limit (payload batch).node = .ok batch := by
  obtain ⟨inner, rfl, hItems⟩ := Json.legible_array_iff.mp hLegible
  exact Decoder.list_node fun listen hMem =>
    Listen.decoder_node (hRegular listen hMem) (hItems _ (List.mem_map_of_mem hMem))

end Batch

end Scrobbler
