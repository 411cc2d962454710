import Scrobbler.Feedback
import Scrobbler.Pin
import Scrobbler.Playlist.Basic
import Scrobbler.Proofs.Json.Restoration
import Scrobbler.Statistics.Activity
import Scrobbler.Statistics.Basic
import Scrobbler.Timeline
import Scrobbler.User

/-!
The records that are read and written. Whatever is read from a text of whole numbers is read again, the
same, from its own written form: each field is restored, and a record is written as its fields are.
-/

namespace Scrobbler

open Json (Wire Fields Decoder Members Layout legible_null legible_text legible_ofInt)
open Json.Decoder (any_restores bool_restores text_restores int64_restores uint64_restores
  uint16_restores uint8_restores variant_restores object_restores list_restores)
open Json.Fields (apart_field restores_required restores_withDefault restores_optional
  restores_optional_memberIf restores_membersIf)

namespace Json

theorem ofText?_eq_ofOption (s : Option String) : ofText? s = ofOption .text s := by
  cases s <;> rfl

theorem getD_null_eq_ofOption (value : Option Json) : value.getD .null = ofOption id value := by
  cases value <;> rfl

/-- Only `null` is read as `null`. -/
theorem Node.eq_null_of_value {depth : Nat} {node : Node} (h : Node.value depth node = .ok .null) :
    node = .null := by
  cases node with
  | null => rfl
  | bool b => cases h
  | number numeral =>
      obtain ⟨n, -, hNull⟩ := map_eq_ok.mp h
      cases hNull
  | text literal =>
      obtain ⟨s, -, hNull⟩ := map_eq_ok.mp h
      cases hNull
  | array items ending =>
      simp only [Node.value, descend_eq_ok, bind_eq_ok, pure_eq_ok] at h
      obtain ⟨inner, -, values, -, -, -, hNull⟩ := h
      cases hNull
  | object members ending =>
      simp only [Node.value, descend_eq_ok, bind_eq_ok, pure_eq_ok] at h
      obtain ⟨inner, -, values, -, -, -, hNull⟩ := h
      cases hNull
  | broken fault named => cases h

end Json

variable {depth : Nat}

namespace TrackMetadata

/-- Additional information may be `null`, which is read as none. -/
theorem additionalInfo_returns (node : Json.Node) (members : Members) (hWhole : node.Whole)
    (hMembers : Decoder.map (·.getD []) (.nullable .object) depth node = .ok members)
    (hSome : members ≠ []) :
    (Decoder.map (·.getD []) (.nullable .object)).Returns depth (.object members) members := by
  obtain ⟨read, hRead, rfl⟩ := map_eq_ok.mp hMembers
  obtain ⟨hWritten, hBack⟩ := Decoder.nullable_restores object_restores (fun _ _ _ => nofun)
    node read hWhole hRead
  cases read with
  | none => exact absurd rfl hSome
  | some members => exact ⟨hWritten, congrArg (Except.map _) hBack⟩

theorem restores : (Wire.decoder : Decoder TrackMetadata).Restores toJson depth := by
  refine Fields.Restores.extensible (fun inner _ =>
    restores_required text_restores |>.map mk
      |>.seq (restores_required text_restores) (apart_field (by simp))
      |>.seq (restores_optional_memberIf text_restores fun _ _ _ => nofun) (apart_field (by simp))
      |>.seq (restores_membersIf additionalInfo_returns) (apart_field (by simp))) ?_
  simp only [Layout.forall_seq, Layout.forall_map, Layout.forall_of]
  exact fun artist track release info extra => rfl

end TrackMetadata

theorem Listen.restores : (Wire.decoder : Decoder Listen).Restores toJson depth := by
  refine Fields.Restores.extensible (fun inner _ =>
    restores_optional_memberIf int64_restores (fun _ _ _ => nofun) |>.map mk
      |>.seq (restores_required TrackMetadata.restores) (apart_field (by simp))) ?_
  simp only [Layout.forall_seq, Layout.forall_map, Layout.forall_of]
  intro listenedAt metadata extra
  simp only [toJson, List.append_assoc, List.singleton_append]

theorem ListenType.restores :
    (Wire.decoder : Decoder ListenType).Restores (fun type => .text type.name) depth :=
  variant_restores fun type => by cases type <;> rfl

/-- Events of a timeline come back with their metadata, whatever these are. -/
theorem TimelineEvent.restores : (Wire.decoder : Decoder TimelineEvent).Restores toJson depth := by
  refine Fields.Restores.closed (fun inner _ =>
    restores_optional uint64_restores (fun _ _ _ => nofun) |>.map mk
      |>.seq (restores_required text_restores) (apart_field (by simp))
      |>.seq (restores_required text_restores) (apart_field (by simp))
      |>.seq (restores_required int64_restores) (apart_field (by simp))
      |>.seq (restores_withDefault any_restores ⟨legible_null inner, rfl⟩) (apart_field (by simp))) ?_
  simp only [Layout.forall_seq, Layout.forall_map, Layout.forall_of]
  exact fun id eventType userName created metadata => rfl

theorem TrackRecommendation.restores :
    (Wire.decoder : Decoder TrackRecommendation).Restores toJson depth := by
  refine Fields.Restores.closed (fun inner _ =>
    restores_required text_restores |>.map mk
      |>.seq (restores_required text_restores) (apart_field (by simp))
      |>.seq (restores_optional_memberIf text_restores fun _ _ _ => nofun) (apart_field (by simp))
      |>.seq (restores_optional_memberIf text_restores fun _ _ _ => nofun) (apart_field (by simp))
      |>.seq (restores_optional_memberIf text_restores fun _ _ _ => nofun) (apart_field (by simp))) ?_
  simp only [Layout.forall_seq, Layout.forall_map, Layout.forall_of]
  exact fun artist track release mbid msid => rfl

theorem TokenValidation.restores : (Wire.decoder : Decoder TokenValidation).Restores toJson depth := by
  refine Fields.Restores.closed (fun inner _ =>
    restores_required bool_restores |>.map mk
      |>.seq (restores_optional text_restores fun _ _ _ => nofun) (apart_field (by simp))
      |>.seq (restores_withDefault text_restores ⟨legible_text inner "", rfl⟩) (apart_field (by simp))
      |>.seq (restores_withDefault uint16_restores ⟨legible_ofInt inner 0, rfl⟩) (apart_field (by simp))) ?_
  simp only [Layout.forall_seq, Layout.forall_map, Layout.forall_of]
  intro valid userName message code
  rw [toJson, Json.ofText?_eq_ofOption]
  rfl

/-- A stored token comes back from its file. -/
theorem StoredToken.restores :
    (Wire.decoder : Decoder StoredToken).Restores (fun token => .object token.members) depth := by
  refine Fields.Restores.closed (fun inner _ =>
    restores_required text_restores |>.map mk
      |>.seq (restores_required text_restores) (apart_field (by simp))
      |>.seq (restores_required int64_restores) (apart_field (by simp))) ?_
  simp only [Layout.forall_seq, Layout.forall_map, Layout.forall_of]
  exact fun token userName validatedAt => rfl

theorem EntityStat.restores : (Wire.decoder : Decoder EntityStat).Restores toJson depth := by
  refine Fields.Restores.extensible (fun inner _ =>
    restores_withDefault text_restores ⟨legible_text _ "", rfl⟩ |>.map mk
      |>.seq (restores_optional text_restores fun _ _ _ => nofun) (apart_field (by simp))
      |>.seq (restores_optional text_restores fun _ _ _ => nofun) (apart_field (by simp))
      |>.seq (restores_required uint64_restores) (apart_field (by simp))) ?_
  simp only [Layout.forall_seq, Layout.forall_map, Layout.forall_of]
  intro artist release track count extra
  rw [toJson, Json.ofText?_eq_ofOption, Json.ofText?_eq_ofOption]
  rfl

theorem ListeningActivity.restores :
    (Wire.decoder : Decoder ListeningActivity).Restores toJson depth := by
  refine Fields.Restores.closed (fun inner _ =>
    restores_required int64_restores |>.map mk
      |>.seq (restores_required int64_restores) (apart_field (by simp))
      |>.seq (restores_required text_restores) (apart_field (by simp))
      |>.seq (restores_required uint64_restores) (apart_field (by simp))) ?_
  simp only [Layout.forall_seq, Layout.forall_map, Layout.forall_of]
  exact fun fromTs toTs timeRange count => rfl

theorem HourActivity.restores : (Wire.decoder : Decoder HourActivity).Restores toJson depth := by
  refine Fields.Restores.closed (fun inner _ =>
    restores_required uint8_restores |>.map mk
      |>.seq (restores_required uint64_restores) (apart_field (by simp))) ?_
  simp only [Layout.forall_seq, Layout.forall_map, Layout.forall_of]
  exact fun hour count => rfl

/-- A score comes back from its number. -/
theorem FeedbackScore.restores :
    (Wire.decoder : Decoder FeedbackScore).Restores (fun score => Json.ofInt score.value) depth := by
  intro node score hWhole hScore
  refine ⟨legible_ofInt depth _, ?_⟩
  have hNumber : Decoder.integer (Word.signed 8) depth (Json.ofInt score.value).node =
      .ok score.value := by
    cases score
    · exact Decoder.integer_node (by decide) (by decide)
    · exact Decoder.integer_node (by decide) (by decide)
    · exact Decoder.integer_node (by decide) (by decide)
  show (Decoder.integer (Word.signed 8) depth (Json.ofInt score.value).node >>= _) = _
  rw [hNumber, ok_bind]
  cases score <;> rfl

theorem Feedback.restores : (Wire.decoder : Decoder Feedback).Restores toJson depth := by
  refine Fields.Restores.closed (fun inner _ =>
    restores_optional text_restores (fun _ _ _ => nofun) |>.map mk
      |>.seq (restores_optional text_restores fun _ _ _ => nofun) (apart_field (by simp))
      |>.seq (restores_required FeedbackScore.restores) (apart_field (by simp))
      |>.seq (restores_required text_restores) (apart_field (by simp))
      |>.seq (restores_optional int64_restores fun _ _ _ => nofun) (apart_field (by simp))
      |>.seq (restores_optional any_restores fun node value hValue hNull =>
          Json.Node.eq_null_of_value (hNull ▸ hValue : Json.Node.value inner node = .ok .null))
        (apart_field (by simp))) ?_
  simp only [Layout.forall_seq, Layout.forall_map, Layout.forall_of]
  intro msid mbid score userId created metadata
  rw [toJson, Json.ofText?_eq_ofOption, Json.ofText?_eq_ofOption, Json.getD_null_eq_ofOption]
  rfl

theorem RecommendationRating.restores :
    (Wire.decoder : Decoder RecommendationRating).Restores (fun rating => .text rating.name) depth :=
  variant_restores fun rating => by cases rating <;> rfl

theorem Pin.restores : (Wire.decoder : Decoder Pin).Restores toJson depth := by
  refine Fields.Restores.closed (fun inner _ =>
    restores_required uint64_restores |>.map mk
      |>.seq (restores_optional text_restores fun _ _ _ => nofun) (apart_field (by simp))
      |>.seq (restores_optional text_restores fun _ _ _ => nofun) (apart_field (by simp))
      |>.seq (restores_optional text_restores fun _ _ _ => nofun) (apart_field (by simp))
      |>.seq (restores_required int64_restores) (apart_field (by simp))
      |>.seq (restores_optional int64_restores fun _ _ _ => nofun) (apart_field (by simp))
      |>.seq (restores_optional TrackMetadata.restores fun _ _ _ => nofun) (apart_field (by simp))) ?_
  simp only [Layout.forall_seq, Layout.forall_map, Layout.forall_of]
  intro rowId msid mbid blurb created pinnedUntil metadata
  rw [toJson, Json.ofText?_eq_ofOption, Json.ofText?_eq_ofOption, Json.ofText?_eq_ofOption]
  rfl

theorem PlaylistTrack.restores : (Wire.decoder : Decoder PlaylistTrack).Restores toJson depth := by
  refine Fields.Restores.closed (fun inner _ =>
    restores_withDefault text_restores ⟨legible_text _ "", rfl⟩ |>.map mk
      |>.seq (restores_optional_memberIf text_restores fun _ _ _ => nofun) (apart_field (by simp))
      |>.seq (restores_optional_memberIf text_restores fun _ _ _ => nofun) (apart_field (by simp))
      |>.seq (restores_optional_memberIf text_restores fun _ _ _ => nofun) (apart_field (by simp))
      |>.seq (restores_optional_memberIf uint64_restores fun _ _ _ => nofun) (apart_field (by simp))
      |>.seq (restores_membersIf fun node members hWhole hMembers _ =>
          object_restores node members hWhole hMembers) (apart_field (by simp))) ?_
  simp only [Layout.forall_seq, Layout.forall_map, Layout.forall_of]
  exact fun identifier title creator album duration extension => rfl

/-- A playlist without tracks is written with an empty array, so one more array has to be within reach. -/
theorem Playlist.restores :
    Playlist.fields.closed.Restores (fun playlist => .object playlist.members) (depth + 2) := by
  obtain ⟨layout, hFields, hLayout⟩ : ∃ layout, fields.Restores layout (depth + 1) ∧
      ∀ playlist members, layout playlist members → Json.object playlist.members = .object members := by
    refine ⟨_, restores_withDefault text_restores ⟨legible_text _ "", rfl⟩ |>.map mk
      |>.seq (restores_optional_memberIf text_restores fun _ _ _ => nofun) (apart_field (by simp))
      |>.seq (restores_optional_memberIf text_restores fun _ _ _ => nofun) (apart_field (by simp))
      |>.seq (restores_optional_memberIf text_restores fun _ _ _ => nofun) (apart_field (by simp))
      |>.seq (restores_optional_memberIf text_restores fun _ _ _ => nofun) (apart_field (by simp))
      |>.seq (restores_withDefault (list_restores fun _ => PlaylistTrack.restores)
        ⟨⟨rfl, Nat.le_add_left 1 depth⟩, rfl⟩)
        (apart_field (by simp))
      |>.seq (restores_membersIf fun node members hWhole hMembers _ =>
          object_restores node members hWhole hMembers) (apart_field (by simp)), ?_⟩
    simp only [Layout.forall_seq, Layout.forall_map, Layout.forall_of]
    intro title creator annotation identifier date track extension
    simp only [members, List.append_assoc, List.singleton_append]
    rfl
  refine Fields.Restores.closed (fun inner hInner => ?_) hLayout
  obtain rfl : depth + 1 = inner := Nat.succ.inj hInner
  exact hFields

/-- A playlist comes back if there are three levels of nesting besides those of its tracks. -/
theorem PlaylistDocument.restores :
    (Wire.decoder : Decoder PlaylistDocument).Restores toJson (depth + 3) := by
  obtain ⟨layout, hFields, hLayout⟩ : ∃ layout, fields.Restores layout (depth + 2) ∧
      ∀ document members, layout document members → toJson document = .object members := by
    refine ⟨_, restores_required Playlist.restores |>.map mk, ?_⟩
    simp only [Layout.forall_map, Layout.forall_of]
    exact fun playlist => rfl
  refine Fields.Restores.closed (fun inner hInner => ?_) hLayout
  obtain rfl : depth + 2 = inner := Nat.succ.inj hInner
  exact hFields

namespace Json.Wire

/-- Whatever is read from a text of whole numbers is read again from its own written form. -/
def Stable (α : Type) [Wire α] : Prop :=
  ∀ (s : String) (value : α), HasWholeNumbers s → ofText s = .ok value →
    ofText (render value) = .ok value

/-- A document is read by a decoder that may enter 127 arrays and objects. -/
theorem stable_of_restores {α : Type} [Wire α]
    (h : (decoder : Decoder α).Restores toJson 127) : Stable α := by
  intro s value hNumbers hValue
  obtain ⟨hRead, -⟩ := Decoder.runText_eq_ok_iff.mp hValue
  obtain ⟨hLegible, hBack⟩ := h _ value (Document.whole_ofText hNumbers) hRead
  exact Decoder.runText_render hLegible.whole hBack

/-- Reading, writing and reading again is reading once, for every record and every name. -/
theorem records_and_names_stable :
    Stable Listen ∧ Stable TrackMetadata ∧ Stable TimelineEvent ∧ Stable TokenValidation ∧
      Stable TrackRecommendation ∧ Stable EntityStat ∧ Stable ListeningActivity ∧
      Stable HourActivity ∧ Stable Feedback ∧ Stable PlaylistDocument ∧ Stable PlaylistTrack ∧
      Stable Pin ∧ Stable StoredToken ∧ Stable ListenType ∧ Stable RecommendationRating :=
  ⟨stable_of_restores Listen.restores, stable_of_restores TrackMetadata.restores,
    stable_of_restores TimelineEvent.restores, stable_of_restores TokenValidation.restores,
    stable_of_restores TrackRecommendation.restores, stable_of_restores EntityStat.restores,
    stable_of_restores ListeningActivity.restores, stable_of_restores HourActivity.restores,
    stable_of_restores Feedback.restores, stable_of_restores PlaylistDocument.restores,
    stable_of_restores PlaylistTrack.restores, stable_of_restores Pin.restores,
    stable_of_restores StoredToken.restores, stable_of_restores ListenType.restores,
    stable_of_restores RecommendationRating.restores⟩

/-- A listen that is not written as it was read, with members that no field stands for. -/
theorem stable_listen_of_extended :
    let s := "\x7b\"id\":7,\"listened_at\":null,\"track_metadata\":\x7b\"track_name\":\"b\"," ++
      "\"mbid\":null,\"artist_name\":\"a\",\"additional_info\":null\x7d\x7d"
    let written := "\x7b\"track_metadata\":\x7b\"artist_name\":\"a\",\"track_name\":\"b\"," ++
      "\"mbid\":null\x7d,\"id\":7\x7d"
    HasWholeNumbers s ∧ ∃ listen : Listen,
      ofText s = .ok listen ∧ render listen = written ∧ ofText written = .ok listen := by
  intro s written
  have hNumbers : HasWholeNumbers s := by decide +kernel
  have hRead : ((ofText s : Except DecodeError Listen).toOption.map render) = some written := by
    decide +kernel
  obtain ⟨listen, hListen, hWritten⟩ := toOption_map_eq_some.mp hRead
  exact ⟨hNumbers, listen, hListen, hWritten,
    hWritten ▸ records_and_names_stable.1 s listen hNumbers hListen⟩

end Json.Wire

end Scrobbler
