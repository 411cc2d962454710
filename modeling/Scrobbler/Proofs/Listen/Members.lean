import Scrobbler.Proofs.Json.Pruning
import Scrobbler.Proofs.Listen.RoundTrip
import Scrobbler.Proofs.Records

/-!
What a listen is read from comes back when it is written. The members that no field stands for survive,
at their place and with their values; only fields without a value are left out: a `null` for a time, a
release or the additional information, and additional information without members.
-/

namespace Scrobbler

open Json (Wire Fields Decoder DecodeError Members Layout)
open Json.Fields (apart_field)

namespace Json

namespace Node

variable {depth : Nat} {node : Node}

/-- Where a text is decoded, the tree has that text as its value. -/
theorem value_of_text {s : String} (h : Decoder.text depth node = .ok s) :
    Node.value depth node = .ok (.text s) := by
  cases node with
  | text literal =>
      have hText : literal.text = .ok s := h
      rw [Node.value, hText]
      rfl
  | _ => cases h

theorem value_of_integer {limits : Int × Int} {n : Int} (h : Decoder.integer limits depth node = .ok n) :
    Node.value depth node = .ok (ofInt n) := by
  have hNumber : Decoder.number depth node = .ok (.integer n) := by
    unfold Decoder.integer at h
    split at h
    · cases h
    · cases h
    · next hRead =>
        split at h
        · exact Except.ok.inj h ▸ hRead
        · cases h
  cases node with
  | number numeral =>
      have hNumeral : orFault numeral.value = .ok (.integer n) := hNumber
      rw [Node.value, hNumeral]
      rfl
  | _ => cases hNumber

theorem value_of_int64 {n : Int64} (h : Decoder.int64 depth node = .ok n) :
    Node.value depth node = .ok (ofInt64 n) := by
  obtain ⟨i, hInteger, rfl⟩ := map_eq_ok.mp h
  obtain ⟨hLow, hHigh⟩ : -(2 ^ 63 : Int) ≤ i ∧ i ≤ 2 ^ 63 - 1 :=
    Word.fits_iff.mp (Decoder.fits_of_integer hInteger)
  rw [value_of_integer hInteger, ofInt64, Int64.toInt_ofInt_of_le hLow (by omega)]

end Node

namespace Fields

variable {α : Type} {key : String} {decoder : Decoder α} {toJson : α → Json}
  {keep : String → Json → Option Json} {depth : Nat}

/-- A text that is kept as it is. -/
theorem exists_text (hKeep : ∀ s, keep key (.text s) = some (.text s)) (node : Node) (s : String)
    (h : Decoder.text depth node = .ok s) :
    ∃ found, Node.value depth node = .ok found ∧ keep key found = some (Json.text s).sorted :=
  ⟨.text s, Node.value_of_text h, hKeep s⟩

/-- A number that is kept as it is. -/
theorem exists_int64 (hKeep : ∀ n, keep key (ofInt64 n) = some (ofInt64 n)) (node : Node) (n : Int64)
    (h : Decoder.int64 depth node = .ok n) :
    ∃ found, Node.value depth node = .ok found ∧ keep key found = some (ofInt64 n).sorted :=
  ⟨ofInt64 n, Node.value_of_int64 h, hKeep n⟩

/-- A field that has to be there accounts for its member, if what is kept of the value is what is
written. -/
theorem accounts_required
    (h : ∀ node value, decoder depth node = .ok value →
      ∃ found, Node.value depth node = .ok found ∧ keep key found = some (toJson value).sorted) :
    (required key decoder).Accounts keep (.of fun value => [(key, toJson value)]) depth := by
  refine accounts_field (fun value member hMem => ?_) (fun node value hValue => ?_) nofun
  · obtain rfl := List.mem_singleton.mp hMem
    rfl
  · obtain ⟨found, hFound, hKeep⟩ := h node value hValue
    refine ⟨found, hFound, fun kept => ?_⟩
    simp only [sortedMembers, List.mem_singleton, Prod.mk.injEq, true_and, hKeep, Option.some.injEq,
      eq_comm]

/-- A member of an optional field is left out when it is `null`. -/
theorem accounts_optional (hNull : keep key .null = none)
    (h : ∀ node value, decoder depth node = .ok value →
      ∃ found, Node.value depth node = .ok found ∧ keep key found = some (toJson value).sorted) :
    (optional key decoder).Accounts keep (.of fun value => memberIf key (value.map toJson)) depth := by
  refine accounts_field (fun value member => name_of_mem_memberIf) (fun node value hValue => ?_) ?_
  · unfold Decoder.nullable at hValue
    split at hValue
    · obtain rfl := Except.ok.inj hValue
      exact ⟨.null, rfl, fun kept => by simp [memberIf, sortedMembers, hNull]⟩
    · obtain ⟨read, hRead, rfl⟩ := map_eq_ok.mp hValue
      obtain ⟨found, hFound, hKeep⟩ := h node read hRead
      refine ⟨found, hFound, fun kept => ?_⟩
      simp only [Option.map_some, memberIf, sortedMembers, List.mem_singleton, Prod.mk.injEq, true_and,
        hKeep, Option.some.injEq, eq_comm]
  · rintro value hSome
    obtain rfl := Option.some.inj hSome
    rfl

/-- A free-form object is left out when it is empty. -/
theorem accounts_membersIf {decoder : Decoder Members}
    (h : ∀ node members, decoder depth node = .ok members → ∃ found, Node.value depth node = .ok found ∧
      keep key found = if members.isEmpty then none else some (Json.object members).sorted) :
    (withDefault key decoder []).Accounts keep (.of (membersIf key)) depth := by
  refine accounts_field (fun members member hMem => ?_) (fun node members hMembers => ?_) ?_
  · rw [membersIf_eq_memberIf] at hMem
    exact name_of_mem_memberIf hMem
  · obtain ⟨found, hFound, hKeep⟩ := h node members hMembers
    refine ⟨found, hFound, fun kept => ?_⟩
    rw [hKeep, membersIf]
    split
    · simp [sortedMembers]
    · simp only [sortedMembers, List.mem_singleton, Prod.mk.injEq, true_and, Option.some.injEq, eq_comm]
  · rintro members hSome
    obtain rfl := Option.some.inj hSome
    rfl

end Fields

end Json

namespace TrackMetadata

/-- What is kept of the value of a member of track metadata, if anything is. -/
def kept : String → Json → Option Json
  | "release_name", .null => none
  | "additional_info", .null => none
  | "additional_info", .object [] => none
  | _, value => some value

/-- Track metadata without the fields that have no value. -/
def pruned : Json → Json := Json.prune kept

variable {depth : Nat} {node : Json.Node} {m : TrackMetadata}

/-- Additional information is kept with sorted members, unless it is empty. -/
theorem kept_additionalInfo {members : Members} (hCanonical : (Json.object members).Canonical) :
    kept "additional_info" (.object members) =
      if members.isEmpty then none else some (Json.object members).sorted := by
  rw [hCanonical.sorted_eq]
  cases members <;> rfl

/-- Metadata are written as the object that they were read from, without fields that have no value. -/
theorem sorted_eq_pruned (h : Wire.decoder depth node = .ok m) :
    ∃ found, Json.Node.value depth node = .ok found ∧ m.toJson.sorted = pruned found := by
  refine Fields.extensible_eq_prune (fun inner =>
    Fields.accounts_required (Fields.exists_text fun _ => rfl) |>.map mk
      |>.seq (Fields.accounts_required (Fields.exists_text fun _ => rfl)) (apart_field (by simp))
      |>.seq (Fields.accounts_optional rfl (Fields.exists_text fun _ => rfl)) (apart_field (by simp))
      |>.seq (Fields.accounts_membersIf fun node members hMembers => ?_) (apart_field (by simp)))
    ?_ ?_ h
  · obtain ⟨read, hRead, rfl⟩ := map_eq_ok.mp hMembers
    unfold Decoder.nullable at hRead
    split at hRead
    · obtain rfl := Except.ok.inj hRead
      exact ⟨.null, rfl, rfl⟩
    · obtain ⟨members, hObject, rfl⟩ := map_eq_ok.mp hRead
      exact ⟨.object members, Decoder.value_of_object hObject,
        kept_additionalInfo (Decoder.object_ensures _ _ _ hObject)⟩
  · simp only [Layout.forall_seq, Layout.forall_map, Layout.forall_of]
    exact fun artist track release info extra => rfl
  · intro name value hOther
    simp only [Fields.take?_seq_eq_none, Fields.take?_map_eq_none, Fields.take?_required_eq_none,
      Fields.take?_optional_eq_none, Fields.take?_withDefault_eq_none] at hOther
    unfold kept
    split <;> simp_all

/-- Regular metadata that were written are read sorted. -/
theorem value_node (hRegular : m.Regular) (hLegible : m.toJson.Legible depth) :
    Json.Node.value depth m.toJson.node = .ok m.toJson.sorted := by
  obtain ⟨inner, rfl, hInner⟩ := Json.legible_object_iff.mp hLegible
  refine Json.Node.value_object_node fun member hMem => ?_
  have hMember := hInner member hMem
  rcases List.mem_append.mp hMem with hMem | hExtra
  · rcases List.mem_append.mp hMem with hMem | hInfo
    · rcases List.mem_append.mp hMem with hText | hRelease
      · rcases List.mem_cons.mp hText with rfl | hText
        · rfl
        · obtain rfl := List.mem_singleton.mp hText
          rfl
      · cases hName : m.releaseName with
        | none => simp [hName, Json.memberIf] at hRelease
        | some release =>
            rw [hName] at hRelease
            obtain rfl := List.mem_singleton.mp hRelease
            rfl
    · unfold Json.membersIf at hInfo
      split at hInfo
      · cases hInfo
      · obtain rfl := List.mem_singleton.mp hInfo
        exact Json.Node.value_node_of_canonical hRegular.additionalInfo hMember
  · cases hRegular.extra.canonical with
    | object hSorted hMembers =>
        exact Json.Node.value_node_of_canonical (hMembers member hExtra) hMember

end TrackMetadata

namespace Listen

/-- What is kept of the value of a member of a listen, if anything is. -/
def kept : String → Json → Option Json
  | "listened_at", .null => none
  | "track_metadata", value => some (TrackMetadata.pruned value)
  | _, value => some value

/-- A listen without the fields that have no value. -/
def pruned : Json → Json := Json.prune kept

variable {depth : Nat} {node : Json.Node} {listen : Listen}

/-- Where metadata are decoded, what is kept of the value is what is written of them. -/
theorem exists_metadata (node : Json.Node) (m : TrackMetadata) (h : Wire.decoder depth node = .ok m) :
    ∃ found, Json.Node.value depth node = .ok found ∧
      kept "track_metadata" found = some m.toJson.sorted := by
  obtain ⟨found, hFound, hSorted⟩ := TrackMetadata.sorted_eq_pruned h
  exact ⟨found, hFound, congrArg some hSorted.symm⟩

/-- A listen is written as the object that it was read from, without fields that have no value. -/
theorem sorted_eq_pruned (h : Wire.decoder depth node = .ok listen) :
    ∃ found, Json.Node.value depth node = .ok found ∧ listen.toJson.sorted = pruned found := by
  refine Fields.extensible_eq_prune (fun inner =>
    Fields.accounts_optional rfl (Fields.exists_int64 fun _ => rfl) |>.map mk
      |>.seq (Fields.accounts_required exists_metadata) (apart_field (by simp))) ?_ ?_ h
  · simp only [Layout.forall_seq, Layout.forall_map, Layout.forall_of]
    intro listenedAt metadata extra
    simp only [toJson, List.append_assoc, List.singleton_append]
  · intro name value hOther
    simp only [Fields.take?_seq_eq_none, Fields.take?_map_eq_none, Fields.take?_required_eq_none,
      Fields.take?_optional_eq_none] at hOther
    unfold kept
    split <;> simp_all

/-- A regular listen that was written is read sorted. -/
theorem value_node (hRegular : listen.Regular) (hLegible : listen.toJson.Legible depth) :
    Json.Node.value depth listen.toJson.node = .ok listen.toJson.sorted := by
  obtain ⟨inner, rfl, hInner⟩ := Json.legible_object_iff.mp hLegible
  refine Json.Node.value_object_node fun member hMem => ?_
  have hMember := hInner member hMem
  rcases List.mem_append.mp hMem with hTime | hRest
  · cases hListenedAt : listen.listenedAt with
    | none => simp [hListenedAt, Json.memberIf] at hTime
    | some seconds =>
        rw [hListenedAt] at hTime
        obtain rfl := List.mem_singleton.mp hTime
        exact Json.Node.value_of_int64 (Decoder.int64_node inner seconds)
  · rcases List.mem_cons.mp hRest with rfl | hExtra
    · exact TrackMetadata.value_node hRegular.trackMetadata hMember
    · cases hRegular.extra.canonical with
      | object hSorted hMembers =>
          exact Json.Node.value_node_of_canonical (hMembers member hExtra) hMember

/-- A text that is read as a listen is also read as an object, and the listen is written as that object
without the fields that have no value: nothing else is lost, added, moved or changed. -/
theorem ofText_render_eq_pruned {s : String} (hNumbers : Json.HasWholeNumbers s)
    (hListen : Wire.ofText s = .ok listen) :
    ∃ value : Json, Wire.ofText s = .ok value ∧ Wire.ofText (Wire.render listen) = .ok (pruned value) := by
  obtain ⟨hRead, hTrailing⟩ := Decoder.runText_eq_ok_iff.mp hListen
  obtain ⟨value, hValue, hSorted⟩ := sorted_eq_pruned hRead
  have hLegible : listen.toJson.Legible 127 :=
    (Listen.restores _ listen (Json.Document.whole_ofText hNumbers) hRead).legible
  have hRegular : listen.Regular := decoder_ensures _ _ _ hRead
  refine ⟨value, Decoder.runText_eq_ok_iff.mpr ⟨hValue, hTrailing⟩, ?_⟩
  exact Decoder.runText_render hLegible.whole (hSorted ▸ value_node hRegular hLegible)

/-- A member without a field that comes twice, one that is `null`, and fields without a value. -/
theorem ofText_render_eq_pruned_of_repeated :
    let s := "\x7b\"x\":1,\"listened_at\":null,\"track_metadata\":\x7b\"artist_name\":\"a\",\"y\":null," ++
      "\"track_name\":\"b\",\"additional_info\":\x7b\x7d\x7d,\"x\":2\x7d"
    Json.HasWholeNumbers s ∧ ∃ (listen : Listen) (value : Json),
      Wire.ofText s = .ok listen ∧ Wire.ofText s = .ok value ∧
        Wire.ofText (Wire.render listen) = .ok (pruned value) ∧
        (pruned value).render = "\x7b\"track_metadata\":\x7b\"artist_name\":\"a\"," ++
          "\"track_name\":\"b\",\"y\":null\x7d,\"x\":2\x7d" := by
  intro s
  have hNumbers : Json.HasWholeNumbers s := by decide +kernel
  have hRead : ((Wire.ofText s : Except DecodeError Listen).toOption.map fun _ => ()) = some () := by
    decide +kernel
  have hPruned : ((Wire.ofText s : Except DecodeError Json).toOption.map fun value =>
      (pruned value).render) = some ("\x7b\"track_metadata\":\x7b\"artist_name\":\"a\"," ++
        "\"track_name\":\"b\",\"y\":null\x7d,\"x\":2\x7d") := by
    decide +kernel
  obtain ⟨listen, hListen, -⟩ := toOption_map_eq_some.mp hRead
  obtain ⟨value, hValue, hBack⟩ := ofText_render_eq_pruned hNumbers hListen
  obtain ⟨same, hSame, hRender⟩ := toOption_map_eq_some.mp hPruned
  obtain rfl : value = same := Except.ok.inj (hValue.symm.trans hSame)
  exact ⟨hNumbers, listen, value, hListen, hValue, hBack, hRender⟩

end Listen

end Scrobbler
