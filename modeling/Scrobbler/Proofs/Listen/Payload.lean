import Mathlib.Algebra.GroupWithZero.Nat
import Mathlib.Algebra.Order.BigOperators.Group.List
import Mathlib.Algebra.Order.Group.Nat
import Scrobbler.Listen.Batch

/-!
The written form of payloads, and its size. Each listen takes its own written size and one byte more,
for the comma or the bracket after it; the first bracket comes on top. So a payload grows with every
listen, and shrinks when timestamps are left out. A body holds the written payload as it is, after the
name of the listen type.
-/

namespace Scrobbler

theorem ListenType.quoted_name (type : ListenType) :
    Json.quoted type.name = '\"' :: (type.name.toList ++ ['\"']) := by
  cases type <;> rfl

/-- An object without its first member is written no longer, if another member is left. -/
theorem Json.size_render_object_le (first second : String × Json) (rest : List (String × Json)) :
    Text.Utf8.size (Json.object (second :: rest)).render ≤
      Text.Utf8.size (Json.object (first :: second :: rest)).render := by
  obtain ⟨name, value⟩ := second
  unfold Text.Utf8.size Json.render
  simp only [Json.chars, Json.membersChars, String.ofList_cons, String.ofList_append,
    String.utf8ByteSize_append, String.utf8ByteSize_singleton]
  omega

/-- The number of bytes of the written form of a listen. -/
def Listen.writtenSize (listen : Listen) : Nat := Text.Utf8.size listen.toJson.render

/-- A listen without its timestamp is written no longer. -/
theorem Listen.writtenSize_withoutTimestamp_le (listen : Listen) :
    listen.withoutTimestamp.writtenSize ≤ listen.writtenSize := by
  cases hStamp : listen.listenedAt with
  | none =>
      have hSame : listen.withoutTimestamp = listen := by
        rw [withoutTimestamp, ← hStamp]
      rw [hSame]
  | some seconds =>
      unfold writtenSize toJson
      rw [hStamp]
      exact Json.size_render_object_le _ _ _

/-- A listen as it is sent. -/
def Listen.preparedFor (type : ListenType) (listen : Listen) : Listen :=
  match type with
  | .playingNow => listen.withoutTimestamp
  | _ => listen

/-- A listen without its timestamp is not longer than with it. -/
theorem Listen.writtenSize_preparedFor_playingNow_le (type : ListenType) (listen : Listen) :
    (listen.preparedFor .playingNow).writtenSize ≤ (listen.preparedFor type).writtenSize := by
  cases type with
  | playingNow => rfl
  | single => exact listen.writtenSize_withoutTimestamp_le
  | bulk => exact listen.writtenSize_withoutTimestamp_le

namespace Batch

/-- Listens of a payload take their sizes, and one byte more for each. -/
theorem utf8ByteSize_itemsChars (listens : List Listen) :
    (String.ofList (Json.itemsChars (listens.map Listen.toJson))).utf8ByteSize =
      (listens.map fun listen => listen.writtenSize + 1).sum := by
  induction listens with
  | nil => rfl
  | cons listen rest ih =>
      have hComma : ','.utf8Size = 1 := by decide
      rw [List.map_cons, Json.itemsChars, String.ofList_cons, String.ofList_append,
        String.utf8ByteSize_append, String.utf8ByteSize_append, String.utf8ByteSize_singleton, ih,
        hComma, List.map_cons, List.sum_cons]
      unfold Listen.writtenSize Text.Utf8.size Json.render
      omega

/-- The written size of a payload is a sum over its listens. -/
theorem payloadSize_eq_sum {listens : List Listen} (hNe : listens ≠ []) :
    payloadSize listens = (listens.map fun listen => listen.writtenSize + 1).sum + 1 := by
  cases listens with
  | nil => exact absurd rfl hNe
  | cons listen rest =>
      have hOpen : '['.utf8Size = 1 := by decide
      have hClose : (String.ofList [']']).utf8ByteSize = 1 := by decide
      unfold payloadSize payload Text.Utf8.size Json.render
      rw [List.map_cons, Json.chars, String.ofList_cons, String.ofList_append, String.ofList_append,
        String.utf8ByteSize_append, String.utf8ByteSize_append, String.utf8ByteSize_append,
        String.utf8ByteSize_singleton, utf8ByteSize_itemsChars, hOpen, hClose, List.map_cons,
        List.sum_cons]
      unfold Listen.writtenSize Text.Utf8.size Json.render
      omega

/-- A written payload has at least its brackets. -/
theorem one_lt_payloadSize (listens : List Listen) : 1 < payloadSize listens := by
  cases listens with
  | nil => decide
  | cons listen rest =>
      rw [payloadSize_eq_sum (List.cons_ne_nil listen rest), List.map_cons, List.sum_cons]
      omega

theorem payloadSize_pos (listens : List Listen) : 0 < payloadSize listens :=
  Nat.lt_of_succ_lt (one_lt_payloadSize listens)

/-- Of two payloads in one, the brackets between them become a comma. -/
theorem payloadSize_append {first second : List Listen} (hFirst : first ≠ []) (hSecond : second ≠ []) :
    payloadSize (first ++ second) = payloadSize first + payloadSize second - 1 := by
  have hNe : first ++ second ≠ [] := List.append_ne_nil_of_left_ne_nil hFirst second
  rw [payloadSize_eq_sum hNe, payloadSize_eq_sum hFirst, payloadSize_eq_sum hSecond, List.map_append,
    List.sum_append]
  omega

/-- Listens are written longer when others join them. -/
theorem payloadSize_lt_append {first second : List Listen} (hFirst : first ≠ []) (hSecond : second ≠ []) :
    payloadSize first < payloadSize (first ++ second) ∧
      payloadSize second < payloadSize (first ++ second) := by
  have hLeft := one_lt_payloadSize first
  have hRight := one_lt_payloadSize second
  rw [payloadSize_append hFirst hSecond]
  omega

/-- Listens that are each written no longer are written no longer together. -/
theorem payloadSize_map_le {f g : Listen → Listen}
    (h : ∀ listen, (f listen).writtenSize ≤ (g listen).writtenSize) (listens : List Listen) :
    payloadSize (listens.map f) ≤ payloadSize (listens.map g) := by
  by_cases hNil : listens = []
  · rw [hNil, List.map_nil, List.map_nil]
  · rw [payloadSize_eq_sum (List.map_eq_nil_iff.not.mpr hNil),
      payloadSize_eq_sum (List.map_eq_nil_iff.not.mpr hNil), List.map_map, List.map_map]
    refine Nat.add_le_add_right (List.sum_le_sum fun listen _ => ?_) 1
    exact Nat.add_le_add_right (h listen) 1

theorem prepare_bulk (listens : List Listen) : prepare .bulk listens = listens := rfl

/-- Listens are prepared one by one. -/
theorem prepare_eq_map (type : ListenType) (listens : List Listen) :
    prepare type listens = listens.map (Listen.preparedFor type) := by
  cases type with
  | playingNow => rfl
  | single => exact (List.map_id listens).symm
  | bulk => exact (List.map_id listens).symm

/-- Batches are prepared listen by listen. -/
theorem prepare_append (type : ListenType) (first second : List Listen) :
    prepare type (first ++ second) = prepare type first ++ prepare type second := by
  simp only [prepare_eq_map, List.map_append]

theorem prepare_ne_nil (type : ListenType) {listens : List Listen} (hNe : listens ≠ []) :
    prepare type listens ≠ [] := by
  rw [prepare_eq_map]
  exact List.map_eq_nil_iff.not.mpr hNe

/-- Listens that play now are written no longer than they would be otherwise. -/
theorem payloadSize_prepare_playingNow_le (type : ListenType) (listens : List Listen) :
    payloadSize (prepare .playingNow listens) ≤ payloadSize (prepare type listens) := by
  rw [prepare_eq_map, prepare_eq_map]
  exact payloadSize_map_le (Listen.writtenSize_preparedFor_playingNow_le type) listens

theorem payloadSize_replicate {count : Nat} (hPos : 0 < count) (listen : Listen) :
    payloadSize (List.replicate count listen) = count * (listen.writtenSize + 1) + 1 := by
  have hNe : List.replicate count listen ≠ [] := by
    intro h
    rw [List.replicate_eq_nil_iff] at h
    omega
  rw [payloadSize_eq_sum hNe, List.map_replicate, List.sum_replicate_nat]

/-- The text of a body is that of its payload, between the name of the listen type and a brace. -/
theorem render_body (type : ListenType) (listens : List Listen) :
    (body type listens).render =
      "\x7b\"listen_type\":\"" ++ type.name ++ "\",\"payload\":" ++ (payload listens).render ++
        "\x7d" := by
  have hOpen : "\x7b\"listen_type\":\"".toList =
      '\x7b' :: (Json.quoted "listen_type" ++ [':', '\"']) := rfl
  have hNext : "\",\"payload\":".toList = '\"' :: ',' :: (Json.quoted "payload" ++ [':']) := rfl
  have hClose : "\x7d".toList = ['\x7d'] := rfl
  apply String.toList_inj.mp
  simp only [body, Json.render, Json.chars, Json.membersChars, String.toList_ofList,
    String.toList_append, hOpen, hNext, hClose, ListenType.quoted_name]
  simp

end Batch

end Scrobbler
