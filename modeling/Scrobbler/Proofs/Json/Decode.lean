import Scrobbler.Json.Record
import Scrobbler.Proofs.Json.Canonical

/-!
Decoders on written values. A decoder ensures a property of all that it yields, whatever it is given;
and where a value of its type was written, it yields that value.
-/

namespace Scrobbler.Json

namespace Decoder

variable {α β : Type} {decoder : Decoder α}

/-- Whatever the decoder yields has the property. -/
def Ensures (decoder : Decoder α) (P : α → Prop) : Prop :=
  ∀ depth node value, decoder depth node = .ok value → P value

theorem Ensures.map {P : β → Prop} {f : α → β} (h : decoder.Ensures fun value => P (f value)) :
    (decoder.map f).Ensures P := by
  intro depth node value hValue
  obtain ⟨found, hFound, rfl⟩ := map_eq_ok.mp hValue
  exact h depth node found hFound

/-- A value that may be null has a property if `null` has it and the values have it. -/
theorem Ensures.nullable {P : Option α → Prop} (hNone : P none)
    (hSome : decoder.Ensures fun value => P (some value)) : (Decoder.nullable decoder).Ensures P := by
  intro depth node value hValue
  unfold Decoder.nullable at hValue
  split at hValue
  · obtain rfl := Except.ok.inj hValue
    exact hNone
  · obtain ⟨found, hFound, rfl⟩ := map_eq_ok.mp hValue
    exact hSome _ _ found hFound

/-- Members whose values are not looked at are read as they are. -/
theorem entries_any (depth : Nat) (members : List (TextLiteral × Node)) :
    entries any depth members = Node.members depth members := by
  induction members with
  | nil => rfl
  | cons member rest ih => rw [entries, Node.members, ih]; rfl

/-- A decoder of objects only gives canonical ones. -/
theorem object_ensures : object.Ensures fun members => (Json.object members).Canonical := by
  refine Ensures.map fun depth node members hMembers => ?_
  cases node with
  | object nodes ending =>
      simp only [entriesOf, descend_eq_ok, bind_eq_ok, pure_eq_ok, entries_any] at hMembers
      obtain ⟨inner, rfl, values, hValues, -, -, rfl⟩ := hMembers
      exact .object (NameMap.sorted_ofList values) fun member hMem =>
        Node.canonical_of_members hValues member (NameMap.mem_of_mem_ofList hMem)
  | _ => cases hMembers

theorem object_node {depth : Nat} {members : Members} (hCanonical : (Json.object members).Canonical)
    (hLegible : (Json.object members).Legible depth) :
    object depth (Json.object members).node = .ok members := by
  obtain ⟨inner, rfl, hInner⟩ := legible_object_iff.mp hLegible
  cases hCanonical with
  | object hSorted hMembers =>
      rw [node, object, Decoder.map, entriesOf, descend, entries_any,
        Node.members_memberNodes hMembers hInner]
      exact congrArg Except.ok (NameMap.ofList_of_sorted hSorted)

/-- A word with a sign comes back from its tree. -/
theorem int64_node (depth : Nat) (n : Int64) : int64 depth (ofInt64 n).node = .ok n := by
  have hLow := n.le_toInt
  have hHigh := n.toInt_lt
  have hBound : (twoTo 63 : Int) = 2 ^ 63 ∧ (twoTo 64 : Int) = 2 ^ 64 := ⟨rfl, rfl⟩
  have hWhole : Word.fits wholeLimits n.toInt = true := by
    suffices -(twoTo 63 : Int) ≤ n.toInt ∧ n.toInt ≤ twoTo 64 - 1 from Word.fits_iff.mpr this
    omega
  have hSigned : Word.fits (Word.signed 64) n.toInt = true := by
    suffices -(twoTo 63 : Int) ≤ n.toInt ∧ n.toInt ≤ twoTo 63 - 1 from Word.fits_iff.mpr this
    omega
  have hNumber : number depth (ofInt64 n).node = .ok (.integer n.toInt) := by
    show orFault (Numeral.ofInt n.toInt).value = _
    rw [Numeral.value_ofInt hWhole]
    rfl
  rw [int64, Decoder.map, integer, hNumber]
  simp only [hSigned, if_true, Except.map, Int64.ofInt_toInt]

/-- A list comes back from its tree, if each item does. -/
theorem list_node {depth : Nat} {toJson : α → Json} {values : List α}
    (h : ∀ value ∈ values, decoder depth (toJson value).node = .ok value) :
    list decoder (depth + 1) (Json.array (values.map toJson)).node = .ok values := by
  have hItems : items decoder depth (itemNodes (values.map toJson)) = .ok values := by
    induction values with
    | nil => rfl
    | cons value rest ih =>
        obtain ⟨hFirst, hRest⟩ := List.forall_mem_cons.mp h
        rw [List.map_cons, itemNodes, items, hFirst, ok_bind, ih hRest, ok_bind]
        rfl
  rw [node, list, descend, hItems]
  rfl

/-- What is not `null` is read as a value. -/
theorem nullable_node {depth : Nat} {written : Json} {value : α} (hNull : written ≠ .null)
    (h : decoder depth written.node = .ok value) :
    Decoder.nullable decoder depth written.node = .ok (some value) := by
  cases written with
  | null => exact absurd rfl hNull
  | _ => exact congrArg (Except.map some) h

/-- A document is read as the value that is read from its tree, when nothing follows. -/
theorem run_eq_ok_iff {document : Document} {value : α} :
    decoder.run document = .ok value ↔
      decoder 127 document.root = .ok value ∧ document.trailing = false := by
  unfold run
  rw [bind_eq_ok]
  constructor
  · rintro ⟨read, hRead, hEnd⟩
    split at hEnd
    · cases hEnd
    · next hTrailing =>
        obtain rfl := pure_eq_ok.mp hEnd
        exact ⟨hRead, Bool.eq_false_of_not_eq_true hTrailing⟩
  · rintro ⟨hRead, hTrailing⟩
    exact ⟨value, hRead, by rw [hTrailing]; rfl⟩

/-- A text is decoded if its root is, and nothing but space follows. -/
theorem runText_eq_ok_iff {s : String} {value : α} :
    decoder.runText s = .ok value ↔
      decoder 127 (Document.ofText s).root = .ok value ∧ (Document.ofText s).trailing = false :=
  run_eq_ok_iff

/-- A written form is read as what is read from its tree. -/
theorem runText_render {written : Json} {value : α} (hWhole : written.isWhole = true)
    (h : decoder 127 written.node = .ok value) : decoder.runText written.render = .ok value := by
  rw [runText_eq_ok_iff, Document.ofText_render hWhole]
  exact ⟨h, rfl⟩

/-- Lines are read as what is read from the tree of the object. -/
theorem runText_renderLines {members : List (String × Json)} {value : α}
    (hWhole : isWholeMembers members = true) (h : decoder 127 (Json.object members).node = .ok value) :
    decoder.runText (renderLines members) = .ok value := by
  rw [runText_eq_ok_iff, Document.ofText_renderLines hWhole]
  exact ⟨h, rfl⟩

end Decoder

end Scrobbler.Json
