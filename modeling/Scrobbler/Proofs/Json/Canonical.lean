import Scrobbler.Json.Decode
import Scrobbler.Proofs.Json.Document
import Scrobbler.Proofs.NameMap

/-!
Free-form values. Whatever is decoded without a type in mind is canonical: its whole numbers fit 64
bits, and the members of its objects are sorted by name, each name once. A canonical value of whole
numbers that is nested no deeper than its reader may go comes back when it is written and decoded.
-/

namespace Scrobbler

section Except

variable {ε α β : Type} {x : Except ε α} {b : β}

/-- A computation succeeds with a value exactly if both of its steps do. -/
@[simp]
theorem bind_eq_ok {f : α → Except ε β} : x >>= f = .ok b ↔ ∃ a, x = .ok a ∧ f a = .ok b := by
  cases x with
  | error fault => simp [Bind.bind, Except.bind]
  | ok a => simp [Bind.bind, Except.bind]

theorem ok_bind {a : α} {f : α → Except ε β} : (Except.ok a >>= f) = f a := rfl

@[simp]
theorem map_eq_ok {f : α → β} : x.map f = .ok b ↔ ∃ a, x = .ok a ∧ f a = b := by
  cases x with
  | error fault => simp [Except.map]
  | ok a => simp [Except.map]

@[simp]
theorem pure_eq_ok {a : β} : (pure a : Except ε β) = .ok b ↔ a = b := by
  simp [pure, Except.pure]

theorem mapError_eq_ok {δ : Type} {f : ε → δ} {a : α} : x.mapError f = .ok a ↔ x = .ok a := by
  cases x with
  | error fault => simp [Except.mapError]
  | ok a => simp [Except.mapError]

theorem toOption_eq_some {a : α} : x.toOption = some a ↔ x = .ok a := by
  cases x with
  | error fault => simp [Except.toOption]
  | ok a => simp [Except.toOption]

/-- A result that stands in for a failure is the one that was put there, or no failure came. -/
theorem toOption_getD_cases (x : Except ε α) (a : α) :
    x.toOption.getD a = a ∨ x = .ok (x.toOption.getD a) := by
  cases x with
  | error fault => exact .inl rfl
  | ok a => exact .inr rfl

theorem toOption_map_eq_some {f : α → β} : x.toOption.map f = some b ↔ ∃ a, x = .ok a ∧ f a = b := by
  cases x with
  | error fault => simp [Except.toOption]
  | ok a => simp [Except.toOption]

end Except

namespace Json

/-- Whole numbers fit 64 bits, and members are sorted by name, at all depths. -/
inductive Canonical : Json → Prop
  | null : Canonical .null
  | bool (b : Bool) : Canonical (.bool b)
  | integer {n : Int} (hFits : Word.fits wholeLimits n = true) : Canonical (.number (.integer n))
  | float (negative : Bool) (magnitude : Decimal.Binary64) :
      Canonical (.number (.float negative magnitude))
  | text (s : String) : Canonical (.text s)
  | array {items : List Json} (hItems : ∀ item ∈ items, Canonical item) : Canonical (.array items)
  | object {members : Members} (hSorted : NameMap.Sorted members)
      (hMembers : ∀ member ∈ members, Canonical member.2) : Canonical (.object members)

theorem canonical_empty : (Json.object []).Canonical := .object List.Pairwise.nil nofun

/-- Setting a member keeps an object canonical. -/
theorem Canonical.set {members : Members} {value : Json} (h : (Json.object members).Canonical)
    (name : String) (hValue : value.Canonical) :
    (Json.object (NameMap.set name value members)).Canonical := by
  cases h with
  | object hSorted hMembers =>
      refine .object (NameMap.sorted_set hSorted) fun member hMem => ?_
      rcases NameMap.eq_or_mem_of_mem_set hMem with rfl | hMem
      · exact hValue
      · exact hMembers member hMem

mutual

/-- The number of arrays and objects around the innermost value. -/
def height : Json → Nat
  | .array items => heightItems items + 1
  | .object members => heightMembers members + 1
  | _ => 0

def heightItems : List Json → Nat
  | [] => 0
  | item :: rest => max (height item) (heightItems rest)

def heightMembers : List (String × Json) → Nat
  | [] => 0
  | (_, value) :: rest => max (height value) (heightMembers rest)

end

variable {items : List Json} {members : List (String × Json)} {depth : Nat}

/-- Items are no higher than a bound exactly if each of them is not. -/
theorem heightItems_le_iff : heightItems items ≤ depth ↔ ∀ item ∈ items, item.height ≤ depth := by
  induction items with
  | nil => simp [heightItems]
  | cons item rest ih => simp only [heightItems, Nat.max_le, List.forall_mem_cons, ih]

theorem heightMembers_le_iff :
    heightMembers members ≤ depth ↔ ∀ member ∈ members, member.2.height ≤ depth := by
  induction members with
  | nil => simp [heightMembers]
  | cons member rest ih => simp only [heightMembers, Nat.max_le, List.forall_mem_cons, ih]

/-- Items have whole numbers exactly if each of them has. -/
theorem isWholeItems_iff : isWholeItems items = true ↔ ∀ item ∈ items, item.isWhole = true := by
  induction items with
  | nil => simp [isWholeItems]
  | cons item rest ih => simp [isWholeItems, ih]

theorem isWholeMembers_iff :
    isWholeMembers members = true ↔ ∀ member ∈ members, member.2.isWhole = true := by
  induction members with
  | nil => simp [isWholeMembers]
  | cons member rest ih => simp [isWholeMembers, ih]

/-- What a decoder that may enter `depth` arrays and objects reads without loss: whole numbers, and no
more nesting than that. -/
structure Legible (depth : Nat) (value : Json) : Prop where
  whole : value.isWhole = true
  shallow : value.height ≤ depth

/-- An array takes one level, and its items the levels below. -/
theorem legible_array_iff :
    Legible depth (.array items) ↔ ∃ inner, depth = inner + 1 ∧ ∀ item ∈ items, Legible inner item := by
  constructor
  · rintro ⟨hWhole, hShallow⟩
    obtain ⟨inner, rfl⟩ : ∃ inner, depth = inner + 1 :=
      Nat.exists_eq_succ_of_ne_zero (Nat.ne_zero_of_lt hShallow)
    exact ⟨inner, rfl, fun item hMem => ⟨isWholeItems_iff.mp hWhole item hMem,
      heightItems_le_iff.mp (Nat.le_of_succ_le_succ hShallow) item hMem⟩⟩
  · rintro ⟨inner, rfl, hItems⟩
    exact ⟨isWholeItems_iff.mpr fun item hMem => (hItems item hMem).whole,
      Nat.succ_le_succ (heightItems_le_iff.mpr fun item hMem => (hItems item hMem).shallow)⟩

theorem legible_object_iff :
    Legible depth (.object members) ↔
      ∃ inner, depth = inner + 1 ∧ ∀ member ∈ members, Legible inner member.2 := by
  constructor
  · rintro ⟨hWhole, hShallow⟩
    obtain ⟨inner, rfl⟩ : ∃ inner, depth = inner + 1 :=
      Nat.exists_eq_succ_of_ne_zero (Nat.ne_zero_of_lt hShallow)
    exact ⟨inner, rfl, fun member hMem => ⟨isWholeMembers_iff.mp hWhole member hMem,
      heightMembers_le_iff.mp (Nat.le_of_succ_le_succ hShallow) member hMem⟩⟩
  · rintro ⟨inner, rfl, hMembers⟩
    exact ⟨isWholeMembers_iff.mpr fun member hMem => (hMembers member hMem).whole,
      Nat.succ_le_succ (heightMembers_le_iff.mpr fun member hMem => (hMembers member hMem).shallow)⟩

theorem memberNodes_append (members more : List (String × Json)) :
    memberNodes (members ++ more) = memberNodes members ++ memberNodes more := by
  induction members with
  | nil => rfl
  | cons member rest ih => rw [List.cons_append, memberNodes, ih, memberNodes, List.cons_append]

/-- Going down takes one of the levels that are left. -/
theorem descend_eq_ok {α : Type} {inside : Nat → Except DecodeError α} {value : α} :
    descend depth inside = .ok value ↔ ∃ inner, depth = inner + 1 ∧ inside inner = .ok value := by
  cases depth with
  | zero => simp [descend, Fault.raise]
  | succ depth => simp [descend]

theorem orFault_eq_ok {α : Type} {part : Except Fault α} {value : α} :
    orFault part = .ok value ↔ part = .ok value := by
  cases part with
  | error fault => simp [orFault, Fault.raise]
  | ok value => simp [orFault]

theorem TextLiteral.text_ofString (s : String) : (ofString s).text = .ok s := rfl

namespace Node

mutual

/-- A decoded value is canonical. -/
theorem canonical_of_value {depth : Nat} {node : Node} {value : Json}
    (h : Node.value depth node = .ok value) :
    value.Canonical := by
  match node with
  | .null =>
      obtain rfl := Except.ok.inj h
      exact .null
  | .bool b =>
      obtain rfl := Except.ok.inj h
      exact .bool b
  | .number numeral =>
      simp only [Node.value, map_eq_ok, orFault_eq_ok] at h
      obtain ⟨n, hNumeral, rfl⟩ := h
      cases n with
      | integer n => exact .integer (Numeral.fits_of_value hNumeral)
      | float negative magnitude => exact .float negative magnitude
  | .text literal =>
      simp only [Node.value, map_eq_ok] at h
      obtain ⟨s, -, rfl⟩ := h
      exact .text s
  | .array items ending =>
      simp only [Node.value, descend_eq_ok, bind_eq_ok, pure_eq_ok] at h
      obtain ⟨inner, rfl, values, hItems, -, -, rfl⟩ := h
      exact .array (canonical_of_values hItems)
  | .object members ending =>
      simp only [Node.value, descend_eq_ok, bind_eq_ok, pure_eq_ok] at h
      obtain ⟨inner, rfl, values, hMembers, -, -, rfl⟩ := h
      exact .object (NameMap.sorted_ofList values) fun member hMem =>
        canonical_of_members hMembers member (NameMap.mem_of_mem_ofList hMem)
  | .broken fault named => cases h

/-- The values of an array that is read are canonical. -/
theorem canonical_of_values {depth : Nat} {nodes : List Node} {values : List Json}
    (h : Node.values depth nodes = .ok values) : ∀ value ∈ values, value.Canonical := by
  match nodes with
  | [] =>
      obtain rfl := Except.ok.inj h
      simp
  | node :: rest =>
      simp only [Node.values, bind_eq_ok, pure_eq_ok] at h
      obtain ⟨first, hFirst, others, hOthers, rfl⟩ := h
      exact List.forall_mem_cons.mpr ⟨canonical_of_value hFirst, canonical_of_values hOthers⟩

theorem canonical_of_members {depth : Nat} {nodes : List (TextLiteral × Node)}
    {members : List (String × Json)} (h : Node.members depth nodes = .ok members) :
    ∀ member ∈ members, member.2.Canonical := by
  match nodes with
  | [] =>
      obtain rfl := Except.ok.inj h
      simp
  | (key, node) :: rest =>
      simp only [Node.members, bind_eq_ok, pure_eq_ok] at h
      obtain ⟨name, -, first, hFirst, others, hOthers, rfl⟩ := h
      exact List.forall_mem_cons.mpr ⟨canonical_of_value hFirst, canonical_of_members hOthers⟩

end

/-- A whole number comes back from its numeral. -/
theorem value_numeral {n : Number} (hCanonical : (Json.number n).Canonical)
    (hWhole : n.isWhole = true) : n.numeral.value = .ok n := by
  cases n with
  | integer n =>
      cases hCanonical with
      | integer hFits => exact Numeral.value_ofInt hFits
  | float negative magnitude =>
      obtain rfl : magnitude = .zero := of_decide_eq_true hWhole
      exact Numeral.value_pointZero negative

mutual

/-- A canonical value comes back from its tree. -/
theorem value_node {depth : Nat} {value : Json} (hCanonical : value.Canonical)
    (hLegible : value.Legible depth) : Node.value depth value.node = .ok value := by
  match value with
  | .null => rfl
  | .bool _ => rfl
  | .number n => rw [node, Node.value, value_numeral hCanonical hLegible.whole, orFault, Except.map]
  | .text s => rfl
  | .array items =>
      obtain ⟨inner, rfl, hInner⟩ := legible_array_iff.mp hLegible
      cases hCanonical with
      | array hItems =>
          rw [node, Node.value, descend, values_itemNodes hItems hInner]
          rfl
  | .object members =>
      obtain ⟨inner, rfl, hInner⟩ := legible_object_iff.mp hLegible
      cases hCanonical with
      | object hSorted hMembers =>
          have hSame := NameMap.ofList_of_sorted hSorted
          rw [node, Node.value, descend, members_memberNodes hMembers hInner]
          exact congrArg (fun members => Except.ok (Json.object members)) hSame

/-- Items come back from their trees. -/
theorem values_itemNodes {depth : Nat} {items : List Json} (hCanonical : ∀ item ∈ items, item.Canonical)
    (hLegible : ∀ item ∈ items, item.Legible depth) :
    Node.values depth (itemNodes items) = .ok items := by
  match items with
  | [] => rfl
  | item :: rest =>
      obtain ⟨hFirst, hRest⟩ := List.forall_mem_cons.mp hCanonical
      obtain ⟨hLegibleFirst, hLegibleRest⟩ := List.forall_mem_cons.mp hLegible
      rw [itemNodes, Node.values, value_node hFirst hLegibleFirst, ok_bind,
        values_itemNodes hRest hLegibleRest, ok_bind]
      rfl

/-- Members come back from their trees, in the order in which they stand. -/
theorem members_memberNodes {depth : Nat} {members : List (String × Json)}
    (hCanonical : ∀ member ∈ members, member.2.Canonical)
    (hLegible : ∀ member ∈ members, member.2.Legible depth) :
    Node.members depth (memberNodes members) = .ok members := by
  match members with
  | [] => rfl
  | (name, value) :: rest =>
      obtain ⟨hFirst, hRest⟩ := List.forall_mem_cons.mp hCanonical
      obtain ⟨hLegibleFirst, hLegibleRest⟩ := List.forall_mem_cons.mp hLegible
      rw [memberNodes, Node.members, TextLiteral.text_ofString, ok_bind,
        value_node hFirst hLegibleFirst, ok_bind, members_memberNodes hRest hLegibleRest, ok_bind]
      rfl

end

end Node

end Json

end Scrobbler
