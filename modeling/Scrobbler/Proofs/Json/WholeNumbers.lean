import Scrobbler.Proofs.Json.Canonical

/-!
Texts of whole numbers. A tree is built from the tokens of a text and nothing else, so when all numbers
of the text are whole, all numbers of its tree are; and what is decoded from such a tree is legible at
the depth at which it was decoded.
-/

namespace Scrobbler.Json

/-- A numeral of a whole number that 64 bits hold, with or without a sign. `-0` is none. -/
def Numeral.IsWholeNumber (numeral : Numeral) : Prop := ∃ n, numeral.value = .ok (.integer n)

instance (numeral : Numeral) : Decidable numeral.IsWholeNumber :=
  match h : numeral.value with
  | .ok (.integer n) => .isTrue ⟨n, h⟩
  | .ok (.float _ _) => .isFalse fun ⟨_, hInteger⟩ => nomatch h.symm.trans hInteger
  | .error _ => .isFalse fun ⟨_, hInteger⟩ => nomatch h.symm.trans hInteger

/-- A token is no number, or a whole one. -/
def Token.IsWhole : Token → Prop
  | .number numeral => numeral.IsWholeNumber
  | _ => True

instance (token : Token) : Decidable token.IsWhole :=
  match token with
  | .number numeral => inferInstanceAs (Decidable numeral.IsWholeNumber)
  | .null | .bool _ | .text _ | .openArray | .closeArray | .openObject | .closeObject | .comma
  | .colon | .stray | .broken _ _ => inferInstanceAs (Decidable True)

/-- All numbers that are written in a text are whole numbers that 64 bits hold. -/
def HasWholeNumbers (s : String) : Prop := ∀ token ∈ Token.scan (Text.symbols s), token.IsWhole

instance (s : String) : Decidable (HasWholeNumbers s) :=
  inferInstanceAs (Decidable (∀ token ∈ Token.scan (Text.symbols s), token.IsWhole))

/-- All numbers of a tree are whole. -/
inductive Node.Whole : Node → Prop
  | null : Whole .null
  | bool (b : Bool) : Whole (.bool b)
  | number {numeral : Numeral} (hNumeral : numeral.IsWholeNumber) : Whole (.number numeral)
  | text (literal : TextLiteral) : Whole (.text literal)
  | array {items : List Node} (hItems : ∀ item ∈ items, Whole item) (ending : ArrayEnd) :
      Whole (.array items ending)
  | object {members : List (TextLiteral × Node)} (hMembers : ∀ member ∈ members, Whole member.2)
      (ending : ObjectEnd) : Whole (.object members ending)
  | broken (fault : Break) (named : Fault) : Whole (.broken fault named)

namespace Document

/-- What a frame holds so far has whole numbers. -/
def Frame.Whole : Frame → Prop
  | .array done => ∀ node ∈ done, node.Whole
  | .object done _ => ∀ member ∈ done, member.2.Whole

/-- What was read before a place has whole numbers. -/
def Place.Whole : Place → Prop
  | .value outer | .firstItem outer | .firstKey outer => ∀ frame ∈ outer, frame.Whole
  | .nextItem done outer | .afterItem done outer =>
      (∀ node ∈ done, node.Whole) ∧ ∀ frame ∈ outer, frame.Whole
  | .nextKey done outer | .colon done _ outer | .afterMember done outer =>
      (∀ member ∈ done, member.2.Whole) ∧ ∀ frame ∈ outer, frame.Whole
  | .finished root => root.Whole

variable {node : Node} {outer : List Frame} {place : Place} {token : Token}

/-- A value that is complete has whole numbers, with all that stands around it. -/
theorem whole_complete (hNode : node.Whole) (hOuter : ∀ frame ∈ outer, frame.Whole) :
    (complete node outer).Whole := by
  cases outer with
  | nil => exact hNode
  | cons frame outer =>
      obtain ⟨hFrame, hRest⟩ := List.forall_mem_cons.mp hOuter
      cases frame with
      | array done => exact ⟨List.forall_mem_cons.mpr ⟨hNode, hFrame⟩, hRest⟩
      | object done key => exact ⟨List.forall_mem_cons.mpr ⟨hNode, hFrame⟩, hRest⟩

theorem whole_array {done : List Node} (h : ∀ node ∈ done, node.Whole) (ending : ArrayEnd) :
    (Node.array done.reverse ending).Whole :=
  .array (fun node hMem => h node (List.mem_reverse.mp hMem)) ending

theorem whole_object {done : List (TextLiteral × Node)} (h : ∀ member ∈ done, member.2.Whole)
    (ending : ObjectEnd) : (Node.object done.reverse ending).Whole :=
  .object (fun member hMem => h member (List.mem_reverse.mp hMem)) ending

/-- A tree that breaks off has whole numbers if all its parts have. -/
theorem whole_abandon (hNode : node.Whole) (hOuter : ∀ frame ∈ outer, frame.Whole) :
    (abandon node outer).root.Whole := by
  induction outer generalizing node with
  | nil => exact hNode
  | cons frame outer ih =>
      obtain ⟨hFrame, hRest⟩ := List.forall_mem_cons.mp hOuter
      cases frame with
      | array done => exact ih (whole_array (List.forall_mem_cons.mpr ⟨hNode, hFrame⟩) .closed) hRest
      | object done key =>
          exact ih (whole_object (List.forall_mem_cons.mpr ⟨hNode, hFrame⟩) .closed) hRest

/-- What a step leads to has whole numbers. -/
def WholeNext : Document ⊕ Place → Prop
  | .inl document => document.root.Whole
  | .inr place => place.Whole

theorem whole_begin (outer : List Frame) (hToken : token.IsWhole)
    (hOuter : ∀ frame ∈ outer, frame.Whole) : WholeNext (begin outer token) := by
  cases token with
  | null => exact whole_complete .null hOuter
  | bool b => exact whole_complete (.bool b) hOuter
  | number numeral => exact whole_complete (.number hToken) hOuter
  | text literal => exact whole_complete (.text literal) hOuter
  | openArray => exact hOuter
  | openObject => exact hOuter
  | _ => exact whole_abandon (.broken _ _) hOuter

theorem whole_beginKey {done : List (TextLiteral × Node)} {afterComma : Bool}
    (hDone : ∀ member ∈ done, member.2.Whole) (hOuter : ∀ frame ∈ outer, frame.Whole) :
    WholeNext (beginKey done outer afterComma token) := by
  unfold beginKey
  split
  · exact ⟨hDone, hOuter⟩
  · exact whole_abandon (whole_object hDone _) hOuter
  · split
    · exact whole_abandon (whole_object hDone _) hOuter
    · exact whole_complete (whole_object hDone _) hOuter
  · exact whole_abandon (whole_object hDone _) hOuter

/-- One token adds no number but its own. -/
theorem whole_step (hToken : token.IsWhole) (hPlace : place.Whole) : WholeNext (step token place) := by
  cases place with
  | value outer => exact whole_begin outer hToken hPlace
  | firstItem outer =>
      have hBegin := whole_begin (.array [] :: outer) hToken
        (List.forall_mem_cons.mpr ⟨List.forall_mem_nil _, hPlace⟩)
      cases token with
      | closeArray => exact whole_complete (.array (List.forall_mem_nil _) _) hPlace
      | _ => exact hBegin
  | nextItem done outer =>
      obtain ⟨hDone, hOuter⟩ := hPlace
      have hBegin := whole_begin (.array done :: outer) hToken
        (List.forall_mem_cons.mpr ⟨hDone, hOuter⟩)
      cases token with
      | closeArray => exact whole_abandon (whole_array hDone _) hOuter
      | _ => exact hBegin
  | afterItem done outer =>
      obtain ⟨hDone, hOuter⟩ := hPlace
      cases token with
      | comma => exact ⟨hDone, hOuter⟩
      | closeArray => exact whole_complete (whole_array hDone _) hOuter
      | _ => exact whole_abandon (whole_array hDone _) hOuter
  | firstKey outer => exact whole_beginKey (List.forall_mem_nil _) hPlace
  | nextKey done outer =>
      obtain ⟨hDone, hOuter⟩ := hPlace
      exact whole_beginKey hDone hOuter
  | colon done key outer =>
      obtain ⟨hDone, hOuter⟩ := hPlace
      cases token with
      | colon => exact List.forall_mem_cons.mpr ⟨hDone, hOuter⟩
      | _ => exact whole_abandon (whole_object hDone _) hOuter
  | afterMember done outer =>
      obtain ⟨hDone, hOuter⟩ := hPlace
      cases token with
      | comma => exact ⟨hDone, hOuter⟩
      | closeObject => exact whole_complete (whole_object hDone _) hOuter
      | _ => exact whole_abandon (whole_object hDone _) hOuter
  | finished root => exact hPlace

/-- A text that ends early leaves a tree of whole numbers. -/
theorem whole_finish (hPlace : place.Whole) : (finish place).root.Whole := by
  cases place with
  | value outer => exact whole_abandon (.broken _ _) hPlace
  | firstItem outer => exact whole_abandon (.array (List.forall_mem_nil _) _) hPlace
  | firstKey outer => exact whole_abandon (.object (List.forall_mem_nil _) _) hPlace
  | nextItem done outer =>
      obtain ⟨hDone, hOuter⟩ := hPlace
      exact whole_abandon (whole_array hDone _) hOuter
  | afterItem done outer =>
      obtain ⟨hDone, hOuter⟩ := hPlace
      exact whole_abandon (whole_array hDone _) hOuter
  | nextKey done outer =>
      obtain ⟨hDone, hOuter⟩ := hPlace
      exact whole_abandon (whole_object hDone _) hOuter
  | colon done key outer =>
      obtain ⟨hDone, hOuter⟩ := hPlace
      exact whole_abandon (whole_object hDone _) hOuter
  | afterMember done outer =>
      obtain ⟨hDone, hOuter⟩ := hPlace
      exact whole_abandon (whole_object hDone _) hOuter
  | finished root => exact hPlace

/-- Trees built from tokens of whole numbers have whole numbers; by induction on the tokens. -/
theorem whole_build {tokens : List Token} (hTokens : ∀ token ∈ tokens, token.IsWhole)
    (hPlace : place.Whole) : (build tokens place).root.Whole := by
  induction tokens generalizing place with
  | nil => exact whole_finish hPlace
  | cons token rest ih =>
      obtain ⟨hToken, hRest⟩ := List.forall_mem_cons.mp hTokens
      have hStep : WholeNext (step token place) := whole_step hToken hPlace
      rw [build]
      cases hNext : step token place with
      | inl document =>
          rw [hNext] at hStep
          exact hStep
      | inr place =>
          rw [hNext] at hStep
          exact ih hRest hStep

/-- The tree of a text has no number that is not in the text. -/
theorem whole_ofText {s : String} (h : HasWholeNumbers s) : (ofText s).root.Whole :=
  whole_build h (List.forall_mem_nil _)

end Document

namespace Node

mutual

/-- What is decoded from a tree of whole numbers is legible where it was decoded. -/
theorem legible_of_value {depth : Nat} {node : Node} {value : Json} (hWhole : node.Whole)
    (h : Node.value depth node = .ok value) : value.Legible depth := by
  match node, hWhole with
  | .null, _ =>
      obtain rfl := Except.ok.inj h
      exact ⟨rfl, Nat.zero_le _⟩
  | .bool b, _ =>
      obtain rfl := Except.ok.inj h
      exact ⟨rfl, Nat.zero_le _⟩
  | .number numeral, .number ⟨n, hNumeral⟩ =>
      simp only [Node.value, hNumeral, orFault, Except.map] at h
      obtain rfl := Except.ok.inj h
      exact ⟨rfl, Nat.zero_le _⟩
  | .text literal, _ =>
      simp only [Node.value, map_eq_ok] at h
      obtain ⟨s, -, rfl⟩ := h
      exact ⟨rfl, Nat.zero_le _⟩
  | .array items ending, .array hItems _ =>
      simp only [Node.value, descend_eq_ok, bind_eq_ok, pure_eq_ok] at h
      obtain ⟨inner, rfl, values, hValues, -, -, rfl⟩ := h
      exact legible_array_iff.mpr ⟨inner, rfl, legible_of_values hItems hValues⟩
  | .object members ending, .object hMembers _ =>
      simp only [Node.value, descend_eq_ok, bind_eq_ok, pure_eq_ok] at h
      obtain ⟨inner, rfl, values, hValues, -, -, rfl⟩ := h
      exact legible_object_iff.mpr ⟨inner, rfl, fun member hMem =>
        legible_of_members hMembers hValues member (NameMap.mem_of_mem_ofList hMem)⟩
  | .broken fault named, _ => cases h

/-- Items read from trees of whole numbers are legible. -/
theorem legible_of_values {depth : Nat} {nodes : List Node} {values : List Json}
    (hWhole : ∀ node ∈ nodes, node.Whole) (h : Node.values depth nodes = .ok values) :
    ∀ value ∈ values, value.Legible depth := by
  match nodes with
  | [] =>
      obtain rfl := Except.ok.inj h
      exact List.forall_mem_nil _
  | node :: rest =>
      obtain ⟨hNode, hRest⟩ := List.forall_mem_cons.mp hWhole
      simp only [Node.values, bind_eq_ok, pure_eq_ok] at h
      obtain ⟨first, hFirst, others, hOthers, rfl⟩ := h
      exact List.forall_mem_cons.mpr ⟨legible_of_value hNode hFirst, legible_of_values hRest hOthers⟩

theorem legible_of_members {depth : Nat} {nodes : List (TextLiteral × Node)}
    {members : List (String × Json)} (hWhole : ∀ node ∈ nodes, node.2.Whole)
    (h : Node.members depth nodes = .ok members) : ∀ member ∈ members, member.2.Legible depth := by
  match nodes with
  | [] =>
      obtain rfl := Except.ok.inj h
      exact List.forall_mem_nil _
  | (key, node) :: rest =>
      obtain ⟨hNode, hRest⟩ := List.forall_mem_cons.mp hWhole
      simp only [Node.members, bind_eq_ok, pure_eq_ok] at h
      obtain ⟨name, -, first, hFirst, others, hOthers, rfl⟩ := h
      exact List.forall_mem_cons.mpr ⟨legible_of_value hNode hFirst, legible_of_members hRest hOthers⟩

end

end Node

end Scrobbler.Json
