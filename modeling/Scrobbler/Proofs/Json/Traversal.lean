import Scrobbler.Proofs.Json.Record

/-!
The members of an object, as the fields of a record see them. Fields go through the members in order:
they take up those that bear their names, and pass over the others. Fields of different names do not
see each other, so that each can be looked at alone: it took up one member of its name, or there was
none.
-/

namespace Scrobbler.Json

/-- The members of a tree by name, when all their names can be read. -/
def Named (nodes : List (TextLiteral × Node)) (members : List (String × Node)) : Prop :=
  List.Forall₂ (fun node member => node.1.text = .ok member.1 ∧ node.2 = member.2) nodes members

/-- The members of a tree with their values, when all of them can be read. -/
def Valued (depth : Nat) (members : List (String × Node)) (values : List (String × Json)) : Prop :=
  List.Forall₂ (fun member value => member.1 = value.1 ∧ Node.value depth member.2 = .ok value.2)
    members values

namespace Fields

variable {α β : Type} {fields : Fields α} {functions : Fields (α → β)} {first : Fields α}
  {second : Fields β} {depth : Nat} {name : String} {node : Node} {members : List (String × Node)}

theorem Takes.take?_ne_none {found next : fields.Found}
    (h : fields.Takes depth found name node next) : fields.take? name ≠ none := by
  obtain ⟨begin, decoder, hTake, -⟩ := h
  rw [hTake]
  exact Option.some_ne_none begin

/-- The fields go through members, and take up those that are theirs. -/
inductive Traverses (fields : Fields α) (depth : Nat) :
    fields.Found → List (String × Node) → fields.Found → Prop
  | nil (found : fields.Found) : Traverses fields depth found [] found
  | taken {name : String} {node : Node} {rest : List (String × Node)} {found next last : fields.Found}
      (takes : fields.Takes depth found name node next) (more : Traverses fields depth next rest last) :
      Traverses fields depth found ((name, node) :: rest) last
  | passed {name : String} (node : Node) {rest : List (String × Node)} {found last : fields.Found}
      (hOther : fields.take? name = none) (more : Traverses fields depth found rest last) :
      Traverses fields depth found ((name, node) :: rest) last

/-- Two groups of fields have no name in common. -/
def Apart (first : Fields α) (second : Fields β) : Prop :=
  ∀ name, first.take? name = none ∨ second.take? name = none

/-- Fields of which none has a name stand apart from the field of that name. -/
theorem apart_field {key : String} {decoder : Decoder β} {whenMissing whenShort : Option β}
    (h : first.take? key = none) : first.Apart (field key decoder whenMissing whenShort) := by
  intro name
  by_cases hName : name = key
  · exact .inl (hName ▸ h)
  · exact .inr (take?_field_eq_none.mpr hName)

namespace Traverses

theorem of_map {f : α → β} {found last : (Fields.map f fields).Found}
    (h : (Fields.map f fields).Traverses depth found members last) :
    fields.Traverses depth found members last := by
  induction h with
  | nil found => exact .nil _
  | taken takes more ih => exact .taken takes ih
  | passed node hOther more ih => exact .passed node hOther ih

/-- Each of two groups goes through all members, those of the other group included. -/
theorem of_both (hApart : first.Apart second) {found last : (both first second).Found}
    (h : (both first second).Traverses depth found members last) :
    first.Traverses depth (Prod.fst found) members (Prod.fst last) ∧
      second.Traverses depth (Prod.snd found) members (Prod.snd last) := by
  induction h with
  | nil found => exact ⟨.nil _, .nil _⟩
  | @taken name node rest found next last takes more ih =>
      rcases Takes.both_cases takes with ⟨left, takesLeft, rfl⟩ | ⟨right, takesRight, rfl⟩
      · have hSecond := (hApart name).resolve_left takesLeft.take?_ne_none
        exact ⟨.taken takesLeft ih.1, .passed node hSecond ih.2⟩
      · have hFirst := (hApart name).resolve_right takesRight.take?_ne_none
        exact ⟨.passed node hFirst ih.1, .taken takesRight ih.2⟩
  | passed node hOther more ih =>
      obtain ⟨hFirst, hSecond⟩ := take?_both_eq_none.mp hOther
      exact ⟨.passed node hFirst ih.1, .passed node hSecond ih.2⟩

section Field

variable {key : String} {decoder : Decoder α} {whenMissing whenShort : Option α}

/-- A field that was read takes up nothing more. -/
theorem of_field_some {found last : (field key decoder whenMissing whenShort).Found} {value : α}
    (h : (field key decoder whenMissing whenShort).Traverses depth found members last)
    (hFound : found = some value) : last = some value ∧ ∀ member ∈ members, member.1 ≠ key := by
  induction h with
  | nil found => exact ⟨hFound, List.forall_mem_nil _⟩
  | taken takes more ih =>
      obtain ⟨-, hNone, -⟩ := takes_field_iff.mp takes
      exact absurd (hFound.symm.trans hNone) (Option.some_ne_none value)
  | passed node hOther more ih =>
      obtain ⟨hLast, hRest⟩ := ih hFound
      exact ⟨hLast, List.forall_mem_cons.mpr ⟨take?_field_eq_none.mp hOther, hRest⟩⟩

/-- A field takes up the one member of its name, or there is none. -/
theorem of_field_none {found last : (field key decoder whenMissing whenShort).Found}
    (h : (field key decoder whenMissing whenShort).Traverses depth found members last)
    (hFound : found = none) :
    (∃ before node after value, members = before ++ (key, node) :: after ∧
        (∀ member ∈ before ++ after, member.1 ≠ key) ∧ decoder depth node = .ok value ∧
        last = some value) ∨
      (∀ member ∈ members, member.1 ≠ key) ∧ last = none := by
  induction h with
  | nil found => exact .inr ⟨List.forall_mem_nil _, hFound⟩
  | @taken name node rest found next last takes more ih =>
      obtain ⟨rfl, -, value, hValue, hNext⟩ := takes_field_iff.mp takes
      obtain ⟨hLast, hRest⟩ := more.of_field_some hNext
      exact .inl ⟨[], node, rest, value, rfl, hRest, hValue, hLast⟩
  | @passed name node rest found last hOther more ih =>
      have hName : name ≠ key := take?_field_eq_none.mp hOther
      rcases ih hFound with ⟨before, taken, after, value, rfl, hOthers, hValue, hLast⟩ | ⟨hRest, hLast⟩
      · exact .inl ⟨(name, node) :: before, taken, after, value, rfl,
          List.forall_mem_cons.mpr ⟨hName, hOthers⟩, hValue, hLast⟩
      · exact .inr ⟨List.forall_mem_cons.mpr ⟨hName, hRest⟩, hLast⟩

end Field

end Traverses

/-- The fields make a record of members. -/
def Yields (fields : Fields α) (depth : Nat) (members : List (String × Node)) (value : α) : Prop :=
  ∃ found, fields.Traverses depth fields.start members found ∧ fields.finish found = .ok value

/-- A mapped record comes of a record of the same members. -/
theorem Yields.of_map {f : α → β} {value : β} (h : (f <$> fields).Yields depth members value) :
    ∃ read, fields.Yields depth members read ∧ f read = value := by
  obtain ⟨found, hTraverses, hFinish⟩ := h
  obtain ⟨read, hRead, rfl⟩ := map_eq_ok.mp hFinish
  exact ⟨read, ⟨found, hTraverses.of_map, hRead⟩, rfl⟩

/-- A record of two groups comes of what each makes of the members. -/
theorem Yields.of_seq (hApart : functions.Apart fields) {value : β}
    (h : (functions <*> fields).Yields depth members value) :
    ∃ f read, functions.Yields depth members f ∧ fields.Yields depth members read ∧ f read = value := by
  obtain ⟨⟨left, right⟩, hTraverses, hFinish⟩ := h
  obtain ⟨⟨f, read⟩, hBoth, rfl⟩ := map_eq_ok.mp hFinish
  obtain ⟨hLeft, hRight⟩ := hTraverses.of_map.of_both hApart
  obtain ⟨f', hf, hRest⟩ := bind_eq_ok.mp hBoth
  obtain ⟨read', hRead, hPair⟩ := bind_eq_ok.mp hRest
  obtain ⟨rfl, rfl⟩ := Prod.mk.inj (pure_eq_ok.mp hPair)
  exact ⟨f', read', ⟨left, hLeft, hf⟩, ⟨right, hRight, hRead⟩, rfl⟩

/-- A field gives the value of the only member of its name, or its default if there is none. -/
theorem Yields.of_field {key : String} {decoder : Decoder α} {whenMissing whenShort : Option α}
    {value : α} (h : (field key decoder whenMissing whenShort).Yields depth members value) :
    (∃ before node after, members = before ++ (key, node) :: after ∧
        (∀ member ∈ before ++ after, member.1 ≠ key) ∧ decoder depth node = .ok value) ∨
      (∀ member ∈ members, member.1 ≠ key) ∧ whenMissing = some value := by
  obtain ⟨found, hTraverses, hFinish⟩ := h
  rcases hTraverses.of_field_none rfl with
    ⟨before, node, after, read, hMembers, hOthers, hRead, rfl⟩ | ⟨hNone, rfl⟩
  · obtain rfl := Except.ok.inj hFinish
    exact .inl ⟨before, node, after, hMembers, hOthers, hRead⟩
  · cases whenMissing with
    | none => cases hFinish
    | some missing =>
        obtain rfl := Except.ok.inj hFinish
        exact .inr ⟨hNone, rfl⟩

/-- Reading members is going through them by their names, whatever is done with those that are no
fields. -/
theorem traverses_of_readMembers {ε : Type} {other : ε → String → Nat → Node → Except DecodeError ε}
    {nodes : List (TextLiteral × Node)} {found last : fields.Found} {others left : ε}
    (h : fields.readMembers other depth found others nodes = .ok (last, left)) :
    ∃ members, Named nodes members ∧ fields.Traverses depth found members last := by
  induction nodes generalizing found others with
  | nil =>
      obtain ⟨rfl, rfl⟩ := Prod.mk.inj (Except.ok.inj h)
      exact ⟨[], .nil, .nil _⟩
  | cons member rest ih =>
      obtain ⟨key, node⟩ := member
      obtain ⟨name, hName, h⟩ := bind_eq_ok.mp h
      cases hTake : fields.take? name with
      | some begin =>
          simp only [hTake] at h
          obtain ⟨decoder, hBegin, h⟩ := bind_eq_ok.mp h
          obtain ⟨next, hNext, h⟩ := bind_eq_ok.mp h
          obtain ⟨members, hNamed, hMore⟩ := ih h
          exact ⟨(name, node) :: members, .cons ⟨hName, rfl⟩ hNamed,
            .taken ⟨begin, decoder, hTake, hBegin, hNext⟩ hMore⟩
      | none =>
          simp only [hTake] at h
          obtain ⟨next, -, h⟩ := bind_eq_ok.mp h
          obtain ⟨members, hNamed, hMore⟩ := ih h
          exact ⟨(name, node) :: members, .cons ⟨hName, rfl⟩ hNamed, .passed node hTake hMore⟩

/-- The members that are no fields are kept with their values. -/
theorem traverses_of_readMembers_keep {nodes : List (TextLiteral × Node)} {found last : fields.Found}
    {others kept : Members}
    (h : fields.readMembers keep depth found others nodes = .ok (last, kept)) :
    ∃ members values, Named nodes members ∧ fields.Traverses depth found members last ∧
      Valued depth (members.filter fun member => (fields.take? member.1).isNone) values ∧
      kept = values.foldl (fun sorted (name, value) => NameMap.set name value sorted) others := by
  induction nodes generalizing found others with
  | nil =>
      obtain ⟨rfl, rfl⟩ := Prod.mk.inj (Except.ok.inj h)
      exact ⟨[], [], .nil, .nil _, .nil, rfl⟩
  | cons member rest ih =>
      obtain ⟨key, node⟩ := member
      obtain ⟨name, hName, h⟩ := bind_eq_ok.mp h
      cases hTake : fields.take? name with
      | some begin =>
          simp only [hTake] at h
          obtain ⟨decoder, hBegin, h⟩ := bind_eq_ok.mp h
          obtain ⟨next, hNext, h⟩ := bind_eq_ok.mp h
          obtain ⟨members, values, hNamed, hMore, hValues, hKept⟩ := ih h
          refine ⟨(name, node) :: members, values, .cons ⟨hName, rfl⟩ hNamed,
            .taken ⟨begin, decoder, hTake, hBegin, hNext⟩ hMore, ?_, hKept⟩
          rwa [List.filter_cons_of_neg (by simp [hTake])]
      | none =>
          simp only [hTake] at h
          obtain ⟨more, hMoreKept, h⟩ := bind_eq_ok.mp h
          obtain ⟨value, hValue, rfl⟩ := map_eq_ok.mp hMoreKept
          obtain ⟨members, values, hNamed, hMore, hValues, hKept⟩ := ih h
          refine ⟨(name, node) :: members, (name, value) :: values, .cons ⟨hName, rfl⟩ hNamed,
            .passed node hTake hMore, ?_, hKept⟩
          rw [List.filter_cons_of_pos (by simp [hTake])]
          exact .cons ⟨rfl, hValue⟩ hValues

end Fields

end Scrobbler.Json
