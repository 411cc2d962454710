import Scrobbler.Proofs.Json.Decode

/-!
Records, field by field. What the fields of a record take up from written members is put together from
what each field takes up, in the order in which the fields stand in the record; and what a record yields
has the properties that its fields yield. The members that an open record keeps are canonical, and none
of them bears the name of a field.
-/

namespace Scrobbler.Json

theorem name_of_mem_memberIf {name : String} {value : Option Json} {member : String × Json}
    (h : member ∈ memberIf name value) : member.1 = name := by
  cases value with
  | none => cases h
  | some value =>
      obtain rfl := List.mem_singleton.mp h
      rfl

/-- An object is written as a member unless it is empty. -/
theorem membersIf_eq_memberIf (name : String) (members : Members) :
    membersIf name members = memberIf name (if members.isEmpty then none else some (.object members)) := by
  unfold membersIf
  split <;> rfl

namespace Fields

variable {α β : Type} {fields : Fields α} {functions : Fields (α → β)} {depth : Nat}
  {members more : List (String × Json)}

section Names

variable {name other : String} {decoder : Decoder α} {default : α} {whenMissing whenShort : Option α}

/-- A field takes up its own name and no other. -/
@[simp]
theorem take?_field_eq_none :
    (field name decoder whenMissing whenShort).take? other = none ↔ other ≠ name := by
  by_cases h : other = name <;> simp [field, h]

@[simp]
theorem take?_required_eq_none : (required name decoder).take? other = none ↔ other ≠ name :=
  take?_field_eq_none

@[simp]
theorem take?_withDefault_eq_none :
    (withDefault name decoder default).take? other = none ↔ other ≠ name :=
  take?_field_eq_none

@[simp]
theorem take?_optional_eq_none : (optional name decoder).take? other = none ↔ other ≠ name :=
  take?_field_eq_none

@[simp]
theorem take?_map_eq_none {f : α → β} : (f <$> fields).take? name = none ↔ fields.take? name = none :=
  Iff.rfl

/-- Two groups of fields leave a name alone if both do. -/
@[simp]
theorem take?_both_eq_none {first : Fields α} {second : Fields β} :
    (both first second).take? name = none ↔ first.take? name = none ∧ second.take? name = none := by
  cases hFirst : first.take? name with
  | some begin => simp [both, hFirst]
  | none => cases hSecond : second.take? name <;> simp [both, hFirst, hSecond]

@[simp]
theorem take?_seq_eq_none :
    (functions <*> fields).take? name = none ↔
      functions.take? name = none ∧ fields.take? name = none :=
  take?_both_eq_none

end Names

/-- A member is taken up by the field of its name. -/
def Takes (fields : Fields α) (depth : Nat) (found : fields.Found) (name : String) (node : Node)
    (next : fields.Found) : Prop :=
  ∃ begin decoder, fields.take? name = some begin ∧ begin found = .ok decoder ∧
    decoder depth node = .ok next

section Takes

variable {first : Fields α} {second : Fields β} {name : String} {node : Node}

/-- A member of the first group is taken up whatever the second has found. -/
theorem Takes.both_left {found next : first.Found} (h : first.Takes depth found name node next)
    (right : second.Found) :
    (both first second).Takes depth (found, right) name node (next, right) := by
  obtain ⟨begin, decoder, hTake, hBegin, hValue⟩ := h
  refine ⟨fun (left, right) => do
    let decoder ← begin left
    return decoder.map fun left => (left, right), decoder.map fun left => (left, right), ?_, ?_, ?_⟩
  · simp only [both, hTake]
  -- What `both` has found is a pair only by computation, so the steps are shown and not rewritten.
  · show (begin found >>= _) = _
    rw [hBegin]
    rfl
  · show (decoder depth node).map _ = _
    rw [hValue]
    rfl

/-- A member of the second group is taken up where the first leaves it alone. -/
theorem Takes.both_right {found next : second.Found} (h : second.Takes depth found name node next)
    (left : first.Found) (hOther : first.take? name = none) :
    (both first second).Takes depth (left, found) name node (left, next) := by
  obtain ⟨begin, decoder, hTake, hBegin, hValue⟩ := h
  refine ⟨fun (left, right) => do
    let decoder ← begin right
    return decoder.map fun right => (left, right), decoder.map fun right => (left, right), ?_, ?_, ?_⟩
  · simp only [both, hOther, hTake]
  · show (begin found >>= _) = _
    rw [hBegin]
    rfl
  · show (decoder depth node).map _ = _
    rw [hValue]
    rfl

/-- One member that is a field is read. -/
theorem Takes.readMembers {ε : Type} {found next : fields.Found}
    (h : fields.Takes depth found name node next)
    (other : ε → String → Nat → Node → Except DecodeError ε) (others : ε)
    (rest : List (TextLiteral × Node)) :
    fields.readMembers other depth found others ((.ofString name, node) :: rest) =
      fields.readMembers other depth next others rest := by
  obtain ⟨begin, decoder, hTake, hBegin, hValue⟩ := h
  simp only [Fields.readMembers, TextLiteral.text_ofString, ok_bind, hTake, hBegin, hValue]

/-- One member that is no field is dealt with. -/
theorem readMembers_other {ε : Type} {found : fields.Found}
    {other : ε → String → Nat → Node → Except DecodeError ε} {others next : ε}
    (hOther : fields.take? name = none) (hNext : other others name depth node = .ok next)
    (rest : List (TextLiteral × Node)) :
    fields.readMembers other depth found others ((.ofString name, node) :: rest) =
      fields.readMembers other depth found next rest := by
  simp only [readMembers, TextLiteral.text_ofString, ok_bind, hOther, hNext]

/-- A member is taken up by the first group of fields or by the second. -/
theorem Takes.both_cases {found next : first.Found × second.Found}
    (h : (both first second).Takes depth found name node next) :
    (∃ left, first.Takes depth found.1 name node left ∧ next = (left, found.2)) ∨
      ∃ right, second.Takes depth found.2 name node right ∧ next = (found.1, right) := by
  obtain ⟨begin, decoder, hTake, hBegin, hValue⟩ := h
  cases hFirst : first.take? name with
  | some beginFirst =>
      simp only [both, hFirst] at hTake
      obtain rfl := Option.some.inj hTake
      obtain ⟨decoderFirst, hBeginFirst, hDecoder⟩ := bind_eq_ok.mp hBegin
      obtain rfl := pure_eq_ok.mp hDecoder
      obtain ⟨left, hLeft, rfl⟩ := map_eq_ok.mp hValue
      exact .inl ⟨left, ⟨beginFirst, decoderFirst, hFirst, hBeginFirst, hLeft⟩, rfl⟩
  | none =>
      cases hSecond : second.take? name with
      | some beginSecond =>
          simp only [both, hFirst, hSecond] at hTake
          obtain rfl := Option.some.inj hTake
          obtain ⟨decoderSecond, hBeginSecond, hDecoder⟩ := bind_eq_ok.mp hBegin
          obtain rfl := pure_eq_ok.mp hDecoder
          obtain ⟨right, hRight, rfl⟩ := map_eq_ok.mp hValue
          exact .inr ⟨right, ⟨beginSecond, decoderSecond, hSecond, hBeginSecond, hRight⟩, rfl⟩
      | none => simp [both, hFirst, hSecond] at hTake

/-- A field takes up a member of its name, if it has not been read yet. -/
theorem takes_field_iff {key : String} {decoder : Decoder α} {whenMissing whenShort found : Option α}
    {next : Option α} :
    (field key decoder whenMissing whenShort).Takes depth found name node next ↔
      name = key ∧ found = none ∧ ∃ value, decoder depth node = .ok value ∧ next = some value := by
  constructor
  · rintro ⟨begin, inner, hTake, hBegin, hValue⟩
    simp only [field] at hTake
    split at hTake
    · next hName =>
        obtain rfl := Option.some.inj hTake
        cases found with
        | some earlier => cases hBegin
        | none =>
            obtain rfl := Except.ok.inj hBegin
            obtain ⟨value, hDecoded, rfl⟩ := map_eq_ok.mp hValue
            exact ⟨hName, rfl, value, hDecoded, rfl⟩
    · cases hTake
  · rintro ⟨rfl, rfl, value, hDecoded, rfl⟩
    exact ⟨_, _, if_pos rfl, rfl, congrArg (Except.map some) hDecoded⟩

end Takes

/-- The fields take up all of the members, one after the other. -/
inductive Reads (fields : Fields α) (depth : Nat) :
    fields.Found → List (String × Json) → fields.Found → Prop
  | nil (found : fields.Found) : Reads fields depth found [] found
  | cons {name : String} {value : Json} {rest : List (String × Json)} {found next last : fields.Found}
      (takes : fields.Takes depth found name value.node next) (reads : Reads fields depth next rest last) :
      Reads fields depth found ((name, value) :: rest) last

namespace Reads

theorem append {found next last : fields.Found} (first : fields.Reads depth found members next)
    (second : fields.Reads depth next more last) : fields.Reads depth found (members ++ more) last := by
  induction first with
  | nil found => exact second
  | cons takes reads ih => exact .cons takes (ih second)

/-- The first group of fields reads its members whatever the second has found. -/
theorem both_left {first : Fields α} {second : Fields β} {found last : first.Found}
    (reads : first.Reads depth found members last) (right : second.Found) :
    (both first second).Reads depth (found, right) members (last, right) := by
  induction reads with
  | nil found => exact .nil _
  | cons takes reads ih => exact .cons (takes.both_left right) ih

/-- The second group of fields reads members that the first leaves alone. -/
theorem both_right {first : Fields α} {second : Fields β} {found last : second.Found}
    (reads : second.Reads depth found members last) (left : first.Found)
    (hOther : ∀ member ∈ members, first.take? member.1 = none) :
    (both first second).Reads depth (left, found) members (left, last) := by
  induction reads with
  | nil found => exact .nil _
  | cons takes reads ih =>
      obtain ⟨hFirst, hRest⟩ := List.forall_mem_cons.mp hOther
      exact .cons (takes.both_right left hFirst) (ih hRest)

theorem map {found last : fields.Found} (reads : fields.Reads depth found members last) (f : α → β) :
    (Fields.map f fields).Reads depth found members last := by
  induction reads with
  | nil found => exact .nil _
  | cons takes reads ih => exact .cons takes ih

/-- Members that are fields are read before what comes after them, whatever is done with others. -/
theorem readMembers {ε : Type} {found last : fields.Found}
    (reads : fields.Reads depth found members last)
    (other : ε → String → Nat → Node → Except DecodeError ε) (others : ε)
    (rest : List (TextLiteral × Node)) :
    fields.readMembers other depth found others (memberNodes members ++ rest) =
      fields.readMembers other depth last others rest := by
  induction reads with
  | nil found => rfl
  | cons takes reads ih => rw [memberNodes, List.cons_append, takes.readMembers, ih]

end Reads

/-- Members that are read as a record. -/
def Fills (fields : Fields α) (depth : Nat) (members : List (String × Json)) (value : α) : Prop :=
  ∃ found, fields.Reads depth fields.start members found ∧ fields.finish found = .ok value

/-- A field is filled by a member that its decoder accepts. -/
theorem fills_field {name : String} {decoder : Decoder α} {whenMissing whenShort : Option α}
    {written : Json} {value : α} (h : decoder depth written.node = .ok value) :
    (field name decoder whenMissing whenShort).Fills depth [(name, written)] value := by
  refine ⟨some value, .cons ?_ (.nil _), rfl⟩
  exact takes_field_iff.mpr ⟨rfl, rfl, value, h, rfl⟩

/-- A field with a default is filled by nothing. -/
theorem fills_missing {name : String} {decoder : Decoder α} {whenShort : Option α} {value : α} :
    (field name decoder (some value) whenShort).Fills depth [] value :=
  ⟨none, .nil _, rfl⟩

/-- An optional field is read from a member that is left out when there is no value. -/
theorem fills_optional {name : String} {decoder : Decoder α} {toJson : α → Json} {value : Option α}
    (h : ∀ v, value = some v → toJson v ≠ .null ∧ decoder depth (toJson v).node = .ok v) :
    (optional name decoder).Fills depth (memberIf name (value.map toJson)) value := by
  cases value with
  | none => exact fills_missing
  | some v =>
      obtain ⟨hNull, hValue⟩ := h v rfl
      exact fills_field (Decoder.nullable_node hNull hValue)

theorem Fills.map {value : α} (h : fields.Fills depth members value) (f : α → β) :
    (f <$> fields).Fills depth members (f value) := by
  obtain ⟨found, reads, hFinish⟩ := h
  refine ⟨found, reads.map f, ?_⟩
  show (fields.finish found).map f = _
  rw [hFinish]
  rfl

/-- The next field reads the next members, which none of the fields before it takes up. -/
theorem Fills.seq {f : α → β} {value : α} (hFunction : functions.Fills depth members f)
    (hValue : fields.Fills depth more value)
    (hNames : ∀ member ∈ more, functions.take? member.1 = none) :
    (functions <*> fields).Fills depth (members ++ more) (f value) := by
  obtain ⟨left, readsLeft, hLeft⟩ := hFunction
  obtain ⟨right, readsRight, hRight⟩ := hValue
  have reads : (both functions fields).Reads depth (functions.start, fields.start) (members ++ more)
      (left, right) :=
    (readsLeft.both_left fields.start).append (readsRight.both_right left hNames)
  have hBoth : (both functions fields).finish (left, right) = .ok (f, value) := by
    show (functions.finish left >>= fun f => fields.finish right >>= fun value => pure (f, value)) = _
    rw [hLeft, ok_bind, hRight, ok_bind]
    rfl
  exact ⟨(left, right), reads.map _, congrArg (Except.map _) hBoth⟩

/-- Members that an open record keeps: canonical, and none of them a field. -/
structure IsExtra (fields : Fields α) (extra : Members) : Prop where
  canonical : (Json.object extra).Canonical
  unclaimed : ∀ member ∈ extra, fields.take? member.1 = none

theorem isExtra_nil (fields : Fields α) : fields.IsExtra [] :=
  ⟨canonical_empty, nofun⟩

/-- A canonical value under a name that is no field may be added to the members that are kept. -/
theorem IsExtra.set {extra : Members} {name : String} {value : Json} (h : fields.IsExtra extra)
    (hName : fields.take? name = none) (hValue : value.Canonical) :
    fields.IsExtra (NameMap.set name value extra) where
  canonical := h.canonical.set name hValue
  unclaimed member hMem := by
    rcases NameMap.eq_or_mem_of_mem_set hMem with rfl | hMem
    · exact hName
    · exact h.unclaimed member hMem

/-- What an open record does with a member that is no field. -/
def keep (others : Members) (name : String) (depth : Nat) (value : Node) :
    Except DecodeError Members :=
  (Node.value depth value).map fun value => NameMap.set name value others

/-- Members that are no fields are kept as they are. -/
theorem readMembers_extra {found : fields.Found} {others : Members}
    (hOther : ∀ member ∈ members, fields.take? member.1 = none)
    (hBack : ∀ member ∈ members, Node.value depth member.2.node = .ok member.2) :
    fields.readMembers keep depth found others (memberNodes members) =
      .ok (found, members.foldl (fun sorted (name, value) => NameMap.set name value sorted) others) := by
  induction members generalizing others with
  | nil => rfl
  | cons member rest ih =>
      obtain ⟨name, value⟩ := member
      obtain ⟨hFirst, hRest⟩ := List.forall_mem_cons.mp hOther
      obtain ⟨hValue, hBackRest⟩ := List.forall_mem_cons.mp hBack
      have hKeep : keep others name depth value.node = .ok (NameMap.set name value others) := by
        rw [keep, hValue]
        rfl
      rw [memberNodes, readMembers_other hFirst hKeep, ih hRest hBackRest, List.foldl_cons]

/-- An open record is read from its fields and what it keeps besides. -/
theorem extensible_node {fields : Fields (Members → α)} {f : Members → α} {extra : Members}
    (hFills : fields.Fills depth members f) (hExtra : fields.IsExtra extra)
    (hLegible : ∀ member ∈ extra, member.2.Legible depth) :
    fields.extensible (depth + 1) (Json.object (members ++ extra)).node = .ok (f extra) := by
  obtain ⟨found, reads, hFinish⟩ := hFills
  cases hExtra.canonical with
  | object hSorted hMembers =>
      have hBack : ∀ member ∈ extra, Node.value depth member.2.node = .ok member.2 :=
        fun member hMem => Node.value_node (hMembers member hMem) (hLegible member hMem)
      have hRead : fields.readMembers keep depth fields.start [] (memberNodes (members ++ extra)) =
          .ok (found, extra) := by
        rw [memberNodes_append, reads.readMembers, readMembers_extra hExtra.unclaimed hBack]
        exact congrArg (fun others => Except.ok (found, others)) (NameMap.ofList_of_sorted hSorted)
      show (fields.readMembers keep depth fields.start [] (memberNodes (members ++ extra)) >>= _) = _
      rw [hRead]
      show (fields.finish found >>= _) = _
      rw [hFinish]
      rfl

/-- What holds of the fields read so far, and makes what is read in the end have the property. -/
structure Invariant (fields : Fields α) (I : fields.Found → Prop) (P : α → Prop) : Prop where
  start : I fields.start
  takes : ∀ {depth found name node next}, I found → fields.Takes depth found name node next → I next
  finish : ∀ {found value}, I found → fields.finish found = .ok value → P value

/-- Whatever is read from members has the property. -/
def Ensures (fields : Fields α) (P : α → Prop) : Prop := ∃ I, fields.Invariant I P

theorem ensures_true (fields : Fields α) : fields.Ensures fun _ => True :=
  ⟨fun _ => True, ⟨trivial, fun _ _ => trivial, fun _ _ => trivial⟩⟩

theorem ensures_field {name : String} {decoder : Decoder α} {whenMissing whenShort : Option α}
    {P : α → Prop} (hDecoder : decoder.Ensures P) (hMissing : ∀ value ∈ whenMissing, P value) :
    (field name decoder whenMissing whenShort).Ensures P := by
  refine ⟨fun found : Option α => ∀ value, found = some value → P value, nofun, ?_, ?_⟩
  · intro depth found key node next hFound hTakes value hNext
    obtain ⟨-, -, decoded, hDecoded, hSome⟩ := takes_field_iff.mp hTakes
    obtain rfl : decoded = value := Option.some.inj (hSome.symm.trans hNext)
    exact hDecoder depth node decoded hDecoded
  · intro found value hFound hFinish
    cases found with
    | some read =>
        obtain rfl := Except.ok.inj hFinish
        exact hFound read rfl
    | none =>
        cases whenMissing with
        | none => cases hFinish
        | some missing =>
            obtain rfl := Except.ok.inj hFinish
            exact hMissing missing rfl

theorem Ensures.map {P : α → Prop} {Q : β → Prop} {f : α → β} (h : fields.Ensures P)
    (hf : ∀ value, P value → Q (f value)) : (f <$> fields).Ensures Q := by
  obtain ⟨I, hStart, hTakes, hFinish⟩ := h
  refine ⟨I, hStart, hTakes, fun {found value} hFound hValue => ?_⟩
  obtain ⟨read, hRead, rfl⟩ := map_eq_ok.mp hValue
  exact hf read (hFinish hFound hRead)

/-- What is ensured of the functions and of their arguments holds of the results. -/
theorem Ensures.seq {P : (α → β) → Prop} {Q : α → Prop} {R : β → Prop}
    (hFunctions : functions.Ensures P) (hFields : fields.Ensures Q)
    (hApply : ∀ f value, P f → Q value → R (f value)) : (functions <*> fields).Ensures R := by
  obtain ⟨I, hStart, hTakes, hFinish⟩ := hFunctions
  obtain ⟨J, hStart', hTakes', hFinish'⟩ := hFields
  refine ⟨fun found : functions.Found × fields.Found => I found.1 ∧ J found.2,
    ⟨hStart, hStart'⟩, ?_, ?_⟩
  · rintro depth found name node next ⟨hLeft, hRight⟩ takes
    rcases Takes.both_cases takes with ⟨left, takesLeft, rfl⟩ | ⟨right, takesRight, rfl⟩
    · exact ⟨hTakes hLeft takesLeft, hRight⟩
    · exact ⟨hLeft, hTakes' hRight takesRight⟩
  · rintro ⟨left, right⟩ value ⟨hLeft, hRight⟩ hValue
    obtain ⟨⟨f, argument⟩, hBoth, rfl⟩ := map_eq_ok.mp hValue
    obtain ⟨f', hf, hRest⟩ := bind_eq_ok.mp hBoth
    obtain ⟨argument', hArgument, hPair⟩ := bind_eq_ok.mp hRest
    obtain ⟨rfl, rfl⟩ := Prod.mk.inj (pure_eq_ok.mp hPair)
    exact hApply _ _ (hFinish hLeft hf) (hFinish' hRight hArgument)

/-- What is kept is canonical, and not the fields' own; what holds of the fields read so far goes on to
hold. -/
theorem readMembers_invariant {I : fields.Found → Prop} {P : α → Prop} (hI : fields.Invariant I P)
    {nodes : List (TextLiteral × Node)} {found last : fields.Found} {others kept : Members}
    (h : fields.readMembers keep depth found others nodes = .ok (last, kept)) (hFound : I found)
    (hOthers : fields.IsExtra others) : I last ∧ fields.IsExtra kept := by
  induction nodes generalizing found others with
  | nil =>
      obtain ⟨rfl, rfl⟩ := Prod.mk.inj (Except.ok.inj h)
      exact ⟨hFound, hOthers⟩
  | cons member rest ih =>
      obtain ⟨key, node⟩ := member
      obtain ⟨name, -, h⟩ := bind_eq_ok.mp h
      cases hTake : fields.take? name with
      | some begin =>
          simp only [hTake] at h
          obtain ⟨decoder, hBegin, h⟩ := bind_eq_ok.mp h
          obtain ⟨next, hNext, h⟩ := bind_eq_ok.mp h
          exact ih h (hI.takes hFound ⟨begin, decoder, hTake, hBegin, hNext⟩) hOthers
      | none =>
          simp only [hTake] at h
          obtain ⟨more, hMore, h⟩ := bind_eq_ok.mp h
          obtain ⟨value, hValue, rfl⟩ := map_eq_ok.mp hMore
          exact ih h hFound (hOthers.set hTake (Node.canonical_of_value hValue))

/-- What is kept besides the fields is canonical, and none of it a field. -/
theorem isExtra_of_readMembers {nodes : List (TextLiteral × Node)} {found last : fields.Found}
    {kept : Members} (h : fields.readMembers keep depth found [] nodes = .ok (last, kept)) :
    fields.IsExtra kept :=
  (readMembers_invariant (I := fun _ => True) (P := fun _ => True)
    ⟨trivial, fun _ _ => trivial, fun _ _ => trivial⟩ h trivial (isExtra_nil fields)).2

/-- An open record is its fields and the members kept besides. -/
theorem extensible_ensures {fields : Fields (Members → α)} {P : (Members → α) → Prop}
    (h : fields.Ensures P) :
    fields.extensible.Ensures fun value =>
      ∃ f extra, P f ∧ fields.IsExtra extra ∧ value = f extra := by
  obtain ⟨I, hI⟩ := h
  intro depth node value hValue
  cases node with
  | object nodes ending =>
      obtain ⟨inner, rfl, hValue⟩ := descend_eq_ok.mp hValue
      obtain ⟨⟨found, kept⟩, hRead, hValue⟩ := bind_eq_ok.mp hValue
      obtain ⟨-, -, hValue⟩ := bind_eq_ok.mp hValue
      obtain ⟨f, hFinish, hValue⟩ := bind_eq_ok.mp hValue
      obtain rfl := pure_eq_ok.mp hValue
      obtain ⟨hFound, hKept⟩ := readMembers_invariant hI hRead hI.start (isExtra_nil fields)
      exact ⟨f, kept, hI.finish hFound hFinish, hKept, rfl⟩
  | _ => cases hValue

end Fields

end Scrobbler.Json
