import Scrobbler.Proofs.Json.Restoration

/-!
Open records as free-form objects. What an open record is read from can also be read as a free-form
object, and the record is written as that object is, except that members of fields may be left out or
written differently. Of members that no field stands for, none is lost and none is changed.
-/

namespace Scrobbler.Json

/-- An object with some members left out, and others with another value. -/
def prune (keep : String → Json → Option Json) : Json → Json
  | .object members =>
      .object (members.filterMap fun (name, value) => (keep name value).map fun kept => (name, kept))
  | value => value

section Keep

variable {keep : String → Json → Option Json} {members : Members}

theorem mem_filterMap_iff {name : String} {kept : Json} :
    (name, kept) ∈ members.filterMap (fun (name, value) => (keep name value).map fun kept => (name, kept)) ↔
      ∃ value, (name, value) ∈ members ∧ keep name value = some kept := by
  simp only [List.mem_filterMap, Option.map_eq_some_iff, Prod.exists, Prod.mk.injEq]
  constructor
  · rintro ⟨_, value, hMem, _, hKeep, rfl, rfl⟩
    exact ⟨value, hMem, hKeep⟩
  · rintro ⟨value, hMem, hKeep⟩
    exact ⟨name, value, hMem, kept, hKeep, rfl, rfl⟩

/-- A pruned object is sorted as it was. -/
theorem sorted_filterMap (keep : String → Json → Option Json) (h : NameMap.Sorted members) :
    NameMap.Sorted
      (members.filterMap fun (name, value) => (keep name value).map fun kept => (name, kept)) := by
  refine List.Pairwise.filterMap _ (fun left right hLess first hFirst second hSecond => ?_) h
  obtain ⟨-, -, rfl⟩ := Option.map_eq_some_iff.mp hFirst
  obtain ⟨-, -, rfl⟩ := Option.map_eq_some_iff.mp hSecond
  exact hLess

end Keep

/-- Members are sorted inside of their values. -/
theorem sortedMembers_eq_map (members : List (String × Json)) :
    sortedMembers members = members.map fun member => (member.1, member.2.sorted) := by
  induction members with
  | nil => rfl
  | cons member rest ih => rw [sortedMembers, ih, List.map_cons]

theorem sortedItems_eq_map (items : List Json) : sortedItems items = items.map sorted := by
  induction items with
  | nil => rfl
  | cons item rest ih => rw [sortedItems, ih, List.map_cons]

theorem sortedMembers_eq_self {members : List (String × Json)}
    (h : ∀ member ∈ members, member.2.sorted = member.2) : sortedMembers members = members := by
  rw [sortedMembers_eq_map,
    List.map_congr_left fun member hMem => congrArg (Prod.mk member.1) (h member hMem), List.map_id']

/-- The members of a canonical value are sorted already. -/
theorem Canonical.sorted_eq {value : Json} (h : value.Canonical) : value.sorted = value := by
  induction h with
  | array hItems ih => rw [sorted, sortedItems_eq_map, List.map_congr_left ih, List.map_id']
  | object hSorted hMembers ih =>
      rw [sorted, sortedMembers_eq_self ih, NameMap.ofList_of_sorted hSorted]
  | _ => rfl

namespace Node

variable {depth : Nat} {members : List (String × Json)} {value : Json}

/-- A canonical value is read back from its tree with sorted members. -/
theorem value_node_of_canonical (hCanonical : value.Canonical) (hLegible : value.Legible depth) :
    Node.value depth value.node = .ok value.sorted := by
  rw [hCanonical.sorted_eq]
  exact value_node hCanonical hLegible

theorem members_memberNodes_sorted
    (h : ∀ member ∈ members, Node.value depth member.2.node = .ok member.2.sorted) :
    Node.members depth (memberNodes members) = .ok (sortedMembers members) := by
  induction members with
  | nil => rfl
  | cons member rest ih =>
      obtain ⟨name, value⟩ := member
      obtain ⟨hFirst, hRest⟩ := List.forall_mem_cons.mp h
      rw [memberNodes, Node.members, TextLiteral.text_ofString, ok_bind, hFirst, ok_bind, ih hRest, ok_bind]
      rfl

/-- An object that was written is read sorted when the values of its members are. -/
theorem value_object_node
    (h : ∀ member ∈ members, Node.value depth member.2.node = .ok member.2.sorted) :
    Node.value (depth + 1) (Json.object members).node = .ok (Json.object members).sorted := by
  rw [node, Node.value, descend, members_memberNodes_sorted h]
  rfl

end Node

/-- An object that passes its check is closed. -/
theorem ObjectEnd.eq_closed_of_check {seen : String → Except DecodeError Unit} {ending : ObjectEnd}
    (h : ending.check seen = .ok ()) : ending = .closed := by
  cases ending with
  | closed => rfl
  | colonMissing key atEnd =>
      obtain ⟨name, -, h⟩ := bind_eq_ok.mp h
      obtain ⟨-, -, hFault⟩ := bind_eq_ok.mp h
      cases hFault
  | _ => cases h

section Values

variable {depth : Nat} {nodes : List (TextLiteral × Node)} {members : List (String × Node)}
  {values all : List (String × Json)}

/-- The members of an object are those of its named parts with their values. -/
theorem members_of_valued (hNamed : Named nodes members) (hValued : Valued depth members all) :
    Node.members depth nodes = .ok all := by
  induction hNamed generalizing all with
  | nil =>
      cases hValued
      rfl
  | @cons node member nodes members hMember hRest ih =>
      obtain ⟨key, inner⟩ := node
      obtain ⟨hKey, rfl⟩ := hMember
      cases hValued with
      | @cons _ value _ values hValue hValues =>
          obtain ⟨hName, hValue⟩ := hValue
          rw [Node.members, hKey, ok_bind, hValue, ok_bind, ih hValues, ok_bind, hName]
          rfl

/-- A member has a value exactly if that is read from its tree. -/
theorem mem_valued_iff (hValued : Valued depth members all) {name : String} {value : Json} :
    (name, value) ∈ all ↔ ∃ node, (name, node) ∈ members ∧ Node.value depth node = .ok value := by
  induction hValued with
  | nil => simp
  | @cons member first members all hFirst hRest ih =>
      obtain ⟨key, node⟩ := member
      obtain ⟨key', value'⟩ := first
      obtain ⟨rfl, hValue⟩ := hFirst
      constructor
      · intro hMem
        rcases List.mem_cons.mp hMem with hSame | hMem
        · obtain ⟨rfl, rfl⟩ := Prod.mk.inj hSame
          exact ⟨node, List.mem_cons_self, hValue⟩
        · obtain ⟨other, hOther, hOtherValue⟩ := ih.mp hMem
          exact ⟨other, List.mem_cons_of_mem _ hOther, hOtherValue⟩
      · rintro ⟨other, hOther, hOtherValue⟩
        rcases List.mem_cons.mp hOther with hSame | hOther
        · obtain ⟨rfl, rfl⟩ := Prod.mk.inj hSame
          obtain rfl := Except.ok.inj (hValue.symm.trans hOtherValue)
          exact List.mem_cons_self
        · exact List.mem_cons_of_mem _ (ih.mpr ⟨other, hOther, hOtherValue⟩)

theorem Valued.exists_value (hValued : Valued depth members all) {member : String × Node}
    (hMem : member ∈ members) : ∃ value, Node.value depth member.2 = .ok value := by
  induction hValued with
  | nil => cases hMem
  | @cons first value members all hFirst hRest ih =>
      rcases List.mem_cons.mp hMem with rfl | hMem
      · exact ⟨value.2, hFirst.2⟩
      · exact ih hMem

/-- The values of members with certain names are among the values of all members. -/
theorem Valued.eq_filter {p : String → Bool}
    (hValued : Valued depth (members.filter fun member => p member.1) values)
    (hAll : Valued depth members all) : values = all.filter fun member => p member.1 := by
  induction hAll generalizing values with
  | nil =>
      cases hValued
      rfl
  | @cons member first members all hFirst hRest ih =>
      obtain ⟨key, node⟩ := member
      obtain ⟨key', value⟩ := first
      obtain ⟨rfl, hValue⟩ := hFirst
      by_cases hName : p key = true
      · simp only [List.filter_cons, hName, if_true] at hValued ⊢
        cases hValued with
        | @cons _ other _ others hOther hOthers =>
            obtain ⟨hKey, hOther⟩ := hOther
            obtain rfl := Except.ok.inj (hValue.symm.trans hOther)
            rw [← ih hOthers]
            exact congrArg (· :: others) (Prod.ext hKey.symm rfl)
      · simp only [List.filter_cons, hName] at hValued ⊢
        exact ih hValued

end Values

/-- What is written for certain names: each of them occurs once at most, and what is kept of its value is
written. -/
structure Accounted (claimed : String → Prop) (keep : String → Json → Option Json)
    (all written : List (String × Json)) : Prop where
  unique : ∀ name value other, claimed name → (name, value) ∈ all → (name, other) ∈ all → value = other
  mem_iff : ∀ name kept, (name, kept) ∈ sortedMembers written ↔
    ∃ value, (name, value) ∈ all ∧ claimed name ∧ keep name value = some kept

section Accounted

variable {key : String} {keep : String → Json → Option Json} {all written : List (String × Json)}

/-- A name that occurs once is accounted for by what is kept of its value. -/
theorem accounted_of_only {found : Json} (hOnly : ∀ other, (key, other) ∈ all ↔ other = found)
    (hNames : ∀ member ∈ written, member.1 = key)
    (hKept : ∀ kept, (key, kept) ∈ sortedMembers written ↔ keep key found = some kept) :
    Accounted (· = key) keep all written where
  unique := by
    rintro _ value other rfl hValue hOther
    exact ((hOnly value).mp hValue).trans ((hOnly other).mp hOther).symm
  mem_iff name kept := by
    constructor
    · intro hMem
      obtain rfl : name = key := by
        rw [sortedMembers_eq_map] at hMem
        obtain ⟨member, hMember, hSame⟩ := List.mem_map.mp hMem
        exact (congrArg Prod.fst hSame).symm.trans (hNames member hMember)
      exact ⟨found, (hOnly found).mpr rfl, rfl, (hKept kept).mp hMem⟩
    · rintro ⟨other, hOther, rfl, hKeep⟩
      obtain rfl := (hOnly other).mp hOther
      exact (hKept kept).mpr hKeep

theorem accounted_of_absent (hAbsent : ∀ other, (key, other) ∉ all) :
    Accounted (· = key) keep all [] where
  unique := by
    rintro _ value other rfl hValue -
    exact absurd hValue (hAbsent value)
  mem_iff name kept := by
    refine ⟨(nomatch ·), ?_⟩
    rintro ⟨other, hOther, rfl, -⟩
    exact absurd hOther (hAbsent other)

end Accounted

namespace Fields

variable {α β : Type} {fields : Fields α} {functions : Fields (α → β)} {layout : Layout α}
  {keep : String → Json → Option Json} {depth : Nat} {members : List (String × Node)}

/-- A name is that of a field. -/
def Claims (fields : Fields α) (name : String) : Prop := fields.take? name ≠ none

/-- A name is that of a field of a sequence if it is one on either side. -/
theorem claims_seq_iff {name : String} :
    (functions <*> fields).Claims name ↔ functions.Claims name ∨ fields.Claims name := by
  simp only [Claims, ne_eq, take?_seq_eq_none, not_and_or]

/-- Members that the fields take up have values, and what is kept of these is what is written. -/
structure Accounts (fields : Fields α) (keep : String → Json → Option Json) (layout : Layout α)
    (depth : Nat) : Prop where
  value_of_takes : ∀ found name node next, fields.Takes depth found name node next →
    ∃ value, Node.value depth node = .ok value
  accounted : ∀ members all value, fields.Yields depth members value → Valued depth members all →
    ∃ written, layout value written ∧ Accounted fields.Claims keep all written

/-- Mapping a record does not change what is written for its members. -/
theorem Accounts.map (h : fields.Accounts keep layout depth) (f : α → β) :
    (f <$> fields).Accounts keep (layout.map f) depth where
  value_of_takes := h.value_of_takes
  accounted members all value hYields hAll := by
    obtain ⟨read, hRead, rfl⟩ := hYields.of_map
    obtain ⟨written, hLayout, hAccounted⟩ := h.accounted members all read hRead hAll
    exact ⟨written, ⟨read, hLayout, rfl⟩, hAccounted⟩

/-- Fields with names of their own account for their own members, side by side. -/
theorem Accounts.seq {before : Layout (α → β)} (hFunctions : functions.Accounts keep before depth)
    (hFields : fields.Accounts keep layout depth) (hApart : functions.Apart fields) :
    (functions <*> fields).Accounts keep (before.seq layout) depth where
  value_of_takes found name node next takes := by
    rcases Takes.both_cases takes with ⟨left, takesLeft, -⟩ | ⟨right, takesRight, -⟩
    · exact hFunctions.value_of_takes _ name node left takesLeft
    · exact hFields.value_of_takes _ name node right takesRight
  accounted members all value hYields hAll := by
    obtain ⟨f, read, hf, hRead, rfl⟩ := hYields.of_seq hApart
    obtain ⟨first, hFirst, hUniqueFirst, hMemFirst⟩ := hFunctions.accounted members all f hf hAll
    obtain ⟨second, hSecond, hUniqueSecond, hMemSecond⟩ :=
      hFields.accounted members all read hRead hAll
    refine ⟨first ++ second, ⟨f, read, first, second, hFirst, hSecond, rfl, rfl⟩, ?_, ?_⟩
    · intro name value other hClaims hValue hOther
      rcases claims_seq_iff.mp hClaims with hClaims | hClaims
      · exact hUniqueFirst name value other hClaims hValue hOther
      · exact hUniqueSecond name value other hClaims hValue hOther
    · intro name kept
      rw [sortedMembers_eq_map, List.map_append, List.mem_append, ← sortedMembers_eq_map,
        ← sortedMembers_eq_map, hMemFirst, hMemSecond, ← exists_or]
      simp only [claims_seq_iff, or_and_right, and_or_left]

/-- A field claims its own name and no other. -/
theorem claims_field {key : String} {decoder : Decoder α} {whenMissing whenShort : Option α} :
    (field key decoder whenMissing whenShort).Claims = (· = key) := by
  funext name
  simp only [Claims, ne_eq, take?_field_eq_none, not_not]

/-- A field is accounted for when all that it reads is written as it is kept, and nothing is written for
a default. -/
theorem accounts_field {key : String} {decoder : Decoder α} {whenMissing whenShort : Option α}
    {write : α → List (String × Json)} (hNames : ∀ value, ∀ member ∈ write value, member.1 = key)
    (hRead : ∀ node value, decoder depth node = .ok value → ∃ found, Node.value depth node = .ok found ∧
      ∀ kept, (key, kept) ∈ sortedMembers (write value) ↔ keep key found = some kept)
    (hMissing : ∀ value, whenMissing = some value → write value = []) :
    (field key decoder whenMissing whenShort).Accounts keep (.of write) depth where
  value_of_takes found name node next takes := by
    obtain ⟨-, -, value, hValue, -⟩ := takes_field_iff.mp takes
    obtain ⟨found, hFound, -⟩ := hRead node value hValue
    exact ⟨found, hFound⟩
  accounted members all value hYields hAll := by
    refine ⟨write value, rfl, ?_⟩
    rw [claims_field]
    rcases hYields.of_field with ⟨before, node, after, rfl, hOthers, hValue⟩ | ⟨hNone, hDefault⟩
    · obtain ⟨found, hFound, hKept⟩ := hRead node value hValue
      refine accounted_of_only (fun other => ?_) (hNames value) hKept
      rw [mem_valued_iff hAll]
      constructor
      · rintro ⟨inner, hInner, hOther⟩
        rcases List.mem_append.mp hInner with hMem | hMem
        · exact absurd rfl (hOthers _ (List.mem_append_left _ hMem))
        · rcases List.mem_cons.mp hMem with hSame | hMem
          · obtain ⟨-, rfl⟩ := Prod.mk.inj hSame
            exact (Except.ok.inj (hFound.symm.trans hOther)).symm
          · exact absurd rfl (hOthers _ (List.mem_append_right _ hMem))
      · rintro rfl
        exact ⟨node, List.mem_append_right _ List.mem_cons_self, hFound⟩
    · rw [hMissing value hDefault]
      refine accounted_of_absent fun other hOther => ?_
      obtain ⟨inner, hInner, -⟩ := (mem_valued_iff hAll).mp hOther
      exact hNone _ hInner rfl

/-- All members that fields go through have values, when those have that the fields take up and those
that they pass over. -/
theorem Traverses.exists_valued {found last : fields.Found}
    (h : fields.Traverses depth found members last)
    (hTaken : ∀ found name node next, fields.Takes depth found name node next →
      ∃ value, Node.value depth node = .ok value)
    (hPassed : ∀ member ∈ members, fields.take? member.1 = none →
      ∃ value, Node.value depth member.2 = .ok value) :
    ∃ all, Valued depth members all := by
  induction h with
  | nil found => exact ⟨[], .nil⟩
  | @taken name node rest found next last takes more ih =>
      obtain ⟨value, hValue⟩ := hTaken found name node next takes
      obtain ⟨all, hAll⟩ := ih fun member hMem => hPassed member (List.mem_cons_of_mem _ hMem)
      exact ⟨(name, value) :: all, .cons ⟨rfl, hValue⟩ hAll⟩
  | @passed name node rest found last hOther more ih =>
      obtain ⟨value, hValue⟩ := hPassed (name, node) List.mem_cons_self hOther
      obtain ⟨all, hAll⟩ := ih fun member hMem => hPassed member (List.mem_cons_of_mem _ hMem)
      exact ⟨(name, value) :: all, .cons ⟨rfl, hValue⟩ hAll⟩

variable {all written : List (String × Json)} {extra : Members}

/-- What is written of a record is the object that it was read from, as it is kept: members of fields by
their account, and other members because each of them is kept as it is. -/
theorem mem_written_iff (hAccounted : Accounted fields.Claims keep all written)
    (hExtra : fields.IsExtra extra)
    (hFilter : extra = NameMap.ofList (all.filter fun member => (fields.take? member.1).isNone))
    (hOther : ∀ name value, fields.take? name = none → keep name value = some value)
    (name : String) (kept : Json) :
    (name, kept) ∈ NameMap.ofList (sortedMembers (written ++ extra)) ↔
      ∃ value, (name, value) ∈ NameMap.ofList all ∧ keep name value = some kept := by
  obtain ⟨hCanonical, hUnclaimed⟩ := hExtra
  cases hCanonical with
  | object hSorted hMembers =>
      have hSplit : sortedMembers (written ++ extra) = sortedMembers written ++ extra := by
        rw [sortedMembers_eq_map, List.map_append, ← sortedMembers_eq_map, ← sortedMembers_eq_map,
          sortedMembers_eq_self fun member hMem => (hMembers member hMem).sorted_eq]
      rw [hSplit]
      cases hTake : fields.take? name with
      | some begin =>
          have hClaims : fields.Claims name := by simp [Claims, hTake]
          have hWritten : ∀ value, (name, value) ∈ sortedMembers written ++ extra ↔
              (name, value) ∈ sortedMembers written := by
            intro value
            refine ⟨fun hMem => ?_, List.mem_append_left extra⟩
            rcases List.mem_append.mp hMem with hMem | hMem
            · exact hMem
            · exact absurd (hUnclaimed _ hMem) hClaims
          have hUnique := fun value other => hAccounted.unique name value other hClaims
          rw [NameMap.mem_ofList_iff_of_unique, hWritten, hAccounted.mem_iff]
          · simp only [NameMap.mem_ofList_iff_of_unique hUnique, hClaims, true_and]
          · intro value other hValue hOther
            obtain ⟨read, hRead, -, hKept⟩ := (hAccounted.mem_iff name value).mp ((hWritten value).mp hValue)
            obtain ⟨read', hRead', -, hKept'⟩ := (hAccounted.mem_iff name other).mp ((hWritten other).mp hOther)
            obtain rfl := hUnique read read' hRead hRead'
            exact Option.some.inj (hKept.symm.trans hKept')
      | none =>
          have hWritten : ∀ value, (name, value) ∈ sortedMembers written ++ extra ↔
              (name, value) ∈ extra := by
            intro value
            refine ⟨fun hMem => ?_, List.mem_append_right _⟩
            rcases List.mem_append.mp hMem with hMem | hMem
            · obtain ⟨-, -, hClaims, -⟩ := (hAccounted.mem_iff name value).mp hMem
              exact absurd hTake hClaims
            · exact hMem
          rw [NameMap.mem_ofList_iff_of_unique, hWritten]
          · simp only [hOther name _ hTake, Option.some.injEq, exists_eq_right]
            rw [hFilter, NameMap.mem_ofList_filter (p := fun name => (fields.take? name).isNone), hTake]
            exact and_iff_left rfl
          · intro value other hValue hOther
            exact NameMap.value_unique_of_sorted hSorted ((hWritten value).mp hValue)
              ((hWritten other).mp hOther)

/-- An open record is written as the object that it was read from, as it is kept. -/
theorem extensible_eq_prune {fields : Fields (Members → α)} {layout : Layout (Members → α)}
    {toJson : α → Json} {node : Node} {value : α}
    (h : ∀ inner, fields.Accounts keep layout inner)
    (hLayout : ∀ f written, layout f written → ∀ extra, toJson (f extra) = .object (written ++ extra))
    (hOther : ∀ name value, fields.take? name = none → keep name value = some value)
    (hValue : fields.extensible depth node = .ok value) :
    ∃ found, Node.value depth node = .ok found ∧ (toJson value).sorted = prune keep found := by
  cases node with
  | object nodes ending =>
      obtain ⟨inner, rfl, hValue⟩ := descend_eq_ok.mp hValue
      obtain ⟨⟨found, extra⟩, hRead, hValue⟩ := bind_eq_ok.mp hValue
      obtain ⟨_, hEnd, hValue⟩ := bind_eq_ok.mp hValue
      obtain ⟨f, hFinish, hValue⟩ := bind_eq_ok.mp hValue
      obtain rfl := pure_eq_ok.mp hValue
      obtain rfl := ObjectEnd.eq_closed_of_check hEnd
      obtain ⟨members, values, hNamed, hTraverses, hValued, hExtra⟩ :=
        traverses_of_readMembers_keep hRead
      obtain ⟨all, hAll⟩ : ∃ all, Valued inner members all :=
        hTraverses.exists_valued (h inner).value_of_takes fun member hMem hTake =>
          hValued.exists_value (List.mem_filter.mpr ⟨hMem, Option.isNone_iff_eq_none.mpr hTake⟩)
      have hFilter : extra = NameMap.ofList (all.filter fun member => (fields.take? member.1).isNone) := by
        rw [← hValued.eq_filter (p := fun name => (fields.take? name).isNone) hAll]
        exact hExtra
      obtain ⟨written, hWritten, hAccounted⟩ :=
        (h inner).accounted members all f ⟨found, hTraverses, hFinish⟩ hAll
      refine ⟨.object (NameMap.ofList all), ?_, ?_⟩
      · rw [Node.value, descend, members_of_valued hNamed hAll]
        rfl
      · rw [hLayout f written hWritten extra, sorted, prune]
        refine congrArg Json.object (NameMap.eq_of_mem_iff (NameMap.sorted_ofList _) ?_ ?_)
        · exact sorted_filterMap keep (NameMap.sorted_ofList all)
        · rintro ⟨name, kept⟩
          rw [mem_written_iff hAccounted (isExtra_of_readMembers hRead) hFilter hOther, mem_filterMap_iff]
  | _ => cases hValue

end Fields

end Scrobbler.Json
