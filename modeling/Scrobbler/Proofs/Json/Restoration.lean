import Scrobbler.Proofs.Json.Traversal
import Scrobbler.Proofs.Json.WholeNumbers

/-!
Decoding what was decoded and written. A decoder restores its values when each value that it yields
from a tree of whole numbers comes back, at the same depth, from the written form of that value. The
fields of a record restore what they read from the members that it is written as, in whichever way the
record was given: as an object, with its members in any order, or as an array.
-/

namespace Scrobbler.Json

theorem legible_null (depth : Nat) : Json.null.Legible depth := ⟨rfl, Nat.zero_le _⟩

theorem legible_bool (depth : Nat) (b : Bool) : (Json.bool b).Legible depth := ⟨rfl, Nat.zero_le _⟩

theorem legible_text (depth : Nat) (s : String) : (Json.text s).Legible depth := ⟨rfl, Nat.zero_le _⟩

theorem legible_ofInt (depth : Nat) (n : Int) : (ofInt n).Legible depth := ⟨rfl, Nat.zero_le _⟩

namespace Decoder

variable {α β : Type} {decoder : Decoder α} {toJson : α → Json} {depth : Nat}

/-- A value comes back from a written form that is legible. -/
structure Returns (decoder : Decoder α) (depth : Nat) (written : Json) (value : α) : Prop where
  legible : written.Legible depth
  back : decoder depth written.node = .ok value

/-- Whatever the decoder yields from a tree of whole numbers comes back from its written form. -/
def Restores (decoder : Decoder α) (toJson : α → Json) (depth : Nat) : Prop :=
  ∀ node value, node.Whole → decoder depth node = .ok value → decoder.Returns depth (toJson value) value

theorem any_restores : any.Restores id depth := by
  intro node value hWhole hValue
  have hLegible := Node.legible_of_value hWhole hValue
  exact ⟨hLegible, Node.value_node (Node.canonical_of_value hValue) hLegible⟩

theorem bool_restores : bool.Restores .bool depth := fun _ b _ _ => ⟨legible_bool depth b, rfl⟩

theorem text_restores : text.Restores .text depth := fun _ s _ _ => ⟨legible_text depth s, rfl⟩

theorem integer_node {limits : Int × Int} {n : Int} (hFits : Word.fits limits n = true)
    (hWhole : Word.fits wholeLimits n = true) : integer limits depth (ofInt n).node = .ok n := by
  have hNumber : number depth (ofInt n).node = .ok (.integer n) := by
    show orFault (Numeral.ofInt n).value = _
    rw [Numeral.value_ofInt hWhole]
    rfl
  rw [integer, hNumber]
  simp only [hFits, if_true]

/-- A number that is decoded lies within the limits. -/
theorem fits_of_integer {limits : Int × Int} {node : Node} {n : Int}
    (h : integer limits depth node = .ok n) : Word.fits limits n = true := by
  unfold integer at h
  split at h
  · cases h
  · cases h
  · split at h
    · next hFits =>
        obtain rfl := Except.ok.inj h
        exact hFits
    · cases h

/-- Numbers of a type are restored when each number within its limits is the number of a value. -/
theorem integer_restores {limits : Int × Int} {ofNumber : Int → α} (toNumber : α → Int)
    (hLimits : ∀ n, Word.fits limits n = true → Word.fits wholeLimits n = true)
    (hNumber : ∀ n, Word.fits limits n = true → toNumber (ofNumber n) = n) :
    (Decoder.map ofNumber (integer limits)).Restores (fun value => ofInt (toNumber value)) depth := by
  intro node value hWhole hValue
  obtain ⟨n, hInteger, rfl⟩ := map_eq_ok.mp hValue
  have hFits := fits_of_integer hInteger
  refine ⟨legible_ofInt depth _, ?_⟩
  show (integer limits depth (ofInt (toNumber (ofNumber n))).node).map ofNumber = _
  rw [hNumber n hFits, integer_node hFits (hLimits n hFits)]
  rfl

/-- Words without a sign, of up to 64 bits, are read without loss. -/
theorem fits_wholeLimits_of_unsigned (bits : Nat) (hBits : bits ≤ 64) (n : Int)
    (h : Word.fits (Word.unsigned bits) n = true) : Word.fits wholeLimits n = true := by
  obtain ⟨hLow, hHigh⟩ : (0 : Int) ≤ n ∧ n ≤ (twoTo bits : Int) - 1 := Word.fits_iff.mp h
  have hTop : (twoTo bits : Int) ≤ twoTo 64 := by
    exact_mod_cast Nat.pow_le_pow_right (by decide : 0 < 2) hBits
  have hBottom : (0 : Int) ≤ twoTo 63 := Int.natCast_nonneg _
  exact Word.fits_iff.mpr (show -(twoTo 63 : Int) ≤ n ∧ n ≤ twoTo 64 - 1 by omega)

/-- Words with a sign, of up to 64 bits, are read without loss. -/
theorem fits_wholeLimits_of_signed (bits : Nat) (hBits : bits ≤ 64) (n : Int)
    (h : Word.fits (Word.signed bits) n = true) : Word.fits wholeLimits n = true := by
  obtain ⟨hLow, hHigh⟩ : -(twoTo (bits - 1) : Int) ≤ n ∧ n ≤ (twoTo (bits - 1) : Int) - 1 :=
    Word.fits_iff.mp h
  have hTop : (twoTo (bits - 1) : Int) ≤ twoTo 63 := by
    exact_mod_cast Nat.pow_le_pow_right (by decide : 0 < 2) (by omega)
  have hBound : (twoTo 63 : Int) ≤ twoTo 64 := by decide
  exact Word.fits_iff.mpr (show -(twoTo 63 : Int) ≤ n ∧ n ≤ twoTo 64 - 1 by omega)

/-- A word with a sign comes back from what is written. -/
theorem int64_restores : int64.Restores ofInt64 depth := by
  refine integer_restores Int64.toInt (fits_wholeLimits_of_signed 64 (Nat.le_refl 64)) fun n hFits => ?_
  obtain ⟨hLow, hHigh⟩ : -(2 ^ 63 : Int) ≤ n ∧ n ≤ 2 ^ 63 - 1 := Word.fits_iff.mp hFits
  exact Int64.toInt_ofInt_of_le hLow (by omega)

theorem toNat_of_fits_unsigned {bits : Nat} {n : Int} (h : Word.fits (Word.unsigned bits) n = true) :
    n.toNat < twoTo bits ∧ (n.toNat : Int) = n := by
  obtain ⟨hLow, hHigh⟩ : (0 : Int) ≤ n ∧ n ≤ (twoTo bits : Int) - 1 := Word.fits_iff.mp h
  exact ⟨by omega, Int.toNat_of_nonneg hLow⟩

theorem uint64_restores : uint64.Restores ofUInt64 depth := by
  refine integer_restores (fun n : UInt64 => (n.toNat : Int))
    (fits_wholeLimits_of_unsigned 64 (Nat.le_refl 64)) fun n hFits => ?_
  obtain ⟨hBound, hSame⟩ := toNat_of_fits_unsigned hFits
  rw [UInt64.toNat_ofNat_of_lt' hBound, hSame]

theorem uint16_restores : uint16.Restores (fun n => ofNat n.toNat) depth := by
  refine integer_restores (fun n : UInt16 => (n.toNat : Int))
    (fits_wholeLimits_of_unsigned 16 (by decide)) fun n hFits => ?_
  obtain ⟨hBound, hSame⟩ := toNat_of_fits_unsigned hFits
  rw [UInt16.toNat_ofNat_of_lt' hBound, hSame]

theorem uint8_restores : uint8.Restores (fun n => ofNat n.toNat) depth := by
  refine integer_restores (fun n : UInt8 => (n.toNat : Int))
    (fits_wholeLimits_of_unsigned 8 (by decide)) fun n hFits => ?_
  obtain ⟨hBound, hSame⟩ := toNat_of_fits_unsigned hFits
  rw [UInt8.toNat_ofNat_of_lt' hBound, hSame]

/-- A decoder of variants restores them when each of them is found by the name that it is written as. -/
theorem variant_restores {variants : List (String × α)} {name : α → String}
    (h : ∀ value, variants.lookup (name value) = some value) :
    (variant variants).Restores (fun value => .text (name value)) depth := by
  intro node value hWhole hValue
  refine ⟨legible_text depth _, ?_⟩
  show variantNamed variants (name value) = _
  rw [variantNamed, h value]

theorem value_of_object {node : Node} {members : Members} (h : object depth node = .ok members) :
    Node.value depth node = .ok (.object members) := by
  obtain ⟨entries, hEntries, rfl⟩ := map_eq_ok.mp h
  cases node with
  | object nodes ending =>
      simp only [entriesOf, entries_any, descend_eq_ok, bind_eq_ok, pure_eq_ok] at hEntries
      obtain ⟨inner, rfl, values, hValues, _, hEnding, rfl⟩ := hEntries
      rw [Node.value, descend, hValues, ok_bind, hEnding, ok_bind]
      rfl
  | _ => cases hEntries

/-- An object is read as a value by reading its members, of which those count that are the last of their
names. -/
theorem value_eq_object_iff {depth : Nat} {node : Node} {members : Members} :
    Node.value depth node = .ok (.object members) ↔
      ∃ entries, entriesOf any depth node = .ok entries ∧ NameMap.ofList entries = members := by
  constructor
  · intro h
    cases node with
    | object nodes ending =>
        simp only [Node.value, descend_eq_ok, bind_eq_ok, pure_eq_ok, Json.object.injEq] at h
        obtain ⟨inner, rfl, entries, hEntries, _, hEnding, rfl⟩ := h
        refine ⟨entries, ?_, rfl⟩
        simp only [entriesOf, entries_any, descend_eq_ok, bind_eq_ok, pure_eq_ok]
        exact ⟨inner, rfl, entries, hEntries, _, hEnding, rfl⟩
    | array items ending =>
        simp only [Node.value, descend_eq_ok, bind_eq_ok, pure_eq_ok] at h
        obtain ⟨inner, -, items, -, _, -, hArray⟩ := h
        cases hArray
    | number numeral => simp [Node.value, map_eq_ok] at h
    | text literal => simp [Node.value, map_eq_ok] at h
    | null => cases h
    | bool b => cases h
    | broken fault named => cases h
  · intro h
    exact value_of_object (map_eq_ok.mpr h)

/-- An object comes back from what is written: its members are sorted as soon as they are read. -/
theorem object_restores : object.Restores .object depth := by
  intro node members hWhole hMembers
  have hValue := value_of_object hMembers
  have hLegible := Node.legible_of_value hWhole hValue
  exact ⟨hLegible, object_node (Node.canonical_of_value hValue) hLegible⟩

/-- The items of a list come back one by one. -/
theorem items_restores (h : decoder.Restores toJson depth) {nodes : List Node} {values : List α}
    (hWhole : ∀ node ∈ nodes, node.Whole) (hValues : items decoder depth nodes = .ok values) :
    ∀ value ∈ values, decoder.Returns depth (toJson value) value := by
  induction nodes generalizing values with
  | nil =>
      obtain rfl := Except.ok.inj hValues
      exact List.forall_mem_nil _
  | cons node rest ih =>
      obtain ⟨hNode, hRest⟩ := List.forall_mem_cons.mp hWhole
      obtain ⟨first, hFirst, hValues⟩ := bind_eq_ok.mp hValues
      obtain ⟨others, hOthers, hAll⟩ := bind_eq_ok.mp hValues
      obtain rfl := pure_eq_ok.mp hAll
      exact List.forall_mem_cons.mpr ⟨h node first hNode hFirst, ih hRest hOthers⟩

/-- A list comes back if its items do. -/
theorem list_restores (h : ∀ inner, decoder.Restores toJson inner) :
    (list decoder).Restores (fun values => .array (values.map toJson)) depth := by
  intro node values hWhole hValues
  cases hWhole with
  | array hItems ending =>
      obtain ⟨inner, rfl, hValues⟩ := descend_eq_ok.mp hValues
      obtain ⟨read, hRead, hValues⟩ := bind_eq_ok.mp hValues
      obtain ⟨-, -, hValues⟩ := bind_eq_ok.mp hValues
      obtain rfl := pure_eq_ok.mp hValues
      have hReturns := items_restores (h inner) hItems hRead
      refine ⟨legible_array_iff.mpr ⟨inner, rfl, fun item hMem => ?_⟩,
        list_node fun value hMem => (hReturns value hMem).back⟩
      obtain ⟨value, hValue, rfl⟩ := List.mem_map.mp hMem
      exact (hReturns value hValue).legible
  | _ => cases hValues

/-- What is optional is restored when only `null` is decoded as what is written as `null`. -/
theorem nullable_restores (h : decoder.Restores toJson depth)
    (hNull : ∀ node value, decoder depth node = .ok value → toJson value = .null → node = .null) :
    (nullable decoder).Restores (ofOption toJson) depth := by
  intro node value hWhole hValue
  unfold nullable at hValue
  split at hValue
  · obtain rfl := Except.ok.inj hValue
    exact ⟨legible_null depth, rfl⟩
  · next hOther =>
      obtain ⟨read, hRead, rfl⟩ := map_eq_ok.mp hValue
      obtain ⟨hWritten, hBack⟩ := h node read hWhole hRead
      exact ⟨hWritten, nullable_node (fun hSame => hOther (hNull node read hRead hSame)) hBack⟩

end Decoder

/-- The members that values are written as. -/
abbrev Layout (α : Type) := α → List (String × Json) → Prop

namespace Layout

variable {α β : Type}

/-- Each value is written as certain members. -/
def of (write : α → List (String × Json)) : Layout α := fun value members => members = write value

def map (f : α → β) (layout : Layout α) : Layout β := fun value members =>
  ∃ read, layout read members ∧ f read = value

/-- The members of a function, and then those of its argument. -/
def seq (layout : Layout (α → β)) (next : Layout α) : Layout β := fun value members =>
  ∃ f read before after, layout f before ∧ next read after ∧ f read = value ∧ before ++ after = members

variable {P : β → List (String × Json) → Prop}

@[simp]
theorem forall_of {write : β → List (String × Json)} :
    (∀ value members, of write value members → P value members) ↔ ∀ value, P value (write value) :=
  ⟨fun h value => h value _ rfl, fun h value _ hMembers => hMembers ▸ h value⟩

@[simp]
theorem forall_map {f : α → β} {layout : Layout α} :
    (∀ value members, layout.map f value members → P value members) ↔
      ∀ read members, layout read members → P (f read) members := by
  constructor
  · exact fun h read members hLayout => h (f read) members ⟨read, hLayout, rfl⟩
  · rintro h _ members ⟨read, hLayout, rfl⟩
    exact h read members hLayout

@[simp]
theorem forall_seq {layout : Layout (α → β)} {next : Layout α} :
    (∀ value members, layout.seq next value members → P value members) ↔
      ∀ f before, layout f before → ∀ read after, next read after → P (f read) (before ++ after) := by
  constructor
  · exact fun h f before hLayout read after hNext => h _ _ ⟨f, read, before, after, hLayout, hNext, rfl, rfl⟩
  · rintro h _ _ ⟨f, read, before, after, hLayout, hNext, rfl, rfl⟩
    exact h f before hLayout read after hNext

end Layout

namespace Fields

variable {α β : Type} {fields : Fields α} {functions : Fields (α → β)} {layout : Layout α}
  {depth : Nat} {members : List (String × Json)}

/-- A record comes back from members that it is written as, which are legible. -/
def Recovers (fields : Fields α) (layout : Layout α) (depth : Nat) (value : α) : Prop :=
  ∃ members, layout value members ∧ (∀ member ∈ members, member.2.Legible depth) ∧
    fields.Fills depth members value

/-- Whatever the fields yield from trees of whole numbers comes back from the members that it is written
as; from an array, the items that are left are its own. -/
structure Restores (fields : Fields α) (layout : Layout α) (depth : Nat) : Prop where
  ofMembers : ∀ members value, (∀ member ∈ members, member.2.Whole) →
    fields.Yields depth members value → fields.Recovers layout depth value
  ofItems : ∀ nodes ending value rest, (∀ node ∈ nodes, node.Whole) →
    fields.inOrder depth nodes ending = .ok (value, rest) →
    fields.Recovers layout depth value ∧ ∀ node ∈ rest, node.Whole

theorem Reads.take?_ne_none {found last : fields.Found} (reads : fields.Reads depth found members last) :
    ∀ member ∈ members, fields.take? member.1 ≠ none := by
  induction reads with
  | nil found => exact List.forall_mem_nil _
  | cons takes reads ih => exact List.forall_mem_cons.mpr ⟨takes.take?_ne_none, ih⟩

theorem Recovers.map {value : α} (h : fields.Recovers layout depth value) (f : α → β) :
    (f <$> fields).Recovers (layout.map f) depth (f value) := by
  obtain ⟨members, hLayout, hLegible, hFills⟩ := h
  exact ⟨members, ⟨value, hLayout, rfl⟩, hLegible, hFills.map f⟩

/-- Groups of fields with names of their own come back side by side. -/
theorem Recovers.seq {before : Layout (α → β)} (hApart : functions.Apart fields) {f : α → β} {value : α}
    (hFunction : functions.Recovers before depth f) (hValue : fields.Recovers layout depth value) :
    (functions <*> fields).Recovers (before.seq layout) depth (f value) := by
  obtain ⟨first, hFirst, hLegibleFirst, hFillsFirst⟩ := hFunction
  obtain ⟨second, hSecond, hLegibleSecond, hFillsSecond⟩ := hValue
  have hNames : ∀ member ∈ second, functions.take? member.1 = none := by
    obtain ⟨found, reads, -⟩ := hFillsSecond
    exact fun member hMem => (hApart member.1).resolve_right (reads.take?_ne_none member hMem)
  exact ⟨first ++ second, ⟨f, value, first, second, hFirst, hSecond, rfl, rfl⟩,
    List.forall_mem_append.mpr ⟨hLegibleFirst, hLegibleSecond⟩, hFillsFirst.seq hFillsSecond hNames⟩

theorem Restores.map (h : fields.Restores layout depth) (f : α → β) :
    (f <$> fields).Restores (layout.map f) depth where
  ofMembers members value hWhole hYields := by
    obtain ⟨read, hRead, rfl⟩ := hYields.of_map
    exact (h.ofMembers members read hWhole hRead).map f
  ofItems nodes ending value rest hWhole hOrder := by
    obtain ⟨⟨read, left⟩, hRead, hPair⟩ := map_eq_ok.mp hOrder
    obtain ⟨rfl, rfl⟩ := Prod.mk.inj hPair
    obtain ⟨hRecovers, hRest⟩ := h.ofItems nodes ending read left hWhole hRead
    exact ⟨hRecovers.map f, hRest⟩

/-- Groups of fields with names of their own restore their own members. -/
theorem Restores.seq {before : Layout (α → β)} (hFunctions : functions.Restores before depth)
    (hFields : fields.Restores layout depth) (hApart : functions.Apart fields) :
    (functions <*> fields).Restores (before.seq layout) depth where
  ofMembers members value hWhole hYields := by
    obtain ⟨f, read, hf, hRead, rfl⟩ := hYields.of_seq hApart
    exact (hFunctions.ofMembers members f hWhole hf).seq hApart
      (hFields.ofMembers members read hWhole hRead)
  ofItems nodes ending value rest hWhole hOrder := by
    obtain ⟨⟨⟨f, read⟩, left⟩, hBoth, hPair⟩ := map_eq_ok.mp hOrder
    obtain ⟨rfl, rfl⟩ := Prod.mk.inj hPair
    obtain ⟨⟨f', middle⟩, hf, hBoth⟩ := bind_eq_ok.mp hBoth
    obtain ⟨⟨read', left'⟩, hRead, hBoth⟩ := bind_eq_ok.mp hBoth
    obtain ⟨hValues, rfl⟩ := Prod.mk.inj (pure_eq_ok.mp hBoth)
    obtain ⟨rfl, rfl⟩ := Prod.mk.inj hValues
    obtain ⟨hFirst, hMiddle⟩ := hFunctions.ofItems nodes ending f' middle hWhole hf
    obtain ⟨hSecond, hRest⟩ := hFields.ofItems middle ending read' left' hMiddle hRead
    exact ⟨hFirst.seq hApart hSecond, hRest⟩

section Field

variable {name : String} {decoder : Decoder α} {toJson : α → Json}

/-- A field restores what it reads, and the value that it has when it is not there. -/
theorem restores_field {whenMissing whenShort : Option α} {write : α → List (String × Json)}
    (hRead : ∀ node value, node.Whole → decoder depth node = .ok value →
      (field name decoder whenMissing whenShort).Recovers (.of write) depth value)
    (hMissing : ∀ value, whenMissing = some value ∨ whenShort = some value →
      (field name decoder whenMissing whenShort).Recovers (.of write) depth value) :
    (field name decoder whenMissing whenShort).Restores (.of write) depth where
  ofMembers members value hWhole hYields := by
    rcases hYields.of_field with ⟨before, node, after, rfl, -, hValue⟩ | ⟨-, hNone⟩
    · exact hRead node value (hWhole _ (List.mem_append_right before List.mem_cons_self)) hValue
    · exact hMissing value (.inl hNone)
  ofItems nodes ending value rest hWhole hOrder := by
    cases nodes with
    | nil =>
        obtain ⟨-, -, hShort⟩ := bind_eq_ok.mp hOrder
        cases hDefault : whenShort with
        | none => simp [hDefault] at hShort
        | some short =>
            simp only [hDefault, Option.elim_some, Except.ok.injEq, Prod.mk.injEq] at hShort
            obtain ⟨rfl, rfl⟩ := hShort
            exact ⟨hDefault ▸ hMissing short (.inr hDefault), List.forall_mem_nil _⟩
    | cons node rest =>
        obtain ⟨hNode, hRest⟩ := List.forall_mem_cons.mp hWhole
        obtain ⟨read, hValue, hPair⟩ := map_eq_ok.mp hOrder
        obtain ⟨rfl, rfl⟩ := Prod.mk.inj hPair
        exact ⟨hRead node read hNode hValue, hRest⟩

/-- A field comes back from the member that it is written as. -/
theorem recovers_field {whenMissing whenShort : Option α} {write : α → List (String × Json)}
    {written : Json} {value : α} (hWrite : write value = [(name, written)])
    (h : decoder.Returns depth written value) :
    (field name decoder whenMissing whenShort).Recovers (.of write) depth value :=
  ⟨[(name, written)], hWrite.symm, List.forall_mem_singleton.mpr h.legible, fills_field h.back⟩

/-- A field that is not written comes back as its default. -/
theorem recovers_missing {whenShort : Option α} {write : α → List (String × Json)} {value : α}
    (hWrite : write value = []) :
    (field name decoder (some value) whenShort).Recovers (.of write) depth value :=
  ⟨[], hWrite.symm, List.forall_mem_nil _, fills_missing⟩

/-- A field that has to be there comes back if its value does. -/
theorem restores_required (h : decoder.Restores toJson depth) :
    (required name decoder).Restores (.of fun value => [(name, toJson value)]) depth :=
  restores_field (fun node value hWhole hValue => recovers_field rfl (h node value hWhole hValue)) nofun

/-- A default is restored when it comes back itself. -/
theorem restores_withDefault {default : α} (h : decoder.Restores toJson depth)
    (hDefault : decoder.Returns depth (toJson default) default) :
    (withDefault name decoder default).Restores (.of fun value => [(name, toJson value)]) depth := by
  refine restores_field (fun node value hWhole hValue => recovers_field rfl (h node value hWhole hValue))
    fun value hSome => ?_
  obtain rfl : default = value := Option.some.inj (or_self_iff.mp hSome)
  exact recovers_field rfl hDefault

/-- An optional field that is written as `null` when there is no value. -/
theorem restores_optional (h : decoder.Restores toJson depth)
    (hNull : ∀ node value, decoder depth node = .ok value → toJson value = .null → node = .null) :
    (optional name decoder).Restores (.of fun value => [(name, ofOption toJson value)]) depth :=
  restores_withDefault (Decoder.nullable_restores h hNull) ⟨legible_null depth, rfl⟩

/-- An optional field that is left out when there is no value. -/
theorem restores_optional_memberIf (h : decoder.Restores toJson depth)
    (hNull : ∀ node value, decoder depth node = .ok value → toJson value = .null → node = .null) :
    (optional name decoder).Restores (.of fun value => memberIf name (value.map toJson)) depth := by
  refine restores_field (fun node value hWhole hValue => ?_) fun value hSome => ?_
  · cases value with
    | none => exact recovers_missing rfl
    | some read =>
        exact recovers_field rfl (Decoder.nullable_restores h hNull node (some read) hWhole hValue)
  · obtain rfl : none = value := Option.some.inj (or_self_iff.mp hSome)
    exact recovers_missing rfl

/-- A free-form object that is left out when it is empty. -/
theorem restores_membersIf {decoder : Decoder Members}
    (h : ∀ node members, node.Whole → decoder depth node = .ok members → members ≠ [] →
      decoder.Returns depth (.object members) members) :
    (withDefault name decoder []).Restores (.of (membersIf name)) depth := by
  refine restores_field (fun node members hWhole hMembers => ?_) fun members hSome => ?_
  · by_cases hNone : members = []
    · obtain rfl := hNone
      exact recovers_missing rfl
    · refine recovers_field ?_ (h node members hWhole hMembers hNone)
      rw [membersIf, if_neg (by simpa using hNone)]
  · obtain rfl : [] = members := Option.some.inj (or_self_iff.mp hSome)
    exact recovers_missing rfl

end Field

/-- A closed record is read from the members that fill it. -/
theorem closed_node {value : α} (h : fields.Fills depth members value) :
    fields.closed (depth + 1) (Json.object members).node = .ok value := by
  obtain ⟨found, reads, hFinish⟩ := h
  have hRead : fields.readMembers (fun _ _ _ value => value.skip) depth fields.start ()
      (memberNodes members) = .ok (found, ()) := by
    rw [← List.append_nil (memberNodes members), reads.readMembers]
    rfl
  show (fields.readMembers _ depth fields.start () (memberNodes members) >>= _) = _
  rw [hRead]
  exact hFinish

theorem whole_of_named {nodes : List (TextLiteral × Node)} {members : List (String × Node)}
    (hNamed : Named nodes members) (hWhole : ∀ node ∈ nodes, node.2.Whole) :
    ∀ member ∈ members, member.2.Whole := by
  induction hNamed with
  | nil => exact List.forall_mem_nil _
  | cons hMember hRest ih =>
      obtain ⟨hFirst, hOthers⟩ := List.forall_mem_cons.mp hWhole
      exact List.forall_mem_cons.mpr ⟨hMember.2 ▸ hFirst, ih hOthers⟩

/-- Values read from trees of whole numbers are legible. -/
theorem legible_of_valued {members : List (String × Node)} {values : List (String × Json)}
    (hValued : Valued depth members values) (hWhole : ∀ member ∈ members, member.2.Whole) :
    ∀ member ∈ values, member.2.Legible depth := by
  induction hValued with
  | nil => exact List.forall_mem_nil _
  | cons hMember hRest ih =>
      obtain ⟨hFirst, hOthers⟩ := List.forall_mem_cons.mp hWhole
      exact List.forall_mem_cons.mpr ⟨Node.legible_of_value hFirst hMember.2, ih hOthers⟩

/-- A closed record is restored, whether it was given as an object or as an array. -/
theorem Restores.closed {toJson : α → Json}
    (h : ∀ inner, depth = inner + 1 → fields.Restores layout inner)
    (hLayout : ∀ value members, layout value members → toJson value = .object members) :
    fields.closed.Restores toJson depth := by
  have hReturns : ∀ inner value, depth = inner + 1 → fields.Recovers layout inner value →
      fields.closed.Returns depth (toJson value) value := by
    rintro inner value rfl ⟨members, hMembers, hLegible, hFills⟩
    rw [hLayout value members hMembers]
    exact ⟨legible_object_iff.mpr ⟨inner, rfl, hLegible⟩, closed_node hFills⟩
  intro node value hNode hValue
  cases hNode with
  | object hMembers ending =>
      obtain ⟨inner, hDepth, hValue⟩ := descend_eq_ok.mp hValue
      obtain ⟨⟨found, _⟩, hRead, hValue⟩ := bind_eq_ok.mp hValue
      obtain ⟨_, _, hFinish⟩ := bind_eq_ok.mp hValue
      obtain ⟨members, hNamed, hTraverses⟩ := traverses_of_readMembers hRead
      exact hReturns inner value hDepth ((h inner hDepth).ofMembers members value
        (whole_of_named hNamed hMembers) ⟨found, hTraverses, hFinish⟩)
  | array hItems ending =>
      obtain ⟨inner, hDepth, hValue⟩ := descend_eq_ok.mp hValue
      obtain ⟨⟨read, rest⟩, hOrder, hValue⟩ := bind_eq_ok.mp hValue
      cases rest with
      | nil =>
          obtain ⟨-, -, hValue⟩ := bind_eq_ok.mp hValue
          obtain rfl := pure_eq_ok.mp hValue
          exact hReturns inner read hDepth
            ((h inner hDepth).ofItems _ ending read [] hItems hOrder).1
      | cons node rest => cases hValue
  | _ => cases hValue

/-- An open record is restored together with all that it keeps besides its fields. -/
theorem Restores.extensible {fields : Fields (Members → α)} {layout : Layout (Members → α)}
    {toJson : α → Json} (h : ∀ inner, depth = inner + 1 → fields.Restores layout inner)
    (hLayout : ∀ f members, layout f members → ∀ extra, toJson (f extra) = .object (members ++ extra)) :
    fields.extensible.Restores toJson depth := by
  intro node value hNode hValue
  cases hNode with
  | object hMembers ending =>
      obtain ⟨inner, rfl, hValue⟩ := descend_eq_ok.mp hValue
      obtain ⟨⟨found, extra⟩, hRead, hValue⟩ := bind_eq_ok.mp hValue
      obtain ⟨-, -, hValue⟩ := bind_eq_ok.mp hValue
      obtain ⟨f, hFinish, hValue⟩ := bind_eq_ok.mp hValue
      obtain rfl := pure_eq_ok.mp hValue
      obtain ⟨members, values, hNamed, hTraverses, hValued, hExtra⟩ :=
        traverses_of_readMembers_keep hRead
      have hSorted : extra = NameMap.ofList values := hExtra
      have hWhole := whole_of_named hNamed hMembers
      have hLegible : ∀ member ∈ extra, member.2.Legible inner := by
        have hValues := legible_of_valued hValued fun member hMem =>
          hWhole member (List.mem_filter.mp hMem).1
        intro member hMem
        exact hValues member (NameMap.mem_of_mem_ofList (hSorted ▸ hMem))
      obtain ⟨written, hWritten, hLegibleWritten, hFills⟩ :=
        (h inner rfl).ofMembers members f hWhole ⟨found, hTraverses, hFinish⟩
      rw [hLayout f written hWritten extra]
      exact ⟨legible_object_iff.mpr
        ⟨inner, rfl, List.forall_mem_append.mpr ⟨hLegibleWritten, hLegible⟩⟩,
        extensible_node hFills (isExtra_of_readMembers hRead) hLegible⟩
  | _ => cases hValue

end Fields

end Scrobbler.Json
