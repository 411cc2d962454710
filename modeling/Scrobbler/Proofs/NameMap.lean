import Mathlib.Data.List.Induction
import Mathlib.Data.List.Sort
import Scrobbler.NameMap

/-!
Sorted maps. Setting a value keeps the names of a map in their order, each of them once, so all that is
built from a list of entries is sorted; and a list that is sorted already is its own map. A sorted map
is known by its entries. Of entries with one name only the last counts, so the entries of some names can
be looked at without the others.
-/

namespace Scrobbler

namespace NameMap

variable {α : Type} {name : String} {value : α} {map : NameMap α}

/-- The names ascend, so that no two are equal. -/
def Sorted (map : NameMap α) : Prop := map.Pairwise fun left right => left.1 < right.1

instance (map : NameMap α) : Decidable (Sorted map) :=
  inferInstanceAs (Decidable (map.Pairwise fun left right => left.1 < right.1))

/-- What is in a map after a value was set is that value, or was there before. -/
theorem eq_or_mem_of_mem_set {entry : String × α} (h : entry ∈ set name value map) :
    entry = (name, value) ∨ entry ∈ map := by
  induction map with
  | nil => exact .inl (List.mem_singleton.mp h)
  | cons head rest ih =>
      obtain ⟨other, old⟩ := head
      rw [set] at h
      split at h
      · exact (List.mem_cons.mp h).imp_right (List.mem_cons_of_mem _)
      · split at h
        · exact List.mem_cons.mp h
        · rcases List.mem_cons.mp h with rfl | h
          · exact .inr List.mem_cons_self
          · exact (ih h).imp_right (List.mem_cons_of_mem _)

/-- Setting a name keeps the names sorted. -/
theorem sorted_set (h : Sorted map) : Sorted (set name value map) := by
  induction map with
  | nil => exact List.pairwise_singleton _ _
  | cons head rest ih =>
      obtain ⟨other, old⟩ := head
      obtain ⟨hHead, hRest⟩ := List.pairwise_cons.mp h
      rw [set]
      split
      · next hSame => exact List.pairwise_cons.mpr ⟨by simpa [hSame] using hHead, hRest⟩
      · next hOther =>
          split
          · next hBefore =>
              refine List.pairwise_cons.mpr ⟨fun entry hMem => ?_, h⟩
              rcases List.mem_cons.mp hMem with rfl | hMem
              · exact hBefore
              · exact String.lt_trans hBefore (hHead entry hMem)
          · next hNotBefore =>
              have hAfter : other < name := String.not_le.mp fun hLe =>
                hOther (String.le_antisymm hLe (String.not_lt.mp hNotBefore))
              refine List.pairwise_cons.mpr ⟨fun entry hMem => ?_, ih hRest⟩
              rcases eq_or_mem_of_mem_set hMem with rfl | hMem
              · exact hAfter
              · exact hHead entry hMem

/-- A name after all others is set at the end. -/
theorem set_eq_append (h : ∀ entry ∈ map, entry.1 < name) :
    set name value map = map ++ [(name, value)] := by
  induction map with
  | nil => rfl
  | cons head rest ih =>
      obtain ⟨other, old⟩ := head
      have hHead : other < name := h _ List.mem_cons_self
      have hRest := ih fun entry hMem => h entry (List.mem_cons_of_mem _ hMem)
      have hOther : name ≠ other := fun hSame => String.lt_irrefl name (hSame ▸ hHead)
      rw [set, if_neg hOther, if_neg (String.lt_asymm hHead), hRest, List.cons_append]

/-- Names that come in order are set one behind the other. -/
theorem foldl_set_eq_append {entries : List (String × α)} (h : Sorted (map ++ entries)) :
    entries.foldl (fun sorted (name, value) => set name value sorted) map = map ++ entries := by
  induction entries generalizing map with
  | nil => rw [List.append_nil, List.foldl_nil]
  | cons head rest ih =>
      obtain ⟨name, value⟩ := head
      have hLast : ∀ entry ∈ map, entry.1 < name := fun entry hMem =>
        (List.pairwise_append.mp h).2.2 entry hMem _ List.mem_cons_self
      have hNext : Sorted ((map ++ [(name, value)]) ++ rest) := by
        rwa [List.append_assoc, List.singleton_append]
      simp only [List.foldl_cons, set_eq_append hLast, ih hNext, List.append_assoc,
        List.singleton_append]

/-- A list of entries that is sorted is its own map. -/
theorem ofList_of_sorted {entries : List (String × α)} (h : Sorted entries) :
    ofList entries = entries := by
  have hAppend : Sorted ([] ++ entries) := h
  exact foldl_set_eq_append hAppend

/-- What setting a name preserves is preserved by setting many. -/
theorem foldl_set_invariant {P : NameMap α → Prop} {entries : List (String × α)} (hMap : P map)
    (hSet : ∀ entry ∈ entries, ∀ map, P map → P (set entry.1 entry.2 map)) :
    P (entries.foldl (fun sorted (name, value) => set name value sorted) map) := by
  induction entries generalizing map with
  | nil => exact hMap
  | cons head rest ih =>
      exact ih (hSet head List.mem_cons_self map hMap) fun entry hMem =>
        hSet entry (List.mem_cons_of_mem _ hMem)

theorem sorted_ofList (entries : List (String × α)) : Sorted (ofList entries) :=
  foldl_set_invariant List.Pairwise.nil fun _ _ _ => sorted_set

/-- A map holds no entry that was not in the list. -/
theorem mem_of_mem_ofList {entry : String × α} {entries : List (String × α)}
    (h : entry ∈ ofList entries) : entry ∈ entries := by
  have hAll : ∀ entry ∈ ofList entries, entry ∈ entries := by
    refine foldl_set_invariant (P := fun map => ∀ entry ∈ map, entry ∈ entries) (by simp) ?_
    intro set hSet map hMap entry hMem
    rcases eq_or_mem_of_mem_set hMem with rfl | hMem
    · exact hSet
    · exact hMap entry hMem
  exact hAll entry h

/-- Sorted maps with the same entries are the same. -/
theorem eq_of_mem_iff {other : NameMap α} (hMap : Sorted map) (hOther : Sorted other)
    (h : ∀ entry, entry ∈ map ↔ entry ∈ other) : map = other := by
  have hIrrefl : Std.Irrefl fun left right : String × α => left.1 < right.1 :=
    ⟨fun entry => String.lt_irrefl entry.1⟩
  have hAntisymm : Std.Antisymm fun left right : String × α => left.1 < right.1 :=
    ⟨fun _ _ hLess hMore => absurd hMore (String.lt_asymm hLess)⟩
  exact List.Pairwise.eq_of_mem_iff hMap hOther h

/-- A sorted map has one value for each name. -/
theorem value_unique_of_sorted (hMap : Sorted map) {other : α} (hValue : (name, value) ∈ map)
    (hOther : (name, other) ∈ map) : value = other := by
  induction map with
  | nil => cases hValue
  | cons head rest ih =>
      obtain ⟨hHead, hRest⟩ := List.pairwise_cons.mp hMap
      rcases List.mem_cons.mp hValue with rfl | hLater
      · rcases List.mem_cons.mp hOther with hSame | hOther
        · exact (congrArg Prod.snd hSame).symm
        · exact absurd (hHead (name, other) hOther) (String.lt_irrefl name)
      · rcases List.mem_cons.mp hOther with rfl | hOther
        · exact absurd (hHead (name, value) hLater) (String.lt_irrefl name)
        · exact ih hRest hLater hOther

theorem mem_set_self : (name, value) ∈ set name value map := by
  induction map with
  | nil => exact List.mem_singleton_self _
  | cons head rest ih =>
      obtain ⟨other, old⟩ := head
      rw [set]
      split
      · exact List.mem_cons_self
      · split
        · exact List.mem_cons_self
        · exact List.mem_cons_of_mem _ ih

theorem mem_set_of_ne {entry : String × α} (hMem : entry ∈ map) (hName : entry.1 ≠ name) :
    entry ∈ set name value map := by
  induction map with
  | nil => cases hMem
  | cons head rest ih =>
      obtain ⟨other, old⟩ := head
      rw [set]
      split
      · next hSame =>
          rcases List.mem_cons.mp hMem with rfl | hMem
          · exact absurd hSame.symm hName
          · exact List.mem_cons_of_mem _ hMem
      · split
        · exact List.mem_cons_of_mem _ hMem
        · rcases List.mem_cons.mp hMem with rfl | hMem
          · exact List.mem_cons_self
          · exact List.mem_cons_of_mem _ (ih hMem)

/-- A name that is set has the new value, and all others have theirs. -/
theorem mem_set_iff (hMap : Sorted map) {entry : String × α} :
    entry ∈ set name value map ↔ entry = (name, value) ∨ entry ∈ map ∧ entry.1 ≠ name := by
  constructor
  · intro hMem
    by_cases hName : entry.1 = name
    · obtain rfl := hName
      exact .inl (congrArg (Prod.mk entry.1)
        (value_unique_of_sorted (sorted_set hMap) hMem mem_set_self))
    · rcases eq_or_mem_of_mem_set hMem with hSame | hMem
      · exact .inl hSame
      · exact .inr ⟨hMem, hName⟩
  · rintro (rfl | ⟨hMem, hName⟩)
    · exact mem_set_self
    · exact mem_set_of_ne hMem hName

/-- The last entry of a list is in its map, and replaces those of its name. -/
theorem mem_ofList_concat {entry last : String × α} {entries : List (String × α)} :
    entry ∈ ofList (entries ++ [last]) ↔ entry = last ∨ entry ∈ ofList entries ∧ entry.1 ≠ last.1 := by
  rw [ofList, List.foldl_concat]
  exact mem_set_iff (sorted_ofList entries)

/-- Which entries of some names are in a map does not depend on those of other names. -/
theorem mem_ofList_filter {entry : String × α} {entries : List (String × α)} {p : String → Bool} :
    entry ∈ ofList (entries.filter fun entry => p entry.1) ↔
      entry ∈ ofList entries ∧ p entry.1 = true := by
  induction entries using List.reverseRecOn with
  | nil => exact ⟨(nomatch ·), (nomatch ·.1)⟩
  | append_singleton entries last ih =>
      rw [List.filter_append, mem_ofList_concat]
      by_cases hLast : p last.1 = true
      · rw [List.filter_cons_of_pos (p := fun entry : String × α => p entry.1) hLast, List.filter_nil,
          mem_ofList_concat, ih]
        constructor
        · rintro (rfl | ⟨⟨hMem, hName⟩, hOther⟩)
          · exact ⟨.inl rfl, hLast⟩
          · exact ⟨.inr ⟨hMem, hOther⟩, hName⟩
        · rintro ⟨rfl | ⟨hMem, hOther⟩, hName⟩
          · exact .inl rfl
          · exact .inr ⟨⟨hMem, hName⟩, hOther⟩
      · rw [List.filter_cons_of_neg (p := fun entry : String × α => p entry.1) hLast, List.filter_nil,
          List.append_nil, ih]
        constructor
        · rintro ⟨hMem, hName⟩
          exact ⟨.inr ⟨hMem, fun hSame => hLast (hSame ▸ hName)⟩, hName⟩
        · rintro ⟨rfl | ⟨hMem, hOther⟩, hName⟩
          · exact absurd hName hLast
          · exact ⟨hMem, hName⟩

/-- Each name of a list is in the map made of it. -/
theorem exists_mem_ofList {entries : List (String × α)} (h : (name, value) ∈ entries) :
    ∃ other, (name, other) ∈ ofList entries := by
  induction entries using List.reverseRecOn with
  | nil => cases h
  | append_singleton entries last ih =>
      by_cases hName : name = last.1
      · exact ⟨last.2, mem_ofList_concat.mpr (.inl (Prod.ext hName rfl))⟩
      · rcases List.mem_append.mp h with hMem | hMem
        · obtain ⟨other, hOther⟩ := ih hMem
          exact ⟨other, mem_ofList_concat.mpr (.inr ⟨hOther, hName⟩)⟩
        · exact absurd (congrArg Prod.fst (List.mem_singleton.mp hMem)) hName

/-- An entry that is the only one of its name is in the map. -/
theorem mem_ofList_iff_of_unique {entries : List (String × α)}
    (h : ∀ value other, (name, value) ∈ entries → (name, other) ∈ entries → value = other) :
    (name, value) ∈ ofList entries ↔ (name, value) ∈ entries := by
  refine ⟨mem_of_mem_ofList, fun hMem => ?_⟩
  obtain ⟨other, hOther⟩ := exists_mem_ofList hMem
  obtain rfl : value = other := h value other hMem (mem_of_mem_ofList hOther)
  exact hOther

/-- Of the entries with one name, the map holds the last. -/
theorem mem_ofList_iff_last {entries : List (String × α)} :
    (name, value) ∈ ofList entries ↔
      ∃ before after, entries = before ++ (name, value) :: after ∧ ∀ entry ∈ after, entry.1 ≠ name := by
  induction entries using List.reverseRecOn with
  | nil => exact ⟨(nomatch ·), fun ⟨before, after, h, _⟩ => by simp at h⟩
  | append_singleton entries last ih =>
      rw [mem_ofList_concat]
      constructor
      · rintro (rfl | ⟨hMem, hName⟩)
        · exact ⟨entries, [], rfl, List.forall_mem_nil _⟩
        · obtain ⟨before, after, rfl, hAfter⟩ := ih.mp hMem
          refine ⟨before, after ++ [last], by simp, fun entry hEntry => ?_⟩
          rcases List.mem_append.mp hEntry with hEntry | hEntry
          · exact hAfter entry hEntry
          · rw [List.mem_singleton.mp hEntry]
            exact Ne.symm hName
      · rintro ⟨before, after, hEntries, hAfter⟩
        rcases List.eq_nil_or_concat after with rfl | ⟨others, other, rfl⟩
        · exact .inl (List.singleton_inj.mp (List.append_inj_right' hEntries rfl)).symm
        · rw [List.concat_eq_append, ← List.cons_append, ← List.append_assoc] at hEntries
          obtain ⟨rfl, hLast⟩ := List.append_inj' hEntries rfl
          obtain rfl := List.singleton_inj.mp hLast
          have hOther : last.1 ≠ name := hAfter last (by simp)
          refine .inr ⟨ih.mpr ⟨before, others, rfl, fun entry hEntry => ?_⟩, Ne.symm hOther⟩
          exact hAfter entry (by simp [hEntry])

/-- In a sorted map, it does not matter from which end a name is looked up. -/
theorem lookup_reverse_eq_some_iff (hMap : Sorted map) :
    map.reverse.lookup name = some value ↔ (name, value) ∈ map := by
  have hMem {found : α} (h : map.reverse.lookup name = some found) : (name, found) ∈ map := by
    obtain ⟨before, after, hEntries, -⟩ := List.lookup_eq_some_iff.mp h
    rw [← List.mem_reverse, hEntries]
    exact List.mem_append_right before List.mem_cons_self
  refine ⟨hMem, fun hValue => ?_⟩
  cases hFound : map.reverse.lookup name with
  | none =>
      have hAbsent := List.lookup_eq_none_iff.mp hFound (name, value) (List.mem_reverse.mpr hValue)
      simp at hAbsent
  | some found => rw [value_unique_of_sorted hMap (hMem hFound) hValue]

end NameMap

end Scrobbler
