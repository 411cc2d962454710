import Mathlib.Data.List.TakeWhile
import Scrobbler.Client.Root
import Scrobbler.Proofs.Url.Path
import Scrobbler.Url.Reading

/-!
Addresses below a root. A root with a slash behind it is read up to that slash as it is read by itself, if
it has no query and no fragment; only the path, the query and the fragment depend on what follows.
-/

namespace Scrobbler.Url

section

variable {α : Type} {p : α → Bool} {mark : α} {s t : List α}

/-- What is dropped from the head ends at the latest at the mark. -/
theorem dropWhile_append_mark (h : p mark = false) :
    (s ++ mark :: t).dropWhile p = s.dropWhile p ++ mark :: t := by
  induction s with
  | nil => simp [h]
  | cons a s ih => cases ha : p a <;> simp [ha, ih]

theorem takeWhile_append_mark (h : p mark = false) : (s ++ mark :: t).takeWhile p = s.takeWhile p := by
  induction s with
  | nil => simp [h]
  | cons a s ih => cases ha : p a <;> simp [ha, ih]

end

/-- A character that is dropped wherever it stands in an address. -/
def isBreak (c : Char) : Bool := c == '\t' || c == '\n' || c == '\r'

/-- What is kept of the end of an address. -/
def settled (s : List Char) : List Char := (Text.dropEndWhile isMargin s).filter (!isBreak ·)

section

variable {s t : List Char}

theorem clean_eq (s : List Char) :
    clean s = (Text.dropEndWhile isMargin (s.dropWhile isMargin)).filter (!isBreak ·) := by
  unfold clean
  congr 1
  funext c
  simp [isBreak]
  rfl

theorem dropEndWhile_sublist (p : Char → Bool) (s : List Char) : (Text.dropEndWhile p s).Sublist s := by
  have hReverse := (List.dropWhile_sublist p (l := s.reverse)).reverse
  rwa [List.reverse_reverse] at hReverse

theorem dropEndWhile_append_slash (s t : List Char) :
    Text.dropEndWhile isMargin (s ++ '/' :: t) = s ++ '/' :: Text.dropEndWhile isMargin t := by
  have hSlash : isMargin '/' = false := by decide
  simp only [Text.dropEndWhile, List.reverse_append, List.reverse_cons, List.append_assoc,
    List.singleton_append]
  rw [dropWhile_append_mark hSlash]
  simp

/-- What stands before a slash and what stands behind it are cleaned apart, since a slash is never cut
off. -/
theorem clean_append_slash (s t : List Char) :
    clean (s ++ '/' :: t) = (s.dropWhile isMargin).filter (!isBreak ·) ++ '/' :: settled t := by
  have hSlash : isMargin '/' = false := by decide
  have hKept : isBreak '/' = false := by decide
  rw [clean_eq, dropWhile_append_mark hSlash, dropEndWhile_append_slash, List.filter_append,
    List.filter_cons_of_pos (by simp [hKept]), settled]

/-- What follows a slash does not change the scheme. -/
theorem splitScheme?_append_slash (s t : List Char) :
    splitScheme? (s ++ '/' :: t) = (splitScheme? s).map fun (scheme, rest) => (scheme, rest ++ '/' :: t) := by
  have hSlash : isSchemeChar '/' = false := by decide
  cases s with
  | nil => rfl
  | cons c s =>
      have hDrop : (c :: (s ++ '/' :: t)).dropWhile isSchemeChar =
          (c :: s).dropWhile isSchemeChar ++ '/' :: t := dropWhile_append_mark (s := c :: s) hSlash
      have hTake : (c :: (s ++ '/' :: t)).takeWhile isSchemeChar = (c :: s).takeWhile isSchemeChar :=
        takeWhile_append_mark (s := c :: s) hSlash
      simp only [splitScheme?, List.cons_append, hDrop, hTake]
      split
      · cases hRest : (c :: s).dropWhile isSchemeChar with
        | nil => rfl
        | cons d rest =>
            by_cases hColon : d = ':'
            · subst hColon
              rfl
            · simp [hColon]
      · rfl

/-- What stands between the two slashes and the path, and what is left of it. -/
def readPlace? (scheme text : List Char) : Option (Authority × List Char) := do
  let (userText, place) := splitUser text
  if userText = some [] ∧ place.isEmpty then none
  else
    let user := (userText.map readUser).getD .none
    let hostChars := hostText false place
    let portChars := place.drop hostChars.length
    let host ← readHost? true user hostChars portChars
    let (port, more) ← readPort? scheme portChars
    return (⟨user, host, port⟩, more)

/-- The host is read no further than to the slash behind it. -/
theorem readAuthority?_append_slash (scheme s t : List Char) :
    readAuthority? true scheme (s ++ '/' :: t) =
      (readPlace? scheme (s.takeWhile (!endsAuthority true ·))).map fun (a, more) =>
        (a, (more ++ s.dropWhile (!endsAuthority true ·)) ++ '/' :: t) := by
  have hEnds : (!endsAuthority true '/') = false := by decide
  have hText : (s ++ '/' :: t).takeWhile (!endsAuthority true ·) = s.takeWhile (!endsAuthority true ·) :=
    takeWhile_append_mark hEnds
  have hRest : (s ++ '/' :: t).dropWhile (!endsAuthority true ·) =
      s.dropWhile (!endsAuthority true ·) ++ '/' :: t := dropWhile_append_mark hEnds
  simp only [readAuthority?, readPlace?, hText, hRest]
  generalize splitUser (s.takeWhile (!endsAuthority true ·)) = parts
  obtain ⟨userText, place⟩ := parts
  by_cases hNone : userText = some [] ∧ place.isEmpty = true
  · simp [hNone]
  · have hMore : ¬(userText = some [] ∧ place.isEmpty = true ∧
        (!(s.dropWhile (!endsAuthority true ·) ++ '/' :: t).isEmpty) = true) :=
      fun h => hNone ⟨h.1, h.2.1⟩
    simp only [hNone, hMore, if_false]
    cases readHost? true ((userText.map readUser).getD .none) (hostText false place)
        (place.drop (hostText false place).length) with
    | none => rfl
    | some host =>
        cases readPort? scheme (place.drop (hostText false place).length) with
        | none => rfl
        | some result => simp

theorem readAuthority?_nil (scheme : List Char) : readAuthority? true scheme [] = none := by
  have hHost : Host.ofDomain? [] = none := by decide +kernel
  have hParts : splitUser [] = (none, []) := rfl
  simp [readAuthority?, hParts, hostText, readHost?, hHost]

/-- The segments of a path up to a slash are followed first. -/
theorem exists_walk_segmentsOf (s : List Char) :
    ∃ w : Walk, ∀ t, segmentsOf true (dropSlash true (s ++ '/' :: t)) =
      (w.follow false (splitSlashes true t)).segments := by
  have hSlash : isSlash true '/' = true := by decide
  have hFollow (s : List Char) : ∃ w : Walk, ∀ t, segmentsOf true (s ++ '/' :: t) =
      (w.follow false (splitSlashes true t)).segments := by
    refine ⟨Walk.start.through false (splitSlashes true s), fun t => ?_⟩
    rw [segmentsOf, splitSlashes_append_slash hSlash,
      Walk.follow_append false _ _ (splitSlashes_ne_nil true t)]
  cases s with
  | nil => exact ⟨Walk.start, fun t => rfl⟩
  | cons c s =>
      cases hFirst : isSlash true c with
      | true =>
          obtain ⟨w, hw⟩ := hFollow s
          exact ⟨w, fun t => by simpa [dropSlash, hFirst] using hw t⟩
      | false =>
          obtain ⟨w, hw⟩ := hFollow (c :: s)
          exact ⟨w, fun t => by simpa [dropSlash, hFirst] using hw t⟩

theorem scheme_of_readSpecial? {scheme rest : List Char} {u : Url} (h : readSpecial? scheme rest = some u) :
    u.scheme = scheme := by
  obtain ⟨_, -, hUrl⟩ := Option.bind_eq_some_iff.mp h
  cases hUrl
  rfl

theorem scheme_of_readFile? {rest : List Char} {u : Url} (h : readFile? rest = some u) :
    u.scheme = fileScheme := by
  have hUrl {host : Option Host} {path : List Char} (h : some (fileUrl host path rest) = some u) :
      u.scheme = fileScheme := by
    cases h
    rfl
  simp only [readFile?] at h
  split at h
  · split at h
    · split at h
      · exact hUrl h
      · obtain ⟨host, -, hHost⟩ := Option.bind_eq_some_iff.mp h
        exact hUrl hHost
    · exact hUrl h
  · exact hUrl h

theorem scheme_of_readOther? {scheme rest : List Char} {u : Url} (h : readOther? scheme rest = some u) :
    u.scheme = scheme := by
  simp only [readOther?] at h
  split at h
  · obtain ⟨_, -, hUrl⟩ := Option.bind_eq_some_iff.mp h
    cases hUrl
    rfl
  · cases h
    rfl
  · cases h
    rfl

/-- Reads what follows a scheme. -/
def readRest? (scheme rest : List Char) : Option Url :=
  if (defaultPort? scheme).isSome then readSpecial? scheme rest
  else if scheme = fileScheme then readFile? rest
  else readOther? scheme rest

/-- An address keeps its scheme, whatever follows. -/
theorem scheme_of_readRest? {scheme rest : List Char} {u : Url} (h : readRest? scheme rest = some u) :
    u.scheme = scheme := by
  unfold readRest? at h
  split at h
  · exact scheme_of_readSpecial? h
  · split at h
    · next hFile => exact (scheme_of_readFile? h).trans hFile.symm
    · exact scheme_of_readOther? h

/-- An address below a root is read by the scheme of the root. -/
theorem parse_append_slash (root : String) (t : List Char) :
    parse (root ++ "/" ++ String.ofList t) =
      (splitScheme? ((root.toList.dropWhile isMargin).filter (!isBreak ·))).bind fun (scheme, rest) =>
        readRest? scheme (rest ++ '/' :: settled t) := by
  have hChars : (root ++ "/" ++ String.ofList t).toList = root.toList ++ '/' :: t := by simp
  rw [parse, hChars, clean_append_slash, splitScheme?_append_slash]
  cases splitScheme? ((root.toList.dropWhile isMargin).filter (!isBreak ·)) <;> rfl

/-- What follows the root does not change the scheme. -/
theorem scheme_of_parse_append_slash {root : String} {s t : List Char} {u v : Url}
    (hu : parse (root ++ "/" ++ String.ofList s) = some u)
    (hv : parse (root ++ "/" ++ String.ofList t) = some v) : v.scheme = u.scheme := by
  rw [parse_append_slash] at hu hv
  obtain ⟨⟨scheme, rest⟩, hScheme, hu⟩ := Option.bind_eq_some_iff.mp hu
  rw [hScheme] at hv
  exact (scheme_of_readRest? hv).trans (scheme_of_readRest? hu).symm

/-- Follows what the end of an address has before its query. -/
def Walk.followTail (w : Walk) (tail : List Char) : Walk :=
  w.follow false (splitSlashes true (beforeQuery tail))

/-- The address with another end, from a place in its path on. -/
def withTail (u : Url) (w : Walk) (tail : List Char) : Url :=
  { u with
    path := .segments (w.followTail tail).segments
    query := queryOf true tail
    fragment := fragmentOf tail }

theorem not_mem_of_after?_eq_none {mark : Char} (h : after? mark s = none) : mark ∉ s := by
  intro hMem
  simp only [after?] at h
  split at h
  · cases h
  · next hDropped =>
      have hAll := List.dropWhile_eq_nil_iff.mp hDropped mark hMem
      simp at hAll

theorem after?_append_of_not_mem {mark : Char} (h : mark ∉ s) : after? mark (s ++ t) = after? mark t := by
  have hAll : ∀ c ∈ s, decide (c ≠ mark) = true := by
    intro c hMem
    simpa using ne_of_mem_of_not_mem hMem h
  rw [after?, List.dropWhile_append_of_pos hAll, after?]

/-- Neither a question mark nor a number sign stands in a text. -/
def IsUnmarked (s : List Char) : Prop := '?' ∉ s ∧ '#' ∉ s

namespace IsUnmarked

theorem of_none {special : Bool} (hQuery : queryOf special s = none) (hFragment : fragmentOf s = none) :
    IsUnmarked s := by
  have hNumber : '#' ∉ s := not_mem_of_after?_eq_none (Option.map_eq_none_iff.mp hFragment)
  have hWhole : s.takeWhile (· ≠ '#') = s := by
    refine List.takeWhile_eq_self_iff.mpr fun c hMem => ?_
    simpa using ne_of_mem_of_not_mem hMem hNumber
  rw [queryOf, Option.map_eq_none_iff, hWhole] at hQuery
  exact ⟨not_mem_of_after?_eq_none hQuery, hNumber⟩

theorem beforeQuery_append (h : IsUnmarked s) : beforeQuery (s ++ t) = s ++ beforeQuery t := by
  refine List.takeWhile_append_of_pos fun c hMem => ?_
  simpa using ⟨ne_of_mem_of_not_mem hMem h.1, ne_of_mem_of_not_mem hMem h.2⟩

/-- The query of an address stands in its end, if the root has no marks. -/
theorem queryOf_append (h : IsUnmarked s) (special : Bool) :
    queryOf special (s ++ t) = queryOf special t := by
  have hWhole : (s ++ t).takeWhile (· ≠ '#') = s ++ t.takeWhile (· ≠ '#') := by
    refine List.takeWhile_append_of_pos fun c hMem => ?_
    simpa using ne_of_mem_of_not_mem hMem h.2
  rw [queryOf, hWhole, after?_append_of_not_mem h.1, queryOf]

theorem fragmentOf_append (h : IsUnmarked s) : fragmentOf (s ++ t) = fragmentOf t := by
  rw [fragmentOf, after?_append_of_not_mem h.2, fragmentOf]

/-- An unmarked text is a path, without a query and without a fragment. -/
theorem parts (h : IsUnmarked s) (special : Bool) :
    beforeQuery s = s ∧ queryOf special s = none ∧ fragmentOf s = none := by
  have hPath := h.beforeQuery_append (t := [])
  have hQuery := h.queryOf_append special (t := [])
  have hFragment := h.fragmentOf_append (t := [])
  rw [List.append_nil] at hPath hQuery hFragment
  exact ⟨hPath.trans (List.append_nil s), hQuery, hFragment⟩

end IsUnmarked

/-- Addresses below a root differ from the root in nothing but what follows it. The walk is the one through
the path of the root. -/
theorem exists_walk_readSpecial? {scheme rest : List Char} {base : Url}
    (h : readSpecial? scheme (rest ++ ['/']) = some base) (hQuery : base.query = none)
    (hFragment : base.fragment = none) :
    ∃ w : Walk, base.path = .segments (w.segments ++ [[]]) ∧
      ∀ t, readSpecial? scheme (rest ++ '/' :: t) = some (base.withTail w t) := by
  have hDropped (t : List Char) : (rest ++ '/' :: t).dropWhile (isSlash true) =
      if (rest.dropWhile (isSlash true)).isEmpty then ('/' :: t).dropWhile (isSlash true)
      else rest.dropWhile (isSlash true) ++ '/' :: t := List.dropWhile_append
  by_cases hHost : (rest.dropWhile (isSlash true)).isEmpty = true
  · -- Without a host the slash would only be one of those before it.
    rw [readSpecial?, hDropped, if_pos hHost] at h
    have hNone : readAuthority? true scheme (['/'].dropWhile (isSlash true)) = none :=
      readAuthority?_nil scheme
    rw [hNone] at h
    cases h
  · simp only [readSpecial?, hDropped, if_neg hHost, readAuthority?_append_slash] at h ⊢
    cases hPlace : readPlace? scheme ((rest.dropWhile (isSlash true)).takeWhile (!endsAuthority true ·)) with
    | none => simp [hPlace] at h
    | some result =>
        obtain ⟨authority, more⟩ := result
        simp only [hPlace, Option.map_some] at h ⊢
        generalize more ++ (rest.dropWhile (isSlash true)).dropWhile (!endsAuthority true ·) = left at h ⊢
        obtain rfl := Option.some.inj h
        have hUnmarked : IsUnmarked (left ++ ['/']) := .of_none hQuery hFragment
        have hLeft (t : List Char) : left ++ '/' :: t = (left ++ ['/']) ++ t := by simp
        obtain ⟨w, hWalk⟩ := exists_walk_segmentsOf left
        have hPath (t : List Char) : segmentsOf true (dropSlash true (beforeQuery (left ++ '/' :: t))) =
            (w.followTail t).segments := by
          rw [hLeft, hUnmarked.beforeQuery_append, ← hLeft, hWalk, Walk.followTail]
        refine ⟨w, ?_, fun t => ?_⟩
        · have hEmpty : (w.followTail []).segments = w.segments ++ [[]] :=
            w.follow_of_not_isDots (by decide)
          exact congrArg Path.segments ((hPath []).trans hEmpty)
        · refine congrArg some ?_
          simp only [withRest, withTail, hPath]
          rw [hLeft, hUnmarked.queryOf_append, hUnmarked.fragmentOf_append]

/-- Addresses of HTTP have a usual port. -/
theorem isSome_defaultPort?_of_isHttp {u : Url} (h : u.isHttp = true) :
    (defaultPort? u.scheme).isSome = true := by
  simp only [isHttp, List.contains_cons, List.contains_nil, Bool.or_false, Bool.or_eq_true, beq_iff_eq] at h
  rcases h with h | h <;> rw [defaultPort?, h] <;> rfl

/-- Addresses below a root differ from the root in nothing but what follows it. -/
theorem exists_walk_parse {root : String} {base : Url} (hBase : parse (Root.address root "") = some base)
    (hHttp : base.isHttp = true) (hQuery : base.query = none) (hFragment : base.fragment = none) :
    ∃ w : Walk, base.path = .segments (w.segments ++ [[]]) ∧
      ∀ t, parse (root ++ "/" ++ String.ofList t) = some (base.withTail w (settled t)) := by
  have hRoot : parse (root ++ "/" ++ String.ofList []) = some base := hBase
  have hSettled : settled [] = [] := rfl
  rw [parse_append_slash] at hRoot
  obtain ⟨⟨scheme, rest⟩, hScheme, hRest⟩ := Option.bind_eq_some_iff.mp hRoot
  have hSpecial : (defaultPort? scheme).isSome = true := by
    rw [← scheme_of_readRest? hRest]
    exact isSome_defaultPort?_of_isHttp hHttp
  rw [hSettled] at hRest
  simp only [readRest?, if_pos hSpecial] at hRest
  obtain ⟨w, hPath, hBelow⟩ := exists_walk_readSpecial? hRest hQuery hFragment
  refine ⟨w, hPath, fun t => ?_⟩
  simp only [parse_append_slash, hScheme, Option.bind_some, readRest?, if_pos hSpecial, hBelow]

/-- Reading goes on with a part of the text. -/
theorem subset_of_splitScheme? {scheme rest : List Char} (h : splitScheme? s = some (scheme, rest)) :
    rest ⊆ s := by
  cases s with
  | nil => cases h
  | cons c s =>
      simp only [splitScheme?] at h
      split at h
      · split at h
        · next hRest =>
            cases h
            intro d hMem
            apply List.dropWhile_subset isSchemeChar
            rw [hRest]
            exact List.mem_cons_of_mem ':' hMem
        · cases h
      · cases h

theorem subset_of_readPort? {scheme more : List Char} {port : Option Nat}
    (h : readPort? scheme s = some (port, more)) : more ⊆ s := by
  have hDigits (s : List Char) : s.dropWhile Char.isDigit ⊆ ':' :: s :=
    List.Subset.trans (List.dropWhile_subset _) (List.subset_cons_self _ _)
  simp only [readPort?] at h
  split at h
  · split at h
    · cases h
    · split at h
      · cases h
        exact hDigits _
      · split at h
        · cases h
          exact hDigits _
        · cases h
  · cases h
    exact List.Subset.refl _

theorem subset_splitUser (s : List Char) : (splitUser s).2 ⊆ s := by
  unfold splitUser
  simp only
  split
  · exact List.Subset.refl s
  · intro c hMem
    have hTaken := List.takeWhile_subset _ (List.mem_reverse.mp hMem)
    exact List.mem_reverse.mp hTaken

theorem subset_of_readAuthority? {special : Bool} {scheme rest : List Char} {authority : Authority}
    (h : readAuthority? special scheme s = some (authority, rest)) : rest ⊆ s := by
  simp only [readAuthority?] at h
  split at h
  · cases h
  · obtain ⟨host, -, h⟩ := Option.bind_eq_some_iff.mp h
    obtain ⟨⟨port, more⟩, hPort, h⟩ := Option.bind_eq_some_iff.mp h
    cases h
    refine List.append_subset.mpr ⟨?_, List.dropWhile_subset _⟩
    calc more ⊆ _ := subset_of_readPort? hPort
      _ ⊆ _ := List.drop_subset _ _
      _ ⊆ _ := subset_splitUser _
      _ ⊆ s := List.takeWhile_subset _

theorem clean_subset (s : List Char) : clean s ⊆ s := by
  rw [clean_eq]
  apply List.Sublist.subset
  calc
    List.Sublist _ (Text.dropEndWhile isMargin (s.dropWhile isMargin)) := List.filter_sublist
    List.Sublist _ (s.dropWhile isMargin) := dropEndWhile_sublist isMargin _
    List.Sublist _ s := List.dropWhile_sublist isMargin

theorem queryOf_of_not_mem (h : '?' ∉ s) (special : Bool) : queryOf special s = none := by
  have hBefore : '?' ∉ s.takeWhile (· ≠ '#') := fun hMem => h (List.takeWhile_subset _ hMem)
  have hNone := after?_append_of_not_mem hBefore (t := [])
  rw [List.append_nil] at hNone
  exact congrArg _ hNone

/-- An address that requests can be sent to has no query unless a question mark stands in its text. -/
theorem query_of_parse {text : String} {u : Url} (h : parse text = some u) (hHttp : u.isHttp = true)
    (hMark : '?' ∉ text.toList) : u.query = none := by
  obtain ⟨⟨scheme, rest⟩, hScheme, hRest⟩ := Option.bind_eq_some_iff.mp h
  have hRest : readRest? scheme rest = some u := hRest
  have hSpecial : (defaultPort? scheme).isSome = true := by
    rw [← scheme_of_readRest? hRest]
    exact isSome_defaultPort?_of_isHttp hHttp
  rw [readRest?, if_pos hSpecial] at hRest
  obtain ⟨⟨authority, tail⟩, hAuthority, hUrl⟩ := Option.bind_eq_some_iff.mp hRest
  cases hUrl
  have hTail : tail ⊆ text.toList :=
    calc tail ⊆ _ := subset_of_readAuthority? hAuthority
      _ ⊆ rest := List.dropWhile_subset _
      _ ⊆ clean text.toList := subset_of_splitScheme? hScheme
      _ ⊆ text.toList := clean_subset _
  exact queryOf_of_not_mem (fun hMem => hMark (hTail hMem)) true

end

end Scrobbler.Url
