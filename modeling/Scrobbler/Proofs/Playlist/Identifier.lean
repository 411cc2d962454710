import Mathlib.Tactic.Common
import Scrobbler.Playlist.Basic
import Scrobbler.Proofs.Text.Search

/-!
Identifiers of playlists. The MBID of a playlist is the last segment of its identifier that is not empty:
an identifier has at most one such segment, it has none only if it holds nothing but slashes, and slashes
at its end make no difference.
-/

namespace Scrobbler

namespace Playlist

/-- `segment` is the last segment of a path: it is not empty, no slash is in it, only slashes follow, and
what comes before it ends in a slash, if anything does. -/
structure IsLastSegment (segment path : List Char) : Prop where
  place : ∃ before slashes, path = before ++ segment ++ slashes ∧
    (before = [] ∨ before.getLast? = some '/') ∧ ∀ c ∈ slashes, c = '/'
  ne_nil : segment ≠ []
  slash_not_mem : '/' ∉ segment

section

variable {path segment other slashes : List Char}

/-- What comes before the last segment ends the search for it. -/
theorem takeWhile_reverse_append {before : List Char} (hBefore : before = [] ∨ before.getLast? = some '/')
    (hSegment : '/' ∉ segment) :
    (before ++ segment).reverse.takeWhile (· ≠ '/') = segment.reverse := by
  have hTaken : ∀ c ∈ segment.reverse, decide (c ≠ '/') = true := by
    intro c hMem
    rw [decide_eq_true_eq]
    rintro rfl
    exact hSegment (List.mem_reverse.mp hMem)
  rw [List.reverse_append, List.takeWhile_append_of_pos hTaken]
  rcases hBefore with rfl | hLast
  · simp
  · obtain ⟨start, rfl⟩ := List.getLast?_eq_some_iff.mp hLast
    simp

/-- The last segment is found. -/
theorem lastSegment?_of_isLastSegment (h : IsLastSegment segment path) : lastSegment? path = some segment := by
  obtain ⟨⟨before, slashes, rfl, hBefore, hSlashes⟩, hNe, hSlash⟩ := h
  have hLast : ∃ c, (before ++ segment).getLast? = some c ∧ decide (c = '/') = false := by
    refine ⟨segment.getLast hNe, ?_, ?_⟩
    · rw [List.getLast?_append_of_ne_nil _ hNe, List.getLast?_eq_some_getLast hNe]
    · rw [decide_eq_false_iff_not]
      exact fun hEq => hSlash (hEq ▸ List.getLast_mem hNe)
  have hTrimmed : Text.dropEndWhile (· = '/') (before ++ segment ++ slashes) = before ++ segment := by
    rw [Text.dropEndWhile_append_of_pos (by simpa using hSlashes), Text.dropEndWhile_of_last hLast]
  rw [lastSegment?, hTrimmed, takeWhile_reverse_append hBefore hSlash]
  simp [hNe]

/-- What is found is the last segment. -/
theorem isLastSegment_of_eq_some (h : lastSegment? path = some segment) : IsLastSegment segment path := by
  -- The slashes at the end are dropped first, and the segment is taken from the end of what is left.
  let trimmed := Text.dropEndWhile (· = '/') path
  let taken := trimmed.reverse.takeWhile (· ≠ '/')
  have hPath : trimmed ++ (path.reverse.takeWhile (· = '/')).reverse = path := Text.dropEndWhile_append _ path
  have hTrimmed : Text.dropEndWhile (· ≠ '/') trimmed ++ taken.reverse = trimmed :=
    Text.dropEndWhile_append _ trimmed
  have hFound : (if taken.isEmpty then none else some taken.reverse) = some segment := h
  split at hFound
  · cases hFound
  · next hNe =>
      obtain rfl := Option.some.inj hFound
      refine ⟨⟨Text.dropEndWhile (· ≠ '/') trimmed, _, by rw [hTrimmed, hPath], ?_, ?_⟩, ?_, ?_⟩
      · by_cases hNil : Text.dropEndWhile (· ≠ '/') trimmed = []
        · exact .inl hNil
        · obtain ⟨c, hLast, hStop⟩ := Text.exists_last_dropEndWhile hNil
          obtain rfl : c = '/' := by simpa using hStop
          exact .inr hLast
      · intro c hMem
        simpa using List.mem_takeWhile_imp (List.mem_reverse.mp hMem)
      · simpa using hNe
      · intro hMem
        simpa using List.mem_takeWhile_imp (List.mem_reverse.mp hMem)

/-- The last segment is the one that is found, and no other. -/
theorem lastSegment?_eq_some_iff : lastSegment? path = some segment ↔ IsLastSegment segment path :=
  ⟨isLastSegment_of_eq_some, lastSegment?_of_isLastSegment⟩

/-- A path without a last segment is made of slashes. -/
theorem lastSegment?_eq_none_iff : lastSegment? path = none ↔ ∀ c ∈ path, c = '/' := by
  have hSlashes : (∀ c ∈ path, c = '/') ↔ Text.dropEndWhile (· = '/') path = [] := by
    rw [Text.dropEndWhile_eq_nil_iff]
    simp
  rw [hSlashes, lastSegment?]
  by_cases hNil : Text.dropEndWhile (· = '/') path = []
  · simp [hNil]
  · obtain ⟨c, hLast, hStop⟩ := Text.exists_last_dropEndWhile hNil
    obtain ⟨start, hTrimmed⟩ := List.getLast?_eq_some_iff.mp hLast
    have hNe : c ≠ '/' := by simpa using hStop
    simp [hTrimmed, hNe]

/-- Slashes at the end do not change the last segment. -/
theorem lastSegment?_append_slashes (h : ∀ c ∈ slashes, c = '/') :
    lastSegment? (path ++ slashes) = lastSegment? path := by
  rw [lastSegment?, Text.dropEndWhile_append_of_pos (by simpa using h), lastSegment?]

/-- A path has one last segment at most. -/
theorem IsLastSegment.unique (h : IsLastSegment segment path) (hOther : IsLastSegment other path) :
    segment = other := by
  rw [← lastSegment?_eq_some_iff] at h hOther
  exact Option.some.inj (h.symm.trans hOther)

end

theorem mbid?_of_identifier {p : Playlist} {identifier : String} (h : p.identifier = some identifier) :
    p.mbid? = (lastSegment? identifier.toList).map String.ofList := by
  rw [mbid?, h, Option.bind_some]

/-- The identifier of a playlist is the last segment of its address. -/
theorem mbid?_eq_some_iff {p : Playlist} {mbid : String} :
    p.mbid? = some mbid ↔
      ∃ identifier, p.identifier = some identifier ∧ IsLastSegment mbid.toList identifier.toList := by
  rw [mbid?, Option.bind_eq_some_iff]
  refine exists_congr fun identifier => and_congr_right fun _ => ?_
  rw [← lastSegment?_eq_some_iff, Option.map_eq_some_iff]
  constructor
  · rintro ⟨segment, hSegment, rfl⟩
    rw [hSegment, String.toList_ofList]
  · intro hSegment
    exact ⟨mbid.toList, hSegment, String.ofList_toList⟩

/-- There is no identifier where there is no address, or one of slashes only. -/
theorem mbid?_eq_none_iff {p : Playlist} :
    p.mbid? = none ↔
      p.identifier = none ∨
        ∃ identifier, p.identifier = some identifier ∧ ∀ c ∈ identifier.toList, c = '/' := by
  cases hIdentifier : p.identifier with
  | none => simp [mbid?, hIdentifier]
  | some identifier =>
      rw [mbid?_of_identifier hIdentifier, Option.map_eq_none_iff, lastSegment?_eq_none_iff]
      simp

/-- The MBID of a playlist is the last segment of its identifier, and there is none exactly if there is no
identifier or one of slashes alone. No identifier has two last segments; the MBID is not empty and has no
slash in it; and it stays the same when slashes are added to the identifier. -/
theorem mbid?_is_last_segment (p : Playlist) :
    (∀ mbid, p.mbid? = some mbid ↔
        ∃ identifier, p.identifier = some identifier ∧ IsLastSegment mbid.toList identifier.toList) ∧
      (p.mbid? = none ↔
        p.identifier = none ∨
          ∃ identifier, p.identifier = some identifier ∧ ∀ c ∈ identifier.toList, c = '/') ∧
      (∀ identifier segment other, IsLastSegment segment identifier → IsLastSegment other identifier →
        segment = other) ∧
      (∀ mbid, p.mbid? = some mbid → mbid ≠ "" ∧ '/' ∉ mbid.toList) ∧
      ∀ identifier slashes, p.identifier = some identifier → (∀ c ∈ slashes.toList, c = '/') →
        ({ p with identifier := some (identifier ++ slashes) } : Playlist).mbid? = p.mbid? := by
  refine ⟨fun _ => mbid?_eq_some_iff, mbid?_eq_none_iff, fun _ _ _ h hOther => h.unique hOther, ?_, ?_⟩
  · intro mbid hMbid
    obtain ⟨identifier, -, -, hNe, hSlash⟩ := mbid?_eq_some_iff.mp hMbid
    refine ⟨?_, hSlash⟩
    rintro rfl
    exact hNe rfl
  · intro identifier slashes hIdentifier hSlashes
    rw [mbid?_of_identifier hIdentifier, mbid?_of_identifier rfl, String.toList_append,
      lastSegment?_append_slashes hSlashes]

/-- An identifier with slashes at its end and inside. -/
theorem mbid?_of_slashes_at_end :
    let identifier := "listenbrainz.org/playlist//8f2ä//"
    let p : Playlist := ⟨"Slow", none, none, some identifier, none, [], []⟩
    IsLastSegment "8f2ä".toList identifier.toList ∧ p.mbid? = some "8f2ä" ∧
      (∀ segment, IsLastSegment segment identifier.toList → segment = "8f2ä".toList) ∧
      "8f2ä" ≠ "" ∧ '/' ∉ "8f2ä".toList ∧ (∀ c ∈ "///".toList, c = '/') ∧
      ({ p with identifier := some (identifier ++ "///") } : Playlist).mbid? = some "8f2ä" := by
  intro identifier p
  have hSegment : IsLastSegment "8f2ä".toList identifier.toList :=
    ⟨⟨"listenbrainz.org/playlist//".toList, "//".toList, by decide +kernel, .inr (by decide +kernel),
      by simp⟩, by simp, by simp⟩
  have hSlashes : ∀ c ∈ "///".toList, c = '/' := by simp
  obtain ⟨hSome, -, hUnique, hProper, hAppend⟩ := mbid?_is_last_segment p
  have hMbid : p.mbid? = some "8f2ä" := (hSome _).mpr ⟨_, rfl, hSegment⟩
  obtain ⟨hNe, hSlash⟩ := hProper _ hMbid
  exact ⟨hSegment, hMbid, fun segment h => hUnique _ _ _ h hSegment, hNe, hSlash, hSlashes,
    (hAppend _ _ rfl hSlashes).trans hMbid⟩

end Playlist

end Scrobbler
