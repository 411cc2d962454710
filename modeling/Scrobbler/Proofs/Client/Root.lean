import Mathlib.Data.List.DropRight
import Mathlib.Data.List.Infix
import Mathlib.Data.List.TakeWhile
import Mathlib.Tactic.Common
import Scrobbler.Client.Settings

/-!
Roots in normal form. The root of the listens server is in normal form when it ends in the version, and
every root is brought into that form once: a client leaves the roots of another client as they are. Spellings
of a root that differ in the version and a slash at the end have one normal form.
-/

namespace Scrobbler

namespace Root

/-- The text ends in that part. -/
def EndsIn (s part : String) : Prop := part.toList <:+ s.toList

/-- The ways to write a root that ends in neither a slash nor the version. -/
def spellings (root : String) : List String := [root, root ++ "/", root ++ "/1", root ++ "/1/"]

/-- `rest` is what is left of a path without the slashes at its head. -/
structure IsRestOf (rest path : String) : Prop where
  slashes : ∃ slashes : List Char, path.toList = slashes ++ rest.toList ∧ ∀ c ∈ slashes, c = '/'
  first : rest.toList.head? ≠ some '/'

section

variable {root : List Char}

theorem dropSlash_concat (root : List Char) : dropSlash (root ++ ['/']) = root := by
  rw [dropSlash, if_pos List.getLast?_concat, List.dropLast_concat]

theorem dropSlash_of_not_suffix (h : ¬['/'] <:+ root) : dropSlash root = root := by
  rw [dropSlash, if_neg]
  intro hLast
  obtain ⟨start, rfl⟩ := List.getLast?_eq_some_iff.mp hLast
  exact h (List.suffix_append start ['/'])

/-- The version ends in a digit. -/
theorem not_slash_suffix_of_version (h : version <:+ root) : ¬['/'] <:+ root := by
  obtain ⟨start, rfl⟩ := h
  rintro ⟨head, hHead⟩
  have hLast := congrArg List.getLast? hHead
  simp [version] at hLast

/-- A root in normal form ends in the version, which was there or is added. -/
theorem version_suffix_versionedChars (root : List Char) : version <:+ versionedChars root := by
  rw [versionedChars]
  split
  · next hVersion => exact List.isSuffixOf_iff_suffix.mp hVersion
  · exact List.suffix_append _ _

/-- What ends in the version is in normal form. -/
theorem versionedChars_of_suffix (h : version <:+ root) : versionedChars root = root := by
  rw [versionedChars, dropSlash_of_not_suffix (not_slash_suffix_of_version h),
    if_pos (List.isSuffixOf_iff_suffix.mpr h)]

/-- The normal form depends only on what is left when a slash is dropped. -/
theorem versionedChars_congr {other : List Char} (h : dropSlash root = dropSlash other) :
    versionedChars root = versionedChars other := by
  rw [versionedChars, versionedChars, h]

theorem versionedChars_concat (h : ¬['/'] <:+ root) :
    versionedChars (root ++ ['/']) = versionedChars root :=
  versionedChars_congr ((dropSlash_concat root).trans (dropSlash_of_not_suffix h).symm)

/-- The version is added to a root that has neither it nor a slash at the end. -/
theorem versionedChars_of_not_suffix (hSlash : ¬['/'] <:+ root) (hVersion : ¬version <:+ root) :
    versionedChars root = root ++ version := by
  rw [versionedChars, dropSlash_of_not_suffix hSlash,
    if_neg fun hSuffix => hVersion (List.isSuffixOf_iff_suffix.mp hSuffix)]

end

variable {root path : String}

/-- Every root ends in the version once it is in normal form. -/
theorem versioned_endsIn (root : String) : EndsIn (versioned root) "/1" := by
  show version <:+ (String.ofList (versionedChars root.toList)).toList
  rw [String.toList_ofList]
  exact version_suffix_versionedChars root.toList

/-- A root that ends in the version is left as it is. -/
theorem versioned_of_endsIn (h : EndsIn root "/1") : versioned root = root := by
  rw [versioned, versionedChars_of_suffix h, String.ofList_toList]

/-- A slash at the end makes no difference to the normal form. -/
theorem versioned_slash (h : ¬EndsIn root "/") : versioned (root ++ "/") = versioned root := by
  rw [versioned, String.toList_append]
  exact congrArg String.ofList (versionedChars_concat h)

theorem versioned_of_not_endsIn (hSlash : ¬EndsIn root "/") (hVersion : ¬EndsIn root "/1") :
    versioned root = root ++ "/1" := by
  rw [versioned, versionedChars_of_not_suffix hSlash hVersion, String.ofList_append, String.ofList_toList]
  rfl

/-- All spellings of a root have one normal form. -/
theorem versioned_of_mem_spellings (hSlash : ¬EndsIn root "/") (hVersion : ¬EndsIn root "/1") :
    ∀ spelling ∈ spellings root, versioned spelling = root ++ "/1" := by
  have hPlain := versioned_of_not_endsIn hSlash hVersion
  have hEnd : EndsIn (root ++ "/1") "/1" := by
    rw [EndsIn, String.toList_append]
    exact List.suffix_append _ _
  have hBoth : versioned (root ++ "/1/") = root ++ "/1" := by
    have hText : root ++ "/1/" = root ++ "/1" ++ "/" := by rw [String.append_assoc]; rfl
    rw [hText, versioned_slash (not_slash_suffix_of_version hEnd), versioned_of_endsIn hEnd]
  intro spelling hMem
  simp only [spellings, List.mem_cons, List.not_mem_nil, or_false] at hMem
  rcases hMem with rfl | rfl | rfl | rfl
  · exact hPlain
  · exact (versioned_slash hSlash).trans hPlain
  · exact versioned_of_endsIn hEnd
  · exact hBoth

theorem trimmed_trimmed (root : String) : trimmed (trimmed root) = trimmed root := by
  simp only [trimmed, String.toList_ofList, Text.dropEndWhile, List.reverse_reverse,
    List.dropWhile_idempotent]

/-- An address is made of the root, one slash, and the path without the slashes at its head. -/
theorem exists_isRestOf (path : String) :
    ∃ rest, IsRestOf rest path ∧ ∀ root, address root path = root ++ "/" ++ rest := by
  refine ⟨String.ofList (path.toList.dropWhile (· = '/')), ⟨?_, ?_⟩, fun root => rfl⟩
  · refine ⟨path.toList.takeWhile (· = '/'), ?_, ?_⟩
    · rw [String.toList_ofList, List.takeWhile_append_dropWhile]
    · intro c hMem
      simpa using List.mem_takeWhile_imp hMem
  · intro hHead
    have hNot := List.head?_dropWhile_not (fun c => decide (c = '/')) path.toList
    rw [String.toList_ofList] at hHead
    rw [hHead] at hNot
    simp at hNot

/-- There is only one rest of a path. -/
theorem IsRestOf.toList_eq {rest path : String} (h : IsRestOf rest path) :
    rest.toList = path.toList.dropWhile (· = '/') := by
  obtain ⟨slashes, hPath, hSlashes⟩ := h.slashes
  rw [hPath, List.dropWhile_append_of_pos fun c hMem => decide_eq_true (hSlashes c hMem)]
  cases hRest : rest.toList with
  | nil => rfl
  | cons first others =>
      have hFirst : first ≠ '/' := by
        rintro rfl
        exact h.first (congrArg List.head? hRest)
      exact (List.dropWhile_cons_of_neg (by simp [hFirst])).symm

end Root

theorem Settings.normalized_normalized (s : Settings) : s.normalized.normalized = s.normalized := by
  simp only [normalized, Root.versioned_of_endsIn (Root.versioned_endsIn s.apiRoot), Root.trimmed_trimmed]

namespace Client

open Root

theorem apiAddress_ofSettings (s : Settings) (path : String) :
    (ofSettings s).apiAddress path = address (versioned s.apiRoot) path := rfl

/-- Roots have one normal form. The root of the listens server ends in the version, it is not changed
again, and neither a slash at the end nor the version makes a difference to it, unless the root has them
already. A client with the settings of another client is that client; and the address of a path is the root,
one slash, and the path without the slashes at its head, for every spelling of the root. -/
theorem roots_canonical (root path : String) (s : Settings) :
    EndsIn (versioned root) "/1" ∧ versioned (versioned root) = versioned root ∧
      (¬EndsIn root "/" → versioned (root ++ "/") = versioned root) ∧
      (¬EndsIn root "/" → ¬EndsIn root "/1" →
        ∀ spelling ∈ spellings root, versioned spelling = root ++ "/1") ∧
      ofSettings (ofSettings s).settings = ofSettings s ∧
      ∃ rest, IsRestOf rest path ∧
        (ofSettings s).apiAddress path = versioned s.apiRoot ++ "/" ++ rest ∧
        (¬EndsIn root "/" → ¬EndsIn root "/1" → ∀ spelling ∈ spellings root,
          (ofSettings { s with apiRoot := spelling }).apiAddress path = root ++ "/1" ++ "/" ++ rest) := by
  have hEnd := versioned_endsIn root
  obtain ⟨rest, hRest, hAddress⟩ := exists_isRestOf path
  refine ⟨hEnd, versioned_of_endsIn hEnd, versioned_slash, versioned_of_mem_spellings, ?_, rest, hRest, ?_, ?_⟩
  · exact congrArg Client.mk s.normalized_normalized
  · rw [apiAddress_ofSettings, hAddress]
  · intro hSlash hVersion spelling hMem
    rw [apiAddress_ofSettings, hAddress, versioned_of_mem_spellings hSlash hVersion spelling hMem]

/-- The root of the public server has four spellings, and a path has the same address with all of them. -/
theorem roots_canonical_of_host :
    let root := "https://api.listenbrainz.org"
    ¬EndsIn root "/" ∧ ¬EndsIn root "/1" ∧
      spellings root = ["https://api.listenbrainz.org", "https://api.listenbrainz.org/",
        "https://api.listenbrainz.org/1", "https://api.listenbrainz.org/1/"] ∧
      (∀ spelling ∈ spellings root, versioned spelling = "https://api.listenbrainz.org/1") ∧
      ∀ spelling ∈ spellings root,
        (ofSettings { Settings.standard with apiRoot := spelling }).apiAddress "//user/rob/listens" =
          "https://api.listenbrainz.org/1/user/rob/listens" := by
  intro root
  have hSlash : ¬EndsIn root "/" := by
    unfold EndsIn
    decide +kernel
  have hVersion : ¬EndsIn root "/1" := by
    unfold EndsIn
    decide +kernel
  obtain ⟨-, -, -, hSpellings, -, rest, hRest, -, hAddress⟩ :=
    roots_canonical root "//user/rob/listens" Settings.standard
  have hPath : rest = "user/rob/listens" := by
    rw [← String.toList_inj, hRest.toList_eq]
    decide +kernel
  refine ⟨hSlash, hVersion, rfl, hSpellings hSlash hVersion, fun spelling hMem => ?_⟩
  rw [hAddress hSlash hVersion spelling hMem, hPath]
  rfl

end Client

end Scrobbler
