import Scrobbler.Proofs.Json.Canonical
import Scrobbler.Storage.Disk

/-!
What operations leave on a disk. Directories stay for good, so a path that leads somewhere goes on
leading there; creating directories touches no file, and writing or removing a file touches no other.
-/

namespace Scrobbler.Disk

open DiskEntry (directory file)

variable {disk later : Disk} {place other : Place} {entry : DiskEntry} {base : Place} {path : String}

/-- The bytes of the file at a place, if there is one. -/
def file? (disk : Disk) (place : Place) : Option (List UInt8) :=
  match disk.entry? place with
  | some (.file content) => some content
  | _ => none

theorem lookup_erase : (disk.erase place).lookup other = if other = place then none else disk.lookup other := by
  unfold erase
  induction disk with
  | nil => simp
  | cons first rest ih =>
      obtain ⟨stands, entry⟩ := first
      rw [List.filter_cons]
      by_cases hStands : stands = place
      · subst hStands
        rw [if_neg (by simp), ih, List.lookup_cons]
        split
        · rfl
        · next hOther => rw [beq_false_of_ne hOther]
      · rw [if_pos (by simpa using hStands), List.lookup_cons, ih, List.lookup_cons]
        split
        · next hOther =>
            rw [if_neg]
            rintro rfl
            exact hStands (beq_iff_eq.mp hOther).symm
        · rfl

/-- A place at which something other than a directory stands, or nothing, is not the root. -/
theorem ne_root (h : disk.entry? place ≠ some directory) : place ≠ [] := by
  rintro rfl
  exact h rfl

theorem entry?_of_ne_root (h : place ≠ []) : disk.entry? place = disk.lookup place := by
  rw [ entry?, if_neg]
  simpa using h

/-- Removing an entry changes that place only. -/
theorem entry?_erase (h : place ≠ []) :
    Disk.entry? (disk.erase place) other = if other = place then none else disk.entry? other := by
  by_cases hRoot : other = []
  · subst hRoot
    rw [if_neg h.symm]
    rfl
  · rw [entry?_of_ne_root hRoot, lookup_erase, entry?_of_ne_root hRoot]

theorem entry?_set (h : place ≠ []) :
    Disk.entry? (disk.set place entry) other = if other = place then some entry else disk.entry? other := by
  by_cases hRoot : other = []
  · subst hRoot
    rw [if_neg h.symm]
    rfl
  · rw [entry?_of_ne_root hRoot, set, List.lookup_cons, lookup_erase, entry?_of_ne_root hRoot]
    split
    · next hOther => rw [if_pos (beq_iff_eq.mp hOther)]
    · next hOther =>
        have hOther : other ≠ place := by simpa using hOther
        rw [if_neg hOther, if_neg hOther]

theorem file?_eq_of_entry? (h : later.entry? other = disk.entry? other) :
    later.file? other = disk.file? other := by
  rw [file?, file?, h]

/-- Every directory of a disk is one of a later disk. -/
def KeepsDirectories (disk later : Disk) : Prop :=
  ∀ place, disk.entry? place = some directory → later.entry? place = some directory

theorem KeepsDirectories.refl (disk : Disk) : disk.KeepsDirectories disk := fun _ h => h

theorem KeepsDirectories.trans {last : Disk} (first : disk.KeepsDirectories later)
    (second : later.KeepsDirectories last) : disk.KeepsDirectories last :=
  fun place h => second place (first place h)

section Paths

/-- A step succeeds from a directory, to a name that is not too long. -/
theorem step_eq_ok {part : String} {next : Place} :
    disk.step place part = .ok next ↔
      disk.entry? place = some directory ∧ ¬longestName < Text.Utf8.size part ∧ place.follow part = next := by
  unfold step
  split
  · next hDirectory =>
      split
      · next hLong => simp [hLong]
      · next hShort => simp [hDirectory, hShort]
  · next content hFile => simp [hFile]
  · next hNone => simp [hNone]

/-- A path is walked part by part. -/
theorem walk_cons {part : String} {parts : List String} {found : Place} :
    disk.walk place (part :: parts) = .ok found ↔
      ∃ next, disk.step place part = .ok next ∧ disk.walk next parts = .ok found := by
  rw [walk, List.foldlM_cons, bind_eq_ok]
  rfl

/-- A path that could be walked still can be where no directory is lost. -/
theorem KeepsDirectories.walk {parts : List String} {found : Place} (hKeeps : disk.KeepsDirectories later)
    (h : disk.walk place parts = .ok found) : later.walk place parts = .ok found := by
  induction parts generalizing place with
  | nil => exact h
  | cons part parts ih =>
      obtain ⟨next, hStep, hWalk⟩ := walk_cons.mp h
      obtain ⟨hDirectory, hShort, hNext⟩ := step_eq_ok.mp hStep
      exact walk_cons.mpr ⟨next, step_eq_ok.mpr ⟨hKeeps place hDirectory, hShort, hNext⟩, ih hWalk⟩

/-- A path that leads somewhere goes on leading there. -/
theorem KeepsDirectories.resolve (hKeeps : disk.KeepsDirectories later)
    (h : disk.resolve base path = .ok place) : later.resolve base path = .ok place := by
  unfold Disk.resolve at h ⊢
  split at h
  · cases h
  · split at h
    · cases h
    · next hNonempty hShort =>
        rw [if_neg hNonempty, if_neg hShort]
        exact hKeeps.walk h

end Paths

/-- A later disk that has the same files, and may have more directories. -/
structure Grows (disk later : Disk) : Prop where
  directories : disk.KeepsDirectories later
  files : ∀ place, later.file? place = disk.file? place

theorem Grows.refl (disk : Disk) : disk.Grows disk := ⟨.refl disk, fun _ => rfl⟩

theorem Grows.trans {last : Disk} (first : disk.Grows later) (second : later.Grows last) : disk.Grows last :=
  ⟨first.directories.trans second.directories, fun place => (second.files place).trans (first.files place)⟩

/-- A directory takes no file's place where nothing stood. -/
theorem grows_set (h : disk.entry? place = none) : disk.Grows (disk.set place directory) := by
  have hInside : place ≠ [] := ne_root (by rw [h]; nofun)
  constructor
  · intro other hOther
    rw [entry?_set hInside]
    split
    · rfl
    · exact hOther
  · intro other
    by_cases hOther : other = place
    · subst hOther
      rw [file?, file?, entry?_set hInside, if_pos rfl, h]
    · exact file?_eq_of_entry? (by rw [entry?_set hInside, if_neg hOther])

/-- Making the directories along a path changes no file. -/
theorem grows_of_makeAlong {parts : List String} (h : disk.makeAlong place parts = .ok later) :
    disk.Grows later := by
  induction parts generalizing disk place with
  | nil =>
      obtain rfl := Except.ok.inj h
      exact .refl disk
  | cons part parts ih =>
      rw [makeAlong] at h
      split at h
      · exact ih h
      · cases h
      -- Only where nothing stands a directory is made.
      · next hNone =>
          split at h
          · cases h
          · exact (grows_set hNone).trans (ih h)

/-- Making directories changes no file. -/
theorem grows_of_makeDirectories (h : disk.makeDirectories base path = .ok later) : disk.Grows later := by
  unfold makeDirectories at h
  split at h
  · cases h
  · exact grows_of_makeAlong h

/-- A later disk on which only one place is different, and holds a file with that content or nothing. -/
structure Puts (disk : Disk) (place : Place) (content : Option (List UInt8)) (later : Disk) : Prop where
  directories : disk.KeepsDirectories later
  here : later.file? place = content
  elsewhere : ∀ other, other ≠ place → later.file? other = disk.file? other

/-- A place at which no directory stands gets other content, and all else stays as it is. -/
theorem puts_of_entry? {content : Option (List UInt8)} (h : disk.entry? place ≠ some directory)
    (hEntry : ∀ other,
      later.entry? other = if other = place then content.map file else disk.entry? other) :
    disk.Puts place content later := by
  refine ⟨fun other hOther => ?_, ?_, fun other hOther => file?_eq_of_entry? ?_⟩
  · rw [hEntry, if_neg]
    · exact hOther
    · rintro rfl
      exact h hOther
  · rw [file?, hEntry, if_pos rfl]
    cases content <;> rfl
  · rw [hEntry, if_neg hOther]

/-- Writing a file changes one place only, the one that the path leads to. -/
theorem puts_of_write {content : List UInt8} (h : disk.write base path content = .ok later) :
    ∃ place, disk.resolve base path = .ok place ∧ disk.Puts place (some content) later := by
  unfold write at h
  obtain ⟨place, hPlace, h⟩ := bind_eq_ok.mp h
  split at h
  · cases h
  · next hEntry =>
      obtain rfl := pure_eq_ok.mp h
      exact ⟨place, hPlace, puts_of_entry? hEntry fun _ => entry?_set (ne_root hEntry)⟩

theorem puts_of_remove (h : disk.remove base path = .ok later) :
    ∃ place, disk.resolve base path = .ok place ∧ disk.Puts place none later := by
  unfold remove at h
  obtain ⟨place, hPlace, h⟩ := bind_eq_ok.mp h
  split at h
  · next content hFile =>
      obtain rfl := pure_eq_ok.mp h
      have hEntry : disk.entry? place ≠ some directory := by
        rw [hFile]
        nofun
      exact ⟨place, hPlace, puts_of_entry? hEntry fun _ => entry?_erase (ne_root hEntry)⟩
  · cases h
  · cases h

/-- Nothing is found only where no file is. -/
theorem file?_of_remove (h : disk.remove base path = .error .notFound)
    (hPlace : disk.resolve base path = .ok place) : disk.file? place = none := by
  unfold remove at h
  rw [hPlace, ok_bind] at h
  split at h
  · cases h
  · cases h
  · next hNone => rw [file?, hNone]

theorem readBytes_of_file? {content : List UInt8} (hPlace : disk.resolve base path = .ok place)
    (hFile : disk.file? place = some content) : disk.readBytes base path = .ok content := by
  unfold readBytes
  rw [hPlace, ok_bind]
  unfold file? at hFile
  split at hFile
  · next other hEntry =>
      obtain rfl := Option.some.inj hFile
      rw [hEntry]
      rfl
  · cases hFile

end Scrobbler.Disk
