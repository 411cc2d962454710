import Mathlib.Data.List.Induction
import Scrobbler.Proofs.Program.Authentication

/-!
The stored token over whole histories. The program is used time and again, with any arguments,
environments and servers, and each run meets the disk that the one before it left. At the place of a
token store there is then nothing, or the token that was confirmed last and not cleared since.
-/

namespace Scrobbler

namespace Program

open CommandLine (Command)

/-- One use of the program: where, in which environment and when, the texts of its command line, and the
server that it meets. -/
structure Invocation where
  workingDirectory : Place
  environment : Environment
  /-- Seconds since 1970. -/
  now : Int64
  arguments : List String
  server : Server
  /-- The number of requests that the server has taken before. -/
  taken : Nat

namespace Invocation

variable (i : Invocation) (disk : Disk)

/-- The machine of a run that meets a disk. -/
def machine : Machine := ⟨i.workingDirectory, i.environment, disk, i.now⟩

def outcome : Outcome Ending := (run (i.machine disk) i.arguments).run i.server i.taken

/-- The disk that a run leaves. -/
def after : Disk := (i.outcome disk).value.disk

/-- The run comes to carry out a command on a machine. -/
structure CarriesOut (m : Machine) (command : Command) : Prop where
  prepared : prepare (i.machine disk) = .ok m
  read : Command.read m.environment i.arguments = .ok command

/-- The run has a token confirmed that is to be stored at a place. -/
def Authenticates (place : Place) (token user : String) : Prop :=
  ∃ m given, i.CarriesOut disk m (.auth given false) ∧ m.store.LeadsTo (i.after disk) place ∧
    (i.outcome disk).Confirms m.client token user

/-- The run is told to remove the token at a place. -/
def Clears (place : Place) : Prop :=
  ∃ m given, i.CarriesOut disk m (.auth given true) ∧ m.store.LeadsTo (i.after disk) place

/-- The run neither has a token confirmed for a place nor clears it. -/
def Spares (place : Place) : Prop :=
  (∀ token user, ¬i.Authenticates disk place token user) ∧ ¬i.Clears disk place

/-- The store can be written to, or cleared, when the run has to do so. -/
structure FilesWork : Prop where
  save : ∀ m given, i.CarriesOut disk m (.auth given false) →
    ∀ token, ∃ later, m.store.save m.disk token = .ok later
  clear : ∀ m given, i.CarriesOut disk m (.auth given true) → ∃ later, m.store.clear m.disk = .ok later

variable {i disk}

/-- A run carries out one command, on one machine. -/
theorem CarriesOut.unique {m other : Machine} {command next : Command} (h : i.CarriesOut disk m command)
    (hOther : i.CarriesOut disk other next) : other = m ∧ next = command := by
  obtain rfl := Except.ok.inj (hOther.prepared.symm.trans h.prepared)
  exact ⟨rfl, Except.ok.inj (hOther.read.symm.trans h.read)⟩

/-- What a run does is to carry out its command. -/
theorem CarriesOut.run {m : Machine} {command : Command} (h : i.CarriesOut disk m command) :
    i.after disk = ((perform m command).run i.server i.taken).value.2 ∧
      (i.outcome disk).sent = ((perform m command).run i.server i.taken).sent := by
  have hRun : Program.run (i.machine disk) i.arguments =
      (perform m command).bind fun result => .done ⟨result.1, none, result.2⟩ := by
    unfold Program.run
    rw [h.prepared]
    simp only [h.read]
  rw [after, outcome, hRun, Session.value_run_bind, Session.sent_run_bind]
  exact ⟨rfl, List.append_nil _⟩

/-- Up to its command a run only makes directories. -/
theorem CarriesOut.grows {m : Machine} {command : Command} (h : i.CarriesOut disk m command) :
    disk.Grows m.disk := (prepare_eq_ok h.prepared).1

/-- A run that carries out no command changes no file. -/
theorem grows_of_idle (h : ∀ m command, ¬i.CarriesOut disk m command) : disk.Grows (i.after disk) := by
  unfold after outcome Program.run
  split
  · exact .refl disk
  · next m hPrepared =>
      have hGrows : disk.Grows m.disk := (prepare_eq_ok hPrepared).1
      split
      · next reason hStop =>
          have hDisk : ((stop m.disk reason).run i.server i.taken).value.disk = m.disk := by
            cases reason with
            | help => rw [stop, Session.value_run_bind]; rfl
            | version => rfl
            | error error => rfl
          rw [hDisk]
          exact hGrows
      · next command hRead => exact absurd ⟨hPrepared, hRead⟩ (h m command)

/-- A run that validates a token keeps the one that was confirmed, if any was. -/
theorem CarriesOut.after_validate {m : Machine} {given : Option String}
    (h : i.CarriesOut disk m (.auth given false)) :
    ∃ confirmed : Option (String × String),
      (∀ token user, (i.outcome disk).Confirms m.client token user ↔ confirmed = some (token, user)) ∧
      i.after disk = confirmed.elim m.disk fun pair => kept m pair.1 pair.2 := by
  have hPerform : perform m (.auth given false) = authenticate m given false := rfl
  obtain ⟨hDisk, hSent⟩ := h.run
  obtain ⟨confirmed, hConfirms, hKept⟩ := run_authenticate m i.server i.taken given
  rw [hPerform] at hDisk hSent
  refine ⟨confirmed, fun token user => ?_, ?_⟩
  · rw [← hConfirms, Outcome.Confirms, Outcome.Confirms, hSent]
  · rw [hDisk, hKept]

/-- A run that is told to clear the store leaves the cleared disk. -/
theorem CarriesOut.after_clear {m : Machine} {given : Option String}
    (h : i.CarriesOut disk m (.auth given true)) : i.after disk = cleared m := by
  obtain ⟨exitCode, hYields⟩ := clearToken_yields m
  rw [h.run.1, perform, authenticate, if_pos rfl, (hYields i.server i.taken).1]

/-- All that a run may do to a disk: change no file, write the token that it had confirmed to the file of
its store, or clear that file. -/
theorem after_cases (i : Invocation) (disk : Disk) :
    disk.Grows (i.after disk) ∨
      (∃ m given token user, i.CarriesOut disk m (.auth given false) ∧
        (i.outcome disk).Confirms m.client token user ∧
        m.store.Leaves disk (some (TokenStore.bytes ⟨token, user, m.now⟩)) (i.after disk)) ∨
      ∃ m given, i.CarriesOut disk m (.auth given true) ∧ m.store.Leaves disk none (i.after disk) := by
  rcases Classical.em (∃ m command, i.CarriesOut disk m command) with ⟨m, command, hCarries⟩ | hIdle
  · cases command with
    | auth given clear =>
        cases clear with
        | false =>
            obtain ⟨confirmed, hConfirms, hAfter⟩ := hCarries.after_validate
            rw [hAfter]
            cases confirmed with
            | none => exact .inl hCarries.grows
            | some pair =>
                rcases kept_cases m pair.1 pair.2 with hFailed | hSaved
                · exact .inl (hFailed ▸ hCarries.grows)
                · exact .inr <| .inl ⟨m, given, pair.1, pair.2, hCarries, (hConfirms pair.1 pair.2).mpr rfl,
                    .of_grows hCarries.grows (TokenStore.leaves_of_save hSaved).1⟩
        | true =>
            rw [hCarries.after_clear]
            rcases cleared_cases m with hFailed | hCleared
            · exact .inl (hFailed ▸ hCarries.grows)
            · exact .inr <| .inr ⟨m, given, hCarries,
                .of_grows hCarries.grows (TokenStore.leaves_of_clear hCleared)⟩
    | _ =>
        rw [hCarries.run.1, disk_run_perform m i.server i.taken fun _ _ h => by cases h]
        exact .inl hCarries.grows
  · exact .inl (grows_of_idle fun m command hCarries => hIdle ⟨m, command, hCarries⟩)

variable {place : Place} {token user : String}

/-- No run removes a directory. -/
theorem keepsDirectories_after (i : Invocation) (disk : Disk) : disk.KeepsDirectories (i.after disk) := by
  rcases after_cases i disk with hGrows | ⟨m, given, token, user, -, -, hLeaves⟩ | ⟨m, given, -, hLeaves⟩
  · exact hGrows.directories
  · exact hLeaves.directories
  · exact hLeaves.directories

/-- A run that spares a place leaves its file as it is. -/
theorem file?_after_of_spares (h : i.Spares disk place) : (i.after disk).file? place = disk.file? place := by
  rcases after_cases i disk with hGrows | ⟨m, given, token, user, hCarries, hConfirms, hLeaves⟩ |
    ⟨m, given, hCarries, hLeaves⟩
  · exact hGrows.files place
  · exact hLeaves.elsewhere place fun hPlace => h.1 token user ⟨m, given, hCarries, hPlace, hConfirms⟩
  · exact hLeaves.elsewhere place fun hPlace => h.2 ⟨m, given, hCarries, hPlace⟩

/-- A run that authenticates leaves its token at the place. -/
theorem file?_after_of_authenticates (h : i.Authenticates disk place token user) (hWork : i.FilesWork disk) :
    (i.after disk).file? place = some (TokenStore.bytes ⟨token, user, i.now⟩) := by
  obtain ⟨m, given, hCarries, hPlace, hConfirmed⟩ := h
  obtain ⟨confirmed, hConfirms, hAfter⟩ := hCarries.after_validate
  obtain rfl := (hConfirms token user).mp hConfirmed
  have hNow : m.now = i.now := (prepare_eq_ok hCarries.prepared).2
  obtain ⟨later, hSave⟩ := hWork.save m given hCarries ⟨token, user, m.now⟩
  have hLater : i.after disk = later := by
    rw [hAfter, Option.elim_some, kept, hSave]
    rfl
  rw [hLater] at hPlace ⊢
  rw [(TokenStore.leaves_of_save hSave).1.here place hPlace, hNow]

/-- A run that clears a place leaves no file there. -/
theorem file?_after_of_clears (h : i.Clears disk place) (hWork : i.FilesWork disk) :
    (i.after disk).file? place = none := by
  obtain ⟨m, given, hCarries, hPlace⟩ := h
  obtain ⟨later, hClear⟩ := hWork.clear m given hCarries
  have hLater : i.after disk = later := by
    rw [hCarries.after_clear, cleared, hClear]
    rfl
  rw [hLater] at hPlace ⊢
  exact (TokenStore.leaves_of_clear hClear).here place hPlace

/-- Each run does one of three things to a place. -/
theorem authenticates_or_clears_or_spares (i : Invocation) (disk : Disk) (place : Place) :
    (∃ token user, i.Authenticates disk place token user) ∨ i.Clears disk place ∨ i.Spares disk place := by
  rcases Classical.em (∃ token user, i.Authenticates disk place token user) with hConfirmed | hNone
  · exact .inl hConfirmed
  · rcases Classical.em (i.Clears disk place) with hClears | hKeeps
    · exact .inr (.inl hClears)
    · exact .inr (.inr ⟨fun token user h => hNone ⟨token, user, h⟩, hKeeps⟩)

/-- No run both authenticates and clears. -/
theorem not_clears_of_authenticates (h : i.Authenticates disk place token user) : ¬i.Clears disk place := by
  rintro ⟨other, next, hOther, -⟩
  obtain ⟨m, given, hCarries, -⟩ := h
  obtain ⟨-, hCommand⟩ := hCarries.unique hOther
  cases hCommand

end Invocation

/-- The disk that a history leaves, run after run. -/
def diskAfter (disk : Disk) (history : List Invocation) : Disk :=
  history.foldl (fun disk i => i.after disk) disk

/-- Every run of a history has the property, on the disk that it meets. -/
def Throughout (P : Invocation → Disk → Prop) (disk : Disk) : List Invocation → Prop
  | [] => True
  | i :: rest => P i disk ∧ Throughout P (i.after disk) rest

/-- A run of the history authenticates at a place, and no later one does so or clears it. -/
def Prevails (place : Place) (disk : Disk) (history : List Invocation) (token user : String) : Prop :=
  ∃ earlier i later, history = earlier ++ i :: later ∧
    i.Authenticates (diskAfter disk earlier) place token user ∧
    Throughout (fun next disk => next.Spares disk place) (diskAfter disk (earlier ++ [i])) later

section History

variable {disk : Disk} {place : Place} {history : List Invocation} {i : Invocation} {token user : String}

theorem diskAfter_append {later : List Invocation} :
    diskAfter disk (history ++ later) = diskAfter (diskAfter disk history) later := List.foldl_append

theorem throughout_append {P : Invocation → Disk → Prop} {later : List Invocation} :
    Throughout P disk (history ++ later) ↔
      Throughout P disk history ∧ Throughout P (diskAfter disk history) later := by
  induction history generalizing disk with
  | nil => simp [Throughout, diskAfter]
  | cons first rest ih =>
      rw [List.cons_append, Throughout, ih, Throughout, and_assoc]
      rfl

/-- A property holds throughout a longer history if it also holds of the last run. -/
theorem throughout_concat {P : Invocation → Disk → Prop} :
    Throughout P disk (history ++ [i]) ↔ Throughout P disk history ∧ P i (diskAfter disk history) := by
  rw [throughout_append, Throughout, Throughout, and_true]

/-- No history removes a directory; by induction on its runs. -/
theorem keepsDirectories_diskAfter (disk : Disk) (history : List Invocation) :
    disk.KeepsDirectories (diskAfter disk history) := by
  induction history generalizing disk with
  | nil => exact .refl disk
  | cons i rest ih => exact (i.keepsDirectories_after disk).trans (ih (i.after disk))

/-- A path that leads to a place goes on leading there, so a later run with the same store that is told to
clear its token clears that place. -/
theorem leadsTo_diskAfter {store : TokenStore} (h : store.LeadsTo disk place) (history : List Invocation) :
    store.LeadsTo (diskAfter disk history) place := (keepsDirectories_diskAfter disk history).resolve h

/-- The last run decides: it authenticates itself, or it spares what an earlier one did. -/
theorem prevails_concat_iff :
    Prevails place disk (history ++ [i]) token user ↔
      i.Authenticates (diskAfter disk history) place token user ∨
        Prevails place disk history token user ∧ i.Spares (diskAfter disk history) place := by
  constructor
  · rintro ⟨earlier, first, later, hSplit, hFirst, hLater⟩
    -- Either nothing follows the run that prevails, or what follows ends with the last run.
    rcases List.eq_nil_or_concat later with rfl | ⟨between, last, rfl⟩
    · obtain ⟨rfl, hLast⟩ := List.append_inj' hSplit rfl
      obtain rfl := List.singleton_inj.mp hLast
      exact .inl hFirst
    · rw [List.concat_eq_append, ← List.cons_append, ← List.append_assoc] at hSplit
      obtain ⟨rfl, hLast⟩ := List.append_inj' hSplit rfl
      obtain rfl := List.singleton_inj.mp hLast
      rw [List.concat_eq_append, throughout_concat, ← diskAfter_append, List.append_assoc,
        List.singleton_append] at hLater
      exact .inr ⟨⟨earlier, first, between, rfl, hFirst, hLater.1⟩, hLater.2⟩
  · rintro (hLast | ⟨⟨earlier, first, later, rfl, hFirst, hLater⟩, hSpares⟩)
    · exact ⟨history, i, [], rfl, hLast, trivial⟩
    · refine ⟨earlier, first, later ++ [i], by simp, hFirst, throughout_concat.mpr ⟨hLater, ?_⟩⟩
      rwa [← diskAfter_append, List.append_assoc, List.singleton_append]

/-- A place holds no file, or it holds the token that prevails there. -/
def Holds (place : Place) (disk : Disk) (history : List Invocation) : Prop :=
  ((diskAfter disk history).file? place = none ∧ ∀ token user, ¬Prevails place disk history token user) ∨
    ∃ token user seconds, Prevails place disk history token user ∧
      (diskAfter disk history).file? place = some (TokenStore.bytes ⟨token, user, seconds⟩)

/-- What one more run preserves. -/
theorem Holds.concat (h : Holds place disk history) (hWork : i.FilesWork (diskAfter disk history)) :
    Holds place disk (history ++ [i]) := by
  have hAfter : diskAfter disk (history ++ [i]) = i.after (diskAfter disk history) := diskAfter_append
  unfold Holds
  simp only [prevails_concat_iff, hAfter]
  rcases i.authenticates_or_clears_or_spares (diskAfter disk history) place with
    ⟨token, user, hConfirmed⟩ | hClears | hSpares
  · exact .inr ⟨token, user, i.now, .inl hConfirmed, i.file?_after_of_authenticates hConfirmed hWork⟩
  · refine .inl ⟨i.file?_after_of_clears hClears hWork, ?_⟩
    rintro token user (hConfirmed | ⟨-, hSpares⟩)
    · exact Invocation.not_clears_of_authenticates hConfirmed hClears
    · exact hSpares.2 hClears
  · rw [Invocation.file?_after_of_spares hSpares]
    rcases h with ⟨hFile, hNone⟩ | ⟨token, user, seconds, hPrevails, hFile⟩
    · refine .inl ⟨hFile, ?_⟩
      rintro token user (hConfirmed | ⟨hPrevails, -⟩)
      · exact hSpares.1 token user hConfirmed
      · exact hNone token user hPrevails
    · exact .inr ⟨token, user, seconds, .inr ⟨hPrevails, hSpares⟩, hFile⟩

/-- What a whole history preserves. -/
theorem holds_of_filesWork (hNone : disk.file? place = none)
    (hWork : Throughout (fun i disk => i.FilesWork disk) disk history) : Holds place disk history := by
  -- From the end of the history, as the last run meets the disk that all the others left.
  induction history using List.reverseRecOn with
  | nil =>
      refine .inl ⟨hNone, ?_⟩
      rintro token user ⟨earlier, i, later, hSplit, -⟩
      exact absurd hSplit (by simp)
  | append_singleton history i ih =>
      obtain ⟨hBefore, hLast⟩ := throughout_concat.mp hWork
      exact (ih hBefore).concat hLast

/-- The store of the run that prevails still finds its file. -/
theorem Prevails.exists_leadsTo (h : Prevails place disk history token user) :
    ∃ store : TokenStore, store.LeadsTo (diskAfter disk history) place := by
  obtain ⟨earlier, i, later, rfl, ⟨m, given, -, hPlace, -⟩, -⟩ := h
  have hSplit : diskAfter disk (earlier ++ i :: later) =
      diskAfter (i.after (diskAfter disk earlier)) later := diskAfter_append
  rw [hSplit]
  exact ⟨m.store, leadsTo_diskAfter hPlace later⟩

/-- Starting from no stored token, and as long as the token file can be written and removed, a place
holds no file after any history in which no confirmed token prevails there, and otherwise the token that
does: the one that a server has confirmed last, if it was not cleared since, with its user. Every store
whose path leads to the place loads it. A run in which no token is confirmed for the place, and that does
not clear it, leaves the file there as it was; and a token is always loaded as it was saved. -/
theorem stored_token_of_history (place : Place) (disk : Disk) (history : List Invocation)
    (hNone : disk.file? place = none)
    (hWork : Throughout (fun i disk => i.FilesWork disk) disk history) :
    (((diskAfter disk history).file? place = none ∧
          ∀ token user, ¬Prevails place disk history token user) ∨
        ∃ token user seconds, Prevails place disk history token user ∧
          (diskAfter disk history).file? place = some (TokenStore.bytes ⟨token, user, seconds⟩) ∧
          (∃ store : TokenStore, store.LeadsTo (diskAfter disk history) place) ∧
          ∀ store : TokenStore, store.LeadsTo (diskAfter disk history) place →
            store.load (diskAfter disk history) = .ok ⟨token, user, seconds⟩) ∧
      (∀ (i : Invocation) (met : Disk), (∀ token user, ¬i.Authenticates met place token user) →
        ¬i.Clears met place → (i.after met).file? place = met.file? place) ∧
      ∀ (store : TokenStore) (met later : Disk) (token : StoredToken), store.save met token = .ok later →
        store.load later = .ok token := by
  refine ⟨?_, fun i met hNot hClears => Invocation.file?_after_of_spares ⟨hNot, hClears⟩,
    fun store met later token hSave => TokenStore.load_save hSave⟩
  rcases holds_of_filesWork hNone hWork with hNothing | ⟨token, user, seconds, hPrevails, hFile⟩
  · exact .inl hNothing
  · exact .inr ⟨token, user, seconds, hPrevails, hFile, hPrevails.exists_leadsTo,
      fun store hPlace => TokenStore.load_eq_ok hPlace hFile⟩

end History

section Validations

/-- The store of a machine can be written to and cleared as soon as it can be written to once. -/
theorem Invocation.filesWork_of_all {i : Invocation} {disk : Disk}
    (h : (prepare (i.machine disk)).toOption.all (fun m =>
      (m.store.save m.disk ⟨"", "", 0⟩).toOption.isSome && (m.store.clear m.disk).toOption.isSome) = true) :
    i.FilesWork disk := by
  have hReady : ∀ m command, i.CarriesOut disk m command →
      (m.store.save m.disk ⟨"", "", 0⟩).toOption.isSome = true ∧
        (m.store.clear m.disk).toOption.isSome = true := by
    intro m command hCarries
    rw [hCarries.prepared] at h
    exact (Bool.and_eq_true _ _).mp h
  constructor
  · intro m given hCarries token
    exact TokenStore.exists_save (hReady m _ hCarries).1 token
  · intro m given hCarries
    obtain ⟨later, hLater⟩ := Option.isSome_iff_exists.mp (hReady m _ hCarries).2
    exact ⟨later, toOption_eq_some.mp hLater⟩

/-- A run that validates a token, from the root of a disk and with a listens server on the same machine. -/
def validation (server : Server) : Invocation where
  workingDirectory := []
  environment := [("HOME", "/home"), ("LISTENBRAINZ_API_URL", "http://[::1]")]
  now := 7
  arguments := ["auth", "--token", "secret"]
  server := server
  taken := 0

/-- A server that knows one user, and is asked once. -/
def confirmingServer : Server :=
  .ofReplies [.answer ⟨⟨200⟩, [], Text.Utf8.encode "\x7b\"valid\":true,\"user_name\":\"rob\"\x7d"⟩]

/-- On an empty disk, a token that is confirmed is loaded after another attempt has failed. -/
theorem stored_token_of_two_validations :
    let place : Place := ["token.json", "cache", "lbcli", "share", ".local", "home"]
    let store : TokenStore := ⟨[], "/home/.local/share/lbcli"⟩
    let history := [validation confirmingServer, validation .unreachable]
    (Disk.file? [] place = none ∧ Throughout (fun i disk => i.FilesWork disk) [] history) ∧
      Prevails place [] history "secret" "rob" ∧
        store.load (diskAfter [] history) = .ok ⟨"secret", "rob", 7⟩ := by
  intro place store history
  have hNone : Disk.file? [] place = none := rfl
  have hWork : Throughout (fun i disk => i.FilesWork disk) [] history :=
    ⟨Invocation.filesWork_of_all (by decide +kernel), Invocation.filesWork_of_all (by decide +kernel), trivial⟩
  obtain ⟨hPlace, hFile, hLoaded⟩ :
      (diskAfter [] history).resolve store.base store.path = .ok place ∧
        (Disk.file? (diskAfter [] history) place).isSome = true ∧
        (store.load (diskAfter [] history)).toOption = some ⟨"secret", "rob", 7⟩ := by
    decide +kernel
  have hLoaded := toOption_eq_some.mp hLoaded
  obtain ⟨⟨hNothing, -⟩ | ⟨token, user, seconds, hPrevails, -, -, hLoad⟩, -⟩ :=
    stored_token_of_history place [] history hNone hWork
  · rw [hNothing] at hFile
    cases hFile
  · have hSame := Except.ok.inj ((hLoad store hPlace).symm.trans hLoaded)
    obtain ⟨rfl, rfl, rfl⟩ := StoredToken.mk.inj hSame
    exact ⟨⟨hNone, hWork⟩, hPrevails, hLoaded⟩

end Validations

end Program

end Scrobbler
