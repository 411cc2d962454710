import Scrobbler.Proofs.Json.Restoration
import Scrobbler.Proofs.Storage.Disk
import Scrobbler.Proofs.Text.Utf8
import Scrobbler.Storage.TokenStore

/-!
The token store on a disk. Saving and clearing change nothing but the file of the store, and a token
that was saved is loaded as it was.
-/

namespace Scrobbler

open Json (Wire DecodeError Decoder Fields)

namespace StoredToken

variable (t : StoredToken)

/-- A token is read back from the members that it is written as. -/
theorem fills_members (depth : Nat) : fields.Fills depth t.members t := by
  have hToken : (Fields.required "token" .text).Fills depth [("token", .text t.token)] t.token :=
    Fields.fills_field rfl
  have hUser : (Fields.required "user_name" .text).Fills depth [("user_name", .text t.userName)] t.userName :=
    Fields.fills_field rfl
  have hValidated : (Fields.required "validated_at" .int64).Fills depth
      [("validated_at", Json.ofInt64 t.validatedAt)] t.validatedAt :=
    Fields.fills_field (Decoder.int64_node depth t.validatedAt)
  refine ((hToken.map mk).seq hUser ?_).seq hValidated ?_
  · simp
  · simp

/-- The lines that a token is kept as are read as that token. -/
theorem ofText_render : (Wire.ofText (TokenStore.render t) : Except DecodeError StoredToken) = .ok t :=
  Decoder.runText_renderLines rfl (Fields.closed_node (t.fills_members 126))

end StoredToken

namespace TokenStore

variable {store : TokenStore} {disk later : Disk} {place : Place} {token : StoredToken}

/-- The path of the file that holds the token leads to a place. -/
def LeadsTo (store : TokenStore) (disk : Disk) (place : Place) : Prop :=
  disk.resolve store.base store.path = .ok place

/-- The path of the store leads to one place. -/
theorem LeadsTo.unique {other : Place} (h : store.LeadsTo disk place) (hOther : store.LeadsTo disk other) :
    other = place := Except.ok.inj (hOther.symm.trans h)

/-- The bytes that a token is kept as. -/
def bytes (token : StoredToken) : List UInt8 := Text.Utf8.encode (render token)

/-- A later disk on which the file of the store has that content, or is not there, and all else is as it
was. -/
structure Leaves (store : TokenStore) (disk : Disk) (content : Option (List UInt8)) (later : Disk) : Prop where
  directories : disk.KeepsDirectories later
  here : ∀ place, store.LeadsTo later place → later.file? place = content
  elsewhere : ∀ place, ¬store.LeadsTo later place → later.file? place = disk.file? place

/-- Changing the place that the store leads to is changing the store only. -/
theorem leaves_of_puts {content : Option (List UInt8)} (hPuts : disk.Puts place content later)
    (hPlace : store.LeadsTo later place) : store.Leaves disk content later where
  directories := hPuts.directories
  here other hOther := by
    obtain rfl := hPlace.unique hOther
    exact hPuts.here
  elsewhere other hOther := hPuts.elsewhere other fun hSame => hOther (hSame ▸ hPlace)

/-- Directories that were made before make no difference. -/
theorem Leaves.of_grows {grown : Disk} {content : Option (List UInt8)} (hGrows : disk.Grows grown)
    (h : store.Leaves grown content later) : store.Leaves disk content later where
  directories := hGrows.directories.trans h.directories
  here := h.here
  elsewhere place hPlace := (h.elsewhere place hPlace).trans (hGrows.files place)

/-- Saving leaves the token in the store, and all else as it was. -/
theorem leaves_of_save (h : store.save disk token = .ok later) :
    store.Leaves disk (some (bytes token)) later ∧ ∃ place, store.LeadsTo later place := by
  unfold save at h
  obtain ⟨grown, hGrown, h⟩ := bind_eq_ok.mp h
  obtain ⟨place, hPlace, hPuts⟩ := Disk.puts_of_write (mapError_eq_ok.mp h)
  have hGrows := Disk.grows_of_makeDirectories (mapError_eq_ok.mp hGrown)
  have hLeads : store.LeadsTo later place := hPuts.directories.resolve hPlace
  exact ⟨.of_grows hGrows (leaves_of_puts hPuts hLeads), place, hLeads⟩

/-- Whether a token can be saved does not depend on it. -/
theorem exists_save (h : (store.save disk token).toOption.isSome = true) (other : StoredToken) :
    ∃ later, store.save disk other = .ok later := by
  obtain ⟨later, hLater⟩ := Option.isSome_iff_exists.mp h
  have hSaved := toOption_eq_some.mp hLater
  unfold save at hSaved ⊢
  obtain ⟨grown, hGrown, hWritten⟩ := bind_eq_ok.mp hSaved
  have hWritten := mapError_eq_ok.mp hWritten
  unfold Disk.write at hWritten
  obtain ⟨place, hPlace, hSet⟩ := bind_eq_ok.mp hWritten
  split at hSet
  · cases hSet
  · next hEntry =>
      refine ⟨grown.set place (.file (Text.Utf8.encode (render other))),
        bind_eq_ok.mpr ⟨grown, hGrown, mapError_eq_ok.mpr ?_⟩⟩
      rw [Disk.write, hPlace, ok_bind, if_neg hEntry]
      rfl

/-- What is not found leaves nothing to be cleared. -/
theorem leaves_of_clear (h : store.clear disk = .ok later) : store.Leaves disk none later := by
  unfold clear at h
  split at h
  · next hRemoved =>
      obtain rfl := Except.ok.inj h
      obtain ⟨place, hPlace, hPuts⟩ := Disk.puts_of_remove hRemoved
      exact leaves_of_puts hPuts (hPuts.directories.resolve hPlace)
  · next hMissing =>
      obtain rfl := Except.ok.inj h
      exact ⟨.refl disk, fun place hPlace => Disk.file?_of_remove hMissing hPlace, fun place _ => rfl⟩
  · cases h

/-- A path that leads to the bytes of a token is one that the token is loaded from. -/
theorem load_eq_ok (hPlace : store.LeadsTo disk place) (hFile : disk.file? place = some (bytes token)) :
    store.load disk = .ok token := by
  have hText : disk.readText store.base store.path = .ok (render token) := by
    rw [Disk.readText, Disk.readBytes_of_file? hPlace hFile, ok_bind, bytes, Text.Utf8.text?_encode]
    rfl
  rw [load, hText]
  exact congrArg (Except.mapError StoreError.content) token.ofText_render

/-- A token that was saved is loaded as it was. -/
theorem load_save (h : store.save disk token = .ok later) : store.load later = .ok token := by
  obtain ⟨hLeaves, place, hPlace⟩ := leaves_of_save h
  exact load_eq_ok hPlace (hLeaves.here place hPlace)

end TokenStore

end Scrobbler
