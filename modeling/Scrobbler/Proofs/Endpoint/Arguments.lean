import Scrobbler.Proofs.Endpoint.Call

/-!
Required texts of calls. A call looks at some of them before anything is sent, and is refused for the
first of these that is blank. Other required texts are sent as they are, blank or not.
-/

namespace Scrobbler.Call

variable {α : Type}

/-- The required texts that a call looks at, in order, each after the name that it has in errors. -/
def checkedTexts : Call α → List (String × String)
  | feed user token .. | follow user token | unfollow user token =>
      [("username", user), ("user token", token)]
  | listens user .. | listenCount user | followers user | following user | similarUsers user
  | recommendTrack user .. | feedback user .. | feedbackOn user _ | recommendationRatings user _
  | playlists user .. | pins user .. | topEntities user .. | listeningActivity user _
  | dailyActivity user _ | artistMap user .. => [("username", user)]
  | validateToken token => [("user token", token)]
  | createPlaylist _ document => [("playlist title", document.playlist.title)]
  | editPlaylist _ mbid _ | playlist mbid _ | addTracks _ mbid .. | deleteTracks _ mbid ..
  | moveTracks _ mbid .. | copyPlaylist _ mbid | deletePlaylist _ mbid => [("playlist MBID", mbid)]
  | lookupRelease mbid => [("release MBID", mbid)]
  | lookupReleasesWith trackMbid => [("track MBID", trackMbid)]
  | submitReview accessToken _ => [("access token", accessToken)]
  | _ => []

/-- The required texts that a call sends as they are. -/
def uncheckedTexts : Call α → List String
  | deleteListen token recordingMsid _ | submitFeedback token recordingMsid _
  | pin token recordingMsid .. => [token, recordingMsid]
  | rateRecommendation token recordingMbid _ | unrateRecommendation token recordingMbid
  | moveTracks token _ recordingMbid .. => [token, recordingMbid]
  | latestImport user service => [user, service]
  | setLatestImport token service _ => [token, service]
  | coverArt releaseMbid recordingMsid => [releaseMbid, recordingMsid]
  | recommendTrack _ token _ | createPlaylist token _ | editPlaylist token .. | addTracks token ..
  | deleteTracks token .. | copyPlaylist token _ | deletePlaylist token _ | unpin token
  | deletePin token _ => [token]
  | feedbackOn _ recordings => [recordings]
  | recommendationRatings _ mbids => [mbids]
  | _ => []

/-- The texts that a call cannot do without. -/
def requiredTexts (call : Call α) : List String :=
  call.checkedTexts.map Prod.snd ++ call.uncheckedTexts

/-- The name of the first blank text. -/
def missing? (texts : List (String × String)) : Option String :=
  (texts.find? fun text => Text.isBlank text.2).map Prod.fst

/-- A page is asked for with both a beginning and an end. -/
def hasBothEnds : Call α → Bool
  | listens _ minTs maxTs _ => minTs.any (· ≠ 0) && maxTs.any (· ≠ 0)
  | _ => false

/-- Arguments are refused for the first of the texts that is blank, and only then for their ends. -/
structure Refuses {β : Type} (texts : List (String × String)) (bothEnds : Bool) (result : Checked β) :
    Prop where
  missing : ∀ name, result = .error (.missingArgument name) ↔ missing? texts = some name
  invalid : (∃ reason, result = .error (.invalidArgument reason)) ↔ missing? texts = none ∧ bothEnds = true
  accepted : (∃ value, result = .ok value) ↔ missing? texts = none ∧ bothEnds = false

namespace Refuses

variable {β : Type} {texts : List (String × String)} {bothEnds : Bool} {value name : String}
  {next : String → Checked β}

theorem done (value : β) : Refuses [] false (.ok value) := by
  constructor <;> simp [missing?]

/-- A text that is looked at is the first of those that are looked at from there on. -/
theorem require (h : Refuses texts bothEnds (next value)) :
    Refuses ((name, value) :: texts) bothEnds (require value name >>= next) := by
  by_cases hBlank : Text.isBlank value = true
  · constructor <;> simp [require_bind, missing?, hBlank, eq_comm]
  · have hMissing : missing? ((name, value) :: texts) = missing? texts := by simp [missing?, hBlank]
    rw [require_bind, if_neg hBlank]
    exact ⟨by rw [hMissing]; exact h.missing, by rw [hMissing]; exact h.invalid,
      by rw [hMissing]; exact h.accepted⟩

/-- A call that checks no texts refuses a range with both ends, and nothing else. -/
theorem guarded (reason : String) (value : β) :
    Refuses [] bothEnds (if bothEnds = true then .error (.invalidArgument reason) else .ok value) := by
  cases bothEnds <;> constructor <;> simp [missing?]

end Refuses

/-- A call looks at its texts in their order, and at nothing else but the ends of a page. -/
theorem exchange_refuses (c : Client) (call : Call α) :
    Refuses call.checkedTexts call.hasBothEnds (call.exchange c) := by
  cases call with
  | recentListens | deleteListen | latestImport | setLatestImport | submitFeedback
  | rateRecommendation | unrateRecommendation | pin | unpin | deletePin | coverArt | releasesOfColor =>
      exact .done _
  | feed | follow | unfollow => exact .require (.require (.done _))
  | listens => exact .require (.guarded _ _)
  | _ => exact .require (.done _)

/-- There is no other reason to refuse a call before it is sent. -/
theorem exists_argument_of_error {c : Client} {call : Call α} {error : ServiceError}
    (h : call.exchange c = .error error) :
    ∃ text, error = .missingArgument text ∨ error = .invalidArgument text := by
  have hRefuses := exchange_refuses c call
  cases hMissing : missing? call.checkedTexts with
  | some name =>
      have hNamed := (hRefuses.missing name).mpr hMissing
      exact ⟨name, .inl (Except.error.inj (h.symm.trans hNamed))⟩
  | none =>
      cases hEnds : call.hasBothEnds with
      | true =>
          obtain ⟨reason, hInvalid⟩ := hRefuses.invalid.mpr ⟨hMissing, hEnds⟩
          exact ⟨reason, .inr (Except.error.inj (h.symm.trans hInvalid))⟩
      | false =>
          obtain ⟨e, hAccepted⟩ := hRefuses.accepted.mpr ⟨hMissing, hEnds⟩
          cases h.symm.trans hAccepted

/-- A text is missing exactly if one of those checked is blank. -/
theorem exists_missing?_iff {texts : List (String × String)} :
    (∃ name, missing? texts = some name) ↔ ∃ text ∈ texts, Text.isBlank text.2 = true := by
  simp only [missing?, Option.map_eq_some_iff]
  constructor
  · rintro ⟨name, text, hFound, -⟩
    have hBlank := List.find?_some hFound
    exact ⟨text, List.mem_of_find?_eq_some hFound, hBlank⟩
  · rintro ⟨text, hMem, hBlank⟩
    have hSome : (texts.find? fun text => Text.isBlank text.2).isSome = true :=
      List.find?_isSome.mpr ⟨text, hMem, hBlank⟩
    obtain ⟨first, hFound⟩ := Option.isSome_iff_exists.mp hSome
    exact ⟨first.1, first, hFound, rfl⟩

/-- A call that takes required texts is refused for a missing one, and sends nothing, exactly if one of
those that it looks at is blank; the first of these is named. A blank text that it does not look at is
sent: one request is attempted unless a checked text is blank or a page has both ends. -/
theorem refused_iff_checked_blank (c : Client) (call : Call α) (server : Server) (taken : Nat) :
    let o := (call.session c).run server taken
    ((∃ name, o.value = .error (.missingArgument name) ∧ o.attempts = []) ↔
        ∃ text ∈ call.checkedTexts, Text.isBlank text.2 = true) ∧
      (∀ name, (o.value = .error (.missingArgument name) ∧ o.attempts = []) ↔
        missing? call.checkedTexts = some name) ∧
      ((∃ draft, o.attempts = [draft]) ↔
        (∀ text ∈ call.checkedTexts, ¬Text.isBlank text.2 = true) ∧ call.hasBothEnds = false) := by
  intro o
  have hRefuses := exchange_refuses c call
  have hNamed : ∀ name, (o.value = .error (.missingArgument name) ∧ o.attempts = []) ↔
      missing? call.checkedTexts = some name := by
    intro name
    rw [← hRefuses.missing]
    cases hExchange : call.exchange c with
    | error error => simp [o, run_session_of_error hExchange, Outcome.attempts]
    | ok e => simp [o, run_session_of_ok hExchange, Outcome.attempts, Event.draft?]
  have hSent : (∃ draft, o.attempts = [draft]) ↔ ∃ e, call.exchange c = .ok e := by
    cases hExchange : call.exchange c with
    | error error => simp [o, run_session_of_error hExchange, Outcome.attempts]
    | ok e => simp [o, run_session_of_ok hExchange, Outcome.attempts, Event.draft?]
  have hNone : missing? call.checkedTexts = none ↔
      ∀ text ∈ call.checkedTexts, ¬Text.isBlank text.2 = true := by
    simp [missing?]
  exact ⟨(exists_congr hNamed).trans exists_missing?_iff, hNamed,
    hSent.trans (hRefuses.accepted.trans (and_congr_left fun _ => hNone))⟩

/-- Not every blank required text is missed: the time up to which listens of nobody were imported from
nowhere is asked for. -/
theorem not_forall_missing_of_blank :
    ¬∀ (α : Type) (c : Client) (call : Call α) (server : Server) (taken : Nat),
      (∃ text ∈ call.requiredTexts, Text.isBlank text = true) →
        ∃ name, ((call.session c).run server taken).value = .error (.missingArgument name) ∧
          ((call.session c).run server taken).attempts = [] := by
  intro h
  obtain ⟨name, -, hAttempts⟩ :=
    h Int64 (.ofRoot "http://mock") (.latestImport "" "") .unreachable 0 ⟨"", by decide, by decide⟩
  cases hAttempts

end Scrobbler.Call
