import Scrobbler.Proofs.Endpoint.Call
import Scrobbler.Proofs.Http.Credential
import Scrobbler.Proofs.Submission.Course

/-!
Credentials of calls. A token decides the header of the requests that are made with it, and nothing
else: no address, no body, no result and no line depends on it, however often a submission is cut or
repeated.
-/

namespace Scrobbler

/-- One exchange is the other with another credential, unless both are refused alike. -/
inductive Exchange.Reassigned {α : Type} (own other : Credential) :
    Checked (Exchange α) → Checked (Exchange α) → Prop
  | refused (error : ServiceError) : Reassigned own other (.error error) (.error error)
  | made {draft : Draft} (hOwn : draft.credential = some own) (receive : Response → Checked α) :
      Reassigned own other (.ok ⟨draft, receive⟩) (.ok ⟨draft.withCredential other, receive⟩)

namespace Exchange.Reassigned

variable {α : Type} {own other : Credential} {x x' : Checked (Exchange α)} {value name : String}
  {next next' : String → Checked (Exchange α)}

theorem require (h : Reassigned own other (next value) (next' value)) :
    Reassigned own other (require value name >>= next) (require value name >>= next') := by
  rw [require_bind, require_bind]
  split
  · exact .refused _
  · exact h

/-- Tokens are looked at only to see that they are not blank. -/
theorem require_tokens {token token' : String} (hToken : ¬Text.isBlank token = true)
    (hToken' : ¬Text.isBlank token' = true) (h : Reassigned own other (next token) (next' token')) :
    Reassigned own other (Scrobbler.require token name >>= next)
      (Scrobbler.require token' name >>= next') := by
  rw [require_bind, require_bind, if_neg hToken, if_neg hToken']
  exact h

/-- Performing an exchange with another credential sends the same with that credential. -/
theorem perform (h : Reassigned own other x x') :
    Session.Reassigned own other (Exchange.perform x) (Exchange.perform x') := by
  cases h with
  | refused error => exact .done _
  | made hOwn receive => exact .send hOwn fun _ => .done _

end Exchange.Reassigned

namespace Draft

/-- An optional token that is not blank is used. -/
theorem withOptionalToken_some {token : String} (hToken : ¬Text.isBlank token = true) (draft : Draft) :
    draft.withOptionalToken (some token) = draft.withCredential (.token token) := by
  have hEmpty : ¬token.isEmpty = true := by
    rintro hEmpty
    rw [String.isEmpty_iff.mp hEmpty] at hToken
    exact hToken rfl
  exact if_neg hEmpty

end Draft

namespace Call

variable {α : Type}

/-- The credential that a call is made with, as it comes from the token that the call takes: an access token
is borne, and every other one is a user token. -/
def credential? : Call α → Option (String → Credential)
  | submitReview .. => some .bearer
  | deleteListen .. | setLatestImport .. | validateToken _ | feed .. | follow .. | unfollow ..
  | recommendTrack .. | submitFeedback .. | rateRecommendation .. | unrateRecommendation ..
  | createPlaylist .. | editPlaylist .. | addTracks .. | deleteTracks .. | moveTracks ..
  | copyPlaylist .. | deletePlaylist .. | pin .. | unpin _ | deletePin .. => some .token
  | playlists _ token .. | playlist _ token => token.map fun _ => .token
  | _ => none

/-- The credential of a call is a user token or an access token. -/
theorem credential?_eq_token_or_bearer {call : Call α} {credential : String → Credential}
    (h : call.credential? = some credential) : credential = .token ∨ credential = .bearer := by
  cases call with
  | playlists | playlist =>
      obtain ⟨-, -, rfl⟩ := Option.map_eq_some_iff.mp h
      exact .inl rfl
  | submitReview => exact .inr (Option.some.inj h).symm
  | _ => first | exact .inl (Option.some.inj h).symm | cases h

/-- The same call with another token. -/
def withToken (token : String) : Call α → Call α
  | deleteListen _ recordingMsid listenedAt => .deleteListen token recordingMsid listenedAt
  | setLatestImport _ service time => .setLatestImport token service time
  | validateToken _ => .validateToken token
  | feed user _ minTs maxTs count => .feed user token minTs maxTs count
  | follow user _ => .follow user token
  | unfollow user _ => .unfollow user token
  | recommendTrack user _ track => .recommendTrack user token track
  | submitFeedback _ recordingMsid score => .submitFeedback token recordingMsid score
  | rateRecommendation _ recordingMbid rating => .rateRecommendation token recordingMbid rating
  | unrateRecommendation _ recordingMbid => .unrateRecommendation token recordingMbid
  | createPlaylist _ document => .createPlaylist token document
  | editPlaylist _ mbid document => .editPlaylist token mbid document
  | playlists user _ offset count kind => .playlists user (some token) offset count kind
  | playlist mbid _ => .playlist mbid (some token)
  | addTracks _ mbid tracks offset => .addTracks token mbid tracks offset
  | deleteTracks _ mbid index count => .deleteTracks token mbid index count
  | moveTracks _ mbid recordingMbid source target count =>
      .moveTracks token mbid recordingMbid source target count
  | copyPlaylist _ mbid => .copyPlaylist token mbid
  | deletePlaylist _ mbid => .deletePlaylist token mbid
  | pin _ recordingMsid recordingMbid blurb => .pin token recordingMsid recordingMbid blurb
  | unpin _ => .unpin token
  | deletePin _ id => .deletePin token id
  | submitReview _ review => .submitReview token review
  | call => call

variable {token token' : String}

/-- What a client makes of a call does not depend on the token but for the credential. -/
theorem exchange_withToken (call : Call α) (hToken : ¬Text.isBlank token = true)
    (hToken' : ¬Text.isBlank token' = true) (c : Client) {credential : String → Credential}
    (h : call.credential? = some credential) :
    Exchange.Reassigned (credential token) (credential token') ((call.withToken token).exchange c)
      ((call.withToken token').exchange c) := by
  cases call with
  | deleteListen | setLatestImport | submitFeedback | rateRecommendation | unrateRecommendation
  | pin | unpin | deletePin =>
      obtain rfl := Option.some.inj h
      exact .made rfl _
  | validateToken | submitReview =>
      obtain rfl := Option.some.inj h
      exact .require_tokens hToken hToken' (.made rfl _)
  | feed | follow | unfollow =>
      obtain rfl := Option.some.inj h
      exact .require (.require_tokens hToken hToken' (.made rfl _))
  | recommendTrack | createPlaylist | editPlaylist | deleteTracks | moveTracks | copyPlaylist
  | deletePlaylist =>
      obtain rfl := Option.some.inj h
      exact .require (.made rfl _)
  | addTracks given mbid tracks offset =>
      obtain rfl := Option.some.inj h
      cases offset <;> exact .require (.made rfl _)
  | playlists user given | playlist mbid given =>
      obtain ⟨-, -, rfl⟩ := Option.map_eq_some_iff.mp h
      refine .require ?_
      rw [Draft.withOptionalToken_some hToken, Draft.withOptionalToken_some hToken']
      exact .made rfl _
  | _ => cases h

end Call

namespace Client

/-- A batch that fits is sent in one request, whose outcome decides whether it is sent again. -/
theorem submit_of_fits {c : Client} {token : String} {type : ListenType} {retries : Nat}
    {batch : List Listen} (hFits : c.fits type batch = true) :
    c.submit token type retries batch =
      .send (c.submissionDraft token type batch) fun outcome =>
        match retries with
        | 0 => .done (Submission.ofOutcome outcome)
        | left + 1 =>
            match Submission.retryNotice? batch.length c.settings.retryDelay (left + 1) outcome with
            | none => .done (Submission.ofOutcome outcome)
            | some notice =>
                .print notice (.wait c.settings.retryDelay (c.submit token type left batch)) := by
  rw [submit, dif_pos hFits]
  cases retries <;> rfl

/-- The submission of a batch is the same for all tokens, but for the credential of every request: those of
the halves, and those that are repeated. -/
theorem submit_reassigned (c : Client) (token token' : String) (type : ListenType) (retries : Nat)
    (batch : List Listen) :
    Session.Reassigned (.token token) (.token token') (c.submit token type retries batch)
      (c.submit token' type retries batch) := by
  by_cases hFits : c.fits type batch = true
  · rw [submit_of_fits hFits, submit_of_fits hFits]
    refine .send rfl fun outcome => ?_
    cases retries with
    | zero => exact .done _
    | succ left =>
        simp only
        split
        · exact .done _
        · exact .print _ (.wait _ (submit_reassigned c token token' type left batch))
  · have hFirst := Batch.length_halves_fst_lt (two_le_length_of_not_fits hFits)
    have hSecond := Batch.length_halves_snd_lt (two_le_length_of_not_fits hFits)
    have hHalves : Session.Reassigned (.token token) (.token token')
        (c.submitHalves token type retries batch) (c.submitHalves token' type retries batch) := by
      refine (submit_reassigned c token token' type retries (Batch.halves batch).1).bind fun result => ?_
      cases result with
      | error error => exact .done _
      | ok submission => exact submit_reassigned c token token' type retries (Batch.halves batch).2
    rw [submit_of_not_fits hFits, submit_of_not_fits hFits]
    refine hHalves.bind fun result => ?_
    cases result with
    | ok submission => exact .done _
    | error error =>
        cases retries with
        | zero => exact .done _
        | succ left => exact .print _ (submit_reassigned c token token' type left batch)
termination_by (retries, batch.length)
decreasing_by
  all_goals subst_vars
  all_goals first
    | exact Prod.Lex.left _ _ (by omega)
    | exact Prod.Lex.right _ (by assumption)

/-- Two tokens that are not blank and can be sent make no difference but in the header that holds them: for
every call that takes a token, and for every submission, both runs have the same result, lines and waits,
and the same requests except for their authorization, which is the token in the form of the call. -/
theorem runs_differ_in_authorization (c : Client) (server : Server) (taken : Nat) {token token' : String}
    (hToken : ¬Text.isBlank token = true) (hToken' : ¬Text.isBlank token' = true)
    (hSent : Draft.isHeaderText token = true) (hSent' : Draft.isHeaderText token' = true) :
    (∀ (α : Type) (call : Call α) (credential : String → Credential), call.credential? = some credential →
      Outcome.Reassigned (credential token) (credential token')
        (((call.withToken token).session c).run server taken)
        (((call.withToken token').session c).run server taken)) ∧
    ∀ (type : ListenType) (retries : Nat) (batch : List Listen),
      Outcome.Reassigned (.token token) (.token token')
        ((c.submit token type retries batch).run server taken)
        ((c.submit token' type retries batch).run server taken) := by
  have hFits := Credential.fits_of_isHeaderText hSent
  have hFits' := Credential.fits_of_isHeaderText hSent'
  refine ⟨fun α call credential hCall => ?call, fun type retries batch => ?submission⟩
  case call =>
    have hSessions := (call.exchange_withToken hToken hToken' c hCall).perform
    rcases call.credential?_eq_token_or_bearer hCall with rfl | rfl
    · exact hSessions.outcome hFits.1 hFits'.1 server taken
    · exact hSessions.outcome hFits.2 hFits'.2 server taken
  case submission =>
    exact (c.submit_reassigned token token' type retries batch).outcome hFits.1 hFits'.1 server taken

/-- Two tokens at a server that asks for patience once. -/
theorem runs_of_two_tokens_differ_in_authorization :
    let c : Client := .ofRoot "http://[::1]"
    let server : Server := .ofStatuses [429, 200]
    Text.isBlank "alpha" = false ∧ Text.isBlank "beta" = false ∧
      (∀ batch, Outcome.Reassigned (.token "alpha") (.token "beta")
        ((c.submit "alpha" .single 1 batch).run server 0) ((c.submit "beta" .single 1 batch).run server 0)) ∧
      Outcome.Reassigned (.token "alpha") (.token "beta")
        ((Call.session c (.deletePin "alpha" 7)).run server 0)
        ((Call.session c (.deletePin "beta" 7)).run server 0) ∧
      ((Call.session c (.deletePin "alpha" 7)).run server 0).requests.length = 1 := by
  intro c server
  have hBlank : ¬Text.isBlank "alpha" = true ∧ ¬Text.isBlank "beta" = true := by decide
  have hSent : Draft.isHeaderText "alpha" = true ∧ Draft.isHeaderText "beta" = true := by decide
  obtain ⟨hCalls, hSubmissions⟩ := runs_differ_in_authorization c server 0 hBlank.1 hBlank.2 hSent.1 hSent.2
  exact ⟨by decide, by decide, hSubmissions .single 1, hCalls Status (.deletePin "" 7) .token rfl,
    by decide +kernel⟩

end Client

end Scrobbler
