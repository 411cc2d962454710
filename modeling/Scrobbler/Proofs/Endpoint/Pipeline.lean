import Scrobbler.Proofs.Endpoint.Arguments
import Scrobbler.Proofs.Json.Canonical

/-!
What becomes of a call that is sent. There is one rule for each thing that can come back, and the rules
are the same for all calls but for what a call takes from a success.
-/

namespace Scrobbler

open Json (Wire Decoder DecodeError)

theorem Status.isSuccess_of_isNoContent {status : Status} (h : status.isNoContent = true) :
    status.isSuccess = true := by
  simp_all [Status.isSuccess, Status.isNoContent]

/-- What a call takes from a response. -/
inductive Reading (α : Type)
  /-- The status, whether it is a success or not. -/
  | anyStatus (of : Status → α)
  /-- The status of a success. -/
  | status (of : Status → α)
  /-- What is decoded from the body of a success. -/
  | body (decoder : Decoder α)
  /-- What is decoded from the body of a success that has one. -/
  | statistics (decoder : Decoder α)
  /-- What is decoded from the body of a success that is no more than that. -/
  | cover (decoder : Decoder α) (absent : α)

/-- A part of what is received from a body is what is received from it with a decoder of that part. -/
theorem Receive.map_json {α β : Type} (f : α → β) (decoder : Decoder α) (r : Response) :
    (Receive.json decoder r).map f = Receive.json (.map f decoder) r := by
  have hJson (r : Response) : r.json (.map f decoder) = (r.json decoder).map f := by
    unfold Response.json Decoder.runBytes Decoder.run Decoder.map
    cases decoder 127 (Json.Document.ofBytes r.body).root with
    | error error => rfl
    | ok value =>
        simp only [Except.map, ok_bind]
        split <;> rfl
  unfold Receive.json
  cases r.check with
  | error error => rfl
  | ok r =>
      simp only [ok_bind, Receive.body, hJson]
      cases r.json decoder <;> rfl

/-- What a scripted server does with a request that can be built. -/
theorem Server.deliver_scripted (reply : Nat → Reply) (taken : Nat) {draft : Draft} {request : Request}
    (h : draft.request = .ok request) :
    (Server.scripted reply).deliver taken draft = ⟨true, (reply taken).outcome request.url.render⟩ := by
  simp only [Server.deliver, h]

namespace Reading

variable {α : Type}

/-- A status that is no success is an error. -/
def isJudging : Reading α → Bool
  | anyStatus _ => false
  | _ => true

/-- How the body of a success with some status is decoded, if it is. -/
def decoder? (status : Status) : Reading α → Option (Decoder α)
  | body decoder => some decoder
  | statistics decoder => if status.isNoContent then none else some decoder
  | cover decoder _ => if status.code = 200 then some decoder else none
  | _ => none

/-- The rules for what comes of a request. -/
inductive Gives (reading : Reading α) : Except TransportError Response → Checked α → Prop
  | lost (error : TransportError) : Gives reading (.error error) (.error (.transport error))
  | unjudged {of : Status → α} {r : Response} (hReading : reading = .anyStatus of) :
      Gives reading (.ok r) (.ok (of r.status))
  | failed {r : Response} {error : ServiceError} (hJudging : reading.isJudging = true)
      (hError : r.check = .error error) : Gives reading (.ok r) (.error error)
  | succeeded {of : Status → α} {r : Response} (hReading : reading = .status of)
      (hSuccess : r.status.isSuccess = true) : Gives reading (.ok r) (.ok (of r.status))
  | notComputed {decoder : Decoder α} {r : Response} (hReading : reading = .statistics decoder)
      (hStatus : r.status.isNoContent = true) : Gives reading (.ok r) (.error (.api (.generic r)))
  | notCovered {decoder : Decoder α} {absent : α} {r : Response} (hReading : reading = .cover decoder absent)
      (hSuccess : r.status.isSuccess = true) (hStatus : r.status.code ≠ 200) :
      Gives reading (.ok r) (.ok absent)
  | decoded {decoder : Decoder α} {r : Response} {value : α} (hSuccess : r.status.isSuccess = true)
      (hReading : reading.decoder? r.status = some decoder) (hValue : r.json decoder = .ok value) :
      Gives reading (.ok r) (.ok value)
  | undecodable {decoder : Decoder α} {r : Response} {error : DecodeError}
      (hSuccess : r.status.isSuccess = true) (hReading : reading.decoder? r.status = some decoder)
      (hError : r.json decoder = .error error) : Gives reading (.ok r) (.error (.json error))

/-- What is received from a success. -/
def ofSuccess : Reading α → Response → Checked α
  | anyStatus of, r | status of, r => .ok (of r.status)
  | body decoder, r => Receive.body decoder r
  | statistics decoder, r =>
      if r.status.isNoContent then .error (.api (.generic r)) else Receive.body decoder r
  | cover decoder absent, r => if r.status.code = 200 then Receive.body decoder r else .ok absent

/-- What is received. -/
def receive (reading : Reading α) (r : Response) : Checked α :=
  if reading.isJudging then r.check >>= reading.ofSuccess else reading.ofSuccess r

variable {reading : Reading α} {r : Response}

/-- A reading that judges the status gives the error of the response. -/
theorem receive_of_check_eq_error {error : ServiceError} (hJudging : reading.isJudging = true)
    (hError : r.check = .error error) : reading.receive r = .error error := by
  rw [receive, if_pos hJudging, hError]
  rfl

theorem receive_of_success (hSuccess : r.status.isSuccess = true) :
    reading.receive r = reading.ofSuccess r := by
  have hCheck : r.check = .ok r := if_pos hSuccess
  rw [receive, hCheck]
  split <;> rfl

theorem ofSuccess_of_decoder? {decoder : Decoder α} (hReading : reading.decoder? r.status = some decoder) :
    reading.ofSuccess r = Receive.body decoder r := by
  cases reading with
  | anyStatus of | status of => cases hReading
  | body other =>
      obtain rfl := Option.some.inj hReading
      rfl
  | statistics other | cover other absent =>
      simp only [decoder?] at hReading
      split at hReading <;> simp_all [ofSuccess]

/-- Decoding decides what is received from a body. -/
theorem gives_body {decoder : Decoder α} (hSuccess : r.status.isSuccess = true)
    (hReading : reading.decoder? r.status = some decoder) :
    reading.Gives (.ok r) (Receive.body decoder r) := by
  unfold Receive.body
  cases hJson : r.json decoder with
  | ok value => exact .decoded hSuccess hReading hJson
  | error error => exact .undecodable hSuccess hReading hJson

/-- Each reading gives of a response what its rules say. -/
theorem gives_receive (reading : Reading α) (r : Response) : reading.Gives (.ok r) (reading.receive r) := by
  by_cases hSuccess : r.status.isSuccess = true
  · rw [receive_of_success hSuccess]
    cases reading with
    | anyStatus of => exact .unjudged rfl
    | status of => exact .succeeded rfl hSuccess
    | body decoder => exact gives_body hSuccess rfl
    | statistics decoder =>
        by_cases hStatus : r.status.isNoContent = true
        · rw [ofSuccess, if_pos hStatus]
          exact .notComputed rfl hStatus
        · rw [ofSuccess, if_neg hStatus]
          exact gives_body hSuccess (if_neg hStatus)
    | cover decoder absent =>
        by_cases hStatus : r.status.code = 200
        · rw [ofSuccess, if_pos hStatus]
          exact gives_body hSuccess (if_pos hStatus)
        · rw [ofSuccess, if_neg hStatus]
          exact .notCovered rfl hSuccess hStatus
  · have hCheck : r.check = .error (.api (.ofResponse r)) := if_neg hSuccess
    cases hJudging : reading.isJudging with
    | true =>
        rw [receive_of_check_eq_error hJudging hCheck]
        exact .failed hJudging hCheck
    | false =>
        cases reading with
        | anyStatus of => exact .unjudged rfl
        | _ => cases hJudging

/-- The rules leave no choice. -/
theorem Gives.eq_receive {value : Checked α} (h : reading.Gives (.ok r) value) :
    value = reading.receive r := by
  cases h with
  | unjudged hReading => rw [hReading]; rfl
  | failed hJudging hError => rw [receive_of_check_eq_error hJudging hError]
  | succeeded hReading hSuccess => rw [receive_of_success hSuccess, hReading, ofSuccess]
  | notComputed hReading hStatus =>
      have hSuccess : r.status.isSuccess = true := Status.isSuccess_of_isNoContent hStatus
      rw [receive_of_success hSuccess, hReading, ofSuccess, if_pos hStatus]
  | notCovered hReading hSuccess hStatus =>
      rw [receive_of_success hSuccess, hReading, ofSuccess, if_neg hStatus]
  | decoded hSuccess hReading hValue =>
      rw [receive_of_success hSuccess, ofSuccess_of_decoder? hReading, Receive.body, hValue]
  | undecodable hSuccess hReading hError =>
      rw [receive_of_success hSuccess, ofSuccess_of_decoder? hReading, Receive.body, hError]

/-- The rules determine the result of an exchange. -/
theorem gives_iff {e : Exchange α} (hReceive : e.receive = reading.receive)
    {outcome : Except TransportError Response} {value : Checked α} :
    reading.Gives outcome value ↔ e.result outcome = value := by
  cases outcome with
  | error error =>
      constructor
      · rintro ⟨⟩
        rfl
      · rintro rfl
        exact .lost error
  | ok r =>
      rw [Exchange.result, hReceive]
      constructor
      · exact fun h => h.eq_receive.symm
      · rintro rfl
        exact gives_receive reading r

/-- A success is refused only where there are no statistics yet. -/
theorem Gives.of_api_error {error : ApiError} (hSuccess : r.status.isSuccess = true)
    (h : reading.Gives (.ok r) (.error (.api error))) :
    (∃ decoder, reading = .statistics decoder) ∧ r.status.isNoContent = true ∧ error = .generic r := by
  cases h with
  | failed hJudging hError =>
      have hCheck : r.check = .ok r := if_pos hSuccess
      cases hCheck.symm.trans hError
  | notComputed hReading hStatus => exact ⟨⟨_, hReading⟩, hStatus, rfl⟩

end Reading

namespace Call

variable {α : Type}

/-- What a call takes from a response: the part of it that the call is about. -/
def reading : Call α → Reading α
  | follow .. | unfollow .. => .anyStatus id
  | deleteListen .. | setLatestImport .. | recommendTrack .. | submitFeedback .. | rateRecommendation ..
  | unrateRecommendation .. | editPlaylist .. | addTracks .. | deleteTracks .. | moveTracks ..
  | deletePlaylist .. | pin .. | unpin _ | deletePin .. => .status id
  | recentListens .. | listens .. => .body (.map ListensPage.listens ListensPage.decoder)
  | listenCount _ => .body Counter.listenCount
  | latestImport .. => .body Counter.latestImport
  | validateToken _ => .body Wire.decoder
  | feed .. => .body TimelineEvent.page
  | followers _ => .body Followers.page
  | following _ => .body Following.page
  | similarUsers _ => .body SimilarUser.page
  | feedback .. | feedbackOn .. => .body FeedbackPage.decoder
  | createPlaylist .. | copyPlaylist .. => .body Playlist.newMbid
  | playlists .. => .body PlaylistsPage.decoder
  | playlist .. => .body Wire.decoder
  | pins .. => .body PinsPage.decoder
  | recommendationRatings .. | releasesOfColor .. | lookupRelease _ | lookupReleasesWith _
  | submitReview .. => .body .any
  | coverArt .. => .cover CoverArt.imageUrl none
  | topEntities .. => .statistics TopEntities.decoder
  | listeningActivity .. => .statistics ListeningReport.decoder
  | dailyActivity .. => .statistics DailyReport.decoder
  | artistMap .. => .statistics .any

/-- The exchange of a call receives its response by the reading of that call. -/
theorem receive_eq_of_exchange (c : Client) (call : Call α) :
    Checked.Ensures (fun e => e.receive = call.reading.receive) (call.exchange c) := by
  cases call with
  | deleteListen | latestImport | setLatestImport | submitFeedback
  | rateRecommendation | unrateRecommendation | pin | unpin | deletePin | coverArt | releasesOfColor =>
      exact .done rfl
  | recentListens => exact .done (funext fun r => Receive.map_json _ _ r)
  | feed | follow | unfollow => exact .require (.require (.done rfl))
  | listens => exact .require (.guarded (.done (funext fun r => Receive.map_json _ _ r)))
  | _ => exact .require (.done rfl)

/-- The address and the header of the request of a call, if it has one, are well formed. -/
def IsBuildable (c : Client) (call : Call α) : Prop :=
  ∀ e, call.exchange c = .ok e → ∃ request, e.draft.request = .ok request

instance (c : Client) (call : Call α) : Decidable (call.IsBuildable c) :=
  decidable_of_iff ((call.exchange c).toOption.all (fun e => e.draft.request.isOk) = true) <| by
    unfold IsBuildable
    cases call.exchange c with
    | error error => simp [Except.toOption]
    | ok e =>
        cases hRequest : e.draft.request <;>
          simp [Except.toOption, Except.isOk, Except.toBool, hRequest]

/-- A call is refused for its arguments before anything is done, or it sends one request and nothing else
is done. Then the rules of its reading decide the result from what comes back, and a success is refused
by a statistic alone, for having no content. -/
theorem run_session_one_request (c : Client) (call : Call α) (reply : Nat → Reply) (taken : Nat)
    (hBuilt : call.IsBuildable c) :
    let o := (call.session c).run (.scripted reply) taken
    ((∃ name, o.value = .error (.missingArgument name) ∨ o.value = .error (.invalidArgument name)) ∧
        o.trace = [] ∧ o.taken = taken) ∨
      ∃ draft request, draft.request = .ok request ∧
        o.trace = [.attempt draft ⟨true, (reply taken).outcome request.url.render⟩] ∧
        o.requests = [request] ∧ o.taken = taken + 1 ∧
        (∀ value, call.reading.Gives ((reply taken).outcome request.url.render) value ↔ o.value = value) ∧
        ∀ r error, (reply taken).outcome request.url.render = .ok r → r.status.isSuccess = true →
          o.value = .error (.api error) →
            (∃ decoder, call.reading = .statistics decoder) ∧ error.status.code = 204 ∧
              error.message = "HTTP Error No Content" ∧ error.response = r := by
  intro o
  cases hExchange : call.exchange c with
  | error error =>
      obtain ⟨text, hError⟩ := exists_argument_of_error hExchange
      have hRun : o = ⟨.error error, taken, []⟩ := run_session_of_error hExchange
      refine .inl ⟨⟨text, ?_⟩, by rw [hRun], by rw [hRun]⟩
      rw [hRun]
      exact hError.imp (congrArg _) (congrArg _)
  | ok e =>
      obtain ⟨request, hRequest⟩ := hBuilt e hExchange
      have hDelivered := Server.deliver_scripted reply taken hRequest
      have hGives (value : Checked α) :
          call.reading.Gives ((reply taken).outcome request.url.render) value ↔ o.value = value := by
        rw [Reading.gives_iff (receive_eq_of_exchange c call e hExchange)]
        simp only [o, run_session_of_ok hExchange, hDelivered]
      refine .inr ⟨e.draft, request, hRequest, ?_, ?_, ?_, hGives, ?_⟩
      · simp only [o, run_session_of_ok hExchange, hDelivered]
      · simp [o, run_session_of_ok hExchange, hDelivered, Outcome.requests, Event.received?, hRequest,
          Except.toOption]
      · simp [o, run_session_of_ok hExchange, hDelivered, Delivery.takenAfter]
      · intro r error hOutcome hSuccess hError
        have hRule := (hGives _).mpr hError
        rw [hOutcome] at hRule
        obtain ⟨hReading, hStatus, rfl⟩ := hRule.of_api_error hSuccess
        have hCode : r.status.code = 204 := of_decide_eq_true hStatus
        refine ⟨hReading, hCode, ?_, rfl⟩
        simp [ApiError.generic, ApiError.genericMessage, Status.phrase, hCode, Status.phrase?]

/-- A map that is not yet computed is asked for once, and its absence is the error. -/
theorem run_session_of_artistMap_not_computed :
    let c : Client := .ofRoot "http://[::1]"
    let call : Call Json := .artistMap "someone" .week false
    let response : Response := ⟨⟨204⟩, [], []⟩
    let o := (call.session c).run (.scripted fun _ => .answer response) 0
    call.IsBuildable c ∧ o.requests.length = 1 ∧ o.value = .error (.api (.generic response)) := by
  intro c call response o
  have hBuilt : call.IsBuildable c := by decide +kernel
  obtain ⟨-, hTrace, -⟩ | ⟨draft, request, -, -, hRequests, -, hGives, -⟩ :=
    run_session_one_request c call (fun _ => .answer response) 0 hBuilt
  · cases hTrace
  · refine ⟨hBuilt, by rw [hRequests]; rfl, (hGives _).mp ?_⟩
    exact .notComputed rfl rfl

end Call

end Scrobbler
