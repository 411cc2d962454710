import Scrobbler.Proofs.Endpoint.Pipeline
import Scrobbler.Proofs.Endpoint.Route
import Scrobbler.Proofs.Url.Form

/-!
Parameters of calls. A call has a fixed list of parameters, of which some are left out. What a server reads
from the query of the request is that list, and there is no query if it is empty, unless the root of the
address or what is named in its path brings a question mark of its own.
-/

namespace Scrobbler

open Url (Template)

/-- The parameters that a server reads from a request. -/
def Request.parameters (request : Request) : List (String × String) :=
  request.url.query.elim [] Url.Form.parse

/-- A parameter that may be absent. -/
def given (name : String) (value : Option String) : List (String × String) :=
  (value.map fun value => (name, value)).toList

theorem decimal_uint32 (n : UInt32) : decimal n.toNat = toString n := rfl

theorem decimal_uint64 (n : UInt64) : decimal n.toNat = toString n := rfl

theorem signedDecimal_eq_toString (n : Int) : signedDecimal n = toString n :=
  Json.ofList_integerChars n

/-- A number that may be absent; a zero is as good as absent. -/
def givenNonZero (name : String) (n : Option Int) : List (String × String) :=
  given name ((n.filter (· ≠ 0)).map toString)

theorem given_nonZero (name : String) (n : Option Int) :
    given name ((nonZero n).map signedDecimal) = givenNonZero name n := by
  have hText : signedDecimal = toString := funext signedDecimal_eq_toString
  rw [hText]
  rfl

/-- There is a parameter for a number exactly if the number is there and not zero. -/
theorem mem_givenNonZero_iff {name other : String} {n : Option Int} :
    other ∈ (givenNonZero name n).map Prod.fst ↔ other = name ∧ ∃ m ∈ n, m ≠ 0 := by
  cases n with
  | none => simp [givenNonZero, given]
  | some m => by_cases hZero : m = 0 <;> simp [givenNonZero, given, Option.filter_some, hZero]

/-- The end of a page stands before its beginning. -/
theorem rangeQuery_eq (minTs maxTs : Option Int64) (count : Option UInt32) :
    rangeQuery minTs maxTs count =
      givenNonZero "max_ts" (maxTs.map Int64.toInt) ++ givenNonZero "min_ts" (minTs.map Int64.toInt) ++
        givenNonZero "count" (count.map fun n => (n.toNat : Int)) := by
  rw [← given_nonZero, ← given_nonZero, ← given_nonZero]
  unfold rangeQuery
  generalize nonZero (maxTs.map Int64.toInt) = last, nonZero (minTs.map Int64.toInt) = first,
    nonZero (count.map fun n => (n.toNat : Int)) = size
  cases last <;> cases first <;> cases size <;> rfl

namespace Call

variable {α : Type}

/-- The root of the server that a call is sent to. -/
def base (c : Client) : Call α → String
  | lookupReleasesWith _ => c.settings.musicbrainzRoot
  | submitReview .. => c.settings.critiquebrainzRoot
  | call => call.root c

/-- The arguments of a call that become a part of the path. -/
def pathArguments : Call α → List String
  | recentListens users _ => users
  | releasesOfColor color _ => [color]
  | call => (call.route?.map Route.argument).toList

/-- The parameters of a call, in order. A page of listens or of a feed starts and ends nowhere, and has any
size, where a zero is given. -/
def parameters : Call α → List (String × String)
  | recentListens _ limit => givenNonZero "limit" (limit.map fun n => (n.toNat : Int))
  | listens _ minTs maxTs count | feed _ _ minTs maxTs count =>
      givenNonZero "max_ts" (maxTs.map Int64.toInt) ++ givenNonZero "min_ts" (minTs.map Int64.toInt) ++
        givenNonZero "count" (count.map fun n => (n.toNat : Int))
  | latestImport user service => [("user_name", user), ("service", service)]
  | feedback _ offset count score =>
      [("metadata", "true"), ("offset", toString offset)] ++
        given "score" (score.map fun score => toString score.value) ++ given "count" (count.map toString)
  | feedbackOn _ recordings => [("recordings", recordings)]
  | recommendationRatings _ mbids => [("mbids", mbids)]
  | playlists _ _ offset count _ | pins _ offset count =>
      [("offset", toString offset), ("count", toString count)]
  | addTracks _ _ _ offset => given "offset" (offset.map toString)
  | coverArt releaseMbid recordingMsid =>
      [("release_mbid", releaseMbid), ("recording_msid", recordingMsid)]
  | releasesOfColor _ count => given "count" (count.map toString)
  | lookupRelease _ => [("fmt", "json"), ("inc", "release-groups")]
  | lookupReleasesWith trackMbid => [("track", trackMbid), ("fmt", "json")]
  | topEntities _ _ range offset count =>
      [("offset", toString offset), ("range", range.name)] ++ given "count" (count.map toString)
  | listeningActivity _ range | dailyActivity _ range => [("range", range.name)]
  | artistMap _ range recalculate => [("range", range.name), ("force_recalculate", toString recalculate)]
  | _ => []

end Call

namespace Draft

/-- The parameters that a draft adds to its address. -/
def added (draft : Draft) : List (String × String) := draft.query.getD []

@[simp] theorem added_get (address : String) : (get address).added = [] := rfl

@[simp] theorem added_post (address : String) : (post address).added = [] := rfl

variable (draft : Draft)

@[simp] theorem added_withQuery (pairs : List (String × String)) : (draft.withQuery pairs).added = pairs := rfl

@[simp] theorem added_withParameter (name : String) (value : Option String) :
    (draft.withParameter name value).added = draft.added ++ given name value := by
  cases value with
  | none => exact (List.append_nil _).symm
  | some value => rfl

@[simp] theorem added_withCredential (credential : Credential) :
    (draft.withCredential credential).added = draft.added := rfl

@[simp] theorem added_withOptionalToken (token : Option String) :
    (draft.withOptionalToken token).added = draft.added := by
  unfold withOptionalToken
  split
  · split <;> rfl
  · rfl

@[simp] theorem added_withBody (body : Json) : (draft.withBody body).added = draft.added := rfl

@[simp] theorem added_withMembers (members : List (String × Json)) :
    (draft.withMembers members).added = draft.added := rfl

/-- The query of a draft is made of what it adds. -/
theorem ownQuery_eq : draft.ownQuery =
    if draft.added = [] then none else some (Url.Form.append [] draft.added) := by
  unfold ownQuery added
  cases draft.query with
  | none => rfl
  | some pairs => simp [Url.Form.append_nil_eq_nil_iff]

end Draft

@[simp] theorem Client.added_get (c : Client) (path : String) : (c.get path).added = [] := rfl

@[simp] theorem Client.added_post (c : Client) (token path : String) : (c.post token path).added = [] := rfl

namespace Call

variable {α : Type}

/-- A call adds its parameters to its address. -/
theorem added_of_exchange (c : Client) (call : Call α) :
    Checked.Ensures (fun e => e.draft.added = call.parameters) (call.exchange c) := by
  cases call with
  | recentListens =>
      refine .done ?_
      simp [parameters, given_nonZero]
  | listens =>
      refine .require (.guarded (.done ?_))
      simp [parameters, rangeQuery_eq]
  | feed =>
      refine .require (.require (.done ?_))
      simp [parameters, rangeQuery_eq]
  | feedback | playlists | addTracks | playlist | topEntities =>
      refine .require (.done ?_)
      simp [parameters, signedDecimal_eq_toString, decimal_uint32, decimal_uint64]
  | releasesOfColor =>
      refine .done ?_
      simp [parameters, decimal_uint32]
  | follow | unfollow => exact .require (.require (.done rfl))
  | artistMap user range recalculate =>
      refine .require (.done ?_)
      cases recalculate <;> rfl
  | deleteListen | latestImport | setLatestImport | submitFeedback | rateRecommendation
  | unrateRecommendation | pin | unpin | deletePin | coverArt => exact .done rfl
  | _ => exact .require (.done rfl)

/-- Neither the root nor the path has a question mark, so their address has none. -/
theorem not_mem_below {root : String} {path : List Char} (hRoot : '?' ∉ root.toList) (hPath : '?' ∉ path) :
    '?' ∉ (root ++ "/" ++ String.ofList (path.dropWhile (· = '/'))).toList := by
  have hBelow : '?' ∉ path.dropWhile (· = '/') := fun hMem => hPath (List.dropWhile_subset _ hMem)
  simp [hRoot, hBelow]

/-- No question mark comes from the words of a route. -/
theorem not_mem_text_of_route? {call : Call α} {route : Route} (hRoute : call.route? = some route)
    (hArgument : '?' ∉ route.argument.toList) : '?' ∉ route.template.text route.argument.toList := by
  have hSegments : ∀ segment ∈ route.template.segments route.argument.toList, '?' ∉ segment := by
    refine Template.forall_mem_segments (isWorded_of_route? hRoute) (fun word hWord hMem => ?_) hArgument
    exact absurd (Url.isPlainChar_of_isWord hWord _ hMem) (by decide)
  intro hMem
  rcases Url.eq_or_mem_of_mem_intercalate hMem with hSlash | ⟨segment, hSegment, hMark⟩
  · cases hSlash
  · exact hSegments segment hSegment hMark

/-- What is named in a path is made of arguments. -/
theorem not_mem_argument_of_route? {call : Call α} {route : Route} (hRoute : call.route? = some route)
    (hArguments : ∀ argument ∈ call.pathArguments, '?' ∉ argument.toList) :
    '?' ∉ route.argument.toList := by
  cases call with
  | recentListens users limit =>
      obtain rfl := Option.some.inj hRoute
      show '?' ∉ (",".intercalate users).toList
      rw [String.toList_intercalate]
      intro hMem
      rcases Url.eq_or_mem_of_mem_intercalate hMem with hComma | ⟨part, hPart, hMark⟩
      · cases hComma
      · obtain ⟨user, hUser, rfl⟩ := List.mem_map.mp hPart
        exact hArguments user hUser hMark
  | releasesOfColor => cases hRoute
  | _ =>
      apply hArguments
      simp [pathArguments, hRoute]

/-- A question mark of an address comes from the root or from what is named. -/
theorem not_mem_address (c : Client) {call : Call α} (hBase : '?' ∉ (call.base c).toList)
    (hArguments : ∀ argument ∈ call.pathArguments, '?' ∉ argument.toList) :
    Checked.Ensures (fun e => '?' ∉ e.draft.address.toList) (call.exchange c) := by
  cases hRoute : call.route? with
  | some route =>
      intro e hExchange
      have hRoot : call.base c = call.root c := by
        cases call with
        | lookupReleasesWith | submitReview => cases hRoute
        | _ => rfl
      rw [address_of_route? c hRoute e hExchange]
      refine not_mem_below (hRoot ▸ hBase) (not_mem_text_of_route? hRoute ?_)
      exact not_mem_argument_of_route? hRoute hArguments
  | none =>
      cases call with
      | deletePin token id =>
          have hDigits : '?' ∉ (decimal id.toNat).toList := by
            intro hMem
            have hDigit := Json.Numeral.isDigit_of_mem_naturalChars (String.toList_ofList ▸ hMem)
            cases hDigit
          exact .done (not_mem_below hBase (by simp [hDigits]))
      | releasesOfColor color count =>
          have hColor : '?' ∉ color.toList := hArguments color List.mem_cons_self
          have hKept : '?' ∉ color.toList.dropWhile (· = '#') :=
            fun hMem => hColor (List.dropWhile_subset _ hMem)
          refine .done ?_
          rw [Draft.address_withParameter]
          exact not_mem_below hBase (by simp [hKept])
      | deleteListen | latestImport | setLatestImport | submitFeedback | rateRecommendation
      | unrateRecommendation | pin | unpin | coverArt => exact .done (not_mem_below hBase (by decide))
      | validateToken | createPlaylist => exact .require (.done (not_mem_below hBase (by decide)))
      | lookupReleasesWith | submitReview => exact .require (.done (by simpa [base] using hBase))
      | _ => cases hRoute

/-- What a server reads from a request are the parameters of the call, and there is no query without any. -/
theorem parameters_of_sends {c : Client} {call : Call α} {draft : Draft} {request : Request}
    (hSent : call.Sends c draft request) (hBase : '?' ∉ (call.base c).toList)
    (hArguments : ∀ argument ∈ call.pathArguments, '?' ∉ argument.toList) :
    request.parameters = call.parameters ∧ (request.url.query = none ↔ call.parameters = []) := by
  obtain ⟨e, hExchange, rfl⟩ := hSent.exists_exchange
  obtain ⟨url, hParse, hUrl, hSend⟩ := Draft.exists_parse_of_request hSent.2
  have hNone : url.withoutUser.query = none := by
    show url.query = none
    obtain ⟨query, hSame⟩ := e.draft.exists_query_urlWithQuery url.withoutUser
    rw [hUrl, hSame] at hSend
    have hHttp := Url.isHttp_of_isSendable hSend
    exact Url.query_of_parse hParse hHttp (not_mem_address c hBase hArguments e hExchange)
  have hQuery : request.url.query =
      if call.parameters = [] then none else some (Url.Form.append [] call.parameters) := by
    rw [hUrl, e.draft.urlWithQuery_eq hNone, Draft.ownQuery_eq, added_of_exchange c call e hExchange]
  rw [Request.parameters, hQuery]
  by_cases hEmpty : call.parameters = []
  · simp [hEmpty]
  · simp [hEmpty, Url.Form.parse_append]

/-- Nothing that comes back is a reason to refuse the arguments. -/
theorem value_ne_invalidArgument {c : Client} {call : Call α} {e : Exchange α}
    (hExchange : call.exchange c = .ok e) (server : Server) (taken : Nat) (reason : String) :
    ((call.session c).run server taken).value ≠ .error (.invalidArgument reason) := by
  intro hValue
  rw [run_session_of_ok hExchange] at hValue
  have hGives := (Reading.gives_iff (receive_eq_of_exchange c call e hExchange)).mpr hValue
  generalize (server.deliver taken e.draft).outcome = outcome at hGives
  cases hGives with
  | failed hJudging hError =>
      unfold Response.check at hError
      split at hError <;> cases hError

/-- A call whose texts are there is refused for its ends and for nothing else, and then nothing is sent. -/
theorem refused_iff_hasBothEnds {c : Client} {call : Call α} (hMissing : missing? call.checkedTexts = none)
    (server : Server) (taken : Nat) :
    let o := (call.session c).run server taken
    ((∃ reason, o.value = .error (.invalidArgument reason)) ↔ call.hasBothEnds = true) ∧
      (o.attempts = [] ↔ call.hasBothEnds = true) := by
  intro o
  have hRefuses := exchange_refuses c call
  cases hEnds : call.hasBothEnds with
  | true =>
      obtain ⟨reason, hExchange⟩ := hRefuses.invalid.mpr ⟨hMissing, hEnds⟩
      simp [o, run_session_of_error hExchange, Outcome.attempts]
  | false =>
      obtain ⟨e, hExchange⟩ := hRefuses.accepted.mpr ⟨hMissing, hEnds⟩
      have hValue := value_ne_invalidArgument hExchange server taken
      constructor
      · simp [o, hValue]
      · simp [o, run_session_of_ok hExchange, Outcome.attempts, Event.draft?]

/-- A page that was asked for has a beginning or an end, not both. -/
theorem hasBothEnds_of_sends {c : Client} {call : Call α} {draft : Draft} {request : Request}
    (hSent : call.Sends c draft request) : call.hasBothEnds = false := by
  obtain ⟨e, hExchange, -⟩ := hSent.exists_exchange
  exact ((exchange_refuses c call).accepted.mp ⟨e, hExchange⟩).2

/-- A range has both ends exactly if both are given and neither is zero. -/
theorem hasBothEnds_iff {user : String} {minTs maxTs : Option Int64} {count : Option UInt32} :
    (listens user minTs maxTs count).hasBothEnds = true ↔
      (∃ first ∈ minTs, first ≠ 0) ∧ ∃ last ∈ maxTs, last ≠ 0 := by
  simp [hasBothEnds, Option.any_eq_true]

/-- A page with a beginning and an end has both of them given. -/
theorem hasBothEnds_of_mem_parameters {user : String} {minTs maxTs : Option Int64} {count : Option UInt32}
    (hFirst : "min_ts" ∈ (listens user minTs maxTs count).parameters.map Prod.fst)
    (hLast : "max_ts" ∈ (listens user minTs maxTs count).parameters.map Prod.fst) :
    (listens user minTs maxTs count).hasBothEnds = true := by
  have hGiven {ts : Option Int64} (h : ∃ n ∈ ts.map Int64.toInt, n ≠ 0) : ∃ n ∈ ts, n ≠ 0 := by
    obtain ⟨_, hMem, hZero⟩ := h
    obtain ⟨n, hGiven, rfl⟩ := Option.mem_map.mp hMem
    exact ⟨n, hGiven, fun hNone => hZero (congrArg Int64.toInt hNone)⟩
  simp only [parameters, List.map_append, List.mem_append, mem_givenNonZero_iff, String.reduceEq, true_and,
    false_and, or_false, false_or] at hFirst hLast
  exact hasBothEnds_iff.mpr ⟨hGiven hFirst, hGiven hLast⟩

/-- What a server reads from the query of a request is the list of the parameters of the call, and there is
no query if that list is empty, where neither the root nor what is named in the path has a question mark.
A page of listens is refused for its ends, and nothing is sent, exactly if both are given and not zero; so
no request has both. -/
theorem parameters_transmitted (c : Client) :
    (∀ (α : Type) (call : Call α) (draft : Draft) (request : Request), call.Sends c draft request →
      '?' ∉ (call.base c).toList → (∀ argument ∈ call.pathArguments, '?' ∉ argument.toList) →
        request.parameters = call.parameters ∧ (request.url.query = none ↔ call.parameters = [])) ∧
      ∀ (user : String) (minTs maxTs : Option Int64) (count : Option UInt32),
        Text.isBlank user = false →
          let call : Call (List Listen) := .listens user minTs maxTs count
          let bothEnds : Prop := (∃ first ∈ minTs, first ≠ 0) ∧ ∃ last ∈ maxTs, last ≠ 0
          (∀ server taken,
            let o := (call.session c).run server taken
            ((∃ reason, o.value = .error (.invalidArgument reason)) ↔ bothEnds) ∧
              (o.attempts = [] ↔ bothEnds)) ∧
            ∀ draft request, call.Sends c draft request → '?' ∉ (call.base c).toList → '?' ∉ user.toList →
              ¬("min_ts" ∈ request.parameters.map Prod.fst ∧
                "max_ts" ∈ request.parameters.map Prod.fst) := by
  constructor
  · intro α call draft request hSent hBase hArguments
    exact parameters_of_sends hSent hBase hArguments
  · intro user minTs maxTs count hUser call bothEnds
    constructor
    · intro server taken
      have hMissing : missing? call.checkedTexts = none := by simp [call, checkedTexts, missing?, hUser]
      have hBoth : call.hasBothEnds = true ↔ bothEnds := hasBothEnds_iff
      rw [← hBoth]
      exact refused_iff_hasBothEnds hMissing server taken
    · intro draft request hSent hBase hMark hNames
      have hArguments : ∀ argument ∈ call.pathArguments, '?' ∉ argument.toList := by
        simpa [call, pathArguments, route?, Route.of] using hMark
      rw [(parameters_of_sends hSent hBase hArguments).1] at hNames
      have hEnds := hasBothEnds_of_mem_parameters hNames.1 hNames.2
      cases hEnds.symm.trans (hasBothEnds_of_sends hSent)

/-- A name with spaces and marks in it is read back, and so is the least number; an end that is zero is left
out. -/
theorem parameters_transmitted_of_name_and_page :
    let c : Client := .ofRoot "http://[::1]"
    let call : Call Int64 := .latestImport "Zoë & co=1+1%" "last.fm"
    let page (maxTs : Int64) : Call (List Listen) := .listens "someone" (some Int64.minValue) (some maxTs) none
    (∃ draft request, call.Sends c draft request ∧
        request.parameters = [("user_name", "Zoë & co=1+1%"), ("service", "last.fm")]) ∧
      (∃ draft request, (page 0).Sends c draft request ∧
        request.parameters = [("min_ts", "-9223372036854775808")]) ∧
      ∀ server taken, (((page 1).session c).run server taken).attempts = [] := by
  intro c call page
  obtain ⟨hParameters, hPages⟩ := parameters_transmitted c
  have hNoMark : '?' ∉ (call.base c).toList := by decide
  refine ⟨?_, ?_, ?_⟩
  · have hSends : ∃ draft request, call.Sends c draft request := exists_sends_of_isOk (by decide +kernel)
    obtain ⟨draft, request, hSent⟩ := hSends
    obtain ⟨hSame, -⟩ := hParameters _ call draft request hSent hNoMark (by decide)
    exact ⟨draft, request, hSent, hSame⟩
  · have hSends : ∃ draft request, (page 0).Sends c draft request := exists_sends_of_isOk (by decide +kernel)
    obtain ⟨draft, request, hSent⟩ := hSends
    obtain ⟨hSame, -⟩ := hParameters _ (page 0) draft request hSent hNoMark (by decide)
    exact ⟨draft, request, hSent, hSame.trans (by decide)⟩
  · intro server taken
    obtain ⟨hRefused, -⟩ := hPages "someone" (some Int64.minValue) (some 1) none (by decide)
    exact (hRefused server taken).2.mpr (by decide)

end Call

end Scrobbler
