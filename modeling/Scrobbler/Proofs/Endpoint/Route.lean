import Scrobbler.Proofs.Endpoint.Call
import Scrobbler.Proofs.Http.Address
import Scrobbler.Proofs.Url.Template

/-!
Routes of calls. A call about a user, a playlist or a release names it in the path of its request, between
the words that tell what the call is about. The name is put there as it is. So the request reaches what the
call is about exactly if the name is one that an address keeps.
-/

namespace Scrobbler

open Url (Template)

/-- Where a call leads: the words of its path, and what it is called with. -/
structure Route where
  template : Template
  argument : String
  deriving DecidableEq

namespace Route

/-- Words, an argument and words. -/
def of (before : List String) (argument : String) (after : List String) : Route :=
  ⟨⟨before.map String.toList, after.map String.toList⟩, argument⟩

/-- The address keeps the argument. -/
def IsKept (route : Route) : Prop := route.template.Takes route.argument.toList

instance (route : Route) : Decidable route.IsKept := inferInstanceAs (Decidable (Template.Takes _ _))

/-- The path below the root. -/
def path (route : Route) : List Char := route.template.path route.argument.toList

@[simp] theorem path_of (before : List String) (argument : String) (after : List String) :
    (of before argument after).path =
      (['/'].intercalate
        (before.map String.toList ++ argument.toList :: after.map String.toList)).dropWhile (· = '/') :=
  rfl

end Route

/-- The words that the path of a kind of playlists ends in. -/
def PlaylistKind.words : PlaylistKind → List String
  | .owned => ["playlists"]
  | .createdFor => ["playlists", "createdfor"]
  | .collaborator => ["playlists", "collaborator"]

namespace Call

variable {α : Type}

/-- The root that the path of a call is put below. -/
def root (c : Client) : Call α → String
  | lookupRelease _ => c.settings.musicbrainzRoot
  | _ => c.settings.apiRoot

/-- The route of a call that names something in its path. The names of several users are one argument. -/
def route? : Call α → Option Route
  | recentListens users _ => some (.of ["users"] (",".intercalate users) ["recent-listens"])
  | listens user .. => some (.of ["user"] user ["listens"])
  | listenCount user => some (.of ["user"] user ["listen-count"])
  | feed user .. => some (.of ["user"] user ["feed", "events"])
  | follow user _ => some (.of ["user"] user ["follow"])
  | unfollow user _ => some (.of ["user"] user ["unfollow"])
  | followers user => some (.of ["user"] user ["followers"])
  | following user => some (.of ["user"] user ["following"])
  | similarUsers user => some (.of ["user"] user ["similar-users"])
  | recommendTrack user .. => some (.of ["user"] user ["timeline-event", "create", "recording"])
  | feedback user .. => some (.of ["feedback", "user"] user ["get-feedback"])
  | feedbackOn user _ => some (.of ["feedback", "user"] user ["get-feedback-for-recordings"])
  | recommendationRatings user _ => some (.of ["recommendation", "feedback", "user"] user ["recordings"])
  | editPlaylist _ mbid _ => some (.of ["playlist", "edit"] mbid [])
  | playlists user _ _ _ kind => some (.of ["user"] user kind.words)
  | playlist mbid _ => some (.of ["playlist"] mbid [])
  | addTracks _ mbid .. => some (.of ["playlist"] mbid ["item", "add"])
  | deleteTracks _ mbid .. => some (.of ["playlist"] mbid ["item", "delete"])
  | moveTracks _ mbid .. => some (.of ["playlist"] mbid ["item", "move"])
  | copyPlaylist _ mbid => some (.of ["playlist"] mbid ["copy"])
  | deletePlaylist _ mbid => some (.of ["playlist"] mbid ["delete"])
  | pins user .. => some (.of [] user ["pins"])
  | lookupRelease mbid => some (.of ["release"] mbid [])
  | topEntities user entity .. => some (.of ["stats", "user"] user [entity.name ++ "s"])
  | listeningActivity user _ => some (.of ["stats", "user"] user ["listening-activity"])
  | dailyActivity user _ => some (.of ["stats", "user"] user ["daily-activity"])
  | artistMap user .. => some (.of ["stats", "user"] user ["artist-map"])
  | _ => none

/-- All that stands in a path but what is named is made of words. -/
theorem isWorded_of_route? {call : Call α} {route : Route} (h : call.route? = some route) :
    route.template.IsWorded := by
  have hWords (before after : List String) (argument : String)
      (hBefore : ∀ word ∈ before.map String.toList, Url.isWord word = true)
      (hAfter : ∀ word ∈ after.map String.toList, Url.isWord word = true) :
      (Route.of before argument after).template.IsWorded := ⟨hBefore, hAfter⟩
  cases call with
  | deleteListen | latestImport | setLatestImport | validateToken | submitFeedback | rateRecommendation
  | unrateRecommendation | createPlaylist | pin | unpin | deletePin | coverArt | releasesOfColor
  | lookupReleasesWith | submitReview => cases h
  | playlists user token offset count kind =>
      obtain rfl := Option.some.inj h
      cases kind <;> exact hWords _ _ _ (by decide) (by decide)
  | topEntities user entity =>
      obtain rfl := Option.some.inj h
      cases entity <;> exact hWords _ _ _ (by decide) (by decide)
  | _ =>
      obtain rfl := Option.some.inj h
      exact hWords _ _ _ (by decide) (by decide)

/-- The request of a call goes to its route below its root. -/
theorem address_of_route? (c : Client) {call : Call α} {route : Route} (h : call.route? = some route) :
    Checked.Ensures (fun e => e.draft.address = call.root c ++ "/" ++ String.ofList route.path)
      (call.exchange c) := by
  cases call with
  | deleteListen | latestImport | setLatestImport | validateToken | submitFeedback | rateRecommendation
  | unrateRecommendation | createPlaylist | pin | unpin | deletePin | coverArt | releasesOfColor
  | lookupReleasesWith | submitReview => cases h
  | recentListens =>
      obtain rfl := Option.some.inj h
      refine .done ?_
      simp [root]
  | listens =>
      obtain rfl := Option.some.inj h
      refine .require (.guarded (.done ?_))
      simp [root]
  | feed | follow | unfollow =>
      obtain rfl := Option.some.inj h
      refine .require (.require (.done ?_))
      simp [root]
  | playlists user token offset count kind =>
      obtain rfl := Option.some.inj h
      refine .require (.done ?_)
      cases kind <;> simp [root, PlaylistKind.words, PlaylistKind.pathSuffix]
  | topEntities | listeningActivity | dailyActivity | artistMap =>
      obtain rfl := Option.some.inj h
      refine .require (.done ?_)
      simp [root, Client.statisticsPath]
  | lookupRelease =>
      obtain rfl := Option.some.inj h
      refine .require (.done ?_)
      simp [root, ← String.toList_inj]
  | _ =>
      obtain rfl := Option.some.inj h
      refine .require (.done ?_)
      simp [root]

/-- A path that starts with what is named starts with something. -/
theorem nonempty_of_route? (c : Client) {call : Call α} {route : Route} (h : call.route? = some route) :
    Checked.Ensures (fun _ => route.template.before ≠ [] ∨ route.argument.toList ≠ []) (call.exchange c) := by
  cases call with
  | deleteListen | latestImport | setLatestImport | validateToken | submitFeedback | rateRecommendation
  | unrateRecommendation | createPlaylist | pin | unpin | deletePin | coverArt | releasesOfColor
  | lookupReleasesWith | submitReview => cases h
  | pins user =>
      obtain rfl := Option.some.inj h
      intro e hExchange
      refine .inr fun hNil => ?_
      have hBlank : Text.isBlank user = true := by simp [Text.isBlank, show user.toList = [] from hNil]
      rw [exchange, Client.pins, require_bind, if_pos hBlank] at hExchange
      cases hExchange
  | _ =>
      obtain rfl := Option.some.inj h
      exact fun _ _ => .inl (by simp [Route.of])

/-- A call attempts to send a draft to some server, and the draft can be sent as a request. -/
def Sends (c : Client) (call : Call α) (draft : Draft) (request : Request) : Prop :=
  (∃ server taken, draft ∈ ((call.session c).run server taken).attempts) ∧ draft.request = .ok request

theorem Sends.of_exchange {c : Client} {call : Call α} {e : Exchange α} {request : Request}
    (hExchange : call.exchange c = .ok e) (hBuilt : e.draft.request = .ok request) :
    call.Sends c e.draft request := by
  refine ⟨⟨.unreachable, 0, ?_⟩, hBuilt⟩
  rw [run_session_of_ok hExchange]
  exact List.mem_singleton_self e.draft

/-- A call whose request can be built sends one. -/
theorem exists_sends_of_isOk {c : Client} {call : Call α}
    (h : (call.exchange c).toOption.any (fun e => e.draft.request.isOk) = true) :
    ∃ draft request, call.Sends c draft request := by
  cases hExchange : call.exchange c with
  | error error => simp [hExchange, Except.toOption] at h
  | ok e =>
      have hOk : e.draft.request.isOk = true := by simpa [hExchange, Except.toOption] using h
      obtain ⟨request, hBuilt⟩ := Draft.exists_request_of_isOk hOk
      exact ⟨e.draft, request, .of_exchange hExchange hBuilt⟩

/-- A call that sends a request has an exchange with its draft. -/
theorem Sends.exists_exchange {c : Client} {call : Call α} {draft : Draft} {request : Request}
    (h : call.Sends c draft request) : ∃ e, call.exchange c = .ok e ∧ e.draft = draft := by
  obtain ⟨⟨server, taken, hMem⟩, -⟩ := h
  cases hExchange : call.exchange c with
  | error error => simp [run_session_of_error hExchange, Outcome.attempts] at hMem
  | ok e =>
      refine ⟨e, rfl, ?_⟩
      simpa [run_session_of_ok hExchange, Outcome.attempts, Event.draft?, eq_comm] using hMem

end Call

/-- An address is the one that a route names below a root, whose own address ends in a slash: the segments of
the root are followed by those of the route, of which one decodes to the argument, and there is no query
but the given one. -/
structure Url.Reaches (url base : Url) (query : Option (List Char)) (route : Route) : Prop where
  scheme : url.scheme = base.scheme
  authority : url.authority = base.withoutUser.authority
  path : ∃ front segment, base.path = .segments (front ++ [[]]) ∧
    decoded segment = Text.Utf8.encode route.argument ∧
    url.path = .segments (front ++ route.template.segments segment)
  query : url.query = query
  fragment : url.fragment = none

namespace Call

variable {α : Type} {c : Client} {call : Call α} {route : Route} {base : Url} {draft : Draft}
  {request : Request}

/-- The request of a call goes below the root of the call, so the root is one that requests can be sent to. -/
theorem isHttp_of_sends (hSent : call.Sends c draft request) (hRoute : call.route? = some route)
    (hBase : Url.parse (Root.address (call.root c) "") = some base) : base.isHttp = true := by
  obtain ⟨e, hExchange, rfl⟩ := hSent.exists_exchange
  obtain ⟨url, hParse, hUrl, hSend⟩ := Draft.exists_parse_of_request hSent.2
  obtain ⟨query, hSame⟩ := e.draft.exists_query_urlWithQuery url.withoutUser
  rw [address_of_route? c hRoute e hExchange] at hParse
  have hScheme : url.scheme = base.scheme := Url.scheme_of_parse_append_slash (s := []) hBase hParse
  have hRequest : request.url.scheme = base.scheme := by
    rw [hUrl, hSame]
    exact hScheme
  have hHttp := Url.isHttp_of_isSendable hSend
  rwa [Url.isHttp, hRequest] at hHttp

/-- The request of a call follows its route from where the root leads. -/
theorem exists_walk_of_sends (hSent : call.Sends c draft request) (hRoute : call.route? = some route)
    (hBase : Url.parse (Root.address (call.root c) "") = some base) (hQuery : base.query = none)
    (hFragment : base.fragment = none) :
    ∃ w : Url.Walk, base.path = .segments (w.segments ++ [[]]) ∧
      request.url = draft.urlWithQuery (base.withTail w (Url.settled route.path)).withoutUser := by
  have hHttp := isHttp_of_sends hSent hRoute hBase
  obtain ⟨e, hExchange, rfl⟩ := hSent.exists_exchange
  obtain ⟨url, hParse, hUrl, -⟩ := Draft.exists_parse_of_request hSent.2
  obtain ⟨w, hPath, hBelow⟩ := Url.exists_walk_parse hBase hHttp hQuery hFragment
  rw [address_of_route? c hRoute e hExchange, hBelow] at hParse
  obtain rfl := Option.some.inj hParse
  exact ⟨w, hPath, hUrl⟩

/-- The request of a call reaches the route of the call exactly if the address keeps what is named. -/
theorem reaches_iff_isKept (hSent : call.Sends c draft request) (hRoute : call.route? = some route)
    (hBase : Url.parse (Root.address (call.root c) "") = some base) (hQuery : base.query = none)
    (hFragment : base.fragment = none) : request.url.Reaches base draft.ownQuery route ↔ route.IsKept := by
  have hWorded := isWorded_of_route? hRoute
  have hStart : route.template.before ≠ [] ∨ route.argument.toList ≠ [] := by
    obtain ⟨e, hExchange, -⟩ := hSent.exists_exchange
    exact nonempty_of_route? c hRoute e hExchange
  obtain ⟨w, hPath, hUrl⟩ := exists_walk_of_sends hSent hRoute hBase hQuery hFragment
  have hBytes : Url.bytes route.argument.toList = Text.Utf8.encode route.argument := by
    rw [Url.bytes, String.ofList_toList]
  have hKept := Template.takes_iff_exists_segment hWorded hStart w
  constructor
  · intro hReaches
    obtain ⟨front, segment, hFront, hDecoded, hSegments⟩ := hReaches.path
    obtain rfl : w.segments = front :=
      List.append_cancel_right (Url.Path.segments.inj (hPath.symm.trans hFront))
    obtain ⟨query, hSame⟩ :=
      draft.exists_query_urlWithQuery (base.withTail w (Url.settled route.path)).withoutUser
    rw [hUrl, hSame] at hSegments
    exact hKept.mpr ⟨segment, hDecoded.trans hBytes.symm, Url.Path.segments.inj hSegments⟩
  · intro hTakes
    obtain ⟨segment, hDecoded, hSegments⟩ := hKept.mp hTakes
    obtain ⟨-, hNoQuery, hNoFragment⟩ := (Template.isUnmarked_tail hWorded hTakes.toKeeps hStart).parts true
    have hNone : (base.withTail w (Url.settled route.path)).withoutUser.query = none := hNoQuery
    rw [hUrl, draft.urlWithQuery_eq hNone]
    exact ⟨rfl, rfl, ⟨w.segments, segment, hPath, hDecoded.trans hBytes,
      congrArg Url.Path.segments hSegments⟩, rfl, hNoFragment⟩

/-- What is named decides the path. -/
theorem argument_eq_of_reaches {url url' : Url} {query query' : Option (List Char)} {route' : Route}
    (h : url.Reaches base query route) (h' : url'.Reaches base query' route')
    (hTemplate : route'.template = route.template) (hPath : url'.path = url.path) :
    route'.argument = route.argument := by
  obtain ⟨front, segment, hFront, hDecoded, hSegments⟩ := h.path
  obtain ⟨front', segment', hFront', hDecoded', hSegments'⟩ := h'.path
  obtain rfl : front' = front :=
    List.append_cancel_right (Url.Path.segments.inj (hFront'.symm.trans hFront))
  have hSame := Url.Path.segments.inj (hSegments'.symm.trans (hPath.trans hSegments))
  rw [hTemplate, Template.segments, Template.segments] at hSame
  obtain ⟨rfl, -⟩ := List.cons.inj (List.append_cancel_left (List.append_cancel_left hSame))
  have hText := congrArg Text.Utf8.text? (hDecoded'.symm.trans hDecoded)
  rw [Text.Utf8.text?_encode, Text.Utf8.text?_encode] at hText
  exact Option.some.inj hText

/-- The request of a call that names something in its path goes to the route of the call, below its root, and
has no parameters but its own, exactly if the address keeps the name: no slash, mark or break is in the
name, it is not one of dots and has no escape, and at the end of a path it does not end in a margin. Two
such names that differ lead to different paths. -/
theorem request_reaches_iff (hSent : call.Sends c draft request) (hRoute : call.route? = some route)
    (hBase : Url.parse (Root.address (call.root c) "") = some base) (hQuery : base.query = none)
    (hFragment : base.fragment = none) :
    (request.url.Reaches base draft.ownQuery route ↔ route.IsKept) ∧
      ∀ (other : Call α) (draft' : Draft) (request' : Request) (route' : Route),
        other.Sends c draft' request' → other.route? = some route' → other.root c = call.root c →
          route'.template = route.template → route.IsKept → route'.IsKept →
            request'.url.path = request.url.path → route'.argument = route.argument := by
  have hReaches := reaches_iff_isKept hSent hRoute hBase hQuery hFragment
  refine ⟨hReaches, fun other draft' request' route' hSent' hRoute' hRoot hTemplate hKept hKept' hPath => ?_⟩
  have hReaches' := reaches_iff_isKept hSent' hRoute' (hRoot ▸ hBase) hQuery hFragment
  exact argument_eq_of_reaches (hReaches.mpr hKept) (hReaches'.mpr hKept') hTemplate hPath

/-- The followers of two users are asked for. -/
theorem request_reaches_followers_of_two :
    let c : Client := .ofRoot "http://[::1]"
    let call (user : String) : Call (List String) := .followers user
    let route (user : String) : Route := .of ["user"] user ["followers"]
    ∃ base draft request draft' request', (call "someone").Sends c draft request ∧
      (call "another").Sends c draft' request' ∧
      Url.parse (Root.address ((call "someone").root c) "") = some base ∧ (route "someone").IsKept ∧
      request.url.Reaches base draft.ownQuery (route "someone") ∧ request'.url.path ≠ request.url.path := by
  intro c call route
  let e (user : String) : Exchange (List String) :=
    ⟨c.get ("user/" ++ user ++ "/followers"), Receive.json Followers.page⟩
  let base : Url :=
    ⟨['h', 't', 't', 'p'], some ⟨.none, some (.pieced [0, 0, 0, 0, 0, 0, 0, 1]), none⟩,
      .segments [['1'], []], none, none⟩
  have hBase : Url.parse (Root.address ((call "someone").root c) "") = some base := by decide +kernel
  have hKept : (route "someone").IsKept ∧ (route "another").IsKept := by decide
  have hOk : (e "someone").draft.request.isOk = true ∧ (e "another").draft.request.isOk = true := by
    decide +kernel
  obtain ⟨request, hBuilt⟩ := Draft.exists_request_of_isOk hOk.1
  obtain ⟨request', hBuilt'⟩ := Draft.exists_request_of_isOk hOk.2
  have hSent : (call "someone").Sends c (e "someone").draft request := .of_exchange rfl hBuilt
  have hSent' : (call "another").Sends c (e "another").draft request' := .of_exchange rfl hBuilt'
  obtain ⟨hReaches, hDiffer⟩ := request_reaches_iff hSent rfl hBase rfl rfl
  refine ⟨base, _, request, _, request', hSent, hSent', hBase, hKept.1, hReaches.mpr hKept.1, fun hPath => ?_⟩
  have hSame := hDiffer (call "another") _ request' (route "another") hSent' rfl rfl rfl hKept.1 hKept.2 hPath
  exact absurd hSame (by decide)

/-- A name with a slash in it leads elsewhere. -/
theorem not_forall_request_reaches :
    ¬∀ (α : Type) (c : Client) (call : Call α) (route : Route) (base : Url) (draft : Draft)
      (request : Request), call.Sends c draft request → call.route? = some route →
        Url.parse (Root.address (call.root c) "") = some base → base.query = none → base.fragment = none →
          Text.isBlank route.argument = false → request.url.Reaches base draft.ownQuery route := by
  intro h
  let c : Client := .ofRoot "http://[::1]"
  let call : Call (List String) := .followers "a/b"
  let e : Exchange (List String) := ⟨c.get "user/a/b/followers", Receive.json Followers.page⟩
  let base : Url :=
    ⟨['h', 't', 't', 'p'], some ⟨.none, some (.pieced [0, 0, 0, 0, 0, 0, 0, 1]), none⟩,
      .segments [['1'], []], none, none⟩
  have hBase : Url.parse (Root.address (call.root c) "") = some base := by decide +kernel
  have hPath : e.draft.request.toOption.map (·.url.path) =
      some (.segments (["1", "user", "a", "b", "followers"].map String.toList)) := by decide +kernel
  have hOk : e.draft.request.isOk = true := by decide +kernel
  obtain ⟨request, hBuilt⟩ := Draft.exists_request_of_isOk hOk
  have hSent : call.Sends c e.draft request := .of_exchange rfl hBuilt
  have hReaches := h _ c call _ base e.draft request hSent rfl hBase rfl rfl (by decide)
  obtain ⟨front, segment, hFront, -, hSegments⟩ := hReaches.path
  rw [hBuilt] at hPath
  have hSame := Url.Path.segments.inj (hSegments.symm.trans (Option.some.inj hPath))
  -- There is one segment more than the route has.
  have hRoot := congrArg List.length (Url.Path.segments.inj hFront)
  have hLength := congrArg List.length hSame
  simp [Template.segments, Route.of] at hRoot hLength
  omega

end Call

end Scrobbler
