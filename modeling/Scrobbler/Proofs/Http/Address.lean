import Mathlib.Tactic.Common
import Scrobbler.Client.Call

/-!
Addresses of requests. What is added to a draft leaves its address alone; a request that is built goes to
that address, of which its parameters change nothing but the query.
-/

namespace Scrobbler

/-- Requests are only sent to addresses of HTTP. -/
theorem Url.isHttp_of_isSendable {url : Url} (h : url.isSendable = true) : url.isHttp = true := by
  simp only [Url.isSendable, Bool.and_eq_true] at h
  exact h.1.1

namespace Draft

variable (draft : Draft)

@[simp] theorem address_withQuery (pairs : List (String × String)) :
    (draft.withQuery pairs).address = draft.address := rfl

@[simp] theorem address_withParameter (name : String) (value : Option String) :
    (draft.withParameter name value).address = draft.address := by
  cases value <;> rfl

@[simp] theorem address_withCredential (credential : Credential) :
    (draft.withCredential credential).address = draft.address := rfl

@[simp] theorem address_withOptionalToken (token : Option String) :
    (draft.withOptionalToken token).address = draft.address := by
  unfold withOptionalToken
  split
  · split <;> rfl
  · rfl

@[simp] theorem address_withBody (body : Json) : (draft.withBody body).address = draft.address := rfl

@[simp] theorem address_withMembers (members : List (String × Json)) :
    (draft.withMembers members).address = draft.address := rfl

@[simp] theorem address_get (address : String) : (get address).address = address := rfl

@[simp] theorem address_post (address : String) : (post address).address = address := rfl

theorem exists_request_of_isOk {draft : Draft} (h : draft.request.isOk = true) :
    ∃ request, draft.request = .ok request := by
  cases hRequest : draft.request with
  | error fault => simp [hRequest, Except.isOk, Except.toBool] at h
  | ok request => exact ⟨request, rfl⟩

/-- The query that the parameters of a request make up by themselves. -/
def ownQuery (draft : Draft) : Option (List Char) :=
  draft.query.bind fun pairs =>
    if (Url.Form.append [] pairs).isEmpty then none else some (Url.Form.append [] pairs)

/-- A request goes to the address of its draft, without the user and with the parameters. -/
theorem exists_parse_of_request {draft : Draft} {request : Request} (h : draft.request = .ok request) :
    ∃ url, Url.parse draft.address = some url ∧ request.url = draft.urlWithQuery url.withoutUser ∧
      request.url.isSendable = true := by
  unfold Draft.request at h
  split at h
  · cases h
  · next url hParse =>
      by_cases hHost : url.host?.isNone = true
      · simp [hHost] at h
      by_cases hFits : draft.credentialFits = true
      · by_cases hSend : (draft.urlWithQuery url.withoutUser).isSendable = true
        · simp only [hHost, hFits, hSend] at h
          obtain rfl := (Except.ok.inj h).symm
          exact ⟨url, hParse, rfl, hSend⟩
        · simp [hHost, hFits, hSend] at h
      · simp [hHost, hFits] at h

/-- An address without a query gets the one of the draft. -/
theorem urlWithQuery_eq (draft : Draft) {url : Url} (h : url.query = none) :
    draft.urlWithQuery url = { url with query := draft.ownQuery } := by
  unfold urlWithQuery ownQuery
  cases draft.query with
  | none => exact congrArg (fun query => { url with query }) h
  | some pairs => simp [Url.appendQuery, h]

/-- Parameters change nothing but the query. -/
theorem exists_query_urlWithQuery (draft : Draft) (url : Url) :
    ∃ query, draft.urlWithQuery url = { url with query } := by
  unfold urlWithQuery
  cases draft.query with
  | none => exact ⟨url.query, rfl⟩
  | some pairs => exact ⟨_, rfl⟩

end Draft

namespace Client

@[simp] theorem apiAddress_eq (c : Client) (path : String) :
    c.apiAddress path = c.settings.apiRoot ++ "/" ++ String.ofList (path.toList.dropWhile (· = '/')) := rfl

@[simp] theorem address_get (c : Client) (path : String) :
    (c.get path).address = c.apiAddress path := rfl

@[simp] theorem address_post (c : Client) (token path : String) :
    (c.post token path).address = c.apiAddress path := rfl

end Client

end Scrobbler
