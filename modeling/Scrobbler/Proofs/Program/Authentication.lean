import Scrobbler.Program.Run
import Scrobbler.Proofs.Http.Delivery
import Scrobbler.Proofs.Storage.TokenStore

/-!
What a run of the program leaves of the stored token. Only the command that validates tokens may change
a file. It keeps a token if a server has said that the token is valid, and whose it is; and it removes
the one that is kept if it is told to.
-/

namespace Scrobbler

open Json (Wire Decoder)

/-- A request that asks the listens server whom a token belongs to. -/
structure Draft.AsksOwner (c : Client) (token : String) (d : Draft) (request : Request) : Prop where
  address : d.address = c.apiAddress "validate-token"
  built : d.request = .ok request
  method : request.method = .get
  authorization : request.authorization = some ("Token " ++ token)

/-- A success that says that a token is valid, and whose it is. -/
structure Response.NamesOwner (user : String) (r : Response) (validation : TokenValidation) : Prop where
  success : r.status.isSuccess = true
  decoded : r.json Wire.decoder = .ok validation
  valid : validation.valid = true
  user : validation.userName = some user

/-- A server has read a request that asks whom a token belongs to, and has said that it is valid and
whose it is. -/
def Delivery.Confirms (c : Client) (token user : String) (draft : Draft) (delivery : Delivery) : Prop :=
  ∃ request response validation, draft.AsksOwner c token request ∧ delivery.received = true ∧
    delivery.outcome = .ok response ∧ response.NamesOwner user validation

/-- Something that was sent had a token confirmed. -/
def Outcome.Confirms {α : Type} (o : Outcome α) (c : Client) (token user : String) : Prop :=
  ∃ draft delivery, (draft, delivery) ∈ o.sent ∧ delivery.Confirms c token user draft

namespace TokenValidation

/-- The owner of a token is known from an answer exactly if the answer names one. -/
theorem owner?_eq_some_iff {v : TokenValidation} {user : String} :
    v.owner? = some user ↔ v.valid = true ∧ v.userName = some user := by
  unfold owner?
  split
  · next hValid => simp [hValid]
  · next hInvalid => simp [hInvalid]

end TokenValidation

namespace Receive

/-- A value is received from a success whose body it is decoded from. -/
theorem json_eq_ok {α : Type} {decoder : Decoder α} {r : Response} {value : α} :
    Receive.json decoder r = .ok value ↔ r.status.isSuccess = true ∧ r.json decoder = .ok value := by
  unfold Receive.json Response.check body
  by_cases hSuccess : r.status.isSuccess = true
  · rw [if_pos hSuccess, ok_bind]
    cases r.json decoder <;> simp [hSuccess]
  · rw [if_neg hSuccess]
    simp [hSuccess, Bind.bind, Except.bind]

end Receive

namespace Client

variable (c : Client) (token : String)

/-- The request that asks whom a token belongs to. -/
def ownerDraft : Draft := (c.get "validate-token").withCredential (.token token)

variable {c token}

/-- What comes back for the request confirms nothing but what it says of its token. -/
theorem confirms_ownerDraft_iff {server : Server} {taken : Nat} {other user : String} :
    (server.deliver taken (c.ownerDraft token)).Confirms c other user (c.ownerDraft token) ↔
      other = token ∧ ∃ response validation,
        (server.deliver taken (c.ownerDraft token)).outcome = .ok response ∧
        response.NamesOwner user validation := by
  constructor
  · rintro ⟨request, response, validation, hAsks, -, hOutcome, hNames⟩
    obtain ⟨url, rfl⟩ := Draft.exists_url_of_request hAsks.built
    have hSame : "Token " ++ token = "Token " ++ other := Option.some.inj hAsks.authorization
    exact ⟨((String.append_right_inj _).mp hSame).symm, response, validation, hOutcome, hNames⟩
  · rintro ⟨rfl, response, validation, hOutcome, hNames⟩
    obtain ⟨request, hBuilt⟩ := Server.exists_request_of_answered hOutcome
    obtain ⟨url, rfl⟩ := Draft.exists_url_of_request hBuilt
    exact ⟨_, response, validation, ⟨rfl, hBuilt, rfl, rfl⟩, Server.received_of_answered hOutcome, hOutcome,
      hNames⟩

variable (c token) in
/-- The exchange that asks whom a token belongs to. -/
def ownerExchange : Exchange TokenValidation := ⟨c.ownerDraft token, Receive.json Wire.decoder⟩

/-- The owner that the result of an exchange names. -/
def owner? (result : Checked TokenValidation) : Option String :=
  result.toOption.bind TokenValidation.owner?

/-- An exchange names an owner exactly if its answer does. -/
theorem owner?_result_eq_some_iff {outcome : Except TransportError Response} {user : String} :
    owner? ((c.ownerExchange token).result outcome) = some user ↔
      ∃ response validation, outcome = .ok response ∧ response.NamesOwner user validation := by
  cases outcome with
  | error error => simp [owner?, Exchange.result, Except.toOption]
  | ok response =>
      show (Receive.json Wire.decoder response).toOption.bind _ = _ ↔ _
      constructor
      · intro h
        obtain ⟨validation, hReceived, hOwner⟩ := Option.bind_eq_some_iff.mp h
        obtain ⟨hSuccess, hDecoded⟩ := Receive.json_eq_ok.mp (toOption_eq_some.mp hReceived)
        obtain ⟨hValid, hUser⟩ := TokenValidation.owner?_eq_some_iff.mp hOwner
        exact ⟨response, validation, rfl, hSuccess, hDecoded, hValid, hUser⟩
      · rintro ⟨_, validation, hOutcome, hNames⟩
        obtain rfl := Except.ok.inj hOutcome
        rw [Receive.json_eq_ok.mpr ⟨hNames.success, hNames.decoded⟩]
        exact TokenValidation.owner?_eq_some_iff.mpr ⟨hNames.valid, hNames.user⟩

end Client

namespace Program

variable (m : Machine) (server : Server) (taken : Nat)

/-- The disk once a token is kept, or as it was if that fails. -/
def kept (token user : String) : Disk :=
  (m.store.save m.disk ⟨token, user, m.now⟩).toOption.getD m.disk

/-- The disk once no token is kept, or as it was if that fails. -/
def cleared : Disk := (m.store.clear m.disk).toOption.getD m.disk

/-- Keeping a token saves it, or fails and changes nothing. -/
theorem kept_cases (token user : String) :
    kept m token user = m.disk ∨ m.store.save m.disk ⟨token, user, m.now⟩ = .ok (kept m token user) :=
  toOption_getD_cases _ _

/-- Clearing the store removes the token, or fails and changes nothing. -/
theorem cleared_cases : cleared m = m.disk ∨ m.store.clear m.disk = .ok (cleared m) :=
  toOption_getD_cases _ _

/-- Storing a token sends nothing. -/
theorem storeToken_yields (token user : String) :
    ∃ exitCode, (storeToken m token user).Yields (exitCode, kept m token user) := by
  unfold storeToken kept
  cases m.store.save m.disk ⟨token, user, m.now⟩ with
  | error error => exact ⟨0, .print (.done _)⟩
  | ok disk => exact ⟨0, .print (.done _)⟩

theorem clearToken_yields : ∃ exitCode, (clearToken m).Yields (exitCode, cleared m) := by
  unfold clearToken cleared
  cases m.store.clear m.disk with
  | error error => exact ⟨1, .print (.done _)⟩
  | ok disk => exact ⟨0, .print (.done _)⟩

/-- What follows the result of the exchange: a token is kept if an owner is named, and nothing more is
sent. -/
def settle (token : String) : Checked TokenValidation → Session (Nat × Disk)
  | .error error =>
      (failure ("Cannot validate token. Err: " ++ error.message)).bind fun code => .done (code, m.disk)
  | .ok validation =>
      match validation.owner? with
      | some user => storeToken m token user
      | none =>
          (failure ("Token is not valid: " ++ validation.message)).bind fun code => .done (code, m.disk)

theorem validateToken_eq (token : String) :
    validateToken m token = (Exchange.perform (m.client.validateToken token)).bind (settle m token) := rfl

/-- What is done with the answer sends nothing: a token with an owner is kept, and any other is not. -/
theorem settle_yields (token : String) (result : Checked TokenValidation) :
    ∃ exitCode,
      (settle m token result).Yields (exitCode, (Client.owner? result).elim m.disk (kept m token)) := by
  cases result with
  | error error => exact ⟨1, .print (.done _)⟩
  | ok validation =>
      have hOwner : Client.owner? (.ok validation) = validation.owner? := rfl
      rw [settle, hOwner]
      cases validation.owner? with
      | some user => exact storeToken_yields m token user
      | none => exact ⟨1, .print (.done _)⟩

/-- What is sent, once the token is not blank, and what follows. -/
theorem validateToken_of_not_blank {token : String} (h : ¬Text.isBlank token = true) :
    validateToken m token = .send (m.client.ownerDraft token) fun outcome =>
      settle m token ((m.client.ownerExchange token).result outcome) := by
  rw [validateToken_eq, Client.validateToken, require, if_neg h]
  rfl

section Endings

variable {server taken} {α : Type} {c : Client} {token user : String}

/-- A run with one request confirms a token exactly if that request does. -/
theorem confirms_of_sent_eq_singleton {o : Outcome α} {draft : Draft} {delivery : Delivery}
    (h : o.sent = [(draft, delivery)]) :
    o.Confirms c token user ↔ delivery.Confirms c token user draft := by
  simp only [Outcome.Confirms, h, List.mem_singleton, Prod.mk.injEq]
  constructor
  · rintro ⟨_, _, ⟨rfl, rfl⟩, hConfirms⟩
    exact hConfirms
  · exact fun hConfirms => ⟨draft, delivery, ⟨rfl, rfl⟩, hConfirms⟩

theorem not_confirms_of_yields {session : Session α} {value : α} (h : session.Yields value) :
    ¬(session.run server taken).Confirms c token user := by
  obtain ⟨-, -, hSent⟩ := h server taken
  rintro ⟨draft, delivery, hMem, -⟩
  rw [hSent] at hMem
  cases hMem

end Endings

/-- Validating a token sends one request at most. The token is kept if its answer names an owner, and the
disk stays as it is otherwise. -/
theorem run_validateToken (token : String) :
    ∃ owner : Option String,
      (∀ other user, ((validateToken m token).run server taken).Confirms m.client other user ↔
        other = token ∧ owner = some user) ∧
      ((validateToken m token).run server taken).value.2 = owner.elim m.disk (kept m token) := by
  by_cases hBlank : Text.isBlank token = true
  · have hRefused : validateToken m token = settle m token (.error (.missingArgument "user token")) := by
      rw [validateToken_eq, Client.validateToken, require, if_pos hBlank]
      rfl
    obtain ⟨exitCode, hSettled⟩ := settle_yields m token (.error (.missingArgument "user token"))
    rw [hRefused]
    refine ⟨none, fun other user => ?_, congrArg Prod.snd (hSettled server taken).1⟩
    exact iff_of_false (not_confirms_of_yields hSettled) (by simp)
  · rw [validateToken_of_not_blank m hBlank]
    obtain ⟨exitCode, hSettled⟩ := settle_yields m token ((m.client.ownerExchange token).result
      (server.deliver taken (m.client.ownerDraft token)).outcome)
    obtain ⟨hValue, hSent⟩ := Session.run_send_of_yields server taken (m.client.ownerDraft token)
      (fun outcome => settle m token ((m.client.ownerExchange token).result outcome)) hSettled
    refine ⟨_, fun other user => ?_, by rw [hValue]⟩
    rw [confirms_of_sent_eq_singleton hSent, Client.confirms_ownerDraft_iff, Client.owner?_result_eq_some_iff]

/-- The same holds when the token has to be looked for first; without one nothing is sent. -/
theorem run_authenticate (given : Option String) :
    ∃ confirmed : Option (String × String),
      (∀ token user, ((authenticate m given false).run server taken).Confirms m.client token user ↔
        confirmed = some (token, user)) ∧
      ((authenticate m given false).run server taken).value.2 =
        confirmed.elim m.disk fun pair => kept m pair.1 pair.2 := by
  rw [authenticate, if_neg Bool.false_ne_true]
  cases hToken : m.token given with
  | error error =>
      have hYields : ((withToken m given fun _ => .done 0).bind fun code => .done (code, m.disk)).Yields
          ((1, m.disk) : Nat × Disk) := by
        rw [withToken, hToken]
        exact .print (.done _)
      refine ⟨none, fun token user => ?_, ?_⟩
      · exact iff_of_false (not_confirms_of_yields hYields) nofun
      · rw [(hYields server taken).1]
        rfl
  | ok token =>
      obtain ⟨owner, hConfirms, hDisk⟩ := run_validateToken m server taken token
      refine ⟨owner.map fun user => (token, user), fun other user => (hConfirms other user).trans ?_, ?_⟩
      · cases owner with
        | none => simp
        | some owner => simp [eq_comm]
      · rw [hDisk]
        cases owner <;> rfl

/-- Every other command leaves the disk as it is. -/
theorem disk_run_perform {command : CommandLine.Command} (h : ∀ given clear, command ≠ .auth given clear) :
    ((perform m command).run server taken).value.2 = m.disk := by
  have hKept : ∀ session, ((keepingDisk m session).run server taken).value.2 = m.disk := by
    intro session
    rw [keepingDisk, Session.value_run_bind]
    rfl
  cases command with
  | auth given clear => exact absurd rfl (h given clear)
  | _ => exact hKept _

variable {m}

/-- Before a command is read, directories may be made, and variables may be set. -/
theorem prepare_eq_ok {ready : Machine} (h : prepare m = .ok ready) :
    m.disk.Grows ready.disk ∧ ready.now = m.now := by
  unfold prepare at h
  obtain ⟨disk, hMade, h⟩ := bind_eq_ok.mp h
  obtain ⟨environment, -, h⟩ := bind_eq_ok.mp h
  obtain rfl := pure_eq_ok.mp h
  exact ⟨Disk.grows_of_makeDirectories (mapError_eq_ok.mp hMade), rfl⟩

end Program

end Scrobbler
