import Scrobbler.Endpoint.Community
import Scrobbler.Program.Machine

/-!
The command that validates a token and keeps it for later commands.
-/

namespace Scrobbler.Program

/-- Removes the stored token. -/
def clearToken (m : Machine) : Session (Nat × Disk) :=
  let owner := (m.store.load m.disk).toOption.map (·.userName)
  match m.store.clear m.disk with
  | .error error =>
      (failure ("Cannot remove stored token. Err: " ++ error.message)).bind fun code =>
        .done (code, m.disk)
  | .ok disk =>
      let text :=
        owner.elim "No stored token." fun user => "Stored token of " ++ user ++ " removed."
      .print (Notice.success text) (.done (0, disk))

/-- Keeps a token that was found valid. -/
def storeToken (m : Machine) (token user : String) : Session (Nat × Disk) :=
  match m.store.save m.disk ⟨token, user, m.now⟩ with
  | .error error =>
      .print
        (Notice.warning ("Token is valid but could not be stored. Err: " ++ error.message))
        (.done (0, m.disk))
  | .ok disk => .print (Notice.success ("Authenticated as " ++ user ++ ".")) (.done (0, disk))

/-- Validates a token, and keeps it if it is valid. -/
def validateToken (m : Machine) (token : String) : Session (Nat × Disk) :=
  (Exchange.perform (m.client.validateToken token)).bind fun
    | .error error =>
        (failure ("Cannot validate token. Err: " ++ error.message)).bind fun code =>
          .done (code, m.disk)
    | .ok validation =>
        match validation.owner? with
        | some user => storeToken m token user
        | none =>
            (failure ("Token is not valid: " ++ validation.message)).bind fun code =>
              .done (code, m.disk)

/-- Validates and keeps a token, or removes the one that is kept. -/
def authenticate (m : Machine) (given : Option String) (clear : Bool) : Session (Nat × Disk) :=
  if clear then clearToken m
  else
    match m.token given with
    | .ok token => validateToken m token
    | .error _ => (withToken m given fun _ => .done 0).bind fun code => .done (code, m.disk)

end Scrobbler.Program
