import Scrobbler.Http.Session
import Scrobbler.Notice
import Scrobbler.Storage.DataDirectory
import Scrobbler.Storage.TokenStore
import Scrobbler.Client.Settings

/-!
What the program knows of the machine that it runs on, and what its commands have in common.
-/

namespace Scrobbler.Program

structure Machine where
  workingDirectory : Place
  environment : Environment
  disk : Disk
  /-- Seconds since 1970. -/
  now : Int64

/-- How a run of the program ends. -/
structure Ending where
  exitCode : Nat
  /-- What is written to the error stream, the message of a panic apart. -/
  errorText : Option String
  disk : Disk

namespace Machine

/-- The client that the environment asks for. -/
def client (m : Machine) : Client := .ofSettings (.ofEnvironment m.environment)

/-- The token store. -/
def store (m : Machine) : TokenStore := ⟨m.workingDirectory, DataDirectory.own m.environment⟩

/-- The token to act with: one that is given, the one of the environment, or the one stored. -/
def token (m : Machine) (given : Option String) : Except StoreError String :=
  match given.filter fun token => !Text.isBlank token with
  | some token => .ok token
  | none =>
      match m.environment.userToken? with
      | some token => .ok token
      | none => (m.store.load m.disk).map (·.token)

end Machine

/-- Prints lines. -/
def printAll : List String → Session Unit
  | [] => .done ()
  | line :: rest => .print line (printAll rest)

/-- Prints a line, and ends with an exit code. -/
def ending (line : String) (exitCode : Nat) : Session Nat := .print line (.done exitCode)

/-- Ends with a notice of what went wrong. -/
def failure (text : String) : Session Nat := ending (Notice.warning text) 1

/-- Ends as a panic does. Its message, which names a place in a file, is not modelled. -/
def crash : Session Nat := .done 101

/-- Goes on with the token to act with, if there is one. -/
def withToken (m : Machine) (given : Option String) (next : String → Session Nat) : Session Nat :=
  match m.token given with
  | .ok token => next token
  | .error error =>
      failure
        ("No user token found. Run lbcli auth or set LISTENBRAINZ_TOKEN.\n Error: " ++
          error.message)

end Scrobbler.Program
