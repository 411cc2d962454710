import Scrobbler.CommandLine.Message
import Scrobbler.Program.Authentication
import Scrobbler.Program.Scrobbling
import Scrobbler.Program.Views
import Scrobbler.Storage.EnvironmentFile

/-!
A run of the program: the environment file is loaded, the command line is read, and the command is
carried out.
-/

namespace Scrobbler.Program

open CommandLine (Command Stop)

/-- Adds the variables of the environment file, if there is one. -/
def loadEnvironment (m : Machine) : Except String Environment :=
  let path := DataDirectory.environmentFile m.environment
  let failed (text : String) : Except String Environment := .error (path ++ ": " ++ text)
  match m.disk.readBytes m.workingDirectory path with
  | .error _ => .ok m.environment
  | .ok content =>
      match Text.Utf8.text? content with
      | none => failed DiskError.notText.message
      | some text =>
          match EnvironmentFile.load m.environment text with
          | .ok environment => .ok environment
          | .error fault => failed fault.message

/-- The machine once the program's directory and the variables of its environment file are there. -/
def prepare (m : Machine) : Except String Machine := do
  let disk ←
    (m.disk.makeDirectories m.workingDirectory (DataDirectory.own m.environment)).mapError
      DiskError.message
  let m := { m with disk }
  return { m with environment := ← loadEnvironment m }

/-- Carries out a command that leaves the disk as it is. -/
def keepingDisk (m : Machine) (session : Session Nat) : Session (Nat × Disk) :=
  session.bind fun exitCode => .done (exitCode, m.disk)

/-- Carries out a command. -/
def perform (m : Machine) : Command → Session (Nat × Disk)
  | .auth token clear => authenticate m token clear
  | .importFiles files batchSize type token =>
      keepingDisk m (importFiles m files batchSize type token)
  | .nowPlaying track token => keepingDisk m (nowPlaying m track token)
  | .listen track token => keepingDisk m (listen m track token)
  | .listens user count minTs maxTs => keepingDisk m (listens m user count minTs maxTs)
  | .follow user token => keepingDisk m (follow m user token)
  | .unfollow user token => keepingDisk m (unfollow m user token)
  | .followers user => keepingDisk m (followers m user)
  | .following user => keepingDisk m (following m user)
  | .stats user entity range count => keepingDisk m (stats m user entity range count)
  | .playlists user kind count token => keepingDisk m (playlists m user kind count token)
  | .pins user count => keepingDisk m (pins m user count)
  | .completions shell => keepingDisk m (done (CommandLine.completionLines shell))

/-- Ends a run whose command line names no command to carry out. -/
def stop (disk : Disk) : Stop → Session Ending
  | .help => (printAll CommandLine.helpLines).bind fun _ => .done ⟨0, none, disk⟩
  | .version => .print CommandLine.programVersion (.done ⟨0, none, disk⟩)
  | .error error => .done ⟨2, some error.message, disk⟩

/-- Runs the program. -/
def run (m : Machine) (arguments : List String) : Session Ending :=
  match prepare m with
  | .error error =>
      (failure ("Cannot load environment. Err: " ++ error)).bind fun exitCode =>
        .done ⟨exitCode, none, m.disk⟩
  | .ok m =>
      match Command.read m.environment arguments with
      | .error reason => stop m.disk reason
      | .ok command =>
          (perform m command).bind fun (exitCode, disk) => .done ⟨exitCode, none, disk⟩

end Scrobbler.Program
