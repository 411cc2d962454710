import Scrobbler.Program.Run
import Std.Time.DateTime.Timestamp

/-!
The program as it is started from a command line. It looks at the environment, the clock and the
files that it may need, carries out the command, and keeps the token store. It has no network of its
own: to every request it acts as if no answer came.
-/

namespace Scrobbler

/-- Carries out a session without a network. -/
def Session.execute {α : Type} : Session α → IO α
  | .done value => pure value
  | .send draft next => (next (Server.unreachable.deliver 0 draft).outcome).execute
  | .wait milliseconds next => do
      IO.sleep (UInt32.ofNat milliseconds)
      next.execute
  | .print line next => do
      IO.println line
      next.execute

namespace Program

/-- The variables that the program looks at. -/
def variableNames : List String :=
  [Environment.apiVariable, Environment.musicbrainzVariable, Environment.critiquebrainzVariable,
    Environment.tokenVariable, DataDirectory.sharedVariable, DataDirectory.homeVariable]

/-- The variables that are set. -/
def readEnvironment : IO Environment := do
  let entries ← variableNames.filterMapM fun name => do
    return (← IO.getEnv name).map (name, ·)
  return NameMap.ofList entries

/-- The error arose because there is a directory. -/
def meansDirectory : IO.Error → Bool
  | .inappropriateType _ code _ => code = 21
  | _ => false

/-- Looks at a place and at those on the way to it. -/
def observe (disk : Disk) : Place → IO Disk
  | [] => return disk
  | name :: outer => do
      let disk ← observe disk outer
      let place : Place := name :: outer
      try
        let content ← IO.FS.readBinFile place.path
        return disk.set place (.file content.toList)
      catch error =>
        return if meansDirectory error then disk.set place .directory else disk

/-- Looks at where paths lead to from a place. -/
def observePaths (base : Place) (disk : Disk) (paths : List String) : IO Disk :=
  paths.foldlM (fun disk path => observe disk (.ofPath base path)) disk

/-- Looks at what a run may need: the environment file; the token store, for which that file may
name another directory; and the files of the command line. -/
def observeAll (base : Place) (environment : Environment) (arguments : List String) : IO Disk := do
  let disk ← observePaths base [] [DataDirectory.environmentFile environment]
  let loaded := (loadEnvironment ⟨base, environment, disk, 0⟩).toOption.getD environment
  let store : TokenStore := ⟨base, DataDirectory.own loaded⟩
  observePaths base disk (store.path :: arguments)

/-- Makes the disk what a run left it as. -/
def writeDisk (before after : Disk) : IO Unit := do
  for (place, entry) in after.reverse do
    if before.lookup place ≠ some entry then
      match entry with
      | .directory => IO.FS.createDirAll place.path
      | .file content => IO.FS.writeBinFile place.path ⟨content.toArray⟩
  for (place, _) in before do
    if (after.lookup place).isNone then IO.FS.removeFile place.path

/-- Runs the program with the arguments of a command line, and returns its exit code. -/
def start (arguments : List String) : IO UInt32 := do
  let environment ← readEnvironment
  let base := Place.ofPath [] (toString (← IO.currentDir))
  let disk ← observeAll base environment arguments
  let now ← Std.Time.Timestamp.now
  let machine : Machine := ⟨base, environment, disk, Int64.ofInt now.toSecondsSinceUnixEpoch.val⟩
  let ending ← (run machine arguments).execute
  writeDisk disk ending.disk
  if let some text := ending.errorText then
    IO.eprintln text
  return UInt32.ofNat ending.exitCode

end Program

end Scrobbler

def main (arguments : List String) : IO UInt32 := Scrobbler.Program.start arguments
