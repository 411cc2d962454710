import Scrobbler.CommandLine.Argument
import Scrobbler.Environment
import Scrobbler.Playlist.Basic

/-!
Commands of the program, and how they are read from the texts of a command line.
-/

namespace Scrobbler.CommandLine

/-- A track that is named on the command line. -/
structure TrackOptions where
  artist : String
  track : String
  release : Option String
  deriving DecidableEq, Repr

inductive Command
  | auth (token : Option String) (clear : Bool)
  | importFiles (files : List String) (batchSize : Nat) (type : ListenType) (token : Option String)
  | nowPlaying (track : TrackOptions) (token : Option String)
  | listen (track : TrackOptions) (token : Option String)
  | listens (user : String) (count : Option UInt32) (minTs maxTs : Option Int64)
  | follow (user : String) (token : Option String)
  | unfollow (user : String) (token : Option String)
  | followers (user : String)
  | following (user : String)
  | stats (user : String) (entity : Entity) (range : StatsRange) (count : Option UInt32)
  | playlists (user : String) (kind : PlaylistKind) (count : UInt32) (token : Option String)
  | pins (user : String) (count : UInt32)
  | completions (shell : Shell)
  deriving Repr

namespace Argument

/-- The name of a value: the name of its argument in capitals. -/
def valueNameOf (name : String) : String :=
  String.ofList (name.toList.map fun c => if c = '-' then '_' else c.toUpper)

/-- An option with a value. -/
def option {α : Type} (name : String) (read : String → Except Refusal α) : Argument :=
  ⟨name, .option, valueNameOf name, false, refusalOf read, []⟩

def flag (name : String) : Argument := ⟨name, .flag, "", false, fun _ => none, []⟩

/-- A position that has to be filled. -/
def position {α : Type} (name : String) (read : String → Except Refusal α) : Argument :=
  ⟨name, .position, valueNameOf name, true, refusalOf read, []⟩

/-- The argument has to be given. -/
def demanded (a : Argument) : Argument := { a with required := true }

/-- The argument cannot be given together with another. -/
def without (other : String) (a : Argument) : Argument :=
  { a with conflicts := other :: a.conflicts }

def user : Argument := position "user" Value.text

def token : Argument := option "token" Value.text

def count : Argument := option "count" Value.count

end Argument

/-- One command: its name, what it does, its arguments, and how it is built from them. The token of
the environment stands in for one that is not given. -/
structure Rule where
  name : String
  about : String
  arguments : List Argument
  build : Environment → Matches → Command

namespace Rule

/-- The token that was given, or else the one of the environment. -/
def tokenOf (env : Environment) (m : Matches) : Option String :=
  (m.lookup "token").or (env.lookup Environment.tokenVariable)

def userOf (m : Matches) : String := (m.lookup "user").getD ""

def trackArguments : List Argument :=
  [(Argument.option "artist" Value.text).demanded, (Argument.option "track" Value.text).demanded,
    .option "release" Value.text, .token]

def trackOf (m : Matches) : TrackOptions :=
  ⟨(m.lookup "artist").getD "", (m.lookup "track").getD "", m.lookup "release"⟩

def auth : Rule where
  name := "auth"
  about := "Validate and store a ListenBrainz user token"
  arguments := [.token, (Argument.flag "clear").without "token"]
  build _ m := .auth (m.lookup "token") (m.has "clear")

def importFiles : Rule where
  name := "import"
  about := "Import listens from JSON files"
  arguments :=
    [⟨"files", .positions, "FILES", true, Argument.refusalOf Value.path, []⟩,
      .option "batch-size" Value.size, .option "listen-type" (Value.named ListenType.parse),
      .token]
  build env m :=
    .importFiles (m.values "files") ((m.value? "batch-size" Value.size).getD 1000)
      ((m.value? "listen-type" (Value.named ListenType.parse)).getD .bulk) (tokenOf env m)

def nowPlaying : Rule where
  name := "now-playing"
  about := "Tell ListenBrainz what is playing right now"
  arguments := trackArguments
  build env m := .nowPlaying (trackOf m) (tokenOf env m)

def listen : Rule where
  name := "listen"
  about := "Submit a single listen stamped with the current time"
  arguments := trackArguments
  build env m := .listen (trackOf m) (tokenOf env m)

def listens : Rule where
  name := "listens"
  about := "Show a user's listens"
  arguments :=
    [.user, .count, (Argument.option "min-ts" Value.int64).without "max-ts",
      .option "max-ts" Value.int64]
  build _ m :=
    .listens (userOf m) (m.value? "count" Value.count) (m.value? "min-ts" Value.int64)
      (m.value? "max-ts" Value.int64)

def follow : Rule where
  name := "follow"
  about := "Follow a user"
  arguments := [.user, .token]
  build env m := .follow (userOf m) (tokenOf env m)

def unfollow : Rule where
  name := "unfollow"
  about := "Stop following a user"
  arguments := [.user, .token]
  build env m := .unfollow (userOf m) (tokenOf env m)

def followers : Rule where
  name := "followers"
  about := "List the followers of a user"
  arguments := [.user]
  build _ m := .followers (userOf m)

def following : Rule where
  name := "following"
  about := "List the users a user follows"
  arguments := [.user]
  build _ m := .following (userOf m)

def stats : Rule where
  name := "stats"
  about := "Show top artists, releases or recordings of a user"
  arguments :=
    [.user, .option "entity" (Value.named Entity.parse),
      .option "range" (Value.named StatsRange.parse), .count]
  build _ m :=
    .stats (userOf m) ((m.value? "entity" (Value.named Entity.parse)).getD .artist)
      ((m.value? "range" (Value.named StatsRange.parse)).getD .allTime)
      (m.value? "count" Value.count)

def playlists : Rule where
  name := "playlists"
  about := "List a user's playlists"
  arguments :=
    [.user, (Argument.flag "created-for").without "collaborator", .flag "collaborator", .count,
      .token]
  build _ m :=
    let kind :=
      if m.has "created-for" then .createdFor
      else if m.has "collaborator" then .collaborator
      else .owned
    .playlists (userOf m) kind ((m.value? "count" Value.count).getD 25) (m.lookup "token")

def pins : Rule where
  name := "pins"
  about := "List the recordings a user has pinned"
  arguments := [.user, .count]
  build _ m := .pins (userOf m) ((m.value? "count" Value.count).getD 25)

def completions : Rule where
  name := "completions"
  about := "Get shell completions"
  arguments := [.position "shell" Value.shell]
  build _ m := .completions ((m.value? "shell" Value.shell).getD .bash)

/-- All commands. -/
def all : List Rule :=
  [auth, importFiles, nowPlaying, listen, listens, follow, unfollow, followers, following,
    stats, playlists, pins, completions]

/-- The command of that name. -/
def find? (name : String) : Option Rule := all.find? (·.name = name)

/-- A word that names a command, or asks for help on one. -/
def isName (name : String) : Bool := name = "help" || (find? name).isSome

end Rule

namespace Command

/-- Help on the command that the words after `help` name. -/
def readHelp : List String → Stop
  | [] => .help
  | [name] => if Rule.isName name then .help else .error (.unknownCommand name)
  | name :: next :: _ => .error (.unknownCommand (if Rule.isName name then next else name))

/-- Reads a word where only commands stand, after two lone hyphens. -/
def readAfterHyphens : List String → Stop
  | [] => .error .commandMissing
  | word :: _ =>
      if Rule.isName word then .error (.unexpected word) else .error (.unknownCommand word)

/-- Reads an option of the program itself. -/
def readOption (text : String) : Stop :=
  match text.toList with
  | '-' :: '-' :: long =>
      match Arguments.splitLong long with
      | ("help", none) => .help
      | ("version", none) => .version
      | ("help", some value) => .error (.valueUnneeded value "--help")
      | ("version", some value) => .error (.valueUnneeded value "--version")
      | (name, _) => .error (.unexpected ("--" ++ name))
  | _ :: 'h' :: _ => .help
  | _ :: 'V' :: _ => .version
  | _ :: first :: _ => .error (.unexpected (String.ofList ['-', first]))
  | _ => .error (.unknownCommand text)

/-- Reads a command line. -/
def read (env : Environment) : List String → Except Stop Command
  | [] => .error (.error .commandMissing)
  | "--" :: rest => .error (readAfterHyphens rest)
  | word :: rest =>
      match Rule.find? word with
      | some rule => (Arguments.read rule.arguments rest).map (rule.build env)
      | none =>
          if word = "help" then .error (readHelp rest)
          else if word.startsWith "-" then .error (readOption word)
          else .error (.error (.unknownCommand word))

end Command

end Scrobbler.CommandLine
