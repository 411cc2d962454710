import Scrobbler.CommandLine.Command

/-!
What the program says about its command line: the wording of errors, help, and completions for
shells.
-/

namespace Scrobbler.CommandLine

/-- The name of the program. -/
def programName : String := "lbcli"

/-- Name and version of the program. -/
def programVersion : String := programName ++ " 0.1.0-dev"

/-- What the program is. -/
def programAbout : String :=
  "A command-line client and async library for the ListenBrainz API."

private def inQuotes (s : String) : String := "'" ++ s ++ "'"

namespace UsageError

/-- The wording of an error. -/
def message : UsageError → String
  | .unexpected argument => "error: unexpected argument " ++ inQuotes argument ++ " found"
  | .unknownCommand name => "error: unrecognized subcommand " ++ inQuotes name
  | .conflict given other =>
      "error: the argument " ++ inQuotes given ++ " cannot be used with " ++ inQuotes other
  | .repeated argument =>
      "error: the argument " ++ inQuotes argument ++ " cannot be used multiple times"
  | .valueMissing argument =>
      "error: a value is required for " ++ inQuotes argument ++ " but none was supplied"
  | .valueUnneeded value argument =>
      "error: unexpected value " ++ inQuotes value ++ " for " ++ inQuotes argument ++
        " found; no more were expected"
  | .invalidValue value argument none =>
      "error: invalid value " ++ inQuotes value ++ " for " ++ inQuotes argument
  | .invalidValue value argument (some reason) =>
      "error: invalid value " ++ inQuotes value ++ " for " ++ inQuotes argument ++ ": " ++ reason
  | .requiredMissing arguments =>
      "error: the following required arguments were not provided:\n" ++
        "\n".intercalate (arguments.map ("  " ++ ·))
  | .commandMissing => programAbout

end UsageError

/-- The lines of help: what the program is, and its commands. -/
def helpLines : List String :=
  [programAbout, "", "Usage: " ++ programName ++ " <COMMAND>", "", "Commands:"] ++
    Rule.all.map fun rule =>
      "  " ++ rule.name ++ " " ++ " ".intercalate (rule.arguments.map Argument.display) ++ " - " ++
        rule.about

/-- A script that makes a shell complete the names of the commands. -/
def completionLines (shell : Shell) : List String :=
  let names := " ".intercalate (Rule.all.map (·.name))
  match shell with
  | .bash => ["complete -W \"" ++ names ++ "\" " ++ programName]
  | .elvish =>
      ["set edit:completion:arg-completer[" ++ programName ++ "] = \x7b|@words| put " ++ names ++
        " \x7d"]
  | .fish => ["complete -c " ++ programName ++ " -f -a \"" ++ names ++ "\""]
  | .powershell =>
      ["Register-ArgumentCompleter -Native -CommandName " ++ programName ++
        " -ScriptBlock \x7b \"" ++ names ++ "\".Split() \x7d"]
  | .zsh => ["#compdef " ++ programName, "_arguments \"1:command:(" ++ names ++ ")\""]

end Scrobbler.CommandLine
