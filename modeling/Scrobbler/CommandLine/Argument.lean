import Scrobbler.CommandLine.Value

/-!
Arguments of a command: options, flags and positions. They are read from left to right. A value is
looked at only when the next argument that the command knows begins, or at the end, so that an
argument that it does not know is reported before a bad value in front of it.
-/

namespace Scrobbler.CommandLine

/-- Where an argument takes its values from. -/
inductive Kind
  | flag
  | option
  | position
  /-- A position that takes all texts that follow. -/
  | positions
  deriving DecidableEq, Repr

structure Argument where
  name : String
  kind : Kind
  /-- The name of the value in messages. -/
  valueName : String
  required : Bool
  /-- Why a value is refused, if it is. -/
  refusal? : String → Option Refusal
  /-- The names of arguments that cannot be given as well. -/
  conflicts : List String

namespace Argument

/-- An argument in messages. -/
def display (a : Argument) : String :=
  match a.kind with
  | .flag => "--" ++ a.name
  | .option => "--" ++ a.name ++ " <" ++ a.valueName ++ ">"
  | .position => "<" ++ a.valueName ++ ">"
  | .positions => "<" ++ a.valueName ++ ">..."

/-- What a reader of values refuses. -/
def refusalOf {α : Type} (read : String → Except Refusal α) (s : String) : Option Refusal :=
  match read s with
  | .ok _ => none
  | .error refusal => some refusal

end Argument

/-- What is wrong with a command line. -/
inductive UsageError
  | unexpected (argument : String)
  | unknownCommand (name : String)
  | conflict (given other : String)
  | repeated (argument : String)
  | valueMissing (argument : String)
  | valueUnneeded (value argument : String)
  | invalidValue (value argument : String) (reason : Option String)
  | requiredMissing (arguments : List String)
  | commandMissing
  deriving DecidableEq, Repr

/-- What ends the reading of a command line. -/
inductive Stop
  | help
  | version
  | error (error : UsageError)
  deriving DecidableEq, Repr

/-- Values by the names of their arguments, in the order in which they were given. -/
abbrev Matches := List (String × String)

namespace Arguments

/-- How far the arguments of a command have been read. -/
structure Reading where
  found : Matches
  /-- The argument that was last begun, with its values so far. -/
  pending : Option (Argument × List String)
  /-- The positions that are still free. -/
  positions : List Argument

/-- The error at a value that is refused. -/
def refuse (a : Argument) (value : String) : Refusal → UsageError
  | .missing => .valueMissing a.display
  | .notAllowed =>
      if value.isEmpty then .valueMissing a.display else .invalidValue value a.display none
  | .invalid reason => .invalidValue value a.display (some reason)

/-- Looks at the values of an argument. -/
def checkValues (a : Argument) : List String → Except Stop Unit
  | [] => .ok ()
  | value :: rest =>
      match a.refusal? value with
      | some refusal => .error (.error (refuse a value refusal))
      | none => checkValues a rest

/-- Takes an argument with its values. Only positions may come more than once. -/
def accept (a : Argument) (values : List String) (found : Matches) : Except Stop Matches := do
  let once := a.kind = .flag ∨ a.kind = .option
  if once ∧ (found.lookup a.name).isSome then throw (.error (.repeated a.display))
  checkValues a values
  return found ++ values.map fun value => (a.name, value)

/-- Ends the argument that was last begun. -/
def settle (r : Reading) : Except Stop Reading :=
  match r.pending with
  | none => .ok r
  | some (a, []) => .error (.error (.valueMissing a.display))
  | some (a, values) => do
      let found ← accept a values r.found
      return { r with found := found, pending := none }

/-- The option that still needs its value. -/
def waiting? (r : Reading) : Option Argument :=
  match r.pending with
  | some (a, []) => some a
  | _ => none

/-- A long argument: its name, and a value after an equals sign. -/
def splitLong (s : List Char) : String × Option String :=
  let name := String.ofList (s.takeWhile (· ≠ '='))
  match s.dropWhile (· ≠ '=') with
  | _ :: value => (name, some (String.ofList value))
  | [] => (name, none)

/-- Takes a text in a position. -/
def takePosition (text : String) (r : Reading) : Except Stop Reading :=
  match r.positions with
  | [] => .error (.error (.unexpected text))
  | a :: free =>
      if a.kind = .positions then
        match r.pending with
        | some (b, values) =>
            if b.name = a.name then .ok { r with pending := some (a, values ++ [text]) }
            else do
              let r ← settle r
              return { r with pending := some (a, [text]) }
        | none => .ok { r with pending := some (a, [text]) }
      else do
        let r ← settle r
        return { r with pending := some (a, [text]), positions := free }

/-- Takes an argument that starts with two hyphens. -/
def takeLong (options : List Argument) (name : String) (value : Option String) (r : Reading) :
    Except Stop Reading :=
  if name = "help" then
    match value with
    | some value => .error (.error (.valueUnneeded value "--help"))
    | none => do
        let _ ← settle r
        throw .help
  else
    match options.find? (·.name = name) with
    | none => .error (.error (.unexpected ("--" ++ name)))
    | some a =>
        if a.kind = .flag then
          match value with
          | some value => .error (.error (.valueUnneeded value a.display))
          | none => do
              let r ← settle r
              let found ← accept a ["true"] r.found
              return { r with found := found }
        else do
          let r ← settle r
          match value with
          | some value => do
              let found ← accept a [value] r.found
              return { r with found := found }
          | none => return { r with pending := some (a, []) }

/-- Takes an argument that starts with one hyphen. -/
def takeShort (first : Char) (r : Reading) : Except Stop Reading :=
  if first = 'h' then do
    let _ ← settle r
    throw .help
  else .error (.error (.unexpected (String.ofList ['-', first])))

/-- Takes one argument. -/
def take (options : List Argument) (text : String) (r : Reading) : Except Stop Reading :=
  match text.toList with
  | '-' :: '-' :: long => takeLong options (splitLong long).1 (splitLong long).2 r
  | '-' :: first :: _ => takeShort first r
  | _ =>
      match waiting? r with
      | some a => .ok { r with pending := some (a, [text]) }
      | none => takePosition text r

/-- Takes all arguments. After two lone hyphens all are positions. -/
def takeAll (options : List Argument) (r : Reading) : List String → Except Stop Reading
  | [] => settle r
  | "--" :: rest => do
      let r ← rest.foldlM (fun r text => takePosition text r) r
      settle r
  | text :: rest => do
      let r ← take options text r
      takeAll options r rest

/-- Two of the arguments that were given cannot be given together. -/
def conflict? (arguments : List Argument) (found : Matches) : Option UsageError :=
  let given := (found.map (·.1)).filterMap fun name => arguments.find? (·.name = name)
  given.findSome? fun a =>
    (given.find? fun b => a.conflicts.contains b.name || b.conflicts.contains a.name).map fun b =>
      .conflict a.display b.display

/-- The required arguments that were not given. -/
def missing (arguments : List Argument) (found : Matches) : List String :=
  (arguments.filter fun a => a.required && (found.lookup a.name).isNone).map Argument.display

/-- Reads the arguments of a command. -/
def read (arguments : List Argument) (texts : List String) : Except Stop Matches := do
  let isOption (a : Argument) : Bool := a.kind = .flag || a.kind = .option
  let positions := arguments.filter fun a => !isOption a
  let r ← takeAll (arguments.filter isOption) ⟨[], none, positions⟩ texts
  match conflict? arguments r.found with
  | some error => throw (.error error)
  | none =>
      match missing arguments r.found with
      | [] => return r.found
      | names => throw (.error (.requiredMissing names))

end Arguments

namespace Matches

variable {α : Type}

/-- The value of an argument, if it was given. -/
def value? (name : String) (read : String → Except Refusal α) (found : Matches) : Option α :=
  (found.lookup name).bind fun value => (read value).toOption

/-- All values of an argument. -/
def values (name : String) (found : Matches) : List String :=
  (found.filter (·.1 = name)).map (·.2)

/-- The flag was given. -/
def has (name : String) (found : Matches) : Bool := (found.lookup name).isSome

end Matches

end Scrobbler.CommandLine
