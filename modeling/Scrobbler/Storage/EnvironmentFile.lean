import Scrobbler.Environment
import Scrobbler.Json.Printer
import Scrobbler.Text.Alphanumeric
import Scrobbler.Text.Utf8

/-!
Environment files: lines that give values to variables. A value may be quoted, and may name other
variables whose values are put in its place. Variables that are set already keep their values.
-/

namespace Scrobbler.EnvironmentFile

/-- A line that gives no value to a variable: the text that was read, and how far. -/
structure Fault where
  text : String
  index : Nat
  deriving DecidableEq, Repr

/-- The wording of a fault. -/
def Fault.message (fault : Fault) : String :=
  "Error parsing line: '" ++ fault.text ++ "', error at line index: " ++
    String.ofList (Json.naturalChars fault.index)

/-- What remains of a line, and how many bytes of it were read. -/
structure Cursor where
  rest : List Char
  index : Nat

namespace Cursor

/-- The number of bytes of some characters. -/
def bytes (s : List Char) : Nat := s.foldr (fun c total => c.utf8Size + total) 0

/-- Reads the longest run of characters that satisfy `p`. -/
def takeWhile (p : Char → Bool) (c : Cursor) : List Char × Cursor :=
  let run := c.rest.takeWhile p
  (run, ⟨c.rest.dropWhile p, c.index + bytes run⟩)

def skipBlank (c : Cursor) : Cursor := (c.takeWhile Text.isBlankChar).2

end Cursor

def startsName (c : Char) : Bool := c.isAlpha || c == '_'

def isNameChar (c : Char) : Bool := c.isAlphanum || c == '_' || c == '.'

/-- The name of a variable. -/
def readName (line : String) (c : Cursor) : Except Fault (List Char × Cursor) :=
  match c.rest with
  | first :: _ => if startsName first then .ok (c.takeWhile isNameChar) else .error ⟨line, c.index⟩
  | [] => .error ⟨line, c.index⟩

/-- The sign between name and value. -/
def readEquals (line : String) (c : Cursor) : Except Fault Cursor :=
  match c.rest with
  | '=' :: rest => .ok ⟨rest, c.index + 1⟩
  | _ => .error ⟨line, c.index⟩

/-- The name of the variable of a line, and where its value starts. The word `export` may stand in
front of the name, or be the name itself. -/
def readHead (line : String) (c : Cursor) : Except Fault (List Char × Cursor) := do
  let (name, c) ← readName line c
  let c := c.skipBlank
  if name = "export".toList then
    match readEquals line c with
    | .ok c => return (name, c.skipBlank)
    | .error _ => do
        let (name, c) ← readName line c
        return (name, (← readEquals line c.skipBlank).skipBlank)
  else return (name, (← readEquals line c).skipBlank)

/-- How the next character of a value is taken. -/
inductive Mode
  | plain
  /-- After a blank: only a comment may follow. -/
  | ended
  | singleQuoted
  | doubleQuoted
  deriving DecidableEq, Repr

/-- The name of a variable that is being read inside a value. -/
inductive Reference
  | none
  | bare (name : List Char)
  | braced (name : List Char)
  deriving DecidableEq, Repr

/-- A value that is being read. -/
structure Reading where
  mode : Mode
  escaped : Bool
  reference : Reference
  output : List Char

/-- Puts the value of a variable at the end; a variable that is not set has none. -/
def Reading.substitute (env : Environment) (name : List Char) (p : Reading) : Reading :=
  { p with
    reference := .none
    output := p.output ++ ((env.lookup (String.ofList name)).getD "").toList }

def Reading.push (c : Char) (p : Reading) : Reading := { p with output := p.output ++ [c] }

/-- What a step of reading a value leads to. -/
inductive Step
  | next (p : Reading)
  /-- The rest is a comment. -/
  | stop
  | fail

/-- Takes a character after a backslash. -/
def stepEscaped (c : Char) (p : Reading) : Step :=
  let p := { p with escaped := false }
  if c == '\\' || c == '\x27' || c == '\"' || c == '$' || c == ' ' then .next (p.push c)
  else if c == 'n' then .next (p.push '\n')
  else .fail

/-- Takes a character of the name of a variable, or the first one after it. -/
def stepReference (env : Environment) (c : Char) (p : Reading) : Step :=
  match p.reference with
  | .none => .next p
  | .bare name =>
      if Text.isAlphanumeric c then .next { p with reference := .bare (name ++ [c]) }
      else if c == '\x7b' && name.isEmpty then .next { p with reference := .braced [] }
      else
        let p := p.substitute env name
        if c == '$' then .next { p with reference := .bare [] } else .next (p.push c)
  | .braced name =>
      if Text.isAlphanumeric c then .next { p with reference := .braced (name ++ [c]) }
      else if c == '\x7d' then .next (p.substitute env name)
      else .next { p with reference := .braced (name ++ [c]) }

/-- Takes a character that is neither escaped nor part of a name. -/
def stepMode (c : Char) (p : Reading) : Step :=
  if c == '$' then .next { p with reference := .bare [] }
  else
    match p.mode with
    | .doubleQuoted =>
        if c == '\"' then .next { p with mode := .plain }
        else if c == '\\' then .next { p with escaped := true }
        else .next (p.push c)
    | _ =>
        if c == '\x27' then .next { p with mode := .singleQuoted }
        else if c == '\"' then .next { p with mode := .doubleQuoted }
        else if c == '\\' then .next { p with escaped := true }
        else if c == ' ' || c == '\t' then .next { p with mode := .ended }
        else .next (p.push c)

/-- Takes one character of a value. -/
def step (env : Environment) (c : Char) (p : Reading) : Step :=
  if p.mode = .ended then
    if c == ' ' || c == '\t' then .next p
    else if c == '#' then .stop
    else .fail
  else if p.escaped then stepEscaped c p
  else if p.mode = .singleQuoted then
    if c == '\x27' then .next { p with mode := .plain } else .next (p.push c)
  else if p.reference ≠ .none then stepReference env c p
  else stepMode c p

/-- The value, unless a quote or brace is still open. -/
def finish (env : Environment) (text : String) (p : Reading) : Except Fault (List Char) :=
  match p.mode, p.reference with
  | .singleQuoted, _ => .error ⟨text, Text.Utf8.size text - 1⟩
  | .doubleQuoted, _ => .error ⟨text, Text.Utf8.size text - 1⟩
  | _, .braced _ => .error ⟨text, Text.Utf8.size text - 1⟩
  | _, .bare name => .ok (p.substitute env name).output
  | _, .none => .ok p.output

/-- Reads a value from its character number `index` on. -/
def readFrom (env : Environment) (text : String) (index : Nat) (p : Reading) :
    List Char → Except Fault (List Char)
  | [] => finish env text p
  | c :: rest =>
      match step env c p with
      | .next p => readFrom env text (index + 1) p rest
      | .stop => finish env text p
      | .fail => .error ⟨text, index⟩

/-- Reads a value. -/
def readValue (env : Environment) (s : List Char) : Except Fault (List Char) :=
  readFrom env (String.ofList s) 0 ⟨.plain, false, .none, []⟩ s

/-- The variable and the value of a line, if it has any. -/
def readLine (env : Environment) (line : String) : Except Fault (Option (String × String)) := do
  let c := (Cursor.mk (Text.trimEnd line).toList 0).skipBlank
  match c.rest with
  | [] => return none
  | '#' :: _ => return none
  | _ =>
      let (name, c) ← readHead line c
      match c.rest with
      | [] => return some (String.ofList name, "")
      | '#' :: _ => return some (String.ofList name, "")
      | rest => return some (String.ofList name, String.ofList (← readValue env rest))

/-- A line without the carriage return at its end, if there is one. -/
def dropReturn (line : String) : String :=
  if line.toList.getLast? = some '\r' then String.ofList line.toList.dropLast else line

/-- The lines of a text, without their ends. A carriage return belongs to the end of a line only if
a line feed follows it. -/
def lines (text : String) : List String :=
  let parts := text.splitOn "\n"
  let last := parts.getLast?.filter (!·.isEmpty)
  parts.dropLast.map dropReturn ++ last.toList

/-- Adds the variables of lines to an environment. -/
def loadLines (env : Environment) : List String → Except Fault Environment
  | [] => .ok env
  | line :: rest => do
      match ← readLine env line with
      | none => loadLines env rest
      | some (name, value) =>
          loadLines (if (env.lookup name).isSome then env else NameMap.set name value env) rest

/-- Adds the variables of a file to an environment. -/
def load (env : Environment) (text : String) : Except Fault Environment :=
  loadLines env (lines text)

end Scrobbler.EnvironmentFile
