import Scrobbler.Listen.Basic
import Scrobbler.Statistics.Basic
import Scrobbler.Text.Integer
import Scrobbler.Word

/-!
Values of arguments: how the texts after an option or in a position are read, and why they are
refused.
-/

namespace Scrobbler.CommandLine

/-- Why a value is refused. -/
inductive Refusal
  /-- An empty value does not count. -/
  | missing
  /-- The value is not one of those that are allowed. -/
  | notAllowed
  | invalid (reason : String)
  deriving DecidableEq, Repr

/-- The shells that completions are written for. -/
inductive Shell
  | bash
  | elvish
  | fish
  | powershell
  | zsh
  deriving DecidableEq, Repr

namespace Shell

def name : Shell → String
  | .bash => "bash"
  | .elvish => "elvish"
  | .fish => "fish"
  | .powershell => "powershell"
  | .zsh => "zsh"

def all : List Shell := [.bash, .elvish, .fish, .powershell, .zsh]

end Shell

namespace Value

/-- Any text. -/
def text (s : String) : Except Refusal String := .ok s

/-- The path of a file. -/
def path (s : String) : Except Refusal String :=
  if s.isEmpty then .error .missing else .ok s

/-- A signed 64-bit number. -/
def int64 (s : String) : Except Refusal Int64 :=
  match Text.readInt64 s with
  | .ok n => .ok (Int64.ofInt n)
  | .error fault => .error (.invalid fault.message)

/-- An unsigned 64-bit number. -/
def size (s : String) : Except Refusal Nat :=
  match Text.readUInt64 s with
  | .ok n => .ok n
  | .error fault => .error (.invalid fault.message)

/-- An unsigned 32-bit number. It is read as a signed 64-bit number first. -/
def count (s : String) : Except Refusal UInt32 :=
  match Text.readInt64 s with
  | .error fault => .error (.invalid fault.message)
  | .ok n =>
      if Word.fits (Word.unsigned 32) n then .ok (UInt32.ofNat n.toNat)
      else .error (.invalid (String.ofList (Json.integerChars n) ++ " is not in 0..=4294967295"))

/-- A name from a fixed set. -/
def named {α : Type} (parse : String → Except NameError α) (s : String) : Except Refusal α :=
  match parse s with
  | .ok value => .ok value
  | .error error => .error (.invalid error.message)

def shell (s : String) : Except Refusal Shell :=
  if s.isEmpty then .error .missing
  else (Shell.all.find? (·.name = s)).elim (.error .notAllowed) .ok

end Value

end Scrobbler.CommandLine
