import Scrobbler.Text.Integer

/-!
Tables of characters, written as rows of text. A row has entries with a blank between them; an entry
names characters by their numbers in base sixteen.

In a table of a set `41-5A` stands for all characters from U+0041 to U+005A, and `AA` for one. In a
table of forms `41-5A>61` says that these characters become U+0061 and the characters after it, one
by one; `100-12E/2>101` says the same of every second character; `FB52-FB55=67B` gives all of them
the same form; and `A8=20.308` gives one a form of two characters. A form may be empty.
-/

namespace Scrobbler.Text

/-- The number that digits of base sixteen stand for; other characters count as zero. -/
def hexNumber (digits : String) : Nat :=
  digits.toList.foldl (fun n c => n * 16 + (hexDigit? c).getD 0) 0

/-- Characters with consecutive numbers. -/
structure CharRun where
  first : Nat
  last : Nat
  deriving DecidableEq, Repr

namespace CharRun

/-- The character belongs to the run. -/
def has (run : CharRun) (c : Char) : Bool := run.first ≤ c.toNat && c.toNat ≤ run.last

def ofText (entry : String) : CharRun :=
  match entry.splitOn "-" with
  | [first, last] => ⟨hexNumber first, hexNumber last⟩
  | _ => ⟨hexNumber entry, hexNumber entry⟩

end CharRun

/-- A set of characters. -/
abbrev CharSet := List CharRun

namespace CharSet

/-- The character belongs to the set. -/
def has (set : CharSet) (c : Char) : Bool := set.any (·.has c)

/-- Reads a table. -/
def ofTable (rows : List String) : CharSet :=
  rows.flatMap fun row => (row.splitOn " ").map CharRun.ofText

end CharSet

/-- The forms of the characters of a run: those at a multiple of `step` from its first one. -/
structure FormRule where
  run : CharRun
  step : Nat
  /-- The numbers of the characters of the first form. -/
  form : List Nat
  /-- Each character has its own form, as far from the first one as itself. -/
  moves : Bool
  deriving DecidableEq, Repr

namespace FormRule

/-- The form of a character. -/
def form? (rule : FormRule) (c : Char) : Option (List Char) :=
  let distance := c.toNat - rule.run.first
  if rule.run.has c && distance % rule.step == 0 then
    some (rule.form.map fun n => Char.ofNat (if rule.moves then n + distance else n))
  else none

/-- The numbers of a form. -/
def readForm (form : String) : List Nat :=
  if form.isEmpty then [] else (form.splitOn ".").map hexNumber

/-- The rule for the characters that `source` names. -/
def ofParts (source form : String) (moves : Bool) : FormRule :=
  match source.splitOn "/" with
  | [run, step] => ⟨.ofText run, hexNumber step, readForm form, moves⟩
  | _ => ⟨.ofText source, 1, readForm form, moves⟩

def ofText (entry : String) : FormRule :=
  match entry.splitOn ">", entry.splitOn "=" with
  | [source, form], _ => ofParts source form true
  | _, [source, form] => ofParts source form false
  | _, _ => ofParts entry "" false

end FormRule

/-- Forms of characters. -/
abbrev FormTable := List FormRule

namespace FormTable

/-- The form of a character, if the table gives it one. -/
def form? (table : FormTable) (c : Char) : Option (List Char) := table.findSome? (·.form? c)

/-- Reads a table. -/
def ofTable (rows : List String) : FormTable :=
  rows.flatMap fun row => (row.splitOn " ").map FormRule.ofText

end FormTable

end Scrobbler.Text
