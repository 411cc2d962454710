/-!
Faults of JSON text: each names what was found, or missing, at the first place where the text stops
being JSON.
-/

namespace Scrobbler.Json

inductive Fault
  | endInArray
  | endInObject
  | endInText
  | endInValue
  | colonExpected
  | arraySeparatorExpected
  | objectSeparatorExpected
  | wordExpected
  | valueExpected
  | invalidEscape
  | invalidNumber
  | numberOutOfRange
  | invalidCharacter
  | controlCharacter
  | keyNotText
  | loneSurrogate
  | trailingComma
  | trailingCharacters
  | unfinishedSurrogatePair
  | tooDeep
  deriving DecidableEq, Repr

namespace Fault

/-- The text ended before the value did. -/
def isEnd : Fault → Bool
  | .endInArray | .endInObject | .endInText | .endInValue => true
  | _ => false

/-- The wording of a fault. -/
def message : Fault → String
  | .endInArray => "EOF while parsing a list"
  | .endInObject => "EOF while parsing an object"
  | .endInText => "EOF while parsing a string"
  | .endInValue => "EOF while parsing a value"
  | .colonExpected => "expected `:`"
  | .arraySeparatorExpected => "expected `,` or `]`"
  | .objectSeparatorExpected => "expected `,` or `\x7d`"
  | .wordExpected => "expected ident"
  | .valueExpected => "expected value"
  | .invalidEscape => "invalid escape"
  | .invalidNumber => "invalid number"
  | .numberOutOfRange => "number out of range"
  | .invalidCharacter => "invalid unicode code point"
  | .controlCharacter =>
      "control character (\\u0000-\\u001F) found while parsing a string"
  | .keyNotText => "key must be a string"
  | .loneSurrogate => "lone leading surrogate in hex escape"
  | .trailingComma => "trailing comma"
  | .trailingCharacters => "trailing characters"
  | .unfinishedSurrogatePair => "unexpected end of hex escape"
  | .tooDeep => "recursion limit exceeded"

end Fault

/-- A fault as it shows to one who reads the value, and as it shows to one who skips it. Skipping is
more lenient, and words some faults differently. -/
structure Break where
  read : Fault
  skipped : Fault
  deriving DecidableEq, Repr

/-- A fault that shows alike to readers and skippers. -/
def Break.plain (fault : Fault) : Break := ⟨fault, fault⟩

end Scrobbler.Json
