import Scrobbler.Json.Document
import Scrobbler.Json.Printer
import Scrobbler.Word

/-!
Decoding documents. A decoder walks a document in the order of the text and reports the first thing
that is wrong: a fault of the text, or a value that is not the one wanted. It may enter arrays and
objects up to a depth. Members that nobody asked for are skipped, which is more lenient than
reading: depth, the range of numbers and the pairing of surrogates do not matter then.
-/

namespace Scrobbler.Json

open Text

/-- Why a text does not decode as a value of the type wanted. -/
inductive DecodeError
  | malformed (fault : Fault)
  | missingField (name : String)
  | duplicateField (name : String)
  | invalidType
  | invalidValue
  | invalidLength
  | unknownVariant (name : String) (expected : List String)
  | notAnInteger (number : Number)
  | integerExpected (found : Json)
  /-- A number that is out of bounds, or a text that names no number within them. -/
  | integerText (fault : IntegerFault)
  | invalidScore (score : Int)
  deriving Repr

/-- The kinds of failure. -/
inductive DecodeError.Category
  | malformed
  | unfinished
  | mismatch
  deriving DecidableEq, Repr

namespace DecodeError

def category : DecodeError → Category
  | .malformed fault => if fault.isEnd then .unfinished else .malformed
  | _ => .mismatch

private def inBackticks (s : String) : String := "`" ++ s ++ "`"

/-- The wording of a list of alternatives. -/
def alternatives : List String → String
  | [] => "there are no variants"
  | [a] => "expected " ++ inBackticks a
  | [a, b] => "expected " ++ inBackticks a ++ " or " ++ inBackticks b
  | names => "expected one of " ++ ", ".intercalate (names.map inBackticks)

/-- The wording of an error. -/
def message : DecodeError → String
  | .malformed fault => fault.message
  | .missingField name => "missing field " ++ inBackticks name
  | .duplicateField name => "duplicate field " ++ inBackticks name
  | .invalidType => "invalid type"
  | .invalidValue => "invalid value"
  | .invalidLength => "invalid length"
  | .unknownVariant name expected =>
      "unknown variant " ++ inBackticks name ++ ", " ++ alternatives expected
  | .notAnInteger n => String.ofList n.chars ++ " is not an integer"
  | .integerExpected found => "expected integer, got " ++ found.render
  | .integerText fault => fault.message
  | .invalidScore score => "invalid feedback score " ++ String.ofList (integerChars score)

end DecodeError

/-- A decoder, given the number of arrays and objects that may still be entered. -/
abbrev Decoder (α : Type) := Nat → Node → Except DecodeError α

/-- A fault of the text as an error. -/
def Fault.raise {α : Type} (fault : Fault) : Except DecodeError α := .error (.malformed fault)

/-- A part of the text that may be at fault. -/
def orFault {α : Type} : Except Fault α → Except DecodeError α
  | .ok value => .ok value
  | .error fault => fault.raise

/-- The text of a literal. -/
def TextLiteral.text (literal : TextLiteral) : Except DecodeError String := orFault literal.content

/-- The fault, if any, where another item is looked for after the last one. -/
def ArrayEnd.check : ArrayEnd → Except DecodeError Unit
  | .closed => .ok ()
  | .separatorMissing => Fault.arraySeparatorExpected.raise
  | .unfinished => Fault.endInArray.raise
  | .trailingComma => Fault.trailingComma.raise
  | .unfinishedAfterComma => Fault.endInValue.raise

/-- The fault, if any, where an array is to end after its last wanted item. -/
def ArrayEnd.checkLast : ArrayEnd → Except DecodeError Unit
  | .closed => .ok ()
  | .separatorMissing => Fault.trailingCharacters.raise
  | .unfinished => Fault.endInArray.raise
  | .trailingComma => Fault.trailingComma.raise
  | .unfinishedAfterComma => Fault.trailingCharacters.raise

/-- The fault, if any, of an array that is skipped. -/
def ArrayEnd.checkSkipped : ArrayEnd → Except DecodeError Unit
  | .closed => .ok ()
  | .separatorMissing => Fault.arraySeparatorExpected.raise
  | .unfinished => Fault.endInArray.raise
  | .trailingComma => Fault.valueExpected.raise
  | .unfinishedAfterComma => Fault.endInValue.raise

/-- The fault of a missing colon. -/
def colonFault (atEnd : Bool) : Fault := if atEnd then .endInObject else .colonExpected

/-- The fault, if any, where another member is looked for after the last one. `seen` looks at a key
before its colon is missed. -/
def ObjectEnd.check (seen : String → Except DecodeError Unit) :
    ObjectEnd → Except DecodeError Unit
  | .closed => .ok ()
  | .separatorMissing => Fault.objectSeparatorExpected.raise
  | .unfinished => Fault.endInObject.raise
  | .trailingComma => Fault.trailingComma.raise
  | .unfinishedAfterComma => Fault.endInValue.raise
  | .keyNotText => Fault.keyNotText.raise
  | .keyBroken fault => fault.read.raise
  | .colonMissing key atEnd => do
      seen (← key.text)
      (colonFault atEnd).raise

/-- The fault, if any, of an object that is skipped. -/
def ObjectEnd.checkSkipped : ObjectEnd → Except DecodeError Unit
  | .closed => .ok ()
  | .separatorMissing => Fault.objectSeparatorExpected.raise
  | .unfinished => Fault.endInObject.raise
  | .trailingComma => Fault.keyNotText.raise
  | .unfinishedAfterComma => Fault.endInObject.raise
  | .keyNotText => Fault.keyNotText.raise
  | .keyBroken fault => fault.skipped.raise
  | .colonMissing _ atEnd => (colonFault atEnd).raise

/-- The error at a value of the wrong type. Words, numbers and texts are read first, and may be at
fault themselves. -/
def Node.mismatch : Node → DecodeError
  | .broken fault _ => .malformed fault.read
  | .number numeral =>
      match numeral.value with
      | .ok _ => .invalidType
      | .error fault => .malformed fault
  | .text literal =>
      match literal.content with
      | .ok _ => .invalidType
      | .error fault => .malformed fault
  | _ => .invalidType

mutual

/-- Skips a value. -/
def Node.skip : Node → Except DecodeError Unit
  | .broken fault _ => fault.skipped.raise
  | .array items ending => do
      Node.skipItems items
      ending.checkSkipped
  | .object members ending => do
      Node.skipMembers members
      ending.checkSkipped
  | _ => .ok ()

def Node.skipItems : List Node → Except DecodeError Unit
  | [] => .ok ()
  | item :: rest => do
      item.skip
      Node.skipItems rest

def Node.skipMembers : List (TextLiteral × Node) → Except DecodeError Unit
  | [] => .ok ()
  | (_, value) :: rest => do
      value.skip
      Node.skipMembers rest

end

/-- Enters an array or object. -/
def descend {α : Type} (depth : Nat) (inside : Nat → Except DecodeError α) :
    Except DecodeError α :=
  match depth with
  | 0 => Fault.tooDeep.raise
  | depth + 1 => inside depth

mutual

/-- Any value. -/
def Node.value (depth : Nat) : Node → Except DecodeError Json
  | .null => .ok .null
  | .bool b => .ok (.bool b)
  | .number numeral => (orFault numeral.value).map .number
  | .text literal => literal.text.map .text
  | .array items ending =>
      descend depth fun depth => do
        let items ← Node.values depth items
        ending.check
        return .array items
  | .object members ending =>
      descend depth fun depth => do
        let members ← Node.members depth members
        ending.check fun _ => .ok ()
        return .object (NameMap.ofList members)
  | .broken fault _ => fault.read.raise

def Node.values (depth : Nat) : List Node → Except DecodeError (List Json)
  | [] => .ok []
  | item :: rest => do
      let item ← Node.value depth item
      return item :: (← Node.values depth rest)

def Node.members (depth : Nat) :
    List (TextLiteral × Node) → Except DecodeError (List (String × Json))
  | [] => .ok []
  | (key, value) :: rest => do
      let name ← key.text
      let value ← Node.value depth value
      return (name, value) :: (← Node.members depth rest)

end

namespace Decoder

variable {α β : Type}

/-- Applies a function to what is decoded. -/
def map (f : α → β) (decoder : Decoder α) : Decoder β := fun depth node =>
  (decoder depth node).map f

def any : Decoder Json := Node.value

def bool : Decoder Bool
  | _, .bool b => .ok b
  | _, node => .error node.mismatch

def text : Decoder String
  | _, .text literal => literal.text
  | _, node => .error node.mismatch

/-- A number, whole or not. -/
def number : Decoder Number
  | _, .number numeral => orFault numeral.value
  | _, node => .error node.mismatch

/-- A whole number within limits. -/
def integer (limits : Int × Int) : Decoder Int := fun depth node =>
  match number depth node with
  | .error error => .error error
  | .ok (.float _ _) => .error .invalidType
  | .ok (.integer n) => if Word.fits limits n then .ok n else .error .invalidValue

def int64 : Decoder Int64 := map Int64.ofInt (integer (Word.signed 64))

def uint64 : Decoder UInt64 := map (fun n => UInt64.ofNat n.toNat) (integer (Word.unsigned 64))

def uint16 : Decoder UInt16 := map (fun n => UInt16.ofNat n.toNat) (integer (Word.unsigned 16))

def uint8 : Decoder UInt8 := map (fun n => UInt8.ofNat n.toNat) (integer (Word.unsigned 8))

/-- A value, or nothing where `null` stands. -/
def nullable (decoder : Decoder α) : Decoder (Option α)
  | _, .null => .ok none
  | depth, node => (decoder depth node).map some

/-- The items of an array, decoded in order. -/
def items (decoder : Decoder α) (depth : Nat) : List Node → Except DecodeError (List α)
  | [] => .ok []
  | item :: rest => do
      let item ← decoder depth item
      return item :: (← items decoder depth rest)

/-- An array. -/
def list (decoder : Decoder α) : Decoder (List α)
  | depth, .array nodes ending =>
      descend depth fun depth => do
        let values ← items decoder depth nodes
        ending.check
        return values
  | _, node => .error node.mismatch

/-- The members of an object, decoded in order. -/
def entries (decoder : Decoder α) (depth : Nat) :
    List (TextLiteral × Node) → Except DecodeError (List (String × α))
  | [] => .ok []
  | (key, value) :: rest => do
      let name ← key.text
      let value ← decoder depth value
      return (name, value) :: (← entries decoder depth rest)

/-- An object as a list of its members. -/
def entriesOf (decoder : Decoder α) : Decoder (List (String × α))
  | depth, .object members ending =>
      descend depth fun depth => do
        let values ← entries decoder depth members
        ending.check fun _ => .ok ()
        return values
  | _, node => .error node.mismatch

/-- A free-form object. -/
def object : Decoder Members := map NameMap.ofList (entriesOf any)

/-- The variant of that name. -/
def variantNamed (variants : List (String × α)) (name : String) : Except DecodeError α :=
  match variants.lookup name with
  | some value => .ok value
  | none => .error (.unknownVariant name (variants.map (·.1)))

/-- What may follow the one member of an object that names a variant. -/
def afterVariant : List (TextLiteral × Node) → ObjectEnd → Except DecodeError Unit
  | [], .closed => .ok ()
  | [], .unfinished => Fault.endInObject.raise
  | _, _ => Fault.valueExpected.raise

/-- One of several names: a text, or an object with one member of that name that is `null`. -/
def variant (variants : List (String × α)) : Decoder α
  | _, .text literal => do variantNamed variants (← literal.text)
  | depth, .object members ending =>
      descend depth fun _ =>
        match members with
        | (key, value) :: rest => do
            let found ← variantNamed variants (← key.text)
            match value with
            | .null => pure ()
            | value => .error value.mismatch
            afterVariant rest ending
            return found
        | [] =>
            match ending with
            | .colonMissing key atEnd => do
                let _ ← variantNamed variants (← key.text)
                (colonFault atEnd).raise
            | .keyBroken fault => fault.read.raise
            | .unfinished => Fault.endInValue.raise
            | _ => Fault.valueExpected.raise
  | _, .broken _ named => named.raise
  | _, _ => Fault.valueExpected.raise

/-- Decodes a whole document. -/
def run (decoder : Decoder α) (document : Document) : Except DecodeError α := do
  let value ← decoder 127 document.root
  if document.trailing then Fault.trailingCharacters.raise else return value

/-- Decodes a text. -/
def runText (decoder : Decoder α) (s : String) : Except DecodeError α :=
  decoder.run (.ofText s)

/-- Decodes received bytes. -/
def runBytes (decoder : Decoder α) (bytes : List UInt8) : Except DecodeError α :=
  decoder.run (.ofBytes bytes)

end Decoder

end Scrobbler.Json
