import Scrobbler.Json.Decode

/-!
Records: objects with known fields. The members of an object are read in the order of the text; a
field that comes twice is an error at its second key, and a field that is missing is one at the
closing brace. A closed record skips members that are no fields, and may also be written as an array
of its fields. An open record keeps such members.
-/

namespace Scrobbler.Json

/-- How the fields of a record are read. -/
structure Fields (α : Type) where
  /-- What has been read so far. -/
  Found : Type
  start : Found
  /-- Takes up the member of that name, if it is a field; it may have been read before. -/
  take? : String → Option (Found → Except DecodeError (Decoder Found))
  /-- The record, or the first field that is missing. -/
  finish : Found → Except DecodeError α
  /-- Reads the fields from items in their order, and returns the items that are left. -/
  inOrder : Nat → List Node → ArrayEnd → Except DecodeError (α × List Node)

namespace Fields

variable {α β : Type}

/-- One field, with the values that it has when an object lacks it and when an array ends before
it. -/
def field (name : String) (decoder : Decoder α) (whenMissing whenShort : Option α) : Fields α where
  Found := Option α
  start := none
  take? key :=
    if key = name then
      some fun
        | some _ => .error (.duplicateField name)
        | none => .ok fun depth node => (decoder depth node).map some
    else none
  finish found := (found.or whenMissing).elim (.error (.missingField name)) .ok
  inOrder depth
    | node :: rest, _ => (decoder depth node).map fun value => (value, rest)
    | [], ending => do
        ending.check
        whenShort.elim (.error .invalidLength) fun value => .ok (value, [])

/-- A field that has to be there. -/
def required (name : String) (decoder : Decoder α) : Fields α := field name decoder none none

/-- A field with a value for when it is not there. -/
def withDefault (name : String) (decoder : Decoder α) (value : α) : Fields α :=
  field name decoder (some value) (some value)

/-- A field that may be `null` or not be there. -/
def optional (name : String) (decoder : Decoder α) : Fields (Option α) :=
  withDefault name (.nullable decoder) none

/-- No field. -/
def empty (value : α) : Fields α where
  Found := Unit
  start := ()
  take? _ := none
  finish _ := .ok value
  inOrder _ items _ := .ok (value, items)

/-- Applies a function to what is read. -/
def map (f : α → β) (fields : Fields α) : Fields β where
  Found := fields.Found
  start := fields.start
  take? := fields.take?
  finish found := (fields.finish found).map f
  inOrder depth items ending :=
    (fields.inOrder depth items ending).map fun (value, rest) => (f value, rest)

/-- The fields of two groups, those of the first group first. -/
def both (first : Fields α) (second : Fields β) : Fields (α × β) where
  Found := first.Found × second.Found
  start := (first.start, second.start)
  take? key :=
    match first.take? key with
    | some begin => some fun (left, right) => do
        let decoder ← begin left
        return decoder.map fun left => (left, right)
    | none =>
        match second.take? key with
        | some begin => some fun (left, right) => do
            let decoder ← begin right
            return decoder.map fun right => (left, right)
        | none => none
  finish := fun (left, right) => do
    let left ← first.finish left
    let right ← second.finish right
    return (left, right)
  inOrder depth items ending := do
    let (left, items) ← first.inOrder depth items ending
    let (right, items) ← second.inOrder depth items ending
    return ((left, right), items)

instance : Applicative Fields where
  pure := empty
  map := map
  seq functions values := map (fun (f, value) => f value) (both functions (values ()))

/-- Reads the members of an object. `other` deals with those that are no fields. -/
def readMembers {ε : Type} (fields : Fields α)
    (other : ε → String → Nat → Node → Except DecodeError ε) (depth : Nat)
    (found : fields.Found) (others : ε) :
    List (TextLiteral × Node) → Except DecodeError (fields.Found × ε)
  | [] => .ok (found, others)
  | (key, value) :: rest => do
      let name ← key.text
      match fields.take? name with
      | some begin => do
          let decoder ← begin found
          let found ← decoder depth value
          fields.readMembers other depth found others rest
      | none => do
          let others ← other others name depth value
          fields.readMembers other depth found others rest

/-- Looks whether the field of that name may still come. -/
def checkKey (fields : Fields α) (found : fields.Found) (name : String) :
    Except DecodeError Unit :=
  match fields.take? name with
  | some begin => (begin found).map fun _ => ()
  | none => .ok ()

/-- Reads an object whose other members are skipped, or an array of the fields in their order. -/
def closed (fields : Fields α) : Decoder α
  | depth, .object members ending =>
      descend depth fun depth => do
        let (found, _) ←
          fields.readMembers (fun _ _ _ value => value.skip) depth fields.start () members
        ending.check (fields.checkKey found)
        fields.finish found
  | depth, .array items ending =>
      descend depth fun depth => do
        match ← fields.inOrder depth items ending with
        | (value, []) => do
            ending.checkLast
            return value
        | (_, _ :: _) => Fault.trailingCharacters.raise
  | _, node => .error node.mismatch

/-- Reads an object whose other members are kept, sorted by name. -/
def extensible (fields : Fields (Members → α)) : Decoder α
  | depth, .object members ending =>
      descend depth fun depth => do
        let keep (others : Members) (name : String) (depth : Nat) (value : Node) :=
          (Node.value depth value).map fun value => NameMap.set name value others
        let (found, others) ← fields.readMembers keep depth fields.start [] members
        ending.check (fields.checkKey found)
        return (← fields.finish found) others
  | _, node => .error node.mismatch

end Fields

/-- A type with a JSON form: how it is read, and how it is written. -/
class Wire (α : Type) where
  decoder : Decoder α
  toJson : α → Json

namespace Wire

variable {α : Type} [Wire α]

/-- The compact written form of a value. -/
def render (value : α) : String := (toJson value).render

/-- Reads a value from a text. -/
def ofText (s : String) : Except DecodeError α := decoder.runText s

/-- Reads a value from received bytes. -/
def ofBytes (bytes : List UInt8) : Except DecodeError α := decoder.runBytes bytes

instance : Wire Json := ⟨.any, id⟩

instance : Wire (List α) := ⟨.list decoder, fun values => .array (values.map toJson)⟩

end Wire

/-- A member that is left out when there is no value. -/
def memberIf (name : String) : Option Json → List (String × Json)
  | some value => [(name, value)]
  | none => []

/-- A free-form object that is left out when it is empty. -/
def membersIf (name : String) (members : Members) : List (String × Json) :=
  if members.isEmpty then [] else [(name, .object members)]

/-- A signed 64-bit number. -/
def ofInt64 (n : Int64) : Json := ofInt n.toInt

/-- An unsigned 64-bit number. -/
def ofUInt64 (n : UInt64) : Json := ofNat n.toNat

/-- A value, or `null` when there is none. -/
def ofOption {α : Type} (toJson : α → Json) : Option α → Json
  | some value => toJson value
  | none => .null

end Scrobbler.Json
