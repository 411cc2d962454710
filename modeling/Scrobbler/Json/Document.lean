import Scrobbler.Json.Token

/-!
Documents: JSON text as a tree that ends where the text stops being JSON. Building one never fails.
A fault sits in the tree at the place where it was found, so that one who walks the tree in order
meets first whatever comes first in the text: a fault, or a value that is not the one wanted.
-/

namespace Scrobbler.Json

/-- How the items of an array end. -/
inductive ArrayEnd
  | closed
  | separatorMissing
  | unfinished
  | trailingComma
  | unfinishedAfterComma
  deriving DecidableEq, Repr

/-- How the members of an object end. -/
inductive ObjectEnd
  | closed
  | separatorMissing
  | unfinished
  | trailingComma
  | unfinishedAfterComma
  /-- Something other than a text stands where a key is due. -/
  | keyNotText
  | keyBroken (fault : Break)
  /-- No colon follows a key; the flag tells whether the text ends there. -/
  | colonMissing (key : TextLiteral) (atEnd : Bool)

inductive Node
  | null
  | bool (value : Bool)
  | number (numeral : Numeral)
  | text (literal : TextLiteral)
  | array (items : List Node) (ending : ArrayEnd)
  | object (members : List (TextLiteral × Node)) (ending : ObjectEnd)
  /-- A value that breaks off; nothing of the text follows it. `named` is the fault as it shows to
  one who looks for a name, and reads nothing but a text in quotes. -/
  | broken (fault : Break) (named : Fault)

/-- A text as a tree, with a flag that tells whether anything but space follows the value. -/
structure Document where
  root : Node
  trailing : Bool

namespace Document

/-- An array or object around the place that is being read, with what it holds so far, last item
first. -/
inductive Frame
  | array (done : List Node)
  | object (done : List (TextLiteral × Node)) (key : TextLiteral)

/-- Where in a document the next token stands. -/
inductive Place
  /-- A value is due. -/
  | value (outer : List Frame)
  /-- An array was opened. -/
  | firstItem (outer : List Frame)
  /-- A comma was read in an array. -/
  | nextItem (done : List Node) (outer : List Frame)
  /-- An item was read. -/
  | afterItem (done : List Node) (outer : List Frame)
  /-- An object was opened. -/
  | firstKey (outer : List Frame)
  /-- A comma was read in an object. -/
  | nextKey (done : List (TextLiteral × Node)) (outer : List Frame)
  /-- A key was read. -/
  | colon (done : List (TextLiteral × Node)) (key : TextLiteral) (outer : List Frame)
  /-- A member was read. -/
  | afterMember (done : List (TextLiteral × Node)) (outer : List Frame)
  /-- The whole value was read. -/
  | finished (root : Node)

/-- Puts a value in its place. -/
def complete (node : Node) : List Frame → Place
  | [] => .finished node
  | .array done :: outer => .afterItem (node :: done) outer
  | .object done key :: outer => .afterMember ((key, node) :: done) outer

/-- Closes all frames around a value that breaks off. -/
def abandon (node : Node) : List Frame → Document
  | [] => ⟨node, false⟩
  | .array done :: outer => abandon (.array (node :: done).reverse .closed) outer
  | .object done key :: outer => abandon (.object ((key, node) :: done).reverse .closed) outer

/-- Reads one token where a value is due. -/
def begin (outer : List Frame) : Token → Document ⊕ Place
  | .null => .inr (complete .null outer)
  | .bool b => .inr (complete (.bool b) outer)
  | .number numeral => .inr (complete (.number numeral) outer)
  | .text literal => .inr (complete (.text literal) outer)
  | .openArray => .inr (.firstItem outer)
  | .openObject => .inr (.firstKey outer)
  | .broken fault quoted =>
      .inl (abandon (.broken fault (if quoted then fault.read else .valueExpected)) outer)
  | _ => .inl (abandon (.broken (.plain .valueExpected) .valueExpected) outer)

/-- Reads one token where a key is due. -/
def beginKey (done : List (TextLiteral × Node)) (outer : List Frame) (afterComma : Bool) :
    Token → Document ⊕ Place
  | .text key => .inr (.colon done key outer)
  | .broken fault true => .inl (abandon (.object done.reverse (.keyBroken fault)) outer)
  | .closeObject =>
      if afterComma then .inl (abandon (.object done.reverse .trailingComma) outer)
      else .inr (complete (.object done.reverse .closed) outer)
  | _ => .inl (abandon (.object done.reverse .keyNotText) outer)

/-- Reads one token. -/
def step (token : Token) : Place → Document ⊕ Place
  | .value outer => begin outer token
  | .firstItem outer =>
      match token with
      | .closeArray => .inr (complete (.array [] .closed) outer)
      | token => begin (.array [] :: outer) token
  | .nextItem done outer =>
      match token with
      | .closeArray => .inl (abandon (.array done.reverse .trailingComma) outer)
      | token => begin (.array done :: outer) token
  | .afterItem done outer =>
      match token with
      | .comma => .inr (.nextItem done outer)
      | .closeArray => .inr (complete (.array done.reverse .closed) outer)
      | _ => .inl (abandon (.array done.reverse .separatorMissing) outer)
  | .firstKey outer => beginKey [] outer false token
  | .nextKey done outer => beginKey done outer true token
  | .colon done key outer =>
      match token with
      | .colon => .inr (.value (.object done key :: outer))
      | _ => .inl (abandon (.object done.reverse (.colonMissing key false)) outer)
  | .afterMember done outer =>
      match token with
      | .comma => .inr (.nextKey done outer)
      | .closeObject => .inr (complete (.object done.reverse .closed) outer)
      | _ => .inl (abandon (.object done.reverse .separatorMissing) outer)
  | .finished root => .inl ⟨root, true⟩

/-- The document of a text that ends here. -/
def finish : Place → Document
  | .value outer => abandon (.broken (.plain .endInValue) .endInValue) outer
  | .firstItem outer => abandon (.array [] .unfinished) outer
  | .nextItem done outer => abandon (.array done.reverse .unfinishedAfterComma) outer
  | .afterItem done outer => abandon (.array done.reverse .unfinished) outer
  | .firstKey outer => abandon (.object [] .unfinished) outer
  | .nextKey done outer => abandon (.object done.reverse .unfinishedAfterComma) outer
  | .colon done key outer => abandon (.object done.reverse (.colonMissing key true)) outer
  | .afterMember done outer => abandon (.object done.reverse .unfinished) outer
  | .finished root => ⟨root, false⟩

/-- The document of a list of tokens, read on from a place. -/
def build : List Token → Place → Document
  | [], place => finish place
  | token :: rest, place =>
      match step token place with
      | .inl document => document
      | .inr place => build rest place

/-- The document of a list of tokens. -/
def ofTokens (tokens : List Token) : Document := build tokens (.value [])

/-- The document of received symbols. -/
def ofSymbols (symbols : List Text.Symbol) : Document := ofTokens (Token.scan symbols)

/-- The document of a text. -/
def ofText (s : String) : Document := ofSymbols (Text.symbols s)

/-- The document of received bytes. -/
def ofBytes (bytes : List UInt8) : Document := ofSymbols (Text.Utf8.decode bytes)

end Document

end Scrobbler.Json
