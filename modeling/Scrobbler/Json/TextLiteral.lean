import Scrobbler.Json.Fault
import Scrobbler.Text.Integer
import Scrobbler.Text.Utf8

/-!
Texts in quotes. A literal is first cut into pieces up to its closing quote, which is all that
skipping needs; reading then joins the pieces, pairs surrogates and looks for bytes that were not
UTF-8.
-/

namespace Scrobbler.Json

open Text

/-- A part of a text in quotes: a character, a byte that belongs to none, or a sixteen-bit unit that
was written as an escape. -/
inductive Piece
  | char (c : Char)
  | gap
  | unit (n : Nat)
  deriving DecidableEq, Repr

/-- What ends the pieces of a text. -/
inductive Closing
  | quote
  | endOfInput
  | controlCharacter
  | unknownEscape
  | badHex
  deriving DecidableEq, Repr

/-- The fault of a text that ends without a closing quote. -/
def Closing.fault : Closing → Fault
  | .quote => .unfinishedSurrogatePair
  | .endOfInput => .endInText
  | .controlCharacter => .controlCharacter
  | .unknownEscape => .invalidEscape
  | .badHex => .invalidEscape

namespace TextLiteral

/-- The value of a digit of base sixteen. -/
def hexValue? (symbol : Symbol) : Option Nat := symbol.bind hexDigit?

/-- Four digits of base sixteen. -/
def unit? (a b c d : Symbol) : Option Nat := do
  return ((← hexValue? a) * 16 + (← hexValue? b)) * 256 + ((← hexValue? c) * 16 + (← hexValue? d))

/-- The character that a short escape stands for. -/
def shortEscape? : Char → Option Char
  | '\"' => some '\"'
  | '\\' => some '\\'
  | '/' => some '/'
  | 'b' => some '\x08'
  | 'f' => some '\x0c'
  | 'n' => some '\n'
  | 'r' => some '\r'
  | 't' => some '\t'
  | _ => none

/-- What is wrong where four digits should stand: a wrong symbol if at least four bytes are left,
and the end of the input otherwise. -/
def hexClosing (s : List Symbol) : Closing :=
  let bytes : Nat := (s.take 4).foldr (fun symbol total => symbol.elim 1 Char.utf8Size + total) 0
  if 4 ≤ bytes then .badHex else .endOfInput

/-- The pieces of a text after its opening quote, what ended them, and the rest. -/
def pieces : List Symbol → List Piece × Closing × List Symbol
  | [] => ([], .endOfInput, [])
  | none :: rest =>
      let (ps, closing, rest) := pieces rest
      (.gap :: ps, closing, rest)
  | some '\"' :: rest => ([], .quote, rest)
  | some '\\' :: some 'u' :: a :: b :: c :: d :: rest =>
      match unit? a b c d with
      | some n =>
          let (ps, closing, rest) := pieces rest
          (.unit n :: ps, closing, rest)
      | none => ([], hexClosing (a :: b :: c :: d :: rest), [])
  | some '\\' :: some 'u' :: rest => ([], hexClosing rest, [])
  | [some '\\'] => ([], .endOfInput, [])
  | some '\\' :: none :: _ => ([], .unknownEscape, [])
  | some '\\' :: some c :: rest =>
      match shortEscape? c with
      | some c =>
          let (ps, closing, rest) := pieces rest
          (.char c :: ps, closing, rest)
      | none => ([], .unknownEscape, [])
  | some c :: rest =>
      if c.toNat < 0x20 then ([], .controlCharacter, [])
      else
        let (ps, closing, rest) := pieces rest
        (.char c :: ps, closing, rest)

theorem length_pieces_le (s : List Symbol) : (pieces s).2.2.length ≤ s.length := by
  fun_induction pieces s
  all_goals simp_all
  all_goals omega

def isHighSurrogate (n : Nat) : Bool := 0xD800 ≤ n && n ≤ 0xDBFF

def isLowSurrogate (n : Nat) : Bool := 0xDC00 ≤ n && n ≤ 0xDFFF

/-- The fault where a high surrogate is the last piece. -/
def loneHighFault : Closing → Fault
  | .endOfInput => .endInText
  | .badHex => .invalidEscape
  | _ => .unfinishedSurrogatePair

/-- Joins pieces into characters; the flag tells whether bytes that were not UTF-8 were seen. -/
def join (closing : Closing) : List Piece → Bool → Except Fault (List Char)
  | [], gaps =>
      if closing ≠ .quote then .error closing.fault
      else if gaps then .error .invalidCharacter
      else .ok []
  | .char c :: rest, gaps => (join closing rest gaps).map (c :: ·)
  | .gap :: rest, _ => join closing rest true
  | [.unit n], gaps =>
      if isLowSurrogate n then .error .loneSurrogate
      else if isHighSurrogate n then .error (loneHighFault closing)
      else (join closing [] gaps).map (Char.ofNat n :: ·)
  | .unit n :: .unit m :: rest, gaps =>
      if isLowSurrogate n then .error .loneSurrogate
      else if isHighSurrogate n then
        if isLowSurrogate m then
          (join closing rest gaps).map
            (Char.ofNat (0x10000 + (n - 0xD800) * 0x400 + (m - 0xDC00)) :: ·)
        else .error .loneSurrogate
      else (join closing (.unit m :: rest) gaps).map (Char.ofNat n :: ·)
  | .unit n :: next :: rest, gaps =>
      if isLowSurrogate n then .error .loneSurrogate
      else if isHighSurrogate n then .error .unfinishedSurrogatePair
      else (join closing (next :: rest) gaps).map (Char.ofNat n :: ·)

end TextLiteral

/-- A text in quotes that skipping accepts; reading may still find a fault in it. -/
structure TextLiteral where
  content : Except Fault String

namespace TextLiteral

/-- Joins the pieces of a text into its characters. -/
def joined (closing : Closing) (ps : List Piece) : Except Fault String :=
  (join closing ps false).map String.ofList

/-- Reads a text after its opening quote. -/
def read (s : List Symbol) : Except Break (TextLiteral × List Symbol) :=
  match pieces s with
  | (ps, .quote, rest) => .ok (⟨joined .quote ps⟩, rest)
  | (ps, closing, _) =>
      match joined closing ps with
      | .error fault => .error ⟨fault, closing.fault⟩
      | .ok _ => .error (.plain closing.fault)

theorem length_of_read {s rest : List Symbol} {literal : TextLiteral}
    (h : read s = .ok (literal, rest)) : rest.length ≤ s.length := by
  have := length_pieces_le s
  unfold read at h
  split at h
  · rename_i hPieces
    simp only [Except.ok.injEq, Prod.mk.injEq] at h
    rwa [hPieces, h.2] at this
  · split at h <;> simp at h

end TextLiteral

end Scrobbler.Json
