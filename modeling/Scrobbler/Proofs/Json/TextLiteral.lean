import Mathlib.Tactic.Common
import Scrobbler.Json.Printer
import Scrobbler.Json.TextLiteral

/-!
Texts are read as they are written. Each character is written as one piece: as itself, after a
backslash, or as the escape of its number; and pieces of this kind are joined into the characters that
they came from, for texts of all Unicode.
-/

namespace Scrobbler.Json

open Text

namespace TextLiteral

/-- The literal of a text. -/
def ofString (s : String) : TextLiteral := ⟨.ok s⟩

/-- The piece that a character is written as. -/
def pieceOf (c : Char) : Piece :=
  if c.toNat < 0x20 ∧ c ∉ ['\x08', '\t', '\n', '\x0c', '\r'] then .unit c.toNat else .char c

/-- Digits to the base sixteen are read back. -/
theorem hexDigit?_hexDigit : ∀ n < 16, hexDigit? (hexDigit n) = some n := by
  decide

/-- The escape of a number below 32 has two zeros and the two digits of the number. -/
theorem unit?_hexDigit {n : Nat} (h : n < 0x20) :
    unit? (some '0') (some '0') (some (hexDigit (n / 16))) (some (hexDigit (n % 16))) = some n := by
  have hHigh := hexDigit?_hexDigit (n / 16) (by omega)
  have hLow := hexDigit?_hexDigit (n % 16) (by omega)
  have hZero : hexDigit? '0' = some 0 := rfl
  simp only [unit?, hexValue?, Option.bind_some, Option.bind_eq_bind, hZero, hHigh, hLow]
  simp
  omega

/-- A character is read as its piece. -/
theorem pieces_escapeChar (c : Char) (rest : List Symbol) :
    pieces ((escapeChar c).map some ++ rest) =
      (pieceOf c :: (pieces rest).1, (pieces rest).2.1, (pieces rest).2.2) := by
  unfold escapeChar
  -- Seven characters have an escape of their own.
  iterate 7
    split
    · subst_vars
      rfl
  split
  · next hControl =>
      have hPiece : pieceOf c = .unit c.toNat := by
        rw [pieceOf, if_pos]
        simp_all
      simp only [List.map_cons, List.map_nil, List.cons_append, List.nil_append, pieces,
        unit?_hexDigit hControl, hPiece]
  · next hPlain =>
      have hPiece : pieceOf c = .char c := by
        rw [pieceOf, if_neg]
        exact fun h => hPlain h.1
      simp only [List.map_cons, List.map_nil, List.cons_append, List.nil_append, hPiece]
      rw [pieces.eq_def]
      split <;> simp_all

/-- A quoted text is read as one piece for each of its characters. -/
theorem pieces_quoted (cs : List Char) (rest : List Symbol) :
    pieces ((cs.flatMap escapeChar).map some ++ some '\"' :: rest) =
      (cs.map pieceOf, .quote, rest) := by
  induction cs with
  | nil => rfl
  | cons c cs ih =>
      rw [List.flatMap_cons, List.map_append, List.append_assoc, pieces_escapeChar, ih]
      rfl

/-- The piece of a character is joined into that character: an escaped number below 32 is no half of a
pair. -/
theorem join_pieceOf (closing : Closing) (c : Char) (ps : List Piece) (gaps : Bool) :
    join closing (pieceOf c :: ps) gaps = (join closing ps gaps).map (c :: ·) := by
  unfold pieceOf
  split
  · next hControl =>
      have hLow : isLowSurrogate c.toNat = false := by
        simp [isLowSurrogate]
        omega
      have hHigh : isHighSurrogate c.toNat = false := by
        simp [isHighSurrogate]
        omega
      rcases ps with - | ⟨p, ps⟩
      · simp [join, hLow, hHigh]
      · cases p <;> simp [join, hLow, hHigh]
  · rfl

theorem join_map_pieceOf (cs : List Char) : join .quote (cs.map pieceOf) false = .ok cs := by
  induction cs with
  | nil => rfl
  | cons c cs ih =>
      rw [List.map_cons, join_pieceOf, ih]
      rfl

/-- A text in quotes is read as that text. -/
theorem read_quoted (s : String) (rest : List Symbol) :
    read ((s.toList.flatMap escapeChar ++ ['\"']).map some ++ rest) = .ok (ofString s, rest) := by
  unfold read
  simp only [List.map_append, List.map_cons, List.map_nil, List.append_assoc, List.cons_append,
    List.nil_append, pieces_quoted, joined, join_map_pieceOf]
  simp [Except.map, ofString]

end TextLiteral

end Scrobbler.Json
