import Scrobbler.Json.Numeral
import Scrobbler.Json.TextLiteral

/-!
Tokens of JSON text. Cutting text into tokens never fails: a symbol that starts no token becomes a
stray, and a token that breaks off becomes the last one of the list.
-/

namespace Scrobbler.Json

open Text

inductive Token
  | openArray
  | closeArray
  | openObject
  | closeObject
  | comma
  | colon
  | null
  | bool (value : Bool)
  | number (numeral : Numeral)
  | text (literal : TextLiteral)
  /-- A token that breaks off; the flag tells whether it started with a quote. -/
  | broken (fault : Break) (quoted : Bool)
  | stray

namespace Token

/-- The characters that separate tokens. -/
def isSpace (c : Char) : Bool := c == ' ' || c == '\n' || c == '\t' || c == '\r'

/-- Drops what separates tokens. -/
def skipSpace : List Symbol → List Symbol
  | some c :: rest => if isSpace c then skipSpace rest else some c :: rest
  | s => s

theorem length_skipSpace_le (s : List Symbol) : (skipSpace s).length ≤ s.length := by
  fun_induction skipSpace s with
  | case1 c rest hSpace ih =>
      simp only [List.length_cons]
      omega
  | case2 c rest hSpace => exact Nat.le_refl _
  | case3 s hOther => exact Nat.le_refl _

/-- Reads the rest of a word. -/
def word (token : Token) : List Char → List Symbol → Token × List Symbol
  | [], rest => (token, rest)
  | _ :: _, [] => (.broken (.plain .endInValue) false, [])
  | c :: cs, symbol :: rest =>
      if symbol = some c then word token cs rest
      else (.broken (.plain .wordExpected) false, [])

theorem length_word_le (token : Token) (cs : List Char) (s : List Symbol) :
    (word token cs s).2.length ≤ s.length := by
  fun_induction word token cs s with
  | case1 rest => exact Nat.le_refl _
  | case2 c cs => exact Nat.le_refl _
  | case3 c cs rest ih =>
      simp only [List.length_cons]
      omega
  | case4 c cs symbol rest hOther => exact Nat.zero_le _

/-- The token of a numeral after its sign. -/
def ofNumeral (negative : Bool) (s : List Symbol) : Token × List Symbol :=
  match Numeral.read negative s with
  | .ok (numeral, rest) => (.number numeral, rest)
  | .error fault => (.broken fault false, [])

/-- The token of a text after its opening quote. -/
def ofText (s : List Symbol) : Token × List Symbol :=
  match TextLiteral.read s with
  | .ok (literal, rest) => (.text literal, rest)
  | .error fault => (.broken fault true, [])

/-- The token that starts with `symbol`, and the rest. -/
def first (symbol : Symbol) (rest : List Symbol) : Token × List Symbol :=
  match symbol with
  | some '[' => (.openArray, rest)
  | some ']' => (.closeArray, rest)
  | some '\x7b' => (.openObject, rest)
  | some '\x7d' => (.closeObject, rest)
  | some ',' => (.comma, rest)
  | some ':' => (.colon, rest)
  | some 'n' => word .null ['u', 'l', 'l'] rest
  | some 't' => word (.bool true) ['r', 'u', 'e'] rest
  | some 'f' => word (.bool false) ['a', 'l', 's', 'e'] rest
  | some '\"' => ofText rest
  | some '-' => ofNumeral true rest
  | some c => if c.isDigit then ofNumeral false (some c :: rest) else (.stray, rest)
  | none => (.stray, rest)

theorem length_ofText_le (s : List Symbol) : (ofText s).2.length ≤ s.length := by
  unfold ofText
  split
  · rename_i h
    exact TextLiteral.length_of_read h
  · simp

/-- A numeral takes at least one symbol, whether it is well formed or not. -/
theorem length_ofNumeral_lt {negative : Bool} {s : List Symbol} (h : s ≠ []) :
    (ofNumeral negative s).2.length < s.length := by
  unfold ofNumeral
  split
  · rename_i h
    exact Numeral.length_of_read h
  · simpa using List.length_pos_iff.mpr h

theorem length_ofNumeral_le (negative : Bool) (s : List Symbol) :
    (ofNumeral negative s).2.length ≤ s.length := by
  by_cases h : s = []
  · subst h
    simp [ofNumeral, Numeral.read, Numeral.readWhole, Numeral.digits]
  · exact Nat.le_of_lt (length_ofNumeral_lt h)

/-- A token takes at least its first symbol. -/
theorem length_first_le (symbol : Symbol) (rest : List Symbol) :
    (first symbol rest).2.length ≤ rest.length := by
  unfold first
  split
  any_goals exact Nat.le_refl _
  any_goals exact length_word_le _ _ _
  · exact length_ofText_le rest
  · exact length_ofNumeral_le true rest
  · split
    · exact Nat.le_of_lt_succ (length_ofNumeral_lt (List.cons_ne_nil _ _))
    · simp

/-- Cuts text into tokens. -/
def scan (s : List Symbol) : List Token :=
  match skipSpace s, length_skipSpace_le s with
  | [], _ => []
  | symbol :: rest, hLength =>
      have hShorter : (first symbol rest).2.length < s.length := by
        have := length_first_le symbol rest
        rw [List.length_cons] at hLength
        omega
      (first symbol rest).1 :: scan (first symbol rest).2
termination_by s.length

end Token

end Scrobbler.Json
