/-!
White space. A character is blank when it has the property White_Space; a text is blank when all
its characters are. Zero-width characters such as U+200B and U+FEFF are not blank.
-/

namespace Scrobbler.Text

/-- The characters with the property White_Space. -/
def isBlankChar (c : Char) : Bool :=
  let n := c.toNat
  (0x09 ≤ n && n ≤ 0x0D) || n == 0x20 || n == 0x85 || n == 0xA0 || n == 0x1680 ||
  (0x2000 ≤ n && n ≤ 0x200A) || n == 0x2028 || n == 0x2029 || n == 0x202F || n == 0x205F ||
  n == 0x3000

/-- Drops the longest run at the end whose characters all satisfy `p`. -/
def dropEndWhile (p : Char → Bool) (s : List Char) : List Char :=
  (s.reverse.dropWhile p).reverse

/-- Removes the blank characters at both ends. -/
def trimChars (s : List Char) : List Char :=
  dropEndWhile isBlankChar (s.dropWhile isBlankChar)

/-- Removes the blank characters at both ends. -/
def trim (s : String) : String := String.ofList (trimChars s.toList)

/-- Removes the blank characters at the end. -/
def trimEnd (s : String) : String := String.ofList (dropEndWhile isBlankChar s.toList)

/-- A text is blank when every character of it is; the empty text is blank. -/
def isBlank (s : String) : Bool := s.toList.all isBlankChar

end Scrobbler.Text
