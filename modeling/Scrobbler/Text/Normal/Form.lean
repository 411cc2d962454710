import Scrobbler.Text.Normal.CombiningClass
import Scrobbler.Text.Normal.Composition

/-!
The composed form of text. Texts that look alike, because their marks are joined to the letters or
stand in another order, have the same composed form.
-/

namespace Scrobbler.Text.Normal

/-- Takes a character apart, and its first part again, at most `depth` times. -/
def takeApart : (depth : Nat) → Char → List Char
  | 0, c => [c]
  | depth + 1, c =>
      match parts? c with
      | some (a, b) => takeApart depth a ++ [b]
      | none => [c]

/-- The parts of a character; none is made of more than four. -/
def parts (c : Char) : List Char := takeApart 4 c

/-- Puts a mark behind the marks of lower classes at the head of a text. -/
def putMark (c : Char) : List Char → List Char
  | [] => [c]
  | d :: rest =>
      if combiningClass d ≠ 0 ∧ combiningClass d < combiningClass c then d :: putMark c rest
      else c :: d :: rest

/-- Brings the marks of each character into the order of their classes. -/
def orderMarks (s : List Char) : List Char := s.foldr putMark []

/-- Composes a character with what follows it. Between them stand `passed`, the marks that were not
composed, last first; one of them keeps a mark of the same or a lower class from being composed. -/
def composeFrom (base : Char) (passed : List Char) : List Char → List Char
  | [] => base :: passed.reverse
  | c :: rest =>
      let blocked := passed.head?.any fun last => combiningClass c ≤ combiningClass last
      match if blocked then none else composed? base c with
      | some base => composeFrom base passed rest
      | none =>
          if combiningClass c = 0 then base :: (passed.reverse ++ composeFrom c [] rest)
          else composeFrom base (c :: passed) rest

/-- Composes characters; marks at the head of a text have nothing to be composed with. -/
def compose : List Char → List Char
  | [] => []
  | c :: rest => if combiningClass c = 0 then composeFrom c [] rest else c :: compose rest

/-- The composed form of a text. -/
def form (s : List Char) : List Char := compose (orderMarks (s.flatMap parts))

end Scrobbler.Text.Normal
