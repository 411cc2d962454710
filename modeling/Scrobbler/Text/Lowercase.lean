import Scrobbler.Text.Case.Cased
import Scrobbler.Text.Case.Ignorable
import Scrobbler.Text.Case.Lower

/-!
Lower-casing of texts. Two letters need more than their own form: the dotted capital `I` becomes a
small `i` and a dot above, and a capital sigma takes its final form at the end of a word.
-/

namespace Scrobbler.Text

namespace Case

/-- The nearest character that is not ignorable is cased. -/
def meetsCased (s : List Char) : Bool :=
  match s.dropWhile isIgnorable with
  | c :: _ => isCased c
  | [] => false

/-- A capital sigma between `before`, read backwards, and `after`. -/
def sigma (before after : List Char) : Char :=
  if meetsCased before && !meetsCased after then Char.ofNat 0x3C2 else Char.ofNat 0x3C3

/-- The lower-case form of a text that follows `before`, which is given backwards. -/
def lowerAfter (before : List Char) : List Char → List Char
  | [] => []
  | c :: rest =>
      let lowered :=
        if c.toNat = 0x3A3 then [sigma before rest]
        else if c.toNat = 0x130 then ['i', Char.ofNat 0x307]
        else [lowerChar c]
      lowered ++ lowerAfter (c :: before) rest

end Case

/-- The lower-case form of a text. -/
def lowercase (s : String) : String := String.ofList (Case.lowerAfter [] s.toList)

end Scrobbler.Text
