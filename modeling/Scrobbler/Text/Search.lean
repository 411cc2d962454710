/-!
Searching for a text inside another.
-/

namespace Scrobbler.Text

/-- `part` stands somewhere in a text. -/
def occursIn (part : List Char) : List Char → Bool
  | [] => part.isEmpty
  | c :: rest => part.isPrefixOf (c :: rest) || occursIn part rest

end Scrobbler.Text
