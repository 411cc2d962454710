import Scrobbler.Power
import Scrobbler.Text.Integer

/-!
Numeric hosts of four bytes. They may be written in many ways, with fewer parts and in other bases,
and have one written form.
-/

namespace Scrobbler.Url.Ipv4

/-- The parts of a host between its dots. -/
def parts : List Char → List (List Char)
  | [] => [[]]
  | c :: rest =>
      if c = '.' then [] :: parts rest
      else
        match parts rest with
        | [] => [[c]]
        | part :: others => (c :: part) :: others

/-- The parts without an empty one at the end. -/
def trimmedParts (host : List Char) : List (List Char) :=
  match (parts host).reverse with
  | [] :: rest@(_ :: _) => rest.reverse
  | _ => parts host

/-- The value of digits. -/
def value? (base : Nat) (digits : List Char) : Option Nat :=
  digits.foldlM
    (fun total c => ((Text.hexDigit? c).filter (· < base)).map (total * base + ·)) 0

/-- The value of a part: hexadecimal after `0x`, octal after another zero, decimal otherwise. -/
def number? : List Char → Option Nat
  | [] => none
  | '0' :: 'x' :: digits => value? 16 digits
  | '0' :: c :: digits => value? 8 (c :: digits)
  | digits => value? 10 digits

/-- The last part is a number; a host in small letters with such a part is numeric. -/
def endsInNumber (host : List Char) : Bool :=
  match (trimmedParts host).getLast? with
  | some part => (!part.isEmpty && part.all Char.isDigit) || (number? part).isSome
  | none => false

/-- The address of a host: each part is one byte, and the last one all that are left. -/
def address? (host : List Char) : Option Nat := do
  let numbers ← (trimmedParts host).mapM number?
  let last ← numbers.getLast?
  let bytes := numbers.dropLast
  if 3 < bytes.length ∨ bytes.any (255 < ·) ∨ twoTo (8 * (4 - bytes.length)) ≤ last then none
  else
    let high := bytes.foldl (fun total byte => total * 256 + byte) 0
    return high * twoTo (8 * (4 - bytes.length)) + last

/-- Four bytes between dots. -/
def chars (address : Nat) : List Char :=
  List.intercalate ['.'] <|
    [24, 16, 8, 0].map fun bits => Nat.toDigits 10 (address / twoTo bits % 256)

end Scrobbler.Url.Ipv4
