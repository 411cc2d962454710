import Scrobbler.Power

/-!
Whole numbers as text: an optional sign and ASCII digits, read digit by digit within limits. The
first digit that leaves the limits decides the fault, even if junk follows it.
-/

namespace Scrobbler.Text

/-- Why a text names no whole number within the limits. -/
inductive IntegerFault
  | empty
  | invalidDigit
  | tooLarge
  | tooSmall
  deriving DecidableEq, Repr

/-- The wording of a fault. -/
def IntegerFault.message : IntegerFault → String
  | .empty => "cannot parse integer from empty string"
  | .invalidDigit => "invalid digit found in string"
  | .tooLarge => "number too large to fit in target type"
  | .tooSmall => "number too small to fit in target type"

/-- The value of an ASCII digit. -/
def digit? (c : Char) : Option Nat :=
  if '0' ≤ c ∧ c ≤ '9' then some (c.toNat - '0'.toNat) else none

/-- The value of an ASCII digit of base sixteen, in either case. -/
def hexDigit? (c : Char) : Option Nat :=
  if '0' ≤ c ∧ c ≤ '9' then some (c.toNat - '0'.toNat)
  else if 'a' ≤ c ∧ c ≤ 'f' then some (c.toNat - 'a'.toNat + 10)
  else if 'A' ≤ c ∧ c ≤ 'F' then some (c.toNat - 'A'.toNat + 10)
  else none

namespace Integer

/-- Reads digits after `total`, which may not pass `high`. -/
def readUp (high : Nat) (total : Nat) : List Char → Except IntegerFault Nat
  | [] => .ok total
  | c :: rest =>
      match digit? c with
      | none => .error .invalidDigit
      | some d =>
          if total * 10 + d ≤ high then readUp high (total * 10 + d) rest else .error .tooLarge

/-- A text as a number of at most `high`; a leading `+` is allowed. -/
def readNatural (high : Nat) (s : List Char) : Except IntegerFault Nat :=
  match s with
  | [] => .error .empty
  | ['+'] => .error .invalidDigit
  | '+' :: rest => readUp high 0 rest
  | _ => readUp high 0 s

/-- A text as a number from `-low` to `high`; a leading sign is allowed. -/
def readSigned (low high : Nat) (s : List Char) : Except IntegerFault Int :=
  match s with
  | [] => .error .empty
  | ['+'] => .error .invalidDigit
  | ['-'] => .error .invalidDigit
  | '+' :: rest => (readUp high 0 rest).map Int.ofNat
  | '-' :: rest =>
      match readUp low 0 rest with
      | .ok n => .ok (-(n : Int))
      | .error .tooLarge => .error .tooSmall
      | .error fault => .error fault
  | _ => (readUp high 0 s).map Int.ofNat

end Integer

/-- Limits of a signed 64-bit number. -/
def readInt64 (s : String) : Except IntegerFault Int :=
  Integer.readSigned (twoTo 63) (twoTo 63 - 1) s.toList

/-- Limits of an unsigned 64-bit number. -/
def readUInt64 (s : String) : Except IntegerFault Nat :=
  Integer.readNatural (twoTo 64 - 1) s.toList

end Scrobbler.Text
