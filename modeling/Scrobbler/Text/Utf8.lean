/-!
UTF-8. Received bytes become characters, and `none` stands for each byte that belongs to none. Text
that is shown has one mark for each maximal run of such bytes. Text that is about to be sent becomes
bytes.
-/

namespace Scrobbler.Text

/-- A received symbol: a character, or a byte that is not UTF-8. -/
abbrev Symbol := Option Char

namespace Utf8

/-- A byte inside a form of several bytes. -/
def isTail (b : UInt8) : Bool := 0x80 ≤ b && b ≤ 0xBF

/-- The bits of a byte that a mask leaves. -/
def bits (b : UInt8) (mask : UInt8) : Nat := (b &&& mask).toNat

/-- The least and greatest second byte that a lead byte of a three- or four-byte form allows.
The limits keep out overlong forms, surrogates and numbers above U+10FFFF. -/
def secondRange (lead : UInt8) : UInt8 × UInt8 :=
  if lead == 0xE0 then (0xA0, 0xBF)
  else if lead == 0xED then (0x80, 0x9F)
  else if lead == 0xF0 then (0x90, 0xBF)
  else if lead == 0xF4 then (0x80, 0x8F)
  else (0x80, 0xBF)

def isSecond (lead b : UInt8) : Bool :=
  (secondRange lead).1 ≤ b && b ≤ (secondRange lead).2

/-- The first symbol of a byte sequence that starts with `a`, and what follows it. -/
def first (a : UInt8) (rest : List UInt8) : Symbol × List UInt8 :=
  if a < 0x80 then (some (Char.ofNat a.toNat), rest)
  else if 0xC2 ≤ a && a ≤ 0xDF then
    match rest with
    | b :: r =>
        if isTail b then (some (Char.ofNat (bits a 0x1F * 64 + bits b 0x3F)), r) else (none, rest)
    | [] => (none, [])
  else if 0xE0 ≤ a && a ≤ 0xEF then
    match rest with
    | b :: r =>
        if isSecond a b then
          match r with
          | c :: r' =>
              if isTail c then
                (some (Char.ofNat ((bits a 0x0F * 64 + bits b 0x3F) * 64 + bits c 0x3F)), r')
              else (none, r)
          | [] => (none, [])
        else (none, rest)
    | [] => (none, [])
  else if 0xF0 ≤ a && a ≤ 0xF4 then
    match rest with
    | b :: r =>
        if isSecond a b then
          match r with
          | c :: r' =>
              if isTail c then
                match r' with
                | d :: r'' =>
                    if isTail d then
                      (some (Char.ofNat (((bits a 0x07 * 64 + bits b 0x3F) * 64 + bits c 0x3F) * 64
                        + bits d 0x3F)), r'')
                    else (none, r')
                | [] => (none, [])
              else (none, r)
          | [] => (none, [])
        else (none, rest)
    | [] => (none, [])
  else (none, rest)

/-- A symbol takes at least its first byte. -/
theorem length_first_le (a : UInt8) (rest : List UInt8) :
    (first a rest).2.length ≤ rest.length := by
  unfold first
  repeat' split
  all_goals simp_all
  all_goals omega

/-- Splits bytes into characters and maximal runs that belong to none, with their numbers of
bytes. -/
def parts : List UInt8 → List (Symbol × Nat)
  | [] => []
  | a :: rest =>
      ((first a rest).1, rest.length + 1 - (first a rest).2.length) :: parts (first a rest).2
termination_by bytes => bytes.length
decreasing_by
  have := length_first_le a rest
  simp only [List.length_cons]
  omega

/-- The symbols of bytes. -/
def decode (bytes : List UInt8) : List Symbol :=
  (parts bytes).flatMap fun (symbol, size) =>
    symbol.elim (List.replicate size none) fun c => [some c]

/-- The text of bytes that are UTF-8 throughout. -/
def text? (bytes : List UInt8) : Option String :=
  ((decode bytes).mapM id).map String.ofList

/-- The text of any bytes, with U+FFFD for each run that is not UTF-8. -/
def lossy (bytes : List UInt8) : String :=
  String.ofList ((parts bytes).map fun part => part.1.getD (Char.ofNat 0xFFFD))

/-- The bytes of a text. -/
def encode (s : String) : List UInt8 := s.toUTF8.toList

/-- The number of bytes of a text. -/
def size (s : String) : Nat := s.utf8ByteSize

end Utf8

/-- The symbols of a text that was never bytes. -/
def symbols (s : String) : List Symbol := s.toList.map some

end Scrobbler.Text
