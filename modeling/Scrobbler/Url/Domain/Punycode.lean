import Scrobbler.Power
import Scrobbler.Text.Integer

/-!
Labels of domain names in ASCII. The characters of a label that are not ASCII are written as one
number each: how many of the pairs of a place and a character lie between it and the last one. Such
a number has digits of base 36, whose weights depend on the numbers before.
-/

namespace Scrobbler.Url.Domain.Punycode

/-- The digits: the letters, and then the digits from zero to nine. -/
def digitChar (d : Nat) : Char :=
  if d < 26 then Char.ofNat ('a'.toNat + d) else Char.ofNat ('0'.toNat + (d - 26))

def digitValue? (c : Char) : Option Nat :=
  if c.isAlpha then some (c.toLower.toNat - 'a'.toNat)
  else (Text.digit? c).map (· + 26)

/-- A digit below this value is the last one of its number. The `k`-th digit has place `36 * k`. -/
def threshold (place bias : Nat) : Nat :=
  if place ≤ bias then 1 else if bias + 26 ≤ place then 26 else place - bias

theorem threshold_pos (place bias : Nat) : 1 ≤ threshold place bias := by
  unfold threshold
  split
  · omega
  · split <;> omega

/-- How often a number is divided by 35 until it is small, and what is left of it. -/
def shrink (n : Nat) : Nat × Nat :=
  if 455 < n then ((shrink (n / 35)).1 + 1, (shrink (n / 35)).2) else (0, n)
termination_by n
decreasing_by
  all_goals exact Nat.div_lt_self (by omega) (by omega)

/-- The bias after a number: the next one is expected to be about as long. -/
def nextBias (number count : Nat) (first : Bool) : Nat :=
  let n := if first then number / 700 else number / 2
  let (divisions, rest) := shrink (n + n / count)
  divisions * 36 + 36 * rest / (rest + 38)

/-- The digits of a number. -/
def digits (bias place n : Nat) : List Char :=
  let t := threshold place bias
  if n < t then [digitChar n]
  else digitChar (t + (n - t) % (36 - t)) :: digits bias (place + 36) ((n - t) / (36 - t))
termination_by n
decreasing_by
  have := threshold_pos place bias
  have := Nat.div_le_self (n - threshold place bias) (36 - threshold place bias)
  omega

/-- What has been written of a label. -/
structure Writing where
  output : List Char
  /-- The pairs of a place and a character since the last one that was written. -/
  passed : Nat
  bias : Nat
  /-- The number of characters that were written. -/
  count : Nat

/-- Comes to a character of the label while all characters with the number `n` are written; the
label has `basics` ASCII characters. -/
def write (basics n : Nat) (w : Writing) (c : Char) : Writing :=
  if c.toNat < n then { w with passed := w.passed + 1 }
  else if c.toNat = n then
    { output := w.output ++ digits w.bias 36 w.passed
      passed := 0
      bias := nextBias w.passed (w.count + 1) (w.count == basics)
      count := w.count + 1 }
  else w

/-- Goes through the label once for each of the numbers of its characters that are not ASCII, which
come in order; all numbers below `next` are done. -/
def writeAll (label : List Char) (basics : Nat) : List Nat → Nat → Writing → Writing
  | [], _, w => w
  | n :: rest, next, w =>
      let w := { w with passed := w.passed + (n - next) * (w.count + 1) }
      let w := label.foldl (write basics n) w
      writeAll label basics rest (n + 1) { w with passed := w.passed + 1 }

/-- The numbers without repetitions, in order. -/
def inOrder (numbers : List Nat) : List Nat :=
  (numbers.foldl (fun kept n => if kept.contains n then kept else n :: kept) []).mergeSort

/-- The ASCII form of a label. -/
def encode (label : List Char) : List Char :=
  let basics := label.filter fun c => c.toNat < 0x80
  let others := (label.filter fun c => 0x80 ≤ c.toNat).map Char.toNat
  let start : Writing := ⟨[], 0, 72, basics.length⟩
  basics ++ (if basics.isEmpty then [] else ['-']) ++
    (writeAll label basics.length (inOrder others) 0x80 start).output

/-- Reads a number, and returns it and what follows it. `weight` is the one of the next digit; no
weight may need more than 32 bits. -/
def readNumber (bias : Nat) : List Char → (place weight total : Nat) → Option (Nat × List Char)
  | [], _, _, _ => none
  | c :: rest, place, weight, total =>
      match digitValue? c with
      | none => none
      | some d =>
          if twoTo 32 ≤ total + d * weight then none
          else if d < threshold place bias then some (total + d * weight, rest)
          else if twoTo 32 ≤ weight * (36 - threshold place bias) then none
          else
            readNumber bias rest (place + 36) (weight * (36 - threshold place bias))
              (total + d * weight)

/-- A number takes at least one digit. -/
theorem length_of_readNumber {bias place weight total number : Nat} {s rest : List Char}
    (h : readNumber bias s place weight total = some (number, rest)) : rest.length < s.length := by
  induction s generalizing place weight total with
  | nil => simp [readNumber] at h
  | cons c tail ih =>
      unfold readNumber at h
      simp only [List.length_cons]
      split at h
      · simp at h
      · split at h
        · simp at h
        · split at h
          · simp only [Option.some.injEq, Prod.mk.injEq] at h
            rw [← h.2]
            omega
          · split at h
            · simp at h
            · have := ih h
              omega

/-- The number is the one of a character. -/
def isCharNumber (n : Nat) : Bool := n < 0xD800 || (0xDFFF < n && n < 0x110000)

/-- Puts the characters that digits stand for into a label. Of the last one `n` is the number, and
`next` the place behind it. -/
def readAll (bias n next : Nat) (label : List Char) (s : List Char) : Option (List Char) :=
  match s with
  | [] => some label
  | c :: tail =>
      match _hRead : readNumber bias (c :: tail) 36 1 next with
      | none => none
      | some (total, rest) =>
          let count := label.length + 1
          let n := n + total / count
          if isCharNumber n then
            readAll (nextBias (total - next) count (next == 0)) n (total % count + 1)
              (label.insertIdx (total % count) (Char.ofNat n)) rest
          else none
termination_by s.length
decreasing_by
  exact length_of_readNumber _hRead

/-- The ASCII characters of a label in its ASCII form, and the digits after the last hyphen. A
hyphen in front of all digits separates nothing. -/
def splitDigits (s : List Char) : List Char × List Char :=
  let digits := (s.reverse.takeWhile (· ≠ '-')).reverse
  let basics := s.take (s.length - digits.length - 1)
  if basics.isEmpty then ([], s) else (basics, digits)

/-- Reads the ASCII form of a label. -/
def decode (s : List Char) : Option (List Char) :=
  let (basics, digits) := splitDigits s
  readAll 72 0x80 0 basics digits

end Scrobbler.Url.Domain.Punycode
