import Scrobbler.Json.Basic
import Scrobbler.Json.Fault
import Scrobbler.Text.Integer
import Scrobbler.Text.Utf8

/-!
Numerals of JSON text. A numeral keeps its digits; its value is a whole number when it has neither a
fraction nor an exponent and fits 64 bits, and a binary64 number otherwise.
-/

namespace Scrobbler.Json

open Decimal Text

/-- The parts of a number as written. -/
structure Numeral where
  negative : Bool
  whole : List Nat
  fraction : List Nat
  /-- The sign and the digits of the exponent, if there is one. -/
  exponent : Option (Bool × List Nat)
  deriving DecidableEq, Repr

namespace Numeral

/-- The digits at the head of a text, and the rest. -/
def digits : List Symbol → List Nat × List Symbol
  | some c :: rest =>
      match digit? c with
      | some d => (d :: (digits rest).1, (digits rest).2)
      | none => ([], some c :: rest)
  | s => ([], s)

theorem length_digits_le (s : List Symbol) : (digits s).2.length ≤ s.length := by
  fun_induction digits s with
  | case1 c rest d hDigit ih =>
      simp only [List.length_cons]
      omega
  | case2 c rest hDigit => exact Nat.le_refl _
  | case3 s hOther => exact Nat.le_refl _

theorem length_digits_lt {s rest : List Symbol} {d : Nat} {ds : List Nat}
    (h : digits s = (d :: ds, rest)) : rest.length < s.length := by
  fun_cases digits s with
  | case1 c r d' hd =>
      have := length_digits_le r
      simp only [digits, hd, Prod.mk.injEq, List.cons.injEq] at h
      rw [← h.2, List.length_cons]
      omega
  | case2 c r hd => simp [digits, hd] at h
  | case3 s hs =>
      unfold digits at h
      split at h
      · exact absurd rfl (hs _ _)
      · simp at h

/-- A fault where a digit is missing. -/
def digitMissing : List Symbol → Break
  | [] => ⟨.endInValue, .invalidNumber⟩
  | _ => .plain .invalidNumber

/-- Reads the digits before the point: a lone zero, or digits that start with another. -/
def readWhole (s : List Symbol) : Except Break (List Nat × List Symbol) :=
  match digits s with
  | ([], rest) => .error (digitMissing rest)
  | (0 :: _ :: _, _) => .error (.plain .invalidNumber)
  | (ds, rest) => .ok (ds, rest)

/-- The whole part of a numeral has at least one digit, so less is left behind it. -/
theorem length_of_readWhole {s rest : List Symbol} {ds : List Nat}
    (h : readWhole s = .ok (ds, rest)) : rest.length < s.length := by
  unfold readWhole at h
  split at h
  · simp at h
  · simp at h
  · rename_i ds' rest' hne _ hd
    simp only [Except.ok.injEq, Prod.mk.injEq] at h
    obtain ⟨rfl, rfl⟩ := h
    cases ds' with
    | nil => simp at hne
    | cons d ds => exact length_digits_lt hd

/-- Reads a point and digits, if there is a point. -/
def readFraction (s : List Symbol) : Except Break (List Nat × List Symbol) :=
  match s with
  | some '.' :: rest =>
      match digits rest with
      | ([], rest) => .error (digitMissing rest)
      | (ds, rest) => .ok (ds, rest)
  | _ => .ok ([], s)

theorem length_of_readFraction {s rest : List Symbol} {ds : List Nat}
    (h : readFraction s = .ok (ds, rest)) : rest.length ≤ s.length := by
  unfold readFraction at h
  split at h
  · split at h
    · simp at h
    · rename_i tail _ _ _ _ hd
      have := length_digits_le tail
      simp only [Except.ok.injEq, Prod.mk.injEq] at h
      rw [hd, h.2] at this
      simp only [List.length_cons] at *
      omega
  · simp only [Except.ok.injEq, Prod.mk.injEq] at h
    simp [h.2]

/-- Reads the digits of an exponent. -/
def readExponentDigits (negative : Bool) (s : List Symbol) :
    Except Break (Option (Bool × List Nat) × List Symbol) :=
  match digits s with
  | ([], rest) => .error (digitMissing rest)
  | (ds, rest) => .ok (some (negative, ds), rest)

theorem length_of_readExponentDigits {negative : Bool} {s rest : List Symbol}
    {e : Option (Bool × List Nat)} (h : readExponentDigits negative s = .ok (e, rest)) :
    rest.length ≤ s.length := by
  have := length_digits_le s
  unfold readExponentDigits at h
  split at h
  · simp at h
  · rename_i hd
    simp only [Except.ok.injEq, Prod.mk.injEq] at h
    rwa [hd, h.2] at this

/-- Reads an exponent after its mark. -/
def readSignedExponent (s : List Symbol) : Except Break (Option (Bool × List Nat) × List Symbol) :=
  match s with
  | some '+' :: rest => readExponentDigits false rest
  | some '-' :: rest => readExponentDigits true rest
  | _ => readExponentDigits false s

theorem length_of_readSignedExponent {s rest : List Symbol} {e : Option (Bool × List Nat)}
    (h : readSignedExponent s = .ok (e, rest)) : rest.length ≤ s.length := by
  unfold readSignedExponent at h
  split at h
  · have := length_of_readExponentDigits h
    simp only [List.length_cons]
    omega
  · have := length_of_readExponentDigits h
    simp only [List.length_cons]
    omega
  · exact length_of_readExponentDigits h

/-- Reads an exponent, if there is one. -/
def readExponent (s : List Symbol) : Except Break (Option (Bool × List Nat) × List Symbol) :=
  match s with
  | some 'e' :: rest => readSignedExponent rest
  | some 'E' :: rest => readSignedExponent rest
  | _ => .ok (none, s)

theorem length_of_readExponent {s rest : List Symbol} {e : Option (Bool × List Nat)}
    (h : readExponent s = .ok (e, rest)) : rest.length ≤ s.length := by
  unfold readExponent at h
  split at h
  · have := length_of_readSignedExponent h
    simp only [List.length_cons]
    omega
  · have := length_of_readSignedExponent h
    simp only [List.length_cons]
    omega
  · simp only [Except.ok.injEq, Prod.mk.injEq] at h
    simp [h.2]

/-- Reads a numeral after its sign. -/
def read (negative : Bool) (s : List Symbol) : Except Break (Numeral × List Symbol) :=
  match readWhole s with
  | .error fault => .error fault
  | .ok (whole, s) =>
      match readFraction s with
      | .error fault => .error fault
      | .ok (fraction, s) =>
          match readExponent s with
          | .error fault => .error fault
          | .ok (exponent, s) => .ok (⟨negative, whole, fraction, exponent⟩, s)

/-- A numeral has at least one digit. -/
theorem length_of_read {negative : Bool} {s rest : List Symbol} {n : Numeral}
    (h : read negative s = .ok (n, rest)) : rest.length < s.length := by
  unfold read at h
  split at h
  · simp at h
  · rename_i hWhole
    split at h
    · simp at h
    · rename_i hFraction
      split at h
      · simp at h
      · rename_i hExponent
        simp only [Except.ok.injEq, Prod.mk.injEq] at h
        have := length_of_readWhole hWhole
        have := length_of_readFraction hFraction
        have := length_of_readExponent hExponent
        rw [← h.2]
        omega

/-- Appends digits to a number as long as it stays below `2 ^ 64`, and returns the digits left. -/
def fit (total : Nat) : List Nat → Nat × List Nat
  | [] => (total, [])
  | d :: rest => if total * 10 + d < twoTo 64 then fit (total * 10 + d) rest else (total, d :: rest)

/-- The greatest exponent that is scaled by; any greater one gives zero or leaves the format. -/
def exponentLimit : Nat := twoTo 31 - 1

/-- The magnitude of a numeral. Digits that no longer fit 64 bits are dropped: those of the whole
part count as a power of ten each. -/
def magnitude (n : Numeral) : Except Fault Binary64 :=
  let (significand, dropped) := fit 0 n.whole
  let (significand, unread) := fit significand n.fraction
  let power : Int := (dropped.length : Int) - (n.fraction.length - unread.length : Nat)
  match n.exponent with
  | none => (Binary64.ofDecimal? significand power).elim (.error .numberOutOfRange) .ok
  | some (negative, ds) =>
      let exponent := ds.foldl (fun e d => e * 10 + d) 0
      if exponent ≤ exponentLimit then
        let total : Int := if negative then power - exponent else power + exponent
        (Binary64.ofDecimal? significand total).elim (.error .numberOutOfRange) .ok
      else if significand ≠ 0 ∧ !negative then .error .numberOutOfRange
      else .ok .zero

/-- Neither a fraction nor an exponent was written. -/
def isWhole (n : Numeral) : Bool := n.fraction.isEmpty && n.exponent.isNone

/-- The value of a numeral. -/
def value (n : Numeral) : Except Fault Number :=
  let (total, dropped) := fit 0 n.whole
  if n.isWhole ∧ dropped = [] ∧ (n.negative → 1 ≤ total ∧ total ≤ twoTo 63) then
    .ok (.integer (if n.negative then -(total : Int) else total))
  else n.magnitude.map (.float n.negative)

end Numeral

end Scrobbler.Json
