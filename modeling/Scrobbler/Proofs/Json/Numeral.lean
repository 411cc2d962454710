import Mathlib.Data.List.Basic
import Mathlib.Tactic.Common
import Scrobbler.Json.Numeral
import Scrobbler.Json.Printer
import Scrobbler.Word

/-!
Whole numbers are read as they are written. The written form of a whole number is one numeral, with
its digits and nothing else, as long as no character follows that could belong to it; and the value of
that numeral is the number, if it fits 64 bits. The zeros of the binary64 format, which `-0` is one of,
are written with a point and read as what they were.
-/

namespace Scrobbler.Json

open Decimal Text

/-- The least and the greatest whole number that is kept exactly. -/
def wholeLimits : Int × Int := (-(twoTo 63 : Int), (twoTo 64 : Int) - 1)

/-- A whole number is written as usual. -/
theorem ofList_integerChars (n : Int) : String.ofList (integerChars n) = toString n := by
  cases n with
  | ofNat n => rfl
  | negSucc n =>
      have hChars : String.ofList (integerChars (.negSucc n)) = "-" ++ String.ofList (naturalChars (n + 1)) := by
        simp [integerChars]
      rw [hChars]
      rfl

namespace Numeral

/-- The digits of a natural number, the first one first. -/
def digitsOf (n : Nat) : List Nat := (naturalChars n).map fun c => c.toNat - '0'.toNat

/-- The numeral that a whole number is written as. -/
def ofInt (n : Int) : Numeral := ⟨decide (n < 0), digitsOf n.natAbs, [], none⟩

/-- The numeral that a zero with a point is written as. -/
def pointZero (negative : Bool) : Numeral := ⟨negative, [0], [0], none⟩

/-- The text goes on with a character that could belong to a numeral. -/
def continues : List Symbol → Bool
  | some c :: _ => c.isDigit || c == '.' || c == 'e' || c == 'E'
  | _ => false

theorem digit?_of_isDigit {c : Char} (h : c.isDigit = true) :
    digit? c = some (c.toNat - '0'.toNat) := by
  have hRange : '0' ≤ c ∧ c ≤ '9' := by
    simpa [Char.isDigit, Char.le_def] using h
  rw [digit?, if_pos hRange]

theorem digit?_of_not_isDigit {c : Char} (h : c.isDigit = false) : digit? c = none := by
  have hRange : ¬('0' ≤ c ∧ c ≤ '9') := by
    intro hRange
    have : c.isDigit = true := by simpa [Char.isDigit, Char.le_def] using hRange
    simp [h] at this
  rw [digit?, if_neg hRange]

theorem digits_of_not_continues {rest : List Symbol} (h : continues rest = false) :
    digits rest = ([], rest) := by
  cases rest with
  | nil => rfl
  | cons symbol rest =>
      cases symbol with
      | none => rfl
      | some c =>
          simp only [continues, Bool.or_eq_false_iff] at h
          simp only [digits, digit?_of_not_isDigit h.1.1.1]

/-- Digits are read up to the first symbol that does not go on with them. -/
theorem digits_append {cs : List Char} {rest : List Symbol}
    (hDigits : ∀ c ∈ cs, c.isDigit = true) (h : continues rest = false) :
    digits (cs.map some ++ rest) = (cs.map fun c => c.toNat - '0'.toNat, rest) := by
  induction cs with
  | nil => exact digits_of_not_continues h
  | cons c cs ih =>
      have hFirst := digit?_of_isDigit (hDigits c List.mem_cons_self)
      have ih := ih fun d hMem => hDigits d (List.mem_cons_of_mem c hMem)
      simp only [List.map_cons, List.cons_append, digits, hFirst, ih]

theorem isDigit_of_mem_naturalChars {n : Nat} {c : Char} (h : c ∈ naturalChars n) :
    c.isDigit = true :=
  Nat.isDigit_of_mem_toDigits (by decide) (by decide) h

/-- The last digit of a number is its remainder by ten. -/
theorem digitsOf_eq (n : Nat) :
    digitsOf n = if n < 10 then [n] else digitsOf (n / 10) ++ [n % 10] := by
  unfold digitsOf naturalChars
  rw [Nat.toDigits_eq_if (by decide)]
  split
  · next hSmall => simp [Nat.toNat_digitChar_sub_48_of_lt_ten hSmall]
  · simp [Nat.toNat_digitChar_sub_48_of_lt_ten (Nat.mod_lt n (by decide : 0 < 10))]

/-- A number of more than one digit does not start with a zero. -/
theorem head?_digitsOf {n : Nat} (hPos : 0 < n) : (digitsOf n).head? ≠ some 0 := by
  induction n using Nat.strongRecOn with
  | ind n ih =>
      rw [digitsOf_eq]
      split
      · simp
        omega
      · have hShorter := ih (n / 10) (by omega) (by omega)
        rw [List.head?_append]
        cases hHead : (digitsOf (n / 10)).head? with
        | none =>
            have hNil := List.head?_eq_none_iff.mp hHead
            rw [digitsOf_eq] at hNil
            split at hNil <;> simp at hNil
        | some d =>
            rw [hHead] at hShorter
            exact hShorter

/-- The digits of a number are read back from what is written, since it has no zero at its head. -/
theorem readWhole_naturalChars (n : Nat) {rest : List Symbol} (h : continues rest = false) :
    readWhole ((naturalChars n).map some ++ rest) = .ok (digitsOf n, rest) := by
  have hDigits : digits ((naturalChars n).map some ++ rest) = (digitsOf n, rest) :=
    digits_append (fun c hMem => isDigit_of_mem_naturalChars hMem) h
  unfold readWhole
  rw [hDigits]
  split
  · next hNil =>
      rw [Prod.mk.injEq, digitsOf_eq] at hNil
      split at hNil <;> simp at hNil
  · next hZero =>
      -- Only the number zero starts with a zero, and it has no other digit.
      rw [Prod.mk.injEq] at hZero
      rcases Nat.eq_zero_or_pos n with rfl | hPos
      · rw [digitsOf_eq] at hZero
        simp at hZero
      · exact absurd (by rw [hZero.1]; rfl) (head?_digitsOf hPos)
  · next hOther => rw [← hOther]

theorem readExponent_of_not_continues {rest : List Symbol} (h : continues rest = false) :
    readExponent rest = .ok (none, rest) := by
  unfold readExponent
  split
  · simp [continues] at h
  · simp [continues] at h
  · rfl

/-- A written natural number is read as a numeral without a fraction or an exponent. -/
theorem read_naturalChars (negative : Bool) (n : Nat) {rest : List Symbol}
    (h : continues rest = false) :
    read negative ((naturalChars n).map some ++ rest) = .ok (⟨negative, digitsOf n, [], none⟩, rest) := by
  have hFraction : readFraction rest = .ok ([], rest) := by
    unfold readFraction
    split
    · simp [continues] at h
    · rfl
  unfold read
  simp only [readWhole_naturalChars n h, hFraction, readExponent_of_not_continues h]

/-- A written zero with a point is read as such. -/
theorem read_pointZero (negative : Bool) {rest : List Symbol} (h : continues rest = false) :
    read negative (some '0' :: some '.' :: some '0' :: rest) = .ok (pointZero negative, rest) := by
  have hPoint : digit? '.' = none := rfl
  have hZero : digit? '0' = some 0 := rfl
  have hWhole : readWhole (some '0' :: some '.' :: some '0' :: rest) =
      .ok ([0], some '.' :: some '0' :: rest) := by
    simp only [readWhole, digits, hPoint, hZero]
  have hFraction : readFraction (some '.' :: some '0' :: rest) = .ok ([0], rest) := by
    simp only [readFraction, digits, hZero, digits_of_not_continues h]
  unfold read
  simp only [hWhole, hFraction, readExponent_of_not_continues h]
  rfl

/-- Digits are read without loss as long as the number that they make up fits 64 bits. -/
theorem fit_eq {total : Nat} {ds : List Nat}
    (h : ds.foldl (fun sum d => sum * 10 + d) total < twoTo 64) :
    fit total ds = (ds.foldl (fun sum d => sum * 10 + d) total, []) := by
  induction ds generalizing total with
  | nil => rfl
  | cons d ds ih =>
      have hGrow : ∀ (ds : List Nat) (sum : Nat), sum ≤ ds.foldl (fun sum d => sum * 10 + d) sum := by
        intro ds
        induction ds with
        | nil => intro sum; exact Nat.le_refl sum
        | cons d ds ih =>
            intro sum
            exact Nat.le_trans (by omega) (ih (sum * 10 + d))
      rw [List.foldl_cons] at h ⊢
      rw [fit, if_pos (Nat.lt_of_le_of_lt (hGrow ds _) h), ih h]

theorem foldl_digitsOf (n : Nat) : (digitsOf n).foldl (fun sum d => sum * 10 + d) 0 = n := by
  induction n using Nat.strongRecOn with
  | ind n ih =>
      rw [digitsOf_eq]
      split
      · simp
      · rw [List.foldl_append, ih (n / 10) (by omega)]
        simp
        omega

/-- Where no digit is dropped, all of them are read. -/
theorem fit_of_dropped_eq_nil {total read : Nat} {ds : List Nat} (h : fit total ds = (read, [])) :
    read = ds.foldl (fun sum d => sum * 10 + d) total := by
  induction ds generalizing total with
  | nil => exact (Prod.mk.inj h).1.symm
  | cons d ds ih =>
      rw [fit] at h
      split at h
      · exact ih h
      · cases h

/-- Digits are taken only as long as the number fits 64 bits. -/
theorem fit_lt {total : Nat} (ds : List Nat) (h : total < twoTo 64) :
    (fit total ds).1 < twoTo 64 := by
  induction ds generalizing total with
  | nil => exact h
  | cons d ds ih =>
      rw [fit]
      split
      · next hNext => exact ih hNext
      · exact h

/-- The value of the numeral of a whole number is that number. -/
theorem value_ofInt {n : Int} (h : Word.fits wholeLimits n = true) :
    (ofInt n).value = .ok (.integer n) := by
  obtain ⟨hLow, hHigh⟩ : -(twoTo 63 : Int) ≤ n ∧ n ≤ twoTo 64 - 1 := Word.fits_iff.mp h
  have hFit : fit 0 (digitsOf n.natAbs) = (n.natAbs, []) := by
    have hFold := foldl_digitsOf n.natAbs
    have hBound : twoTo 63 < twoTo 64 := by decide
    rw [fit_eq (by rw [hFold]; omega), hFold]
  unfold value
  simp only [ofInt, hFit, isWhole]
  by_cases hNegative : n < 0
  · have hSmall : 1 ≤ n.natAbs ∧ n.natAbs ≤ twoTo 63 := by omega
    have hValue : -(n.natAbs : Int) = n := by omega
    rw [if_pos ⟨rfl, trivial, fun _ => hSmall⟩, if_pos (decide_eq_true hNegative), hValue]
  · have hValue : (n.natAbs : Int) = n := by omega
    have hSign : ¬decide (n < 0) = true := fun h => hNegative (of_decide_eq_true h)
    rw [if_pos ⟨rfl, trivial, fun h => absurd h hSign⟩, if_neg hSign, hValue]

/-- The numeral of a whole number has no other whole number as its value. -/
theorem eq_of_value_ofInt {n m : Int} (h : (ofInt n).value = .ok (.integer m)) : m = n := by
  unfold value at h
  rcases hFit : fit 0 (ofInt n).whole with ⟨read, dropped⟩
  rw [hFit] at h
  simp only at h
  split at h
  · next hWhole =>
      obtain ⟨-, rfl, -⟩ := hWhole
      have hRead : read = n.natAbs := (fit_of_dropped_eq_nil hFit).trans (foldl_digitsOf n.natAbs)
      have hValue := Number.integer.inj (Except.ok.inj h)
      rw [hRead] at hValue
      split at hValue
      · next hNegative =>
          have hSign : n < 0 := of_decide_eq_true hNegative
          omega
      · next hNotNegative =>
          have hSign : ¬n < 0 := fun hSign => hNotNegative (decide_eq_true hSign)
          omega
  · cases hMagnitude : (ofInt n).magnitude <;> simp [hMagnitude, Except.map] at h

theorem value_pointZero (negative : Bool) :
    (pointZero negative).value = .ok (.float negative .zero) := by
  have hStart : Binary64.ofNat 0 = .zero := rfl
  have hScaled : Binary64.ofDecimal? 0 (-1) = some .zero := by
    simp [Binary64.ofDecimal?, hStart, Binary64.shrink, Binary64.div, Binary64.ratio, Binary64.ofRatio?,
      Binary64.zero, Binary64.minExponent]
  have hFit : fit 0 [0] = (0, []) := rfl
  have hPoint : (pointZero negative).isWhole = false := rfl
  have hMagnitude : (pointZero negative).magnitude = .ok .zero := by
    unfold magnitude
    simp [pointZero, hFit, hScaled]
  simp [value, hPoint, hMagnitude, Except.map]
  rfl

/-- Every whole number that a numeral stands for fits 64 bits. -/
theorem fits_of_value {numeral : Numeral} {n : Int} (h : numeral.value = .ok (.integer n)) :
    Word.fits wholeLimits n = true := by
  have hTotal := fit_lt numeral.whole (twoTo_pos 64)
  have hOrder : twoTo 63 < twoTo 64 := by decide
  unfold value at h
  generalize fit 0 numeral.whole = read at h hTotal
  simp only at h
  split at h
  · next hWhole =>
      have hValue := Number.integer.inj (Except.ok.inj h)
      suffices -(twoTo 63 : Int) ≤ n ∧ n ≤ twoTo 64 - 1 from Word.fits_iff.mpr this
      split at hValue
      · next hNegative =>
          have hSmall := hWhole.2.2 hNegative
          omega
      · omega
  · cases hMagnitude : numeral.magnitude <;> simp [hMagnitude, Except.map] at h

end Numeral

theorem bounds_of_isDigit {c : Char} (h : c.isDigit = true) : 0x30 ≤ c.toNat ∧ c.toNat ≤ 0x39 := by
  simpa [Char.isDigit, UInt32.le_iff_toNat_le] using h

theorem escapeChar_of_isDigit {c : Char} (h : c.isDigit = true) : escapeChar c = [c] := by
  have hRange := bounds_of_isDigit h
  have hPlain : ¬c.toNat < 0x20 := by omega
  unfold escapeChar
  -- No character with an escape of its own is a digit.
  iterate 7
    rw [if_neg (by rintro rfl; cases h)]
  rw [if_neg hPlain]

/-- No character of a whole number is escaped. -/
theorem flatMap_escapeChar_integerChars (n : Int) : (integerChars n).flatMap escapeChar = integerChars n := by
  have hNatural (n : Nat) : (naturalChars n).flatMap escapeChar = naturalChars n := by
    have hPlain : ∀ c ∈ naturalChars n, escapeChar c = [c] := fun c hMem =>
      escapeChar_of_isDigit (Numeral.isDigit_of_mem_naturalChars hMem)
    rw [List.flatMap_congr hPlain, List.flatMap_singleton']
  cases n with
  | ofNat n => exact hNatural n
  | negSucc n => exact congrArg ('-' :: ·) (hNatural (n + 1))

end Scrobbler.Json
