import Mathlib.Algebra.Group.Int.Defs
import Mathlib.Tactic.Common
import Scrobbler.Proofs.Json.Canonical
import Scrobbler.Proofs.Text.Search

/-!
Whole numbers as text. A text is read as a number exactly if it spells that number, with an optional sign and
ASCII digits, and the number lies within the limits: leading zeros do no harm, and no number within the limits is
lost on the way.
-/

namespace Scrobbler.Text

/-- A text spells a whole number: it has at most one sign, and then ASCII digits, at least one. -/
inductive Spells : List Char → Int → Prop
  | plain {digits : List Char} (hSome : digits ≠ []) (hDigits : ∀ c ∈ digits, c.isDigit = true) :
      Spells digits (Nat.ofDigitChars 10 digits 0)
  | plus {digits : List Char} (hSome : digits ≠ []) (hDigits : ∀ c ∈ digits, c.isDigit = true) :
      Spells ('+' :: digits) (Nat.ofDigitChars 10 digits 0)
  | minus {digits : List Char} (hSome : digits ≠ []) (hDigits : ∀ c ∈ digits, c.isDigit = true) :
      Spells ('-' :: digits) (-(Nat.ofDigitChars 10 digits 0 : Int))

section

variable {s digits : List Char} {c : Char} {n : Int}

/-- A number may have a plus sign before its digits. -/
theorem spells_plus_iff :
    Spells ('+' :: digits) n ↔
      digits ≠ [] ∧ (∀ c ∈ digits, c.isDigit = true) ∧ n = Nat.ofDigitChars 10 digits 0 := by
  constructor
  · rintro (⟨-, hDigits⟩ | ⟨hSome, hDigits⟩)
    · cases hDigits '+' List.mem_cons_self
    · exact ⟨hSome, hDigits, rfl⟩
  · rintro ⟨hSome, hDigits, rfl⟩
    exact .plus hSome hDigits

/-- A minus sign before digits makes the number negative. -/
theorem spells_minus_iff :
    Spells ('-' :: digits) n ↔
      digits ≠ [] ∧ (∀ c ∈ digits, c.isDigit = true) ∧ n = -(Nat.ofDigitChars 10 digits 0 : Int) := by
  constructor
  · rintro (⟨-, hDigits⟩ | - | ⟨hSome, hDigits⟩)
    · cases hDigits '-' List.mem_cons_self
    · exact ⟨hSome, hDigits, rfl⟩
  · rintro ⟨hSome, hDigits, rfl⟩
    exact .minus hSome hDigits

theorem spells_plain_iff (hSome : s ≠ []) (hPlus : ∀ rest, s ≠ '+' :: rest)
    (hMinus : ∀ rest, s ≠ '-' :: rest) :
    Spells s n ↔ (∀ c ∈ s, c.isDigit = true) ∧ n = Nat.ofDigitChars 10 s 0 := by
  constructor
  · rintro (⟨-, hDigits⟩ | - | -)
    · exact ⟨hDigits, rfl⟩
    · exact absurd rfl (hPlus _)
    · exact absurd rfl (hMinus _)
  · rintro ⟨hDigits, rfl⟩
    exact .plain hSome hDigits

theorem not_spells_nil : ¬Spells [] n := by
  rintro ⟨hSome, -⟩
  exact hSome rfl

theorem isBlankChar_of_isDigit (h : c.isDigit = true) : isBlankChar c = false := by
  have hRange := Json.bounds_of_isDigit h
  unfold isBlankChar
  grind

/-- A text that spells a number has no blanks, not even inside. -/
theorem Spells.not_blank (h : Spells s n) : ∀ c ∈ s, isBlankChar c = false := by
  intro c hMem
  cases h with
  | plain _ hDigits => exact isBlankChar_of_isDigit (hDigits c hMem)
  | plus _ hDigits | minus _ hDigits =>
      rcases List.mem_cons.mp hMem with rfl | hMem
      · rfl
      · exact isBlankChar_of_isDigit (hDigits c hMem)

/-- A text spells one number at most. -/
theorem Spells.unique {m : Int} (h : Spells s n) (hOther : Spells s m) : n = m := by
  cases h with
  | plain hSome hDigits =>
      cases hOther with
      | plain => rfl
      | plus => cases hDigits '+' List.mem_cons_self
      | minus => cases hDigits '-' List.mem_cons_self
  | plus => exact (spells_plus_iff.mp hOther).2.2.symm
  | minus => exact (spells_minus_iff.mp hOther).2.2.symm

/-- A text is a number with blank characters around it exactly if trimming leaves the number. -/
theorem spells_trimChars_iff {text : List Char} :
    Spells (trimChars text) n ↔ ∃ before core after, text = before ++ core ++ after ∧
      (∀ c ∈ before, isBlankChar c = true) ∧ (∀ c ∈ after, isBlankChar c = true) ∧ Spells core n := by
  have hSome {core : List Char} (h : Spells core n) : core ≠ [] := by
    rintro rfl
    exact not_spells_nil h
  constructor
  · intro h
    obtain ⟨⟨before, after, hText, hBefore, hAfter⟩, -, -⟩ := isCoreOf_iff.mpr ⟨rfl, hSome h⟩
    exact ⟨before, trimChars text, after, hText, hBefore, hAfter, h⟩
  · rintro ⟨before, core, after, hText, hBefore, hAfter, h⟩
    have hCore : IsCoreOf core text := {
      margins := ⟨before, after, hText, hBefore, hAfter⟩
      first := ⟨core.head (hSome h), List.head?_eq_some_head _, h.not_blank _ (List.head_mem _)⟩
      last := ⟨core.getLast (hSome h), List.getLast?_eq_some_getLast _, h.not_blank _ (List.getLast_mem _)⟩ }
    rwa [(isCoreOf_iff.mp hCore).1]

end

namespace Integer

theorem le_ofDigitChars (digits : List Char) (total : Nat) : total ≤ Nat.ofDigitChars 10 digits total := by
  induction digits generalizing total with
  | nil => exact Nat.le_refl total
  | cons c digits ih =>
      rw [Nat.ofDigitChars_cons]
      exact Nat.le_trans (by omega) (ih _)

/-- Digits are read as the number that they make up after the total, if it does not pass the limit. No total
on the way does so then, since each digit leaves at least what was there. -/
theorem readUp_eq_ok_iff {high total n : Nat} {s : List Char} (hTotal : total ≤ high) :
    readUp high total s = .ok n ↔
      (∀ c ∈ s, c.isDigit = true) ∧ n = Nat.ofDigitChars 10 s total ∧ n ≤ high := by
  induction s generalizing total with
  | nil =>
      simp only [readUp, Except.ok.injEq, Nat.ofDigitChars_nil]
      grind
  | cons c rest ih =>
      rw [readUp, Nat.ofDigitChars_cons, List.forall_mem_cons, Nat.mul_comm 10]
      cases hDigit : c.isDigit with
      | false => simp [Json.Numeral.digit?_of_not_isDigit hDigit]
      | true =>
          simp only [Json.Numeral.digit?_of_isDigit hDigit, true_and]
          split
          · next hNext => exact ih hNext
          · next hPast =>
              have hGrow := le_ofDigitChars rest (total * 10 + (c.toNat - '0'.toNat))
              simp only [reduceCtorEq, false_iff]
              omega

/-- Digits are read if their number is not above the limit, and only then. -/
theorem readUp_map_eq_ok_iff {high : Nat} {s : List Char} {n : Int} :
    (readUp high 0 s).map Int.ofNat = .ok n ↔
      (∀ c ∈ s, c.isDigit = true) ∧ n = Nat.ofDigitChars 10 s 0 ∧ n ≤ high := by
  rw [map_eq_ok]
  constructor
  · rintro ⟨total, hRead, rfl⟩
    obtain ⟨hDigits, rfl, hHigh⟩ := (readUp_eq_ok_iff (Nat.zero_le high)).mp hRead
    exact ⟨hDigits, rfl, Int.ofNat_le.mpr hHigh⟩
  · rintro ⟨hDigits, rfl, hHigh⟩
    exact ⟨_, (readUp_eq_ok_iff (Nat.zero_le high)).mpr ⟨hDigits, rfl, Int.ofNat_le.mp hHigh⟩, rfl⟩

/-- A number is read if the text spells it and it lies between the limits. -/
theorem readSigned_eq_ok_iff {low high : Nat} {s : List Char} {n : Int} :
    readSigned low high s = .ok n ↔ Spells s n ∧ -(low : Int) ≤ n ∧ n ≤ high := by
  have hFailed {rest : List Char} {fault : IntegerFault} (hRead : readUp low 0 rest = .error fault) :
      ¬((∀ c ∈ rest, c.isDigit = true) ∧ Nat.ofDigitChars 10 rest 0 ≤ low) := by
    rintro ⟨hDigits, hLow⟩
    rw [(readUp_eq_ok_iff (Nat.zero_le low)).mpr ⟨hDigits, rfl, hLow⟩] at hRead
    cases hRead
  fun_cases readSigned low high s with
  | case1 => simp [not_spells_nil]
  | case2 => simp [spells_plus_iff]
  | case3 => simp [spells_minus_iff]
  | case4 rest hSome =>
      rw [readUp_map_eq_ok_iff, spells_plus_iff]
      grind
  | case5 rest hSome total hRead =>
      obtain ⟨hDigits, rfl, hLow⟩ := (readUp_eq_ok_iff (Nat.zero_le low)).mp hRead
      rw [spells_minus_iff, Except.ok.injEq]
      grind
  | case6 rest hSome hRead =>
      have hNone := hFailed hRead
      rw [spells_minus_iff]
      grind
  | case7 rest hSome fault hOther hRead =>
      have hNone := hFailed hRead
      rw [spells_minus_iff]
      grind
  | case8 _ hSome _ _ hPlusRest hMinusRest =>
      rw [readUp_map_eq_ok_iff, spells_plain_iff hSome hPlusRest hMinusRest]
      grind

end Integer

/-- A word with a sign is read from every text that spells one. -/
theorem readInt64_eq_ok_iff {s : String} {n : Int} :
    readInt64 s = .ok n ↔ Spells s.toList n ∧ -2 ^ 63 ≤ n ∧ n < 2 ^ 63 := by
  have hLimit : (twoTo 63 : Int) = 2 ^ 63 := rfl
  have hHigh : ((twoTo 63 - 1 : Nat) : Int) = 2 ^ 63 - 1 := rfl
  rw [readInt64, Integer.readSigned_eq_ok_iff, hLimit, hHigh, Int.le_sub_one_iff]

/-- The written form of a whole number spells it. -/
theorem spells_integerChars (n : Int) : Spells (Json.integerChars n) n := by
  have hSome (n : Nat) : Json.naturalChars n ≠ [] := Nat.toDigits_ne_nil
  have hDigits (n : Nat) : ∀ c ∈ Json.naturalChars n, c.isDigit = true := fun c =>
    Json.Numeral.isDigit_of_mem_naturalChars
  have hValue (n : Nat) : Nat.ofDigitChars 10 (Json.naturalChars n) 0 = n := Nat.ofDigitChars_ten_toDigits
  cases n with
  | ofNat n =>
      have hPlain := Spells.plain (hSome n) (hDigits n)
      rwa [hValue n] at hPlain
  | negSucc n =>
      have hMinus := Spells.minus (hSome (n + 1)) (hDigits (n + 1))
      rwa [hValue (n + 1)] at hMinus

end Scrobbler.Text
