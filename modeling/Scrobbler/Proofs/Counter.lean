import Mathlib.Algebra.Group.Int.Defs
import Mathlib.Algebra.Group.Nat.Defs
import Mathlib.Tactic.Common
import Scrobbler.Counter
import Scrobbler.Proofs.Json.Decode
import Scrobbler.Proofs.Json.Faults
import Scrobbler.Proofs.Text.Integer

/-!
Counters in both shapes. A number and a text are read as the same counter, within the same limits; every
other value is refused as one of the wrong type.
-/

namespace Scrobbler

namespace Counter

open Json (DecodeError Decoder FailsOnly Node Numeral)

/-- A value stands for a whole number: it is that number, or a text that spells it, with blank characters
around it or without. -/
inductive StandsFor : Json → Int → Prop
  | number (n : Int) : StandsFor (.number (.integer n)) n
  | text {s : String} {before core after : List Char} {n : Int} (hText : s.toList = before ++ core ++ after)
      (hBefore : ∀ c ∈ before, Text.isBlankChar c = true) (hAfter : ∀ c ∈ after, Text.isBlankChar c = true)
      (hCore : Text.Spells core n) : StandsFor (.text s) n

section

variable {v : Json} {n : Int} {depth : Nat} {node : Node}

/-- A whole number stands for itself only. -/
theorem standsFor_integer_iff {m : Int} : StandsFor (.number (.integer m)) n ↔ n = m := by
  constructor
  · rintro ⟨⟩
    rfl
  · rintro rfl
    exact .number n

/-- A text stands for the number that it spells without spaces at the ends. -/
theorem standsFor_text_iff {s : String} :
    StandsFor (.text s) n ↔ Text.Spells (Text.trim s).toList n := by
  rw [Text.trim, String.toList_ofList, Text.spells_trimChars_iff]
  constructor
  · rintro ⟨⟩
    exact ⟨_, _, _, ‹_›, ‹_›, ‹_›, ‹_›⟩
  · rintro ⟨before, core, after, hText, hBefore, hAfter, hCore⟩
    exact .text hText hBefore hAfter hCore

/-- A value stands for one number at most. -/
theorem StandsFor.unique {m : Int} (h : StandsFor v n) (hOther : StandsFor v m) : n = m := by
  cases h with
  | number => exact (standsFor_integer_iff.mp hOther).symm
  | text hText hBefore hAfter hCore =>
      have hSpells := standsFor_text_iff.mp (.text hText hBefore hAfter hCore)
      exact hSpells.unique (standsFor_text_iff.mp hOther)

/-- The digits of a number stand for that number alone. -/
theorem standsFor_toString_iff {m : Int} : StandsFor (.text (toString n)) m ↔ m = n := by
  have hChars : (toString n).toList = [] ++ Json.integerChars n ++ [] := by
    rw [← Json.ofList_integerChars, String.toList_ofList, List.nil_append, List.append_nil]
  have hDigits : StandsFor (.text (toString n)) n := .text hChars nofun nofun (Text.spells_integerChars n)
  constructor
  · intro hStands
    exact hStands.unique hDigits
  · rintro rfl
    exact hDigits

theorem fits_signed_iff : Word.fits (Word.signed 64) n = true ↔ -2 ^ 63 ≤ n ∧ n < 2 ^ 63 := by
  have hLimits : Word.signed 64 = (-2 ^ 63, 2 ^ 63 - 1) := rfl
  rw [Word.fits_iff, hLimits, Int.le_sub_one_iff]

/-- What a value is read as is what it stands for, if 64 bits hold that with a sign. -/
theorem ofJson_eq_ok_iff : ofJson v = .ok n ↔ StandsFor v n ∧ -2 ^ 63 ≤ n ∧ n < 2 ^ 63 := by
  fun_cases ofJson v with
  | case1 m hFits =>
      rw [standsFor_integer_iff, Except.ok.injEq, fits_signed_iff] at *
      grind
  | case2 m hOutside =>
      rw [standsFor_integer_iff, fits_signed_iff] at *
      grind
  | case3 other hOther =>
      simp only [reduceCtorEq, false_iff]
      rintro ⟨⟨⟩, -⟩
      exact hOther _ rfl
  | case4 s m hRead =>
      rw [standsFor_text_iff, ← Text.readInt64_eq_ok_iff, hRead, Except.ok.injEq, Except.ok.injEq]
  | case5 s fault hRead =>
      rw [standsFor_text_iff, ← Text.readInt64_eq_ok_iff, hRead]
      simp
  | case6 other hInteger _ hText =>
      simp only [reduceCtorEq, false_iff]
      rintro ⟨⟨⟩ | -, -⟩
      · exact hInteger _ rfl
      · exact hText _ rfl

/-- What is refused is refused for its type or its size. -/
theorem failsOnly_ofJson (v : Json) : FailsOnly DecodeError.IsMismatch (ofJson v) := by
  fun_cases ofJson v with
  | case1 n | case4 _ n => exact .ok n
  | _ => exact .error rfl

/-- The signed counter that a value is read as. -/
def signedOf (v : Json) : Except DecodeError Int64 := do
  return Int64.ofInt (← ofJson v)

/-- The unsigned counter that a value is read as. -/
def unsignedOf (v : Json) : Except DecodeError UInt64 := do
  let n ← ofJson v
  if 0 ≤ n then return UInt64.ofNat n.toNat else throw (.integerText .tooSmall)

theorem signed_eq : signed depth node = Node.value depth node >>= signedOf := rfl

theorem unsigned_eq : unsigned depth node = Node.value depth node >>= unsignedOf := rfl

/-- A value is read as a word with a sign if it stands for the number of that word. -/
theorem signedOf_eq_ok_iff {n : Int64} : signedOf v = .ok n ↔ StandsFor v n.toInt := by
  simp only [signedOf, bind_eq_ok, pure_eq_ok, ofJson_eq_ok_iff]
  constructor
  · rintro ⟨m, ⟨hStands, hLow, hHigh⟩, rfl⟩
    rwa [Int64.toInt_ofInt_of_le hLow hHigh]
  · intro hStands
    exact ⟨n.toInt, ⟨hStands, n.le_toInt, n.toInt_lt⟩, n.ofInt_toInt⟩

/-- A number that 64 bits hold with a sign, and that is not negative, is kept without one. -/
theorem toNat_ofNat_toNat (hNonneg : 0 ≤ n) (hHigh : n < 2 ^ 63) : ((UInt64.ofNat n.toNat).toNat : Int) = n := by
  rw [UInt64.toNat_ofNat_of_lt' (by rw [UInt64.size]; omega), Int.toNat_of_nonneg hNonneg]

/-- A value is read as a word without a sign if it stands for its number, which takes no more than 63
bits. -/
theorem unsignedOf_eq_ok_iff {n : UInt64} :
    unsignedOf v = .ok n ↔ StandsFor v n.toNat ∧ n.toNat < 2 ^ 63 := by
  simp only [unsignedOf, bind_eq_ok, ofJson_eq_ok_iff]
  constructor
  · rintro ⟨m, ⟨hStands, -, hHigh⟩, hRead⟩
    split at hRead
    · next hNonneg =>
        obtain rfl := pure_eq_ok.mp hRead
        have hSame := toNat_ofNat_toNat hNonneg hHigh
        exact ⟨by rwa [hSame], by omega⟩
    · cases hRead
  · rintro ⟨hStands, hHigh⟩
    refine ⟨n.toNat, ⟨hStands, by omega, by omega⟩, ?_⟩
    rw [if_pos (Int.natCast_nonneg _), Int.toNat_natCast, UInt64.ofNat_toNat]
    rfl

/-- A value that is not read as a word with a sign does not match; there is no other fault. -/
theorem failsOnly_signedOf (v : Json) : FailsOnly DecodeError.IsMismatch (signedOf v) :=
  (failsOnly_ofJson v).bind fun _ => .ok _

theorem failsOnly_unsignedOf (v : Json) : FailsOnly DecodeError.IsMismatch (unsignedOf v) := by
  refine (failsOnly_ofJson v).bind fun n => ?_
  split
  · exact .ok _
  · exact .error rfl

/-- The decoder of words with a sign, in terms of the value that it finds. -/
theorem signed_eq_ok_iff {n : Int64} :
    signed depth node = .ok n ↔ ∃ v, Node.value depth node = .ok v ∧ StandsFor v n.toInt := by
  simp only [signed_eq, bind_eq_ok, signedOf_eq_ok_iff]

theorem unsigned_eq_ok_iff {n : UInt64} :
    unsigned depth node = .ok n ↔
      ∃ v, Node.value depth node = .ok v ∧ StandsFor v n.toNat ∧ n.toNat < 2 ^ 63 := by
  simp only [unsigned_eq, bind_eq_ok, unsignedOf_eq_ok_iff]

/-- Each number within the limits of a word with a sign is read. -/
theorem exists_signedOf_iff :
    (∃ n, signedOf v = .ok n) ↔ ∃ n, StandsFor v n ∧ -2 ^ 63 ≤ n ∧ n < 2 ^ 63 := by
  simp only [signedOf_eq_ok_iff]
  constructor
  · rintro ⟨n, hStands⟩
    exact ⟨n.toInt, hStands, n.le_toInt, n.toInt_lt⟩
  · rintro ⟨n, hStands, hLow, hHigh⟩
    exact ⟨Int64.ofInt n, by rwa [Int64.toInt_ofInt_of_le hLow hHigh]⟩

/-- Each number from zero on that is within the limits of a word with a sign is read. -/
theorem exists_unsignedOf_iff :
    (∃ n, unsignedOf v = .ok n) ↔ ∃ n, StandsFor v n ∧ 0 ≤ n ∧ n < 2 ^ 63 := by
  simp only [unsignedOf_eq_ok_iff]
  constructor
  · rintro ⟨n, hStands, hHigh⟩
    exact ⟨n.toNat, hStands, by omega, by omega⟩
  · rintro ⟨n, hStands, hNonneg, hHigh⟩
    have hSame := toNat_ofNat_toNat hNonneg hHigh
    exact ⟨UInt64.ofNat n.toNat, by rwa [hSame], by omega⟩

/-- Where a value is found that stands for no word with a sign, the decoder says that it does not match.
-/
theorem signed_mismatch_iff :
    (∃ e, signed depth node = .error e ∧ e.IsMismatch) ↔
      ∃ v, Node.value depth node = .ok v ∧ ¬∃ n, StandsFor v n ∧ -2 ^ 63 ≤ n ∧ n < 2 ^ 63 := by
  simp only [signed_eq, Node.mismatch_iff failsOnly_signedOf, exists_signedOf_iff]

/-- Where a value is found that stands for no number from zero to the limit, the decoder says that it
does not match. -/
theorem unsigned_mismatch_iff :
    (∃ e, unsigned depth node = .error e ∧ e.IsMismatch) ↔
      ∃ v, Node.value depth node = .ok v ∧ ¬∃ n, StandsFor v n ∧ 0 ≤ n ∧ n < 2 ^ 63 := by
  simp only [unsigned_eq, Node.mismatch_iff failsOnly_unsignedOf, exists_unsignedOf_iff]

/-- The numeral of a number that fits is read as what stands for that number, and for no other. -/
theorem value_number_iff {m : Int} (hLow : -2 ^ 63 ≤ m) (hHigh : m < 2 ^ 63) :
    (∃ v, Node.value depth (Json.number (.integer n)).node = .ok v ∧ StandsFor v m) ↔ m = n := by
  have hNode : Node.value depth (Json.number (.integer n)).node =
      (Json.orFault (Numeral.ofInt n).value).map .number := rfl
  rw [hNode]
  constructor
  · rintro ⟨v, hRead, hStands⟩
    obtain ⟨number, hNumber, rfl⟩ := map_eq_ok.mp hRead
    cases hStands
    exact Numeral.eq_of_value_ofInt (Json.orFault_eq_ok.mp hNumber)
  · rintro rfl
    have hFits : Word.fits Json.wholeLimits m = true := by
      have hLimits : Json.wholeLimits = (-2 ^ 63, 2 ^ 64 - 1) := rfl
      rw [Word.fits_iff, hLimits]
      omega
    rw [Numeral.value_ofInt hFits]
    exact ⟨_, rfl, .number m⟩

/-- Digits in quotes are read as what stands for their number, and for no other, whatever its size. -/
theorem value_text_iff {m : Int} :
    (∃ v, Node.value depth (Json.text (toString n)).node = .ok v ∧ StandsFor v m) ↔ m = n := by
  have hNode : Node.value depth (Json.text (toString n)).node = .ok (.text (toString n)) := rfl
  simp only [hNode, Except.ok.injEq, exists_eq_left', standsFor_toString_iff]

theorem render_integer : (Json.number (.integer n)).render = toString n :=
  Json.ofList_integerChars n

theorem render_digits : (Json.text (toString n)).render = "\"" ++ toString n ++ "\"" := by
  have hChars : (toString n).toList = Json.integerChars n := by
    rw [← Json.ofList_integerChars, String.toList_ofList]
  rw [← String.toList_inj, Json.render, String.toList_ofList, Json.chars, Json.quoted, hChars,
    Json.flatMap_escapeChar_integerChars, String.toList_append, String.toList_append, hChars]
  rfl

/-- A document of the number alone, and one of its digits in quotes. -/
theorem runText_toString_iff {α : Type} (decoder : Decoder α) (n : Int) (a : α) :
    (decoder.runText (toString n) = .ok a ↔ decoder 127 (Json.number (.integer n)).node = .ok a) ∧
      (decoder.runText ("\"" ++ toString n ++ "\"") = .ok a ↔
        decoder 127 (Json.text (toString n)).node = .ok a) := by
  have hRender {written : Json} (hWhole : written.isWhole = true) :
      decoder.runText written.render = .ok a ↔ decoder 127 written.node = .ok a := by
    rw [Decoder.runText_eq_ok_iff, Json.Document.ofText_render hWhole]
    simp
  rw [← render_digits, ← render_integer]
  exact ⟨hRender rfl, hRender rfl⟩

/-- The numeral `-0`. -/
def minusZero : Numeral := { Numeral.ofInt 0 with negative := true }

/-- A zero with a minus sign is read as a number that is not whole. -/
theorem value_minusZero : Node.value depth (.number minusZero) = .ok (.number (.float true .zero)) := by
  have hWhole : minusZero.value = minusZero.magnitude.map (.float true) := rfl
  have hMagnitude : minusZero.magnitude = .ok .zero := rfl
  rw [Node.value, hWhole, hMagnitude]
  rfl

/-- A counter is decoded from a value exactly if the value stands for it, as a number or as a text, and 64 bits
hold it with a sign; one that may not be negative is decoded from the same values, but for the negative
numbers. Every other value is a mismatch, a zero with a minus sign among them. So a number and its digits in
quotes are decoded as the same counter, or are both refused. -/
theorem decodes_both_shapes (depth : Nat) (node : Node) :
    (∀ n : Int64, signed depth node = .ok n ↔ ∃ v, Node.value depth node = .ok v ∧ StandsFor v n.toInt) ∧
    (∀ n : UInt64, unsigned depth node = .ok n ↔
      ∃ v, Node.value depth node = .ok v ∧ StandsFor v n.toNat ∧ n.toNat < 2 ^ 63) ∧
    ((∃ e, signed depth node = .error e ∧ e.IsMismatch) ↔
      ∃ v, Node.value depth node = .ok v ∧ ¬∃ n, StandsFor v n ∧ -2 ^ 63 ≤ n ∧ n < 2 ^ 63) ∧
    ((∃ e, unsigned depth node = .error e ∧ e.IsMismatch) ↔
      ∃ v, Node.value depth node = .ok v ∧ ¬∃ n, StandsFor v n ∧ 0 ≤ n ∧ n < 2 ^ 63) ∧
    ((∃ e, signed depth (.number minusZero) = .error e ∧ e.IsMismatch) ∧
      ∃ e, unsigned depth (.number minusZero) = .error e ∧ e.IsMismatch) ∧
    (∀ (n : Int) (m : Int64),
      (signed.runText (toString n) = .ok m ↔ m.toInt = n) ∧
      (signed.runText ("\"" ++ toString n ++ "\"") = .ok m ↔ m.toInt = n)) ∧
    (∀ (n : Int) (m : UInt64),
      (unsigned.runText (toString n) = .ok m ↔ m.toNat = n ∧ m.toNat < 2 ^ 63) ∧
      (unsigned.runText ("\"" ++ toString n ++ "\"") = .ok m ↔ m.toNat = n ∧ m.toNat < 2 ^ 63)) := by
  refine ⟨fun n => signed_eq_ok_iff, fun n => unsigned_eq_ok_iff, signed_mismatch_iff, unsigned_mismatch_iff,
    ?minusZero, fun n m => ?signed, fun n m => ?unsigned⟩
  case minusZero =>
    have hNone (n : Int) : ¬StandsFor (.number (.float true .zero)) n := nofun
    constructor
    · exact signed_mismatch_iff.mpr ⟨_, value_minusZero, fun ⟨n, hStands, _⟩ => hNone n hStands⟩
    · exact unsigned_mismatch_iff.mpr ⟨_, value_minusZero, fun ⟨n, hStands, _⟩ => hNone n hStands⟩
  case signed =>
    obtain ⟨hNumber, hDigits⟩ := runText_toString_iff signed n m
    rw [hNumber, hDigits, signed_eq_ok_iff, signed_eq_ok_iff, value_number_iff m.le_toInt m.toInt_lt,
      value_text_iff]
    exact ⟨.rfl, .rfl⟩
  case unsigned =>
    obtain ⟨hNumber, hDigits⟩ := runText_toString_iff unsigned n m
    rw [hNumber, hDigits, unsigned_eq_ok_iff, unsigned_eq_ok_iff]
    -- The numeral of a number beyond 64 bits is not read as that number, so the limit is split off first.
    simp only [← and_assoc, exists_and_right]
    constructor
    · exact and_congr_left fun hHigh => value_number_iff (by omega) (by omega)
    · exact and_congr_left fun _ => value_text_iff

end

end Counter

end Scrobbler
