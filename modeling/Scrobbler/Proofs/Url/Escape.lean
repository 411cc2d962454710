import Scrobbler.Proofs.Text.Utf8
import Scrobbler.Url.Encoding

/-!
Escapes in addresses. A text is decoded by reading its escapes, those that it had from the start and those
that were written for it. Writing escapes changes nothing of what is decoded, and reading them makes a
text shorter unless it has none.
-/

namespace Scrobbler.Url

open Text (hexDigit?)

/-- The bytes of characters. -/
def bytes (s : List Char) : List UInt8 := Text.Utf8.encode (String.ofList s)

/-- The bytes that a text stands for. -/
def decoded (s : List Char) : List UInt8 := unescape (bytes s)

/-- A percent sign and two digits of the base sixteen stand at the head of a text. -/
def startsEscape : List Char → Bool
  | '%' :: a :: b :: _ => (hexDigit? a).isSome && (hexDigit? b).isSome
  | _ => false

/-- A percent sign and two digits of the base sixteen stand somewhere in a text. -/
def hasEscape : List Char → Bool
  | [] => false
  | c :: rest => startsEscape (c :: rest) || hasEscape rest

/-- The bytes of a text are those of its characters. -/
theorem bytes_eq_flatMap (s : List Char) : bytes s = s.flatMap String.utf8EncodeChar :=
  Text.Utf8.encode_ofList s

@[simp] theorem bytes_nil : bytes [] = [] := by rw [bytes_eq_flatMap, List.flatMap_nil]

@[simp] theorem bytes_cons (c : Char) (s : List Char) :
    bytes (c :: s) = String.utf8EncodeChar c ++ bytes s := by
  rw [bytes_eq_flatMap, bytes_eq_flatMap, List.flatMap_cons]

@[simp] theorem bytes_append (s t : List Char) : bytes (s ++ t) = bytes s ++ bytes t := by
  rw [bytes_eq_flatMap, bytes_eq_flatMap, bytes_eq_flatMap, List.flatMap_append]

@[simp] theorem decoded_nil : decoded [] = [] := by rw [decoded, bytes_nil, unescape]

section

variable {c : Char} {a : UInt8} {l : List UInt8}

theorem utf8EncodeChar_of_ascii (h : c.toNat < 0x80) :
    String.utf8EncodeChar c = [UInt8.ofNat c.toNat] := by
  have hLess : c.val.toNat ≤ 0x7F := Nat.le_of_lt_succ h
  simp only [String.utf8EncodeChar, hLess, if_true]
  rfl

/-- No byte of a character outside of ASCII is one of ASCII. -/
theorem le_of_mem_utf8EncodeChar (h : 0x80 ≤ c.toNat) (hMem : a ∈ String.utf8EncodeChar c) :
    0x80 ≤ a.toNat := by
  have hMore : ¬c.val.toNat ≤ 0x7F := Nat.not_le_of_gt h
  have hLead {x base : Nat} (hSum : x + base < 256) (hBase : 0x80 ≤ base) :
      0x80 ≤ (UInt8.ofNat (x + base)).toNat := by
    rw [Text.Utf8.toNat_ofNat_add hSum]
    omega
  simp only [String.utf8EncodeChar, hMore, if_false] at hMem
  split_ifs at hMem <;> simp only [List.mem_cons, List.not_mem_nil, or_false] at hMem
  · rcases hMem with rfl | rfl <;> exact hLead (by omega) (by decide)
  · rcases hMem with rfl | rfl | rfl <;> exact hLead (by omega) (by decide)
  · rcases hMem with rfl | rfl | rfl | rfl <;> exact hLead (by omega) (by decide)

theorem hexDigit?_eq_none (h : c.toNat < '0'.toNat ∨ 'f'.toNat < c.toNat) : hexDigit? c = none := by
  have hLe (d e : Char) : d ≤ e ↔ d.toNat ≤ e.toNat := Iff.rfl
  simp only [hexDigit?, hLe]
  rw [if_neg, if_neg, if_neg] <;> simp at h ⊢ <;> omega

theorem toNat_lt_of_hexDigit? {n : Nat} (h : hexDigit? c = some n) : c.toNat < 0x80 := by
  by_contra hLarge
  rw [hexDigit?_eq_none (.inr (Nat.lt_of_lt_of_le (by decide) (Nat.le_of_not_lt hLarge)))] at h
  cases h

/-- The first byte of a character tells whether the character has a part in escapes. -/
theorem exists_head_utf8EncodeChar (c : Char) :
    ∃ a tail, String.utf8EncodeChar c = a :: tail ∧ hexDigit? (Char.ofNat a.toNat) = hexDigit? c := by
  by_cases hAscii : c.toNat < 0x80
  · refine ⟨_, [], utf8EncodeChar_of_ascii hAscii, ?_⟩
    rw [UInt8.toNat_ofNat', Nat.mod_eq_of_lt (by omega), Char.ofNat_toNat]
  · obtain ⟨a, tail, hBytes, -⟩ := Text.Utf8.exists_first_utf8EncodeChar c []
    rw [List.append_nil] at hBytes
    have hLarge : 0x80 ≤ a.toNat :=
      le_of_mem_utf8EncodeChar (Nat.le_of_not_lt hAscii) (hBytes ▸ List.mem_cons_self)
    have hNumber : (Char.ofNat a.toNat).toNat = a.toNat := by
      rw [Char.ofNat, dif_pos (.inl (Nat.lt_trans a.toNat_lt (by decide)))]
      rfl
    have hByte : hexDigit? (Char.ofNat a.toNat) = none := by
      refine hexDigit?_eq_none (.inr ?_)
      rw [hNumber]
      exact Nat.lt_of_lt_of_le (by decide) hLarge
    have hChar : hexDigit? c = none :=
      hexDigit?_eq_none (.inr (Nat.lt_of_lt_of_le (by decide) (Nat.le_of_not_lt hAscii)))
    exact ⟨a, tail, hBytes, hByte.trans hChar.symm⟩

theorem unescape_cons_of_ne (h : a ≠ 0x25) : unescape (a :: l) = a :: unescape l := by
  match l with
  | [] | [_] => simp [unescape]
  | b :: c :: l => simp [unescape, h]

/-- A percent sign without two digits behind it stands for itself. -/
theorem unescape_percent (h : ∀ x y rest, l = x :: y :: rest →
    hexDigit? (Char.ofNat x.toNat) = none ∨ hexDigit? (Char.ofNat y.toNat) = none) :
    unescape (0x25 :: l) = 0x25 :: unescape l := by
  match l with
  | [] | [_] => simp [unescape]
  | x :: y :: rest => rcases h x y rest rfl with hNone | hNone <;> simp [unescape, hNone]

theorem unescape_append_of_ne {front : List UInt8} (h : ∀ a ∈ front, a ≠ 0x25) :
    unescape (front ++ l) = front ++ unescape l := by
  induction front with
  | nil => rfl
  | cons a front ih =>
      rw [List.cons_append, unescape_cons_of_ne (h a List.mem_cons_self),
        ih fun b hb => h b (List.mem_cons_of_mem a hb), List.cons_append]

end

section

variable {c a b : Char} {s : List Char} {high low : Nat}

/-- A text is read from its head on: a character that is no percent sign stands for itself, and so does a
percent sign that starts no escape. -/
theorem reading_induction {motive : List Char → Prop} (nil : motive [])
    (plain : ∀ c s, c ≠ '%' → motive s → motive (c :: s))
    (percent : ∀ s, startsEscape ('%' :: s) = false → motive s → motive ('%' :: s))
    (escape : ∀ a b s high low, hexDigit? a = some high → hexDigit? b = some low → motive s →
      motive ('%' :: a :: b :: s)) (s : List Char) : motive s := by
  match s with
  | [] => exact nil
  | c :: rest =>
      have hRest := reading_induction nil plain percent escape rest
      by_cases hPercent : c = '%'
      · subst hPercent
        cases hStarts : startsEscape ('%' :: rest) with
        | false => exact percent rest hStarts hRest
        | true =>
            match rest with
            | a :: b :: more =>
                obtain ⟨hHigh, hLow⟩ : (hexDigit? a).isSome = true ∧ (hexDigit? b).isSome = true := by
                  simpa [startsEscape] using hStarts
                obtain ⟨high, hHigh⟩ := Option.isSome_iff_exists.mp hHigh
                obtain ⟨low, hLow⟩ := Option.isSome_iff_exists.mp hLow
                exact escape a b more high low hHigh hLow
                  (reading_induction nil plain percent escape more)
      · exact plain c rest hPercent hRest

/-- Only a percent sign begins an escape. -/
theorem decoded_cons_of_ne (h : c ≠ '%') : decoded (c :: s) = String.utf8EncodeChar c ++ decoded s := by
  rw [decoded, bytes_cons, unescape_append_of_ne, decoded]
  rintro _ hMem rfl
  by_cases hAscii : c.toNat < 0x80
  · rw [utf8EncodeChar_of_ascii hAscii, List.mem_singleton] at hMem
    have hNumber : c.toNat = 0x25 := by
      have hNat := congrArg UInt8.toNat hMem
      rw [UInt8.toNat_ofNat', Nat.mod_eq_of_lt (by omega)] at hNat
      exact hNat.symm
    exact h (Char.toNat_inj.mp hNumber)
  · exact absurd (le_of_mem_utf8EncodeChar (Nat.le_of_not_lt hAscii) hMem) (by decide)

/-- An escape is decoded as one byte. -/
theorem decoded_escape (ha : hexDigit? a = some high) (hb : hexDigit? b = some low) :
    decoded ('%' :: a :: b :: s) = UInt8.ofNat (high * 16 + low) :: decoded s := by
  have hSingle {d : Char} {n : Nat} (hd : hexDigit? d = some n) :
      ∃ x, String.utf8EncodeChar d = [x] ∧ hexDigit? (Char.ofNat x.toNat) = some n := by
    have hAscii := toNat_lt_of_hexDigit? hd
    obtain ⟨x, tail, hBytes, hDigit⟩ := exists_head_utf8EncodeChar d
    rw [utf8EncodeChar_of_ascii hAscii] at hBytes
    cases hBytes
    exact ⟨_, utf8EncodeChar_of_ascii hAscii, hDigit.trans hd⟩
  obtain ⟨x, hx, hHigh⟩ := hSingle ha
  obtain ⟨y, hy, hLow⟩ := hSingle hb
  have hPercent : String.utf8EncodeChar '%' = [0x25] := rfl
  rw [decoded, bytes_cons, bytes_cons, bytes_cons, hPercent, hx, hy]
  simp [unescape, hHigh, hLow, decoded]

/-- A percent sign that starts no escape stands for itself. -/
theorem decoded_percent (h : startsEscape ('%' :: s) = false) : decoded ('%' :: s) = 0x25 :: decoded s := by
  have hPercent : String.utf8EncodeChar '%' = [0x25] := rfl
  rw [decoded, bytes_cons, hPercent, List.singleton_append, decoded]
  refine unescape_percent fun x y rest hBytes => ?_
  cases s with
  | nil => simp at hBytes
  | cons a s =>
      obtain ⟨x', tail, hChar, hHigh⟩ := exists_head_utf8EncodeChar a
      rw [bytes_cons, hChar, List.cons_append] at hBytes
      obtain ⟨rfl, hRest⟩ := List.cons.inj hBytes
      rw [hHigh]
      cases ha : hexDigit? a with
      | none => exact .inl rfl
      | some high =>
          -- The first digit is one byte, so that the second byte is that of the next character.
          have hOne := (utf8EncodeChar_of_ascii (toNat_lt_of_hexDigit? ha)).symm.trans hChar
          obtain rfl : tail = [] := (List.cons.inj hOne).2.symm
          cases s with
          | nil => simp at hRest
          | cons b s =>
              obtain ⟨y', more, hNext, hLow⟩ := exists_head_utf8EncodeChar b
              rw [List.nil_append, bytes_cons, hNext, List.cons_append] at hRest
              obtain ⟨rfl, -⟩ := List.cons.inj hRest
              simp [startsEscape, ha] at h
              exact .inr (hLow.trans h)

theorem decoded_percent_append (x : UInt8) : decoded (percent x ++ s) = x :: decoded s := by
  have hDigit : ∀ n < 16, hexDigit? (upperHex n) = some n := by decide
  have hByte := x.toNat_lt
  rw [percent, List.cons_append, List.cons_append, List.cons_append, List.nil_append,
    decoded_escape (hDigit _ (by omega)) (hDigit _ (by omega)), Nat.div_add_mod', UInt8.ofNat_toNat]

theorem decoded_flatMap_percent_append (l : List UInt8) :
    decoded (l.flatMap percent ++ s) = l ++ decoded s := by
  induction l with
  | nil => rfl
  | cons x l ih => rw [List.flatMap_cons, List.append_assoc, decoded_percent_append, ih, List.cons_append]

theorem exists_flatMap_percent_eq (c : Char) : ∃ t, (String.utf8EncodeChar c).flatMap percent = '%' :: t := by
  obtain ⟨a, tail, hBytes, -⟩ := exists_head_utf8EncodeChar c
  rw [hBytes]
  exact ⟨_, rfl⟩

end

/-- A character that is escaped in a path has no part in escapes. -/
theorem escape_path_cons (c : Char) (s : List Char) :
    escape escapesInPath (c :: s) = c :: escape escapesInPath s ∨
      (c ≠ '%' ∧ hexDigit? c = none ∧
        escape escapesInPath (c :: s) =
          (String.utf8EncodeChar c).flatMap percent ++ escape escapesInPath s) := by
  have hBytes : Text.Utf8.encode (String.singleton c) = String.utf8EncodeChar c := by
    rw [String.singleton_eq_ofList, ← bytes, bytes_cons, bytes_nil, List.append_nil]
  simp only [escape, List.flatMap_cons, hBytes]
  split
  · next hEscaped =>
      refine .inr ⟨?_, ?_, rfl⟩
      · rintro rfl
        simp [escapesInPath] at hEscaped
      · simp only [Bool.or_eq_true, decide_eq_true_eq] at hEscaped
        rcases hEscaped with (hLow | hHigh) | hMark
        · exact hexDigit?_eq_none (.inl (by simp; omega))
        · exact hexDigit?_eq_none (.inr (by simp; omega))
        · simp only [escapesInPath, Bool.or_eq_true, beq_iff_eq] at hMark
          rcases hMark with (((((rfl | rfl) | rfl) | rfl) | rfl) | rfl) | rfl <;> decide
  · exact .inl rfl

theorem startsEscape_percent_cons {c : Char} {s : List Char} (h : hexDigit? c = none) :
    startsEscape ('%' :: c :: s) = false := by
  cases s <;> simp [startsEscape, h]

/-- Escaping makes no escape of a percent sign that was there. -/
theorem startsEscape_escape_path (s : List Char) :
    startsEscape ('%' :: escape escapesInPath s) = startsEscape ('%' :: s) := by
  have hPercent : hexDigit? '%' = none := rfl
  cases s with
  | nil => rfl
  | cons a s =>
      rcases escape_path_cons a s with hKept | ⟨-, hNone, hEscaped⟩
      · cases s with
        | nil => rw [hKept]; rfl
        | cons b s =>
            rcases escape_path_cons b s with hKept' | ⟨-, hNone, hEscaped⟩
            · rw [hKept, hKept']
              rfl
            · obtain ⟨t, hForm⟩ := exists_flatMap_percent_eq b
              rw [hKept, hEscaped, hForm]
              simp [startsEscape, hNone, hPercent]
      · obtain ⟨t, hForm⟩ := exists_flatMap_percent_eq a
        rw [hEscaped, hForm, List.cons_append, startsEscape_percent_cons hPercent,
          startsEscape_percent_cons hNone]

/-- Writing escapes in a path changes nothing of what is decoded. -/
theorem decoded_escape_path (s : List Char) : decoded (escape escapesInPath s) = decoded s := by
  induction s using reading_induction with
  | nil => rfl
  | plain c s hPlain ih =>
      rcases escape_path_cons c s with hKept | ⟨-, -, hEscaped⟩
      · rw [hKept, decoded_cons_of_ne hPlain, decoded_cons_of_ne hPlain, ih]
      · rw [hEscaped, decoded_flatMap_percent_append, decoded_cons_of_ne hPlain, ih]
  | percent s hStarts ih =>
      have hKept : escape escapesInPath ('%' :: s) = '%' :: escape escapesInPath s := rfl
      rw [hKept, decoded_percent ((startsEscape_escape_path s).trans hStarts), decoded_percent hStarts, ih]
  | escape a b s high low ha hb ih =>
      have hDigit {c : Char} {n : Nat} (hc : hexDigit? c = some n) (s : List Char) :
          escape escapesInPath (c :: s) = c :: escape escapesInPath s :=
        (escape_path_cons c s).resolve_right fun ⟨_, hNone, _⟩ => by simp [hc] at hNone
      have hKept : escape escapesInPath ('%' :: a :: b :: s) = '%' :: a :: b :: escape escapesInPath s := by
        rw [← hDigit hb, ← hDigit ha]
        rfl
      rw [hKept, decoded_escape ha hb, decoded_escape ha hb, ih]

/-- A text without escapes stands for itself. -/
theorem decoded_of_hasEscape_eq_false {s : List Char} (h : hasEscape s = false) : decoded s = bytes s := by
  induction s using reading_induction with
  | nil => rw [decoded_nil, bytes_nil]
  | plain c s hPlain ih =>
      rw [hasEscape, Bool.or_eq_false_iff] at h
      rw [decoded_cons_of_ne hPlain, ih h.2, bytes_cons]
  | percent s hStarts ih =>
      rw [hasEscape, Bool.or_eq_false_iff] at h
      rw [decoded_percent hStarts, ih h.2, bytes_cons]
      rfl
  | escape a b s high low ha hb ih => simp [hasEscape, startsEscape, ha, hb] at h

/-- Reading an escape loses bytes. -/
theorem length_decoded_lt {s : List Char} (h : hasEscape s = true) :
    (decoded s).length < (bytes s).length := by
  have hPercent : String.utf8EncodeChar '%' = [0x25] := rfl
  induction s using reading_induction with
  | nil => cases h
  | plain c s hPlain ih =>
      have hRest : hasEscape s = true := by simpa [hasEscape, startsEscape, hPlain] using h
      have hLess := ih hRest
      rw [decoded_cons_of_ne hPlain, bytes_cons, List.length_append, List.length_append]
      omega
  | percent s hStarts ih =>
      have hRest : hasEscape s = true := by simpa [hasEscape, hStarts] using h
      have hLess := ih hRest
      rw [decoded_percent hStarts, bytes_cons, hPercent, List.length_append, List.length_cons]
      simp
      omega
  | escape a b s high low ha hb ih =>
      have hLess : (decoded s).length ≤ (bytes s).length := by
        cases hRest : hasEscape s with
        | false => exact Nat.le_of_eq (congrArg List.length (decoded_of_hasEscape_eq_false hRest))
        | true => exact Nat.le_of_lt (ih hRest)
      obtain ⟨x, tail, hHead, -⟩ := exists_head_utf8EncodeChar a
      rw [decoded_escape ha hb, bytes_cons, bytes_cons, bytes_cons, hPercent, hHead]
      simp
      omega

theorem length_decoded_le (s : List Char) : (decoded s).length ≤ (bytes s).length := by
  cases h : hasEscape s with
  | false => exact Nat.le_of_eq (congrArg List.length (decoded_of_hasEscape_eq_false h))
  | true => exact Nat.le_of_lt (length_decoded_lt h)

theorem hasEscape_of_not_mem {s : List Char} (h : '%' ∉ s) : hasEscape s = false := by
  induction s with
  | nil => rfl
  | cons c s ih =>
      obtain ⟨hHere, hRest⟩ := not_or.mp (mt List.mem_cons.mpr h)
      simp [hasEscape, startsEscape, Ne.symm hHere, ih hRest]

theorem escape_eq_self {s : List Char} {escapes : Char → Bool}
    (h : ∀ c ∈ s, (c.toNat < 0x20 || 0x7F ≤ c.toNat || escapes c) = false) : escape escapes s = s := by
  induction s with
  | nil => rfl
  | cons c s ih =>
      have hRest := ih fun d hMem => h d (List.mem_cons_of_mem c hMem)
      have hHere := h c List.mem_cons_self
      rw [escape] at hRest
      simp only [escape, List.flatMap_cons, hHere, hRest]
      rfl

end Scrobbler.Url
