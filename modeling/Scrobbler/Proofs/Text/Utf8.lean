import Mathlib.Tactic.Common
import Scrobbler.Power
import Scrobbler.Text.Utf8

/-!
A text that has become bytes is read as that text, and no other bytes are. The bytes of a character are the
form that its number asks for, and each form is read back as one symbol, whatever follows it; and what is
read as a character is the form of that character.
-/

namespace Scrobbler.Text.Utf8

theorem toNat_ofNat_add {x base : Nat} (h : x + base < 256) : (UInt8.ofNat (x + base)).toNat = x + base := by
  rw [UInt8.toNat_ofNat', Nat.mod_eq_of_lt h]

/-- The number that follows the mark of a form is what a mask of its bits leaves. -/
theorem bits_ofNat_add {x base : Nat} (width : Nat) {mask : UInt8} (h : x + base < 256)
    (hMask : mask.toNat = twoTo width - 1) (hNumber : x < twoTo width) (hBase : base % twoTo width = 0) :
    bits (UInt8.ofNat (x + base)) mask = x := by
  have hAnd : ∀ n, n &&& (twoTo width - 1) = n % twoTo width :=
    fun n => Nat.and_two_pow_sub_one_eq_mod n width
  rw [bits, UInt8.toNat_and, toNat_ofNat_add h, hMask, hAnd, Nat.add_mod, hBase, Nat.add_zero, Nat.mod_mod,
    Nat.mod_eq_of_lt hNumber]

section

variable {x y z w : Nat} {rest : List UInt8}

theorem bits_tail (hy : y < 64) : bits (UInt8.ofNat (y + 128)) 0x3F = y :=
  bits_ofNat_add 6 (by omega) rfl hy rfl

theorem isTail_ofNat (hy : y < 64) : isTail (UInt8.ofNat (y + 128)) = true := by
  simp only [isTail, Bool.and_eq_true, decide_eq_true_eq, UInt8.le_iff_toNat_le,
    toNat_ofNat_add (show y + 128 < 256 by omega)]
  exact ⟨by simp, by simp; omega⟩

/-- Only four lead bytes allow less than every second byte. -/
theorem isSecond_ofNat {lead : Nat} (hLead : lead < 256) (hy : y < 64) (hThree : lead = 0xE0 → 32 ≤ y)
    (hSurrogate : lead = 0xED → y < 32) (hFour : lead = 0xF0 → 16 ≤ y) (hLast : lead = 0xF4 → y < 16) :
    isSecond (UInt8.ofNat lead) (UInt8.ofNat (y + 128)) = true := by
  have hEq : ∀ other : UInt8, (UInt8.ofNat lead == other) = decide (lead = other.toNat) := by
    intro other
    rw [beq_eq_decide, decide_eq_decide, ← UInt8.toNat_inj, UInt8.toNat_ofNat', Nat.mod_eq_of_lt hLead]
  simp only [isSecond, secondRange, hEq, Bool.and_eq_true, decide_eq_true_eq, UInt8.le_iff_toNat_le,
    toNat_ofNat_add (show y + 128 < 256 by omega)]
  split_ifs <;> simp at * <;> omega

theorem first_one (hx : x < 128) : first (UInt8.ofNat x) rest = (some (Char.ofNat x), rest) := by
  have hNat : (UInt8.ofNat x).toNat = x := by
    rw [UInt8.toNat_ofNat', Nat.mod_eq_of_lt (by omega)]
  have hLess : UInt8.ofNat x < 0x80 := by
    rw [UInt8.lt_iff_toNat_lt, hNat]
    exact hx
  rw [first.eq_def, if_pos hLess, hNat]

/-- Two bytes are a character if one byte would not do. -/
theorem first_two (hLow : 2 ≤ x) (hx : x < 32) (hy : y < 64) :
    first (UInt8.ofNat (x + 192)) (UInt8.ofNat (y + 128) :: rest) =
      (some (Char.ofNat (x * 64 + y)), rest) := by
  have hNat : (UInt8.ofNat (x + 192)).toNat = x + 192 := toNat_ofNat_add (by omega)
  have hBits : bits (UInt8.ofNat (x + 192)) 0x1F = x := bits_ofNat_add 5 (by omega) rfl hx rfl
  simp only [first, UInt8.lt_iff_toNat_lt, UInt8.le_iff_toNat_le, hNat, isTail_ofNat hy, bits_tail hy, hBits]
  rw [if_neg (by simp), if_pos (by simp; omega), if_pos trivial]

/-- Three bytes are a character if two would not do and it is no surrogate. -/
theorem first_three (hx : x < 16) (hy : y < 64) (hz : z < 64) (hShort : x = 0 → 32 ≤ y)
    (hSurrogate : x = 13 → y < 32) :
    first (UInt8.ofNat (x + 224)) (UInt8.ofNat (y + 128) :: UInt8.ofNat (z + 128) :: rest) =
      (some (Char.ofNat ((x * 64 + y) * 64 + z)), rest) := by
  have hNat : (UInt8.ofNat (x + 224)).toNat = x + 224 := toNat_ofNat_add (by omega)
  have hBits : bits (UInt8.ofNat (x + 224)) 0x0F = x := bits_ofNat_add 4 (by omega) rfl hx rfl
  have hSecond : isSecond (UInt8.ofNat (x + 224)) (UInt8.ofNat (y + 128)) = true :=
    isSecond_ofNat (by omega) hy (by omega) (by omega) (by omega) (by omega)
  simp only [first, UInt8.lt_iff_toNat_lt, UInt8.le_iff_toNat_le, hNat, hSecond, isTail_ofNat hz, bits_tail hy,
    bits_tail hz, hBits]
  rw [if_neg (by simp), if_neg (by simp), if_pos (by simp; omega), if_pos trivial, if_pos trivial]

/-- Four bytes are a character if three would not do and it is not above the last one. -/
theorem first_four (hx : x < 5) (hy : y < 64) (hz : z < 64) (hw : w < 64) (hShort : x = 0 → 16 ≤ y)
    (hLast : x = 4 → y < 16) :
    first (UInt8.ofNat (x + 240))
        (UInt8.ofNat (y + 128) :: UInt8.ofNat (z + 128) :: UInt8.ofNat (w + 128) :: rest) =
      (some (Char.ofNat (((x * 64 + y) * 64 + z) * 64 + w)), rest) := by
  have hNat : (UInt8.ofNat (x + 240)).toNat = x + 240 := toNat_ofNat_add (by omega)
  have hBits : bits (UInt8.ofNat (x + 240)) 0x07 = x :=
    bits_ofNat_add 3 (by omega) rfl (Nat.lt_trans hx (by decide)) rfl
  have hSecond : isSecond (UInt8.ofNat (x + 240)) (UInt8.ofNat (y + 128)) = true :=
    isSecond_ofNat (by omega) hy (by omega) (by omega) (by omega) (by omega)
  simp only [first, UInt8.lt_iff_toNat_lt, UInt8.le_iff_toNat_le, hNat, hSecond, isTail_ofNat hz,
    isTail_ofNat hw, bits_tail hy, bits_tail hz, bits_tail hw, hBits]
  rw [if_neg (by simp), if_neg (by simp), if_neg (by simp), if_pos (by simp; omega), if_pos trivial,
    if_pos trivial, if_pos trivial]

end

/-- The bytes of a character are read as that character. -/
theorem exists_first_utf8EncodeChar (c : Char) (rest : List UInt8) :
    ∃ a tail, String.utf8EncodeChar c ++ rest = a :: tail ∧ first a tail = (some c, rest) := by
  have hValid : c.toNat < 0xD800 ∨ 0xDFFF < c.toNat ∧ c.toNat < 0x110000 := c.valid
  have hChar := c.ofNat_toNat
  generalize hNumber : c.toNat = v at hValid hChar
  have hVal : c.val.toNat = v := hNumber
  unfold String.utf8EncodeChar
  simp only [hVal]
  -- The form is as long as the number asks for, and no shorter one would do; so none is overlong.
  split_ifs with hOne hTwo hThree
  · refine ⟨_, rest, rfl, ?_⟩
    rw [first_one (by omega), hChar]
  · refine ⟨_, _ :: rest, rfl, ?_⟩
    have hSum : v / 64 % 32 * 64 + v % 64 = v := by omega
    rw [first_two (by omega) (by omega) (by omega), hSum, hChar]
  · refine ⟨_, _ :: _ :: rest, rfl, ?_⟩
    have hSum : (v / 4096 % 16 * 64 + v / 64 % 64) * 64 + v % 64 = v := by omega
    rw [first_three (by omega) (by omega) (by omega) (by omega) (by omega), hSum, hChar]
  · refine ⟨_, _ :: _ :: _ :: rest, rfl, ?_⟩
    have hSum : ((v / 262144 % 8 * 64 + v / 4096 % 64) * 64 + v / 64 % 64) * 64 + v % 64 = v := by omega
    rw [first_four (by omega) (by omega) (by omega) (by omega) (by omega) (by omega), hSum, hChar]

/-- The bytes from a place on are put behind those before it, which are kept in reverse. -/
theorem toList_loop_eq (bytes : ByteArray) (i : Nat) (before : List UInt8) :
    ByteArray.toList.loop bytes i before = before.reverse ++ bytes.data.toList.drop i := by
  fun_induction ByteArray.toList.loop bytes i before with
  | case1 i before hMore ih =>
      have hIndex : i < bytes.data.toList.length := hMore
      have hByte : bytes.get! i = bytes.data.toList[i] := by
        rw [ByteArray.get!, Array.getElem_toList]
        exact getElem!_pos bytes.data i hIndex
      rw [ih, List.drop_eq_getElem_cons hIndex, hByte,
        List.reverse_cons, List.append_assoc, List.singleton_append]
  | case2 i before hEnd =>
      have hDrop : bytes.data.toList.drop i = [] := List.drop_eq_nil_of_le (Nat.le_of_not_lt hEnd)
      rw [hDrop, List.append_nil]

theorem encode_ofList (cs : List Char) : encode (String.ofList cs) = cs.flatMap String.utf8EncodeChar := by
  rw [encode, String.toUTF8, String.toByteArray_ofList, List.utf8Encode, ByteArray.toList, toList_loop_eq,
    List.reverse_nil, List.nil_append, List.drop_zero, List.toList_data_toByteArray]

/-- Encoded characters are decoded one by one. -/
theorem decode_flatMap_utf8EncodeChar (cs : List Char) :
    decode (cs.flatMap String.utf8EncodeChar) = cs.map some := by
  induction cs with
  | nil =>
      rw [List.flatMap_nil, decode, parts]
      rfl
  | cons c cs ih =>
      obtain ⟨a, tail, hBytes, hFirst⟩ := exists_first_utf8EncodeChar c (cs.flatMap String.utf8EncodeChar)
      rw [List.flatMap_cons, hBytes, decode, parts, hFirst, List.flatMap_cons]
      exact congrArg (some c :: ·) ih

/-- Bytes of a text are shown as that text. -/
theorem lossy_encode (s : String) : lossy (encode s) = s := by
  have hParts : ∀ cs : List Char,
      (parts (cs.flatMap String.utf8EncodeChar)).map (fun part => part.1.getD (Char.ofNat 0xFFFD)) = cs := by
    intro cs
    induction cs with
    | nil =>
        rw [List.flatMap_nil, parts]
        rfl
    | cons c cs ih =>
        obtain ⟨a, tail, hBytes, hFirst⟩ := exists_first_utf8EncodeChar c (cs.flatMap String.utf8EncodeChar)
        rw [List.flatMap_cons, hBytes, parts, hFirst, List.map_cons, ih]
        rfl
  obtain ⟨cs, rfl⟩ : ∃ cs, s = String.ofList cs := ⟨s.toList, s.ofList_toList.symm⟩
  rw [encode_ofList, lossy, hParts]

/-- The bytes of a text are decoded as its characters. -/
theorem decode_encode (s : String) : decode (encode s) = symbols s := by
  obtain ⟨cs, rfl⟩ : ∃ cs, s = String.ofList cs := ⟨s.toList, s.ofList_toList.symm⟩
  rw [encode_ofList, decode_flatMap_utf8EncodeChar, symbols, String.toList_ofList]

/-- A text comes back from its bytes. -/
theorem text?_encode (s : String) : text? (encode s) = some s := by
  have hAll : ∀ cs : List Char, (cs.map some).mapM id = some cs := by
    intro cs
    induction cs with
    | nil => rfl
    | cons c cs ih => simp [ih]
  rw [text?, decode_encode, symbols, hAll, Option.map_some, String.ofList_toList]

/-- A mask of the low bits leaves the remainder. -/
theorem bits_eq_mod {b mask : UInt8} (width : Nat) (hMask : mask.toNat = twoTo width - 1) :
    bits b mask = b.toNat % twoTo width := by
  rw [bits, UInt8.toNat_and, hMask]
  exact Nat.and_two_pow_sub_one_eq_mod b.toNat width

theorem bits_tail_eq {b : UInt8} : bits b 0x3F = b.toNat % 64 := bits_eq_mod 6 rfl

/-- The bytes behind the first lie between 128 and 191. -/
theorem isTail_iff {b : UInt8} : isTail b = true ↔ 128 ≤ b.toNat ∧ b.toNat ≤ 191 := by
  simp only [isTail, Bool.and_eq_true, decide_eq_true_eq, UInt8.le_iff_toNat_le]
  exact Iff.rfl

/-- A second byte is one inside a form, and four lead bytes keep some of these out. -/
theorem bounds_of_isSecond {lead b : UInt8} (h : isSecond lead b = true) :
    128 ≤ b.toNat ∧ b.toNat ≤ 191 ∧ (lead.toNat = 0xE0 → 160 ≤ b.toNat) ∧
      (lead.toNat = 0xED → b.toNat ≤ 159) ∧ (lead.toNat = 0xF0 → 144 ≤ b.toNat) ∧
      (lead.toNat = 0xF4 → b.toNat ≤ 143) := by
  have hEq : ∀ other : UInt8, (lead == other) = decide (lead.toNat = other.toNat) := by
    intro other
    rw [beq_eq_decide, decide_eq_decide, UInt8.toNat_inj]
  simp only [isSecond, secondRange, hEq, Bool.and_eq_true, decide_eq_true_eq, UInt8.le_iff_toNat_le] at h
  split_ifs at h <;> simp at * <;> omega

theorem ofNat_eq_of_toNat {n : Nat} {b : UInt8} (h : n = b.toNat) : UInt8.ofNat n = b := by
  rw [h, UInt8.ofNat_toNat]

section

variable {a b d e : UInt8} {v : Nat}

/-- The number of a character that is made of a number. -/
theorem toNat_val_ofNat (hValid : v < 0xD800 ∨ 0xDFFF < v ∧ v < 0x110000) :
    (Char.ofNat v).val.toNat = v := by
  rw [Char.ofNat, dif_pos hValid]
  rfl

theorem utf8EncodeChar_one (ha : a.toNat < 128) : String.utf8EncodeChar (Char.ofNat a.toNat) = [a] := by
  have hVal := toNat_val_ofNat (v := a.toNat) (.inl (by omega))
  unfold String.utf8EncodeChar
  simp only [hVal]
  rw [if_pos (by omega), UInt8.ofNat_toNat]

theorem utf8EncodeChar_two (hLow : 194 ≤ a.toNat) (hHigh : a.toNat ≤ 223) (hb : isTail b = true) :
    String.utf8EncodeChar (Char.ofNat (bits a 0x1F * 64 + bits b 0x3F)) = [a, b] := by
  obtain ⟨hTailLow, hTailHigh⟩ := isTail_iff.mp hb
  have hSum : bits a 0x1F * 64 + bits b 0x3F = (a.toNat - 192) * 64 + (b.toNat - 128) := by
    have hMod : bits a 0x1F = a.toNat % 32 := bits_eq_mod 5 rfl
    rw [hMod, bits_tail_eq]
    omega
  have hVal := toNat_val_ofNat (v := (a.toNat - 192) * 64 + (b.toNat - 128)) (.inl (by omega))
  unfold String.utf8EncodeChar
  simp only [hSum, hVal]
  rw [if_neg (by omega), if_pos (by omega), ofNat_eq_of_toNat (b := a) (by omega),
    ofNat_eq_of_toNat (b := b) (by omega)]

theorem utf8EncodeChar_three (hLow : 224 ≤ a.toNat) (hHigh : a.toNat ≤ 239)
    (hb : isSecond a b = true) (hd : isTail d = true) :
    String.utf8EncodeChar (Char.ofNat ((bits a 0x0F * 64 + bits b 0x3F) * 64 + bits d 0x3F)) =
      [a, b, d] := by
  obtain ⟨hSecondLow, hSecondHigh, hShort, hSurrogate, -, -⟩ := bounds_of_isSecond hb
  obtain ⟨hTailLow, hTailHigh⟩ := isTail_iff.mp hd
  have hSum : (bits a 0x0F * 64 + bits b 0x3F) * 64 + bits d 0x3F =
      ((a.toNat - 224) * 64 + (b.toNat - 128)) * 64 + (d.toNat - 128) := by
    have hMod : bits a 0x0F = a.toNat % 16 := bits_eq_mod 4 rfl
    rw [hMod, bits_tail_eq, bits_tail_eq]
    omega
  have hVal := toNat_val_ofNat
    (v := ((a.toNat - 224) * 64 + (b.toNat - 128)) * 64 + (d.toNat - 128)) (by omega)
  unfold String.utf8EncodeChar
  simp only [hSum, hVal]
  rw [if_neg (by omega), if_neg (by omega), if_pos (by omega), ofNat_eq_of_toNat (b := a) (by omega),
    ofNat_eq_of_toNat (b := b) (by omega), ofNat_eq_of_toNat (b := d) (by omega)]

theorem utf8EncodeChar_four (hLow : 240 ≤ a.toNat) (hHigh : a.toNat ≤ 244)
    (hb : isSecond a b = true) (hd : isTail d = true) (he : isTail e = true) :
    String.utf8EncodeChar
        (Char.ofNat (((bits a 0x07 * 64 + bits b 0x3F) * 64 + bits d 0x3F) * 64 + bits e 0x3F)) =
      [a, b, d, e] := by
  obtain ⟨hSecondLow, hSecondHigh, -, -, hShort, hLast⟩ := bounds_of_isSecond hb
  obtain ⟨hThirdLow, hThirdHigh⟩ := isTail_iff.mp hd
  obtain ⟨hTailLow, hTailHigh⟩ := isTail_iff.mp he
  have hSum : ((bits a 0x07 * 64 + bits b 0x3F) * 64 + bits d 0x3F) * 64 + bits e 0x3F =
      (((a.toNat - 240) * 64 + (b.toNat - 128)) * 64 + (d.toNat - 128)) * 64 + (e.toNat - 128) := by
    have hMod : bits a 0x07 = a.toNat % 8 := bits_eq_mod 3 rfl
    rw [hMod, bits_tail_eq, bits_tail_eq, bits_tail_eq]
    omega
  have hVal := toNat_val_ofNat
    (v := (((a.toNat - 240) * 64 + (b.toNat - 128)) * 64 + (d.toNat - 128)) * 64 + (e.toNat - 128))
    (by omega)
  unfold String.utf8EncodeChar
  simp only [hSum, hVal]
  rw [if_neg (by omega), if_neg (by omega), if_neg (by omega), ofNat_eq_of_toNat (b := a) (by omega),
    ofNat_eq_of_toNat (b := b) (by omega), ofNat_eq_of_toNat (b := d) (by omega),
    ofNat_eq_of_toNat (b := e) (by omega)]

end

/-- A character is read from its own bytes, and from no others. -/
theorem eq_utf8EncodeChar_append_of_first {a : UInt8} {rest later : List UInt8} {c : Char}
    (h : first a rest = (some c, later)) : a :: rest = String.utf8EncodeChar c ++ later := by
  have hForm {n : Nat} {tail form : List UInt8} (hRead : (some (Char.ofNat n), tail) = (some c, later))
      (hBytes : String.utf8EncodeChar (Char.ofNat n) = form) :
      form ++ tail = String.utf8EncodeChar c ++ later := by
    obtain ⟨hChar, rfl⟩ := Prod.mk.inj hRead
    obtain rfl := Option.some.inj hChar
    rw [hBytes]
  have hLimits {low high : UInt8} (h : (decide (low ≤ a) && decide (a ≤ high)) = true) :
      low.toNat ≤ a.toNat ∧ a.toNat ≤ high.toNat := by
    simpa only [Bool.and_eq_true, decide_eq_true_eq, UInt8.le_iff_toNat_le] using h
  revert h
  -- Of the seventeen ways in which bytes can begin, four are a character.
  fun_cases first a rest <;> intro h
  case case1 hOne => exact hForm h (utf8EncodeChar_one hOne)
  case case2 hTwo b rest hTail =>
    obtain ⟨hLow, hHigh⟩ := hLimits hTwo
    exact hForm h (utf8EncodeChar_two hLow hHigh hTail)
  case case5 hThree b hSecond d rest hTail =>
    obtain ⟨hLow, hHigh⟩ := hLimits hThree
    exact hForm h (utf8EncodeChar_three hLow hHigh hSecond hTail)
  case case10 hFour b hSecond d hThird e rest hTail =>
    obtain ⟨hLow, hHigh⟩ := hLimits hFour
    exact hForm h (utf8EncodeChar_four hLow hHigh hSecond hThird hTail)
  all_goals cases h

/-- A text is read from its own bytes, and from no others. -/
theorem eq_flatMap_of_decode {bytes : List UInt8} {cs : List Char} (h : decode bytes = cs.map some) :
    bytes = cs.flatMap String.utf8EncodeChar := by
  induction bytes using parts.induct generalizing cs with
  | case1 =>
      have hNil : cs.map some = [] := by
        rw [← h, decode, parts]
        rfl
      rw [List.map_eq_nil_iff.mp hNil, List.flatMap_nil]
  | case2 a rest ih =>
      rw [decode, parts, List.flatMap_cons] at h
      cases hFirst : (first a rest).1 with
      | none =>
          have hPos : 0 < rest.length + 1 - (first a rest).2.length := by
            have := length_first_le a rest
            omega
          obtain ⟨count, hCount⟩ := Nat.exists_eq_add_one_of_ne_zero (Nat.ne_of_gt hPos)
          cases cs <;> simp [hFirst, hCount, List.replicate_succ] at h
      | some c =>
          cases cs with
          | nil => simp [hFirst] at h
          | cons c' cs =>
              simp only [hFirst, Option.elim_some, List.singleton_append, List.map_cons, List.cons.injEq,
                Option.some.injEq] at h
              obtain ⟨rfl, hRest⟩ := h
              rw [List.flatMap_cons, ← ih hRest]
              exact eq_utf8EncodeChar_append_of_first (Prod.ext hFirst rfl)

/-- Bytes are read as a text if they are the bytes of that text, and only then. -/
theorem text?_eq_some_iff {bytes : List UInt8} {s : String} :
    text? bytes = some s ↔ bytes = encode s := by
  constructor
  · intro h
    have hAll : ∀ (symbols : List Symbol) (cs : List Char), symbols.mapM id = some cs →
        symbols = cs.map some := by
      intro symbols
      induction symbols with
      | nil =>
          intro cs h
          obtain rfl : [] = cs := Option.some.inj h
          rfl
      | cons symbol rest ih =>
          intro cs h
          cases symbol with
          | none => simp at h
          | some c =>
              simp only [List.mapM_cons, id_eq, Option.bind_eq_bind, Option.bind_some,
                Option.bind_eq_some_iff] at h
              obtain ⟨others, hOthers, hEq⟩ := h
              obtain rfl : c :: others = cs := Option.some.inj hEq
              rw [ih others hOthers, List.map_cons]
    obtain ⟨cs, hSymbols, rfl⟩ := Option.map_eq_some_iff.mp h
    rw [encode_ofList]
    exact eq_flatMap_of_decode (hAll _ cs hSymbols)
  · rintro rfl
    exact text?_encode s

end Scrobbler.Text.Utf8
