import Mathlib.Data.List.TakeWhile
import Scrobbler.Proofs.Url.Escape

/-!
Form text. Parameters that were appended to an empty query are read back from it: they are cut apart at the
ampersands, each of them at its first sign of equality, and a plus sign is read as a space before escapes
are read. Neither of the two marks is left in a written name or value.
-/

namespace Scrobbler.Url.Form

/-- A plus sign stands for a space. -/
def unplus (c : Char) : Char := if c = '+' then ' ' else c

/-- The text that a name or a value of form text stands for; bytes that are not UTF-8 are marked. -/
def decode (s : List Char) : String := Text.Utf8.lossy (decoded (s.map unplus))

/-- A pair of form text: the name stands before the first sign of equality, and the value after it. -/
def parsePair (s : List Char) : String × String :=
  (decode (s.takeWhile (· ≠ '=')), decode ((s.dropWhile (· ≠ '=')).drop 1))

/-- Reads form text. What is empty between two ampersands does not count. -/
def parse (query : List Char) : List (String × String) :=
  ((query.splitOn '&').filter (· ≠ [])).map parsePair

/-- The written form of a pair. -/
def pairChars (pair : String × String) : List Char := encode pair.1 ++ '=' :: encode pair.2

section

variable {b : UInt8} {c mark : Char} {s : List Char}

/-- A character with a byte for its number is one that the byte tells. -/
theorem eq_ofNat_of_ofNat_eq (h : Char.ofNat b.toNat = c) : b = UInt8.ofNat c.toNat := by
  have hNumber : (Char.ofNat b.toNat).toNat = b.toNat :=
    Text.Utf8.toNat_val_ofNat (.inl (Nat.lt_trans b.toNat_lt (by decide)))
  rw [← h, hNumber, UInt8.ofNat_toNat]

theorem ne_of_isPlain (h : isPlain b = true) (hMark : isPlain (UInt8.ofNat c.toNat) = false) :
    Char.ofNat b.toNat ≠ c := by
  intro hSame
  rw [eq_ofNat_of_ofNat_eq hSame, hMark] at h
  cases h

theorem toNat_lt_of_isPlain (h : isPlain b = true) : b.toNat < 128 := by
  simp only [isPlain, Bool.or_eq_true, Bool.and_eq_true, decide_eq_true_eq, beq_iff_eq, UInt8.le_iff_toNat_le,
    ← UInt8.toNat_inj] at h
  simp at h
  omega

theorem ne_of_mem_percent (hMark : mark ≠ '%' ∧ ∀ n < 16, upperHex n ≠ mark) (h : c ∈ percent b) :
    c ≠ mark := by
  have hByte : b.toNat < 256 := b.toNat_lt
  simp only [percent, List.mem_cons, List.not_mem_nil, or_false] at h
  rcases h with rfl | rfl | rfl
  · exact hMark.1.symm
  · exact hMark.2 _ (by omega)
  · exact hMark.2 _ (by omega)

/-- A mark between names and values is written in its percent form. -/
theorem ne_of_mem_encodeByte (hMark : mark = '&' ∨ mark = '=') (h : c ∈ encodeByte b) : c ≠ mark := by
  unfold encodeByte at h
  split at h
  · next hPlain =>
      rw [List.mem_singleton.mp h]
      rcases hMark with rfl | rfl <;> exact ne_of_isPlain hPlain (by decide)
  · split at h
    · rw [List.mem_singleton.mp h]
      rcases hMark with rfl | rfl <;> decide
    · rcases hMark with rfl | rfl <;> exact ne_of_mem_percent (by decide) h

/-- The marks between pairs and inside of them do not occur in an encoded text. -/
theorem not_mem_encode (hMark : mark = '&' ∨ mark = '=') (text : String) : mark ∉ encode text := by
  intro hMem
  obtain ⟨b, -, hByte⟩ := List.mem_flatMap.mp hMem
  exact ne_of_mem_encodeByte hMark hByte rfl

/-- A byte is read back. -/
theorem decoded_encodeByte_append (b : UInt8) (s : List Char) :
    decoded ((encodeByte b).map unplus ++ s) = b :: decoded s := by
  unfold encodeByte
  split
  · next hPlain =>
      have hPlus : Char.ofNat b.toNat ≠ '+' := ne_of_isPlain hPlain (by decide)
      have hPercent : Char.ofNat b.toNat ≠ '%' := ne_of_isPlain hPlain (by decide)
      have hKept : unplus (Char.ofNat b.toNat) = Char.ofNat b.toNat := if_neg hPlus
      rw [List.map_singleton, hKept, List.singleton_append, decoded_cons_of_ne hPercent,
        Text.Utf8.utf8EncodeChar_one (toNat_lt_of_isPlain hPlain), List.singleton_append]
  · split
    · next hSpace =>
        obtain rfl : b = 0x20 := eq_of_beq hSpace
        have hByte : String.utf8EncodeChar ' ' = [0x20] := rfl
        show decoded (' ' :: s) = _
        rw [decoded_cons_of_ne (by decide), hByte, List.singleton_append]
    · have hKept : (percent b).map unplus = percent b := by
        refine (List.map_congr_left fun c hMem => ?_).trans (List.map_id (percent b))
        exact if_neg (ne_of_mem_percent (by decide) hMem)
      rw [hKept, decoded_percent_append]

/-- A text is read back. -/
theorem decode_encode (text : String) : decode (encode text) = text := by
  have hBytes : ∀ l : List UInt8, decoded ((l.flatMap encodeByte).map unplus) = l := by
    intro l
    induction l with
    | nil => exact decoded_nil
    | cons b l ih => rw [List.flatMap_cons, List.map_append, decoded_encodeByte_append, ih]
  rw [decode, encode, hBytes, Text.Utf8.lossy_encode]

/-- A pair is read back, since it is cut at the mark between its name and its value. -/
theorem parsePair_pairChars (pair : String × String) : parsePair (pairChars pair) = pair := by
  have hName : ∀ c ∈ encode pair.1, decide (c ≠ '=') = true := by
    intro c hMem
    simpa using ne_of_mem_of_not_mem hMem (not_mem_encode (.inr rfl) pair.1)
  rw [parsePair, pairChars, List.takeWhile_append_of_pos hName, List.dropWhile_append_of_pos hName,
    List.takeWhile_cons_of_neg (by simp), List.dropWhile_cons_of_neg (by simp), List.append_nil,
    List.drop_one, List.tail_cons, decode_encode, decode_encode]

theorem pairChars_ne_nil (pair : String × String) : pairChars pair ≠ [] := by
  simp [pairChars]

theorem not_mem_pairChars (pair : String × String) : '&' ∉ pairChars pair := by
  simp [pairChars, not_mem_encode (.inl rfl)]

/-- A pair is appended behind a mark. -/
theorem append_of_ne_nil {query : List Char} (h : query ≠ []) (pairs : List (String × String)) :
    append query pairs = query ++ pairs.flatMap fun pair => '&' :: pairChars pair := by
  induction pairs generalizing query with
  | nil => simp [append]
  | cons pair pairs ih =>
      have hNext : append query (pair :: pairs) = append (query ++ '&' :: pairChars pair) pairs := by
        simp [append, pairChars, h]
      rw [hNext, ih (by simp), List.flatMap_cons, List.append_assoc]

theorem intercalate_cons (part : List Char) (parts : List (List Char)) :
    ['&'].intercalate (part :: parts) = part ++ parts.flatMap ('&' :: ·) := by
  induction parts generalizing part with
  | nil => simp
  | cons next parts ih => simp [List.intercalate_cons_cons, ih next]

/-- The query that parameters make up by themselves. -/
theorem append_nil (pairs : List (String × String)) :
    append [] pairs = ['&'].intercalate (pairs.map pairChars) := by
  cases pairs with
  | nil => rfl
  | cons pair pairs =>
      have hFirst : append [] (pair :: pairs) = append (pairChars pair) pairs := by
        simp [append, pairChars]
      rw [hFirst, append_of_ne_nil (pairChars_ne_nil pair), List.map_cons, intercalate_cons, List.flatMap_map]

/-- There is no query exactly if there are no pairs. -/
theorem append_nil_eq_nil_iff {pairs : List (String × String)} : append [] pairs = [] ↔ pairs = [] := by
  cases pairs with
  | nil => simp [append]
  | cons pair pairs => simp [append_nil, intercalate_cons, pairChars_ne_nil]

/-- Parameters are read back from the query that they make up. -/
theorem parse_append (pairs : List (String × String)) : parse (append [] pairs) = pairs := by
  have hParts : ((append [] pairs).splitOn '&').filter (· ≠ []) = pairs.map pairChars := by
    cases pairs with
    | nil => simp [append]
    | cons pair pairs =>
        rw [append_nil, List.splitOn_intercalate]
        · refine List.filter_eq_self.mpr fun part hMem => ?_
          obtain ⟨pair, -, rfl⟩ := List.mem_map.mp hMem
          simp [pairChars_ne_nil]
        · intro part hMem
          obtain ⟨pair, -, rfl⟩ := List.mem_map.mp hMem
          exact not_mem_pairChars pair
        · exact List.cons_ne_nil _ _
  rw [parse, hParts, List.map_map]
  exact (List.map_congr_left fun pair _ => parsePair_pairChars pair).trans (List.map_id pairs)

end

end Scrobbler.Url.Form
