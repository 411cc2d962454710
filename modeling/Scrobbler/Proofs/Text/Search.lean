import Mathlib.Data.List.Infix
import Mathlib.Data.List.TakeWhile
import Mathlib.Tactic.Common
import Scrobbler.Text.Blank
import Scrobbler.Text.Search

/-!
Texts inside others: where a part occurs, and what is left of a text without the blank characters around it.
-/

namespace Scrobbler.Text

/-- A part that is searched for is found if it stands somewhere in the text, and only then. -/
theorem occursIn_iff {part s : List Char} : occursIn part s = true ↔ part <:+: s := by
  induction s with
  | nil => simp [occursIn]
  | cons c rest ih =>
      rw [occursIn, Bool.or_eq_true, List.isPrefixOf_iff_prefix, ih, List.infix_cons_iff]

/-- `core` is what a text holds between blank characters: it starts and ends with characters that are not
blank. -/
structure IsCoreOf (core text : List Char) : Prop where
  margins : ∃ before after, text = before ++ core ++ after ∧
    (∀ c ∈ before, isBlankChar c = true) ∧ ∀ c ∈ after, isBlankChar c = true
  first : ∃ c, core.head? = some c ∧ isBlankChar c = false
  last : ∃ c, core.getLast? = some c ∧ isBlankChar c = false

section

variable {p : Char → Bool} {s rest : List Char}

theorem dropWhile_append_of_head (h : ∃ c, s.head? = some c ∧ p c = false) :
    (s ++ rest).dropWhile p = s ++ rest := by
  obtain ⟨c, hHead, hStop⟩ := h
  obtain ⟨tail, rfl⟩ := List.head?_eq_some_iff.mp hHead
  rw [List.cons_append, List.dropWhile_cons_of_neg]
  simp [hStop]

/-- What is left after dropping from the head starts with a character that is not dropped. -/
theorem exists_head_dropWhile (h : s.dropWhile p ≠ []) :
    ∃ c, (s.dropWhile p).head? = some c ∧ p c = false := by
  obtain ⟨c, tail, hCons⟩ := List.exists_cons_of_ne_nil h
  refine ⟨c, by rw [hCons, List.head?_cons], ?_⟩
  have hNot := List.head?_dropWhile_not p s
  rw [hCons, List.head?_cons] at hNot
  simpa using hNot

/-- What is cut off at the end. -/
theorem dropEndWhile_append (p : Char → Bool) (s : List Char) :
    dropEndWhile p s ++ (s.reverse.takeWhile p).reverse = s := by
  rw [dropEndWhile, ← List.reverse_append, List.takeWhile_append_dropWhile, List.reverse_reverse]

/-- Nothing is left exactly if all characters are dropped. -/
theorem dropEndWhile_eq_nil_iff : dropEndWhile p s = [] ↔ ∀ c ∈ s, p c = true := by
  simp [dropEndWhile]

/-- What would be dropped is dropped also where it is added at the end. -/
theorem dropEndWhile_append_of_pos (h : ∀ c ∈ rest, p c = true) : dropEndWhile p (s ++ rest) = dropEndWhile p s := by
  rw [dropEndWhile, List.reverse_append, List.dropWhile_append_of_pos, dropEndWhile]
  intro c hMem
  exact h c (List.mem_reverse.mp hMem)

/-- Nothing is dropped behind a character that stays. -/
theorem dropEndWhile_of_last (h : ∃ c, s.getLast? = some c ∧ p c = false) : dropEndWhile p s = s := by
  rw [← List.head?_reverse] at h
  rw [dropEndWhile, ← List.append_nil s.reverse, dropWhile_append_of_head h, List.append_nil,
    List.reverse_reverse]

/-- Dropping stops at a character that is kept. -/
theorem exists_last_dropEndWhile (h : dropEndWhile p s ≠ []) :
    ∃ c, (dropEndWhile p s).getLast? = some c ∧ p c = false := by
  rw [dropEndWhile, List.getLast?_reverse]
  refine exists_head_dropWhile fun hNil => h ?_
  rw [dropEndWhile, hNil, List.reverse_nil]

end

/-- Trimming leaves the core of a text, if the text has one. -/
theorem isCoreOf_iff {core text : List Char} :
    IsCoreOf core text ↔ trimChars text = core ∧ core ≠ [] := by
  constructor
  · rintro ⟨⟨before, after, rfl, hBefore, hAfter⟩, hFirst, hLast⟩
    have hReverse : ∃ c, core.reverse.head? = some c ∧ isBlankChar c = false := by
      rwa [List.head?_reverse]
    have hNe : core ≠ [] := by
      rintro rfl
      obtain ⟨c, hHead, -⟩ := hFirst
      cases hHead
    refine ⟨?_, hNe⟩
    rw [trimChars, List.append_assoc, List.dropWhile_append_of_pos hBefore, dropWhile_append_of_head hFirst,
      dropEndWhile, List.reverse_append, List.dropWhile_append_of_pos, ← List.append_nil core.reverse,
      dropWhile_append_of_head hReverse, List.append_nil, List.reverse_reverse]
    intro c hMem
    exact hAfter c (List.mem_reverse.mp hMem)
  · rintro ⟨rfl, hNe⟩
    let inner := text.dropWhile isBlankChar
    have hInner : trimChars text ++ (inner.reverse.takeWhile isBlankChar).reverse = inner :=
      dropEndWhile_append isBlankChar inner
    have hReverse : inner.reverse.dropWhile isBlankChar ≠ [] := fun hNil => hNe <| by
      rw [trimChars, dropEndWhile, hNil, List.reverse_nil]
    have hInnerNe : inner ≠ [] := fun hNil => hReverse <| by
      rw [hNil, List.reverse_nil, List.dropWhile_nil]
    constructor
    · refine ⟨text.takeWhile isBlankChar, (inner.reverse.takeWhile isBlankChar).reverse, ?_, ?_, ?_⟩
      · rw [List.append_assoc, hInner, List.takeWhile_append_dropWhile]
      · intro c hMem
        exact List.mem_takeWhile_imp hMem
      · intro c hMem
        exact List.mem_takeWhile_imp (List.mem_reverse.mp hMem)
    · obtain ⟨c, hHead, hStop⟩ := exists_head_dropWhile hInnerNe
      refine ⟨c, ?_, hStop⟩
      rw [← hHead]
      show _ = inner.head?
      rw [← hInner, List.head?_append_of_ne_nil _ hNe]
    · obtain ⟨c, hHead, hStop⟩ := exists_head_dropWhile hReverse
      refine ⟨c, ?_, hStop⟩
      rw [trimChars, dropEndWhile, List.getLast?_reverse, ← hHead]

end Scrobbler.Text
