import Mathlib.Data.List.Basic
import Scrobbler.Submission.Basic

/-!
The parts of a batch. A batch that does not fit in one request is cut in halves, and so are they;
what is left at the ends are its parts. They depend on the listens and on the settings alone, and
each is found by a path of halvings on which nothing fits before the end.
-/

namespace Scrobbler

namespace Batch

/-- The batch at the end of a path of halvings, where `true` stands for the second half. -/
def branch {α : Type} (batch : List α) : List Bool → List α
  | [] => batch
  | false :: path => branch (halves batch).1 path
  | true :: path => branch (halves batch).2 path

/-- Halving leaves some listens in the first half. -/
theorem halves_fst_ne_nil {α : Type} {batch : List α} (h : 2 ≤ batch.length) :
    (halves batch).1 ≠ [] := by
  intro hNil
  have hLength := length_halves_snd_lt h
  have hBatch := halves_fst_append_snd batch
  rw [hNil, List.nil_append] at hBatch
  simp [hBatch] at hLength

theorem halves_snd_ne_nil {α : Type} {batch : List α} (h : 2 ≤ batch.length) :
    (halves batch).2 ≠ [] := by
  intro hNil
  have hLength := length_halves_fst_lt h
  have hBatch := halves_fst_append_snd batch
  rw [hNil, List.append_nil] at hBatch
  simp [hBatch] at hLength

/-- The last listen of a batch is that of its second half. -/
theorem getLast?_halves_snd {α : Type} {batch : List α} (h : 2 ≤ batch.length) :
    (halves batch).2.getLast? = batch.getLast? := by
  conv_rhs => rw [← halves_fst_append_snd batch]
  rw [List.getLast?_append_of_ne_nil _ (halves_snd_ne_nil h)]

end Batch

namespace Client

/-- The parts that a batch is submitted in, in order: a batch that does not fit in one request is cut
in halves, and so are they. -/
def parts (c : Client) (type : ListenType) (batch : List Listen) : List (List Listen) :=
  if hFits : c.fits type batch then [batch]
  else
    have := Batch.length_halves_fst_lt (two_le_length_of_not_fits hFits)
    have := Batch.length_halves_snd_lt (two_le_length_of_not_fits hFits)
    parts c type (Batch.halves batch).1 ++ parts c type (Batch.halves batch).2
termination_by batch.length

variable {c : Client} {type : ListenType} {batch part : List Listen}

theorem parts_of_fits (hFits : c.fits type batch = true) : c.parts type batch = [batch] := by
  rw [parts, dif_pos hFits]

/-- The parts of a batch that does not fit are those of its halves. -/
theorem parts_of_not_fits (hCut : ¬c.fits type batch = true) :
    c.parts type batch =
      c.parts type (Batch.halves batch).1 ++ c.parts type (Batch.halves batch).2 := by
  rw [parts, dif_neg hCut]

/-- No listen is lost between parts, and none is moved. -/
theorem flatten_parts (c : Client) (type : ListenType) (batch : List Listen) :
    (c.parts type batch).flatten = batch := by
  fun_induction parts c type batch with
  | case1 batch hFits => simp
  | case2 batch hFits hFirst hSecond ihFirst ihSecond =>
      rw [List.flatten_append, ihFirst, ihSecond, Batch.halves_fst_append_snd]

/-- Every batch has a part, the empty one too. -/
theorem parts_ne_nil (c : Client) (type : ListenType) (batch : List Listen) :
    c.parts type batch ≠ [] := by
  fun_induction parts c type batch with
  | case1 batch hFits => simp
  | case2 batch hFits hFirst hSecond ihFirst ihSecond => simp [ihFirst]

/-- The last part ends with the last listen of the batch. -/
theorem getLast?_of_last_part (hPart : (c.parts type batch).getLast? = some part) :
    part.getLast? = batch.getLast? := by
  fun_induction parts c type batch with
  | case1 batch hFits =>
      obtain rfl : batch = part := by simpa using hPart
      rfl
  | case2 batch hFits hFirst hSecond ihFirst ihSecond =>
      rw [List.getLast?_append_of_ne_nil _ (parts_ne_nil c type _)] at hPart
      rw [ihSecond hPart, Batch.getLast?_halves_snd (two_le_length_of_not_fits hFits)]

/-- Every part is sent in one request. -/
theorem fits_of_mem_parts (hPart : part ∈ c.parts type batch) : c.fits type part = true := by
  fun_induction parts c type batch with
  | case1 batch hFits =>
      obtain rfl := List.mem_singleton.mp hPart
      exact hFits
  | case2 batch hFits hFirst hSecond ihFirst ihSecond =>
      exact (List.mem_append.mp hPart).elim ihFirst ihSecond

/-- Each part is at the end of a path of halvings, and no batch before the end of that path would
have fit in one request. -/
theorem exists_branch_of_mem_parts (hPart : part ∈ c.parts type batch) :
    ∃ path, Batch.branch batch path = part ∧
      ∀ above below, path = above ++ below → below ≠ [] →
        ¬c.fits type (Batch.branch batch above) = true := by
  fun_induction parts c type batch with
  | case1 batch hFits =>
      obtain rfl := List.mem_singleton.mp hPart
      refine ⟨[], rfl, fun above below hPath hBelow => ?_⟩
      exact absurd (List.append_eq_nil_iff.mp hPath.symm).2 hBelow
  | case2 batch hFits hFirst hSecond ihFirst ihSecond =>
      have grow : ∀ {second : Bool} {path : List Bool},
          (∀ above below, path = above ++ below → below ≠ [] →
            ¬c.fits type (Batch.branch batch (second :: above)) = true) →
          ∀ above below, second :: path = above ++ below → below ≠ [] →
            ¬c.fits type (Batch.branch batch above) = true := by
        intro second path hPath above below hEq hBelow
        cases above with
        | nil => exact hFits
        | cons turn above =>
            obtain ⟨rfl, hRest⟩ := List.cons.inj hEq
            exact hPath above below hRest hBelow
      rcases List.mem_append.mp hPart with hPart | hPart
      · obtain ⟨path, hEnd, hPath⟩ := ihFirst hPart
        exact ⟨false :: path, hEnd, grow hPath⟩
      · obtain ⟨path, hEnd, hPath⟩ := ihSecond hPart
        exact ⟨true :: path, hEnd, grow hPath⟩

/-- A batch that fits in one request, at the end of a path on which nothing fits before, is a part. -/
theorem mem_parts_of_branch {path : List Bool} (hEnd : Batch.branch batch path = part)
    (hFits : c.fits type part = true)
    (hPath : ∀ above below, path = above ++ below → below ≠ [] →
      ¬c.fits type (Batch.branch batch above) = true) : part ∈ c.parts type batch := by
  induction path generalizing batch with
  | nil =>
      obtain rfl : batch = part := hEnd
      rw [parts_of_fits hFits]
      exact List.mem_singleton_self batch
  | cons second path ih =>
      have hCut : ¬c.fits type batch = true := hPath [] (second :: path) rfl (by simp)
      have hRest : ∀ above below, path = above ++ below → below ≠ [] →
          ¬c.fits type (Batch.branch batch (second :: above)) = true := by
        intro above below hEq hBelow
        exact hPath (second :: above) below (by rw [hEq, List.cons_append]) hBelow
      rw [parts_of_not_fits hCut, List.mem_append]
      cases second with
      | false => exact .inl (ih hEnd hRest)
      | true => exact .inr (ih hEnd hRest)

/-- The parts of a batch are what the path of halvings leads to: it goes on as long as a batch does
not fit, and no longer. -/
theorem mem_parts_iff :
    part ∈ c.parts type batch ↔
      c.fits type part = true ∧ ∃ path, Batch.branch batch path = part ∧
        ∀ above below, path = above ++ below → below ≠ [] →
          ¬c.fits type (Batch.branch batch above) = true := by
  constructor
  · intro hPart
    exact ⟨fits_of_mem_parts hPart, exists_branch_of_mem_parts hPart⟩
  · rintro ⟨hFits, path, hEnd, hPath⟩
    exact mem_parts_of_branch hEnd hFits hPath

end Client

end Scrobbler
