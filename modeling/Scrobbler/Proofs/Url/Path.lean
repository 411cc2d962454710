import Scrobbler.Proofs.Url.Escape
import Scrobbler.Url.Path

/-!
Paths that are followed. Every segment is followed by one step, which adds to the path no more than what
the segment decodes to. So a path never decodes to more than the text it was read from, and it decodes to
all of it only if no segment is one of dots and none has an escape.
-/

namespace Scrobbler.Url

section

variable {special : Bool} {c : Char} {s t : List Char}

theorem splitSlashes_ne_nil (special : Bool) (s : List Char) : splitSlashes special s ≠ [] := by
  cases s with
  | nil => simp [splitSlashes]
  | cons c s =>
      simp only [splitSlashes]
      split
      · simp
      · split <;> simp

theorem splitSlashes_cons_of_slash (h : isSlash special c = true) :
    splitSlashes special (c :: s) = [] :: splitSlashes special s := by
  rw [splitSlashes, if_pos h]

theorem splitSlashes_cons_of_not_slash {segment : List Char} {others : List (List Char)}
    (h : isSlash special c = false) (hRest : splitSlashes special s = segment :: others) :
    splitSlashes special (c :: s) = (c :: segment) :: others := by
  rw [splitSlashes, if_neg (by simp [h]), hRest]

/-- A slash parts the segments before it from those behind it. -/
theorem splitSlashes_append_slash (h : isSlash special c = true) :
    splitSlashes special (s ++ c :: t) = splitSlashes special s ++ splitSlashes special t := by
  induction s with
  | nil => rw [List.nil_append, splitSlashes_cons_of_slash h]; rfl
  | cons d s ih =>
      cases hSlash : isSlash special d with
      | true =>
          rw [List.cons_append, splitSlashes_cons_of_slash hSlash, splitSlashes_cons_of_slash hSlash, ih,
            List.cons_append]
      | false =>
          obtain ⟨segment, others, hParts⟩ := List.exists_cons_of_ne_nil (splitSlashes_ne_nil special s)
          rw [hParts, List.cons_append] at ih
          rw [List.cons_append, splitSlashes_cons_of_not_slash hSlash ih,
            splitSlashes_cons_of_not_slash hSlash hParts, List.cons_append]

theorem splitSlashes_of_no_slash (h : ∀ c ∈ s, isSlash special c = false) : splitSlashes special s = [s] := by
  induction s with
  | nil => rfl
  | cons c s ih =>
      have hRest := ih fun d hMem => h d (List.mem_cons_of_mem c hMem)
      exact splitSlashes_cons_of_not_slash (h c List.mem_cons_self) hRest

end

/-- The bytes of all segments. -/
def load (segments : List (List Char)) : Nat := (bytes segments.flatten).length

@[simp] theorem load_nil : load [] = 0 := by
  simp [load]

@[simp] theorem load_cons (segment : List Char) (segments : List (List Char)) :
    load (segment :: segments) = (bytes segment).length + load segments := by
  simp [load]

@[simp] theorem load_append (front back : List (List Char)) :
    load (front ++ back) = load front + load back := by
  simp [load]

/-- Slashes are no part of segments, and everything else is. -/
theorem load_splitSlashes (special : Bool) (s : List Char) :
    load (splitSlashes special s) = (bytes (s.filter (!isSlash special ·))).length := by
  induction s with
  | nil => rfl
  | cons c s ih =>
      cases hSlash : isSlash special c with
      | true => simp [splitSlashes_cons_of_slash hSlash, ih, hSlash]
      | false =>
          obtain ⟨segment, others, hParts⟩ := List.exists_cons_of_ne_nil (splitSlashes_ne_nil special s)
          rw [hParts, load_cons] at ih
          rw [splitSlashes_cons_of_not_slash hSlash hParts, load_cons,
            List.filter_cons_of_pos (by simp [hSlash]), bytes_cons, bytes_cons, List.length_append,
            List.length_append, ← ih, Nat.add_assoc]

/-- A segment that is followed to somewhere else than below. -/
def isDots (segment : List Char) : Bool := isDoubleDot segment || isDot segment

/-- Dots are recognized by their first character. -/
theorem exists_mem_of_isDots {s : List Char} (h : isDots s = true) :
    ∃ c ∈ s, c.toLower = '.' ∨ c.toLower = '%' := by
  cases s with
  | nil => simp [isDots, isDot, isDoubleDot] at h
  | cons c s =>
      refine ⟨c, List.mem_cons_self, ?_⟩
      simp [isDots, isDot, isDoubleDot, ← String.toList_inj] at h
      rcases h with (h | h | h | h) | h | h <;> simp [h]

namespace Walk

/-- Follows one segment, which may be the last one. -/
def step (file last : Bool) (segment : List Char) (w : Walk) : Walk :=
  let next := if isDoubleDot segment then w.up else if isDot segment then w else w.enter file segment
  if last && isDots segment then next.plain [] else next

theorem follow_cons (file : Bool) (w : Walk) (segment : List Char) (rest : List (List Char)) :
    w.follow file (segment :: rest) = (w.step file rest.isEmpty segment).follow file rest := rfl

/-- The place that is reached before more segments are followed. -/
def through (file : Bool) (w : Walk) (segments : List (List Char)) : Walk :=
  segments.foldl (fun w segment => w.step file false segment) w

/-- Segments are followed one after the other; only the last of all ends the walk. -/
theorem follow_append (file : Bool) (w : Walk) (front : List (List Char)) {back : List (List Char)}
    (hBack : back ≠ []) : w.follow file (front ++ back) = (w.through file front).follow file back := by
  induction front generalizing w with
  | nil => rfl
  | cons segment front ih =>
      have hMore : (front ++ back).isEmpty = false := by simp [hBack]
      rw [List.cons_append, follow_cons, hMore, ih]
      rfl

/-- The bytes that the segments so far decode to. -/
def total (w : Walk) : Nat := (w.segments.flatMap decoded).length

theorem total_plain (segment : List Char) (w : Walk) :
    (w.plain segment).total = (decoded segment).length + w.total := by
  simp [total, Walk.segments, plain, decoded_escape_path, Nat.add_comm]

/-- Going up does not add to the bytes that are decoded. -/
theorem total_up_le (w : Walk) : w.up.total ≤ w.total := by
  unfold up
  split
  · next last rest hPassed =>
      split
      · exact Nat.le_refl _
      · simp [total, Walk.segments, hPassed]
  · exact Nat.le_refl _

/-- A segment that is not made of dots is gone down to. -/
theorem step_of_not_isDots {segment : List Char} (h : isDots segment = false) (last : Bool) (w : Walk) :
    w.step false last segment = w.plain segment := by
  obtain ⟨hDouble, hDot⟩ := Bool.or_eq_false_iff.mp h
  simp [step, isDots, enter, hDouble, hDot]

/-- A segment of dots adds no bytes. -/
theorem total_step_of_isDots {segment : List Char} (h : isDots segment = true) (last : Bool) (w : Walk) :
    (w.step false last segment).total ≤ w.total := by
  have hNext : (if isDoubleDot segment then w.up
      else if isDot segment then w else w.enter false segment).total ≤ w.total := by
    split
    · exact total_up_le w
    · next hDouble =>
        have hDot : isDot segment = true := by simpa [isDots, hDouble] using h
        exact Nat.le_of_eq (congrArg total (if_pos hDot))
  simp only [step, h, Bool.and_true]
  split
  · rw [total_plain, decoded_nil, List.length_nil, Nat.zero_add]
    exact hNext
  · exact hNext

/-- A step adds no more than the segment, and less if the segment leads elsewhere or has an escape. -/
theorem total_step_le (segment : List Char) (last : Bool) (w : Walk) :
    (w.step false last segment).total ≤ w.total + (bytes segment).length := by
  cases hDots : isDots segment with
  | true => exact Nat.le_trans (total_step_of_isDots hDots last w) (Nat.le_add_right _ _)
  | false =>
      have hDecoded := length_decoded_le segment
      rw [step_of_not_isDots hDots, total_plain]
      omega

/-- A segment of dots or with an escape adds fewer bytes than it has. -/
theorem total_step_lt {segment : List Char} (h : isDots segment = true ∨ hasEscape segment = true)
    (last : Bool) (w : Walk) : (w.step false last segment).total < w.total + (bytes segment).length := by
  cases hDots : isDots segment with
  | true =>
      have hTotal := total_step_of_isDots hDots last w
      have hLength : 0 < (bytes segment).length := by
        cases segment with
        | nil => simp [isDots, isDot, isDoubleDot] at hDots
        | cons c rest =>
            obtain ⟨a, tail, hHead, -⟩ := exists_head_utf8EncodeChar c
            simp [hHead]
      omega
  | false =>
      have hDecoded := length_decoded_lt (h.resolve_left (by simp [hDots]))
      rw [step_of_not_isDots hDots, total_plain]
      omega

theorem total_follow_le (w : Walk) (segments : List (List Char)) :
    (w.follow false segments).total ≤ w.total + load segments := by
  induction segments generalizing w with
  | nil => simp [follow]
  | cons segment rest ih =>
      have hStep := total_step_le segment rest.isEmpty w
      have hRest := ih (w.step false rest.isEmpty segment)
      rw [follow_cons, load_cons]
      omega

/-- A path decodes to fewer bytes than its segments have, where one is of dots or has an escape. -/
theorem total_follow_lt (w : Walk) {segments : List (List Char)}
    (h : ∃ segment ∈ segments, isDots segment = true ∨ hasEscape segment = true) :
    (w.follow false segments).total < w.total + load segments := by
  induction segments generalizing w with
  | nil => simp at h
  | cons segment rest ih =>
      rw [follow_cons, load_cons]
      by_cases hHere : isDots segment = true ∨ hasEscape segment = true
      · have hStep := total_step_lt hHere rest.isEmpty w
        have hRest := total_follow_le (w.step false rest.isEmpty segment) rest
        omega
      · obtain ⟨other, hMem, hOther⟩ := h
        have hLater : other ∈ rest := by
          rcases List.mem_cons.mp hMem with rfl | hLater
          · exact absurd hOther hHere
          · exact hLater
        have hStep := total_step_le segment rest.isEmpty w
        have hRest := ih (w.step false rest.isEmpty segment) ⟨other, hLater, hOther⟩
        omega

/-- Segments without dots are entered one below the other. -/
theorem follow_of_not_isDots (w : Walk) {segments : List (List Char)}
    (h : ∀ segment ∈ segments, isDots segment = false) :
    (w.follow false segments).segments = w.segments ++ segments.map (escape escapesInPath) := by
  induction segments generalizing w with
  | nil => simp [follow]
  | cons segment rest ih =>
      have hRest := ih (w.plain segment) fun other hMem => h other (List.mem_cons_of_mem segment hMem)
      rw [follow_cons, step_of_not_isDots (h segment List.mem_cons_self), hRest]
      simp [Walk.segments, plain]

end Walk

end Scrobbler.Url
