import Mathlib.Data.List.Induction
import Scrobbler.Proofs.Url.Root

/-!
Templates of paths: words with one argument among them. An argument is spliced in as it is, so only some
arguments become a segment of their own. The path decodes to no more than its text, and so to all words
and the argument only if nothing of the text gets lost: no character that means something in an address, no
margin at its end, no dots and no escape.
-/

namespace Scrobbler.Url

section

variable {s t : List Char}

theorem length_bytes_cons_pos (c : Char) (s : List Char) : (bytes s).length < (bytes (c :: s)).length := by
  obtain ⟨a, tail, hHead, -⟩ := exists_head_utf8EncodeChar c
  rw [bytes_cons, hHead, List.length_append, List.length_cons]
  omega

theorem length_bytes_le_of_sublist (h : s.Sublist t) : (bytes s).length ≤ (bytes t).length := by
  induction h with
  | slnil => exact Nat.le_refl _
  | cons c _ ih => exact Nat.le_of_lt (Nat.lt_of_le_of_lt ih (length_bytes_cons_pos c _))
  | cons_cons c _ ih =>
      rw [bytes_cons, bytes_cons, List.length_append, List.length_append]
      exact Nat.add_le_add_left ih _

/-- Characters that are lost leave fewer bytes. -/
theorem eq_of_sublist_of_length_bytes_le (h : s.Sublist t) (hLength : (bytes t).length ≤ (bytes s).length) :
    s = t := by
  induction h with
  | slnil => rfl
  | @cons s t c hRest ih =>
      have hLess := length_bytes_cons_pos c t
      have hLe := length_bytes_le_of_sublist hRest
      omega
  | cons_cons c _ ih =>
      rw [bytes_cons, bytes_cons, List.length_append, List.length_append] at hLength
      rw [ih (Nat.le_of_add_le_add_left hLength)]

theorem dropEndWhile_concat_of_pos {p : Char → Bool} {c : Char} (h : p c = true) :
    Text.dropEndWhile p (s ++ [c]) = Text.dropEndWhile p s := by
  simp [Text.dropEndWhile, h]

theorem dropEndWhile_eq_self {p : Char → Bool} (h : ∀ c ∈ s.getLast?, p c = false) :
    Text.dropEndWhile p s = s := by
  cases s using List.reverseRecOn with
  | nil => rfl
  | append_singleton s c =>
      have hLast := h c (by simp)
      simp [Text.dropEndWhile, hLast]

end

section

variable {parts : List (List Char)}

theorem exists_intercalate_cons (first : List Char) (rest : List (List Char)) :
    ∃ tail, ['/'].intercalate (first :: rest) = first ++ tail := by
  cases rest with
  | nil => exact ⟨[], by simp⟩
  | cons second rest => exact ⟨_, by rw [List.intercalate_cons_cons, List.append_assoc]⟩

/-- The last part stands at the end, behind a slash if there is anything before it. -/
theorem exists_intercalate_concat (front : List (List Char)) (last : List Char) :
    ∃ head, ['/'].intercalate (front ++ [last]) = head ++ last ∧ ∀ c ∈ head.getLast?, c = '/' := by
  induction front with
  | nil => exact ⟨[], by simp, by simp⟩
  | cons first front ih =>
      obtain ⟨head, hText, hLast⟩ := ih
      refine ⟨first ++ '/' :: head, ?_, ?_⟩
      · rw [List.cons_append, List.intercalate_cons_of_ne_nil (by simp), hText]
        simp
      · cases head with
        | nil => simp
        | cons c head => simpa using hLast

/-- A character of joined parts is the mark between them or stands in a part. -/
theorem eq_or_mem_of_mem_intercalate {c mark : Char} (h : c ∈ [mark].intercalate parts) :
    c = mark ∨ ∃ part ∈ parts, c ∈ part := by
  induction parts with
  | nil => simp at h
  | cons first rest ih =>
      cases rest with
      | nil => exact .inr ⟨first, by simp, by simpa using h⟩
      | cons second rest =>
          rw [List.intercalate_cons_cons, List.append_assoc, List.mem_append] at h
          rcases h with hFirst | hLater
          · exact .inr ⟨first, by simp, hFirst⟩
          · rcases List.mem_append.mp hLater with hSlash | hRest
            · exact .inl (List.mem_singleton.mp hSlash)
            · refine (ih hRest).imp_right ?_
              rintro ⟨part, hPart, hMem⟩
              exact ⟨part, List.mem_cons_of_mem first hPart, hMem⟩

theorem filter_intercalate {p : Char → Bool} (h : p '/' = false) (parts : List (List Char)) :
    (['/'].intercalate parts).filter p = (parts.map (·.filter p)).flatten := by
  induction parts with
  | nil => rfl
  | cons first rest ih =>
      cases rest with
      | nil => simp
      | cons second rest =>
          rw [List.intercalate_cons_cons, List.filter_append, List.filter_append, ih]
          simp [h]

/-- Parts without slashes are parted again. -/
theorem splitSlashes_intercalate (hParts : parts ≠ [])
    (h : ∀ part ∈ parts, ∀ c ∈ part, isSlash true c = false) :
    splitSlashes true (['/'].intercalate parts) = parts := by
  induction parts with
  | nil => exact absurd rfl hParts
  | cons first rest ih =>
      have hFirst := splitSlashes_of_no_slash (h first List.mem_cons_self)
      cases rest with
      | nil => rw [List.intercalate_singleton, hFirst]
      | cons second rest =>
          have hRest := ih (by simp) fun part hMem => h part (List.mem_cons_of_mem first hMem)
          rw [List.intercalate_cons_cons, List.append_assoc, List.singleton_append,
            splitSlashes_append_slash (by decide), hFirst, hRest, List.singleton_append]

end

/-- A path with one argument between words. -/
structure Template where
  before : List (List Char)
  after : List (List Char)
  deriving DecidableEq, Repr

/-- The characters of words. -/
def wordChars : List Char :=
  ['a', 'b', 'c', 'd', 'e', 'f', 'g', 'h', 'i', 'j', 'k', 'l', 'm', 'n', 'o', 'p', 'q', 'r', 's', 't',
    'u', 'v', 'w', 'x', 'y', 'z', '-']

def isWord (s : List Char) : Bool := !s.isEmpty && s.all wordChars.contains

/-- A character that is nothing but a part of a segment, wherever it stands in the path of an address. -/
def isPlainChar (c : Char) : Bool := !isSlash true c && c != '?' && c != '#' && !isBreak c

/-- What holds of all characters of words holds of those of a word. -/
theorem of_isWord {word : List Char} (h : isWord word = true) {p : Char → Bool}
    (hp : wordChars.all p = true) : ∀ c ∈ word, p c = true := by
  intro c hMem
  simp only [isWord, Bool.and_eq_true, List.all_eq_true, List.contains_eq_mem, decide_eq_true_eq] at h
  exact List.all_eq_true.mp hp c (h.2 c hMem)

section

variable {word : List Char} (h : isWord word = true)

include h

theorem ne_nil_of_isWord : word ≠ [] := by
  rintro rfl
  cases h

theorem isPlainChar_of_isWord : ∀ c ∈ word, isPlainChar c = true := of_isWord h (by decide)

theorem isMargin_of_isWord : ∀ c ∈ word, isMargin c = false := by
  simpa using of_isWord h (p := fun c => !isMargin c) (by decide)

theorem escape_of_isWord : escape escapesInPath word = word := by
  refine escape_eq_self fun c hMem => ?_
  have hKept := of_isWord h (p := fun c => !(c.toNat < 0x20 || 0x7F ≤ c.toNat || escapesInPath c)) (by decide)
  exact Bool.not_eq_true' _ ▸ hKept c hMem

theorem hasEscape_of_isWord : hasEscape word = false := by
  refine hasEscape_of_not_mem fun hMem => ?_
  exact absurd (of_isWord h (p := fun c => c != '%') (by decide) _ hMem) (by decide)

theorem isDots_of_isWord : isDots word = false := by
  by_contra hDots
  obtain ⟨c, hMem, hLower⟩ := exists_mem_of_isDots (eq_true_of_ne_false hDots)
  have hOther := of_isWord h (p := fun c => c.toLower != '.' && c.toLower != '%') (by decide) c hMem
  rcases hLower with hLower | hLower <;> simp [hLower] at hOther

theorem decoded_of_isWord : decoded word = bytes word := decoded_of_hasEscape_eq_false (hasEscape_of_isWord h)

end

theorem length_flatMap_decoded {words : List (List Char)} (h : ∀ word ∈ words, isWord word = true) :
    (words.flatMap decoded).length = load words := by
  induction words with
  | nil => simp
  | cons word words ih =>
      rw [List.flatMap_cons, List.length_append, decoded_of_isWord (h word List.mem_cons_self), load_cons,
        ih fun other hMem => h other (List.mem_cons_of_mem word hMem)]

namespace Template

variable {template : Template} {argument : List Char}

/-- The segments of the path with an argument. -/
def segments (template : Template) (argument : List Char) : List (List Char) :=
  template.before ++ argument :: template.after

def text (template : Template) (argument : List Char) : List Char :=
  ['/'].intercalate (template.segments argument)

/-- The path with an argument, without slashes at its head. -/
def path (template : Template) (argument : List Char) : List Char :=
  (template.text argument).dropWhile (· = '/')

/-- What is left of the path at the end of an address. -/
def tail (template : Template) (argument : List Char) : List Char := settled (template.path argument)

/-- All but the argument are words. -/
structure IsWorded (template : Template) : Prop where
  before : ∀ word ∈ template.before, isWord word = true
  after : ∀ word ∈ template.after, isWord word = true

/-- The text of the argument stays whole in the address. -/
structure Keeps (template : Template) (argument : List Char) : Prop where
  chars : ∀ c ∈ argument, isPlainChar c = true
  ending : template.after = [] → ∀ c ∈ argument.getLast?, isMargin c = false

/-- The argument becomes a segment of its own, which decodes to it. -/
structure Takes (template : Template) (argument : List Char) : Prop extends Keeps template argument where
  dots : isDots argument = false
  escape : hasEscape argument = false

/-- What an argument has to be, in a form that is computed. -/
theorem takes_iff_all (template : Template) (argument : List Char) :
    template.Takes argument ↔ argument.all isPlainChar = true ∧
      (template.after = [] → argument.getLast?.all (fun c => !isMargin c) = true) ∧
      isDots argument = false ∧ hasEscape argument = false := by
  have hEnding : argument.getLast?.all (fun c => !isMargin c) = true ↔
      ∀ c ∈ argument.getLast?, isMargin c = false := by
    simp [Option.all_eq_true]
  rw [List.all_eq_true, hEnding]
  constructor
  · rintro ⟨⟨hChars, hLast⟩, hDots, hEscape⟩
    exact ⟨hChars, hLast, hDots, hEscape⟩
  · rintro ⟨hChars, hLast, hDots, hEscape⟩
    exact ⟨⟨hChars, hLast⟩, hDots, hEscape⟩

instance (template : Template) (argument : List Char) : Decidable (template.Takes argument) :=
  decidable_of_iff _ (takes_iff_all template argument).symm

/-- What holds of words and of the argument holds of all segments. -/
theorem forall_mem_segments (hWorded : template.IsWorded) {p : List Char → Prop}
    (hWord : ∀ word, isWord word = true → p word) (hArgument : p argument) :
    ∀ segment ∈ template.segments argument, p segment := by
  intro segment hMem
  rw [segments, List.mem_append, List.mem_cons] at hMem
  rcases hMem with hBefore | rfl | hAfter
  · exact hWord segment (hWorded.before segment hBefore)
  · exact hArgument
  · exact hWord segment (hWorded.after segment hAfter)

/-- What changes no word changes the argument alone. -/
theorem map_segments (hWorded : template.IsWorded) {f : List Char → List Char}
    (hWord : ∀ word, isWord word = true → f word = word) :
    (template.segments argument).map f = template.segments (f argument) := by
  have hWords {words : List (List Char)} (h : ∀ word ∈ words, isWord word = true) : words.map f = words :=
    (List.map_congr_left fun word hMem => hWord word (h word hMem)).trans (List.map_id' words)
  rw [segments, List.map_append, List.map_cons, hWords hWorded.before, hWords hWorded.after, segments]

theorem isPlainChar_of_mem_segments (hWorded : template.IsWorded) (hKeeps : template.Keeps argument) :
    ∀ segment ∈ template.segments argument, ∀ c ∈ segment, isPlainChar c = true :=
  forall_mem_segments hWorded (fun _ hWord => isPlainChar_of_isWord hWord) hKeeps.chars

theorem segments_ne_nil (template : Template) (argument : List Char) : template.segments argument ≠ [] := by
  simp [segments]

section

variable (hWorded : template.IsWorded) (hKeeps : template.Keeps argument)
  (hStart : template.before ≠ [] ∨ argument ≠ [])

include hWorded hKeeps

/-- Nothing but a part of the path stands in it. -/
theorem eq_slash_or_isPlainChar : ∀ c ∈ template.text argument, c = '/' ∨ isPlainChar c = true := by
  intro c hMem
  refine (eq_or_mem_of_mem_intercalate hMem).imp_right ?_
  rintro ⟨segment, hSegment, hChar⟩
  exact isPlainChar_of_mem_segments hWorded hKeeps segment hSegment c hChar

/-- No white space is cut from the end of the path. -/
theorem isMargin_getLast : ∀ c ∈ (template.text argument).getLast?, isMargin c = false := by
  -- The last character is the last one of the last segment, or the slash before that.
  have hEnding (front : List (List Char)) (last : List Char)
      (hLast : ∀ c ∈ last.getLast?, isMargin c = false) :
      ∀ c ∈ (['/'].intercalate (front ++ [last])).getLast?, isMargin c = false := by
    obtain ⟨head, hText, hHead⟩ := exists_intercalate_concat front last
    intro c hMem
    rw [hText, List.getLast?_append] at hMem
    cases hEnd : last.getLast? with
    | some d => exact hLast c (by simpa [hEnd] using hMem)
    | none =>
        rw [hHead c (by simpa [hEnd] using hMem)]
        decide
  rcases List.eq_nil_or_concat template.after with hNone | ⟨after, word, hAfter⟩
  · rw [text, segments, hNone]
    exact hEnding template.before argument (hKeeps.ending hNone)
  · have hWord : isWord word = true := hWorded.after word (by simp [hAfter])
    have hParts : template.segments argument = (template.before ++ argument :: after) ++ [word] := by
      simp [segments, hAfter]
    rw [text, hParts]
    exact hEnding _ word fun c hMem => isMargin_of_isWord hWord c (List.mem_of_getLast? hMem)

include hStart

/-- The path does not start with a slash. -/
theorem path_eq : template.path argument = template.text argument := by
  obtain ⟨first, rest, hSegments, hFirst⟩ :
      ∃ first rest, template.segments argument = first :: rest ∧ first ≠ [] := by
    cases hBefore : template.before with
    | nil =>
        exact ⟨argument, template.after, by simp [segments, hBefore],
          hStart.resolve_left (by simp [hBefore])⟩
    | cons word before =>
        exact ⟨word, before ++ argument :: template.after, by simp [segments, hBefore],
          ne_nil_of_isWord (hWorded.before word (by simp [hBefore]))⟩
  obtain ⟨tail, hText⟩ := exists_intercalate_cons first rest
  obtain ⟨c, more, rfl⟩ := List.exists_cons_of_ne_nil hFirst
  have hPlain : isPlainChar c = true :=
    isPlainChar_of_mem_segments hWorded hKeeps (c :: more) (by simp [hSegments]) c List.mem_cons_self
  have hSlash : c ≠ '/' := by
    rintro rfl
    exact absurd hPlain (by decide)
  rw [path, text, hSegments, hText]
  simp [hSlash]

/-- Nothing of the path is lost at the end of an address. -/
theorem tail_eq : template.tail argument = template.text argument := by
  rw [tail, path_eq hWorded hKeeps hStart, settled,
    dropEndWhile_eq_self (isMargin_getLast hWorded hKeeps), List.filter_eq_self]
  intro c hMem
  rcases eq_slash_or_isPlainChar hWorded hKeeps c hMem with rfl | hPlain
  · decide
  · simp only [isPlainChar, Bool.and_eq_true] at hPlain
    exact hPlain.2

/-- The path has neither a query nor a fragment. -/
theorem isUnmarked_tail : IsUnmarked (template.tail argument) := by
  have hMark : ∀ c ∈ template.tail argument, c ≠ '?' ∧ c ≠ '#' := by
    intro c hMem
    rw [tail_eq hWorded hKeeps hStart] at hMem
    rcases eq_slash_or_isPlainChar hWorded hKeeps c hMem with rfl | hPlain
    · decide
    · simp only [isPlainChar, Bool.and_eq_true, bne_iff_ne] at hPlain
      exact ⟨hPlain.1.1.2, hPlain.1.2⟩
  exact ⟨fun hMem => (hMark _ hMem).1 rfl, fun hMem => (hMark _ hMem).2 rfl⟩

/-- The segments of the path are read back from it. -/
theorem splitSlashes_tail :
    splitSlashes true (beforeQuery (template.tail argument)) = template.segments argument := by
  rw [((isUnmarked_tail hWorded hKeeps hStart).parts true).1, tail_eq hWorded hKeeps hStart]
  refine splitSlashes_intercalate (segments_ne_nil template argument) fun segment hSegment c hMem => ?_
  have hPlain := isPlainChar_of_mem_segments hWorded hKeeps segment hSegment c hMem
  simp only [isPlainChar, Bool.and_eq_true, Bool.not_eq_true'] at hPlain
  exact hPlain.1.1.1

end

/-- An argument without dots and escapes is one segment of the path. -/
theorem segments_follow_of_takes (hWorded : template.IsWorded) (hTakes : template.Takes argument)
    (hStart : template.before ≠ [] ∨ argument ≠ []) (w : Walk) :
    (w.followTail (template.tail argument)).segments =
      w.segments ++ template.segments (escape escapesInPath argument) := by
  have hDots : ∀ segment ∈ template.segments argument, isDots segment = false :=
    forall_mem_segments hWorded (fun _ hWord => isDots_of_isWord hWord) hTakes.dots
  rw [Walk.followTail, splitSlashes_tail hWorded hTakes.toKeeps hStart, w.follow_of_not_isDots hDots,
    map_segments hWorded fun _ hWord => escape_of_isWord hWord]

/-- Of the path, only characters of the argument can get lost. -/
theorem length_bytes_filter_isPlainChar (hWorded : template.IsWorded) (argument : List Char) :
    (bytes ((template.text argument).filter isPlainChar)).length =
      load template.before + ((bytes (argument.filter isPlainChar)).length + load template.after) := by
  have hWord (word : List Char) (h : isWord word = true) : word.filter isPlainChar = word :=
    List.filter_eq_self.mpr (isPlainChar_of_isWord h)
  rw [text, filter_intercalate (by decide), map_segments hWorded hWord, segments, ← load,
    load_append, load_cons]

/-- If a segment decodes to the argument, the path decodes to all words and the argument. -/
theorem total_of_segments_eq (hWorded : template.IsWorded) {w next : Walk} {segment : List Char}
    (hSegments : next.segments = w.segments ++ template.segments segment)
    (hDecoded : decoded segment = bytes argument) :
    next.total = w.total + (load template.before + ((bytes argument).length + load template.after)) := by
  rw [Walk.total, Walk.total, hSegments, segments, List.flatMap_append, List.flatMap_append,
    List.flatMap_cons, List.length_append, List.length_append, List.length_append, hDecoded,
    length_flatMap_decoded hWorded.before, length_flatMap_decoded hWorded.after]

/-- What counts as a path at the end of an address has no characters that mean something there. -/
theorem filter_beforeQuery_settled (s : List Char) :
    (beforeQuery (settled s)).filter (!isSlash true ·) = (beforeQuery (settled s)).filter isPlainChar := by
  refine List.filter_congr fun c hMem => ?_
  have hMark : c ≠ '?' ∧ c ≠ '#' := by simpa using List.mem_takeWhile_imp hMem
  have hBreak := (List.mem_filter.mp ((List.takeWhile_sublist _).subset hMem)).2
  simp [isPlainChar, bne_iff_ne.mpr hMark.1, bne_iff_ne.mpr hMark.2, hBreak]

theorem path_sublist_text (template : Template) (argument : List Char) :
    (template.path argument).Sublist (template.text argument) := List.dropWhile_sublist _

theorem beforeQuery_settled_sublist (s : List Char) :
    (beforeQuery (settled s)).Sublist (Text.dropEndWhile isMargin s) :=
  (List.takeWhile_sublist _).trans List.filter_sublist

/-- The segments at the end of an address have the bytes of its plain characters. -/
theorem load_tail (template : Template) (argument : List Char) :
    load (splitSlashes true (beforeQuery (template.tail argument))) =
      (bytes ((beforeQuery (template.tail argument)).filter isPlainChar)).length := by
  rw [load_splitSlashes, tail, filter_beforeQuery_settled]

/-- A margin at the end of the path is not followed. -/
theorem length_bytes_lt_of_ending {c : Char} (hAfter : template.after = []) (hLast : c ∈ argument.getLast?)
    (hPlain : isPlainChar c = true) (hMargin : isMargin c = true) :
    (bytes ((beforeQuery (template.tail argument)).filter isPlainChar)).length <
      (bytes ((template.text argument).filter isPlainChar)).length := by
  obtain ⟨front, rfl⟩ := List.getLast?_eq_some_iff.mp hLast
  obtain ⟨head, hHead, -⟩ := exists_intercalate_concat template.before (front ++ [c])
  have hText : template.text (front ++ [c]) = (head ++ front) ++ [c] := by
    rw [text, segments, hAfter, hHead, List.append_assoc]
  have hSlash : decide (c = '/') = false := by
    rw [decide_eq_false_iff_not]
    rintro rfl
    exact absurd hPlain (by decide)
  have hPath : template.path (front ++ [c]) = (head ++ front).dropWhile (· = '/') ++ [c] := by
    rw [path, hText]
    exact dropWhile_append_mark hSlash
  have hSublist : (beforeQuery (template.tail (front ++ [c]))).Sublist (head ++ front) := by
    refine (beforeQuery_settled_sublist _).trans ?_
    rw [hPath, dropEndWhile_concat_of_pos hMargin]
    exact (dropEndWhile_sublist _ _).trans (List.dropWhile_sublist _)
  have hLess := length_bytes_cons_pos c []
  have hLeft := length_bytes_le_of_sublist (hSublist.filter isPlainChar)
  rw [hText, List.filter_append, List.filter_cons_of_pos hPlain, List.filter_nil, bytes_append,
    List.length_append]
  rw [bytes_nil, List.length_nil] at hLess
  omega

/-- Nothing of the argument is lost if what is followed is as long as all words and the argument. -/
theorem keeps_of_le_load (hWorded : template.IsWorded)
    (hLoad : load template.before + ((bytes argument).length + load template.after) ≤
      load (splitSlashes true (beforeQuery (template.tail argument)))) : template.Keeps argument := by
  have hText := length_bytes_filter_isPlainChar hWorded argument
  have hSublist : (beforeQuery (template.tail argument)).Sublist (template.text argument) := by
    refine (beforeQuery_settled_sublist _).trans ?_
    exact (dropEndWhile_sublist _ _).trans (path_sublist_text template argument)
  have hLeft := length_bytes_le_of_sublist (hSublist.filter isPlainChar)
  rw [load_tail] at hLoad
  have hChars : argument.filter isPlainChar = argument :=
    eq_of_sublist_of_length_bytes_le List.filter_sublist (by omega)
  have hPlain := List.filter_eq_self.mp hChars
  refine ⟨hPlain, fun hAfter c hLast => ?_⟩
  by_contra hMargin
  have hLess := length_bytes_lt_of_ending hAfter hLast (hPlain c (List.mem_of_getLast? hLast))
    (Bool.not_eq_false _ ▸ hMargin)
  rw [hChars] at hText
  omega

/-- If the argument is a segment of the path that decodes to it, nothing of it was lost. -/
theorem takes_of_segments_follow (hWorded : template.IsWorded) (hStart : template.before ≠ [] ∨ argument ≠ [])
    {w : Walk} {segment : List Char}
    (hFollowed : (w.followTail (template.tail argument)).segments =
      w.segments ++ template.segments segment)
    (hDecoded : decoded segment = bytes argument) : template.Takes argument := by
  have hTotal := total_of_segments_eq hWorded hFollowed hDecoded
  rw [Walk.followTail] at hTotal
  have hGain := w.total_follow_le (splitSlashes true (beforeQuery (template.tail argument)))
  have hKeeps : template.Keeps argument := keeps_of_le_load hWorded (by omega)
  -- So the argument is followed as a segment, which adds less than itself if it has dots or escapes.
  have hPlain : ¬(isDots argument = true ∨ hasEscape argument = true) := by
    intro hOther
    have hMem : argument ∈ template.segments argument := by simp [segments]
    have hLess := w.total_follow_lt ⟨argument, hMem, hOther⟩
    rw [← splitSlashes_tail hWorded hKeeps hStart, hTotal, splitSlashes_tail hWorded hKeeps hStart, segments,
      load_append, load_cons] at hLess
    omega
  rw [not_or, Bool.not_eq_true, Bool.not_eq_true] at hPlain
  exact ⟨hKeeps, hPlain.1, hPlain.2⟩

/-- An argument is a segment of the path that decodes to it exactly if nothing of it gets lost. -/
theorem takes_iff_exists_segment (hWorded : template.IsWorded) (hStart : template.before ≠ [] ∨ argument ≠ [])
    (w : Walk) :
    template.Takes argument ↔
      ∃ segment, decoded segment = bytes argument ∧
        (w.followTail (template.tail argument)).segments = w.segments ++ template.segments segment := by
  constructor
  · intro hTakes
    refine ⟨_, ?_, segments_follow_of_takes hWorded hTakes hStart w⟩
    rw [decoded_escape_path, decoded_of_hasEscape_eq_false hTakes.escape]
  · rintro ⟨segment, hDecoded, hFollowed⟩
    exact takes_of_segments_follow hWorded hStart hFollowed hDecoded

end Template

end Scrobbler.Url
