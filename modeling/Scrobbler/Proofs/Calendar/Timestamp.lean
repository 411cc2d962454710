import Mathlib.Data.List.Basic
import Mathlib.Data.List.TakeWhile
import Scrobbler.Calendar.Timestamp
import Scrobbler.Proofs.Calendar.Date
import Scrobbler.Proofs.Json.Numeral

/-!
Shown times. What is shown of a time can be read back, and names a minute of the calendar that exists: the one
that the time lies in. Only times beyond the limits are shown as a hyphen.
-/

namespace Scrobbler

namespace Minute

/-- The number that digits stand for. -/
def number (digits : List Char) : Nat := Nat.ofDigitChars 10 digits 0

/-- Reads a year that has its sign in front, and what follows it: at least four digits, and then month, day,
hour and minute of two digits each. -/
def readFrom? (negative : Bool) (s : List Char) : Option Minute :=
  let year := s.takeWhile Char.isDigit
  match s.dropWhile Char.isDigit with
  | ['-', m, m', '-', d, d', ' ', h, h', ':', n, n'] =>
      if 4 ≤ year.length ∧ [m, m', d, d', h, h', n, n'].all Char.isDigit then
        some ⟨⟨if negative then -(number year : Int) else number year, number [m, m'], number [d, d']⟩,
          number [h, h'], number [n, n']⟩
      else none
  | _ => none

/-- Reads a minute: a year that may have a sign, month, day, hour and minute. -/
def read? : List Char → Option Minute
  | '-' :: s => readFrom? true s
  | '+' :: s => readFrom? false s
  | s => readFrom? false s

/-- The minute exists. -/
structure IsValid (m : Minute) : Prop where
  date : m.date.IsValid
  hour : m.hour < 24
  minute : m.minute < 60

/-- The minute lies that many minutes after 1970-01-01 00:00, or before it if the number is negative. -/
def LiesAt (m : Minute) (minutes : Int) : Prop :=
  ∃ days : Int, m.date.LiesAt days ∧ days * 1440 + m.hour * 60 + m.minute = minutes

section

variable {n length : Nat} {m : Minute}

theorem isDigit_of_mem_padded {c : Char} (h : c ∈ padded length n) : c.isDigit = true := by
  rcases List.mem_append.mp h with hZero | hDigit
  · rw [(List.mem_replicate.mp hZero).2]
    rfl
  · exact Json.Numeral.isDigit_of_mem_naturalChars hDigit

/-- Padding with zeros does not change the number that is read. -/
theorem number_padded (length n : Nat) : number (padded length n) = n := by
  rw [number, padded, Nat.ofDigitChars_append, Nat.ofDigitChars_replicate_zero, Nat.mul_zero]
  exact Nat.ofDigitChars_ten_toDigits

theorem le_length_padded (length n : Nat) : length ≤ (padded length n).length := by
  rw [padded, List.length_append, List.length_replicate]
  omega

/-- Small numbers are written with two digits. -/
theorem exists_padded_two (h : n < 100) :
    ∃ a b, padded 2 n = [a, b] ∧ a.isDigit = true ∧ b.isDigit = true ∧ number [a, b] = n := by
  have hDigits : (Json.naturalChars n).length ≤ 2 :=
    (Nat.length_toDigits_le_iff (by decide) (by decide)).mpr h
  have hLength : (padded 2 n).length = 2 := by
    rw [padded, List.length_append, List.length_replicate]
    omega
  obtain ⟨a, b, hPair⟩ := List.length_eq_two.mp hLength
  have hMem (c : Char) (hIn : c ∈ [a, b]) : c.isDigit = true := isDigit_of_mem_padded (hPair ▸ hIn)
  exact ⟨a, b, hPair, hMem a (by simp), hMem b (by simp), hPair ▸ number_padded 2 n⟩

/-- The digits of a year end where the hyphen follows. -/
theorem readFrom?_chars (hMonth : m.date.month < 100) (hDay : m.date.day < 100) (hHour : m.hour < 100)
    (hMinute : m.minute < 100) {negative : Bool}
    (hYear : (if negative then -(m.date.year.natAbs : Int) else m.date.year.natAbs) = m.date.year) :
    readFrom? negative (padded 4 m.date.year.natAbs ++ '-' :: padded 2 m.date.month ++
      '-' :: padded 2 m.date.day ++ ' ' :: padded 2 m.hour ++ ':' :: padded 2 m.minute) = some m := by
  obtain ⟨a, a', hMonthText, ha, ha', hMonthNumber⟩ := exists_padded_two hMonth
  obtain ⟨b, b', hDayText, hb, hb', hDayNumber⟩ := exists_padded_two hDay
  obtain ⟨c, c', hHourText, hc, hc', hHourNumber⟩ := exists_padded_two hHour
  obtain ⟨e, e', hMinuteText, he, he', hMinuteNumber⟩ := exists_padded_two hMinute
  let rest := ['-', a, a', '-', b, b', ' ', c, c', ':', e, e']
  have hText : padded 4 m.date.year.natAbs ++ '-' :: padded 2 m.date.month ++
      '-' :: padded 2 m.date.day ++ ' ' :: padded 2 m.hour ++ ':' :: padded 2 m.minute =
        padded 4 m.date.year.natAbs ++ rest := by
    simp [hMonthText, hDayText, hHourText, hMinuteText, rest]
  have hDigits : ∀ c ∈ padded 4 m.date.year.natAbs, c.isDigit = true := fun c => isDigit_of_mem_padded
  have hTake : (padded 4 m.date.year.natAbs ++ rest).takeWhile Char.isDigit = padded 4 m.date.year.natAbs := by
    rw [List.takeWhile_append_of_pos hDigits]
    exact List.append_nil _
  have hDrop : (padded 4 m.date.year.natAbs ++ rest).dropWhile Char.isDigit = rest :=
    List.dropWhile_append_of_pos hDigits
  have hAll : [a, a', b, b', c, c', e, e'].all Char.isDigit = true := by
    simp [ha, ha', hb, hb', hc, hc', he, he']
  rw [hText, readFrom?, hTake, hDrop]
  show (if _ then some _ else none) = _
  rw [if_pos ⟨le_length_padded _ _, hAll⟩, number_padded, hYear, hMonthNumber, hDayNumber, hHourNumber,
    hMinuteNumber]

theorem read?_of_isDigit {c : Char} (h : c.isDigit = true) (s : List Char) :
    read? (c :: s) = readFrom? false (c :: s) := by
  unfold read?
  split
  · next hMinus =>
      obtain ⟨rfl, -⟩ := List.cons.inj hMinus
      cases h
  · next hPlus =>
      obtain ⟨rfl, -⟩ := List.cons.inj hPlus
      cases h
  · rfl

/-- Whatever the year is, a minute with fields of two digits is read back. -/
theorem read?_chars (hMonth : m.date.month < 100) (hDay : m.date.day < 100) (hHour : m.hour < 100)
    (hMinute : m.minute < 100) : read? m.chars = some m := by
  unfold chars yearChars
  split
  · next hNegative =>
      have hYear : (if true then -(m.date.year.natAbs : Int) else m.date.year.natAbs) = m.date.year := by
        rw [if_pos rfl]
        omega
      exact readFrom?_chars hMonth hDay hHour hMinute hYear
  · next hNotNegative =>
      have hYear : (if false then -(m.date.year.natAbs : Int) else m.date.year.natAbs) = m.date.year := by
        rw [if_neg Bool.false_ne_true]
        omega
      have hRead := readFrom?_chars hMonth hDay hHour hMinute hYear
      split
      · exact hRead
      · have hLength := le_length_padded 4 m.date.year.natAbs
        have hDigits (c : Char) (hMem : c ∈ padded 4 m.date.year.natAbs) := isDigit_of_mem_padded hMem
        cases hText : padded 4 m.date.year.natAbs with
        | nil =>
            rw [hText] at hLength
            cases hLength
        | cons c digits =>
            rw [hText] at hRead hDigits
            exact (read?_of_isDigit (hDigits c List.mem_cons_self) _).trans hRead

theorem isValid_ofMinutes (minutes : Int) : (ofMinutes minutes).IsValid where
  date := Date.isValid_ofDays _
  hour := by
    simp only [ofMinutes]
    omega
  minute := by
    simp only [ofMinutes]
    omega

/-- A minute lies at one number of minutes only. -/
theorem liesAt_ofMinutes_iff {minutes other : Int} : (ofMinutes minutes).LiesAt other ↔ other = minutes := by
  simp only [LiesAt, ofMinutes, Date.liesAt_ofDays_iff, exists_eq_left]
  omega

/-- A minute of the calendar and of the clock is read back from what is written. -/
theorem IsValid.read?_chars (h : m.IsValid) : read? m.chars = some m := by
  obtain ⟨⟨-, hMonth, -, hDay⟩, hHour, hMinute⟩ := h
  have hLongest : Date.daysInMonth m.date.year m.date.month ≤ 31 := by
    unfold Date.daysInMonth
    split
    · split <;> decide
    all_goals decide
  exact Minute.read?_chars (by omega) (by omega) (by omega) (by omega)

theorem toMinutes_ofMinutes (minutes : Int) : (ofMinutes minutes).toMinutes = minutes := by
  simp only [ofMinutes, toMinutes, Date.toDays_ofDays]
  omega

/-- No two numbers of minutes have the same minute. -/
theorem ofMinutes_injective : Function.Injective ofMinutes :=
  Function.LeftInverse.injective toMinutes_ofMinutes

end

end Minute

namespace Timestamp

/-- The second lies within the limits of what is shown. -/
def IsShown (seconds : Int64) : Prop :=
  -8334601228800 ≤ seconds.toInt ∧ seconds.toInt ≤ 8210266876799

theorem format_of_isShown {seconds : Int64} (h : IsShown seconds) :
    format (some seconds) = String.ofList (Minute.ofMinutes (seconds.toInt / 60)).chars := if_pos h

theorem format_of_not_isShown {seconds : Int64} (h : ¬IsShown seconds) : format (some seconds) = "-" :=
  if_neg h

/-- The minute of a timestamp can be read back from what is shown. -/
theorem read?_format {seconds : Int64} (h : IsShown seconds) :
    Minute.read? (format (some seconds)).toList = some (Minute.ofMinutes (seconds.toInt / 60)) := by
  rw [format_of_isShown h, String.toList_ofList]
  exact (Minute.isValid_ofMinutes _).read?_chars

/-- What is shown of a time in seconds. It is a hyphen exactly if the time lies beyond the limits. Otherwise
the text is read as a minute that exists, and that lies as many minutes from 1970-01-01 00:00 as whole
minutes have passed, no more and no fewer; and two times are shown alike exactly if they lie in one minute. -/
theorem format_names_minute (seconds : Int64) :
    (format (some seconds) = "-" ↔ ¬IsShown seconds) ∧
      (IsShown seconds → ∃ m, Minute.read? (format (some seconds)).toList = some m ∧ m.IsValid ∧
        ∀ minutes, m.LiesAt minutes ↔ minutes = seconds.toInt / 60) ∧
      (IsShown seconds → ∀ other, IsShown other →
        (format (some seconds) = format (some other) ↔ seconds.toInt / 60 = other.toInt / 60)) := by
  refine ⟨?_, ?_, ?_⟩
  · constructor
    · intro hHyphen hShown
      have hRead := read?_format hShown
      rw [hHyphen] at hRead
      cases hRead
    · exact format_of_not_isShown
  · intro hShown
    exact ⟨_, read?_format hShown, Minute.isValid_ofMinutes _, fun minutes => Minute.liesAt_ofMinutes_iff⟩
  · intro hShown other hOther
    constructor
    · intro hSame
      have hRead := read?_format hShown
      rw [hSame, read?_format hOther] at hRead
      exact Minute.ofMinutes_injective (Option.some.inj hRead).symm
    · intro hSame
      rw [format_of_isShown hShown, format_of_isShown hOther, hSame]

/-- The last second of the leap day of the year zero. -/
theorem format_names_minute_of_leap_day :
    IsShown (-62162035201) ∧ format (some (-62162035201)) = "0000-02-29 23:59" ∧
      ∃ m, Minute.read? "0000-02-29 23:59".toList = some m ∧ m.IsValid ∧ m.LiesAt (-1036033921) := by
  have hShown : IsShown (-62162035201) := by
    unfold IsShown
    decide
  have hText : format (some (-62162035201)) = "0000-02-29 23:59" := by decide +kernel
  obtain ⟨m, hRead, hValid, hMinutes⟩ := (format_names_minute (-62162035201)).2.1 hShown
  rw [hText] at hRead
  exact ⟨hShown, hText, m, hRead, hValid, (hMinutes _).mpr rfl⟩

end Timestamp

end Scrobbler
