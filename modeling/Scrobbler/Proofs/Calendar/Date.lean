import Mathlib.Logic.Function.Iterate
import Mathlib.Order.Monotone.Basic
import Mathlib.Tactic.Common
import Mathlib.Tactic.IntervalCases
import Scrobbler.Calendar.Date

/-!
Counting days. The date of a day number is the one that is reached from 1970-01-01 by going on, or back, day
by day with the rules of the Gregorian calendar. The way there leads through years that start in March: the
leap day is then the last of its year, and a day is known by its year and its place in the year.
-/

namespace Scrobbler.Date

/-- 1970-01-01. -/
def epoch : Date := ⟨1970, 1, 1⟩

/-- The day after a day. -/
def next (d : Date) : Date :=
  if d.day < daysInMonth d.year d.month then { d with day := d.day + 1 }
  else if d.month < 12 then ⟨d.year, d.month + 1, 1⟩
  else ⟨d.year + 1, 1, 1⟩

/-- The day lies that many days after 1970-01-01, or before it if the number is negative: one is reached from
the other by going from each day to the next. -/
def LiesAt (d : Date) (days : Int) : Prop := next^[days.toNat] epoch = next^[(-days).toNat] d

/-- The days from 0000-03-01 to the March in which the year `y` starts. -/
def yearStart (y : Int) : Int := 365 * y + y / 4 - y / 100 + y / 400

/-- The days of a year that starts in March. -/
def yearLength (y : Int) : Nat := if isLeapYear (y + 1) then 366 else 365

/-- The days of a year before its month `m`, counted from March. -/
def monthStart (m : Nat) : Nat := (153 * m + 2) / 5

/-- The month to which a day of a year belongs, counted from March. -/
def monthOfYear (day : Nat) : Nat := (5 * day + 2) / 153

/-- The date of a day of a year that starts in March. -/
def ofMarch (y : Int) (day : Nat) : Date :=
  if monthOfYear day < 10 then ⟨y, monthOfYear day + 3, day - monthStart (monthOfYear day) + 1⟩
  else ⟨y + 1, monthOfYear day - 9, day - monthStart (monthOfYear day) + 1⟩

section

variable {y : Int} {m day : Nat}

/-- Years follow each other without a gap. -/
theorem yearStart_succ (y : Int) : yearStart (y + 1) = yearStart y + yearLength y := by
  unfold yearStart yearLength isLeapYear
  grind

theorem yearLength_le (y : Int) : yearLength y ≤ 366 := by
  unfold yearLength
  split <;> omega

theorem le_yearLength (y : Int) : 365 ≤ yearLength y := by
  unfold yearLength
  split <;> omega

theorem yearStart_mono {z : Int} (h : y ≤ z) : yearStart y ≤ yearStart z := by
  refine monotone_int_of_le_succ (fun y => ?_) h
  rw [yearStart_succ]
  omega

/-- A day belongs to one year only. -/
theorem year_unique {z : Int} {other : Nat} (hDay : day < yearLength y) (hOther : other < yearLength z)
    (h : yearStart y + day = yearStart z + other) : y = z ∧ day = other := by
  have hSame : y = z := by
    rcases lt_trichotomy y z with hLess | hSame | hLess
    · have hStart := yearStart_mono (Int.add_one_le_of_lt hLess)
      rw [yearStart_succ] at hStart
      omega
    · exact hSame
    · have hStart := yearStart_mono (Int.add_one_le_of_lt hLess)
      rw [yearStart_succ] at hStart
      omega
  subst hSame
  exact ⟨rfl, by omega⟩

/-- The month of a day is the last one that has started by then. -/
theorem le_monthOfYear_iff : m ≤ monthOfYear day ↔ monthStart m ≤ day := by
  unfold monthOfYear monthStart
  omega

/-- The month of a day is one of the twelve, and the day lies in it. -/
theorem monthOfYear_spec (h : day < 366) :
    monthOfYear day < 12 ∧ monthStart (monthOfYear day) ≤ day ∧ day < monthStart (monthOfYear day + 1) := by
  have hThis : monthStart (monthOfYear day) ≤ day := le_monthOfYear_iff.mp le_rfl
  have hNext : ¬monthStart (monthOfYear day + 1) ≤ day := le_monthOfYear_iff.not.mp (by omega)
  refine ⟨?_, hThis, by omega⟩
  unfold monthOfYear
  omega

theorem monthOfYear_eq (hStart : monthStart m ≤ day) (hEnd : day < monthStart (m + 1)) :
    monthOfYear day = m := by
  have hThis := le_monthOfYear_iff.mpr hStart
  have hNext := le_monthOfYear_iff.not.mpr hEnd.not_ge
  omega

/-- February has the days that the other months leave. -/
theorem daysInMonth_february (y : Int) : daysInMonth (y + 1) 2 + 337 = yearLength y := by
  rw [daysInMonth, yearLength]
  split <;> rfl

end

/-! ### Years of an era -/

section

variable {day y : Nat}

/-- The days of an era up to a day, without the leap days. -/
def commonDays (day : Nat) : Nat := day - day / 1460 + day / 36524 - day / 146096

/-- The year of an era to which a day of the era belongs. -/
def yearOfEra (day : Nat) : Nat := commonDays day / 365

/-- The days of an era stay in order without its leap days. -/
theorem commonDays_monotone : Monotone commonDays := by
  apply monotone_nat_of_le_succ
  intro day
  unfold commonDays
  omega

/-- A year starts where the days that are no leap days fill all years before it. -/
theorem commonDays_yearStart : ∀ y : Nat, y ≤ 400 → commonDays (yearStart y).toNat = 365 * y ∧
    (0 < y → commonDays ((yearStart y).toNat - 1) < 365 * y) := by
  decide +kernel

/-- The year of a day in its era is the last one that has started by then. -/
theorem le_yearOfEra_iff (hYear : y ≤ 400) : y ≤ yearOfEra day ↔ yearStart y ≤ day := by
  obtain ⟨hStart, hBefore⟩ := commonDays_yearStart y hYear
  have hCount : y ≤ yearOfEra day ↔ 365 * y ≤ commonDays day := by
    rw [Nat.mul_comm]
    exact Nat.le_div_iff_mul_le (by decide)
  rw [hCount]
  constructor
  · intro hDays
    by_contra hEarly
    have hPos : 0 < y := by
      rcases Nat.eq_zero_or_pos y with rfl | hPos
      · exact absurd (Int.natCast_nonneg day) hEarly
      · exact hPos
    have hLast := commonDays_monotone (show day ≤ (yearStart y).toNat - 1 by omega)
    exact absurd (hBefore hPos) (by omega)
  · intro hLate
    exact hStart ▸ commonDays_monotone (by omega)

/-- The year of a day is one of the 400 of its era, and the day lies in it. -/
theorem yearOfEra_spec (h : day < daysPerEra) :
    yearOfEra day < 400 ∧ yearStart (yearOfEra day) ≤ day ∧ day < yearStart (yearOfEra day + 1) := by
  have hEnd : 400 ≤ yearOfEra day ↔ yearStart (400 : Nat) ≤ day := le_yearOfEra_iff le_rfl
  have hLength : yearStart (400 : Nat) = daysPerEra := rfl
  have hYear : yearOfEra day < 400 := by omega
  have hThis : yearStart (yearOfEra day) ≤ day := (le_yearOfEra_iff hYear.le).mp le_rfl
  have hNext : ¬yearStart (yearOfEra day + 1 : Nat) ≤ day := (le_yearOfEra_iff hYear).not.mp (by omega)
  exact ⟨hYear, hThis, not_le.mp hNext⟩

/-- All eras are alike. -/
theorem yearStart_era (era : Int) (y : Int) : yearStart (era * 400 + y) = era * daysPerEra + yearStart y := by
  have hLength : (daysPerEra : Int) = 146097 := rfl
  rw [hLength]
  unfold yearStart
  omega

theorem yearLength_era (era : Int) (y : Int) : yearLength (era * 400 + y) = yearLength y := by
  have hThis := yearStart_succ (era * 400 + y)
  rw [Int.add_assoc, yearStart_era, yearStart_era, yearStart_succ y] at hThis
  omega

end

/-! ### Dates of days -/

section

variable {y : Int} {day : Nat} {d : Date}

/-- January and February are the last months of a year that starts in March. -/
theorem ofMarch_eq (hDay : day < 366) :
    ofMarch y day =
      let month := if monthOfYear day < 10 then monthOfYear day + 3 else monthOfYear day - 9
      ⟨y + (if month ≤ 2 then 1 else 0), month, day - monthStart (monthOfYear day) + 1⟩ := by
  obtain ⟨hMonth, -, -⟩ := monthOfYear_spec hDay
  unfold ofMarch
  by_cases hEarly : monthOfYear day < 10
  · have hNot : ¬monthOfYear day + 3 ≤ 2 := by omega
    simp only [hEarly, hNot, if_true, if_false, Int.add_zero]
  · have hFirst : monthOfYear day - 9 ≤ 2 := by omega
    simp only [hEarly, hFirst, if_true, if_false]

/-- The date of a day number is the date of a day of a year. -/
theorem exists_ofDays (days : Int) :
    ∃ y day, day < yearLength y ∧ yearStart y + day = days + epochShift ∧ ofDays days = ofMarch y day := by
  have hEra : (0 : Int) < daysPerEra := by decide
  have hLow := Int.emod_nonneg (days + epochShift) hEra.ne'
  have hHigh := Int.emod_lt_of_pos (days + epochShift) hEra
  have hSplit := Int.ediv_mul_add_emod (days + epochShift) daysPerEra
  obtain ⟨place, hPlace⟩ := Int.eq_ofNat_of_zero_le hLow
  obtain ⟨hYear, hStart, hEnd⟩ := yearOfEra_spec (show place < daysPerEra by omega)
  generalize hEraOf : (days + epochShift) / daysPerEra = era at hSplit
  obtain ⟨day, hInYear⟩ := Int.le.dest hStart
  have hDay : day < yearLength (era * 400 + yearOfEra place) := by
    rw [yearLength_era]
    rw [yearStart_succ] at hEnd
    omega
  refine ⟨era * 400 + yearOfEra place, day, hDay, ?_, ?_⟩
  · rw [yearStart_era]
    omega
  · have hPlaceNat : ((days + epochShift) % daysPerEra).toNat = place := by omega
    have hDayNat : place - (365 * yearOfEra place + yearOfEra place / 4 - yearOfEra place / 100) = day := by
      unfold yearStart at hInYear
      omega
    rw [ofMarch_eq (hDay.trans_le (yearLength_le _)), ← hDayNat, ← hPlaceNat, ← hEraOf]
    rfl

/-- The number of a date counts the days before its year, before its month, and before its day. -/
theorem toDays_eq (d : Date) :
    d.toDays = yearStart (if d.month ≤ 2 then d.year - 1 else d.year) +
      (monthStart (if d.month ≤ 2 then d.month + 9 else d.month - 3) + (d.day - 1) : Nat) - epochShift := by
  unfold toDays
  generalize (if d.month ≤ 2 then d.year - 1 else d.year) = year
  generalize (if d.month ≤ 2 then d.month + 9 else d.month - 3) = month
  have hStart := yearStart_era (year / 400) (year % 400)
  rw [Int.ediv_mul_add_emod] at hStart
  rw [hStart]
  unfold yearStart monthStart
  dsimp only
  omega

/-- The date of a day in a year that starts in March has the number of that day. -/
theorem toDays_ofMarch (hDay : day < 366) : (ofMarch y day).toDays = yearStart y + day - epochShift := by
  obtain ⟨hMonth, hStart, -⟩ := monthOfYear_spec hDay
  rw [toDays_eq]
  unfold ofMarch
  generalize monthOfYear day = m at *
  split
  · have hNot : ¬m + 3 ≤ 2 := by omega
    simp only [hNot, if_false, Nat.add_sub_cancel, Nat.add_sub_cancel' hStart]
  · have hFirst : m - 9 ≤ 2 := by omega
    have hBack : m - 9 + 9 = m := by omega
    simp only [hFirst, if_true, hBack, Nat.add_sub_cancel, Int.add_sub_cancel, Nat.add_sub_cancel' hStart]

/-- The day of a year with which a month ends, counted from March. -/
def monthEnd (y : Int) (m : Nat) : Nat := if m = 11 then yearLength y else monthStart (m + 1)

/-- A month ends where the next one starts, February with its own length. -/
theorem daysInMonth_ofMarch (hDay : day < 366) :
    monthStart (monthOfYear day) + daysInMonth (ofMarch y day).year (ofMarch y day).month =
      monthEnd y (monthOfYear day) := by
  obtain ⟨hMonth, -, -⟩ := monthOfYear_spec hDay
  unfold ofMarch
  generalize monthOfYear day = m at *
  interval_cases m
  case «11» =>
    rw [monthEnd, if_pos rfl, ← daysInMonth_february, Nat.add_comm]
    rfl
  all_goals rfl

theorem day_ofMarch (y : Int) (day : Nat) :
    (ofMarch y day).day = day - monthStart (monthOfYear day) + 1 := by
  unfold ofMarch
  split <;> rfl

/-- A day of a year lies before the end of its month. -/
theorem lt_monthEnd (hDay : day < yearLength y) : day < monthEnd y (monthOfYear day) := by
  obtain ⟨-, -, hEnd⟩ := monthOfYear_spec (hDay.trans_le (yearLength_le y))
  unfold monthEnd
  split
  · exact hDay
  · exact hEnd

/-- Each day of a year has a date of the calendar. -/
theorem isValid_ofMarch (hDay : day < yearLength y) : (ofMarch y day).IsValid := by
  have hBound := hDay.trans_le (yearLength_le y)
  obtain ⟨hMonth, hStart, -⟩ := monthOfYear_spec hBound
  have hLength := daysInMonth_ofMarch (y := y) hBound
  have hEnd := lt_monthEnd hDay
  have hDayOf := day_ofMarch y day
  have hMonthOf : 1 ≤ (ofMarch y day).month ∧ (ofMarch y day).month ≤ 12 := by
    unfold ofMarch
    split <;> dsimp only <;> omega
  exact ⟨hMonthOf.1, hMonthOf.2, by omega, by omega⟩

/-- A day has the number of its date. -/
theorem toDays_ofDays (days : Int) : (ofDays days).toDays = days := by
  obtain ⟨y, day, hDay, hPlace, hDate⟩ := exists_ofDays days
  rw [hDate, toDays_ofMarch (hDay.trans_le (yearLength_le y)), hPlace]
  omega

/-- The date of a day is one of the calendar. -/
theorem isValid_ofDays (days : Int) : (ofDays days).IsValid := by
  obtain ⟨y, day, hDay, -, hDate⟩ := exists_ofDays days
  exact hDate ▸ isValid_ofMarch hDay

/-- Within a month the day is counted on. -/
theorem next_ofMarch_of_lt (hDay : day < 366) (hInside : day + 1 < monthEnd y (monthOfYear day))
    (hStop : day + 1 < monthStart (monthOfYear day + 1)) : (ofMarch y day).next = ofMarch y (day + 1) := by
  obtain ⟨-, hStart, -⟩ := monthOfYear_spec hDay
  have hLength := daysInMonth_ofMarch (y := y) hDay
  have hSame : monthOfYear (day + 1) = monthOfYear day := monthOfYear_eq (by omega) hStop
  have hMore : (ofMarch y day).day < daysInMonth (ofMarch y day).year (ofMarch y day).month := by
    rw [day_ofMarch]
    omega
  have hMonth : (ofMarch y (day + 1)).year = (ofMarch y day).year ∧
      (ofMarch y (day + 1)).month = (ofMarch y day).month := by
    unfold ofMarch
    rw [hSame]
    split <;> exact ⟨rfl, rfl⟩
  have hDays : (ofMarch y (day + 1)).day = (ofMarch y day).day + 1 := by
    rw [day_ofMarch, day_ofMarch, hSame]
    omega
  rw [next, if_pos hMore, ← hMonth.1, ← hMonth.2, ← hDays]

/-- The first day of a month. -/
theorem ofMarch_monthStart (y : Int) (m : Nat) :
    ofMarch y (monthStart m) = if m < 10 then ⟨y, m + 3, 1⟩ else ⟨y + 1, m - 9, 1⟩ := by
  have hSame : monthOfYear (monthStart m) = m := by
    apply monthOfYear_eq le_rfl
    unfold monthStart
    omega
  rw [ofMarch, hSame, Nat.sub_self]

/-- After the last day of a month comes the first day of the next one. -/
theorem next_ofMarch_of_last (hDay : day < 366) (hLast : day + 1 = monthEnd y (monthOfYear day)) :
    (ofMarch y day).next =
      if monthOfYear day = 11 then ofMarch (y + 1) (monthStart 0)
      else ofMarch y (monthStart (monthOfYear day + 1)) := by
  obtain ⟨hMonth, hStart, -⟩ := monthOfYear_spec hDay
  have hLength := daysInMonth_ofMarch (y := y) hDay
  have hFull : ¬(ofMarch y day).day < daysInMonth (ofMarch y day).year (ofMarch y day).month := by
    rw [day_ofMarch]
    omega
  rw [next, if_neg hFull, ofMarch_monthStart, ofMarch_monthStart, ofMarch]
  generalize monthOfYear day = m at hMonth
  interval_cases m <;> rfl

/-- The next date is that of the next day, which may be the first of the next year. -/
theorem next_ofMarch (hDay : day < yearLength y) :
    (ofMarch y day).next = if day + 1 < yearLength y then ofMarch y (day + 1) else ofMarch (y + 1) 0 := by
  have hBound := hDay.trans_le (yearLength_le y)
  obtain ⟨hMonth, -, hStop⟩ := monthOfYear_spec hBound
  have hEnd := lt_monthEnd hDay
  have hLeast := le_yearLength y
  by_cases hFebruary : monthOfYear day = 11
  · have hYear : monthEnd y (monthOfYear day) = yearLength y := if_pos hFebruary
    split
    · next hMore =>
        refine next_ofMarch_of_lt hBound (by omega) ?_
        rw [hFebruary]
        exact hMore.trans_le ((yearLength_le y).trans (by decide))
    · next hNone =>
        rw [next_ofMarch_of_last hBound (by omega), if_pos hFebruary]
        rfl
  · -- All other months end before the year does.
    have hNext : monthEnd y (monthOfYear day) = monthStart (monthOfYear day + 1) := if_neg hFebruary
    have hBefore : monthStart (monthOfYear day + 1) ≤ 337 := by
      unfold monthStart
      omega
    rw [if_pos (by omega)]
    rcases Nat.lt_or_ge (day + 1) (monthStart (monthOfYear day + 1)) with hInside | hOutside
    · exact next_ofMarch_of_lt hBound (by omega) hInside
    · rw [next_ofMarch_of_last hBound (by omega), if_neg hFebruary]
      congr 1
      omega

/-- The date of the next day is the next date. -/
theorem ofDays_succ (days : Int) : ofDays (days + 1) = (ofDays days).next := by
  obtain ⟨y, day, hDay, hPlace, hDate⟩ := exists_ofDays days
  obtain ⟨z, other, hOther, hOtherPlace, hOtherDate⟩ := exists_ofDays (days + 1)
  rw [hDate, hOtherDate, next_ofMarch hDay]
  split
  · next hMore =>
      obtain ⟨rfl, rfl⟩ := year_unique hOther hMore (by omega)
      rfl
  · next hLast =>
      have hFirst : 0 < yearLength (y + 1) := Nat.lt_of_lt_of_le (by decide) (le_yearLength (y + 1))
      have hStart := yearStart_succ y
      obtain ⟨rfl, rfl⟩ := year_unique hOther hFirst (by omega)
      rfl

/-- Going on date by date is going on day by day; by induction on the days. -/
theorem iterate_next_ofDays (days : Int) (count : Nat) :
    next^[count] (ofDays days) = ofDays (days + count) := by
  induction count with
  | zero => simp
  | succ count ih =>
      rw [Function.iterate_succ_apply', ih, ← ofDays_succ, Int.natCast_succ, Int.add_assoc]

/-- No two days have the same date. -/
theorem ofDays_injective : Function.Injective ofDays :=
  Function.LeftInverse.injective toDays_ofDays

/-- Day numbers count the days from 1970-01-01 on, and back: going on from there one comes to no day twice. -/
theorem liesAt_ofDays_iff {days other : Int} : (ofDays days).LiesAt other ↔ other = days := by
  have hEpoch : epoch = ofDays 0 := by decide
  rw [LiesAt, hEpoch, iterate_next_ofDays, iterate_next_ofDays, ofDays_injective.eq_iff]
  omega

end

end Scrobbler.Date
