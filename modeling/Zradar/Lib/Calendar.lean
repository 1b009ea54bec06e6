import Mathlib.Tactic

/-! The proleptic Gregorian calendar: dates of days, days of dates, starts of months, and texts. -/

namespace Zradar.Calendar

/-- A date, with the months and the days of a month counted from one. -/
structure Date where
  year : Int
  month : Nat
  day : Nat
  deriving DecidableEq, Repr

def isLeap (year : Int) : Bool :=
  year % 4 = 0 ∧ (year % 100 ≠ 0 ∨ year % 400 = 0)

/-- The days from the start of the year 1 to the end of a year. -/
def daysThrough (year : Int) : Int := 365 * year + year / 4 - year / 100 + year / 400

/-- The year of a day, where day 0 starts the year 1. -/
def yearOf (day : Int) : Int :=
  -- The mean length of a year gives its number, or the one before.
  let before := 400 * day / 146097
  if daysThrough (before + 1) ≤ day then before + 2 else before + 1

/-- The lengths of the months of a year. -/
def monthLengths (leap : Bool) : List Nat :=
  [31, if leap then 29 else 28, 31, 30, 31, 30, 31, 31, 30, 31, 30, 31]

/-- The piece that a position lies in, for pieces of some lengths in a row, and the place in it. -/
def locate : List Nat → Nat → Nat × Nat
  | [], position => (0, position)
  | length :: lengths, position =>
    if position < length then (0, position)
    else ((locate lengths (position - length)).1 + 1, (locate lengths (position - length)).2)

/-- The day from which days are counted, in days from the start of the year 1. -/
def unixEpochDay : Int := 719162

/-- The date of a day since the epoch. -/
def dateOf (days : Int) : Date :=
  let day := days + unixEpochDay
  let year := yearOf day
  let inYear := locate (monthLengths (isLeap year)) (day - daysThrough (year - 1)).toNat
  ⟨year, inYear.1 + 1, inYear.2 + 1⟩

/-- The day of a date, since the epoch. -/
def dayOf (date : Date) : Int :=
  daysThrough (date.year - 1) +
    ((monthLengths (isLeap date.year)).take (date.month - 1)).sum + (date.day - 1 : Nat) -
      unixEpochDay

/-- The day on which the month of a day starts. -/
def monthStart (days : Int) : Int := dayOf { dateOf days with day := 1 }

/-- A date that is in the calendar. -/
structure Date.Valid (date : Date) : Prop where
  month : 1 ≤ date.month
  first : 1 ≤ date.day
  /-- The month is one of the twelve, and has the day. -/
  last : ∃ length, (monthLengths (isLeap date.year))[date.month - 1]? = some length ∧
    date.day ≤ length

theorem daysThrough_succ (year : Int) :
    daysThrough year = daysThrough (year - 1) + if isLeap year then 366 else 365 := by
  unfold daysThrough isLeap
  split
  · rename_i leap
    simp only [decide_eq_true_eq] at leap
    omega
  · rename_i plain
    simp only [decide_eq_true_eq] at plain
    omega

/-- A day lies in its year. -/
theorem yearOf_spec (day : Int) :
    daysThrough (yearOf day - 1) ≤ day ∧ day < daysThrough (yearOf day) := by
  -- The mean length of a year finds the year or the one before, and a comparison tells which.
  unfold yearOf
  dsimp only
  split
  · rename_i later
    constructor
    · rw [show 400 * day / 146097 + 2 - 1 = 400 * day / 146097 + 1 by omega]
      exact later
    · unfold daysThrough
      omega
  · rename_i same
    refine ⟨?_, by omega⟩
    unfold daysThrough
    omega

/-- And in no other one. -/
theorem yearOf_eq {year day : Int} (after : daysThrough (year - 1) ≤ day)
    (before : day < daysThrough year) : yearOf day = year := by
  obtain ⟨start, stop⟩ := yearOf_spec day
  -- A day in an earlier or a later year would lie outside of the bounds.
  have mono {early late : Int} (order : early ≤ late) : daysThrough early ≤ daysThrough late := by
    unfold daysThrough
    omega
  rcases lt_trichotomy (yearOf day) year with earlier | same | later
  · have := mono (show yearOf day ≤ year - 1 by omega)
    omega
  · exact same
  · have := mono (show year ≤ yearOf day - 1 by omega)
    omega

/-- A position within some pieces lies in one of them, behind those before it. -/
theorem locate_spec {lengths : List Nat} {position : Nat} (inside : position < lengths.sum) :
    ∃ length, lengths[(locate lengths position).1]? = some length ∧
      (locate lengths position).2 < length ∧
      (lengths.take (locate lengths position).1).sum + (locate lengths position).2 = position := by
  induction lengths generalizing position with
  | nil => exact absurd inside (Nat.not_lt_zero _)
  | cons length lengths ih =>
    rw [locate]
    rw [List.sum_cons] at inside
    split
    · rename_i here
      exact ⟨length, rfl, here, by simp⟩
    · -- The first piece is passed.
      rename_i passed
      obtain ⟨found, listed, place, total⟩ := ih (show position - length < lengths.sum by omega)
      refine ⟨found, by simpa using listed, place, ?_⟩
      dsimp only
      rw [List.take_succ_cons, List.sum_cons]
      omega

/-- A place in a piece is a position within all of them. -/
theorem lt_sum_of_place {lengths : List Nat} {index length place : Nat}
    (listed : lengths[index]? = some length) (inside : place < length) :
    (lengths.take index).sum + place < lengths.sum := by
  obtain ⟨bound, found⟩ := List.getElem?_eq_some_iff.mp listed
  have parts := List.sum_take_add_sum_drop lengths index
  rw [List.drop_eq_getElem_cons bound, List.sum_cons, found] at parts
  omega

/-- A place in a piece is found there. -/
theorem locate_eq {lengths : List Nat} {index length place : Nat}
    (listed : lengths[index]? = some length) (inside : place < length) :
    locate lengths ((lengths.take index).sum + place) = (index, place) := by
  -- The pieces in front are passed one after another, as the recursion does.
  induction lengths generalizing index with
  | nil => simp at listed
  | cons first lengths ih =>
    cases index with
    | zero =>
      rw [List.getElem?_cons_zero, Option.some.injEq] at listed
      simp only [List.take_zero, List.sum_nil, Nat.zero_add]
      rw [locate, if_pos (by omega)]
    | succ index =>
      rw [List.getElem?_cons_succ] at listed
      rw [List.take_succ_cons, List.sum_cons, locate, if_neg (by omega),
        show first + (lengths.take index).sum + place - first = (lengths.take index).sum + place
          by omega, ih listed]

theorem sum_monthLengths (leap : Bool) :
    (monthLengths leap).sum = if leap then 366 else 365 := by
  cases leap <;> rfl

variable (days : Int)

/-- The place of a day in its year. -/
theorem dateOf_inYear : ∃ place : Nat,
    days + unixEpochDay = daysThrough ((dateOf days).year - 1) + place ∧
      place < (monthLengths (isLeap (dateOf days).year)).sum ∧
      dateOf days = ⟨(dateOf days).year,
        (locate (monthLengths (isLeap (dateOf days).year)) place).1 + 1,
        (locate (monthLengths (isLeap (dateOf days).year)) place).2 + 1⟩ := by
  have year : (dateOf days).year = yearOf (days + unixEpochDay) := rfl
  obtain ⟨start, stop⟩ := yearOf_spec (days + unixEpochDay)
  rw [daysThrough_succ] at stop
  refine ⟨(days + unixEpochDay - daysThrough (yearOf (days + unixEpochDay) - 1)).toNat, ?_, ?_, rfl⟩
  · rw [year]
    omega
  · rw [year, sum_monthLengths]
    split at stop <;> rename_i leap <;> simp only [leap] <;> simp <;> omega

/-- The day of the date of a day is that day. -/
theorem dayOf_dateOf : dayOf (dateOf days) = days := by
  obtain ⟨place, position, inside, date⟩ := dateOf_inYear days
  obtain ⟨length, listed, within, total⟩ := locate_spec inside
  rw [date, dayOf]
  simp only [Nat.add_sub_cancel]
  omega

/-- The dates of days are in the calendar. -/
theorem dateOf_valid : (dateOf days).Valid := by
  -- Each bound is one of the day in its year or of its place among the months.
  obtain ⟨place, -, inside, date⟩ := dateOf_inYear days
  obtain ⟨length, listed, within, -⟩ := locate_spec inside
  refine ⟨?_, ?_, length, ?_, ?_⟩
  · rw [date]
    exact Nat.succ_pos _
  · rw [date]
    exact Nat.succ_pos _
  · rw [date]
    exact listed
  · rw [date]
    exact within

/-- A date of the calendar is the date of its day. -/
theorem dateOf_dayOf {date : Date} (valid : date.Valid) : dateOf (dayOf date) = date := by
  obtain ⟨month, first, length, listed, last⟩ := valid
  obtain ⟨year, number, day⟩ := date
  dsimp only at month first listed last
  -- The day lies in the year of the date, at the place that its month and day give.
  have place : locate (monthLengths (isLeap year))
      (((monthLengths (isLeap year)).take (number - 1)).sum + (day - 1)) = (number - 1, day - 1) :=
    locate_eq listed (by omega)
  have within : ((monthLengths (isLeap year)).take (number - 1)).sum + (day - 1) <
      (monthLengths (isLeap year)).sum :=
    lt_sum_of_place listed (by omega)
  generalize inYear : ((monthLengths (isLeap year)).take (number - 1)).sum + (day - 1) = position
    at place within
  have start : dayOf ⟨year, number, day⟩ + unixEpochDay = daysThrough (year - 1) + position := by
    unfold dayOf
    dsimp only
    omega
  have same : yearOf (dayOf ⟨year, number, day⟩ + unixEpochDay) = year := by
    rw [start]
    apply yearOf_eq
    · omega
    · rw [daysThrough_succ year]
      rw [sum_monthLengths] at within
      split_ifs at within ⊢ <;> omega
  unfold dateOf
  dsimp only
  rw [same, start, add_sub_cancel_left, Int.toNat_natCast, place]
  simp only [Date.mk.injEq, true_and]
  omega

/-- Two days with one date are one day. -/
theorem dateOf_injective : Function.Injective dateOf :=
  Function.LeftInverse.injective dayOf_dateOf

/-- The month of a day starts on the first of that month. -/
theorem dateOf_monthStart : dateOf (monthStart days) = { dateOf days with day := 1 } := by
  obtain ⟨month, first, length, listed, last⟩ := dateOf_valid days
  exact dateOf_dayOf ⟨month, le_refl 1, length, listed, by dsimp only; omega⟩

/-- It starts as many days before as the date says. -/
theorem monthStart_add : monthStart days + ((dateOf days).day - 1 : Nat) = days := by
  have whole := dayOf_dateOf days
  unfold dayOf at whole
  unfold monthStart dayOf
  dsimp only
  omega

/-- Days have one start of their month exactly if they are of one year and month. -/
theorem monthStart_eq_iff {days other : Int} :
    monthStart days = monthStart other ↔
      (dateOf days).year = (dateOf other).year ∧ (dateOf days).month = (dateOf other).month := by
  -- The start of a month is itself a day, and its date says which month it starts.
  constructor
  · intro same
    have dates := congrArg dateOf same
    rw [dateOf_monthStart, dateOf_monthStart] at dates
    simp only [Date.mk.injEq, and_true] at dates
    exact dates
  · rintro ⟨year, month⟩
    show dayOf ⟨(dateOf days).year, (dateOf days).month, 1⟩ =
      dayOf ⟨(dateOf other).year, (dateOf other).month, 1⟩
    rw [year, month]

/-- The start of a month is that of its own month. -/
theorem monthStart_monthStart : monthStart (monthStart days) = monthStart days := by
  rw [monthStart_eq_iff, dateOf_monthStart]
  exact ⟨rfl, rfl⟩

/-- The digits of a number, with zeros in front up to a width. -/
def padded (width number : Nat) : List Char := (Nat.toDigits 10 number).leftpad width '0'

theorem length_padded {width number : Nat} (small : number < 10 ^ width) (positive : 0 < width) :
    (padded width number).length = width := by
  rw [padded, List.length_leftpad]
  exact Nat.max_eq_left ((Nat.length_toDigits_le_iff (by decide) positive).mpr small)

/-- The zeros in front do not change what is read. -/
theorem padded_injective {width first second : Nat}
    (same : padded width first = padded width second) : first = second := by
  have read (number : Nat) : Nat.ofDigitChars 10 (padded width number) 0 = number := by
    rw [padded, List.leftpad, Nat.ofDigitChars_append, Nat.ofDigitChars_replicate_zero,
      Nat.mul_zero, Nat.ofDigitChars_ten_toDigits]
  rw [← read first, same, read]

/-- The text of a year: four digits, and a sign outside of the years with four digits. -/
def yearText (year : Int) : List Char :=
  if 0 ≤ year ∧ year ≤ 9999 then padded 4 year.toNat
  else (if year < 0 then '-' else '+') :: padded 4 year.natAbs

/-- The text of a date and an hour, with slashes between its parts. -/
def dateHourText (date : Date) (hour : Nat) : List Char :=
  yearText date.year ++ '/' :: (padded 2 date.month ++ '/' :: (padded 2 date.day ++
    '/' :: padded 2 hour))

theorem Date.Valid.small {date : Date} (valid : date.Valid) :
    date.month < 10 ^ 2 ∧ date.day < 10 ^ 2 := by
  obtain ⟨-, -, length, listed, last⟩ := valid
  obtain ⟨bound, found⟩ := List.getElem?_eq_some_iff.mp listed
  have twelve : (monthLengths (isLeap date.year)).length = 12 := by
    cases isLeap date.year <;> rfl
  have most : length ≤ 31 := by
    have each : ∀ leap, ∀ days ∈ monthLengths leap, days ≤ 31 := by decide
    exact each _ length (List.mem_of_getElem? listed)
  omega

/-- Texts of dates with a year of four digits determine the date and the hour. -/
theorem dateHourText_injective {first second : Date} {hour other : Nat}
    (valid : first.Valid) (otherValid : second.Valid)
    (early : 0 ≤ first.year ∧ first.year ≤ 9999) (late : 0 ≤ second.year ∧ second.year ≤ 9999)
    (same : dateHourText first hour = dateHourText second other) :
    first = second ∧ hour = other := by
  unfold dateHourText yearText at same
  rw [if_pos early, if_pos late] at same
  -- The parts in front have one length in both texts.
  obtain ⟨years, same⟩ := List.append_inj same (by
    rw [length_padded (by omega) (by decide), length_padded (by omega) (by decide)])
  obtain ⟨months, same⟩ := List.append_inj (List.cons.inj same).2 (by
    rw [length_padded valid.small.1 (by decide), length_padded otherValid.small.1 (by decide)])
  obtain ⟨days, same⟩ := List.append_inj (List.cons.inj same).2 (by
    rw [length_padded valid.small.2 (by decide), length_padded otherValid.small.2 (by decide)])
  have year : first.year = second.year := by
    have numbers := padded_injective years
    omega
  refine ⟨?_, padded_injective (List.cons.inj same).2⟩
  obtain ⟨_, _, _⟩ := first
  obtain ⟨_, _, _⟩ := second
  simp only [Date.mk.injEq]
  exact ⟨year, padded_injective months, padded_injective days⟩

example : dateOf 0 = ⟨1970, 1, 1⟩ := by decide +kernel

example : dateOf 11016 = ⟨2000, 2, 29⟩ := by decide +kernel

end Zradar.Calendar
