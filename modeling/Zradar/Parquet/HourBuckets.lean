import Zradar.Lib.Calendar
import Zradar.Parquet.Partition

/-! The hour that a row is filed under, against the bucket that the partitioner compares. -/

namespace Zradar.Parquet

open Calendar

/-- The years that have dates in the calendar library. -/
def hasDates (date : Date) : Prop := -262143 ≤ date.year ∧ date.year ≤ 262142

instance (date : Date) : Decidable (hasDates date) :=
  inferInstanceAs (Decidable (_ ∧ _))

/-- The UTC date and hour of a number of seconds, or those of the epoch if there are none. -/
def utcDateHour (seconds : Int) : String :=
  let date := dateOf (seconds / 86400)
  if hasDates date then .ofList (dateHourText date ((seconds % 86400).toNat / 3600))
  else .ofList (dateHourText (dateOf 0) 0)

/-- An environment with the calendar of the library. -/
def utcEnv (env : WriterEnv) : WriterEnv := { env with dateHour := utcDateHour }

/-- The calendar tells the times of one hour apart by nothing. -/
theorem utcEnv_hourly (env : WriterEnv) : HourlyCalendar (utcEnv env) := by
  intro first second early late same
  -- An hour lies in one day, and in one place of it.
  have day : first / 86400 = second / 86400 := by omega
  have hour : (first % 86400).toNat / 3600 = (second % 86400).toNat / 3600 := by omega
  show utcDateHour first = utcDateHour second
  unfold utcDateHour
  rw [day, hour]

/-- The seconds that a timestamp of 64 bits can stand for have a year of four digits. -/
theorem year_of_seconds {seconds : Int} (low : -9223372037 ≤ seconds) (high : seconds ≤ 9223372036) :
    0 ≤ (dateOf (seconds / 86400)).year ∧ (dateOf (seconds / 86400)).year ≤ 9999 := by
  obtain ⟨start, stop⟩ := yearOf_spec (seconds / 86400 + unixEpochDay)
  have year : (dateOf (seconds / 86400)).year = yearOf (seconds / 86400 + unixEpochDay) := rfl
  rw [← year] at start stop
  unfold daysThrough unixEpochDay at start stop
  omega

/-- Within these, the text is that of the hour, and of no other one. -/
theorem utcDateHour_eq_iff {first second : Int} (low : -9223372037 ≤ first)
    (high : first ≤ 9223372036) (otherLow : -9223372037 ≤ second) (otherHigh : second ≤ 9223372036) :
    utcDateHour first = utcDateHour second ↔ first / 3600 = second / 3600 := by
  have early := year_of_seconds low high
  have late := year_of_seconds otherLow otherHigh
  unfold utcDateHour
  dsimp only
  -- Years of four digits have dates, and texts that determine them.
  rw [if_pos ⟨by omega, by omega⟩, if_pos ⟨by omega, by omega⟩]
  constructor
  · intro same
    obtain ⟨dates, hours⟩ := dateHourText_injective (dateOf_valid _) (dateOf_valid _) early late
      (String.ofList_injective same)
    have days := dateOf_injective dates
    omega
  · intro same
    have day : first / 86400 = second / 86400 := by omega
    have hour : (first % 86400).toNat / 3600 = (second % 86400).toNat / 3600 := by omega
    rw [day, hour]

/-- A time before the epoch in the last second of its hour, behind its start. -/
def Late (tsNs : Int64) : Prop := tsNs.toInt < 0 ∧ 3599000000000 < tsNs.toInt % nanosPerHour

instance (tsNs : Int64) : Decidable (Late tsNs) := inferInstanceAs (Decidable (_ ∧ _))

/-- Dividing towards zero is rounding down, and one more below zero where something is left. -/
theorem tdiv_nanos (value : Int) : value.tdiv 1000000000 =
    value / 1000000000 + if 0 ≤ value ∨ 1000000000 ∣ value then 0 else 1 :=
  Int.tdiv_eq_ediv

/-- The hour of a timestamp, except that the division towards zero makes a late one the next hour. -/
theorem hour_of_seconds (tsNs : Int64) : tsNs.toInt.tdiv 1000000000 / 3600 =
    tsNs.toInt / nanosPerHour + if Late tsNs then 1 else 0 := by
  unfold Late nanosPerHour
  rw [tdiv_nanos]
  split_ifs <;> omega

/-- Timestamps are filed under one hour exactly if they come to one hour this way. -/
theorem tsNsToDatePath_eq_iff (env : WriterEnv) (first second : Int64) :
    tsNsToDatePath (utcEnv env) first = tsNsToDatePath (utcEnv env) second ↔
      first.toInt / nanosPerHour + (if Late first then 1 else 0) =
        second.toInt / nanosPerHour + if Late second then 1 else 0 := by
  -- The division truncates, which is off by one where a timestamp before 1970 is late in its hour.
  have low := first.le_toInt
  have high := first.toInt_lt
  have otherLow := second.le_toInt
  have otherHigh := second.toInt_lt
  rw [← hour_of_seconds, ← hour_of_seconds]
  apply utcDateHour_eq_iff
  all_goals
    rw [tdiv_nanos]
    split_ifs <;> omega

/--
Whether two timestamps have one bucket is whether they are filed under one hour, exactly if both of
them are late or neither is, or the one that is not is in neither the hour of the late one nor the
next.
-/
theorem same_bucket_iff_same_path_iff (env : WriterEnv) (first second : Int64) :
    (first.toInt / nanosPerHour = second.toInt / nanosPerHour ↔
        tsNsToDatePath (utcEnv env) first = tsNsToDatePath (utcEnv env) second) ↔
      (Late first ↔ Late second) ∨
        (Late first ∧ second.toInt / nanosPerHour ≠ first.toInt / nanosPerHour ∧
          second.toInt / nanosPerHour ≠ first.toInt / nanosPerHour + 1) ∨
        (Late second ∧ first.toInt / nanosPerHour ≠ second.toInt / nanosPerHour ∧
          first.toInt / nanosPerHour ≠ second.toInt / nanosPerHour + 1) := by
  rw [tsNsToDatePath_eq_iff]
  -- The hours are moved on by the same amount, or by one for the late one.
  by_cases late : Late first
  · by_cases other : Late second
    · simp [late, other]
    · simp only [late, other, if_true, if_false, true_and, false_and, or_false, iff_false,
        not_true_eq_false, false_or, add_zero]
      omega
  · by_cases other : Late second
    · simp only [late, other, if_true, if_false, true_and, false_and, false_or, iff_true, add_zero]
      omega
    · simp [late, other]

/-- The last nanosecond before the epoch has another bucket than the epoch, and its path. -/
theorem nanosecond_before_epoch :
    (-1 : Int64).toInt / nanosPerHour ≠ (0 : Int64).toInt / nanosPerHour ∧
      tsNsToDatePath (utcEnv firstDayEnv) (-1) = tsNsToDatePath (utcEnv firstDayEnv) 0 := by
  refine ⟨by decide, ?_⟩
  rw [tsNsToDatePath_eq_iff]
  decide

end Zradar.Parquet
