import Mathlib.Tactic

/-! Buckets of a fixed width on a line of integers, and the division that names them. -/

namespace Zradar

/-- A position is in the bucket of some width that begins at a multiple of it. -/
structure InBucket (width start position : Int) : Prop where
  aligned : width ∣ start
  begun : start ≤ position
  ended : position < start + width

section

variable {width start position divisor : Int}

/-- Every position is in one bucket, which is found by rounding down. -/
theorem inBucket_iff (positive : 0 < width) :
    InBucket width start position ↔ start = position / width * width := by
  have below := Int.ediv_mul_le position (ne_of_gt positive)
  have above := Int.lt_ediv_add_one_mul_self position positive
  rw [Int.add_mul, Int.one_mul] at above
  constructor
  · rintro ⟨⟨number, rfl⟩, begun, ended⟩
    -- The number of the bucket is the quotient, as the remainder is less than the width.
    have quotient : position / width = number := by
      rw [Int.ediv_eq_iff_of_pos positive]
      constructor
      · linarith
      · linarith
    rw [quotient, Int.mul_comm]
  · rintro rfl
    exact ⟨Int.dvd_mul_left _ _, below, above⟩

/-- A quotient that is cut off names a multiple between zero and the number that is divided. -/
theorem tdiv_mul_nonneg_le (divisor : Int) (nonneg : 0 ≤ position) :
    0 ≤ position.tdiv divisor * divisor ∧ position.tdiv divisor * divisor ≤ position := by
  have whole := Int.tdiv_mul_add_tmod position divisor
  have rest := Int.tmod_nonneg divisor nonneg
  have small : (position.tmod divisor).natAbs ≤ position.natAbs := by
    rw [Int.natAbs_tmod]
    exact Nat.mod_le _ _
  omega

theorem tdiv_mul_nonpos_le (divisor : Int) (nonpos : position ≤ 0) :
    position ≤ position.tdiv divisor * divisor ∧ position.tdiv divisor * divisor ≤ 0 := by
  -- The sign can be taken out of a quotient that is cut off.
  obtain ⟨below, above⟩ := tdiv_mul_nonneg_le divisor (show 0 ≤ -position by omega)
  rw [Int.neg_tdiv, Int.neg_mul] at below above
  omega

theorem natAbs_tdiv_mul_le (position divisor : Int) :
    (position.tdiv divisor * divisor).natAbs ≤ position.natAbs := by
  rcases le_or_gt 0 position with nonneg | negative
  · have := tdiv_mul_nonneg_le divisor nonneg
    omega
  · have := tdiv_mul_nonpos_le divisor (le_of_lt negative)
    omega

/-- Cutting off finds the bucket of a position from zero on, and of every multiple of the width. -/
theorem tdiv_inBucket_iff (positive : 0 < width) :
    InBucket width (position.tdiv width * width) position ↔ 0 ≤ position ∨ width ∣ position := by
  have sign : width.sign = 1 := Int.sign_eq_one_of_pos positive
  rw [inBucket_iff positive, Int.mul_eq_mul_right_iff (ne_of_gt positive), Int.tdiv_eq_ediv, sign]
  split
  · rename_i here
    simp [here]
  · rename_i apart
    exact iff_of_false (by omega) apart

/-- In a bucket that is wider than every position, a divisor finds the start of what is below it. -/
theorem tdiv_inBucket_iff_of_wide (wide : position.natAbs < width.natAbs) (positive : 0 < width) :
    divisor ≠ 0 ∧ InBucket width (position.tdiv divisor * divisor) position ↔
      0 ≤ position ∧ position < divisor.natAbs := by
  have small := natAbs_tdiv_mul_le position divisor
  have quotient : (position.tdiv divisor).natAbs = position.natAbs / divisor.natAbs :=
    Int.natAbs_tdiv position divisor
  constructor
  · rintro ⟨some, aligned, begun, ended⟩
    -- The only multiple of the width that is near enough is zero.
    have zero := Int.eq_zero_of_dvd_of_natAbs_lt_natAbs aligned (small.trans_lt wide)
    rw [zero] at begun
    have none : position.tdiv divisor = 0 := (Int.mul_eq_zero.mp zero).resolve_right some
    rw [none, Int.natAbs_zero, eq_comm, Nat.div_eq_zero_iff] at quotient
    omega
  · rintro ⟨nonneg, below⟩
    have some : divisor ≠ 0 := by
      rintro rfl
      rw [Int.natAbs_zero] at below
      omega
    rw [Nat.div_eq_of_lt (by omega), Int.natAbs_eq_zero] at quotient
    rw [quotient, Int.zero_mul]
    exact ⟨some, Int.dvd_zero _, nonneg, by omega⟩

end

/-- A position is in the period of some number, where the first one also has all that is before. -/
structure InPeriod (width : Int) (index : Nat) (position : Int) : Prop where
  begun : 0 < index → index * width ≤ position
  ended : position < (index + 1) * width

instance (width : Int) (index : Nat) (position : Int) : Decidable (InPeriod width index position) :=
  decidable_of_iff ((0 < index → index * width ≤ position) ∧ position < (index + 1) * width)
    ⟨fun ⟨begun, ended⟩ => ⟨begun, ended⟩, fun inside => ⟨inside.begun, inside.ended⟩⟩

section

variable {width position : Int}

/-- Every position is in one period, which is found by rounding down. -/
theorem inPeriod_iff {index : Nat} (positive : 0 < width) :
    InPeriod width index position ↔ index = (position / width).toNat := by
  -- The quotient lies between the number of the period and the one behind it.
  have below := Int.ediv_mul_le position (ne_of_gt positive)
  have above := Int.lt_ediv_add_one_mul_self position positive
  constructor
  · rintro ⟨begun, ended⟩
    have last : position / width < index + 1 := (Int.ediv_lt_iff_lt_mul positive).mpr ended
    by_cases first : index = 0
    · omega
    · have start : (index : Int) ≤ position / width :=
        (Int.le_ediv_iff_mul_le positive).mpr (begun (Nat.pos_of_ne_zero first))
      omega
  · rintro rfl
    refine ⟨?_, ?_⟩
    · -- A period that is not the first one has a quotient above zero.
      intro later
      rw [Int.toNat_of_nonneg (by omega)]
      exact below
    · have raised : position / width ≤ (position / width).toNat := Int.self_le_toNat _
      have wider : (position / width + 1) * width ≤ ((position / width).toNat + 1) * width :=
        Int.mul_le_mul_of_nonneg_right (by omega) (le_of_lt positive)
      omega

/-- Cutting off and raising to zero finds the number of the period. -/
theorem max_tdiv_zero (positive : 0 < width) :
    max (position.tdiv width) 0 = (position / width).toNat := by
  -- Below zero both quotients are below one, however they are rounded.
  rcases le_or_gt 0 position with nonneg | negative
  · rw [Int.tdiv_eq_ediv_of_nonneg nonneg]
    omega
  · have quotient : position / width < 0 := Int.ediv_neg_of_neg_of_pos negative positive
    have cut : position.tdiv width ≤ 0 :=
      nonpos_of_mul_nonpos_left (tdiv_mul_nonpos_le width (le_of_lt negative)).2 positive
    omega

end

end Zradar
