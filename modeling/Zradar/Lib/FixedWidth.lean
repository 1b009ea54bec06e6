import Mathlib.Tactic

/-! Order and arithmetic of 64-bit integers, in terms of the integers they stand for. -/

namespace Zradar.FixedWidth

theorem toInt_max (first second : Int64) :
    (max first second).toInt = max first.toInt second.toInt := by
  -- The order of the words is that of the numbers they denote.
  show (if first ≤ second then second else first).toInt = _
  split
  · rename_i below
    rw [max_eq_right (Int64.le_iff_toInt_le.mp below)]
  · rename_i above
    have below := fun order => above (Int64.le_iff_toInt_le.mpr order)
    rw [max_eq_left (le_of_lt (not_le.mp below))]

theorem toInt_min (first second : Int64) :
    (min first second).toInt = min first.toInt second.toInt := by
  -- The order of the words is that of the numbers they denote.
  show (if first ≤ second then first else second).toInt = _
  split
  · rename_i below
    rw [min_eq_left (Int64.le_iff_toInt_le.mp below)]
  · rename_i above
    have below := fun order => above (Int64.le_iff_toInt_le.mpr order)
    rw [min_eq_right (le_of_lt (not_le.mp below))]

/-- Dividing by a positive number stays in range. -/
theorem toInt_div_of_pos (value : Int64) {divisor : Int64} (positive : 0 < divisor.toInt) :
    (value / divisor).toInt = value.toInt.tdiv divisor.toInt := by
  have lower := value.le_toInt
  have upper := value.toInt_lt
  have bound := Int.natAbs_tdiv_le_natAbs value.toInt divisor.toInt
  rw [Int64.toInt_div]
  apply Int.bmod_eq_of_le
  · omega
  · -- Only the least number divided by minus one would leave the range.
    rcases le_or_gt 0 value.toInt with above | below
    · omega
    · have nonpos : value.toInt.tdiv divisor.toInt ≤ 0 := by
        have zero := Int.tdiv_le_tdiv positive (le_of_lt below)
        rwa [Int.zero_tdiv] at zero
      omega

instance lawfulOrderMaxInt64 : Std.LawfulOrderMax Int64 where
  max_eq_or := by
    intro first second
    show (if first ≤ second then second else first) = _ ∨
      (if first ≤ second then second else first) = _
    split
    · exact .inr rfl
    · exact .inl rfl
  max_le_iff := by
    intro first second bound
    simp only [Int64.le_iff_toInt_le, toInt_max]
    exact max_le_iff

/-- The least of some numbers is that of the integers they stand for. -/
theorem toInt_min_getD (times : List Int64) :
    (times.min?.getD 0).toInt = (times.map Int64.toInt).min?.getD 0 := by
  cases first : times.min? with
  | none =>
    rw [List.min?_eq_none_iff.mp first]
    rfl
  | some least =>
    -- The least word denotes the least of the numbers.
    obtain ⟨listed, below⟩ := List.min?_eq_some_iff.mp first
    have same : (times.map Int64.toInt).min? = some least.toInt := by
      refine List.min?_eq_some_iff.mpr ⟨List.mem_map_of_mem listed, ?_⟩
      intro value member
      obtain ⟨time, inside, rfl⟩ := List.mem_map.mp member
      exact Int64.le_iff_toInt_le.mp (below time inside)
    rw [same]
    rfl

/-- The greatest of some numbers is that of the integers they stand for. -/
theorem toInt_max_getD (times : List Int64) :
    (times.max?.getD 0).toInt = (times.map Int64.toInt).max?.getD 0 := by
  cases last : times.max? with
  | none =>
    rw [List.max?_eq_none_iff.mp last]
    rfl
  | some greatest =>
    -- The greatest word denotes the greatest of the numbers.
    obtain ⟨listed, above⟩ := List.max?_eq_some_iff.mp last
    have same : (times.map Int64.toInt).max? = some greatest.toInt := by
      refine List.max?_eq_some_iff.mpr ⟨List.mem_map_of_mem listed, ?_⟩
      intro value member
      obtain ⟨time, inside, rfl⟩ := List.mem_map.mp member
      exact Int64.le_iff_toInt_le.mp (above time inside)
    rw [same]
    rfl

/-- A sum that stays in 64 bits is the exact one. -/
theorem toInt_add_of_fits {first second : Int64} (lower : -2 ^ 63 ≤ first.toInt + second.toInt)
    (upper : first.toInt + second.toInt < 2 ^ 63) :
    (first + second).toInt = first.toInt + second.toInt := by
  -- A sum within the range is not wrapped.
  rw [Int64.toInt_add]
  apply Int.bmod_eq_of_le
  · show -(2 ^ 64 / 2) ≤ first.toInt + second.toInt
    omega
  · show first.toInt + second.toInt < (2 ^ 64 + 1) / 2
    omega

/-- A difference that stays in 64 bits is the exact one. -/
theorem toInt_sub_of_fits {first second : Int64} (lower : -2 ^ 63 ≤ first.toInt - second.toInt)
    (upper : first.toInt - second.toInt < 2 ^ 63) :
    (first - second).toInt = first.toInt - second.toInt := by
  -- A difference within the range is not wrapped.
  rw [Int64.toInt_sub]
  apply Int.bmod_eq_of_le
  · show -(2 ^ 64 / 2) ≤ first.toInt - second.toInt
    omega
  · show first.toInt - second.toInt < (2 ^ 64 + 1) / 2
    omega

/-- Durations whose sum stays in 64 bits add up to it. -/
theorem toInt_sum_of_fits {durations : List Int64} (forward : ∀ each ∈ durations, 0 ≤ each)
    (fits : (durations.map Int64.toInt).sum < 2 ^ 63) :
    durations.sum.toInt = (durations.map Int64.toInt).sum ∧
      0 ≤ (durations.map Int64.toInt).sum := by
  induction durations with
  | nil => exact ⟨rfl, le_refl 0⟩
  | cons first rest ih =>
    obtain ⟨ahead, forward⟩ := List.forall_mem_cons.mp forward
    have positive : 0 ≤ first.toInt := Int64.le_iff_toInt_le.mp ahead
    rw [List.map_cons, List.sum_cons] at fits
    rw [List.map_cons, List.sum_cons, List.sum_cons]
    -- The rest is no more than the whole, because no duration is negative.
    have small : (rest.map Int64.toInt).sum < 2 ^ 63 := by omega
    obtain ⟨same, later⟩ := ih forward small
    refine ⟨?_, by omega⟩
    rw [toInt_add_of_fits (by omega) (by omega), same]

end Zradar.FixedWidth
