import Mathlib.Algebra.Order.Floor.Div
import Zradar.Otlp.CircuitBreaker

/-! The percentages that the breaker compares: how they are rounded, and which verdicts they lead to. -/

namespace Zradar.Otlp

/-- A difference of 64 bits, if it is not negative. -/
def checkedSubU64 (first second : UInt64) : Option UInt64 :=
  if second ≤ first then some (first - second) else none

/-- A sum, if it has 64 bits. -/
def checkedAddU64 (first second : UInt64) : Option UInt64 :=
  if first.toNat + second.toNat < 2 ^ 64 then some (first + second) else none

/-- A quotient of 128 bits, rounded up. -/
def divCeilU128 (numerator denominator : BitVec 128) : BitVec 128 :=
  if numerator % denominator > 0 then numerator / denominator + 1 else numerator / denominator

/-- `numerator / denominator` as a percentage rounded up, capped at 100. -/
def percentCeil (numerator denominator : UInt64) : Option UInt8 :=
  if denominator = 0 then none
  else
    let pct := divCeilU128 (numerator.toBitVec.setWidth 128 * 100)
      (denominator.toBitVec.setWidth 128)
    some (.ofBitVec ((if pct ≤ 100 then pct else 100).setWidth 8))

/-- `df`-style usage percentage: `used / (used + available)`, rounded up. -/
def diskUsageFromBlocks (total free available : UInt64) : Option UInt8 := do
  let used ← checkedSubU64 total free
  percentCeil used (← checkedAddU64 used available)

/-- Whether the breaker refuses requests for the usage of the disk. -/
def CircuitBreaker.TripsOnDisk (breaker : CircuitBreaker) : Prop :=
  ∃ trip, breaker.evaluate = .error trip ∧ "disk usage ".toList <+: trip.reason.toList

/-- Rounding up adds one to a quotient that leaves something. -/
theorem ceilDiv_eq (dividend : Nat) {divisor : Nat} (positive : 0 < divisor) :
    dividend ⌈/⌉ divisor = dividend / divisor + if 0 < dividend % divisor then 1 else 0 := by
  have parts := Nat.div_add_mod dividend divisor
  have left := Nat.mod_lt dividend positive
  rw [Nat.ceilDiv_eq_add_pred_div, Nat.div_eq_iff positive]
  -- The quotient and what is left of it make up the dividend.
  generalize dividend / divisor = quotient at *
  split
  · rw [Nat.add_mul, Nat.mul_comm quotient]
    omega
  · rw [Nat.add_zero, Nat.mul_comm quotient]
    omega

/-- Products with a hundred and the quotients of them have 128 bits. -/
theorem divCeilU128_toNat (numerator : UInt64) {denominator : UInt64}
    (positive : 0 < denominator.toNat) :
    (divCeilU128 (numerator.toBitVec.setWidth 128 * 100)
      (denominator.toBitVec.setWidth 128)).toNat = 100 * numerator.toNat ⌈/⌉ denominator.toNat := by
  have first := numerator.toNat_lt
  have second := denominator.toNat_lt
  -- Neither the product nor the widening loses a bit.
  have product : (numerator.toBitVec.setWidth 128 * 100).toNat = 100 * numerator.toNat := by
    simp only [BitVec.toNat_mul, BitVec.toNat_setWidth, UInt64.toNat_toBitVec]
    rw [Nat.mod_eq_of_lt (show numerator.toNat < 2 ^ 128 by omega)]
    show numerator.toNat * 100 % 2 ^ 128 = _
    omega
  have divisor : (denominator.toBitVec.setWidth 128).toNat = denominator.toNat := by
    simp only [BitVec.toNat_setWidth, UInt64.toNat_toBitVec]
    omega
  have compare : (numerator.toBitVec.setWidth 128 * 100 % denominator.toBitVec.setWidth 128 > 0) ↔
      0 < 100 * numerator.toNat % denominator.toNat := by
    rw [gt_iff_lt, BitVec.lt_def, BitVec.toNat_umod, product, divisor]
    rfl
  have small : 100 * numerator.toNat / denominator.toNat ≤ 100 * numerator.toNat :=
    Nat.div_le_self _ _
  rw [ceilDiv_eq _ positive, divCeilU128]
  simp only [compare]
  split
  · rw [BitVec.toNat_add, BitVec.toNat_udiv, product, divisor]
    generalize 100 * numerator.toNat / denominator.toNat = quotient at small ⊢
    show (quotient + 1) % 2 ^ 128 = _
    omega
  · rw [BitVec.toNat_udiv, product, divisor, Nat.add_zero]

/-- A percentage is the quotient rounded up, and no more than a hundred. -/
theorem percentCeil_spec (numerator : UInt64) {denominator : UInt64}
    (positive : 0 < denominator.toNat) :
    ∃ percent, percentCeil numerator denominator = some percent ∧
      percent.toNat = min (100 * numerator.toNat ⌈/⌉ denominator.toNat) 100 := by
  -- The quotient in 128 bits is exact, so that only the cap is left to follow.
  have quotient := divCeilU128_toNat numerator positive
  have apart : denominator ≠ 0 := by
    rintro rfl
    exact absurd positive (by decide)
  rw [percentCeil, if_neg apart]
  refine ⟨_, rfl, ?_⟩
  rw [← quotient]
  generalize divCeilU128 (numerator.toBitVec.setWidth 128 * 100)
    (denominator.toBitVec.setWidth 128) = pct
  -- A number up to a hundred has eight bits.
  have bound : pct ≤ 100 ↔ pct.toNat ≤ 100 := BitVec.le_def
  simp only [bound]
  show ((if pct.toNat ≤ 100 then pct else 100).setWidth 8).toNat = _
  rw [BitVec.toNat_setWidth]
  split
  · omega
  · show 100 % 2 ^ 8 = _
    omega

/-- A percentage is over a threshold below a hundred exactly if the quotient is. -/
theorem percentCeil_gt_iff (numerator : UInt64) {denominator : UInt64}
    (positive : 0 < denominator.toNat) {threshold : UInt8} (low : threshold ≤ 99) :
    (∃ percent, percentCeil numerator denominator = some percent ∧ threshold < percent) ↔
      threshold.toNat * denominator.toNat < 100 * numerator.toNat := by
  -- The cap is above every threshold, so that it changes no verdict.
  obtain ⟨percent, given, reading⟩ := percentCeil_spec numerator positive
  have capped : threshold.toNat ≤ 99 := UInt8.le_iff_toNat_le.mp low
  -- The quotient is at most the threshold exactly if the product is.
  have rounded := ceilDiv_le_iff_le_mul (b := 100 * numerator.toNat) (c := threshold.toNat) positive
  rw [Nat.mul_comm denominator.toNat, ← not_lt, ← not_lt, not_iff_not] at rounded
  rw [← rounded, given]
  simp only [Option.some.injEq, exists_eq_left', UInt8.lt_iff_toNat_lt, reading]
  omega

theorem checkedSubU64_eq_some {first second difference : UInt64} :
    checkedSubU64 first second = some difference ↔
      second.toNat ≤ first.toNat ∧ difference.toNat = first.toNat - second.toNat := by
  -- The word is the exact difference where it does not wrap.
  unfold checkedSubU64
  split
  · rename_i enough
    have exact := UInt64.toNat_sub_of_le _ _ enough
    rw [Option.some.injEq, ← UInt64.toNat_inj, exact, eq_comm]
    exact (and_iff_right (UInt64.le_iff_toNat_le.mp enough)).symm
  · rename_i short
    rw [UInt64.le_iff_toNat_le] at short
    exact iff_of_false (by simp) fun enough => short enough.1

theorem checkedAddU64_eq_some {first second sum : UInt64} :
    checkedAddU64 first second = some sum ↔
      first.toNat + second.toNat < 2 ^ 64 ∧ sum.toNat = first.toNat + second.toNat := by
  -- The word is the exact sum where it does not wrap.
  unfold checkedAddU64
  split
  · rename_i fits
    have exact : (first + second).toNat = first.toNat + second.toNat := by
      rw [UInt64.toNat_add, Nat.mod_eq_of_lt fits]
    rw [Option.some.injEq, ← UInt64.toNat_inj, exact, eq_comm]
    exact (and_iff_right fits).symm
  · rename_i wraps
    exact iff_of_false (by simp) fun fits => wraps fits.1

/-- The usage of the disk is over a threshold exactly if the share of the used blocks is. -/
theorem diskUsageFromBlocks_gt_iff (total free available : UInt64) {threshold : UInt8}
    (low : threshold ≤ 99) :
    (∃ percent, diskUsageFromBlocks total free available = some percent ∧ threshold < percent) ↔
      free.toNat ≤ total.toNat ∧ 0 < total.toNat - free.toNat + available.toNat ∧
        total.toNat - free.toNat + available.toNat < 2 ^ 64 ∧
        threshold.toNat * (total.toNat - free.toNat + available.toNat) <
          100 * (total.toNat - free.toNat) := by
  -- There is a percentage if neither the difference, nor the sum, nor the quotient fails.
  simp only [diskUsageFromBlocks, Option.bind_eq_bind, Option.bind_eq_some_iff]
  constructor
  · rintro ⟨percent, ⟨used, subtracted, size, added, given⟩, above⟩
    obtain ⟨enough, difference⟩ := checkedSubU64_eq_some.mp subtracted
    obtain ⟨fits, sum⟩ := checkedAddU64_eq_some.mp added
    have positive : 0 < size.toNat := by
      -- A denominator of zero has no percentage.
      rw [percentCeil] at given
      split at given
      · simp at given
      · rename_i some
        exact Nat.pos_of_ne_zero fun zero => some (UInt64.toNat_inj.mp zero)
    have share := (percentCeil_gt_iff used positive low).mp ⟨percent, given, above⟩
    rw [difference] at fits sum share
    rw [sum] at positive share
    exact ⟨enough, positive, fits, share⟩
  · rintro ⟨enough, positive, fits, share⟩
    have difference := UInt64.toNat_sub_of_le total free (UInt64.le_iff_toNat_le.mpr enough)
    rw [← difference] at positive fits share
    have sum : (total - free + available).toNat = (total - free).toNat + available.toNat := by
      rw [UInt64.toNat_add, Nat.mod_eq_of_lt fits]
    rw [← sum] at positive share
    obtain ⟨percent, given, above⟩ := (percentCeil_gt_iff (total - free) positive low).mpr share
    exact ⟨percent, ⟨_, checkedSubU64_eq_some.mpr ⟨enough, difference⟩, _,
      checkedAddU64_eq_some.mpr ⟨fits, sum⟩, given⟩, above⟩

/-- No percentage is over a hundred, or taken for a missing one. -/
theorem percentCeil_le {numerator denominator : UInt64} {percent : UInt8}
    (given : percentCeil numerator denominator = some percent) : percent ≤ 100 := by
  -- A quotient by zero is none, and every other one is capped.
  by_cases positive : 0 < denominator.toNat
  · obtain ⟨other, same, reading⟩ := percentCeil_spec numerator positive
    rw [given, Option.some.injEq] at same
    rw [UInt8.le_iff_toNat_le, same, reading]
    exact Nat.min_le_right _ _
  · have zero : denominator = 0 := UInt64.toNat_inj.mp (Nat.eq_zero_of_not_pos positive)
    simp [percentCeil, zero] at given

theorem diskUsageFromBlocks_le {total free available : UInt64} {percent : UInt8}
    (given : diskUsageFromBlocks total free available = some percent) : percent ≤ 100 := by
  -- The percentage is the one of the used blocks.
  simp only [diskUsageFromBlocks, Option.bind_eq_bind, Option.bind_eq_some_iff] at given
  obtain ⟨_, _, _, _, given⟩ := given
  exact percentCeil_le given

namespace CircuitBreaker

/-- The breaker refuses requests for the disk exactly if the reading of the disk is over. -/
theorem tripsOnDisk_iff {breaker : CircuitBreaker} :
    breaker.TripsOnDisk ↔
      exceeds breaker.diskUsagePercent breaker.maxDiskUsagePercent = true := by
  unfold TripsOnDisk evaluate
  split
  · rename_i above
    refine iff_of_true ⟨_, rfl, ?_⟩ above
    rw [String.append_assoc, String.toList_append]
    exact List.prefix_append _ _
  · -- The other reasons begin with other words.
    rename_i below
    refine iff_of_false ?_ below
    rintro ⟨trip, failed, reason⟩
    split at failed
    · obtain rfl := Except.error.inj failed
      rw [String.append_assoc, String.toList_append] at reason
      simp at reason
    · split at failed
      · obtain rfl := Except.error.inj failed
        rw [String.append_assoc, String.toList_append] at reason
        simp at reason
      · cases failed

/-- Behind a sample the reading is the percentage of the sample, if there is one. -/
theorem sampled_tripsOnDisk_iff (breaker : CircuitBreaker) (sample : ResourceSample)
    (nowMs : UInt64) (proper : ∀ percent, sample.diskPercent = some percent → percent ≤ 100) :
    (breaker.storeSample sample nowMs).TripsOnDisk ↔
      ∃ percent, sample.diskPercent = some percent ∧ breaker.maxDiskUsagePercent < percent := by
  -- A sample without a percentage stores the mark, which exceeds nothing.
  rw [tripsOnDisk_iff]
  show exceeds (sample.diskPercent.getD unknownPercent) breaker.maxDiskUsagePercent = true ↔ _
  cases reading : sample.diskPercent with
  | none => simp [exceeds, known]
  | some percent =>
    -- A percentage is never the mark of a missing one.
    have small := UInt8.le_iff_toNat_le.mp (proper percent reading)
    have apart : percent ≠ unknownPercent := by
      rintro rfl
      exact absurd small (by decide)
    simp [exceeds, known, apart]

end CircuitBreaker

/--
Below a hundred, a threshold trips the breaker exactly if the exact share of the used blocks is over
it, and a percentage is over it exactly if the exact quotient is. A threshold of a hundred trips
nothing.
-/
theorem thresholds_exact (breaker : CircuitBreaker) (memoryPercent : Option UInt8)
    (nowMs : UInt64) :
    (breaker.maxDiskUsagePercent ≤ 99 → ∀ total free available : UInt64,
      (breaker.storeSample ⟨diskUsageFromBlocks total free available, memoryPercent⟩
          nowMs).TripsOnDisk ↔
        free.toNat ≤ total.toNat ∧ 0 < total.toNat - free.toNat + available.toNat ∧
          total.toNat - free.toNat + available.toNat < 2 ^ 64 ∧
          breaker.maxDiskUsagePercent.toNat * (total.toNat - free.toNat + available.toNat) <
            100 * (total.toNat - free.toNat)) ∧
    (breaker.maxDiskUsagePercent = 100 → ∀ total free available : UInt64,
      ¬ (breaker.storeSample ⟨diskUsageFromBlocks total free available, memoryPercent⟩
          nowMs).TripsOnDisk) ∧
    (∀ (numerator denominator : UInt64) (threshold : UInt8), 0 < denominator.toNat →
      threshold ≤ 99 →
        ((∃ percent, percentCeil numerator denominator = some percent ∧ threshold < percent) ↔
          threshold.toNat * denominator.toNat < 100 * numerator.toNat)) ∧
    ∀ (numerator denominator : UInt64) (percent : UInt8),
      percentCeil numerator denominator = some percent → ¬ 100 < percent := by
  -- A percentage in a sample is at most a hundred, so the breaker reads it as it is.
  have sampled (total free available : UInt64) := breaker.sampled_tripsOnDisk_iff
    ⟨diskUsageFromBlocks total free available, memoryPercent⟩ nowMs fun _ => diskUsageFromBlocks_le
  refine ⟨?_, ?_, ?_, ?_⟩
  · intro low total free available
    rw [sampled]
    exact diskUsageFromBlocks_gt_iff total free available low
  · intro full total free available
    rw [sampled, full]
    rintro ⟨percent, given, above⟩
    exact absurd (UInt8.lt_of_lt_of_le above (diskUsageFromBlocks_le given)) (by decide)
  · intro numerator denominator threshold positive low
    exact percentCeil_gt_iff numerator positive low
  · intro numerator denominator percent given above
    exact absurd (UInt8.lt_of_lt_of_le above (percentCeil_le given)) (by decide)

/-- The example of `df`: 600 of 950 blocks are over 63 percent, but not over 64. -/
theorem df_example_trips :
    ((CircuitBreaker.new 63 100 10).storeSample ⟨diskUsageFromBlocks 1000 400 350, none⟩
        0).TripsOnDisk ∧
      ¬ ((CircuitBreaker.new 64 100 10).storeSample ⟨diskUsageFromBlocks 1000 400 350, none⟩
        0).TripsOnDisk ∧
      ¬ ((CircuitBreaker.new 100 100 10).storeSample ⟨diskUsageFromBlocks 1000 0 0, none⟩
        0).TripsOnDisk ∧
      (∃ percent, percentCeil 1 3 = some percent ∧ 33 < percent) ∧ ¬ (100 : UInt8) < 34 := by
  have below := (thresholds_exact (.new 63 100 10) none 0).1 (by decide) 1000 400 350
  have above := (thresholds_exact (.new 64 100 10) none 0).1 (by decide) 1000 400 350
  have full := (thresholds_exact (.new 100 100 10) none 0).2.1 rfl 1000 0 0
  obtain ⟨share, capped⟩ := (thresholds_exact (.new 63 100 10) none 0).2.2
  refine ⟨below.mpr (by decide), fun trips => absurd (above.mp trips) (by decide), full, ?_, ?_⟩
  · exact (share 1 3 33 (by decide) (by decide)).mpr (by decide)
  · exact capped 1 3 34 (by decide)

end Zradar.Otlp
