import Zradar.Policies.Severity

/-! The comparison of a reading with its limit, against arithmetic on the integers. -/

namespace Zradar.Policies

/-- The outcome by which of the three bands is reached, the highest one first. -/
def outcomeOf (blocks throttles exceeds : Prop) [Decidable blocks] [Decidable throttles]
    [Decidable exceeds] (code : BlockCode) (reason : String) : Option Decision :=
  if blocks then some (.block reason code)
  else if throttles then some (.throttle 1000 reason)
  else if exceeds then some (.allowWithGrace reason)
  else none

/-- The outcome of a comparison whose products are those of the integers. -/
def exactOutcome (observed limit : Int) (gracePct hardBlockPct : Nat) (code : BlockCode)
    (reason : String) : Option Decision :=
  outcomeOf (hardBlockPct * limit ≤ 100 * observed) (gracePct * limit < 100 * observed)
    (limit < observed) code reason

/-- The exact outcome, but for a reading whose percentage leaves the range, which is blocked. -/
def closedOutcome (observed limit : Int) (gracePct hardBlockPct : Nat) (code : BlockCode)
    (reason : String) : Option Decision :=
  outcomeOf (hardBlockPct * limit ≤ 100 * observed ∨ 2 ^ 63 - 1 ≤ 100 * observed)
    (gracePct * limit < 100 * observed) (limit < observed) code reason

section

variable {blocks throttles exceeds blocks' throttles' exceeds' : Prop} [Decidable blocks]
  [Decidable throttles] [Decidable exceeds] [Decidable blocks'] [Decidable throttles']
  [Decidable exceeds']

/-- A lower band matters only where no higher one is reached. -/
theorem outcomeOf_congr (block : blocks ↔ blocks')
    (throttle : ¬ blocks → (throttles ↔ throttles'))
    (exceed : ¬ blocks → ¬ throttles → (exceeds ↔ exceeds')) (code : BlockCode) (reason : String) :
    outcomeOf blocks throttles exceeds code reason =
      outcomeOf blocks' throttles' exceeds' code reason := by
  -- The bands are asked from the highest one down.
  unfold outcomeOf
  by_cases first : blocks
  · rw [if_pos first, if_pos (block.mp first)]
  · rw [if_neg first, if_neg (first ∘ block.mpr)]
    by_cases second : throttles
    · rw [if_pos second, if_pos ((throttle first).mp second)]
    · rw [if_neg second, if_neg (second ∘ (throttle first).mpr)]
      by_cases third : exceeds
      · rw [if_pos third, if_pos ((exceed first second).mp third)]
      · rw [if_neg third, if_neg (third ∘ (exceed first second).mpr)]

/-- Where every band that is reached is reached again, the outcome is at least as severe. -/
theorem severityOf_outcomeOf_mono (block : blocks → blocks') (throttle : throttles → throttles')
    (exceed : exceeds → exceeds') (code : BlockCode) (reason : String) :
    severityOf (outcomeOf blocks throttles exceeds code reason) ≤
      severityOf (outcomeOf blocks' throttles' exceeds' code reason) := by
  unfold outcomeOf
  split_ifs <;> simp_all [severityOf, Decision.severity]

end

/-- A percentage of a limit, cut off at the ends of the range. -/
theorem percentage_toInt (limit : Int64) (pct : UInt8) :
    (Saturating.mul limit (Int64.ofNat pct.toNat)).toInt =
      max (-2 ^ 63) (min (2 ^ 63 - 1) (pct.toNat * limit.toInt)) := by
  -- A percentage is small, so only the product can be cut off.
  have word : (Int64.ofNat pct.toNat).toInt = pct.toNat := by
    apply Int64.toInt_ofNat_of_lt
    have := pct.toNat_lt
    omega
  rw [Saturating.mul, Saturating.toI64_toInt, word, Int.mul_comm]

/-- A reading as a percentage, cut off at the ends of the range. -/
theorem hundredfold_toInt (observed : Int64) :
    (Saturating.mul observed 100).toInt =
      max (-2 ^ 63) (min (2 ^ 63 - 1) (100 * observed.toInt)) := by
  rw [Saturating.mul, Saturating.toI64_toInt, Int.mul_comm]
  rfl

/-- The comparison by its bands, the first of which holds every limit that is not positive. -/
theorem compareLimitI64_bands (observed limit : Int64) (gracePct hardBlockPct : UInt8)
    (code : BlockCode) (reason : String) :
    compareLimitI64 observed limit gracePct hardBlockPct code reason =
      outcomeOf
        (limit.toInt ≤ 0 ∨ max (-2 ^ 63) (min (2 ^ 63 - 1) (hardBlockPct.toNat * limit.toInt)) ≤
          max (-2 ^ 63) (min (2 ^ 63 - 1) (100 * observed.toInt)))
        (max (-2 ^ 63) (min (2 ^ 63 - 1) (gracePct.toNat * limit.toInt)) <
          max (-2 ^ 63) (min (2 ^ 63 - 1) (100 * observed.toInt)))
        (limit.toInt < observed.toInt) code reason := by
  -- A limit that is not positive is in the first band on both sides.
  simp only [compareLimitI64, outcomeOf, Int64.le_iff_toInt_le, Int64.lt_iff_toInt_lt, ge_iff_le,
    gt_iff_lt, percentage_toInt, hundredfold_toInt, Int64.toInt_zero]
  by_cases positive : limit.toInt ≤ 0
  · simp [positive]
  · simp [positive]

/-- Against a positive limit, only a reading that leaves the range is not compared exactly. -/
theorem compareLimitI64_eq {limit : Int64} (positive : 0 < limit) (observed : Int64)
    (gracePct hardBlockPct : UInt8) (code : BlockCode) (reason : String) :
    compareLimitI64 observed limit gracePct hardBlockPct code reason =
      closedOutcome observed.toInt limit.toInt gracePct.toNat hardBlockPct.toNat code reason := by
  have above : 0 < limit.toInt := by simpa [Int64.lt_iff_toInt_lt] using positive
  have hard : 0 ≤ hardBlockPct.toNat * limit.toInt := by positivity
  have grace : 0 ≤ gracePct.toNat * limit.toInt := by positivity
  rw [compareLimitI64_bands, closedOutcome]
  -- What is cut off of a product is over every reading inside the range.
  generalize (hardBlockPct.toNat : Int) * limit.toInt = hardLimit at *
  apply outcomeOf_congr
  · omega
  · intro inside
    omega
  · exact fun _ _ => Iff.rfl

/-- A count as a signed number is cut off at the end of the range. -/
theorem u64ToI64Saturating_toInt (value : UInt64) :
    (u64ToI64Saturating value).toInt = min (2 ^ 63 - 1) (value.toNat : Int) := by
  rw [u64ToI64Saturating, Saturating.toI64_toInt]
  omega

/-- Cutting off a limit first changes nothing about a percentage of it that is cut off. -/
theorem min_percentage (pct limit : Nat) :
    min (2 ^ 63 - 1) ((pct : Int) * min (2 ^ 63 - 1) (limit : Int)) =
      min (2 ^ 63 - 1) (pct * limit : Int) := by
  rcases le_or_gt (limit : Int) (2 ^ 63 - 1) with inside | beyond
  · rw [min_eq_right inside]
  · rw [min_eq_left beyond.le]
    rcases Nat.eq_zero_or_pos pct with rfl | positive
    · simp
    · -- One percent of what lies beyond the range still does.
      have whole : (1 : Int) ≤ pct := by omega
      have cut : (2 ^ 63 - 1 : Int) ≤ pct * (2 ^ 63 - 1) := by nlinarith
      have full : (2 ^ 63 - 1 : Int) ≤ pct * limit := by nlinarith
      rw [min_eq_left cut, min_eq_left full]

/-- The comparison of counts is the one of numbers, for counts beyond the signed range too. -/
theorem compareLimit_eq (observed limit : UInt64) (gracePct hardBlockPct : UInt8)
    (code : BlockCode) (reason : String) :
    compareLimit observed limit gracePct hardBlockPct code reason =
      closedOutcome observed.toNat limit.toNat gracePct.toNat hardBlockPct.toNat code reason := by
  have hard : (0 : Int) ≤ hardBlockPct.toNat * limit.toNat := by positivity
  have grace : (0 : Int) ≤ gracePct.toNat * limit.toNat := by positivity
  have hardCut : (0 : Int) ≤ hardBlockPct.toNat * min (2 ^ 63 - 1) (limit.toNat : Int) := by
    positivity
  have graceCut : (0 : Int) ≤ gracePct.toNat * min (2 ^ 63 - 1) (limit.toNat : Int) := by
    positivity
  have hardSame := min_percentage hardBlockPct.toNat limit.toNat
  have graceSame := min_percentage gracePct.toNat limit.toNat
  have zero : (limit.toNat : Int) = 0 → (hardBlockPct.toNat * limit.toNat : Int) = 0 := by
    intro none
    rw [none, mul_zero]
  rw [compareLimit, compareLimitI64_bands, closedOutcome, u64ToI64Saturating_toInt,
    u64ToI64Saturating_toInt]
  generalize (hardBlockPct.toNat : Int) * limit.toNat = hardLimit at *
  generalize (gracePct.toNat : Int) * limit.toNat = graceLimit at *
  generalize (hardBlockPct.toNat : Int) * min (2 ^ 63 - 1) (limit.toNat : Int) = hardCutLimit at *
  generalize (gracePct.toNat : Int) * min (2 ^ 63 - 1) (limit.toNat : Int) = graceCutLimit at *
  -- Only a reading inside the range gets past the first band, and it is compared as it is.
  apply outcomeOf_congr
  · omega
  · intro inside
    omega
  · intro inside _
    omega

/-- A higher reading of the same limit is at least as severe. -/
theorem compareLimitI64_mono {lower upper : Int64} (order : lower ≤ upper) (limit : Int64)
    (gracePct hardBlockPct : UInt8) (code : BlockCode) (reason : String) :
    severityOf (compareLimitI64 lower limit gracePct hardBlockPct code reason) ≤
      severityOf (compareLimitI64 upper limit gracePct hardBlockPct code reason) := by
  rw [Int64.le_iff_toInt_le] at order
  rw [compareLimitI64_bands, compareLimitI64_bands]
  -- Every band that the lower reading reaches is reached by the higher one.
  apply severityOf_outcomeOf_mono
  · omega
  · omega
  · omega

/-- The same reading is at least as severe for a tighter limit. -/
theorem compareLimitI64_anti {tight loose : Int64} (order : tight ≤ loose) (observed : Int64)
    (gracePct hardBlockPct : UInt8) (code : BlockCode) (reason : String) :
    severityOf (compareLimitI64 observed loose gracePct hardBlockPct code reason) ≤
      severityOf (compareLimitI64 observed tight gracePct hardBlockPct code reason) := by
  rw [Int64.le_iff_toInt_le] at order
  have hard : hardBlockPct.toNat * tight.toInt ≤ hardBlockPct.toNat * loose.toInt :=
    mul_le_mul_of_nonneg_left order (by positivity)
  have grace : gracePct.toNat * tight.toInt ≤ gracePct.toNat * loose.toInt :=
    mul_le_mul_of_nonneg_left order (by positivity)
  rw [compareLimitI64_bands, compareLimitI64_bands]
  -- The percentages of the tighter limit are the smaller ones.
  apply severityOf_outcomeOf_mono
  · omega
  · omega
  · omega

theorem u64ToI64Saturating_mono {lower upper : UInt64} (order : lower ≤ upper) :
    u64ToI64Saturating lower ≤ u64ToI64Saturating upper := by
  rw [UInt64.le_iff_toNat_le] at order
  rw [Int64.le_iff_toInt_le, u64ToI64Saturating_toInt, u64ToI64Saturating_toInt]
  omega

/--
A comparison is that of the integers, but for a reading whose percentage leaves the range, which is
blocked. A higher reading and a tighter limit are at least as severe.
-/
theorem comparison_exact_or_closed (gracePct hardBlockPct : UInt8) (code : BlockCode)
    (reason : String) :
    (∀ observed limit : Int64, 0 ≤ observed → 0 < limit →
      compareLimitI64 observed limit gracePct hardBlockPct code reason =
        closedOutcome observed.toInt limit.toInt gracePct.toNat hardBlockPct.toNat code reason) ∧
    (∀ observed limit : UInt64,
      compareLimit observed limit gracePct hardBlockPct code reason =
        closedOutcome observed.toNat limit.toNat gracePct.toNat hardBlockPct.toNat code reason) ∧
    (∀ lower upper limit : Int64, lower ≤ upper →
      severityOf (compareLimitI64 lower limit gracePct hardBlockPct code reason) ≤
        severityOf (compareLimitI64 upper limit gracePct hardBlockPct code reason)) ∧
    (∀ observed tight loose : Int64, tight ≤ loose →
      severityOf (compareLimitI64 observed loose gracePct hardBlockPct code reason) ≤
        severityOf (compareLimitI64 observed tight gracePct hardBlockPct code reason)) ∧
    (∀ lower upper limit : UInt64, lower ≤ upper →
      severityOf (compareLimit lower limit gracePct hardBlockPct code reason) ≤
        severityOf (compareLimit upper limit gracePct hardBlockPct code reason)) ∧
    ∀ observed tight loose : UInt64, tight ≤ loose →
      severityOf (compareLimit observed loose gracePct hardBlockPct code reason) ≤
        severityOf (compareLimit observed tight gracePct hardBlockPct code reason) :=
  ⟨fun observed _ _ positive =>
      compareLimitI64_eq positive observed gracePct hardBlockPct code reason,
    fun observed limit => compareLimit_eq observed limit gracePct hardBlockPct code reason,
    fun _ _ limit order => compareLimitI64_mono order limit gracePct hardBlockPct code reason,
    fun observed _ _ order => compareLimitI64_anti order observed gracePct hardBlockPct code reason,
    fun _ _ limit order => compareLimitI64_mono (u64ToI64Saturating_mono order)
      (u64ToI64Saturating limit) gracePct hardBlockPct code reason,
    fun observed _ _ order => compareLimitI64_anti (u64ToI64Saturating_mono order)
      (u64ToI64Saturating observed) gracePct hardBlockPct code reason⟩

/-- A reading at the hard percentage of its limit is blocked. -/
theorem hard_percentage_is_blocked :
    compareLimitI64 103 100 101 103 .quotaExceeded "quota_exceeded" =
      some (.block "quota_exceeded" .quotaExceeded) := by
  rw [(comparison_exact_or_closed 101 103 .quotaExceeded "quota_exceeded").1 103 100 (by decide)
    (by decide)]
  decide

/-- A tenth of the largest limit is blocked, although it is far below every band. -/
theorem saturated_reading_is_blocked :
    let observed : Int64 := 922337203685477580
    let limit : Int64 := 9223372036854775807
    compareLimitI64 observed limit 101 103 .quotaExceeded "quota_exceeded" =
        some (.block "quota_exceeded" .quotaExceeded) ∧
      exactOutcome observed.toInt limit.toInt 101 103 .quotaExceeded "quota_exceeded" = none := by
  decide

end Zradar.Policies
