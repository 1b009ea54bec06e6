import Zradar.Policies.Comparison

/-! The dimensions that an ingest request is limited in, compared on the integers and in order. -/

namespace Zradar.Policies

/-- A reading of usage, what a request adds to it, and the limit of both together. -/
structure Dimension where
  reading : Int
  asked : Int
  limit : Int
  code : BlockCode
  reason : String

namespace Dimension

variable (dimension : Dimension) (gracePct hardBlockPct : Nat)

/-- What is compared with the limit. -/
def observed : Int := dimension.reading + dimension.asked

/-- The reading alone is at the hard percentage of the limit. -/
def Reached : Prop := hardBlockPct * dimension.limit ≤ 100 * dimension.reading

/-- A request is blocked or throttled, as is one whose percentage leaves the range. -/
def Refused : Prop :=
  dimension.limit ≤ 0 ∨ hardBlockPct * dimension.limit ≤ 100 * dimension.observed ∨
    2 ^ 63 - 1 ≤ 100 * dimension.observed ∨ gracePct * dimension.limit < 100 * dimension.observed

/-- A request does not even get into the grace band. -/
def Within : Prop :=
  ¬ dimension.Refused gracePct hardBlockPct ∧ dimension.observed ≤ dimension.limit

/-- The outcome of the comparison. -/
def outcome : Option Decision :=
  outcomeOf
    (dimension.limit ≤ 0 ∨ hardBlockPct * dimension.limit ≤ 100 * dimension.observed ∨
      2 ^ 63 - 1 ≤ 100 * dimension.observed)
    (gracePct * dimension.limit < 100 * dimension.observed) (dimension.limit < dimension.observed)
    dimension.code dimension.reason

variable {dimension gracePct hardBlockPct}

theorem outcome_eq_none :
    dimension.outcome gracePct hardBlockPct = none ↔ dimension.Within gracePct hardBlockPct := by
  -- There is no outcome exactly if none of the three bands is reached.
  unfold outcome outcomeOf Within Refused
  split_ifs with blocks throttles exceeds
  · simp only [false_iff]
    tauto
  · simp only [false_iff]
    tauto
  · simp only [false_iff]
    omega
  · simp only [true_iff]
    exact ⟨by tauto, by omega⟩

theorem refused_iff :
    dimension.Refused gracePct hardBlockPct ↔
      2 ≤ severityOf (dimension.outcome gracePct hardBlockPct) := by
  -- Blocking and throttling are the outcomes above grace.
  unfold outcome outcomeOf Refused
  split_ifs with blocks throttles exceeds
  · simp only [severityOf, Decision.severity]
    exact iff_of_true (by tauto) (by omega)
  · simp only [severityOf, Decision.severity]
    exact iff_of_true (by tauto) (by omega)
  · simp only [severityOf, Decision.severity]
    exact iff_of_false (by tauto) (by omega)
  · simp only [severityOf]
    exact iff_of_false (by tauto) (by omega)

end Dimension

section

variable (usage : UsageReader) (ctx : IngestCtx)

/-- The rate of records, where it is limited and can be read. -/
def recordsDimension (rate : Option PolicyLimit) : Option Dimension :=
  match rate, usage.currentRate ctx.workspaceId ctx.signal .ingest with
  | some (.rate (some limit) _), .ok sample =>
    some ⟨sample.recordsPerSec.toNat, ctx.records.toNat, limit.toNat, .rateLimitExceeded,
      "rate_records_exceeded"⟩
  | _, _ => none

/-- The rate of bytes, where it is limited and can be read. -/
def bytesDimension (rate : Option PolicyLimit) : Option Dimension :=
  match rate, usage.currentRate ctx.workspaceId ctx.signal .ingest with
  | some (.rate _ (some limit)), .ok sample =>
    some ⟨sample.bytesPerSec.toNat, (ctx.estimatedBytes.getD 0).toNat, limit.toNat,
      .rateLimitExceeded, "rate_bytes_exceeded"⟩
  | _, _ => none

/-- A quota of compressed bytes, where it can be read. -/
def quotaDimension : PolicyLimit → Option Dimension
  | .quota maxBytes periodStart periodEnd .compressedBytes =>
    match usage.periodUsedBytes ctx.workspaceId ctx.signal .ingest periodStart periodEnd with
    | .ok used =>
      some ⟨used.toInt, (u64ToI64Saturating (ctx.estimatedBytes.getD 0)).toInt, maxBytes.toInt,
        .quotaExceeded, "quota_exceeded"⟩
    | .error _ => none
  | _ => none

/-- The compressed bytes that are stored, where they are limited and can be read. -/
def sizeDimension (size : Option PolicyLimit) : Option Dimension :=
  match size, usage.storedCompressedBytes ctx.workspaceId ctx.signal with
  | some (.size maxBytes .compressedBytes), .ok stored =>
    some ⟨stored.toInt, 0, maxBytes.toInt, .sizeExceeded, "size_exceeded"⟩
  | _, _ => none

/-- All dimensions that a policy limits. -/
def limitedDimensions (resolved : ResolvedPolicy) : List Dimension :=
  (recordsDimension usage ctx resolved.rate).toList ++
    (bytesDimension usage ctx resolved.rate).toList ++
    resolved.quotas.filterMap (quotaDimension usage ctx) ++
    (sizeDimension usage ctx resolved.size).toList

/-- The dimensions that are checked, in their order: bytes only if a request says how many. -/
def checkedDimensions (resolved : ResolvedPolicy) : List Dimension :=
  (recordsDimension usage ctx resolved.rate).toList ++
    (ctx.estimatedBytes.bind fun _ => bytesDimension usage ctx resolved.rate).toList ++
    resolved.quotas.filterMap (quotaDimension usage ctx) ++
    (sizeDimension usage ctx resolved.size).toList

/--
A policy refuses a request: the workspace is blocked, or the first dimension that a request is not
within refuses it.
-/
def PolicyRefuses (resolved : ResolvedPolicy) : Prop :=
  resolved.blocked = true ∨
    ∃ before dimension after,
      checkedDimensions usage ctx resolved = before ++ dimension :: after ∧
        (∀ other ∈ before,
          other.Within resolved.gracePct.toNat resolved.hardBlockPct.toNat) ∧
        dimension.Refused resolved.gracePct.toNat resolved.hardBlockPct.toNat

variable {usage ctx}

/-- The comparison of counts, where a sum is cut off at the end of the range. -/
theorem compareLimit_outcome (reading asked limit : UInt64) (gracePct hardBlockPct : UInt8)
    (code : BlockCode) (reason : String) :
    compareLimit (Saturating.addU64 reading asked) limit gracePct hardBlockPct code reason =
      Dimension.outcome ⟨reading.toNat, asked.toNat, limit.toNat, code, reason⟩ gracePct.toNat
        hardBlockPct.toNat := by
  have zero : (limit.toNat : Int) ≤ 0 → (hardBlockPct.toNat * limit.toNat : Int) = 0 := by
    intro none
    rw [le_antisymm none (by positivity), mul_zero]
  rw [compareLimit_eq, closedOutcome, Dimension.outcome, Saturating.addU64_toNat]
  simp only [Dimension.observed]
  generalize (hardBlockPct.toNat : Int) * limit.toNat = hardLimit at *
  -- A sum that is cut off is over the range of the percentage, and so is the exact one.
  apply outcomeOf_congr
  · omega
  · intro inside
    omega
  · intro inside _
    omega

/-- The comparison of bytes, where a sum with a count is cut off at the end of the range. -/
theorem compareLimitI64_outcome {asked : Int64} (counted : 0 ≤ asked.toInt) (reading limit : Int64)
    (gracePct hardBlockPct : UInt8) (code : BlockCode) (reason : String) :
    compareLimitI64 (Saturating.add reading asked) limit gracePct hardBlockPct code reason =
      Dimension.outcome ⟨reading.toInt, asked.toInt, limit.toInt, code, reason⟩ gracePct.toNat
        hardBlockPct.toNat := by
  have least := reading.le_toInt
  rw [compareLimitI64_bands, Dimension.outcome, Saturating.add, Saturating.toI64_toInt]
  simp only [Dimension.observed]
  rcases le_or_gt limit.toInt 0 with none | positive
  · -- A limit that is not positive blocks on both sides.
    simp only [outcomeOf, none, true_or, if_true]
  · have hard : 0 ≤ hardBlockPct.toNat * limit.toInt := by positivity
    have grace : 0 ≤ gracePct.toNat * limit.toInt := by positivity
    generalize (hardBlockPct.toNat : Int) * limit.toInt = hardLimit at *
    generalize (gracePct.toNat : Int) * limit.toInt = graceLimit at *
    apply outcomeOf_congr
    · omega
    · intro inside
      omega
    · intro inside _
      omega

variable (gracePct hardBlockPct : UInt8)

theorem checkRate_recordsOnly (rate : Option PolicyLimit) :
    checkRate usage ctx (recordsOnly rate) .ingest gracePct hardBlockPct =
      (recordsDimension usage ctx rate).bind
        (Dimension.outcome · gracePct.toNat hardBlockPct.toNat) := by
  -- There is a dimension exactly where there is a limit and a reading.
  rcases rate with _ | ⟨_ | limit, bytesPerSec⟩ | _ | _ | _ | _
  case some.rate.none =>
    simp only [checkRate, recordsOnly, recordsDimension]
    cases usage.currentRate ctx.workspaceId ctx.signal .ingest <;> rfl
  case some.rate.some =>
    simp only [checkRate, recordsOnly, recordsDimension]
    cases usage.currentRate ctx.workspaceId ctx.signal .ingest with
    | error message => rfl
    | ok sample =>
      simp only [Option.bind_some, Option.bind_none, compareLimit_outcome]
      split <;> simp_all
  all_goals rfl

theorem checkRate_bytesOnly (rate : Option PolicyLimit) :
    checkRate usage ctx (bytesOnly rate) .ingest gracePct hardBlockPct =
      (ctx.estimatedBytes.bind fun _ => bytesDimension usage ctx rate).bind
        (Dimension.outcome · gracePct.toNat hardBlockPct.toNat) := by
  -- Besides a limit and a reading, the request has to say how many bytes it adds.
  rcases rate with _ | ⟨recordsPerSec, _ | limit⟩ | _ | _ | _ | _
  case some.rate.none =>
    simp only [checkRate, bytesOnly, bytesDimension]
    cases usage.currentRate ctx.workspaceId ctx.signal .ingest <;>
      cases ctx.estimatedBytes <;> rfl
  case some.rate.some =>
    simp only [checkRate, bytesOnly, bytesDimension]
    cases usage.currentRate ctx.workspaceId ctx.signal .ingest with
    | error message => cases ctx.estimatedBytes <;> rfl
    | ok sample =>
      cases ctx.estimatedBytes with
      | none => rfl
      | some estimatedBytes =>
        simp only [Option.bind_some, Option.bind_none, Option.getD_some, compareLimit_outcome]
  all_goals cases ctx.estimatedBytes <;> rfl

theorem checkQuota_outcome (quota : PolicyLimit) :
    checkQuota usage ctx quota .ingest gracePct hardBlockPct =
      (quotaDimension usage ctx quota).bind
        (Dimension.outcome · gracePct.toNat hardBlockPct.toNat) := by
  -- Only a quota of compressed bytes is compared, and only if it can be read.
  rcases quota with _ | ⟨maxBytes, periodStart, periodEnd, _ | _⟩ | _ | _ | _
  case quota.compressedBytes =>
    have counted : 0 ≤ (u64ToI64Saturating (ctx.estimatedBytes.getD 0)).toInt := by
      rw [u64ToI64Saturating_toInt]
      omega
    simp only [checkQuota, quotaDimension]
    cases usage.periodUsedBytes ctx.workspaceId ctx.signal .ingest periodStart periodEnd with
    | error message => rfl
    | ok used => simp [compareLimitI64_outcome counted]
  all_goals rfl

theorem checkSize_outcome (size : Option PolicyLimit) :
    checkSize usage ctx size gracePct hardBlockPct =
      (sizeDimension usage ctx size).bind
        (Dimension.outcome · gracePct.toNat hardBlockPct.toNat) := by
  rcases size with _ | _ | _ | ⟨maxBytes, _ | _⟩ | _ | _
  case some.size.compressedBytes =>
    simp only [checkSize, sizeDimension]
    cases usage.storedCompressedBytes ctx.workspaceId ctx.signal with
    | error message => rfl
    | ok stored =>
      -- Nothing is added to what is stored.
      have same : Saturating.add stored 0 = stored := by
        apply Int64.toInt_inj.mp
        have least := stored.le_toInt
        have most := stored.toInt_lt
        rw [Saturating.add, Saturating.toI64_toInt, Int64.toInt_zero]
        omega
      have counted : 0 ≤ (0 : Int64).toInt := le_of_eq Int64.toInt_zero.symm
      have compared := compareLimitI64_outcome counted stored maxBytes gracePct hardBlockPct
        .sizeExceeded "size_exceeded"
      rw [same, Int64.toInt_zero] at compared
      simp [compared]
  all_goals rfl

variable {gracePct hardBlockPct}

/-- The outcomes of the checks are those of the dimensions that are checked. -/
theorem findSome?_ingestOutcomes (resolved : ResolvedPolicy) :
    (ingestOutcomes usage ctx resolved).findSome? id =
      (checkBlocked resolved.blocked).or ((checkedDimensions usage ctx resolved).findSome?
        (Dimension.outcome · resolved.gracePct.toNat resolved.hardBlockPct.toNat)) := by
  have single (dimension : Option Dimension) (rest : List (Option Decision)) :
      ((dimension.bind (Dimension.outcome · resolved.gracePct.toNat
        resolved.hardBlockPct.toNat)) :: rest).findSome? id =
      (dimension.toList.findSome? (Dimension.outcome · resolved.gracePct.toNat
        resolved.hardBlockPct.toNat)).or (rest.findSome? id) := by
    rw [findSome?_cons_id]
    cases dimension <;> simp
  have quotas : (resolved.quotas.map fun quota => checkQuota usage ctx quota .ingest
        resolved.gracePct resolved.hardBlockPct).findSome? id =
      (resolved.quotas.filterMap (quotaDimension usage ctx)).findSome? (Dimension.outcome ·
        resolved.gracePct.toNat resolved.hardBlockPct.toNat) := by
    simp only [checkQuota_outcome, ← List.head?_filterMap, List.filterMap_filterMap,
      List.filterMap_map]
    rfl
  -- Each check stands for the dimension at its place, and decides where there is one.
  simp only [ingestOutcomes, List.cons_append, List.nil_append, checkRate_recordsOnly,
    checkRate_bytesOnly, checkSize_outcome]
  rw [findSome?_cons_id, single, single, List.findSome?_append, quotas, single]
  simp [checkedDimensions, List.findSome?_append]

/-- A decision refuses a request exactly if the policy does. -/
theorem decideIngest_refuses_iff (resolved : ResolvedPolicy) :
    2 ≤ (decideIngest usage ctx resolved).severity ↔ PolicyRefuses usage ctx resolved := by
  rw [decideIngest_eq, findSome?_ingestOutcomes, PolicyRefuses, checkBlocked]
  by_cases blocked : resolved.blocked = true
  · simp [blocked, Decision.severity]
  · simp only [blocked, Bool.false_eq_true, if_false, Option.none_or, false_or]
    constructor
    · intro severe
      cases found : (checkedDimensions usage ctx resolved).findSome?
          (Dimension.outcome · resolved.gracePct.toNat resolved.hardBlockPct.toNat) with
      | none =>
        rw [found] at severe
        simp [Decision.severity] at severe
      | some decision =>
        -- The dimension that decides is the first one with an outcome.
        rw [found] at severe
        obtain ⟨before, dimension, after, same, decides, none⟩ :=
          List.findSome?_eq_some_iff.mp found
        refine ⟨before, dimension, after, same,
          fun other member => Dimension.outcome_eq_none.mp (none other member), ?_⟩
        rw [Dimension.refused_iff, decides]
        exact severe
    · rintro ⟨before, dimension, after, same, within, refused⟩
      rw [Dimension.refused_iff] at refused
      cases decides : dimension.outcome resolved.gracePct.toNat resolved.hardBlockPct.toNat with
      | none => simp [decides, severityOf] at refused
      | some decision =>
        have found := List.findSome?_eq_some_iff.mpr ⟨before, dimension, after, same, decides,
          fun other member => Dimension.outcome_eq_none.mpr (within other member)⟩
        rw [decides] at refused
        rw [found]
        exact refused

end

end Zradar.Policies
