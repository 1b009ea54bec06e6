import Zradar.Policies.Resolve
import Zradar.Policies.Severity
import Zradar.Policies.Usage

/-! Limits that are declared for all signals, and the usage of one signal they are measured on. -/

namespace Zradar.Policies

open InMemoryUsageTracker

/-- The exact number of bytes that a workspace has stored, over all signals. -/
def totalStored (tracker : InMemoryUsageTracker) (workspaceId : WorkspaceId) : Int :=
  ((tracker.storedCompressedBytes.filter fun entry => entry.1.workspaceId = workspaceId).map
    fun entry => entry.2.toInt).sum

section

variable (cache : PolicyCache) (tracker : InMemoryUsageTracker) (nowMicros : Int64)
  (ctx : IngestCtx)

/-- The ingest points of a workspace over all signals. -/
def allPoints : List UsagePoint := tracker.points ctx.workspaceId .all .ingest

/-- The policy that is declared for the ingest of all signals. -/
def declared (kind : LimitKind) : Option Policy := cache.get ⟨ctx.workspaceId, .all, .ingest, kind⟩

/-- A limit that is declared for all signals and that the total is over, at its hard percentage. -/
inductive TotalOverHard : Prop where
  | quota (policy : Policy) (maxBytes periodStart : Int64) (periodEnd : Option Int64)
      (found : declared cache ctx .quota = some policy)
      (limit : policy.limit = .quota maxBytes periodStart periodEnd .compressedBytes)
      (exceeds : maxBytes.toInt * policy.hardBlockPct.toNat ≤
        100 * (totalBytes ((allPoints tracker ctx).filter (inPeriod periodStart periodEnd)) +
          (ctx.estimatedBytes.getD 0).toNat : Nat))
  | size (policy : Policy) (maxBytes : Int64) (found : declared cache ctx .size = some policy)
      (limit : policy.limit = .size maxBytes .compressedBytes)
      (exceeds : maxBytes.toInt * policy.hardBlockPct.toNat ≤
        100 * totalStored tracker ctx.workspaceId)
  | records (policy : Policy) (recordsPerSec : UInt64) (bytesPerSec : Option UInt64)
      (found : declared cache ctx .rate = some policy)
      (limit : policy.limit = .rate (some recordsPerSec) bytesPerSec)
      (exceeds : recordsPerSec.toNat * policy.hardBlockPct.toNat ≤
        100 * (totalRecords ((allPoints tracker ctx).filter (recent nowMicros)) +
          ctx.records.toNat))
  | bytes (policy : Policy) (recordsPerSec : Option UInt64) (bytesPerSec : UInt64)
      (found : declared cache ctx .rate = some policy)
      (limit : policy.limit = .rate recordsPerSec (some bytesPerSec))
      (exceeds : bytesPerSec.toNat * policy.hardBlockPct.toNat ≤
        100 * (totalBytes ((allPoints tracker ctx).filter (recent nowMicros)) +
          (ctx.estimatedBytes.getD 0).toNat))

/-- The policy that an ingest request is checked under. -/
def ingestPolicy : ResolvedPolicy :=
  resolveCachedPolicy cache ctx.workspaceId ctx.signal .ingest

/-- The outcomes of the comparisons, each with a reading of the request's own signal. -/
def ownOutcomes : List (Option Decision) :=
  ingestOutcomes (tracker.reader nowMicros) ctx (ingestPolicy cache ctx)

/--
On readings of the request's own signal, some limit is at its hard percentage and none that is
checked before it is out of bounds.
-/
def OwnSignalHard : Prop :=
  ∃ before outcome after, ownOutcomes cache tracker nowMicros ctx = before ++ outcome :: after ∧
    (∀ other ∈ before, other = none) ∧ severityOf outcome = 3

/-- The workspace has no ingest usage of a signal other than the request's. -/
structure OwnIsTotal : Prop where
  events : ∀ entry ∈ tracker.events, entry.1.workspaceId = ctx.workspaceId →
    entry.1.operation = .ingest → entry.1.signal = ctx.signal
  stored : ∀ entry ∈ tracker.storedCompressedBytes, entry.1.workspaceId = ctx.workspaceId →
    entry.1.signal = ctx.signal
  positive : ∀ entry ∈ tracker.storedCompressedBytes, 0 ≤ entry.2.toInt

/-- Each comparison blocks or has no outcome, sizes count compressed bytes, and so do estimates. -/
structure Decisive : Prop where
  outcomes : ∀ outcome ∈ ownOutcomes cache tracker nowMicros ctx,
    outcome = none ∨ severityOf outcome = 3
  sizes : ∀ policy ∈ applicable cache ctx.workspaceId ctx.signal .ingest, ∀ maxBytes basis,
    policy.limit = .size maxBytes basis → basis = .compressedBytes
  estimated : ctx.estimatedBytes.isSome

end

/-- A comparison with a limit blocks when the exact usage is over the limit. -/
theorem compareLimitI64_hard {observed limit : Int64} {gracePct hardBlockPct : UInt8} {exact : Int}
    (reading : min (2 ^ 63 - 1) exact ≤ observed.toInt)
    (exceeds : limit.toInt * hardBlockPct.toNat ≤ 100 * exact) (code : BlockCode) (reason : String) :
    compareLimitI64 observed limit gracePct hardBlockPct code reason =
      some (.block reason code) := by
  -- The reading is over the hard percentage of the limit.
  unfold compareLimitI64
  split
  · rfl
  · -- What is cut off of the usage is over every limit that is cut off in the same way.
    have pct : (Int64.ofNat hardBlockPct.toNat).toInt = hardBlockPct.toNat := by
      apply Int64.toInt_ofNat_of_lt
      have := hardBlockPct.toNat_lt
      omega
    have hard : Saturating.mul observed 100 ≥
        Saturating.mul limit (Int64.ofNat hardBlockPct.toNat) := by
      rw [ge_iff_le, Int64.le_iff_toInt_le, Saturating.mul, Saturating.mul,
        Saturating.toI64_toInt, Saturating.toI64_toInt, pct,
        show (100 : Int64).toInt = 100 from rfl]
      generalize limit.toInt * hardBlockPct.toNat = product at *
      omega
    rw [if_pos hard]

/-- A tighter limit at a lower percentage is exceeded as well. -/
theorem over_of_tighter {least limit exact : Int} {resolvedPct pct : Nat} (tighter : least ≤ limit)
    (lower : resolvedPct ≤ pct) (positive : 0 ≤ exact) (exceeds : limit * pct ≤ 100 * exact) :
    least * resolvedPct ≤ 100 * exact := by
  -- A limit below zero is exceeded by any reading.
  rcases le_or_gt least 0 with small | large
  · calc least * resolvedPct ≤ 0 := mul_nonpos_of_nonpos_of_nonneg small (by positivity)
      _ ≤ 100 * exact := by omega
  · calc least * resolvedPct ≤ limit * pct := by
          apply mul_le_mul tighter (by exact_mod_cast lower) (by positivity) (by omega)
      _ ≤ 100 * exact := exceeds

/-- A comparison of counts blocks when the exact usage is over a limit that is no tighter. -/
theorem compareLimit_hard {observed limit : UInt64} {gracePct hardBlockPct : UInt8}
    {exact bound pct : Nat} (reading : min (2 ^ 64 - 1) exact ≤ observed.toNat)
    (tighter : limit.toNat ≤ bound) (lower : hardBlockPct.toNat ≤ pct)
    (exceeds : bound * pct ≤ 100 * exact) (code : BlockCode) (reason : String) :
    compareLimit observed limit gracePct hardBlockPct code reason =
      some (.block reason code) := by
  -- The words are cut off at the top of their range, which keeps the comparison.
  have exceeds : (bound : Int) * (pct : Int) ≤ 100 * (exact : Int) := by exact_mod_cast exceeds
  refine compareLimitI64_hard ?_ (over_of_tighter ?_ lower (by positivity) exceeds) code reason
  · rw [u64ToI64Saturating, Saturating.toI64_toInt]
    omega
  · rw [u64ToI64Saturating, Saturating.toI64_toInt]
    omega

section

variable {cache : PolicyCache} {tracker : InMemoryUsageTracker} {nowMicros : Int64}
  {ctx : IngestCtx}

/-- Usage of one signal only is the total. -/
theorem OwnIsTotal.points (own : OwnIsTotal tracker ctx) :
    tracker.points ctx.workspaceId ctx.signal .ingest = allPoints tracker ctx := by
  -- All events of the workspace are those of its signal.
  unfold allPoints InMemoryUsageTracker.points
  congr 1
  apply List.filter_congr
  intro entry member
  have same := own.events entry member
  unfold usageKeyMatches
  grind

/-- Bytes that are stored for one signal only are the total. -/
theorem OwnIsTotal.stored_toInt (own : OwnIsTotal tracker ctx) :
    (tracker.stored ctx.workspaceId ctx.signal).toInt =
      min (2 ^ 63 - 1) (totalStored tracker ctx.workspaceId) := by
  -- All stored bytes of the workspace are those of its signal.
  have kept : (tracker.storedCompressedBytes.filter fun entry =>
      entry.1.workspaceId = ctx.workspaceId &&
        (ctx.signal = .all || entry.1.signal = ctx.signal)) =
      tracker.storedCompressedBytes.filter fun entry => entry.1.workspaceId = ctx.workspaceId := by
    apply List.filter_congr
    intro entry member
    have same := own.stored entry member
    grind
  unfold InMemoryUsageTracker.stored totalStored
  rw [kept, Saturating.foldl_add_toInt _ (fun entry => entry.2.toInt) _ _ 0 0 (le_refl _) rfl]
  · simp
  · intro entry member
    refine ⟨own.positive entry (List.mem_filter.mp member).1, ?_⟩
    have := entry.2.toInt_lt
    omega

/-- A policy that is declared for all signals is applicable to each of them. -/
theorem declared_applicable {kind : LimitKind} {policy : Policy}
    (found : declared cache ctx kind = some policy) :
    policy ∈ applicable cache ctx.workspaceId ctx.signal .ingest := by
  have inside : (SignalKind.all, Operation.ingest) ∈ scopes ctx.signal .ingest := by simp [scopes]
  exact mem_applicable inside found

/-- The policy of a request is merged from the policies that apply to it. -/
theorem ingestPolicy_eq (cache : PolicyCache) (ctx : IngestCtx) :
    ingestPolicy cache ctx =
      (applicable cache ctx.workspaceId ctx.signal .ingest).foldl mergePolicy .default :=
  resolveCachedPolicy_eq cache ctx.workspaceId ctx.signal .ingest

/-- A policy that is declared for all signals bounds the percentage at which a request blocks. -/
theorem declared_hardBlockPct_le {kind : LimitKind} {policy : Policy}
    (found : declared cache ctx kind = some policy) :
    (ingestPolicy cache ctx).hardBlockPct.toNat ≤ policy.hardBlockPct.toNat := by
  rw [ingestPolicy_eq]
  exact resolved_hardBlockPct_le (declared_applicable found)

/-- A quota for all signals that the total is over blocks, if the total is of one signal. -/
theorem quota_blocks (own : OwnIsTotal tracker ctx) {policy : Policy}
    {maxBytes periodStart : Int64} {periodEnd : Option Int64}
    (found : declared cache ctx .quota = some policy)
    (limit : policy.limit = .quota maxBytes periodStart periodEnd .compressedBytes)
    (exceeds : maxBytes.toInt * policy.hardBlockPct.toNat ≤
      100 * (totalBytes ((allPoints tracker ctx).filter (inPeriod periodStart periodEnd)) +
        (ctx.estimatedBytes.getD 0).toNat : Nat)) :
    some (.block "quota_exceeded" .quotaExceeded) ∈ ownOutcomes cache tracker nowMicros ctx := by
  have member : policy.limit ∈ (ingestPolicy cache ctx).quotas := by
    rw [ingestPolicy_eq]
    exact resolved_quota_mem (declared_applicable found) limit
  have lower := declared_hardBlockPct_le found
  -- The quota is one of those that are checked, and its comparison is over the hard percentage.
  have outcome : checkQuota (tracker.reader nowMicros) ctx policy.limit .ingest
      (ingestPolicy cache ctx).gracePct (ingestPolicy cache ctx).hardBlockPct =
        some (.block "quota_exceeded" .quotaExceeded) := by
    simp only [checkQuota, limit, InMemoryUsageTracker.reader, ne_eq, not_true_eq_false, if_false]
    refine compareLimitI64_hard ?_ (over_of_tighter (le_refl _) lower (by positivity) exceeds) _ _
    rw [Saturating.add, Saturating.toI64_toInt, periodUsedBytes_toInt, own.points,
      u64ToI64Saturating, Saturating.toI64_toInt]
    push_cast
    omega
  rw [← outcome]
  unfold ownOutcomes ingestOutcomes
  simp only [List.mem_append, List.mem_map]
  exact .inl (.inr ⟨policy.limit, member, rfl⟩)

/-- A size for all signals that the total is over blocks, if the total is of one signal. -/
theorem size_blocks (own : OwnIsTotal tracker ctx) (decisive : Decisive cache tracker nowMicros ctx)
    {policy : Policy} {maxBytes : Int64} (found : declared cache ctx .size = some policy)
    (limit : policy.limit = .size maxBytes .compressedBytes)
    (exceeds : maxBytes.toInt * policy.hardBlockPct.toNat ≤
      100 * totalStored tracker ctx.workspaceId) :
    some (.block "size_exceeded" .sizeExceeded) ∈ ownOutcomes cache tracker nowMicros ctx := by
  obtain ⟨least, basis, size, tighter⟩ := resolved_size_le (declared_applicable found) limit
  have compressed := resolved_size_basis decisive.sizes size
  rw [← ingestPolicy_eq] at size
  have lower := declared_hardBlockPct_le found
  have positive : 0 ≤ totalStored tracker ctx.workspaceId := by
    apply List.sum_nonneg
    intro value member
    obtain ⟨entry, inside, rfl⟩ := List.mem_map.mp member
    exact own.positive entry (List.mem_filter.mp inside).1
  -- The size check compares the total with a limit that is at most the declared one.
  have outcome : checkSize (tracker.reader nowMicros) ctx (ingestPolicy cache ctx).size
      (ingestPolicy cache ctx).gracePct (ingestPolicy cache ctx).hardBlockPct =
        some (.block "size_exceeded" .sizeExceeded) := by
    rw [size, compressed]
    simp only [checkSize, InMemoryUsageTracker.reader, ne_eq, not_true_eq_false, if_false]
    refine compareLimitI64_hard ?_ (over_of_tighter tighter lower positive exceeds) _ _
    rw [own.stored_toInt]
  rw [← outcome]
  unfold ownOutcomes ingestOutcomes
  simp

/-- A rate for all signals that the records are over blocks, if the total is of one signal. -/
theorem records_blocks (own : OwnIsTotal tracker ctx) {policy : Policy} {recordsPerSec : UInt64}
    {bytesPerSec : Option UInt64} (found : declared cache ctx .rate = some policy)
    (limit : policy.limit = .rate (some recordsPerSec) bytesPerSec)
    (exceeds : recordsPerSec.toNat * policy.hardBlockPct.toNat ≤
      100 * (totalRecords ((allPoints tracker ctx).filter (recent nowMicros)) +
        ctx.records.toNat)) :
    some (.block "rate_records_exceeded" .rateLimitExceeded) ∈
      ownOutcomes cache tracker nowMicros ctx := by
  obtain ⟨records, bytes, rate, few, _⟩ := resolved_rate_le (declared_applicable found) limit
  obtain ⟨least, rfl, tighter⟩ := few recordsPerSec rfl
  rw [← ingestPolicy_eq] at rate
  -- The rate check compares the total with a limit that is at most the declared one.
  have outcome : checkRate (tracker.reader nowMicros) ctx
      (recordsOnly (ingestPolicy cache ctx).rate) .ingest (ingestPolicy cache ctx).gracePct
      (ingestPolicy cache ctx).hardBlockPct =
        some (.block "rate_records_exceeded" .rateLimitExceeded) := by
    rw [rate]
    simp only [recordsOnly, checkRate, InMemoryUsageTracker.reader, Option.bind_some]
    rw [compareLimit_hard ?_ tighter (declared_hardBlockPct_le found) exceeds]
    rw [Saturating.addU64_toNat, (currentRate_toNat tracker _ _ _ nowMicros).1, own.points]
    omega
  rw [← outcome]
  unfold ownOutcomes ingestOutcomes
  simp

/-- A rate for all signals that the bytes are over blocks, if the total is of one signal. -/
theorem bytes_blocks (own : OwnIsTotal tracker ctx) {policy : Policy}
    {recordsPerSec : Option UInt64} {bytesPerSec : UInt64} (estimated : ctx.estimatedBytes.isSome)
    (found : declared cache ctx .rate = some policy)
    (limit : policy.limit = .rate recordsPerSec (some bytesPerSec))
    (exceeds : bytesPerSec.toNat * policy.hardBlockPct.toNat ≤
      100 * (totalBytes ((allPoints tracker ctx).filter (recent nowMicros)) +
        (ctx.estimatedBytes.getD 0).toNat)) :
    some (.block "rate_bytes_exceeded" .rateLimitExceeded) ∈
      ownOutcomes cache tracker nowMicros ctx := by
  obtain ⟨records, bytes, rate, _, small⟩ := resolved_rate_le (declared_applicable found) limit
  obtain ⟨least, rfl, tighter⟩ := small bytesPerSec rfl
  rw [← ingestPolicy_eq] at rate
  obtain ⟨estimatedBytes, given⟩ := Option.isSome_iff_exists.mp estimated
  rw [given, Option.getD_some] at exceeds
  -- Without the limit on records the check comes to that on bytes.
  have outcome : checkRate (tracker.reader nowMicros) ctx
      (bytesOnly (ingestPolicy cache ctx).rate) .ingest (ingestPolicy cache ctx).gracePct
      (ingestPolicy cache ctx).hardBlockPct =
        some (.block "rate_bytes_exceeded" .rateLimitExceeded) := by
    rw [rate]
    simp only [bytesOnly, checkRate, InMemoryUsageTracker.reader, Option.bind_none,
      Option.bind_some, given]
    refine compareLimit_hard ?_ tighter (declared_hardBlockPct_le found) exceeds _ _
    rw [Saturating.addU64_toNat, (currentRate_toNat tracker _ _ _ nowMicros).2, own.points]
    omega
  rw [← outcome]
  unfold ownOutcomes ingestOutcomes
  simp

end

/-- The first outcome is to block exactly when one is and there is none before it. -/
theorem findSome?_severity_eq_three_iff (outcomes : List (Option Decision)) :
    ((outcomes.findSome? id).getD .allow).severity = 3 ↔
      ∃ before outcome after, outcomes = before ++ outcome :: after ∧
        (∀ other ∈ before, other = none) ∧ severityOf outcome = 3 := by
  constructor
  · intro blocks
    induction outcomes with
    | nil => cases blocks
    | cons outcome rest ih =>
      cases outcome with
      | none =>
        obtain ⟨before, found, after, rfl, absent, severe⟩ := ih blocks
        refine ⟨none :: before, found, after, rfl, ?_, severe⟩
        simpa using absent
      | some decision => exact ⟨[], some decision, rest, rfl, by simp, blocks⟩
  · rintro ⟨before, outcome, after, rfl, absent, severe⟩
    -- Nothing is found in front of the outcome that blocks.
    have skipped : before.findSome? id = none := by
      rw [List.findSome?_eq_none_iff]
      exact absent
    rw [List.findSome?_append, skipped, Option.none_or, findSome?_cons_id]
    cases outcome with
    | none => cases severe
    | some decision => exact severe

/-- Where each outcome blocks or is missing, one that blocks is enough. -/
theorem first_blocks_of_mem {outcomes : List (Option Decision)}
    (decisive : ∀ outcome ∈ outcomes, outcome = none ∨ severityOf outcome = 3)
    {outcome : Option Decision} (member : outcome ∈ outcomes) (severe : severityOf outcome = 3) :
    ((outcomes.findSome? id).getD .allow).severity = 3 := by
  -- Every outcome that is found blocks, so the first one does.
  cases found : outcomes.findSome? id with
  | none =>
    rw [List.findSome?_eq_none_iff] at found
    have absent : outcome = none := found outcome member
    rw [absent] at severe
    cases severe
  | some decision =>
    obtain ⟨first, inside, same⟩ := List.exists_of_findSome?_eq_some found
    rcases decisive first inside with absent | blocks
    · rw [absent] at same
      cases same
    · rw [show first = some decision from same] at blocks
      exact blocks

/-- A quota of a hundred bytes for the ingest of all signals. -/
def hundredBytes : Policy where
  id := none
  workspaceId := Uuid.nil
  signal := .all
  operation := .ingest
  limit := .quota 100 0 none .compressedBytes
  gracePct := 101
  hardBlockPct := 103
  effectiveFrom := 0
  effectiveUntil := none
  source := .api

/-- A workspace that has written two hundred bytes of one signal. -/
def twoHundredOf (signal : SignalKind) : InMemoryUsageTracker :=
  (InMemoryUsageTracker.mk [] []).recordWrite ⟨Uuid.nil, signal, 200, 1, 1000⟩

/-- A request to write ten bytes of traces. -/
def tenBytesOfTraces : IngestCtx := ⟨Uuid.nil, .traces, 1, some 10, 2000⟩

/-- The total is over the quota, whatever the signal of what was written. -/
theorem twoHundredOf_exceeds (signal : SignalKind) :
    TotalOverHard ⟨[hundredBytes]⟩ (twoHundredOf signal) 5000000 tenBytesOfTraces := by
  refine .quota hundredBytes 100 0 none rfl rfl ?_
  cases signal <;> decide

end Zradar.Policies
