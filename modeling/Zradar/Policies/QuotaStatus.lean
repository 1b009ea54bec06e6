import Zradar.Lib.Fallible
import Zradar.Policies.Resolve
import Zradar.Policies.Severity

/-! The reported status of quotas and sizes, against what the enforcer makes of the same limits. -/

namespace Zradar.Policies

inductive ThresholdStatus where
  | ok
  | warning
  | critical
  | grace
  | blocked
  deriving DecidableEq, Repr

/-- Percentages in floating point, of which only the comparisons matter. -/
structure Percentages (φ : Type) where
  consumed : Int64 → Int64 → φ
  full : φ
  above100 : φ → Bool
  atLeast90 : φ → Bool
  atLeast70 : φ → Bool

structure QuotaStatus (φ : Type) where
  signal : SignalKind
  operation : Operation
  limitKind : String
  limitValue : Int64
  observedValue : Int64
  pctConsumed : φ
  status : ThresholdStatus
  periodStart : Option Int64
  periodEnd : Option Int64
  projectedExhaustionAt : Option Int64

/-- Whether a reading is at the hard percentage of a limit. -/
def AtHard (limitValue observedValue : Int64) (hardBlockPct : UInt8) : Prop :=
  limitValue ≤ 0 ∨ Saturating.mul observedValue 100 ≥
    Saturating.mul limitValue (Int64.ofNat hardBlockPct.toNat)

instance (limitValue observedValue : Int64) (hardBlockPct : UInt8) :
    Decidable (AtHard limitValue observedValue hardBlockPct) :=
  inferInstanceAs (Decidable (_ ∨ _))

section

variable {φ : Type} (percentages : Percentages φ)

/-- The status of one limit at a reading. -/
def quotaStatus (signal : SignalKind) (operation : Operation) (limitKind : String)
    (limitValue observedValue : Int64) (hardBlockPct : UInt8)
    (period : Option Int64 × Option Int64) : QuotaStatus φ :=
  let pctConsumed :=
    if limitValue > 0 then percentages.consumed observedValue limitValue else percentages.full
  let status : ThresholdStatus :=
    if limitValue ≤ 0 ∨ Saturating.mul observedValue 100 ≥
        Saturating.mul limitValue (Int64.ofNat hardBlockPct.toNat) then .blocked
    else if percentages.above100 pctConsumed then .grace
    else if percentages.atLeast90 pctConsumed then .critical
    else if percentages.atLeast70 pctConsumed then .warning
    else .ok
  { signal := signal
    operation := operation
    limitKind := limitKind
    limitValue := limitValue
    observedValue := observedValue
    pctConsumed := pctConsumed
    status := status
    periodStart := period.1
    periodEnd := period.2
    projectedExhaustionAt := none }

/-- Parse the signal of a status query. -/
def parseSignalKind (value : String) : Except String SignalKind :=
  if value = "traces" then .ok .traces
  else if value = "logs" then .ok .logs
  else if value = "metrics" then .ok .metrics
  else if value = "all" then .ok .all
  else .error ("Invalid signal: " ++ value)

/-- A limit whose status is reported, with the percentage that was resolved with it. -/
inductive ReportedLimit where
  | quota (signal : SignalKind) (operation : Operation) (maxBytes periodStart : Int64)
      (periodEnd : Option Int64) (basis : UsageBasis) (hardBlockPct : UInt8)
  | size (signal : SignalKind) (maxBytes : Int64) (basis : UsageBasis) (hardBlockPct : UInt8)

/-- The quotas that are reported for a signal and an operation. -/
def reportedQuotas (store : PolicyStore) (workspaceId : WorkspaceId) (signal : SignalKind)
    (operation : Operation) : List ReportedLimit :=
  let resolved := store workspaceId signal operation
  resolved.quotas.filterMap fun quota =>
    match quota with
    | .quota maxBytes periodStart periodEnd basis =>
      some (.quota signal operation maxBytes periodStart periodEnd basis resolved.hardBlockPct)
    | _ => none

/-- The size that is reported for a signal, as it is resolved for storage. -/
def reportedSize (store : PolicyStore) (workspaceId : WorkspaceId) (signal : SignalKind) :
    List ReportedLimit :=
  let resolved := store workspaceId signal .store
  match resolved.size with
  | some (.size maxBytes basis) => [.size signal maxBytes basis resolved.hardBlockPct]
  | _ => []

/-- The limits that are reported for a signal, in their order. -/
def reportedLimits (store : PolicyStore) (workspaceId : WorkspaceId) (signal : SignalKind) :
    List ReportedLimit :=
  reportedQuotas store workspaceId signal .ingest ++
    reportedQuotas store workspaceId signal .query ++ reportedSize store workspaceId signal

/-- Read the usage of a limit and report its status. -/
def reportLimit (usage : UsageReader) (workspaceId : WorkspaceId) :
    ReportedLimit → Except String (QuotaStatus φ)
  | .quota signal operation maxBytes periodStart periodEnd _ hardBlockPct => do
    let observedValue ← usage.periodUsedBytes workspaceId signal operation periodStart periodEnd
    .ok (quotaStatus percentages signal operation "quota" maxBytes observedValue hardBlockPct
      (some periodStart, periodEnd))
  | .size signal maxBytes _ hardBlockPct => do
    let observedValue ← usage.storedCompressedBytes workspaceId signal
    .ok (quotaStatus percentages signal .store "size" maxBytes observedValue hardBlockPct
      (none, none))

/-- The signals of a status query. -/
def querySignals (signal : Option String) : Except String (List SignalKind) :=
  match signal with
  | some signal => (parseSignalKind signal).map fun signal => [signal]
  | none => .ok [.traces, .logs, .metrics]

/-- Report the status of every quota and size of a workspace. -/
def getQuotaStatus (store : PolicyStore) (usage : UsageReader) (workspaceId : WorkspaceId)
    (signal : Option String) : Except String (List (QuotaStatus φ)) := do
  let signals ← querySignals signal
  (signals.flatMap (reportedLimits store workspaceId)).mapM (reportLimit percentages usage workspaceId)

/-- A status is that the workspace is blocked exactly at the hard percentage. -/
theorem quotaStatus_blocked_iff (signal : SignalKind) (operation : Operation) (limitKind : String)
    (limitValue observedValue : Int64) (hardBlockPct : UInt8)
    (period : Option Int64 × Option Int64) :
    (quotaStatus percentages signal operation limitKind limitValue observedValue hardBlockPct
      period).status = .blocked ↔ AtHard limitValue observedValue hardBlockPct := by
  unfold quotaStatus AtHard
  simp only
  split_ifs with hard <;> simp [hard]

end

/-- A comparison blocks exactly at the hard percentage. -/
theorem compareLimitI64_blocks_iff (observed limit : Int64) (gracePct hardBlockPct : UInt8)
    (code : BlockCode) (reason : String) :
    severityOf (compareLimitI64 observed limit gracePct hardBlockPct code reason) = 3 ↔
      AtHard limit observed hardBlockPct := by
  unfold compareLimitI64 AtHard
  split_ifs with least hard grace above <;> simp_all [severityOf, Decision.severity]

section

variable (store : PolicyStore) (usage : UsageReader) (workspaceId : WorkspaceId)

/-- An ingest request that adds nothing. -/
def emptyIngest (signal : SignalKind) : IngestCtx := ⟨workspaceId, signal, 0, none, 0⟩

/-- A query that scans nothing. -/
def emptyQuery (signal : SignalKind) : QueryCtx := ⟨workspaceId, signal, none, none, none, 0⟩

/-- The size that the enforcer has, if it is the one that is reported. -/
def enforcedSize (signal : SignalKind) (limit : PolicyLimit) : Option PolicyLimit :=
  if (store workspaceId signal .ingest).size = some limit then some limit else none

/--
The enforcer, with the reported limit as the only one and nothing added, blocks.

A size is evaluated if it is what the enforcer resolves.
-/
def Enforced : ReportedLimit → Prop
  | .quota signal .query maxBytes periodStart periodEnd basis _ =>
    (decideQuery usage (emptyQuery workspaceId signal)
      { (store workspaceId signal .query).unlimited with
        quotas := [.quota maxBytes periodStart periodEnd basis] }).severity = 3
  | .quota signal _ maxBytes periodStart periodEnd basis _ =>
    (decideIngest usage (emptyIngest workspaceId signal)
      { (store workspaceId signal .ingest).unlimited with
        quotas := [.quota maxBytes periodStart periodEnd basis] }).severity = 3
  | .size signal maxBytes basis _ =>
    (decideIngest usage (emptyIngest workspaceId signal)
      { (store workspaceId signal .ingest).unlimited with
        size := enforcedSize store workspaceId signal (.size maxBytes basis) }).severity = 3

/--
A quota of the other basis, or a size that is not resolved for ingest and in compressed bytes, must
not be at its hard percentage; and a size that is resolved for both must be so under both.
-/
def AgreesWhen : ReportedLimit → Prop
  | .quota signal operation maxBytes periodStart periodEnd basis hardBlockPct =>
    ∀ observed, usage.periodUsedBytes workspaceId signal operation periodStart periodEnd =
        .ok observed →
      basis = (if operation = .query then .scannedBytes else .compressedBytes) ∨
        ¬ AtHard maxBytes observed hardBlockPct
  | .size signal maxBytes basis hardBlockPct =>
    ∀ observed, usage.storedCompressedBytes workspaceId signal = .ok observed →
      if basis = .compressedBytes ∧
          (store workspaceId signal .ingest).size = some (.size maxBytes basis) then
        (AtHard maxBytes observed hardBlockPct ↔
          AtHard maxBytes observed (store workspaceId signal .ingest).hardBlockPct)
      else ¬ AtHard maxBytes observed hardBlockPct

end

/-- What counts only if it is counted agrees with itself where it is counted, or does not hold. -/
theorem iff_and_self_iff {counted hard : Prop} :
    (hard ↔ counted ∧ hard) ↔ counted ∨ ¬ hard := by
  tauto

/-- Adding nothing to a reading leaves it as it is. -/
theorem saturating_add_zero (observed : Int64) :
    Saturating.add observed (u64ToI64Saturating 0) = observed := by
  -- The reading itself is in range.
  rw [← Int64.toInt_inj, Saturating.add, Saturating.toI64_toInt, u64ToI64Saturating,
    Saturating.toI64_toInt]
  have := observed.le_toInt
  have := observed.toInt_lt
  simp
  omega

section

variable {φ : Type} (percentages : Percentages φ) (store : PolicyStore) (usage : UsageReader)
  (workspaceId : WorkspaceId)

/-- The quotas that are reported carry the percentage of their operation. -/
theorem mem_reportedQuotas {signal : SignalKind} {operation : Operation} {limit : ReportedLimit}
    (member : limit ∈ reportedQuotas store workspaceId signal operation) :
    ∃ maxBytes periodStart periodEnd basis, limit = .quota signal operation maxBytes periodStart
      periodEnd basis (store workspaceId signal operation).hardBlockPct := by
  -- Only quotas are reported, and each with its own bounds.
  obtain ⟨quota, _, reported⟩ := List.mem_filterMap.mp member
  cases quota with
  | quota maxBytes periodStart periodEnd basis =>
    cases reported
    exact ⟨maxBytes, periodStart, periodEnd, basis, rfl⟩
  | rate | size | retention | window => cases reported

/-- What the enforcer makes of an ingest quota when nothing is added. -/
theorem checkQuota_blocks_iff {signal : SignalKind} {maxBytes periodStart observed : Int64}
    {periodEnd : Option Int64} (basis : UsageBasis) (gracePct hardBlockPct : UInt8)
    (read : usage.periodUsedBytes workspaceId signal .ingest periodStart periodEnd =
      .ok observed) :
    severityOf (checkQuota usage (emptyIngest workspaceId signal)
        (.quota maxBytes periodStart periodEnd basis) .ingest gracePct hardBlockPct) = 3 ↔
      basis = .compressedBytes ∧ AtHard maxBytes observed hardBlockPct := by
  -- Nothing is to be ingested, so the reading is compared as it is.
  rw [← compareLimitI64_blocks_iff observed maxBytes gracePct hardBlockPct .quotaExceeded
    "quota_exceeded"]
  cases basis with
  | compressedBytes =>
    simp [checkQuota, emptyIngest, read, saturating_add_zero]
  | scannedBytes => simp [checkQuota, severityOf]

/-- What the enforcer makes of a query quota when nothing is added. -/
theorem checkQueryQuota_blocks_iff {signal : SignalKind} {maxBytes periodStart observed : Int64}
    {periodEnd : Option Int64} (basis : UsageBasis) (gracePct hardBlockPct : UInt8)
    (read : usage.periodUsedBytes workspaceId signal .query periodStart periodEnd =
      .ok observed) :
    severityOf (checkQueryQuota usage (emptyQuery workspaceId signal)
        (.quota maxBytes periodStart periodEnd basis) gracePct hardBlockPct) = 3 ↔
      basis = .scannedBytes ∧ AtHard maxBytes observed hardBlockPct := by
  -- Nothing is to be scanned, so the reading is compared as it is.
  rw [← compareLimitI64_blocks_iff observed maxBytes gracePct hardBlockPct .quotaExceeded
    "query_quota_exceeded"]
  cases basis with
  | compressedBytes => simp [checkQueryQuota, severityOf]
  | scannedBytes =>
    simp [checkQueryQuota, emptyQuery, read, saturating_add_zero]

/-- What the enforcer makes of a reported size. -/
theorem checkSize_blocks_iff {signal : SignalKind} {maxBytes observed : Int64}
    (basis : UsageBasis) (gracePct hardBlockPct : UInt8)
    (read : usage.storedCompressedBytes workspaceId signal = .ok observed) :
    severityOf (checkSize usage (emptyIngest workspaceId signal)
        (enforcedSize store workspaceId signal (.size maxBytes basis)) gracePct
        hardBlockPct) = 3 ↔
      (basis = .compressedBytes ∧
        (store workspaceId signal .ingest).size = some (.size maxBytes basis)) ∧
        AtHard maxBytes observed hardBlockPct := by
  -- The size is enforced only if it is the one of the resolved policy.
  rw [← compareLimitI64_blocks_iff observed maxBytes gracePct hardBlockPct .sizeExceeded
    "size_exceeded"]
  unfold enforcedSize
  by_cases same : (store workspaceId signal .ingest).size = some (.size maxBytes basis)
  · cases basis with
    | compressedBytes => simp [same, checkSize, emptyIngest, read]
    | scannedBytes => simp [same, checkSize, severityOf]
  · simp [same, checkSize, severityOf]

/-- One report agrees with the enforcer exactly under its condition. -/
theorem report_agrees_iff {signal : SignalKind} {limit : ReportedLimit} {entry : QuotaStatus φ}
    (listed : limit ∈ reportedLimits store workspaceId signal)
    (reported : reportLimit percentages usage workspaceId limit = .ok entry) :
    (entry.status = .blocked ↔ Enforced store usage workspaceId limit) ↔
      AgreesWhen store usage workspaceId limit := by
  -- A report is about a quota on ingestion or on queries, or about the size.
  rcases List.mem_append.mp listed with quota | size
  · rcases List.mem_append.mp quota with ingest | query
    · obtain ⟨maxBytes, periodStart, periodEnd, basis, rfl⟩ :=
        mem_reportedQuotas store workspaceId ingest
      -- A report has been made of what was read.
      obtain ⟨observed, read, same⟩ := Fallible.bind_eq_ok.mp reported
      cases same
      simp only [Enforced, AgreesWhen, quotaStatus_blocked_iff, decideIngest_quota, read,
        Except.ok.injEq, forall_eq']
      rw [checkQuota_blocks_iff usage workspaceId basis _ _ read]
      exact iff_and_self_iff
    · obtain ⟨maxBytes, periodStart, periodEnd, basis, rfl⟩ :=
        mem_reportedQuotas store workspaceId query
      obtain ⟨observed, read, same⟩ := Fallible.bind_eq_ok.mp reported
      cases same
      simp only [Enforced, AgreesWhen, quotaStatus_blocked_iff, decideQuery_quota, read,
        Except.ok.injEq, forall_eq']
      rw [checkQueryQuota_blocks_iff usage workspaceId basis _ _ read]
      exact iff_and_self_iff
  · unfold reportedSize at size
    simp only at size
    split at size
    · rename_i maxBytes basis _
      obtain rfl := List.mem_singleton.mp size
      obtain ⟨observed, read, same⟩ := Fallible.bind_eq_ok.mp reported
      cases same
      simp only [Enforced, AgreesWhen, quotaStatus_blocked_iff, decideIngest_size, read,
        Except.ok.injEq, forall_eq']
      rw [checkSize_blocks_iff store usage workspaceId basis _ _ read]
      split
      · rename_i both
        rw [and_iff_right both]
      · rename_i apart
        rw [iff_false_intro apart, false_and, iff_false]
    · cases size

/--
Each status that is reported says that the workspace is blocked exactly when the enforcer would
block it for that limit, if and only if the limit is one that the two paths treat alike.
-/
theorem quota_status_agrees_iff {signal : Option String} {signals : List SignalKind}
    {statuses : List (QuotaStatus φ)} (asked : querySignals signal = .ok signals)
    (reported : getQuotaStatus percentages store usage workspaceId signal = .ok statuses) :
    List.Forall₂ (fun limit entry =>
        (entry.status = .blocked ↔ Enforced store usage workspaceId limit) ↔
          AgreesWhen store usage workspaceId limit)
      (signals.flatMap (reportedLimits store workspaceId)) statuses := by
  -- Reports are made one for each limit, in the same order.
  simp only [getQuotaStatus, asked, bind, Except.bind] at reported
  have each := Fallible.mapM_eq_ok.mp reported
  rw [List.forall₂_iff_zip] at each ⊢
  refine ⟨each.1, ?_⟩
  intro limit entry paired
  obtain ⟨signal, _, listed⟩ := List.mem_flatMap.mp (List.of_mem_zip paired).1
  exact report_agrees_iff percentages store usage workspaceId listed (each.2 paired)

end

/-- Percentages rounded down to whole numbers. -/
def wholePercentages : Percentages Int where
  consumed := fun observed limit => observed.toInt * 100 / limit.toInt
  full := 100
  above100 := fun pct => 100 < pct
  atLeast90 := fun pct => 90 ≤ pct
  atLeast70 := fun pct => 70 ≤ pct

/-- Usage of a thousand bytes, whatever is asked for. -/
def thousandBytes : UsageReader where
  currentRate := fun _ _ _ => .ok ⟨0, 0, 0⟩
  periodUsedBytes := fun _ _ _ _ _ => .ok 1000
  storedCompressedBytes := fun _ _ => .ok 1000

/-- A policy of traces for one operation, with one limit. -/
def tracesPolicy (operation : Operation) (limit : PolicyLimit) : Policy where
  id := none
  workspaceId := Uuid.nil
  signal := .traces
  operation := operation
  limit := limit
  gracePct := 101
  hardBlockPct := 103
  effectiveFrom := 0
  effectiveUntil := none
  source := .api

/-- The store with one policy. -/
def storeOf (policy : Policy) : PolicyStore := resolveCachedPolicy ⟨[policy]⟩

/-- The quota of compressed bytes that the enforcer checks is reported as it is enforced. -/
theorem quota_status_agrees_on_compressed_quota :
    let store := storeOf (tracesPolicy .ingest (.quota 100 0 none .compressedBytes))
    ∀ limit ∈ reportedLimits store Uuid.nil .traces, ∃ entry,
      reportLimit wholePercentages thousandBytes Uuid.nil limit = .ok entry ∧
      (entry.status = .blocked ↔ Enforced store thousandBytes Uuid.nil limit) := by
  -- The policy has one limit, whose unit both sides read.
  intro store limit listed
  have agrees := quota_status_agrees_iff wholePercentages store thousandBytes Uuid.nil
    (show querySignals (some "traces") = .ok [.traces] from rfl) rfl
  obtain rfl : limit = .quota .traces .ingest 100 0 none .compressedBytes 103 :=
    List.mem_singleton.mp listed
  cases agrees with
  | cons first _ =>
    refine ⟨_, rfl, first.mpr ?_⟩
    intro observed _
    exact .inl rfl

/--
A size that is stored for storage, and an ingest quota of scanned bytes, are reported as blocked
and never enforced.
-/
theorem quota_status_shows_unenforced_limits :
    (let store := storeOf (tracesPolicy .store (.size 100 .compressedBytes))
      ∃ entry, getQuotaStatus wholePercentages store thousandBytes Uuid.nil (some "traces") =
          .ok [entry] ∧ entry.status = .blocked ∧
        checkIngest thousandBytes store (emptyIngest Uuid.nil .traces) = .allow) ∧
    (let store := storeOf (tracesPolicy .ingest (.quota 100 0 none .scannedBytes))
      ∃ entry, getQuotaStatus wholePercentages store thousandBytes Uuid.nil (some "traces") =
          .ok [entry] ∧ entry.status = .blocked ∧
        checkIngest thousandBytes store (emptyIngest Uuid.nil .traces) = .allow) :=
  ⟨⟨_, rfl, rfl, rfl⟩, ⟨_, rfl, rfl, rfl⟩⟩

end Zradar.Policies
