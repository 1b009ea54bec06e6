import Zradar.Lib.FirstFound
import Zradar.Policies.Types

/-! The policy enforcer: limits are checked in a fixed order, and the first that is passed decides. -/

namespace Zradar.Policies

/-- The microseconds of one day. -/
def dayMicros : Int64 := 86400000000

/-- The 64-bit integer of a count, cut off at the end of the range. -/
def u64ToI64Saturating (value : UInt64) : Int64 := Saturating.toI64 value.toNat

/-- Compare a reading with a limit and its two percentages. -/
def compareLimitI64 (observed limit : Int64) (gracePct hardBlockPct : UInt8) (code : BlockCode)
    (reason : String) : Option Decision :=
  if limit ≤ 0 then some (.block reason code)
  else if Saturating.mul observed 100 ≥ Saturating.mul limit (Int64.ofNat hardBlockPct.toNat) then
    some (.block reason code)
  else if Saturating.mul observed 100 > Saturating.mul limit (Int64.ofNat gracePct.toNat) then
    some (.throttle 1000 reason)
  else if observed > limit then some (.allowWithGrace reason)
  else none

/-- Compare a count with a limit. -/
def compareLimit (observed limit : UInt64) (gracePct hardBlockPct : UInt8) (code : BlockCode)
    (reason : String) : Option Decision :=
  compareLimitI64 (u64ToI64Saturating observed) (u64ToI64Saturating limit) gracePct hardBlockPct
    code reason

section

variable (usage : UsageReader)

/-- Check the rate of records, then the rate of bytes, of an ingest request. -/
def checkRate (ctx : IngestCtx) (rate : Option PolicyLimit) (operation : Operation)
    (gracePct hardBlockPct : UInt8) : Option Decision :=
  match rate with
  | some (.rate recordsPerSec bytesPerSec) =>
    match usage.currentRate ctx.workspaceId ctx.signal operation with
    -- A reading that fails limits nothing.
    | .error _ => none
    | .ok sample =>
      let records := recordsPerSec.bind fun limit =>
        compareLimit (Saturating.addU64 sample.recordsPerSec ctx.records) limit gracePct
          hardBlockPct .rateLimitExceeded "rate_records_exceeded"
      let bytes := bytesPerSec.bind fun limit => ctx.estimatedBytes.bind fun estimatedBytes =>
        compareLimit (Saturating.addU64 sample.bytesPerSec estimatedBytes) limit gracePct
          hardBlockPct .rateLimitExceeded "rate_bytes_exceeded"
      match records with
      | some decision => some decision
      | none => bytes
  | _ => none

/-- Check one quota of an ingest request, which counts compressed bytes. -/
def checkQuota (ctx : IngestCtx) (quota : PolicyLimit) (operation : Operation)
    (gracePct hardBlockPct : UInt8) : Option Decision :=
  match quota with
  | .quota maxBytes periodStart periodEnd basis =>
    if basis ≠ .compressedBytes then none
    else
      match usage.periodUsedBytes ctx.workspaceId ctx.signal operation periodStart periodEnd with
      | .error _ => none
      | .ok used =>
        let observed := Saturating.add used (u64ToI64Saturating (ctx.estimatedBytes.getD 0))
        compareLimitI64 observed maxBytes gracePct hardBlockPct .quotaExceeded "quota_exceeded"
  | _ => none

/-- Check the stored bytes in front of an ingest request. -/
def checkSize (ctx : IngestCtx) (size : Option PolicyLimit) (gracePct hardBlockPct : UInt8) :
    Option Decision :=
  match size with
  | some (.size maxBytes basis) =>
    if basis ≠ .compressedBytes then none
    else
      match usage.storedCompressedBytes ctx.workspaceId ctx.signal with
      | .error _ => none
      | .ok stored =>
        compareLimitI64 stored maxBytes gracePct hardBlockPct .sizeExceeded "size_exceeded"
  | _ => none

/-- Decide on an ingest request under a policy. -/
def decideIngest (ctx : IngestCtx) (resolved : ResolvedPolicy) : Decision :=
  if resolved.blocked then .block "project_blocked" .projectBlocked
  else
    match checkRate usage ctx resolved.rate .ingest resolved.gracePct resolved.hardBlockPct with
    | some decision => decision
    | none =>
      match resolved.quotas.findSome? fun quota =>
        checkQuota usage ctx quota .ingest resolved.gracePct resolved.hardBlockPct with
      | some decision => decision
      | none =>
        match checkSize usage ctx resolved.size resolved.gracePct resolved.hardBlockPct with
        | some decision => decision
        | none => .allow

/-- Check an ingest request against the policy of its workspace. -/
def checkIngest (store : PolicyStore) (ctx : IngestCtx) : Decision :=
  decideIngest usage ctx (store ctx.workspaceId ctx.signal .ingest)

end

/-- Check that a query does not start before retention. -/
def checkQueryRetention (ctx : QueryCtx) (retention : Option PolicyLimit) : Option Decision :=
  match retention, ctx.startMicros with
  | some (.retention maxDays), some startMicros =>
    let cutoff := Saturating.sub ctx.nowMicros
      (Saturating.mul (Int64.ofNat maxDays.toNat) dayMicros)
    if startMicros < cutoff then some (.block "retention_violation" .retentionViolation) else none
  | _, _ => none

/-- Check that a query with both bounds does not range over too many days. -/
def checkQueryWindow (ctx : QueryCtx) (queryWindow : Option PolicyLimit) : Option Decision :=
  match queryWindow, ctx.startMicros, ctx.endMicros with
  | some (.window maxQueryDays), some startMicros, some endMicros =>
    let maxWindowMicros := Saturating.mul (Int64.ofNat maxQueryDays.toNat) dayMicros
    if Saturating.sub endMicros startMicros > maxWindowMicros then
      some (.block "query_window_violation" .queryWindowViolation)
    else none
  | _, _, _ => none

/-- Check the range of a query. -/
def checkQueryRange (ctx : QueryCtx) (retention queryWindow : Option PolicyLimit) :
    Option Decision :=
  match checkQueryRetention ctx retention with
  | some decision => some decision
  | none => checkQueryWindow ctx queryWindow

section

variable (usage : UsageReader)

/-- Check the rate of bytes that queries scan. -/
def checkQueryRate (ctx : QueryCtx) (rate : Option PolicyLimit) (gracePct hardBlockPct : UInt8) :
    Option Decision :=
  match rate with
  | some (.rate _ (some limit)) =>
    match usage.currentRate ctx.workspaceId ctx.signal .query with
    | .error _ => none
    | .ok sample =>
      compareLimit (Saturating.addU64 sample.bytesPerSec (ctx.estimatedScannedBytes.getD 0)) limit
        gracePct hardBlockPct .rateLimitExceeded "query_rate_exceeded"
  | _ => none

/-- Check one quota of a query, which counts scanned bytes. -/
def checkQueryQuota (ctx : QueryCtx) (quota : PolicyLimit) (gracePct hardBlockPct : UInt8) :
    Option Decision :=
  match quota with
  | .quota maxBytes periodStart periodEnd basis =>
    if basis ≠ .scannedBytes then none
    else
      match usage.periodUsedBytes ctx.workspaceId ctx.signal .query periodStart periodEnd with
      | .error _ => none
      | .ok used =>
        let observed := Saturating.add used (u64ToI64Saturating (ctx.estimatedScannedBytes.getD 0))
        compareLimitI64 observed maxBytes gracePct hardBlockPct .quotaExceeded
          "query_quota_exceeded"
  | _ => none

/-- Decide on a query under a policy. -/
def decideQuery (ctx : QueryCtx) (resolved : ResolvedPolicy) : Decision :=
  match checkQueryRange ctx resolved.retention resolved.queryWindow with
  | some decision => decision
  | none =>
    match checkQueryRate usage ctx resolved.rate resolved.gracePct resolved.hardBlockPct with
    | some decision => decision
    | none =>
      match resolved.quotas.findSome? fun quota =>
        checkQueryQuota usage ctx quota resolved.gracePct resolved.hardBlockPct with
      | some decision => decision
      | none => .allow

/-- Check a query against the policy of its workspace. -/
def checkQuery (store : PolicyStore) (ctx : QueryCtx) : Decision :=
  decideQuery usage ctx (store ctx.workspaceId ctx.signal .query)

end

end Zradar.Policies
