import Mathlib.Data.List.Dedup
import Mathlib.Data.List.Sort
import Zradar.Lib.Awaiting
import Zradar.Policies.Enforcer

/-! The policy enforcer with all that it awaits: readings, threshold events and audits. -/

namespace Zradar.Policies

inductive DecisionSummary where
  | allow
  | grace
  | throttle
  | block
  deriving DecidableEq, Repr

def DecisionSummary.ofDecision : Decision → DecisionSummary
  | .allow => .allow
  | .allowWithGrace _ => .grace
  | .throttle _ _ => .throttle
  | .block _ _ => .block

/-- A percentage of a limit that a reading has come to. -/
structure ThresholdEvent where
  workspaceId : WorkspaceId
  signal : SignalKind
  operation : Operation
  limitKind : String
  thresholdPct : UInt16
  observedValue : Int64
  limitValue : Int64
  periodStart : Option Int64
  emittedAt : Int64
  deriving DecidableEq

/-- A decision other than to allow, as it is audited. -/
structure DecisionAuditEvent where
  workspaceId : WorkspaceId
  signal : SignalKind
  operation : Operation
  decision : DecisionSummary
  reason : String
  observedValue : Option Int64
  limitValue : Option Int64
  blockCode : Option BlockCode
  createdAt : Int64
  deriving DecidableEq

/-- The reading of an event has come to its percentage, as the enforcer multiplies. -/
def ThresholdEvent.Crossed (event : ThresholdEvent) : Prop :=
  Saturating.mul event.observedValue 100 ≥
    Saturating.mul event.limitValue (Int64.ofNat event.thresholdPct.toNat)

instance (event : ThresholdEvent) : Decidable event.Crossed :=
  inferInstanceAs (Decidable (_ ≥ _))

/-- What became of a write to a sink, which may have been stored although it failed. -/
inductive WriteOutcome where
  | written
  | lost
  | unacknowledged
  deriving DecidableEq, Repr

/-- A write is stored unless it is lost. -/
def WriteOutcome.stored : WriteOutcome → Bool
  | .lost => false
  | _ => true

/-- What the enforcer awaits of the readings of usage and of its two sinks. -/
inductive EnforcerQuestion where
  | currentRate (workspaceId : WorkspaceId) (signal : SignalKind) (operation : Operation)
  | periodUsedBytes (workspaceId : WorkspaceId) (signal : SignalKind) (operation : Operation)
      (periodStart : Int64) (periodEnd : Option Int64)
  | storedCompressedBytes (workspaceId : WorkspaceId) (signal : SignalKind)
  | emit (event : ThresholdEvent)
  | record (event : DecisionAuditEvent)

abbrev EnforcerQuestion.Answer : EnforcerQuestion → Type
  | .currentRate _ _ _ => Except String RateSample
  | .periodUsedBytes _ _ _ _ _ => Except String Int64
  | .storedCompressedBytes _ _ => Except String Int64
  | .emit _ => WriteOutcome
  | .record _ => WriteOutcome

/-- A part of the enforcer, with the points at which it awaits something. -/
abbrev Enforcement := Awaiting EnforcerQuestion EnforcerQuestion.Answer

abbrev EnforcerExchange := Exchange EnforcerQuestion.Answer

structure AuditContext where
  workspaceId : WorkspaceId
  signal : SignalKind
  operation : Operation
  createdAt : Int64

def AuditContext.fromIngest (ctx : IngestCtx) (operation : Operation) : AuditContext :=
  ⟨ctx.workspaceId, ctx.signal, operation, ctx.nowMicros⟩

def AuditContext.fromQuery (ctx : QueryCtx) (operation : Operation) : AuditContext :=
  ⟨ctx.workspaceId, ctx.signal, operation, ctx.nowMicros⟩

def decisionReason : Decision → String
  | .allow => "allow"
  | .allowWithGrace reason => reason
  | .throttle _ reason => reason
  | .block reason _ => reason

def decisionBlockCode : Decision → Option BlockCode
  | .block _ code => some code
  | _ => none

structure ThresholdContext where
  workspaceId : WorkspaceId
  signal : SignalKind
  operation : Operation
  limitKind : String
  emittedAt : Int64

def ThresholdContext.fromIngest (ctx : IngestCtx) (operation : Operation) (limitKind : String) :
    ThresholdContext := ⟨ctx.workspaceId, ctx.signal, operation, limitKind, ctx.nowMicros⟩

def ThresholdContext.fromQuery (ctx : QueryCtx) (operation : Operation) (limitKind : String) :
    ThresholdContext := ⟨ctx.workspaceId, ctx.signal, operation, limitKind, ctx.nowMicros⟩

/-- The event of a reading at a percentage of its limit. -/
def ThresholdContext.event (ctx : ThresholdContext) (observed limit : Int64)
    (periodStart : Option Int64) (thresholdPct : UInt16) : ThresholdEvent where
  workspaceId := ctx.workspaceId
  signal := ctx.signal
  operation := ctx.operation
  limitKind := ctx.limitKind
  thresholdPct
  observedValue := observed
  limitValue := limit
  periodStart
  emittedAt := ctx.emittedAt

/-- The percentages that are reported, each one once and from the lowest one up. -/
def thresholds (hardBlockPct : UInt8) : List UInt16 :=
  -- In a sorted list the duplicates that are neighbours are all of them.
  ([70, 90, 100, hardBlockPct.toUInt16].insertionSort (· ≤ ·)).dedup

open Awaiting

/-- Emit the event of every percentage that is crossed. -/
def emitEach (event : UInt16 → ThresholdEvent) : List UInt16 → Enforcement Unit
  | [] => .done ()
  | thresholdPct :: rest =>
    if (event thresholdPct).Crossed then do
      -- A sink that fails keeps nothing from going on.
      let _ ← await (.emit (event thresholdPct))
      emitEach event rest
    else emitEach event rest

def emitThresholds (ctx : ThresholdContext) (observed limit : Int64) (periodStart : Option Int64)
    (hardBlockPct : UInt8) : Enforcement Unit :=
  if limit ≤ 0 then .done ()
  else emitEach (ctx.event observed limit periodStart) (thresholds hardBlockPct)

namespace DefaultPolicyEnforcer

/-- The event that audits a decision. -/
def auditEvent (ctx : AuditContext) (decision : Decision) : DecisionAuditEvent where
  workspaceId := ctx.workspaceId
  signal := ctx.signal
  operation := ctx.operation
  decision := .ofDecision decision
  reason := decisionReason decision
  observedValue := none
  limitValue := none
  blockCode := decisionBlockCode decision
  createdAt := ctx.createdAt

def auditDecision (ctx : AuditContext) (decision : Decision) : Enforcement Unit :=
  if decision = .allow then .done ()
  else do
    let _ ← await (.record (auditEvent ctx decision))
    return ()

/-- Report a reading, then compare it with its limit. -/
def compared (ctx : ThresholdContext) (observed limit : Int64) (periodStart : Option Int64)
    (gracePct hardBlockPct : UInt8) (code : BlockCode) (reason : String) :
    Enforcement (Option Decision) := do
  emitThresholds ctx observed limit periodStart hardBlockPct
  return compareLimitI64 observed limit gracePct hardBlockPct code reason

def currentRate (workspaceId : WorkspaceId) (signal : SignalKind) (operation : Operation) :
    Enforcement (Except String RateSample) :=
  await (EnforcerQuestion.currentRate workspaceId signal operation)

def periodUsedBytes (workspaceId : WorkspaceId) (signal : SignalKind) (operation : Operation)
    (periodStart : Int64) (periodEnd : Option Int64) : Enforcement (Except String Int64) :=
  await (EnforcerQuestion.periodUsedBytes workspaceId signal operation periodStart periodEnd)

def storedCompressedBytes (workspaceId : WorkspaceId) (signal : SignalKind) :
    Enforcement (Except String Int64) :=
  await (EnforcerQuestion.storedCompressedBytes workspaceId signal)

/-- Check a reading, where one that fails decides nothing. -/
def whenRead {α : Type} (reading : Enforcement (Except String α))
    (check : α → Enforcement (Option Decision)) : Enforcement (Option Decision) := do
  match ← reading with
  | .error _ => return none
  | .ok value => check value

/-- What a check decides, or what decides behind it if it does not. -/
def decidedBy (check behind : Enforcement (Option Decision)) : Enforcement (Option Decision) := do
  match ← check with
  | some decision => return some decision
  | none => behind

/-- Compare the rate of records with its limit, if it has one. -/
def compareRecords (ctx : IngestCtx) (recordsPerSec : Option UInt64) (operation : Operation)
    (gracePct hardBlockPct : UInt8) (sample : RateSample) : Enforcement (Option Decision) :=
  match recordsPerSec with
  | some limit =>
    compared (.fromIngest ctx operation "rate_records")
      (u64ToI64Saturating (Saturating.addU64 sample.recordsPerSec ctx.records))
      (u64ToI64Saturating limit) none gracePct hardBlockPct .rateLimitExceeded
      "rate_records_exceeded"
  | none => .done none

/-- Compare the rate of bytes with its limit, if the request says how many bytes it has. -/
def compareBytes (ctx : IngestCtx) (bytesPerSec : Option UInt64) (operation : Operation)
    (gracePct hardBlockPct : UInt8) (sample : RateSample) : Enforcement (Option Decision) :=
  match bytesPerSec, ctx.estimatedBytes with
  | some limit, some estimatedBytes =>
    compared (.fromIngest ctx operation "rate_bytes")
      (u64ToI64Saturating (Saturating.addU64 sample.bytesPerSec estimatedBytes))
      (u64ToI64Saturating limit) none gracePct hardBlockPct .rateLimitExceeded
      "rate_bytes_exceeded"
  | _, _ => .done none

def checkRate (ctx : IngestCtx) (rate : Option PolicyLimit) (operation : Operation)
    (gracePct hardBlockPct : UInt8) : Enforcement (Option Decision) :=
  match rate with
  | some (.rate recordsPerSec bytesPerSec) =>
    whenRead (currentRate ctx.workspaceId ctx.signal operation) fun sample =>
      decidedBy (compareRecords ctx recordsPerSec operation gracePct hardBlockPct sample)
        (compareBytes ctx bytesPerSec operation gracePct hardBlockPct sample)
  | _ => .done none

def checkQuota (ctx : IngestCtx) (quota : PolicyLimit) (operation : Operation)
    (gracePct hardBlockPct : UInt8) : Enforcement (Option Decision) :=
  match quota with
  | .quota maxBytes periodStart periodEnd basis =>
    if basis ≠ .compressedBytes then .done none
    else
      whenRead (periodUsedBytes ctx.workspaceId ctx.signal operation periodStart periodEnd)
        fun used =>
          compared (.fromIngest ctx operation "quota")
            (Saturating.add used (u64ToI64Saturating (ctx.estimatedBytes.getD 0))) maxBytes
            (some periodStart) gracePct hardBlockPct .quotaExceeded "quota_exceeded"
  | _ => .done none

def checkSize (ctx : IngestCtx) (size : Option PolicyLimit) (gracePct hardBlockPct : UInt8) :
    Enforcement (Option Decision) :=
  match size with
  | some (.size maxBytes basis) =>
    if basis ≠ .compressedBytes then .done none
    else
      whenRead (storedCompressedBytes ctx.workspaceId ctx.signal) fun stored =>
        compared (.fromIngest ctx .store "size") stored maxBytes none gracePct hardBlockPct
          .sizeExceeded "size_exceeded"
  | _ => .done none

def checkQueryRate (ctx : QueryCtx) (rate : Option PolicyLimit) (gracePct hardBlockPct : UInt8) :
    Enforcement (Option Decision) :=
  match rate with
  | some (.rate _ (some limit)) =>
    whenRead (currentRate ctx.workspaceId ctx.signal .query) fun sample =>
      compared (.fromQuery ctx .query "query_rate_bytes")
        (u64ToI64Saturating
          (Saturating.addU64 sample.bytesPerSec (ctx.estimatedScannedBytes.getD 0)))
        (u64ToI64Saturating limit) none gracePct hardBlockPct .rateLimitExceeded
        "query_rate_exceeded"
  | _ => .done none

def checkQueryQuota (ctx : QueryCtx) (quota : PolicyLimit) (gracePct hardBlockPct : UInt8) :
    Enforcement (Option Decision) :=
  match quota with
  | .quota maxBytes periodStart periodEnd basis =>
    if basis ≠ .scannedBytes then .done none
    else
      whenRead (periodUsedBytes ctx.workspaceId ctx.signal .query periodStart periodEnd)
        fun used =>
          compared (.fromQuery ctx .query "quota")
            (Saturating.add used (u64ToI64Saturating (ctx.estimatedScannedBytes.getD 0)))
            maxBytes (some periodStart) gracePct hardBlockPct .quotaExceeded
            "query_quota_exceeded"
  | _ => .done none

/-- Check the quotas one after the other, until one of them decides. -/
def checkEach (check : PolicyLimit → Enforcement (Option Decision)) :
    List PolicyLimit → Enforcement (Option Decision)
  | [] => .done none
  | quota :: rest => decidedBy (check quota) (checkEach check rest)

/-- Audit what a check decides, or go on behind it if it does not decide. -/
def auditedBy (ctx : AuditContext) (check : Enforcement (Option Decision))
    (behind : Enforcement Decision) : Enforcement Decision := do
  match ← check with
  | some decision => do
    auditDecision ctx decision
    return decision
  | none => behind

def checkIngest (ctx : IngestCtx) (resolved : ResolvedPolicy) : Enforcement Decision :=
  if resolved.blocked then do
    let decision : Decision := .block "project_blocked" .projectBlocked
    auditDecision (.fromIngest ctx .ingest) decision
    return decision
  else
    auditedBy (.fromIngest ctx .ingest)
      (checkRate ctx resolved.rate .ingest resolved.gracePct resolved.hardBlockPct) <|
    auditedBy (.fromIngest ctx .ingest)
      (checkEach (checkQuota ctx · .ingest resolved.gracePct resolved.hardBlockPct)
        resolved.quotas) <|
    auditedBy (.fromIngest ctx .store)
      (checkSize ctx resolved.size resolved.gracePct resolved.hardBlockPct) <|
    return .allow

def checkQuery (ctx : QueryCtx) (resolved : ResolvedPolicy) : Enforcement Decision :=
  auditedBy (.fromQuery ctx .query)
    (.done (checkQueryRange ctx resolved.retention resolved.queryWindow)) <|
  auditedBy (.fromQuery ctx .query)
    (checkQueryRate ctx resolved.rate resolved.gracePct resolved.hardBlockPct) <|
  auditedBy (.fromQuery ctx .query)
    (checkEach (checkQueryQuota ctx · resolved.gracePct resolved.hardBlockPct)
      resolved.quotas) <|
  return .allow

end DefaultPolicyEnforcer

end Zradar.Policies
