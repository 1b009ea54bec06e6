import Zradar.Lib.Saturating
import Zradar.Wal.Record

/-! The data of policies: signals, limits, decisions and the readings they are made on. -/

namespace Zradar.Policies

inductive SignalKind where
  | traces
  | logs
  | metrics
  | rum
  | sessionReplay
  | errorTracking
  | all
  deriving DecidableEq, Repr

inductive Operation where
  | ingest
  | query
  | store
  | all
  deriving DecidableEq, Repr

inductive UsageBasis where
  | compressedBytes
  | scannedBytes
  deriving DecidableEq, Repr

inductive PolicyLimit where
  | rate (recordsPerSec bytesPerSec : Option UInt64)
  | quota (maxBytes periodStart : Int64) (periodEnd : Option Int64) (basis : UsageBasis)
  | size (maxBytes : Int64) (basis : UsageBasis)
  | retention (maxDays : UInt32)
  | window (maxQueryDays : UInt32)
  deriving DecidableEq, Repr

/-- What the limits of a workspace come to, for one signal and one operation. -/
structure ResolvedPolicy where
  blocked : Bool
  rate : Option PolicyLimit
  quotas : List PolicyLimit
  size : Option PolicyLimit
  retention : Option PolicyLimit
  queryWindow : Option PolicyLimit
  gracePct : UInt8
  hardBlockPct : UInt8
  deriving DecidableEq, Repr

/-- A policy without limits. -/
def ResolvedPolicy.default : ResolvedPolicy where
  blocked := false
  rate := none
  quotas := []
  size := none
  retention := none
  queryWindow := none
  gracePct := 101
  hardBlockPct := 103

inductive BlockCode where
  | projectBlocked
  | rateLimitExceeded
  | quotaExceeded
  | sizeExceeded
  | retentionViolation
  | queryWindowViolation
  deriving DecidableEq, Repr

inductive Decision where
  | allow
  | allowWithGrace (reason : String)
  | throttle (retryAfterMs : UInt32) (reason : String)
  | block (reason : String) (code : BlockCode)
  deriving DecidableEq, Repr

/-- How severe a decision is. -/
def Decision.severity : Decision → Nat
  | .allow => 0
  | .allowWithGrace _ => 1
  | .throttle _ _ => 2
  | .block _ _ => 3

structure IngestCtx where
  workspaceId : WorkspaceId
  signal : SignalKind
  records : UInt64
  estimatedBytes : Option UInt64
  nowMicros : Int64
  deriving DecidableEq

structure QueryCtx where
  workspaceId : WorkspaceId
  signal : SignalKind
  startMicros : Option Int64
  endMicros : Option Int64
  estimatedScannedBytes : Option UInt64
  nowMicros : Int64
  deriving DecidableEq

structure RateSample where
  recordsPerSec : UInt64
  bytesPerSec : UInt64
  sampledAtMicros : Int64
  deriving DecidableEq

/-- The readings of usage that decisions are made on, each of which may fail. -/
structure UsageReader where
  currentRate : WorkspaceId → SignalKind → Operation → Except String RateSample
  periodUsedBytes : WorkspaceId → SignalKind → Operation → Int64 → Option Int64 →
    Except String Int64
  storedCompressedBytes : WorkspaceId → SignalKind → Except String Int64

/-- The policy of a workspace for a signal and an operation. -/
abbrev PolicyStore := WorkspaceId → SignalKind → Operation → ResolvedPolicy

end Zradar.Policies
