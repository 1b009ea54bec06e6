import Zradar.Lib.Grouping
import Zradar.Policies.Types

/-! The in-memory usage tracker: points of usage by key, and the readings that are summed from them. -/

namespace Zradar.Policies

/-- What the points of usage are kept under. -/
structure UsageKey where
  workspaceId : WorkspaceId
  signal : SignalKind
  operation : Operation
  deriving DecidableEq

structure StoredKey where
  workspaceId : WorkspaceId
  signal : SignalKind
  deriving DecidableEq

structure UsagePoint where
  atMicros : Int64
  records : UInt64
  bytes : UInt64
  deriving DecidableEq

/-- A write, as it is reported to the tracker. -/
structure WriteSample where
  workspaceId : WorkspaceId
  signal : SignalKind
  compressedBytes : Int64
  records : Int64
  flushedAt : Int64
  deriving DecidableEq

/-- A query, as it is reported to the tracker. -/
structure QuerySample where
  workspaceId : WorkspaceId
  signal : SignalKind
  bytesScanned : Int64
  submittedAt : Int64
  deriving DecidableEq

/-- Usage by key, in the order in which the keys were first seen. -/
structure InMemoryUsageTracker where
  events : List (UsageKey × List UsagePoint)
  storedCompressedBytes : List (StoredKey × Int64)

/-- A count as an unsigned number, with zero for a negative one. -/
def toU64OrZero (value : Int64) : UInt64 := UInt64.ofNat value.toInt.toNat

/-- Add bytes to what is stored under a key. -/
def addStored (key : StoredKey) (bytes : Int64) : List (StoredKey × Int64) → List (StoredKey × Int64)
  | [] => [(key, bytes)]
  | (other, value) :: rest =>
    if key = other then (other, Saturating.add value bytes) :: rest
    else (other, value) :: addStored key bytes rest

namespace InMemoryUsageTracker

/-- Record a write, as a point of usage and as stored bytes. -/
def recordWrite (tracker : InMemoryUsageTracker) (sample : WriteSample) :
    InMemoryUsageTracker where
  events := addFirstSeen ⟨sample.workspaceId, sample.signal, .ingest⟩
    ⟨sample.flushedAt, toU64OrZero sample.records, toU64OrZero sample.compressedBytes⟩
    tracker.events
  storedCompressedBytes := addStored ⟨sample.workspaceId, sample.signal⟩ sample.compressedBytes
    tracker.storedCompressedBytes

/-- Record a query. -/
def recordQuery (tracker : InMemoryUsageTracker) (sample : QuerySample) :
    InMemoryUsageTracker :=
  { tracker with
    events := addFirstSeen ⟨sample.workspaceId, sample.signal, .query⟩
      ⟨sample.submittedAt, 1, toU64OrZero sample.bytesScanned⟩ tracker.events }

end InMemoryUsageTracker

/-- Whether usage under a key counts for a signal and an operation, either of which may be all. -/
def usageKeyMatches (key : UsageKey) (workspaceId : WorkspaceId) (signal : SignalKind)
    (operation : Operation) : Bool :=
  key.workspaceId = workspaceId && (signal = .all || key.signal = signal) &&
    (operation = .all || key.operation = operation)

namespace InMemoryUsageTracker

variable (tracker : InMemoryUsageTracker)

/-- The points that count for a workspace, a signal and an operation. -/
def points (workspaceId : WorkspaceId) (signal : SignalKind) (operation : Operation) :
    List UsagePoint :=
  (tracker.events.filter fun entry =>
    usageKeyMatches entry.1 workspaceId signal operation).flatMap Prod.snd

/-- Whether a point lies in the last second. -/
def recent (nowMicros : Int64) (point : UsagePoint) : Bool :=
  Saturating.sub nowMicros 1000000 ≤ point.atMicros

/-- Whether a point lies in a period. -/
def inPeriod (periodStart : Int64) (periodEnd : Option Int64) (point : UsagePoint) : Bool :=
  periodStart ≤ point.atMicros && periodEnd.all fun ending => point.atMicros < ending

/-- The rate over the last second, at a reading of the clock. -/
def currentRate (nowMicros : Int64) (workspaceId : WorkspaceId) (signal : SignalKind)
    (operation : Operation) : RateSample :=
  let points := (tracker.points workspaceId signal operation).filter (recent nowMicros)
  { recordsPerSec := points.foldl (fun sum point => Saturating.addU64 sum point.records) 0
    bytesPerSec := points.foldl (fun sum point => Saturating.addU64 sum point.bytes) 0
    sampledAtMicros := nowMicros }

/-- The bytes that were used in a period. -/
def periodUsedBytes (workspaceId : WorkspaceId) (signal : SignalKind) (operation : Operation)
    (periodStart : Int64) (periodEnd : Option Int64) : Int64 :=
  ((tracker.points workspaceId signal operation).filter (inPeriod periodStart periodEnd)).foldl
    (fun sum point => Saturating.add sum (Saturating.toI64 point.bytes.toNat)) 0

/-- The bytes that are stored for a workspace and a signal. -/
def stored (workspaceId : WorkspaceId) (signal : SignalKind) : Int64 :=
  (tracker.storedCompressedBytes.filter fun entry =>
    entry.1.workspaceId = workspaceId && (signal = .all || entry.1.signal = signal)).foldl
    (fun sum entry => Saturating.add sum entry.2) 0

/-- The readings of the tracker, none of which fails. -/
def reader (nowMicros : Int64) : UsageReader where
  currentRate := fun workspaceId signal operation =>
    .ok (tracker.currentRate nowMicros workspaceId signal operation)
  periodUsedBytes := fun workspaceId signal operation periodStart periodEnd =>
    .ok (tracker.periodUsedBytes workspaceId signal operation periodStart periodEnd)
  storedCompressedBytes := fun workspaceId signal => .ok (tracker.stored workspaceId signal)

end InMemoryUsageTracker

/-- The exact number of bytes in points of usage. -/
def totalBytes (points : List UsagePoint) : Nat := (points.map fun point => point.bytes.toNat).sum

/-- The exact number of records in points of usage. -/
def totalRecords (points : List UsagePoint) : Nat :=
  (points.map fun point => point.records.toNat).sum

open InMemoryUsageTracker

section

variable (tracker : InMemoryUsageTracker) (workspaceId : WorkspaceId) (signal : SignalKind)
  (operation : Operation)

/-- The usage of a period is the exact sum, cut off at the end of the range. -/
theorem periodUsedBytes_toInt (periodStart : Int64) (periodEnd : Option Int64) :
    (tracker.periodUsedBytes workspaceId signal operation periodStart periodEnd).toInt =
      min (2 ^ 63 - 1) (totalBytes ((tracker.points workspaceId signal operation).filter
        (inPeriod periodStart periodEnd)) : Int) := by
  -- The saturating sum is the exact one, cut off at the top.
  unfold periodUsedBytes totalBytes
  rw [Saturating.foldl_add_toInt _ (fun point => (point.bytes.toNat : Int)) _ _ 0 0 (le_refl _) rfl]
  · simp [Nat.cast_list_sum, Function.comp_def]
  · intro point _
    refine ⟨by positivity, ?_⟩
    rw [Saturating.toI64_toInt]
    omega

/-- The rates of the last second are exact sums, cut off at the end of the range. -/
theorem currentRate_toNat (nowMicros : Int64) :
    let sample := tracker.currentRate nowMicros workspaceId signal operation
    let points := (tracker.points workspaceId signal operation).filter (recent nowMicros)
    sample.recordsPerSec.toNat = min (2 ^ 64 - 1) (totalRecords points) ∧
      sample.bytesPerSec.toNat = min (2 ^ 64 - 1) (totalBytes points) := by
  -- Both saturating sums are the exact ones, cut off at the top.
  constructor
  · have sum := Saturating.foldl_addU64_toNat UsagePoint.records
      ((tracker.points workspaceId signal operation).filter (recent nowMicros)) 0 0 rfl
    simpa [InMemoryUsageTracker.currentRate, totalRecords] using sum
  · have sum := Saturating.foldl_addU64_toNat UsagePoint.bytes
      ((tracker.points workspaceId signal operation).filter (recent nowMicros)) 0 0 rfl
    simpa [InMemoryUsageTracker.currentRate, totalBytes] using sum

end

end Zradar.Policies
