import Mathlib.Tactic

/-! The ingestion circuit breaker: its readings, when they are stale, and what trips it. -/

namespace Zradar.Otlp

/-- A duration, in nanoseconds. -/
abbrev Duration := Nat

def Duration.fromSecs (seconds : Nat) : Duration := seconds * 1000000000

def Duration.fromMillis (millis : Nat) : Duration := millis * 1000000

/-- How long a sample stays valid, in milliseconds. -/
def resourceSampleIntervalMs : UInt64 := 1000

/-- The retry delay for a write queue over its limit. -/
def queueRetryAfter : Duration := .fromSecs 1

/-- The retry delay under disk or memory pressure. -/
def resourcePressureRetryAfter : Duration := .fromSecs 5

/-- Stands for a measurement that is not available. -/
def unknownPercent : UInt8 := 255

/-- Stands for the time of a sample that was never taken. -/
def neverSampled : UInt64 := 18446744073709551615

/-- The milliseconds of a clock, which are never taken for the sentinel. -/
def elapsedMs (millis : Nat) : UInt64 := min (UInt64.ofNat millis) (neverSampled - 1)

/-- The difference of two times, where an earlier one is at none. -/
def saturatingSub (later earlier : UInt64) : UInt64 := if earlier ≤ later then later - earlier else 0

/-- One measurement of disk and memory usage. -/
structure ResourceSample where
  diskPercent : Option UInt8
  memoryPercent : Option UInt8

structure CircuitBreaker where
  maxDiskUsagePercent : UInt8
  maxMemoryUsagePercent : UInt8
  maxQueueDepth : UInt64
  queueDepth : UInt64
  lastSampleMs : UInt64
  sampling : Bool
  diskUsagePercent : UInt8
  memoryUsagePercent : UInt8
  warnedUnavailable : Bool

/-- Why the breaker tripped, and how long clients should wait. -/
structure Trip where
  reason : String
  retryAfter : Duration

namespace CircuitBreaker

/-- A breaker that has not sampled anything. -/
def new (maxDiskUsagePercent maxMemoryUsagePercent : UInt8) (maxQueueDepth : UInt64) :
    CircuitBreaker where
  maxDiskUsagePercent := maxDiskUsagePercent
  maxMemoryUsagePercent := maxMemoryUsagePercent
  maxQueueDepth := maxQueueDepth
  queueDepth := 0
  lastSampleMs := neverSampled
  sampling := false
  diskUsagePercent := unknownPercent
  memoryUsagePercent := unknownPercent
  warnedUnavailable := false

/-- A percentage, if it is one. -/
def known (value : UInt8) : Option UInt8 := if value ≠ unknownPercent then some value else none

/-- Whether a reading is known and over its threshold. -/
def exceeds (value threshold : UInt8) : Bool :=
  match known value with
  | some value => value > threshold
  | none => false

/-- Check all thresholds against the readings. -/
def evaluate (breaker : CircuitBreaker) : Except Trip Unit :=
  if exceeds breaker.diskUsagePercent breaker.maxDiskUsagePercent then
    .error ⟨"disk usage " ++ toString breaker.diskUsagePercent.toNat ++ "% exceeds threshold",
      resourcePressureRetryAfter⟩
  else if exceeds breaker.memoryUsagePercent breaker.maxMemoryUsagePercent then
    .error ⟨"memory usage " ++ toString breaker.memoryUsagePercent.toNat ++ "% exceeds threshold",
      resourcePressureRetryAfter⟩
  else if breaker.queueDepth > breaker.maxQueueDepth then
    .error ⟨"queue depth " ++ toString breaker.queueDepth.toNat ++ " exceeds threshold",
      queueRetryAfter⟩
  else .ok ()

/-- Whether the sample is older than its interval. -/
def isStale (breaker : CircuitBreaker) (nowMs : UInt64) : Bool :=
  breaker.lastSampleMs = neverSampled ||
    !(saturatingSub nowMs breaker.lastSampleMs < resourceSampleIntervalMs)

/-- Store a sample, at a reading of the clock. -/
def storeSample (breaker : CircuitBreaker) (sample : ResourceSample) (nowMs : UInt64) :
    CircuitBreaker :=
  { breaker with
    diskUsagePercent := sample.diskPercent.getD unknownPercent
    memoryUsagePercent := sample.memoryPercent.getD unknownPercent
    warnedUnavailable := breaker.warnedUnavailable ||
      (sample.diskPercent.isNone || sample.memoryPercent.isNone)
    lastSampleMs := nowMs }

end CircuitBreaker

end Zradar.Otlp
