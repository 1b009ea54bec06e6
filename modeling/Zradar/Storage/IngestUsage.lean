import Zradar.Policies.PostgresUsage
import Zradar.Storage.System

/-! Ingest usage: what the tracker reads, and what the telemetry writes add up to. -/

namespace Zradar.Storage

open Parquet Policies Retention InMemoryUsageTracker

/-- Whether a sample counts for a workspace and a signal, which may be all. -/
def billedTo (workspaceId : WorkspaceId) (signal : SignalKind) (sample : WriteSample) : Bool :=
  sample.workspaceId = workspaceId && (signal = .all || sample.signal = signal)

/-- The tracker behind some samples. -/
def tracked (samples : List WriteSample) : InMemoryUsageTracker :=
  samples.foldl InMemoryUsageTracker.recordWrite ⟨[], []⟩

/-- The point of usage that a sample is recorded as. -/
def samplePoint (sample : WriteSample) : UsagePoint :=
  ⟨sample.flushedAt, toU64OrZero sample.records, toU64OrZero sample.compressedBytes⟩

/-- Writes alone are a history too. -/
theorem tracked_eq (samples : List WriteSample) :
    tracked samples = trackerOf (samples.map UsageEvent.write) := by
  rw [tracked, trackerOf, List.foldl_map]
  rfl

/-- The points of a tracker are those of the samples that count. -/
theorem points_tracked (samples : List WriteSample) (workspaceId : WorkspaceId)
    (signal : SignalKind) :
    ((tracked samples).points workspaceId signal .ingest).Perm
      ((samples.filter (billedTo workspaceId signal)).map samplePoint) := by
  -- A write counts for a workspace and a signal by its own, as all writes are of ingest.
  have billed (sample : WriteSample) :
      usageKeyMatches (UsageEvent.key (.write sample)) workspaceId signal .ingest =
        billedTo workspaceId signal sample := by
    simp only [UsageEvent.key, usageKeyMatches, billedTo, decide_true, Bool.or_true, Bool.and_true]
    rfl
  have points := points_trackerOf (samples.map UsageEvent.write) workspaceId signal .ingest
  rw [← tracked_eq, List.filter_map, List.map_map] at points
  simp only [Function.comp_def, billed] at points
  exact points

/-- The samples of telemetry that were recorded for a workspace and a signal. -/
def telemetrySamples (state : StorageState) (workspaceId : WorkspaceId) (signal : SignalKind) :
    List WriteSample :=
  ((state.recorded.filter fun spawned => !spawned.merged).map SpawnedSample.sample).filter
    (billedTo workspaceId signal)

/-- The points of the telemetry that was recorded for a workspace and a signal. -/
def telemetryPoints (state : StorageState) (workspaceId : WorkspaceId) (signal : SignalKind) :
    List UsagePoint :=
  (telemetrySamples state workspaceId signal).map samplePoint

/-- Every reading of ingest usage is that of the telemetry alone. -/
structure CountsTelemetry (state : StorageState) : Prop where
  records : ∀ workspaceId signal,
    totalRecords (state.tracker.points workspaceId signal .ingest) =
      totalRecords (telemetryPoints state workspaceId signal)
  bytes : ∀ workspaceId signal,
    totalBytes (state.tracker.points workspaceId signal .ingest) =
      totalBytes (telemetryPoints state workspaceId signal)
  /-- The bytes of a period are a sum that stops at the end of the range. -/
  period : ∀ workspaceId signal periodStart periodEnd,
    (state.tracker.periodUsedBytes workspaceId signal .ingest periodStart periodEnd).toInt =
      min (2 ^ 63 - 1) (totalBytes ((telemetryPoints state workspaceId signal).filter
        (inPeriod periodStart periodEnd)) : Int)
  /-- So are the rates of the last second. -/
  rate : ∀ workspaceId signal nowMicros,
    (state.tracker.currentRate nowMicros workspaceId signal .ingest).recordsPerSec.toNat =
        min (2 ^ 64 - 1) (totalRecords ((telemetryPoints state workspaceId signal).filter
          (recent nowMicros))) ∧
      (state.tracker.currentRate nowMicros workspaceId signal .ingest).bytesPerSec.toNat =
        min (2 ^ 64 - 1) (totalBytes ((telemetryPoints state workspaceId signal).filter
          (recent nowMicros)))

/-- A step that records no sample of a merged file. -/
def RecordsTelemetry (state : StorageState) : StorageLabel → Prop
  | .record position => ∀ spawned ∈ state.pending[position]?, spawned.merged = false
  | _ => True

instance (state : StorageState) (label : StorageLabel) : Decidable (RecordsTelemetry state label) :=
  match label with
  | .record position =>
    inferInstanceAs (Decidable (∀ spawned ∈ state.pending[position]?, spawned.merged = false))
  | .system _ | .cleanup _ _ _ | .reclaim _ _ => .isTrue trivial

/-- The tracker holds what was recorded since the process started. -/
def Tracks (state : StorageState) : Prop :=
  state.tracker = tracked (state.recorded.map SpawnedSample.sample)

section

variable {config : CompactorConfig} {env : WriterEnv} {flushIntervalSecs : Nat}
  {state next : StorageState} {label : StorageLabel}

/-- A recorded sample is one more in the tracker. -/
theorem tracked_append (samples : List WriteSample) (sample : WriteSample) :
    tracked (samples ++ [sample]) = (tracked samples).recordWrite sample := by
  simp [tracked]

/-- What a step does to the recorded samples: it keeps them, drops all of them, or records one. -/
theorem recorded_of_storageStep
    (stepped : storageStep config env flushIntervalSecs state label = some next) :
    next.recorded = state.recorded ∧ next.tracker = state.tracker ∨
      next.recorded = [] ∧ next.tracker = ⟨[], []⟩ ∨
        ∃ position spawned, label = .record position ∧ state.pending[position]? = some spawned ∧
          next.recorded = state.recorded ++ [spawned] ∧
            next.tracker = state.tracker.recordWrite spawned.sample := by
  cases label with
  | system label =>
    -- Only a restart drops samples.
    obtain ⟨system, inner, rfl⟩ := system_of_storageStep stepped
    unfold StorageState.advanced
    split
    · exact .inr (.inl ⟨rfl, rfl⟩)
    · exact .inl ⟨rfl, rfl⟩
  | record position =>
    obtain ⟨spawned, taken, moved⟩ := Option.map_eq_some_iff.mp stepped
    cases moved
    exact .inr (.inr ⟨position, spawned, rfl, taken, rfl, rfl⟩)
  | cleanup store env workspaceId =>
    cases stepped
    exact .inl ⟨rfl, rfl⟩
  | reclaim env workspaceId =>
    cases stepped
    exact .inl ⟨rfl, rfl⟩

theorem Tracks.step (tracks : Tracks state)
    (stepped : storageStep config env flushIntervalSecs state label = some next) :
    Tracks next := by
  -- A record adds to both, and a restart empties both.
  unfold Tracks at tracks ⊢
  obtain ⟨recorded, tracker⟩ | ⟨recorded, tracker⟩ | ⟨_, spawned, _, _, recorded, tracker⟩ :=
    recorded_of_storageStep stepped
  · rw [recorded, tracker, tracks]
  · rw [recorded, tracker]
    rfl
  · rw [recorded, tracker, List.map_append, List.map_singleton, tracked_append, ← tracks]

/-- What the readings need: a tracker that holds the samples of telemetry alone. -/
structure TelemetryOnly (state : StorageState) : Prop where
  sized : Sized state
  tracks : Tracks state
  only : ∀ spawned ∈ state.recorded, spawned.merged = false

theorem totalBytes_perm {first second : List UsagePoint} (same : first.Perm second) :
    totalBytes first = totalBytes second :=
  (same.map _).sum_eq

theorem totalRecords_perm {first second : List UsagePoint} (same : first.Perm second) :
    totalRecords first = totalRecords second :=
  (same.map _).sum_eq

/-- A tracker that holds the samples of telemetry alone has their points. -/
theorem TelemetryOnly.points (alone : TelemetryOnly state) (workspaceId : WorkspaceId)
    (signal : SignalKind) :
    (state.tracker.points workspaceId signal .ingest).Perm
      (telemetryPoints state workspaceId signal) := by
  -- No recorded sample comes from a merge, so none is left out.
  have all : (state.recorded.filter fun spawned => !spawned.merged) = state.recorded := by
    rw [List.filter_eq_self]
    intro spawned listed
    simp [alone.only spawned listed]
  rw [alone.tracks, telemetryPoints, telemetrySamples, all]
  exact points_tracked _ workspaceId signal

theorem TelemetryOnly.counts (alone : TelemetryOnly state) : CountsTelemetry state where
  records := fun workspaceId signal => totalRecords_perm (alone.points workspaceId signal)
  bytes := fun workspaceId signal => totalBytes_perm (alone.points workspaceId signal)
  period := by
    -- The points are those of the telemetry, in another order.
    intro workspaceId signal periodStart periodEnd
    rw [periodUsedBytes_toInt, totalBytes_perm ((alone.points workspaceId signal).filter _)]
  rate := by
    intro workspaceId signal nowMicros
    have same := (alone.points workspaceId signal).filter (recent nowMicros)
    obtain ⟨records, bytes⟩ :=
      currentRate_toNat state.tracker workspaceId signal .ingest nowMicros
    rw [totalRecords_perm same] at records
    rw [totalBytes_perm same] at bytes
    exact ⟨records, bytes⟩

/-- A positive number of bytes is counted. -/
theorem toU64OrZero_pos {value : Int64} (positive : 0 < value.toInt) :
    0 < (toU64OrZero value).toNat := by
  have read := toU64OrZero_toNat positive.le
  omega

/-- A recorded sample of a merged file shows in the bytes of its workspace. -/
theorem not_counts_of_merged (alone : TelemetryOnly state) {spawned : SpawnedSample}
    (merged : spawned.merged = true) (size : 0 < spawned.sample.compressedBytes.toInt)
    (recorded : next.recorded = state.recorded ++ [spawned]) (tracks : Tracks next) :
    ¬ CountsTelemetry next := by
  intro counts
  let sample := spawned.sample
  have billed : billedTo sample.workspaceId sample.signal sample = true := by simp [billedTo]
  -- The telemetry is what it was before, and the tracker has one point more.
  have before : telemetryPoints next sample.workspaceId sample.signal =
      telemetryPoints state sample.workspaceId sample.signal := by
    simp [telemetryPoints, telemetrySamples, recorded, merged]
  have points := points_tracked (next.recorded.map SpawnedSample.sample) sample.workspaceId
    sample.signal
  rw [← tracks, recorded, List.map_append, List.map_singleton, List.filter_append,
    List.filter_singleton, billed, cond_true, List.map_append] at points
  have old := alone.points sample.workspaceId sample.signal
  rw [alone.tracks] at old
  have same := (points_tracked _ sample.workspaceId sample.signal).symm.trans old
  have sum := totalBytes_perm (points.trans (same.append_right _))
  rw [counts.bytes, before] at sum
  have positive : 0 < (toU64OrZero spawned.sample.compressedBytes).toNat := toU64OrZero_pos size
  simp only [totalBytes, List.map_append, List.sum_append, List.map_cons, List.map_nil,
    List.sum_cons, List.sum_nil, samplePoint] at sum
  omega

theorem TelemetryOnly.step (written : WritesBytes env) (alone : TelemetryOnly state)
    (stepped : storageStep config env flushIntervalSecs state label = some next)
    (guarded : RecordsTelemetry state label) : TelemetryOnly next := by
  refine ⟨alone.sized.step written stepped, alone.tracks.step stepped, ?_⟩
  -- A new sample is recorded only by the label that the condition is about.
  obtain ⟨recorded, _⟩ | ⟨recorded, _⟩ | ⟨position, spawned, rfl, taken, recorded, _⟩ :=
    recorded_of_storageStep stepped
  · rw [recorded]
    exact alone.only
  · rw [recorded]
    exact List.forall_mem_nil _
  · rw [recorded]
    exact List.forall_mem_append.mpr
      ⟨alone.only, List.forall_mem_singleton.mpr (guarded spawned taken)⟩

end

/-- Two files are written and merged, while the samples of some of the three are recorded. -/
def mergeAndRecord (positions : List Nat) : List StorageLabel :=
  (mergeLabels "api" "api").map .system ++ positions.map .record

theorem firstDayEnv_writesBytes : WritesBytes firstDayEnv := by
  intro batch
  show 0 < (500 : Int64).toInt
  decide

end Zradar.Storage
