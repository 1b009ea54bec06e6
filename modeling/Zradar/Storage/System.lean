import Zradar.Lib.Positions
import Zradar.Parquet.Compaction
import Zradar.Policies.Usage
import Zradar.Retention.Cleanup

/-! Writes, compactions, retention and reclaims on one file list, with the usage that they report. -/

namespace Zradar.Storage

open Parquet Policies Retention

/-- The signal that a file is billed to. -/
def signalKind (signalType : String) : SignalKind :=
  match signalType with
  | "traces" => .traces
  | "logs" => .logs
  | "metrics" => .metrics
  -- Evaluation scores bill against the budget of their traces.
  | "scores" => .traces
  | "rum" => .rum
  | "session_replay" => .sessionReplay
  | "error_tracking" => .errorTracking
  | _ => .all

/-- What `write_batch` reports about a file that it has registered. -/
def writeSample (entry : NewFileListEntry) : WriteSample where
  workspaceId := entry.workspaceId
  signal := signalKind entry.signalType
  compressedBytes := entry.compressedSize
  records := entry.records
  flushedAt := entry.createdAt

/-- What `write_batch` adds to the statistics of a stream. -/
def statsUpdate (entry : NewFileListEntry) : StreamStatsUpdate where
  workspaceId := entry.workspaceId
  signalType := entry.signalType
  streamName := entry.streamName
  minTs := entry.minTs
  maxTs := entry.maxTs
  recordsDelta := entry.records
  originalSizeDelta := entry.originalSize
  compressedSizeDelta := entry.compressedSize

/-- A usage sample, handed to a task of its own. -/
structure SpawnedSample where
  /-- Whether the file came out of a compaction, and not out of telemetry. -/
  merged : Bool
  sample : WriteSample

/-- The totals over some files, which are not cut off. -/
structure StreamTotals where
  minTs : Int64
  maxTs : Int64
  totalRecords : Int
  totalOriginalSize : Int
  totalCompressedSize : Int
  deriving DecidableEq

/-- A row of `stream_stats`. -/
structure StreamStats extends StreamTotals where
  fileCount : Int
  deriving DecidableEq

/-- The stream that a row of statistics is about. -/
abbrev StreamKey := WorkspaceId × String × String

def StreamStatsUpdate.key (update : StreamStatsUpdate) : StreamKey :=
  (update.workspaceId, update.signalType, update.streamName)

/-- Insert a row for a stream, or add to the row that is there. -/
def upsertRow (row : Option StreamStats) (update : StreamStatsUpdate) : Option StreamStats :=
  match row with
  | none => some
    { fileCount := 1
      minTs := update.minTs
      maxTs := update.maxTs
      totalRecords := update.recordsDelta.toInt
      totalOriginalSize := update.originalSizeDelta.toInt
      totalCompressedSize := update.compressedSizeDelta.toInt }
  | some row => some
    { fileCount := row.fileCount + 1
      minTs := min row.minTs update.minTs
      maxTs := max row.maxTs update.maxTs
      totalRecords := row.totalRecords + update.recordsDelta.toInt
      totalOriginalSize := row.totalOriginalSize + update.originalSizeDelta.toInt
      totalCompressedSize := row.totalCompressedSize + update.compressedSizeDelta.toInt }

/-- The row of a stream behind the updates of all streams. -/
def statsRow (updates : List StreamStatsUpdate) (key : StreamKey) : Option StreamStats :=
  (updates.filter fun update => StreamStatsUpdate.key update = key).foldl upsertRow none

/-- A number that a column of type `BIGINT` can hold. -/
def FitsBigint (value : Int) : Prop := -2 ^ 63 ≤ value ∧ value < 2 ^ 63

instance (value : Int) : Decidable (FitsBigint value) := inferInstanceAs (Decidable (_ ∧ _))

/-- A row whose totals fit their columns. -/
def StreamStats.Fits (row : StreamStats) : Prop :=
  FitsBigint row.fileCount ∧ FitsBigint row.totalRecords ∧ FitsBigint row.totalOriginalSize ∧
    FitsBigint row.totalCompressedSize

instance (row : StreamStats) : Decidable row.Fits := inferInstanceAs (Decidable (_ ∧ _))

/-- Every row that the updates lead to fits the table. -/
def StatsFit (updates : List StreamStatsUpdate) : Prop :=
  ∀ update ∈ updates, ∀ row ∈ statsRow updates (StreamStatsUpdate.key update), row.Fits

instance (updates : List StreamStatsUpdate) : Decidable (StatsFit updates) :=
  inferInstanceAs (Decidable (∀ update ∈ updates, ∀ row ∈ _, StreamStats.Fits row))

/-- What a cycle of the reclaimer takes from outside. -/
structure ReclaimEnv where
  /-- A query that is still reading holds a lease on the file. -/
  isLeased : Nat → Bool
  /-- The bytes are gone when the call for it returns. -/
  deletePhysicalFile : Nat → Bool
  /-- The entries of a workspace could not be deleted. -/
  deleteFails : WorkspaceId → Bool

/-- The deleted files of a cycle whose bytes it removes. -/
def reclaimFiles (env : ReclaimEnv) (workspaceId : Option Uuid) (table : FileTable) :
    List FileListEntry :=
  let deletedFiles := table.queryFiles
    { FileListFilter.default with workspaceId := workspaceId, deleted := some true }
  deletedFiles.filter fun file => !env.isLeased file.id && env.deletePhysicalFile file.id

/-- The ids that a cycle deletes from the file list. -/
def reclaimIds (env : ReclaimEnv) (workspaceId : Option Uuid) (table : FileTable) : List Nat :=
  ((reclaimFiles env workspaceId table).filter fun file => !env.deleteFails file.workspaceId).map
    FileListEntry.id

/-- The files behind a cleanup cycle of the retention job. -/
def cleanedFiles (files : FileStore) (store : RetentionConfigStore) (env : CleanupEnv)
    (workspaceId : Option Uuid) : FileStore where
  table := (runNowScoped store env workspaceId files.table).1
  contents := files.contents
  nextId := files.nextId
  fresh := by
    obtain ⟨ids, same⟩ := runNowScoped_ids store env workspaceId files.table
    rw [same]
    exact (files.markDeleted ids env.markedAtUs).fresh

/-- The storage, the usage tracker of the process, and what is on its way to the tracker. -/
structure StorageState where
  system : CompactionState
  /-- The files whose bytes are gone. -/
  removed : List Nat
  /-- The samples whose tasks have not run yet. -/
  pending : List SpawnedSample
  /-- The samples that were recorded since the process started. -/
  recorded : List SpawnedSample
  tracker : InMemoryUsageTracker

/-- One step of the storage. -/
inductive StorageLabel where
  | system (label : CompactionLabel)
  /-- The task of a usage sample runs. -/
  | record (position : Nat)
  /-- A cleanup cycle marks what has expired. -/
  | cleanup (store : RetentionConfigStore) (env : CleanupEnv) (workspaceId : Option Uuid)
  /-- A cycle of the reclaimer removes what is marked. -/
  | reclaim (env : ReclaimEnv) (workspaceId : Option Uuid)

/-- A label that belongs to the compactor. -/
def compacts : CompactionLabel → Bool
  | .compact _ => true
  | _ => false

/-- A label with which the process stops and starts again. -/
def restarts : CompactionLabel → Bool
  | .crash => true
  | _ => false

namespace StorageState

variable (state : StorageState)

/-- The file list. -/
def files : FileStore := state.system.files

/-- Whether the compactor is about to read a file whose bytes are gone. -/
def readsRemoved : CompactionLabel → Bool
  | .compact .read =>
    match state.system.compactor with
    | .merging .reading job _ => job.ids.any fun id => id ∈ state.removed
    | _ => false
  | _ => false

/-- The entries that a step has put into the file list. -/
def newEntries (next : CompactionState) : List FileListEntry :=
  next.files.table.entries.drop state.files.table.entries.length

/-- The samples of the files that a step has registered. -/
def spawned (label : CompactionLabel) (next : CompactionState) : List SpawnedSample :=
  (state.newEntries next).map fun entry =>
    ⟨compacts label, writeSample entry.toNewFileListEntry⟩

/-- The state behind a step of the writer or the compactor. -/
def advanced (label : CompactionLabel) (next : CompactionState) : StorageState :=
  -- A process starts with an empty tracker, whatever is in the file list.
  if restarts label then
    { state with system := next, pending := [], recorded := [], tracker := ⟨[], []⟩ }
  else { state with system := next, pending := state.pending ++ state.spawned label next }

/-- The state behind a change of the file list by retention. -/
def withFiles (files : FileStore) : StorageState :=
  { state with system := { state.system with files := files } }

end StorageState

/-- A storage without files, under a process that has just started. -/
def initialStorage (maxSlotBytes : Option Nat) : StorageState :=
  ⟨initialSystem maxSlotBytes, [], [], [], ⟨[], []⟩⟩

/-- One step of the storage. -/
def storageStep (config : CompactorConfig) (env : WriterEnv) (flushIntervalSecs : Nat)
    (state : StorageState) : StorageLabel → Option StorageState
  | .system label =>
    -- A file that is gone cannot be read, so that only the failure of the merge is left.
    if state.readsRemoved label then none
    else
      (compactionStep config env flushIntervalSecs state.system label).bind fun next =>
        -- The database refuses an update that overflows, which is one of the faults of a write.
        if StatsFit next.writer.store.streamStats then some (state.advanced label next) else none
  | .record position =>
    state.pending[position]?.map fun spawned =>
      { state with
        pending := state.pending.eraseIdx position
        recorded := state.recorded ++ [spawned]
        tracker := state.tracker.recordWrite spawned.sample }
  | .cleanup store env workspaceId =>
    some (state.withFiles (cleanedFiles state.files store env workspaceId))
  | .reclaim env workspaceId =>
    some { state.withFiles (state.files.deleteEntries
        (reclaimIds env workspaceId state.files.table)) with
      removed := state.removed ++
        (reclaimFiles env workspaceId state.files.table).map FileListEntry.id }

/-- What a write does to the file list and the statistics, by the first of its steps that fails. -/
inductive WriteCounts (env : WriterEnv) (before after : ParquetStore) : Prop where
  | nothing (files : after.fileList = before.fileList)
      (stats : after.streamStats = before.streamStats)
  /-- The file is registered, and its statistics are not. -/
  | uncounted (file : NewFileListEntry × IngestBatch)
      (size : file.1.compressedSize = (env.sizes file.2).2)
      (files : after.fileList = before.fileList ++ [file])
      (stats : after.streamStats = before.streamStats)
  | counted (file : NewFileListEntry × IngestBatch)
      (size : file.1.compressedSize = (env.sizes file.2).2)
      (files : after.fileList = before.fileList ++ [file])
      (stats : after.streamStats = before.streamStats ++ [statsUpdate file.1])

/-- The faults ahead are no part of what is registered. -/
theorem WriteCounts.withFaults {env : WriterEnv} {writer : WriterState} {faults : List Bool}
    {after : ParquetStore} (counts : WriteCounts env (withFaults writer faults).store after) :
    WriteCounts env writer.store after := by
  cases counts with
  | nothing files stats => exact .nothing files stats
  | uncounted file size files stats => exact .uncounted file size files stats
  | counted file size files stats => exact .counted file size files stats

theorem writeBatch_counts (env : WriterEnv) (workspaceId streamName : String) (batch : IngestBatch)
    (store : ParquetStore) :
    WriteCounts env store (writeBatch env workspaceId streamName batch store).1 := by
  -- The second step registers the file, and the third one counts it.
  have steps := writeBatch_steps env workspaceId streamName batch store
  generalize writeBatch env workspaceId streamName batch store = outcome at steps ⊢
  cases steps with
  | done next clean files stats faults => exact .counted _ rfl files stats
  | early next error failed files stats => exact .nothing files stats
  | late next error before files stats => exact .uncounted _ rfl files stats

theorem writeRows_counts (env : WriterEnv) (workspaceId streamName : String) (batch : IngestBatch)
    (store : ParquetStore) :
    WriteCounts env store (writeRows env workspaceId streamName batch store).1 := by
  unfold writeRows
  split
  · exact .nothing rfl rfl
  · exact writeBatch_counts env workspaceId streamName batch store

theorem writePartitionOwned_counts (env : WriterEnv) (partition : PartitionKey × IngestBatch)
    (state : WriterState) :
    WriteCounts env state.store (writePartitionOwned env partition state).1.store := by
  unfold writePartitionOwned
  split
  · -- With a buffer in front of it, the store is not reached.
    exact .nothing rfl rfl
  · exact writeRows_counts env _ _ _ _

theorem flushOne_counts (env : WriterEnv) (key : BufferKey) (data : IngestBatch)
    (store : ParquetStore) : WriteCounts env store (flushOne env key data store).1 := by
  -- An empty slot is not written, and a failed write may have left a file.
  rw [flushOne_store]
  exact writeRows_counts env key.workspaceId key.streamName data store

theorem WorkerStep.counts {env : WriterEnv} {writer next : WriterState}
    {before after : WorkerPhase} {label : WorkerLabel}
    (stepped : WorkerStep env writer before label next after) :
    WriteCounts env writer.store next.store := by
  cases stepped with
  | collect | remove | drained | done => exact .nothing rfl rfl
  | write final entry slots faults =>
    exact (flushOne_counts env entry.1 entry.2.data (withFaults writer faults).store).withFaults

/-- The file that the compactor has registered and not counted yet. -/
def inFlight : CompactorPhase → List NewFileListEntry
  | .merging (.counting entry) _ _ => [entry]
  | _ => []

/-- The merged file that is written and about to be registered. -/
def inTransit : CompactorPhase → List NewFileListEntry
  | .merging (.registering entry _) _ _ => [entry]
  | _ => []

/-- The updates of the statistics, with the one that the compactor is about to make. -/
def settledStats (system : CompactionState) : List StreamStatsUpdate :=
  system.writer.store.streamStats ++ (inFlight system.compactor).map statsUpdate

/-- What a step of the system does to the files and to the statistics. -/
inductive SystemEffect (env : WriterEnv) (before after : CompactionState) : CompactionLabel → Prop
  | quiet {label : CompactionLabel} (files : after.files = before.files)
      (stats : settledStats after = settledStats before) : SystemEffect env before after label
  /-- A file is registered and counted, or will be by the next step of the compactor. -/
  | counted {label : CompactionLabel} (entry : NewFileListEntry) (data : IngestBatch)
      (size : entry ∈ inTransit before.compactor ∨
        entry.compressedSize = (env.sizes data).2)
      (files : after.files = before.files.register entry data)
      (stats : (settledStats after).Perm (settledStats before ++ [statsUpdate entry]))
      (runs : restarts label = false) : SystemEffect env before after label
  /-- A file is registered, and its statistics fail. -/
  | uncounted {label : CompactionLabel} (entry : NewFileListEntry) (data : IngestBatch)
      (size : entry.compressedSize = (env.sizes data).2)
      (files : after.files = before.files.register entry data)
      (stats : settledStats after = settledStats before)
      (runs : restarts label = false) : SystemEffect env before after label
  /-- A merged file that is registered is never counted. -/
  | lost {label : CompactionLabel} (entry : NewFileListEntry) (files : after.files = before.files)
      (stats : settledStats before = settledStats after ++ [statsUpdate entry]) :
    SystemEffect env before after label
  | marked {label : CompactionLabel} (ids : List Nat) (nowUs : Int64)
      (files : after.files = before.files.markDeleted ids nowUs)
      (stats : settledStats after = settledStats before)
      (runs : restarts label = false) : SystemEffect env before after label

section

variable {config : CompactorConfig} {env : WriterEnv} {flushIntervalSecs : Nat}

/-- A group that was just begun has nothing in flight. -/
theorem inFlight_beginGroup (config : CompactorConfig) (group : List FileListEntry)
    (groups : List (List FileListEntry)) : inFlight (beginGroup config group groups) = [] := by
  -- A group that is begun has written nothing yet.
  unfold beginGroup
  split
  · rfl
  · split
    · rfl
    · split <;> rfl

/-- A write of the writer registers and counts as its steps succeed. -/
theorem SystemEffect.written {state : CompactionState} {writer : WriterState}
    {label : CompactionLabel} (runs : restarts label = false)
    (counts : WriteCounts env state.writer.store writer.store) (worker : WorkerPhase) :
    SystemEffect env state (state.written writer worker) label := by
  -- What the compactor has in flight stays behind the updates of the writer.
  have settled : settledStats (state.written writer worker) =
      writer.store.streamStats ++ (inFlight state.compactor).map statsUpdate := rfl
  cases counts with
  | nothing files stats =>
    have same : writer.store.fileList = state.writer.store.fileList ++ [] := by simp [files]
    refine .quiet (state.written_files same worker) ?_
    rw [settled, stats]
    rfl
  | uncounted file size files stats =>
    refine .uncounted file.1 file.2 size (state.written_files files worker) ?_ runs
    rw [settled, stats]
    rfl
  | counted file size files stats =>
    refine .counted file.1 file.2 (.inr size) (state.written_files files worker) ?_ runs
    rw [settled, stats, settledStats, List.append_assoc, List.append_assoc]
    exact List.perm_append_comm.append_left _

/-- The merge counts the file that it has registered, unless it fails first. -/
theorem systemEffect_compact {state : CompactionState} {label : CompactorLabel}
    {disk : ParquetStore} {files : FileStore} {phase : CompactorPhase}
    (stepped : compactorStep config env state.writer.store state.files state.compactor label =
      some (disk, files, phase)) :
    SystemEffect env state
      { state with
        writer := { state.writer with store := disk }
        files := files
        compactor := phase } (.compact label) := by
  obtain ⟨writer, worker, before, compactor⟩ := state
  unfold compactorStep at stepped
  dsimp only at stepped ⊢
  split at stepped
  · cases stepped
    exact .quiet rfl rfl
  · cases stepped
    exact .quiet rfl rfl
  · obtain ⟨group, taken, moved⟩ := Option.map_eq_some_iff.mp stepped
    cases moved
    refine .quiet rfl ?_
    simp only [settledStats, inFlight_beginGroup]
    rfl
  · split at stepped
    · cases stepped
      exact .quiet rfl rfl
    · cases stepped
      exact .quiet rfl rfl
  · cases stepped
    exact .quiet rfl rfl
  · -- The merged file is registered, and its statistics are in flight.
    cases stepped
    refine .counted _ _ (.inl List.mem_cons_self) rfl ?_ rfl
    simp [settledStats, inFlight]
  · -- The statistics arrive.
    cases stepped
    refine .quiet rfl ?_
    simp [settledStats, inFlight, upsertStreamStats, ParquetStore.attempt, statsUpdate]
  · cases stepped
    exact .marked _ _ rfl (by simp [settledStats, inFlight]) rfl
  · -- A failure loses what is in flight.
    rename_i stage job groups
    cases stepped
    cases stage with
    | counting entry => exact .lost entry rfl (by simp [settledStats, inFlight])
    | reading | writing | registering | marking => exact .quiet rfl rfl
  · cases stepped

/-- Every step of the system has one of the effects. -/
theorem systemEffect_of_compactionStep {state next : CompactionState} {label : CompactionLabel}
    (stepped : compactionStep config env flushIntervalSecs state label = some next) :
    SystemEffect env state next label := by
  unfold compactionStep at stepped
  split at stepped
  · obtain ⟨part, taken, moved⟩ := Option.map_eq_some_iff.mp stepped
    cases moved
    exact .written rfl (writePartitionOwned_counts env part (withFaults state.writer _)).withFaults _
  · obtain ⟨⟨writer, worker⟩, inner, moved⟩ := Option.map_eq_some_iff.mp stepped
    cases moved
    exact .written rfl (WorkerStep.counts (WorkerStep.of_workerStep inner)) _
  · cases stepped
    exact .quiet rfl rfl
  · obtain ⟨⟨disk, files, phase⟩, inner, moved⟩ := Option.map_eq_some_iff.mp stepped
    cases moved
    exact systemEffect_compact inner
  · -- A process that stops loses what is in flight as well.
    cases stepped
    obtain ⟨writer, worker, files, compactor⟩ := state
    cases flying : inFlight compactor with
    | nil =>
      refine .quiet rfl ?_
      simp only [settledStats, CompactionState.crashed, flying]
      rfl
    | cons entry rest =>
      have alone : rest = [] := by
        unfold inFlight at flying
        split at flying
        · exact (List.cons.inj flying).2.symm
        · cases flying
      refine .lost entry rfl ?_
      simp only [settledStats, CompactionState.crashed, flying, alone]
      simp [inFlight]

/-- A merged file on its way to the file list was there before the step, or is written by it. -/
theorem inTransit_of_compactionStep {state next : CompactionState} {label : CompactionLabel}
    (stepped : compactionStep config env flushIntervalSecs state label = some next) :
    ∀ entry ∈ inTransit next.compactor, entry ∈ inTransit state.compactor ∨
      ∃ data, entry.compressedSize = (env.sizes data).2 := by
  intro entry flying
  cases CompactionStep.of_compactionStep stepped with
  | write taken faults => exact .inl flying
  | flush inner => exact .inl flying
  | query filter => exact .inl flying
  | crash => cases flying
  | compact inner =>
    obtain ⟨writer, worker, files, compactor⟩ := state
    cases inner with
    | writeFile job groups merged same =>
      rw [List.mem_singleton.mp flying]
      exact .inr ⟨merged, rfl⟩
    | nextGroup taken =>
      -- A group that was just begun has only been read.
      rename_i groups position group
      cases begun : beginGroup config group (groups.eraseIdx position) with
      | idle | scanned | stopped => simp [begun, inTransit] at flying
      | merging stage job rest =>
        rw [beginGroup_stage begun] at begun
        simp [begun, inTransit] at flying
    | scan | finish | read | leave | register | upsertStreamStats | markDeleted | fail =>
      cases flying

end

/-- Every Parquet file takes up some bytes. -/
def WritesBytes (env : WriterEnv) : Prop :=
  ∀ batch, 0 < (env.sizes batch).2.toInt

/-- Every file, registered or on its way, takes up some bytes, and so does every sample. -/
structure Sized (state : StorageState) : Prop where
  entries : ∀ entry ∈ state.files.table.entries, 0 < entry.compressedSize.toInt
  transit : ∀ entry ∈ inTransit state.system.compactor, 0 < entry.compressedSize.toInt
  pending : ∀ spawned ∈ state.pending, 0 < spawned.sample.compressedBytes.toInt
  recorded : ∀ spawned ∈ state.recorded, 0 < spawned.sample.compressedBytes.toInt

section

variable {config : CompactorConfig} {env : WriterEnv} {flushIntervalSecs : Nat}
  {state next : StorageState}

/-- What a step of the writer or the compactor leads to. -/
theorem system_of_storageStep {label : CompactionLabel}
    (stepped : storageStep config env flushIntervalSecs state (.system label) = some next) :
    ∃ system, compactionStep config env flushIntervalSecs state.system label = some system ∧
      next = state.advanced label system := by
  -- The step is that of the system, within the bounds of the counters.
  simp only [storageStep] at stepped
  split at stepped
  · cases stepped
  · obtain ⟨system, inner, fitting⟩ := Option.bind_eq_some_iff.mp stepped
    split at fitting
    · cases fitting
      exact ⟨system, inner, rfl⟩
    · cases fitting

/-- A file that is registered is the one new entry. -/
theorem newEntries_register {system : CompactionState} {entry : NewFileListEntry}
    {data : IngestBatch} (files : system.files = state.system.files.register entry data) :
    state.newEntries system =
      [{ toNewFileListEntry := entry, id := state.files.nextId, deleted := false }] := by
  rw [StorageState.newEntries, files]
  exact List.drop_left

/-- A mark adds no entry. -/
theorem newEntries_markDeleted {system : CompactionState} {ids : List Nat} {nowUs : Int64}
    (files : system.files = state.system.files.markDeleted ids nowUs) :
    state.newEntries system = [] := by
  rw [StorageState.newEntries, files]
  apply List.drop_of_length_le
  simp [FileStore.markDeleted, FileTable.markDeleted, StorageState.files]

theorem newEntries_same {system : CompactionState} (files : system.files = state.system.files) :
    state.newEntries system = [] := by
  rw [StorageState.newEntries, files]
  exact List.drop_length

/-- The samples that the process has reported or is about to report. -/
def StorageState.samples (state : StorageState) : List WriteSample :=
  (state.recorded ++ state.pending).map SpawnedSample.sample

/-- What a step of the storage does to the live files and to the samples. -/
inductive LiveChange (state next : StorageState) (label : StorageLabel) : Prop where
  | same (live : next.files.liveEntries = state.files.liveEntries)
      (samples : next.samples.Perm state.samples)
  | added (entry : FileListEntry)
      (live : next.files.liveEntries = state.files.liveEntries ++ [entry])
      (samples : next.samples.Perm (state.samples ++ [writeSample entry.toNewFileListEntry]))
      (runs : label ≠ .system .crash)
  | dropped (ids : List Nat)
      (live : next.files.liveEntries = state.files.liveEntries.filter fun entry => entry.id ∉ ids)
      (samples : next.samples = state.samples) (runs : label ≠ .system .crash)
  /-- The process has started again and knows nothing of its files. -/
  | restarted (live : next.files.liveEntries = state.files.liveEntries)
      (samples : next.samples = []) (stopped : label = .system .crash)

/-- What a step of the system puts into the file list. -/
theorem SystemEffect.entries {before after : CompactionState} {label : CompactionLabel}
    (effect : SystemEffect env before after label) :
    ∀ entry ∈ after.files.table.entries,
      (∃ old ∈ before.files.table.entries, old.compressedSize = entry.compressedSize) ∨
        entry.toNewFileListEntry ∈ inTransit before.compactor ∨
        ∃ data, entry.compressedSize = (env.sizes data).2 := by
  intro entry listed
  -- A file that is registered comes last, and a mark changes no size.
  have added {new : NewFileListEntry} {data : IngestBatch}
      (size : new ∈ inTransit before.compactor ∨ new.compressedSize = (env.sizes data).2)
      (files : after.files = before.files.register new data) :
      (∃ old ∈ before.files.table.entries, old.compressedSize = entry.compressedSize) ∨
        entry.toNewFileListEntry ∈ inTransit before.compactor ∨
        ∃ data, entry.compressedSize = (env.sizes data).2 := by
    rw [files] at listed
    rcases List.mem_append.mp listed with old | last
    · exact .inl ⟨entry, old, rfl⟩
    · rw [List.mem_singleton.mp last]
      exact .inr (size.imp_right fun written => ⟨data, written⟩)
  cases effect with
  | quiet files stats => exact .inl ⟨entry, files ▸ listed, rfl⟩
  | counted new data size files stats runs => exact added size files
  | uncounted new data size files stats runs => exact added (.inr size) files
  | lost new files stats => exact .inl ⟨entry, files ▸ listed, rfl⟩
  | marked ids nowUs files stats runs =>
    rw [files] at listed
    obtain ⟨old, member, rfl⟩ := List.mem_map.mp listed
    refine .inl ⟨old, member, ?_⟩
    split <;> rfl

/-- A cleanup cycle ends the files with some ids, and removes no entry. -/
theorem liveEntries_cleanedFiles (files : FileStore) (store : RetentionConfigStore)
    (env : CleanupEnv) (workspaceId : Option Uuid) :
    ∃ ids : List Nat, (cleanedFiles files store env workspaceId).liveEntries =
        (files.liveEntries.filter fun entry => entry.id ∉ ids) ∧
      (cleanedFiles files store env workspaceId).table.entries.length =
        files.table.entries.length := by
  -- The cleanup marks rows, which leave the live ones and stay in the table.
  obtain ⟨ids, same⟩ := runNowScoped_ids store env workspaceId files.table
  refine ⟨ids, ?_, ?_⟩
  · rw [← files.liveEntries_markDeleted ids env.markedAtUs]
    show List.filter _ (runNowScoped store env workspaceId files.table).1.entries = _
    rw [same]
    rfl
  · show (runNowScoped store env workspaceId files.table).1.entries.length = _
    rw [same]
    simp [FileTable.markDeleted]

/-- The reclaimer leaves the live files alone. -/
theorem liveEntries_reclaimed (files : FileStore) (env : ReclaimEnv) (workspaceId : Option Uuid) :
    (files.deleteEntries (reclaimIds env workspaceId files.table)).liveEntries =
      files.liveEntries := by
  apply FileStore.liveEntries_deleteEntries
  intro entry live reclaimed
  -- The reclaimer looks at deleted files only, and an id names one entry.
  obtain ⟨inside, kept⟩ := files.mem_liveEntries.mp live
  obtain ⟨file, member, same⟩ := List.mem_map.mp reclaimed
  have queried := List.mem_of_mem_filter (List.mem_of_mem_filter member)
  obtain ⟨listed, admitted⟩ := FileTable.mem_queryFiles.mp queried
  obtain rfl := files.table.eq_of_id listed inside same
  simp [FileListFilter.matches, FileListFilter.default, admits, kept] at admitted

/-- A step of the writer or the compactor registers one file, marks some, or does neither. -/
theorem liveChange_system {label : CompactionLabel} {system : CompactionState}
    (inner : compactionStep config env flushIntervalSecs state.system label = some system) :
    LiveChange state (state.advanced label system) (.system label) := by
  have effect := systemEffect_of_compactionStep inner
  have files : (state.advanced label system).files = system.files := by
    unfold StorageState.advanced
    split <;> rfl
  cases crash : restarts label with
  | true =>
    -- Only a restart takes the samples away.
    have here : label = .crash := by
      cases label with
      | crash => rfl
      | write | flush | query | compact => cases crash
    have restarted : (state.advanced label system).samples = [] := by
      simp [StorageState.advanced, crash, StorageState.samples]
    have quiet (same : system.files = state.system.files) :
        LiveChange state (state.advanced label system) (.system label) :=
      .restarted (by rw [files, same]; rfl) restarted (by rw [here])
    cases effect with
    | quiet same stats => exact quiet same
    | lost entry same stats => exact quiet same
    | counted entry data size same stats runs => simp [runs] at crash
    | uncounted entry data size same stats runs => simp [runs] at crash
    | marked ids nowUs same stats runs => simp [runs] at crash
  | false =>
    have runs : (.system label : StorageLabel) ≠ .system .crash := by
      rintro ⟨⟩
      cases crash
    have samples : (state.advanced label system).samples = state.samples ++
        (state.newEntries system).map fun entry => writeSample entry.toNewFileListEntry := by
      simp [StorageState.advanced, crash, StorageState.samples, StorageState.spawned,
        Function.comp_def]
    have added {entry : NewFileListEntry} {data : IngestBatch}
        (registered : system.files = state.system.files.register entry data) :
        LiveChange state (state.advanced label system) (.system label) := by
      refine .added ⟨entry, state.files.nextId, false⟩ ?_ ?_ runs
      · rw [files, registered, FileStore.liveEntries_register]
        rfl
      · rw [samples, newEntries_register registered]
        exact .refl _
    have quiet (same : system.files = state.system.files) :
        LiveChange state (state.advanced label system) (.system label) := by
      refine .same (by rw [files, same]; rfl) ?_
      rw [samples, newEntries_same same]
      simp
    cases effect with
    | quiet same stats => exact quiet same
    | lost entry same stats => exact quiet same
    | counted entry data size registered stats _ => exact added registered
    | uncounted entry data size registered stats _ => exact added registered
    | marked ids nowUs marked stats _ =>
      refine .dropped ids ?_ ?_ runs
      · rw [files, marked, FileStore.liveEntries_markDeleted]
        rfl
      · rw [samples, newEntries_markDeleted marked]
        simp

/-- Every step of the storage changes the live files and the samples in one of four ways. -/
theorem liveChange_of_storageStep {label : StorageLabel}
    (stepped : storageStep config env flushIntervalSecs state label = some next) :
    LiveChange state next label := by
  cases label with
  | system label =>
    obtain ⟨system, inner, rfl⟩ := system_of_storageStep stepped
    exact liveChange_system inner
  | record position =>
    obtain ⟨spawned, taken, moved⟩ := Option.map_eq_some_iff.mp stepped
    cases moved
    refine .same rfl ?_
    -- The sample moves from those on their way to those that have arrived.
    apply List.Perm.map
    rw [List.append_assoc]
    apply List.Perm.append_left
    exact taken_perm taken
  | cleanup store env workspaceId =>
    cases stepped
    obtain ⟨ids, live, _⟩ := liveEntries_cleanedFiles state.files store env workspaceId
    exact .dropped ids live rfl (by simp)
  | reclaim env workspaceId =>
    cases stepped
    exact .same (liveEntries_reclaimed state.files env workspaceId) (.refl _)

namespace Sized

theorem initial (maxSlotBytes : Option Nat) : Sized (initialStorage maxSlotBytes) := by
  constructor <;> simp [initialStorage, initialSystem, StorageState.files, inTransit]

/-- A step of the writer or the compactor leads from files with bytes to files with bytes. -/
theorem system (written : WritesBytes env) (sized : Sized state) {label : CompactionLabel}
    {system : CompactionState}
    (inner : compactionStep config env flushIntervalSecs state.system label = some system) :
    Sized (state.advanced label system) := by
  have entries : ∀ entry ∈ system.files.table.entries, 0 < entry.compressedSize.toInt := by
    intro entry listed
    rcases (systemEffect_of_compactionStep inner).entries entry listed with
      ⟨old, member, same⟩ | transit | ⟨data, size⟩
    · exact same ▸ sized.entries old member
    · exact sized.transit _ transit
    · exact size ▸ written data
  have transit : ∀ entry ∈ inTransit system.compactor, 0 < entry.compressedSize.toInt := by
    intro entry flying
    rcases inTransit_of_compactionStep inner entry flying with before | ⟨data, size⟩
    · exact sized.transit entry before
    · exact size ▸ written data
  unfold StorageState.advanced
  split
  · exact ⟨entries, transit, by simp, by simp⟩
  · refine ⟨entries, transit, ?_, sized.recorded⟩
    intro spawned listed
    rcases List.mem_append.mp listed with before | new
    · exact sized.pending spawned before
    · -- A new sample has the size of its file.
      obtain ⟨entry, member, rfl⟩ := List.mem_map.mp new
      exact entries entry (List.mem_of_mem_drop member)

theorem step (written : WritesBytes env) (sized : Sized state) {label : StorageLabel}
    (stepped : storageStep config env flushIntervalSecs state label = some next) : Sized next := by
  -- Sizes are those of written files, and rows are only marked or taken away.
  cases label with
  | system label =>
    obtain ⟨system, inner, rfl⟩ := system_of_storageStep stepped
    exact sized.system written inner
  | record position =>
    obtain ⟨spawned, taken, moved⟩ := Option.map_eq_some_iff.mp stepped
    cases moved
    refine ⟨sized.entries, sized.transit, ?_, ?_⟩
    · intro other listed
      exact sized.pending other (List.mem_of_mem_eraseIdx listed)
    · intro other listed
      rcases List.mem_append.mp listed with before | last
      · exact sized.recorded other before
      · rw [List.mem_singleton.mp last]
        exact sized.pending spawned (List.mem_of_getElem? taken)
  | cleanup store env workspaceId =>
    cases stepped
    refine ⟨?_, sized.transit, sized.pending, sized.recorded⟩
    intro entry listed
    obtain ⟨ids, same⟩ := runNowScoped_ids store env workspaceId state.files.table
    have marked : entry ∈ (state.files.table.markDeleted ids env.markedAtUs).entries :=
      same ▸ listed
    obtain ⟨old, member, rfl⟩ := List.mem_map.mp marked
    split
    · exact sized.entries old member
    · exact sized.entries old member
  | reclaim env workspaceId =>
    cases stepped
    refine ⟨?_, sized.transit, sized.pending, sized.recorded⟩
    intro entry listed
    exact sized.entries entry (List.mem_of_mem_filter listed)

end Sized

end

end Zradar.Storage
