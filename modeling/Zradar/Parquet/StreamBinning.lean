import Zradar.Parquet.Compaction

/-! Files hold rows of the stream they are registered under, until a merge mixes streams. -/

namespace Zradar

/-- The service that a row comes from. -/
def AnyRow.serviceName : AnyRow → String
  | .span row => row.serviceName
  | .metric row => row.serviceName
  | .log row => row.serviceName
  | .score row => row.serviceName

namespace Parquet

/-- Every row belongs to the stream. -/
def BatchBinned (streamName : String) (rows : List AnyRow) : Prop :=
  ∀ row ∈ rows, streamOf row.serviceName = streamName

/-- Every live file holds rows of its own stream. -/
def StreamBinned (files : FileStore) : Prop :=
  ∀ entry ∈ files.liveEntries, BatchBinned entry.streamName (files.rowsOf entry.id)

instance (streamName : String) (rows : List AnyRow) : Decidable (BatchBinned streamName rows) :=
  inferInstanceAs (Decidable (∀ row ∈ rows, _))

instance (files : FileStore) : Decidable (StreamBinned files) :=
  inferInstanceAs (Decidable (∀ entry ∈ files.liveEntries, _))

/-- Every slot holds rows of the stream in its key. -/
def SlotsBinned (slots : List (BufferKey × BufferSlot)) : Prop :=
  ∀ entry ∈ slots, BatchBinned entry.1.streamName entry.2.data.rows

/-- A row belongs to the stream in the key of its slot. -/
def RowBinned (key : BufferKey) (row : AnyRow) : Prop :=
  streamOf row.serviceName = key.streamName

/-- A new file leaves the list binned exactly when it is binned itself. -/
theorem streamBinned_register {files : FileStore} (binned : StreamBinned files)
    (entry : NewFileListEntry) (data : IngestBatch) :
    StreamBinned (files.register entry data) ↔ BatchBinned entry.streamName data.rows := by
  -- Earlier files keep their rows, so only the new file can break the binning.
  constructor
  · intro all
    unfold StreamBinned at all
    rw [FileStore.liveEntries_register] at all
    have last := all _ (List.mem_append_right _ (List.mem_singleton_self _))
    simpa using last
  · intro own
    exact files.forall_mem_liveEntries_register
      (fun entry rows => BatchBinned entry.streamName rows) binned own

theorem streamBinned_registerAll {files : FileStore} (binned : StreamBinned files)
    {added : List (NewFileListEntry × IngestBatch)}
    (own : ∀ file ∈ added, BatchBinned file.1.streamName file.2.rows) :
    StreamBinned (files.registerAll added) := by
  -- The files are registered one after another.
  apply FileStore.registerAll_keeps binned
  intro files binned file listed
  exact (streamBinned_register binned file.1 file.2).mpr (own file listed)

theorem streamBinned_markDeleted {files : FileStore} (binned : StreamBinned files) (ids : List Nat)
    (nowUs : Int64) : StreamBinned (files.markDeleted ids nowUs) := by
  intro entry listed
  exact binned entry (files.mem_liveEntries_markDeleted.mp listed).1

section

variable (env : WriterEnv) {α : Type} [Row α]

/-- The rows of a partition belong to its stream, whatever the calendar says. -/
theorem partitionOwned_streams (rows : List α) :
    ∀ group ∈ partitionOwned env rows, ∀ row ∈ group.2,
      streamOf (Row.serviceName row) = group.1.streamName := by
  intro group listed row held
  cases rows with
  | nil => simp [partitionOwned] at listed
  | cons first rest =>
    rw [partitionOwned] at listed
    split at listed
    case isTrue homogeneous =>
      -- The discriminator of the fast path has the stream in it.
      rw [List.mem_singleton.mp listed] at held ⊢
      have same := of_decide_eq_true (List.all_eq_true.mp homogeneous row held)
      simp only [discriminator, Prod.mk.injEq] at same
      exact same.2.1
    case isFalse =>
      have grouping := groupFirstSeen_spec (partitionKeyOf env) (first :: rest)
      rw [← grouping.key_of_mem listed held]
      rfl

end

/-- Every partition of a batch is of one stream. -/
theorem partitions_binned (env : WriterEnv) (batch : IngestBatch) :
    ∀ part ∈ partitions env batch, BatchBinned part.1.streamName part.2.rows := by
  -- The rows of a partition share their stream, whatever their signal is.
  intro part listed
  cases batch with
  | spans rows | metrics rows | logs rows | scores rows =>
    obtain ⟨group, member, rfl⟩ := List.mem_map.mp listed
    intro row held
    obtain ⟨inner, inside, rfl⟩ := List.mem_map.mp held
    exact partitionOwned_streams env rows group member inner inside

/-- What is on its way to the files, and what the compactor holds, is as it should be. -/
structure TransitSound (state : CompactionState) : Prop where
  phase : PhaseSound state.files state.compactor
  buffered : ∀ buffer ∈ state.writer.buffer, SlotsBinned buffer.slots
  worker : SlotsBinned state.worker.slots

/-- The files that have rows are all of the stream of the first one. -/
def SameStream (files : FileStore) (job : MergeJob) : Prop :=
  ∀ file ∈ job.files, files.rowsOf file.id ≠ [] → file.streamName = job.first.streamName

instance (files : FileStore) (job : MergeJob) : Decidable (SameStream files job) :=
  inferInstanceAs (Decidable (∀ file ∈ job.files, _ ≠ [] → _))

/-- The merge that a label registers, if it does. -/
def registeredJob : CompactorPhase → CompactionLabel → Option MergeJob
  | .merging (.registering _ _) job _, .compact .register => some job
  | _, _ => none

/-- A merge is registered only if it is of files of one stream. -/
def StreamGuard (state : CompactionState) (label : CompactionLabel) : Prop :=
  ∀ job ∈ registeredJob state.compactor label, SameStream state.files job

instance (state : CompactionState) (label : CompactionLabel) :
    Decidable (StreamGuard state label) :=
  inferInstanceAs (Decidable (∀ job ∈ _, _))

/-- A merge holds rows of one stream exactly when its files do. -/
theorem batchBinned_merge_iff {files : FileStore} {job : MergeJob} (binned : StreamBinned files)
    (sound : SnapshotSound files job.files) :
    BatchBinned job.first.streamName (job.ids.flatMap files.rowsOf) ↔ SameStream files job := by
  constructor
  · intro merged file listed some
    -- A row of the file is binned under the stream of the file and under that of the merge.
    obtain ⟨row, held⟩ := List.exists_mem_of_ne_nil _ some
    have here := binned file (sound.live file listed) row held
    have there := merged row (List.mem_flatMap.mpr ⟨file.id, List.mem_map_of_mem listed, held⟩)
    exact here.symm.trans there
  · intro same row listed
    obtain ⟨id, member, held⟩ := List.mem_flatMap.mp listed
    obtain ⟨file, inside, rfl⟩ := List.mem_map.mp member
    have own := binned file (sound.live file inside) row held
    rw [own]
    exact same file inside (List.ne_nil_of_mem held)

section

variable {config : CompactorConfig} {env : WriterEnv} {state next : CompactionState}
  {label : CompactionLabel}

/-- What is in transit stays as it should be in every step. -/
theorem TransitSound.step (sound : TransitSound state)
    (stepped : CompactionStep config env state label next) : TransitSound next := by
  cases stepped with
  | write taken faults =>
    rename_i batch position part
    have own := partitions_binned env batch part (List.mem_of_getElem? taken)
    have held : ∀ row ∈ part.2.rows, RowBinned (part.1.bufferKey (signalTag part.2)) row := own
    exact ⟨sound.phase.mono (state.files.extends_registerAll _),
      writePartitionOwned_slotsHold held sound.buffered, sound.worker⟩
  | flush stepped =>
    have before : ∀ buffer ∈ state.writer.buffer, SlotsHold RowBinned buffer.slots :=
      sound.buffered
    obtain ⟨buffered, held⟩ := stepped.slotsHold before sound.worker
    exact ⟨sound.phase.mono (state.files.extends_registerAll _), buffered, held⟩
  | query filter => exact sound
  | compact stepped => exact ⟨sound.phase.step stepped, sound.buffered, sound.worker⟩
  | crash =>
    refine ⟨.idle _, ?_, by simp [CompactionState.crashed, SlotsBinned, WorkerPhase.slots]⟩
    -- The buffer of a new process is empty.
    intro buffer here
    obtain ⟨old, _, rfl⟩ := Option.map_eq_some_iff.mp here
    simp [SlotsBinned, WriteBuffer.new]

/-- Only the registration of a merge is guarded. -/
theorem streamGuard_of_not_registers (quiet : label.registers = false) :
    StreamGuard state label := by
  -- The condition speaks of the job that a label registers, and there is none.
  have none : registeredJob state.compactor label = none := by
    unfold registeredJob
    split
    · simp [CompactionLabel.registers] at quiet
    · rfl
  unfold StreamGuard
  rw [none]
  simp

/-- A file that is written for a stream holds rows of that stream. -/
theorem WrittenFor.batchBinned {workspaceId streamName : String} {batch : IngestBatch}
    {file : NewFileListEntry × IngestBatch} (own : BatchBinned streamName batch.rows)
    (written : WrittenFor env workspaceId streamName batch file) :
    BatchBinned file.1.streamName file.2.rows := by
  obtain ⟨fileNumber, rfl⟩ := written
  exact own

/-- A step of the writer registers binned files only. -/
theorem streamBinned_written (binned : StreamBinned state.files) {writer : WriterState}
    {origin : NewFileListEntry × IngestBatch → Prop}
    (adds : Adds state.writer.store writer.store origin)
    (own : ∀ file, origin file → BatchBinned file.1.streamName file.2.rows)
    (worker : WorkerPhase) : StreamBinned (state.written writer worker).files := by
  obtain ⟨added, listed, comes⟩ := adds
  rw [state.written_files listed worker]
  exact streamBinned_registerAll binned fun file inside => own file (comes file inside)

/-- A step keeps the files binned exactly when it registers no mixed merge. -/
theorem streamBinned_step_iff (sound : TransitSound state) (binned : StreamBinned state.files)
    (stepped : CompactionStep config env state label next) :
    StreamBinned next.files ↔ StreamGuard state label := by
  cases stepped with
  | write taken faults =>
    rename_i batch position part
    have own := partitions_binned env batch part (List.mem_of_getElem? taken)
    have adds : Adds state.writer.store
        (writePartitionOwned env part (withFaults state.writer faults)).1.store _ :=
      writePartitionOwned_adds env part (withFaults state.writer faults)
    exact iff_of_true (streamBinned_written binned adds (fun _ written => written.batchBinned own) _)
      (streamGuard_of_not_registers rfl)
  | flush stepped =>
    refine iff_of_true (streamBinned_written binned stepped.adds ?_ _)
      (streamGuard_of_not_registers rfl)
    rintro file ⟨entry, listed, written⟩
    exact written.batchBinned (sound.worker entry listed)
  | query filter => exact iff_of_true binned (streamGuard_of_not_registers rfl)
  | crash => exact iff_of_true binned (streamGuard_of_not_registers rfl)
  | compact stepped =>
    obtain ⟨writer, worker, files, compactor⟩ := state
    cases stepped with
    | register job groups entry merged same =>
      -- The merged file is registered under the stream of its first original.
      obtain ⟨rows, _, stream⟩ := sound.phase.stage _ _ _ rfl
      have own : SnapshotSound files job.files :=
        sound.phase.snapshot.sublist (List.sublist_append_left _ _)
      have added := streamBinned_register binned entry merged
      rw [rows, stream, batchBinned_merge_iff binned own] at added
      refine added.trans ?_
      simp [StreamGuard, registeredJob]
    | markDeleted job groups =>
      exact iff_of_true (streamBinned_markDeleted binned _ _) (streamGuard_of_not_registers rfl)
    | scan | finish | nextGroup | read | leave | writeFile | upsertStreamStats | fail =>
      exact iff_of_true binned (streamGuard_of_not_registers rfl)

end

theorem transitSound_initialSystem (maxSlotBytes : Option Nat) :
    TransitSound (initialSystem maxSlotBytes) := by
  refine ⟨.idle _, ?_, by simp [initialSystem, SlotsBinned, WorkerPhase.slots]⟩
  intro buffer here
  obtain ⟨size, _, rfl⟩ := Option.map_eq_some_iff.mp here
  simp [SlotsBinned, WriteBuffer.new]

/--
Through all states of a run of writes and compactions the files hold rows of their own stream,
exactly when no step of the run registers a merge of files of different streams.
-/
theorem stream_binning_survives_iff (config : CompactorConfig) (env : WriterEnv)
    (flushIntervalSecs : Nat) (maxSlotBytes : Option Nat) {labels : List CompactionLabel}
    {final : CompactionState}
    (reached : run (compactionStep config env flushIntervalSecs) (initialSystem maxSlotBytes)
      labels = some final) :
    (∀ taken middle,
        run (compactionStep config env flushIntervalSecs) (initialSystem maxSlotBytes)
          (labels.take taken) = some middle → StreamBinned middle.files) ↔
      Guarded (compactionStep config env flushIntervalSecs) StreamGuard
        (initialSystem maxSlotBytes) labels := by
  have transit : TransitSound (initialSystem maxSlotBytes) :=
    transitSound_initialSystem maxSlotBytes
  have empty : StreamBinned (initialSystem maxSlotBytes).files := by
    simp [StreamBinned, initialSystem, FileStore.liveEntries]
  -- What is in transit is sound in every state, so that only the files are left to look at.
  have exactly : ∀ state label next, TransitSound state ∧ StreamBinned state.files →
      compactionStep config env flushIntervalSecs state label = some next →
        (TransitSound next ∧ StreamBinned next.files ↔ StreamGuard state label) := by
    rintro state label next ⟨sound, binned⟩ stepped
    have step := CompactionStep.of_compactionStep stepped
    rw [and_iff_right (sound.step step)]
    exact streamBinned_step_iff sound binned step
  have moving : ∀ taken middle,
      run (compactionStep config env flushIntervalSecs) (initialSystem maxSlotBytes)
        (labels.take taken) = some middle → TransitSound middle := by
    intro taken middle arrived
    exact run_keeps (fun _ _ _ sound stepped =>
      sound.step (CompactionStep.of_compactionStep stepped)) transit arrived
  rw [← run_always_iff exactly ⟨transit, empty⟩ reached]
  constructor
  · intro binned taken middle arrived
    exact ⟨moving taken middle arrived, binned taken middle arrived⟩
  · intro both taken middle arrived
    exact (both taken middle arrived).2

/-- A merge of two files of one service keeps the files binned. -/
theorem merge_of_one_service_binned :
    ∃ final, run (compactionStep pairConfig firstDayEnv 1) (initialSystem none)
        (mergeLabels "api" "api") = some final ∧
      ∀ taken middle, run (compactionStep pairConfig firstDayEnv 1) (initialSystem none)
        ((mergeLabels "api" "api").take taken) = some middle → StreamBinned middle.files := by
  have arrives : (run (compactionStep pairConfig firstDayEnv 1) (initialSystem none)
      (mergeLabels "api" "api")).isSome := by decide +kernel
  obtain ⟨final, reached⟩ := Option.isSome_iff_exists.mp arrives
  refine ⟨final, reached, ?_⟩
  exact (stream_binning_survives_iff pairConfig firstDayEnv 1 none reached).mpr (by decide +kernel)

/-- A merge of files of two services puts the rows of one under the name of the other. -/
theorem merge_mixes_services :
    ¬ ∀ (config : CompactorConfig) (env : WriterEnv) (flushIntervalSecs : Nat)
      (maxSlotBytes : Option Nat) (labels : List CompactionLabel) (final : CompactionState),
      run (compactionStep config env flushIntervalSecs) (initialSystem maxSlotBytes) labels =
        some final → StreamBinned final.files := by
  -- The two files differ in their services and are merged into one.
  intro claim
  have shown : (run (compactionStep pairConfig firstDayEnv 1) (initialSystem none)
      (mergeLabels "api" "web")).map (fun state => decide (StreamBinned state.files)) =
        some false := by decide +kernel
  obtain ⟨final, reached, mixed⟩ := Option.map_eq_some_iff.mp shown
  exact of_decide_eq_false mixed (claim pairConfig firstDayEnv 1 none _ final reached)

end Parquet

end Zradar
