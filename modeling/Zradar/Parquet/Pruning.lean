import Zradar.Lib.FixedWidth
import Zradar.Parquet.Compaction
import Zradar.Query.TimeRange

/-! File pruning: the time range of a file covers its rows, so that no query range misses one. -/

namespace Zradar

/-- The time of a row, in nanoseconds. -/
def AnyRow.timestamp : AnyRow → Int64
  | .span row => row.timestamp
  | .metric row => row.timestamp
  | .log row => row.timestamp
  | .score row => row.timestamp

/-- A span that does not end before it begins. -/
def AnyRow.Forward : AnyRow → Prop
  | .span row => 0 ≤ row.durationNs
  | _ => True

namespace Parquet

open Query

/-- The filter of a query on one signal, whose range is turned into microseconds. -/
def fileFilter (workspaceId : WorkspaceId) (signalType : String) (timeRange : Option TimeRange) :
    FileListFilter :=
  { FileListFilter.default with
    workspaceId := some workspaceId
    signalType := some signalType
    timeRangeStart := timeRange.map fun range => range.start / 1000
    timeRangeEnd := timeRange.map fun range => range.ending / 1000
    deleted := some false }

/-- The filter of queries on traces. -/
def traceFileFilter (workspaceId : WorkspaceId) (timeRange : Option TimeRange) : FileListFilter :=
  fileFilter workspaceId "traces" timeRange

/-- The filter of queries on spans. -/
def spanFileFilter (workspaceId : WorkspaceId) (timeRange : Option TimeRange) : FileListFilter :=
  fileFilter workspaceId "traces" timeRange

/-- The range of an entry, in microseconds, reaches over the rows. -/
def Covers (entry : NewFileListEntry) (rows : List AnyRow) : Prop :=
  ∀ row ∈ rows, entry.minTs.toInt ≤ row.timestamp.toInt.tdiv 1000 ∧
    row.timestamp.toInt.tdiv 1000 ≤ entry.maxTs.toInt

/-- A number of microseconds that is also one of nanoseconds. -/
def IsMicros (value : Int64) : Prop :=
  -9223372036854775 ≤ value.toInt ∧ value.toInt ≤ 9223372036854775

/-- The range of a file, in microseconds, reaches over its rows and has room for nanoseconds. -/
structure RangeSound (entry : NewFileListEntry) (rows : List AnyRow) : Prop where
  begins : IsMicros entry.minTs
  ends : IsMicros entry.maxTs
  covers : Covers entry rows

theorem toInt_micros (value : Int64) : (value / 1000).toInt = value.toInt.tdiv 1000 :=
  FixedWidth.toInt_div_of_pos value (by decide)

theorem isMicros_micros (value : Int64) : IsMicros (value / 1000) := by
  -- Nanoseconds are at most 64 bits wide, which bounds their microseconds.
  have lower := value.le_toInt
  have upper := value.toInt_lt
  unfold IsMicros
  rw [toInt_micros]
  constructor
  · calc (-9223372036854775 : Int) = Int.tdiv (-2 ^ 63) 1000 := by decide
      _ ≤ value.toInt.tdiv 1000 := Int.tdiv_le_tdiv (by decide) lower
  · calc value.toInt.tdiv 1000 ≤ Int.tdiv (2 ^ 63 - 1) 1000 :=
          Int.tdiv_le_tdiv (by decide) (by omega)
      _ = 9223372036854775 := by decide

/-- Microseconds survive the way to nanoseconds and back. -/
theorem micros_nanos {value : Int64} (micros : IsMicros value) : value * 1000 / 1000 = value := by
  obtain ⟨lower, upper⟩ := micros
  apply Int64.toInt_inj.mp
  -- The nanoseconds of a microsecond in range do not wrap.
  have product : (value * 1000).toInt = value.toInt * 1000 := by
    rw [Int64.toInt_mul]
    apply Int.bmod_eq_of_le
    · show -(2 ^ 64 / 2) ≤ value.toInt * 1000
      omega
    · show value.toInt * 1000 < (2 ^ 64 + 1) / 2
      omega
  rw [toInt_micros, product]
  exact Int.mul_tdiv_cancel _ (by decide)

/-- The first of some times is no later than any of them. -/
theorem min_getD_le {times : List Int64} {time : Int64} (listed : time ∈ times) :
    (times.min?.getD 0).toInt ≤ time.toInt := by
  -- There is a least time, since there is one at all.
  cases first : times.min? with
  | none =>
    rw [List.min?_eq_none_iff.mp first] at listed
    cases listed
  | some least =>
    have below := (List.min?_eq_some_iff.mp first).2 time listed
    exact Int64.le_iff_toInt_le.mp below

/-- The last of some times is no earlier than any of them. -/
theorem le_max_getD {times : List Int64} {time : Int64} (listed : time ∈ times) :
    time.toInt ≤ (times.max?.getD 0).toInt := by
  -- There is a greatest time, since there is one at all.
  cases last : times.max? with
  | none =>
    rw [List.max?_eq_none_iff.mp last] at listed
    cases listed
  | some greatest =>
    have above := (List.max?_eq_some_iff.mp last).2 time listed
    exact Int64.le_iff_toInt_le.mp above

/-- A span with a duration ends no earlier than it begins, even where its end is cut off. -/
theorem le_saturatingAdd (timestamp : Int64) {duration : Int64} (forward : 0 ≤ duration) :
    timestamp.toInt ≤ (saturatingAdd timestamp duration).toInt := by
  have upper := timestamp.toInt_lt
  have lower := timestamp.le_toInt
  have positive : 0 ≤ duration.toInt := Int64.le_iff_toInt_le.mp forward
  rw [saturatingAdd, Int64.toInt_ofInt_of_le (by omega) (by omega)]
  omega

/-- The times that a batch reaches enclose the time of every row. -/
theorem reach_encloses {batch : IngestBatch} (forward : ∀ row ∈ batch.rows, row.Forward) :
    ∀ row ∈ batch.rows, row.timestamp ∈ (reach batch).1 ∧
      ∃ last ∈ (reach batch).2, row.timestamp.toInt ≤ last.toInt := by
  intro row listed
  cases batch with
  | spans rows =>
    have ahead := forward row listed
    obtain ⟨span, member, rfl⟩ := List.mem_map.mp listed
    -- The end of a span is the sum of its start and its duration.
    exact ⟨List.mem_map_of_mem member, _, List.mem_map_of_mem member,
      le_saturatingAdd span.timestamp ahead⟩
  | metrics rows | logs rows | scores rows =>
    obtain ⟨inner, member, rfl⟩ := List.mem_map.mp listed
    exact ⟨List.mem_map_of_mem member, _, List.mem_map_of_mem member, le_refl _⟩

/-- A file that is written from a batch has a sound range. -/
theorem fileEntry_rangeSound (env : WriterEnv) (workspaceId streamName : String)
    {batch : IngestBatch} (forward : ∀ row ∈ batch.rows, row.Forward) (fileNumber : Nat) :
    RangeSound (fileEntry env workspaceId streamName batch fileNumber) batch.rows := by
  refine ⟨isMicros_micros _, isMicros_micros _, ?_⟩
  intro row listed
  obtain ⟨here, last, later, ahead⟩ := reach_encloses forward row listed
  show ((reach batch).1.min?.getD 0 / 1000).toInt ≤ _ ∧
    _ ≤ ((reach batch).2.max?.getD 0 / 1000).toInt
  rw [toInt_micros, toInt_micros]
  -- Truncating division keeps the order of the times.
  constructor
  · exact Int.tdiv_le_tdiv (by decide) (min_getD_le here)
  · exact Int.tdiv_le_tdiv (by decide) (ahead.trans (le_max_getD later))

/-- The least and the greatest of some microseconds are microseconds. -/
theorem isMicros_min {times : List Int64} (micros : ∀ time ∈ times, IsMicros time) :
    IsMicros (times.min?.getD 0) := by
  cases first : times.min? with
  | none => exact ⟨by decide, by decide⟩
  | some least => exact micros least (List.min?_eq_some_iff.mp first).1

theorem isMicros_max {times : List Int64} (micros : ∀ time ∈ times, IsMicros time) :
    IsMicros (times.max?.getD 0) := by
  cases last : times.max? with
  | none => exact ⟨by decide, by decide⟩
  | some greatest => exact micros greatest (List.max?_eq_some_iff.mp last).1

/-- A merge of files with sound ranges has a sound range. -/
theorem mergedEntry_rangeSound (env : WriterEnv) {job : MergeJob} {rowsOf : Nat → List AnyRow}
    (sound : ∀ file ∈ job.files, RangeSound file.toNewFileListEntry (rowsOf file.id))
    {merged : IngestBatch} (rows : merged.rows = job.ids.flatMap rowsOf) (fileNumber : Nat) :
    RangeSound (mergedEntry env job merged fileNumber) merged.rows := by
  have begins : IsMicros ((job.files.map fun file => file.minTs).min?.getD 0) := by
    apply isMicros_min
    intro time listed
    obtain ⟨file, member, rfl⟩ := List.mem_map.mp listed
    exact (sound file member).begins
  have ends : IsMicros ((job.files.map fun file => file.maxTs).max?.getD 0) := by
    apply isMicros_max
    intro time listed
    obtain ⟨file, member, rfl⟩ := List.mem_map.mp listed
    exact (sound file member).ends
  -- The range goes to nanoseconds and back, which changes nothing.
  have first : (mergedEntry env job merged fileNumber).minTs =
      (job.files.map fun file => file.minTs).min?.getD 0 := micros_nanos begins
  have last : (mergedEntry env job merged fileNumber).maxTs =
      (job.files.map fun file => file.maxTs).max?.getD 0 := micros_nanos ends
  refine ⟨first ▸ begins, last ▸ ends, ?_⟩
  intro row listed
  rw [rows] at listed
  obtain ⟨id, member, held⟩ := List.mem_flatMap.mp listed
  obtain ⟨file, inside, rfl⟩ := List.mem_map.mp member
  obtain ⟨below, above⟩ := (sound file inside).covers row held
  rw [first, last]
  exact ⟨(min_getD_le (List.mem_map_of_mem inside)).trans below,
    above.trans (le_max_getD (List.mem_map_of_mem inside))⟩

/-- Every live file has a sound range. -/
def RangesSound (files : FileStore) : Prop :=
  ∀ entry ∈ files.liveEntries, RangeSound entry.toNewFileListEntry (files.rowsOf entry.id)

theorem RangesSound.register {files : FileStore} (sound : RangesSound files)
    {entry : NewFileListEntry} {data : IngestBatch} (own : RangeSound entry data.rows) :
    RangesSound (files.register entry data) := by
  -- The new file brings its own range.
  exact files.forall_mem_liveEntries_register RangeSound sound own

theorem RangesSound.registerAll {files : FileStore} (sound : RangesSound files)
    {added : List (NewFileListEntry × IngestBatch)}
    (own : ∀ file ∈ added, RangeSound file.1 file.2.rows) :
    RangesSound (files.registerAll added) := by
  -- The files are registered one after another.
  apply FileStore.registerAll_keeps sound
  intro files sound file listed
  exact sound.register (own file listed)

/-- A row that goes forward, whatever slot it is in. -/
def RowForward (_ : BufferKey) (row : AnyRow) : Prop := row.Forward

/-- A label that writes no span with a negative duration. -/
def CompactionLabel.Forward : CompactionLabel → Prop
  | .write batch _ _ => ∀ row ∈ batch.rows, row.Forward
  | _ => True

/-- The ranges of the files are sound, and so is all that is on its way to them. -/
structure PruningSound (state : CompactionState) : Prop where
  phase : PhaseSound state.files state.compactor
  files : RangesSound state.files
  buffered : ∀ buffer ∈ state.writer.buffer, SlotsHold RowForward buffer.slots
  worker : SlotsHold RowForward state.worker.slots
  /-- The merged file that is about to be registered has a sound range. -/
  merged : ∀ entry merged job groups,
    state.compactor = .merging (.registering entry merged) job groups →
      RangeSound entry merged.rows

namespace PruningSound

variable {config : CompactorConfig} {env : WriterEnv} {state next : CompactionState}
  {label : CompactionLabel}

theorem initial (maxSlotBytes : Option Nat) : PruningSound (initialSystem maxSlotBytes) := by
  refine ⟨.idle _, by simp [RangesSound, initialSystem, FileStore.liveEntries], ?_,
    by simp [initialSystem, SlotsHold, WorkerPhase.slots], by simp [initialSystem]⟩
  intro buffer here
  obtain ⟨size, _, rfl⟩ := Option.map_eq_some_iff.mp here
  simp [SlotsHold, WriteBuffer.new]

/-- A step of the writer registers files with sound ranges. -/
theorem written (sound : PruningSound state) {writer : WriterState} {worker : WorkerPhase}
    {origin : NewFileListEntry × IngestBatch → Prop}
    (adds : Adds state.writer.store writer.store origin)
    (own : ∀ file, origin file → RangeSound file.1 file.2.rows)
    (buffered : ∀ buffer ∈ writer.buffer, SlotsHold RowForward buffer.slots)
    (held : SlotsHold RowForward worker.slots) : PruningSound (state.written writer worker) := by
  -- A write adds files to the list and leaves the phase of the compactor alone.
  obtain ⟨added, listed, comes⟩ := adds
  have files := state.written_files listed worker
  refine ⟨?_, ?_, buffered, held, sound.merged⟩
  · rw [files]
    exact sound.phase.mono (state.files.extends_registerAll added)
  · rw [files]
    exact sound.files.registerAll fun file inside => own file (comes file inside)

/-- The rows of a partition are rows of the batch. -/
theorem forward_of_partition {batch : IngestBatch} (forward : ∀ row ∈ batch.rows, row.Forward)
    {part : PartitionKey × IngestBatch} (member : part ∈ partitions env batch) :
    ∀ row ∈ part.2.rows, row.Forward := by
  intro row held
  apply forward row
  apply (partitions_rows env batch).mem_iff.mp
  exact List.mem_flatMap.mpr ⟨part, member, held⟩

/-- A file that is written for a stream has a sound range. -/
theorem writtenFor {workspaceId streamName : String} {batch : IngestBatch}
    (forward : ∀ row ∈ batch.rows, row.Forward) {file : NewFileListEntry × IngestBatch}
    (written : WrittenFor env workspaceId streamName batch file) :
    RangeSound file.1 file.2.rows := by
  obtain ⟨fileNumber, rfl⟩ := written
  exact fileEntry_rangeSound env workspaceId streamName forward fileNumber

/-- A step of the compactor changes no row, and its merged file has a sound range. -/
theorem compacted {writer : WriterState} {worker : WorkerPhase} {files nextFiles : FileStore}
    {compactor phase : CompactorPhase} {disk : ParquetStore} {label : CompactorLabel}
    (sound : PruningSound ⟨writer, worker, files, compactor⟩)
    (stepped : CompactorStep config env writer.store files compactor label disk nextFiles phase) :
    PruningSound ⟨{ writer with store := disk }, worker, nextFiles, phase⟩ := by
  have next := sound.phase.step stepped
  cases stepped with
  | writeFile job groups merged same =>
    refine ⟨next, sound.files, sound.buffered, sound.worker, ?_⟩
    intro entry other own rest here
    cases here
    -- The originals are live files, whose ranges are sound.
    obtain ⟨rows, _⟩ := sound.phase.stage _ _ _ rfl
    have originals : SnapshotSound files job.files :=
      sound.phase.snapshot.sublist (List.sublist_append_left _ _)
    exact mergedEntry_rangeSound env
      (fun file listed => sound.files file (originals.live file listed)) rows _
  | register job groups entry merged same =>
    exact ⟨next, sound.files.register (sound.merged entry merged job groups rfl), sound.buffered,
      sound.worker, by simp⟩
  | markDeleted job groups =>
    refine ⟨next, ?_, sound.buffered, sound.worker, by simp⟩
    intro entry listed
    exact sound.files entry (files.mem_liveEntries_markDeleted.mp listed).1
  | nextGroup taken =>
    refine ⟨next, sound.files, sound.buffered, sound.worker, ?_⟩
    intro entry merged job rest here
    cases beginGroup_stage here
  | scan | finish | read | leave | upsertStreamStats | fail =>
    exact ⟨next, sound.files, sound.buffered, sound.worker, by simp⟩

theorem step (sound : PruningSound state) (stepped : CompactionStep config env state label next)
    (forward : label.Forward) : PruningSound next := by
  cases stepped with
  | write taken faults =>
    rename_i batch position part
    have own := forward_of_partition forward (List.mem_of_getElem? taken)
    have adds : Adds state.writer.store
        (writePartitionOwned env part (withFaults state.writer faults)).1.store _ :=
      writePartitionOwned_adds env part (withFaults state.writer faults)
    have held : ∀ row ∈ part.2.rows, RowForward (part.1.bufferKey (signalTag part.2)) row := own
    exact sound.written adds (fun _ => writtenFor own)
      (writePartitionOwned_slotsHold held sound.buffered) sound.worker
  | flush inner =>
    obtain ⟨buffered, held⟩ := inner.slotsHold sound.buffered sound.worker
    refine sound.written inner.adds ?_ buffered held
    rintro file ⟨entry, listed, written⟩
    exact writtenFor (sound.worker entry listed) written
  | query filter => exact sound
  | compact inner => exact sound.compacted inner
  | crash =>
    refine ⟨.idle _, sound.files, ?_, by simp [CompactionState.crashed, SlotsHold,
      WorkerPhase.slots], by simp [CompactionState.crashed]⟩
    -- The buffer of a new process is empty.
    intro buffer here
    obtain ⟨old, _, rfl⟩ := Option.map_eq_some_iff.mp here
    simp [SlotsHold, WriteBuffer.new]

end PruningSound

/-- A file with a sound range passes every range that one of its rows is in. -/
theorem RangeSound.matches {entry : FileListEntry} {rows : List AnyRow}
    (sound : RangeSound entry.toNewFileListEntry rows) (live : entry.deleted = false)
    {row : AnyRow} (held : row ∈ rows) {range : TimeRange} (begun : range.start ≤ row.timestamp)
    (ended : row.timestamp ≤ range.ending) :
    (fileFilter entry.workspaceId entry.signalType (some range)).matches entry = true := by
  -- Division rounds toward zero on both sides, so it keeps the order.
  obtain ⟨below, above⟩ := sound.covers row held
  have late : range.start / 1000 ≤ entry.maxTs := by
    rw [Int64.le_iff_toInt_le, toInt_micros]
    exact (Int.tdiv_le_tdiv (by decide) (Int64.le_iff_toInt_le.mp begun)).trans above
  have early : entry.minTs ≤ range.ending / 1000 := by
    rw [Int64.le_iff_toInt_le, toInt_micros]
    exact below.trans (Int.tdiv_le_tdiv (by decide) (Int64.le_iff_toInt_le.mp ended))
  simp [FileListFilter.matches, fileFilter, FileListFilter.default, admits, late, early, live]

/--
In every run of writes and compactions, a live file is found by every query range that one of its
rows is in.
-/
theorem pruning_keeps_matching_rows (config : CompactorConfig) (env : WriterEnv)
    (flushIntervalSecs : Nat) (maxSlotBytes : Option Nat) {labels : List CompactionLabel}
    {final : CompactionState} (forward : ∀ label ∈ labels, label.Forward)
    (reached : run (compactionStep config env flushIntervalSecs) (initialSystem maxSlotBytes)
      labels = some final) :
    ∀ entry ∈ final.files.liveEntries, ∀ row ∈ final.files.rowsOf entry.id, ∀ range : TimeRange,
      range.start ≤ row.timestamp → row.timestamp ≤ range.ending →
        entry ∈ final.files.table.queryFiles
          (fileFilter entry.workspaceId entry.signalType (some range)) := by
  -- The ranges of all live files are sound in every state that is reached.
  have sound : PruningSound final := run_invariant
    (fun _ _ _ sound forward stepped => sound.step (.of_compactionStep stepped) forward)
    (.initial maxSlotBytes) (Guarded.of_labels forward _) reached
  intro entry listed row held range begun ended
  obtain ⟨inside, live⟩ := final.files.mem_liveEntries.mp listed
  exact FileTable.mem_queryFiles.mpr
    ⟨inside, (sound.files entry listed).matches live held begun ended⟩

/-- The rows of a merged file are found by the narrowest range that has them. -/
theorem pruning_keeps_merged_rows :
    ∃ final, run (compactionStep pairConfig firstDayEnv 1) (initialSystem none)
        (mergeLabels "api" "web") = some final ∧ final.files.visibleRows.length = 2 ∧
      ∀ entry ∈ final.files.liveEntries, ∀ row ∈ final.files.rowsOf entry.id,
        entry ∈ final.files.table.queryFiles (fileFilter entry.workspaceId entry.signalType
          (some ⟨row.timestamp, row.timestamp⟩)) := by
  -- After the merge both rows lie in one live file.
  have arrives : (run (compactionStep pairConfig firstDayEnv 1) (initialSystem none)
      (mergeLabels "api" "web")).map (fun state => state.files.visibleRows.length) = some 2 := by
    decide +kernel
  obtain ⟨final, reached, rows⟩ := Option.map_eq_some_iff.mp arrives
  have forward : ∀ label ∈ mergeLabels "api" "web", label.Forward := by
    simp [mergeLabels, beginMerge, CompactionLabel.Forward, IngestBatch.rows, AnyRow.Forward]
  refine ⟨final, reached, rows, ?_⟩
  intro entry listed row held
  exact pruning_keeps_matching_rows pairConfig firstDayEnv 1 none forward reached entry listed row
    held ⟨row.timestamp, row.timestamp⟩ (Int64.le_refl _) (Int64.le_refl _)

end Parquet

end Zradar
