import Zradar.Lib.Run
import Zradar.Parquet.Compactor
import Zradar.Parquet.FlushWorker
import Zradar.Parquet.Partition

/-! Writes, flushes and compactions on one file list, and the rows that stay visible in it. -/

namespace Zradar.Parquet

/-- The telemetry writer and the compactor, on one file list. -/
structure CompactionState where
  /-- The writer, whose registrations are listed as if no file were ever merged. -/
  writer : WriterState
  worker : WorkerPhase
  files : FileStore
  compactor : CompactorPhase

/-- One step of the system. -/
inductive CompactionLabel where
  /-- Write one partition of a batch, while some of the steps on the store fail. -/
  | write (batch : IngestBatch) (partition : Nat) (faults : List Bool)
  | flush (label : WorkerLabel)
  | query (filter : FileListFilter)
  | compact (label : CompactorLabel)
  /-- The process stops, and starts again with what is on disk. -/
  | crash

namespace CompactionState

/-- The state behind a step of the writer, with the new registrations in the file list. -/
def written (state : CompactionState) (writer : WriterState) (worker : WorkerPhase) :
    CompactionState :=
  { state with
    writer := writer
    worker := worker
    files := state.files.registerAll
      (writer.store.fileList.drop state.writer.store.fileList.length) }

/-- What is left when the process stops. -/
def crashed (state : CompactionState) : CompactionState :=
  { state with
    writer := { state.writer with
      buffer := state.writer.buffer.map fun buffer => WriteBuffer.new buffer.maxSlotBytes }
    worker := .idle
    compactor := .idle }

/-- Queries see the rows that were written, each as often as it was written. -/
def RowsKept (state : CompactionState) : Prop :=
  state.files.visibleRows.Perm state.writer.store.storedRows

end CompactionState

/-- A system without files, with a buffer in front of it or without one. -/
def initialSystem (maxSlotBytes : Option Nat) : CompactionState where
  writer := ⟨⟨[], [], [], 0, []⟩, maxSlotBytes.map WriteBuffer.new, 0⟩
  worker := .idle
  files := ⟨⟨[], by simp⟩, fun _ => .logs [], 0, by simp⟩
  compactor := .idle

/-- One step of the system. -/
def compactionStep (config : CompactorConfig) (env : WriterEnv) (flushIntervalSecs : Nat)
    (state : CompactionState) : CompactionLabel → Option CompactionState
  | .write batch partition faults =>
    (partitions env batch)[partition]?.map fun part =>
      state.written (writePartitionOwned env part (withFaults state.writer faults)).1 state.worker
  | .flush label =>
    (workerStep env flushIntervalSecs state.writer state.worker label).map fun next =>
      state.written next.1 next.2
  | .query _ => some state
  | .compact label =>
    (compactorStep config env state.writer.store state.files state.compactor label).map fun next =>
      { state with
        writer := { state.writer with store := next.1 }
        files := next.2.1
        compactor := next.2.2 }
  | .crash => some state.crashed

/-- The files that a step on the store registers all come from somewhere. -/
def Adds (before after : ParquetStore) (origin : NewFileListEntry × IngestBatch → Prop) : Prop :=
  ∃ files, after.fileList = before.fileList ++ files ∧ ∀ file ∈ files, origin file

theorem Adds.none {before after : ParquetStore}
    {origin : NewFileListEntry × IngestBatch → Prop} (same : after.fileList = before.fileList) :
    Adds before after origin :=
  ⟨[], by simp [same], by simp⟩

/-- A file that the writer writes for a workspace and a stream. -/
def WrittenFor (env : WriterEnv) (workspaceId streamName : String) (batch : IngestBatch)
    (file : NewFileListEntry × IngestBatch) : Prop :=
  ∃ fileNumber, file = (fileEntry env workspaceId streamName batch fileNumber, batch)

/-- A write registers its batch or nothing. -/
theorem writeBatch_adds (env : WriterEnv) (workspaceId streamName : String) (batch : IngestBatch)
    (store : ParquetStore) :
    Adds store (writeBatch env workspaceId streamName batch store).1
      (WrittenFor env workspaceId streamName batch) := by
  have one : ∀ file ∈ [(fileEntry env workspaceId streamName batch store.filesMade, batch)],
      WrittenFor env workspaceId streamName batch file := by
    intro file listed
    exact ⟨store.filesMade, List.mem_singleton.mp listed⟩
  -- The second of the three steps is the one that registers.
  have steps := writeBatch_steps env workspaceId streamName batch store
  generalize writeBatch env workspaceId streamName batch store = outcome at steps ⊢
  cases steps with
  | done next clean files stats faults => exact ⟨_, files, one⟩
  | early next error failed files stats => exact .none files
  | late next error before files stats => exact ⟨_, files, one⟩

theorem writeRows_adds (env : WriterEnv) (workspaceId streamName : String) (batch : IngestBatch)
    (store : ParquetStore) :
    Adds store (writeRows env workspaceId streamName batch store).1
      (WrittenFor env workspaceId streamName batch) := by
  unfold writeRows
  split
  · exact .none rfl
  · exact writeBatch_adds env workspaceId streamName batch store

theorem writePartitionOwned_adds (env : WriterEnv) (partition : PartitionKey × IngestBatch)
    (state : WriterState) :
    Adds state.store (writePartitionOwned env partition state).1.store
      (WrittenFor env partition.1.workspaceId partition.1.streamName partition.2) := by
  unfold writePartitionOwned
  split
  · exact .none rfl
  · exact writeRows_adds env _ _ _ _

theorem flushOne_adds (env : WriterEnv) (key : BufferKey) (data : IngestBatch)
    (store : ParquetStore) :
    Adds store (flushOne env key data store).1
      (WrittenFor env key.workspaceId key.streamName data) := by
  -- An empty slot writes nothing, and a failed write may still have left a file.
  rw [flushOne_store]
  exact writeRows_adds env key.workspaceId key.streamName data store

/-- The worker registers nothing but a slot that it has in its hands. -/
theorem WorkerStep.adds {env : WriterEnv} {writer next : WriterState}
    {before after : WorkerPhase} {label : WorkerLabel}
    (stepped : WorkerStep env writer before label next after) :
    Adds writer.store next.store fun file =>
      ∃ entry ∈ before.slots,
        WrittenFor env entry.1.workspaceId entry.1.streamName entry.2.data file := by
  -- Only the write of a slot reaches the store.
  cases stepped with
  | collect | remove | drained | done => exact .none rfl
  | write final entry slots faults =>
    obtain ⟨files, listed, origin⟩ :=
      flushOne_adds env entry.1 entry.2.data (withFaults writer faults).store
    exact ⟨files, listed, fun file inside => ⟨entry, List.mem_cons_self, origin file inside⟩⟩

/-- The steps of the system, one rule for each kind of label. -/
inductive CompactionStep (config : CompactorConfig) (env : WriterEnv) (state : CompactionState) :
    CompactionLabel → CompactionState → Prop where
  | write {batch : IngestBatch} {position : Nat} {part : PartitionKey × IngestBatch}
      (taken : (partitions env batch)[position]? = some part) (faults : List Bool) :
    CompactionStep config env state (.write batch position faults)
      (state.written (writePartitionOwned env part (withFaults state.writer faults)).1 state.worker)
  | flush {label : WorkerLabel} {writer : WriterState} {worker : WorkerPhase}
      (stepped : WorkerStep env state.writer state.worker label writer worker) :
    CompactionStep config env state (.flush label) (state.written writer worker)
  | query (filter : FileListFilter) : CompactionStep config env state (.query filter) state
  | compact {label : CompactorLabel} {disk : ParquetStore} {files : FileStore}
      {phase : CompactorPhase}
      (stepped : CompactorStep config env state.writer.store state.files state.compactor label
        disk files phase) :
    CompactionStep config env state (.compact label)
      { state with
        writer := { state.writer with store := disk }
        files := files
        compactor := phase }
  | crash : CompactionStep config env state .crash state.crashed

section

variable {config : CompactorConfig} {env : WriterEnv} {flushIntervalSecs : Nat}
  {state next : CompactionState} {label : CompactionLabel}

theorem CompactionStep.of_compactionStep
    (stepped : compactionStep config env flushIntervalSecs state label = some next) :
    CompactionStep config env state label next := by
  -- One case for each actor that can take a step.
  unfold compactionStep at stepped
  split at stepped
  · obtain ⟨part, taken, moved⟩ := Option.map_eq_some_iff.mp stepped
    cases moved
    exact .write taken _
  · obtain ⟨⟨writer, worker⟩, inner, moved⟩ := Option.map_eq_some_iff.mp stepped
    cases moved
    exact .flush (WorkerStep.of_workerStep inner)
  · cases stepped
    exact .query _
  · obtain ⟨⟨disk, files, phase⟩, inner, moved⟩ := Option.map_eq_some_iff.mp stepped
    cases moved
    exact .compact (CompactorStep.of_compactorStep inner)
  · cases stepped
    exact .crash

/-- What a step of the writer adds to the file list. -/
theorem CompactionState.written_files (state : CompactionState) {writer : WriterState}
    {added : List (NewFileListEntry × IngestBatch)}
    (listed : writer.store.fileList = state.writer.store.fileList ++ added)
    (worker : WorkerPhase) :
    (state.written writer worker).files = state.files.registerAll added := by
  unfold CompactionState.written
  rw [listed, List.drop_left]

end

/-- A label that registers a merged file. -/
def CompactionLabel.registers : CompactionLabel → Bool
  | .compact .register => true
  | _ => false

/-- A label that marks the originals of a merged file. -/
def CompactionLabel.marks : CompactionLabel → Bool
  | .compact .markDeleted => true
  | _ => false

/-- The originals of a merged file that is registered, while they are not marked yet. -/
def CompactorPhase.unmarked : CompactorPhase → List (List Nat)
  | .merging (.counting _) job _ => [job.ids]
  | .merging .marking job _ => [job.ids]
  | _ => []

/-- The rows of originals that are not marked yet. -/
def unmarkedRows (files : FileStore) (phase : CompactorPhase) : List (List AnyRow) :=
  phase.unmarked.map fun ids => ids.flatMap files.rowsOf

/--
Behind a number of registrations and marks, the visible rows are the written ones and a copy for
each merged file whose originals were not marked.
-/
structure RowsSound (state : CompactionState) (registered marked : Nat) : Prop where
  phase : PhaseSound state.files state.compactor
  copies : ∃ stale : List (List AnyRow),
    (stale ++ unmarkedRows state.files state.compactor).length + marked = registered ∧
      (∀ rows ∈ stale, rows ≠ []) ∧
      state.files.visibleRows.Perm (state.writer.store.storedRows ++
        (stale ++ unmarkedRows state.files state.compactor).flatten)

section

variable {files next : FileStore} {phase : CompactorPhase}

/-- Only a registered merge has originals that are not marked. -/
theorem unmarked_cases (phase : CompactorPhase) :
    phase.unmarked = [] ∨ ∃ stage job groups, phase = .merging stage job groups ∧
      (stage = .marking ∨ ∃ entry, stage = .counting entry) ∧ phase.unmarked = [job.ids] := by
  -- Only between registration and marking do both copies of the rows count.
  cases phase with
  | idle | scanned | stopped => exact .inl rfl
  | merging stage job groups =>
    cases stage with
    | reading | writing | registering => exact .inl rfl
    | counting entry => exact .inr ⟨_, job, groups, rfl, .inr ⟨entry, rfl⟩, rfl⟩
    | marking => exact .inr ⟨_, job, groups, rfl, .inl rfl, rfl⟩

/-- No copy is empty. -/
theorem unmarkedRows_nonempty (sound : PhaseSound files phase) :
    ∀ rows ∈ unmarkedRows files phase, rows ≠ [] := by
  -- A merge is entered only with files that hold rows.
  unfold unmarkedRows
  rcases unmarked_cases phase with none | ⟨stage, job, groups, here, late, one⟩
  · simp [none]
  · have known := sound.stage stage job groups here
    rw [one]
    simp only [List.map_cons, List.map_nil, List.mem_singleton, forall_eq]
    rcases late with rfl | ⟨entry, rfl⟩
    · exact known
    · exact known

/-- The copies stay what they are while the file list changes. -/
theorem unmarkedRows_mono (sound : PhaseSound files phase) {dropped : List Nat}
    (change : files.Extends next dropped) : unmarkedRows next phase = unmarkedRows files phase := by
  -- The snapshot of the merge names files whose rows do not change any more.
  unfold unmarkedRows
  rcases unmarked_cases phase with none | ⟨stage, job, groups, here, _, one⟩
  · simp [none]
  · have own : SnapshotSound files job.files := by
      have whole := sound.snapshot
      rw [here] at whole
      exact whole.sublist (List.sublist_append_left _ _)
    rw [one]
    exact congrArg (fun rows => [rows]) (own.flatMap_rowsOf change)

end

namespace RowsSound

variable {config : CompactorConfig} {env : WriterEnv} {state next : CompactionState}
  {registered marked : Nat}

/-- The visible rows are the written ones exactly when every merge was finished. -/
theorem rowsKept_iff (sound : RowsSound state registered marked) :
    state.RowsKept ↔ registered = marked := by
  obtain ⟨stale, count, some, visible⟩ := sound.copies
  have filled : ∀ rows ∈ stale ++ unmarkedRows state.files state.compactor, rows ≠ [] := by
    intro rows listed
    rcases List.mem_append.mp listed with old | current
    · exact some rows old
    · exact unmarkedRows_nonempty sound.phase rows current
  generalize stale ++ unmarkedRows state.files state.compactor = copies at count visible filled
  unfold CompactionState.RowsKept
  constructor
  · intro kept
    -- Rows beyond the written ones would make the lists differ in length.
    have length := (kept.symm.trans visible).length_eq
    rw [List.length_append] at length
    have empty : copies.flatten = [] := List.eq_nil_of_length_eq_zero (by omega)
    have none : copies = [] := by
      apply List.eq_nil_iff_forall_not_mem.mpr
      intro rows listed
      exact filled rows listed (List.flatten_eq_nil_iff.mp empty rows listed)
    rw [none, List.length_nil, Nat.zero_add] at count
    exact count.symm
  · intro same
    have none : copies = [] := List.eq_nil_of_length_eq_zero (by omega)
    rw [none, List.flatten_nil, List.append_nil] at visible
    exact visible

/-- A step of the writer adds the same rows on both sides. -/
theorem written (sound : RowsSound state registered marked) {writer : WriterState}
    {origin : NewFileListEntry × IngestBatch → Prop}
    (adds : Adds state.writer.store writer.store origin) (worker : WorkerPhase) :
    RowsSound (state.written writer worker) registered marked := by
  obtain ⟨added, listed, _⟩ := adds
  obtain ⟨stale, count, some, visible⟩ := sound.copies
  have files := state.written_files listed worker
  have change := state.files.extends_registerAll added
  have same := unmarkedRows_mono sound.phase change
  constructor
  · rw [files]
    exact sound.phase.mono change
  · refine ⟨stale, ?_, some, ?_⟩
    · rw [files]
      show (stale ++ unmarkedRows (state.files.registerAll added) state.compactor).length + marked =
        registered
      rw [same]
      exact count
    · rw [files, FileStore.visibleRows_registerAll]
      show (state.files.visibleRows ++ added.flatMap fun file => file.2.rows).Perm
        ((writer.store.fileList.flatMap fun file => file.2.rows) ++
          (stale ++ unmarkedRows (state.files.registerAll added) state.compactor).flatten)
      rw [same, listed, List.flatMap_append, List.append_assoc]
      -- The new rows stand in front of the copies on one side, and behind them on the other.
      refine (visible.append_right _).trans ?_
      rw [List.append_assoc]
      exact List.perm_append_comm.append_left _

/-- A merge that is given up leaves its copy behind for good. -/
theorem abandoned (sound : RowsSound state registered marked)
    (writer : next.writer.store.storedRows = state.writer.store.storedRows)
    (files : next.files = state.files) (phase : PhaseSound next.files next.compactor)
    (given : next.compactor.unmarked = []) : RowsSound next registered marked := by
  -- What was registered and not marked stays behind as a stale copy.
  obtain ⟨stale, count, some, visible⟩ := sound.copies
  have none : unmarkedRows next.files next.compactor = [] := by simp [unmarkedRows, given]
  refine ⟨phase, stale ++ unmarkedRows state.files state.compactor, ?_, ?_, ?_⟩
  · rw [none, List.append_nil]
    exact count
  · intro rows listed
    rcases List.mem_append.mp listed with old | current
    · exact some rows old
    · exact unmarkedRows_nonempty sound.phase rows current
  · rw [none, List.append_nil, files, writer]
    exact visible

/-- A merged file that is registered is one more copy of the rows of its originals. -/
theorem registered_copy {writer : WriterState} {worker : WorkerPhase} {files : FileStore}
    {entry : NewFileListEntry} {merged : IngestBatch} {job : MergeJob}
    {groups : List (List FileListEntry)} {disk : ParquetStore}
    (sound : RowsSound ⟨writer, worker, files, .merging (.registering entry merged) job groups⟩
      registered marked)
    (same : disk.fileList = writer.store.fileList)
    (phase : PhaseSound (files.register entry merged) (.merging (.counting entry) job groups)) :
    RowsSound ⟨{ writer with store := disk }, worker, files.register entry merged,
      .merging (.counting entry) job groups⟩ (registered + 1) marked := by
  obtain ⟨stale, count, some, visible⟩ := sound.copies
  obtain ⟨rows, _, _⟩ := sound.phase.stage _ _ _ rfl
  have own : SnapshotSound files job.files :=
    sound.phase.snapshot.sublist (List.sublist_append_left _ _)
  -- The merged file holds the rows of its inputs once more.
  have copy : unmarkedRows (files.register entry merged) (.merging (.counting entry) job groups) =
      [merged.rows] :=
    congrArg (fun rows => [rows])
      ((own.flatMap_rowsOf (files.extends_register entry merged)).trans rows.symm)
  -- Before the registration there was no second copy.
  have before : unmarkedRows files (.merging (.registering entry merged) job groups) = [] := rfl
  simp only [before, List.append_nil] at count visible
  refine ⟨phase, stale, ?_, some, ?_⟩
  · simp only [copy, List.length_append, List.length_cons, List.length_nil]
    omega
  · simp only [copy, FileStore.visibleRows_register, ParquetStore.storedRows, same,
      List.flatten_append, List.flatten_cons, List.flatten_nil, List.append_nil]
    rw [← List.append_assoc]
    exact visible.append_right _

/-- Marking the originals takes the copy away again. -/
theorem marked_copy {writer : WriterState} {worker : WorkerPhase} {files : FileStore}
    {job : MergeJob} {groups : List (List FileListEntry)} {nowUs : Int64}
    (sound : RowsSound ⟨writer, worker, files, .merging .marking job groups⟩ registered marked)
    (phase : PhaseSound (files.markDeleted job.ids nowUs) (.scanned groups)) :
    RowsSound ⟨writer, worker, files.markDeleted job.ids nowUs, .scanned groups⟩ registered
      (marked + 1) := by
  obtain ⟨stale, count, some, visible⟩ := sound.copies
  have own : SnapshotSound files job.files :=
    sound.phase.snapshot.sublist (List.sublist_append_left _ _)
  have copy : unmarkedRows files (.merging .marking job groups) = [job.ids.flatMap files.rowsOf] :=
    rfl
  have after : unmarkedRows (files.markDeleted job.ids nowUs) (.scanned groups) = [] := rfl
  simp only [copy, List.length_append, List.length_cons, List.length_nil, List.flatten_append,
    List.flatten_cons, List.flatten_nil, List.append_nil] at count visible
  -- What the mark hides is what the merged file shows a second time.
  have hidden := files.visibleRows_markDeleted own.distinct own.liveIds nowUs
  refine ⟨phase, stale, ?_, some, ?_⟩
  · simp only [after, List.append_nil]
    omega
  · simp only [after, List.append_nil]
    rw [← List.append_assoc] at visible
    exact (List.perm_append_right_iff _).mp (hidden.symm.trans visible)

/-- A step of the system changes the copies as its label says. -/
theorem step {label : CompactionLabel} (sound : RowsSound state registered marked)
    (stepped : CompactionStep config env state label next) :
    RowsSound next (registered + label.registers.toNat) (marked + label.marks.toNat) := by
  cases stepped with
  | write taken faults =>
    rename_i batch position part
    -- The faults ahead are no part of what is registered.
    have adds : Adds state.writer.store
        (writePartitionOwned env part (withFaults state.writer faults)).1.store _ :=
      writePartitionOwned_adds env part (withFaults state.writer faults)
    exact sound.written adds _
  | flush stepped => exact sound.written stepped.adds _
  | query filter => exact sound
  | crash => exact sound.abandoned rfl rfl (.idle _) rfl
  | compact stepped =>
    obtain ⟨writer, worker, files, compactor⟩ := state
    have phase := sound.phase.step stepped
    cases stepped with
    | scan cutoffUs => exact sound.abandoned rfl rfl phase rfl
    | finish position => exact sound.abandoned rfl rfl phase rfl
    | nextGroup taken =>
      refine sound.abandoned rfl rfl phase ?_
      -- A group that was just begun has registered nothing.
      rcases unmarked_cases _ with none | ⟨stage, job, rest, here, late, _⟩
      · exact none
      · have early := beginGroup_stage here
        rcases late with rfl | ⟨entry, rfl⟩
        · cases early
        · cases early
    | read joined => exact sound.abandoned rfl rfl phase rfl
    | leave job groups => exact sound.abandoned rfl rfl phase rfl
    | writeFile job groups merged same =>
      exact sound.abandoned (congrArg (fun files => files.flatMap fun file => file.2.rows) same)
        rfl phase rfl
    | register job groups entry merged same => exact sound.registered_copy same phase
    | upsertStreamStats job groups entry same =>
      obtain ⟨stale, count, some, visible⟩ := sound.copies
      refine ⟨phase, stale, count, some, ?_⟩
      simp only [ParquetStore.storedRows, same]
      exact visible
    | markDeleted job groups => exact sound.marked_copy phase
    | fail stage job groups => exact sound.abandoned rfl rfl phase rfl

/-- A run changes the copies as its labels say. -/
theorem run {flushIntervalSecs : Nat} {labels : List CompactionLabel} {final : CompactionState}
    (sound : RowsSound state registered marked)
    (reached : Zradar.run (compactionStep config env flushIntervalSecs) state labels = some final) :
    RowsSound final (registered + labels.countP CompactionLabel.registers)
      (marked + labels.countP CompactionLabel.marks) := by
  -- Registrations and marks are counted label by label, as the steps are taken.
  induction labels generalizing state registered marked with
  | nil =>
    cases reached
    exact sound
  | cons label labels ih =>
    simp only [Zradar.run] at reached
    cases stepped : compactionStep config env flushIntervalSecs state label with
    | none => simp [stepped] at reached
    | some next =>
      simp only [stepped] at reached
      have later := ih (sound.step (CompactionStep.of_compactionStep stepped)) reached
      have count (test : CompactionLabel → Bool) (before : Nat) :
          before + (label :: labels).countP test =
            before + (test label).toNat + labels.countP test := by
        rw [List.countP_cons, Nat.add_assoc, Nat.add_comm (labels.countP test)]
        cases test label <;> rfl
      rw [count, count]
      exact later

end RowsSound

/--
Compactions keep the rows that queries see in one state exactly when every merged file registered
so far has had its originals marked, and they keep them throughout a run exactly when the run
registers no merged file.
-/
theorem compaction_keeps_rows_iff (config : CompactorConfig) (env : WriterEnv)
    (flushIntervalSecs : Nat) {start final : CompactionState} {labels : List CompactionLabel}
    (idle : start.compactor = .idle) (before : start.RowsKept)
    (reached : run (compactionStep config env flushIntervalSecs) start labels = some final) :
    (final.RowsKept ↔
        labels.countP CompactionLabel.registers = labels.countP CompactionLabel.marks) ∧
      ((∀ taken middle,
          run (compactionStep config env flushIntervalSecs) start (labels.take taken) =
            some middle → middle.RowsKept) ↔
        ∀ label ∈ labels, label.registers = false) := by
  have initial : RowsSound start 0 0 := by
    have none : unmarkedRows start.files start.compactor = [] := by rw [idle]; rfl
    refine ⟨idle ▸ PhaseSound.idle start.files, [], by simp [none], by simp, ?_⟩
    unfold CompactionState.RowsKept at before
    simpa [none] using before
  have behind {some : List CompactionLabel} {middle : CompactionState}
      (arrived : run (compactionStep config env flushIntervalSecs) start some = .some middle) :
      RowsSound middle (some.countP CompactionLabel.registers)
        (some.countP CompactionLabel.marks) := by
    simpa using initial.run arrived
  refine ⟨(behind reached).rowsKept_iff, ?_, ?_⟩
  · intro always label listed
    obtain ⟨position, inside, rfl⟩ := List.getElem_of_mem listed
    -- The states on both sides of the label would have to be finished.
    have finished (taken : Nat) : (labels.take taken).countP CompactionLabel.registers =
        (labels.take taken).countP CompactionLabel.marks := by
      obtain ⟨middle, arrived⟩ := run_take reached taken
      exact (behind arrived).rowsKept_iff.mp (always taken middle arrived)
    have early := finished position
    have late := finished (position + 1)
    rw [List.take_succ_eq_append_getElem inside, List.countP_append, List.countP_append, early]
      at late
    cases registers : labels[position].registers with
    | false => rfl
    | true =>
      have marks : labels[position].marks = false := by
        unfold CompactionLabel.registers at registers
        split at registers
        · rename_i here
          rw [here]
          rfl
        · cases registers
      simp [registers, marks] at late
  · intro none taken middle arrived
    have sound := behind arrived
    have zero : (labels.take taken).countP CompactionLabel.registers = 0 := by
      apply List.countP_eq_zero.mpr
      intro label listed
      simp [none label (List.mem_of_mem_take listed)]
    -- There are never more marks than registrations.
    obtain ⟨stale, count, _, _⟩ := sound.copies
    exact sound.rowsKept_iff.mpr (by omega)

/-- Two small files are enough for a merge. -/
def pairConfig : CompactorConfig := ⟨2, 1000⟩

/-- Two files of one bucket are written for two services, and a merge of the two is begun. -/
def beginMerge (first second : String) : List CompactionLabel := [
  .write (.logs [logAt Uuid.nil.toText first 10]) 0 [],
  .write (.logs [logAt Uuid.nil.toText second 10]) 0 [],
  .compact (.scan 1), .compact (.nextGroup 0), .compact .read, .compact .writeFile]

/-- The merge is registered and its originals are marked. -/
def mergeLabels (first second : String) : List CompactionLabel :=
  beginMerge first second ++
    [.compact .register, .compact .upsertStreamStats, .compact .markDeleted]

/-- The statistics of the merged file fail, and the merge ends there. -/
def failMerge : List CompactionLabel :=
  beginMerge "api" "web" ++ [.compact .register, .compact .fail]

/-- A merge that is finished leaves the visible rows as they were. -/
theorem finished_merge_keeps_rows :
    ∃ final, run (compactionStep pairConfig firstDayEnv 1) (initialSystem none)
        (mergeLabels "api" "web") = some final ∧ final.RowsKept := by
  -- The run registers one merged file and marks its inputs.
  have arrives : (run (compactionStep pairConfig firstDayEnv 1) (initialSystem none)
      (mergeLabels "api" "web")).isSome := by decide +kernel
  obtain ⟨final, reached⟩ := Option.isSome_iff_exists.mp arrives
  have before : (initialSystem none).RowsKept := List.Perm.nil
  exact ⟨final, reached,
    (compaction_keeps_rows_iff pairConfig firstDayEnv 1 rfl before reached).1.mpr (by decide)⟩

/-- A merge whose statistics fail shows every row twice. -/
theorem failed_merge_doubles_rows :
    ¬ ∀ (config : CompactorConfig) (env : WriterEnv) (flushIntervalSecs : Nat)
      (start final : CompactionState) (labels : List CompactionLabel),
      start.compactor = .idle → start.RowsKept →
        run (compactionStep config env flushIntervalSecs) start labels = some final →
          final.RowsKept := by
  -- The run registers the merged file and fails before it marks the inputs.
  intro claim
  have lengths : (run (compactionStep pairConfig firstDayEnv 1) (initialSystem none) failMerge).map
      (fun state => (state.files.visibleRows.length, state.writer.store.storedRows.length)) =
        some (4, 2) := by decide +kernel
  obtain ⟨final, reached, counted⟩ := Option.map_eq_some_iff.mp lengths
  have kept := claim pairConfig firstDayEnv 1 (initialSystem none) final failMerge rfl
    List.Perm.nil reached
  have same := kept.length_eq
  simp only [Prod.mk.injEq] at counted
  omega

end Zradar.Parquet
