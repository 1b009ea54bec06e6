import Zradar.Runtime.Retry
import Zradar.Wal.Drain

/-! From the WAL to the registered files: when a saved checkpoint covers stored rows only. -/

namespace Zradar.Runtime

open Wal Parquet

/-- What the pipeline is configured with. -/
structure PipelineConfig where
  crc : Bytes → UInt32
  segmentMaxBytes : Nat
  env : WriterEnv
  serde : SerdeJson
  flushIntervalSecs : Nat

/-- A WAL with its flusher, the sink it calls, and the writer and worker behind the sink. -/
structure PipelineState where
  drain : DrainState
  writer : WriterState
  /-- The partitions that are still to be written, while the sink runs. -/
  sink : Option (List (PartitionKey × IngestBatch))
  worker : WorkerPhase

/-- What a crash leaves of a pipeline, and which records had been written. -/
structure CrashedDisk where
  checkpoint : Option Checkpoint
  store : ParquetStore
  written : List (Nat × WalRecord)

/-- A running pipeline, or what a crash has left of it. -/
inductive Pipeline where
  | running (state : PipelineState)
  | crashed (disk : CrashedDisk)

/-- One step of the pipeline. -/
inductive PipelineLabel where
  /-- A step of a producer, of the flusher or of the janitor. -/
  | drain (label : DrainLabel)
  /-- The sink collects the rows of its batch. -/
  | sinkBegin
  /-- The sink writes one partition, while some of the steps on the store fail. -/
  | sinkWrite (faults : List Bool)
  | sinkReturn
  | worker (label : WorkerLabel)
  | tick
  /-- A crash, and how far the writes in progress have come. -/
  | crash (sinkFaults workerFaults : List Bool)

/-- The store behind a crash, with what the interrupted writes had done. -/
def PipelineState.interrupted (config : PipelineConfig) (state : PipelineState)
    (sinkFaults workerFaults : List Bool) : ParquetStore :=
  let sunk :=
    match state.sink with
    | some (unit :: _) =>
      (writePartitionOwned config.env unit (withFaults state.writer sinkFaults)).1
    | _ => state.writer
  match state.worker with
  | .writing _ ((key, slot) :: _) =>
    (flushOne config.env key slot.data (withFaults sunk workerFaults).store).1
  | _ => sunk.store

/-- One step of the pipeline, if it is enabled. -/
def pipelineStep (config : PipelineConfig) : Pipeline → PipelineLabel → Option Pipeline
  -- Whether the sink accepts a batch is decided by the steps of the sink.
  | .running _, .drain .sinkOk => none
  | .running _, .drain .sinkErr => none
  | .running state, .drain label =>
    (drainStep config.crc config.segmentMaxBytes state.drain label).map fun drain =>
      .running { state with drain := drain }
  | .running state, .sinkBegin =>
    match state.drain.flusher, state.sink with
    | .handing _ _ batch, none =>
      some (.running { state with
        sink := some (partitionsOf config.env config.serde batch.records) })
    | _, _ => none
  | .running state, .sinkWrite faults =>
    match state.sink with
    | some (unit :: todo) =>
      match writePartitionOwned config.env unit (withFaults state.writer faults) with
      | (writer, .ok ()) => some (.running { state with writer := writer, sink := some todo })
      | (writer, .error _) =>
        (drainStep config.crc config.segmentMaxBytes state.drain .sinkErr).map fun drain =>
          .running { state with drain := drain, writer := writer, sink := none }
    | _ => none
  | .running state, .sinkReturn =>
    match state.sink with
    | some [] =>
      (drainStep config.crc config.segmentMaxBytes state.drain .sinkOk).map fun drain =>
        .running { state with drain := drain, sink := none }
    | _ => none
  | .running state, .worker label =>
    (workerStep config.env config.flushIntervalSecs state.writer state.worker label).map
      fun stepped => .running { state with writer := stepped.1, worker := stepped.2 }
  | .running state, .tick =>
    some (.running { state with writer := { state.writer with clock := state.writer.clock + 1 } })
  | .running state, .crash sinkFaults workerFaults =>
    some (.crashed
      { checkpoint := state.drain.checkpoint
        store := state.interrupted config sinkFaults workerFaults
        written := state.drain.wal.written })
  | .crashed _, _ => none

/-- The envelope of a record is well formed, and every row in it can be read. -/
structure Readable (serde : SerdeJson) (record : WalRecord) : Prop where
  envelope : ∀ error, decodeBatch record.payload ≠ .error error
  rows : ∀ raw ∈ payloadRows record.payload,
    ∃ row : RowOf record.signalType, readRow serde raw = some row

/-- Every row of a record is among the given ones. -/
structure RecordStored (serde : SerdeJson) (stored : List AnyRow) (record : WalRecord) : Prop where
  envelope : ∀ error, decodeBatch record.payload ≠ .error error
  rows : ∀ raw ∈ payloadRows record.payload, ∃ row : RowOf record.signalType,
    readRow serde raw = some row ∧ anyRow record.signalType row ∈ stored

/-- Every row of every written record that the checkpoint covers is in a registered file. -/
def CoveredStored (serde : SerdeJson) (checkpoint : Option Checkpoint)
    (written : List (Nat × WalRecord)) (store : ParquetStore) : Prop :=
  ∀ entry ∈ written, covers checkpoint entry.1 entry.2.assignedOffset →
    RecordStored serde store.storedRows entry.2

/-- Checkpointed means stored, in a running pipeline and behind a crash. -/
def CheckpointStored (serde : SerdeJson) : Pipeline → Prop
  | .running state =>
    CoveredStored serde state.drain.checkpoint state.drain.wal.written state.writer.store
  | .crashed disk => CoveredStored serde disk.checkpoint disk.written disk.store

/-- The steps that keep the checkpoint behind the registered files. -/
def StoredGuard (config : PipelineConfig) : Pipeline → PipelineLabel → Prop
  | .running state, .drain .saveOk =>
    -- The checkpoint is saved only when no row is left in memory.
    state.writer.buffer ≠ none → heldRows state.writer state.worker = []
  | .running state, .drain label =>
    OrderedWrite config.crc config.segmentMaxBytes state.drain label ∧
      (label = .append .finishWrite →
        ∀ held ∈ state.drain.wal.lock, Readable config.serde held.1)
  | .running _, .worker label => Registers label
  | _, _ => True

/-- The rows that the sink reads from a record. -/
def recordRows (serde : SerdeJson) (record : WalRecord) : List AnyRow :=
  ((payloadRows record.payload).filterMap (readRow serde)).map (anyRow record.signalType)

/-- The rows that are in registered files, or in memory on their way there. -/
def PipelineState.Keeps (state : PipelineState) (row : AnyRow) : Prop :=
  row ∈ heldRows state.writer state.worker ∨ row ∈ state.writer.store.storedRows

/-- What holds while the sink runs: the rows of the batch are kept, or still to be written. -/
structure SinkSound (config : PipelineConfig) (state : PipelineState)
    (todo : List (PartitionKey × IngestBatch)) : Prop where
  nonempty : ∀ unit ∈ todo, unit.2.rows ≠ []
  handing : ∃ pass rest batch, state.drain.flusher = .handing pass rest batch ∧
    ∀ record ∈ batch.records, ∀ row ∈ recordRows config.serde record,
      state.Keeps row ∨ row ∈ todo.flatMap fun unit => unit.2.rows

/-- What every step under the guard keeps true. -/
structure PipelineState.Sound (config : PipelineConfig) (state : PipelineState) : Prop where
  drain : state.drain.Sound config.crc
  buffer : BufferSound state.writer state.worker
  readable : ∀ entry ∈ state.drain.wal.written, Readable config.serde entry.2
  /-- The rows of an accepted batch are kept. -/
  accepted : ∀ entry ∈ state.drain.delivered, ∀ row ∈ recordRows config.serde entry.2,
    state.Keeps row
  covered : CoveredStored config.serde state.drain.checkpoint state.drain.wal.written
    state.writer.store
  sink : ∀ todo ∈ state.sink, SinkSound config state todo

theorem RecordStored.mono {serde : SerdeJson} {stored more : List AnyRow} {record : WalRecord}
    (holds : RecordStored serde stored record) (kept : ∀ row ∈ stored, row ∈ more) :
    RecordStored serde more record := by
  refine ⟨holds.envelope, ?_⟩
  intro raw member
  obtain ⟨row, read, inside⟩ := holds.rows raw member
  exact ⟨row, read, kept _ inside⟩

/-- A readable record is stored when the rows that the sink reads from it are. -/
theorem Readable.recordStored {serde : SerdeJson} {record : WalRecord} {stored : List AnyRow}
    (readable : Readable serde record) (kept : ∀ row ∈ recordRows serde record, row ∈ stored) :
    RecordStored serde stored record := by
  refine ⟨readable.envelope, ?_⟩
  intro raw member
  obtain ⟨row, read⟩ := readable.rows raw member
  refine ⟨row, read, kept _ ?_⟩
  exact List.mem_map_of_mem (List.mem_filterMap.mpr ⟨raw, member, read⟩)

/-- What the sink reads from a record is among the rows of every batch with that record. -/
theorem recordRows_subset {serde : SerdeJson} {records : List WalRecord} {record : WalRecord}
    (member : record ∈ records) : ∀ row ∈ recordRows serde record, row ∈ batchRows serde records := by
  intro row inside
  obtain ⟨own, read, rfl⟩ := List.mem_map.mp inside
  apply SinkRows.mem_batches
  rw [collectRows, get_foldl_pushRecord]
  apply List.mem_append_right
  -- The records of the same signal include this one.
  refine List.mem_flatMap.mpr ⟨record, List.mem_filter.mpr ⟨member, decide_eq_true rfl⟩, read⟩

namespace PipelineState.Sound

variable {config : PipelineConfig} {state : PipelineState} {writer : WriterState}
  {worker : WorkerPhase}

/-- Rows stay kept when the storage below the pipeline only moves them along. -/
theorem keeps_of_keepsRows (kept : KeepsRows state.writer writer state.worker worker)
    {row : AnyRow} (keeps : state.Keeps row) :
    ({ state with writer := writer, worker := worker } : PipelineState).Keeps row := by
  rcases keeps with held | stored
  · exact kept.held row held
  · exact Or.inr (kept.stored row stored)

/-- Moving rows along below a running pipeline keeps it sound. -/
theorem moveRows (sound : state.Sound config)
    (kept : KeepsRows state.writer writer state.worker worker) (buffer : BufferSound writer worker) :
    ({ state with writer := writer, worker := worker } : PipelineState).Sound config := by
  -- Rows only move between the buffer, the worker and the store.
  refine { sound with buffer := buffer, accepted := ?_, covered := ?_, sink := ?_ }
  · intro entry member row inside
    exact keeps_of_keepsRows kept (sound.accepted entry member row inside)
  · intro entry member covered
    exact (sound.covered entry member covered).mono kept.stored
  · intro todo running
    obtain ⟨nonempty, pass, rest, batch, phase, rows⟩ := sound.sink todo running
    refine ⟨nonempty, pass, rest, batch, phase, ?_⟩
    intro record member row inside
    exact (rows record member row inside).imp_left (keeps_of_keepsRows kept)

/-- A record that the new state covers was accepted by the sink. -/
theorem delivered_of_covered {drain : DrainState} (holds : drain.Sound config.crc)
    {entry : Nat × WalRecord} (written : entry ∈ drain.wal.written)
    (covered : covers drain.checkpoint entry.1 entry.2.assignedOffset) :
    entry ∈ drain.delivered := by
  by_contra undelivered
  exact holds.uncovered entry ⟨written, undelivered⟩ covered

/-- Saving a checkpoint is safe once no row is in memory only. -/
theorem saveOk (sound : state.Sound config) (empty : heldRows state.writer state.worker = [])
    {drain : DrainState} (holds : drain.Sound config.crc)
    (effect : DrainEffect state.drain drain .saveOk) :
    CoveredStored config.serde drain.checkpoint drain.wal.written state.writer.store := by
  intro entry member covered
  have old : entry ∈ state.drain.wal.written := by
    rcases effect.written entry member with old | ⟨other, _⟩
    · exact old
    · cases other
  refine (sound.readable entry old).recordStored ?_
  -- The record was accepted, so its rows are kept, and nothing keeps them but the files.
  have accepted := delivered_of_covered holds member covered
  rw [effect.delivered] at accepted
  intro row inside
  rcases sound.accepted entry accepted row inside with held | stored
  · rw [empty] at held
    cases held
  · exact stored

/-- Without a buffer no row is in memory only. -/
theorem held_direct (sound : state.Sound config) (direct : state.writer.buffer = none) :
    heldRows state.writer state.worker = [] := by
  rw [heldRows, WriterState.bufferedRows, direct, sound.buffer.idle direct]
  rfl

theorem drainStep (sound : state.Sound config) {label : DrainLabel} {drain : DrainState}
    (accepts : label ≠ .sinkOk) (refuses : label ≠ .sinkErr)
    (ordered : OrderedWrite config.crc config.segmentMaxBytes state.drain label)
    (readable : label = .append .finishWrite →
      ∀ held ∈ state.drain.wal.lock, Readable config.serde held.1)
    (saves : label = .saveOk → heldRows state.writer state.worker = [])
    (stepped : Wal.drainStep config.crc config.segmentMaxBytes state.drain label = some drain) :
    ({ state with drain := drain } : PipelineState).Sound config := by
  have effect := drainStep_effect accepts refuses stepped
  have holds := sound.drain.step ordered stepped
  refine ⟨holds, sound.buffer, ?_, ?_, ?_, ?_⟩
  · intro entry member
    rcases effect.written entry member with old | ⟨finishes, _, rest, locked⟩
    · exact sound.readable entry old
    · exact readable finishes (entry.2, rest) locked
  · intro entry member
    exact sound.accepted entry (effect.delivered ▸ member)
  · by_cases saving : label = .saveOk
    · subst saving
      exact sound.saveOk (saves rfl) holds effect
    · have same := effect.checkpoint.resolve_right saving
      intro entry member covered
      rw [same] at covered
      rcases effect.written entry member with old | ⟨rfl, here, rest, locked⟩
      · exact sound.covered entry old covered
      · -- A record that is written now is not covered.
        exact absurd (here ▸ covered) (ordered (entry.2, rest) locked).1
  · intro todo running
    obtain ⟨nonempty, pass, rest, batch, phase, rows⟩ := sound.sink todo running
    exact ⟨nonempty, pass, rest, batch, (effect.waits pass rest batch phase).trans phase, rows⟩

theorem sinkBegin (sound : state.Sound config) {pass : FlushPass} {rest : List Nat}
    {batch : FlushBatch} (phase : state.drain.flusher = .handing pass rest batch) :
    ({ state with sink := some (partitionsOf config.env config.serde batch.records) } :
      PipelineState).Sound config := by
  refine { sound with sink := ?_ }
  intro todo running
  cases Option.mem_some.mp running
  refine ⟨partitionsOf_nonempty config.env config.serde batch.records, pass, rest, batch, phase, ?_⟩
  -- The partitions hold the rows of the whole batch.
  intro record member row inside
  have rows := partitionsOf_rows config.env config.serde batch.records
  exact Or.inr (rows.mem_iff.mpr (recordRows_subset member row inside))

/-- Writing a partition moves no row out of the storage. -/
theorem keepsRows_of_partition {unit : PartitionKey × IngestBatch} {faults : List Bool}
    {result : Except String Unit} (sound : state.Sound config) (some : unit.2.rows ≠ [])
    (written : writePartitionOwned config.env unit (withFaults state.writer faults) =
      (writer, result)) :
    KeepsRows state.writer writer state.worker state.worker ∧ BufferSound writer state.worker ∧
      (result = .ok () → ∀ row ∈ unit.2.rows,
        row ∈ writer.bufferedRows ∨ row ∈ writer.store.storedRows) := by
  -- Faults do not change what was stored or buffered before.
  have start : BufferSound (withFaults state.writer faults) state.worker :=
    ⟨sound.buffer.idle, sound.buffer.tagged⟩
  obtain ⟨kept, buffer⟩ := writePartitionOwned_kept some start written
  refine ⟨⟨kept.stored, ?_⟩, buffer, kept.accepted⟩
  intro row member
  left
  rcases List.mem_append.mp member with buffered | taken
  · exact List.mem_append_left _ (kept.buffered row buffered)
  · exact List.mem_append_right _ taken

theorem sinkWrite_ok (sound : state.Sound config) {unit : PartitionKey × IngestBatch}
    {todo : List (PartitionKey × IngestBatch)} (running : state.sink = some (unit :: todo))
    {faults : List Bool}
    (written : writePartitionOwned config.env unit (withFaults state.writer faults) =
      (writer, .ok ())) :
    ({ state with writer := writer, sink := some todo } : PipelineState).Sound config := by
  obtain ⟨nonempty, pass, rest, batch, phase, rows⟩ := sound.sink _ running
  obtain ⟨kept, buffer, accepted⟩ :=
    sound.keepsRows_of_partition (nonempty unit List.mem_cons_self) written
  refine { sound.moveRows kept buffer with sink := ?_ }
  intro left running
  cases Option.mem_some.mp running
  refine ⟨fun other member => nonempty other (List.mem_cons_of_mem _ member), pass, rest, batch,
    phase, ?_⟩
  intro record member row inside
  rcases rows record member row inside with keeps | later
  · exact Or.inl (keeps_of_keepsRows kept keeps)
  · rw [List.flatMap_cons, List.mem_append] at later
    rcases later with own | later
    · -- The rows of the partition have just been accepted.
      left
      rcases accepted rfl row own with buffered | stored
      · exact Or.inl (List.mem_append_left _ buffered)
      · exact Or.inr stored
    · exact Or.inr later

theorem sinkWrite_error (sound : state.Sound config) {unit : PartitionKey × IngestBatch}
    {todo : List (PartitionKey × IngestBatch)} (running : state.sink = some (unit :: todo))
    {faults : List Bool} {error : String} {drain : DrainState}
    (written : writePartitionOwned config.env unit (withFaults state.writer faults) =
      (writer, .error error))
    (stepped : Wal.drainStep config.crc config.segmentMaxBytes state.drain .sinkErr = some drain) :
    ({ state with drain := drain, writer := writer, sink := none } : PipelineState).Sound
      config := by
  obtain ⟨nonempty, pass, rest, batch, phase, _⟩ := sound.sink _ running
  obtain ⟨kept, buffer, _⟩ :=
    sound.keepsRows_of_partition (nonempty unit List.mem_cons_self) written
  have free : OrderedWrite config.crc config.segmentMaxBytes state.drain .sinkErr := trivial
  have holds := sound.drain.step free stepped
  have moved := sound.moveRows kept buffer
  -- The flusher goes back to its loop, and the checkpoint stays where it is.
  simp only [Wal.drainStep, flusherStep, phase, Option.some.injEq] at stepped
  subst stepped
  exact { drain := holds, buffer := moved.buffer, readable := moved.readable,
          accepted := moved.accepted, covered := moved.covered, sink := by simp }

theorem sinkReturn (sound : state.Sound config) (running : state.sink = some [])
    {drain : DrainState}
    (stepped : Wal.drainStep config.crc config.segmentMaxBytes state.drain .sinkOk = some drain) :
    ({ state with drain := drain, sink := none } : PipelineState).Sound config := by
  obtain ⟨_, pass, rest, batch, phase, rows⟩ := sound.sink _ running
  have free : OrderedWrite config.crc config.segmentMaxBytes state.drain .sinkOk := trivial
  have holds := sound.drain.step free stepped
  simp only [Wal.drainStep, flusherStep, phase, Option.some.injEq] at stepped
  subst stepped
  refine { drain := holds, buffer := sound.buffer, readable := sound.readable,
           accepted := ?_, covered := sound.covered, sink := by simp }
  intro entry member
  rcases List.mem_append.mp member with old | new
  · exact sound.accepted entry old
  · -- No partition is left, so the rows of the batch are kept.
    obtain ⟨record, inside, rfl⟩ := List.mem_map.mp new
    intro row read
    rcases rows record inside row read with keeps | later
    · exact keeps
    · cases later

/-- The writes that a crash interrupts take no row out of the registered files. -/
theorem interrupted_keeps (sound : state.Sound config) (sinkFaults workerFaults : List Bool) :
    ∀ row ∈ state.writer.store.storedRows,
      row ∈ (state.interrupted config sinkFaults workerFaults).storedRows := by
  intro row member
  -- An interrupted write of the sink may have stored rows and has lost none.
  have sunk : row ∈ (match state.sink with
      | some (unit :: _) =>
        (writePartitionOwned config.env unit (withFaults state.writer sinkFaults)).1
      | _ => state.writer).store.storedRows := by
    split
    · rename_i unit todo running
      obtain ⟨nonempty, _⟩ := sound.sink _ running
      exact (sound.keepsRows_of_partition (nonempty unit List.mem_cons_self) rfl).1.stored row member
    · exact member
  rw [interrupted]
  split
  · exact flushOne_keeps config.env _ _ _ row sunk
  · exact sunk

end PipelineState.Sound

/-- What every step under the guard keeps true, with a crash at the end or without one. -/
def Pipeline.Sound (config : PipelineConfig) : Pipeline → Prop
  | .running state => state.Sound config
  | .crashed disk => CheckpointStored config.serde (.crashed disk)

theorem Pipeline.Sound.step {config : PipelineConfig} {pipeline next : Pipeline}
    {label : PipelineLabel} (sound : pipeline.Sound config)
    (guard : StoredGuard config pipeline label)
    (stepped : pipelineStep config pipeline label = some next) : next.Sound config := by
  cases pipeline with
  | crashed disk => cases label <;> cases stepped
  | running state =>
    have holds : state.Sound config := sound
    cases label with
    | drain label =>
      by_cases accepts : label = .sinkOk
      · subst accepts
        cases stepped
      by_cases refuses : label = .sinkErr
      · subst refuses
        cases stepped
      have moved : (drainStep config.crc config.segmentMaxBytes state.drain label).map
          (fun drain => Pipeline.running { state with drain := drain }) = some next := by
        cases label <;> first | exact stepped | exact absurd rfl accepts | exact absurd rfl refuses
      obtain ⟨drain, taken, rfl⟩ := Option.map_eq_some_iff.mp moved
      -- The checkpoint is saved only when no row is left in memory.
      by_cases saves : label = .saveOk
      · subst saves
        have empty : heldRows state.writer state.worker = [] := by
          by_cases direct : state.writer.buffer = none
          · exact holds.held_direct direct
          · exact guard direct
        exact holds.drainStep accepts refuses trivial nofun (fun _ => empty) taken
      · have ordered : OrderedWrite config.crc config.segmentMaxBytes state.drain label ∧
            (label = .append .finishWrite →
              ∀ held ∈ state.drain.wal.lock, Readable config.serde held.1) := by
          cases label <;> first | exact guard | exact absurd rfl saves
        exact holds.drainStep accepts refuses ordered.1 ordered.2 (fun same => absurd same saves) taken
    | sinkBegin =>
      simp only [pipelineStep] at stepped
      split at stepped
      · rename_i pass rest batch phase free
        cases stepped
        exact holds.sinkBegin phase
      · cases stepped
    | sinkWrite faults =>
      simp only [pipelineStep] at stepped
      split at stepped
      · rename_i unit todo running
        split at stepped
        · rename_i writer written
          cases stepped
          exact holds.sinkWrite_ok running written
        · rename_i writer error written
          obtain ⟨drain, taken, rfl⟩ := Option.map_eq_some_iff.mp stepped
          exact holds.sinkWrite_error running written taken
      · cases stepped
    | sinkReturn =>
      simp only [pipelineStep] at stepped
      split at stepped
      · rename_i running
        obtain ⟨drain, taken, rfl⟩ := Option.map_eq_some_iff.mp stepped
        exact holds.sinkReturn running taken
      · cases stepped
    | worker label =>
      obtain ⟨⟨writer, worker⟩, taken, rfl⟩ := Option.map_eq_some_iff.mp stepped
      have step := WorkerStep.of_workerStep taken
      exact holds.moveRows (step.keeps guard) (holds.buffer.workerStep step)
    | tick =>
      cases stepped
      exact holds.moveRows ⟨fun row member => member, fun row member => Or.inl member⟩
        ⟨holds.buffer.idle, holds.buffer.tagged⟩
    | crash sinkFaults workerFaults =>
      cases stepped
      intro entry member covered
      exact (holds.covered entry member covered).mono
        (holds.interrupted_keeps sinkFaults workerFaults)

/--
A pipeline on an opened WAL, with the checkpoint and the files that earlier processes left.

The write buffer is empty, if there is one.
-/
def PipelineState.ofOpened (config : PipelineConfig) (opened : OpenedWal)
    (checkpoint : Option Checkpoint) (store : ParquetStore) (bufferBytes : Option Nat) :
    PipelineState where
  drain := .ofOpened config.crc opened checkpoint
    ((presentRecords config.crc opened.dir).filter fun entry =>
      covers checkpoint entry.1 entry.2.assignedOffset)
  writer := ⟨store, bufferBytes.map WriteBuffer.new, 0⟩
  sink := none
  worker := .idle

/--
Checkpointed means stored, as long as no checkpoint is saved over rows that are in memory only.

The run interleaves producers, flusher, janitor, sink and flush worker, and may end in a crash.
Records are readable, writes are ordered among the flushed offsets, and no slot is dropped.
-/
theorem checkpoint_covers_stored_rows (config : PipelineConfig) (dir : WalDir)
    (sound : dir.Sound config.crc) (opened : OpenedWal)
    (started : walOpen config.crc config.segmentMaxBytes dir = .ok opened)
    (checkpoint : Option Checkpoint) (store : ParquetStore) (bufferBytes : Option Nat)
    (readable : ∀ entry ∈ presentRecords config.crc opened.dir, Readable config.serde entry.2)
    (truthful : CoveredStored config.serde checkpoint (presentRecords config.crc opened.dir) store)
    (labels : List PipelineLabel)
    (guarded : Guarded (pipelineStep config) (StoredGuard config)
      (.running (.ofOpened config opened checkpoint store bufferBytes)) labels)
    (final : Pipeline)
    (reached : run (pipelineStep config)
      (.running (.ofOpened config opened checkpoint store bufferBytes)) labels = some final) :
    CheckpointStored config.serde final := by
  have start : (PipelineState.ofOpened config opened checkpoint store bufferBytes).Sound config := by
    refine ⟨⟨.start sound started, ?_, ?_, trivial, trivial⟩, ⟨fun _ => rfl, ?_⟩, readable, ?_,
      truthful, nofun⟩
    · exact fun entry pending => (mem_presentRecords.mp pending.1).1
    · intro entry pending covered
      exact pending.2 (List.mem_filter.mpr ⟨pending.1, decide_eq_true covered⟩)
    · -- A new buffer has no slots.
      intro buffer made
      obtain ⟨bytes, _, rfl⟩ := Option.map_eq_some_iff.mp made
      exact nofun
    · -- What the checkpoint covers at the start is in the files.
      intro entry member row inside
      obtain ⟨present, covered⟩ := List.mem_filter.mp member
      obtain ⟨own, read, rfl⟩ := List.mem_map.mp inside
      obtain ⟨raw, listed, parsed⟩ := List.mem_filterMap.mp read
      obtain ⟨row, again, stored⟩ :=
        (truthful entry present (of_decide_eq_true covered)).rows raw listed
      rw [parsed] at again
      cases again
      exact Or.inr stored
  have kept : (Pipeline.running (.ofOpened config opened checkpoint store bufferBytes)).Sound config :=
    start
  have reachedSound := run_invariant
    (fun _ _ _ holds guard stepped => Pipeline.Sound.step holds guard stepped) kept guarded reached
  cases final with
  | running state => exact PipelineState.Sound.covered reachedSound
  | crashed disk => exact reachedSound

/-- A pipeline whose codec is given on a gauge reading of zero. -/
def gaugeConfig (text : Bytes) : PipelineConfig where
  crc := fun _ => 0
  segmentMaxBytes := 10000
  env := sampleEnv
  serde := gaugeCodec .zero text
  flushIntervalSecs := 1

/-- A pipeline on an empty directory, with a write buffer of one megabyte. -/
def bufferedStart (text : Bytes) : Pipeline :=
  .running (.ofOpened (gaugeConfig text) freshOpened none emptyWriter.store (some 1048576))

/-- The WAL behind the append of one gauge reading. -/
def gaugeWal (text : Bytes) : WalState :=
  ((((WalState.fresh fun _ => 0).takeOffset (gaugeRecord text)).acquire (fun _ => 0) 0
    (gaugeRecord text)).writeActive ((gaugeRecord text).serialize fun _ => 0)).finish (fun _ => 0)
      (gaugeRecord text)

/-- The partition of a gauge reading. -/
def gaugePartition : PartitionKey × IngestBatch :=
  (partitionKeyOf sampleEnv (gaugeMetric .zero), .metrics [gaugeMetric .zero])

/-- The writer behind a sink call that has put a gauge reading into the buffer. -/
def gaugeBuffered : WriterState :=
  (writePartitionOwned sampleEnv gaugePartition
    ⟨emptyWriter.store, some (.new 1048576), 0⟩).1

/-- A record is appended, and a pass of the flusher hands it to the sink. -/
def appendAndFlush (text : Bytes) : List PipelineLabel :=
  [.drain (.append (.takeOffset (gaugeRecord text))), .drain (.append (.lockWriter 0)),
    .drain (.append .finishWrite), .drain .flushLoad, .drain .flushList, .drain .flushActive,
    .drain .flushRead, .sinkBegin, .sinkWrite [], .sinkReturn]

/-- The flush worker finds the slot, takes it and writes it. -/
def drainBuffer : List PipelineLabel :=
  [.tick, .worker .drainEligible, .worker .removeSlot, .worker .removeSlot,
    .worker (.flushSlot []), .worker (.flushSlot [])]

/-- The checkpoint is saved, and the process crashes. -/
def saveAndCrash : List PipelineLabel :=
  [.drain .saveOk, .crash [] []]

/-- A pipeline with an empty buffer, at a given place of the flusher and of the sink. -/
def gaugeRunning (wal : WalState) (flusher : FlusherPhase)
    (sink : Option (List (PartitionKey × IngestBatch))) : Pipeline :=
  .running ⟨⟨wal, none, flusher, .idle, []⟩, ⟨emptyWriter.store, some (.new 1048576), 0⟩, sink,
    .idle⟩

/-- Where the pipeline stands when the sink has accepted the gauge reading. -/
def gaugeAccepted (text : Bytes) : Pipeline :=
  .running ⟨⟨gaugeWal text, none, .saving ⟨none, 0⟩ [] ⟨0, [gaugeRecord text], 0⟩, .idle,
    [(0, gaugeRecord text)]⟩, gaugeBuffered, none, .idle⟩

section

variable {text : Bytes}

theorem gaugeRecord_length : (gaugeRecord text).payload.length = 13 + text.length := by
  simp [gaugeRecord, encodeJsonRows, encodeRow, batchMagic]
  omega

theorem gaugeRecord_fits (short : text.length < 1000) : (gaugeRecord text).Fits := by
  rw [WalRecord.Fits, gaugeRecord_length]
  omega

/-- The gauge reading fits in the first segment. -/
theorem gaugeWal_room (short : text.length < 1000) :
    ¬ ((WalState.fresh fun _ => 0).takeOffset (gaugeRecord text)).rotates (fun _ => 0) 10000
      (gaugeRecord text) := by
  have size : ((WalState.fresh fun _ => 0).takeOffset (gaugeRecord text)).writer.currentSize =
      13 := rfl
  rw [WalState.rotates, size, WalRecord.serialize_length, gaugeRecord_length, recordHeaderSize]
  omega

/-- The pass reads the one record that is in the file. -/
theorem flushRead_gauge (short : text.length < 1000) :
    flushRead (fun _ => 0) (gaugeWal text).dir ⟨none, 0⟩ [0] =
      .handing ⟨none, 0⟩ [] ⟨0, [gaugeRecord text], 0⟩ := by
  have contents : (gaugeWal text).dir.contents 0 =
      segmentHeader 0 ++ (gaugeRecord text).serialize fun _ => 0 := rfl
  -- The segment holds the one record.
  have holds : HoldsRecords (fun _ => 0) 0 [gaugeRecord text] ((gaugeWal text).dir.contents 0) := by
    have fits : ∀ record ∈ [gaugeRecord text], record.Fits := by
      intro record member
      cases List.mem_singleton.mp member
      exact gaugeRecord_fits short
    rw [contents]
    simpa [segmentBytes] using holdsRecords_whole (fun _ => 0) 0 fits
  have pending : pendingRecords (fun _ => 0) (gaugeWal text).dir none 0 = [gaugeRecord text] := by
    rw [pendingRecords, holds.readable]
    rfl
  rw [flushRead_holds [] (Nat.zero_le _) List.mem_cons_self holds, pending]
  rfl

theorem partitionsOf_gauge (short : text.length < 1000) :
    partitionsOf sampleEnv (gaugeCodec .zero text) [gaugeRecord text] = [gaugePartition] := by
  rw [partitionsOf, batches_gauge (Nat.lt_trans short (by decide))]
  rfl

theorem takeOffset_gauge :
    run (pipelineStep (gaugeConfig text)) (bufferedStart text)
      [.drain (.append (.takeOffset (gaugeRecord text)))] =
        some (gaugeRunning ((WalState.fresh fun _ => 0).takeOffset (gaugeRecord text)) .idle
          none) := rfl

theorem finishWrite_gauge :
    run (pipelineStep (gaugeConfig text))
      (gaugeRunning (((WalState.fresh fun _ => 0).takeOffset (gaugeRecord text)).acquire
        (fun _ => 0) 0 (gaugeRecord text)) .idle none)
      [.drain (.append .finishWrite), .drain .flushLoad, .drain .flushList, .drain .flushActive] =
        some (gaugeRunning (gaugeWal text) (.scanning ⟨none, 0⟩ [0]) none) := rfl

theorem sinkReturn_gauge :
    run (pipelineStep (gaugeConfig text))
      (gaugeRunning (gaugeWal text) (.handing ⟨none, 0⟩ [] ⟨0, [gaugeRecord text], 0⟩)
        (some [gaugePartition])) [.sinkWrite [], .sinkReturn] = some (gaugeAccepted text) := rfl

theorem lockWriter_gauge (short : text.length < 1000) :
    pipelineStep (gaugeConfig text)
      (gaugeRunning ((WalState.fresh fun _ => 0).takeOffset (gaugeRecord text)) .idle none)
      (.drain (.append (.lockWriter 0))) =
        some (gaugeRunning (((WalState.fresh fun _ => 0).takeOffset (gaugeRecord text)).acquire
          (fun _ => 0) 0 (gaugeRecord text)) .idle none) := by
  -- There is room for the record in the active segment.
  have locked : appendStep (fun _ => 0) 10000
      ((WalState.fresh fun _ => 0).takeOffset (gaugeRecord text)) (.lockWriter 0) =
        some (((WalState.fresh fun _ => 0).takeOffset (gaugeRecord text)).acquire (fun _ => 0) 0
          (gaugeRecord text)) :=
    if_neg (gaugeWal_room short)
  show ((appendStep (fun _ => 0) 10000 _ _).map _).map _ = _
  rw [locked]
  rfl

theorem flushStep_gauge (short : text.length < 1000) :
    pipelineStep (gaugeConfig text)
      (gaugeRunning (gaugeWal text) (.scanning ⟨none, 0⟩ [0]) none) (.drain .flushRead) =
        some (gaugeRunning (gaugeWal text)
          (.handing ⟨none, 0⟩ [] ⟨0, [gaugeRecord text], 0⟩) none) := by
  show some (gaugeRunning (gaugeWal text)
    (flushRead (fun _ => 0) (gaugeWal text).dir ⟨none, 0⟩ [0]) none) = _
  rw [flushRead_gauge short]

theorem sinkBegin_gauge (short : text.length < 1000) :
    pipelineStep (gaugeConfig text)
      (gaugeRunning (gaugeWal text) (.handing ⟨none, 0⟩ [] ⟨0, [gaugeRecord text], 0⟩) none)
        .sinkBegin =
        some (gaugeRunning (gaugeWal text) (.handing ⟨none, 0⟩ [] ⟨0, [gaugeRecord text], 0⟩)
          (some [gaugePartition])) := by
  show some (gaugeRunning _ _
    (some (partitionsOf sampleEnv (gaugeCodec .zero text) [gaugeRecord text]))) = _
  rw [partitionsOf_gauge short]

/-- The sink accepts the gauge reading, which is then in the buffer. -/
theorem appendAndFlush_run (short : text.length < 1000) :
    run (pipelineStep (gaugeConfig text)) (bufferedStart text) (appendAndFlush text) =
      some (gaugeAccepted text) := by
  -- Three steps look into the record: the size check, the read and the partitioning.
  refine (run_append _ takeOffset_gauge _).trans ((run_cons (lockWriter_gauge short) _).trans ?_)
  refine (run_append _ finishWrite_gauge _).trans ((run_cons (flushStep_gauge short) _).trans ?_)
  exact (run_cons (sinkBegin_gauge short) _).trans sinkReturn_gauge

theorem gaugeRecord_readable (short : text.length < 1000) :
    Readable (gaugeCodec .zero text) (gaugeRecord text) := by
  have few : text.length < 2 ^ 32 := Nat.lt_trans short (by decide)
  -- The payload is the frame of the one row.
  have decoded : decodeBatch (gaugeRecord text).payload = .ok (some ⟨.jsonRowsV1, [text]⟩) :=
    decodeBatch_encodeJsonRows_of_lt (by simp) (by simpa using few)
  constructor
  · rw [decoded]
    exact nofun
  · intro raw member
    rw [payloadRows_gauge few] at member
    cases List.mem_singleton.mp member
    refine ⟨gaugeRow .zero, (readRow_gauge .zero text).trans ?_⟩
    exact (Row.fromJson_toJson_eq_self _ _).mpr (zero_gauge_survives text)

/-- The append is of a readable record, above everything that is flushed. -/
theorem appendAndFlush_guarded (short : text.length < 1000) :
    Guarded (pipelineStep (gaugeConfig text)) (StoredGuard (gaugeConfig text)) (bufferedStart text)
      (appendAndFlush text) := by
  -- The run is cut at the steps that are not checked by evaluation.
  have first : Guarded (pipelineStep (gaugeConfig text)) (StoredGuard (gaugeConfig text))
      (bufferedStart text) [.drain (.append (.takeOffset (gaugeRecord text)))] :=
    ⟨⟨gaugeRecord_fits short, nofun⟩, trivial⟩
  have second : Guarded (pipelineStep (gaugeConfig text)) (StoredGuard (gaugeConfig text))
      (gaugeRunning (((WalState.fresh fun _ => 0).takeOffset (gaugeRecord text)).acquire
        (fun _ => 0) 0 (gaugeRecord text)) .idle none)
      [.drain (.append .finishWrite), .drain .flushLoad, .drain .flushList,
        .drain .flushActive] := by
    refine ⟨⟨?_, ?_⟩, ⟨trivial, nofun⟩, ⟨trivial, nofun⟩, ⟨trivial, nofun⟩, trivial⟩
    · intro held locked
      exact ⟨id, nofun⟩
    · intro _ held locked
      cases locked
      exact gaugeRecord_readable short
  have third : Guarded (pipelineStep (gaugeConfig text)) (StoredGuard (gaugeConfig text))
      (gaugeRunning (gaugeWal text) (.handing ⟨none, 0⟩ [] ⟨0, [gaugeRecord text], 0⟩)
        (some [gaugePartition])) [.sinkWrite [], .sinkReturn] := ⟨trivial, trivial, trivial⟩
  refine Guarded.append takeOffset_gauge first ?_
  refine .cons (lockWriter_gauge short) ⟨Or.inl rfl, nofun⟩ ?_
  refine Guarded.append finishWrite_gauge second ?_
  refine .cons (flushStep_gauge short) ⟨trivial, nofun⟩ ?_
  exact .cons (sinkBegin_gauge short) trivial third

end

/-- The flush worker empties the buffer before the checkpoint is saved, and the row is stored. -/
theorem checkpoint_after_drain :
    ∃ final, run (pipelineStep (gaugeConfig (gaugeText "0.0"))) (bufferedStart (gaugeText "0.0"))
        (appendAndFlush (gaugeText "0.0") ++ (drainBuffer ++ saveAndCrash)) = some final ∧
      CheckpointStored (gaugeCodec .zero (gaugeText "0.0")) final := by
  -- The buffer is drained before the checkpoint is saved.
  have short : (gaugeText "0.0").length < 1000 := gaugeText_length "0.0" (by simp)
  have reached := appendAndFlush_run short
  have guarded : Guarded (pipelineStep (gaugeConfig (gaugeText "0.0")))
      (StoredGuard (gaugeConfig (gaugeText "0.0"))) (gaugeAccepted (gaugeText "0.0"))
      (drainBuffer ++ saveAndCrash) :=
    ⟨trivial, trivial, trivial, trivial, nofun, nofun, fun _ => rfl, trivial, trivial⟩
  refine ⟨_, (run_append _ reached _).trans rfl, ?_⟩
  exact checkpoint_covers_stored_rows (gaugeConfig (gaugeText "0.0")) .empty
    (WalDir.empty_sound _) freshOpened rfl none emptyWriter.store (some 1048576) nofun nofun _
    (Guarded.append reached (appendAndFlush_guarded short) guarded) _
    ((run_append _ reached _).trans rfl)

/-- A checkpoint is saved over a row that is in the write buffer only, and a crash loses the row. -/
theorem checkpoint_outruns_buffer :
    ¬ ∀ (config : PipelineConfig) (dir : WalDir), dir.Sound config.crc → ∀ opened : OpenedWal,
      walOpen config.crc config.segmentMaxBytes dir = .ok opened →
      ∀ (bufferBytes : Option Nat) (labels : List PipelineLabel) (final : Pipeline),
      run (pipelineStep config)
        (.running (.ofOpened config opened none emptyWriter.store bufferBytes)) labels =
          some final →
      CheckpointStored config.serde final := by
  intro claim
  let text := gaugeText "0.0"
  have short : text.length < 1000 := gaugeText_length "0.0" (by simp)
  have reached : run (pipelineStep (gaugeConfig text)) (bufferedStart text)
      (appendAndFlush text ++ saveAndCrash) = some (.crashed
        { checkpoint := some { lastFlushedSegmentId := 0, lastFlushedOffset := 0 }
          store := emptyWriter.store
          written := [(0, gaugeRecord text)] }) :=
    (run_append _ (appendAndFlush_run short) _).trans rfl
  have stored := claim (gaugeConfig text) .empty (WalDir.empty_sound _) freshOpened rfl
    (some 1048576) _ _ reached (0, gaugeRecord text) List.mem_cons_self
    (Or.inr ⟨rfl, UInt64.le_refl _⟩)
  -- The record has one row, and there is no row in the store.
  have rows := payloadRows_gauge (Nat.lt_trans short (by decide : 1000 < 2 ^ 32))
  obtain ⟨row, _, missing⟩ := stored.rows text (by rw [rows]; exact List.mem_cons_self)
  cases missing

end Zradar.Runtime
