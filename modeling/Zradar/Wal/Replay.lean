import Zradar.Lib.Batching
import Zradar.Wal.Drain
import Zradar.Wal.Recovery

/-! The replay at startup: the records behind the checkpoint go to the sink in bounded batches. -/

namespace Zradar.Wal

/-- What a replay runs on, apart from the directory and the checkpoint. -/
structure ReplayEnv where
  crc : Bytes → UInt32
  replayBatchMaxBytes : Nat
  /-- The answer of the sink, by the number of batches it was handed before. -/
  sink : Nat → Except String Unit
  /-- The answer of the file system when a segment is to be truncated. -/
  truncate : Nat → Except String Unit

/-- What a replay keeps track of. -/
structure ReplayState where
  dir : WalDir
  handed : Nat
  totalReplayed : Nat
  lastGoodSegmentId : Nat
  lastGoodOffset : UInt64
  /-- The records of every batch that the sink has accepted. -/
  delivered : List (Nat × WalRecord)

/-- The records that are held until they are worth a call of the sink. -/
structure ReplayBatch where
  records : List WalRecord
  bytes : Nat
  maxOffset : Option UInt64

def ReplayBatch.empty : ReplayBatch := ⟨[], 0, none⟩

/-- The rough size that a record is counted with. -/
def replaySize (record : WalRecord) : Nat := record.payload.length + 64

def ReplayBatch.push (batch : ReplayBatch) (record : WalRecord) : ReplayBatch where
  records := batch.records ++ [record]
  bytes := batch.bytes + replaySize record
  maxOffset :=
    match batch.maxOffset with
    | none => some record.assignedOffset
    | some highest => some (max highest record.assignedOffset)

/-- The state behind a batch that the sink has accepted. -/
def ReplayState.accepted (state : ReplayState) (segmentId : Nat) (batch : ReplayBatch) :
    ReplayState :=
  { state with
    handed := state.handed + 1
    totalReplayed := state.totalReplayed + batch.records.length
    lastGoodSegmentId :=
      match batch.maxOffset with
      | some _ => segmentId
      | none => state.lastGoodSegmentId
    lastGoodOffset := batch.maxOffset.getD state.lastGoodOffset
    delivered := state.delivered ++ batch.records.map fun record => (segmentId, record) }

/-- Hand a batch of a segment to the sink. -/
def ReplayState.flush (env : ReplayEnv) (state : ReplayState) (segmentId : Nat)
    (batch : ReplayBatch) : Outcome (String × ReplayState) ReplayState :=
  match env.sink state.handed with
  | .ok () => .ok (state.accepted segmentId batch)
  | .error message => .err (message, state)

/-- The loop over the records of a segment, which leaves the batch that is not full yet. -/
def replayRecords (env : ReplayEnv) (checkpoint : Option Checkpoint) (segmentId : Nat) :
    List WalRecord → ReplayState → ReplayBatch →
      Outcome (String × ReplayState) (ReplayState × ReplayBatch)
  | [], state, batch => .ok (state, batch)
  | record :: rest, state, batch =>
    if alreadyFlushed checkpoint segmentId record then
      replayRecords env checkpoint segmentId rest state batch
    else if env.replayBatchMaxBytes ≤ (batch.push record).bytes then do
      let state ← state.flush env segmentId (batch.push record)
      replayRecords env checkpoint segmentId rest state .empty
    else replayRecords env checkpoint segmentId rest state (batch.push record)

/-- How the loop ends: a file whose next record is refused is truncated behind the last good one. -/
def replayEnd (env : ReplayEnv) (segmentId : Nat) (scan : Scan WalRecord SegmentError)
    (state : ReplayState) : Outcome (String × ReplayState) ReplayState :=
  match scan.ending with
  | .eof => .ok state
  | .failed (.record _) =>
    match env.truncate segmentId with
    | .ok () => .ok { state with dir := state.dir.truncateSegment segmentId scan.pos }
    | .error message => .err (message, state)
  | .failed _ => .ok state
  | .panicked => .panicked

/-- The records of one segment, with what is left of the last batch behind them. -/
def replaySegment (env : ReplayEnv) (checkpoint : Option Checkpoint) (segmentId : Nat)
    (scan : Scan WalRecord SegmentError) (state : ReplayState) :
    Outcome (String × ReplayState) ReplayState := do
  let (state, batch) ← replayRecords env checkpoint segmentId scan.items state .empty
  let state ← replayEnd env segmentId scan state
  if batch.records.isEmpty then pure state else state.flush env segmentId batch

/-- The loop over the listed segments. -/
def replaySegments (env : ReplayEnv) (checkpoint : Option Checkpoint) :
    List Nat → ReplayState → Outcome (String × ReplayState) ReplayState
  | [], state => .ok state
  | segmentId :: rest, state =>
    if segmentId < startSegmentId checkpoint then replaySegments env checkpoint rest state
    -- A file that cannot be opened ends the loop, and one with a foreign header the replay.
    else if segmentId ∉ state.dir.segmentIds then .ok state
    else
      match readSegment env.crc (state.dir.contents segmentId) with
      | .err .invalidMagic | .err (.unsupportedVersion _) =>
        .err (s!"corrupt segment header in segment {segmentId}, cannot replay", state)
      | .err _ => .ok state
      | .panicked => .panicked
      | .ok scan => do
        let state ← replaySegment env checkpoint segmentId scan state
        replaySegments env checkpoint rest state

/-- The state in which a replay starts. -/
def ReplayState.start (checkpoint : Option Checkpoint) (dir : WalDir) : ReplayState where
  dir := dir
  handed := 0
  totalReplayed := 0
  lastGoodSegmentId := startSegmentId checkpoint
  lastGoodOffset :=
    match checkpoint with
    | none => 0
    | some saved => saved.lastFlushedOffset
  delivered := []

/-- Replay the records that a directory holds behind a checkpoint. -/
def replay (env : ReplayEnv) (checkpoint : Option Checkpoint) (dir : WalDir) :
    Outcome (String × ReplayState) ReplayState :=
  if dir.segmentIds.isEmpty then .ok (.start checkpoint dir)
  else replaySegments env checkpoint dir.segmentIds (.start checkpoint dir)

/-- The checkpoint behind a replay, which is saved only when something was replayed. -/
def checkpointAfter (checkpoint : Option Checkpoint) (state : ReplayState) : Option Checkpoint :=
  if 0 < state.totalReplayed then
    some {
      lastFlushedSegmentId := state.lastGoodSegmentId
      lastFlushedOffset := state.lastGoodOffset }
  else checkpoint

/-- The batch of some records. -/
def ReplayBatch.of (records : List WalRecord) : ReplayBatch where
  records := records
  bytes := batchSize replaySize records
  maxOffset := maxOffsetInBatch records

@[simp] theorem ReplayBatch.of_nil : ReplayBatch.of [] = .empty := rfl

/-- A batch is that of the records that were pushed on it. -/
@[simp] theorem ReplayBatch.push_of (records : List WalRecord) (record : WalRecord) :
    (ReplayBatch.of records).push record = .of (records ++ [record]) := by
  -- The size and the highest offset are both folds over the records.
  unfold ReplayBatch.of ReplayBatch.push
  congr 1
  · simp [batchSize]
  · rw [maxOffsetInBatch, maxOffsetInBatch, List.foldl_append]
    rfl

/-- The highest offset of a batch is that of one of its records. -/
theorem maxOffsetInBatch_mem {batch : List WalRecord} {highest : UInt64}
    (found : maxOffsetInBatch batch = some highest) :
    ∃ record ∈ batch, highest = record.assignedOffset := by
  -- The highest offset is that of the first record, or of one behind it.
  cases batch with
  | nil => cases found
  | cons head rest =>
    simp only [maxOffsetInBatch, List.foldl_cons, maxOffsetInBatch_fold, Option.some.injEq] at found
    obtain ⟨_, _, attained⟩ := foldMax_spec rest head.assignedOffset
    subst found
    rcases attained with first | ⟨record, later, same⟩
    · exact ⟨head, List.mem_cons_self, first⟩
    · exact ⟨record, List.mem_cons_of_mem head later, same⟩

end Zradar.Wal
