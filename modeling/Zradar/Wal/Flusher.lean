import Zradar.Wal.Append

/-! The flusher that drains the WAL into a sink, and the janitor that deletes drained segments. -/

namespace Zradar.Wal

/-- The saved position up to which records count as flushed. -/
structure Checkpoint where
  lastFlushedSegmentId : Nat
  lastFlushedOffset : UInt64
  walFormatVersion : UInt8 := 1
  deriving DecidableEq

/-- The segment a pass starts at. -/
def startSegmentId (checkpoint : Option Checkpoint) : Nat :=
  match checkpoint with
  | none => 0
  | some saved => saved.lastFlushedSegmentId

/-- The skip test of a pass: the offset is covered, and the segment is the checkpoint's own. -/
def alreadyFlushed (checkpoint : Option Checkpoint) (segmentId : Nat) (record : WalRecord) : Bool :=
  match checkpoint with
  | none => false
  | some saved =>
    record.assignedOffset ≤ saved.lastFlushedOffset && segmentId == saved.lastFlushedSegmentId

/-- The highest offset of a batch, if there is any record in it. -/
def maxOffsetInBatch (batch : List WalRecord) : Option UInt64 :=
  batch.foldl (fun highest record =>
    match highest with
    | none => some record.assignedOffset
    | some offset => some (max offset record.assignedOffset)) none

/-- What a pass of the flusher fixes at its start. -/
structure FlushPass where
  checkpoint : Option Checkpoint
  activeSegId : Nat

/-- The records a pass read from one segment. -/
structure FlushBatch where
  segmentId : Nat
  records : List WalRecord
  maxOffset : UInt64

/-- The records of a batch, each with the segment it was read from. -/
def FlushBatch.entries (batch : FlushBatch) : List (Nat × WalRecord) :=
  batch.records.map fun record => (batch.segmentId, record)

/-- Where the flusher stands in `flush_once`. -/
inductive FlusherPhase where
  | idle
  | loaded (checkpoint : Option Checkpoint)
  | listed (checkpoint : Option Checkpoint) (segments : List Nat)
  /-- At the head of the loop, with the segments still to be visited. -/
  | scanning (pass : FlushPass) (todo : List Nat)
  /-- Inside `flush_records` with a batch of one segment. -/
  | handing (pass : FlushPass) (todo : List Nat) (batch : FlushBatch)
  /-- The sink has returned, and the checkpoint is about to be saved. -/
  | saving (pass : FlushPass) (todo : List Nat) (batch : FlushBatch)
  /-- A panic has ended the task. -/
  | stopped

/-- The end of the loop body: the pass ends behind the segment that was active at its start. -/
def FlusherPhase.next (pass : FlushPass) (segmentId : Nat) (todo : List Nat) : FlusherPhase :=
  if segmentId = pass.activeSegId then .idle else .scanning pass todo

/-- The loop body up to the call of the sink. -/
def flushRead (crc : Bytes → UInt32) (dir : WalDir) (pass : FlushPass) :
    List Nat → FlusherPhase
  | [] => .idle
  | segmentId :: rest =>
    if segmentId < startSegmentId pass.checkpoint then .scanning pass rest
    -- A file that is gone, or whose header is refused, ends the pass.
    else if segmentId ∉ dir.segmentIds then .idle
    else
      match readSegment crc (dir.contents segmentId) with
      | .err _ => .idle
      | .panicked => .stopped
      | .ok scan =>
        match scan.ending with
        | .panicked => .stopped
        | _ =>
          let records := scan.items.filter fun record =>
            !alreadyFlushed pass.checkpoint segmentId record
          match maxOffsetInBatch records with
          | some maxOffset => .handing pass rest ⟨segmentId, records, maxOffset⟩
          | none => .next pass segmentId rest

/-- Where the janitor stands in `cleanup_once`. -/
inductive JanitorPhase where
  | idle
  | loaded (checkpoint : Checkpoint)
  | listed (checkpoint : Checkpoint) (segments : List Nat)
  | deleting (checkpoint : Checkpoint) (activeId : Nat) (todo : List Nat)

/-- Whether the janitor deletes a segment. -/
def deletes (checkpoint : Checkpoint) (activeId segmentId : Nat) : Bool :=
  segmentId < activeId && segmentId < checkpoint.lastFlushedSegmentId

/-- A WAL with its producers, its flusher and its janitor. -/
structure DrainState where
  wal : WalState
  checkpoint : Option Checkpoint
  flusher : FlusherPhase
  janitor : JanitorPhase
  /-- The records of every batch that the sink has accepted. -/
  delivered : List (Nat × WalRecord)

/-- One step of a producer, of the flusher or of the janitor. -/
inductive DrainLabel where
  | append (label : AppendLabel)
  | flushLoad
  | flushList
  | flushActive
  | flushRead
  | sinkOk
  | sinkErr
  | saveOk
  | saveErr
  | janitorLoad
  | janitorList
  | janitorActive
  | janitorVisit (removed : Bool)
  deriving DecidableEq

/-- One step of `flush_once`. -/
def flusherStep (crc : Bytes → UInt32) (state : DrainState) (label : DrainLabel) :
    Option DrainState :=
  match state.flusher, label with
  | .idle, .flushLoad => some { state with flusher := .loaded state.checkpoint }
  | .loaded checkpoint, .flushList =>
    if state.wal.dir.segmentIds = [] then some { state with flusher := .idle }
    else some { state with flusher := .listed checkpoint state.wal.dir.segmentIds }
  | .listed checkpoint segments, .flushActive =>
    -- The active segment id is read under the writer lock.
    match state.wal.lock with
    | none =>
      some { state with flusher := .scanning ⟨checkpoint, state.wal.writer.segmentId⟩ segments }
    | some _ => none
  | .scanning pass todo, .flushRead =>
    some { state with flusher := Wal.flushRead crc state.wal.dir pass todo }
  | .handing pass todo batch, .sinkOk =>
    some { state with
      flusher := .saving pass todo batch
      delivered := state.delivered ++ batch.entries }
  | .handing _ _ _, .sinkErr => some { state with flusher := .idle }
  | .saving pass todo batch, .saveOk =>
    some { state with
      flusher := .next pass batch.segmentId todo
      checkpoint := some
        { lastFlushedSegmentId := batch.segmentId, lastFlushedOffset := batch.maxOffset } }
  | .saving _ _ _, .saveErr => some { state with flusher := .idle }
  | _, _ => none

/-- One step of `cleanup_once`. -/
def janitorStep (state : DrainState) (label : DrainLabel) : Option DrainState :=
  match state.janitor, label with
  | .idle, .janitorLoad =>
    match state.checkpoint with
    | none => some state
    | some checkpoint => some { state with janitor := .loaded checkpoint }
  | .loaded checkpoint, .janitorList =>
    some { state with janitor := .listed checkpoint state.wal.dir.segmentIds }
  | .listed checkpoint segments, .janitorActive =>
    match state.wal.lock with
    | none =>
      some { state with janitor := .deleting checkpoint state.wal.writer.segmentId segments }
    | some _ => none
  | .deleting _ _ [], .janitorVisit _ => some { state with janitor := .idle }
  | .deleting checkpoint activeId (segmentId :: rest), .janitorVisit removed =>
    -- A deletion that fails is logged, and the loop goes on.
    if deletes checkpoint activeId segmentId && removed then
      some { state with
        wal := { state.wal with dir := state.wal.dir.removeFile segmentId }
        janitor := .deleting checkpoint activeId rest }
    else some { state with janitor := .deleting checkpoint activeId rest }
  | _, _ => none

/-- One step of the WAL with everything that runs on it. -/
def drainStep (crc : Bytes → UInt32) (segmentMaxBytes : Nat) (state : DrainState) :
    DrainLabel → Option DrainState
  | .append label =>
    (appendStep crc segmentMaxBytes state.wal label).map fun wal => { state with wal := wal }
  | .janitorLoad => janitorStep state .janitorLoad
  | .janitorList => janitorStep state .janitorList
  | .janitorActive => janitorStep state .janitorActive
  | .janitorVisit removed => janitorStep state (.janitorVisit removed)
  | label => flusherStep crc state label

/-- What a pass hands to a sink that accepts everything, from the segments it still has to visit. -/
def flushSegments (crc : Bytes → UInt32) (dir : WalDir) (pass : FlushPass) :
    List Nat → List (Nat × WalRecord)
  | [] => []
  | segmentId :: rest =>
    match flushRead crc dir pass (segmentId :: rest) with
    | .scanning _ _ => flushSegments crc dir pass rest
    | .handing _ _ batch =>
      batch.entries ++
        if segmentId = pass.activeSegId then [] else flushSegments crc dir pass rest
    | _ => []

/-- What a pass of `flush_once` that starts now hands over. -/
def handedByPass (crc : Bytes → UInt32) (state : DrainState) : List (Nat × WalRecord) :=
  flushSegments crc state.wal.dir ⟨state.checkpoint, state.wal.writer.segmentId⟩
    state.wal.dir.segmentIds

/-- The records of a segment that pass the skip test. -/
def pendingRecords (crc : Bytes → UInt32) (dir : WalDir) (checkpoint : Option Checkpoint)
    (segmentId : Nat) : List WalRecord :=
  (readableRecords crc (dir.contents segmentId)).filter fun record =>
    !alreadyFlushed checkpoint segmentId record

/-- A batch has a highest offset exactly when it is not empty. -/
theorem maxOffsetInBatch_fold (batch : List WalRecord) (start : UInt64) :
    batch.foldl (fun highest record =>
      match highest with
      | none => some record.assignedOffset
      | some offset => some (max offset record.assignedOffset)) (some start) =
      some (batch.foldl (fun highest record => max highest record.assignedOffset) start) := by
  induction batch generalizing start with
  | nil => rfl
  | cons record rest ih => exact ih _

theorem maxOffsetInBatch_eq_none {batch : List WalRecord} :
    maxOffsetInBatch batch = none ↔ batch = [] := by
  cases batch with
  | nil => simp [maxOffsetInBatch]
  | cons record rest => simp [maxOffsetInBatch, maxOffsetInBatch_fold]

/-- The highest offset of a batch bounds all of its records, and there is at least one. -/
theorem maxOffsetInBatch_spec {batch : List WalRecord} {highest : UInt64}
    (found : maxOffsetInBatch batch = some highest) :
    (∃ record, record ∈ batch) ∧ ∀ record ∈ batch, record.assignedOffset ≤ highest := by
  -- The fold keeps the highest offset that it has seen.
  cases batch with
  | nil => cases found
  | cons head rest =>
    simp only [maxOffsetInBatch, List.foldl_cons, maxOffsetInBatch_fold, Option.some.injEq] at found
    obtain ⟨above, bound, _⟩ := foldMax_spec rest head.assignedOffset
    subst found
    refine ⟨⟨head, List.mem_cons_self⟩, ?_⟩
    intro record member
    rcases List.mem_cons.mp member with rfl | later
    · exact above
    · exact bound record later

/-- What the loop body does with the next segment. -/
inductive FlushVisit (crc : Bytes → UInt32) (dir : WalDir) (pass : FlushPass) (segmentId : Nat)
    (rest : List Nat) : FlusherPhase → Prop where
  | skipped (before : segmentId < startSegmentId pass.checkpoint) :
    FlushVisit crc dir pass segmentId rest (.scanning pass rest)
  | broken : FlushVisit crc dir pass segmentId rest .idle
  | dead : FlushVisit crc dir pass segmentId rest .stopped
  | drained (from_start : startSegmentId pass.checkpoint ≤ segmentId)
      (none : pendingRecords crc dir pass.checkpoint segmentId = []) :
    FlushVisit crc dir pass segmentId rest (.next pass segmentId rest)
  | batch (maxOffset : UInt64) (from_start : startSegmentId pass.checkpoint ≤ segmentId)
      (highest : maxOffsetInBatch (pendingRecords crc dir pass.checkpoint segmentId) =
        some maxOffset) :
    FlushVisit crc dir pass segmentId rest
      (.handing pass rest ⟨segmentId, pendingRecords crc dir pass.checkpoint segmentId, maxOffset⟩)

theorem flushRead_visit (crc : Bytes → UInt32) (dir : WalDir) (pass : FlushPass) (segmentId : Nat)
    (rest : List Nat) :
    FlushVisit crc dir pass segmentId rest (flushRead crc dir pass (segmentId :: rest)) := by
  -- The cases are those of the loop body, in its order.
  simp only [flushRead]
  split
  · exact .skipped ‹_›
  · rename_i reached
    have from_start : startSegmentId pass.checkpoint ≤ segmentId := Nat.le_of_not_lt reached
    split
    · exact .broken
    · split
      · exact .broken
      · exact .dead
      · rename_i scan read
        have records : (scan.items.filter fun record =>
            !alreadyFlushed pass.checkpoint segmentId record) =
              pendingRecords crc dir pass.checkpoint segmentId := by
          simp [pendingRecords, readableRecords, read]
        rw [records]
        split
        · exact .dead
        · split
          · exact .batch _ from_start ‹_›
          · exact .drained from_start (maxOffsetInBatch_eq_none.mp ‹_›)

/-- A sound segment at or behind the checkpoint is read, and its pending records make a batch. -/
theorem flushRead_holds {crc : Bytes → UInt32} {dir : WalDir} {pass : FlushPass} {segmentId : Nat}
    (rest : List Nat) (from_start : startSegmentId pass.checkpoint ≤ segmentId)
    (listed : segmentId ∈ dir.segmentIds) {records : List WalRecord}
    (holds : HoldsRecords crc segmentId records (dir.contents segmentId)) :
    flushRead crc dir pass (segmentId :: rest) =
      match maxOffsetInBatch (pendingRecords crc dir pass.checkpoint segmentId) with
      | some maxOffset => .handing pass rest
          ⟨segmentId, pendingRecords crc dir pass.checkpoint segmentId, maxOffset⟩
      | none => .next pass segmentId rest := by
  obtain ⟨ending, read, clean, torn⟩ := holds.readSegment
  have alive : ending ≠ .panicked := by
    -- Such a file ends cleanly or in a torn write.
    by_cases whole : dir.contents segmentId = segmentBytes crc segmentId records
    · simp [clean whole]
    · obtain ⟨error, _, failed⟩ := torn whole
      simp [failed]
  have pending : (records.filter fun record =>
      !alreadyFlushed pass.checkpoint segmentId record) =
        pendingRecords crc dir pass.checkpoint segmentId := by
    rw [pendingRecords, holds.readable]
  simp only [flushRead, Nat.not_lt.mpr from_start, listed, not_true_eq_false, ↓reduceIte, read,
    pending]

/-- The flusher's own steps hand over exactly what its remaining segments yield. -/
theorem flushSegments_run (crc : Bytes → UInt32) (segmentMaxBytes : Nat) {pass : FlushPass} :
    ∀ {todo : List Nat} {state : DrainState}, state.flusher = .scanning pass todo →
      ∃ labels final, run (drainStep crc segmentMaxBytes) state labels = some final ∧
        final.delivered = state.delivered ++ flushSegments crc state.wal.dir pass todo := by
  intro todo
  induction todo with
  | nil => exact fun {state} _ => ⟨[], state, rfl, by simp [flushSegments]⟩
  | cons segmentId rest ih =>
    intro state phase
    have reads : drainStep crc segmentMaxBytes state .flushRead =
        some { state with flusher := flushRead crc state.wal.dir pass (segmentId :: rest) } := by
      simp [drainStep, flusherStep, phase]
    -- Going on with the rest of the segments takes the induction's labels.
    have goesOn : ∀ middle : DrainState, middle.flusher = .scanning pass rest →
        middle.wal = state.wal → ∃ labels final,
          run (drainStep crc segmentMaxBytes) middle labels = some final ∧
          final.delivered = middle.delivered ++ flushSegments crc state.wal.dir pass rest := by
      intro middle scanning same
      rw [← same]
      exact ih scanning
    have visit := flushRead_visit crc state.wal.dir pass segmentId rest
    generalize read : flushRead crc state.wal.dir pass (segmentId :: rest) = phase' at visit reads
    simp only [flushSegments, read]
    cases visit with
    | skipped before =>
      obtain ⟨labels, final, reached, handed⟩ :=
        goesOn { state with flusher := .scanning pass rest } rfl rfl
      exact ⟨.flushRead :: labels, final, by simp only [run, reads, reached], handed⟩
    | broken => exact ⟨[], state, rfl, by simp⟩
    | dead => exact ⟨[], state, rfl, by simp⟩
    | drained from_start none =>
      by_cases active : segmentId = pass.activeSegId
      · exact ⟨[], state, rfl, by simp [FlusherPhase.next, active]⟩
      · have next : FlusherPhase.next pass segmentId rest = .scanning pass rest := if_neg active
        rw [next] at reads ⊢
        obtain ⟨labels, final, reached, handed⟩ :=
          goesOn { state with flusher := .scanning pass rest } rfl rfl
        exact ⟨.flushRead :: labels, final, by simp only [run, reads, reached], handed⟩
    | batch maxOffset from_start highest =>
      -- The sink accepts the batch, and the checkpoint moves behind it.
      let batch : FlushBatch :=
        ⟨segmentId, pendingRecords crc state.wal.dir pass.checkpoint segmentId, maxOffset⟩
      let saved : DrainState :=
        { state with
          flusher := .next pass segmentId rest
          checkpoint := some
            { lastFlushedSegmentId := segmentId, lastFlushedOffset := maxOffset }
          delivered := state.delivered ++ batch.entries }
      have passes (labels : List DrainLabel) :
          run (drainStep crc segmentMaxBytes) state (.flushRead :: .sinkOk :: .saveOk :: labels) =
            run (drainStep crc segmentMaxBytes) saved labels := by
        simp only [run, reads]
        rfl
      by_cases active : segmentId = pass.activeSegId
      · refine ⟨[.flushRead, .sinkOk, .saveOk], saved, passes [], ?_⟩
        simp [saved, batch, active]
      · have next : FlusherPhase.next pass segmentId rest = .scanning pass rest := if_neg active
        obtain ⟨labels, final, reached, handed⟩ := goesOn saved next rfl
        refine ⟨.flushRead :: .sinkOk :: .saveOk :: labels, final, (passes labels).trans reached, ?_⟩
        rw [handed, if_neg active, ← List.append_assoc]

/-- A pass that starts on an unlocked WAL can hand over everything it is promised to. -/
theorem handedByPass_run (crc : Bytes → UInt32) (segmentMaxBytes : Nat) {state : DrainState}
    (idle : state.flusher = .idle) (free : state.wal.lock = none) :
    ∃ labels final, run (drainStep crc segmentMaxBytes) state labels = some final ∧
      final.delivered = state.delivered ++ handedByPass crc state := by
  -- A pass over no segments hands nothing over.
  by_cases empty : state.wal.dir.segmentIds = []
  · exact ⟨[], state, rfl, by simp [handedByPass, empty, flushSegments]⟩
  · let pass : FlushPass := ⟨state.checkpoint, state.wal.writer.segmentId⟩
    let scanning : DrainState := { state with flusher := .scanning pass state.wal.dir.segmentIds }
    obtain ⟨labels, final, reached, handed⟩ :=
      flushSegments_run crc segmentMaxBytes (rfl : scanning.flusher = _)
    refine ⟨.flushLoad :: .flushList :: .flushActive :: labels, final, ?_, handed⟩
    simpa [run, drainStep, flusherStep, idle, free, empty] using reached

end Zradar.Wal
