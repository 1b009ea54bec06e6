import Zradar.Wal.ReplayTwice

/-! The order of the saved checkpoints over any number of passes, replays and restarts. -/

namespace Zradar.Wal

/-- A checkpoint is at or behind another one, first by its segment and then by its offset. -/
def NotBehind : Option Checkpoint → Option Checkpoint → Prop
  | none, _ => True
  | some _, none => False
  | some earlier, some later =>
    earlier.lastFlushedSegmentId < later.lastFlushedSegmentId ∨
      earlier.lastFlushedSegmentId = later.lastFlushedSegmentId ∧
        earlier.lastFlushedOffset ≤ later.lastFlushedOffset

/-- What can happen to the checkpoint file and to what its writers rely on. -/
inductive CheckpointLabel where
  /-- The producers, the janitor or a crash leave the WAL in some state, whatever it is. -/
  | wal (wal : WalState)
  | flusher (label : DrainLabel)
  /-- The process ends, and the flusher with it. -/
  | restart
  /-- A replay runs before the flusher starts, and its save succeeds or fails. -/
  | replay (env : ReplayEnv) (saves : Bool)

/-- The state behind a replay that was not cut short by a panic. -/
def DrainState.replayed (state : DrainState) (final : ReplayState)
    (checkpoint : Option Checkpoint) : DrainState :=
  { state with
    wal := { state.wal with dir := final.dir }
    checkpoint := checkpoint
    delivered := state.delivered ++ final.delivered }

/-- One step of whatever writes the checkpoint, or of what it depends on. -/
def checkpointStep (crc : Bytes → UInt32) (state : DrainState) :
    CheckpointLabel → Option DrainState
  | .wal wal => some { state with wal := wal }
  | .flusher label => flusherStep crc state label
  | .restart => some { state with flusher := .idle }
  | .replay env saves =>
    match state.flusher with
    | .idle =>
      match replay env state.checkpoint state.wal.dir with
      | .ok final =>
        let checkpoint := if saves then checkpointAfter state.checkpoint final else state.checkpoint
        some (state.replayed final checkpoint)
      -- A replay that fails has saved nothing.
      | .err (_, final) => some (state.replayed final state.checkpoint)
      | .panicked => some { state with flusher := .stopped }
    | _ => none

theorem NotBehind.refl : ∀ checkpoint, NotBehind checkpoint checkpoint
  | none => trivial
  | some saved => Or.inr ⟨rfl, UInt64.le_refl saved.lastFlushedOffset⟩

theorem NotBehind.trans : ∀ {first second third : Option Checkpoint}, NotBehind first second →
    NotBehind second third → NotBehind first third
  | none, _, _, _, _ => trivial
  | some _, none, _, one, _ => one.elim
  | some _, some _, none, _, two => two.elim
  | some first, some second, some third, one, two => by
    -- The segments are compared first, and the offsets where these are the same.
    rcases one with before | ⟨same, below⟩
    · rcases two with after | ⟨here, _⟩
      · exact Or.inl (before.trans after)
      · exact Or.inl (here ▸ before)
    · rcases two with after | ⟨here, above⟩
      · exact Or.inl (same ▸ after)
      · exact Or.inr ⟨same.trans here, UInt64.le_trans below above⟩

/-- A checkpoint at a position that is not covered yet is not behind. -/
theorem notBehind_of_beyond {checkpoint : Option Checkpoint} {segmentId : Nat} {offset : UInt64}
    (beyond : ¬ covers checkpoint segmentId offset) :
    NotBehind checkpoint
      (some { lastFlushedSegmentId := segmentId, lastFlushedOffset := offset }) := by
  -- What is not covered is younger than everything that is.
  cases checkpoint with
  | none => trivial
  | some saved =>
    have younger := older_of_beyond beyond saved.lastFlushedSegmentId saved.lastFlushedOffset
      (Or.inr ⟨rfl, UInt64.le_refl _⟩)
    exact younger

/-- From the checkpoint's segment on, a record that is not skipped is not covered. -/
theorem not_covers_of_pending {checkpoint : Option Checkpoint} {segmentId : Nat}
    {record : WalRecord} (reached : startSegmentId checkpoint ≤ segmentId)
    (pending : alreadyFlushed checkpoint segmentId record = false) :
    ¬ covers checkpoint segmentId record.assignedOffset := by
  -- In the segment of the checkpoint the offset decides, and later segments are open.
  cases checkpoint with
  | none => exact id
  | some saved =>
    intro covered
    rcases covered with before | ⟨same, below⟩
    · exact absurd before (Nat.not_lt.mpr reached)
    · have flushed : alreadyFlushed (some saved) segmentId record = true := by
        simp [alreadyFlushed, same, below]
      rw [flushed] at pending
      cases pending

/-! What a replay saves. -/

/-- Whatever was replayed last lies beyond the checkpoint that the replay started from. -/
def ReplayState.Beyond (checkpoint : Option Checkpoint) (state : ReplayState) : Prop :=
  0 < state.totalReplayed → ¬ covers checkpoint state.lastGoodSegmentId state.lastGoodOffset

section

variable {env : ReplayEnv} {checkpoint : Option Checkpoint} {segmentId : Nat}
  {state next : ReplayState}

/-- A batch of uncovered records moves the last good position to one of them. -/
theorem ReplayState.Beyond.flush {records : List WalRecord} (beyond : state.Beyond checkpoint)
    (uncovered : ∀ record ∈ records, ¬ covers checkpoint segmentId record.assignedOffset)
    (flushed : state.flush env segmentId (.of records) = .ok next) : next.Beyond checkpoint := by
  unfold ReplayState.flush at flushed
  split at flushed
  · cases flushed
    cases top : maxOffsetInBatch records with
    | none =>
      -- An empty batch changes nothing that the checkpoint is made of.
      obtain rfl := maxOffsetInBatch_eq_none.mp top
      exact beyond
    | some highest =>
      obtain ⟨record, member, rfl⟩ := maxOffsetInBatch_mem top
      intro _
      simp only [ReplayState.accepted, ReplayBatch.of, top, Option.getD_some]
      exact uncovered record member
  · cases flushed

/-- The loop over the records keeps the position beyond, and holds uncovered records only. -/
theorem replayRecords_beyond (reached : startSegmentId checkpoint ≤ segmentId)
    {items held : List WalRecord} {result : ReplayState × ReplayBatch}
    (beyond : state.Beyond checkpoint)
    (uncovered : ∀ record ∈ held, ¬ covers checkpoint segmentId record.assignedOffset)
    (looped : replayRecords env checkpoint segmentId items state (.of held) = .ok result) :
    result.1.Beyond checkpoint ∧ ∃ rest, result.2 = .of rest ∧
      ∀ record ∈ rest, ¬ covers checkpoint segmentId record.assignedOffset := by
  -- The held records are uncovered, and so is the highest of those that are handed over.
  induction items generalizing state held with
  | nil =>
    cases looped
    exact ⟨beyond, held, rfl, uncovered⟩
  | cons record items ih =>
    unfold replayRecords at looped
    rw [ReplayBatch.push_of] at looped
    split at looped
    · exact ih beyond uncovered looped
    · rename_i pending
      have pushed : ∀ other ∈ held ++ [record],
          ¬ covers checkpoint segmentId other.assignedOffset := by
        intro other member
        rcases List.mem_append.mp member with early | same
        · exact uncovered other early
        · rw [List.mem_singleton.mp same]
          exact not_covers_of_pending reached (by simpa using pending)
      split at looped
      -- The batch is full, so it is handed over and an empty one goes on.
      · obtain ⟨middle, flushed, rest⟩ := Outcome.bind_eq_ok.mp looped
        have goesOn : replayRecords env checkpoint segmentId items middle (.of []) = .ok result :=
          rest
        exact ih (beyond.flush pushed flushed) (by simp) goesOn
      · exact ih beyond pushed looped

theorem replaySegment_beyond (reached : startSegmentId checkpoint ≤ segmentId)
    {scan : Scan WalRecord SegmentError} (beyond : state.Beyond checkpoint)
    (replayed : replaySegment env checkpoint segmentId scan state = .ok next) :
    next.Beyond checkpoint := by
  obtain ⟨⟨looped, batch⟩, loop, replayed⟩ := Outcome.bind_eq_ok.mp replayed
  obtain ⟨ended, closed, replayed⟩ := Outcome.bind_eq_ok.mp replayed
  have fromEmpty : replayRecords env checkpoint segmentId scan.items state (.of []) =
      .ok (looped, batch) := loop
  obtain ⟨kept, rest, same, uncovered⟩ := replayRecords_beyond reached beyond (by simp) fromEmpty
  -- The end of the loop changes the directory at most.
  have behind : ended.Beyond checkpoint := by
    unfold replayEnd at closed
    split at closed
    · cases closed
      exact kept
    · split at closed
      · cases closed
        exact kept
      · cases closed
    · cases closed
      exact kept
    · cases closed
  split at replayed
  · cases replayed
    exact behind
  · replace same : batch = .of rest := same
    subst same
    exact behind.flush uncovered replayed

theorem replaySegments_beyond {segments : List Nat} (beyond : state.Beyond checkpoint)
    (replayed : replaySegments env checkpoint segments state = .ok next) :
    next.Beyond checkpoint := by
  -- Segments before the checkpoint are left out, and a failure ends the replay.
  induction segments generalizing state with
  | nil =>
    cases replayed
    exact beyond
  | cons visited rest ih =>
    unfold replaySegments at replayed
    split at replayed
    · exact ih beyond replayed
    · rename_i reached
      split at replayed
      · cases replayed
        exact beyond
      · split at replayed
        · cases replayed
        · cases replayed
        · cases replayed
          exact beyond
        · cases replayed
        · obtain ⟨middle, segment, later⟩ := Outcome.bind_eq_ok.mp replayed
          exact ih (replaySegment_beyond (Nat.le_of_not_lt reached) beyond segment) later

/-- The checkpoint that a replay leaves is not behind the one it started from. -/
theorem replay_notBehind {dir : WalDir} (replayed : replay env checkpoint dir = .ok next) :
    NotBehind checkpoint (checkpointAfter checkpoint next) := by
  -- A replay that delivers nothing saves nothing.
  have start : (ReplayState.start checkpoint dir).Beyond checkpoint :=
    fun some => absurd some (Nat.lt_irrefl 0)
  have beyond : next.Beyond checkpoint := by
    unfold replay at replayed
    split at replayed
    · cases replayed
      exact start
    · exact replaySegments_beyond start replayed
  unfold checkpointAfter
  split
  · exact notBehind_of_beyond (beyond ‹_›)
  · exact .refl checkpoint

end

/-! What the flusher saves. -/

/-- What the flusher remembers of a checkpoint is still true of it, whatever the files hold. -/
def PhaseFresh (checkpoint : Option Checkpoint) : FlusherPhase → Prop
  | .idle | .stopped => True
  | .loaded loaded => loaded = checkpoint
  | .listed loaded segments => loaded = checkpoint ∧ segments.Pairwise (· < ·)
  | .scanning pass todo =>
    todo.Pairwise (· < ·) ∧
      -- Until the pass saves, the checkpoint is its own, and then it lies in front of the rest.
      (pass.checkpoint = checkpoint ∨
        ∀ segmentId ∈ todo, ∀ saved ∈ checkpoint, saved.lastFlushedSegmentId < segmentId)
  | .handing _ todo batch | .saving _ todo batch =>
    (batch.segmentId :: todo).Pairwise (· < ·) ∧
      ¬ covers checkpoint batch.segmentId batch.maxOffset

section

variable {checkpoint : Option Checkpoint}

theorem phaseFresh_next {pass : FlushPass} {segmentId : Nat} {todo : List Nat}
    (fresh : PhaseFresh checkpoint (.scanning pass todo)) :
    PhaseFresh checkpoint (.next pass segmentId todo) := by
  -- The next segment is scanned in the same pass, or the pass is over.
  unfold FlusherPhase.next
  split
  · trivial
  · exact fresh

/-- The loop body reads a batch that lies beyond the checkpoint, or goes on. -/
theorem phaseFresh_read (crc : Bytes → UInt32) (dir : WalDir) {pass : FlushPass}
    {todo : List Nat} (fresh : PhaseFresh checkpoint (.scanning pass todo)) :
    PhaseFresh checkpoint (flushRead crc dir pass todo) := by
  obtain ⟨sorted, front⟩ := fresh
  cases todo with
  | nil => trivial
  | cons segmentId rest =>
    have later : PhaseFresh checkpoint (.scanning pass rest) := by
      refine ⟨sorted.of_cons, front.imp id fun ahead => ?_⟩
      exact fun other member => ahead other (List.mem_cons_of_mem segmentId member)
    have visit := flushRead_visit crc dir pass segmentId rest
    generalize flushRead crc dir pass (segmentId :: rest) = phase at visit ⊢
    cases visit with
    | skipped before => exact later
    | broken => trivial
    | dead => trivial
    | drained from_start none => exact phaseFresh_next later
    | batch maxOffset from_start highest =>
      refine ⟨sorted, ?_⟩
      rcases front with same | ahead
      · -- The highest offset is that of a record that the pass did not skip.
        obtain ⟨record, member, rfl⟩ := maxOffsetInBatch_mem highest
        rw [same] at from_start member
        exact not_covers_of_pending from_start (by simpa using (List.mem_filter.mp member).2)
      · cases checkpoint with
        | none => exact id
        | some saved =>
          have before := ahead segmentId List.mem_cons_self saved rfl
          intro covered
          rcases covered with behind | ⟨same, _⟩
          · exact absurd behind (Nat.lt_asymm before)
          · exact absurd same (Nat.ne_of_gt before)

/-- A step of the flusher keeps what it remembers, and moves the checkpoint forward at most. -/
theorem flusherStep_fresh {crc : Bytes → UInt32} {state next : DrainState} {label : DrainLabel}
    (fresh : PhaseFresh state.checkpoint state.flusher)
    (stepped : flusherStep crc state label = some next) :
    PhaseFresh next.checkpoint next.flusher ∧ NotBehind state.checkpoint next.checkpoint := by
  unfold flusherStep at stepped
  split at stepped
  · cases stepped
    exact ⟨rfl, .refl _⟩
  · rename_i loaded phase
    rw [phase] at fresh
    split at stepped
    · cases stepped
      exact ⟨trivial, .refl _⟩
    · cases stepped
      exact ⟨⟨fresh, state.wal.dir.sorted⟩, .refl _⟩
  · rename_i loaded segments phase
    rw [phase] at fresh
    split at stepped
    · cases stepped
      exact ⟨⟨fresh.2, Or.inl fresh.1⟩, .refl _⟩
    · cases stepped
  · rename_i pass todo phase
    rw [phase] at fresh
    cases stepped
    exact ⟨phaseFresh_read crc state.wal.dir fresh, .refl _⟩
  · rename_i pass todo batch phase
    rw [phase] at fresh
    cases stepped
    exact ⟨fresh, .refl _⟩
  · cases stepped
    exact ⟨trivial, .refl _⟩
  · rename_i pass todo batch phase
    rw [phase] at fresh
    cases stepped
    obtain ⟨sorted, beyond⟩ := fresh
    -- The segments that are left come behind the one whose batch was saved.
    have ahead : PhaseFresh
        (some
          { lastFlushedSegmentId := batch.segmentId, lastFlushedOffset := batch.maxOffset })
        (.scanning pass todo) := by
      refine ⟨sorted.of_cons, Or.inr fun segmentId member saved same => ?_⟩
      cases same
      exact List.rel_of_pairwise_cons sorted member
    exact ⟨phaseFresh_next ahead, notBehind_of_beyond beyond⟩
  · cases stepped
    exact ⟨trivial, .refl _⟩
  · cases stepped

end

/-! Whole runs. -/

/-- Every step keeps what the flusher remembers, and moves the checkpoint forward at most. -/
theorem checkpointStep_fresh {crc : Bytes → UInt32} {state next : DrainState}
    {label : CheckpointLabel} (fresh : PhaseFresh state.checkpoint state.flusher)
    (stepped : checkpointStep crc state label = some next) :
    PhaseFresh next.checkpoint next.flusher ∧ NotBehind state.checkpoint next.checkpoint := by
  cases label with
  | wal wal =>
    cases stepped
    exact ⟨fresh, .refl _⟩
  | flusher label => exact flusherStep_fresh fresh stepped
  | restart =>
    cases stepped
    exact ⟨trivial, .refl _⟩
  | replay env saves =>
    unfold checkpointStep at stepped
    dsimp only at stepped
    split at stepped
    · rename_i idle
      -- The flusher is not running, so it remembers nothing.
      have forgets (checkpoint : Option Checkpoint) : PhaseFresh checkpoint state.flusher := by
        rw [idle]
        trivial
      split at stepped
      · rename_i final replayed
        cases stepped
        refine ⟨forgets _, ?_⟩
        cases saves
        · exact .refl _
        · exact replay_notBehind replayed
      · cases stepped
        exact ⟨forgets _, .refl _⟩
      · cases stepped
        exact ⟨trivial, .refl _⟩
    · cases stepped

/-- The state in which a process starts on a WAL and a checkpoint file. -/
def DrainState.startOf (wal : WalState) (checkpoint : Option Checkpoint) : DrainState where
  wal := wal
  checkpoint := checkpoint
  flusher := .idle
  janitor := .idle
  delivered := []

/-- What the flusher remembers of the checkpoint is true of the state. -/
def DrainState.Fresh (state : DrainState) : Prop := PhaseFresh state.checkpoint state.flusher

/-- From a state in which nothing is remembered wrongly, a run moves the checkpoint forward. -/
theorem DrainState.Fresh.run {crc : Bytes → UInt32} {state final : DrainState}
    {labels : List CheckpointLabel} (fresh : state.Fresh)
    (reached : Zradar.run (checkpointStep crc) state labels = some final) :
    final.Fresh ∧ NotBehind state.checkpoint final.checkpoint := by
  -- Each step keeps the order, and the order is transitive.
  have kept : ∀ middle label next, middle.Fresh ∧ NotBehind state.checkpoint middle.checkpoint →
      checkpointStep crc middle label = some next →
      next.Fresh ∧ NotBehind state.checkpoint next.checkpoint := by
    intro middle label next holding stepped
    obtain ⟨still, moved⟩ := checkpointStep_fresh holding.1 stepped
    exact ⟨still, holding.2.trans moved⟩
  exact run_keeps kept ⟨fresh, .refl _⟩ reached

/-- Over every run of passes and replays, the saved checkpoint never goes back. -/
theorem checkpoint_never_decreases (crc : Bytes → UInt32) (wal : WalState)
    (checkpoint : Option Checkpoint) (labels more : List CheckpointLabel)
    (middle final : DrainState)
    (reached : run (checkpointStep crc) (.startOf wal checkpoint) labels = some middle)
    (continued : run (checkpointStep crc) middle more = some final) :
    NotBehind middle.checkpoint final.checkpoint := by
  -- What the flusher remembers is true at the start, and so in every state that is reached.
  have start : (DrainState.startOf wal checkpoint).Fresh := trivial
  have fresh := (start.run reached).1
  exact (fresh.run continued).2

/-- A replay in small batches, and one more: the checkpoint is at the lower offset in between. -/
theorem checkpoint_moves_forward :
    ∃ middle final,
      run (checkpointStep fun _ => 0) (.startOf crossedWal none) [.replay (willingEnv 1) true] =
        some middle ∧
      run (checkpointStep fun _ => 0) middle [.replay (willingEnv 1) true] = some final ∧
      middle.checkpoint = some { lastFlushedSegmentId := 0, lastFlushedOffset := 0 } ∧
      final.checkpoint = some { lastFlushedSegmentId := 0, lastFlushedOffset := 1 } ∧
      NotBehind middle.checkpoint final.checkpoint :=
  ⟨_, _, rfl, rfl, rfl, rfl,
    checkpoint_never_decreases (fun _ => 0) crossedWal none [.replay (willingEnv 1) true]
      [.replay (willingEnv 1) true] _ _ rfl rfl⟩

end Zradar.Wal
