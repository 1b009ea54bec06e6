import Zradar.Wal.Flusher

/-! At-least-once delivery: when the flusher and the janitor lose no written record. -/

namespace Zradar.Wal

/-- Whether a checkpoint makes a pass leave out an offset of a segment. -/
def covers : Option Checkpoint → Nat → UInt64 → Prop
  | none, _, _ => False
  | some saved, segmentId, offset =>
    segmentId < saved.lastFlushedSegmentId ∨
      segmentId = saved.lastFlushedSegmentId ∧ offset ≤ saved.lastFlushedOffset

instance : ∀ checkpoint segmentId offset, Decidable (covers checkpoint segmentId offset)
  | none, _, _ => .isFalse id
  | some _, _, _ => inferInstanceAs (Decidable (_ ∨ _))

/-- A record that was written and that the sink has never accepted. -/
def DrainState.Pending (state : DrainState) (entry : Nat × WalRecord) : Prop :=
  entry ∈ state.wal.written ∧ entry ∉ state.delivered

/-- Every written record was accepted by the sink, or is in a segment the next pass hands over. -/
def AtLeastOnce (crc : Bytes → UInt32) (state : DrainState) : Prop :=
  ∀ entry ∈ state.wal.written, entry ∈ state.delivered ∨
    entry.1 ∈ state.wal.dir.segmentIds ∧ entry ∈ handedByPass crc state

/-- The batch the flusher has read and not yet covered by a checkpoint. -/
def FlusherPhase.inFlight : FlusherPhase → Option FlushBatch
  | .handing _ _ batch => some batch
  | .saving _ _ batch => some batch
  | _ => none

/-- Writes whose offset lies above everything flushed or being flushed from the active segment. -/
def OrderedWrite (crc : Bytes → UInt32) (segmentMaxBytes : Nat) (state : DrainState) :
    DrainLabel → Prop
  | .append .finishWrite =>
    ∀ held ∈ state.wal.lock,
      ¬ covers state.checkpoint state.wal.writer.segmentId held.1.assignedOffset ∧
      ∀ batch ∈ state.flusher.inFlight, batch.segmentId = state.wal.writer.segmentId →
        batch.maxOffset < held.1.assignedOffset
  | .append label => CleanAppend crc segmentMaxBytes state.wal label
  | _ => True

instance (crc : Bytes → UInt32) (segmentMaxBytes : Nat) (state : DrainState) :
    ∀ label, Decidable (OrderedWrite crc segmentMaxBytes state label)
  | .append .finishWrite => inferInstanceAs (Decidable (∀ held ∈ _, _))
  | .append (.takeOffset record) => inferInstanceAs (Decidable (CleanAppend crc segmentMaxBytes
      state.wal (.takeOffset record)))
  | .append (.lockWriter index) => inferInstanceAs (Decidable (CleanAppend crc segmentMaxBytes
      state.wal (.lockWriter index)))
  | .append (.abandon _) | .append (.writeBytes _) | .append .failWrite => .isTrue trivial
  | .flushLoad | .flushList | .flushActive | .flushRead | .sinkOk | .sinkErr | .saveOk | .saveErr
  | .janitorLoad | .janitorList | .janitorActive | .janitorVisit _ => .isTrue trivial

/-- A later checkpoint covers at least what an earlier one covers. -/
def Older (earlier later : Option Checkpoint) : Prop :=
  ∀ segmentId offset, covers earlier segmentId offset → covers later segmentId offset

/-- The segments a pass still has to visit, relative to the records that are pending. -/
structure TodoSound (state : DrainState) (current todo : List Nat) : Prop where
  sorted : todo.Pairwise (· < ·)
  upTo : ∀ segmentId ∈ todo, segmentId ≤ state.wal.writer.segmentId
  /-- No pending record lies in front of a segment on the list, unless its own is on it too. -/
  frontier : ∀ entry, state.Pending entry → ∀ segmentId ∈ todo, entry.1 < segmentId →
    entry.1 ∈ current ++ todo

/-- What a pass fixed at its start is no younger than the state. -/
structure PassSound (state : DrainState) (pass : FlushPass) : Prop where
  older : Older pass.checkpoint state.checkpoint
  active : pass.activeSegId ≤ state.wal.writer.segmentId

/-- What holds of a batch between its read and the checkpoint that covers it. -/
structure BatchSound (state : DrainState) (pass : FlushPass) (todo : List Nat)
    (batch : FlushBatch) : Prop where
  started : PassSound state pass
  later : TodoSound state [batch.segmentId] todo
  behind : ∀ segmentId ∈ todo, batch.segmentId < segmentId
  upTo : batch.segmentId ≤ state.wal.writer.segmentId
  within : ∀ segmentId ∈ batch.segmentId :: todo, segmentId ≤ pass.activeSegId
  first : ∀ entry, state.Pending entry → batch.segmentId ≤ entry.1
  beyond : ¬ covers state.checkpoint batch.segmentId batch.maxOffset
  /-- A pending record of the segment is in the batch, or was written after the read. -/
  read : ∀ entry, state.Pending entry → entry.1 = batch.segmentId →
    entry.2 ∈ batch.records ∨
      batch.maxOffset < entry.2.assignedOffset ∧ pass.activeSegId ≤ batch.segmentId

/-- What the flusher remembers of the state is still true of it. -/
def FlusherSound (state : DrainState) : FlusherPhase → Prop
  | .idle => True
  | .stopped => True
  | .loaded checkpoint => checkpoint = state.checkpoint
  | .listed checkpoint segments => checkpoint = state.checkpoint ∧ TodoSound state [] segments
  | .scanning pass todo =>
    PassSound state pass ∧ TodoSound state [] todo ∧
      (∀ segmentId ∈ todo, segmentId ≤ pass.activeSegId) ∧
      -- Until the pass saves, the checkpoint is its own, and then it lies behind the rest.
      ∀ segmentId ∈ todo, state.checkpoint = pass.checkpoint ∨
        ∀ saved ∈ state.checkpoint, saved.lastFlushedSegmentId < segmentId
  | .handing pass todo batch => BatchSound state pass todo batch
  | .saving pass todo batch =>
    BatchSound state pass todo batch ∧ ∀ entry ∈ batch.entries, entry ∈ state.delivered

/-- What the janitor remembers of the state is still true of it. -/
def JanitorSound (state : DrainState) : JanitorPhase → Prop
  | .idle => True
  | .loaded checkpoint => Older (some checkpoint) state.checkpoint
  | .listed checkpoint _ => Older (some checkpoint) state.checkpoint
  | .deleting checkpoint activeId _ =>
    Older (some checkpoint) state.checkpoint ∧ activeId ≤ state.wal.writer.segmentId

/-- What every step under the guard keeps true. -/
structure DrainState.Sound (crc : Bytes → UInt32) (state : DrainState) : Prop where
  wal : state.wal.Sound crc
  kept : ∀ entry, state.Pending entry → entry.1 ∈ state.wal.dir.segmentIds
  uncovered : ∀ entry, state.Pending entry →
    ¬ covers state.checkpoint entry.1 entry.2.assignedOffset
  flusher : FlusherSound state state.flusher
  janitor : JanitorSound state state.janitor

/-- The effect of the other actors on what the flusher relies on in a phase. -/
structure Grows (phase : FlusherPhase) (state next : DrainState) : Prop where
  checkpoint : next.checkpoint = state.checkpoint
  delivered : ∀ entry ∈ state.delivered, entry ∈ next.delivered
  active : state.wal.writer.segmentId ≤ next.wal.writer.segmentId
  /-- A record becomes pending in the active segment, above the batch in flight from there. -/
  pending : ∀ entry, next.Pending entry → state.Pending entry ∨
    entry.1 = next.wal.writer.segmentId ∧
      ∀ batch ∈ phase.inFlight, batch.segmentId = entry.1 →
        batch.maxOffset < entry.2.assignedOffset

theorem Older.refl (checkpoint : Option Checkpoint) : Older checkpoint checkpoint :=
  fun _ _ covered => covered

theorem Older.trans {first second third : Option Checkpoint} (one : Older first second)
    (two : Older second third) : Older first third :=
  fun segmentId offset covered => two segmentId offset (one segmentId offset covered)

/-- A checkpoint at a position the old one does not cover is younger than it. -/
theorem older_of_beyond {checkpoint : Option Checkpoint} {segmentId : Nat} {offset : UInt64}
    (beyond : ¬ covers checkpoint segmentId offset) :
    Older checkpoint
      (some { lastFlushedSegmentId := segmentId, lastFlushedOffset := offset }) := by
  intro other position covered
  cases checkpoint with
  | none => exact covered.elim
  | some saved =>
    simp only [covers, not_or, not_and, UInt64.not_le] at beyond covered ⊢
    rcases covered with before | ⟨same, below⟩
    · exact Or.inl (by omega)
    · -- The old position is in an earlier segment, or lower in the same one.
      by_cases here : segmentId = saved.lastFlushedSegmentId
      · right
        refine ⟨same.trans here.symm, ?_⟩
        exact UInt64.le_trans below (UInt64.le_of_lt (beyond.2 here))
      · exact Or.inl (by omega)

theorem TodoSound.grows {phase : FlusherPhase} {state next : DrainState} {current todo : List Nat}
    (sound : TodoSound state current todo) (grows : Grows phase state next) :
    TodoSound next current todo where
  sorted := sound.sorted
  upTo segmentId member := Nat.le_trans (sound.upTo segmentId member) grows.active
  frontier := by
    intro entry pending segmentId member before
    rcases grows.pending entry pending with old | ⟨active, _⟩
    · exact sound.frontier entry old segmentId member before
    · -- A new record is in the active segment, which no listed segment exceeds.
      have bound := sound.upTo segmentId member
      have larger := grows.active
      omega

theorem PassSound.grows {phase : FlusherPhase} {state next : DrainState} {pass : FlushPass}
    (sound : PassSound state pass) (grows : Grows phase state next) : PassSound next pass where
  older := grows.checkpoint ▸ sound.older
  active := Nat.le_trans sound.active grows.active

theorem BatchSound.grows {phase : FlusherPhase} {state next : DrainState} {pass : FlushPass}
    {todo : List Nat} {batch : FlushBatch} (sound : BatchSound state pass todo batch)
    (inFlight : phase.inFlight = some batch) (grows : Grows phase state next) :
    BatchSound next pass todo batch where
  started := sound.started.grows grows
  later := sound.later.grows grows
  behind := sound.behind
  upTo := Nat.le_trans sound.upTo grows.active
  within := sound.within
  first := by
    intro entry pending
    rcases grows.pending entry pending with old | ⟨active, _⟩
    · exact sound.first entry old
    · have bound := sound.upTo
      have larger := grows.active
      omega
  beyond := grows.checkpoint ▸ sound.beyond
  read := by
    intro entry pending here
    rcases grows.pending entry pending with old | ⟨active, above⟩
    · exact sound.read entry old here
    · -- The record was written after the batch was read from the active segment.
      right
      refine ⟨above batch inFlight here.symm, ?_⟩
      have started := (sound.started.grows grows).active
      omega

theorem FlusherSound.grows {phase : FlusherPhase} {state next : DrainState}
    (sound : FlusherSound state phase) (grows : Grows phase state next) :
    FlusherSound next phase := by
  -- What a phase remembers stays true when the log grows under it.
  cases phase with
  | idle => trivial
  | stopped => trivial
  | loaded checkpoint => exact sound.trans grows.checkpoint.symm
  | listed checkpoint segments =>
    exact ⟨sound.1.trans grows.checkpoint.symm, sound.2.grows grows⟩
  | scanning pass todo =>
    refine ⟨sound.1.grows grows, sound.2.1.grows grows, sound.2.2.1, ?_⟩
    rw [grows.checkpoint]
    exact sound.2.2.2
  | handing pass todo batch => exact BatchSound.grows sound rfl grows
  | saving pass todo batch =>
    exact ⟨sound.1.grows rfl grows,
      fun entry member => grows.delivered entry (sound.2 entry member)⟩

theorem JanitorSound.grows {state next : DrainState} (sound : JanitorSound state state.janitor)
    (older : Older state.checkpoint next.checkpoint)
    (active : state.wal.writer.segmentId ≤ next.wal.writer.segmentId) :
    JanitorSound next state.janitor := by
  -- A janitor may use an older checkpoint and an older active segment.
  cases phase : state.janitor with
  | idle => trivial
  | loaded checkpoint =>
    rw [phase] at sound
    exact sound.trans older
  | listed checkpoint segments =>
    rw [phase] at sound
    exact sound.trans older
  | deleting checkpoint activeId todo =>
    rw [phase] at sound
    exact ⟨sound.1.trans older, Nat.le_trans sound.2 active⟩

/-- What the steps other than the sink's own can do to the records that matter to a sink. -/
structure DrainEffect (state next : DrainState) (label : DrainLabel) : Prop where
  delivered : next.delivered = state.delivered
  checkpoint : next.checkpoint = state.checkpoint ∨ label = .saveOk
  written : ∀ entry ∈ next.wal.written, entry ∈ state.wal.written ∨
    label = .append .finishWrite ∧ entry.1 = state.wal.writer.segmentId ∧
      ∃ rest, state.wal.lock = some (entry.2, rest)
  /-- Inside the sink the flusher waits. -/
  waits : ∀ pass todo batch, state.flusher = .handing pass todo batch →
    next.flusher = state.flusher

theorem janitorStep_effect {state next : DrainState} {label : DrainLabel}
    (stepped : janitorStep state label = some next) : DrainEffect state next label := by
  -- The janitor touches its own phase and the segment files only.
  have same : next.delivered = state.delivered ∧ next.checkpoint = state.checkpoint ∧
      next.wal.written = state.wal.written ∧ next.flusher = state.flusher := by
    simp only [janitorStep] at stepped
    repeat' split at stepped
    all_goals
      cases stepped
      try exact ⟨rfl, rfl, rfl, rfl⟩
  obtain ⟨delivered, checkpoint, written, flusher⟩ := same
  refine ⟨delivered, Or.inl checkpoint, ?_, fun _ _ _ _ => flusher⟩
  exact fun entry member => Or.inl (written ▸ member)

theorem flusherStep_effect {crc : Bytes → UInt32} {state next : DrainState} {label : DrainLabel}
    (accepts : label ≠ .sinkOk) (refuses : label ≠ .sinkErr)
    (stepped : flusherStep crc state label = some next) : DrainEffect state next label := by
  -- Nothing but the sink's answer ends the phase in which it runs.
  have moved (phase : FlusherPhase)
      (outside : ∀ pass todo batch, state.flusher ≠ .handing pass todo batch) :
      DrainEffect state { state with flusher := phase } label :=
    ⟨rfl, Or.inl rfl, fun _ => Or.inl,
      fun pass todo batch inside => absurd inside (outside pass todo batch)⟩
  simp only [flusherStep] at stepped
  split at stepped
  · rename_i phase
    cases stepped
    exact moved _ (by simp [phase])
  · rename_i checkpoint phase
    split at stepped
    · cases stepped
      exact moved _ (by simp [phase])
    · cases stepped
      exact moved _ (by simp [phase])
  · rename_i checkpoint segments phase
    split at stepped
    · cases stepped
      exact moved _ (by simp [phase])
    · cases stepped
  · rename_i pass todo phase
    cases stepped
    exact moved _ (by simp [phase])
  · exact absurd rfl accepts
  · exact absurd rfl refuses
  · rename_i pass todo batch phase
    cases stepped
    exact ⟨rfl, Or.inr rfl, fun _ => Or.inl, by simp [phase]⟩
  · rename_i pass todo batch phase
    cases stepped
    exact moved _ (by simp [phase])
  · cases stepped

theorem drainStep_effect {crc : Bytes → UInt32} {segmentMaxBytes : Nat} {state next : DrainState}
    {label : DrainLabel} (accepts : label ≠ .sinkOk) (refuses : label ≠ .sinkErr)
    (stepped : drainStep crc segmentMaxBytes state label = some next) :
    DrainEffect state next label := by
  -- Appends and the janitor leave the flusher alone.
  cases label with
  | append label =>
    simp only [drainStep, Option.map_eq_some_iff] at stepped
    obtain ⟨wal, stepped, rfl⟩ := stepped
    refine ⟨rfl, Or.inl rfl, ?_, fun _ _ _ _ => rfl⟩
    intro entry member
    rcases (appendStep_effect stepped).written entry member with old | ⟨rfl, here, _, locked⟩
    · exact Or.inl old
    · exact Or.inr ⟨rfl, here, locked⟩
  | janitorLoad => exact janitorStep_effect stepped
  | janitorList => exact janitorStep_effect stepped
  | janitorActive => exact janitorStep_effect stepped
  | janitorVisit removed => exact janitorStep_effect stepped
  | sinkOk => exact absurd rfl accepts
  | sinkErr => exact absurd rfl refuses
  | _ => exact flusherStep_effect accepts refuses stepped

namespace DrainState.Sound

variable {crc : Bytes → UInt32} {segmentMaxBytes : Nat} {state next : DrainState}

/-- A write that is ordered among the flushed offsets is a clean step of the append. -/
theorem clean {label : AppendLabel}
    (guard : OrderedWrite crc segmentMaxBytes state (.append label)) :
    CleanAppend crc segmentMaxBytes state.wal label := by
  -- Only taking an offset and locking the writer ask for anything.
  cases label with
  | finishWrite => trivial
  | takeOffset record => exact guard
  | lockWriter index => exact guard
  | abandon index => trivial
  | writeBytes count => trivial
  | failWrite => trivial

/-- A producer's step makes at most the record under the lock pending. -/
theorem append (sound : state.Sound crc) {label : AppendLabel}
    (guard : OrderedWrite crc segmentMaxBytes state (.append label)) {wal : WalState}
    (stepped : appendStep crc segmentMaxBytes state.wal label = some wal) :
    ({ state with wal := wal } : DrainState).Sound crc := by
  have effect := appendStep_effect stepped
  -- A new pending record is the one under the lock, and the guard speaks about it.
  have pending : ∀ entry, ({ state with wal := wal } : DrainState).Pending entry →
      state.Pending entry ∨
        (entry.1 = state.wal.writer.segmentId ∧ wal.writer.segmentId = state.wal.writer.segmentId ∧
          ¬ covers state.checkpoint state.wal.writer.segmentId entry.2.assignedOffset ∧
          ∀ batch ∈ state.flusher.inFlight, batch.segmentId = state.wal.writer.segmentId →
            batch.maxOffset < entry.2.assignedOffset) := by
    rintro entry ⟨written, undelivered⟩
    rcases effect.written entry written with old | ⟨rfl, here, same, rest, locked⟩
    · exact Or.inl ⟨old, undelivered⟩
    · obtain ⟨beyond, above⟩ := guard (entry.2, rest) locked
      exact Or.inr ⟨here, same, beyond, above⟩
  have grows : Grows state.flusher state { state with wal := wal } := by
    refine ⟨rfl, fun _ member => member, effect.active, ?_⟩
    intro entry isPending
    rcases pending entry isPending with old | ⟨here, same, _, above⟩
    · exact Or.inl old
    · exact Or.inr ⟨here.trans same.symm, fun batch flying at_ =>
        above batch flying (at_.trans here)⟩
  refine ⟨sound.wal.step (clean guard) stepped, ?_, ?_, sound.flusher.grows grows,
    sound.janitor.grows (Older.refl _) effect.active⟩
  · intro entry isPending
    rcases pending entry isPending with old | ⟨here, _⟩
    · exact effect.segments _ (sound.kept entry old)
    · rw [here]
      exact effect.segments _ sound.wal.active
  · intro entry isPending
    rcases pending entry isPending with old | ⟨here, _, beyond, _⟩
    · exact sound.uncovered entry old
    · rw [here]
      exact beyond

/-- A step that only moves the flusher keeps everything but the flusher's own memory. -/
theorem moveFlusher (sound : state.Sound crc) {phase : FlusherPhase}
    (remembers : FlusherSound state phase) :
    ({ state with flusher := phase } : DrainState).Sound crc := by
  have grows : Grows phase state { state with flusher := phase } :=
    ⟨rfl, fun _ member => member, Nat.le_refl _, fun _ pending => Or.inl pending⟩
  exact ⟨sound.wal, sound.kept, sound.uncovered, remembers.grows grows,
    sound.janitor.grows (Older.refl _) (Nat.le_refl _)⟩

/-- A pending record is read by a pass that visits its segment. -/
theorem pending_read (sound : state.Sound crc) {pass : FlushPass}
    (older : Older pass.checkpoint state.checkpoint) {entry : Nat × WalRecord}
    (pending : state.Pending entry) :
    startSegmentId pass.checkpoint ≤ entry.1 ∧
      entry.2 ∈ pendingRecords crc state.wal.dir pass.checkpoint entry.1 := by
  -- A pending record is not covered by the checkpoint of the pass.
  have uncovered : ¬ covers pass.checkpoint entry.1 entry.2.assignedOffset := fun covered =>
    sound.uncovered entry pending (older _ _ covered)
  have readable : entry.2 ∈ readableRecords crc (state.wal.dir.contents entry.1) := by
    rw [(sound.wal.files entry.1 (sound.kept entry pending)).readable]
    exact mem_recordsIn.mpr pending.1
  -- So it is read, since nothing before it says that it was flushed.
  cases checkpoint : pass.checkpoint with
  | none => exact ⟨Nat.zero_le _, List.mem_filter.mpr ⟨readable, rfl⟩⟩
  | some saved =>
    simp only [checkpoint, covers, not_or, not_and] at uncovered
    refine ⟨Nat.le_of_not_lt uncovered.1, List.mem_filter.mpr ⟨readable, ?_⟩⟩
    simp only [alreadyFlushed, Bool.not_eq_true', Bool.and_eq_false_iff, decide_eq_false_iff_not,
      beq_eq_false_iff_ne]
    by_cases here : entry.1 = saved.lastFlushedSegmentId
    · exact Or.inl (uncovered.2 here)
    · exact Or.inr here

/-- Visiting a segment that leaves no pending record in it moves the frontier behind it. -/
theorem todo_next {segmentId : Nat} {rest : List Nat}
    (todo : TodoSound state [] (segmentId :: rest))
    (drained : ∀ entry, state.Pending entry → entry.1 ≠ segmentId) :
    TodoSound state [] rest where
  sorted := todo.sorted.of_cons
  upTo other member := todo.upTo other (List.mem_cons_of_mem _ member)
  frontier := by
    intro entry pending other member before
    have listed := todo.frontier entry pending other (List.mem_cons_of_mem _ member) before
    exact (List.mem_cons.mp listed).resolve_left (drained entry pending)

/-- A batch that a pass has just read lies beyond the saved checkpoint. -/
theorem batch_beyond {pass : FlushPass} {segmentId : Nat} {maxOffset : UInt64}
    (from_start : startSegmentId pass.checkpoint ≤ segmentId)
    (highest : maxOffsetInBatch (pendingRecords crc state.wal.dir pass.checkpoint segmentId) =
      some maxOffset)
    (ahead : state.checkpoint = pass.checkpoint ∨
      ∀ saved ∈ state.checkpoint, saved.lastFlushedSegmentId < segmentId) :
    ¬ covers state.checkpoint segmentId maxOffset := by
  cases checkpoint : state.checkpoint with
  | none => exact id
  | some saved =>
    rw [checkpoint] at ahead
    rintro (before | ⟨here, below⟩)
    · rcases ahead with own | behind
      · rw [← own] at from_start
        exact absurd before (Nat.not_lt.mpr from_start)
      · exact absurd before (Nat.lt_asymm (behind saved rfl))
    · rcases ahead with own | behind
      · -- The skip test has let only higher offsets of this segment through.
        obtain ⟨⟨record, member⟩, bound⟩ := maxOffsetInBatch_spec highest
        have passed := (List.mem_filter.mp member).2
        rw [← own] at passed
        have skipped : record.assignedOffset ≤ saved.lastFlushedOffset :=
          UInt64.le_trans (bound record member) below
        simp [alreadyFlushed, skipped, here] at passed
      · exact absurd here (Nat.ne_of_gt (behind saved rfl))

/-- The loop body of a pass reads a batch, moves on, or ends the pass. -/
theorem visit (sound : state.Sound crc) {pass : FlushPass} {todo : List Nat}
    (phase : state.flusher = .scanning pass todo) :
    ({ state with flusher := flushRead crc state.wal.dir pass todo } : DrainState).Sound crc := by
  apply sound.moveFlusher
  have remembers := sound.flusher
  rw [phase] at remembers
  obtain ⟨started, listed, within, ahead⟩ := remembers
  cases todo with
  | nil => trivial
  | cons segmentId rest =>
    have read : ∀ entry, state.Pending entry → startSegmentId pass.checkpoint ≤ entry.1 ∧
        entry.2 ∈ pendingRecords crc state.wal.dir pass.checkpoint entry.1 :=
      fun entry pending => sound.pending_read started.older pending
    have movesOn (drained : ∀ entry, state.Pending entry → entry.1 ≠ segmentId) :
        FlusherSound state (.scanning pass rest) :=
      ⟨started, todo_next listed drained,
        fun other member => within other (List.mem_cons_of_mem _ member),
        fun other member => ahead other (List.mem_cons_of_mem _ member)⟩
    have visit := flushRead_visit crc state.wal.dir pass segmentId rest
    generalize flushRead crc state.wal.dir pass (segmentId :: rest) = reached at visit
    cases visit with
    | broken => trivial
    | dead => trivial
    | skipped before =>
      refine movesOn fun entry pending here => ?_
      have atLeast := (read entry pending).1
      omega
    | drained from_start none =>
      by_cases active : segmentId = pass.activeSegId
      · rw [FlusherPhase.next, if_pos active]
        trivial
      · rw [FlusherPhase.next, if_neg active]
        refine movesOn fun entry pending here => ?_
        have member := (read entry pending).2
        rw [here, none] at member
        cases member
    | batch maxOffset from_start highest =>
      have head : segmentId ∈ segmentId :: rest := List.mem_cons_self
      have behind : ∀ other ∈ rest, segmentId < other :=
        fun other member => List.rel_of_pairwise_cons listed.sorted member
      exact {
        started := started
        later := ⟨listed.sorted.of_cons,
          fun other member => listed.upTo other (List.mem_cons_of_mem _ member),
          fun entry pending other member before =>
            listed.frontier entry pending other (List.mem_cons_of_mem _ member) before⟩
        behind := behind
        upTo := listed.upTo segmentId head
        within := within
        first := by
          -- A pending record in an earlier segment would have to be on the list.
          intro entry pending
          show segmentId ≤ entry.1
          apply Nat.le_of_not_lt
          intro before
          rcases List.mem_cons.mp (listed.frontier entry pending segmentId head before) with
            same | later
          · omega
          · exact absurd (behind _ later) (Nat.lt_asymm before)
        beyond := batch_beyond from_start highest (ahead segmentId head)
        read := by
          intro entry pending here
          have member := (read entry pending).2
          rw [here] at member
          exact Or.inl member }

/-- The sink accepts a batch, and its records stop being pending. -/
theorem sinkOk (sound : state.Sound crc) {pass : FlushPass} {todo : List Nat} {batch : FlushBatch}
    (phase : state.flusher = .handing pass todo batch) :
    ({ state with
      flusher := .saving pass todo batch
      delivered := state.delivered ++ batch.entries } : DrainState).Sound crc := by
  let accepted : DrainState :=
    { state with
      flusher := .saving pass todo batch
      delivered := state.delivered ++ batch.entries }
  -- What is pending afterwards was pending before.
  have pending : ∀ entry, accepted.Pending entry → state.Pending entry :=
    fun entry isPending =>
      ⟨isPending.1, fun delivered => isPending.2 (List.mem_append_left _ delivered)⟩
  have grows : Grows state.flusher state accepted :=
    ⟨rfl, fun _ member => List.mem_append_left _ member, Nat.le_refl _,
      fun entry isPending => Or.inl (pending entry isPending)⟩
  have remembers := sound.flusher
  rw [phase] at remembers
  refine ⟨sound.wal, fun entry isPending => sound.kept entry (pending entry isPending),
    fun entry isPending => sound.uncovered entry (pending entry isPending), ?_,
    sound.janitor.grows (Older.refl _) (Nat.le_refl _)⟩
  exact ⟨BatchSound.grows remembers (by rw [phase]; rfl) grows,
    fun entry member => List.mem_append_right _ member⟩

/-- Saving the checkpoint covers the batch, and no pending record with it. -/
theorem saveOk (sound : state.Sound crc) {pass : FlushPass} {todo : List Nat} {batch : FlushBatch}
    (phase : state.flusher = .saving pass todo batch) :
    ({ state with
      flusher := .next pass batch.segmentId todo
      checkpoint := some { lastFlushedSegmentId := batch.segmentId,
                           lastFlushedOffset := batch.maxOffset } } : DrainState).Sound crc := by
  have remembers := sound.flusher
  rw [phase] at remembers
  obtain ⟨held, accepted⟩ := remembers
  have younger := older_of_beyond held.beyond
  -- What is pending in the segment was written after the batch was read.
  have late : ∀ entry, state.Pending entry → entry.1 = batch.segmentId →
      batch.maxOffset < entry.2.assignedOffset ∧ pass.activeSegId ≤ batch.segmentId := by
    intro entry pending here
    refine (held.read entry pending here).resolve_left fun member => pending.2 (accepted entry ?_)
    exact List.mem_map.mpr ⟨entry.2, member, Prod.ext here.symm rfl⟩
  refine ⟨sound.wal, sound.kept, ?_, ?_, sound.janitor.grows younger (Nat.le_refl _)⟩
  · intro entry pending
    have first := held.first entry pending
    rintro (before | ⟨here, below⟩)
    · simp only at before
      omega
    · exact absurd below (UInt64.not_le.mpr (late entry pending here).1)
  · show FlusherSound _ (FlusherPhase.next pass batch.segmentId todo)
    by_cases active : batch.segmentId = pass.activeSegId
    · rw [FlusherPhase.next, if_pos active]
      trivial
    · rw [FlusherPhase.next, if_neg active]
      have before : batch.segmentId < pass.activeSegId :=
        Nat.lt_of_le_of_ne (held.within _ List.mem_cons_self) active
      refine ⟨⟨held.started.older.trans younger, held.started.active⟩,
        ⟨held.later.sorted, held.later.upTo, ?_⟩, ?_, ?_⟩
      · intro entry pending other member below
        rcases List.mem_cons.mp (held.later.frontier entry pending other member below) with
          here | later
        · have after := (late entry pending here).2
          omega
        · exact later
      · exact fun other member => held.within other (List.mem_cons_of_mem _ member)
      · intro other member
        right
        rintro saved ⟨⟩
        exact held.behind other member

/-- A step that only moves the janitor keeps everything but the janitor's own memory. -/
theorem moveJanitor (sound : state.Sound crc) {phase : JanitorPhase}
    (remembers : JanitorSound { state with janitor := phase } phase) :
    ({ state with janitor := phase } : DrainState).Sound crc := by
  have grows : Grows state.flusher state { state with janitor := phase } :=
    ⟨rfl, fun _ member => member, Nat.le_refl _, fun _ pending => Or.inl pending⟩
  exact ⟨sound.wal, sound.kept, sound.uncovered, sound.flusher.grows grows, remembers⟩

/-- Deleting a sealed segment keeps the WAL sound. -/
theorem removeFile {wal : WalState} (sound : wal.Sound crc) {segmentId : Nat}
    (sealed : segmentId < wal.writer.segmentId) :
    ({ wal with dir := wal.dir.removeFile segmentId } : WalState).Sound crc := by
  refine { sound with active := ?_, last := ?_, files := ?_ }
  · exact WalDir.mem_removeFile.mpr ⟨sound.active, Nat.ne_of_gt sealed⟩
  · exact fun other member => sound.last other (WalDir.mem_removeFile.mp member).1
  · exact fun other member => sound.files other (WalDir.mem_removeFile.mp member).1

/-- The janitor deletes only segments in front of the checkpoint, where nothing is pending. -/
theorem delete (sound : state.Sound crc) {checkpoint : Checkpoint} {activeId segmentId : Nat}
    {rest : List Nat} (phase : state.janitor = .deleting checkpoint activeId (segmentId :: rest))
    (chosen : deletes checkpoint activeId segmentId = true) :
    ({ state with
      wal := { state.wal with dir := state.wal.dir.removeFile segmentId }
      janitor := .deleting checkpoint activeId rest } : DrainState).Sound crc := by
  have remembers := sound.janitor
  rw [phase] at remembers
  obtain ⟨older, active⟩ := remembers
  simp only [deletes, Bool.and_eq_true, decide_eq_true_eq] at chosen
  let deleted : DrainState :=
    { state with
      wal := { state.wal with dir := state.wal.dir.removeFile segmentId }
      janitor := .deleting checkpoint activeId rest }
  have grows : Grows state.flusher state deleted :=
    ⟨rfl, fun _ member => member, Nat.le_refl _, fun _ pending => Or.inl pending⟩
  refine ⟨removeFile sound.wal (Nat.lt_of_lt_of_le chosen.1 active), ?_, sound.uncovered,
    sound.flusher.grows grows, ⟨older, active⟩⟩
  intro entry pending
  refine WalDir.mem_removeFile.mpr ⟨sound.kept entry pending, ?_⟩
  -- A pending record in the deleted segment would be covered by the janitor's checkpoint.
  intro here
  exact sound.uncovered entry pending (older _ _ (Or.inl (here ▸ chosen.2)))

theorem janitorStep (sound : state.Sound crc) {label : DrainLabel}
    (stepped : Wal.janitorStep state label = some next) : next.Sound crc := by
  have remembers := sound.janitor
  simp only [Wal.janitorStep] at stepped
  split at stepped
  · -- Loading the checkpoint.
    split at stepped
    · cases stepped
      exact sound
    · rename_i checkpoint saved
      cases stepped
      exact sound.moveJanitor (saved ▸ Older.refl _)
  · rename_i checkpoint phase
    cases stepped
    rw [phase] at remembers
    exact sound.moveJanitor remembers
  · rename_i checkpoint segments phase
    split at stepped
    · cases stepped
      rw [phase] at remembers
      exact sound.moveJanitor ⟨remembers, Nat.le_refl _⟩
    · cases stepped
  · cases stepped
    exact sound.moveJanitor trivial
  · rename_i checkpoint activeId segmentId rest removed phase
    split at stepped
    · rename_i chosen
      cases stepped
      exact sound.delete phase (Bool.and_eq_true_iff.mp chosen).1
    · cases stepped
      rw [phase] at remembers
      exact sound.moveJanitor remembers
  · cases stepped

theorem flusherStep (sound : state.Sound crc) {label : DrainLabel}
    (stepped : Wal.flusherStep crc state label = some next) : next.Sound crc := by
  have remembers := sound.flusher
  simp only [Wal.flusherStep] at stepped
  split at stepped
  · cases stepped
    exact sound.moveFlusher rfl
  · rename_i checkpoint phase
    rw [phase] at remembers
    split at stepped
    · cases stepped
      exact sound.moveFlusher trivial
    · -- Every segment with a pending record is listed.
      cases stepped
      refine sound.moveFlusher ⟨remembers, state.wal.dir.sorted, sound.wal.last, ?_⟩
      exact fun entry pending _ _ _ => sound.kept entry pending
  · rename_i checkpoint segments phase
    rw [phase] at remembers
    split at stepped
    · cases stepped
      obtain ⟨rfl, listed⟩ := remembers
      exact sound.moveFlusher ⟨⟨Older.refl _, Nat.le_refl _⟩, listed, listed.upTo,
        fun _ _ => Or.inl rfl⟩
    · cases stepped
  · rename_i pass todo phase
    cases stepped
    exact sound.visit phase
  · rename_i pass todo batch phase
    cases stepped
    exact sound.sinkOk phase
  · cases stepped
    exact sound.moveFlusher trivial
  · rename_i pass todo batch phase
    cases stepped
    exact sound.saveOk phase
  · cases stepped
    exact sound.moveFlusher trivial
  · cases stepped

/-- Each step keeps the state sound, as long as writes are ordered among the flushed offsets. -/
theorem step (sound : state.Sound crc) {label : DrainLabel}
    (guard : OrderedWrite crc segmentMaxBytes state label)
    (stepped : drainStep crc segmentMaxBytes state label = some next) : next.Sound crc := by
  -- Appends, the janitor and the flusher take their steps independently.
  cases label with
  | append label =>
    simp only [drainStep, Option.map_eq_some_iff] at stepped
    obtain ⟨wal, stepped, rfl⟩ := stepped
    exact sound.append guard stepped
  | janitorLoad => exact sound.janitorStep stepped
  | janitorList => exact sound.janitorStep stepped
  | janitorActive => exact sound.janitorStep stepped
  | janitorVisit removed => exact sound.janitorStep stepped
  | _ => exact sound.flusherStep stepped

/-- A pending record is handed over by the part of a pass that still has to visit its segment. -/
theorem mem_flushSegments (sound : state.Sound crc) {entry : Nat × WalRecord}
    (pending : state.Pending entry) :
    ∀ todo : List Nat, todo.Pairwise (· < ·) →
      (∀ segmentId ∈ todo, segmentId ∈ state.wal.dir.segmentIds) → entry.1 ∈ todo →
      entry ∈ flushSegments crc state.wal.dir ⟨state.checkpoint, state.wal.writer.segmentId⟩
        todo := by
  intro todo
  let pass : FlushPass := ⟨state.checkpoint, state.wal.writer.segmentId⟩
  obtain ⟨from_start, member⟩ := sound.pending_read (Older.refl pass.checkpoint) pending
  induction todo with
  | nil => intro _ _ absent; cases absent
  | cons segmentId rest ih =>
    intro sorted listed member_todo
    have later := ih sorted.of_cons fun other member => listed other (List.mem_cons_of_mem _ member)
    have holds := sound.wal.files segmentId (listed segmentId List.mem_cons_self)
    simp only [flushSegments]
    by_cases before : segmentId < startSegmentId state.checkpoint
    · -- Segments in front of the checkpoint hold nothing pending.
      have other : entry.1 ≠ segmentId := by
        intro here
        have atLeast : startSegmentId state.checkpoint ≤ entry.1 := from_start
        omega
      have skipped : flushRead crc state.wal.dir pass (segmentId :: rest) = .scanning pass rest := by
        simp [flushRead, pass, before]
      rw [skipped]
      exact later ((List.mem_cons.mp member_todo).resolve_left other)
    · rw [flushRead_holds rest (Nat.le_of_not_lt before) (listed segmentId List.mem_cons_self) holds]
      by_cases here : entry.1 = segmentId
      · -- The record is in the batch of its own segment.
        subst here
        cases highest : maxOffsetInBatch
            (pendingRecords crc state.wal.dir state.checkpoint entry.1) with
        | none =>
          rw [maxOffsetInBatch_eq_none.mp highest] at member
          cases member
        | some maxOffset =>
          exact List.mem_append_left _ (List.mem_map.mpr ⟨entry.2, member, rfl⟩)
      · -- A later segment is active or lies behind this one, so the pass does not end here.
        have behind := (List.mem_cons.mp member_todo).resolve_left here
        have larger : segmentId < entry.1 := List.rel_of_pairwise_cons sorted behind
        have bound := sound.wal.last entry.1 (sound.kept entry pending)
        have notActive : segmentId ≠ state.wal.writer.segmentId := by omega
        cases maxOffsetInBatch (pendingRecords crc state.wal.dir state.checkpoint segmentId) with
        | none =>
          simp only [FlusherPhase.next, notActive, ↓reduceIte]
          exact later behind
        | some maxOffset =>
          simp only [notActive, ↓reduceIte]
          exact List.mem_append_right _ (later behind)

theorem atLeastOnce (sound : state.Sound crc) : AtLeastOnce crc state := by
  -- A written record was delivered, or the next pass over the segments hands it over.
  intro entry written
  by_cases delivered : entry ∈ state.delivered
  · exact Or.inl delivered
  · have pending : state.Pending entry := ⟨written, delivered⟩
    have listed := sound.kept entry pending
    exact Or.inr ⟨listed, sound.mem_flushSegments pending _ state.wal.dir.sorted
      (fun _ member => member) listed⟩

end DrainState.Sound

/-- An opened WAL with an idle flusher and janitor, and what earlier processes left behind. -/
def DrainState.ofOpened (crc : Bytes → UInt32) (opened : OpenedWal)
    (checkpoint : Option Checkpoint) (delivered : List (Nat × WalRecord)) : DrainState where
  wal := .ofOpened crc opened
  checkpoint := checkpoint
  flusher := .idle
  janitor := .idle
  delivered := delivered

/--
While every write lands above the offsets flushed or in flight from its segment, no record is lost.

The run may interleave any number of producers with the passes of the flusher and the janitor.
It starts from any opened directory whose checkpoint covers delivered records only.
-/
theorem wal_delivers_at_least_once (crc : Bytes → UInt32) (segmentMaxBytes : Nat) (dir : WalDir)
    (sound : dir.Sound crc) (opened : OpenedWal)
    (started : walOpen crc segmentMaxBytes dir = .ok opened) (checkpoint : Option Checkpoint)
    (delivered : List (Nat × WalRecord))
    (truthful : ∀ entry ∈ presentRecords crc opened.dir,
      covers checkpoint entry.1 entry.2.assignedOffset → entry ∈ delivered)
    (labels : List DrainLabel)
    (ordered : Guarded (drainStep crc segmentMaxBytes) (OrderedWrite crc segmentMaxBytes)
      (.ofOpened crc opened checkpoint delivered) labels)
    (state : DrainState)
    (reached : run (drainStep crc segmentMaxBytes) (.ofOpened crc opened checkpoint delivered)
      labels = some state) :
    AtLeastOnce crc state := by
  -- After the opening nothing is lost that the checkpoint does not name.
  have start : (DrainState.ofOpened crc opened checkpoint delivered).Sound crc := by
    refine ⟨.start sound started, ?_, ?_, trivial, trivial⟩
    · exact fun entry pending => (mem_presentRecords.mp pending.1).1
    · exact fun entry pending covered => pending.2 (truthful entry pending.1 covered)
  -- The invariant is kept by every ordered step.
  have final := run_invariant (fun _ _ _ holds guard stepped =>
    DrainState.Sound.step holds guard stepped) start ordered reached
  exact final.atLeastOnce

/-- A fresh WAL, nothing flushed and nothing delivered. -/
def DrainState.fresh (crc : Bytes → UInt32) : DrainState :=
  .ofOpened crc freshOpened none []

/-- One record is written and flushed, and a second one is written behind it. -/
def flushBetweenWrites : List DrainLabel :=
  [.append (.takeOffset sampleRecord), .append (.lockWriter 0), .append .finishWrite, .flushLoad,
    .flushList, .flushActive, .flushRead, .sinkOk, .saveOk, .append (.takeOffset sampleRecord),
    .append (.lockWriter 0), .append .finishWrite]

theorem wal_delivers_in_order :
    ∃ state, run (drainStep (fun _ => 0) 1000) (.fresh fun _ => 0) flushBetweenWrites = some state ∧
      state.wal.written.length = 2 ∧ AtLeastOnce (fun _ => 0) state := by
  refine ⟨_, rfl, rfl, ?_⟩
  exact wal_delivers_at_least_once (fun _ => 0) 1000 .empty (WalDir.empty_sound _) _ rfl none []
    (by decide) flushBetweenWrites (by decide) _ rfl

/-- Two producers take offsets, the later one writes first, and a pass reads its record. -/
def laterWritesFirst : List DrainLabel :=
  [.append (.takeOffset sampleRecord), .append (.takeOffset sampleRecord), .append (.lockWriter 1),
    .append .finishWrite, .flushLoad, .flushList, .flushActive]

/-- The pass saves its checkpoint, and the earlier offset is written below it. -/
def earlierWritesLast : List DrainLabel :=
  [.flushRead, .sinkOk, .saveOk, .append (.lockWriter 0), .append .finishWrite]

/-- A record whose offset was taken before a flushed one and written after it is never handed over. -/
theorem wal_skips_late_write :
    ¬ ∃ crc : Bytes → UInt32, ∀ segmentMaxBytes labels state,
      run (drainStep crc segmentMaxBytes) (.fresh crc) labels = some state →
        AtLeastOnce crc state := by
  rintro ⟨crc, claim⟩
  let early : WalRecord := { sampleRecord with assignedOffset := 0 }
  let late : WalRecord := { sampleRecord with assignedOffset := 1 }
  let waiting : WalState := ((WalState.fresh crc).takeOffset sampleRecord).takeOffset sampleRecord
  let wroteLate : WalState :=
    ((waiting.acquire crc 1 late).writeActive (late.serialize crc)).finish crc late
  let wroteBoth : WalState :=
    ((wroteLate.acquire crc 0 early).writeActive (early.serialize crc)).finish crc early
  let saved : Checkpoint := { lastFlushedSegmentId := 0, lastFlushedOffset := 1 }
  let final : DrainState := ⟨wroteBoth, some saved, .idle, .idle, [(0, late)]⟩
  have first : run (drainStep crc 1000) (.fresh crc) laterWritesFirst =
      some ⟨wroteLate, none, .scanning ⟨none, 0⟩ [0], .idle, []⟩ := rfl
  have fits : ∀ record ∈ [late, early], record.Fits := by decide
  -- The pass reads the one record that is in the file.
  have holdsLate : HoldsRecords crc 0 [late] (wroteLate.dir.contents 0) := by
    have contents : wroteLate.dir.contents 0 = segmentHeader 0 ++ late.serialize crc := rfl
    rw [contents]
    simpa [segmentBytes] using holdsRecords_whole crc 0 (fun record member =>
      fits record (List.mem_of_mem_take (i := 1) member))
  have read : flushRead crc wroteLate.dir ⟨none, 0⟩ [0] = .handing ⟨none, 0⟩ [] ⟨0, [late], 1⟩ := by
    have pending : pendingRecords crc wroteLate.dir none 0 = [late] := by
      rw [pendingRecords, holdsLate.readable]
      rfl
    rw [flushRead_holds [] (Nat.zero_le _) List.mem_cons_self holdsLate, pending]
    rfl
  have second : run (drainStep crc 1000)
      ⟨wroteLate, none, .scanning ⟨none, 0⟩ [0], .idle, []⟩ earlierWritesLast = some final := by
    simp only [earlierWritesLast, run, drainStep, flusherStep, read]
    rfl
  have reached : run (drainStep crc 1000) (.fresh crc) (laterWritesFirst ++ earlierWritesLast) =
      some final := (run_append _ first _).trans second
  rcases claim 1000 _ final reached (0, early) (List.mem_of_getLast? rfl) with delivered | ⟨_, handed⟩
  · have same : (0, early) = (0, late) := List.mem_singleton.mp delivered
    exact absurd same (by decide)
  · -- Both records of the segment are at or below the saved offset.
    have holdsBoth : HoldsRecords crc 0 [late, early] (wroteBoth.dir.contents 0) := by
      have contents : wroteBoth.dir.contents 0 =
          (segmentHeader 0 ++ late.serialize crc) ++ early.serialize crc := rfl
      rw [contents]
      simpa [segmentBytes] using holdsRecords_whole crc 0 fits
    have pending : pendingRecords crc wroteBoth.dir (some saved) 0 = [] := by
      rw [pendingRecords, holdsBoth.readable]
      rfl
    have nothing : handedByPass crc final = [] := by
      show flushSegments crc wroteBoth.dir ⟨some saved, 0⟩ [0] = []
      rw [flushSegments, flushRead_holds [] (Nat.zero_le _) List.mem_cons_self holdsBoth, pending]
      rfl
    rw [nothing] at handed
    cases handed

end Zradar.Wal
