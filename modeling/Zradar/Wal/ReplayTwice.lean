import Zradar.Wal.Replay

/-! What a replay hands over, and what a second one would hand over again. -/

namespace Zradar.Wal

/-- The sink takes every batch, and so does the file system every truncation. -/
structure ReplayEnv.Faultless (env : ReplayEnv) : Prop where
  sink : ∀ handed, env.sink handed = .ok ()
  truncate : ∀ segmentId, env.truncate segmentId = .ok ()

/-- A file that opens, and that is read to its end or to a record that is refused. -/
def Opens (crc : Bytes → UInt32) (file : Bytes) : Prop :=
  ∃ scan, readSegment crc file = .ok scan ∧ scan.ending ≠ .panicked

/-- Every segment that a replay visits can be read. -/
def Replayable (crc : Bytes → UInt32) (checkpoint : Option Checkpoint) (dir : WalDir) : Prop :=
  ∀ segmentId ∈ dir.segmentIds, startSegmentId checkpoint ≤ segmentId →
    Opens crc (dir.contents segmentId)

/-- The records of a directory that a checkpoint does not cover, in the order of the files. -/
def uncoveredRecords (crc : Bytes → UInt32) (checkpoint : Option Checkpoint) (dir : WalDir) :
    List (Nat × WalRecord) :=
  (presentRecords crc dir).filter fun entry =>
    ¬ covers checkpoint entry.1 entry.2.assignedOffset

/-- The batches that the uncovered records of some segments are cut into. -/
def handedBatches (env : ReplayEnv) (checkpoint : Option Checkpoint) (dir : WalDir)
    (segments : List Nat) : List (Nat × List WalRecord) :=
  segments.flatMap fun segmentId =>
    if segmentId < startSegmentId checkpoint then []
    else (batches replaySize env.replayBatchMaxBytes
      (pendingRecords env.crc dir checkpoint segmentId)).map (Prod.mk segmentId)

/-- A replay delivers every record that the checkpoint does not cover, and each of them once. -/
def ReplayExact (env : ReplayEnv) (checkpoint : Option Checkpoint) (dir : WalDir) : Prop :=
  ∃ final, replay env checkpoint dir = .ok final ∧
    final.delivered = uncoveredRecords env.crc checkpoint dir

/-- A second replay, from the checkpoint that the first one left, delivers nothing. -/
def ReplayIdempotent (env : ReplayEnv) (checkpoint : Option Checkpoint) (dir : WalDir) : Prop :=
  ∃ final again, replay env checkpoint dir = .ok final ∧
    replay env (checkpointAfter checkpoint final) final.dir = .ok again ∧ again.delivered = []

/-- In the last segment with a batch, no uncovered record lies above all of the last batch. -/
def LastBatchHighest (env : ReplayEnv) (checkpoint : Option Checkpoint) (dir : WalDir) : Prop :=
  ∀ last ∈ (handedBatches env checkpoint dir dir.segmentIds).getLast?,
    ∀ record ∈ pendingRecords env.crc dir checkpoint last.1,
      ∃ other ∈ last.2, record.assignedOffset ≤ other.assignedOffset

instance (env : ReplayEnv) (checkpoint : Option Checkpoint) (dir : WalDir) :
    Decidable (LastBatchHighest env checkpoint dir) :=
  inferInstanceAs (Decidable (∀ last ∈ _, ∀ record ∈ _, ∃ other ∈ _, _))

/-- A directory whose segments hold records, and torn parts behind them at most, can be replayed. -/
theorem WalDir.Sound.replayable {crc : Bytes → UInt32} {dir : WalDir} (sound : dir.Sound crc)
    (checkpoint : Option Checkpoint) : Replayable crc checkpoint dir := by
  -- A segment of a sound directory is whole, or torn behind a last record.
  intro segmentId listed _
  obtain ⟨records, holds⟩ := sound segmentId listed
  obtain ⟨ending, read, clean, torn⟩ := holds.readSegment
  refine ⟨_, read, ?_⟩
  by_cases whole : dir.contents segmentId = segmentBytes crc segmentId records
  · simp [clean whole]
  -- A torn segment ends with an error, which is no panic.
  · obtain ⟨error, _, failed⟩ := torn whole
    simp [failed]

/-! Reading a segment again after it was truncated. -/

section

variable {crc : Bytes → UInt32}

/-- A record is decoded from its own encoding. -/
theorem decodeRecord_canonical (pos : Nat) (stream : Bytes) (record : WalRecord) (used : Nat)
    (decoded : decodeRecord crc pos stream = .ok (record, used)) :
    record.Fits ∧ stream.take used = record.serialize crc := by
  -- A record is decoded only from the bytes it is encoded to.
  unfold decodeRecord at decoded
  cases inner : WalRecord.deserialize crc pos stream with
  | ok result =>
    rw [inner] at decoded
    cases decoded
    exact WalRecord.serialize_of_deserialize inner
  | err error => simp [inner] at decoded
  | panicked => simp [inner] at decoded

/-- A file that is truncated behind its good records holds them and nothing else. -/
theorem readSegment_truncated {file : Bytes} {scan : Scan WalRecord SegmentError}
    (read : readSegment crc file = .ok scan) :
    ∃ pos, readSegment crc (file.take scan.pos) = .ok ⟨scan.items, pos, .eof⟩ := by
  by_cases sound : segmentHeaderSize ≤ file.length ∧ file.take 5 = segmentMagic ++ [segmentVersion]
  · obtain ⟨long, front⟩ := sound
    rw [readSegment_eq crc long front] at read
    cases read
    -- What was read behind the header are the encodings of the records.
    obtain ⟨fits, length, last, body⟩ := scanAll_canonical (decodeRecord_advances crc)
      decodeRecord_canonical segmentHeaderSize (file.drop segmentHeaderSize)
    have header : SoundHeader (file.take segmentHeaderSize) := by
      refine ⟨by rw [List.length_take, Nat.min_eq_left long], ?_⟩
      rw [List.take_take, Nat.min_eq_left (by decide), front]
    have cut : file.take (segmentHeaderSize + length) =
        file.take segmentHeaderSize ++ encodeAll (WalRecord.serialize crc)
          (scanAll (decodeRecord crc) segmentHeaderSize (file.drop segmentHeaderSize)).items := by
      rw [List.take_add, body]
      rfl
    rw [last, cut, readSegment_header crc header, (recordCodec crc).scanAll_whole fits]
    exact ⟨_, rfl⟩
  · obtain ⟨error, refused⟩ := SegmentReader.openPath_unsound sound
    simp [readSegment, refused] at read

/-- Another directory with the same segments, which yield the same records. -/
structure KeepsRecords (crc : Bytes → UInt32) (dir other : WalDir) : Prop where
  listed : other.segmentIds = dir.segmentIds
  readable : ∀ segmentId, readableRecords crc (other.contents segmentId) =
    readableRecords crc (dir.contents segmentId)
  opens : ∀ segmentId, Opens crc (dir.contents segmentId) → Opens crc (other.contents segmentId)

theorem KeepsRecords.refl (dir : WalDir) : KeepsRecords crc dir dir :=
  ⟨rfl, fun _ => rfl, fun _ opened => opened⟩

/-- A truncation behind the good records of a segment keeps all records. -/
theorem KeepsRecords.truncate {dir other : WalDir} (keeps : KeepsRecords crc dir other)
    {segmentId : Nat} {scan : Scan WalRecord SegmentError}
    (read : readSegment crc (other.contents segmentId) = .ok scan) :
    KeepsRecords crc dir (other.truncateSegment segmentId scan.pos) := by
  -- A segment is cut where its scan has ended, so it is read as before.
  obtain ⟨pos, again⟩ := readSegment_truncated read
  constructor
  · rw [WalDir.truncateSegment_segmentIds, keeps.listed]
  · intro visited
    rw [WalDir.truncateSegment_contents, ← keeps.readable visited]
    by_cases here : visited = segmentId
    · subst here
      rw [if_pos rfl, readableRecords, readableRecords, again, read]
    · rw [if_neg here]
  · intro visited opened
    rw [WalDir.truncateSegment_contents]
    by_cases here : visited = segmentId
    · rw [if_pos here]
      exact ⟨_, again, by simp⟩
    · rw [if_neg here]
      exact keeps.opens visited opened

end

/-! What a replay without failures hands over. -/

/-- The state behind some batches that the sink has accepted. -/
def ReplayState.acceptedAll (state : ReplayState) (handed : List (Nat × List WalRecord)) :
    ReplayState :=
  handed.foldl (fun state entry => state.accepted entry.1 (.of entry.2)) state

section

variable {env : ReplayEnv} {checkpoint : Option Checkpoint} {segmentId : Nat}

theorem ReplayState.acceptedAll_append (state : ReplayState)
    (first second : List (Nat × List WalRecord)) :
    state.acceptedAll (first ++ second) = (state.acceptedAll first).acceptedAll second :=
  List.foldl_append

theorem ReplayState.acceptedAll_withDir (state : ReplayState) (dir : WalDir)
    (handed : List (Nat × List WalRecord)) :
    ({ state with dir := dir } : ReplayState).acceptedAll handed =
      { state.acceptedAll handed with dir := dir } := by
  induction handed generalizing state with
  | nil => rfl
  | cons entry handed ih => exact ih (state.accepted entry.1 (.of entry.2))

@[simp] theorem ReplayState.acceptedAll_dir (state : ReplayState)
    (handed : List (Nat × List WalRecord)) : (state.acceptedAll handed).dir = state.dir := by
  induction handed generalizing state with
  | nil => rfl
  | cons entry handed ih => exact ih (state.accepted entry.1 (.of entry.2))

theorem ReplayState.acceptedAll_delivered (state : ReplayState)
    (handed : List (Nat × List WalRecord)) :
    (state.acceptedAll handed).delivered = state.delivered ++
      handed.flatMap fun entry => entry.2.map (Prod.mk entry.1) := by
  -- Each batch that is accepted adds its records at the end.
  induction handed generalizing state with
  | nil => simp [acceptedAll]
  | cons entry handed ih =>
    rw [List.flatMap_cons, ← List.append_assoc]
    exact ih (state.accepted entry.1 (.of entry.2))

theorem ReplayState.acceptedAll_total (state : ReplayState)
    (handed : List (Nat × List WalRecord)) :
    (state.acceptedAll handed).totalReplayed = state.totalReplayed +
      (handed.map fun entry => entry.2.length).sum := by
  -- Each batch that is accepted adds the number of its records.
  induction handed generalizing state with
  | nil => simp [acceptedAll]
  | cons entry handed ih =>
    rw [List.map_cons, List.sum_cons, ← Nat.add_assoc]
    exact ih (state.accepted entry.1 (.of entry.2))

theorem ReplayEnv.Faultless.flush (faultless : env.Faultless) (state : ReplayState)
    (batch : ReplayBatch) : state.flush env segmentId batch = .ok (state.accepted segmentId batch) := by
  rw [ReplayState.flush, faultless.sink]

/-- The loop hands over the batches that are full, and leaves the records of the last one. -/
theorem replayRecords_faultless (faultless : env.Faultless) (checkpoint : Option Checkpoint)
    (segmentId : Nat) (items : List WalRecord) (state : ReplayState) (held : List WalRecord) :
    ∃ full rest,
      replayRecords env checkpoint segmentId items state (.of held) =
        .ok (state.acceptedAll (full.map (Prod.mk segmentId)), .of rest) ∧
      batchesFrom replaySize env.replayBatchMaxBytes held (items.filter fun record =>
        !alreadyFlushed checkpoint segmentId record) =
        full ++ if rest.isEmpty then [] else [rest] := by
  induction items generalizing state held with
  | nil => exact ⟨[], held, rfl, rfl⟩
  | cons record items ih =>
    by_cases covered : alreadyFlushed checkpoint segmentId record
    · -- A record that is covered is left out of the batches as well.
      obtain ⟨full, rest, replayed, cut⟩ := ih state held
      refine ⟨full, rest, ?_, ?_⟩
      · rw [replayRecords, if_pos covered, replayed]
      · rw [List.filter_cons_of_neg (by simp [covered]), cut]
    · rw [List.filter_cons_of_pos (by simp [covered])]
      unfold replayRecords batchesFrom
      rw [if_neg covered, ReplayBatch.push_of]
      by_cases filled : env.replayBatchMaxBytes ≤ batchSize replaySize (held ++ [record])
      · obtain ⟨full, rest, replayed, cut⟩ :=
          ih (state.accepted segmentId (.of (held ++ [record]))) []
        refine ⟨(held ++ [record]) :: full, rest, ?_, ?_⟩
        · rw [if_pos (show env.replayBatchMaxBytes ≤ (ReplayBatch.of (held ++ [record])).bytes from
            filled), faultless.flush]
          exact replayed
        · rw [if_pos filled, cut]
          rfl
      · obtain ⟨full, rest, replayed, cut⟩ := ih state (held ++ [record])
        refine ⟨full, rest, ?_, ?_⟩
        · rw [if_neg (show ¬env.replayBatchMaxBytes ≤ (ReplayBatch.of (held ++ [record])).bytes from
            filled)]
          exact replayed
        · rw [if_neg filled, cut]

/-- The directory behind the end of a segment holds the same records. -/
theorem replayEnd_faultless (faultless : env.Faultless) {dir : WalDir} {state : ReplayState}
    (keeps : KeepsRecords env.crc dir state.dir) {scan : Scan WalRecord SegmentError}
    (read : readSegment env.crc (state.dir.contents segmentId) = .ok scan)
    (alive : scan.ending ≠ .panicked) :
    ∃ after, replayEnd env segmentId scan state = .ok { state with dir := after } ∧
      KeepsRecords env.crc dir after := by
  -- Only a torn segment is changed at its end, by a cut.
  unfold replayEnd
  split
  · exact ⟨state.dir, rfl, keeps⟩
  · rw [faultless.truncate]
    exact ⟨_, rfl, keeps.truncate read⟩
  · exact ⟨state.dir, rfl, keeps⟩
  · rename_i dead
    exact absurd dead alive

/-- A segment is handed over in the batches of its uncovered records. -/
theorem replaySegment_faultless (faultless : env.Faultless) (checkpoint : Option Checkpoint)
    {dir : WalDir} {state : ReplayState}
    (keeps : KeepsRecords env.crc dir state.dir) {scan : Scan WalRecord SegmentError}
    (read : readSegment env.crc (state.dir.contents segmentId) = .ok scan)
    (alive : scan.ending ≠ .panicked) :
    ∃ after, replaySegment env checkpoint segmentId scan state =
        .ok { state.acceptedAll ((batches replaySize env.replayBatchMaxBytes
          (pendingRecords env.crc dir checkpoint segmentId)).map (Prod.mk segmentId)) with
          dir := after } ∧
      KeepsRecords env.crc dir after := by
  have items : scan.items = readableRecords env.crc (dir.contents segmentId) := by
    rw [← keeps.readable segmentId, readableRecords, read]
  obtain ⟨full, rest, replayed, cut⟩ :=
    replayRecords_faultless faultless checkpoint segmentId scan.items state []
  let looped := state.acceptedAll (full.map (Prod.mk segmentId))
  have same : looped.dir = state.dir := ReplayState.acceptedAll_dir state _
  have keepsLoop : KeepsRecords env.crc dir looped.dir := by rwa [same]
  have readLoop : readSegment env.crc (looped.dir.contents segmentId) = .ok scan := by rwa [same]
  obtain ⟨after, ended, kept⟩ := replayEnd_faultless faultless keepsLoop readLoop alive
  refine ⟨after, ?_, kept⟩
  rw [batches, pendingRecords, ← items, cut, List.map_append, ReplayState.acceptedAll_append]
  unfold replaySegment
  rw [← ReplayBatch.of_nil, replayed, Outcome.ok_bind]
  dsimp only
  rw [ended, Outcome.ok_bind]
  -- What is left of the last batch follows the full ones.
  cases rest with
  | nil => rfl
  | cons first rest =>
    rw [show (ReplayBatch.of (first :: rest)).records.isEmpty = false from rfl,
      if_neg Bool.false_ne_true, faultless.flush]
    rfl

/-- The segments that are left are handed over in turn. -/
theorem replaySegments_faultless (faultless : env.Faultless) {dir : WalDir}
    (replayable : Replayable env.crc checkpoint dir) {segments : List Nat}
    (listed : ∀ visited ∈ segments, visited ∈ dir.segmentIds) {state : ReplayState}
    (keeps : KeepsRecords env.crc dir state.dir) :
    ∃ after, replaySegments env checkpoint segments state =
        .ok { state.acceptedAll (handedBatches env checkpoint dir segments) with dir := after } ∧
      KeepsRecords env.crc dir after := by
  -- The segments are taken one by one, and none of them changes what the others hold.
  induction segments generalizing state with
  | nil => exact ⟨state.dir, rfl, keeps⟩
  | cons visited rest ih =>
    have later : ∀ other ∈ rest, other ∈ dir.segmentIds := fun other member =>
      listed other (List.mem_cons_of_mem visited member)
    have here := listed visited List.mem_cons_self
    unfold replaySegments handedBatches
    rw [List.flatMap_cons]
    by_cases before : visited < startSegmentId checkpoint
    · rw [if_pos before, if_pos before, List.nil_append]
      exact ih later keeps
    · obtain ⟨scan, read, alive⟩ :=
        keeps.opens visited (replayable visited here (Nat.le_of_not_lt before))
      rw [if_neg before, if_neg before, if_neg (by rw [keeps.listed]; exact not_not_intro here), read]
      obtain ⟨middle, replayed, kept⟩ :=
        replaySegment_faultless faultless checkpoint keeps read alive
      -- The segment hands over its batches, and the others go on behind them.
      dsimp only
      rw [replayed, Outcome.ok_bind]
      let handed := state.acceptedAll ((batches replaySize env.replayBatchMaxBytes
        (pendingRecords env.crc dir checkpoint visited)).map (Prod.mk visited))
      have keepsHanded : KeepsRecords env.crc dir { handed with dir := middle }.dir := kept
      obtain ⟨after, finished, keptAll⟩ := ih later keepsHanded
      refine ⟨after, ?_, keptAll⟩
      rw [finished, ReplayState.acceptedAll_withDir, ReplayState.acceptedAll_append]
      rfl

/-- The whole replay hands over the batches of all listed segments. -/
theorem replay_faultless (faultless : env.Faultless) {dir : WalDir}
    (replayable : Replayable env.crc checkpoint dir) :
    ∃ after, replay env checkpoint dir =
        .ok { (ReplayState.start checkpoint dir).acceptedAll
          (handedBatches env checkpoint dir dir.segmentIds) with dir := after } ∧
      KeepsRecords env.crc dir after := by
  -- Without segments there is nothing to replay.
  unfold replay
  by_cases empty : dir.segmentIds.isEmpty
  · rw [if_pos empty, List.isEmpty_iff.mp empty]
    exact ⟨dir, rfl, .refl dir⟩
  · rw [if_neg empty]
    have keeps : KeepsRecords env.crc dir (ReplayState.start checkpoint dir).dir := .refl dir
    exact replaySegments_faultless faultless replayable (fun _ member => member) keeps

end

/-! The records that the batches are made of. -/

section

variable {env : ReplayEnv} {checkpoint : Option Checkpoint} {dir : WalDir}

/-- From the checkpoint's segment on, the skip test leaves out what the checkpoint covers. -/
theorem alreadyFlushed_iff {segmentId : Nat} (reached : startSegmentId checkpoint ≤ segmentId)
    (record : WalRecord) :
    alreadyFlushed checkpoint segmentId record = true ↔
      covers checkpoint segmentId record.assignedOffset := by
  -- From the first segment of a replay on, only the offset in that segment decides.
  cases checkpoint with
  | none => simp [alreadyFlushed, covers]
  | some saved =>
    simp only [startSegmentId] at reached
    simp only [alreadyFlushed, covers, Bool.and_eq_true, decide_eq_true_eq, beq_iff_eq]
    constructor
    · intro flushed
      exact Or.inr ⟨flushed.2, flushed.1⟩
    · intro covered
      rcases covered with before | ⟨same, below⟩
      · exact absurd before (Nat.not_lt.mpr reached)
      · exact ⟨below, same⟩

/-- Everything in front of the checkpoint's segment is covered. -/
theorem covers_before {segmentId : Nat} (before : segmentId < startSegmentId checkpoint)
    (offset : UInt64) : covers checkpoint segmentId offset := by
  cases checkpoint with
  | none => exact absurd before (Nat.not_lt_zero segmentId)
  | some saved => exact Or.inl before

/-- The batches hold the uncovered records, in their order. -/
theorem flatMap_handedBatches (env : ReplayEnv) (checkpoint : Option Checkpoint) (dir : WalDir) :
    ((handedBatches env checkpoint dir dir.segmentIds).flatMap fun entry =>
      entry.2.map (Prod.mk entry.1)) = uncoveredRecords env.crc checkpoint dir := by
  -- Both sides go through the segments, so it is enough to look at one.
  unfold handedBatches uncoveredRecords presentRecords
  rw [List.flatMap_assoc, List.filter_flatMap]
  congr 1
  funext segmentId
  by_cases before : segmentId < startSegmentId checkpoint
  · rw [if_pos before, List.flatMap_nil, eq_comm, List.filter_eq_nil_iff]
    intro entry member
    obtain ⟨record, _, rfl⟩ := List.mem_map.mp member
    simpa using covers_before before record.assignedOffset
  -- Cutting records into batches keeps them all, in their order.
  · have reached : startSegmentId checkpoint ≤ segmentId := Nat.le_of_not_lt before
    rw [if_neg before, List.flatMap_map, List.flatMap_def]
    dsimp only
    rw [← List.map_flatten, flatten_batches, pendingRecords, List.filter_map]
    congr 1
    refine List.filter_congr fun record _ => ?_
    have same := alreadyFlushed_iff reached record
    by_cases covered : covers checkpoint segmentId record.assignedOffset
    · simp [covered, same.mpr covered]
    · have open_ : alreadyFlushed checkpoint segmentId record = false :=
        Bool.eq_false_iff.mpr fun flushed => covered (same.mp flushed)
      simp [covered, open_]

/-- A batch that is handed over is not empty, and its records are uncovered ones of its segment. -/
theorem mem_handedBatches {segments : List Nat} {entry : Nat × List WalRecord}
    (member : entry ∈ handedBatches env checkpoint dir segments) :
    entry.1 ∈ segments ∧ startSegmentId checkpoint ≤ entry.1 ∧ entry.2 ≠ [] ∧
      ∀ record ∈ entry.2, record ∈ pendingRecords env.crc dir checkpoint entry.1 := by
  -- A batch comes from a segment that is not left out, and holds some of its records.
  obtain ⟨segmentId, listed, found⟩ := List.mem_flatMap.mp member
  by_cases before : segmentId < startSegmentId checkpoint
  · rw [if_pos before] at found
    cases found
  · rw [if_neg before] at found
    obtain ⟨batch, cut, rfl⟩ := List.mem_map.mp found
    refine ⟨listed, Nat.le_of_not_lt before, ne_nil_of_mem_batchesFrom cut, fun record held => ?_⟩
    have whole : (batches replaySize env.replayBatchMaxBytes
        (pendingRecords env.crc dir checkpoint segmentId)).flatten = _ := flatten_batches _
    rw [← whole]
    exact List.mem_flatten.mpr ⟨batch, cut, held⟩

/-- Batches are handed over segment by segment. -/
theorem handedBatches_sorted {segments : List Nat} (sorted : segments.Pairwise (· < ·)) :
    (handedBatches env checkpoint dir segments).Pairwise fun one other => one.1 ≤ other.1 := by
  -- Batches of one segment stand together, and segments stand in their order.
  induction segments with
  | nil => exact List.Pairwise.nil
  | cons visited rest ih =>
    obtain ⟨front, later⟩ := List.pairwise_cons.mp sorted
    unfold handedBatches
    rw [List.flatMap_cons, List.pairwise_append]
    refine ⟨?_, ih later, ?_⟩
    · by_cases before : visited < startSegmentId checkpoint
      · rw [if_pos before]
        exact List.Pairwise.nil
      · rw [if_neg before, List.pairwise_map]
        exact List.pairwise_of_forall fun _ _ => Nat.le_refl visited
    · intro one member other behind
      -- A batch of the first segment has its number, and all others have a greater one.
      have own : one.1 = visited := by
        have single : one ∈ handedBatches env checkpoint dir [visited] := by
          simpa [handedBatches] using member
        simpa using (mem_handedBatches single).1
      have beyond := front other.1 (mem_handedBatches behind).1
      omega

/-- The last batch is of the last segment that has an uncovered record. -/
theorem le_last_of_mem_handed {last entry : Nat × List WalRecord}
    (found : (handedBatches env checkpoint dir dir.segmentIds).getLast? = some last)
    (member : entry ∈ handedBatches env checkpoint dir dir.segmentIds) : entry.1 ≤ last.1 := by
  -- The last batch stands behind all others, whose segments are in order.
  obtain ⟨front, whole⟩ := List.getLast?_eq_some_iff.mp found
  have sorted : (handedBatches env checkpoint dir dir.segmentIds).Pairwise _ :=
    handedBatches_sorted dir.sorted
  rw [whole] at member sorted
  rcases List.mem_append.mp member with early | same
  · exact (List.pairwise_append.mp sorted).2.2 entry early last (List.mem_singleton_self last)
  · rw [List.mem_singleton.mp same]

/-- A segment with an uncovered record has a batch. -/
theorem exists_handed {segmentId : Nat} {record : WalRecord} (listed : segmentId ∈ dir.segmentIds)
    (reached : startSegmentId checkpoint ≤ segmentId)
    (pending : record ∈ pendingRecords env.crc dir checkpoint segmentId) :
    ∃ batch, (segmentId, batch) ∈ handedBatches env checkpoint dir dir.segmentIds := by
  -- Every record of a segment is in one of its batches.
  have whole : (batches replaySize env.replayBatchMaxBytes
      (pendingRecords env.crc dir checkpoint segmentId)).flatten = _ := flatten_batches _
  rw [← whole] at pending
  obtain ⟨batch, cut, _⟩ := List.mem_flatten.mp pending
  refine ⟨batch, List.mem_flatMap.mpr ⟨segmentId, listed, ?_⟩⟩
  rw [if_neg (Nat.not_lt.mpr reached)]
  exact List.mem_map_of_mem cut

/-- The checkpoint behind a replay is that of its last batch. -/
theorem checkpointAfter_handed (checkpoint : Option Checkpoint) (dir after : WalDir)
    (front : List (Nat × List WalRecord)) (segmentId : Nat) {batch : List WalRecord} {highest : UInt64}
    (found : maxOffsetInBatch batch = some highest) :
    checkpointAfter checkpoint
      { (ReplayState.start checkpoint dir).acceptedAll (front ++ [(segmentId, batch)]) with
        dir := after } =
      some { lastFlushedSegmentId := segmentId, lastFlushedOffset := highest } := by
  -- A batch with an offset is not empty, so something was replayed.
  have some : 0 < batch.length := by
    apply List.length_pos_iff.mpr
    intro empty
    rw [maxOffsetInBatch_eq_none.mpr empty] at found
    cases found
  unfold checkpointAfter
  rw [if_pos]
  · simp [ReplayState.acceptedAll, ReplayState.accepted, ReplayBatch.of, found]
  · show 0 < (ReplayState.acceptedAll _ _).totalReplayed
    rw [ReplayState.acceptedAll_total, List.map_append, List.sum_append]
    simp only [List.map_cons, List.map_nil, List.sum_singleton]
    omega

/-- Another directory with the same records has the same uncovered ones. -/
theorem KeepsRecords.uncovered {crc : Bytes → UInt32} {other : WalDir}
    (keeps : KeepsRecords crc dir other) :
    uncoveredRecords crc checkpoint other = uncoveredRecords crc checkpoint dir := by
  unfold uncoveredRecords presentRecords
  rw [keeps.listed]
  simp only [keeps.readable]

/-- A replay delivers exactly what the checkpoint does not cover. -/
theorem replay_exact (faultless : env.Faultless) (replayable : Replayable env.crc checkpoint dir) :
    ReplayExact env checkpoint dir := by
  -- What is delivered is what was handed over, batch by batch.
  obtain ⟨after, replayed, _⟩ := replay_faultless faultless replayable
  refine ⟨_, replayed, ?_⟩
  show (ReplayState.acceptedAll _ _).delivered = _
  rw [ReplayState.acceptedAll_delivered, flatMap_handedBatches]
  rfl

/-- Behind the last batch, the checkpoint covers everything exactly when that batch is highest. -/
theorem uncovered_after_iff {last : Nat × List WalRecord} {highest : UInt64}
    (found : (handedBatches env checkpoint dir dir.segmentIds).getLast? = some last)
    (top : maxOffsetInBatch last.2 = some highest) :
    uncoveredRecords env.crc
      (some { lastFlushedSegmentId := last.1, lastFlushedOffset := highest }) dir = [] ↔
      LastBatchHighest env checkpoint dir := by
  obtain ⟨visited, reached, _, batched⟩ := mem_handedBatches (List.mem_of_getLast? found)
  -- The highest offset of the batch is that of one of its records, which was uncovered.
  obtain ⟨held, member, attained⟩ := maxOffsetInBatch_mem top
  have beyond : ¬ covers checkpoint last.1 highest := by
    have pending := (List.mem_filter.mp (batched held member)).2
    rw [attained, ← alreadyFlushed_iff reached held]
    simpa using pending
  unfold uncoveredRecords
  rw [List.filter_eq_nil_iff]
  constructor
  · intro covered other same record pending
    cases found.symm.trans same
    have readable : record ∈ readableRecords env.crc (dir.contents last.1) :=
      List.mem_of_mem_filter pending
    have here := covered (last.1, record) (mem_presentRecords.mpr ⟨visited, readable⟩)
    simp only [decide_not, Bool.not_eq_true', decide_eq_false_iff_not, not_not] at here
    rcases here with before | ⟨_, below⟩
    · exact absurd before (Nat.lt_irrefl last.1)
    · exact ⟨held, member, attained ▸ below⟩
  · intro highestBatch entry present
    obtain ⟨segmentId, record⟩ := entry
    obtain ⟨listed, readable⟩ := mem_presentRecords.mp present
    simp only [decide_not, Bool.not_eq_true', decide_eq_false_iff_not, not_not]
    by_cases covered : covers checkpoint segmentId record.assignedOffset
    · -- The new checkpoint is younger, and covers what the old one did.
      exact older_of_beyond beyond segmentId record.assignedOffset covered
    · have start : startSegmentId checkpoint ≤ segmentId :=
        Nat.le_of_not_lt fun before => covered (covers_before before _)
      have pending : record ∈ pendingRecords env.crc dir checkpoint segmentId := by
        have fresh : alreadyFlushed checkpoint segmentId record = false :=
          Bool.eq_false_iff.mpr fun flushed => covered ((alreadyFlushed_iff start record).mp flushed)
        exact List.mem_filter.mpr ⟨readable, by rw [fresh]; rfl⟩
      obtain ⟨batch, handed⟩ := exists_handed listed start pending
      rcases Nat.lt_or_eq_of_le (le_last_of_mem_handed found handed) with before | same
      · exact Or.inl before
      · replace same : segmentId = last.1 := same
        subst same
        obtain ⟨other, member, below⟩ := highestBatch last found record pending
        exact Or.inr ⟨rfl, UInt64.le_trans below ((maxOffsetInBatch_spec top).2 other member)⟩

/-- A second replay delivers nothing when the new checkpoint covers everything. -/
theorem replayIdempotent_iff {final : ReplayState} (faultless : env.Faultless)
    (replayed : replay env checkpoint dir = .ok final)
    (replayable : Replayable env.crc (checkpointAfter checkpoint final) final.dir) :
    ReplayIdempotent env checkpoint dir ↔
      uncoveredRecords env.crc (checkpointAfter checkpoint final) final.dir = [] := by
  -- The second replay delivers what the checkpoint of the first one leaves uncovered.
  obtain ⟨second, again, delivered⟩ := replay_exact faultless replayable
  constructor
  · intro idempotent
    obtain ⟨first, other, one, two, none⟩ := idempotent
    cases replayed.symm.trans one
    cases again.symm.trans two
    rw [← delivered, none]
  · intro covered
    exact ⟨final, second, replayed, again, delivered.trans covered⟩

/-- A second replay delivers nothing exactly when the last batch is the highest of its segment. -/
theorem replayIdempotent_iff_highest (faultless : env.Faultless)
    (replayable : Replayable env.crc checkpoint dir) :
    ReplayIdempotent env checkpoint dir ↔ LastBatchHighest env checkpoint dir := by
  obtain ⟨after, replayed, keeps⟩ := replay_faultless faultless replayable
  cases found : (handedBatches env checkpoint dir dir.segmentIds).getLast? with
  | none =>
    -- Nothing was uncovered, so the checkpoint stays and nothing is uncovered again.
    have empty := List.getLast?_eq_none_iff.mp found
    rw [empty] at replayed
    have stays : Replayable env.crc checkpoint after := by
      intro segmentId listed reached
      rw [keeps.listed] at listed
      exact keeps.opens segmentId (replayable segmentId listed reached)
    have covered : uncoveredRecords env.crc checkpoint after = [] := by
      rw [keeps.uncovered, ← flatMap_handedBatches env, empty, List.flatMap_nil]
    constructor
    · intro _ last same
      rw [found] at same
      cases same
    · intro _
      exact (replayIdempotent_iff faultless replayed stays).mpr covered
  | some last =>
    obtain ⟨front, whole⟩ := List.getLast?_eq_some_iff.mp found
    obtain ⟨_, reached, filled, _⟩ := mem_handedBatches (List.mem_of_getLast? found)
    cases top : maxOffsetInBatch last.2 with
    | none => exact absurd (maxOffsetInBatch_eq_none.mp top) filled
    | some highest =>
      rw [whole] at replayed
      have saved := checkpointAfter_handed checkpoint dir after front last.1 top
      have moved : Replayable env.crc (some
          { lastFlushedSegmentId := last.1, lastFlushedOffset := highest }) after := by
        intro segmentId listed beyond
        rw [keeps.listed] at listed
        exact keeps.opens segmentId (replayable segmentId listed (reached.trans beyond))
      rw [replayIdempotent_iff faultless replayed (saved.symm ▸ moved), saved, keeps.uncovered]
      exact uncovered_after_iff found top

/--
A replay delivers every uncovered record once, and a second one delivers none, exactly when the
last batch is the highest of its segment.
-/
theorem replay_twice_iff (faultless : env.Faultless)
    (replayable : Replayable env.crc checkpoint dir) :
    ReplayExact env checkpoint dir ∧ ReplayIdempotent env checkpoint dir ↔
      LastBatchHighest env checkpoint dir := by
  -- The first replay is exact whatever the batches are.
  rw [and_iff_right (replay_exact faultless replayable)]
  exact replayIdempotent_iff_highest faultless replayable

end

/-- Two producers take offsets, and the later one writes first. -/
def crossedAppends : List AppendLabel :=
  [.takeOffset sampleRecord, .takeOffset sampleRecord, .lockWriter 1, .finishWrite, .lockWriter 0,
    .finishWrite]

/-- A sink that never fails, with batches of a number of bytes. -/
def willingEnv (replayBatchMaxBytes : Nat) : ReplayEnv :=
  ⟨fun _ => 0, replayBatchMaxBytes, fun _ => .ok (), fun _ => .ok ()⟩

/-- The WAL behind the crossed appends. -/
def crossedWal : WalState :=
  (run (appendStep (fun _ => 0) 1000) (.fresh fun _ => 0) crossedAppends).getD (.fresh fun _ => 0)

/-- Its directory, where the higher offset comes first. -/
def crossedDir : WalDir := crossedWal.dir

theorem crossedDir_replayable : Replayable (fun _ => 0) none crossedDir := by
  intro segmentId listed _
  obtain rfl := List.mem_singleton.mp listed
  exact ⟨_, rfl, by decide⟩

theorem willingEnv_faultless (replayBatchMaxBytes : Nat) :
    (willingEnv replayBatchMaxBytes).Faultless :=
  ⟨fun _ => rfl, fun _ => rfl⟩

/-- In one batch, both records are delivered once. -/
theorem replay_twice_one_batch :
    ReplayExact (willingEnv 1000) none crossedDir ∧
      ReplayIdempotent (willingEnv 1000) none crossedDir :=
  (replay_twice_iff (willingEnv_faultless 1000) crossedDir_replayable).mpr (by decide)

/-- In batches of one record, the checkpoint ends up at the lower offset. -/
theorem replay_delivers_again :
    (∃ wal, run (appendStep (fun _ => 0) 1000) (.fresh fun _ => 0) crossedAppends = some wal ∧
      wal.dir = crossedDir) ∧
      Replayable (fun _ => 0) none crossedDir ∧
      ¬(ReplayExact (willingEnv 1) none crossedDir ∧
        ReplayIdempotent (willingEnv 1) none crossedDir) := by
  -- The offset behind the one that was saved is above it.
  refine ⟨⟨_, rfl, rfl⟩, crossedDir_replayable, fun both => ?_⟩
  have highest := (replayIdempotent_iff_highest (willingEnv_faultless 1)
    crossedDir_replayable).mp both.2
  exact absurd highest (by decide)

end Zradar.Wal
