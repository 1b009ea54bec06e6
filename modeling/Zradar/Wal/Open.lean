import Zradar.Wal.TornTail

/-! The WAL directory and the recovery that opening it performs. -/

namespace Zradar.Wal

/-- The segment files of a WAL directory and the segment its `current.seg` link names. -/
structure WalDir where
  segmentIds : List Nat
  sorted : segmentIds.Pairwise (· < ·)
  contents : Nat → Bytes
  current : Option Nat

/-- A directory without any file. -/
def WalDir.empty : WalDir :=
  ⟨[], List.Pairwise.nil, fun _ => [], none⟩

/-- Replace the contents of one file and leave every other file alone. -/
def WalDir.setContents (dir : WalDir) (segmentId : Nat) (data : Bytes) : WalDir :=
  { dir with contents := fun other => if other = segmentId then data else dir.contents other }

/-- Add bytes at the end of a file. -/
def WalDir.append (dir : WalDir) (segmentId : Nat) (data : Bytes) : WalDir :=
  dir.setContents segmentId (dir.contents segmentId ++ data)

/-- Cut a file at a byte offset. -/
def WalDir.truncateSegment (dir : WalDir) (segmentId atOffset : Nat) : WalDir :=
  dir.setContents segmentId ((dir.contents segmentId).take atOffset)

/-- Point the `current.seg` link at a segment. -/
def WalDir.updateCurrentSymlink (dir : WalDir) (segmentId : Nat) : WalDir :=
  { dir with current := some segmentId }

/-- The sorted list with one id added, once. -/
def insertId (segmentId : Nat) (ids : List Nat) : List Nat :=
  ids.filter (· < segmentId) ++ segmentId :: ids.filter (segmentId < ·)

theorem insertId_sorted {segmentId : Nat} {ids : List Nat} (sorted : ids.Pairwise (· < ·)) :
    (insertId segmentId ids).Pairwise (· < ·) := by
  -- The id separates the smaller ids from the larger ones, and both groups keep their order.
  simp only [insertId, List.pairwise_append, List.pairwise_cons]
  refine ⟨sorted.filter _, ⟨?_, sorted.filter _⟩, ?_⟩
  · intro other member
    simpa using (List.mem_filter.mp member).2
  · intro small smallMember large largeMember
    have below : small < segmentId := by simpa using (List.mem_filter.mp smallMember).2
    rcases List.mem_cons.mp largeMember with rfl | above
    · exact below
    · have larger : segmentId < large := by simpa using (List.mem_filter.mp above).2
      omega

/-- Create a segment file, or truncate the one that exists, and write its header. -/
def WalDir.createSegment (dir : WalDir) (segmentId : Nat) : WalDir :=
  { dir.setContents segmentId (segmentHeader segmentId) with
    segmentIds := insertId segmentId dir.segmentIds
    sorted := insertId_sorted dir.sorted }

/-- Delete a segment file. -/
def WalDir.removeFile (dir : WalDir) (segmentId : Nat) : WalDir :=
  { dir with
    segmentIds := dir.segmentIds.filter (· ≠ segmentId)
    sorted := dir.sorted.filter _ }

/-- The writer over the active segment. -/
structure SegmentWriter where
  segmentId : Nat
  currentSize : Nat
  deriving DecidableEq, Repr

/-- What opening a WAL directory establishes. -/
structure OpenedWal where
  dir : WalDir
  writer : SegmentWriter
  nextOffset : UInt64

/-- Why a WAL directory could not be opened. -/
inductive WalError where
  | segment (error : SegmentError)
  deriving DecidableEq, Repr

/-- The highest offset among the records, counted from zero. -/
def maxOffset (records : List WalRecord) : UInt64 :=
  records.foldl (fun highest record => max highest record.assignedOffset) 0

/-- Cut the torn tail off the last segment, or refuse what is not a torn write. -/
def recoverTail (dir : WalDir) (lastId : Nat) (scan : Scan WalRecord SegmentError) :
    Outcome WalError WalDir :=
  match scan.ending with
  | .eof => .ok dir
  | .failed error =>
    if error.isTornWrite then .ok (dir.truncateSegment lastId scan.pos)
    else .err (.segment error)
  | .panicked => .panicked

/-- Create the next segment, make it the active one, and point the link at it. -/
def startSegment (dir : WalDir) (segmentId : Nat) : WalDir × SegmentWriter :=
  ((dir.createSegment segmentId).updateCurrentSymlink segmentId, ⟨segmentId, segmentHeaderSize⟩)

/-- Go on in the last segment, or in a new one when the last segment has reached its full size. -/
def reopenOrRotate (segmentMaxBytes : Nat) (dir : WalDir) (lastId : Nat) (nextOffset : UInt64) :
    OpenedWal :=
  let fileSize := (dir.contents lastId).length
  if segmentMaxBytes ≤ fileSize then
    ⟨(startSegment dir (lastId + 1)).1, (startSegment dir (lastId + 1)).2, nextOffset⟩
  else
    -- Re-opening for append leaves the link as it was found.
    ⟨dir, ⟨lastId, fileSize⟩, nextOffset⟩

/-- Open a WAL directory: find the active segment, repair its tail, and derive the next offset. -/
def walOpen (crc : Bytes → UInt32) (segmentMaxBytes : Nat) (dir : WalDir) :
    Outcome WalError OpenedWal :=
  match dir.segmentIds.getLast? with
  | none => .ok ⟨(startSegment dir 0).1, (startSegment dir 0).2, 0⟩
  | some lastId =>
    match SegmentReader.openPath (dir.contents lastId) with
    | .err error => .err (.segment error)
    | .panicked => .panicked
    | .ok reader => do
      -- Only the last segment is scanned for the highest offset.
      let scan := reader.readAll crc
      let dir ← recoverTail dir lastId scan
      return reopenOrRotate segmentMaxBytes dir lastId (maxOffset scan.items + 1)

@[simp] theorem WalDir.setContents_contents (dir : WalDir) (segmentId other : Nat) (data : Bytes) :
    (dir.setContents segmentId data).contents other =
      if other = segmentId then data else dir.contents other := rfl

@[simp] theorem WalDir.setContents_segmentIds (dir : WalDir) (segmentId : Nat) (data : Bytes) :
    (dir.setContents segmentId data).segmentIds = dir.segmentIds := rfl

@[simp] theorem WalDir.append_segmentIds (dir : WalDir) (segmentId : Nat) (data : Bytes) :
    (dir.append segmentId data).segmentIds = dir.segmentIds := rfl

@[simp] theorem WalDir.append_contents (dir : WalDir) (segmentId other : Nat) (data : Bytes) :
    (dir.append segmentId data).contents other =
      if other = segmentId then dir.contents segmentId ++ data else dir.contents other := rfl

@[simp] theorem WalDir.append_current (dir : WalDir) (segmentId : Nat) (data : Bytes) :
    (dir.append segmentId data).current = dir.current := rfl

@[simp] theorem WalDir.truncateSegment_segmentIds (dir : WalDir) (segmentId atOffset : Nat) :
    (dir.truncateSegment segmentId atOffset).segmentIds = dir.segmentIds := rfl

@[simp] theorem WalDir.truncateSegment_contents (dir : WalDir) (segmentId atOffset other : Nat) :
    (dir.truncateSegment segmentId atOffset).contents other =
      if other = segmentId then (dir.contents segmentId).take atOffset
      else dir.contents other := rfl

@[simp] theorem WalDir.removeFile_contents (dir : WalDir) (segmentId : Nat) :
    (dir.removeFile segmentId).contents = dir.contents := rfl

theorem WalDir.mem_removeFile {dir : WalDir} {segmentId other : Nat} :
    other ∈ (dir.removeFile segmentId).segmentIds ↔ other ∈ dir.segmentIds ∧ other ≠ segmentId := by
  simp [WalDir.removeFile]

theorem mem_insertId {segmentId other : Nat} {ids : List Nat} :
    other ∈ insertId segmentId ids ↔ other = segmentId ∨ other ∈ ids := by
  -- Every id is below, equal to, or above the inserted one.
  simp only [insertId, List.mem_append, List.mem_cons, List.mem_filter, decide_eq_true_eq]
  constructor
  · rintro (⟨member, _⟩ | rfl | ⟨member, _⟩)
    · exact Or.inr member
    · exact Or.inl rfl
    · exact Or.inr member
  · rintro (rfl | member)
    · exact Or.inr (Or.inl rfl)
    · rcases Nat.lt_trichotomy other segmentId with below | same | above
      · exact Or.inl ⟨member, below⟩
      · exact Or.inr (Or.inl same)
      · exact Or.inr (Or.inr ⟨member, above⟩)

@[simp] theorem mem_startSegment {dir : WalDir} {segmentId other : Nat} :
    other ∈ (startSegment dir segmentId).1.segmentIds ↔
      other = segmentId ∨ other ∈ dir.segmentIds := by
  simpa [startSegment, WalDir.createSegment, WalDir.updateCurrentSymlink] using mem_insertId

@[simp] theorem startSegment_contents (dir : WalDir) (segmentId other : Nat) :
    (startSegment dir segmentId).1.contents other =
      if other = segmentId then segmentHeader segmentId else dir.contents other := rfl

@[simp] theorem startSegment_writer (dir : WalDir) (segmentId : Nat) :
    (startSegment dir segmentId).2 = ⟨segmentId, segmentHeaderSize⟩ := rfl

@[simp] theorem startSegment_current (dir : WalDir) (segmentId : Nat) :
    (startSegment dir segmentId).1.current = some segmentId := rfl

/-- Replacing a file by what it already holds changes nothing. -/
theorem WalDir.setContents_self {dir : WalDir} {segmentId : Nat} {data : Bytes}
    (same : dir.contents segmentId = data) : dir.setContents segmentId data = dir := by
  -- Only the one segment is written, with what it holds.
  have contents : (fun other => if other = segmentId then data else dir.contents other) =
      dir.contents := by
    funext other
    by_cases here : other = segmentId
    · simp [here, same]
    · simp [here]
  simp [WalDir.setContents, contents]

/-- What opening does after the last segment was read: repair its tail, then go on behind it. -/
theorem walOpen_read {crc : Bytes → UInt32} (segmentMaxBytes : Nat) {dir : WalDir} {lastId : Nat}
    (last : dir.segmentIds.getLast? = some lastId) {scan : Scan WalRecord SegmentError}
    (read : readSegment crc (dir.contents lastId) = .ok scan) :
    walOpen crc segmentMaxBytes dir =
      (recoverTail dir lastId scan >>= fun repaired =>
        .ok (reopenOrRotate segmentMaxBytes repaired lastId (maxOffset scan.items + 1))) := by
  simp only [readSegment, Outcome.bind_eq_ok, Outcome.pure_eq, Outcome.ok.injEq] at read
  obtain ⟨reader, opened, rfl⟩ := read
  simp only [walOpen, last, opened, Outcome.pure_eq]

/-- Opening cuts a torn tail off the last segment and goes on behind its whole records. -/
theorem walOpen_tail {crc : Bytes → UInt32} (segmentMaxBytes : Nat) {dir : WalDir} {lastId : Nat}
    (last : dir.segmentIds.getLast? = some lastId) {header : Bytes} (sound : SoundHeader header)
    {records : List WalRecord} (fits : ∀ record ∈ records, record.Fits) {tail : Bytes}
    (torn : TornTail crc tail)
    (contents : dir.contents lastId =
      header ++ encodeAll (WalRecord.serialize crc) records ++ tail) :
    walOpen crc segmentMaxBytes dir =
      .ok (reopenOrRotate segmentMaxBytes
        (dir.setContents lastId (header ++ encodeAll (WalRecord.serialize crc) records)) lastId
        (maxOffset records + 1)) := by
  obtain ⟨ending, read, clean, rejected⟩ := readSegment_tail crc sound fits torn
  rw [walOpen_read segmentMaxBytes last (contents ▸ read)]
  by_cases empty : tail = []
  · -- Nothing follows the whole records, so the file is left alone.
    rw [empty, List.append_nil] at contents
    simp [recoverTail, clean empty, WalDir.setContents_self contents]
  · -- The torn write is cut off at the end of the last whole record.
    obtain ⟨error, isTorn, failed⟩ := rejected empty
    have kept : (dir.contents lastId).take
        (header ++ encodeAll (WalRecord.serialize crc) records).length =
          header ++ encodeAll (WalRecord.serialize crc) records := by
      rw [contents]
      exact List.take_left' rfl
    simp only [recoverTail, failed, isTorn, ↓reduceIte, Outcome.ok_bind, WalDir.truncateSegment,
      kept]

theorem walOpen_holds {crc : Bytes → UInt32} (segmentMaxBytes : Nat) {dir : WalDir} {lastId : Nat}
    (last : dir.segmentIds.getLast? = some lastId) {records : List WalRecord}
    (holds : HoldsRecords crc lastId records (dir.contents lastId)) :
    walOpen crc segmentMaxBytes dir =
      .ok (reopenOrRotate segmentMaxBytes
        (dir.setContents lastId (segmentBytes crc lastId records)) lastId
        (maxOffset records + 1)) := by
  obtain ⟨fits, part, contents, torn⟩ := holds
  exact walOpen_tail segmentMaxBytes last (segmentHeader_sound lastId) fits
    (tornTail_of_part torn) contents

/-- The maximum of two words bounds both and is one of them. -/
theorem uint64_max (first second : UInt64) :
    first ≤ max first second ∧ second ≤ max first second ∧
      (max first second = first ∨ max first second = second) := by
  -- The order of the words is total.
  have unfolded : max first second = if first ≤ second then second else first := rfl
  rw [unfolded]
  split
  · rename_i below
    exact ⟨below, UInt64.le_refl _, Or.inr rfl⟩
  · rename_i above
    exact ⟨UInt64.le_refl _, (UInt64.le_total _ _).resolve_right above, Or.inl rfl⟩

/-- The running maximum bounds its start and every offset, and it is one of them. -/
theorem foldMax_spec (records : List WalRecord) (start : UInt64) :
    let highest := records.foldl (fun highest record => max highest record.assignedOffset) start
    start ≤ highest ∧ (∀ record ∈ records, record.assignedOffset ≤ highest) ∧
      (highest = start ∨ ∃ record ∈ records, highest = record.assignedOffset) := by
  -- The induction follows the fold, whose start moves with every record.
  induction records generalizing start with
  | nil => exact ⟨UInt64.le_refl _, by simp, Or.inl rfl⟩
  | cons head rest ih =>
    obtain ⟨above, bound, attained⟩ := ih (max start head.assignedOffset)
    obtain ⟨left, right, choice⟩ := uint64_max start head.assignedOffset
    refine ⟨UInt64.le_trans left above, ?_, ?_⟩
    · intro record member
      rcases List.mem_cons.mp member with rfl | later
      · exact UInt64.le_trans right above
      · exact bound record later
    · rcases attained with first | ⟨record, later, same⟩
      · rcases choice with old | new
        · exact Or.inl (first.trans old)
        · exact Or.inr ⟨head, List.mem_cons_self, first.trans new⟩
      · exact Or.inr ⟨record, List.mem_cons_of_mem _ later, same⟩

/-- The records that went to one segment, in the order in which they were written. -/
def recordsIn (written : List (Nat × WalRecord)) (segmentId : Nat) : List WalRecord :=
  (written.filter (·.1 = segmentId)).map Prod.snd

@[simp] theorem mem_recordsIn {written : List (Nat × WalRecord)} {segmentId : Nat}
    {record : WalRecord} : record ∈ recordsIn written segmentId ↔ (segmentId, record) ∈ written := by
  simp [recordsIn]

theorem recordsIn_append_here (written : List (Nat × WalRecord)) (segmentId : Nat)
    (record : WalRecord) :
    recordsIn (written ++ [(segmentId, record)]) segmentId =
      recordsIn written segmentId ++ [record] := by
  simp [recordsIn]

theorem recordsIn_append_other {written : List (Nat × WalRecord)} {segmentId other : Nat}
    (differs : other ≠ segmentId) (record : WalRecord) :
    recordsIn (written ++ [(segmentId, record)]) other = recordsIn written other := by
  simp [recordsIn, differs.symm]

/-- Every readable record of the directory, with the segment it is in. -/
def presentRecords (crc : Bytes → UInt32) (dir : WalDir) : List (Nat × WalRecord) :=
  dir.segmentIds.flatMap fun segmentId =>
    (readableRecords crc (dir.contents segmentId)).map fun record => (segmentId, record)

@[simp] theorem mem_presentRecords {crc : Bytes → UInt32} {dir : WalDir} {segmentId : Nat}
    {record : WalRecord} : (segmentId, record) ∈ presentRecords crc dir ↔
      segmentId ∈ dir.segmentIds ∧ record ∈ readableRecords crc (dir.contents segmentId) := by
  -- Records are listed segment by segment.
  simp only [presentRecords, List.mem_flatMap, List.mem_map, Prod.mk.injEq]
  constructor
  · rintro ⟨_, member, _, readable, rfl, rfl⟩
    exact ⟨member, readable⟩
  · rintro ⟨member, readable⟩
    exact ⟨segmentId, member, record, readable, rfl, rfl⟩

/-- Each segment is listed once, so its records come from its own file only. -/
theorem recordsIn_presentRecords (crc : Bytes → UInt32) {dir : WalDir} {segmentId : Nat}
    (member : segmentId ∈ dir.segmentIds) :
    recordsIn (presentRecords crc dir) segmentId =
      readableRecords crc (dir.contents segmentId) := by
  have once : ∀ ids : List Nat, ids.Pairwise (· < ·) →
      recordsIn (ids.flatMap fun other =>
        (readableRecords crc (dir.contents other)).map fun record => (other, record)) segmentId =
      if segmentId ∈ ids then readableRecords crc (dir.contents segmentId) else [] := by
    intro ids sorted
    induction ids with
    | nil => rfl
    | cons head rest ih =>
      have later := ih sorted.of_cons
      simp only [recordsIn, List.flatMap_cons, List.filter_append, List.map_append] at later ⊢
      rw [later]
      by_cases here : segmentId = head
      · -- Every later id is larger, so the rest contributes nothing.
        subst here
        have absent : segmentId ∉ rest := fun again =>
          Nat.lt_irrefl _ (List.rel_of_pairwise_cons sorted again)
        simp [absent, List.filter_map, Function.comp_def]
      · simp [here, Ne.symm here, List.filter_map, Function.comp_def]
  rw [presentRecords, once _ dir.sorted, if_pos member]

/-- Every segment of the directory holds records, and at most a torn one behind them. -/
def WalDir.Sound (crc : Bytes → UInt32) (dir : WalDir) : Prop :=
  ∀ segmentId ∈ dir.segmentIds,
    ∃ records, HoldsRecords crc segmentId records (dir.contents segmentId)

theorem WalDir.Sound.recordsIn {crc : Bytes → UInt32} {dir : WalDir} (sound : dir.Sound crc)
    {segmentId : Nat} (member : segmentId ∈ dir.segmentIds) :
    HoldsRecords crc segmentId (recordsIn (presentRecords crc dir) segmentId)
      (dir.contents segmentId) := by
  obtain ⟨records, holds⟩ := sound segmentId member
  rw [recordsIn_presentRecords crc member, holds.readable]
  exact holds

/-- The last listed segment has the highest id. -/
theorem WalDir.le_last {dir : WalDir} {lastId : Nat}
    (last : dir.segmentIds.getLast? = some lastId) :
    lastId ∈ dir.segmentIds ∧ ∀ segmentId ∈ dir.segmentIds, segmentId ≤ lastId := by
  -- The ids are sorted, so the last one is the highest.
  obtain ⟨front, ids⟩ := List.getLast?_eq_some_iff.mp last
  have sorted := dir.sorted
  rw [ids, List.pairwise_append] at sorted
  rw [ids]
  refine ⟨by simp, ?_⟩
  intro segmentId member
  rcases List.mem_append.mp member with early | same
  · exact Nat.le_of_lt (sorted.2.2 segmentId early lastId (by simp))
  · exact Nat.le_of_eq (List.mem_singleton.mp same)

/-- A segment that exists and has the highest id is listed last. -/
theorem WalDir.getLast_of_highest {dir : WalDir} {segmentId : Nat}
    (member : segmentId ∈ dir.segmentIds) (highest : ∀ other ∈ dir.segmentIds, other ≤ segmentId) :
    dir.segmentIds.getLast? = some segmentId := by
  -- The ids are sorted, so the highest one is the last.
  cases last : dir.segmentIds.getLast? with
  | none =>
    rw [List.getLast?_eq_none_iff] at last
    simp [last] at member
  | some lastId =>
    obtain ⟨listed, above⟩ := WalDir.le_last last
    rw [Nat.le_antisymm (highest lastId listed) (above segmentId member)]

/-- Going on behind the last segment leaves every segment up to it alone. -/
theorem reopenOrRotate_contents {segmentMaxBytes : Nat} {dir : WalDir} {lastId : Nat}
    {nextOffset : UInt64} {segmentId : Nat} (upTo : segmentId ≤ lastId) :
    (reopenOrRotate segmentMaxBytes dir lastId nextOffset).dir.contents segmentId =
      dir.contents segmentId := by
  simp only [reopenOrRotate]
  split
  · simp only [startSegment_contents]
    rw [if_neg (by omega)]
  · rfl

theorem WalDir.Sound.startSegment {crc : Bytes → UInt32} {dir : WalDir} (sound : dir.Sound crc)
    (segmentId : Nat) : (Wal.startSegment dir segmentId).1.Sound crc := by
  intro other member
  rw [startSegment_contents]
  split
  · -- A header alone is a segment without records.
    rename_i new
    subst new
    exact ⟨[], holdsRecords_empty crc other⟩
  · rename_i old
    exact sound other ((mem_startSegment.mp member).resolve_left old)

theorem WalDir.Sound.setContents {crc : Bytes → UInt32} {dir : WalDir} (sound : dir.Sound crc)
    {lastId : Nat} {records : List WalRecord} (fits : ∀ record ∈ records, record.Fits) :
    (dir.setContents lastId (segmentBytes crc lastId records)).Sound crc := by
  -- The written segment holds whole records, and the others are as before.
  intro other member
  show ∃ held, HoldsRecords crc other held
    (if other = lastId then segmentBytes crc lastId records else dir.contents other)
  split
  · rename_i here
    subst here
    exact ⟨records, holdsRecords_whole crc other fits⟩
  · exact sound other member

end Zradar.Wal
