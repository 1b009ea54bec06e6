import Zradar.Lib.Run
import Zradar.Wal.Open

/-! Appends by concurrent producers: offsets, the writer lock, rotation and failing writes. -/

namespace Zradar.Wal

/-- A WAL handle with its producers, and the appends that have succeeded on it. -/
structure WalState where
  dir : WalDir
  writer : SegmentWriter
  offsetCounter : UInt64
  /-- The records whose producers have taken an offset and wait for the writer lock. -/
  holders : List WalRecord
  /-- The record under the writer lock, with the bytes that are still to be written. -/
  lock : Option (WalRecord × Bytes)
  /-- The records whose write succeeded, each with the segment it went to. -/
  written : List (Nat × WalRecord)

/-- What can happen between two states of the handle. -/
inductive AppendLabel where
  /-- A producer takes the next offset for its record. -/
  | takeOffset (record : WalRecord)
  /-- A producer gives up before it writes, because it is cancelled or because sealing fails. -/
  | abandon (index : Nat)
  /-- A producer obtains the writer lock and rotates a segment that is full. -/
  | lockWriter (index : Nat)
  /-- The file takes some, but not all, of the remaining bytes of the record. -/
  | writeBytes (count : Nat)
  /-- The file takes the remaining bytes, and the append succeeds. -/
  | finishWrite
  /-- The write of the remaining bytes reports an error, and the append fails. -/
  | failWrite
  deriving DecidableEq

/-- Assign the next offset to a record, outside the writer lock. -/
def WalState.takeOffset (wal : WalState) (record : WalRecord) : WalState :=
  { wal with
    offsetCounter := wal.offsetCounter + 1
    holders := wal.holders ++ [{ record with assignedOffset := wal.offsetCounter }] }

/-- Drop a producer that waits for the lock. -/
def WalState.abandon (wal : WalState) (index : Nat) : WalState :=
  { wal with holders := wal.holders.eraseIdx index }

/-- Whether a record no longer fits in the active segment. -/
def WalState.rotates (crc : Bytes → UInt32) (segmentMaxBytes : Nat) (wal : WalState)
    (record : WalRecord) : Prop :=
  segmentMaxBytes < wal.writer.currentSize + (record.serialize crc).length

instance (crc : Bytes → UInt32) (segmentMaxBytes : Nat) (wal : WalState) (record : WalRecord) :
    Decidable (wal.rotates crc segmentMaxBytes record) :=
  inferInstanceAs (Decidable (_ < _))

/-- Seal the active segment and start the next one. -/
def WalState.rotate (wal : WalState) : WalState :=
  { wal with
    dir := (startSegment wal.dir (wal.writer.segmentId + 1)).1
    writer := (startSegment wal.dir (wal.writer.segmentId + 1)).2 }

/-- Hand the writer lock to a producer whose record goes to the active segment. -/
def WalState.acquire (crc : Bytes → UInt32) (wal : WalState) (index : Nat) (record : WalRecord) :
    WalState :=
  { wal with
    holders := wal.holders.eraseIdx index
    lock := some (record, record.serialize crc) }

/-- Add bytes to the active segment file. -/
def WalState.writeActive (wal : WalState) (data : Bytes) : WalState :=
  { wal with dir := wal.dir.append wal.writer.segmentId data }

/-- Write some of the remaining bytes of the record under the lock. -/
def WalState.writePart (wal : WalState) (record : WalRecord) (rest : Bytes) (count : Nat) :
    WalState :=
  { wal.writeActive (rest.take count) with lock := some (record, rest.drop count) }

/-- Complete the append under the lock: all of its bytes count, and the lock is released. -/
def WalState.finish (crc : Bytes → UInt32) (wal : WalState) (record : WalRecord) : WalState :=
  { wal with
    writer := { wal.writer with
      currentSize := wal.writer.currentSize + (record.serialize crc).length }
    lock := none
    written := wal.written ++ [(wal.writer.segmentId, record)] }

/-- Release the lock after a failed write, which leaves the file and the writer as they are. -/
def WalState.release (wal : WalState) : WalState :=
  { wal with lock := none }

/-- One step of `append` by one of the producers. -/
def appendStep (crc : Bytes → UInt32) (segmentMaxBytes : Nat) (wal : WalState) :
    AppendLabel → Option WalState
  | .takeOffset record => some (wal.takeOffset record)
  | .abandon index => some (wal.abandon index)
  | .lockWriter index =>
    match wal.lock, wal.holders[index]? with
    | none, some record =>
      -- The size is the writer's own count, not the length of the file.
      if wal.rotates crc segmentMaxBytes record then
        some (wal.rotate.acquire crc index record)
      else some (wal.acquire crc index record)
    | _, _ => none
  | .writeBytes count =>
    match wal.lock with
    | some (record, rest) =>
      if count < rest.length then
        some (wal.writePart record rest count)
      else none
    | none => none
  | .finishWrite =>
    match wal.lock with
    | some (record, rest) => some ((wal.writeActive rest).finish crc record)
    | none => none
  | .failWrite =>
    -- Bytes that reached the file stay there, and the size does not count them.
    match wal.lock with
    | some _ => some wal.release
    | none => none

/-- The steps that are possible from a state, one rule for each label. -/
inductive AppendStep (crc : Bytes → UInt32) (segmentMaxBytes : Nat) (wal : WalState) :
    AppendLabel → WalState → Prop where
  | takeOffset (record : WalRecord) :
    AppendStep crc segmentMaxBytes wal (.takeOffset record) (wal.takeOffset record)
  | abandon (index : Nat) : AppendStep crc segmentMaxBytes wal (.abandon index) (wal.abandon index)
  | lockRotating {index : Nat} {record : WalRecord} (free : wal.lock = none)
      (held : wal.holders[index]? = some record)
      (full : wal.rotates crc segmentMaxBytes record) :
    AppendStep crc segmentMaxBytes wal (.lockWriter index) (wal.rotate.acquire crc index record)
  | lockActive {index : Nat} {record : WalRecord} (free : wal.lock = none)
      (held : wal.holders[index]? = some record)
      (room : ¬ wal.rotates crc segmentMaxBytes record) :
    AppendStep crc segmentMaxBytes wal (.lockWriter index) (wal.acquire crc index record)
  | writeBytes {count : Nat} {record : WalRecord} {rest : Bytes}
      (locked : wal.lock = some (record, rest)) (short : count < rest.length) :
    AppendStep crc segmentMaxBytes wal (.writeBytes count) (wal.writePart record rest count)
  | finishWrite {record : WalRecord} {rest : Bytes} (locked : wal.lock = some (record, rest)) :
    AppendStep crc segmentMaxBytes wal .finishWrite ((wal.writeActive rest).finish crc record)
  | failWrite {record : WalRecord} {rest : Bytes} (locked : wal.lock = some (record, rest)) :
    AppendStep crc segmentMaxBytes wal .failWrite wal.release

/-- Every step the function takes is one of the rules. -/
theorem AppendStep.of_appendStep {crc : Bytes → UInt32} {segmentMaxBytes : Nat}
    {wal next : WalState} {label : AppendLabel}
    (stepped : appendStep crc segmentMaxBytes wal label = some next) :
    AppendStep crc segmentMaxBytes wal label next := by
  -- The cases are those of the step function, in its order.
  cases label with
  | takeOffset record =>
    cases stepped
    exact .takeOffset record
  | abandon index =>
    cases stepped
    exact .abandon index
  | lockWriter index =>
    simp only [appendStep] at stepped
    split at stepped
    · rename_i record free held
      split at stepped
      · cases stepped
        exact .lockRotating free held ‹_›
      · cases stepped
        exact .lockActive free held ‹_›
    · cases stepped
  | writeBytes count =>
    simp only [appendStep] at stepped
    split at stepped
    · rename_i record rest locked
      split at stepped
      · cases stepped
        exact .writeBytes locked ‹_›
      · cases stepped
    · cases stepped
  | finishWrite =>
    simp only [appendStep] at stepped
    split at stepped
    · cases stepped
      exact .finishWrite ‹_›
    · cases stepped
  | failWrite =>
    simp only [appendStep] at stepped
    split at stepped
    · cases stepped
      exact .failWrite ‹_›
    · cases stepped

/-- What the appends keep true of the directory, the writer and the producers. -/
structure WalState.Sound (crc : Bytes → UInt32) (wal : WalState) : Prop where
  /-- The active segment exists and is the last one. -/
  active : wal.writer.segmentId ∈ wal.dir.segmentIds
  last : ∀ segmentId ∈ wal.dir.segmentIds, segmentId ≤ wal.writer.segmentId
  placed : ∀ entry ∈ wal.written, entry.1 ≤ wal.writer.segmentId
  /-- Every segment file holds what was written to it, and at most a torn record behind that. -/
  files : ∀ segmentId ∈ wal.dir.segmentIds,
    HoldsRecords crc segmentId (recordsIn wal.written segmentId) (wal.dir.contents segmentId)
  /-- The writer counts the bytes of the successful appends. -/
  size : wal.writer.currentSize =
    (segmentBytes crc wal.writer.segmentId (recordsIn wal.written wal.writer.segmentId)).length
  waiting : ∀ record ∈ wal.holders, record.Fits
  /-- Under the lock, the bytes in the file and the missing ones make up the next record. -/
  locked : ∀ record rest, wal.lock = some (record, rest) → record.Fits ∧ rest ≠ [] ∧
    wal.dir.contents wal.writer.segmentId ++ rest =
      segmentBytes crc wal.writer.segmentId (recordsIn wal.written wal.writer.segmentId) ++
        record.serialize crc

/-- No failed append has left bytes in the active segment. -/
def WalState.Clean (wal : WalState) : Prop :=
  (wal.dir.contents wal.writer.segmentId).length = wal.writer.currentSize

instance (wal : WalState) : Decidable wal.Clean := inferInstanceAs (Decidable (_ = _))

namespace WalState.Sound

variable {crc : Bytes → UInt32} {wal : WalState}

/-- A clean active segment holds its records and nothing else. -/
theorem contents_of_clean (sound : wal.Sound crc) (clean : wal.Clean) :
    wal.dir.contents wal.writer.segmentId =
      segmentBytes crc wal.writer.segmentId (recordsIn wal.written wal.writer.segmentId) := by
  obtain ⟨_, part, cut, _⟩ := sound.files _ sound.active
  -- The writer's count leaves no room for a torn part.
  have lengths := congrArg List.length cut
  rw [List.length_append, clean, sound.size] at lengths
  have none : part = [] := List.eq_nil_of_length_eq_zero (by omega)
  rw [cut, none, List.append_nil]

theorem takeOffset (sound : wal.Sound crc) {record : WalRecord} (fits : record.Fits) :
    (wal.takeOffset record).Sound crc := by
  refine { sound with waiting := ?_ }
  intro other member
  rcases List.mem_append.mp member with early | last
  · exact sound.waiting other early
  · -- The assigned offset takes no part in the size of a record.
    rw [List.mem_singleton.mp last]
    exact fits

theorem abandon (sound : wal.Sound crc) (index : Nat) : (wal.abandon index).Sound crc :=
  { sound with
    waiting := fun other member => sound.waiting other (List.mem_of_mem_eraseIdx member) }

/-- No record has been written to the segment that a rotation starts. -/
theorem recordsIn_next (sound : wal.Sound crc) :
    recordsIn wal.written (wal.writer.segmentId + 1) = [] := by
  rw [List.eq_nil_iff_forall_not_mem]
  intro record member
  have bound := sound.placed _ (mem_recordsIn.mp member)
  simp only at bound
  omega

theorem rotate (sound : wal.Sound crc) (free : wal.lock = none) : wal.rotate.Sound crc where
  active := by simp [WalState.rotate]
  last := by
    intro segmentId member
    have cases := mem_startSegment.mp member
    show segmentId ≤ wal.writer.segmentId + 1
    rcases cases with rfl | old
    · exact Nat.le_refl _
    · exact Nat.le_succ_of_le (sound.last segmentId old)
  placed entry member := Nat.le_succ_of_le (sound.placed entry member)
  files := by
    intro segmentId member
    show HoldsRecords crc segmentId (recordsIn wal.written segmentId)
      ((startSegment wal.dir (wal.writer.segmentId + 1)).1.contents segmentId)
    rw [startSegment_contents]
    split
    · -- The new segment consists of its header.
      rename_i new
      subst new
      rw [sound.recordsIn_next]
      exact holdsRecords_empty crc (wal.writer.segmentId + 1)
    · rename_i old
      exact sound.files segmentId ((mem_startSegment.mp member).resolve_left old)
  size := by
    show segmentHeaderSize = _
    simp [WalState.rotate, sound.recordsIn_next, segmentBytes]
  waiting := sound.waiting
  locked := by
    intro record rest locked
    have held : wal.lock = some (record, rest) := locked
    rw [free] at held
    cases held

/-- A segment that was just started is clean. -/
theorem rotate_clean (wal : WalState) : wal.rotate.Clean := by
  show ((startSegment wal.dir (wal.writer.segmentId + 1)).1.contents _).length = _
  simp [WalState.rotate]

theorem acquire (sound : wal.Sound crc) (clean : wal.Clean) {index : Nat} {record : WalRecord}
    (held : record ∈ wal.holders) : (wal.acquire crc index record).Sound crc := by
  refine { sound with waiting := ?_, locked := ?_ }
  · intro other member
    exact sound.waiting other (List.mem_of_mem_eraseIdx member)
  -- The record that takes the lock has written nothing of itself yet.
  · intro other rest locked
    cases locked
    have fits := sound.waiting record held
    have some : record.serialize crc ≠ [] :=
      List.ne_nil_of_length_pos ((recordCodec crc).encode_length_pos fits)
    refine ⟨fits, some, ?_⟩
    show wal.dir.contents wal.writer.segmentId ++ record.serialize crc = _
    rw [sound.contents_of_clean clean]
    rfl

/-- A partly written record is a torn part behind the whole ones. -/
theorem holds_partial {segmentId : Nat} {records : List WalRecord} {data rest : Bytes}
    (fits : ∀ record ∈ records, record.Fits) {record : WalRecord} (fit : record.Fits)
    (front : segmentBytes crc segmentId records <+: data) (missing : rest ≠ [])
    (joined : data ++ rest = segmentBytes crc segmentId records ++ record.serialize crc) :
    HoldsRecords crc segmentId records data := by
  obtain ⟨part, rfl⟩ := front
  rw [List.append_assoc, List.append_cancel_left_eq] at joined
  exact ⟨fits, part, rfl, Or.inr ⟨record, fit, tornPart_of_append joined missing⟩⟩

/-- The whole records lie in front of everything else in the active segment. -/
theorem active_leading (sound : wal.Sound crc) :
    segmentBytes crc wal.writer.segmentId (recordsIn wal.written wal.writer.segmentId) <+:
      wal.dir.contents wal.writer.segmentId := by
  obtain ⟨_, part, cut, _⟩ := sound.files _ sound.active
  exact ⟨part, cut.symm⟩

theorem writePart (sound : wal.Sound crc) {record : WalRecord} {rest : Bytes}
    (locked : wal.lock = some (record, rest)) {count : Nat} (short : count < rest.length) :
    (wal.writePart record rest count).Sound crc := by
  obtain ⟨fits, _, joined⟩ := sound.locked record rest locked
  have missing : rest.drop count ≠ [] := by simpa using short
  -- The written and the missing bytes together are unchanged.
  have rejoined : (wal.dir.contents wal.writer.segmentId ++ rest.take count) ++ rest.drop count =
      segmentBytes crc wal.writer.segmentId (recordsIn wal.written wal.writer.segmentId) ++
        record.serialize crc := by
    rw [List.append_assoc, List.take_append_drop, joined]
  refine { sound with files := ?_, locked := ?_ }
  · intro segmentId member
    show HoldsRecords crc segmentId (recordsIn wal.written segmentId)
      ((wal.dir.append wal.writer.segmentId (rest.take count)).contents segmentId)
    rw [WalDir.append_contents]
    split
    · rename_i here
      subst here
      exact holds_partial (sound.files _ member).1 fits
        (sound.active_leading.trans (List.prefix_append _ _)) missing rejoined
    · exact sound.files segmentId member
  · intro other remaining relocked
    cases relocked
    refine ⟨fits, missing, ?_⟩
    show (wal.dir.append wal.writer.segmentId (rest.take count)).contents wal.writer.segmentId ++
      rest.drop count = _
    rw [WalDir.append_contents, if_pos rfl]
    exact rejoined

theorem finish (sound : wal.Sound crc) {record : WalRecord} {rest : Bytes}
    (locked : wal.lock = some (record, rest)) :
    ((wal.writeActive rest).finish crc record).Sound crc where
  active := sound.active
  last := sound.last
  placed := by
    intro entry member
    rcases List.mem_append.mp member with early | last
    · exact sound.placed entry early
    · rw [List.mem_singleton.mp last]
      exact Nat.le_refl _
  files := by
    intro segmentId member
    obtain ⟨fits, _, joined⟩ := sound.locked record rest locked
    show HoldsRecords crc segmentId
      (recordsIn (wal.written ++ [(wal.writer.segmentId, record)]) segmentId)
      ((wal.dir.append wal.writer.segmentId rest).contents segmentId)
    rw [WalDir.append_contents]
    split
    · -- The record is now whole, and the file ends behind it.
      rename_i here
      subst here
      rw [recordsIn_append_here, joined]
      exact holdsRecords_append (sound.files _ member).1 fits
    · rename_i other
      rw [recordsIn_append_other other]
      exact sound.files segmentId member
  size := by
    show wal.writer.currentSize + (record.serialize crc).length =
      (segmentBytes crc wal.writer.segmentId
        (recordsIn (wal.written ++ [(wal.writer.segmentId, record)]) wal.writer.segmentId)).length
    rw [recordsIn_append_here, segmentBytes_append, List.length_append, sound.size]
    simp
  waiting := sound.waiting
  locked := by
    intro other remaining relocked
    cases relocked

theorem release (sound : wal.Sound crc) : wal.release.Sound crc := by
  refine { sound with locked := ?_ }
  intro other remaining relocked
  cases relocked

end WalState.Sound

/-- What the steps of an append can do to the segments and to the written records. -/
structure AppendEffect (wal next : WalState) (label : AppendLabel) : Prop where
  active : wal.writer.segmentId ≤ next.writer.segmentId
  segments : ∀ segmentId ∈ wal.dir.segmentIds, segmentId ∈ next.dir.segmentIds
  kept : ∀ entry ∈ wal.written, entry ∈ next.written
  /-- A new entry is the record under the lock, written to the active segment. -/
  written : ∀ entry ∈ next.written, entry ∈ wal.written ∨
    label = .finishWrite ∧ entry.1 = wal.writer.segmentId ∧
      next.writer.segmentId = wal.writer.segmentId ∧ ∃ rest, wal.lock = some (entry.2, rest)

theorem appendStep_effect {crc : Bytes → UInt32} {segmentMaxBytes : Nat} {wal next : WalState}
    {label : AppendLabel} (stepped : appendStep crc segmentMaxBytes wal label = some next) :
    AppendEffect wal next label := by
  -- Only the end of a write adds a record, and only a rotation a segment.
  cases AppendStep.of_appendStep stepped with
  | lockRotating free held full =>
    exact ⟨Nat.le_succ _, fun _ member => mem_startSegment.mpr (Or.inr member), fun _ member => member,
      fun _ member => Or.inl member⟩
  | finishWrite locked =>
    refine ⟨Nat.le_refl _, fun _ member => member,
      fun _ member => List.mem_append_left _ member, ?_⟩
    intro entry member
    rcases List.mem_append.mp member with old | new
    · exact Or.inl old
    · rw [List.mem_singleton.mp new]
      exact Or.inr ⟨rfl, rfl, rfl, _, locked⟩
  | _ => exact ⟨Nat.le_refl _, fun _ member => member, fun _ member => member,
      fun _ member => Or.inl member⟩

/-- The steps after which every record fits the format and none lands behind a failed write. -/
def CleanAppend (crc : Bytes → UInt32) (segmentMaxBytes : Nat) (wal : WalState) :
    AppendLabel → Prop
  | .takeOffset record => record.Fits
  | .lockWriter index =>
    -- A rotation leaves the remains of a failed write behind in the sealed segment.
    wal.Clean ∨ ∀ record ∈ wal.holders[index]?, wal.rotates crc segmentMaxBytes record
  | _ => True

instance (crc : Bytes → UInt32) (segmentMaxBytes : Nat) (wal : WalState) :
    ∀ label, Decidable (CleanAppend crc segmentMaxBytes wal label)
  | .takeOffset record => inferInstanceAs (Decidable record.Fits)
  | .lockWriter _ => inferInstanceAs (Decidable (_ ∨ _))
  | .abandon _ | .writeBytes _ | .finishWrite | .failWrite => .isTrue trivial

/-- Each step keeps the state sound, as long as none appends behind a failed write. -/
theorem WalState.Sound.step {crc : Bytes → UInt32} {segmentMaxBytes : Nat} {wal : WalState}
    {label : AppendLabel} {next : WalState} (sound : wal.Sound crc)
    (clean : CleanAppend crc segmentMaxBytes wal label)
    (stepped : appendStep crc segmentMaxBytes wal label = some next) : next.Sound crc := by
  -- The writer is locked for a segment without remains, or for a new one.
  cases AppendStep.of_appendStep stepped with
  | takeOffset record => exact sound.takeOffset clean
  | abandon index => exact sound.abandon index
  | lockRotating free held full =>
    exact (sound.rotate free).acquire (rotate_clean wal) (List.mem_of_getElem? held)
  | lockActive free held room =>
    have noRemains : wal.Clean := clean.resolve_right fun rotating => room (rotating _ held)
    exact sound.acquire noRemains (List.mem_of_getElem? held)
  | writeBytes locked short => exact sound.writePart locked short
  | finishWrite locked => exact sound.finish locked
  | failWrite locked => exact sound.release

/-- The handle right after `Wal::open`: nobody appends yet, and what is readable counts as written. -/
def WalState.ofOpened (crc : Bytes → UInt32) (opened : OpenedWal) : WalState where
  dir := opened.dir
  writer := opened.writer
  offsetCounter := opened.nextOffset
  holders := []
  lock := none
  written := presentRecords crc opened.dir

/-- A handle over sound segments is sound when its writer stands at the end of the last one. -/
theorem WalState.ofOpened_sound {crc : Bytes → UInt32} {opened : OpenedWal}
    (holds : opened.dir.Sound crc) (active : opened.writer.segmentId ∈ opened.dir.segmentIds)
    (last : ∀ segmentId ∈ opened.dir.segmentIds, segmentId ≤ opened.writer.segmentId)
    (records : List WalRecord) (fits : ∀ record ∈ records, record.Fits)
    (whole : opened.dir.contents opened.writer.segmentId =
      segmentBytes crc opened.writer.segmentId records)
    (size : opened.writer.currentSize = (segmentBytes crc opened.writer.segmentId records).length) :
    (WalState.ofOpened crc opened).Sound crc where
  active := active
  last := last
  placed entry member := last entry.1 (mem_presentRecords.mp member).1
  files segmentId member := holds.recordsIn member
  size := by
    -- The records read back from the active file are the ones it was made of.
    have readable := (holdsRecords_whole crc opened.writer.segmentId fits).readable
    rw [← whole] at readable
    show opened.writer.currentSize = (segmentBytes crc opened.writer.segmentId
      (recordsIn (presentRecords crc opened.dir) opened.writer.segmentId)).length
    rw [recordsIn_presentRecords crc active, readable, size]
  waiting := by
    intro record member
    cases member
  locked := by
    intro record rest locked
    cases locked

/-- Opening a sound directory succeeds and yields a sound and clean handle. -/
theorem walOpen_sound {crc : Bytes → UInt32} (segmentMaxBytes : Nat) {dir : WalDir}
    (sound : dir.Sound crc) :
    ∃ opened, walOpen crc segmentMaxBytes dir = .ok opened ∧
      (WalState.ofOpened crc opened).Sound crc ∧ (WalState.ofOpened crc opened).Clean := by
  cases last : dir.segmentIds.getLast? with
  | none =>
    -- A fresh directory starts with segment 0.
    have fresh : dir.segmentIds = [] := by simpa using last
    refine ⟨⟨(startSegment dir 0).1, (startSegment dir 0).2, 0⟩, by simp [walOpen, last], ?_, ?_⟩
    · refine WalState.ofOpened_sound (sound.startSegment 0) (by simp) ?_ [] (by simp)
        (by simp [segmentBytes]) (by simp [segmentBytes])
      intro segmentId member
      rcases mem_startSegment.mp member with rfl | old
      · exact Nat.le_refl _
      · simp [fresh] at old
    · simp [WalState.Clean, WalState.ofOpened]
  | some lastId =>
    obtain ⟨member, highest⟩ := WalDir.le_last last
    obtain ⟨records, holds⟩ := sound lastId member
    rw [walOpen_holds segmentMaxBytes last holds]
    have repaired : (dir.setContents lastId (segmentBytes crc lastId records)).Sound crc :=
      sound.setContents holds.1
    refine ⟨_, rfl, ?_⟩
    simp only [reopenOrRotate]
    split
    · -- The last segment is full, so an empty one follows it.
      refine ⟨WalState.ofOpened_sound (repaired.startSegment _) (by simp) ?_ []
        (by simp) (by simp [segmentBytes]) (by simp [segmentBytes]), ?_⟩
      · intro segmentId member
        rcases mem_startSegment.mp member with rfl | old
        · exact Nat.le_refl _
        · exact Nat.le_succ_of_le (highest segmentId old)
      · simp [WalState.Clean, WalState.ofOpened]
    · refine ⟨WalState.ofOpened_sound repaired member highest records holds.1 ?_ ?_, ?_⟩
      · simp
      · simp
      · simp [WalState.Clean, WalState.ofOpened]

/-- The state right after opening a sound directory is sound. -/
theorem WalState.Sound.start {crc : Bytes → UInt32} {segmentMaxBytes : Nat} {dir : WalDir}
    (sound : dir.Sound crc) {opened : OpenedWal}
    (started : walOpen crc segmentMaxBytes dir = .ok opened) :
    (WalState.ofOpened crc opened).Sound crc := by
  obtain ⟨other, same, holds, _⟩ := walOpen_sound segmentMaxBytes sound
  rw [started] at same
  cases same
  exact holds

/-- Runs that append to clean segments only reach sound states. -/
theorem WalState.Sound.reached {crc : Bytes → UInt32} {segmentMaxBytes : Nat} {wal final : WalState}
    (sound : wal.Sound crc) {labels : List AppendLabel}
    (clean : Guarded (appendStep crc segmentMaxBytes) (CleanAppend crc segmentMaxBytes) wal labels)
    (reached : run (appendStep crc segmentMaxBytes) wal labels = some final) :
    final.Sound crc :=
  run_invariant (fun _ _ _ holds guard stepped => holds.step guard stepped) sound clean reached

/-- What opening an empty directory establishes. -/
def freshOpened : OpenedWal :=
  ⟨(startSegment .empty 0).1, (startSegment .empty 0).2, 0⟩

/-- The handle over a directory that was empty before it was opened. -/
def WalState.fresh (crc : Bytes → UInt32) : WalState :=
  .ofOpened crc freshOpened

theorem WalDir.empty_sound (crc : Bytes → UInt32) : WalDir.empty.Sound crc := by
  intro segmentId member
  cases member

end Zradar.Wal
