import Zradar.Wal.Segment

/-! A segment file cut at any byte behind its header still yields its whole records. -/

namespace Zradar.Wal

/-- The records a read of the file from its start returns before it stops. -/
def readableRecords (crc : Bytes → UInt32) (file : Bytes) : List WalRecord :=
  -- A file whose header is refused yields nothing at all.
  match readSegment crc file with
  | .ok scan => scan.items
  | _ => []

/-- A file made of a header, whole records, and at most the leading part of one more record. -/
def HoldsRecords (crc : Bytes → UInt32) (segmentId : Nat) (records : List WalRecord)
    (file : Bytes) : Prop :=
  -- The part may belong to any record, since the writer that left it need not have finished.
  (∀ record ∈ records, record.Fits) ∧
    ∃ part, file = segmentBytes crc segmentId records ++ part ∧
      (part = [] ∨ ∃ owner : WalRecord, owner.Fits ∧ TornPart part (owner.serialize crc))

theorem segmentBytes_length (crc : Bytes → UInt32) (segmentId : Nat) (records : List WalRecord) :
    (segmentBytes crc segmentId records).length =
      segmentHeaderSize + (encodeAll (WalRecord.serialize crc) records).length := by
  simp [segmentBytes]

theorem segmentBytes_append (crc : Bytes → UInt32) (segmentId : Nat)
    (records more : List WalRecord) :
    segmentBytes crc segmentId (records ++ more) =
      segmentBytes crc segmentId records ++ encodeAll (WalRecord.serialize crc) more := by
  simp [segmentBytes]

/-- A file of whole records is one without any torn part. -/
theorem holdsRecords_whole (crc : Bytes → UInt32) (segmentId : Nat) {records : List WalRecord}
    (fits : ∀ record ∈ records, record.Fits) :
    HoldsRecords crc segmentId records (segmentBytes crc segmentId records) :=
  ⟨fits, [], by simp, Or.inl rfl⟩

/-- A header alone is a segment without records. -/
theorem holdsRecords_empty (crc : Bytes → UInt32) (segmentId : Nat) :
    HoldsRecords crc segmentId [] (segmentHeader segmentId) := by
  have whole : HoldsRecords crc segmentId [] (segmentBytes crc segmentId []) :=
    holdsRecords_whole crc segmentId (by simp)
  simpa [segmentBytes] using whole

/-- Reading a file of whole records yields exactly them, up to its last byte. -/
theorem readSegment_whole (crc : Bytes → UInt32) (segmentId : Nat) {records : List WalRecord}
    (fits : ∀ record ∈ records, record.Fits) :
    readSegment crc (segmentBytes crc segmentId records) =
      .ok ⟨records, (segmentBytes crc segmentId records).length, .eof⟩ := by
  -- Behind the header, the file is a stream of whole frames.
  rw [segmentBytes, readSegment_header crc (segmentHeader_sound segmentId),
    (recordCodec crc).scanAll_whole fits]
  simp

/-- Nothing at all, or bytes the decoder rejects as a torn write wherever they start. -/
def TornTail (crc : Bytes → UInt32) (tail : Bytes) : Prop :=
  tail = [] ∨ ∀ pos, ∃ error, error.isTornWrite = true ∧ decodeRecord crc pos tail = .err error

/-- The reader yields the whole records, stops behind them, and calls anything left a torn write. -/
theorem readSegment_tail (crc : Bytes → UInt32) {header : Bytes} (sound : SoundHeader header)
    {records : List WalRecord} (fits : ∀ record ∈ records, record.Fits) {tail : Bytes}
    (torn : TornTail crc tail) :
    ∃ ending, readSegment crc (header ++ encodeAll (WalRecord.serialize crc) records ++ tail) =
        .ok ⟨records, (header ++ encodeAll (WalRecord.serialize crc) records).length, ending⟩ ∧
      (tail = [] → ending = .eof) ∧
      (tail ≠ [] → ∃ error, error.isTornWrite = true ∧ ending = .failed error) := by
  rw [List.append_assoc, readSegment_header crc sound]
  by_cases empty : tail = []
  · -- Without a tail the file ends on a record boundary.
    subst empty
    refine ⟨.eof, ?_, fun _ => rfl, fun some => absurd rfl some⟩
    rw [List.append_nil, (recordCodec crc).scanAll_whole fits]
    simp [sound.1]
  · -- A torn tail is rejected at the end of the last whole record.
    obtain ⟨error, isTorn, decoded⟩ := torn.resolve_left empty
      (segmentHeaderSize + (encodeAll (WalRecord.serialize crc) records).length)
    refine ⟨.failed error, ?_, fun none => absurd none empty, fun _ => ⟨error, isTorn, rfl⟩⟩
    rw [(recordCodec crc).scanAll_rejected fits segmentHeaderSize empty decoded]
    simp [sound.1]

theorem readableRecords_tail (crc : Bytes → UInt32) {header : Bytes} (sound : SoundHeader header)
    {records : List WalRecord} (fits : ∀ record ∈ records, record.Fits) {tail : Bytes}
    (torn : TornTail crc tail) :
    readableRecords crc (header ++ encodeAll (WalRecord.serialize crc) records ++ tail) =
      records := by
  obtain ⟨_, read, _⟩ := readSegment_tail crc sound fits torn
  rw [readableRecords, read]

/-- A length word of zero behind the whole records makes the reader panic there. -/
theorem readSegment_emptyBody (crc : Bytes → UInt32) {header : Bytes} (sound : SoundHeader header)
    {records : List WalRecord} (fits : ∀ record ∈ records, record.Fits) {rest : Bytes}
    (long : 4 ≤ rest.length) (zero : decodeBe (rest.take 4) = 0) :
    readSegment crc (header ++ encodeAll (WalRecord.serialize crc) records ++ rest) =
      .ok ⟨records, (header ++ encodeAll (WalRecord.serialize crc) records).length, .panicked⟩ := by
  have some : rest ≠ [] := List.ne_nil_of_length_pos (by omega)
  -- A body of no length has no checksum to split off.
  have decoded : decodeRecord crc
      (segmentHeaderSize + (encodeAll (WalRecord.serialize crc) records).length) rest =
        .panicked := by
    simp [decodeRecord, WalRecord.deserialize_emptyBody crc _ long zero]
  rw [List.append_assoc, readSegment_header crc sound, (recordCodec crc).scanAll_encodeAll fits,
    scanAll_panicked some decoded]
  simp [sound.1]

/-- The leading part of a record is a torn tail. -/
theorem tornTail_of_part {crc : Bytes → UInt32} {part : Bytes}
    (torn : part = [] ∨ ∃ owner : WalRecord, owner.Fits ∧ TornPart part (owner.serialize crc)) :
    TornTail crc part := by
  by_cases empty : part = []
  · exact Or.inl empty
  · obtain ⟨owner, owned, torn⟩ := torn.resolve_left empty
    exact Or.inr fun pos => (recordCodec crc).torn owner owned pos part torn empty

theorem HoldsRecords.readSegment {crc : Bytes → UInt32} {segmentId : Nat}
    {records : List WalRecord} {file : Bytes} (holds : HoldsRecords crc segmentId records file) :
    ∃ ending, readSegment crc file =
        .ok ⟨records, (segmentBytes crc segmentId records).length, ending⟩ ∧
      (file = segmentBytes crc segmentId records → ending = .eof) ∧
      (file ≠ segmentBytes crc segmentId records →
        ∃ error, error.isTornWrite = true ∧ ending = .failed error) := by
  -- The records are read back, and the torn part behind them is rejected.
  obtain ⟨fits, part, rfl, torn⟩ := holds
  obtain ⟨ending, read, clean, rejected⟩ :=
    readSegment_tail crc (segmentHeader_sound segmentId) fits (tornTail_of_part torn)
  refine ⟨ending, read, fun same => clean ?_, fun differs => rejected ?_⟩
  · exact List.append_right_eq_self.mp same
  · intro none
    exact differs (by simp [none])

theorem HoldsRecords.readable {crc : Bytes → UInt32} {segmentId : Nat}
    {records : List WalRecord} {file : Bytes} (holds : HoldsRecords crc segmentId records file) :
    readableRecords crc file = records := by
  obtain ⟨ending, read, _⟩ := holds.readSegment
  simp [readableRecords, read]

/-- A header alone yields no record. -/
@[simp] theorem readableRecords_header (crc : Bytes → UInt32) (segmentId : Nat) :
    readableRecords crc (segmentHeader segmentId) = [] :=
  (holdsRecords_empty crc segmentId).readable

/-- A leading part of a record followed by missing bytes is torn. -/
theorem tornPart_of_append {crc : Bytes → UInt32} {record : WalRecord} {part missing : Bytes}
    (rebuilt : part ++ missing = record.serialize crc) (some : missing ≠ []) :
    TornPart part (record.serialize crc) := by
  refine ⟨⟨missing, rebuilt⟩, ?_⟩
  -- Something is missing, so the part is strictly shorter than the record.
  have lengths := congrArg List.length rebuilt
  have positive : 0 < missing.length := List.length_pos_iff.mpr some
  simp only [List.length_append] at lengths
  omega

/-- Cutting a file of whole records behind its header leaves the records that fit in the cut. -/
theorem holdsRecords_take_whole (crc : Bytes → UInt32) (segmentId : Nat)
    {records : List WalRecord} (fits : ∀ record ∈ records, record.Fits) {n : Nat}
    (header : segmentHeaderSize ≤ n) :
    HoldsRecords crc segmentId
      (wholeWithin (WalRecord.serialize crc) (n - segmentHeaderSize) records)
      ((segmentBytes crc segmentId records).take n) := by
  -- The header lies in front of the cut, so only the stream of frames is shortened.
  obtain ⟨part, cut, torn⟩ :=
    take_encodeAll (WalRecord.serialize crc) (n - segmentHeaderSize) records
  refine ⟨?_, part, ?_, ?_⟩
  · intro record member
    exact fits record ((wholeWithin_leading _ _ _).subset member)
  · rw [segmentBytes, List.take_append, List.take_of_length_le (by simpa using header),
      segmentHeader_length, cut]
    simp [segmentBytes]
  · rcases torn with none | ⟨owner, member, torn⟩
    · exact Or.inl none
    · exact Or.inr ⟨owner, fits owner member, torn⟩

/-- Every cut behind the header keeps the records that fit in the cut, and nothing else. -/
theorem HoldsRecords.take {crc : Bytes → UInt32} {segmentId : Nat} {records : List WalRecord}
    {file : Bytes} (holds : HoldsRecords crc segmentId records file) {n : Nat}
    (header : segmentHeaderSize ≤ n) :
    HoldsRecords crc segmentId
      (wholeWithin (WalRecord.serialize crc) (n - segmentHeaderSize) records) (file.take n) := by
  obtain ⟨fits, part, rfl, torn⟩ := holds
  by_cases behind : (segmentBytes crc segmentId records).length ≤ n
  · -- The cut falls into the torn part, so every whole record survives.
    rw [wholeWithin_all _ (by rw [segmentBytes_length] at behind; omega), List.take_append,
      List.take_of_length_le behind]
    refine ⟨fits, part.take (n - (segmentBytes crc segmentId records).length), rfl, ?_⟩
    rcases torn with rfl | ⟨owner, owned, torn⟩
    · exact Or.inl (by simp)
    · exact Or.inr ⟨owner, owned, torn.take _⟩
  · -- The cut falls among the whole records.
    rw [List.take_append_of_le_length (by omega)]
    exact holdsRecords_take_whole crc segmentId fits header

/-- Appending a whole record to a file of whole records adds it behind the others. -/
theorem holdsRecords_append {crc : Bytes → UInt32} {segmentId : Nat} {records : List WalRecord}
    (fits : ∀ record ∈ records, record.Fits) {record : WalRecord} (fit : record.Fits) :
    HoldsRecords crc segmentId (records ++ [record])
      (segmentBytes crc segmentId records ++ record.serialize crc) := by
  -- The file is whole again, with one more record at its end.
  have all : ∀ other ∈ records ++ [record], other.Fits := by
    intro other member
    rcases List.mem_append.mp member with early | last
    · exact fits other early
    · rw [List.mem_singleton.mp last]
      exact fit
  simpa [segmentBytes_append] using holdsRecords_whole crc segmentId all

/--
A segment of records reads back exactly, and so does every cut of it behind the header.

The cut yields the records that lie wholly within it.
It then ends cleanly on a record boundary, and otherwise reports a torn write at the end of the last whole record.
-/
theorem segment_reads_whole_records (crc : Bytes → UInt32) (segmentId : Nat)
    (records : List WalRecord) (fits : ∀ record ∈ records, record.Fits) :
    readSegment crc (segmentBytes crc segmentId records) =
        .ok ⟨records, (segmentBytes crc segmentId records).length, .eof⟩ ∧
      ∀ n, segmentHeaderSize ≤ n →
        let file := (segmentBytes crc segmentId records).take n
        let whole := wholeWithin (WalRecord.serialize crc) (n - segmentHeaderSize) records
        let boundary := (segmentBytes crc segmentId whole).length
        (∃ ending, readSegment crc file = .ok ⟨whole, boundary, ending⟩ ∧
          (file.length = boundary → ending = .eof) ∧
          (file.length ≠ boundary → ∃ error, error.isTornWrite = true ∧ ending = .failed error)) ∧
        readSegment crc (file.take boundary) = .ok ⟨whole, boundary, .eof⟩ := by
  refine ⟨readSegment_whole crc segmentId fits, ?_⟩
  intro n header file whole boundary
  have holds : HoldsRecords crc segmentId whole file :=
    holdsRecords_take_whole crc segmentId fits header
  obtain ⟨ending, read, clean, torn⟩ := holds.readSegment
  obtain ⟨wholeFit, part, cut, _⟩ := holds
  -- The file is the whole records exactly when nothing follows them.
  have length : file.length = boundary + part.length := by
    simpa [boundary] using congrArg List.length cut
  refine ⟨⟨ending, read, fun same => clean ?_, fun differs => torn ?_⟩, ?_⟩
  · have none : part = [] := List.eq_nil_of_length_eq_zero (by omega)
    simpa [none] using cut
  · intro same
    exact differs (congrArg List.length same)
  · -- Truncating there removes the torn part and leaves a file of whole records.
    have kept : file.take boundary = segmentBytes crc segmentId whole := by
      rw [cut]
      exact List.take_left' rfl
    rw [kept, readSegment_whole crc segmentId wholeFit]

/-- The sample record of the segment tests, with a short payload. -/
def sampleRecord : WalRecord where
  signalType := .trace
  workspaceId := Uuid.nil
  arrivalTimestampNs := 1700000000000000000
  assignedOffset := 1
  payload := [0xDE, 0xDE]

theorem segment_reads_sample :
    sampleRecord.Fits ∧
      readSegment (fun _ => 0) (segmentBytes (fun _ => 0) 1 [sampleRecord]) =
        .ok ⟨[sampleRecord], 56, .eof⟩ :=
  ⟨by decide, (segment_reads_whole_records (fun _ => 0) 1 [sampleRecord] (by decide)).1⟩

end Zradar.Wal
