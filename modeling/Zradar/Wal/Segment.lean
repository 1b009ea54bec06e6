import Zradar.Lib.Frames
import Zradar.Wal.Record

/-! Segment files: the header, the reader, and what survives of a file that was cut short. -/

namespace Zradar.Wal

/-- The magic bytes `ZWAL`. -/
def segmentMagic : Bytes := [0x5A, 0x57, 0x41, 0x4C]

/-- Current format version. -/
def segmentVersion : UInt8 := 1

/-- Magic, version and segment id. -/
def segmentHeaderSize : Nat := 13

/-- The kinds of I/O error the WAL tells apart. -/
inductive IoErrorKind where
  | notFound
  | unexpectedEof
  | storageFull
  | other
  deriving DecidableEq, Repr

/-- Why a segment could not be opened or read. -/
inductive SegmentError where
  | invalidMagic
  | unsupportedVersion (version : UInt8)
  | io (kind : IoErrorKind)
  | record (error : RecordReadError)
  deriving DecidableEq, Repr

/-- The errors recovery answers by truncating the file. -/
def SegmentError.isTornWrite : SegmentError → Bool
  | .record error => error.isTornWrite
  | _ => false

/-- The header written when a segment is created. -/
def segmentHeader (segmentId : Nat) : Bytes :=
  segmentMagic ++ [segmentVersion] ++ encodeBe 8 segmentId

/-- A sequential reader over the contents of a segment file. -/
structure SegmentReader where
  data : Bytes
  segmentId : Nat
  pos : Nat

/-- Open the contents of a segment file, checking its header. -/
def SegmentReader.openPath (data : Bytes) : Outcome SegmentError SegmentReader :=
  if data.length < segmentHeaderSize then .err (.io .unexpectedEof)
  else if data.take 4 ≠ segmentMagic then .err .invalidMagic
  else
    let version := UInt8.ofNat (decodeBe ((data.drop 4).take 1))
    if version ≠ segmentVersion then .err (.unsupportedVersion version)
    else
      -- The id in the header is kept for the caller, and is not compared with the file's name.
      .ok ⟨data, decodeBe ((data.drop 5).take 8), segmentHeaderSize⟩

/-- The record decoder with its error wrapped as the reader's. -/
def decodeRecord (crc : Bytes → UInt32) (pos : Nat) (remaining : Bytes) :
    Outcome SegmentError (WalRecord × Nat) :=
  match WalRecord.deserialize crc pos remaining with
  | .ok result => .ok result
  | .err error => .err (.record error)
  | .panicked => .panicked

/-- Read the next record, or report the clean end of the file. -/
def SegmentReader.nextRecord (crc : Bytes → UInt32) (reader : SegmentReader) :
    Outcome SegmentError (Option (WalRecord × SegmentReader)) :=
  if reader.data.length ≤ reader.pos then .ok none
  else do
    let (record, consumed) ← decodeRecord crc reader.pos (reader.data.drop reader.pos)
    return some (record, { reader with pos := reader.pos + consumed })

/-- Call `next_record` until it reports the end, an error or a panic. -/
def SegmentReader.readLoop (crc : Bytes → UInt32) : Nat → SegmentReader → Scan WalRecord SegmentError
  | 0, reader => ⟨[], reader.pos, .eof⟩
  | fuel + 1, reader =>
    match reader.nextRecord crc with
    | .ok none => ⟨[], reader.pos, .eof⟩
    | .ok (some (record, next)) => (SegmentReader.readLoop crc fuel next).cons record
    -- The position stays behind the last good record, which is the truncation point.
    | .err error => ⟨[], reader.pos, .failed error⟩
    | .panicked => ⟨[], reader.pos, .panicked⟩

/-- All the records a reader yields, and how the reading ended. -/
def SegmentReader.readAll (crc : Bytes → UInt32) (reader : SegmentReader) :
    Scan WalRecord SegmentError :=
  reader.readLoop crc reader.data.length

/-- Open a segment file and read it to its end. -/
def readSegment (crc : Bytes → UInt32) (data : Bytes) :
    Outcome SegmentError (Scan WalRecord SegmentError) := do
  let reader ← SegmentReader.openPath data
  return reader.readAll crc

/-- The contents of a segment holding the given records. -/
def segmentBytes (crc : Bytes → UInt32) (segmentId : Nat) (records : List WalRecord) : Bytes :=
  segmentHeader segmentId ++ encodeAll (WalRecord.serialize crc) records

@[simp] theorem segmentHeader_length (segmentId : Nat) :
    (segmentHeader segmentId).length = segmentHeaderSize := by
  simp [segmentHeader, segmentMagic, segmentHeaderSize]

/-- A decoded record moves the reader forward. -/
theorem decodeRecord_advances (crc : Bytes → UInt32) : Advances (decodeRecord crc) := by
  -- A record takes up four bytes at least.
  intro pos stream record used decoded
  simp only [decodeRecord] at decoded
  cases inner : WalRecord.deserialize crc pos stream with
  | ok result =>
    simp only [inner, Outcome.ok.injEq] at decoded
    subst decoded
    have := (WalRecord.deserialize_used inner).1
    omega
  | err error => simp [inner] at decoded
  | panicked => simp [inner] at decoded

/-- The record encoder and decoder form a frame codec over every checksum function. -/
theorem recordCodec (crc : Bytes → UInt32) :
    FrameCodec (WalRecord.serialize crc) (decodeRecord crc) WalRecord.Fits
      (fun error => error.isTornWrite = true) where
  advances := decodeRecord_advances crc
  whole record fits pos rest := by
    simp [decodeRecord, WalRecord.deserialize_serialize crc fits]
  torn record fits pos part torn _ := by
    obtain ⟨error, isTorn, decoded⟩ := WalRecord.deserialize_torn crc fits pos torn.1 torn.2
    exact ⟨.record error, isTorn, by simp [decodeRecord, decoded]⟩

/-- Reading record by record is the frame scan of what lies behind the reader's position. -/
theorem SegmentReader.readLoop_eq (crc : Bytes → UInt32) :
    ∀ fuel (reader : SegmentReader), (reader.data.drop reader.pos).length ≤ fuel →
      reader.readLoop crc fuel =
        scanAll (decodeRecord crc) reader.pos (reader.data.drop reader.pos) := by
  intro fuel
  induction fuel with
  | zero =>
    intro reader covered
    have empty : reader.data.drop reader.pos = [] := List.eq_nil_of_length_eq_zero (by omega)
    rw [empty]
    rfl
  | succ fuel ih =>
    intro reader covered
    simp only [List.length_drop] at covered
    by_cases done : reader.data.length ≤ reader.pos
    · simp [SegmentReader.readLoop, SegmentReader.nextRecord, done, List.drop_eq_nil_of_le done]
    · have some : reader.data.drop reader.pos ≠ [] := by
        simp only [ne_eq, List.drop_eq_nil_iff]
        exact done
      simp only [SegmentReader.readLoop, SegmentReader.nextRecord, done, ↓reduceIte]
      cases decoded : decodeRecord crc reader.pos (reader.data.drop reader.pos) with
      | err error => simp [scanAll_err some decoded]
      | panicked => simp [scanAll_panicked some decoded]
      | ok result =>
        obtain ⟨record, consumed⟩ := result
        have forward := decodeRecord_advances crc _ _ _ _ decoded
        -- The next call reads the same data from behind the decoded record.
        rw [scanAll_ok (decodeRecord_advances crc) some decoded, List.drop_drop]
        have later := ih { reader with pos := reader.pos + consumed }
          (by simp only [List.length_drop]; omega)
        simpa using congrArg (Scan.cons record) later

theorem SegmentReader.readAll_eq (crc : Bytes → UInt32) (reader : SegmentReader) :
    reader.readAll crc =
      scanAll (decodeRecord crc) reader.pos (reader.data.drop reader.pos) := by
  apply SegmentReader.readLoop_eq
  simp only [List.length_drop]
  omega

/-- Thirteen bytes the reader accepts as a header, whatever segment id they hold. -/
def SoundHeader (header : Bytes) : Prop :=
  header.length = segmentHeaderSize ∧ header.take 5 = segmentMagic ++ [segmentVersion]

/-- A file whose first five bytes are sound opens, whatever id its header holds. -/
theorem SegmentReader.openPath_ok {data : Bytes} (long : segmentHeaderSize ≤ data.length)
    (sound : data.take 5 = segmentMagic ++ [segmentVersion]) :
    ∃ segmentId, SegmentReader.openPath data = .ok ⟨data, segmentId, segmentHeaderSize⟩ := by
  -- The magic and the version are the first five bytes.
  have magic : data.take 4 = segmentMagic := by
    have cut := congrArg (List.take 4) sound
    simpa [List.take_take, segmentMagic] using cut
  have version : (data.drop 4).take 1 = [segmentVersion] := by
    have cut := congrArg (List.drop 4) sound
    simpa [List.drop_take, segmentMagic] using cut
  refine ⟨decodeBe ((data.drop 5).take 8), ?_⟩
  simp [SegmentReader.openPath, magic, version, segmentVersion, decodeBe, Nat.not_lt.mpr long]

/-- Behind a sound header the reader yields the scan of the remaining bytes. -/
theorem readSegment_eq (crc : Bytes → UInt32) {data : Bytes}
    (long : segmentHeaderSize ≤ data.length)
    (sound : data.take 5 = segmentMagic ++ [segmentVersion]) :
    readSegment crc data =
      .ok (scanAll (decodeRecord crc) segmentHeaderSize (data.drop segmentHeaderSize)) := by
  obtain ⟨segmentId, opened⟩ := SegmentReader.openPath_ok long sound
  simp [readSegment, opened, SegmentReader.readAll_eq]

theorem segmentHeader_sound (segmentId : Nat) : SoundHeader (segmentHeader segmentId) :=
  ⟨segmentHeader_length segmentId, by simp [segmentHeader, segmentMagic]⟩

/-- A sound header is skipped, and the rest of the file is scanned record by record. -/
theorem readSegment_header (crc : Bytes → UInt32) {header : Bytes} (sound : SoundHeader header)
    (rest : Bytes) :
    readSegment crc (header ++ rest) =
      .ok (scanAll (decodeRecord crc) segmentHeaderSize rest) := by
  obtain ⟨sized, front⟩ := sound
  have leading : (header ++ rest).take 5 = segmentMagic ++ [segmentVersion] := by
    rw [List.take_append_of_le_length (by rw [sized]; decide), front]
  rw [readSegment_eq crc (by simp [sized]) leading, List.drop_left' sized]

end Zradar.Wal
