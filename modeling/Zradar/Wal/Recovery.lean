import Zradar.Wal.Append

/-! Re-opening the directory a crash leaves: which torn or zero-filled files are recovered. -/

namespace Zradar.Wal

/-- The body length a byte string announces in its first four bytes. -/
def announcedLen (tail : Bytes) : Nat :=
  decodeBe (tail.take 4)

/-- Whether the announced body carries its own checksum. -/
def checksumMatches (crc : Bytes → UInt32) (tail : Bytes) : Prop :=
  let body := (tail.drop 4).take (announcedLen tail)
  UInt32.ofNat (decodeBe (body.take 4)) = crc (body.drop 4)

instance (crc : Bytes → UInt32) (tail : Bytes) : Decidable (checksumMatches crc tail) :=
  inferInstanceAs (Decidable (_ = _))

/-- The remains of a crash that recovery can cut off or take for a record. -/
def RecoverableTail (crc : Bytes → UInt32) (tail : Bytes) : Prop :=
  -- Too short for a length word, or for the body that the length word announces.
  tail.length < 4 + announcedLen tail ∨ tail.length < 4 ∨
    -- A body with a wrong checksum is cut off, and zeros behind a right one must not look like a word.
    announcedLen tail ≠ 0 ∧
      (¬ checksumMatches crc tail ∨ tail.length < 4 + announcedLen tail + 4)

instance (crc : Bytes → UInt32) (tail : Bytes) : Decidable (RecoverableTail crc tail) :=
  inferInstanceAs (Decidable (_ ∨ _))

/-- What a cut and a zero-filled extension leave behind the last whole record. -/
def ZeroFilled (crc : Bytes → UInt32) (tail : Bytes) : Prop :=
  ∃ part zeros, tail = part ++ List.replicate zeros 0 ∧
    (part = [] ∨ ∃ owner : WalRecord, owner.Fits ∧ TornPart part (owner.serialize crc))

/-- A length word that is cut and zero-filled reads as zero, or as more than any header. -/
theorem ZeroFilled.announcedLen {crc : Bytes → UInt32} {part : Bytes} {zeros : Nat}
    (torn : part = [] ∨ ∃ owner : WalRecord, owner.Fits ∧ TornPart part (owner.serialize crc))
    (long : 4 ≤ (part ++ List.replicate zeros 0).length)
    (announced : Wal.announcedLen (part ++ List.replicate zeros 0) ≠ 0) :
    37 ≤ Wal.announcedLen (part ++ List.replicate zeros 0) ∧
      part.length < 4 + Wal.announcedLen (part ++ List.replicate zeros 0) := by
  simp only [List.length_append, List.length_replicate] at long
  by_cases whole : 4 ≤ part.length
  · -- The word survived, so it announces the whole body of the record the part belongs to.
    obtain ⟨owner, fits, ⟨missing, rebuilt⟩, short⟩ :=
      torn.resolve_left (List.ne_nil_of_length_pos (by omega))
    have word : Wal.announcedLen (part ++ List.replicate zeros 0) = owner.bodyLen := by
      have same : part.take 4 = (owner.serialize crc).take 4 := by
        rw [← rebuilt, List.take_append_of_le_length whole]
      rw [Wal.announcedLen, List.take_append_of_le_length whole, same, WalRecord.serialize,
        List.append_assoc, List.take_left' (by simp), WalRecord.decodeBe_bodyLen fits]
    rw [WalRecord.serialize_length, recordHeaderSize] at short
    rw [word, WalRecord.bodyLen]
    omega
  · -- The low digits of the word are zeros, so it is a multiple of 256.
    have word : Wal.announcedLen (part ++ List.replicate zeros 0) =
        256 ^ (4 - part.length) * decodeBe part := by
      rw [Wal.announcedLen, List.take_append, List.take_of_length_le (by omega),
        List.take_replicate, Nat.min_eq_left (by omega), decodeBe_append_zeros]
    have digits : 256 ≤ 256 ^ (4 - part.length) := by
      have exponent : 1 ≤ 4 - part.length := by omega
      exact Nat.pow_le_pow_right (by decide : 0 < 256) exponent
    have high : 0 < decodeBe part := by
      rcases Nat.eq_zero_or_pos (decodeBe part) with zero | positive
      · exact absurd (by rw [word, zero, Nat.mul_zero]) announced
      · exact positive
    have large : 256 ≤ Wal.announcedLen (part ++ List.replicate zeros 0) := by
      rw [word]
      exact Nat.le_trans digits (Nat.le_mul_of_pos_right _ high)
    omega

/-- The discriminator byte of a cut and zero-filled record is its own, or that of a trace. -/
theorem ZeroFilled.signal {crc : Bytes → UInt32} {part : Bytes} {zeros : Nat} {byte : UInt8}
    (torn : part = [] ∨ ∃ owner : WalRecord, owner.Fits ∧ TornPart part (owner.serialize crc))
    (found : (part ++ List.replicate zeros 0)[8]? = some byte) :
    ∃ signal, SignalType.fromU8 byte = some signal := by
  by_cases inside : 8 < part.length
  · -- The byte lies in the surviving part, right behind the two leading words.
    obtain ⟨owner, _, ⟨missing, rebuilt⟩, _⟩ :=
      torn.resolve_left (List.ne_nil_of_length_pos (by omega))
    have original : (owner.serialize crc)[8]? = some owner.signalType.toU8 := by
      simp [WalRecord.serialize, WalRecord.checkedBytes, List.getElem?_append]
    rw [List.getElem?_append_left inside] at found
    rw [← rebuilt, List.getElem?_append_left inside, found] at original
    cases original
    exact ⟨owner.signalType, SignalType.fromU8_toU8 _⟩
  · rw [List.getElem?_append_right (by omega), List.getElem?_replicate] at found
    split at found
    · cases found
      exact ⟨.trace, rfl⟩
    · cases found

/-- A body long enough for the fixed fields is a record once its discriminator byte is known. -/
theorem WalRecord.readFields_ok {byte : UInt8} {rest : Bytes} {signal : SignalType}
    (known : SignalType.fromU8 byte = some signal) (long : 32 ≤ rest.length) (segmentOffset : Nat) :
    ∃ record, WalRecord.readFields (byte :: rest) segmentOffset = .ok record := by
  have decoded : SignalType.fromU8 (UInt8.ofNat (decodeBe [byte])) = some signal := by
    simpa [decodeBe] using known
  -- Each split asks for no more than the fixed fields provide.
  have bytes (count : Nat) (data : Bytes) (enough : count ≤ data.length) :
      (splitExact count data : Outcome RecordReadError _) =
        .ok (data.take count, data.drop count) := if_pos enough
  have uuid : (splitUuid rest : Outcome RecordReadError _) = .ok (⟨rest.take 16, _⟩, rest.drop 16) :=
    dif_pos (by omega)
  rw [WalRecord.readFields, bytes 1 _ (by simp)]
  simp only [Outcome.ok_bind, List.take_succ_cons, List.take_zero, List.drop_succ_cons,
    List.drop_zero, decoded, uuid]
  rw [bytes 8 _ (by simp only [List.length_drop]; omega)]
  simp only [Outcome.ok_bind]
  rw [bytes 8 _ (by simp only [List.length_drop]; omega)]
  exact ⟨_, rfl⟩

/-- Fewer than four bytes are nothing or a torn write. -/
theorem tornTail_short {crc : Bytes → UInt32} {tail : Bytes} (short : tail.length < 4) :
    TornTail crc tail :=
  Or.inr fun pos => ⟨.record (.tornWriteIncomplete pos), rfl, by
    simp [decodeRecord, WalRecord.deserialize, short]⟩

/-- A body that is announced but not there is a torn write. -/
theorem tornTail_truncated {crc : Bytes → UInt32} {tail : Bytes}
    (short : tail.length < 4 + announcedLen tail) : TornTail crc tail := by
  -- Even the length may be cut off.
  by_cases tiny : tail.length < 4
  · exact tornTail_short tiny
  · refine Or.inr fun pos =>
      ⟨.record (.tornWriteTruncated pos (4 + announcedLen tail) tail.length), rfl, ?_⟩
    simp only [announcedLen] at short
    simp [decodeRecord, WalRecord.deserialize, tiny, short, announcedLen]

/-- The decoder splits an announced body into its checksum word and the checked bytes. -/
theorem WalRecord.deserialize_body (crc : Bytes → UInt32) (segmentOffset : Nat) {tail : Bytes}
    (room : 4 ≤ announcedLen tail) (covered : 4 + announcedLen tail ≤ tail.length) :
    WalRecord.deserialize crc segmentOffset tail =
      let body := (tail.drop 4).take (announcedLen tail)
      if UInt32.ofNat (decodeBe (body.take 4)) ≠ crc (body.drop 4) then
        .err (.tornWriteCrcMismatch segmentOffset (UInt32.ofNat (decodeBe (body.take 4)))
          (crc (body.drop 4)))
      else do
        let record ← WalRecord.readFields (body.drop 4) segmentOffset
        return (record, 4 + announcedLen tail) := by
  simp only [announcedLen] at room covered ⊢
  -- The body is long enough to hold its checksum.
  have enough : 4 ≤ ((tail.drop 4).take (decodeBe (tail.take 4))).length := by
    simp only [List.length_take, List.length_drop]
    omega
  simp only [WalRecord.deserialize, splitExact, if_pos enough, Outcome.ok_bind]
  rw [if_neg (by omega), if_neg (by omega)]
  rfl

theorem tornTail_mismatch {crc : Bytes → UInt32} {tail : Bytes} (room : 4 ≤ announcedLen tail)
    (covered : 4 + announcedLen tail ≤ tail.length) (wrong : ¬ checksumMatches crc tail) :
    TornTail crc tail := by
  -- The record is complete, and its checksum is not that of its body.
  right
  intro pos
  let body := (tail.drop 4).take (announcedLen tail)
  refine ⟨.record (.tornWriteCrcMismatch pos (UInt32.ofNat (decodeBe (body.take 4)))
    (crc (body.drop 4))), rfl, ?_⟩
  simp only [checksumMatches] at wrong
  simp [decodeRecord, WalRecord.deserialize_body crc pos room covered, wrong, body]

/-- A matching checksum over a zero-filled record yields a record that is its own encoding. -/
theorem ZeroFilled.decodes {crc : Bytes → UInt32} {part : Bytes} {zeros : Nat}
    (torn : part = [] ∨ ∃ owner : WalRecord, owner.Fits ∧ TornPart part (owner.serialize crc))
    {tail : Bytes} (filled : tail = part ++ List.replicate zeros 0)
    (room : 37 ≤ Wal.announcedLen tail) (covered : 4 + Wal.announcedLen tail ≤ tail.length)
    (right : checksumMatches crc tail) :
    ∃ record : WalRecord, record.Fits ∧
      tail.take (4 + Wal.announcedLen tail) = record.serialize crc := by
  -- The first checked byte is the discriminator.
  obtain ⟨byte, rest, checked⟩ :
      ∃ byte rest, ((tail.drop 4).take (Wal.announcedLen tail)).drop 4 = byte :: rest := by
    apply List.exists_cons_of_length_pos
    simp only [List.length_drop, List.length_take]
    omega
  have sized := congrArg List.length checked
  simp only [List.length_drop, List.length_take, List.length_cons] at sized
  have found : tail[8]? = some byte := by
    have head := congrArg (fun bytes => bytes[0]?) checked
    simp only [List.getElem?_drop, List.getElem?_cons_zero, List.getElem?_take] at head
    rw [if_pos (by omega)] at head
    exact head
  obtain ⟨signal, known⟩ := ZeroFilled.signal torn (filled ▸ found)
  obtain ⟨record, read⟩ := WalRecord.readFields_ok known (by omega : 32 ≤ rest.length) 0
  have decoded : WalRecord.deserialize crc 0 tail = .ok (record, 4 + Wal.announcedLen tail) := by
    simp only [checksumMatches] at right
    rw [WalRecord.deserialize_body crc 0 (by omega) covered]
    simp only [checked] at right ⊢
    simp [right, read]
  exact ⟨record, WalRecord.serialize_of_deserialize decoded⟩

/-- Crash remains are whole records, then a torn write or a zero length word. -/
theorem ZeroFilled.splits {crc : Bytes → UInt32} {tail : Bytes} (filled : ZeroFilled crc tail) :
    ∃ extra rest, tail = encodeAll (WalRecord.serialize crc) extra ++ rest ∧
      (∀ record ∈ extra, record.Fits) ∧
      (RecoverableTail crc tail → TornTail crc rest) ∧
      (¬ RecoverableTail crc tail → 4 ≤ rest.length ∧ decodeBe (rest.take 4) = 0) := by
  obtain ⟨part, zeros, shape, torn⟩ := filled
  by_cases tiny : tail.length < 4
  · -- Not even a length word is left.
    exact ⟨[], tail, by simp, by simp, fun _ => tornTail_short tiny,
      fun lost => absurd (Or.inr (Or.inl tiny)) lost⟩
  by_cases truncated : tail.length < 4 + Wal.announcedLen tail
  · exact ⟨[], tail, by simp, by simp, fun _ => tornTail_truncated truncated,
      fun lost => absurd (Or.inl truncated) lost⟩
  by_cases zero : Wal.announcedLen tail = 0
  · -- The length word lies among the zeros.
    refine ⟨[], tail, by simp, by simp, fun safe => ?_, fun _ => ⟨by omega, zero⟩⟩
    rcases safe with short | short | ⟨some, _⟩
    · exact absurd short truncated
    · exact absurd short tiny
    · exact absurd zero some
  subst shape
  obtain ⟨room, reached⟩ := ZeroFilled.announcedLen torn (by omega) zero
  by_cases right : checksumMatches crc (part ++ List.replicate zeros 0)
  · -- The zeros happen to complete a record, and more zeros follow it.
    obtain ⟨record, fits, encoded⟩ :=
      ZeroFilled.decodes torn rfl room (Nat.le_of_not_lt truncated) right
    have behind : (part ++ List.replicate zeros 0).drop
        (4 + Wal.announcedLen (part ++ List.replicate zeros 0)) =
          List.replicate (zeros - (4 + Wal.announcedLen (part ++ List.replicate zeros 0) -
            part.length)) 0 := by
      rw [List.drop_append, List.drop_of_length_le (by omega), List.nil_append,
        List.drop_replicate]
    have sized := congrArg List.length behind
    simp only [List.length_drop, List.length_replicate] at sized
    refine ⟨[record], List.replicate (zeros - (4 + Wal.announcedLen
      (part ++ List.replicate zeros 0) - part.length)) 0, ?_, ?_, fun safe => ?_, fun lost => ?_⟩
    · rw [← behind, encodeAll_cons, encodeAll_nil, List.append_nil, ← encoded,
        List.take_append_drop]
    · simpa using fits
    · apply tornTail_short
      simp only [List.length_replicate]
      rcases safe with short | short | ⟨_, wrong | short⟩
      · exact absurd short truncated
      · exact absurd short tiny
      · exact absurd right wrong
      · omega
    · have long : ¬ (part ++ List.replicate zeros 0).length <
          4 + Wal.announcedLen (part ++ List.replicate zeros 0) + 4 := fun short =>
        lost (Or.inr (Or.inr ⟨zero, Or.inr short⟩))
      refine ⟨by simp only [List.length_replicate]; omega, ?_⟩
      rw [List.take_replicate, decodeBe_zeros]
  · exact ⟨[], _, by simp, by simp,
      fun _ => tornTail_mismatch (by omega) (Nat.le_of_not_lt truncated) right,
      fun lost => absurd (Or.inr (Or.inr ⟨zero, Or.inl right⟩)) lost⟩

/-- The directory a crash leaves: one file keeps a leading part, and zeros may follow it. -/
def WalDir.crash (dir : WalDir) (segmentId kept zeros : Nat) : WalDir :=
  dir.setContents segmentId ((dir.contents segmentId).take kept ++ List.replicate zeros 0)

/-- The records of a segment that lie wholly in what a crash keeps of the active file. -/
def WalState.surviving (crc : Bytes → UInt32) (wal : WalState) (kept segmentId : Nat) :
    List WalRecord :=
  if segmentId = wal.writer.segmentId then
    wholeWithin (WalRecord.serialize crc) (kept - segmentHeaderSize)
      (recordsIn wal.written segmentId)
  else recordsIn wal.written segmentId

/-- The bytes of the active file behind the last record that survives a crash. -/
def WalState.remains (crc : Bytes → UInt32) (wal : WalState) (kept zeros : Nat) : Bytes :=
  ((wal.dir.crash wal.writer.segmentId kept zeros).contents wal.writer.segmentId).drop
    (segmentBytes crc wal.writer.segmentId
      (wal.surviving crc kept wal.writer.segmentId)).length

/-- The appends of one record by one producer, start to end. -/
def appendOne (crc : Bytes → UInt32) (segmentMaxBytes : Nat) (wal : WalState)
    (record : WalRecord) : Option WalState :=
  run (appendStep crc segmentMaxBytes) wal [.takeOffset record, .lockWriter 0, .finishWrite]

/-- Opening succeeds, the surviving records are read in order, and a new record can be read back. -/
def Recovers (crc : Bytes → UInt32) (segmentMaxBytes : Nat) (dir : WalDir)
    (surviving : Nat → List WalRecord) : Prop :=
  ∃ opened, walOpen crc segmentMaxBytes dir = .ok opened ∧
    (∀ segmentId ∈ dir.segmentIds,
      surviving segmentId <+: readableRecords crc (opened.dir.contents segmentId)) ∧
    ∀ record : WalRecord, record.Fits →
      ∃ wal segmentId appended,
        appendOne crc segmentMaxBytes (.ofOpened crc opened) record = some wal ∧
        wal.written = (WalState.ofOpened crc opened).written ++ [(segmentId, appended)] ∧
        appended ∈ readableRecords crc (wal.dir.contents segmentId)

/-- A file that lacks a sound header is refused. -/
theorem SegmentReader.openPath_unsound {data : Bytes}
    (unsound : ¬ (segmentHeaderSize ≤ data.length ∧
      data.take 5 = segmentMagic ++ [segmentVersion])) :
    ∃ error, SegmentReader.openPath data = .err error := by
  simp only [SegmentReader.openPath]
  split
  · exact ⟨_, rfl⟩
  · split
    · exact ⟨_, rfl⟩
    · split
      · exact ⟨_, rfl⟩
      · -- The magic and the version were accepted, so the first five bytes are sound.
        rename_i long magic version
        exfalso
        refine unsound ⟨by omega, ?_⟩
        have byte : ∃ found, (data.drop 4).take 1 = [found] := by
          apply List.length_eq_one_iff.mp
          simp only [List.length_take, List.length_drop]
          simp only [segmentHeaderSize] at long
          omega
        obtain ⟨found, byte⟩ := byte
        have same : found = segmentVersion := by simpa [byte, decodeBe] using version
        have split : data.take 5 = data.take 4 ++ (data.drop 4).take 1 := by
          rw [← List.take_add]
        rw [split, byte, same, Decidable.of_not_not magic]

/-- Behind a refused header there is no recovery. -/
theorem walOpen_unsound (crc : Bytes → UInt32) (segmentMaxBytes : Nat) {dir : WalDir} {lastId : Nat}
    (last : dir.segmentIds.getLast? = some lastId)
    (unsound : ¬ (segmentHeaderSize ≤ (dir.contents lastId).length ∧
      (dir.contents lastId).take 5 = segmentMagic ++ [segmentVersion])) :
    ∃ error, walOpen crc segmentMaxBytes dir = .err error := by
  obtain ⟨error, refused⟩ := SegmentReader.openPath_unsound unsound
  exact ⟨.segment error, by simp [walOpen, last, refused]⟩

/-- Opening panics when a zero length word follows the records of the last segment. -/
theorem walOpen_emptyBody {crc : Bytes → UInt32} {segmentMaxBytes : Nat} {dir : WalDir}
    {lastId : Nat} (last : dir.segmentIds.getLast? = some lastId) {header : Bytes}
    (sound : SoundHeader header) {records : List WalRecord}
    (fits : ∀ record ∈ records, record.Fits) {rest : Bytes} (long : 4 ≤ rest.length)
    (zero : decodeBe (rest.take 4) = 0)
    (contents : dir.contents lastId =
      header ++ encodeAll (WalRecord.serialize crc) records ++ rest) :
    walOpen crc segmentMaxBytes dir = .panicked := by
  have read := readSegment_emptyBody crc sound fits long zero
  rw [walOpen_read segmentMaxBytes last (contents ▸ read)]
  rfl

/-- A cut of the active file, extended by zeros, is a header, whole records and crash remains. -/
theorem WalState.Sound.crash_contents {crc : Bytes → UInt32} {wal : WalState}
    (sound : wal.Sound crc) {kept zeros : Nat} (version : 5 ≤ kept)
    (header : segmentHeaderSize ≤ kept + zeros) :
    ∃ front, SoundHeader front ∧ ZeroFilled crc (wal.remains crc kept zeros) ∧
      (wal.dir.crash wal.writer.segmentId kept zeros).contents wal.writer.segmentId =
        front ++ encodeAll (WalRecord.serialize crc)
          (wal.surviving crc kept wal.writer.segmentId) ++ wal.remains crc kept zeros := by
  have holds := sound.files _ sound.active
  have contents : (wal.dir.crash wal.writer.segmentId kept zeros).contents wal.writer.segmentId =
      (wal.dir.contents wal.writer.segmentId).take kept ++ List.replicate zeros 0 := by
    simp [WalDir.crash]
  have surviving : wal.surviving crc kept wal.writer.segmentId =
      wholeWithin (WalRecord.serialize crc) (kept - segmentHeaderSize)
        (recordsIn wal.written wal.writer.segmentId) := by
    simp [WalState.surviving]
  by_cases behind : segmentHeaderSize ≤ kept
  · -- The header survived, so the cut leaves whole records and a torn part.
    obtain ⟨_, part, cut, torn⟩ := holds.take behind
    rw [← surviving] at cut
    have remains : wal.remains crc kept zeros = part ++ List.replicate zeros 0 := by
      rw [WalState.remains, contents, cut, List.append_assoc]
      exact List.drop_left' rfl
    refine ⟨segmentHeader wal.writer.segmentId, segmentHeader_sound _,
      ⟨part, zeros, remains, torn⟩, ?_⟩
    rw [contents, cut, remains, segmentBytes, List.append_assoc]
  · -- The cut falls into the segment id, which the reader never compares.
    have none : wal.surviving crc kept wal.writer.segmentId = [] := by
      rw [surviving, show kept - segmentHeaderSize = 0 by omega]
      cases recordsIn wal.written wal.writer.segmentId with
      | nil => rfl
      | cons record rest => simp [wholeWithin, recordHeaderSize]
    obtain ⟨_, part, whole, _⟩ := holds
    have cut : (wal.dir.contents wal.writer.segmentId).take kept =
        (segmentHeader wal.writer.segmentId).take kept := by
      rw [whole, segmentBytes, List.append_assoc, List.take_append_of_le_length (by simp; omega)]
    have short : ((segmentHeader wal.writer.segmentId).take kept).length = kept := by
      simp only [List.length_take, segmentHeader_length]
      omega
    let front := (segmentHeader wal.writer.segmentId).take kept ++
      List.replicate (segmentHeaderSize - kept) 0
    have sized : front.length = segmentHeaderSize := by
      simp only [front, List.length_append, short, List.length_replicate]
      omega
    have file : (wal.dir.crash wal.writer.segmentId kept zeros).contents wal.writer.segmentId =
        front ++ List.replicate (zeros - (segmentHeaderSize - kept)) 0 := by
      rw [contents, cut, List.append_assoc, List.replicate_append_replicate]
      congr 2
      omega
    have remains : wal.remains crc kept zeros =
        List.replicate (zeros - (segmentHeaderSize - kept)) 0 := by
      rw [WalState.remains, file, none]
      exact List.drop_left' (by simp [segmentBytes, sized])
    refine ⟨front, ⟨sized, ?_⟩, ⟨[], _, remains, Or.inl rfl⟩, ?_⟩
    · simp only [front]
      rw [List.take_append_of_le_length (by omega), List.take_take, Nat.min_eq_left version]
      exact (segmentHeader_sound _).2
    · rw [file, remains, none, encodeAll_nil, List.append_nil]

/-- A file cut inside its magic or version is refused, whatever zeros follow. -/
theorem WalState.Sound.crash_unsound {crc : Bytes → UInt32} {wal : WalState}
    (sound : wal.Sound crc) {kept zeros : Nat}
    (lost : ¬ (5 ≤ kept ∧ segmentHeaderSize ≤ kept + zeros)) :
    ¬ (segmentHeaderSize ≤
        ((wal.dir.crash wal.writer.segmentId kept zeros).contents wal.writer.segmentId).length ∧
      ((wal.dir.crash wal.writer.segmentId kept zeros).contents wal.writer.segmentId).take 5 =
        segmentMagic ++ [segmentVersion]) := by
  rintro ⟨long, front⟩
  obtain ⟨part, whole⟩ := sound.active_leading
  have atLeast : segmentHeaderSize ≤ (wal.dir.contents wal.writer.segmentId).length := by
    rw [← whole, List.length_append, segmentBytes_length]
    omega
  have contents : (wal.dir.crash wal.writer.segmentId kept zeros).contents wal.writer.segmentId =
      (wal.dir.contents wal.writer.segmentId).take kept ++ List.replicate zeros 0 := by
    simp [WalDir.crash]
  rw [contents] at long front
  simp only [List.length_append, List.length_take, List.length_replicate] at long
  have cut : kept < 5 := by omega
  -- The version byte would have to lie among the zeros.
  have version := congrArg (fun bytes => bytes[4]?) front
  rw [List.getElem?_take_of_lt (by decide), List.getElem?_append_right (by
    simp only [List.length_take]; omega), List.getElem?_replicate] at version
  split at version <;> cases version

/-- A record appended behind whole records, or behind a rotation, is read back. -/
theorem appendOne_readable {crc : Bytes → UInt32} (segmentMaxBytes : Nat) {opened : OpenedWal}
    {header : Bytes} (sound : SoundHeader header) {records : List WalRecord}
    (fits : ∀ record ∈ records, record.Fits)
    (contents : opened.dir.contents opened.writer.segmentId =
      header ++ encodeAll (WalRecord.serialize crc) records)
    {record : WalRecord} (fit : record.Fits) :
    ∃ wal segmentId appended,
      appendOne crc segmentMaxBytes (.ofOpened crc opened) record = some wal ∧
      wal.written = (WalState.ofOpened crc opened).written ++ [(segmentId, appended)] ∧
      appended ∈ readableRecords crc (wal.dir.contents segmentId) := by
  let appended : WalRecord := { record with assignedOffset := opened.nextOffset }
  let waiting := (WalState.ofOpened crc opened).takeOffset record
  -- In both cases the file is a sound header, whole records and the new record behind them.
  have readBack {front : Bytes} (accepted : SoundHeader front) {before : List WalRecord}
      (earlier : ∀ record ∈ before, record.Fits) :
      appended ∈ readableRecords crc
        (front ++ encodeAll (WalRecord.serialize crc) before ++ appended.serialize crc) := by
    have all : ∀ other ∈ before ++ [appended], other.Fits := by
      intro other member
      rcases List.mem_append.mp member with early | last
      · exact earlier other early
      · rw [List.mem_singleton.mp last]
        exact fit
    have read := readableRecords_tail crc accepted all (Or.inl rfl : TornTail crc [])
    simp only [encodeAll_append, encodeAll_cons, encodeAll_nil, List.append_nil,
      ← List.append_assoc] at read
    rw [read]
    simp
  by_cases full : waiting.rotates crc segmentMaxBytes appended
  · refine ⟨((waiting.rotate.acquire crc 0 appended).writeActive (appended.serialize crc)).finish crc
      appended, opened.writer.segmentId + 1, appended, ?_, rfl, ?_⟩
    · have locks : appendStep crc segmentMaxBytes waiting (.lockWriter 0) =
          some (waiting.rotate.acquire crc 0 appended) := if_pos full
      simp only [appendOne, run]
      simp only [appendStep] at locks ⊢
      rw [locks]
      rfl
    · have created := readBack (segmentHeader_sound (opened.writer.segmentId + 1))
        (by simp : ∀ record ∈ [], _)
      simpa [WalState.finish, WalState.writeActive, WalState.acquire, WalState.rotate, waiting,
        WalState.takeOffset, WalState.ofOpened] using created
  · refine ⟨((waiting.acquire crc 0 appended).writeActive (appended.serialize crc)).finish crc
      appended, opened.writer.segmentId, appended, ?_, rfl, ?_⟩
    · have locks : appendStep crc segmentMaxBytes waiting (.lockWriter 0) =
          some (waiting.acquire crc 0 appended) := if_neg full
      simp only [appendOne, run]
      simp only [appendStep] at locks ⊢
      rw [locks]
      rfl
    · have added := readBack sound fits
      simpa [WalState.finish, WalState.writeActive, WalState.acquire, waiting,
        WalState.takeOffset, WalState.ofOpened, contents] using added

/-- Recovery of a crashed directory depends on the bytes the crash left in the active file. -/
theorem WalState.Sound.recovers_iff {crc : Bytes → UInt32} {wal : WalState}
    (sound : wal.Sound crc) (segmentMaxBytes kept zeros : Nat) :
    Recovers crc segmentMaxBytes (wal.dir.crash wal.writer.segmentId kept zeros)
        (wal.surviving crc kept) ↔
      5 ≤ kept ∧ segmentHeaderSize ≤ kept + zeros ∧
        RecoverableTail crc (wal.remains crc kept zeros) := by
  have last : (wal.dir.crash wal.writer.segmentId kept zeros).segmentIds.getLast? =
      some wal.writer.segmentId := WalDir.getLast_of_highest sound.active sound.last
  by_cases header : 5 ≤ kept ∧ segmentHeaderSize ≤ kept + zeros
  · obtain ⟨front, accepted, filled, contents⟩ := sound.crash_contents header.1 header.2
    obtain ⟨extra, rest, split, extraFits, torn, lost⟩ := filled.splits
    have fits : ∀ record ∈ wal.surviving crc kept wal.writer.segmentId ++ extra, record.Fits := by
      intro record member
      rcases List.mem_append.mp member with early | late
      · rw [WalState.surviving, if_pos rfl] at early
        exact (sound.files _ sound.active).1 record ((wholeWithin_leading _ _ _).subset early)
      · exact extraFits record late
    -- The records that zeros happened to complete join the surviving ones.
    rw [split, List.append_assoc, ← List.append_assoc (encodeAll _ _), ← encodeAll_append,
      ← List.append_assoc] at contents
    constructor
    · rintro ⟨opened, started, _⟩
      refine ⟨header.1, header.2, Decidable.byContradiction fun unrecoverable => ?_⟩
      obtain ⟨long, zero⟩ := lost unrecoverable
      rw [walOpen_emptyBody last accepted fits long zero contents] at started
      cases started
    · rintro ⟨_, _, recoverable⟩
      refine ⟨_, walOpen_tail segmentMaxBytes last accepted fits (torn recoverable) contents,
        ?_, ?_⟩
      · intro segmentId member
        have upTo : segmentId ≤ wal.writer.segmentId := sound.last segmentId member
        rw [reopenOrRotate_contents upTo, WalDir.setContents_contents]
        split
        · rename_i active
          subst active
          have read := readableRecords_tail crc accepted fits (Or.inl rfl : TornTail crc [])
          rw [List.append_nil] at read
          rw [read]
          exact List.prefix_append _ _
        · -- Sealed segments are as they were before the crash.
          rename_i sealed
          have untouched : (wal.dir.crash wal.writer.segmentId kept zeros).contents segmentId =
              wal.dir.contents segmentId := by
            simp [WalDir.crash, sealed]
          have same : wal.surviving crc kept segmentId =
              readableRecords crc (wal.dir.contents segmentId) := by
            rw [(sound.files segmentId member).readable, WalState.surviving, if_neg sealed]
          rw [untouched]
          exact ⟨[], (List.append_nil _).trans same⟩
      · intro record fit
        simp only [reopenOrRotate]
        split
        · exact appendOne_readable segmentMaxBytes (segmentHeader_sound (wal.writer.segmentId + 1))
            (by simp : ∀ record ∈ [], _) (by simp) fit
        · exact appendOne_readable segmentMaxBytes accepted fits (by simp) fit
  · -- Without its magic and version the file is refused.
    obtain ⟨error, refused⟩ :=
      walOpen_unsound crc segmentMaxBytes last (sound.crash_unsound header)
    constructor
    · rintro ⟨opened, started, _⟩
      rw [refused] at started
      cases started
    · rintro ⟨version, long, _⟩
      exact absurd ⟨version, long⟩ header

/--
A crash is recovered from exactly when the header's first five bytes survive in a file of full header length, and the remains behind the last whole record are a recoverable tail.

The run in front of the crash is any run of appends and rotations whose records fit the format.
-/
theorem crash_recovers_iff (crc : Bytes → UInt32) (segmentMaxBytes : Nat) (dir : WalDir)
    (sound : dir.Sound crc) (opened : OpenedWal)
    (started : walOpen crc segmentMaxBytes dir = .ok opened) (labels : List AppendLabel)
    (clean : Guarded (appendStep crc segmentMaxBytes) (CleanAppend crc segmentMaxBytes)
      (.ofOpened crc opened) labels)
    (wal : WalState)
    (reached : run (appendStep crc segmentMaxBytes) (.ofOpened crc opened) labels = some wal)
    (kept zeros : Nat) :
    Recovers crc segmentMaxBytes (wal.dir.crash wal.writer.segmentId kept zeros)
        (wal.surviving crc kept) ↔
      5 ≤ kept ∧ segmentHeaderSize ≤ kept + zeros ∧
        RecoverableTail crc (wal.remains crc kept zeros) :=
  ((WalState.Sound.start sound started).reached clean reached).recovers_iff segmentMaxBytes kept
    zeros

/-- A single record, cut inside its body, is dropped and the WAL goes on. -/
theorem crash_recovers_cut :
    ∃ wal, run (appendStep (fun _ => 0) 1000) (.fresh fun _ => 0)
        [.takeOffset sampleRecord, .lockWriter 0, .finishWrite] = some wal ∧
      Recovers (fun _ => 0) 1000 (wal.dir.crash wal.writer.segmentId 40 0)
        (wal.surviving (fun _ => 0) 40) := by
  refine ⟨_, rfl, ?_⟩
  exact (crash_recovers_iff (fun _ => 0) 1000 .empty (WalDir.empty_sound _) _ rfl
    [.takeOffset sampleRecord, .lockWriter 0, .finishWrite] (by decide) _ rfl 40 0).mpr
    ⟨by decide, by decide, by decide⟩

/-- Four zero bytes behind the header of a fresh segment make opening panic. -/
theorem crash_zero_tail_panics :
    ¬ ∃ crc : Bytes → UInt32, ∀ segmentMaxBytes labels wal,
      run (appendStep crc segmentMaxBytes) (.fresh crc) labels = some wal →
      ∀ kept zeros, Recovers crc segmentMaxBytes
        (wal.dir.crash wal.writer.segmentId kept zeros) (wal.surviving crc kept) := by
  -- Four zero bytes announce a body of no length.
  rintro ⟨crc, claim⟩
  obtain ⟨opened, started, _⟩ := claim 1000 [] (.fresh crc) rfl 13 4
  have panics : walOpen crc 1000 ((WalState.fresh crc).dir.crash 0 13 4) = .panicked := rfl
  have same : (WalState.fresh crc).writer.segmentId = 0 := rfl
  rw [same, panics] at started
  cases started

end Zradar.Wal
