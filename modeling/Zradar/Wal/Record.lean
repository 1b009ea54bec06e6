import Zradar.Lib.BigEndian
import Zradar.Lib.Outcome

/-! The on-disk WAL record: its fields, its encoder and its decoder. -/

namespace Zradar

/-- A UUID, held as its sixteen bytes. -/
structure Uuid where
  bytes : Bytes
  sized : bytes.length = 16
  deriving DecidableEq

/-- The UUID whose bytes are all zero. -/
def Uuid.nil : Uuid :=
  ⟨List.replicate 16 0, by simp⟩

/-- The digits of a UUID, two for each byte. -/
def Uuid.digits (uuid : Uuid) : List Char :=
  uuid.bytes.flatMap fun byte => [Nat.digitChar (byte.toNat / 16), Nat.digitChar (byte.toNat % 16)]

/-- The text of a UUID: its digits in groups of eight, four, four, four and twelve. -/
def Uuid.toText (uuid : Uuid) : String :=
  let digits := uuid.digits
  String.ofList (digits.take 8 ++ '-' :: ((digits.drop 8).take 4 ++ '-' ::
    ((digits.drop 12).take 4 ++ '-' :: ((digits.drop 16).take 4 ++ '-' :: digits.drop 20))))

/-- A workspace is named by a UUID. -/
abbrev WorkspaceId := Uuid

namespace Wal

/-- Length word, CRC word, signal, workspace, timestamp and offset. -/
def recordHeaderSize : Nat := 4 + 4 + 1 + 16 + 8 + 8

/-- Signal discriminator stored in each record. -/
inductive SignalType where
  | trace
  | metric
  | log
  | score
  deriving DecidableEq, Repr

/-- The discriminator byte of a signal. -/
def SignalType.toU8 : SignalType → UInt8
  | .trace => 0
  | .metric => 1
  | .log => 2
  | .score => 3

/-- The signal a discriminator byte stands for, if any. -/
def SignalType.fromU8 (byte : UInt8) : Option SignalType :=
  if byte = 0 then some .trace
  else if byte = 1 then some .metric
  else if byte = 2 then some .log
  else if byte = 3 then some .score
  else none

/-- One WAL record. -/
structure WalRecord where
  signalType : SignalType
  workspaceId : WorkspaceId
  arrivalTimestampNs : Int64
  assignedOffset : UInt64
  payload : Bytes
  deriving DecidableEq

/-- Why a record could not be read from a segment. -/
inductive RecordReadError where
  /-- Fewer than four bytes are left for the length word. -/
  | tornWriteIncomplete (offset : Nat)
  /-- The stored checksum is not the one of the body. -/
  | tornWriteCrcMismatch (offset : Nat) (expected actual : UInt32)
  /-- The body is longer than what is left of the file. -/
  | tornWriteTruncated (offset need available : Nat)
  /-- The discriminator byte stands for no signal. -/
  | invalidSignalType (offset : Nat) (value : UInt8)
  deriving DecidableEq, Repr

/-- The three errors that stand for a write cut short. -/
def RecordReadError.isTornWrite : RecordReadError → Bool
  | .tornWriteIncomplete _ => true
  | .tornWriteCrcMismatch _ _ _ => true
  | .tornWriteTruncated _ _ _ => true
  | .invalidSignalType _ _ => false

/-- The bytes a record's checksum is computed over. -/
def WalRecord.checkedBytes (record : WalRecord) : Bytes :=
  [record.signalType.toU8] ++ record.workspaceId.bytes ++
    encodeBe 8 record.arrivalTimestampNs.toUInt64.toNat ++
    encodeBe 8 record.assignedOffset.toNat ++ record.payload

/-- The value of the length word: checksum, fixed fields and payload. -/
def WalRecord.bodyLen (record : WalRecord) : Nat :=
  4 + 1 + 16 + 8 + 8 + record.payload.length

/-- The length word is 32 bits wide, so only a body below that bound is described by it. -/
def WalRecord.Fits (record : WalRecord) : Prop :=
  37 + record.payload.length < 2 ^ 32

instance (record : WalRecord) : Decidable record.Fits :=
  inferInstanceAs (Decidable (_ < _))

/-- Serialize a record for appending to a segment. -/
def WalRecord.serialize (crc : Bytes → UInt32) (record : WalRecord) : Bytes :=
  -- The length word is narrowed to 32 bits, whatever the body measures.
  encodeBe 4 record.bodyLen ++ encodeBe 4 (crc record.checkedBytes).toNat ++ record.checkedBytes

/-- Split off an exact number of leading bytes, as a slice or a `get_*` call does. -/
def splitExact {ε : Type} (count : Nat) (data : Bytes) : Outcome ε (Bytes × Bytes) :=
  if count ≤ data.length then .ok (data.take count, data.drop count) else .panicked

/-- Read the UUID in front of a byte string. -/
def splitUuid {ε : Type} (data : Bytes) : Outcome ε (Uuid × Bytes) :=
  if enough : 16 ≤ data.length then
    .ok (⟨data.take 16, by rw [List.length_take]; omega⟩, data.drop 16)
  else .panicked

/-- The fixed fields and the payload behind the checksum. -/
def WalRecord.readFields (cursor : Bytes) (segmentOffset : Nat) :
    Outcome RecordReadError WalRecord := do
  let (signalByte, cursor) ← splitExact 1 cursor
  let signalByte := UInt8.ofNat (decodeBe signalByte)
  match SignalType.fromU8 signalByte with
  | none => .err (.invalidSignalType segmentOffset signalByte)
  | some signalType =>
    let (workspaceId, cursor) ← splitUuid cursor
    let (timestamp, cursor) ← splitExact 8 cursor
    let (offset, payload) ← splitExact 8 cursor
    return {
      signalType
      workspaceId
      arrivalTimestampNs := (UInt64.ofNat (decodeBe timestamp)).toInt64
      assignedOffset := UInt64.ofNat (decodeBe offset)
      payload }

/-- Decode the record in front of a byte string, with the number of bytes it takes up. -/
def WalRecord.deserialize (crc : Bytes → UInt32) (segmentOffset : Nat) (data : Bytes) :
    Outcome RecordReadError (WalRecord × Nat) :=
  if data.length < 4 then .err (.tornWriteIncomplete segmentOffset)
  else
    let bodyLen := decodeBe (data.take 4)
    if data.length < 4 + bodyLen then
      .err (.tornWriteTruncated segmentOffset (4 + bodyLen) data.length)
    else do
      let body := (data.drop 4).take bodyLen
      -- Indexing the four checksum bytes panics when the body is shorter than that.
      let (crcBytes, checked) ← splitExact 4 body
      let storedCrc := UInt32.ofNat (decodeBe crcBytes)
      let actualCrc := crc checked
      if storedCrc ≠ actualCrc then
        .err (.tornWriteCrcMismatch segmentOffset storedCrc actualCrc)
      else
        let record ← WalRecord.readFields checked segmentOffset
        return (record, 4 + bodyLen)

@[simp] theorem SignalType.fromU8_toU8 (signal : SignalType) :
    SignalType.fromU8 signal.toU8 = some signal := by
  cases signal <;> rfl

@[simp] theorem WalRecord.checkedBytes_length (record : WalRecord) :
    record.checkedBytes.length = 33 + record.payload.length := by
  simp only [WalRecord.checkedBytes, List.length_append, List.length_singleton, encodeBe_length,
    record.workspaceId.sized]

@[simp] theorem WalRecord.serialize_length (crc : Bytes → UInt32) (record : WalRecord) :
    (record.serialize crc).length = recordHeaderSize + record.payload.length := by
  simp only [WalRecord.serialize, List.length_append, encodeBe_length,
    WalRecord.checkedBytes_length, recordHeaderSize]
  omega

/-- Exactly the leading bytes asked for are split off. -/
theorem splitExact_append {ε : Type} {count : Nat} {front : Bytes} (sized : front.length = count)
    (rest : Bytes) : (splitExact count (front ++ rest) : Outcome ε _) = .ok (front, rest) := by
  subst sized
  simp [splitExact]

theorem splitUuid_append {ε : Type} (uuid : Uuid) (rest : Bytes) :
    (splitUuid (uuid.bytes ++ rest) : Outcome ε _) = .ok (uuid, rest) := by
  -- A uuid is sixteen bytes wide.
  obtain ⟨bytes, sized⟩ := uuid
  have enough : 16 ≤ (bytes ++ rest).length := by simp [sized]
  simp only [splitUuid, enough, ↓reduceDIte]
  congr 3
  · exact List.take_left' sized
  · exact List.drop_left' sized

/-- A 64-bit word survives being written and read. -/
theorem ofNat_decodeBe_uint64 (word : UInt64) :
    UInt64.ofNat (decodeBe (encodeBe 8 word.toNat)) = word := by
  have bound : word.toNat < 256 ^ 8 := word.toNat_lt
  rw [decodeBe_encodeBe_of_lt bound]
  exact UInt64.ofNat_toNat

/-- A checksum word survives being written and read. -/
theorem ofNat_decodeBe_uint32 (word : UInt32) :
    UInt32.ofNat (decodeBe (encodeBe 4 word.toNat)) = word := by
  have bound : word.toNat < 256 ^ 4 := word.toNat_lt
  rw [decodeBe_encodeBe_of_lt bound]
  exact UInt32.ofNat_toNat

/-- The fields behind the checksum are read back as they were written. -/
theorem WalRecord.readFields_checkedBytes (record : WalRecord) (segmentOffset : Nat) :
    WalRecord.readFields record.checkedBytes segmentOffset = .ok record := by
  have signal : UInt8.ofNat (decodeBe [record.signalType.toU8]) = record.signalType.toU8 := by
    simp [decodeBe]
  -- Each field is split off in the order it was appended.
  simp only [WalRecord.readFields, WalRecord.checkedBytes, List.append_assoc]
  rw [splitExact_append (by rfl)]
  simp only [Outcome.ok_bind, signal, SignalType.fromU8_toU8]
  rw [splitUuid_append]
  simp only [Outcome.ok_bind]
  rw [splitExact_append (by simp)]
  simp only [Outcome.ok_bind]
  rw [splitExact_append (by simp)]
  simp [ofNat_decodeBe_uint64]

/-- The length word of a record that fits denotes its body length. -/
theorem WalRecord.decodeBe_bodyLen {record : WalRecord} (fits : record.Fits) :
    decodeBe (encodeBe 4 record.bodyLen) = record.bodyLen := by
  apply decodeBe_encodeBe_of_lt
  simp only [WalRecord.Fits, WalRecord.bodyLen] at *
  omega

/-- A serialized record decodes to itself, whatever follows it. -/
theorem WalRecord.deserialize_serialize (crc : Bytes → UInt32) {record : WalRecord}
    (fits : record.Fits) (segmentOffset : Nat) (rest : Bytes) :
    WalRecord.deserialize crc segmentOffset (record.serialize crc ++ rest) =
      .ok (record, (record.serialize crc).length) := by
  have word : decodeBe ((record.serialize crc ++ rest).take 4) = record.bodyLen := by
    rw [WalRecord.serialize, List.append_assoc, List.append_assoc, List.take_left' (by simp),
      WalRecord.decodeBe_bodyLen fits]
  have size : (record.serialize crc).length = 4 + record.bodyLen := by
    simp only [WalRecord.serialize_length, recordHeaderSize, WalRecord.bodyLen]
    omega
  -- The body the length word delimits is the checksum word followed by the checked bytes.
  have body : ((record.serialize crc ++ rest).drop 4).take record.bodyLen =
      encodeBe 4 (crc record.checkedBytes).toNat ++ record.checkedBytes := by
    rw [WalRecord.serialize, List.append_assoc, List.append_assoc, List.drop_left' (by simp),
      ← List.append_assoc]
    apply List.take_left'
    simp only [List.length_append, encodeBe_length, WalRecord.checkedBytes_length,
      WalRecord.bodyLen]
    omega
  simp only [WalRecord.deserialize, word, body]
  rw [if_neg (by simp only [List.length_append]; omega),
    if_neg (by simp only [List.length_append]; omega), splitExact_append (by simp)]
  simp [ofNat_decodeBe_uint32, WalRecord.readFields_checkedBytes, size]

/-- A serialized record cut short is reported as a torn write, in its length word or behind it. -/
theorem WalRecord.deserialize_torn (crc : Bytes → UInt32) {record : WalRecord}
    (fits : record.Fits) (segmentOffset : Nat) {part : Bytes}
    (leading : part <+: record.serialize crc)
    (short : part.length < (record.serialize crc).length) :
    ∃ error, error.isTornWrite = true ∧
      WalRecord.deserialize crc segmentOffset part = .err error := by
  by_cases tiny : part.length < 4
  · exact ⟨.tornWriteIncomplete segmentOffset, rfl, by simp [WalRecord.deserialize, tiny]⟩
  · -- With its length word whole, the part still announces the full body.
    have word : decodeBe (part.take 4) = record.bodyLen := by
      obtain ⟨missing, rebuilt⟩ := leading
      have same : part.take 4 = (record.serialize crc).take 4 := by
        rw [← rebuilt, List.take_append_of_le_length (by omega)]
      rw [same, WalRecord.serialize, List.append_assoc, List.take_left' (by simp),
        WalRecord.decodeBe_bodyLen fits]
    have size : (record.serialize crc).length = 4 + record.bodyLen := by
      simp only [WalRecord.serialize_length, recordHeaderSize, WalRecord.bodyLen]
      omega
    refine ⟨.tornWriteTruncated segmentOffset (4 + record.bodyLen) part.length, rfl, ?_⟩
    simp only [WalRecord.deserialize, tiny, ↓reduceIte, word]
    rw [if_pos (by omega)]

/-- A length word of zero announces a body without a checksum, and reading that checksum panics. -/
theorem WalRecord.deserialize_emptyBody (crc : Bytes → UInt32) (segmentOffset : Nat) {data : Bytes}
    (long : 4 ≤ data.length) (zero : decodeBe (data.take 4) = 0) :
    WalRecord.deserialize crc segmentOffset data = .panicked := by
  simp only [WalRecord.deserialize, zero, Nat.not_lt.mpr long, ↓reduceIte]
  simp [splitExact]

/-- A decoded record takes up at least its length word. -/
theorem WalRecord.deserialize_used {crc : Bytes → UInt32} {segmentOffset : Nat} {data : Bytes}
    {record : WalRecord} {used : Nat}
    (decoded : WalRecord.deserialize crc segmentOffset data = .ok (record, used)) :
    4 ≤ used ∧ used ≤ data.length := by
  -- What is used are the length and the body that it announces.
  simp only [WalRecord.deserialize] at decoded
  split at decoded
  · simp at decoded
  · split at decoded
    · simp at decoded
    · simp only [Outcome.bind_eq_ok] at decoded
      obtain ⟨⟨crcBytes, checked⟩, _, decoded⟩ := decoded
      dsimp only at decoded
      split at decoded
      · simp at decoded
      · simp only [Outcome.bind_eq_ok] at decoded
        obtain ⟨_, _, decoded⟩ := decoded
        simp only [Outcome.pure_eq, Outcome.ok.injEq, Prod.mk.injEq] at decoded
        omega

/-- The signal a byte stands for is written as that byte. -/
theorem SignalType.toU8_of_fromU8 {byte : UInt8} {signal : SignalType}
    (found : SignalType.fromU8 byte = some signal) : signal.toU8 = byte := by
  simp only [SignalType.fromU8] at found
  repeat' split at found
  all_goals cases found
  all_goals subst byte
  all_goals rfl

/-- A successful split gives back the bytes it was given. -/
theorem splitExact_ok {ε : Type} {count : Nat} {data front rest : Bytes}
    (split : (splitExact count data : Outcome ε _) = .ok (front, rest)) :
    data = front ++ rest ∧ front.length = count := by
  simp only [splitExact] at split
  split at split
  · cases split
    exact ⟨(List.take_append_drop count data).symm, by simp only [List.length_take]; omega⟩
  · cases split

theorem splitUuid_ok {ε : Type} {data rest : Bytes} {uuid : Uuid}
    (split : (splitUuid data : Outcome ε _) = .ok (uuid, rest)) : data = uuid.bytes ++ rest := by
  simp only [splitUuid] at split
  split at split
  · cases split
    exact (List.take_append_drop 16 data).symm
  · cases split

/-- Eight bytes survive being read as a 64-bit word and written back. -/
theorem encodeBe_uint64 {data : Bytes} (sized : data.length = 8) :
    encodeBe 8 (UInt64.ofNat (decodeBe data)).toNat = data := by
  have bound : decodeBe data < 2 ^ 64 := by simpa [sized] using decodeBe_lt data
  rw [UInt64.toNat_ofNat', Nat.mod_eq_of_lt bound, encodeBe_decodeBe sized]

/-- Four bytes survive being read as a checksum word and written back. -/
theorem encodeBe_uint32 {data : Bytes} (sized : data.length = 4) :
    encodeBe 4 (UInt32.ofNat (decodeBe data)).toNat = data := by
  have bound : decodeBe data < 2 ^ 32 := by simpa [sized] using decodeBe_lt data
  rw [UInt32.toNat_ofNat', Nat.mod_eq_of_lt bound, encodeBe_decodeBe sized]

/-- The fields read from a byte string are written as exactly those bytes. -/
theorem WalRecord.checkedBytes_of_readFields {cursor : Bytes} {segmentOffset : Nat}
    {record : WalRecord} (read : WalRecord.readFields cursor segmentOffset = .ok record) :
    record.checkedBytes = cursor := by
  simp only [WalRecord.readFields, Outcome.bind_eq_ok] at read
  obtain ⟨⟨signalByte, afterSignal⟩, split, read⟩ := read
  obtain ⟨rfl, signalSized⟩ := splitExact_ok split
  obtain ⟨byte, rfl⟩ := List.length_eq_one_iff.mp signalSized
  dsimp only at read
  split at read
  · cases read
  · -- Every field is a fixed number of bytes, and the payload is what is left.
    rename_i signal found
    simp only [Outcome.bind_eq_ok] at read
    obtain ⟨⟨uuid, afterUuid⟩, split, read⟩ := read
    obtain rfl := splitUuid_ok split
    obtain ⟨⟨timestamp, afterTime⟩, split, read⟩ := read
    obtain ⟨rfl, timeSized⟩ := splitExact_ok split
    obtain ⟨⟨offset, payload⟩, split, read⟩ := read
    obtain ⟨rfl, offsetSized⟩ := splitExact_ok split
    cases read
    have signalBack : signal.toU8 = byte := by simpa [decodeBe] using SignalType.toU8_of_fromU8 found
    simp only [WalRecord.checkedBytes, signalBack, UInt64.toUInt64_toInt64,
      encodeBe_uint64 timeSized, encodeBe_uint64 offsetSized, List.append_assoc]

/-- The format is canonical: a decoded record was read from its own encoding. -/
theorem WalRecord.serialize_of_deserialize {crc : Bytes → UInt32} {segmentOffset : Nat}
    {data : Bytes} {record : WalRecord} {used : Nat}
    (decoded : WalRecord.deserialize crc segmentOffset data = .ok (record, used)) :
    record.Fits ∧ data.take used = record.serialize crc := by
  simp only [WalRecord.deserialize] at decoded
  split at decoded
  · cases decoded
  · rename_i long
    split at decoded
    · cases decoded
    · rename_i covered
      simp only [Outcome.bind_eq_ok] at decoded
      obtain ⟨⟨crcBytes, checked⟩, split, decoded⟩ := decoded
      obtain ⟨body, crcSized⟩ := splitExact_ok split
      dsimp only at decoded
      split at decoded
      · cases decoded
      · rename_i matching
        simp only [Outcome.bind_eq_ok] at decoded
        obtain ⟨_, read, decoded⟩ := decoded
        cases decoded
        -- The checksum word, the fields and the length word are each written as they were read.
        have fields := WalRecord.checkedBytes_of_readFields read
        have bodySized := congrArg List.length body
        have checkedSized := congrArg List.length fields
        simp only [List.length_take, List.length_drop, List.length_append] at bodySized
        rw [WalRecord.checkedBytes_length] at checkedSized
        have wordBound : decodeBe (data.take 4) < 256 ^ 4 := by
          have bound := decodeBe_lt (data.take 4)
          rwa [List.length_take, Nat.min_eq_left (by omega)] at bound
        have bodyLen : record.bodyLen = decodeBe (data.take 4) := by
          simp only [WalRecord.bodyLen]
          omega
        refine ⟨?_, ?_⟩
        · simp only [WalRecord.Fits]
          omega
        · have stored : encodeBe 4 (crc checked).toNat = crcBytes := by
            rw [← Decidable.of_not_not matching, encodeBe_uint32 crcSized]
          rw [WalRecord.serialize, fields, stored, bodyLen,
            encodeBe_decodeBe (by simp only [List.length_take]; omega), List.append_assoc, ← body,
            ← List.take_add]

end Wal

end Zradar
