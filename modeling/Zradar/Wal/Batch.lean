import Zradar.Lib.BigEndian

/-! The batch envelope that lets one WAL record carry many rows. -/

namespace Zradar.Wal

/-- Magic bytes in front of every batch envelope. -/
def batchMagic : Bytes := [0x5A, 0x57, 0x42, 0x31]

/-- How the rows of an envelope are encoded. -/
inductive BatchEncoding where
  /-- One JSON object per row. -/
  | jsonRowsV1
  deriving DecidableEq, Repr

/-- The tag byte of an encoding. -/
def BatchEncoding.toU8 : BatchEncoding → UInt8
  | .jsonRowsV1 => 1

/-- The encoding a tag byte stands for, if any. -/
def BatchEncoding.fromU8 (tag : UInt8) : Option BatchEncoding :=
  if tag = 1 then some .jsonRowsV1 else none

/-- Why an envelope could not be decoded. -/
inductive BatchDecodeError where
  | tooShort (length : Nat)
  | unknownEncoding (tag : UInt8)
  | rowTruncated (index needed remaining : Nat)
  | countMismatch (declared decoded : Nat)
  deriving DecidableEq, Repr

/-- A row behind its length word. -/
def encodeRow (row : Bytes) : Bytes :=
  -- The length is narrowed to 32 bits, whatever the row measures.
  encodeBe 4 row.length ++ row

/-- Frame serialized rows into one envelope. -/
def encodeJsonRows (rows : List Bytes) : Bytes :=
  batchMagic ++ ([BatchEncoding.jsonRowsV1.toU8] ++ (encodeBe 4 rows.length ++
    rows.flatMap encodeRow))

/-- A decoded envelope. -/
structure BatchPayload where
  encoding : BatchEncoding
  rows : List Bytes
  deriving DecidableEq, Repr

/-- The loop over the rows: those still to be read, the index of the next one and the cursor. -/
def decodeRows (declared : Nat) : Nat → Nat → Bytes → Except BatchDecodeError (List Bytes)
  | 0, _, _ => .ok []
  | left + 1, index, cursor =>
    if cursor.length < 4 then .error (.countMismatch declared index)
    else
      let rowLen := decodeBe (cursor.take 4)
      let rest := cursor.drop 4
      if rest.length < rowLen then .error (.rowTruncated index rowLen rest.length)
      else
        match decodeRows declared left (index + 1) (rest.drop rowLen) with
        | .error error => .error error
        | .ok rows => .ok (rest.take rowLen :: rows)

/-- Decode a payload, where nothing stands for a payload without the magic. -/
def decodeBatch (payload : Bytes) : Except BatchDecodeError (Option BatchPayload) :=
  if payload.length < batchMagic.length ∨ payload.take batchMagic.length ≠ batchMagic then .ok none
  else if payload.length < batchMagic.length + 1 + 4 then .error (.tooShort payload.length)
  else
    match payload.drop batchMagic.length with
    -- The length was tested, so the byte is there.
    | [] => .error (.tooShort payload.length)
    | tag :: cursor =>
      match BatchEncoding.fromU8 tag with
      | none => .error (.unknownEncoding tag)
      | some encoding =>
        let count := decodeBe (cursor.take 4)
        -- Bytes behind the declared rows are not looked at.
        match decodeRows count count 0 (cursor.drop 4) with
        | .error error => .error error
        | .ok rows => .ok (some ⟨encoding, rows⟩)

/-- One turn of the loop on a row that was framed by the encoder. -/
theorem decodeRows_encodeRow (declared left index : Nat) (row tail : Bytes) :
    decodeRows declared (left + 1) index (encodeRow row ++ tail) =
      match decodeRows declared left (index + 1) ((row ++ tail).drop (row.length % 2 ^ 32)) with
      | .error error => .error error
      | .ok rows => .ok (row.take (row.length % 2 ^ 32) :: rows) := by
  have word : (encodeRow row ++ tail).take 4 = encodeBe 4 row.length := by
    simp [encodeRow, List.append_assoc]
  have rest : (encodeRow row ++ tail).drop 4 = row ++ tail := by
    simp [encodeRow, List.append_assoc]
  -- The length word denotes at most the row's own length, so the row is never short.
  have within : row.length % 2 ^ 32 ≤ row.length := Nat.mod_le _ _
  have enough : ¬ (encodeRow row ++ tail).length < 4 := by simp [encodeRow]
  have long : ¬ (row ++ tail).length < row.length % 2 ^ 32 := by
    rw [List.length_append]
    omega
  have length : decodeBe (encodeBe 4 row.length) = row.length % 2 ^ 32 := decodeBe_encodeBe 4 _
  have taken : (row ++ tail).take (row.length % 2 ^ 32) = row.take (row.length % 2 ^ 32) := by
    rw [List.take_append_of_le_length within]
  simp only [decodeRows, enough, ↓reduceIte, word, rest, length, long, taken]

/-- Rows whose lengths fit the length word are read back, whatever follows them. -/
theorem decodeRows_encode (declared index : Nat) {rows : List Bytes}
    (short : ∀ row ∈ rows, row.length < 2 ^ 32) (tail : Bytes) :
    decodeRows declared rows.length index (rows.flatMap encodeRow ++ tail) = .ok rows := by
  induction rows generalizing index with
  | nil => rfl
  | cons row rows ih =>
    have fits : row.length % 2 ^ 32 = row.length := Nat.mod_eq_of_lt (short row (by simp))
    -- The loop turns once for the first row and stands in front of the others.
    rw [List.length_cons, List.flatMap_cons, List.append_assoc, decodeRows_encodeRow, fits,
      List.drop_left, ih (index + 1) fun other member => short other (by simp [member]),
      List.take_length]

/-- A decoded envelope has as many rows as it declares. -/
theorem decodeRows_length {declared left index : Nat} {cursor : Bytes} {rows : List Bytes}
    (decoded : decodeRows declared left index cursor = .ok rows) : rows.length = left := by
  induction left generalizing index cursor rows with
  | zero =>
    cases decoded
    rfl
  | succ left ih =>
    simp only [decodeRows] at decoded
    -- Both tests must pass, and the rest must be decoded as well.
    split at decoded
    · cases decoded
    · split at decoded
      · cases decoded
      · split at decoded
        · cases decoded
        · rename_i others inner
          cases decoded
          rw [List.length_cons, ih inner]

/-- Of rows that are too long for their length word, one is cut if the loop does not fail. -/
theorem decodeRows_oversized {declared left index : Nat} {framed rows : List Bytes}
    {tail : Bytes} (reaches : framed.length ≤ left)
    (oversized : ∃ row ∈ framed, 2 ^ 32 ≤ row.length)
    (decoded : decodeRows declared left index (framed.flatMap encodeRow ++ tail) = .ok rows) :
    ∃ row ∈ framed, ∃ kept < row.length, row.take kept ∈ rows := by
  induction framed generalizing left index rows with
  | nil => simp at oversized
  | cons first framed ih =>
    obtain ⟨before, rfl⟩ : ∃ before, left = before + 1 :=
      ⟨left - 1, by simp at reaches; omega⟩
    rw [List.flatMap_cons, List.append_assoc, decodeRows_encodeRow] at decoded
    by_cases long : 2 ^ 32 ≤ first.length
    · -- What the length word denotes is below its range, and so below the row's length.
      have small : first.length % 2 ^ 32 < 2 ^ 32 := Nat.mod_lt _ (by decide)
      split at decoded
      · cases decoded
      · cases decoded
        exact ⟨first, by simp, first.length % 2 ^ 32, by omega, by simp⟩
    · -- A row in front of the first such row is read whole, and the loop goes on behind it.
      have fits : first.length % 2 ^ 32 = first.length := Nat.mod_eq_of_lt (by omega)
      rw [fits, List.drop_left] at decoded
      have later : ∃ row ∈ framed, 2 ^ 32 ≤ row.length := by
        obtain ⟨row, member, oversized⟩ := oversized
        rcases List.mem_cons.mp member with rfl | behind
        · exact absurd oversized long
        · exact ⟨row, behind, oversized⟩
      split at decoded
      · cases decoded
      · rename_i others inner
        cases decoded
        obtain ⟨row, member, kept, cut, held⟩ := ih (by simpa using reaches) later inner
        exact ⟨row, List.mem_cons_of_mem _ member, kept, cut, List.mem_cons_of_mem _ held⟩

/-- Decoding what starts with framed rows is the loop over the declared ones. -/
theorem decodeBatch_append (rows : List Bytes) (extra : Bytes) :
    decodeBatch (encodeJsonRows rows ++ extra) =
      match decodeRows (rows.length % 2 ^ 32) (rows.length % 2 ^ 32) 0
        (rows.flatMap encodeRow ++ extra) with
      | .error error => .error error
      | .ok decoded => .ok (some ⟨.jsonRowsV1, decoded⟩) := by
  have magic : (encodeJsonRows rows ++ extra).take batchMagic.length = batchMagic := by
    rw [encodeJsonRows, List.append_assoc, List.take_left]
  have behind : (encodeJsonRows rows ++ extra).drop batchMagic.length =
      BatchEncoding.jsonRowsV1.toU8 ::
        (encodeBe 4 rows.length ++ (rows.flatMap encodeRow ++ extra)) := by
    rw [encodeJsonRows, List.append_assoc, List.drop_left, List.singleton_append, List.cons_append,
      List.append_assoc]
  have long : batchMagic.length + 1 + 4 ≤ (encodeJsonRows rows ++ extra).length := by
    simp [encodeJsonRows]
    omega
  have known : BatchEncoding.fromU8 BatchEncoding.jsonRowsV1.toU8 = some .jsonRowsV1 := rfl
  have count : decodeBe (encodeBe 4 rows.length) = rows.length % 2 ^ 32 := decodeBe_encodeBe 4 _
  have word : (encodeBe 4 rows.length ++ (rows.flatMap encodeRow ++ extra)).take 4 =
      encodeBe 4 rows.length := by
    simp
  have rest : (encodeBe 4 rows.length ++ (rows.flatMap encodeRow ++ extra)).drop 4 =
      rows.flatMap encodeRow ++ extra := by
    simp
  have enough : ¬ (encodeJsonRows rows ++ extra).length < batchMagic.length := by omega
  -- Every test of the header passes, which leaves the loop.
  simp only [decodeBatch, magic, enough, ne_eq, not_true_eq_false, or_self, ↓reduceIte, behind,
    Nat.not_lt.mpr long, known, word, rest, count]

/-- Decoding what the encoder framed is the loop over the declared rows. -/
theorem decodeBatch_encodeJsonRows (rows : List Bytes) :
    decodeBatch (encodeJsonRows rows) =
      match decodeRows (rows.length % 2 ^ 32) (rows.length % 2 ^ 32) 0
        (rows.flatMap encodeRow) with
      | .error error => .error error
      | .ok decoded => .ok (some ⟨.jsonRowsV1, decoded⟩) := by
  simpa using decodeBatch_append rows []

/-- Rows within the range of the words are read back, whatever follows them. -/
theorem decodeBatch_append_of_lt {rows : List Bytes} (few : rows.length < 2 ^ 32)
    (short : ∀ row ∈ rows, row.length < 2 ^ 32) (extra : Bytes) :
    decodeBatch (encodeJsonRows rows ++ extra) = .ok (some ⟨.jsonRowsV1, rows⟩) := by
  rw [decodeBatch_append, Nat.mod_eq_of_lt few, decodeRows_encode rows.length 0 short extra]

/-- An envelope within the range of its words is read back row by row. -/
theorem decodeBatch_encodeJsonRows_of_lt {rows : List Bytes} (few : rows.length < 2 ^ 32)
    (short : ∀ row ∈ rows, row.length < 2 ^ 32) :
    decodeBatch (encodeJsonRows rows) = .ok (some ⟨.jsonRowsV1, rows⟩) := by
  simpa using decodeBatch_append_of_lt few short []

end Zradar.Wal
