import Zradar.Wal.Recovery

/-! Whether decoding a record always answers: the short bodies on which it panics instead. -/

namespace Zradar.Wal

/-- The call ended in a record or in an error that it reports. -/
def Answers {ε α : Type} (outcome : Outcome ε α) : Prop :=
  (∃ value, outcome = .ok value) ∨ ∃ error, outcome = .err error

/-- The signal that the byte behind the checksum stands for. -/
def signalOf (data : Bytes) : Option SignalType :=
  data[8]?.bind SignalType.fromU8

/-- A whole body that is too short for what the decoder takes from it without a look at its length. -/
inductive TooShortBody (crc : Bytes → UInt32) (data : Bytes) : Prop where
  /-- The four bytes of the checksum are indexed. -/
  | checksum (short : announcedLen data < 4)
  /-- The signal byte is taken once the checksum matches. -/
  | signal (bare : announcedLen data = 4) (right : checksumMatches crc data)
  /-- The other fixed fields are taken once the signal is known. -/
  | fields (short : announcedLen data < 37) (right : checksumMatches crc data)
    (known : (signalOf data).isSome)

theorem answers_iff_not_panicked {ε α : Type} (outcome : Outcome ε α) :
    Answers outcome ↔ outcome ≠ .panicked := by
  -- There is no third way for a call to end.
  unfold Answers
  cases outcome with
  | ok value => simp
  | err error => simp
  | panicked => simp

/-- A split panics on fewer bytes than it is asked for. -/
theorem splitExact_eq_panicked {ε : Type} {count : Nat} {data : Bytes} :
    (splitExact count data : Outcome ε _) = .panicked ↔ data.length < count := by
  unfold splitExact
  split <;> simp <;> omega

/-- Behind a known signal, the fields panic on fewer than their thirty-two bytes. -/
theorem WalRecord.readFields_short {byte : UInt8} {rest : Bytes} {signal : SignalType}
    (known : SignalType.fromU8 byte = some signal) (short : rest.length < 32)
    (segmentOffset : Nat) :
    WalRecord.readFields (byte :: rest) segmentOffset = .panicked := by
  have decoded : SignalType.fromU8 (UInt8.ofNat (decodeBe [byte])) = some signal := by
    simpa [decodeBe] using known
  have first : (splitExact 1 (byte :: rest) : Outcome RecordReadError _) = .ok ([byte], rest) := by
    simp [splitExact]
  simp only [WalRecord.readFields, first, Outcome.ok_bind, decoded]
  -- The sixteen bytes of the workspace and the two words of eight bytes follow.
  by_cases workspace : 16 ≤ rest.length
  · have uuid : (splitUuid rest : Outcome RecordReadError _) =
        .ok (⟨rest.take 16, by rw [List.length_take]; omega⟩, rest.drop 16) := dif_pos workspace
    rw [uuid]
    simp only [Outcome.ok_bind]
    by_cases timestamp : 24 ≤ rest.length
    · have word : (splitExact 8 (rest.drop 16) : Outcome RecordReadError _) =
          .ok ((rest.drop 16).take 8, (rest.drop 16).drop 8) :=
        if_pos (by rw [List.length_drop]; omega)
      have missing : (splitExact 8 ((rest.drop 16).drop 8) : Outcome RecordReadError _) =
          .panicked := splitExact_eq_panicked.mpr (by simp only [List.length_drop]; omega)
      rw [word]
      simp only [Outcome.ok_bind, missing, Outcome.panicked_bind]
    · have missing : (splitExact 8 (rest.drop 16) : Outcome RecordReadError _) = .panicked :=
        splitExact_eq_panicked.mpr (by rw [List.length_drop]; omega)
      rw [missing, Outcome.panicked_bind]
  · have missing : (splitUuid rest : Outcome RecordReadError _) = .panicked := dif_neg workspace
    rw [missing, Outcome.panicked_bind]

/-- The fields panic without a signal byte, and on too few bytes behind one that is known. -/
theorem WalRecord.readFields_eq_panicked {cursor : Bytes} {segmentOffset : Nat} :
    WalRecord.readFields cursor segmentOffset = .panicked ↔
      cursor = [] ∨ cursor.length < 33 ∧ (cursor.head?.bind SignalType.fromU8).isSome := by
  cases cursor with
  | nil => simp [WalRecord.readFields, splitExact]
  | cons byte rest =>
    cases known : SignalType.fromU8 byte with
    | none =>
      -- An unknown signal is reported before anything else is read.
      have decoded : SignalType.fromU8 (UInt8.ofNat (decodeBe [byte])) = none := by
        simpa [decodeBe] using known
      have first : (splitExact 1 (byte :: rest) : Outcome RecordReadError _) = .ok ([byte], rest) := by
        simp [splitExact]
      simp [WalRecord.readFields, first, decoded, known]
    | some signal =>
      by_cases long : 32 ≤ rest.length
      · obtain ⟨record, read⟩ := WalRecord.readFields_ok known long segmentOffset
        simp [read]
        omega
      · rw [WalRecord.readFields_short known (by omega)]
        simp [known]
        omega

/-- A body that is not there is reported, and no body is read. -/
theorem WalRecord.deserialize_missing (crc : Bytes → UInt32) (segmentOffset : Nat) {data : Bytes}
    (missing : ¬ (4 ≤ data.length ∧ 4 + announcedLen data ≤ data.length)) :
    WalRecord.deserialize crc segmentOffset data ≠ .panicked := by
  -- Without a whole record the answer is an error.
  unfold announcedLen at missing
  simp only [WalRecord.deserialize]
  by_cases long : data.length < 4
  · simp [long]
  · have short : data.length < 4 + decodeBe (data.take 4) := by omega
    simp [long, short]

/-- The byte behind the checksum is the first one that the checksum is over. -/
theorem head?_checked {data : Bytes} (room : 5 ≤ announcedLen data) :
    (((data.drop 4).take (announcedLen data)).drop 4).head?.bind SignalType.fromU8 =
      signalOf data := by
  unfold signalOf
  rw [List.head?_drop, List.getElem?_take_of_lt (by omega), List.getElem?_drop]

/-- A whole body panics exactly when it is too short. -/
theorem deserialize_whole (crc : Bytes → UInt32) (segmentOffset : Nat) {data : Bytes}
    (long : 4 ≤ data.length) (covered : 4 + announcedLen data ≤ data.length) :
    WalRecord.deserialize crc segmentOffset data = .panicked ↔ TooShortBody crc data := by
  by_cases room : 4 ≤ announcedLen data
  · have sized : (((data.drop 4).take (announcedLen data)).drop 4).length =
        announcedLen data - 4 := by
      simp only [List.length_drop, List.length_take]
      omega
    rw [WalRecord.deserialize_body crc segmentOffset room covered]
    by_cases right : checksumMatches crc data
    · -- Behind a right checksum it is the fields that can be too short.
      have matching := right
      unfold checksumMatches at matching
      simp only [matching, ne_eq, not_true_eq_false, if_false]
      rw [Outcome.bind_pure_eq_panicked, WalRecord.readFields_eq_panicked,
        List.eq_nil_iff_length_eq_zero, sized]
      constructor
      · rintro (bare | ⟨short, known⟩)
        · exact .signal (by omega) right
        · by_cases bare : announcedLen data = 4
          · exact .signal bare right
          · rw [head?_checked (by omega)] at known
            exact .fields (by omega) right known
      · rintro (short | ⟨bare, _⟩ | ⟨short, _, known⟩)
        · omega
        · exact .inl (by omega)
        · by_cases bare : announcedLen data = 4
          · exact .inl (by omega)
          · rw [head?_checked (by omega)]
            exact .inr ⟨by omega, known⟩
    · -- A wrong checksum is reported before any field is read.
      have differs := right
      unfold checksumMatches at differs
      simp only [differs, ne_eq, not_false_eq_true, if_true, reduceCtorEq, false_iff]
      rintro (short | ⟨_, same⟩ | ⟨_, same, _⟩)
      · omega
      · exact right same
      · exact right same
  · -- The checksum itself is not there.
    refine iff_of_true ?_ (.checksum (by omega))
    unfold announcedLen at room covered
    simp only [WalRecord.deserialize]
    rw [if_neg (by omega), if_neg (by omega), splitExact_eq_panicked.mpr, Outcome.panicked_bind]
    simp only [List.length_take, List.length_drop]
    omega

/--
Decoding answers for every checksum function exactly when no whole body is announced that is too
short for what is taken from it.
-/
theorem deserialize_answers_iff (crc : Bytes → UInt32) (segmentOffset : Nat) (data : Bytes) :
    Answers (WalRecord.deserialize crc segmentOffset data) ↔
      ¬ (4 ≤ data.length ∧ 4 + announcedLen data ≤ data.length ∧ TooShortBody crc data) := by
  -- Only the body of a whole record can be too short.
  rw [answers_iff_not_panicked]
  by_cases whole : 4 ≤ data.length ∧ 4 + announcedLen data ≤ data.length
  · simp only [whole.1, whole.2, true_and, ne_eq, not_iff_not]
    exact deserialize_whole crc segmentOffset whole.1 whole.2
  · exact iff_of_true (WalRecord.deserialize_missing crc segmentOffset whole)
      fun short => whole ⟨short.1, short.2.1⟩

/-- Four zero bytes panic, whatever the checksum function. -/
theorem zeros_panic (crc : Bytes → UInt32) :
    WalRecord.deserialize crc 0 [0, 0, 0, 0] = .panicked :=
  WalRecord.deserialize_emptyBody crc 0 (by decide) rfl

/-- Decoding does not always answer: a tail of zeros announces a body without a checksum. -/
theorem zero_tail_panics :
    ¬ ∀ (crc : Bytes → UInt32) (segmentOffset : Nat) (data : Bytes),
      Answers (WalRecord.deserialize crc segmentOffset data) := by
  -- Four zeros announce a body without a byte.
  intro total
  have answers := total (fun _ => 0) 0 [0, 0, 0, 0]
  rw [zeros_panic] at answers
  exact (answers_iff_not_panicked _).mp answers rfl

end Zradar.Wal
