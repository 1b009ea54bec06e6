import Zradar.Wal.Append

/-! What a failed append does to the records that are appended after it. -/

namespace Zradar.Wal

/-- Every record whose write succeeded is returned by a read of its segment from the start. -/
def AllReadable (crc : Bytes → UInt32) (wal : WalState) : Prop :=
  ∀ entry ∈ wal.written, entry.1 ∈ wal.dir.segmentIds ∧
    entry.2 ∈ readableRecords crc (wal.dir.contents entry.1)

/-- Appends only ever add segments, so what was written stays in the directory. -/
def WalState.Kept (wal : WalState) : Prop :=
  ∀ entry ∈ wal.written, entry.1 ∈ wal.dir.segmentIds

theorem WalState.Kept.step {crc : Bytes → UInt32} {segmentMaxBytes : Nat} {wal : WalState}
    {label : AppendLabel} {next : WalState} (sound : wal.Sound crc) (kept : wal.Kept)
    (stepped : appendStep crc segmentMaxBytes wal label = some next) : next.Kept := by
  have effect := appendStep_effect stepped
  intro entry member
  rcases effect.written entry member with old | ⟨_, active, _⟩
  · exact effect.segments _ (kept entry old)
  · -- The new record went to the active segment.
    rw [active]
    exact effect.segments _ sound.active

/-- Sound segments yield every record that was written to them. -/
theorem WalState.Sound.allReadable {crc : Bytes → UInt32} {wal : WalState}
    (sound : wal.Sound crc) (kept : wal.Kept) : AllReadable crc wal := by
  intro entry member
  have listed := kept entry member
  refine ⟨listed, ?_⟩
  rw [(sound.files entry.1 listed).readable]
  exact mem_recordsIn.mpr member

/--
While no record lands behind a failed write in the same segment, every successful append stays readable.

A failed write leaves its bytes in the file without counting them.
The run may rotate away from such a segment, but may not append to it.
-/
theorem failed_append_keeps_records (crc : Bytes → UInt32) (segmentMaxBytes : Nat) (dir : WalDir)
    (sound : dir.Sound crc) (opened : OpenedWal)
    (started : walOpen crc segmentMaxBytes dir = .ok opened) (labels : List AppendLabel)
    (clean : Guarded (appendStep crc segmentMaxBytes) (CleanAppend crc segmentMaxBytes)
      (.ofOpened crc opened) labels)
    (wal : WalState)
    (reached : run (appendStep crc segmentMaxBytes) (.ofOpened crc opened) labels = some wal) :
    AllReadable crc wal := by
  -- No file disappears, and each of them holds what was written to it.
  have start : (WalState.ofOpened crc opened).Sound crc ∧ (WalState.ofOpened crc opened).Kept :=
    ⟨.start sound started, fun entry member => (mem_presentRecords.mp member).1⟩
  have stays : ∀ (state : WalState) label next, state.Sound crc ∧ state.Kept →
      CleanAppend crc segmentMaxBytes state label →
      appendStep crc segmentMaxBytes state label = some next → next.Sound crc ∧ next.Kept := by
    rintro state label next ⟨holds, kept⟩ guard stepped
    exact ⟨holds.step guard stepped, kept.step holds stepped⟩
  obtain ⟨holds, kept⟩ := run_invariant stays start clean reached
  exact holds.allReadable kept

/-- A failed write, a rotation away from its remains, and a successful append. -/
def failThenRotate : List AppendLabel :=
  [.takeOffset sampleRecord, .lockWriter 0, .writeBytes 1, .failWrite,
    .takeOffset { sampleRecord with payload := [1, 2, 3, 4, 5, 6, 7] }, .lockWriter 0, .finishWrite]

theorem failed_append_then_rotation :
    ∃ wal, run (appendStep (fun _ => 0) 60) (.fresh fun _ => 0) failThenRotate = some wal ∧
      wal.written.length = 1 ∧ AllReadable (fun _ => 0) wal := by
  refine ⟨_, rfl, rfl, ?_⟩
  exact failed_append_keeps_records (fun _ => 0) 60 .empty (WalDir.empty_sound _) _ rfl
    failThenRotate (by decide) _ rfl

/-- Two producers hold offsets, the first write fails after one byte, and the second succeeds. -/
def failThenAppend : List AppendLabel :=
  [.takeOffset sampleRecord, .takeOffset sampleRecord, .lockWriter 0, .writeBytes 1, .failWrite,
    .lockWriter 0, .finishWrite]

/-- One byte of a failed append hides the record that is appended behind it. -/
theorem failed_append_hides_record :
    ¬ ∃ crc : Bytes → UInt32, ∀ segmentMaxBytes labels wal,
      run (appendStep crc segmentMaxBytes) (.fresh crc) labels = some wal → AllReadable crc wal := by
  rintro ⟨crc, claim⟩
  let first : WalRecord := { sampleRecord with assignedOffset := 0 }
  let second : WalRecord := { sampleRecord with assignedOffset := 1 }
  have readable : second ∈ readableRecords crc
      ((segmentHeader 0 ++ (first.serialize crc).take 1) ++ second.serialize crc) :=
    (claim 1000 failThenAppend _ rfl (0, second) (List.mem_singleton.mpr rfl)).2
  -- The stray byte shifts the length word of the second record, which then reads as zero.
  have stray : (first.serialize crc).take 1 = [0] := by
    simp [first, WalRecord.serialize, encodeBe, WalRecord.bodyLen, sampleRecord]
  have panics := readSegment_emptyBody crc (segmentHeader_sound 0) (by simp : ∀ record ∈ [], _)
    (by simp [second, sampleRecord, recordHeaderSize] : 4 ≤ (0 :: second.serialize crc).length)
    (by simp [second, WalRecord.serialize, encodeBe, WalRecord.bodyLen, sampleRecord, decodeBe])
  simp only [encodeAll_nil, List.append_nil] at panics
  simp [readableRecords, stray, panics] at readable

end Zradar.Wal
