import Zradar.Lib.Positions
import Zradar.Wal.Recovery

/-! Offsets across restarts: what `Wal::open` may hand out again, and when it does not. -/

namespace Zradar.Wal

/-- A WAL directory with a process on it, or without one. -/
inductive Life where
  | up (wal : WalState)
  | down (dir : WalDir)

/-- An append step, a crash that keeps a leading part of the active file, or a restart. -/
inductive LifeLabel where
  | append (label : AppendLabel)
  | crash (kept : Nat)
  | reopen
  deriving DecidableEq

/-- One step in the life of a WAL directory. -/
def lifeStep (crc : Bytes → UInt32) (segmentMaxBytes : Nat) : Life → LifeLabel → Option Life
  | .up wal, .append label => (appendStep crc segmentMaxBytes wal label).map .up
  | .up wal, .crash kept => some (.down (wal.dir.crash wal.writer.segmentId kept 0))
  | .down dir, .reopen =>
    -- A directory that cannot be opened stays down.
    match walOpen crc segmentMaxBytes dir with
    | .ok opened => some (.up (.ofOpened crc opened))
    | _ => none
  | _, _ => none

/-- No two entries carry the same offset. -/
def OffsetsDistinct (entries : List (Nat × WalRecord)) : Prop :=
  (entries.map fun entry => entry.2.assignedOffset).Nodup

/-- Readable records carry distinct offsets, all of them below the next one to be handed out. -/
def Life.OffsetsUnique (crc : Bytes → UInt32) : Life → Prop
  | .up wal =>
    OffsetsDistinct (presentRecords crc wal.dir) ∧
      ∀ entry ∈ presentRecords crc wal.dir, entry.2.assignedOffset < wal.offsetCounter
  | .down dir => OffsetsDistinct (presentRecords crc dir)

/-- Some record of the last segment has an offset no readable record of the directory exceeds. -/
def LastHoldsHighest (crc : Bytes → UInt32) (dir : WalDir) : Prop :=
  ∀ lastId ∈ dir.segmentIds.getLast?, ∀ entry ∈ presentRecords crc dir,
    ∃ record ∈ readableRecords crc (dir.contents lastId),
      entry.2.assignedOffset ≤ record.assignedOffset

instance (crc : Bytes → UInt32) (dir : WalDir) : Decidable (LastHoldsHighest crc dir) :=
  inferInstanceAs (Decidable (∀ lastId ∈ _, ∀ entry ∈ _, ∃ record ∈ _, _))

/-- The steps that keep offsets unique. -/
def UniqueGuard (crc : Bytes → UInt32) (segmentMaxBytes : Nat) : Life → LifeLabel → Prop
  | .up wal, .append label =>
    -- The counter is an atomic 64-bit word that wraps around.
    CleanAppend crc segmentMaxBytes wal label ∧ wal.offsetCounter.toNat + 1 < 2 ^ 64
  | .down dir, .reopen => LastHoldsHighest crc dir
  | _, _ => True

instance (crc : Bytes → UInt32) (segmentMaxBytes : Nat) :
    ∀ life label, Decidable (UniqueGuard crc segmentMaxBytes life label)
  | .up _, .append _ => inferInstanceAs (Decidable (_ ∧ _))
  | .down dir, .reopen => inferInstanceAs (Decidable (LastHoldsHighest crc dir))
  | .up _, .crash _ | .up _, .reopen | .down _, .append _ | .down _, .crash _ => .isTrue trivial

/-- The offsets handed out so far that can still be in the directory. -/
def WalState.offsets (wal : WalState) : List UInt64 :=
  (wal.lock.toList.map fun held => held.1.assignedOffset) ++
    (wal.holders.map WalRecord.assignedOffset ++
      wal.written.map fun entry => entry.2.assignedOffset)

/-- Distinct offsets, all of them below a counter. -/
def NumberedBelow (counter : UInt64) (offsets : List UInt64) : Prop :=
  (∀ offset ∈ offsets, offset < counter) ∧ offsets.Nodup

theorem NumberedBelow.perm {counter : UInt64} {offsets others : List UInt64}
    (numbered : NumberedBelow counter offsets) (same : offsets.Perm others) :
    NumberedBelow counter others :=
  ⟨fun offset member => numbered.1 offset (same.mem_iff.mpr member), same.nodup numbered.2⟩

theorem NumberedBelow.sublist {counter : UInt64} {offsets others : List UInt64}
    (numbered : NumberedBelow counter offsets) (fewer : others.Sublist offsets) :
    NumberedBelow counter others :=
  ⟨fun offset member => numbered.1 offset (fewer.subset member), fewer.nodup numbered.2⟩

/-- The counter itself is a fresh offset, unless it wraps around. -/
theorem NumberedBelow.next {counter : UInt64} {offsets : List UInt64}
    (numbered : NumberedBelow counter offsets) (room : counter.toNat + 1 < 2 ^ 64) :
    NumberedBelow (counter + 1) (counter :: offsets) := by
  have grown : (counter + 1).toNat = counter.toNat + 1 := by
    rw [UInt64.toNat_add, UInt64.toNat_one, Nat.mod_eq_of_lt room]
  refine ⟨?_, List.nodup_cons.mpr ⟨?_, numbered.2⟩⟩
  · intro offset member
    rw [UInt64.lt_iff_toNat_lt, grown]
    rcases List.mem_cons.mp member with rfl | old
    · exact Nat.lt_succ_self _
    · exact Nat.lt_succ_of_lt (UInt64.lt_iff_toNat_lt.mp (numbered.1 offset old))
  · -- An offset in use is strictly below the counter.
    intro used
    exact Nat.lt_irrefl _ (UInt64.lt_iff_toNat_lt.mp (numbered.1 counter used))

/-- Handing the lock to a producer moves its offset and drops none. -/
theorem WalState.acquire_offsets (crc : Bytes → UInt32) {wal : WalState} {index : Nat}
    {record : WalRecord} (free : wal.lock = none) (held : wal.holders[index]? = some record) :
    wal.offsets.Perm (wal.acquire crc index record).offsets := by
  -- The record moves from the holders to the lock and keeps its offset.
  have moved := (taken_perm held).map WalRecord.assignedOffset
  rw [List.map_cons] at moved
  simp only [WalState.offsets, WalState.acquire, free, Option.toList_none, Option.toList_some,
    List.map_nil, List.map_cons, List.nil_append, List.singleton_append]
  exact moved.symm.append_right _

/-- Every step of an append keeps the offsets in use distinct and below the counter. -/
theorem NumberedBelow.step {crc : Bytes → UInt32} {segmentMaxBytes : Nat} {wal next : WalState}
    {label : AppendLabel} (numbered : NumberedBelow wal.offsetCounter wal.offsets)
    (room : wal.offsetCounter.toNat + 1 < 2 ^ 64)
    (stepped : appendStep crc segmentMaxBytes wal label = some next) :
    NumberedBelow next.offsetCounter next.offsets := by
  cases AppendStep.of_appendStep stepped with
  | takeOffset record =>
    refine (numbered.next room).perm ?_
    simp only [WalState.offsets, WalState.takeOffset, List.map_append, List.map_cons, List.map_nil,
      List.append_assoc, List.singleton_append]
    -- The new offset joins the waiting ones.
    rw [← List.append_assoc, ← List.append_assoc]
    exact List.perm_middle.symm
  | abandon index =>
    refine numbered.sublist ?_
    exact ((List.Sublist.refl _).append
      (((List.eraseIdx_sublist _ _).map _).append (List.Sublist.refl _)))
  | lockRotating free held full =>
    have moved := WalState.acquire_offsets crc (free : wal.rotate.lock = none) held
    exact numbered.perm moved
  | lockActive free held room => exact numbered.perm (WalState.acquire_offsets crc free held)
  | writeBytes locked short =>
    simpa [WalState.offsets, WalState.writePart, WalState.writeActive, locked] using numbered
  | finishWrite locked =>
    refine numbered.perm ?_
    simp only [WalState.offsets, WalState.finish, WalState.writeActive, locked, Option.toList_some,
      Option.toList_none, List.map_cons, List.map_nil, List.map_append, List.nil_append,
      List.singleton_append]
    -- The offset under the lock moves behind the written ones.
    rw [← List.append_assoc]
    exact (List.perm_append_singleton _ _).symm
  | failWrite locked =>
    refine numbered.sublist ?_
    exact List.sublist_append_right _ _

/-- Files that yield no more than was written to them carry distinct offsets. -/
theorem offsetsDistinct_present {crc : Bytes → UInt32} {dir : WalDir}
    {written : List (Nat × WalRecord)} (distinct : OffsetsDistinct written)
    (fewer : ∀ segmentId ∈ dir.segmentIds,
      (readableRecords crc (dir.contents segmentId)).Sublist (recordsIn written segmentId)) :
    OffsetsDistinct (presentRecords crc dir) := by
  rw [OffsetsDistinct, List.Nodup, List.pairwise_map, presentRecords, List.pairwise_flatMap]
  constructor
  · -- Within a segment the records keep the order in which they were written.
    intro segmentId member
    rw [List.pairwise_map]
    have ordered : (recordsIn written segmentId).Pairwise fun first second =>
        first.assignedOffset ≠ second.assignedOffset := by
      rw [recordsIn, List.pairwise_map]
      exact (List.pairwise_map.mp distinct).filter _
    exact ordered.sublist (fewer segmentId member)
  · -- Entries of different segments are different entries of the written list.
    refine dir.sorted.imp_of_mem ?_
    intro low high lowMember highMember below first firstMember second secondMember
    obtain ⟨early, readEarly, rfl⟩ := List.mem_map.mp firstMember
    obtain ⟨late, readLate, rfl⟩ := List.mem_map.mp secondMember
    have wroteEarly := mem_recordsIn.mp ((fewer low lowMember).subset readEarly)
    have wroteLate := mem_recordsIn.mp ((fewer high highMember).subset readLate)
    intro same
    have sameEntry := List.inj_on_of_nodup_map distinct wroteEarly wroteLate same
    have sameId : low = high := congrArg Prod.fst sameEntry
    omega

theorem present_subset {crc : Bytes → UInt32} {dir : WalDir} {written : List (Nat × WalRecord)}
    (fewer : ∀ segmentId ∈ dir.segmentIds,
      (readableRecords crc (dir.contents segmentId)).Sublist (recordsIn written segmentId))
    {entry : Nat × WalRecord} (member : entry ∈ presentRecords crc dir) : entry ∈ written := by
  obtain ⟨listed, readable⟩ := mem_presentRecords.mp member
  exact mem_recordsIn.mp ((fewer entry.1 listed).subset readable)

/-- A crash leaves a leading part of the records of the active segment, and all the others. -/
theorem WalState.Sound.crash_fewer {crc : Bytes → UInt32} {wal : WalState}
    (sound : wal.Sound crc) (kept : Nat) :
    ∀ segmentId ∈ (wal.dir.crash wal.writer.segmentId kept 0).segmentIds,
      (readableRecords crc ((wal.dir.crash wal.writer.segmentId kept 0).contents segmentId)).Sublist
        (recordsIn wal.written segmentId) := by
  intro segmentId member
  have holds := sound.files segmentId member
  by_cases active : segmentId = wal.writer.segmentId
  · subst active
    have contents : (wal.dir.crash wal.writer.segmentId kept 0).contents wal.writer.segmentId =
        (wal.dir.contents wal.writer.segmentId).take kept := by
      simp [WalDir.crash]
    by_cases header : segmentHeaderSize ≤ kept
    · rw [contents, (holds.take header).readable]
      exact (wholeWithin_leading _ _ _).sublist
    · -- A cut header makes the whole file unreadable.
      have lost : ¬ (5 ≤ kept ∧ segmentHeaderSize ≤ kept + 0) := fun whole => header whole.2
      obtain ⟨error, refused⟩ := SegmentReader.openPath_unsound (sound.crash_unsound lost)
      simp [readableRecords, readSegment, refused]
  · have untouched : (wal.dir.crash wal.writer.segmentId kept 0).contents segmentId =
        wal.dir.contents segmentId := by
      simp [WalDir.crash, active]
    rw [untouched, holds.readable]

/-- A crashed directory can be opened only when all of its segments are sound. -/
theorem WalState.Sound.crash_sound {crc : Bytes → UInt32} {wal : WalState}
    (sound : wal.Sound crc) (segmentMaxBytes kept : Nat) :
    (wal.dir.crash wal.writer.segmentId kept 0).Sound crc ∨
      ∃ error, walOpen crc segmentMaxBytes (wal.dir.crash wal.writer.segmentId kept 0) =
        .err error := by
  -- A crash that cuts into the header leaves a segment that does not open.
  by_cases header : segmentHeaderSize ≤ kept
  · left
    intro segmentId member
    have holds := sound.files segmentId member
    by_cases active : segmentId = wal.writer.segmentId
    · subst active
      exact ⟨_, by simpa [WalDir.crash] using holds.take header⟩
    · exact ⟨_, by simpa [WalDir.crash, active] using holds⟩
  · right
    exact walOpen_unsound crc segmentMaxBytes
      (WalDir.getLast_of_highest sound.active sound.last)
      (sound.crash_unsound fun whole => header whole.2)

/-- Opening adds no record to the directory, and numbers on from its last segment. -/
theorem walOpen_present {crc : Bytes → UInt32} {segmentMaxBytes : Nat} {dir : WalDir}
    (sound : dir.Sound crc) {opened : OpenedWal}
    (started : walOpen crc segmentMaxBytes dir = .ok opened) :
    (∀ segmentId ∈ opened.dir.segmentIds,
      (readableRecords crc (opened.dir.contents segmentId)).Sublist
        (recordsIn (presentRecords crc dir) segmentId)) ∧
      (dir.segmentIds = [] ∨ ∃ lastId ∈ dir.segmentIds.getLast?,
        opened.nextOffset = maxOffset (readableRecords crc (dir.contents lastId)) + 1) := by
  cases last : dir.segmentIds.getLast? with
  | none =>
    have fresh : dir.segmentIds = [] := List.getLast?_eq_none_iff.mp last
    simp only [walOpen, last, Outcome.ok.injEq] at started
    subst started
    refine ⟨?_, Or.inl fresh⟩
    intro segmentId member
    have zero : segmentId = 0 := by simpa [fresh] using member
    subst zero
    simp
  | some lastId =>
    obtain ⟨member, highest⟩ := WalDir.le_last last
    obtain ⟨records, holds⟩ := sound lastId member
    rw [walOpen_holds segmentMaxBytes last holds, Outcome.ok.injEq] at started
    subst started
    -- What the segments up to the last one yield is the same as before.
    have same : ∀ segmentId ∈ dir.segmentIds,
        readableRecords crc ((reopenOrRotate segmentMaxBytes
          (dir.setContents lastId (segmentBytes crc lastId records)) lastId
          (maxOffset records + 1)).dir.contents segmentId) =
        recordsIn (presentRecords crc dir) segmentId := by
      intro segmentId listed
      rw [reopenOrRotate_contents (highest segmentId listed), WalDir.setContents_contents,
        recordsIn_presentRecords crc listed]
      split
      · rename_i here
        subst here
        rw [holds.readable, (holdsRecords_whole crc segmentId holds.1).readable]
      · rfl
    refine ⟨?_, Or.inr ⟨lastId, rfl, ?_⟩⟩
    · intro segmentId listed
      by_cases old : segmentId ∈ dir.segmentIds
      · rw [same segmentId old]
      · -- Only a new segment is not among the old ones, and it is empty.
        simp only [reopenOrRotate] at listed ⊢
        split at listed
        · rename_i full
          have new := (mem_startSegment.mp listed).resolve_right old
          rw [if_pos full, startSegment_contents, if_pos new, readableRecords_header]
          exact List.nil_sublist _
        · exact absurd listed old
    · rw [holds.readable]
      simp only [reopenOrRotate]
      split <;> rfl

/-- What every step under the guard keeps true. -/
def Life.Sound (crc : Bytes → UInt32) (segmentMaxBytes : Nat) : Life → Prop
  | .up wal => wal.Sound crc ∧ NumberedBelow wal.offsetCounter wal.offsets
  | .down dir =>
    OffsetsDistinct (presentRecords crc dir) ∧
      (∀ entry ∈ presentRecords crc dir, entry.2.assignedOffset.toNat + 1 < 2 ^ 64) ∧
      (dir.Sound crc ∨ ∃ error, walOpen crc segmentMaxBytes dir = .err error)

theorem WalState.written_numbered {wal : WalState}
    (numbered : NumberedBelow wal.offsetCounter wal.offsets) :
    NumberedBelow wal.offsetCounter (wal.written.map fun entry => entry.2.assignedOffset) := by
  refine numbered.sublist ?_
  exact (List.sublist_append_right _ _).trans (List.sublist_append_right _ _)

/-- After a crash the surviving offsets are distinct, and none of them is the largest word. -/
theorem Life.Sound.crash {crc : Bytes → UInt32} {segmentMaxBytes : Nat} {wal : WalState}
    (sound : (Life.up wal).Sound crc segmentMaxBytes) (kept : Nat) :
    (Life.down (wal.dir.crash wal.writer.segmentId kept 0)).Sound crc segmentMaxBytes := by
  -- What survives was written, so its offsets are distinct and below the counter.
  obtain ⟨holds, numbered⟩ := sound
  have written := WalState.written_numbered numbered
  refine ⟨offsetsDistinct_present written.2 (holds.crash_fewer kept), ?_,
    holds.crash_sound segmentMaxBytes kept⟩
  intro entry member
  have below := UInt64.lt_iff_toNat_lt.mp
    (written.1 _ (List.mem_map.mpr ⟨entry, present_subset (holds.crash_fewer kept) member, rfl⟩))
  have bound := wal.offsetCounter.toNat_lt
  omega

/-- A restart numbers on above every readable record, if the last segment holds the highest. -/
theorem Life.Sound.reopen {crc : Bytes → UInt32} {segmentMaxBytes : Nat} {dir : WalDir}
    (sound : (Life.down dir).Sound crc segmentMaxBytes) (highest : LastHoldsHighest crc dir)
    {opened : OpenedWal} (started : walOpen crc segmentMaxBytes dir = .ok opened) :
    (Life.up (.ofOpened crc opened)).Sound crc segmentMaxBytes := by
  obtain ⟨distinct, bounded, openable⟩ := sound
  have holds : dir.Sound crc := by
    rcases openable with holds | ⟨error, refused⟩
    · exact holds
    · rw [started] at refused
      cases refused
  obtain ⟨fewer, numbering⟩ := walOpen_present holds started
  refine ⟨.start holds started, ?_, ?_⟩
  · intro offset member
    obtain ⟨entry, present, rfl⟩ : ∃ entry ∈ presentRecords crc opened.dir,
        entry.2.assignedOffset = offset := List.mem_map.mp member
    have old := present_subset fewer present
    rcases numbering with fresh | ⟨lastId, last, next⟩
    · simp [presentRecords, fresh] at old
    · -- The last segment holds an offset at least as high, and opening goes one above that.
      obtain ⟨record, read, above⟩ := highest lastId last entry old
      obtain ⟨_, covers, attained⟩ := foldMax_spec (readableRecords crc (dir.contents lastId)) 0
      have room : (maxOffset (readableRecords crc (dir.contents lastId))).toNat + 1 < 2 ^ 64 := by
        rw [maxOffset]
        rcases attained with zero | ⟨top, topRead, same⟩
        · rw [zero]
          decide
        · have listed := (WalDir.le_last last).1
          rw [same]
          exact bounded (lastId, top) (mem_presentRecords.mpr ⟨listed, topRead⟩)
      show entry.2.assignedOffset < opened.nextOffset
      rw [next, UInt64.lt_iff_toNat_lt, UInt64.toNat_add, UInt64.toNat_one, Nat.mod_eq_of_lt room]
      exact Nat.lt_succ_of_le (UInt64.le_iff_toNat_le.mp (UInt64.le_trans above (covers record read)))
  · exact offsetsDistinct_present distinct fewer

theorem Life.Sound.step {crc : Bytes → UInt32} {segmentMaxBytes : Nat} {life next : Life}
    {label : LifeLabel} (sound : life.Sound crc segmentMaxBytes)
    (guard : UniqueGuard crc segmentMaxBytes life label)
    (stepped : lifeStep crc segmentMaxBytes life label = some next) :
    next.Sound crc segmentMaxBytes := by
  -- A process that is up appends or crashes, and one that is down reopens.
  cases life with
  | up wal =>
    cases label with
    | append label =>
      simp only [lifeStep, Option.map_eq_some_iff] at stepped
      obtain ⟨appended, stepped, rfl⟩ := stepped
      exact ⟨sound.1.step guard.1 stepped, sound.2.step guard.2 stepped⟩
    | crash kept =>
      cases stepped
      exact sound.crash kept
    | reopen => cases stepped
  | down dir =>
    cases label with
    | reopen =>
      simp only [lifeStep] at stepped
      split at stepped
      · rename_i opened started
        cases stepped
        exact sound.reopen guard started
      · cases stepped
    | append label => cases stepped
    | crash kept => cases stepped

theorem Life.Sound.offsetsUnique {crc : Bytes → UInt32} {segmentMaxBytes : Nat} {life : Life}
    (sound : life.Sound crc segmentMaxBytes) : life.OffsetsUnique crc := by
  cases life with
  | down dir => exact sound.1
  | up wal =>
    -- The files of a running WAL yield exactly what was written to them.
    have fewer : ∀ segmentId ∈ wal.dir.segmentIds,
        (readableRecords crc (wal.dir.contents segmentId)).Sublist
          (recordsIn wal.written segmentId) := by
      intro segmentId member
      rw [(sound.1.files segmentId member).readable]
    have written := WalState.written_numbered sound.2
    refine ⟨offsetsDistinct_present written.2 fewer, ?_⟩
    intro entry member
    exact written.1 _ (List.mem_map.mpr ⟨entry, present_subset fewer member, rfl⟩)

/--
Offsets stay unique over every run of appends, rotations, crashes and restarts that meets three conditions.

Records fit the format and are not appended behind a failed write, the 64-bit counter does not wrap, and at each restart some record of the last segment has the highest readable offset.
-/
theorem offsets_unique_across_restarts (crc : Bytes → UInt32) (segmentMaxBytes : Nat)
    (labels : List LifeLabel)
    (guarded : Guarded (lifeStep crc segmentMaxBytes) (UniqueGuard crc segmentMaxBytes)
      (.down .empty) labels)
    (life : Life) (reached : run (lifeStep crc segmentMaxBytes) (.down .empty) labels = some life) :
    life.OffsetsUnique crc := by
  have start : (Life.down .empty).Sound crc segmentMaxBytes :=
    ⟨List.nodup_nil, by simp [presentRecords, WalDir.empty], Or.inl (WalDir.empty_sound crc)⟩
  have final := run_invariant
    (fun _ _ _ sound guard stepped => Life.Sound.step sound guard stepped) start guarded reached
  exact final.offsetsUnique

/-- One record is written before a crash that loses nothing, and one more offset taken after it. -/
def restartAfterRecord : List LifeLabel :=
  [.reopen, .append (.takeOffset sampleRecord), .append (.lockWriter 0), .append .finishWrite,
    .crash 1000, .reopen, .append (.takeOffset sampleRecord)]

theorem offsets_unique_after_record :
    ∃ life, run (lifeStep (fun _ => 0) 1000) (.down .empty) restartAfterRecord = some life ∧
      life.OffsetsUnique fun _ => 0 := by
  refine ⟨_, rfl, ?_⟩
  exact offsets_unique_across_restarts (fun _ => 0) 1000 restartAfterRecord (by decide) _ rfl

/-- Two records fill a segment, and the crash strikes right after the rotation. -/
def crashAfterRotation : List LifeLabel :=
  [.reopen, .append (.takeOffset sampleRecord), .append (.takeOffset sampleRecord),
    .append (.takeOffset sampleRecord), .append (.lockWriter 0), .append .finishWrite,
    .append (.lockWriter 0), .append .finishWrite, .append (.lockWriter 0), .crash 13, .reopen]

/-- A last segment without records makes a restart hand out offsets that are in use. -/
theorem restart_reuses_offset :
    ¬ ∃ crc : Bytes → UInt32, ∀ segmentMaxBytes labels life,
      run (lifeStep crc segmentMaxBytes) (.down .empty) labels = some life →
        life.OffsetsUnique crc := by
  rintro ⟨crc, claim⟩
  have unique := (claim 100 crashAfterRotation _ rfl).2
  let first : WalRecord := { sampleRecord with assignedOffset := 0 }
  let second : WalRecord := { sampleRecord with assignedOffset := 1 }
  -- The sealed segment still holds the record with offset 1, which is the next offset again.
  have fits : ∀ record ∈ [first, second], record.Fits := by decide
  have readable : second ∈ readableRecords crc (segmentBytes crc 0 [first, second]) := by
    rw [(holdsRecords_whole crc 0 fits).readable]
    simp
  have contents : segmentBytes crc 0 [first, second] =
      (segmentHeader 0 ++ first.serialize crc) ++ second.serialize crc := by
    simp [segmentBytes]
  rw [contents] at readable
  have below : (1 : UInt64) < 1 :=
    unique (0, second) (mem_presentRecords.mpr ⟨List.mem_cons_self, readable⟩)
  exact absurd below (by decide)

end Zradar.Wal
