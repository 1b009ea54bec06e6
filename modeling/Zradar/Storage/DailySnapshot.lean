import Mathlib.Algebra.Group.Prod
import Zradar.Lib.Tally
import Zradar.Storage.System

/-! The daily snapshot of storage: what it adds up from the tables, and what the file list says. -/

namespace Zradar.Storage

open Parquet Policies Retention

/-- The name of a signal in the tables of usage. -/
def signalKindName : SignalKind → String
  | .traces => "traces"
  | .logs => "logs"
  | .metrics => "metrics"
  | .rum => "rum"
  | .sessionReplay => "session_replay"
  | .errorTracking => "error_tracking"
  | .all => "all"

/-- The microseconds of a day. -/
def dayMicros : Int := 86400 * 1000000

/-- The day of a time, counted from the epoch. -/
def dayOf (micros : Int64) : Int := micros.toInt / dayMicros

/-- The end of a day, which is the start of the next one. -/
def dayEndMicros (day : Int) : Int := (day + 1) * dayMicros

/-- The bytes of a file, and one for the file itself. -/
def entryWeight (entry : FileListEntry) : Int × Int := (entry.compressedSize.toInt, 1)

/-- The file list, the usage tables, and the usage samples that are not flushed. -/
structure DailyState where
  files : FileStore
  now : Int64
  /-- Every file that was ever registered. -/
  written : List NewFileListEntry
  pending : List WriteSample
  ingestionDaily : WorkspaceId → String → Int → Int × Int
  storageCleanupDaily : WorkspaceId → String → Int → Int × Int
  retentionStorageDaily : WorkspaceId → String → Int → Option (Int × Int)

/-- What can happen on a day, and its end. -/
inductive DailyLabel where
  | pass (time : Int64)
  /-- A writer or the compactor registers a file. -/
  | write (entry : NewFileListEntry) (data : IngestBatch)
  /-- The first samples are flushed. -/
  | flush (count : Nat)
  /-- The compactor or retention retires files. -/
  | markDeleted (ids : List Nat)
  | reclaim (env : ReclaimEnv) (workspaceId : Option Uuid)
  /-- The day ends, and a snapshot is taken of every key for which the database does not fail. -/
  | endDay (time : Int64) (failed : List (WorkspaceId × String))

/-- What some samples add to a day of a key. -/
def aggregateIngestionDaily (samples : List WriteSample) (workspaceId : WorkspaceId)
    (signalKind : String) (day : Int) : Int × Int :=
  tally (fun sample => (sample.compressedBytes.toInt, 1))
    (fun sample => sample.workspaceId = workspaceId && signalKindName sample.signal = signalKind &&
      dayOf sample.flushedAt = day) samples

/-- The files whose bytes are removed and whose entries can be deleted. -/
def reclaimed (env : ReclaimEnv) (workspaceId : Option Uuid) (table : FileTable) :
    List FileListEntry :=
  (reclaimFiles env workspaceId table).filter fun file => !env.deleteFails file.workspaceId

/-- What the files of a cycle take from a key. -/
def cleanupDelta (files : List FileListEntry) (workspaceId : WorkspaceId) (signalKind : String) :
    Int × Int :=
  tally (fun file => (max file.compressedSize.toInt 0, 1))
    (fun file => file.workspaceId = workspaceId && file.signalType = signalKind) files

section

variable (state : DailyState)

/-- The files of a key that are not deleted and were created before a time. -/
def getCurrentFileStats (workspaceId : WorkspaceId) (signalKind : String) (beforeMicros : Int) :
    Int × Int :=
  tally entryWeight (fun entry => entry.workspaceId = workspaceId && entry.signalType = signalKind &&
    !entry.deleted && entry.createdAt.toInt < beforeMicros) state.files.table.entries

/-- The keys with files that are not deleted and were created before a time. -/
def listActiveKeys (beforeMicros : Int) : List (WorkspaceId × String) :=
  ((state.files.table.entries.filter fun entry =>
    !entry.deleted && entry.createdAt.toInt < beforeMicros).map fun entry =>
      (entry.workspaceId, entry.signalType)).dedup

/-- The snapshot of the day before, with what the day added and removed. -/
def incremental (previous : Int × Int) (workspaceId : WorkspaceId) (signalKind : String) (day : Int) :
    Int × Int :=
  let added := state.ingestionDaily workspaceId signalKind day
  let removed := state.storageCleanupDaily workspaceId signalKind day
  (max (previous.1 + added.1 - removed.1) 0, max (previous.2 + added.2 - removed.2) 0)

/-- The snapshot of a key. -/
def snapshotOneKey (workspaceId : WorkspaceId) (signalKind : String) (day : Int) : Int × Int :=
  match state.retentionStorageDaily workspaceId signalKind (day - 1) with
  | some previous => incremental state previous workspaceId signalKind day
  | none => getCurrentFileStats state workspaceId signalKind (dayEndMicros day)

/-- All samples are flushed, and no deleted file waits for the reclaimer. -/
def Settled : Prop :=
  state.pending.isEmpty = true ∧ ∀ entry ∈ state.files.table.entries, entry.deleted = false

instance : Decidable (Settled state) := inferInstanceAs (Decidable (_ ∧ _))

/-- One step of the storage. -/
def dailyStep : DailyLabel → Option DailyState
  | .pass time =>
    if state.now ≤ time ∧ dayOf time = dayOf state.now then some { state with now := time } else none
  | .write entry data =>
    if entry.createdAt = state.now ∧ entry.signalType = signalTag data ∧ 0 ≤ entry.compressedSize then
      some { state with
        files := state.files.register entry data
        written := state.written ++ [entry]
        pending := state.pending ++ [writeSample entry] }
    else none
  | .flush count =>
    some { state with
      ingestionDaily := fun workspaceId signalKind day =>
        state.ingestionDaily workspaceId signalKind day +
          aggregateIngestionDaily (state.pending.take count) workspaceId signalKind day
      pending := state.pending.drop count }
  | .markDeleted ids => some { state with files := state.files.markDeleted ids state.now }
  | .reclaim env scope =>
    -- The entries are deleted in one transaction with what is recorded about them.
    let files := reclaimed env scope state.files.table
    some { state with
      files := state.files.deleteEntries (files.map FileListEntry.id)
      storageCleanupDaily := fun workspaceId signalKind day =>
        state.storageCleanupDaily workspaceId signalKind day +
          if day = dayOf state.now then cleanupDelta files workspaceId signalKind else 0 }
  | .endDay time failed =>
    let day := dayOf state.now
    if dayOf time = day + 1 ∧ Settled state then
      some { state with
        now := time
        retentionStorageDaily := fun workspaceId signalKind other =>
          if other = day ∧ (workspaceId, signalKind) ∈ listActiveKeys state (dayEndMicros day) ∧
            (workspaceId, signalKind) ∉ failed then
            some (snapshotOneKey state workspaceId signalKind day)
          else state.retentionStorageDaily workspaceId signalKind other }
    else none

/-- At the end of a day, every incremental snapshot of an active key is what the file list says. -/
def SnapshotsAgree : DailyLabel → Prop
  | .endDay _ _ =>
    Settled state →
      ∀ key ∈ listActiveKeys state (dayEndMicros (dayOf state.now)), ∀ previous,
        state.retentionStorageDaily key.1 key.2 (dayOf state.now - 1) = some previous →
        incremental state previous key.1 key.2 (dayOf state.now) =
          getCurrentFileStats state key.1 key.2 (dayEndMicros (dayOf state.now))
  | .pass _ | .write _ _ | .flush _ | .markDeleted _ | .reclaim _ _ => True

/--
At the end of a day, no scores were filed on it for a workspace whose traces or scores are active
and have a snapshot of the day before.
-/
def NoScoresFiled : DailyLabel → Prop
  | .endDay _ _ =>
    Settled state →
      ∀ key ∈ listActiveKeys state (dayEndMicros (dayOf state.now)),
        (state.retentionStorageDaily key.1 key.2 (dayOf state.now - 1)).isSome = true →
        (key.2 = "traces" ∨ key.2 = "scores") →
        ∀ entry ∈ state.written, entry.workspaceId = key.1 → entry.signalType = "scores" →
          dayOf entry.createdAt ≠ dayOf state.now
  | .pass _ | .write _ _ | .flush _ | .markDeleted _ | .reclaim _ _ => True

end

/-- No files, and no tables that say anything. -/
def emptyDaily (now : Int64) : DailyState where
  files := .empty
  now := now
  written := []
  pending := []
  ingestionDaily := fun _ _ _ => 0
  storageCleanupDaily := fun _ _ _ => 0
  retentionStorageDaily := fun _ _ _ => none

/-- The bytes of a file to be registered, and one for the file itself. -/
def newWeight (entry : NewFileListEntry) : Int × Int := (entry.compressedSize.toInt, 1)

/-- Whether a file was registered for a key on a day. -/
def filedOn (workspaceId : WorkspaceId) (signalKind : String) (day : Int) (entry : NewFileListEntry) :
    Bool :=
  entry.workspaceId = workspaceId && entry.signalType = signalKind && dayOf entry.createdAt = day

section

variable (state : DailyState) (workspaceId : WorkspaceId) (kind : String)

/-- What was registered for a key on a day. -/
def filed (day : Int) : Int × Int := tally newWeight (filedOn workspaceId kind day) state.written

/-- All files of a key in the file list. -/
def listed : Int × Int :=
  tally entryWeight (fun entry => entry.workspaceId = workspaceId && entry.signalType = kind)
    state.files.table.entries

end

/-- The invariant: tables that add up, and nothing from the future. -/
structure Balanced (state : DailyState) : Prop where
  recorded : ∀ workspaceId kind day, state.ingestionDaily workspaceId kind day +
    aggregateIngestionDaily state.pending workspaceId kind day =
      aggregateIngestionDaily (state.written.map writeSample) workspaceId kind day
  /-- A snapshot of the day before and what was filed since are in the list or cleaned up. -/
  snapshot : ∀ workspaceId kind previous,
    state.retentionStorageDaily workspaceId kind (dayOf state.now - 1) = some previous →
    previous + filed state workspaceId kind (dayOf state.now) =
      listed state workspaceId kind + state.storageCleanupDaily workspaceId kind (dayOf state.now)
  unborn : ∀ workspaceId kind day, dayOf state.now ≤ day →
    state.retentionStorageDaily workspaceId kind day = none
  uncleaned : ∀ workspaceId kind day, dayOf state.now < day →
    state.storageCleanupDaily workspaceId kind day = 0
  past : ∀ entry ∈ state.written, entry.createdAt ≤ state.now
  tagged : ∀ entry ∈ state.written, ∃ batch, entry.signalType = signalTag batch
  entries : ∀ entry ∈ state.files.table.entries, entry.createdAt ≤ state.now ∧
    0 ≤ entry.compressedSize ∧ ∃ batch, entry.signalType = signalTag batch

theorem dayOf_le {first second : Int64} (ordered : first ≤ second) : dayOf first ≤ dayOf second :=
  Int.ediv_le_ediv (by decide) (Int64.le_iff_toInt_le.mp ordered)

theorem lt_dayEndMicros {time now : Int64} (ordered : time ≤ now) :
    time.toInt < dayEndMicros (dayOf now) := by
  have whole : time.toInt ≤ now.toInt := Int64.le_iff_toInt_le.mp ordered
  have day := Int.lt_ediv_add_one_mul_self now.toInt (show 0 < dayMicros by decide)
  exact Int.lt_of_le_of_lt whole day

/-- The number of files in a tally. -/
theorem tally_newWeight_snd (counts : NewFileListEntry → Bool) (entries : List NewFileListEntry) :
    (tally newWeight counts entries).2 = ((entries.filter counts).length : Int) := by
  -- Each entry that counts adds one.
  have number : (tally newWeight counts entries).2 = tally (fun _ => 1) counts entries :=
    map_tally (AddMonoidHom.snd Int Int)
  rw [number, tally, List.map_const', List.sum_replicate, nsmul_one]

/-- A tally of files is zero when none of them counts, which its number tells. -/
theorem tally_newWeight_eq_zero {counts : NewFileListEntry → Bool} {entries : List NewFileListEntry} :
    (tally newWeight counts entries).2 = 0 ↔ ∀ entry ∈ entries, counts entry = false := by
  rw [tally_newWeight_snd, Nat.cast_eq_zero, List.length_eq_zero_iff, List.filter_eq_nil_iff]
  simp

/-- What is billed to a key on a day, in terms of the files that were registered. -/
theorem aggregate_written (written : List NewFileListEntry) (workspaceId : WorkspaceId)
    (kind : String) (day : Int) :
    aggregateIngestionDaily (written.map writeSample) workspaceId kind day =
      tally newWeight (fun entry => entry.workspaceId = workspaceId &&
        signalKindName (signalKind entry.signalType) = kind && dayOf entry.createdAt = day) written := by
  rw [aggregateIngestionDaily, tally_map]
  rfl

/-- The names under which the signals of files are billed. -/
theorem billed_name (batch : IngestBatch) :
    signalKindName (signalKind (signalTag batch)) =
      if signalTag batch = "scores" then "traces" else signalTag batch := by
  cases batch <;> rfl

section

variable {state : DailyState} (balanced : Balanced state) (workspaceId : WorkspaceId) (day : Int)
include balanced

/-- Metrics and logs are billed as what they are. -/
theorem Balanced.billed_plain {kind : String} (other : kind ≠ "traces") (unscored : kind ≠ "scores") :
    aggregateIngestionDaily (state.written.map writeSample) workspaceId kind day =
      filed state workspaceId kind day := by
  -- Such a kind has one signal type only, the one of its own name.
  rw [aggregate_written]
  refine tally_congr fun entry member => ?_
  obtain ⟨batch, tag⟩ := balanced.tagged entry member
  have same : signalKindName (signalKind entry.signalType) = kind ↔ entry.signalType = kind := by
    rw [tag, billed_name]
    split_ifs with scored
    · rw [scored]
      exact ⟨fun traces => absurd traces.symm other, fun scores => absurd scores.symm unscored⟩
    · exact Iff.rfl
  simp only [filedOn, same]

/-- Traces are billed for the scores of their workspace, too. -/
theorem Balanced.billed_traces :
    aggregateIngestionDaily (state.written.map writeSample) workspaceId "traces" day =
      filed state workspaceId "traces" day + filed state workspaceId "scores" day := by
  -- Scores are billed as traces, and no entry is filed under both.
  rw [aggregate_written, filed, filed, ← tally_or]
  · refine tally_congr fun entry member => ?_
    obtain ⟨batch, tag⟩ := balanced.tagged entry member
    have same : signalKindName (signalKind entry.signalType) = "traces" ↔
        entry.signalType = "traces" ∨ entry.signalType = "scores" := by
      rw [tag, billed_name]
      split_ifs with scored
      · simp [scored]
      · simp [scored]
    simp only [filedOn, same]
    by_cases one : entry.signalType = "traces" <;> by_cases two : entry.signalType = "scores" <;>
      simp [one, two]
  -- An entry of the one type is not of the other.
  · intro entry _ counted
    simp only [filedOn, Bool.and_eq_true, decide_eq_true_eq] at counted
    simp [filedOn, counted.1.2]

/-- Nothing is billed to scores. -/
theorem Balanced.billed_scores :
    aggregateIngestionDaily (state.written.map writeSample) workspaceId "scores" day = 0 := by
  -- No signal is billed under this name.
  rw [aggregate_written]
  refine tally_eq_zero fun entry member => ?_
  obtain ⟨batch, tag⟩ := balanced.tagged entry member
  have other : signalKindName (signalKind entry.signalType) ≠ "scores" := by
    rw [tag, billed_name]
    split_ifs with scored
    · decide
    · exact scored
  simp [other]

end

section

variable {state next : DailyState}

/-- In a settled state, the file list is counted whole. -/
theorem Balanced.getCurrentFileStats_eq (balanced : Balanced state) (settled : Settled state)
    (workspaceId : WorkspaceId) (kind : String) :
    getCurrentFileStats state workspaceId kind (dayEndMicros (dayOf state.now)) =
      listed state workspaceId kind := by
  refine tally_congr fun entry member => ?_
  have early := lt_dayEndMicros (balanced.entries entry member).1
  simp [settled.2 entry member, early]

/-- The number of files is positive when one of them counts. -/
theorem tally_entryWeight_snd_pos {counts : FileListEntry → Bool} {entry : FileListEntry}
    {entries : List FileListEntry} (member : entry ∈ entries) (counted : counts entry = true) :
    0 < (tally entryWeight counts entries).2 := by
  -- Every file weighs one.
  have number : (tally entryWeight counts entries).2 = tally (fun _ => 1) counts entries :=
    map_tally (AddMonoidHom.snd Int Int)
  have one : (1 : Int) ≤ tally (fun _ => 1) counts entries :=
    le_tally (fun _ _ => Int.one_nonneg) member counted
  rw [number]
  omega

/-- The bytes of files that are counted are not negative if no file's are. -/
theorem tally_entryWeight_fst_nonneg {counts : FileListEntry → Bool} {entries : List FileListEntry}
    (sized : ∀ entry ∈ entries, 0 ≤ entry.compressedSize) :
    0 ≤ (tally entryWeight counts entries).1 := by
  have bytes : (tally entryWeight counts entries).1 =
      tally (fun entry => entry.compressedSize.toInt) counts entries :=
    map_tally (AddMonoidHom.fst Int Int)
  rw [bytes]
  exact tally_nonneg fun entry member => Int64.le_iff_toInt_le.mp (sized entry member)

/-- A key that is active is that of some signal, and has a file in the list. -/
theorem Balanced.active (balanced : Balanced state) {key : WorkspaceId × String} {before : Int}
    (active : key ∈ listActiveKeys state before) :
    (∃ batch, key.2 = signalTag batch) ∧ 0 < (listed state key.1 key.2).2 := by
  obtain ⟨entry, member, rfl⟩ := List.mem_map.mp (List.mem_dedup.mp active)
  have inTable := List.mem_of_mem_filter member
  exact ⟨(balanced.entries entry inTable).2.2, tally_entryWeight_snd_pos inTable (by simp)⟩

/-- When an incremental snapshot of a key is what the file list says. -/
theorem Balanced.incremental_eq_iff (balanced : Balanced state) (settled : Settled state)
    {workspaceId : WorkspaceId} {kind : String} {before : Int}
    (active : (workspaceId, kind) ∈ listActiveKeys state before) {previous : Int × Int}
    (found : state.retentionStorageDaily workspaceId kind (dayOf state.now - 1) = some previous) :
    incremental state previous workspaceId kind (dayOf state.now) = listed state workspaceId kind ↔
      (kind = "traces" ∨ kind = "scores" →
        (filed state workspaceId "scores" (dayOf state.now)).2 = 0) := by
  obtain ⟨_, positive⟩ := balanced.active active
  have bytes : 0 ≤ (listed state workspaceId kind).1 :=
    tally_entryWeight_fst_nonneg fun entry member => (balanced.entries entry member).2.1
  have sums := balanced.snapshot workspaceId kind previous found
  have ingested : state.ingestionDaily workspaceId kind (dayOf state.now) =
      aggregateIngestionDaily (state.written.map writeSample) workspaceId kind (dayOf state.now) := by
    rw [← balanced.recorded, List.isEmpty_iff.mp settled.1]
    exact (add_zero _).symm
  -- Scores that are not there weigh nothing.
  have weightless : (filed state workspaceId "scores" (dayOf state.now)).2 = 0 →
      (filed state workspaceId "scores" (dayOf state.now)).1 = 0 := by
    intro none
    rw [filed, tally_eq_zero (tally_newWeight_eq_zero.mp none)]
    rfl
  have sizes := congrArg Prod.fst sums
  have counts := congrArg Prod.snd sums
  simp only [Prod.fst_add, Prod.snd_add] at sizes counts positive
  unfold incremental
  rw [Prod.ext_iff, ingested]
  dsimp only
  -- What is billed to the key decides: too much for traces, too little for scores.
  by_cases traces : kind = "traces"
  · subst traces
    rw [balanced.billed_traces workspaceId (dayOf state.now)]
    simp only [Prod.fst_add, Prod.snd_add, true_or, true_imp_iff]
    constructor
    · rintro ⟨_, same⟩
      omega
    · intro none
      have weight := weightless none
      omega
  · by_cases scores : kind = "scores"
    · subst scores
      rw [balanced.billed_scores workspaceId (dayOf state.now)]
      simp only [Prod.fst_zero, Prod.snd_zero, or_true, true_imp_iff]
      constructor
      · rintro ⟨_, same⟩
        omega
      · intro none
        have weight := weightless none
        omega
    · rw [balanced.billed_plain workspaceId (dayOf state.now) traces scores]
      simp only [traces, scores, or_self, false_imp_iff, iff_true]
      omega

/-- The snapshots of a day agree exactly if no scores were filed where they would count. -/
theorem Balanced.agree_iff (balanced : Balanced state) (label : DailyLabel) :
    SnapshotsAgree state label ↔ NoScoresFiled state label := by
  cases label with
  | endDay time failed =>
    -- Both sides are about the same keys, which are compared one by one.
    refine imp_congr_right fun settled => forall₂_congr fun key active => ?_
    have scored : (filed state key.1 "scores" (dayOf state.now)).2 = 0 ↔
        ∀ entry ∈ state.written, entry.workspaceId = key.1 → entry.signalType = "scores" →
          dayOf entry.createdAt ≠ dayOf state.now := by
      rw [filed, tally_newWeight_eq_zero]
      refine forall₂_congr fun entry _ => ?_
      simp only [filedOn, Bool.and_eq_false_iff, decide_eq_false_iff_not]
      tauto
    cases found : state.retentionStorageDaily key.1 key.2 (dayOf state.now - 1) with
    | none => simp
    | some previous =>
      have exact := balanced.incremental_eq_iff settled active found
      rw [scored] at exact
      simp only [Option.some.injEq, forall_eq', Option.isSome_some, true_imp_iff,
        balanced.getCurrentFileStats_eq settled]
      exact exact
  | pass time => exact Iff.rfl
  | write entry data => exact Iff.rfl
  | flush count => exact Iff.rfl
  | markDeleted ids => exact Iff.rfl
  | reclaim env scope => exact Iff.rfl

/-- A time on the next day is later. -/
theorem le_of_next_day {time now : Int64} (next : dayOf time = dayOf now + 1) : now ≤ time := by
  by_contra later
  have ordered : time ≤ now := Int64.le_of_lt (Int64.not_le.mp later)
  have days := dayOf_le ordered
  omega

/-- A mark does not change what a file weighs and counts for. -/
theorem listed_markDeleted (workspaceId : WorkspaceId) (kind : String) (ids : List Nat) (nowUs : Int64) :
    listed { state with files := state.files.markDeleted ids nowUs } workspaceId kind =
      listed state workspaceId kind := by
  -- A mark changes nothing that the sums look at.
  have same : ∀ entry : FileListEntry,
      (if entry.id ∈ ids then entry.markDeleted nowUs else entry).toNewFileListEntry =
        { entry with updatedAt := if entry.id ∈ ids then nowUs else entry.updatedAt } := by
    intro entry
    by_cases chosen : entry.id ∈ ids <;> simp [chosen, FileListEntry.markDeleted]
  unfold listed
  simp only [FileStore.markDeleted, FileTable.markDeleted]
  rw [tally_map]
  unfold tally
  simp only [Function.comp_def, entryWeight, same]
  rfl

/-- The files that a cycle removes from the list are those it counts. -/
theorem removed_perm (env : ReclaimEnv) (scope : Option Uuid) (table : FileTable) :
    (table.entries.filter fun entry =>
      !decide (entry.id ∉ (reclaimed env scope table).map FileListEntry.id)).Perm
        (reclaimed env scope table) := by
  have single : table.entries.Nodup := .of_map _ table.distinct
  have ordered : (reclaimed env scope table).Nodup := by
    refine List.Nodup.filter _ (List.Nodup.filter _ ?_)
    exact (List.perm_insertionSort _ _).nodup_iff.mpr (single.filter _)
  have member : ∀ entry ∈ reclaimed env scope table, entry ∈ table.entries := by
    intro entry listed
    have queried := List.mem_of_mem_filter (List.mem_of_mem_filter listed)
    exact (FileTable.mem_queryFiles.mp queried).1
  apply (List.perm_ext_iff_of_nodup (single.filter _) ordered).mpr
  intro entry
  simp only [List.mem_filter, Bool.not_eq_true', decide_eq_false_iff_not, not_not, List.mem_map]
  constructor
  · rintro ⟨here, other, listed, same⟩
    -- An id names one entry, so the entry is the one that was counted.
    rw [← table.eq_of_id (member other listed) here same]
    exact listed
  · intro listed
    exact ⟨member entry listed, entry, listed, rfl⟩

/-- What is in the list was there before and is not removed by a cycle, or is what it counts. -/
theorem Balanced.listed_reclaim (balanced : Balanced state) (env : ReclaimEnv) (scope : Option Uuid)
    (workspaceId : WorkspaceId) (kind : String) :
    listed state workspaceId kind =
      listed
          { state with
            files := state.files.deleteEntries
              ((reclaimed env scope state.files.table).map FileListEntry.id) }
          workspaceId kind +
        cleanupDelta (reclaimed env scope state.files.table) workspaceId kind := by
  have moved := removed_perm env scope state.files.table
  unfold listed cleanupDelta
  rw [tally_split fun entry =>
    decide (entry.id ∉ (reclaimed env scope state.files.table).map FileListEntry.id)]
  congr 1
  rw [tally_perm moved]
  -- No file has a negative size, so the floor of the cycle changes nothing.
  refine tally_weights fun entry counted => ?_
  have inTable := List.mem_of_mem_filter (moved.mem_iff.mpr counted)
  have size : 0 ≤ entry.compressedSize.toInt :=
    Int64.le_iff_toInt_le.mp (balanced.entries entry inTable).2.1
  rw [max_eq_left size]
  rfl

/-- A file that is registered today counts on both sides. -/
theorem Balanced.write (balanced : Balanced state) {entry : NewFileListEntry} {data : IngestBatch}
    (created : entry.createdAt = state.now) (tag : entry.signalType = signalTag data)
    (size : 0 ≤ entry.compressedSize) :
    Balanced { state with
      files := state.files.register entry data
      written := state.written ++ [entry]
      pending := state.pending ++ [writeSample entry] } where
  -- The sample of the new file is pending, so it is counted with those that are.
  recorded := by
    intro workspaceId kind day
    have before := balanced.recorded workspaceId kind day
    unfold aggregateIngestionDaily at before ⊢
    rw [List.map_append, tally_append, tally_append, ← add_assoc, before]
    rfl
  -- The file is listed from now on, and it is filed under today.
  snapshot := by
    intro workspaceId kind previous found
    have before := balanced.snapshot workspaceId kind previous found
    unfold filed listed at before ⊢
    simp only [FileStore.register]
    rw [tally_append, tally_append, ← add_assoc, before, add_right_comm, tally_singleton,
      tally_singleton]
    simp only [filedOn, created, decide_true, Bool.and_true]
    rfl
  unborn := balanced.unborn
  uncleaned := balanced.uncleaned
  -- The new file is as old as the clock says.
  past := by
    intro other member
    obtain old | new := List.mem_append.mp member
    · exact balanced.past other old
    · rw [List.mem_singleton.mp new, created]
      exact Int64.le_refl _
  tagged := by
    intro other member
    obtain old | new := List.mem_append.mp member
    · exact balanced.tagged other old
    · exact ⟨data, by rw [List.mem_singleton.mp new, tag]⟩
  entries := by
    intro other member
    obtain old | new := List.mem_append.mp member
    · exact balanced.entries other old
    · rw [List.mem_singleton.mp new]
      exact ⟨created ▸ Int64.le_refl _, size, data, tag⟩

/-- Samples that are flushed move from one side to the other. -/
theorem Balanced.flush (balanced : Balanced state) (count : Nat) :
    Balanced { state with
      ingestionDaily := fun workspaceId signalKind day =>
        state.ingestionDaily workspaceId signalKind day +
          aggregateIngestionDaily (state.pending.take count) workspaceId signalKind day
      pending := state.pending.drop count } where
  -- What is added to the table is taken from what is pending.
  recorded := by
    intro workspaceId kind day
    rw [← balanced.recorded, add_assoc]
    congr 1
    unfold aggregateIngestionDaily
    rw [← tally_append, List.take_append_drop]
  snapshot := balanced.snapshot
  unborn := balanced.unborn
  uncleaned := balanced.uncleaned
  past := balanced.past
  tagged := balanced.tagged
  entries := balanced.entries

/-- A mark leaves a file in the list. -/
theorem Balanced.markDeleted (balanced : Balanced state) (ids : List Nat) :
    Balanced { state with files := state.files.markDeleted ids state.now } where
  recorded := balanced.recorded
  -- A marked file still takes up its bytes.
  snapshot := by
    intro workspaceId kind previous found
    rw [listed_markDeleted]
    exact balanced.snapshot workspaceId kind previous found
  unborn := balanced.unborn
  uncleaned := balanced.uncleaned
  past := balanced.past
  tagged := balanced.tagged
  entries := by
    intro entry member
    obtain ⟨old, listed, rfl⟩ := List.mem_map.mp member
    have before := balanced.entries old listed
    split_ifs <;> exact before

/-- What a cycle removes is what it records. -/
theorem Balanced.reclaim (balanced : Balanced state) (env : ReclaimEnv) (scope : Option Uuid) :
    Balanced { state with
      files := state.files.deleteEntries
        ((reclaimed env scope state.files.table).map FileListEntry.id)
      storageCleanupDaily := fun workspaceId signalKind day =>
        state.storageCleanupDaily workspaceId signalKind day +
          if day = dayOf state.now then
            cleanupDelta (reclaimed env scope state.files.table) workspaceId signalKind
          else 0 } where
  recorded := balanced.recorded
  -- What is no longer listed is written off on the same day.
  snapshot := by
    intro workspaceId kind previous found
    have before := balanced.snapshot workspaceId kind previous found
    rw [balanced.listed_reclaim env scope workspaceId kind] at before
    dsimp only
    rw [if_pos rfl]
    exact before.trans (by rw [add_assoc, add_comm (cleanupDelta _ _ _)]; rfl)
  unborn := balanced.unborn
  uncleaned := by
    intro workspaceId kind day later
    dsimp only at later ⊢
    rw [balanced.uncleaned workspaceId kind day later, if_neg (by omega)]
    rfl
  past := balanced.past
  tagged := balanced.tagged
  entries := fun entry member => balanced.entries entry (List.mem_of_mem_filter member)

/-- The snapshot of an active key is what the file list says. -/
theorem Balanced.snapshotOneKey_eq (balanced : Balanced state) (settled : Settled state)
    {time : Int64} {failed : List (WorkspaceId × String)}
    (unscored : NoScoresFiled state (.endDay time failed)) {workspaceId : WorkspaceId} {kind : String}
    (active : (workspaceId, kind) ∈ listActiveKeys state (dayEndMicros (dayOf state.now))) :
    snapshotOneKey state workspaceId kind (dayOf state.now) = listed state workspaceId kind := by
  -- The bootstrap branch counts the files, and the other one agrees with it.
  unfold snapshotOneKey
  cases found : state.retentionStorageDaily workspaceId kind (dayOf state.now - 1) with
  | none => exact balanced.getCurrentFileStats_eq settled workspaceId kind
  | some previous =>
    have agree := (balanced.agree_iff (.endDay time failed)).mpr unscored
    rw [← balanced.getCurrentFileStats_eq settled]
    exact agree settled _ active previous found

/-- A new day begins with snapshots that are right, and with nothing filed or cleaned up. -/
theorem Balanced.endDay (balanced : Balanced state) {time : Int64}
    {failed : List (WorkspaceId × String)} (unscored : NoScoresFiled state (.endDay time failed))
    (tomorrow : dayOf time = dayOf state.now + 1) (settled : Settled state) :
    Balanced { state with
      now := time
      retentionStorageDaily := fun workspaceId signalKind other =>
        if other = dayOf state.now ∧
            (workspaceId, signalKind) ∈ listActiveKeys state (dayEndMicros (dayOf state.now)) ∧
            (workspaceId, signalKind) ∉ failed then
          some (snapshotOneKey state workspaceId signalKind (dayOf state.now))
        else state.retentionStorageDaily workspaceId signalKind other } where
  recorded := balanced.recorded
  snapshot := by
    intro workspaceId kind previous found
    dsimp only at found ⊢
    rw [tomorrow, add_sub_cancel_right] at found
    split_ifs at found with taken
    · -- Nothing was filed on the new day, and nothing was cleaned up.
      have unfiled : filed state workspaceId kind (dayOf state.now + 1) = 0 := by
        refine tally_eq_zero fun entry member => ?_
        have early := dayOf_le (balanced.past entry member)
        have other : dayOf entry.createdAt ≠ dayOf state.now + 1 := by omega
        simp [filedOn, other]
      have clean := balanced.uncleaned workspaceId kind (dayOf state.now + 1) (Int.lt_succ _)
      rw [tomorrow, clean, add_zero, ← Option.some.inj found,
        balanced.snapshotOneKey_eq settled unscored taken.2.1]
      exact (congrArg _ unfiled).trans (add_zero _)
    · rw [balanced.unborn workspaceId kind _ (Int.le_refl _)] at found
      cases found
  -- The snapshot that is taken belongs to the day that ends.
  unborn := by
    intro workspaceId kind day later
    dsimp only at later ⊢
    rw [if_neg (fun taken => by omega)]
    exact balanced.unborn workspaceId kind day (by omega)
  uncleaned := by
    intro workspaceId kind day later
    dsimp only at later
    exact balanced.uncleaned workspaceId kind day (by omega)
  past := fun entry member => Int64.le_trans (balanced.past entry member) (le_of_next_day tomorrow)
  tagged := balanced.tagged
  entries := by
    intro entry member
    obtain ⟨early, rest⟩ := balanced.entries entry member
    exact ⟨Int64.le_trans early (le_of_next_day tomorrow), rest⟩

/-- A step that files no scores where they would count keeps the balance. -/
theorem balanced_dailyStep {label : DailyLabel} (balanced : Balanced state)
    (unscored : NoScoresFiled state label) (stepped : dailyStep state label = some next) :
    Balanced next := by
  cases label with
  -- Time passes within a day, so the day of every sum stays the same.
  | pass time =>
    simp only [dailyStep, Option.ite_none_right_eq_some, Option.some.injEq] at stepped
    obtain ⟨⟨later, same⟩, rfl⟩ := stepped
    exact
      { recorded := balanced.recorded
        snapshot := by
          dsimp only
          rw [same]
          exact balanced.snapshot
        unborn := by
          dsimp only
          rw [same]
          exact balanced.unborn
        uncleaned := by
          dsimp only
          rw [same]
          exact balanced.uncleaned
        past := fun entry member => Int64.le_trans (balanced.past entry member) later
        tagged := balanced.tagged
        entries := fun entry member =>
          ⟨Int64.le_trans (balanced.entries entry member).1 later, (balanced.entries entry member).2⟩ }
  | write entry data =>
    simp only [dailyStep, Option.ite_none_right_eq_some, Option.some.injEq] at stepped
    obtain ⟨⟨created, tag, size⟩, rfl⟩ := stepped
    exact balanced.write created tag size
  | flush count =>
    cases stepped
    exact balanced.flush count
  | markDeleted ids =>
    cases stepped
    exact balanced.markDeleted ids
  | reclaim env scope =>
    cases stepped
    exact balanced.reclaim env scope
  -- Everything was flushed before the snapshot is taken.
  | endDay time failed =>
    simp only [dailyStep, Option.ite_none_right_eq_some, Option.some.injEq] at stepped
    obtain ⟨⟨tomorrow, settled⟩, rfl⟩ := stepped
    exact balanced.endDay unscored tomorrow settled

theorem balanced_emptyDaily (now : Int64) : Balanced (emptyDaily now) where
  recorded := fun _ _ _ => rfl
  snapshot := fun _ _ _ found => nomatch found
  unborn := fun _ _ _ _ => rfl
  uncleaned := fun _ _ _ _ => rfl
  past := List.forall_mem_nil _
  tagged := List.forall_mem_nil _
  entries := List.forall_mem_nil _

end

/-- A file of ten bytes. -/
def tenByteFile (signalType : String) (createdAt : Int64) : NewFileListEntry where
  workspaceId := Uuid.nil
  signalType := signalType
  streamName := "api"
  date := "1970/01/01/00"
  filePath := "/data/a.parquet"
  location := "local"
  minTs := 0
  maxTs := 0
  records := 1
  originalSize := 10
  compressedSize := 10
  createdAt := createdAt
  updatedAt := createdAt
  walReplayOffset := none

/-- A file of traces on one day, and a file of scores on the next. -/
def scoredNextDay : List DailyLabel :=
  [.write (tenByteFile "traces" 0) (.spans []), .flush 1, .endDay 86400000000 [],
    .write (tenByteFile "scores" 86400000000) (.scores []), .flush 1, .endDay 172800000000 []]

end Zradar.Storage
