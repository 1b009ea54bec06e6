import Zradar.Lib.Grouping
import Zradar.Lib.Positions
import Zradar.Parquet.FileStore
import Zradar.Parquet.WriteBuffer

/-! The compactor: it merges the small files of a bucket, one step at a time. -/

namespace Zradar.Parquet

/-- When files are merged. -/
structure CompactorConfig where
  /-- Minimum files in a bucket before compaction is triggered. -/
  minFiles : Nat
  /-- Only files strictly smaller than this are merged. -/
  maxFileSizeBytes : Int64

/-- The bucket of a file, in which the stream has no part. -/
def FileListEntry.bucket (entry : FileListEntry) : WorkspaceId × String × String :=
  (entry.workspaceId, entry.signalType, entry.date)

/-- The live local files from before the cutoff, by bucket, where a bucket has two or more. -/
def queryCompactableGroups (table : FileTable) (cutoffUs : Int64) : List (List FileListEntry) :=
  let files := table.entries.filter fun entry =>
    !entry.deleted && entry.location = "local" && entry.createdAt < cutoffUs
  let ordered := files.insertionSort fun first second => first.minTs ≤ second.minTs
  ((groupFirstSeen FileListEntry.bucket ordered).filter fun group => 2 ≤ group.2.length).map
    Prod.snd

/-- The files of a group that are small enough. -/
def smallFiles (config : CompactorConfig) (group : List FileListEntry) : List FileListEntry :=
  group.filter fun file => file.compressedSize < config.maxFileSizeBytes

/-- The batches in some files, where a file without rows has none. -/
def readParquetFiles (store : FileStore) (files : List FileListEntry) : List IngestBatch :=
  (files.map fun file => store.contents file.id).filter fun batch => !batch.rows.isEmpty

/-- One batch with the rows of all, if they are of one schema. -/
def concatBatches : List IngestBatch → Option IngestBatch
  | [] => none
  | first :: rest =>
    if rest.all fun batch => signalTag batch = signalTag first then some (rest.foldl extend first)
    else none

/-- The files that one call of `compact_group` merges, of which there is at least one. -/
structure MergeJob where
  bucket : WorkspaceId × String × String
  first : FileListEntry
  others : List FileListEntry

def MergeJob.files (job : MergeJob) : List FileListEntry :=
  job.first :: job.others

def MergeJob.ids (job : MergeJob) : List Nat :=
  job.files.map FileListEntry.id

/-- The entry of the merged file, which takes its stream from the first of the files. -/
def mergedEntry (env : WriterEnv) (job : MergeJob) (merged : IngestBatch) (fileNumber : Nat) :
    NewFileListEntry :=
  let minTsUs := (job.files.map fun file => file.minTs).min?.getD 0
  let maxTsUs := (job.files.map fun file => file.maxTs).max?.getD 0
  let minTsNs := minTsUs * 1000
  let maxTsNs := maxTsUs * 1000
  batchEntry env job.bucket.1.toText job.first.streamName job.bucket.2.1 merged minTsNs
    (minTsNs / 1000) (maxTsNs / 1000) fileNumber

/-- Where `compact_group` stands. -/
inductive MergeStage where
  | reading
  | writing (merged : IngestBatch)
  /-- The file is on disk, and not in the file list yet. -/
  | registering (entry : NewFileListEntry) (merged : IngestBatch)
  /-- The merged file is registered beside its originals. -/
  | counting (entry : NewFileListEntry)
  | marking

/-- Where the compactor stands. -/
inductive CompactorPhase where
  | idle
  /-- Inside `compact_all`, with the groups still to be looked at. -/
  | scanned (groups : List (List FileListEntry))
  /-- Inside `compact_group`. -/
  | merging (stage : MergeStage) (job : MergeJob) (groups : List (List FileListEntry))
  /-- The task has panicked. -/
  | stopped

/-- One step of the compactor. -/
inductive CompactorLabel where
  | scan (cutoffUs : Int64)
  /-- Look at one of the groups that are left, in whatever order the map has them. -/
  | nextGroup (position : Nat)
  | read
  | writeFile
  | register
  | upsertStreamStats
  | markDeleted
  /-- The step at hand fails, and the group is skipped. -/
  | fail

/-- Look at one group: it is merged if enough of its files are small. -/
def beginGroup (config : CompactorConfig) (group : List FileListEntry)
    (groups : List (List FileListEntry)) : CompactorPhase :=
  match group with
  | [] => .scanned groups
  | head :: _ =>
    if (smallFiles config group).length < config.minFiles then .scanned groups
    else
      match smallFiles config group with
      -- The first of no files is asked for its stream.
      | [] => .stopped
      | first :: others => .merging .reading ⟨head.bucket, first, others⟩ groups

/-- One step of the compactor on the storage and the file list. -/
def compactorStep (config : CompactorConfig) (env : WriterEnv) (disk : ParquetStore)
    (files : FileStore) :
    CompactorPhase → CompactorLabel → Option (ParquetStore × FileStore × CompactorPhase)
  | .idle, .scan cutoffUs =>
    some (disk, files, .scanned (queryCompactableGroups files.table cutoffUs))
  | .scanned [], .nextGroup _ => some (disk, files, .idle)
  | .scanned groups, .nextGroup position =>
    groups[position]?.map fun group =>
      (disk, files, beginGroup config group (groups.eraseIdx position))
  | .merging .reading job groups, .read =>
    match concatBatches (readParquetFiles files job.files) with
    | some merged => some (disk, files, .merging (.writing merged) job groups)
    -- There is nothing to merge, or the batches do not go together.
    | none => some (disk, files, .scanned groups)
  | .merging (.writing merged) job groups, .writeFile =>
    let entry := mergedEntry env job merged disk.filesMade
    some ({ disk with
        unregistered := disk.unregistered ++ [(entry.filePath, merged)]
        filesMade := disk.filesMade + 1 }, files,
      .merging (.registering entry merged) job groups)
  | .merging (.registering entry merged) job groups, .register =>
    some ({ disk with
        unregistered := disk.unregistered.filter fun file => file.1 ≠ entry.filePath },
      files.register entry merged, .merging (.counting entry) job groups)
  | .merging (.counting entry) job groups, .upsertStreamStats =>
    some ((upsertStreamStats entry { disk with faults := [] }).1, files,
      .merging .marking job groups)
  | .merging .marking job groups, .markDeleted =>
    some (disk, files.markDeleted job.ids env.nowUs, .scanned groups)
  | .merging _ _ groups, .fail => some (disk, files, .scanned groups)
  | _, _ => none

/-- The steps of the compactor, one rule for each branch. -/
inductive CompactorStep (config : CompactorConfig) (env : WriterEnv) (disk : ParquetStore)
    (files : FileStore) :
    CompactorPhase → CompactorLabel → ParquetStore → FileStore → CompactorPhase → Prop where
  | scan (cutoffUs : Int64) :
    CompactorStep config env disk files .idle (.scan cutoffUs) disk files
      (.scanned (queryCompactableGroups files.table cutoffUs))
  | finish (position : Nat) :
    CompactorStep config env disk files (.scanned []) (.nextGroup position) disk files .idle
  | nextGroup {groups : List (List FileListEntry)} {position : Nat} {group : List FileListEntry}
      (taken : groups[position]? = some group) :
    CompactorStep config env disk files (.scanned groups) (.nextGroup position) disk files
      (beginGroup config group (groups.eraseIdx position))
  | read {job : MergeJob} {groups : List (List FileListEntry)} {merged : IngestBatch}
      (joined : concatBatches (readParquetFiles files job.files) = some merged) :
    CompactorStep config env disk files (.merging .reading job groups) .read disk files
      (.merging (.writing merged) job groups)
  /-- Nothing is there to be merged, or it does not go together. -/
  | leave (job : MergeJob) (groups : List (List FileListEntry)) :
    CompactorStep config env disk files (.merging .reading job groups) .read disk files
      (.scanned groups)
  | writeFile (job : MergeJob) (groups : List (List FileListEntry)) (merged : IngestBatch)
      {next : ParquetStore} (same : next.fileList = disk.fileList) :
    CompactorStep config env disk files (.merging (.writing merged) job groups) .writeFile next
      files (.merging (.registering (mergedEntry env job merged disk.filesMade) merged) job groups)
  | register (job : MergeJob) (groups : List (List FileListEntry)) (entry : NewFileListEntry)
      (merged : IngestBatch) {next : ParquetStore} (same : next.fileList = disk.fileList) :
    CompactorStep config env disk files (.merging (.registering entry merged) job groups) .register
      next (files.register entry merged) (.merging (.counting entry) job groups)
  | upsertStreamStats (job : MergeJob) (groups : List (List FileListEntry))
      (entry : NewFileListEntry) {next : ParquetStore} (same : next.fileList = disk.fileList) :
    CompactorStep config env disk files (.merging (.counting entry) job groups) .upsertStreamStats
      next files (.merging .marking job groups)
  | markDeleted (job : MergeJob) (groups : List (List FileListEntry)) :
    CompactorStep config env disk files (.merging .marking job groups) .markDeleted disk
      (files.markDeleted job.ids env.nowUs) (.scanned groups)
  | fail (stage : MergeStage) (job : MergeJob) (groups : List (List FileListEntry)) :
    CompactorStep config env disk files (.merging stage job groups) .fail disk files
      (.scanned groups)

section

variable {config : CompactorConfig} {env : WriterEnv} {disk nextDisk : ParquetStore}
  {files nextFiles : FileStore} {phase nextPhase : CompactorPhase} {label : CompactorLabel}

theorem CompactorStep.of_compactorStep
    (stepped : compactorStep config env disk files phase label =
      some (nextDisk, nextFiles, nextPhase)) :
    CompactorStep config env disk files phase label nextDisk nextFiles nextPhase := by
  -- The cases are those of the step function, in its order.
  unfold compactorStep at stepped
  split at stepped
  · cases stepped
    exact .scan _
  · cases stepped
    exact .finish _
  · obtain ⟨group, taken, moved⟩ := Option.map_eq_some_iff.mp stepped
    cases moved
    exact .nextGroup taken
  · split at stepped
    · rename_i joined
      cases stepped
      exact .read joined
    · cases stepped
      exact .leave _ _
  · cases stepped
    exact .writeFile _ _ _ rfl
  · cases stepped
    exact .register _ _ _ _ rfl
  · cases stepped
    exact .upsertStreamStats _ _ _ rfl
  · cases stepped
    exact .markDeleted _ _
  · cases stepped
    exact .fail _ _ _
  · cases stepped

/-- The compactor leaves the registrations of the writer alone. -/
theorem CompactorStep.fileList
    (stepped : CompactorStep config env disk files phase label nextDisk nextFiles nextPhase) :
    nextDisk.fileList = disk.fileList := by
  cases stepped with
  | writeFile job groups merged same => exact same
  | register job groups entry merged same => exact same
  | upsertStreamStats job groups entry same => exact same
  | scan | finish | nextGroup | read | leave | markDeleted | fail => rfl

end

/-- A concatenation has the rows of all batches, one after the other. -/
theorem concatBatches_rows {batches : List IngestBatch} {merged : IngestBatch}
    (joined : concatBatches batches = some merged) :
    merged.rows = batches.flatMap IngestBatch.rows := by
  -- The batches that are still to come are of the signal of those before.
  have extended (rest : List IngestBatch) : ∀ first : IngestBatch,
      (∀ batch ∈ rest, signalTag batch = signalTag first) →
        (rest.foldl extend first).rows = first.rows ++ rest.flatMap IngestBatch.rows := by
    induction rest with
    | nil =>
      intro first _
      simp
    | cons batch rest ih =>
      intro first same
      have own : signalTag first = signalTag batch := (same batch List.mem_cons_self).symm
      have later : ∀ other ∈ rest, signalTag other = signalTag (extend first batch) := by
        intro other listed
        rw [signalTag_extend]
        exact same other (List.mem_cons_of_mem _ listed)
      rw [List.foldl_cons, ih _ later, extend_rows own, List.flatMap_cons, List.append_assoc]
  cases batches with
  | nil => simp [concatBatches] at joined
  | cons first rest =>
    rw [concatBatches] at joined
    split at joined
    case isTrue uniform =>
      cases joined
      rw [List.flatMap_cons]
      apply extended
      intro batch listed
      exact of_decide_eq_true (List.all_eq_true.mp uniform batch listed)
    case isFalse => cases joined

/-- What is read are the rows of the files. -/
theorem readParquetFiles_rows (store : FileStore) (files : List FileListEntry) :
    (readParquetFiles store files).flatMap IngestBatch.rows =
      (files.map FileListEntry.id).flatMap store.rowsOf := by
  unfold readParquetFiles
  induction files with
  | nil => rfl
  | cons file files ih =>
    rw [List.map_cons, List.filter_cons, List.map_cons, List.flatMap_cons, ← ih]
    by_cases empty : (store.contents file.id).rows = []
    · simp [FileStore.rowsOf, empty]
    · simp [FileStore.rowsOf, empty]

/-- A merge holds the rows of its files, and there are some. -/
theorem merged_rows {store : FileStore} {files : List FileListEntry} {merged : IngestBatch}
    (joined : concatBatches (readParquetFiles store files) = some merged) :
    merged.rows = (files.map FileListEntry.id).flatMap store.rowsOf ∧ merged.rows ≠ [] := by
  -- Files without rows are not read, so the first batch that is joined has some.
  have rows := concatBatches_rows joined
  refine ⟨rows.trans (readParquetFiles_rows store files), ?_⟩
  cases batches : readParquetFiles store files with
  | nil => simp [batches, concatBatches] at joined
  | cons first rest =>
    have read : first ∈ readParquetFiles store files := by simp [batches]
    have some : first.rows ≠ [] := by
      unfold readParquetFiles at read
      simpa using (List.mem_filter.mp read).2
    rw [rows, batches, List.flatMap_cons]
    simp [some]

/-- The entries that the compactor has in its hands. -/
def CompactorPhase.pending : CompactorPhase → List FileListEntry
  | .idle => []
  | .scanned groups => groups.flatten
  | .merging _ job groups => job.files ++ groups.flatten
  | .stopped => []

/-- What a stage of a merge knows about its files. -/
def StageSound (files : FileStore) (job : MergeJob) : MergeStage → Prop
  | .reading => True
  | .writing merged => merged.rows = job.ids.flatMap files.rowsOf ∧ merged.rows ≠ []
  | .registering entry merged =>
    merged.rows = job.ids.flatMap files.rowsOf ∧ merged.rows ≠ [] ∧
      entry.streamName = job.first.streamName
  | .counting _ => job.ids.flatMap files.rowsOf ≠ []
  | .marking => job.ids.flatMap files.rowsOf ≠ []

/-- What the compactor holds is still in the file list. -/
structure PhaseSound (files : FileStore) (phase : CompactorPhase) : Prop where
  snapshot : SnapshotSound files phase.pending
  stage : ∀ stage job groups, phase = .merging stage job groups → StageSound files job stage

/-- The files that a scan finds are in the file list, and each is found once. -/
theorem queryCompactableGroups_sound (files : FileStore) (cutoffUs : Int64) :
    SnapshotSound files (queryCompactableGroups files.table cutoffUs).flatten := by
  unfold queryCompactableGroups
  generalize found : (files.table.entries.filter fun entry =>
    !entry.deleted && entry.location = "local" && entry.createdAt < cutoffUs) = entries
  have listed : SnapshotSound files entries := by
    subst found
    constructor
    · intro entry member
      obtain ⟨inside, passes⟩ := List.mem_filter.mp member
      simp only [Bool.and_eq_true, Bool.not_eq_true'] at passes
      exact files.mem_liveEntries.mpr ⟨inside, passes.1.1⟩
    · exact files.table.distinct.sublist (List.filter_sublist.map _)
  have sorted := listed.perm
    (List.perm_insertionSort (fun first second => first.minTs ≤ second.minTs) entries).symm
  -- The groups are a part of a grouping of what was found.
  have grouping := groupFirstSeen_spec FileListEntry.bucket
    (entries.insertionSort fun first second => first.minTs ≤ second.minTs)
  have grouped := sorted.perm grouping.perm_flatten.symm
  apply grouped.sublist
  rw [List.flatMap_def]
  exact (List.filter_sublist.map _).flatten

/-- Looking at a group takes nothing in hand that was not in the group. -/
theorem beginGroup_pending (config : CompactorConfig) (group : List FileListEntry)
    (groups : List (List FileListEntry)) :
    ((beginGroup config group groups).pending).Sublist (group ++ groups.flatten) := by
  cases group with
  | nil => exact List.sublist_append_right _ _
  | cons head rest =>
    rw [beginGroup]
    split
    · exact List.sublist_append_right _ _
    · have part : (smallFiles config (head :: rest)).Sublist (head :: rest) :=
        List.filter_sublist
      -- The files of the job are the small ones of the group.
      cases small : smallFiles config (head :: rest) with
      | nil => exact List.nil_sublist _
      | cons first others =>
        rw [small] at part
        exact part.append (List.Sublist.refl _)

/-- A group that is looked at is only read at first. -/
theorem beginGroup_stage {config : CompactorConfig} {group : List FileListEntry}
    {groups rest : List (List FileListEntry)} {stage : MergeStage} {job : MergeJob}
    (merging : beginGroup config group groups = .merging stage job rest) : stage = .reading := by
  -- The other outcomes skip the group or stop the compactor.
  unfold beginGroup at merging
  split at merging
  · cases merging
  · split at merging
    · cases merging
    · split at merging
      · cases merging
      · cases merging
        rfl

namespace PhaseSound

variable {config : CompactorConfig} {env : WriterEnv} {disk nextDisk : ParquetStore}
  {files nextFiles : FileStore} {phase nextPhase : CompactorPhase} {label : CompactorLabel}

theorem idle (files : FileStore) : PhaseSound files .idle :=
  ⟨.nil files, by simp⟩

theorem scanned {groups : List (List FileListEntry)}
    (sound : SnapshotSound files groups.flatten) : PhaseSound files (.scanned groups) :=
  ⟨sound, by simp⟩

theorem merging {stage : MergeStage} {job : MergeJob} {groups : List (List FileListEntry)}
    (snapshot : SnapshotSound files (job.files ++ groups.flatten))
    (stage_sound : StageSound files job stage) : PhaseSound files (.merging stage job groups) := by
  refine ⟨snapshot, ?_⟩
  intro other own rest same
  cases same
  exact stage_sound

/-- A change that drops nothing leaves the compactor's knowledge true. -/
theorem mono (sound : PhaseSound files phase) (change : files.Extends nextFiles []) :
    PhaseSound nextFiles phase := by
  refine ⟨sound.snapshot.mono change (by simp), ?_⟩
  intro stage job groups same
  have held := sound.stage stage job groups same
  -- The files of the job are among those of the snapshot.
  have own : SnapshotSound files job.files := by
    have whole := sound.snapshot
    rw [same] at whole
    exact whole.sublist (List.sublist_append_left _ _)
  have rows : job.ids.flatMap nextFiles.rowsOf = job.ids.flatMap files.rowsOf :=
    own.flatMap_rowsOf change
  -- Each stage speaks of the rows of these files only.
  cases stage with
  | reading => trivial
  | writing merged => exact ⟨held.1.trans rows.symm, held.2⟩
  | registering entry merged => exact ⟨held.1.trans rows.symm, held.2⟩
  | counting entry => exact fun empty => held (rows.symm.trans empty)
  | marking => exact fun empty => held (rows.symm.trans empty)

/-- A step of the compactor keeps its knowledge true. -/
theorem step (sound : PhaseSound files phase)
    (stepped : CompactorStep config env disk files phase label nextDisk nextFiles nextPhase) :
    PhaseSound nextFiles nextPhase := by
  cases stepped with
  | scan cutoffUs => exact .scanned (queryCompactableGroups_sound files cutoffUs)
  | finish position => exact .idle files
  | nextGroup taken =>
    rename_i groups position group
    -- The groups are the one that is taken and the others.
    have split : groups.flatten.Perm (group ++ (groups.eraseIdx position).flatten) :=
      (taken_perm taken).symm.flatten
    refine ⟨(sound.snapshot.perm split).sublist (beginGroup_pending config group _), ?_⟩
    intro stage job rest same
    rw [beginGroup_stage same]
    trivial
  | read joined => exact .merging sound.snapshot (merged_rows joined)
  | leave job groups => exact .scanned (sound.snapshot.sublist (List.sublist_append_right _ _))
  | writeFile job groups merged same =>
    have held := sound.stage _ _ _ rfl
    exact .merging sound.snapshot ⟨held.1, held.2, rfl⟩
  | register job groups entry merged same =>
    obtain ⟨rows, some, _⟩ := sound.stage _ _ _ rfl
    have change := files.extends_register entry merged
    have own : SnapshotSound files job.files :=
      sound.snapshot.sublist (List.sublist_append_left _ _)
    refine .merging (sound.snapshot.mono change (by simp)) ?_
    have same : job.ids.flatMap (files.register entry merged).rowsOf = merged.rows :=
      (own.flatMap_rowsOf change).trans rows.symm
    exact fun empty => some (same.symm.trans empty)
  | upsertStreamStats job groups entry same =>
    have held : StageSound files job (.counting entry) := sound.stage _ _ _ rfl
    exact .merging sound.snapshot held
  | markDeleted job groups =>
    -- The files of the other groups are not among those that are marked.
    have distinct := sound.snapshot.distinct
    simp only [CompactorPhase.pending, List.map_append] at distinct
    have apart := (List.nodup_append.mp distinct).2.2
    apply PhaseSound.scanned
    apply (sound.snapshot.sublist (List.sublist_append_right _ _)).mono
      (files.extends_markDeleted job.ids env.nowUs)
    intro entry listed marked
    exact apart entry.id marked entry.id (List.mem_map_of_mem listed) rfl
  | fail stage job groups =>
    exact .scanned (sound.snapshot.sublist (List.sublist_append_right _ _))

end PhaseSound

end Zradar.Parquet
