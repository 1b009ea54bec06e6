import Zradar.Lib.FixedWidth
import Zradar.Storage.LiveBytes

/-! Stream statistics: rows that grow with every file, against the files that are still live. -/

namespace Zradar.Storage

open Parquet Policies Retention

/-- The stream that a file belongs to. -/
def streamOf (entry : NewFileListEntry) : StreamKey :=
  (entry.workspaceId, entry.signalType, entry.streamName)

/-- The totals over some files, if there are any. -/
def fileTotals (entries : List NewFileListEntry) : Option StreamTotals := do
  let minTs ← (entries.map fun entry => entry.minTs).min?
  let maxTs ← (entries.map fun entry => entry.maxTs).max?
  return {
    minTs := minTs
    maxTs := maxTs
    totalRecords := (entries.map fun entry => entry.records.toInt).sum
    totalOriginalSize := (entries.map fun entry => entry.originalSize.toInt).sum
    totalCompressedSize := (entries.map fun entry => entry.compressedSize.toInt).sum }

/-- The totals over the live files of a stream. -/
def liveTotals (files : FileStore) (key : StreamKey) : Option StreamTotals :=
  fileTotals ((files.liveEntries.map FileListEntry.toNewFileListEntry).filter fun entry =>
    streamOf entry = key)

/-- Every stream has the statistics of its live files, once the merge at hand has added its own. -/
def StatsExact (state : StorageState) : Prop :=
  ∀ key, (statsRow (settledStats state.system) key).map StreamStats.toStreamTotals =
    liveTotals state.files key

/-- What a step must not do: end a live file, or register one and leave it uncounted. -/
structure KeepsStats (state next : StorageState) : Prop where
  kept : ∀ entry ∈ state.files.liveEntries,
    entry.id ∈ next.files.liveEntries.map FileListEntry.id
  counted : (settledStats next.system).length =
    (settledStats state.system).length + (state.newEntries next.system).length

/-- The order of updates does not matter to a row. -/
theorem upsertRow_comm (row : Option StreamStats) (first second : StreamStatsUpdate) :
    upsertRow (upsertRow row first) second = upsertRow (upsertRow row second) first := by
  -- Sums, minima and maxima do not depend on the order of the updates.
  cases row with
  | none =>
    simp only [upsertRow, Option.some.injEq, StreamStats.mk.injEq, StreamTotals.mk.injEq, and_true,
      ← Int64.toInt_inj, FixedWidth.toInt_min, FixedWidth.toInt_max]
    omega
  | some row =>
    simp only [upsertRow, Option.some.injEq, StreamStats.mk.injEq, StreamTotals.mk.injEq, and_true,
      ← Int64.toInt_inj, FixedWidth.toInt_min, FixedWidth.toInt_max]
    omega

theorem statsRow_perm {first second : List StreamStatsUpdate} (same : first.Perm second)
    (key : StreamKey) : statsRow first key = statsRow second key := by
  have commutes : RightCommutative upsertRow := ⟨upsertRow_comm⟩
  exact (same.filter _).foldl_eq none

/-- Totals with one file more. -/
def addFile (totals : Option StreamTotals) (entry : NewFileListEntry) : StreamTotals :=
  match totals with
  | none =>
    { minTs := entry.minTs
      maxTs := entry.maxTs
      totalRecords := entry.records.toInt
      totalOriginalSize := entry.originalSize.toInt
      totalCompressedSize := entry.compressedSize.toInt }
  | some totals =>
    { minTs := min totals.minTs entry.minTs
      maxTs := max totals.maxTs entry.maxTs
      totalRecords := totals.totalRecords + entry.records.toInt
      totalOriginalSize := totals.totalOriginalSize + entry.originalSize.toInt
      totalCompressedSize := totals.totalCompressedSize + entry.compressedSize.toInt }

theorem fileTotals_append (entries : List NewFileListEntry) (entry : NewFileListEntry) :
    fileTotals (entries ++ [entry]) = some (addFile (fileTotals entries) entry) := by
  cases entries with
  | nil => simp [fileTotals, addFile]
  | cons first rest =>
    -- A fold over the rest meets the last file at its end.
    simp only [fileTotals, addFile, List.cons_append, List.map_cons, List.map_append, List.map_nil,
      List.min?_cons', List.max?_cons', List.foldl_append, List.foldl_cons, List.foldl_nil,
      List.sum_cons, List.sum_append, List.sum_nil, Int.add_zero]
    simp [Int.add_assoc]

theorem upsertRow_totals (row : Option StreamStats) (entry : NewFileListEntry) :
    (upsertRow row (statsUpdate entry)).map StreamStats.toStreamTotals =
      some (addFile (row.map StreamStats.toStreamTotals) entry) := by
  cases row <;> rfl

/-- Statistics that every file was added to are the totals over the files. -/
theorem statsRow_totals (entries : List NewFileListEntry) (key : StreamKey) :
    (statsRow (entries.map statsUpdate) key).map StreamStats.toStreamTotals =
      fileTotals (entries.filter fun entry => streamOf entry = key) := by
  have own : ((entries.map statsUpdate).filter fun update => StreamStatsUpdate.key update = key) =
      (entries.filter fun entry => streamOf entry = key).map statsUpdate := by
    rw [List.filter_map]
    rfl
  rw [statsRow, own]
  generalize (entries.filter fun entry => streamOf entry = key) = files
  -- The row grows at the end of the list, so the induction takes files off there.
  induction files using List.reverseRecOn with
  | nil => rfl
  | append_singleton files file ih =>
    rw [List.map_append, List.foldl_append, List.map_singleton, List.foldl_cons, List.foldl_nil,
      upsertRow_totals, ih, fileTotals_append]

/-- The bytes of the updates of a stream. -/
def updateBytes (updates : List StreamStatsUpdate) (key : StreamKey) : Int :=
  ((updates.filter fun update => StreamStatsUpdate.key update = key).map fun update =>
    update.compressedSizeDelta.toInt).sum

/-- A row has the bytes of its updates. -/
theorem statsRow_bytes (updates : List StreamStatsUpdate) (key : StreamKey) :
    (((statsRow updates key).map StreamStats.toStreamTotals).map
      StreamTotals.totalCompressedSize).getD 0 = updateBytes updates key := by
  -- Every update of the key adds its bytes to the row.
  unfold statsRow updateBytes
  generalize (updates.filter fun update => StreamStatsUpdate.key update = key) = own
  induction own using List.reverseRecOn with
  | nil => rfl
  | append_singleton own update ih =>
    rw [List.foldl_append, List.foldl_cons, List.foldl_nil, List.map_append, List.sum_append, ← ih]
    cases own.foldl upsertRow none <;> simp [upsertRow]

/-- Whether a file belongs to a stream. -/
def inStream (key : StreamKey) (entry : FileListEntry) : Bool :=
  streamOf entry.toNewFileListEntry = key

/-- The totals over the live files have their bytes. -/
theorem liveTotals_bytes (files : FileStore) (key : StreamKey) :
    ((liveTotals files key).map StreamTotals.totalCompressedSize).getD 0 =
      chosenBytes (inStream key) files.liveEntries := by
  -- Both sides choose the files of the stream.
  have own : ((files.liveEntries.map FileListEntry.toNewFileListEntry).filter fun entry =>
      streamOf entry = key) =
        (files.liveEntries.filter (inStream key)).map FileListEntry.toNewFileListEntry := by
    rw [List.filter_map]
    rfl
  rw [liveTotals, own, chosenBytes]
  cases files.liveEntries.filter (inStream key) with
  | nil => rfl
  | cons first rest => simp [fileTotals, Function.comp_def]

/-- Rows that are exact have the bytes of the live files. -/
theorem StatsExact.bytes {state : StorageState} (exact : StatsExact state) (key : StreamKey) :
    updateBytes (settledStats state.system) key =
      chosenBytes (inStream key) state.files.liveEntries := by
  rw [← statsRow_bytes, exact key, liveTotals_bytes]

/-- What a step of the storage does to the live files and to the statistics. -/
inductive StatsChange (state next : StorageState) : Prop where
  | same (live : next.files.liveEntries = state.files.liveEntries)
      (stats : settledStats next.system = settledStats state.system)
      (new : state.newEntries next.system = [])
  | counted (entry : FileListEntry)
      (live : next.files.liveEntries = state.files.liveEntries ++ [entry])
      (stats : (settledStats next.system).Perm
        (settledStats state.system ++ [statsUpdate entry.toNewFileListEntry]))
      (new : state.newEntries next.system = [entry])
  | uncounted (entry : FileListEntry)
      (live : next.files.liveEntries = state.files.liveEntries ++ [entry])
      (stats : settledStats next.system = settledStats state.system)
      (new : state.newEntries next.system = [entry])
  | lost (entry : NewFileListEntry)
      (live : next.files.liveEntries = state.files.liveEntries)
      (stats : settledStats state.system = settledStats next.system ++ [statsUpdate entry])
      (new : state.newEntries next.system = [])
  | dropped (ids : List Nat)
      (live : next.files.liveEntries = state.files.liveEntries.filter fun entry => entry.id ∉ ids)
      (stats : settledStats next.system = settledStats state.system)
      (new : state.newEntries next.system = [])

section

variable {config : CompactorConfig} {env : WriterEnv} {flushIntervalSecs : Nat}
  {state next : StorageState} {label : StorageLabel}

/-- A step of the system changes the files and the statistics as its effect says. -/
theorem statsChange_system {label : CompactionLabel} {system : CompactionState}
    (effect : SystemEffect env state.system system label) :
    StatsChange state (state.advanced label system) := by
  -- Each effect on the system is a change of the files and of their statistics.
  have inner : (state.advanced label system).system = system := by
    unfold StorageState.advanced
    split <;> rfl
  have files : (state.advanced label system).files = system.files :=
    congrArg CompactionState.files inner
  cases effect with
  | quiet same stats =>
    refine .same (by rw [files, same]; rfl) (by rw [inner, stats]) ?_
    rw [inner, newEntries_same same]
  | lost entry same stats =>
    refine .lost entry (by rw [files, same]; rfl) (by rw [inner, stats]) ?_
    rw [inner, newEntries_same same]
  | counted entry data size registered stats runs =>
    refine .counted ⟨entry, state.files.nextId, false⟩ ?_ (by rw [inner]; exact stats) ?_
    · rw [files, registered, FileStore.liveEntries_register]
      rfl
    · rw [inner, newEntries_register registered]
  | uncounted entry data size registered stats runs =>
    refine .uncounted ⟨entry, state.files.nextId, false⟩ ?_ (by rw [inner, stats]) ?_
    · rw [files, registered, FileStore.liveEntries_register]
      rfl
    · rw [inner, newEntries_register registered]
  | marked ids nowUs marked stats runs =>
    refine .dropped ids ?_ (by rw [inner, stats]) ?_
    · rw [files, marked, FileStore.liveEntries_markDeleted]
      rfl
    · rw [inner, newEntries_markDeleted marked]

theorem statsChange_of_storageStep
    (stepped : storageStep config env flushIntervalSecs state label = some next) :
    StatsChange state next := by
  -- Recording and reclaiming leave live files and statistics as they are.
  cases label with
  | system label =>
    obtain ⟨system, inner, rfl⟩ := system_of_storageStep stepped
    exact statsChange_system (systemEffect_of_compactionStep inner)
  | record position =>
    obtain ⟨spawned, taken, moved⟩ := Option.map_eq_some_iff.mp stepped
    cases moved
    exact .same rfl rfl (newEntries_same rfl)
  | cleanup store env workspaceId =>
    cases stepped
    obtain ⟨ids, live, length⟩ := liveEntries_cleanedFiles state.files store env workspaceId
    exact .dropped ids live rfl (List.drop_of_length_le (le_of_eq length))
  | reclaim env workspaceId =>
    cases stepped
    refine .same (liveEntries_reclaimed state.files env workspaceId) rfl ?_
    exact List.drop_of_length_le (List.length_filter_le _ _)

/-- Under the conditions of a step, the statistics have one update for each live file. -/
structure StatsSound (state : StorageState) : Prop where
  sized : Sized state
  account : (settledStats state.system).Perm
    ((state.files.liveEntries.map FileListEntry.toNewFileListEntry).map statsUpdate)

theorem StatsSound.exact (sound : StatsSound state) : StatsExact state := by
  intro key
  rw [statsRow_perm sound.account, statsRow_totals]
  rfl

theorem updateBytes_append (updates : List StreamStatsUpdate) (update : StreamStatsUpdate) :
    updateBytes (updates ++ [update]) (StreamStatsUpdate.key update) =
      updateBytes updates (StreamStatsUpdate.key update) + update.compressedSizeDelta.toInt := by
  simp [updateBytes]

/-- A file is counted for its own stream. -/
theorem chosenBytes_inStream (entry : FileListEntry) :
    chosenBytes (inStream (streamOf entry.toNewFileListEntry)) [entry] =
      entry.compressedSize.toInt := by
  simp [chosenBytes, inStream]

/-- What the statistics need of a step. -/
theorem StatsSound.needs (written : WritesBytes env) (sound : StatsSound state)
    (stepped : storageStep config env flushIntervalSecs state label = some next)
    (exact : StatsExact next) : KeepsStats state next := by
  have sized := sound.sized.step written stepped
  have before := sound.exact.bytes
  have after := exact.bytes
  cases statsChange_of_storageStep stepped with
  | same live stats new =>
    refine ⟨?_, by rw [stats, new]; rfl⟩
    rw [live]
    exact fun entry => List.mem_map_of_mem
  | counted entry live stats new =>
    refine ⟨?_, by rw [stats.length_eq, new, List.length_append]; rfl⟩
    rw [live]
    exact fun other listed => List.mem_map_of_mem (List.mem_append_left _ listed)
  | uncounted entry live stats new =>
    -- The new file has bytes that the row of its stream does not have.
    have own := after (streamOf entry.toNewFileListEntry)
    rw [stats, before, live, chosenBytes_append, chosenBytes_inStream] at own
    have size := sized.live entry (by rw [live]; exact List.mem_append_right _ List.mem_cons_self)
    omega
  | lost entry live stats new =>
    -- The row of the stream had bytes that it has no more.
    have own := after (streamOf entry)
    rw [live, ← before, stats] at own
    have shorter := updateBytes_append (settledStats next.system) (statsUpdate entry)
    have size : 0 < (statsUpdate entry).compressedSizeDelta.toInt := by
      have member : statsUpdate entry ∈ settledStats state.system := by
        rw [stats]
        exact List.mem_append_right _ List.mem_cons_self
      obtain ⟨file, listed, same⟩ := List.mem_map.mp (sound.account.mem_iff.mp member)
      obtain ⟨source, inside, rfl⟩ := List.mem_map.mp listed
      rw [← same]
      exact sound.sized.live source inside
    have key : StreamStatsUpdate.key (statsUpdate entry) = streamOf entry := rfl
    rw [key] at shorter
    omega
  | dropped ids live stats new =>
    refine ⟨?_, by rw [stats, new]; rfl⟩
    rw [live]
    intro entry listed
    refine List.mem_map_of_mem (List.mem_filter.mpr ⟨listed, ?_⟩)
    -- A file that is marked leaves its bytes in the row of its stream.
    by_contra marked
    have own := after (streamOf entry.toNewFileListEntry)
    rw [stats, before, live] at own
    have fewer := chosenBytes_filter_lt sound.sized.live listed
      (show inStream (streamOf entry.toNewFileListEntry) entry = true by simp [inStream])
      (show entry.id ∈ ids by simpa using marked)
    omega

/-- What is enough for the statistics. -/
theorem StatsSound.step (written : WritesBytes env) (sound : StatsSound state)
    (stepped : storageStep config env flushIntervalSecs state label = some next)
    (keeps : KeepsStats state next) : StatsSound next := by
  refine ⟨sound.sized.step written stepped, ?_⟩
  have counted := keeps.counted
  -- The condition excludes the changes of the files that are not counted.
  cases statsChange_of_storageStep stepped with
  | same live stats new =>
    rw [stats, live]
    exact sound.account
  | counted entry live stats new =>
    rw [live, List.map_append, List.map_append]
    exact stats.trans (sound.account.append_right _)
  | uncounted entry live stats new =>
    rw [stats, new, List.length_singleton] at counted
    omega
  | lost entry live stats new =>
    rw [stats, new, List.length_append, List.length_singleton, List.length_nil] at counted
    omega
  | dropped ids live stats new =>
    rw [stats, filter_of_kept live keeps.kept]
    exact sound.account

end

/-- What a step must meet so that the statistics stay exact. -/
def StatsGuard (config : CompactorConfig) (env : WriterEnv) (flushIntervalSecs : Nat)
    (state : StorageState) (label : StorageLabel) : Prop :=
  ∀ next ∈ storageStep config env flushIntervalSecs state label, KeepsStats state next

/--
The statistics of every stream are those of its live files in every state of a run exactly when no
step of the run ends a live file or leaves a registered file uncounted.
-/
theorem stream_stats_are_live_iff (config : CompactorConfig) {env : WriterEnv}
    (written : WritesBytes env) (flushIntervalSecs : Nat) (maxSlotBytes : Option Nat)
    {labels : List StorageLabel} {final : StorageState}
    (reached : run (storageStep config env flushIntervalSecs) (initialStorage maxSlotBytes) labels =
      some final) :
    (∀ taken middle,
        run (storageStep config env flushIntervalSecs) (initialStorage maxSlotBytes)
          (labels.take taken) = some middle → StatsExact middle) ↔
      Guarded (storageStep config env flushIntervalSecs) (StatsGuard config env flushIntervalSecs)
        (initialStorage maxSlotBytes) labels := by
  -- Sound states are exact, and a step from one stays sound exactly if it is guarded.
  have start : StatsSound (initialStorage maxSlotBytes) := ⟨.initial maxSlotBytes, .nil⟩
  refine run_always_iff_of (fun _ => StatsSound.exact) ?_ ?_ start reached
  · intro state label next sound stepped exact other there
    obtain rfl := Option.some.inj (stepped.symm.trans there)
    exact sound.needs written stepped exact
  · intro state label next sound stepped guarded
    exact sound.step written stepped (guarded next stepped)

instance (state next : StorageState) : Decidable (KeepsStats state next) :=
  decidable_of_iff
    ((∀ entry ∈ state.files.liveEntries,
        entry.id ∈ next.files.liveEntries.map FileListEntry.id) ∧
      (settledStats next.system).length =
        (settledStats state.system).length + (state.newEntries next.system).length)
    ⟨fun ⟨kept, counted⟩ => ⟨kept, counted⟩, fun ⟨kept, counted⟩ => ⟨kept, counted⟩⟩

instance (config : CompactorConfig) (env : WriterEnv) (flushIntervalSecs : Nat)
    (state : StorageState) (label : StorageLabel) :
    Decidable (StatsGuard config env flushIntervalSecs state label) :=
  inferInstanceAs (Decidable (∀ next ∈ storageStep config env flushIntervalSecs state label,
    KeepsStats state next))

/-- Two files are written and their merge is counted, while the originals are still live. -/
theorem stream_stats_are_live_before_mark :
    ∃ final, run (storageStep pairConfig firstDayEnv 1) (initialStorage none)
        (((mergeLabels "api" "api").take 8).map .system) = some final ∧
      ∀ taken middle, run (storageStep pairConfig firstDayEnv 1) (initialStorage none)
        ((((mergeLabels "api" "api").take 8).map .system).take taken) = some middle →
          StatsExact middle := by
  -- The run ends before the inputs of the merge are marked.
  have arrives : (run (storageStep pairConfig firstDayEnv 1) (initialStorage none)
      (((mergeLabels "api" "api").take 8).map .system)).isSome := by decide +kernel
  obtain ⟨final, reached⟩ := Option.isSome_iff_exists.mp arrives
  refine ⟨final, reached, ?_⟩
  exact (stream_stats_are_live_iff pairConfig firstDayEnv_writesBytes 1 none reached).mpr
    (by decide +kernel)

/-- A finished merge counts the rows of its originals twice. -/
theorem merge_doubles_stream_stats :
    ¬ ∀ (config : CompactorConfig) (env : WriterEnv) (flushIntervalSecs : Nat)
      (maxSlotBytes : Option Nat) (labels : List StorageLabel) (final : StorageState),
      run (storageStep config env flushIntervalSecs) (initialStorage maxSlotBytes) labels =
        some final → StatsExact final := by
  intro claim
  -- The merged rows are counted again, and the marked ones are not taken off.
  have rows : (run (storageStep pairConfig firstDayEnv 1) (initialStorage none)
      ((mergeLabels "api" "api").map .system)).map (fun state =>
        ((statsRow (settledStats state.system) (Uuid.nil, "logs", "api")).map fun row =>
            row.toStreamTotals.totalRecords,
          (liveTotals state.files (Uuid.nil, "logs", "api")).map fun totals =>
            totals.totalRecords)) = some (some 4, some 2) := by
    decide +kernel
  obtain ⟨final, reached, read⟩ := Option.map_eq_some_iff.mp rows
  have same := claim pairConfig firstDayEnv 1 none _ final reached (Uuid.nil, "logs", "api")
  simp only [Prod.mk.injEq] at read
  rw [← same, Option.map_map] at read
  have equal := read.1.symm.trans read.2
  cases equal

end Zradar.Storage
