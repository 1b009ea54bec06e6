import Zradar.Lib.Grouping
import Zradar.Parquet.FileList
import Zradar.Retention.Config

/-! The cleanup job: files whose newest row is past the cutoff of their workspace are marked. -/

namespace Zradar.Retention

open Parquet

/-- What a cleanup cycle takes from outside: the clock, and the calls that fail. -/
structure CleanupEnv where
  /-- The clock when the cutoff of a workspace is computed. -/
  nowUs : WorkspaceId → Int64
  markedAtUs : Int64
  queryFault : Option String
  markFault : WorkspaceId → Option String
  uuidText : Uuid → String

/-- Statistics returned after a cleanup cycle. -/
structure CleanupStats where
  filesMarked : Nat
  projectsProcessed : Nat
  errors : List String
  deriving DecidableEq

/-- Mark the expired files of one workspace. -/
def cleanWorkspace (store : RetentionConfigStore) (env : CleanupEnv) (table : FileTable)
    (stats : CleanupStats) (workspaceId : WorkspaceId) (files : List FileListEntry) :
    FileTable × CleanupStats :=
  let cutoffUs := store.getCutoffUs (env.nowUs workspaceId) workspaceId
  let expired := files.filter fun file => file.maxTs ≤ cutoffUs
  if expired.isEmpty then (table, stats)
  else
    let ids := expired.map FileListEntry.id
    match env.markFault workspaceId with
    | some error =>
      -- The other workspaces are cleaned all the same.
      (table, { stats with errors := stats.errors ++
        ["mark_deleted failed for workspace " ++ env.uuidText workspaceId ++ ": " ++ error] })
    | none =>
      (table.markDeleted ids env.markedAtUs,
        { stats with filesMarked := stats.filesMarked + ids.length })

/-- Execute one cleanup cycle, for one workspace or for all. -/
def runNowScoped (store : RetentionConfigStore) (env : CleanupEnv) (workspaceId : Option Uuid)
    (table : FileTable) : FileTable × Except String CleanupStats :=
  match env.queryFault with
  | some error => (table, .error error)
  | none =>
    let allFiles := table.queryFiles
      { FileListFilter.default with workspaceId := workspaceId, deleted := some false }
    if allFiles.isEmpty then (table, .ok ⟨0, 0, []⟩)
    else
      -- The order of the workspaces, which is that of a hash map, is of no consequence here.
      let byWorkspace := groupFirstSeen (fun file => file.workspaceId) allFiles
      let (table, stats) := byWorkspace.foldl
        (fun state group => cleanWorkspace store env state.1 state.2 group.1 group.2)
        (table, ⟨0, byWorkspace.length, []⟩)
      (table, .ok stats)

/-- The files that a cleanup cycle marks. -/
structure Expires (store : RetentionConfigStore) (env : CleanupEnv) (workspaceId : Option Uuid)
    (file : FileListEntry) : Prop where
  queried : env.queryFault = none
  live : file.deleted = false
  inScope : ∀ id, workspaceId = some id → file.workspaceId = id
  expired : file.maxTs ≤ store.getCutoffUs (env.nowUs file.workspaceId) file.workspaceId
  accepted : env.markFault file.workspaceId = none

/-- The ids that are marked in one group of files. -/
def groupIds (store : RetentionConfigStore) (env : CleanupEnv)
    (group : WorkspaceId × List FileListEntry) : List Nat :=
  match env.markFault group.1 with
  | some _ => []
  | none =>
    (group.2.filter fun file => file.maxTs ≤ store.getCutoffUs (env.nowUs group.1) group.1).map
      FileListEntry.id

/-- One workspace has its own ids marked, and nothing else. -/
theorem cleanWorkspace_entries (store : RetentionConfigStore) (env : CleanupEnv)
    (table : FileTable) (stats : CleanupStats) (group : WorkspaceId × List FileListEntry) :
    (cleanWorkspace store env table stats group.1 group.2).1.entries =
      (table.markDeleted (groupIds store env group) env.markedAtUs).entries := by
  unfold cleanWorkspace groupIds
  cases fault : env.markFault group.1 with
  | some error =>
    -- Whether something has expired or not, nothing is marked.
    simp only [FileTable.markDeleted_nil]
    split <;> rfl
  | none =>
    simp only
    split
    · rename_i none
      rw [List.isEmpty_iff.mp none]
      simp
    · rfl

/-- A pass over the workspaces marks the ids of all of them. -/
theorem foldl_cleanWorkspace_entries (store : RetentionConfigStore) (env : CleanupEnv)
    (groups : List (WorkspaceId × List FileListEntry)) (table : FileTable) (stats : CleanupStats) :
    (groups.foldl (fun state group => cleanWorkspace store env state.1 state.2 group.1 group.2)
      (table, stats)).1.entries =
        (table.markDeleted (groups.flatMap (groupIds store env)) env.markedAtUs).entries := by
  induction groups generalizing table stats with
  | nil => simp
  | cons group groups ih =>
    rw [List.foldl_cons, ih, List.flatMap_cons, ← FileTable.markDeleted_append]
    -- The rest of the pass sees the table only through its entries.
    simp only [FileTable.markDeleted, cleanWorkspace_entries]

/-- The live files that a cycle looks at. -/
def liveFiles (workspaceId : Option Uuid) (table : FileTable) : List FileListEntry :=
  table.queryFiles
    { FileListFilter.default with workspaceId := workspaceId, deleted := some false }

/-- A cycle whose query succeeds marks the ids of every workspace. -/
theorem runNowScoped_entries (store : RetentionConfigStore) {env : CleanupEnv}
    (queried : env.queryFault = none) (workspaceId : Option Uuid) (table : FileTable) :
    (runNowScoped store env workspaceId table).1.entries =
      (table.markDeleted
        ((groupFirstSeen (fun file => file.workspaceId) (liveFiles workspaceId table)).flatMap
          (groupIds store env)) env.markedAtUs).entries := by
  unfold runNowScoped
  rw [queried]
  simp only
  split
  · -- Without a file there is no workspace either.
    rename_i none
    rw [liveFiles, List.isEmpty_iff.mp none]
    simp [groupFirstSeen]
  · exact foldl_cleanWorkspace_entries store env _ table _

/-- Whatever fails, a cycle does no more than mark some ids. -/
theorem runNowScoped_ids (store : RetentionConfigStore) (env : CleanupEnv)
    (workspaceId : Option Uuid) (table : FileTable) :
    ∃ ids, (runNowScoped store env workspaceId table).1.entries =
      (table.markDeleted ids env.markedAtUs).entries := by
  cases fault : env.queryFault with
  | some error => exact ⟨[], by simp [runNowScoped, fault]⟩
  | none => exact ⟨_, runNowScoped_entries store fault workspaceId table⟩

/-- A file that a cycle turns from live to deleted. -/
structure Marks (before after : FileTable) (file : FileListEntry) : Prop where
  listed : file ∈ before.entries
  live : file.deleted = false
  marked : ∃ next ∈ after.entries, next.id = file.id ∧ next.deleted = true

/-- What marking ids does to one live file. -/
theorem marks_markDeleted {table after : FileTable} {ids : List Nat} {nowUs : Int64}
    (entries : after.entries = (table.markDeleted ids nowUs).entries) {file : FileListEntry} :
    Marks table after file ↔ file ∈ table.entries ∧ file.deleted = false ∧ file.id ∈ ids := by
  constructor
  · rintro ⟨listed, live, next, member, same, deleted⟩
    refine ⟨listed, live, ?_⟩
    rw [entries] at member
    obtain ⟨source, inside, rfl⟩ := List.mem_map.mp member
    -- The entry with this id comes from the file itself, which only its mark can have deleted.
    by_cases chosen : source.id ∈ ids
    · simp only [chosen, if_true] at same
      exact same ▸ chosen
    · simp only [chosen, if_false] at same deleted
      obtain rfl := table.eq_of_id inside listed same
      rw [live] at deleted
      cases deleted
  · rintro ⟨listed, live, chosen⟩
    refine ⟨listed, live, file.markDeleted nowUs, ?_, rfl, rfl⟩
    rw [entries]
    exact List.mem_map.mpr ⟨file, listed, by simp [chosen]⟩

/-- A file is in the scope of a cycle if it is live and of the workspace that is asked for. -/
theorem mem_liveFiles {workspaceId : Option Uuid} {table : FileTable} {file : FileListEntry} :
    file ∈ liveFiles workspaceId table ↔
      file ∈ table.entries ∧ file.deleted = false ∧
        ∀ id, workspaceId = some id → file.workspaceId = id := by
  -- The filter asks for the workspace only if one is given.
  cases workspaceId with
  | none => simp [liveFiles, FileListFilter.matches, FileListFilter.default, admits]
  | some id =>
    simp only [liveFiles, FileTable.mem_queryFiles, FileListFilter.matches,
      FileListFilter.default, admits]
    grind

/-- A cycle marks exactly the files that have expired and that it gets to. -/
theorem runNowScoped_marks (store : RetentionConfigStore) (env : CleanupEnv)
    (workspaceId : Option Uuid) (table : FileTable) (file : FileListEntry) :
    Marks table (runNowScoped store env workspaceId table).1 file ↔
      file ∈ table.entries ∧ Expires store env workspaceId file := by
  cases fault : env.queryFault with
  | some error =>
    -- The table stays as it is, so that a live file in it is not deleted.
    have same : (runNowScoped store env workspaceId table).1.entries =
        (table.markDeleted [] env.markedAtUs).entries := by
      simp [runNowScoped, fault]
    rw [marks_markDeleted same]
    constructor
    · rintro ⟨_, _, chosen⟩
      cases chosen
    · rintro ⟨_, expires⟩
      rw [expires.queried] at fault
      cases fault
  | none =>
    rw [marks_markDeleted (runNowScoped_entries store fault workspaceId table)]
    have grouping := groupFirstSeen_spec (fun file : FileListEntry => file.workspaceId)
      (liveFiles workspaceId table)
    constructor
    · rintro ⟨listed, live, chosen⟩
      refine ⟨listed, ?_⟩
      obtain ⟨group, inside, chosen⟩ := List.mem_flatMap.mp chosen
      unfold groupIds at chosen
      split at chosen
      · cases chosen
      · rename_i accepted
        obtain ⟨source, held, same⟩ := List.mem_map.mp chosen
        obtain ⟨held, expired⟩ := List.mem_filter.mp held
        rw [grouping.group group inside, List.mem_filter] at held
        obtain ⟨held, keyed⟩ := held
        obtain ⟨there, _, inScope⟩ := mem_liveFiles.mp held
        obtain rfl := table.eq_of_id there listed same
        have keyed : source.workspaceId = group.1 := by simpa using keyed
        rw [← keyed] at expired accepted
        exact ⟨fault, live, inScope, by simpa using expired, accepted⟩
    · rintro ⟨listed, expires⟩
      refine ⟨listed, expires.live, ?_⟩
      have held := mem_liveFiles.mpr ⟨listed, expires.live, expires.inScope⟩
      -- The file is in the group of its workspace, and passes the filter of that group.
      obtain ⟨group, inside, keyed⟩ := List.mem_map.mp (grouping.complete file held)
      refine List.mem_flatMap.mpr ⟨group, inside, ?_⟩
      unfold groupIds
      rw [keyed, expires.accepted]
      apply List.mem_map_of_mem
      rw [grouping.group group inside, List.mem_filter, List.mem_filter]
      exact ⟨⟨held, by simp [keyed]⟩, by simpa using expires.expired⟩

end Zradar.Retention
