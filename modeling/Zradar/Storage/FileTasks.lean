import Zradar.Lib.Positions
import Zradar.Parquet.DiskCache
import Zradar.Parquet.FileStore

/-! The tasks that handle files: writers, queries with their leases, the mover and the reclaimer. -/

namespace Zradar.Storage

open Parquet

/-- How many readers hold a lease on each file. -/
structure FileLeaseRegistry where
  counts : Nat → Nat

namespace FileLeaseRegistry

/-- Take a lease on each of some files. -/
def acquire (registry : FileLeaseRegistry) (ids : List Nat) : FileLeaseRegistry :=
  ⟨fun id => registry.counts id + ids.count id⟩

/-- Drop the leases on some files. -/
def release (registry : FileLeaseRegistry) (ids : List Nat) : FileLeaseRegistry :=
  ⟨fun id => registry.counts id - ids.count id⟩

/-- Whether a reader holds a lease on a file. -/
def isLeased (registry : FileLeaseRegistry) (id : Nat) : Bool := 0 < registry.counts id

end FileLeaseRegistry

/-- How far a query is with the files that it listed. -/
inductive QueryPhase where
  | listed
  /-- The leases are held, and the first files have been found on disk. -/
  | resolving (pending : List FileListEntry) (paths : List String)
  | scanning (paths : List String)
  | finished

/-- A query over the files that it listed. -/
structure FileQuery where
  rows : List FileListEntry
  phase : QueryPhase

/-- Whether a query holds leases on its files. -/
def FileQuery.holdsLeases (query : FileQuery) : Bool :=
  match query.phase with
  | .resolving _ _ | .scanning _ => true
  | .listed | .finished => false

/-- The ids on which a query holds a lease. -/
def FileQuery.leases (query : FileQuery) : List Nat :=
  if query.holdsLeases then query.rows.map FileListEntry.id else []

/-- The local files that a query has found. -/
def FileQuery.paths (query : FileQuery) : List String :=
  match query.phase with
  | .resolving _ paths | .scanning paths => paths
  | .listed | .finished => []

/-- Where a push cycle of the mover stands. -/
inductive Mover where
  | listed (files : List FileListEntry)
  | pushing (files : List FileListEntry)
  /-- The data of a file is in memory. -/
  | read (file : FileListEntry) (rest : List FileListEntry)
  /-- A file is in S3, and its entry does not say so yet. -/
  | uploaded (file : FileListEntry) (rest : List FileListEntry)
  | finished

/-- The files that a push cycle has still to do with. -/
def Mover.files : Mover → List FileListEntry
  | .listed files | .pushing files => files
  | .read file rest | .uploaded file rest => file :: rest
  | .finished => []

/-- Where a cycle of the reclaimer stands. -/
structure Reclaimer where
  /-- A file without a lease, whose bytes are removed next. -/
  checked : Option FileListEntry
  files : List FileListEntry
  /-- The files of the workspace whose bytes are gone. -/
  removed : List FileListEntry
  /-- The files of the other workspaces. -/
  groups : List (List FileListEntry)

/-- The files that a cycle has still to look at. -/
def Reclaimer.pending (reclaimer : Reclaimer) : List FileListEntry :=
  reclaimer.checked.toList ++ reclaimer.files ++ reclaimer.groups.flatten

/-- The bucket for objects, and the keys of local files in it. -/
structure ObjectStorage where
  bucket : String
  plain : '/' ∉ bucket.toList
  s3KeyForLocalFile : String → String

/-- The URL that an upload returns. -/
def ObjectStorage.s3Url (storage : ObjectStorage) (key : String) : String :=
  "s3://" ++ storage.bucket ++ "/" ++ key

/-- The file list, the copies of files, and the tasks of the process. -/
structure FileTasks where
  store : FileStore
  /-- The names of all local files that were ever made. -/
  names : List String
  localFiles : List String
  /-- The keys of the objects in S3. -/
  objects : List String
  registry : FileLeaseRegistry
  /-- The files that are written and not registered. -/
  writes : List (NewFileListEntry × IngestBatch)
  queries : List FileQuery
  movers : List Mover
  /-- The local copies that are deleted after a delay. -/
  deletions : List String
  reclaimers : List Reclaimer

/-- One step of one of the tasks. -/
inductive FileLabel where
  /-- A writer or the compactor finishes a file. -/
  | write (entry : NewFileListEntry) (data : IngestBatch)
  | register (position : Nat) (succeeds : Bool)
  /-- The compactor or retention retires files. -/
  | markDeleted (ids : List Nat) (nowUs : Int64)
  /-- A query lists its files. -/
  | list (filter : FileListFilter)
  | query (position : Nat)
  | finish (position : Nat)
  /-- A push cycle lists the files that are old enough. -/
  | push (cutoffUs : Int64)
  | mover (position : Nat) (succeeds : Bool) (nowUs : Int64)
  /-- The delay of a local copy is over. -/
  | deleteLocal (position : Nat) (succeeds : Bool)
  /-- A cycle of the reclaimer lists the deleted files, workspace after workspace. -/
  | sweep (workspaceId : Option Uuid) (workspaces : List WorkspaceId)
  | reclaimer (position : Nat) (succeeds : Bool)
  /-- The process stops and starts again, without its tasks. -/
  | restart

section

variable (storage : ObjectStorage) (state : FileTasks)

/-- The next step of a query. -/
def queryStep (query : FileQuery) : Option (FileLeaseRegistry × FileQuery) :=
  match query.phase with
  | .listed =>
    some (state.registry.acquire (query.rows.map FileListEntry.id),
      { query with phase := .resolving query.rows [] })
  | .resolving (row :: pending) paths =>
    -- A file in S3 is read through the cache, and a missing local file is skipped.
    if row.location ≠ "s3" ∧ row.filePath ∈ state.localFiles then
      some (state.registry, { query with phase := .resolving pending (paths ++ [row.filePath]) })
    else some (state.registry, { query with phase := .resolving pending paths })
  | .resolving [] paths => some (state.registry, { query with phase := .scanning paths })
  | .scanning _ | .finished => none

/-- The next step of a push cycle. -/
def moverStep (position : Nat) (succeeds : Bool) (nowUs : Int64) : Mover → Option FileTasks
  | .listed files =>
    some { state with
      movers := state.movers.set position
        (.pushing (files.filter fun file => !state.registry.isLeased file.id)) }
  | .pushing (file :: rest) =>
    if succeeds ∧ file.filePath ∈ state.localFiles then
      some { state with movers := state.movers.set position (.read file rest) }
    else some { state with movers := state.movers.set position (.pushing rest) }
  | .read file rest =>
    if succeeds then
      some { state with
        objects := storage.s3KeyForLocalFile file.filePath :: state.objects
        movers := state.movers.set position (.uploaded file rest) }
    else some { state with movers := state.movers.set position (.pushing rest) }
  | .uploaded file rest =>
    if succeeds then
      some { state with
        store := state.store.updateLocation file.id "s3"
          (storage.s3Url (storage.s3KeyForLocalFile file.filePath)) nowUs
        deletions := state.deletions ++ [file.filePath]
        movers := state.movers.set position (.pushing rest) }
    -- The error ends the cycle.
    else some { state with movers := state.movers.set position .finished }
  | .pushing [] => some { state with movers := state.movers.set position .finished }
  | .finished => none

/-- The next step of a cycle of the reclaimer. -/
def reclaimerStep (position : Nat) (succeeds : Bool) (reclaimer : Reclaimer) : Option FileTasks :=
  match reclaimer.checked, reclaimer.files with
  | some file, _ =>
    -- The bytes are removed, and an object or a file that is not there counts as removed.
    if succeeds then
      let next := { reclaimer with checked := none, removed := reclaimer.removed ++ [file] }
      if file.location = "s3" then
        some { state with
          objects := state.objects.filter fun key => key ≠ extractS3Key file.filePath
          reclaimers := state.reclaimers.set position next }
      else
        some { state with
          localFiles := state.localFiles.filter fun path => path ≠ file.filePath
          reclaimers := state.reclaimers.set position next }
    else some { state with
      reclaimers := state.reclaimers.set position { reclaimer with checked := none } }
  | none, file :: files =>
    let checked := if state.registry.isLeased file.id then none else some file
    some { state with
      reclaimers := state.reclaimers.set position
        { reclaimer with checked := checked, files := files } }
  | none, [] =>
    -- The entries of the workspace are deleted together.
    if reclaimer.removed = [] ∧ reclaimer.groups = [] then none
    else
      let next : Reclaimer := ⟨none, reclaimer.groups.headD [], [], reclaimer.groups.tail⟩
      let store := if succeeds then
          state.store.deleteEntries (reclaimer.removed.map FileListEntry.id)
        else state.store
      some { state with store, reclaimers := state.reclaimers.set position next }

/-- One step of the tasks. -/
def fileStep : FileLabel → Option FileTasks
  | .write entry data =>
    -- The names of new files are random.
    if entry.location = "local" ∧ entry.filePath ∉ state.names then
      some { state with
        names := entry.filePath :: state.names
        localFiles := entry.filePath :: state.localFiles
        writes := state.writes ++ [(entry, data)] }
    else none
  | .register position succeeds =>
    state.writes[position]?.map fun write =>
      { state with
        store := if succeeds then state.store.register write.1 write.2 else state.store
        writes := state.writes.eraseIdx position }
  | .markDeleted ids nowUs => some { state with store := state.store.markDeleted ids nowUs }
  | .list filter =>
    let rows := state.store.table.queryFiles { filter with deleted := some false }
    some { state with queries := state.queries ++ [⟨rows, .listed⟩] }
  | .query position =>
    state.queries[position]?.bind fun query => (queryStep state query).map fun next =>
      { state with registry := next.1, queries := state.queries.set position next.2 }
  | .finish position =>
    state.queries[position]?.map fun query =>
      { state with
        registry := state.registry.release query.leases
        queries := state.queries.set position { query with phase := .finished } }
  | .push cutoffUs =>
    let files := state.store.table.queryFiles
      { FileListFilter.default with location := some "local", deleted := some false }
    some { state with
      movers := state.movers ++ [.listed (files.filter fun file => file.createdAt ≤ cutoffUs)] }
  | .mover position succeeds nowUs =>
    state.movers[position]?.bind (moverStep storage state position succeeds nowUs)
  | .deleteLocal position succeeds =>
    state.deletions[position]?.map fun path =>
      { state with
        localFiles := if succeeds then state.localFiles.filter fun file => file ≠ path
          else state.localFiles
        deletions := state.deletions.eraseIdx position }
  | .sweep workspaceId workspaces =>
    let rows := state.store.table.queryFiles
      { FileListFilter.default with workspaceId, deleted := some true }
    if workspaces.Nodup ∧ ∀ row ∈ rows, row.workspaceId ∈ workspaces then
      some { state with
        reclaimers := state.reclaimers ++ [⟨none, [], [], workspaces.map fun workspace =>
          rows.filter fun row => row.workspaceId = workspace⟩] }
    else none
  | .reclaimer position succeeds =>
    state.reclaimers[position]?.bind (reclaimerStep state position succeeds)
  | .restart =>
    some { state with
      registry := ⟨fun _ => 0⟩
      writes := []
      queries := []
      movers := []
      deletions := []
      reclaimers := [] }

end

/-- No files and no tasks. -/
def initialTasks : FileTasks where
  store := .empty
  names := []
  localFiles := []
  objects := []
  registry := ⟨fun _ => 0⟩
  writes := []
  queries := []
  movers := []
  deletions := []
  reclaimers := []

/--
An entry names a copy of the file that was registered under its id,
where the paths are those of the registered files in the order of their ids.
-/
def Fits (storage : ObjectStorage) (paths : List String) (entry : FileListEntry) : Prop :=
  ∃ path, paths[entry.id]? = some path ∧
    (entry.location = "s3" ∧ entry.filePath = storage.s3Url (storage.s3KeyForLocalFile path) ∨
      entry.location = "local" ∧ entry.filePath = path)

/-- Every entry that is listed anywhere names a copy of the file of its id. -/
structure Named (storage : ObjectStorage) (paths : List String) (state : FileTasks) : Prop where
  size : paths.length = state.store.nextId
  distinct : (paths ++ state.writes.map fun write => write.1.filePath).Nodup
  known : ∀ path ∈ paths ++ state.writes.map (fun write => write.1.filePath), path ∈ state.names
  written : ∀ write ∈ state.writes, write.1.location = "local"
  table : ∀ entry ∈ state.store.table.entries, Fits storage paths entry
  queries : ∀ query ∈ state.queries, ∀ entry ∈ query.rows, Fits storage paths entry
  movers : ∀ mover ∈ state.movers, ∀ entry ∈ mover.files,
    Fits storage paths entry ∧ entry.location = "local"
  reclaimers : ∀ reclaimer ∈ state.reclaimers,
    ∀ entry ∈ reclaimer.pending ++ reclaimer.removed, Fits storage paths entry

section

variable {storage : ObjectStorage} {paths : List String} {state next : FileTasks}

theorem forall_mem_set {α : Type} {values : List α} {holds : α → Prop} {value : α} {position : Nat}
    (each : ∀ old ∈ values, holds old) (new : holds value) :
    ∀ other ∈ values.set position value, holds other := by
  intro other member
  obtain old | rfl := List.mem_or_eq_of_mem_set member
  · exact each other old
  · exact new

theorem forall_mem_append_one {α : Type} {values : List α} {holds : α → Prop} {value : α}
    (each : ∀ old ∈ values, holds old) (new : holds value) :
    ∀ other ∈ values ++ [value], holds other :=
  List.forall_mem_append.mpr ⟨each, List.forall_mem_singleton.mpr new⟩

theorem Fits.append {entry : FileListEntry} (fits : Fits storage paths entry) (more : List String) :
    Fits storage (paths ++ more) entry := by
  obtain ⟨path, listed, copy⟩ := fits
  exact ⟨path, by rw [List.getElem?_append_left (List.getElem?_eq_some_iff.mp listed).1, listed], copy⟩

/-- A local entry has the path that was registered under its id. -/
theorem Fits.localPath {entry : FileListEntry} (fits : Fits storage paths entry)
    (isLocal : entry.location ≠ "s3") :
    entry.location = "local" ∧ paths[entry.id]? = some entry.filePath := by
  obtain ⟨path, listed, ⟨moved, _⟩ | ⟨here, same⟩⟩ := fits
  · exact absurd moved isLocal
  · exact ⟨here, same ▸ listed⟩

/-- Local entries with one path have one id. -/
theorem Named.id_eq (named : Named storage paths state) {first second : FileListEntry}
    (one : Fits storage paths first) (two : Fits storage paths second)
    (firstLocal : first.location ≠ "s3") (secondLocal : second.location ≠ "s3")
    (same : first.filePath = second.filePath) : first.id = second.id := by
  -- Paths are given out once, and the id of a file is the place of its path.
  have here := (one.localPath firstLocal).2
  have there := (two.localPath secondLocal).2
  rw [← same] at there
  have distinct := (List.nodup_append.mp named.distinct).1
  have inside := (List.getElem?_eq_some_iff.mp here).1
  exact (List.getElem?_inj inside distinct).mp (here.trans there.symm)

/-- A changed entry fits if it has the id, the location and the path of one that fits. -/
theorem Fits.congr {entry other : FileListEntry} (fits : Fits storage paths entry)
    (id : other.id = entry.id) (location : other.location = entry.location)
    (path : other.filePath = entry.filePath) : Fits storage paths other := by
  unfold Fits
  rw [id, location, path]
  exact fits

theorem initialTasks_named (storage : ObjectStorage) : Named storage [] initialTasks where
  size := rfl
  distinct := List.nodup_nil
  known := List.forall_mem_nil _
  written := List.forall_mem_nil _
  table := List.forall_mem_nil _
  queries := List.forall_mem_nil _
  movers := List.forall_mem_nil _
  reclaimers := List.forall_mem_nil _

/-- What a step of a push cycle does. -/
inductive MoverEffect (storage : ObjectStorage) (state : FileTasks) (position : Nat)
    (succeeds : Bool) (nowUs : Int64) : Mover → FileTasks → Prop where
  /-- The cycle goes on with some of its files. -/
  | moves (mover after : Mover) (fewer : ∀ file ∈ after.files, file ∈ mover.files)
      (idle : ∀ file rest, mover ≠ .uploaded file rest) :
    MoverEffect storage state position succeeds nowUs mover
      { state with movers := state.movers.set position after }
  | uploads (file : FileListEntry) (rest : List FileListEntry) :
    MoverEffect storage state position succeeds nowUs (.read file rest)
      { state with
        objects := storage.s3KeyForLocalFile file.filePath :: state.objects
        movers := state.movers.set position (.uploaded file rest) }
  /-- The entry of the file leads to the object. -/
  | records (file : FileListEntry) (rest : List FileListEntry) :
    MoverEffect storage state position succeeds nowUs (.uploaded file rest)
      { state with
        store := state.store.updateLocation file.id "s3"
          (storage.s3Url (storage.s3KeyForLocalFile file.filePath)) nowUs
        deletions := state.deletions ++ [file.filePath]
        movers := state.movers.set position (.pushing rest) }
  /-- The entry could not be changed. -/
  | stops (file : FileListEntry) (rest : List FileListEntry) (failed : succeeds = false) :
    MoverEffect storage state position succeeds nowUs (.uploaded file rest)
      { state with movers := state.movers.set position .finished }

theorem moverStep_effect {position : Nat} {succeeds : Bool} {nowUs : Int64} {mover : Mover}
    (stepped : moverStep storage state position succeeds nowUs mover = some next) :
    MoverEffect storage state position succeeds nowUs mover next := by
  cases mover with
  | listed files =>
    cases stepped
    exact .moves _ _ (fun file member => List.mem_of_mem_filter member) (fun _ _ => nofun)
  | pushing files =>
    cases files with
    | nil =>
      cases stepped
      exact .moves _ _ (List.forall_mem_nil _) (fun _ _ => nofun)
    | cons file rest =>
      simp only [moverStep] at stepped
      -- The data of the file is read, or the file is skipped.
      split_ifs at stepped
      · cases stepped
        exact .moves _ _ (fun file member => member) (fun _ _ => nofun)
      · cases stepped
        exact .moves _ _ (fun file member => List.mem_cons_of_mem _ member) (fun _ _ => nofun)
  | read file rest =>
    simp only [moverStep] at stepped
    split_ifs at stepped
    · cases stepped
      exact .uploads file rest
    · cases stepped
      exact .moves _ _ (fun file member => List.mem_cons_of_mem _ member) (fun _ _ => nofun)
  | uploaded file rest =>
    simp only [moverStep] at stepped
    split_ifs at stepped with succeeded
    · cases stepped
      exact .records file rest
    · cases stepped
      exact .stops file rest (Bool.eq_false_iff.mpr succeeded)
  | finished => cases stepped

/-- A step of a push cycle leaves files of the cycle, and an entry that it moves is renamed. -/
theorem named_moverStep (named : Named storage paths state) {position : Nat} {succeeds : Bool}
    {nowUs : Int64} {mover : Mover} (found : state.movers[position]? = some mover)
    (stepped : moverStep storage state position succeeds nowUs mover = some next) :
    Named storage paths next := by
  have own := named.movers mover (List.mem_of_getElem? found)
  cases moverStep_effect stepped with
  | moves mover after fewer idle =>
    exact { named with
      movers := forall_mem_set named.movers fun entry member => own entry (fewer entry member) }
  | uploads file rest => exact { named with movers := forall_mem_set named.movers own }
  | records file rest =>
    obtain ⟨⟨fits, isLocal⟩, others⟩ := List.forall_mem_cons.mp own
    refine { named with table := ?_, movers := forall_mem_set named.movers others }
    -- The URL is that of the path that was registered under the id.
    intro entry member
    obtain ⟨old, listed, rfl⟩ := List.mem_map.mp member
    split_ifs with moved
    · have path := (fits.localPath (by rw [isLocal]; decide)).2
      exact ⟨file.filePath, by rw [← path, ← moved], .inl ⟨rfl, rfl⟩⟩
    · exact named.table old listed
  | stops file rest failed =>
    exact { named with movers := forall_mem_set named.movers (List.forall_mem_nil _) }

/-- A step of the reclaimer leaves files of its cycle and entries of the table. -/
theorem named_reclaimerStep (named : Named storage paths state) {position : Nat} {succeeds : Bool}
    {reclaimer : Reclaimer} (found : state.reclaimers[position]? = some reclaimer)
    (stepped : reclaimerStep state position succeeds reclaimer = some next) :
    Named storage paths next := by
  -- What a reclaimer holds fits, so what it moves along from one list to another fits as well.
  have own := named.reclaimers reclaimer (List.mem_of_getElem? found)
  obtain ⟨checked, files, removed, groups⟩ := reclaimer
  simp only [Reclaimer.pending, List.forall_mem_append] at own
  obtain ⟨⟨⟨ownChecked, ownFiles⟩, ownGroups⟩, ownRemoved⟩ := own
  cases checked with
  -- The checked file is removed, or it could not be.
  | some file =>
    have ownFile : Fits storage paths file := ownChecked file (List.mem_singleton.mpr rfl)
    simp only [reclaimerStep] at stepped
    have next' : ∀ entry ∈ Reclaimer.pending ⟨none, files, removed ++ [file], groups⟩ ++
        (removed ++ [file]), Fits storage paths entry := by
      simp only [Reclaimer.pending, List.forall_mem_append, Option.toList_none]
      exact ⟨⟨⟨List.forall_mem_nil _, ownFiles⟩, ownGroups⟩, ownRemoved,
        List.forall_mem_singleton.mpr ownFile⟩
    split_ifs at stepped
    · cases stepped
      exact { named with reclaimers := forall_mem_set named.reclaimers next' }
    · cases stepped
      exact { named with reclaimers := forall_mem_set named.reclaimers next' }
    · cases stepped
      refine { named with reclaimers := forall_mem_set named.reclaimers ?_ }
      simp only [Reclaimer.pending, List.forall_mem_append, Option.toList_none]
      exact ⟨⟨⟨List.forall_mem_nil _, ownFiles⟩, ownGroups⟩, ownRemoved⟩
  | none =>
    cases files with
    -- The next file is checked, and held only if no reader has it.
    | cons file files =>
      obtain ⟨ownFile, ownRest⟩ := List.forall_mem_cons.mp ownFiles
      cases stepped
      refine { named with reclaimers := forall_mem_set named.reclaimers ?_ }
      simp only [Reclaimer.pending, List.forall_mem_append]
      refine ⟨⟨⟨?_, ownRest⟩, ownGroups⟩, ownRemoved⟩
      split_ifs
      · exact List.forall_mem_nil _
      · exact List.forall_mem_singleton.mpr ownFile
    -- The group is done: its rows are dropped, and the next group is begun.
    | nil =>
      have rest : ∀ entry ∈ Reclaimer.pending ⟨none, groups.headD [], [], groups.tail⟩ ++ [],
          Fits storage paths entry := by
        rw [List.append_nil, Reclaimer.pending, Option.toList_none, List.nil_append]
        cases groups with
        | nil => exact List.forall_mem_nil _
        | cons group groups => exact ownGroups
      simp only [reclaimerStep] at stepped
      split_ifs at stepped
      all_goals
        cases stepped
        refine { named with
          size := ?_, table := ?_, reclaimers := forall_mem_set named.reclaimers rest }
      · exact named.size
      · exact fun entry member => named.table entry (List.mem_of_mem_filter member)
      · exact named.size
      · exact named.table

/-- The rows of a query stay the same. -/
theorem queryStep_rows {query : FileQuery} {after : FileLeaseRegistry × FileQuery}
    (stepped : queryStep state query = some after) : after.2.rows = query.rows := by
  -- A query keeps the rows it has listed in every phase.
  unfold queryStep at stepped
  split at stepped
  · cases stepped
    rfl
  · split_ifs at stepped
    · cases stepped
      rfl
    · cases stepped
      rfl
  · cases stepped
    rfl
  · cases stepped
  · cases stepped

/-- A file that is registered gets the next id. -/
theorem named_register (named : Named storage paths state) {position : Nat}
    {write : NewFileListEntry × IngestBatch} (found : state.writes[position]? = some write) :
    Named storage (paths ++ [write.1.filePath])
      { state with
        store := state.store.register write.1 write.2
        writes := state.writes.eraseIdx position } := by
  have member := List.mem_of_getElem? found
  -- The names of the files are the same ones in another order.
  have order : (paths ++ [write.1.filePath] ++
      (state.writes.eraseIdx position).map fun write => write.1.filePath).Perm
      (paths ++ state.writes.map fun write => write.1.filePath) := by
    rw [List.append_assoc]
    refine List.Perm.append_left paths ?_
    exact (taken_perm found).map fun write => write.1.filePath
  refine
    { size := ?_, distinct := order.nodup_iff.mpr named.distinct
      known := fun path listed => named.known path (order.mem_iff.mp listed)
      written := fun other listed => named.written other (List.mem_of_mem_eraseIdx listed)
      table := ?_
      queries := fun query listed entry row => (named.queries query listed entry row).append _
      movers := fun mover listed entry file =>
        ⟨(named.movers mover listed entry file).1.append _, (named.movers mover listed entry file).2⟩
      reclaimers := fun reclaimer listed entry file =>
        (named.reclaimers reclaimer listed entry file).append _ }
  · show (paths ++ [write.1.filePath]).length = state.store.nextId + 1
    rw [List.length_append, named.size]
    rfl
  · refine forall_mem_append_one (fun entry listed => (named.table entry listed).append _) ?_
    refine ⟨write.1.filePath, ?_, .inr ⟨named.written write member, rfl⟩⟩
    show (paths ++ [write.1.filePath])[state.store.nextId]? = some write.1.filePath
    rw [← named.size, List.getElem?_append_right (Nat.le_refl _), Nat.sub_self]
    rfl

/-- Every step keeps the names, with the paths of files that it registers behind the others. -/
theorem named_fileStep (named : Named storage paths state) {label : FileLabel}
    (stepped : fileStep storage state label = some next) :
    ∃ more, Named storage (paths ++ more) next := by
  -- Only a registration adds a path; all other steps keep the list as it is.
  suffices same : (∃ more, Named storage (paths ++ more) next) ∨ Named storage paths next by
    obtain found | named := same
    · exact found
    · exact ⟨[], by rwa [List.append_nil]⟩
  cases label with
  -- The path of a write is new, so it is apart from all others.
  | write entry data =>
    simp only [fileStep] at stepped
    split_ifs at stepped with fresh
    cases stepped
    right
    have apart : entry.filePath ∉ paths ++ state.writes.map fun write => write.1.filePath :=
      fun listed => fresh.2 (named.known _ listed)
    refine { named with distinct := ?_, known := ?_, written := ?_ }
    · rw [List.map_append, ← List.append_assoc]
      exact List.nodup_append_comm.mp (List.nodup_cons.mpr ⟨apart, named.distinct⟩)
    · rw [List.map_append, ← List.append_assoc]
      refine forall_mem_append_one (fun path listed => ?_) (List.mem_cons_self)
      exact List.mem_cons_of_mem _ (named.known path listed)
    · exact forall_mem_append_one named.written fresh.1
  -- A failed registration forgets the write.
  | register position succeeds =>
    simp only [fileStep] at stepped
    obtain ⟨write, found, rfl⟩ := Option.map_eq_some_iff.mp stepped
    cases succeeds with
    | true => exact .inl ⟨_, named_register named found⟩
    | false =>
      right
      have part : (paths ++ (state.writes.eraseIdx position).map fun write => write.1.filePath).Sublist
          (paths ++ state.writes.map fun write => write.1.filePath) :=
        List.Sublist.append_left ((List.eraseIdx_sublist _ _).map _) paths
      exact { named with
        distinct := named.distinct.sublist part
        known := fun path listed => named.known path (part.subset listed)
        written := fun other listed => named.written other (List.mem_of_mem_eraseIdx listed) }
  -- A mark changes neither the path nor the location.
  | markDeleted ids nowUs =>
    cases stepped
    right
    refine { named with table := ?_ }
    intro entry member
    obtain ⟨old, listed, rfl⟩ := List.mem_map.mp member
    split_ifs
    · exact (named.table old listed).congr rfl rfl rfl
    · exact named.table old listed
  -- The rows of a query are rows of the table.
  | list filter =>
    cases stepped
    right
    refine { named with queries := forall_mem_append_one named.queries fun entry row => ?_ }
    exact named.table entry (FileTable.mem_queryFiles.mp row).1
  | query position =>
    simp only [fileStep] at stepped
    obtain ⟨query, found, stepped⟩ := Option.bind_eq_some_iff.mp stepped
    obtain ⟨after, moved, rfl⟩ := Option.map_eq_some_iff.mp stepped
    right
    refine { named with queries := forall_mem_set named.queries ?_ }
    rw [queryStep_rows moved]
    exact named.queries query (List.mem_of_getElem? found)
  | finish position =>
    simp only [fileStep] at stepped
    obtain ⟨query, found, rfl⟩ := Option.map_eq_some_iff.mp stepped
    right
    exact { named with
      queries := forall_mem_set named.queries (named.queries query (List.mem_of_getElem? found)) }
  -- The filter of the mover lists local files only.
  | push cutoffUs =>
    cases stepped
    right
    refine { named with movers := forall_mem_append_one named.movers fun entry file => ?_ }
    obtain ⟨listed, passes⟩ := FileTable.mem_queryFiles.mp (List.mem_of_mem_filter file)
    refine ⟨named.table entry listed, ?_⟩
    simp only [FileListFilter.matches, admits, FileListFilter.default, Bool.and_eq_true,
      decide_eq_true_eq] at passes
    exact passes.1.2
  | mover position succeeds nowUs =>
    simp only [fileStep] at stepped
    obtain ⟨mover, found, stepped⟩ := Option.bind_eq_some_iff.mp stepped
    exact .inr (named_moverStep named found stepped)
  | deleteLocal position succeeds =>
    simp only [fileStep] at stepped
    obtain ⟨path, _, rfl⟩ := Option.map_eq_some_iff.mp stepped
    exact .inr { named with }
  -- The rows of a sweep are rows of the table.
  | sweep workspaceId workspaces =>
    simp only [fileStep] at stepped
    split_ifs at stepped
    cases stepped
    right
    refine { named with reclaimers := forall_mem_append_one named.reclaimers fun entry file => ?_ }
    simp only [Reclaimer.pending, Option.toList_none, List.append_nil, List.nil_append,
      List.mem_flatten, List.mem_map] at file
    obtain ⟨_, ⟨workspace, _, rfl⟩, row⟩ := file
    exact named.table entry (FileTable.mem_queryFiles.mp (List.mem_of_mem_filter row)).1
  | reclaimer position succeeds =>
    simp only [fileStep] at stepped
    obtain ⟨reclaimer, found, stepped⟩ := Option.bind_eq_some_iff.mp stepped
    exact .inr (named_reclaimerStep named found stepped)
  -- Nothing is under way after a restart.
  | restart =>
    cases stepped
    right
    have part : (paths ++ []).Sublist
        (paths ++ state.writes.map fun write : NewFileListEntry × IngestBatch => write.1.filePath) :=
      List.Sublist.append_left (List.nil_sublist _) paths
    exact { named with
      distinct := named.distinct.sublist part
      known := fun path listed => named.known path (part.subset listed)
      written := List.forall_mem_nil _
      queries := List.forall_mem_nil _
      movers := List.forall_mem_nil _
      reclaimers := List.forall_mem_nil _ }

end

theorem bucketName_plain : '/' ∉ "zradar".toList := by decide

/-- A bucket in which files are kept under their local paths. -/
def plainStorage : ObjectStorage where
  bucket := "zradar"
  plain := bucketName_plain
  s3KeyForLocalFile path := path

/-- An entry for one local file. -/
def sampleEntry : NewFileListEntry where
  workspaceId := Uuid.nil
  signalType := "traces"
  streamName := "api"
  date := "2025/01/01/00"
  filePath := "/data/a.parquet"
  location := "local"
  minTs := 0
  maxTs := 0
  records := 0
  originalSize := 0
  compressedSize := 0
  createdAt := 0
  updatedAt := 0
  walReplayOffset := none

end Zradar.Storage
