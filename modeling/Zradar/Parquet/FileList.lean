import Zradar.Parquet.Writer

/-! The file list: one entry per Parquet file, soft-deleted by a mark on the entry. -/

namespace Zradar.Parquet

/-- A registered file. -/
structure FileListEntry extends NewFileListEntry where
  id : Nat
  deleted : Bool

/-- Filter for querying the file list, where a missing field admits every entry. -/
structure FileListFilter where
  workspaceId : Option Uuid
  signalType : Option String
  streamName : Option String
  /-- Keeps files that end at this time or later. -/
  timeRangeStart : Option Int64
  /-- Keeps files that begin at this time or earlier. -/
  timeRangeEnd : Option Int64
  location : Option String
  deleted : Option Bool

/-- The filter that admits every entry. -/
def FileListFilter.default : FileListFilter :=
  ⟨none, none, none, none, none, none, none⟩

/-- A filter field that is missing, or one that the entry meets. -/
def admits {α : Type} (field : Option α) (meets : α → Bool) : Bool :=
  match field with
  | none => true
  | some value => meets value

/-- Whether an entry passes every field of a filter. -/
def FileListFilter.matches (filter : FileListFilter) (entry : FileListEntry) : Bool :=
  admits filter.workspaceId (fun id => entry.workspaceId = id) &&
  admits filter.signalType (fun signal => entry.signalType = signal) &&
  admits filter.streamName (fun stream => entry.streamName = stream) &&
  admits filter.timeRangeStart (fun start => start ≤ entry.maxTs) &&
  admits filter.timeRangeEnd (fun ending => entry.minTs ≤ ending) &&
  admits filter.location (fun location => entry.location = location) &&
  admits filter.deleted (fun deleted => entry.deleted = deleted)

/-- The order of a query: later files first, and among these the ones that were created later. -/
def FileListEntry.before (first second : FileListEntry) : Prop :=
  second.minTs < first.minTs ∨ second.minTs = first.minTs ∧ second.createdAt ≤ first.createdAt

instance (first second : FileListEntry) : Decidable (first.before second) :=
  inferInstanceAs (Decidable (_ ∨ _))

/-- The entry behind a mark that it is deleted. -/
def FileListEntry.markDeleted (nowUs : Int64) (entry : FileListEntry) : FileListEntry :=
  { entry with deleted := true, updatedAt := nowUs }

/-- The table of files, in which an id names one entry. -/
structure FileTable where
  entries : List FileListEntry
  distinct : (entries.map FileListEntry.id).Nodup

namespace FileTable

/-- The entries that pass a filter. -/
def queryFiles (table : FileTable) (filter : FileListFilter) : List FileListEntry :=
  (table.entries.filter filter.matches).insertionSort FileListEntry.before

/-- Mark the entries with these ids as deleted. -/
def markDeleted (table : FileTable) (ids : List Nat) (nowUs : Int64) : FileTable where
  entries := table.entries.map fun entry =>
    if entry.id ∈ ids then entry.markDeleted nowUs else entry
  distinct := by
    have same : (FileListEntry.id ∘ fun entry : FileListEntry =>
        if entry.id ∈ ids then entry.markDeleted nowUs else entry) = FileListEntry.id := by
      funext entry
      by_cases chosen : entry.id ∈ ids <;> simp [chosen, FileListEntry.markDeleted]
    rw [List.map_map, same]
    exact table.distinct

/-- Remove the entries with these ids. -/
def deleteEntries (table : FileTable) (ids : List Nat) : FileTable where
  entries := table.entries.filter fun entry => entry.id ∉ ids
  distinct := table.distinct.sublist (List.filter_sublist.map _)

/-- Record that the file of an id is somewhere else. -/
def updateLocation (table : FileTable) (id : Nat) (location newPath : String) (nowUs : Int64) :
    FileTable where
  entries := table.entries.map fun entry =>
    if entry.id = id then { entry with location, filePath := newPath, updatedAt := nowUs } else entry
  distinct := by
    have same : (FileListEntry.id ∘ fun entry : FileListEntry =>
        if entry.id = id then { entry with location, filePath := newPath, updatedAt := nowUs }
        else entry) = FileListEntry.id := by
      funext entry
      by_cases chosen : entry.id = id <;> simp [chosen]
    rw [List.map_map, same]
    exact table.distinct

@[simp] theorem mem_queryFiles {table : FileTable} {filter : FileListFilter}
    {entry : FileListEntry} :
    entry ∈ table.queryFiles filter ↔ entry ∈ table.entries ∧ filter.matches entry = true := by
  rw [queryFiles, List.mem_insertionSort, List.mem_filter]

/-- Marking nothing changes nothing. -/
@[simp] theorem markDeleted_nil (table : FileTable) (nowUs : Int64) :
    (table.markDeleted [] nowUs).entries = table.entries := by
  simp [markDeleted]

/-- Marking twice at one time is marking once. -/
theorem markDeleted_append (table : FileTable) (first second : List Nat) (nowUs : Int64) :
    ((table.markDeleted first nowUs).markDeleted second nowUs).entries =
      (table.markDeleted (first ++ second) nowUs).entries := by
  simp only [markDeleted, List.map_map]
  apply List.map_congr_left
  intro entry _
  by_cases early : entry.id ∈ first <;> by_cases late : entry.id ∈ second <;>
    simp [early, late, FileListEntry.markDeleted]

/-- An id leads back to the entry that has it. -/
theorem eq_of_id (table : FileTable) {first second : FileListEntry}
    (here : first ∈ table.entries) (there : second ∈ table.entries) (same : first.id = second.id) :
    first = second :=
  List.inj_on_of_nodup_map table.distinct here there same

end FileTable

end Zradar.Parquet
