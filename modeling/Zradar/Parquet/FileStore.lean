import Zradar.Parquet.FileList

/-! Registered files with what they hold, and the rows that a query can see in them. -/

namespace Zradar.Parquet

/-- The file list with the contents of its files, where ids are handed out in order. -/
structure FileStore where
  table : FileTable
  /-- What the file of each entry holds. -/
  contents : Nat → IngestBatch
  nextId : Nat
  fresh : ∀ entry ∈ table.entries, entry.id < nextId

namespace FileStore

/-- A store without files. -/
def empty : FileStore := ⟨⟨[], List.nodup_nil⟩, fun _ => .spans [], 0, List.forall_mem_nil _⟩

/-- The entries that are not deleted. -/
def liveEntries (store : FileStore) : List FileListEntry :=
  store.table.entries.filter fun entry => !entry.deleted

/-- The ids of the entries that are not deleted. -/
def liveIds (store : FileStore) : List Nat :=
  store.liveEntries.map FileListEntry.id

/-- The rows of the file of an id. -/
def rowsOf (store : FileStore) (id : Nat) : List AnyRow :=
  (store.contents id).rows

/-- The rows that queries see: those in the files that are not deleted. -/
def visibleRows (store : FileStore) : List AnyRow :=
  store.liveIds.flatMap store.rowsOf

/-- Insert an entry for a file, under the next id. -/
def register (store : FileStore) (entry : NewFileListEntry) (data : IngestBatch) : FileStore where
  table :=
    { entries := store.table.entries ++
        [{ toNewFileListEntry := entry, id := store.nextId, deleted := false }]
      distinct := by
        rw [List.map_append, List.nodup_append]
        refine ⟨store.table.distinct, by simp, ?_⟩
        intro id listed other last same
        obtain ⟨old, member, rfl⟩ := List.mem_map.mp listed
        have bound := store.fresh old member
        simp only [List.map_cons, List.map_nil, List.mem_singleton] at last
        omega }
  contents := Function.update store.contents store.nextId data
  nextId := store.nextId + 1
  fresh := by
    intro old listed
    rcases List.mem_append.mp listed with before | last
    · exact Nat.lt_succ_of_lt (store.fresh old before)
    · rw [List.mem_singleton.mp last]
      exact Nat.lt_succ_self _

/-- Insert an entry for each of some files. -/
def registerAll (store : FileStore) (files : List (NewFileListEntry × IngestBatch)) : FileStore :=
  files.foldl (fun store file => store.register file.1 file.2) store

/-- Mark the entries with these ids as deleted. -/
def markDeleted (store : FileStore) (ids : List Nat) (nowUs : Int64) : FileStore where
  table := store.table.markDeleted ids nowUs
  contents := store.contents
  nextId := store.nextId
  fresh := by
    intro entry listed
    obtain ⟨old, member, rfl⟩ := List.mem_map.mp listed
    have bound := store.fresh old member
    by_cases chosen : old.id ∈ ids
    · simpa [chosen, FileListEntry.markDeleted] using bound
    · simpa [chosen] using bound

/-- Remove the entries with these ids. -/
def deleteEntries (store : FileStore) (ids : List Nat) : FileStore where
  table := store.table.deleteEntries ids
  contents := store.contents
  nextId := store.nextId
  fresh := fun entry listed => store.fresh entry (List.mem_of_mem_filter listed)

/-- Record that the file of an id is somewhere else. -/
def updateLocation (store : FileStore) (id : Nat) (location newPath : String) (nowUs : Int64) :
    FileStore where
  table := store.table.updateLocation id location newPath nowUs
  contents := store.contents
  nextId := store.nextId
  fresh := by
    intro entry listed
    obtain ⟨old, member, rfl⟩ := List.mem_map.mp listed
    have bound := store.fresh old member
    by_cases chosen : old.id = id
    · simpa [chosen] using bound
    · simpa [chosen] using bound

variable (store : FileStore)

theorem mem_liveEntries {entry : FileListEntry} :
    entry ∈ store.liveEntries ↔ entry ∈ store.table.entries ∧ entry.deleted = false := by
  simp [liveEntries]

/-- A live id names one entry. -/
theorem liveIds_nodup : store.liveIds.Nodup :=
  store.table.distinct.sublist (List.filter_sublist.map _)

theorem liveIds_lt {id : Nat} (live : id ∈ store.liveIds) : id < store.nextId := by
  obtain ⟨entry, listed, rfl⟩ := List.mem_map.mp live
  exact store.fresh entry (store.mem_liveEntries.mp listed).1

@[simp] theorem liveEntries_register (entry : NewFileListEntry) (data : IngestBatch) :
    (store.register entry data).liveEntries = store.liveEntries ++
      [{ toNewFileListEntry := entry, id := store.nextId, deleted := false }] := by
  simp [liveEntries, register]

@[simp] theorem liveIds_register (entry : NewFileListEntry) (data : IngestBatch) :
    (store.register entry data).liveIds = store.liveIds ++ [store.nextId] := by
  simp [liveIds]

/-- The new file holds its data. -/
@[simp] theorem rowsOf_register_self (entry : NewFileListEntry) (data : IngestBatch) :
    (store.register entry data).rowsOf store.nextId = data.rows := by
  simp [rowsOf, register]

/-- The old files hold what they held. -/
theorem rowsOf_register_of_lt (entry : NewFileListEntry) (data : IngestBatch) {id : Nat}
    (old : id < store.nextId) : (store.register entry data).rowsOf id = store.rowsOf id := by
  have other : id ≠ store.nextId := by omega
  simp [rowsOf, register, other]

/-- What holds of the live files and of a new one holds of all when that one is registered. -/
theorem forall_mem_liveEntries_register (holds : NewFileListEntry → List AnyRow → Prop)
    (held : ∀ entry ∈ store.liveEntries,
      holds entry.toNewFileListEntry (store.rowsOf entry.id))
    {entry : NewFileListEntry} {data : IngestBatch} (own : holds entry data.rows) :
    ∀ other ∈ (store.register entry data).liveEntries,
      holds other.toNewFileListEntry ((store.register entry data).rowsOf other.id) := by
  -- Earlier files keep their rows, so only the new one is looked at.
  intro other listed
  rw [liveEntries_register] at listed
  rcases List.mem_append.mp listed with old | last
  · have live : other.id < store.nextId := store.liveIds_lt (List.mem_map_of_mem old)
    rw [store.rowsOf_register_of_lt entry data live]
    exact held other old
  · rw [List.mem_singleton.mp last, rowsOf_register_self]
    exact own

/-- What every registration keeps holds when all of some files are registered. -/
theorem registerAll_keeps {holds : FileStore → Prop} {store : FileStore} (start : holds store)
    {files : List (NewFileListEntry × IngestBatch)}
    (keeps : ∀ store, holds store → ∀ file ∈ files, holds (store.register file.1 file.2)) :
    holds (store.registerAll files) :=
  List.foldlRecOn files _ start keeps

/-- A registered file adds its rows to what is visible. -/
theorem visibleRows_register (entry : NewFileListEntry) (data : IngestBatch) :
    (store.register entry data).visibleRows = store.visibleRows ++ data.rows := by
  -- The new file comes last, and the earlier ones keep their rows.
  unfold visibleRows
  rw [liveIds_register, List.flatMap_append, List.flatMap_singleton, rowsOf_register_self]
  congr 1
  apply List.flatMap_congr
  intro id live
  exact store.rowsOf_register_of_lt entry data (store.liveIds_lt live)

theorem visibleRows_registerAll (files : List (NewFileListEntry × IngestBatch)) :
    (store.registerAll files).visibleRows =
      store.visibleRows ++ files.flatMap fun file => file.2.rows := by
  unfold registerAll
  induction files generalizing store with
  | nil => simp
  | cons file files ih =>
    rw [List.foldl_cons, ih, visibleRows_register, List.flatMap_cons, List.append_assoc]

/-- A mark takes the marked entries, and no others. -/
theorem mem_liveEntries_markDeleted {ids : List Nat} {nowUs : Int64} {entry : FileListEntry} :
    entry ∈ (store.markDeleted ids nowUs).liveEntries ↔
      entry ∈ store.liveEntries ∧ entry.id ∉ ids := by
  -- Marking changes chosen entries only, and these are no longer live.
  rw [mem_liveEntries, mem_liveEntries]
  simp only [markDeleted, FileTable.markDeleted, List.mem_map]
  constructor
  · rintro ⟨⟨old, listed, rfl⟩, live⟩
    by_cases chosen : old.id ∈ ids
    · simp [chosen, FileListEntry.markDeleted] at live
    · simp only [chosen, if_false] at live ⊢
      exact ⟨⟨listed, live⟩, not_false⟩
  · rintro ⟨⟨listed, live⟩, kept⟩
    exact ⟨⟨entry, listed, if_neg kept⟩, live⟩

/-- The live entries behind a mark are those before it, without the marked ones. -/
theorem liveEntries_markDeleted (ids : List Nat) (nowUs : Int64) :
    (store.markDeleted ids nowUs).liveEntries =
      store.liveEntries.filter fun entry => entry.id ∉ ids := by
  -- Entry by entry, a live one stays exactly if it is not chosen.
  simp only [liveEntries, markDeleted, FileTable.markDeleted]
  induction store.table.entries with
  | nil => rfl
  | cons entry entries ih =>
    rw [List.map_cons]
    by_cases chosen : entry.id ∈ ids
    · cases live : entry.deleted <;> simpa [chosen, live, FileListEntry.markDeleted] using ih
    · cases live : entry.deleted <;> simpa [chosen, live] using ih

/-- Removing deleted entries leaves the live ones. -/
theorem liveEntries_deleteEntries {ids : List Nat}
    (gone : ∀ entry ∈ store.liveEntries, entry.id ∉ ids) :
    (store.deleteEntries ids).liveEntries = store.liveEntries := by
  -- Deleted rows were not live before.
  simp only [liveEntries, deleteEntries, FileTable.deleteEntries, List.filter_filter]
  apply List.filter_congr
  intro entry listed
  cases live : entry.deleted
  · simpa using gone entry (store.mem_liveEntries.mpr ⟨listed, live⟩)
  · simp

theorem liveIds_markDeleted (ids : List Nat) (nowUs : Int64) :
    (store.markDeleted ids nowUs).liveIds.Perm (store.liveIds.filter fun id => id ∉ ids) := by
  -- Both lists are free of repetitions, so their members decide.
  apply (List.perm_ext_iff_of_nodup (liveIds_nodup _) (store.liveIds_nodup.filter _)).mpr
  intro id
  unfold liveIds
  simp only [List.mem_filter, List.mem_map, mem_liveEntries_markDeleted, decide_eq_true_eq]
  constructor
  · rintro ⟨entry, ⟨live, kept⟩, rfl⟩
    exact ⟨⟨entry, live, rfl⟩, kept⟩
  · rintro ⟨⟨entry, live, rfl⟩, kept⟩
    exact ⟨entry, ⟨live, kept⟩, rfl⟩

/-- Marking live files takes their rows, and no others, out of sight. -/
theorem visibleRows_markDeleted {ids : List Nat} (distinct : ids.Nodup)
    (live : ∀ id ∈ ids, id ∈ store.liveIds) (nowUs : Int64) :
    store.visibleRows.Perm
      ((store.markDeleted ids nowUs).visibleRows ++ ids.flatMap store.rowsOf) := by
  -- The live ids are the marked ones and the rest.
  have marked : (store.liveIds.filter fun id => ¬ id ∉ ids).Perm ids := by
    apply (List.perm_ext_iff_of_nodup (store.liveIds_nodup.filter _) distinct).mpr
    intro id
    simp only [List.mem_filter, decide_eq_true_eq, not_not, and_iff_right_iff_imp]
    exact live id
  have parts : store.liveIds.Perm ((store.markDeleted ids nowUs).liveIds ++ ids) := by
    have split := (List.filter_append_perm (fun id => decide (id ∉ ids)) store.liveIds).symm
    refine split.trans ?_
    apply List.Perm.append (store.liveIds_markDeleted ids nowUs).symm
    simpa using marked
  have rows := parts.flatMap_right store.rowsOf
  rw [List.flatMap_append] at rows
  exact rows

/-- What a change of the file list leaves as it was, apart from the files it drops. -/
structure Extends (old new : FileStore) (dropped : List Nat) : Prop where
  rows : ∀ id < old.nextId, new.rowsOf id = old.rowsOf id
  live : ∀ entry ∈ old.liveEntries, entry.id ∉ dropped → entry ∈ new.liveEntries

theorem extends_refl : store.Extends store [] :=
  ⟨fun _ _ => rfl, fun _ live _ => live⟩

theorem extends_register (entry : NewFileListEntry) (data : IngestBatch) :
    store.Extends (store.register entry data) [] where
  rows := fun _ old => store.rowsOf_register_of_lt entry data old
  live := by
    intro other live _
    rw [liveEntries_register]
    exact List.mem_append_left _ live

theorem extends_registerAll (files : List (NewFileListEntry × IngestBatch)) :
    store.Extends (store.registerAll files) [] := by
  -- Every registration extends the store, and extensions compose.
  unfold registerAll
  induction files generalizing store with
  | nil => exact store.extends_refl
  | cons file files ih =>
    rw [List.foldl_cons]
    have first := store.extends_register file.1 file.2
    have rest := ih (store.register file.1 file.2)
    constructor
    · intro id old
      rw [rest.rows id (Nat.lt_succ_of_lt old), first.rows id old]
    · intro entry live kept
      exact rest.live entry (first.live entry live kept) kept

theorem extends_markDeleted (ids : List Nat) (nowUs : Int64) :
    store.Extends (store.markDeleted ids nowUs) ids :=
  ⟨fun _ _ => rfl, fun _ live kept => store.mem_liveEntries_markDeleted.mpr ⟨live, kept⟩⟩

end FileStore

/-- Entries that were taken from the file list and are still in it, each of them once. -/
structure SnapshotSound (store : FileStore) (entries : List FileListEntry) : Prop where
  live : ∀ entry ∈ entries, entry ∈ store.liveEntries
  distinct : (entries.map FileListEntry.id).Nodup

namespace SnapshotSound

variable {store next : FileStore} {entries fewer : List FileListEntry}

theorem nil (store : FileStore) : SnapshotSound store [] :=
  ⟨by simp, by simp⟩

theorem perm (sound : SnapshotSound store entries) (same : entries.Perm fewer) :
    SnapshotSound store fewer where
  live := fun entry listed => sound.live entry (same.mem_iff.mpr listed)
  distinct := (same.map _).nodup_iff.mp sound.distinct

theorem sublist (sound : SnapshotSound store entries) (part : fewer.Sublist entries) :
    SnapshotSound store fewer where
  live := fun entry listed => sound.live entry (part.subset listed)
  distinct := sound.distinct.sublist (part.map _)

/-- Entries outlive a change that does not drop them. -/
theorem mono (sound : SnapshotSound store entries) {dropped : List Nat}
    (change : store.Extends next dropped) (kept : ∀ entry ∈ entries, entry.id ∉ dropped) :
    SnapshotSound next entries where
  live := fun entry listed => change.live entry (sound.live entry listed) (kept entry listed)
  distinct := sound.distinct

theorem liveIds (sound : SnapshotSound store entries) :
    ∀ id ∈ entries.map FileListEntry.id, id ∈ store.liveIds := by
  intro id listed
  obtain ⟨entry, member, rfl⟩ := List.mem_map.mp listed
  exact List.mem_map_of_mem (sound.live entry member)

/-- The rows of the entries stay what they are while the file list changes. -/
theorem flatMap_rowsOf (sound : SnapshotSound store entries) {dropped : List Nat}
    (change : store.Extends next dropped) :
    (entries.map FileListEntry.id).flatMap next.rowsOf =
      (entries.map FileListEntry.id).flatMap store.rowsOf := by
  apply List.flatMap_congr
  intro id listed
  exact change.rows id (store.liveIds_lt (sound.liveIds id listed))

end SnapshotSound

end Zradar.Parquet
