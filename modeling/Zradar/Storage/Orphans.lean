import Zradar.Storage.FileTasks

/-! When every copy of a file is in the file list or in the hands of a task. -/

namespace Zradar.Storage

open Parquet

/-- The file that a push cycle has uploaded and not recorded. -/
def Mover.uploading : Mover → Option FileListEntry
  | .uploaded file _ => some file
  | .listed _ | .pushing _ | .read _ _ | .finished => none

/-- Every local file is registered, or about to be registered or to be deleted. -/
def LocalAccounted (state : FileTasks) : Prop :=
  ∀ path ∈ state.localFiles,
    (∃ entry ∈ state.store.table.entries, entry.location ≠ "s3" ∧ entry.filePath = path) ∨
      path ∈ state.deletions ∨ ∃ write ∈ state.writes, write.1.filePath = path

/-- Every object is registered under its URL, or about to be. -/
def ObjectsAccounted (storage : ObjectStorage) (state : FileTasks) : Prop :=
  ∀ key ∈ state.objects,
    (∃ entry ∈ state.store.table.entries, entry.location = "s3" ∧
      entry.filePath = storage.s3Url key) ∨
      ∃ mover ∈ state.movers, ∃ file ∈ mover.uploading,
        storage.s3KeyForLocalFile file.filePath = key

/--
A file that is written is registered, one that is uploaded is recorded in an entry that is still
there and that no cycle of the reclaimer has, a delayed deletion succeeds, and the process does not
stop while one of these is to come.
-/
def KeepsTrack (state : FileTasks) : FileLabel → Prop
  | .register _ succeeds => succeeds = true
  | .mover position succeeds _ =>
    ∀ mover ∈ state.movers[position]?, ∀ file ∈ mover.uploading, succeeds = true ∧
      (∃ entry ∈ state.store.table.entries, entry.id = file.id) ∧
      ∀ reclaimer ∈ state.reclaimers, ∀ other ∈ reclaimer.pending ++ reclaimer.removed,
        other.id ≠ file.id
  | .deleteLocal position succeeds =>
    succeeds = true ∨ ∀ path ∈ state.deletions[position]?, path ∉ state.localFiles
  | .restart =>
    state.writes.length = 0 ∧ (∀ path ∈ state.deletions, path ∉ state.localFiles) ∧
      ∀ mover ∈ state.movers, mover.uploading.isNone = true
  | .write _ _ | .markDeleted _ _ | .list _ | .query _ | .finish _ | .push _ | .sweep _ _
  | .reclaimer _ _ => True

instance (state : FileTasks) : ∀ label : FileLabel, Decidable (KeepsTrack state label)
  | .register _ succeeds => inferInstanceAs (Decidable (succeeds = true))
  | .mover position succeeds _ =>
    inferInstanceAs (Decidable (∀ mover ∈ state.movers[position]?, ∀ file ∈ mover.uploading,
      succeeds = true ∧ (∃ entry ∈ state.store.table.entries, entry.id = file.id) ∧
        ∀ reclaimer ∈ state.reclaimers, ∀ other ∈ reclaimer.pending ++ reclaimer.removed,
          other.id ≠ file.id))
  | .deleteLocal position succeeds =>
    inferInstanceAs (Decidable (succeeds = true ∨
      ∀ path ∈ state.deletions[position]?, path ∉ state.localFiles))
  | .restart =>
    inferInstanceAs (Decidable (state.writes.length = 0 ∧
      (∀ path ∈ state.deletions, path ∉ state.localFiles) ∧
      ∀ mover ∈ state.movers, mover.uploading.isNone = true))
  | .write _ _ | .markDeleted _ _ | .list _ | .query _ | .finish _ | .push _ | .sweep _ _
  | .reclaimer _ _ => .isTrue trivial

/-- No cycle of the reclaimer has removed the bytes of an id. -/
def Unremoved (state : FileTasks) (id : Nat) : Prop :=
  ∀ reclaimer ∈ state.reclaimers, ∀ file ∈ reclaimer.removed, file.id ≠ id

/-- An entry that keeps a local path in the file list. -/
def KeepsPath (state : FileTasks) (path : String) (entry : FileListEntry) : Prop :=
  entry.location ≠ "s3" ∧ entry.filePath = path ∧ Unremoved state entry.id

/-- An entry that keeps an object in the file list. -/
def KeepsObject (storage : ObjectStorage) (state : FileTasks) (key : String) (entry : FileListEntry) :
    Prop :=
  entry.location = "s3" ∧ entry.filePath = storage.s3Url key ∧ Unremoved state entry.id

/-- The invariant: copies have entries that stay, and the reclaimer knows where they are. -/
structure NoOrphans (storage : ObjectStorage) (state : FileTasks) : Prop where
  named : ∃ paths, Named storage paths state
  localFiles : ∀ path ∈ state.localFiles,
    (∃ entry ∈ state.store.table.entries, KeepsPath state path entry) ∨
      path ∈ state.deletions ∨ ∃ write ∈ state.writes, write.1.filePath = path
  objects : ∀ key ∈ state.objects,
    (∃ entry ∈ state.store.table.entries, KeepsObject storage state key entry) ∨
      ∃ mover ∈ state.movers, ∃ file ∈ mover.uploading,
        storage.s3KeyForLocalFile file.filePath = key
  current : ∀ reclaimer ∈ state.reclaimers, ∀ file ∈ reclaimer.pending,
    ∀ entry ∈ state.store.table.entries, entry.id = file.id → entry.location = file.location

section

variable {storage : ObjectStorage} {state next : FileTasks}

/-- The key is what follows the bucket in a URL. -/
theorem extractS3Key_s3Url (storage : ObjectStorage) (key : String) :
    extractS3Key (storage.s3Url key) = key := by
  -- The bucket has no slash, so the key begins behind the first one after the scheme.
  have text : (storage.s3Url key).toList = "s3://".toList ++ (storage.bucket.toList ++ '/' :: key.toList) := by
    simp [ObjectStorage.s3Url]
  have lead : "s3://".toList.isPrefixOf (storage.s3Url key).toList = true := by
    rw [text, List.isPrefixOf_iff_prefix]
    exact List.prefix_append _ _
  have rest : ((storage.s3Url key).toList.drop 5).dropWhile (fun char => char ≠ '/') =
      '/' :: key.toList := by
    rw [text]
    show (storage.bucket.toList ++ '/' :: key.toList).dropWhile _ = _
    rw [List.dropWhile_append_of_pos]
    · simp
    · intro char member
      have other : char ≠ '/' := by
        rintro rfl
        exact storage.plain member
      simpa using other
  rw [extractS3Key, if_pos lead, rest]
  exact String.ofList_toList

/-- Entries of one id at one location have one path. -/
theorem Fits.path_eq {paths : List String} {first second : FileListEntry}
    (one : Fits storage paths first) (two : Fits storage paths second) (id : first.id = second.id)
    (location : first.location = second.location) : first.filePath = second.filePath := by
  -- The id gives the path of the local file, and the location says which copy of it is meant.
  obtain ⟨path, listed, copy⟩ := one
  obtain ⟨other, otherListed, otherCopy⟩ := two
  rw [id, otherListed] at listed
  cases listed
  rw [location] at copy
  obtain ⟨moved, url⟩ | ⟨here, same⟩ := copy
  · obtain ⟨_, otherUrl⟩ | ⟨there, _⟩ := otherCopy
    · rw [url, otherUrl]
    · exact absurd (moved.symm.trans there) (by decide)
  · obtain ⟨there, _⟩ | ⟨_, otherSame⟩ := otherCopy
    · exact absurd (here.symm.trans there) (by decide)
    · rw [same, otherSame]

theorem initialTasks_noOrphans (storage : ObjectStorage) : NoOrphans storage initialTasks where
  named := ⟨[], initialTasks_named storage⟩
  localFiles := List.forall_mem_nil _
  objects := List.forall_mem_nil _
  current := List.forall_mem_nil _

/-- Copies in the table are kept if the entries keep their places and the reclaimer does no more. -/
theorem NoOrphans.of_table (tracked : NoOrphans storage state)
    (named : ∃ paths, Named storage paths next)
    (localFiles : ∀ path ∈ next.localFiles, path ∈ state.localFiles)
    (objects : ∀ key ∈ next.objects, key ∈ state.objects)
    (entries : next.store.table.entries = state.store.table.entries)
    (removed : ∀ id, Unremoved state id → Unremoved next id)
    (pending : ∀ reclaimer ∈ next.reclaimers, ∀ file ∈ reclaimer.pending,
      ∀ entry ∈ state.store.table.entries, entry.id = file.id → entry.location = file.location)
    (deletions : ∀ path ∈ next.localFiles, path ∈ state.deletions → path ∈ next.deletions)
    (writes : next.writes = state.writes)
    (movers : ∀ mover ∈ state.movers, mover.uploading.isSome = true → mover ∈ next.movers) :
    NoOrphans storage next := by
  -- Whatever kept track of a file or an object is still there.
  refine ⟨named, fun path listed => ?_, fun key listed => ?_, by rw [entries]; exact pending⟩
  · rw [entries, writes]
    obtain ⟨entry, inTable, location, same, kept⟩ | scheduled | written :=
      tracked.localFiles path (localFiles path listed)
    · exact .inl ⟨entry, inTable, location, same, removed _ kept⟩
    · exact .inr (.inl (deletions path listed scheduled))
    · exact .inr (.inr written)
  · rw [entries]
    obtain ⟨entry, inTable, location, same, kept⟩ | ⟨mover, member, file, uploading, same⟩ :=
      tracked.objects key (objects key listed)
    · exact .inl ⟨entry, inTable, location, same, removed _ kept⟩
    · exact .inr ⟨mover, movers mover member (by rw [uploading]; rfl), file, uploading, same⟩

/-- A step of a push cycle that only moves on. -/
theorem tracked_move (tracked : NoOrphans storage state) {position : Nat} {mover after : Mover}
    (found : state.movers[position]? = some mover) (idle : mover.uploading = none)
    (named : ∃ paths, Named storage paths
      { state with movers := state.movers.set position after }) :
    NoOrphans storage { state with movers := state.movers.set position after } := by
  -- The mover had uploaded nothing, so no object depends on it.
  refine tracked.of_table named (fun _ => id) (fun _ => id) rfl (fun _ => id) tracked.current
    (fun _ _ => id) rfl ?_
  intro other member busy
  refine mem_set_of_ne found member ?_
  rintro rfl
  rw [idle] at busy
  cases busy

/-- An upload is in the hands of the cycle that made it. -/
theorem tracked_upload (tracked : NoOrphans storage state) {position : Nat} {file : FileListEntry}
    {rest : List FileListEntry} (found : state.movers[position]? = some (.read file rest))
    (named : ∃ paths, Named storage paths { state with
      objects := storage.s3KeyForLocalFile file.filePath :: state.objects
      movers := state.movers.set position (.uploaded file rest) }) :
    NoOrphans storage { state with
      objects := storage.s3KeyForLocalFile file.filePath :: state.objects
      movers := state.movers.set position (.uploaded file rest) } := by
  -- The new object is tracked by the mover that has uploaded it.
  refine { tracked with named, objects := fun key listed => ?_ }
  obtain rfl | before := List.mem_cons.mp listed
  · refine .inr ⟨.uploaded file rest, ?_, file, rfl, rfl⟩
    exact List.mem_set (List.getElem?_eq_some_iff.mp found).1 _
  · obtain kept | ⟨mover, member, other, uploading, same⟩ := tracked.objects key before
    · exact .inl kept
    · refine .inr ⟨mover, mem_set_of_ne found member ?_, other, uploading, same⟩
      rintro rfl
      cases uploading

/-- A file that is recorded in S3 leaves its local copy to the delayed deletion. -/
theorem tracked_record (tracked : NoOrphans storage state) {position : Nat} {nowUs : Int64}
    {file : FileListEntry} {rest : List FileListEntry}
    (found : state.movers[position]? = some (.uploaded file rest))
    (there : ∃ entry ∈ state.store.table.entries, entry.id = file.id)
    (free : ∀ reclaimer ∈ state.reclaimers, ∀ other ∈ reclaimer.pending ++ reclaimer.removed,
      other.id ≠ file.id)
    (named : ∃ paths, Named storage paths { state with
      store := state.store.updateLocation file.id "s3"
        (storage.s3Url (storage.s3KeyForLocalFile file.filePath)) nowUs
      deletions := state.deletions ++ [file.filePath]
      movers := state.movers.set position (.pushing rest) }) :
    NoOrphans storage { state with
      store := state.store.updateLocation file.id "s3"
        (storage.s3Url (storage.s3KeyForLocalFile file.filePath)) nowUs
      deletions := state.deletions ++ [file.filePath]
      movers := state.movers.set position (.pushing rest) } := by
  obtain ⟨paths, before⟩ := tracked.named
  have ownFile := before.movers _ (List.mem_of_getElem? found) file List.mem_cons_self
  have isLocal : file.location ≠ "s3" := by
    rw [ownFile.2]
    decide
  have unremoved : Unremoved state file.id := fun reclaimer member other removed =>
    free reclaimer member other (List.mem_append_right _ removed)
  -- An entry of another id is the same as before.
  have stays : ∀ entry ∈ state.store.table.entries, entry.id ≠ file.id →
      entry ∈ (state.store.updateLocation file.id "s3"
        (storage.s3Url (storage.s3KeyForLocalFile file.filePath)) nowUs).table.entries := by
    intro entry listed other
    exact List.mem_map.mpr ⟨entry, listed, if_neg other⟩
  -- The entry of the file leads to the object.
  have moved : ∃ entry ∈ (state.store.updateLocation file.id "s3"
      (storage.s3Url (storage.s3KeyForLocalFile file.filePath)) nowUs).table.entries,
      entry.id = file.id ∧ entry.location = "s3" ∧
        entry.filePath = storage.s3Url (storage.s3KeyForLocalFile file.filePath) := by
    obtain ⟨entry, listed, same⟩ := there
    exact ⟨_, List.mem_map.mpr ⟨entry, listed, if_pos same⟩, same, rfl, rfl⟩
  refine ⟨named, fun path listed => ?_, fun key listed => ?_, ?_⟩
  · obtain ⟨entry, inTable, location, same, kept⟩ | scheduled | written :=
      tracked.localFiles path listed
    · by_cases own : entry.id = file.id
      · refine .inr (.inl (List.mem_append_right _ (List.mem_singleton.mpr ?_)))
        have fits := before.table entry inTable
        rw [← same]
        exact fits.path_eq ownFile.1 own ((fits.localPath location).1.trans ownFile.2.symm)
      · exact .inl ⟨entry, stays entry inTable own, location, same, kept⟩
    · exact .inr (.inl (List.mem_append_left _ scheduled))
    · exact .inr (.inr written)
  · obtain ⟨entry, inTable, location, same, kept⟩ | ⟨mover, member, other, uploading, same⟩ :=
      tracked.objects key listed
    · by_cases own : entry.id = file.id
      · -- The entry was moved before, to the same object.
        obtain ⟨after, inAfter, id, inS3, url⟩ := moved
        have fits := before.table entry inTable
        obtain ⟨path, registered, ⟨_, copy⟩ | ⟨here, _⟩⟩ := fits
        · have origin := (ownFile.1.localPath isLocal).2
          rw [own, origin] at registered
          cases registered
          refine .inl ⟨after, inAfter, inS3, ?_, id ▸ unremoved⟩
          rw [url, ← copy, same]
        · exact absurd (location.symm.trans here) (by decide)
      · exact .inl ⟨entry, stays entry inTable own, location, same, kept⟩
    · by_cases own : mover = .uploaded file rest
      · subst own
        cases uploading
        obtain ⟨after, inAfter, id, inS3, url⟩ := moved
        exact .inl ⟨after, inAfter, inS3, by rw [url, same], id ▸ unremoved⟩
      · exact .inr ⟨mover, mem_set_of_ne found member own, other, uploading, same⟩
  · intro reclaimer member other pending entry listed same
    obtain ⟨old, inTable, rfl⟩ := List.mem_map.mp listed
    by_cases own : old.id = file.id
    · rw [if_pos own] at same
      exact absurd (same.symm.trans own) (free reclaimer member other (List.mem_append_left _ pending))
    · rw [if_neg own] at same ⊢
      exact tracked.current reclaimer member other pending old inTable same

/-- A cycle that has not just uploaded a file has no object in its hands. -/
theorem Mover.uploading_eq_none {mover : Mover}
    (idle : ∀ file rest, mover ≠ .uploaded file rest) : mover.uploading = none := by
  cases mover with
  | uploaded file rest => exact absurd rfl (idle file rest)
  | listed _ | pushing _ | read _ _ | finished => rfl

/-- Every step of a push cycle that keeps track keeps the invariant. -/
theorem tracked_moverStep (tracked : NoOrphans storage state) {position : Nat} {succeeds : Bool}
    {nowUs : Int64} {mover : Mover} (named : ∃ paths, Named storage paths next)
    (keeps : KeepsTrack state (.mover position succeeds nowUs))
    (found : state.movers[position]? = some mover)
    (stepped : moverStep storage state position succeeds nowUs mover = some next) :
    NoOrphans storage next := by
  -- Only two of the effects touch an object or a row.
  cases moverStep_effect stepped with
  | moves mover after fewer idle =>
    exact tracked_move tracked found (Mover.uploading_eq_none idle) named
  | uploads file rest => exact tracked_upload tracked found named
  -- The row takes over the track of the object.
  | records file rest =>
    obtain ⟨_, there, free⟩ := keeps _ found file rfl
    exact tracked_record tracked found there free named
  | stops file rest failed =>
    obtain ⟨succeeded, _⟩ := keeps _ found file rfl
    rw [failed] at succeeded
    cases succeeded

/-- The bytes of a file that is checked are those of its entry. -/
theorem tracked_remove (tracked : NoOrphans storage state) {position : Nat} {file : FileListEntry}
    {files removed : List FileListEntry} {groups : List (List FileListEntry)}
    (found : state.reclaimers[position]? = some ⟨some file, files, removed, groups⟩)
    {localFiles objects : List String}
    (keptFiles : ∀ path ∈ localFiles, path ∈ state.localFiles ∧
      (file.location ≠ "s3" → path ≠ file.filePath))
    (keptObjects : ∀ key ∈ objects, key ∈ state.objects ∧
      (file.location = "s3" → key ≠ extractS3Key file.filePath))
    (named : ∃ paths, Named storage paths { state with
      localFiles, objects
      reclaimers := state.reclaimers.set position ⟨none, files, removed ++ [file], groups⟩ }) :
    NoOrphans storage { state with
      localFiles, objects
      reclaimers := state.reclaimers.set position ⟨none, files, removed ++ [file], groups⟩ } := by
  have member := List.mem_of_getElem? found
  have pending : file ∈ Reclaimer.pending ⟨some file, files, removed, groups⟩ := List.mem_cons_self
  obtain ⟨paths, before⟩ := tracked.named
  have ownFile := before.reclaimers _ member file (List.mem_append_left _ pending)
  -- An entry with another id stays unremoved.
  have unremoved : ∀ id, id ≠ file.id → Unremoved state id →
      ∀ reclaimer ∈ state.reclaimers.set position ⟨none, files, removed ++ [file], groups⟩,
        ∀ gone ∈ reclaimer.removed, gone.id ≠ id := by
    intro id other kept
    refine forall_mem_set kept (forall_mem_append_one (kept _ member) (Ne.symm other))
  refine ⟨named, fun path listed => ?_, fun key listed => ?_, forall_mem_set tracked.current ?_⟩
  · obtain ⟨there, apart⟩ := keptFiles path listed
    obtain ⟨entry, inTable, location, same, kept⟩ | rest := tracked.localFiles path there
    · refine .inl ⟨entry, inTable, location, same, unremoved entry.id (fun own => ?_) kept⟩
      have place := tracked.current _ member file pending entry inTable own
      have path' := (before.table entry inTable).path_eq ownFile own place
      exact apart (place ▸ location) (same.symm.trans path')
    · exact .inr rest
  · obtain ⟨there, apart⟩ := keptObjects key listed
    obtain ⟨entry, inTable, location, same, kept⟩ | rest := tracked.objects key there
    · refine .inl ⟨entry, inTable, location, same, unremoved entry.id (fun own => ?_) kept⟩
      have place := tracked.current _ member file pending entry inTable own
      have url := (before.table entry inTable).path_eq ownFile own place
      refine apart (place ▸ location) ?_
      rw [← url, same, extractS3Key_s3Url]
    · exact .inr rest
  · intro other listed
    exact tracked.current _ member other (List.mem_cons_of_mem _ listed)

/-- A cycle of the reclaimer that goes on with fewer files and removes nothing. -/
theorem tracked_skip (tracked : NoOrphans storage state) {position : Nat}
    {reclaimer after : Reclaimer} (found : state.reclaimers[position]? = some reclaimer)
    (removed : after.removed = reclaimer.removed)
    (pending : ∀ file ∈ after.pending, file ∈ reclaimer.pending)
    (named : ∃ paths, Named storage paths
      { state with reclaimers := state.reclaimers.set position after }) :
    NoOrphans storage { state with reclaimers := state.reclaimers.set position after } := by
  -- The reclaimer keeps its list of removed rows and may forget pending ones.
  have member := List.mem_of_getElem? found
  refine tracked.of_table named (fun _ => id) (fun _ => id) rfl ?_ ?_ (fun _ _ => id) rfl
    (fun _ listed _ => listed)
  · exact fun id kept => forall_mem_set kept (removed ▸ kept reclaimer member)
  · exact forall_mem_set tracked.current
      fun file listed => tracked.current reclaimer member file (pending file listed)

/-- The entries that are deleted are those whose bytes are gone. -/
theorem tracked_commit (tracked : NoOrphans storage state) {position : Nat}
    {removed : List FileListEntry} {groups : List (List FileListEntry)}
    (found : state.reclaimers[position]? = some ⟨none, [], removed, groups⟩) {store : FileStore}
    (part : ∀ entry ∈ store.table.entries, entry ∈ state.store.table.entries)
    (stays : ∀ entry ∈ state.store.table.entries, (∀ gone ∈ removed, gone.id ≠ entry.id) →
      entry ∈ store.table.entries)
    (named : ∃ paths, Named storage paths { state with
      store
      reclaimers := state.reclaimers.set position ⟨none, groups.headD [], [], groups.tail⟩ }) :
    NoOrphans storage { state with
      store
      reclaimers := state.reclaimers.set position ⟨none, groups.headD [], [], groups.tail⟩ } := by
  -- A row that is dropped was removed before, so nothing is tracked by it.
  have member := List.mem_of_getElem? found
  have unremoved : ∀ id, Unremoved state id →
      ∀ reclaimer ∈ state.reclaimers.set position ⟨none, groups.headD [], [], groups.tail⟩,
        ∀ gone ∈ reclaimer.removed, gone.id ≠ id :=
    fun id kept => forall_mem_set kept (List.forall_mem_nil _)
  refine ⟨named, fun path listed => ?_, fun key listed => ?_, ?_⟩
  · obtain ⟨entry, inTable, location, same, kept⟩ | rest := tracked.localFiles path listed
    · exact .inl ⟨entry, stays entry inTable (kept _ member), location, same,
        unremoved entry.id kept⟩
    · exact .inr rest
  · obtain ⟨entry, inTable, location, same, kept⟩ | rest := tracked.objects key listed
    · exact .inl ⟨entry, stays entry inTable (kept _ member), location, same,
        unremoved entry.id kept⟩
    · exact .inr rest
  · have later : ∀ file ∈ Reclaimer.pending ⟨none, groups.headD [], [], groups.tail⟩,
        file ∈ Reclaimer.pending ⟨none, [], removed, groups⟩ := by
      cases groups with
      | nil => exact List.forall_mem_nil _
      | cons group groups => exact fun _ member => member
    intro reclaimer listed file pending entry kept
    refine forall_mem_set tracked.current (fun file listed => ?_) reclaimer listed file pending entry
      (part entry kept)
    exact tracked.current _ member file (later file listed)

/-- Every step of the reclaimer keeps the invariant. -/
theorem tracked_reclaimerStep (tracked : NoOrphans storage state) {position : Nat} {succeeds : Bool}
    {reclaimer : Reclaimer} (named : ∃ paths, Named storage paths next)
    (found : state.reclaimers[position]? = some reclaimer)
    (stepped : reclaimerStep state position succeeds reclaimer = some next) :
    NoOrphans storage next := by
  -- What a reclaimer removes is gone, and its row may go afterwards.
  obtain ⟨checked, files, removed, groups⟩ := reclaimer
  cases checked with
  | some file =>
    simp only [reclaimerStep] at stepped
    split_ifs at stepped with done inS3
    · cases stepped
      refine tracked_remove tracked found (fun path listed => ⟨listed, absurd inS3⟩) ?_ named
      intro key listed
      obtain ⟨there, other⟩ := List.mem_filter.mp listed
      exact ⟨there, fun _ => of_decide_eq_true other⟩
    · cases stepped
      refine tracked_remove tracked found ?_ (fun key listed => ⟨listed, fun s3 => absurd s3 inS3⟩) named
      intro path listed
      obtain ⟨there, other⟩ := List.mem_filter.mp listed
      exact ⟨there, fun _ => of_decide_eq_true other⟩
    · cases stepped
      exact tracked_skip tracked found rfl (fun _ listed => List.mem_cons_of_mem _ listed) named
  | none =>
    cases files with
    -- Checking a file changes nothing that is tracked.
    | cons file files =>
      cases stepped
      refine tracked_skip tracked found rfl (fun other listed => ?_) named
      simp only [Reclaimer.pending, List.mem_append] at listed ⊢
      obtain (isChecked | inFiles) | inGroups := listed
      · split_ifs at isChecked
        · cases isChecked
        · exact .inl (.inr (List.mem_singleton.mp isChecked ▸ List.mem_cons_self))
      · exact .inl (.inr (List.mem_cons_of_mem _ inFiles))
      · exact .inr inGroups
    | nil =>
      simp only [reclaimerStep] at stepped
      split_ifs at stepped
      · cases stepped
        refine tracked_commit tracked found (fun _ => List.mem_of_mem_filter) ?_ named
        intro entry listed kept
        refine List.mem_filter.mpr ⟨listed, decide_eq_true fun gone => ?_⟩
        obtain ⟨file, isRemoved, same⟩ := List.mem_map.mp gone
        exact kept file isRemoved same
      · cases stepped
        exact tracked_commit tracked found (fun _ => id) (fun _ listed _ => listed) named

/-- Every step that keeps track keeps the invariant. -/
theorem tracked_fileStep (tracked : NoOrphans storage state) {label : FileLabel}
    (keeps : KeepsTrack state label) (stepped : fileStep storage state label = some next) :
    NoOrphans storage next := by
  obtain ⟨paths, before⟩ := tracked.named
  have named : ∃ paths, Named storage paths next := by
    obtain ⟨more, named⟩ := named_fileStep before stepped
    exact ⟨_, named⟩
  cases label with
  | write entry data =>
    simp only [fileStep] at stepped
    split_ifs at stepped
    cases stepped
    refine { tracked with named, localFiles := fun path listed => ?_ }
    obtain rfl | old := List.mem_cons.mp listed
    · exact .inr (.inr ⟨_, List.mem_append_right _ (List.mem_singleton.mpr rfl), rfl⟩)
    · obtain kept | scheduled | ⟨write, written, same⟩ := tracked.localFiles path old
      · exact .inl kept
      · exact .inr (.inl scheduled)
      · exact .inr (.inr ⟨write, List.mem_append_left _ written, same⟩)
  | register position succeeds =>
    simp only [fileStep] at stepped
    obtain ⟨write, found, rfl⟩ := Option.map_eq_some_iff.mp stepped
    have succeeded : succeeds = true := keeps
    subst succeeded
    -- The new id is larger than those that the reclaimer has.
    have bound : ∀ reclaimer ∈ state.reclaimers, ∀ file ∈ reclaimer.pending ++ reclaimer.removed,
        file.id ≠ state.store.nextId := by
      intro reclaimer member file listed
      obtain ⟨path, registered, _⟩ := before.reclaimers reclaimer member file listed
      have inside := (List.getElem?_eq_some_iff.mp registered).1
      rw [before.size] at inside
      omega
    refine ⟨named, fun path listed => ?_, fun key listed => ?_, ?_⟩
    · obtain ⟨entry, inTable, kept⟩ | scheduled | ⟨other, written, same⟩ :=
        tracked.localFiles path listed
      · exact .inl ⟨entry, List.mem_append_left _ inTable, kept⟩
      · exact .inr (.inl scheduled)
      · by_cases own : other = write
        · subst own
          refine .inl ⟨_, List.mem_append_right _ (List.mem_singleton.mpr rfl), ?_, same, ?_⟩
          · show other.1.location ≠ "s3"
            rw [before.written other written]
            decide
          · exact fun reclaimer member file removed =>
              bound reclaimer member file (List.mem_append_right _ removed)
        · exact .inr (.inr ⟨other, mem_eraseIdx_of_ne found written own, same⟩)
    · obtain ⟨entry, inTable, kept⟩ | uploading := tracked.objects key listed
      · exact .inl ⟨entry, List.mem_append_left _ inTable, kept⟩
      · exact .inr uploading
    · intro reclaimer member file pending
      refine forall_mem_append_one (tracked.current reclaimer member file pending) fun same => ?_
      exact absurd same.symm (bound reclaimer member file (List.mem_append_left _ pending))
  | markDeleted ids nowUs =>
    cases stepped
    -- The mark touches neither the id nor the place of an entry.
    have kept : ∀ entry ∈ state.store.table.entries,
        ∃ after ∈ (state.store.markDeleted ids nowUs).table.entries, after.id = entry.id ∧
          after.location = entry.location ∧ after.filePath = entry.filePath := by
      intro entry listed
      refine ⟨_, List.mem_map_of_mem listed, ?_⟩
      split_ifs <;> exact ⟨rfl, rfl, rfl⟩
    refine ⟨named, fun path listed => ?_, fun key listed => ?_, ?_⟩
    · obtain ⟨entry, inTable, location, same, unremoved⟩ | rest := tracked.localFiles path listed
      · obtain ⟨after, inAfter, id, place, path'⟩ := kept entry inTable
        exact .inl ⟨after, inAfter, place ▸ location, path'.trans same, id ▸ unremoved⟩
      · exact .inr rest
    · obtain ⟨entry, inTable, location, same, unremoved⟩ | rest := tracked.objects key listed
      · obtain ⟨after, inAfter, id, place, path'⟩ := kept entry inTable
        exact .inl ⟨after, inAfter, place.trans location, path'.trans same, id ▸ unremoved⟩
      · exact .inr rest
    · intro reclaimer member file pending entry listed
      obtain ⟨old, inTable, rfl⟩ := List.mem_map.mp listed
      have current := tracked.current reclaimer member file pending old inTable
      split_ifs <;> exact current
  | list filter =>
    cases stepped
    exact { tracked with named }
  | query position =>
    simp only [fileStep] at stepped
    obtain ⟨query, found, stepped⟩ := Option.bind_eq_some_iff.mp stepped
    obtain ⟨after, moved, rfl⟩ := Option.map_eq_some_iff.mp stepped
    exact { tracked with named }
  | finish position =>
    simp only [fileStep] at stepped
    obtain ⟨query, found, rfl⟩ := Option.map_eq_some_iff.mp stepped
    exact { tracked with named }
  | push cutoffUs =>
    cases stepped
    exact tracked.of_table named (fun _ => id) (fun _ => id) rfl (fun _ => id) tracked.current
      (fun _ _ => id) rfl (fun _ member _ => List.mem_append_left _ member)
  | mover position succeeds nowUs =>
    simp only [fileStep] at stepped
    obtain ⟨mover, found, stepped⟩ := Option.bind_eq_some_iff.mp stepped
    exact tracked_moverStep tracked named keeps found stepped
  | deleteLocal position succeeds =>
    simp only [fileStep] at stepped
    obtain ⟨path, found, rfl⟩ := Option.map_eq_some_iff.mp stepped
    -- The file of the deletion is gone in either case.
    have gone : ∀ other ∈ (if succeeds then state.localFiles.filter fun file => file ≠ path
        else state.localFiles), other ∈ state.localFiles ∧ other ≠ path := by
      intro other listed
      cases succeeds with
      | true =>
        obtain ⟨there, apart⟩ := List.mem_filter.mp listed
        exact ⟨there, of_decide_eq_true apart⟩
      | false =>
        refine ⟨listed, ?_⟩
        rintro rfl
        obtain succeeded | absent := keeps
        · cases succeeded
        · exact absent other found listed
    refine tracked.of_table named (fun other listed => (gone other listed).1) (fun _ => id) rfl
      (fun _ => id) tracked.current ?_ rfl (fun _ member _ => member)
    exact fun other listed scheduled => mem_eraseIdx_of_ne found scheduled (gone other listed).2
  | sweep workspaceId workspaces =>
    simp only [fileStep] at stepped
    split_ifs at stepped
    cases stepped
    refine tracked.of_table named (fun _ => id) (fun _ => id) rfl ?_ ?_ (fun _ _ => id) rfl
      (fun _ member _ => member)
    · exact fun id kept => forall_mem_append_one kept (List.forall_mem_nil _)
    · refine forall_mem_append_one tracked.current fun file pending entry listed same => ?_
      simp only [Reclaimer.pending, Option.toList_none, List.append_nil, List.nil_append,
        List.mem_flatten, List.mem_map] at pending
      obtain ⟨_, ⟨workspace, _, rfl⟩, row⟩ := pending
      have inTable := (FileTable.mem_queryFiles.mp (List.mem_of_mem_filter row)).1
      rw [state.store.table.eq_of_id listed inTable same]
  | reclaimer position succeeds =>
    simp only [fileStep] at stepped
    obtain ⟨reclaimer, found, stepped⟩ := Option.bind_eq_some_iff.mp stepped
    exact tracked_reclaimerStep tracked named found stepped
  | restart =>
    cases stepped
    obtain ⟨written, deleted, uploaded⟩ := keeps
    have noWrites : state.writes = [] := List.length_eq_zero_iff.mp written
    refine ⟨named, fun path listed => ?_, fun key listed => ?_, List.forall_mem_nil _⟩
    · obtain ⟨entry, inTable, location, same, _⟩ | scheduled | ⟨write, pending, _⟩ :=
        tracked.localFiles path listed
      · exact .inl ⟨entry, inTable, location, same, List.forall_mem_nil _⟩
      · exact absurd listed (deleted path scheduled)
      · rw [noWrites] at pending
        cases pending
    · obtain ⟨entry, inTable, location, same, _⟩ | ⟨mover, member, file, uploading, _⟩ :=
        tracked.objects key listed
      · exact .inl ⟨entry, inTable, location, same, List.forall_mem_nil _⟩
      · have idle := uploaded mover member
        rw [uploading] at idle
        cases idle

theorem NoOrphans.localAccounted (tracked : NoOrphans storage state) : LocalAccounted state := by
  intro path listed
  obtain ⟨entry, inTable, location, same, _⟩ | rest := tracked.localFiles path listed
  · exact .inl ⟨entry, inTable, location, same⟩
  · exact .inr rest

theorem NoOrphans.objectsAccounted (tracked : NoOrphans storage state) :
    ObjectsAccounted storage state := by
  intro key listed
  obtain ⟨entry, inTable, location, same, _⟩ | rest := tracked.objects key listed
  · exact .inl ⟨entry, inTable, location, same⟩
  · exact .inr rest

end

/-- In a run that keeps track of its copies, none of them is ever left behind. -/
theorem no_orphans_of_tracked (storage : ObjectStorage) {labels : List FileLabel} {state : FileTasks}
    (tracks : Guarded (fileStep storage) KeepsTrack initialTasks labels)
    (reached : run (fileStep storage) initialTasks labels = some state) :
    LocalAccounted state ∧ ObjectsAccounted storage state := by
  have tracked := run_invariant
    (fun _ _ _ tracked keeps stepped => tracked_fileStep tracked keeps stepped)
    (initialTasks_noOrphans storage) tracks reached
  exact ⟨tracked.localAccounted, tracked.objectsAccounted⟩

/-- A file is moved to S3, its local copy is deleted, and then it is retired and reclaimed. -/
def moveThenReclaim : List FileLabel :=
  [.write sampleEntry (.spans []), .register 0 true, .push 0, .mover 0 true 1, .mover 0 true 1,
    .mover 0 true 1, .mover 0 true 1, .deleteLocal 0 true, .restart, .markDeleted [0] 1,
    .sweep none [Uuid.nil], .reclaimer 0 true, .reclaimer 0 true, .reclaimer 0 true]

theorem moved_file_is_accounted_for : ∃ state,
    run (fileStep plainStorage) initialTasks moveThenReclaim = some state ∧
      LocalAccounted state ∧ ObjectsAccounted plainStorage state := by
  -- The run moves one file, deletes its local copy and reclaims the object.
  have enabled : (run (fileStep plainStorage) initialTasks moveThenReclaim).isSome = true := by
    decide +kernel
  have tracks : Guarded (fileStep plainStorage) KeepsTrack initialTasks moveThenReclaim := by
    decide +kernel
  obtain ⟨state, reached⟩ := Option.isSome_iff_exists.mp enabled
  exact ⟨state, reached, no_orphans_of_tracked plainStorage tracks reached⟩

/-- The process stops between the move of a file and the deletion of its local copy. -/
def stopAfterMove : List FileLabel :=
  [.write sampleEntry (.spans []), .register 0 true, .push 0, .mover 0 true 1, .mover 0 true 1,
    .mover 0 true 1, .mover 0 true 1, .restart]

theorem local_copy_is_left_behind :
    ¬ ∀ (storage : ObjectStorage) (labels : List FileLabel) (state : FileTasks),
      run (fileStep storage) initialTasks labels = some state →
        LocalAccounted state ∧ ObjectsAccounted storage state := by
  intro claim
  -- After the move the row leads to S3, while the local file stays and nobody is to delete it.
  have left : ((run (fileStep plainStorage) initialTasks stopAfterMove).map fun state =>
      (state.localFiles, state.store.table.entries.map fun entry => entry.location,
        state.deletions, state.writes.length)) = some (["/data/a.parquet"], ["s3"], [], 0) := by
    decide +kernel
  obtain ⟨state, reached, parts⟩ := Option.map_eq_some_iff.mp left
  simp only [Prod.mk.injEq] at parts
  obtain ⟨files, locations, deletions, writes⟩ := parts
  have accounted := (claim plainStorage stopAfterMove state reached).1 "/data/a.parquet"
    (by rw [files]; exact List.mem_singleton.mpr rfl)
  obtain ⟨entry, inTable, isLocal, _⟩ | scheduled | ⟨write, written, _⟩ := accounted
  · -- The only entry leads to S3.
    have place := List.mem_map_of_mem (f := fun entry : FileListEntry => entry.location) inTable
    rw [locations] at place
    exact isLocal (List.mem_singleton.mp place)
  · rw [deletions] at scheduled
    cases scheduled
  · rw [List.length_eq_zero_iff.mp writes] at written
    cases written

end Zradar.Storage
