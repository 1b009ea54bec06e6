import Zradar.Storage.FileTasks

/-! When no local file is removed under a query that reads it. -/

namespace Zradar.Storage

open Parquet

/-- Whether a query has still to release its files. -/
def FileQuery.unfinished (query : FileQuery) : Bool :=
  match query.phase with
  | .finished => false
  | .listed | .resolving _ _ | .scanning _ => true

/-- Whether a query stands between its list of files and its leases. -/
def FileQuery.unleased (query : FileQuery) : Bool :=
  match query.phase with
  | .listed => true
  | .resolving _ _ | .scanning _ | .finished => false

/-- A query listed the file at a path as a local one. -/
def FileQuery.Lists (query : FileQuery) (path : String) : Prop :=
  ∃ row ∈ query.rows, row.location ≠ "s3" ∧ row.filePath = path

instance (query : FileQuery) (path : String) : Decidable (query.Lists path) :=
  inferInstanceAs (Decidable (∃ row ∈ query.rows, row.location ≠ "s3" ∧ row.filePath = path))

/-- The file whose lease a cycle of the reclaimer checks next. -/
def Reclaimer.next? (reclaimer : Reclaimer) : Option FileListEntry :=
  if reclaimer.checked.isNone then reclaimer.files.head? else none

/-- A query holds a lease on the local file at a path. -/
def LeasedPath (state : FileTasks) (path : String) : Prop :=
  ∃ query ∈ state.queries, query.holdsLeases = true ∧ query.Lists path

/-- A step removes a local file on which a query holds a lease. -/
def DeletesLeased (state : FileTasks) : FileLabel → Prop
  | .deleteLocal position true =>
    ∃ path ∈ state.deletions[position]?, path ∈ state.localFiles ∧ LeasedPath state path
  | .reclaimer position true =>
    ∃ reclaimer ∈ state.reclaimers[position]?, ∃ file ∈ reclaimer.checked,
      file.location ≠ "s3" ∧ file.filePath ∈ state.localFiles ∧ LeasedPath state file.filePath
  | _ => False

/-- No query scans a local file that is gone. -/
def ScansExisting (state : FileTasks) : Prop :=
  ∀ query ∈ state.queries, ∀ paths, query.phase = .scanning paths →
    ∀ path ∈ paths, path ∈ state.localFiles

/--
The delayed deletion of a local copy finds no query that listed it and is not finished, and the
reclaimer finds none between its list of files and its leases when it checks the lease of a file.
-/
def ReadersAway (state : FileTasks) : FileLabel → Prop
  | .deleteLocal position true =>
    ∀ path ∈ state.deletions[position]?, ∀ query ∈ state.queries, query.unfinished = true →
      ¬ query.Lists path
  | .reclaimer position _ =>
    ∀ reclaimer ∈ state.reclaimers[position]?, ∀ file ∈ reclaimer.next?, file.location ≠ "s3" →
      ∀ query ∈ state.queries, query.unleased = true → ¬ query.Lists file.filePath
  | _ => True

instance (state : FileTasks) : ∀ label : FileLabel, Decidable (ReadersAway state label)
  | .deleteLocal position true =>
    inferInstanceAs (Decidable (∀ path ∈ state.deletions[position]?, ∀ query ∈ state.queries,
      query.unfinished = true → ¬ query.Lists path))
  | .reclaimer position _ =>
    inferInstanceAs (Decidable (∀ reclaimer ∈ state.reclaimers[position]?,
      ∀ file ∈ reclaimer.next?, file.location ≠ "s3" → ∀ query ∈ state.queries,
        query.unleased = true → ¬ query.Lists file.filePath))
  | .deleteLocal _ false | .write _ _ | .register _ _ | .markDeleted _ _ | .list _ | .query _
  | .finish _ | .push _ | .mover _ _ _ | .sweep _ _ | .restart => .isTrue trivial

/-- The files that a query has still to look for. -/
def FileQuery.pending (query : FileQuery) : List FileListEntry :=
  match query.phase with
  | .resolving pending _ => pending
  | .listed | .scanning _ | .finished => []

/-- The files that a query has found are there, and it looks only for those that it listed. -/
structure FileQuery.Finds (localFiles : List String) (query : FileQuery) : Prop where
  paths : ∀ path ∈ query.paths, path ∈ localFiles ∧ query.Lists path
  pending : ∀ row ∈ query.pending, row ∈ query.rows

/-- The invariant behind the safety of readers. -/
structure ReadersSafe (storage : ObjectStorage) (state : FileTasks) : Prop where
  named : ∃ paths, Named storage paths state
  counts : ∀ id, state.registry.counts id =
    (state.queries.map fun query => query.leases.count id).sum
  /-- What the reclaimer has before it is deleted in the table. -/
  retired : ∀ reclaimer ∈ state.reclaimers, ∀ file ∈ reclaimer.pending,
    ∀ entry ∈ state.store.table.entries, entry.id = file.id → entry.deleted = true
  /-- No query reads a file whose bytes are removed next. -/
  unread : ∀ reclaimer ∈ state.reclaimers, ∀ file ∈ reclaimer.checked, file.location ≠ "s3" →
    ∀ query ∈ state.queries, query.unfinished = true → ¬ query.Lists file.filePath
  finds : ∀ query ∈ state.queries, query.Finds state.localFiles

section

variable {storage : ObjectStorage} {state next : FileTasks}

/-- The sum over a list in which one value is replaced. -/
theorem sum_map_set {α : Type} (weight : α → Nat) {values : List α} {position : Nat} {old : α}
    (found : values[position]? = some old) (new : α) :
    ((values.set position new).map weight).sum + weight old = (values.map weight).sum + weight new := by
  -- Only the value at the position counts differently.
  induction values generalizing position with
  | nil => simp at found
  | cons value values ih =>
    cases position with
    | zero =>
      simp only [List.getElem?_cons_zero, Option.some.injEq] at found
      subst found
      simp only [List.set_cons_zero, List.map_cons, List.sum_cons]
      omega
    | succ position =>
      rw [List.getElem?_cons_succ] at found
      have rest := ih found
      simp only [List.set_cons_succ, List.map_cons, List.sum_cons]
      omega

/-- The registry counts at least the leases of each query. -/
theorem ReadersSafe.isLeased (safe : ReadersSafe storage state) {query : FileQuery}
    (member : query ∈ state.queries) {id : Nat} (held : id ∈ query.leases) :
    state.registry.isLeased id = true := by
  have one : 0 < query.leases.count id := List.count_pos_iff.mpr held
  have part : query.leases.count id ≤ (state.queries.map fun query => query.leases.count id).sum :=
    List.single_le_sum (fun _ _ => Nat.zero_le _) _ (List.mem_map_of_mem member)
  rw [FileLeaseRegistry.isLeased, safe.counts id, decide_eq_true_eq]
  exact Nat.lt_of_lt_of_le one part

/-- A query that is not finished holds its leases or has not taken them yet. -/
theorem FileQuery.unfinished_cases {query : FileQuery} (unfinished : query.unfinished = true) :
    query.unleased = true ∨ query.holdsLeases = true := by
  -- Between listing and end a query waits for its leases or holds them.
  obtain ⟨rows, phase⟩ := query
  cases phase with
  | listed => exact .inl rfl
  | resolving pending paths => exact .inr rfl
  | scanning paths => exact .inr rfl
  | finished => cases unfinished

theorem FileQuery.unfinished_of_holds {query : FileQuery} (holds : query.holdsLeases = true) :
    query.unfinished = true := by
  -- Leases are released when the query ends.
  obtain ⟨rows, phase⟩ := query
  cases phase with
  | listed => cases holds
  | resolving pending paths => rfl
  | scanning paths => rfl
  | finished => cases holds

/-- A step of a query takes its leases once, and finds files that are there. -/
theorem queryStep_spec {query : FileQuery} {after : FileLeaseRegistry × FileQuery}
    (finds : query.Finds state.localFiles) (stepped : queryStep state query = some after) :
    query.unfinished = true ∧
      (∀ id, after.1.counts id + query.leases.count id =
        state.registry.counts id + after.2.leases.count id) ∧
      after.2.Finds state.localFiles := by
  -- A step of a query takes leases when it has listed its rows, and gives none back.
  obtain ⟨rows, phase⟩ := query
  have none : ∀ {holds : FileListEntry → Prop}, ∀ row ∈ ([] : List FileListEntry), holds row :=
    List.forall_mem_nil _
  cases phase with
  | listed =>
    cases stepped
    refine ⟨rfl, fun id => rfl, ?_, fun row member => member⟩
    exact List.forall_mem_nil _
  | resolving pending paths =>
    cases pending with
    | nil =>
      cases stepped
      exact ⟨rfl, fun id => rfl, finds.paths, none⟩
    -- A row is scanned only if its file is there.
    | cons row pending =>
      obtain ⟨listed, rest⟩ := List.forall_mem_cons.mp finds.pending
      simp only [queryStep] at stepped
      split_ifs at stepped with there
      · cases stepped
        refine ⟨rfl, fun id => rfl, ?_, rest⟩
        exact forall_mem_append_one finds.paths ⟨there.2, row, listed, there.1, rfl⟩
      · cases stepped
        exact ⟨rfl, fun id => rfl, finds.paths, rest⟩
  | scanning paths => cases stepped
  | finished => cases stepped

/-- A query finds what it found, if none of it is removed. -/
theorem FileQuery.Finds.of_kept {query : FileQuery} {before after : List String}
    (finds : query.Finds before) (kept : ∀ path ∈ before, query.Lists path → path ∈ after) :
    query.Finds after := by
  refine ⟨fun path member => ?_, finds.pending⟩
  obtain ⟨there, lists⟩ := finds.paths path member
  exact ⟨kept path there lists, lists⟩

/-- A query that has found a file is not finished. -/
theorem FileQuery.unfinished_of_path {query : FileQuery} {path : String}
    (member : path ∈ query.paths) : query.unfinished = true := by
  -- Paths are resolved by running queries only.
  obtain ⟨rows, phase⟩ := query
  cases phase with
  | listed => cases member
  | resolving pending paths => rfl
  | scanning paths => rfl
  | finished => cases member

theorem initialTasks_safe (storage : ObjectStorage) : ReadersSafe storage initialTasks where
  named := ⟨[], initialTasks_named storage⟩
  counts := fun _ => rfl
  retired := List.forall_mem_nil _
  unread := List.forall_mem_nil _
  finds := List.forall_mem_nil _

/-- A query with new rows lists no file that the reclaimer is about to remove. -/
theorem ReadersSafe.unread_list (safe : ReadersSafe storage state) (filter : FileListFilter)
    {reclaimer : Reclaimer} (member : reclaimer ∈ state.reclaimers) {file : FileListEntry}
    (checked : file ∈ reclaimer.checked) (isLocal : file.location ≠ "s3") :
    ¬ FileQuery.Lists ⟨state.store.table.queryFiles { filter with deleted := some false }, .listed⟩
      file.filePath := by
  rintro ⟨row, listed, rowLocal, same⟩
  obtain ⟨paths, named⟩ := safe.named
  obtain ⟨inTable, passes⟩ := FileTable.mem_queryFiles.mp listed
  have pending : file ∈ reclaimer.pending := by
    simp only [Reclaimer.pending, List.mem_append, Option.mem_toList]
    exact .inl (.inl checked)
  have fits := named.reclaimers reclaimer member file (List.mem_append_left _ pending)
  have id := named.id_eq (named.table row inTable) fits rowLocal isLocal same
  -- The entry of the file is deleted, and the query lists others.
  have deleted := safe.retired reclaimer member file pending row inTable id
  simp only [FileListFilter.matches, admits, Bool.and_eq_true, decide_eq_true_eq] at passes
  rw [passes.2] at deleted
  cases deleted

/-- A file that passes the check of the reclaimer has no reader. -/
theorem ReadersSafe.unread_check (safe : ReadersSafe storage state) {position : Nat}
    {succeeds : Bool} (away : ReadersAway state (.reclaimer position succeeds)) {reclaimer : Reclaimer}
    (found : state.reclaimers[position]? = some reclaimer) {file : FileListEntry}
    (next : file ∈ reclaimer.next?) (isLocal : file.location ≠ "s3")
    (free : state.registry.isLeased file.id = false) :
    ∀ query ∈ state.queries, query.unfinished = true → ¬ query.Lists file.filePath := by
  -- A reader of the file would have listed its row, and so hold a lease on its id.
  intro query member unfinished lists
  obtain unleased | holds := FileQuery.unfinished_cases unfinished
  · exact away reclaimer found file next isLocal query member unleased lists
  · obtain ⟨row, listed, rowLocal, same⟩ := lists
    obtain ⟨paths, named⟩ := safe.named
    have pending : file ∈ reclaimer.pending := by
      unfold Reclaimer.next? at next
      split_ifs at next
      · simp only [Reclaimer.pending, List.mem_append]
        exact .inl (.inr (List.mem_of_head? next))
      · cases next
    have fits := named.reclaimers reclaimer (List.mem_of_getElem? found) file
      (List.mem_append_left _ pending)
    have id := named.id_eq (named.queries query member row listed) fits rowLocal isLocal same
    have held : file.id ∈ query.leases := by
      rw [FileQuery.leases, if_pos holds, ← id]
      exact List.mem_map_of_mem listed
    rw [safe.isLeased member held] at free
    cases free

/-- The entries with ids that the reclaimer has stay deleted. -/
theorem ReadersSafe.retired_of (safe : ReadersSafe storage state)
    {entries : List FileListEntry}
    (origin : ∀ entry ∈ entries, entry.id = state.store.nextId ∨
      ∃ old ∈ state.store.table.entries, entry.id = old.id ∧ (old.deleted = true → entry.deleted = true))
    {reclaimer : Reclaimer} (member : reclaimer ∈ state.reclaimers) :
    ∀ file ∈ reclaimer.pending, ∀ entry ∈ entries, entry.id = file.id → entry.deleted = true := by
  -- A file that is to be removed was marked before, and marks stay.
  intro file pending entry listed same
  obtain new | ⟨old, inTable, id, stays⟩ := origin entry listed
  · -- The file has an id that was given before.
    obtain ⟨paths, named⟩ := safe.named
    obtain ⟨path, registered, _⟩ :=
      named.reclaimers reclaimer member file (List.mem_append_left _ pending)
    have bound := (List.getElem?_eq_some_iff.mp registered).1
    rw [named.size] at bound
    omega
  · exact stays (safe.retired reclaimer member file pending old inTable (id.symm.trans same))

/-- A step of a push cycle does not touch what readers rely on. -/
theorem safe_moverStep (safe : ReadersSafe storage state) {position : Nat} {succeeds : Bool}
    {nowUs : Int64} {mover : Mover} (named : ∃ paths, Named storage paths next)
    (stepped : moverStep storage state position succeeds nowUs mover = some next) :
    ReadersSafe storage next := by
  -- Only the entry of a file that is uploaded changes, and it stays deleted if it was.
  have moved : ∀ (file : FileListEntry) (url : String),
      ∀ entry ∈ (state.store.updateLocation file.id "s3" url nowUs).table.entries,
        entry.id = state.store.nextId ∨ ∃ old ∈ state.store.table.entries, entry.id = old.id ∧
          (old.deleted = true → entry.deleted = true) := by
    intro file url entry member
    obtain ⟨old, listed, rfl⟩ := List.mem_map.mp member
    refine .inr ⟨old, listed, ?_⟩
    split_ifs <;> exact ⟨rfl, id⟩
  cases moverStep_effect stepped with
  | moves mover after fewer idle => exact { safe with named }
  | uploads file rest => exact { safe with named }
  | records file rest =>
    exact { safe with
      named
      retired := fun reclaimer member => safe.retired_of (moved file _) member }
  | stops file rest failed => exact { safe with named }

/-- A step of the reclaimer removes no file that a query has found. -/
theorem safe_reclaimerStep (safe : ReadersSafe storage state) {position : Nat} {succeeds : Bool}
    {reclaimer : Reclaimer} (named : ∃ paths, Named storage paths next)
    (away : ReadersAway state (.reclaimer position succeeds))
    (found : state.reclaimers[position]? = some reclaimer)
    (stepped : reclaimerStep state position succeeds reclaimer = some next) :
    ReadersSafe storage next := by
  have member := List.mem_of_getElem? found
  have retired := safe.retired reclaimer member
  have unread := safe.unread reclaimer member
  obtain ⟨checked, files, removed, groups⟩ := reclaimer
  simp only [Reclaimer.pending, List.forall_mem_append] at retired
  obtain ⟨⟨retiredChecked, retiredFiles⟩, retiredGroups⟩ := retired
  have noFile : ∀ {holds : FileListEntry → Prop}, ∀ file ∈ (none : Option FileListEntry), holds file :=
    fun _ member => absurd member (Option.not_mem_none _)
  cases checked with
  | some file =>
    -- What is left of the cycle is retired, with nothing checked.
    have rest : ∀ removed, ∀ other ∈ Reclaimer.pending ⟨none, files, removed, groups⟩,
        ∀ entry ∈ state.store.table.entries, entry.id = other.id → entry.deleted = true := by
      intro removed
      simp only [Reclaimer.pending, List.forall_mem_append, Option.toList_none]
      exact ⟨⟨List.forall_mem_nil _, retiredFiles⟩, retiredGroups⟩
    simp only [reclaimerStep] at stepped
    split_ifs at stepped with done inS3
    · cases stepped
      exact { safe with
        named
        retired := forall_mem_set safe.retired (rest _)
        unread := forall_mem_set safe.unread noFile }
    · cases stepped
      refine { safe with
        named
        retired := forall_mem_set safe.retired (rest _)
        unread := forall_mem_set safe.unread noFile
        finds := fun query listed => ?_ }
      refine ⟨fun path held => ?_, (safe.finds query listed).pending⟩
      obtain ⟨there, lists⟩ := (safe.finds query listed).paths path held
      refine ⟨List.mem_filter.mpr ⟨there, ?_⟩, lists⟩
      rw [decide_eq_true_eq]
      rintro rfl
      exact unread file rfl inS3 query listed (FileQuery.unfinished_of_path held) lists
    · cases stepped
      exact { safe with
        named
        retired := forall_mem_set safe.retired (rest _)
        unread := forall_mem_set safe.unread noFile }
  | none =>
    cases files with
    | cons file files =>
      obtain ⟨retiredFile, retiredRest⟩ := List.forall_mem_cons.mp retiredFiles
      cases stepped
      refine { safe with
        named
        retired := forall_mem_set safe.retired ?_
        unread := forall_mem_set safe.unread ?_ }
      · simp only [Reclaimer.pending, List.forall_mem_append]
        refine ⟨⟨?_, retiredRest⟩, retiredGroups⟩
        split_ifs
        · exact List.forall_mem_nil _
        · exact List.forall_mem_singleton.mpr retiredFile
      · intro other isOther
        cases leased : state.registry.isLeased file.id with
        | true =>
          rw [leased, if_pos rfl] at isOther
          cases isOther
        | false =>
          rw [leased, if_neg Bool.false_ne_true] at isOther
          cases isOther
          exact fun isLocal => safe.unread_check away found rfl isLocal leased
    | nil =>
      have rest : ∀ other ∈ Reclaimer.pending ⟨none, groups.headD [], [], groups.tail⟩,
          ∀ entry ∈ state.store.table.entries, entry.id = other.id → entry.deleted = true := by
        rw [Reclaimer.pending, Option.toList_none, List.nil_append]
        cases groups with
        | nil => exact List.forall_mem_nil _
        | cons group groups => exact retiredGroups
      simp only [reclaimerStep] at stepped
      split_ifs at stepped
      · cases stepped
        refine { safe with
          named
          retired := ?_
          unread := forall_mem_set safe.unread noFile }
        intro other listed file pending entry kept
        exact forall_mem_set safe.retired rest other listed file pending entry
          (List.mem_of_mem_filter kept)
      · cases stepped
        exact { safe with
          named
          retired := forall_mem_set safe.retired rest
          unread := forall_mem_set safe.unread noFile }

/-- Every step that finds the readers away keeps the invariant. -/
theorem safe_fileStep (safe : ReadersSafe storage state) {label : FileLabel}
    (away : ReadersAway state label) (stepped : fileStep storage state label = some next) :
    ReadersSafe storage next := by
  -- Each step changes a few of the parts, and these are shown to hold again.
  have named : ∃ paths, Named storage paths next := by
    obtain ⟨paths, named⟩ := safe.named
    obtain ⟨more, named⟩ := named_fileStep named stepped
    exact ⟨_, named⟩
  cases label with
  | write entry data =>
    simp only [fileStep] at stepped
    split_ifs at stepped
    cases stepped
    exact { safe with
      named
      finds := fun query listed =>
        (safe.finds query listed).of_kept fun path there _ => List.mem_cons_of_mem _ there }
  -- A new row has a new id, so it is no row of a reclaimer.
  | register position succeeds =>
    simp only [fileStep] at stepped
    obtain ⟨write, found, rfl⟩ := Option.map_eq_some_iff.mp stepped
    cases succeeds with
    | true =>
      refine { safe with
        named
        retired := fun reclaimer member => safe.retired_of ?_ member }
      refine forall_mem_append_one (fun old listed => .inr ⟨old, listed, rfl, id⟩) (.inl rfl)
    | false => exact { safe with named }
  -- Marks are set, and never taken away.
  | markDeleted ids nowUs =>
    cases stepped
    refine { safe with
      named
      retired := fun reclaimer member => safe.retired_of ?_ member }
    intro entry listed
    obtain ⟨old, inTable, rfl⟩ := List.mem_map.mp listed
    refine .inr ⟨old, inTable, ?_⟩
    split_ifs
    · exact ⟨rfl, fun _ => rfl⟩
    · exact ⟨rfl, id⟩
  -- A query that starts has no leases yet, and lists no file that a reclaimer has checked.
  | list filter =>
    cases stepped
    refine { safe with
      named
      counts := fun id => ?_
      unread := fun reclaimer member file checked isLocal => ?_
      finds := forall_mem_append_one safe.finds ?_ }
    · rw [List.map_append, List.sum_append, safe.counts id]
      rfl
    · refine forall_mem_append_one (safe.unread reclaimer member file checked isLocal) ?_
      exact fun _ => safe.unread_list filter member checked isLocal
    · exact ⟨List.forall_mem_nil _, List.forall_mem_nil _⟩
  -- The leases that a query takes are counted by the registry.
  | query position =>
    simp only [fileStep] at stepped
    obtain ⟨query, found, stepped⟩ := Option.bind_eq_some_iff.mp stepped
    obtain ⟨after, moved, rfl⟩ := Option.map_eq_some_iff.mp stepped
    have member := List.mem_of_getElem? found
    obtain ⟨unfinished, counts, finds⟩ := queryStep_spec (safe.finds query member) moved
    have rows := queryStep_rows moved
    refine { safe with
      named
      counts := fun id => ?_
      unread := fun reclaimer listed file checked isLocal => ?_
      finds := forall_mem_set safe.finds finds }
    · have sum := sum_map_set (fun query => query.leases.count id) found after.2
      have step := counts id
      rw [safe.counts id] at step
      dsimp only at sum ⊢
      omega
    · refine forall_mem_set (safe.unread reclaimer listed file checked isLocal) ?_
      intro _
      unfold FileQuery.Lists
      rw [rows]
      exact safe.unread reclaimer listed file checked isLocal query member unfinished
  -- The leases of the query are given back, all of them.
  | finish position =>
    simp only [fileStep] at stepped
    obtain ⟨query, found, rfl⟩ := Option.map_eq_some_iff.mp stepped
    refine { safe with
      named
      counts := fun id => ?_
      unread := fun reclaimer listed file checked isLocal => ?_
      finds := forall_mem_set safe.finds ?_ }
    · have sum := sum_map_set (fun query => query.leases.count id) found
        { query with phase := .finished }
      have none : FileQuery.leases ⟨query.rows, .finished⟩ = [] := rfl
      simp only [none, List.count_nil] at sum
      dsimp only [FileLeaseRegistry.release]
      rw [safe.counts id]
      omega
    · refine forall_mem_set (safe.unread reclaimer listed file checked isLocal) ?_
      exact fun unfinished => absurd unfinished Bool.false_ne_true
    · exact ⟨List.forall_mem_nil _, List.forall_mem_nil _⟩
  | push cutoffUs =>
    cases stepped
    exact { safe with named }
  | mover position succeeds nowUs =>
    simp only [fileStep] at stepped
    obtain ⟨mover, found, stepped⟩ := Option.bind_eq_some_iff.mp stepped
    exact safe_moverStep safe named stepped
  -- The file goes only where no reader lists it.
  | deleteLocal position succeeds =>
    simp only [fileStep] at stepped
    obtain ⟨path, found, rfl⟩ := Option.map_eq_some_iff.mp stepped
    cases succeeds with
    | false => exact { safe with named }
    | true =>
      refine { safe with named, finds := fun query listed => ?_ }
      refine ⟨fun other held => ?_, (safe.finds query listed).pending⟩
      obtain ⟨there, lists⟩ := (safe.finds query listed).paths other held
      refine ⟨List.mem_filter.mpr ⟨there, ?_⟩, lists⟩
      rw [decide_eq_true_eq]
      rintro rfl
      exact away other found query listed (FileQuery.unfinished_of_path held) lists
  -- A sweep lists rows that are marked as deleted.
  | sweep workspaceId workspaces =>
    simp only [fileStep] at stepped
    split_ifs at stepped
    cases stepped
    refine { safe with
      named
      retired := forall_mem_append_one safe.retired ?_
      unread := forall_mem_append_one safe.unread fun _ checked => absurd checked (Option.not_mem_none _) }
    intro file pending entry listed same
    simp only [Reclaimer.pending, Option.toList_none, List.append_nil, List.nil_append,
      List.mem_flatten, List.mem_map] at pending
    obtain ⟨_, ⟨workspace, _, rfl⟩, row⟩ := pending
    obtain ⟨inTable, passes⟩ := FileTable.mem_queryFiles.mp (List.mem_of_mem_filter row)
    rw [state.store.table.eq_of_id listed inTable same]
    simp only [FileListFilter.matches, admits, Bool.and_eq_true, decide_eq_true_eq] at passes
    exact passes.2
  | reclaimer position succeeds =>
    simp only [fileStep] at stepped
    obtain ⟨reclaimer, found, stepped⟩ := Option.bind_eq_some_iff.mp stepped
    exact safe_reclaimerStep safe named away found stepped
  -- Readers, movers and reclaimers are gone, and the leases with them.
  | restart =>
    cases stepped
    exact
      { named
        counts := fun _ => rfl
        retired := List.forall_mem_nil _
        unread := List.forall_mem_nil _
        finds := List.forall_mem_nil _ }

/-- Under the invariant, no step that finds the readers away removes a leased file. -/
theorem ReadersSafe.not_deletesLeased (safe : ReadersSafe storage state) {label : FileLabel}
    (away : ReadersAway state label) : ¬ DeletesLeased state label := by
  -- Two steps delete files: the one is kept away by assumption, the other by the invariant.
  intro deletes
  unfold DeletesLeased at deletes
  split at deletes
  · obtain ⟨path, found, _, query, member, holds, lists⟩ := deletes
    exact away path found query member (FileQuery.unfinished_of_holds holds) lists
  · obtain ⟨reclaimer, found, file, checked, isLocal, _, query, member, holds, lists⟩ := deletes
    exact safe.unread reclaimer (List.mem_of_getElem? found) file checked isLocal query member
      (FileQuery.unfinished_of_holds holds) lists
  · exact deletes

theorem ReadersSafe.scansExisting (safe : ReadersSafe storage state) : ScansExisting state := by
  intro query member paths scanning path listed
  refine ((safe.finds query member).paths path ?_).1
  rw [FileQuery.paths, scanning]
  exact listed

end

/--
In a run in which readers are away when local copies are deleted after their delay and when the
reclaimer checks leases, no leased file is removed and no query scans a file that is gone.
-/
theorem readers_safe_of_away (storage : ObjectStorage) {labels : List FileLabel}
    (away : Guarded (fileStep storage) ReadersAway initialTasks labels) :
    Guarded (fileStep storage) (fun state label => ¬ DeletesLeased state label) initialTasks labels ∧
      ∀ state, run (fileStep storage) initialTasks labels = some state → ScansExisting state := by
  -- The invariant holds in the initial state and is kept by every step away from readers.
  have kept : ∀ state label next, ReadersSafe storage state → ReadersAway state label →
      fileStep storage state label = some next → ReadersSafe storage next :=
    fun _ _ _ safe away stepped => safe_fileStep safe away stepped
  constructor
  · exact Guarded.of_invariant kept (fun _ _ safe away => safe.not_deletesLeased away)
      (initialTasks_safe storage) away
  · intro state reached
    exact (run_invariant kept (initialTasks_safe storage) away reached).scansExisting

/-- A file is read by a query, then retired and reclaimed. -/
def readThenReclaim : List FileLabel :=
  [.write sampleEntry (.spans []), .register 0 true, .list FileListFilter.default, .query 0, .query 0,
    .query 0, .markDeleted [0] 1, .sweep none [Uuid.nil], .reclaimer 0 true, .reclaimer 0 true,
    .finish 0, .sweep none [Uuid.nil], .reclaimer 1 true, .reclaimer 1 true, .reclaimer 1 true,
    .reclaimer 1 true]

theorem read_then_reclaim_is_safe :
    ((run (fileStep plainStorage) initialTasks readThenReclaim).map fun state =>
      (state.localFiles, state.store.table.entries.length)) = some ([], 0) ∧
    Guarded (fileStep plainStorage) (fun state label => ¬ DeletesLeased state label) initialTasks
      readThenReclaim ∧
    ∀ state, run (fileStep plainStorage) initialTasks readThenReclaim = some state →
      ScansExisting state :=
  ⟨by decide +kernel, readers_safe_of_away plainStorage (by decide +kernel)⟩

/-- The mover checks the leases before a query takes them, and deletes the file under its scan. -/
def moveUnderScan : List FileLabel :=
  [.write sampleEntry (.spans []), .register 0 true, .push 0, .mover 0 true 1,
    .list FileListFilter.default, .query 0, .query 0, .query 0, .mover 0 true 1, .mover 0 true 1,
    .mover 0 true 1, .deleteLocal 0 true]

theorem moved_file_is_deleted_under_scan :
    ¬ ∀ (storage : ObjectStorage) (labels : List FileLabel),
      Guarded (fileStep storage) (fun state label => ¬ DeletesLeased state label) initialTasks labels ∧
        ∀ state, run (fileStep storage) initialTasks labels = some state → ScansExisting state := by
  intro claim
  have gone : ((run (fileStep plainStorage) initialTasks moveUnderScan).map fun state =>
      (state.queries.map fun query => match query.phase with
        | .scanning paths => some paths
        | _ => none, state.localFiles)) = some ([some ["/data/a.parquet"]], []) := by
    decide +kernel
  obtain ⟨state, reached, parts⟩ := Option.map_eq_some_iff.mp gone
  obtain ⟨scans, files⟩ := Prod.mk.inj parts
  have existing := (claim plainStorage moveUnderScan).2 state reached
  -- The only query scans the file that is not there.
  have member : some ["/data/a.parquet"] ∈ state.queries.map fun query => match query.phase with
      | .scanning paths => some paths
      | _ => none := by
    rw [scans]
    exact List.mem_singleton.mpr rfl
  obtain ⟨query, listed, scanning⟩ := List.mem_map.mp member
  cases phase : query.phase with
  | scanning paths =>
    rw [phase] at scanning
    cases scanning
    have there := existing query listed _ phase _ (List.mem_singleton.mpr rfl)
    rw [files] at there
    cases there
  | listed | resolving _ _ | finished =>
    rw [phase] at scanning
    cases scanning

end Zradar.Storage
