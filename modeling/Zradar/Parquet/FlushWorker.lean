import Zradar.Parquet.TelemetryWriter

/-! The background worker that takes slots out of the write buffer and writes them to Parquet. -/

namespace Zradar.Parquet

/-- Where the flush worker stands in its loop. -/
inductive WorkerPhase where
  | idle
  /-- Inside a drain: the keys still to be removed, and the slots removed so far. -/
  | draining (final : Bool) (keys : List BufferKey) (drained : List (BufferKey × BufferSlot))
  /-- Inside `flush_slots`, with the slots still to be written. -/
  | writing (final : Bool) (slots : List (BufferKey × BufferSlot))
  /-- The worker has returned after a shutdown signal. -/
  | stopped

/-- One step of the flush worker. -/
inductive WorkerLabel where
  /-- A tick of the timer or a full slot: look for slots that are due. -/
  | drainEligible
  /-- The shutdown signal: take all slots. -/
  | drainAll
  | removeSlot
  /-- Write one slot, while some of the steps on the store fail. -/
  | flushSlot (faults : List Bool)

/-- The slots that are in the worker's hands only. -/
def WorkerPhase.slots : WorkerPhase → List (BufferKey × BufferSlot)
  | .idle => []
  | .draining _ _ drained => drained
  | .writing _ slots => slots
  | .stopped => []

/-- Write one slot, unless it is empty. -/
def flushOne (env : WriterEnv) (key : BufferKey) (data : IngestBatch) (store : ParquetStore) :
    ParquetStore × Except String Unit :=
  if data.rows.isEmpty then (store, .ok ())
  else
    match writeRows env key.workspaceId key.streamName data store with
    | (next, .ok ()) => (next, .ok ())
    | (next, .error _) =>
      (next, .error ("FlushWorker " ++ writerName data ++ " failed for " ++ key.workspaceId ++ "/" ++
        key.streamName))

/-- The same storage, with other faults ahead. -/
def withFaults (state : WriterState) (faults : List Bool) : WriterState :=
  { state with store := { state.store with faults := faults } }

/-- One step of the worker on the buffer and the storage that it shares with the writer. -/
def workerStep (env : WriterEnv) (flushIntervalSecs : Nat) (writer : WriterState) :
    WorkerPhase → WorkerLabel → Option (WriterState × WorkerPhase)
  | .idle, .drainEligible =>
    -- Only the keys are collected at first.
    writer.buffer.map fun buffer =>
      (writer, .draining false (buffer.eligibleKeys writer.clock flushIntervalSecs) [])
  | .idle, .drainAll =>
    writer.buffer.map fun buffer => (writer, .draining true (buffer.slots.map Prod.fst) [])
  | .draining final (key :: keys) drained, .removeSlot =>
    writer.buffer.map fun buffer =>
      ({ writer with buffer := some (buffer.remove key).2 },
        .draining final keys (drained ++ (buffer.remove key).1.toList))
  | .draining final [] drained, .removeSlot => some (writer, .writing final drained)
  | .writing final ((key, slot) :: slots), .flushSlot faults =>
    -- An error is logged, and the rows of the slot are gone.
    some ({ writer with store := (flushOne env key slot.data (withFaults writer faults).store).1 },
      .writing final slots)
  | .writing final [], .flushSlot _ => some (writer, if final then .stopped else .idle)
  | _, _ => none

/-- The rows of the buffer, if there is one. -/
def WriterState.bufferedRows (writer : WriterState) : List AnyRow :=
  writer.buffer.toList.flatMap fun buffer => slotRows buffer.slots

/-- The rows that are in memory only: in the buffer, or in the hands of the worker. -/
def heldRows (writer : WriterState) (worker : WorkerPhase) : List AnyRow :=
  writer.bufferedRows ++ slotRows worker.slots

/-- Without a buffer there is no worker, and with one its slots are tagged. -/
structure BufferSound (writer : WriterState) (worker : WorkerPhase) : Prop where
  idle : writer.buffer = none → worker = .idle
  tagged : ∀ buffer ∈ writer.buffer, Tagged buffer.slots

/-- What a step on the storage leaves of the rows that were in it before. -/
structure KeepsRows (writer next : WriterState) (before after : WorkerPhase) : Prop where
  stored : ∀ row ∈ writer.store.storedRows, row ∈ next.store.storedRows
  held : ∀ row ∈ heldRows writer before, row ∈ heldRows next after ∨ row ∈ next.store.storedRows

/-- A slot leaves the storage as the write of its rows does, which does nothing for an empty one. -/
theorem flushOne_store (env : WriterEnv) (key : BufferKey) (data : IngestBatch)
    (store : ParquetStore) :
    (flushOne env key data store).1 =
      (writeRows env key.workspaceId key.streamName data store).1 := by
  -- Another text for an error is all that the worker adds.
  unfold flushOne
  split
  · rename_i empty
    rw [writeRows, if_pos empty]
  · split
    · rename_i next written
      rw [written]
    · rename_i next error written
      rw [written]

theorem flushOne_keeps (env : WriterEnv) (key : BufferKey) (data : IngestBatch)
    (store : ParquetStore) :
    ∀ row ∈ store.storedRows, row ∈ (flushOne env key data store).1.storedRows := by
  -- A write only ever adds a file to the list.
  rw [flushOne_store]
  by_cases empty : data.rows = []
  · rw [writeRows, if_pos (by simp [empty])]
    exact fun row member => member
  · exact (writeRows_effect env key.workspaceId key.streamName empty store).keeps

/-- A slot that gets as far as the file list is stored. -/
theorem flushOne_stores (env : WriterEnv) (key : BufferKey) (data : IngestBatch)
    {store : ParquetStore} (before : true ∉ store.faults.take 2) :
    ∀ row ∈ data.rows, row ∈ (flushOne env key data store).1.storedRows := by
  -- Neither the write of the file nor its registration meets a fault.
  intro row member
  have some : data.rows ≠ [] := List.ne_nil_of_mem member
  rw [flushOne_store]
  exact (writeRows_effect env key.workspaceId key.streamName some store).stores before row member

section

variable {env : WriterEnv} {flushIntervalSecs : Nat} {writer next : WriterState}
  {before after : WorkerPhase} {label : WorkerLabel}

/-- The worker's writes get as far as the file list. -/
def Registers : WorkerLabel → Prop
  | .flushSlot faults => true ∉ faults.take 2
  | _ => True

/-- The steps of the worker, one rule for each branch. -/
inductive WorkerStep (env : WriterEnv) (writer : WriterState) :
    WorkerPhase → WorkerLabel → WriterState → WorkerPhase → Prop where
  /-- The keys of the slots to be taken are collected, of some of them or of all. -/
  | collect {label : WorkerLabel} {buffer : WriteBuffer} (final : Bool) (keys : List BufferKey)
      (present : writer.buffer = some buffer) :
    WorkerStep env writer .idle label writer (.draining final keys [])
  | remove {buffer : WriteBuffer} (final : Bool) (key : BufferKey) (keys : List BufferKey)
      (drained : List (BufferKey × BufferSlot)) (present : writer.buffer = some buffer) :
    WorkerStep env writer (.draining final (key :: keys) drained) .removeSlot
      { writer with buffer := some (buffer.remove key).2 }
      (.draining final keys (drained ++ (buffer.remove key).1.toList))
  | drained (final : Bool) (drained : List (BufferKey × BufferSlot)) :
    WorkerStep env writer (.draining final [] drained) .removeSlot writer (.writing final drained)
  | write (final : Bool) (entry : BufferKey × BufferSlot) (slots : List (BufferKey × BufferSlot))
      (faults : List Bool) :
    WorkerStep env writer (.writing final (entry :: slots)) (.flushSlot faults)
      { writer with
        store := (flushOne env entry.1 entry.2.data (withFaults writer faults).store).1 }
      (.writing final slots)
  | done (final : Bool) (faults : List Bool) :
    WorkerStep env writer (.writing final []) (.flushSlot faults) writer
      (if final then .stopped else .idle)

theorem WorkerStep.of_workerStep
    (stepped : workerStep env flushIntervalSecs writer before label = some (next, after)) :
    WorkerStep env writer before label next after := by
  -- The cases are those of the step function, in its order.
  unfold workerStep at stepped
  split at stepped
  · obtain ⟨buffer, present, moved⟩ := Option.map_eq_some_iff.mp stepped
    cases moved
    exact .collect false _ present
  · obtain ⟨buffer, present, moved⟩ := Option.map_eq_some_iff.mp stepped
    cases moved
    exact .collect true _ present
  · obtain ⟨buffer, present, moved⟩ := Option.map_eq_some_iff.mp stepped
    cases moved
    exact .remove _ _ _ _ present
  · cases stepped
    exact .drained _ _
  · cases stepped
    exact .write _ _ _ _
  · cases stepped
    exact .done _ _
  · cases stepped

/-- A step of the worker moves rows along, and drops them only where a write fails early. -/
theorem WorkerStep.keeps (stepped : WorkerStep env writer before label next after)
    (registers : Registers label) : KeepsRows writer next before after := by
  cases stepped with
  | collect final keys present =>
    exact ⟨fun row member => member, fun row member => Or.inl member⟩
  | remove final key keys drained present =>
    rename_i buffer
    refine ⟨fun row member => member, fun row member => Or.inl ?_⟩
    -- The slot goes from the buffer to the worker.
    have split := (buffer.remove_rows key).mem_iff (a := row)
    simp only [heldRows, WriterState.bufferedRows, present, Option.toList_some,
      List.flatMap_singleton, WorkerPhase.slots, List.mem_append, slotRows,
      List.flatMap_append] at member split ⊢
    rcases member with buffered | taken
    · rcases split.mp buffered with moved | left
      · exact Or.inr (Or.inr moved)
      · exact Or.inl left
    · exact Or.inr (Or.inl taken)
  | drained final drained =>
    exact ⟨fun row member => member, fun row member => Or.inl member⟩
  | write final entry slots faults =>
    refine ⟨flushOne_keeps env entry.1 entry.2.data (withFaults writer faults).store, ?_⟩
    intro row member
    have before : true ∉ (withFaults writer faults).store.faults.take 2 := registers
    simp only [heldRows, WorkerPhase.slots, slotRows, List.flatMap_cons, List.mem_append] at member ⊢
    rcases member with buffered | own | rest
    · exact Or.inl (Or.inl buffered)
    · exact Or.inr (flushOne_stores env entry.1 entry.2.data before row own)
    · exact Or.inl (Or.inr rest)
  | done final faults =>
    refine ⟨fun row member => member, fun row member => Or.inl ?_⟩
    cases final <;> exact member

/-- The worker moves slots around as they are. -/
theorem WorkerStep.slotsHold {holds : BufferKey → AnyRow → Prop}
    (stepped : WorkerStep env writer before label next after)
    (buffered : ∀ buffer ∈ writer.buffer, SlotsHold holds buffer.slots)
    (held : SlotsHold holds before.slots) :
    (∀ buffer ∈ next.buffer, SlotsHold holds buffer.slots) ∧ SlotsHold holds after.slots := by
  -- Only the removal of a slot moves entries, from the buffer to the worker.
  cases stepped with
  | collect final keys present => exact ⟨buffered, by simp [SlotsHold, WorkerPhase.slots]⟩
  | remove final key keys drained present =>
    rename_i buffer
    have own := buffered buffer present
    constructor
    · intro left here
      cases Option.mem_some.mp here
      exact fun entry listed => own entry (List.mem_of_mem_filter listed)
    · intro entry listed
      rcases List.mem_append.mp listed with old | taken
      · exact held entry old
      · exact own entry (List.mem_of_find?_eq_some (Option.mem_toList.mp taken))
  | drained final drained => exact ⟨buffered, held⟩
  | write final entry slots faults =>
    exact ⟨buffered, fun other listed => held other (List.mem_cons_of_mem _ listed)⟩
  | done final faults =>
    refine ⟨buffered, ?_⟩
    cases final <;> simp [SlotsHold, WorkerPhase.slots]

theorem BufferSound.workerStep (sound : BufferSound writer before)
    (stepped : WorkerStep env writer before label next after) : BufferSound next after := by
  -- Without a buffer the worker is idle, so it takes no step.
  cases stepped with
  | collect final keys present =>
    exact ⟨fun absent => by simp [present] at absent, sound.tagged⟩
  | remove final key keys drained present =>
    rename_i buffer
    refine ⟨fun absent => by simp at absent, ?_⟩
    intro left here
    cases Option.mem_some.mp here
    exact WriteBuffer.remove_tagged (sound.tagged buffer present) key
  | drained final drained => exact ⟨fun absent => absurd (sound.idle absent) nofun, sound.tagged⟩
  | write final entry slots faults => exact ⟨fun absent => absurd (sound.idle absent) nofun, sound.tagged⟩
  | done final faults => exact ⟨fun absent => absurd (sound.idle absent) nofun, sound.tagged⟩

end

/-- A partition that is buffered is in its slot as it should be. -/
theorem writePartitionOwned_slotsHold {env : WriterEnv} {holds : BufferKey → AnyRow → Prop}
    {part : PartitionKey × IngestBatch}
    (own : ∀ row ∈ part.2.rows, holds (part.1.bufferKey (signalTag part.2)) row)
    {writer : WriterState} (buffered : ∀ buffer ∈ writer.buffer, SlotsHold holds buffer.slots) :
    ∀ buffer ∈ (writePartitionOwned env part writer).1.buffer, SlotsHold holds buffer.slots := by
  -- The partition is pushed to its own slot, or it is written at once.
  unfold writePartitionOwned
  split
  · rename_i buffer present
    intro pushed here
    cases Option.mem_some.mp here
    exact (buffered buffer present).pushSlot own _
  · exact buffered

/-- What the writer does with one partition. -/
structure PartitionKept (writer next : WriterState) (rows : List AnyRow)
    (result : Except String Unit) : Prop where
  stored : ∀ row ∈ writer.store.storedRows, row ∈ next.store.storedRows
  buffered : ∀ row ∈ writer.bufferedRows, row ∈ next.bufferedRows
  /-- An accepted row is in a registered file or in the buffer. -/
  accepted : result = .ok () → ∀ row ∈ rows,
    row ∈ next.bufferedRows ∨ row ∈ next.store.storedRows

theorem writePartitionOwned_kept {env : WriterEnv} {partition : PartitionKey × IngestBatch}
    {writer next : WriterState} {worker : WorkerPhase} {result : Except String Unit}
    (some : partition.2.rows ≠ []) (sound : BufferSound writer worker)
    (written : writePartitionOwned env partition writer = (next, result)) :
    PartitionKept writer next partition.2.rows result ∧ BufferSound next worker := by
  obtain ⟨store, buffer, clock⟩ := writer
  cases buffer with
  | none =>
    -- Without a buffer the rows are written at once.
    have effect := writeRows_effect env partition.1.workspaceId partition.1.streamName some store
    simp only [writePartitionOwned] at written
    generalize writeRows env partition.1.workspaceId partition.1.streamName partition.2 store =
      outcome at effect written
    obtain ⟨stored, answer⟩ := outcome
    cases written
    refine ⟨⟨effect.keeps, fun row member => member, ?_⟩, ⟨sound.idle, sound.tagged⟩⟩
    intro accepted row member
    obtain rfl : answer = .ok () := accepted
    exact Or.inr (effect.stores_of_ok row member)
  | some buffer =>
    cases written
    -- With a buffer the rows join the slot of their key.
    have tagged := sound.tagged buffer rfl
    have named : (partition.1.bufferKey (signalTag partition.2)).signalType =
        signalTag partition.2 := rfl
    have rows := pushSlot_rows tagged named clock
    refine ⟨⟨fun row member => member, ?_, ?_⟩, ⟨fun absent => by simp at absent, ?_⟩⟩
    · intro row member
      simp only [WriterState.bufferedRows, Option.toList_some, List.flatMap_singleton] at member ⊢
      exact rows.mem_iff.mpr (List.mem_append_left _ member)
    · intro _ row member
      left
      simp only [WriterState.bufferedRows, Option.toList_some, List.flatMap_singleton]
      exact rows.mem_iff.mpr (List.mem_append_right _ member)
    · intro pushed here
      cases Option.mem_some.mp here
      exact tagged.pushSlot rfl clock

end Zradar.Parquet
