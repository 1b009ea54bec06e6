import Zradar.Parquet.FlushWorker
import Zradar.Runtime.SilentDrop

/-! What a batch that is delivered again after errors leaves in the registered files. -/

namespace Zradar.Runtime

open Wal Parquet

/-- The rows of a batch of records, as the sink reads them. -/
def batchRows (serde : SerdeJson) (records : List WalRecord) : List AnyRow :=
  (collectRows serde records).batches.flatMap IngestBatch.rows

/-- Deliver records to the sink while some of the steps on the store fail. -/
def deliver (env : WriterEnv) (serde : SerdeJson) (records : List WalRecord) (faults : List Bool)
    (state : WriterState) : WriterState × Except String Unit :=
  flushRecords serde (insertBatch env) records (withFaults state faults)

/-- Deliver the same records again and again, as long as the sink returns an error. -/
def afterFailures (env : WriterEnv) (serde : SerdeJson) (records : List WalRecord) :
    List (List Bool) → WriterState → Option WriterState
  | [], state => some state
  | faults :: later, state =>
    match deliver env serde records faults state with
    | (next, .error _) => afterFailures env serde records later next
    | (_, .ok ()) => none

/-- The partitions that a batch of records is written as, in order. -/
def partitionsOf (env : WriterEnv) (serde : SerdeJson) (records : List WalRecord) :
    List (PartitionKey × IngestBatch) :=
  (collectRows serde records).batches.flatMap (partitions env)

theorem partitionsOf_nonempty (env : WriterEnv) (serde : SerdeJson) (records : List WalRecord) :
    ∀ partition ∈ partitionsOf env serde records, partition.2.rows ≠ [] := by
  intro partition member
  obtain ⟨batch, _, listed⟩ := List.mem_flatMap.mp member
  exact partitions_nonempty env listed

theorem partitionsOf_rows (env : WriterEnv) (serde : SerdeJson) (records : List WalRecord) :
    ((partitionsOf env serde records).flatMap fun partition => partition.2.rows).Perm
      (batchRows serde records) := by
  rw [partitionsOf, batchRows, List.flatMap_assoc]
  exact List.Perm.flatMap_left _ fun batch _ => partitions_rows env batch

/-- Delivering records is writing their partitions one after the other. -/
theorem deliver_eq (env : WriterEnv) (serde : SerdeJson) (records : List WalRecord)
    (faults : List Bool) (state : WriterState) :
    deliver env serde records faults state =
      attemptAll (writePartitionOwned env) (partitionsOf env serde records)
        (withFaults state faults) :=
  attemptAll_flatMap _ _ _ _

section

variable {env : WriterEnv} {units : List (PartitionKey × IngestBatch)} {state final : WriterState}

/-- With a buffer, no partition fails. -/
theorem writePartitions_buffered (buffered : state.buffer ≠ none) :
    (attemptAll (writePartitionOwned env) units state).2 = .ok () := by
  -- With a buffer every partition is accepted at once.
  induction units generalizing state with
  | nil => rfl
  | cons unit units ih =>
    obtain ⟨store, buffer, clock⟩ := state
    cases buffer with
    | none => exact absurd rfl buffered
    | some buffer =>
      rw [attemptAll, writePartitionOwned]
      exact ih (by simp)

/-- Without a buffer, a partition is written as a file of its own. -/
theorem writePartition_effect (env : WriterEnv) (direct : state.buffer = none)
    {unit : PartitionKey × IngestBatch} (some : unit.2.rows ≠ []) :
    ∃ store result, writePartitionOwned env unit state = ({ state with store := store }, result) ∧
      WriteEffect state.store unit.2 (store, result) := by
  refine ⟨(writeRows env unit.1.workspaceId unit.1.streamName unit.2 state.store).1,
    (writeRows env unit.1.workspaceId unit.1.streamName unit.2 state.store).2, ?_,
    writeRows_effect env unit.1.workspaceId unit.1.streamName some state.store⟩
  rw [writePartitionOwned, direct]

/-- If all partitions are written, exactly their rows are added to the registered files. -/
theorem writePartitions_ok (direct : state.buffer = none)
    (some : ∀ unit ∈ units, unit.2.rows ≠ [])
    (done : attemptAll (writePartitionOwned env) units state = (final, .ok ())) :
    final.buffer = none ∧ final.store.storedRows =
      state.store.storedRows ++ units.flatMap fun unit => unit.2.rows := by
  -- The induction takes the partitions one by one, each of which is stored.
  induction units generalizing state with
  | nil =>
    cases done
    exact ⟨direct, by simp⟩
  | cons unit units ih =>
    obtain ⟨store, result, written, effect⟩ :=
      writePartition_effect env direct (some unit List.mem_cons_self)
    rw [attemptAll, written] at done
    cases effect with
    | done next clean rows faults =>
      have without : ({ state with store := store } : WriterState).buffer = none := direct
      obtain ⟨still, stored⟩ := ih without
        (fun other member => some other (List.mem_cons_of_mem _ member)) done
      exact ⟨still, by rw [stored, rows, List.flatMap_cons, List.append_assoc]⟩
    | early next error failed rows => cases done
    | late next error before rows => cases done

/-- If a partition fails, what was registered before stays, and that is nothing only at first. -/
theorem writePartitions_error (direct : state.buffer = none)
    (some : ∀ unit ∈ units, unit.2.rows ≠ []) {error : String}
    (failed : attemptAll (writePartitionOwned env) units state = (final, .error error)) :
    final.buffer = none ∧ ∃ kept, final.store.storedRows = state.store.storedRows ++ kept ∧
      (kept = [] ↔ true ∈ state.store.faults.take 2) := by
  induction units generalizing state with
  | nil => cases failed
  | cons unit units ih =>
    have own := some unit List.mem_cons_self
    obtain ⟨store, result, written, effect⟩ := writePartition_effect env direct own
    rw [attemptAll, written] at failed
    cases effect with
    | done next clean rows faults =>
      -- The first partition is registered, whatever happens to the others.
      have without : ({ state with store := store } : WriterState).buffer = none := direct
      obtain ⟨still, kept, stored, _⟩ := ih without
        (fun other member => some other (List.mem_cons_of_mem _ member)) failed
      refine ⟨still, unit.2.rows ++ kept, by rw [stored, rows, List.append_assoc], ?_⟩
      have before : true ∉ state.store.faults.take 2 := by
        intro early
        exact clean (List.take_subset_take_left _ (by decide) early)
      simp [own, before]
    | early next error early rows =>
      cases failed
      exact ⟨direct, [], by simp [rows], by simp [early]⟩
    | late next error before rows =>
      cases failed
      exact ⟨direct, unit.2.rows, rows, by simp [own, before]⟩

end

/-- Failed deliveries leave rows behind exactly when one of them failed after a registration. -/
theorem afterFailures_kept {env : WriterEnv} {serde : SerdeJson} {records : List WalRecord}
    {failures : List (List Bool)} {state middle : WriterState} (direct : state.buffer = none)
    (failed : afterFailures env serde records failures state = some middle) :
    middle.buffer = none ∧ ∃ kept, middle.store.storedRows = state.store.storedRows ++ kept ∧
      (kept = [] ↔ ∀ faults ∈ failures, true ∈ faults.take 2) := by
  -- Every failed delivery may have left rows behind.
  induction failures generalizing state with
  | nil =>
    cases failed
    exact ⟨direct, [], by simp, by simp⟩
  | cons faults failures ih =>
    rw [afterFailures] at failed
    split at failed
    · rename_i next error first
      rw [deliver_eq] at first
      have start : (withFaults state faults).buffer = none := direct
      obtain ⟨without, kept, stored, early⟩ := writePartitions_error start
        (partitionsOf_nonempty env serde records) first
      obtain ⟨still, more, later, rest⟩ := ih without failed
      refine ⟨still, kept ++ more, ?_, ?_⟩
      · rw [later, stored, List.append_assoc]
        rfl
      · rw [List.append_eq_nil_iff, early, rest, List.forall_mem_cons]
        exact Iff.rfl
    · cases failed

/-- Errors followed by a success store every row once exactly when no error followed a registration. -/
theorem retry_stores_once_iff (env : WriterEnv) (serde : SerdeJson) (records : List WalRecord)
    (state middle final : WriterState) (failures : List (List Bool)) (faults : List Bool)
    (erred : failures ≠ [])
    (failed : afterFailures env serde records failures state = some middle)
    (succeeded : deliver env serde records faults middle = (final, .ok ())) :
    final.store.storedRows.Perm (state.store.storedRows ++ batchRows serde records) ↔
      ∀ attempt ∈ failures, true ∈ attempt.take 2 := by
  -- With a buffer the sink returns no error, so there is none here.
  have direct : state.buffer = none := by
    obtain ⟨first, later, rfl⟩ := List.exists_cons_of_ne_nil erred
    rw [afterFailures, deliver_eq] at failed
    by_contra buffered
    have start : (withFaults state first).buffer ≠ none := buffered
    have accepted : (attemptAll (writePartitionOwned env) (partitionsOf env serde records)
        (withFaults state first)).2 = .ok () := writePartitions_buffered start
    split at failed
    · rename_i next error rejected
      rw [rejected] at accepted
      cases accepted
    · cases failed
  obtain ⟨without, kept, stored, early⟩ := afterFailures_kept direct failed
  rw [deliver_eq] at succeeded
  have again : (withFaults middle faults).buffer = none := without
  obtain ⟨_, added⟩ := writePartitions_ok again (partitionsOf_nonempty env serde records) succeeded
  have rows := partitionsOf_rows env serde records
  have total : final.store.storedRows = (state.store.storedRows ++ kept) ++
      (partitionsOf env serde records).flatMap fun unit => unit.2.rows := by
    rw [added, ← stored]
    rfl
  rw [← early, total]
  constructor
  · -- The rows that were left behind are too many, unless there are none.
    intro same
    have length := same.length_eq
    have batch := rows.length_eq
    simp only [List.length_append] at length
    exact List.eq_nil_of_length_eq_zero (by omega)
  · intro none
    rw [none, List.append_nil]
    exact rows.append_left _

/-- An environment for one file. -/
def sampleEnv : WriterEnv where
  dataDir := "/data"
  dateHour := fun _ => "1970/01/01/00"
  fileId := fun _ => "00000000-0000-4000-8000-000000000000"
  sizes := fun _ => (1000, 500)
  nowUs := 0
  parseStr := fun _ => some Uuid.nil

/-- A store without files, and no buffer in front of it. -/
def emptyWriter : WriterState where
  store := ⟨[], [], [], 0, []⟩
  buffer := none
  clock := 0

/-- The sink reads one batch from the record of a gauge reading of zero. -/
theorem batches_gauge {text : Bytes} (short : text.length < 2 ^ 32) :
    (collectRows (gaugeCodec .zero text) [gaugeRecord text]).batches =
      [.metrics [gaugeMetric .zero]] := by
  -- The one row survives its encoding.
  have read : (readRow (gaugeCodec .zero text) text : Option (RowOf .metric)) =
      some (gaugeRow .zero) := by
    rw [readRow_gauge, Row.fromJson_toJson_eq_self]
    exact zero_gauge_survives _
  have signal : (gaugeRecord text).signalType = .metric := rfl
  rw [collectRows, List.foldl_cons, List.foldl_nil, pushRecord, payloadRows_gauge short,
    List.foldl_cons, List.foldl_nil, signal, pushOne, read]
  rfl

theorem deliver_gauge (faults : List Bool) (state : WriterState) :
    deliver sampleEnv (gaugeCodec .zero (gaugeText "0.0")) [gaugeRecord (gaugeText "0.0")] faults
      state = attemptAll (insertBatch sampleEnv) [.metrics [gaugeMetric .zero]]
        (withFaults state faults) := by
  rw [deliver, flushRecords, batches_gauge (gaugeText_short (by simp))]

/-- What one delivery of the gauge reading leaves behind. -/
def gaugeStored (faults : List Bool) : WriterState :=
  (attemptAll (insertBatch sampleEnv) [.metrics [gaugeMetric .zero]]
    (withFaults emptyWriter faults)).1

/-- A batch whose registration fails once is stored once. -/
theorem retry_after_registration_error :
    ∃ final, deliver sampleEnv (gaugeCodec .zero (gaugeText "0.0")) [gaugeRecord (gaugeText "0.0")]
        [] (gaugeStored [false, true]) = (final, .ok ()) ∧
      final.store.storedRows.Perm (emptyWriter.store.storedRows ++
        batchRows (gaugeCodec .zero (gaugeText "0.0")) [gaugeRecord (gaugeText "0.0")]) := by
  -- The first delivery stores no row, since its registration fails.
  have failed : afterFailures sampleEnv (gaugeCodec .zero (gaugeText "0.0"))
      [gaugeRecord (gaugeText "0.0")] [[false, true]] emptyWriter =
        some (gaugeStored [false, true]) := by
    rw [afterFailures, deliver_gauge]
    rfl
  refine ⟨_, (deliver_gauge [] (gaugeStored [false, true])).trans rfl, ?_⟩
  exact (retry_stores_once_iff sampleEnv _ _ emptyWriter _ _ [[false, true]] [] (by simp) failed
    ((deliver_gauge [] (gaugeStored [false, true])).trans rfl)).mpr (by decide)

/-- A batch whose statistics fail once is stored twice. -/
theorem retry_duplicates_registered_rows :
    ¬ ∀ (env : WriterEnv) (serde : SerdeJson) (records : List WalRecord)
      (state middle final : WriterState) (failures : List (List Bool)) (faults : List Bool),
      failures ≠ [] → afterFailures env serde records failures state = some middle →
      deliver env serde records faults middle = (final, .ok ()) →
      final.store.storedRows.Perm (state.store.storedRows ++ batchRows serde records) := by
  intro claim
  have failed : afterFailures sampleEnv (gaugeCodec .zero (gaugeText "0.0"))
      [gaugeRecord (gaugeText "0.0")] [[false, false, true]] emptyWriter =
        some (gaugeStored [false, false, true]) := by
    rw [afterFailures, deliver_gauge]
    rfl
  have once := claim sampleEnv _ _ emptyWriter _ _ [[false, false, true]] [] (by simp) failed
    ((deliver_gauge [] (gaugeStored [false, false, true])).trans rfl)
  -- The store had the row already when the batch was delivered again.
  have length := once.length_eq
  rw [batchRows, batches_gauge (gaugeText_short (by simp))] at length
  exact absurd length (by decide)

end Zradar.Runtime
