import Zradar.Lib.Grouping
import Zradar.Parquet.WriteBuffer

/-! The telemetry writer: batches are split by storage partition, then written or buffered. -/

namespace Zradar.Parquet

/-- The storage partition a row belongs to. -/
structure PartitionKey where
  workspaceId : String
  streamName : String
  hour : String
  deriving DecidableEq, Repr

/-- The slot a partition is buffered in. -/
def PartitionKey.bufferKey (key : PartitionKey) (signalType : String) : BufferKey where
  workspaceId := key.workspaceId
  signalType := signalType
  streamName := key.streamName
  hour := key.hour

/-- Map a service name to its stream name. -/
def streamOf (serviceName : String) : String :=
  if serviceName = "" then "default" else serviceName

/-- Nanoseconds in one UTC hour. -/
def nanosPerHour : Int := 3600000000000

section

variable (env : WriterEnv) {α : Type} [Row α]

/-- The partition of a row. -/
def partitionKeyOf (row : α) : PartitionKey where
  workspaceId := Row.workspaceId row
  streamName := streamOf (Row.serviceName row)
  hour := tsNsToDatePath env (Row.timestamp row)

/-- What homogeneity is tested on, in place of the partition itself. -/
def discriminator (row : α) : String × String × Int :=
  (Row.workspaceId row, streamOf (Row.serviceName row), (Row.timestamp row).toInt / nanosPerHour)

/-- Split rows into partitions, moving each row into the bucket of its own. -/
def partitionOwned (rows : List α) : List (PartitionKey × List α) :=
  match rows with
  | [] => []
  | first :: _ =>
    if rows.all fun row => discriminator row = discriminator first then
      [(partitionKeyOf env first, rows)]
    else groupFirstSeen (partitionKeyOf env) rows

/-- The partitions hold the rows of the batch, and none of them is empty. -/
theorem partitionOwned_spec (rows : List α) :
    ((partitionOwned env rows).flatMap Prod.snd).Perm rows ∧
      ∀ group ∈ partitionOwned env rows, group.2 ≠ [] := by
  cases rows with
  | nil => exact ⟨.nil, by simp [partitionOwned]⟩
  | cons first rest =>
    simp only [partitionOwned]
    split
    · -- A homogeneous batch is passed on as it is.
      simp
    · have grouping := groupFirstSeen_spec (partitionKeyOf env) (first :: rest)
      exact ⟨grouping.perm_flatten, grouping.nonempty⟩

end

/-- The partitions of a batch, each with the rows that belong to it. -/
def partitions (env : WriterEnv) : IngestBatch → List (PartitionKey × IngestBatch)
  | .spans rows => (partitionOwned env rows).map fun group => (group.1, .spans group.2)
  | .metrics rows => (partitionOwned env rows).map fun group => (group.1, .metrics group.2)
  | .logs rows => (partitionOwned env rows).map fun group => (group.1, .logs group.2)
  | .scores rows => (partitionOwned env rows).map fun group => (group.1, .scores group.2)

/-- The writer's storage, and its buffer if it has one. -/
structure WriterState where
  store : ParquetStore
  buffer : Option WriteBuffer
  clock : Nat

/-- Write one partition, or move it into the buffer. -/
def writePartitionOwned (env : WriterEnv) (partition : PartitionKey × IngestBatch)
    (state : WriterState) : WriterState × Except String Unit :=
  match state.buffer with
  | some buffer =>
    let key := partition.1.bufferKey (signalTag partition.2)
    ({ state with buffer := some (buffer.push key partition.2 state.clock) }, .ok ())
  | none =>
    let (store, result) :=
      writeRows env partition.1.workspaceId partition.1.streamName partition.2 state.store
    ({ state with store := store }, result)

/-- Insert a batch, partition by partition. -/
def insertBatch (env : WriterEnv) (batch : IngestBatch) :
    WriterState → WriterState × Except String Unit :=
  attemptAll (writePartitionOwned env) (partitions env batch)

/-- The rows of the partitions are the rows of the batch. -/
theorem partitions_rows (env : WriterEnv) (batch : IngestBatch) :
    ((partitions env batch).flatMap fun partition => partition.2.rows).Perm batch.rows := by
  -- Wrapping the rows of a partition does not change which rows they are.
  have wrapped {α : Type} [Row α] (wrap : List α → IngestBatch) (tag : α → AnyRow)
      (rows : List α) (tagged : ∀ group, (wrap group).rows = group.map tag) :
      (((partitionOwned env rows).map fun group => (group.1, wrap group.2)).flatMap
        fun partition => partition.2.rows).Perm (rows.map tag) := by
    have whole := (partitionOwned_spec env rows).1.map tag
    rw [List.map_flatMap] at whole
    rw [List.flatMap_map]
    simpa only [tagged] using whole
  cases batch with
  | spans rows => exact wrapped .spans .span rows fun _ => rfl
  | metrics rows => exact wrapped .metrics .metric rows fun _ => rfl
  | logs rows => exact wrapped .logs .log rows fun _ => rfl
  | scores rows => exact wrapped .scores .score rows fun _ => rfl

/-- No partition is empty. -/
theorem partitions_nonempty (env : WriterEnv) {batch : IngestBatch}
    {partition : PartitionKey × IngestBatch} (member : partition ∈ partitions env batch) :
    partition.2.rows ≠ [] := by
  cases batch with
  | spans rows | metrics rows | logs rows | scores rows =>
    obtain ⟨group, listed, rfl⟩ := List.mem_map.mp member
    have some := (partitionOwned_spec env rows).2 group listed
    simpa [IngestBatch.rows] using some

end Zradar.Parquet
