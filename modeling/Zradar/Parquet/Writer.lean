import Zradar.Lib.Attempt
import Zradar.Lib.LexicalPath
import Zradar.Models.Row
import Zradar.Wal.Record

/-! The Parquet file writer: one file per batch, its entry in the file list, and stream statistics. -/

namespace Zradar.Parquet

/-- What the writer takes from outside: the calendar, file names, sizes and the clock. -/
structure WriterEnv where
  dataDir : String
  /-- The UTC date and hour of a number of seconds since the epoch, as `YYYY/MM/DD/HH`. -/
  dateHour : Int → String
  /-- The names of new files, none of which is used twice. -/
  fileId : Nat → String
  /-- The size in memory and the size on disk of a batch. -/
  sizes : IngestBatch → Int64 × Int64
  nowUs : Int64
  parseStr : String → Option Uuid

/-- Format a nanosecond timestamp as the date and hour it is filed under. -/
def tsNsToDatePath (env : WriterEnv) (tsNs : Int64) : String :=
  -- The division truncates, and the nanoseconds do not show in the format.
  env.dateHour (tsNs.toInt.tdiv 1000000000)

/-- Parse a UUID, with the nil one for any other text. -/
def parseUuidOrNil (env : WriterEnv) (text : String) : Uuid :=
  (env.parseStr text).getD Uuid.nil

/-- A file to be registered. -/
structure NewFileListEntry where
  workspaceId : WorkspaceId
  signalType : String
  streamName : String
  date : String
  filePath : String
  location : String
  minTs : Int64
  maxTs : Int64
  records : Int64
  originalSize : Int64
  compressedSize : Int64
  createdAt : Int64
  updatedAt : Int64
  walReplayOffset : Option Int64

/-- What one file adds to the statistics of its stream. -/
structure StreamStatsUpdate where
  workspaceId : WorkspaceId
  signalType : String
  streamName : String
  minTs : Int64
  maxTs : Int64
  recordsDelta : Int64
  originalSizeDelta : Int64
  compressedSizeDelta : Int64

/-- The storage below the writer, and which of the coming steps on it fail. -/
structure ParquetStore where
  /-- Files that are on disk and not in the file list. -/
  unregistered : List (String × IngestBatch)
  /-- The file list, each entry with what its file holds. -/
  fileList : List (NewFileListEntry × IngestBatch)
  streamStats : List StreamStatsUpdate
  /-- The number of files that were ever begun. -/
  filesMade : Nat
  faults : List Bool

/-- The rows in registered files. -/
def ParquetStore.storedRows (store : ParquetStore) : List AnyRow :=
  store.fileList.flatMap fun file => file.2.rows

/-- One step on the store, which happens or fails without an effect. -/
def ParquetStore.attempt (message : String) (effect : ParquetStore → ParquetStore)
    (store : ParquetStore) : ParquetStore × Except String Unit :=
  match store.faults with
  | [] => (effect store, .ok ())
  | false :: faults => (effect { store with faults := faults }, .ok ())
  | true :: faults => ({ store with faults := faults }, .error message)

/-- The sum of two timestamps, cut off at the ends of the range. -/
def saturatingAdd (first second : Int64) : Int64 :=
  Int64.ofInt (max (-2 ^ 63) (min (2 ^ 63 - 1) (first.toInt + second.toInt)))

/-- The storage tag of a batch. -/
def signalTag : IngestBatch → String
  | .spans _ => "traces"
  | .metrics _ => "metrics"
  | .logs _ => "logs"
  | .scores _ => "scores"

/-- The function that writes the rows of a batch. -/
def writerName : IngestBatch → String
  | .spans _ => "write_spans"
  | .metrics _ => "write_metrics"
  | .logs _ => "write_logs"
  | .scores _ => "write_scores"

/-- The first timestamps and the last timestamps that the rows of a batch reach. -/
def reach : IngestBatch → List Int64 × List Int64
  | .spans rows => (rows.map fun row => row.timestamp,
      -- A span lasts until the end of its duration.
      rows.map fun row => saturatingAdd row.timestamp row.durationNs)
  | .metrics rows => (rows.map fun row => row.timestamp, rows.map fun row => row.timestamp)
  | .logs rows => (rows.map fun row => row.timestamp, rows.map fun row => row.timestamp)
  | .scores rows => (rows.map fun row => row.timestamp, rows.map fun row => row.timestamp)

/-- The entry under which `write_batch` registers a file. -/
def batchEntry (env : WriterEnv) (workspaceId streamName signalType : String) (batch : IngestBatch)
    (minTsNs minTsUs maxTsUs : Int64) (fileNumber : Nat) : NewFileListEntry :=
  let date := tsNsToDatePath env minTsNs
  { workspaceId := parseUuidOrNil env workspaceId
    signalType := signalType
    streamName := streamName
    date := date
    filePath := pathJoin env.dataDir ("files/" ++ workspaceId ++ "/" ++ signalType ++ "/" ++
      streamName ++ "/" ++ date ++ "/" ++ (env.fileId fileNumber ++ ".parquet"))
    location := "local"
    minTs := minTsUs
    maxTs := maxTsUs
    records := Int64.ofNat batch.rows.length
    originalSize := (env.sizes batch).1
    compressedSize := (env.sizes batch).2
    createdAt := env.nowUs
    updatedAt := env.nowUs
    -- The position in the WAL is not handed down to here.
    walReplayOffset := none }

/-- The entry under which a batch of one signal is registered. -/
def fileEntry (env : WriterEnv) (workspaceId streamName : String) (batch : IngestBatch)
    (fileNumber : Nat) : NewFileListEntry :=
  let minTsNs := (reach batch).1.min?.getD 0
  let maxTsNs := (reach batch).2.max?.getD 0
  batchEntry env workspaceId streamName (signalTag batch) batch minTsNs (minTsNs / 1000)
    (maxTsNs / 1000) fileNumber

/-- Write the file to a temporary name and rename it. -/
def writeFile (entry : NewFileListEntry) (batch : IngestBatch) (store : ParquetStore) :
    ParquetStore × Except String Unit :=
  store.attempt "Parquet write failed" fun store =>
    { store with
      unregistered := store.unregistered ++ [(entry.filePath, batch)]
      filesMade := store.filesMade + 1 }

/-- Enter a written file in the file list. -/
def registerFile (entry : NewFileListEntry) (batch : IngestBatch) (store : ParquetStore) :
    ParquetStore × Except String Unit :=
  store.attempt "Failed to register file in file_list" fun store =>
    { store with
      unregistered := store.unregistered.filter fun file => file.1 ≠ entry.filePath
      fileList := store.fileList ++ [(entry, batch)] }

/-- Add a file to the statistics of its stream. -/
def upsertStreamStats (entry : NewFileListEntry) (store : ParquetStore) :
    ParquetStore × Except String Unit :=
  store.attempt "Failed to upsert stream_stats" fun store =>
    { store with
      streamStats := store.streamStats ++ [
        { workspaceId := entry.workspaceId
          signalType := entry.signalType
          streamName := entry.streamName
          minTs := entry.minTs
          maxTs := entry.maxTs
          recordsDelta := entry.records
          originalSizeDelta := entry.originalSize
          compressedSizeDelta := entry.compressedSize }] }

/-- Write a batch to Parquet and register it, step by step. -/
def writeBatch (env : WriterEnv) (workspaceId streamName : String) (batch : IngestBatch)
    (store : ParquetStore) : ParquetStore × Except String Unit :=
  let entry := fileEntry env workspaceId streamName batch store.filesMade
  attemptAll id [writeFile entry batch, registerFile entry batch, upsertStreamStats entry] store

/-- Write the rows of one signal, of which there must be some. -/
def writeRows (env : WriterEnv) (workspaceId streamName : String) (batch : IngestBatch)
    (store : ParquetStore) : ParquetStore × Except String Unit :=
  if batch.rows.isEmpty then (store, .error (writerName batch ++ " called with empty slice"))
  else writeBatch env workspaceId streamName batch store

/-- How far the three steps of a write come, and what they change. -/
inductive WriteSteps (store : ParquetStore) (entry : NewFileListEntry) (batch : IngestBatch) :
    ParquetStore × Except String Unit → Prop where
  | done (next : ParquetStore) (clean : true ∉ store.faults.take 3)
      (files : next.fileList = store.fileList ++ [(entry, batch)])
      (stats : next.streamStats = store.streamStats ++
        [⟨entry.workspaceId, entry.signalType, entry.streamName, entry.minTs, entry.maxTs,
          entry.records, entry.originalSize, entry.compressedSize⟩])
      (faults : next.faults = store.faults.drop 3) :
    WriteSteps store entry batch (next, .ok ())
  /-- The file is not written, or not registered. -/
  | early (next : ParquetStore) (error : String) (failed : true ∈ store.faults.take 2)
      (files : next.fileList = store.fileList) (stats : next.streamStats = store.streamStats) :
    WriteSteps store entry batch (next, .error error)
  /-- The file is registered, and not counted. -/
  | late (next : ParquetStore) (error : String) (before : true ∉ store.faults.take 2)
      (files : next.fileList = store.fileList ++ [(entry, batch)])
      (stats : next.streamStats = store.streamStats) :
    WriteSteps store entry batch (next, .error error)

theorem writeBatch_steps (env : WriterEnv) (workspaceId streamName : String) (batch : IngestBatch)
    (store : ParquetStore) :
    WriteSteps store (fileEntry env workspaceId streamName batch store.filesMade) batch
      (writeBatch env workspaceId streamName batch store) := by
  obtain ⟨unregistered, fileList, streamStats, filesMade, faults⟩ := store
  -- The three steps take one fault each, and a list that ends early means no more faults.
  rcases faults with _ | ⟨first, _ | ⟨second, _ | ⟨third, rest⟩⟩⟩
  · exact .done _ (by simp) rfl rfl rfl
  · cases first
    · exact .done _ (by simp) rfl rfl rfl
    · exact .early _ _ (by simp) rfl rfl
  · cases first
    · cases second
      · exact .done _ (by simp) rfl rfl rfl
      · exact .early _ _ (by simp) rfl rfl
    · exact .early _ _ (by simp) rfl rfl
  · cases first
    · cases second
      · cases third
        · exact .done _ (by simp) rfl rfl rfl
        · exact .late _ _ (by simp) rfl rfl
      · exact .early _ _ (by simp) rfl rfl
    · exact .early _ _ (by simp) rfl rfl

/-- A file that is registered adds its rows. -/
theorem storedRows_of_fileList {store next : ParquetStore} {file : NewFileListEntry × IngestBatch}
    (files : next.fileList = store.fileList ++ [file]) :
    next.storedRows = store.storedRows ++ file.2.rows := by
  rw [ParquetStore.storedRows, ParquetStore.storedRows, files, List.flatMap_append,
    List.flatMap_singleton]

/-- What writing one batch does, by the first of its three steps that fails. -/
inductive WriteEffect (store : ParquetStore) (batch : IngestBatch) :
    ParquetStore × Except String Unit → Prop where
  /-- The file is registered, and so are its statistics. -/
  | done (next : ParquetStore) (clean : true ∉ store.faults.take 3)
      (rows : next.storedRows = store.storedRows ++ batch.rows)
      (faults : next.faults = store.faults.drop 3) : WriteEffect store batch (next, .ok ())
  /-- Nothing is registered. -/
  | early (next : ParquetStore) (error : String) (failed : true ∈ store.faults.take 2)
      (rows : next.storedRows = store.storedRows) : WriteEffect store batch (next, .error error)
  /-- The file is registered, although the caller gets an error. -/
  | late (next : ParquetStore) (error : String) (before : true ∉ store.faults.take 2)
      (rows : next.storedRows = store.storedRows ++ batch.rows) :
    WriteEffect store batch (next, .error error)

theorem writeBatch_effect (env : WriterEnv) (workspaceId streamName : String) (batch : IngestBatch)
    (store : ParquetStore) :
    WriteEffect store batch (writeBatch env workspaceId streamName batch store) := by
  -- Only the rows of the registered files are looked at here.
  have steps := writeBatch_steps env workspaceId streamName batch store
  generalize writeBatch env workspaceId streamName batch store = outcome at steps ⊢
  cases steps with
  | done next clean files stats faults =>
    exact .done next clean (storedRows_of_fileList files) faults
  | early next error failed files stats =>
    refine .early next error failed ?_
    rw [ParquetStore.storedRows, ParquetStore.storedRows, files]
  | late next error before files stats =>
    exact .late next error before (storedRows_of_fileList files)

theorem writeRows_effect (env : WriterEnv) (workspaceId streamName : String) {batch : IngestBatch}
    (some : batch.rows ≠ []) (store : ParquetStore) :
    WriteEffect store batch (writeRows env workspaceId streamName batch store) := by
  rw [writeRows, if_neg (by simpa using some)]
  exact writeBatch_effect env workspaceId streamName batch store

namespace WriteEffect

variable {store next : ParquetStore} {batch : IngestBatch} {result : Except String Unit}

/-- No write takes a row out of the registered files. -/
theorem keeps (effect : WriteEffect store batch (next, result)) :
    ∀ row ∈ store.storedRows, row ∈ next.storedRows := by
  intro row member
  cases effect with
  | done _ clean rows faults => exact rows ▸ List.mem_append_left _ member
  | early _ error failed rows => exact rows ▸ member
  | late _ error before rows => exact rows ▸ List.mem_append_left _ member

/-- A write that gets as far as the file list stores the batch, whatever it returns. -/
theorem stores (effect : WriteEffect store batch (next, result))
    (before : true ∉ store.faults.take 2) : ∀ row ∈ batch.rows, row ∈ next.storedRows := by
  intro row member
  cases effect with
  | done _ clean rows faults => exact rows ▸ List.mem_append_right _ member
  | early _ error failed rows => exact absurd failed before
  | late _ error before rows => exact rows ▸ List.mem_append_right _ member

/-- A write that returns no error stores the batch. -/
theorem stores_of_ok (effect : WriteEffect store batch (next, .ok ())) :
    ∀ row ∈ batch.rows, row ∈ next.storedRows := by
  intro row member
  cases effect with
  | done _ clean rows faults => exact rows ▸ List.mem_append_right _ member

end WriteEffect

end Zradar.Parquet
