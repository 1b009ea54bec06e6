import Zradar.Lib.Buckets
import Zradar.Lib.Cells
import Zradar.Lib.Fallible
import Zradar.Lib.FixedWidth
import Zradar.Lib.Tally
import Zradar.Policies.PolicyTable
import Zradar.Storage.LiveBytes

/-! The report of the live files of a workspace by their age, in periods of thirty days. -/

namespace Zradar.Storage

open Parquet Policies

/-- What the live files of one signal come to whose age is in one period. -/
structure RetentionUsageBucket where
  signal : SignalKind
  retentionPeriodIndex : UInt32
  compressedBytes : Int64
  records : Int64
  fileCount : Int64
  deriving DecidableEq

/-- Why there is no report. -/
inductive RetentionReportError where
  | usageUnavailable (message : String)
  | policy (error : PolicyError)
  deriving DecidableEq

/-- Thirty days in microseconds. -/
def bucketMicros : Int64 := 30 * 86400 * 1000000

/-- A row of the query behind the report. -/
structure BucketRow where
  signalType : String
  bucketIndex : Int64
  compressedBytes : Int64
  records : Int64
  fileCount : Int64

/-- The index that the query computes for a file, from its age at a reading of the clock. -/
def bucketIndex (now : Int64) (file : FileListEntry) : Except String Int64 := do
  let age ← bigint (now.toInt - file.maxTs.toInt)
  pure (max (age / bucketMicros) 0)

/-- The sums over the files that share a signal type and an index. -/
def bucketRow (cell : Cell (Int64 × FileListEntry) Int64 String) : Except String BucketRow := do
  let compressedBytes ← sumOf (fun row => row.2.compressedSize) cell.rows
  let records ← sumOf (fun row => row.2.records) cell.rows
  let fileCount ← bigint cell.rows.length
  pure ⟨cell.group, cell.bucket, compressedBytes, records, fileCount⟩

section

variable
  -- The collation of the database, which orders the texts of a column.
  (collate : String → String → Bool)

/-- The order of the report: by signal type, and then by index. -/
def BucketRow.before (first second : BucketRow) : Bool :=
  if first.signalType = second.signalType then first.bucketIndex ≤ second.bucketIndex
  else collate first.signalType second.signalType

variable (files : FileStore) (now : Int64) (workspaceId : WorkspaceId) (signal : SignalKind)

/-- The live files that the query is about, which is all of them for all signals. -/
def reportedFiles : List FileListEntry :=
  files.liveEntries.filter (queriedFor workspaceId signal)

/-- Run the query behind the report. -/
def queryBuckets : Except String (List BucketRow) := do
  let indexed ← (reportedFiles files workspaceId signal).mapM fun file => do
    let index ← bucketIndex now file
    pure (index, file)
  let rows ← (cells Prod.fst (fun row => row.2.signalType) indexed).mapM bucketRow
  pure (rows.insertionSort fun first second => first.before collate second)

/-- The index of a row as the report has it, with zero for one that does not fit. -/
def retentionPeriodIndex (bucketIndex : Int64) : UInt32 :=
  if 0 ≤ bucketIndex.toInt ∧ bucketIndex.toInt < 2 ^ 32 then .ofNat bucketIndex.toInt.toNat else 0

/-- A signal as it is written in its column, read by the same names as in the table of policies. -/
def RetentionUsageBucket.parseSignalKind : String → Except PolicyError SignalKind :=
  PolicyRow.parseSignalKind

/-- The bucket of a row, if its signal type is known. -/
def BucketRow.toBucket (row : BucketRow) : Except PolicyError RetentionUsageBucket := do
  let signal ← RetentionUsageBucket.parseSignalKind row.signalType
  pure ⟨signal, retentionPeriodIndex row.bucketIndex, row.compressedBytes, row.records,
    row.fileCount⟩

/-- Report how many files are how old. -/
def retentionBuckets : Except RetentionReportError (List RetentionUsageBucket) :=
  match queryBuckets collate files now workspaceId signal with
  | .error message => .error (.usageUnavailable message)
  | .ok rows => (rows.mapM BucketRow.toBucket).mapError .policy

end

/-- The columns of the report that are summed. -/
inductive BucketColumn where
  | compressedBytes
  | records
  | fileCount

/-- What one file adds to a column. -/
def BucketColumn.ofFile (file : FileListEntry) : BucketColumn → Int
  | .compressedBytes => file.compressedSize.toInt
  | .records => file.records.toInt
  | .fileCount => 1

/-- What a bucket says in a column. -/
def BucketColumn.ofBucket (bucket : RetentionUsageBucket) : BucketColumn → Int
  | .compressedBytes => bucket.compressedBytes.toInt
  | .records => bucket.records.toInt
  | .fileCount => bucket.fileCount.toInt

/-- How long a file has ended, in microseconds. -/
def age (now : Int64) (file : FileListEntry) : Int := now.toInt - file.maxTs.toInt

/-- A file belongs to a bucket: it is of the signal, and its age is in the period. -/
structure Selects (now : Int64) (bucket : RetentionUsageBucket) (file : FileListEntry) : Prop where
  signal : file.signalType = signalTypeOf bucket.signal
  period : InPeriod bucketMicros.toInt bucket.retentionPeriodIndex.toNat (age now file)

instance (now : Int64) (bucket : RetentionUsageBucket) (file : FileListEntry) :
    Decidable (Selects now bucket file) :=
  decidable_of_iff (file.signalType = signalTypeOf bucket.signal ∧
      InPeriod bucketMicros.toInt bucket.retentionPeriodIndex.toNat (age now file))
    ⟨fun ⟨signal, period⟩ => ⟨signal, period⟩, fun selects => ⟨selects.signal, selects.period⟩⟩

/-- What the files that are chosen come to in a column. -/
def columnTotal (column : BucketColumn) (chosen : FileListEntry → Bool)
    (live : List FileListEntry) : Int :=
  tally (fun file => column.ofFile file) chosen live

/-- A report that counts each file in the one bucket that its age selects, and loses nothing. -/
structure Partitions (now : Int64) (live : List FileListEntry)
    (report : List RetentionUsageBucket) : Prop where
  distinct : report.Nodup
  once : ∀ file ∈ live, ∃! bucket, bucket ∈ report ∧ Selects now bucket file
  sums : ∀ bucket ∈ report, ∀ column : BucketColumn,
    column.ofBucket bucket = columnTotal column (fun file => Selects now bucket file) live
  totals : ∀ (signal : SignalKind) (column : BucketColumn),
    tally (fun bucket => column.ofBucket bucket) (fun bucket => bucket.signal = signal) report =
      columnTotal column (fun file => file.signalType = signalTypeOf signal) live

/-- Two files are of one signal type, and their ages are in one period. -/
def SamePeriod (now : Int64) (file other : FileListEntry) : Prop :=
  other.signalType = file.signalType ∧
    (age now other / bucketMicros.toInt).toNat = (age now file / bucketMicros.toInt).toNat

instance (now : Int64) (file other : FileListEntry) : Decidable (SamePeriod now file other) :=
  inferInstanceAs (Decidable (_ ∧ _))

/-- Files that can be reported: their signals are known, and every number fits its column. -/
structure Reportable (now : Int64) (live : List FileListEntry) : Prop where
  known : ∀ file ∈ live, ∃ signal, file.signalType = signalTypeOf signal
  ages : ∀ file ∈ live, FitsBigint (age now file)
  sums : ∀ file ∈ live, ∀ column : BucketColumn,
    FitsBigint (columnTotal column (fun other => SamePeriod now file other) live)

/-- A `bigint` is made exactly of a number that fits. -/
theorem bigint_eq_ok_iff {total : Int} {value : Int64} :
    bigint total = .ok value ↔ FitsBigint total ∧ value = Int64.ofInt total := by
  -- Anything else is an error of the database.
  unfold bigint
  by_cases fits : FitsBigint total
  · rw [if_pos (show -2 ^ 63 ≤ total ∧ total < 2 ^ 63 from fits)]
    simp only [fits, true_and, Except.ok.injEq]
    exact eq_comm
  · rw [if_neg (show ¬ (-2 ^ 63 ≤ total ∧ total < 2 ^ 63) from fits)]
    simp [fits]

theorem toInt_ofInt_of_fits {total : Int} (fits : FitsBigint total) :
    (Int64.ofInt total).toInt = total :=
  Int64.toInt_ofInt_of_le fits.1 fits.2

/-- The index of a file whose age fits. -/
def exactIndex (now : Int64) (file : FileListEntry) : Int64 :=
  max (Int64.ofInt (age now file) / bucketMicros) 0

theorem bucketIndex_eq_ok_iff {now index : Int64} {file : FileListEntry} :
    bucketIndex now file = .ok index ↔
      FitsBigint (age now file) ∧ index = exactIndex now file := by
  -- Only the subtraction can fail.
  unfold bucketIndex exactIndex
  rw [Fallible.bind_eq_ok]
  constructor
  · rintro ⟨value, read, same⟩
    obtain ⟨fits, rfl⟩ := bigint_eq_ok_iff.mp read
    cases same
    exact ⟨fits, rfl⟩
  · rintro ⟨fits, rfl⟩
    exact ⟨_, bigint_eq_ok_iff.mpr ⟨fits, rfl⟩, rfl⟩

/-- The index is the number of the period that the age is in. -/
theorem exactIndex_toInt {now : Int64} {file : FileListEntry} (fits : FitsBigint (age now file)) :
    (exactIndex now file).toInt = (age now file / bucketMicros.toInt).toNat := by
  -- The database cuts the quotient off, and raises it to zero.
  have quotient : (Int64.ofInt (age now file) / bucketMicros).toInt =
      (age now file).tdiv bucketMicros.toInt := by
    rw [FixedWidth.toInt_div_of_pos _ (by decide), toInt_ofInt_of_fits fits]
  rw [← max_tdiv_zero (by decide), ← quotient, exactIndex]
  show (if _ ≤ (0 : Int64) then (0 : Int64) else _).toInt = _
  have zero : (0 : Int64).toInt = 0 := rfl
  split
  · rename_i below
    rw [Int64.le_iff_toInt_le, zero] at below
    rw [zero, max_eq_right below]
  · rename_i above
    rw [Int64.le_iff_toInt_le, zero] at above
    rw [max_eq_left (by omega)]

/-- Every index fits in the report. -/
theorem retentionPeriodIndex_exactIndex {now : Int64} {file : FileListEntry}
    (fits : FitsBigint (age now file)) :
    (retentionPeriodIndex (exactIndex now file)).toNat =
      (age now file / bucketMicros.toInt).toNat := by
  -- Even the longest age has only some millions of periods.
  have index := exactIndex_toInt fits
  have width : bucketMicros.toInt = 2592000000000 := rfl
  have few : age now file / bucketMicros.toInt < 2 ^ 32 := by
    have below := fits.2
    rw [width]
    omega
  rw [retentionPeriodIndex, if_pos (by omega), UInt32.toNat_ofNat_of_lt']
  · omega
  · rw [UInt32.size]
    omega

/-- Two files have one index exactly if their ages are in one period. -/
theorem exactIndex_eq_iff {now : Int64} {file other : FileListEntry}
    (fits : FitsBigint (age now file)) (same : FitsBigint (age now other)) :
    exactIndex now other = exactIndex now file ↔
      (age now other / bucketMicros.toInt).toNat = (age now file / bucketMicros.toInt).toNat := by
  -- Each index is the number of its period.
  rw [← Int64.toInt_inj, exactIndex_toInt fits, exactIndex_toInt same]
  omega

/-- A name of a signal is read as the signal that is written so. -/
theorem parseSignalKind_eq_ok_iff {value : String} {signal : SignalKind} :
    RetentionUsageBucket.parseSignalKind value = .ok signal ↔ value = signalTypeOf signal := by
  -- The names are read by the same table as they are written.
  constructor
  · intro read
    unfold RetentionUsageBucket.parseSignalKind PolicyRow.parseSignalKind at read
    split at read <;> cases read <;> rfl
  · rintro rfl
    cases signal <;> rfl

/-- The sums over the files of a cell fit their columns. -/
def SumsFit (cell : Cell FileListEntry Int64 String) : Prop :=
  ∀ column : BucketColumn, FitsBigint (cell.rows.map fun file => column.ofFile file).sum

/-- The row of a cell whose sums fit. -/
def exactRow (cell : Cell FileListEntry Int64 String) : BucketRow where
  signalType := cell.group
  bucketIndex := cell.bucket
  compressedBytes := .ofInt (cell.rows.map fun file => BucketColumn.compressedBytes.ofFile file).sum
  records := .ofInt (cell.rows.map fun file => BucketColumn.records.ofFile file).sum
  fileCount := .ofInt (cell.rows.map fun file => BucketColumn.fileCount.ofFile file).sum

/-- A cell of files, each beside the index that was computed for it. -/
def indexedCell (now : Int64) (cell : Cell FileListEntry Int64 String) :
    Cell (Int64 × FileListEntry) Int64 String :=
  ⟨cell.bucket, cell.group, cell.rows.map fun file => (exactIndex now file, file)⟩

theorem bucketRow_eq_ok_iff {now : Int64} {cell : Cell FileListEntry Int64 String}
    {row : BucketRow} :
    bucketRow (indexedCell now cell) = .ok row ↔ SumsFit cell ∧ row = exactRow cell := by
  -- Each of the three columns is one sum.
  have sum (value : Int64) (column : FileListEntry → Int64) :
      sumOf (fun row => column row.2) (indexedCell now cell).rows = .ok value ↔
        FitsBigint (cell.rows.map fun file => (column file).toInt).sum ∧
          value = .ofInt (cell.rows.map fun file => (column file).toInt).sum := by
    rw [sumOf, bigint_eq_ok_iff, indexedCell, List.map_map]
    rfl
  have count (value : Int64) :
      bigint (indexedCell now cell).rows.length = .ok value ↔
        FitsBigint (cell.rows.map fun file => BucketColumn.fileCount.ofFile file).sum ∧
          value = .ofInt (cell.rows.map fun file => BucketColumn.fileCount.ofFile file).sum := by
    rw [bigint_eq_ok_iff, indexedCell, List.length_map]
    simp [BucketColumn.ofFile]
  unfold bucketRow
  rw [Fallible.bind_eq_ok]
  constructor
  · rintro ⟨bytes, first, rest⟩
    obtain ⟨records, second, rest⟩ := Fallible.bind_eq_ok.mp rest
    obtain ⟨files, third, same⟩ := Fallible.bind_eq_ok.mp rest
    obtain ⟨bytesFit, rfl⟩ := (sum bytes fun file => file.compressedSize).mp first
    obtain ⟨recordsFit, rfl⟩ := (sum records fun file => file.records).mp second
    obtain ⟨filesFit, rfl⟩ := (count files).mp third
    cases same
    refine ⟨?_, rfl⟩
    intro column
    cases column with
    | compressedBytes => exact bytesFit
    | records => exact recordsFit
    | fileCount => exact filesFit
  · rintro ⟨fits, rfl⟩
    refine ⟨_, (sum _ fun file => file.compressedSize).mpr ⟨fits .compressedBytes, rfl⟩, ?_⟩
    refine Fallible.bind_eq_ok.mpr ⟨_, (sum _ fun file => file.records).mpr ⟨fits .records, rfl⟩, ?_⟩
    exact Fallible.bind_eq_ok.mpr ⟨_, (count _).mpr ⟨fits .fileCount, rfl⟩, rfl⟩

/-- The signal that is written as a name, if there is one. -/
def signalOf (name : String) : SignalKind :=
  match RetentionUsageBucket.parseSignalKind name with
  | .ok signal => signal
  | .error _ => .all

@[simp] theorem signalOf_signalTypeOf (signal : SignalKind) :
    signalOf (signalTypeOf signal) = signal := by
  -- Its own name is read back.
  rw [signalOf, parseSignalKind_eq_ok_iff.mpr rfl]

/-- The bucket of a row whose signal is known. -/
def exactBucket (row : BucketRow) : RetentionUsageBucket :=
  ⟨signalOf row.signalType, retentionPeriodIndex row.bucketIndex, row.compressedBytes, row.records,
    row.fileCount⟩

theorem toBucket_eq_ok_iff {row : BucketRow} {bucket : RetentionUsageBucket} :
    row.toBucket = .ok bucket ↔
      (∃ signal, row.signalType = signalTypeOf signal) ∧ bucket = exactBucket row := by
  -- Only the signal can be refused.
  unfold BucketRow.toBucket exactBucket
  rw [Fallible.bind_eq_ok]
  constructor
  · rintro ⟨signal, read, same⟩
    have named := parseSignalKind_eq_ok_iff.mp read
    cases same
    exact ⟨⟨signal, named⟩, by rw [named, signalOf_signalTypeOf]⟩
  · rintro ⟨⟨signal, named⟩, rfl⟩
    refine ⟨signal, parseSignalKind_eq_ok_iff.mpr named, ?_⟩
    rw [named, signalOf_signalTypeOf]
    rfl

section

variable (collate : String → String → Bool) (now : Int64) (live : List FileListEntry)

/-- The files of one signal type and one index. -/
def fileCells : List (Cell FileListEntry Int64 String) :=
  cells (exactIndex now) (fun file => file.signalType) live

/-- The report, if there is one. -/
def exactReport : List RetentionUsageBucket :=
  (((fileCells now live).map exactRow).insertionSort fun first second =>
    first.before collate second).map exactBucket

variable (files : FileStore) (workspaceId : WorkspaceId) (signal : SignalKind)

/-- The query succeeds exactly if every age and every sum fits. -/
theorem queryBuckets_eq_ok_iff {rows : List BucketRow} :
    queryBuckets collate files now workspaceId signal = .ok rows ↔
      (∀ file ∈ reportedFiles files workspaceId signal, FitsBigint (age now file)) ∧
        (∀ cell ∈ fileCells now (reportedFiles files workspaceId signal), SumsFit cell) ∧
        rows = ((fileCells now (reportedFiles files workspaceId signal)).map exactRow).insertionSort
          fun first second => first.before collate second := by
  -- First the indices are computed, and then the sums over each of the cells.
  have index (file : FileListEntry) (indexed : Int64 × FileListEntry) :
      (do let index ← bucketIndex now file; pure (index, file)) = Except.ok indexed ↔
        FitsBigint (age now file) ∧ indexed = (exactIndex now file, file) := by
    rw [Fallible.bind_eq_ok]
    constructor
    · rintro ⟨index, read, same⟩
      obtain ⟨fits, rfl⟩ := bucketIndex_eq_ok_iff.mp read
      cases same
      exact ⟨fits, rfl⟩
    · rintro ⟨fits, rfl⟩
      exact ⟨_, bucketIndex_eq_ok_iff.mpr ⟨fits, rfl⟩, rfl⟩
  have grouped : cells Prod.fst (fun row => row.2.signalType)
      ((reportedFiles files workspaceId signal).map fun file => (exactIndex now file, file)) =
        (fileCells now (reportedFiles files workspaceId signal)).map (indexedCell now) :=
    cells_map _ _
  unfold queryBuckets
  rw [Fallible.bind_eq_ok]
  constructor
  · rintro ⟨indexed, read, rest⟩
    obtain ⟨ages, rfl⟩ := (Fallible.mapM_eq_ok_map index).mp read
    obtain ⟨summed, sums, same⟩ := Fallible.bind_eq_ok.mp rest
    rw [grouped, List.mapM_map] at sums
    obtain ⟨fit, rfl⟩ := (Fallible.mapM_eq_ok_map fun _ _ => bucketRow_eq_ok_iff).mp sums
    cases same
    exact ⟨ages, fit, rfl⟩
  · rintro ⟨ages, fit, rfl⟩
    refine ⟨_, (Fallible.mapM_eq_ok_map index).mpr ⟨ages, rfl⟩, ?_⟩
    refine Fallible.bind_eq_ok.mpr ⟨_, ?_, rfl⟩
    rw [grouped, List.mapM_map]
    exact (Fallible.mapM_eq_ok_map fun _ _ => bucketRow_eq_ok_iff).mpr ⟨fit, rfl⟩

/-- The signal types of the cells are those of the files. -/
theorem known_fileCells_iff :
    (∀ cell ∈ fileCells now live, ∃ signal, cell.group = signalTypeOf signal) ↔
      ∀ file ∈ live, ∃ signal, file.signalType = signalTypeOf signal := by
  -- Each cell has a file, and each file has a cell.
  constructor
  · intro known file listed
    exact known _ (cell_of_row (exactIndex now) (fun file => file.signalType) listed)
  · intro known cell member
    obtain ⟨⟨file, listed, _, named⟩, _⟩ := mem_cells.mp member
    obtain ⟨signal, written⟩ := known file listed
    exact ⟨signal, named.symm.trans written⟩

/-- There is a report exactly if every age and every sum fits, and every signal is known. -/
theorem retentionBuckets_eq_ok_iff {report : List RetentionUsageBucket} :
    retentionBuckets collate files now workspaceId signal = .ok report ↔
      (∀ file ∈ reportedFiles files workspaceId signal, FitsBigint (age now file)) ∧
        (∀ cell ∈ fileCells now (reportedFiles files workspaceId signal), SumsFit cell) ∧
        (∀ file ∈ reportedFiles files workspaceId signal,
          ∃ signal, file.signalType = signalTypeOf signal) ∧
        report = exactReport collate now (reportedFiles files workspaceId signal) := by
  -- What the query gives is turned into buckets, row by row.
  rw [← known_fileCells_iff now]
  have sorted (row : BucketRow) :
      row ∈ ((fileCells now (reportedFiles files workspaceId signal)).map exactRow).insertionSort
          (fun first second => first.before collate second) ↔
        ∃ cell ∈ fileCells now (reportedFiles files workspaceId signal), exactRow cell = row := by
    rw [List.mem_insertionSort, List.mem_map]
  unfold retentionBuckets
  cases queried : queryBuckets collate files now workspaceId signal with
  | error message =>
    simp only [reduceCtorEq, false_iff]
    rintro ⟨ages, fit, -, -⟩
    have succeeds := (queryBuckets_eq_ok_iff collate now files workspaceId signal).mpr
      ⟨ages, fit, rfl⟩
    rw [queried] at succeeds
    cases succeeds
  | ok rows =>
    obtain ⟨ages, fit, rfl⟩ := (queryBuckets_eq_ok_iff collate now files workspaceId signal).mp queried
    rw [and_iff_right ages, and_iff_right fit, Fallible.mapError_eq_ok,
      Fallible.mapM_eq_ok_map fun _ _ => toBucket_eq_ok_iff]
    refine and_congr ?_ Iff.rfl
    constructor
    · intro known cell member
      exact known _ ((sorted _).mpr ⟨cell, member, rfl⟩)
    · intro known row member
      obtain ⟨cell, inside, rfl⟩ := (sorted row).mp member
      exact known cell inside

/-- Each bucket of the report is that of a cell. -/
theorem mem_exactReport {bucket : RetentionUsageBucket} :
    bucket ∈ exactReport collate now live ↔
      ∃ cell ∈ fileCells now live, exactBucket (exactRow cell) = bucket := by
  -- Sorting keeps the rows.
  simp [exactReport, List.mem_insertionSort]

end

section

variable {now : Int64} {live : List FileListEntry}

/-- The files of a cell are those of one signal type whose ages are in one period. -/
theorem cell_rows_eq (ages : ∀ file ∈ live, FitsBigint (age now file)) {file : FileListEntry}
    (listed : file ∈ live) :
    (live.filter fun other => exactIndex now other = exactIndex now file ∧
      other.signalType = file.signalType) = live.filter fun other => SamePeriod now file other := by
  -- One index stands for one period.
  refine List.filter_congr fun other inside => ?_
  rw [decide_eq_decide, exactIndex_eq_iff (ages file listed) (ages other inside)]
  exact and_comm

/-- The sums of the cells fit exactly if those of the files in each period do. -/
theorem sumsFit_iff (ages : ∀ file ∈ live, FitsBigint (age now file)) :
    (∀ cell ∈ fileCells now live, SumsFit cell) ↔
      ∀ file ∈ live, ∀ column : BucketColumn,
        FitsBigint (columnTotal column (fun other => SamePeriod now file other) live) := by
  -- The cell of a file and the period of a file have the same members.
  constructor
  · intro fit file listed column
    have own := fit _ (cell_of_row (exactIndex now) (fun file => file.signalType) listed) column
    rw [cell_rows_eq ages listed] at own
    exact own
  · intro fit cell member column
    -- A cell has a file, and its rows are the files in the period of that one.
    obtain ⟨⟨file, listed, index, name⟩, held⟩ := mem_cells.mp member
    rw [held, ← index, ← name, cell_rows_eq ages listed]
    exact fit file listed column

/-- A file that can be reported belongs to the bucket of a cell exactly if it is in the cell. -/
theorem selects_exactBucket_iff (reportable : Reportable now live)
    {cell : Cell FileListEntry Int64 String} (member : cell ∈ fileCells now live)
    {file : FileListEntry} (listed : file ∈ live) :
    Selects now (exactBucket (exactRow cell)) file ↔
      exactIndex now file = cell.bucket ∧ file.signalType = cell.group := by
  -- The cell has some file, whose signal is known and whose age fits.
  obtain ⟨⟨other, inside, index, name⟩, _⟩ := mem_cells.mp member
  obtain ⟨signal, written⟩ := reportable.known other inside
  have read : signalTypeOf (signalOf cell.group) = cell.group := by
    rw [← name, written, signalOf_signalTypeOf]
  have period : InPeriod bucketMicros.toInt (retentionPeriodIndex cell.bucket).toNat
      (age now file) ↔ exactIndex now file = cell.bucket := by
    rw [← index, retentionPeriodIndex_exactIndex (reportable.ages other inside),
      inPeriod_iff (by decide), exactIndex_eq_iff (reportable.ages other inside)
        (reportable.ages file listed)]
    exact eq_comm
  constructor
  · rintro ⟨signal, inPeriod⟩
    exact ⟨period.mp inPeriod, signal.trans read⟩
  · rintro ⟨index, name⟩
    exact ⟨name.trans read.symm, period.mpr index⟩

/-- A number of a bucket is the sum over the files of its cell. -/
theorem ofBucket_exactBucket {cell : Cell FileListEntry Int64 String} (fit : SumsFit cell)
    (column : BucketColumn) :
    column.ofBucket (exactBucket (exactRow cell)) =
      (cell.rows.map fun file => column.ofFile file).sum := by
  -- A sum that fits is read back as it is.
  cases column with
  | compressedBytes => exact toInt_ofInt_of_fits (fit .compressedBytes)
  | records => exact toInt_ofInt_of_fits (fit .records)
  | fileCount => exact toInt_ofInt_of_fits (fit .fileCount)

/-- Where each file is in one bucket, the buckets of a signal come to what its files come to. -/
theorem totals_of_once {report : List RetentionUsageBucket} (distinct : report.Nodup)
    (once : ∀ file ∈ live, ∃! bucket, bucket ∈ report ∧ Selects now bucket file)
    (sums : ∀ bucket ∈ report, ∀ column : BucketColumn,
      column.ofBucket bucket = columnTotal column (fun file => Selects now bucket file) live)
    (signal : SignalKind) (column : BucketColumn) :
    tally (fun bucket => column.ofBucket bucket) (fun bucket => bucket.signal = signal) report =
      columnTotal column (fun file => file.signalType = signalTypeOf signal) live := by
  -- Each file of the signal is in one bucket of the signal, since the names of signals differ.
  have own : ∀ file ∈ live.filter fun file => file.signalType = signalTypeOf signal,
      ∃! bucket, bucket ∈ (report.filter fun bucket => bucket.signal = signal) ∧
        decide (Selects now bucket file) = true := by
    intro file member
    obtain ⟨listed, named⟩ := List.mem_filter.mp member
    obtain ⟨bucket, ⟨reported, selects⟩, unique⟩ := once file listed
    have written : signalTypeOf bucket.signal = signalTypeOf signal :=
      selects.signal.symm.trans (of_decide_eq_true named)
    have same : bucket.signal = signal := by
      rw [← signalOf_signalTypeOf bucket.signal, written, signalOf_signalTypeOf]
    refine ⟨bucket, ⟨List.mem_filter.mpr ⟨reported, decide_eq_true same⟩,
      decide_eq_true selects⟩, ?_⟩
    rintro other ⟨inside, also⟩
    exact unique other ⟨List.mem_of_mem_filter inside, of_decide_eq_true also⟩
  have whole : ((report.filter fun bucket => bucket.signal = signal).map fun bucket =>
      tally (fun file => column.ofFile file) (fun file => Selects now bucket file)
        (live.filter fun file => file.signalType = signalTypeOf signal)).sum =
      ((live.filter fun file => file.signalType = signalTypeOf signal).map fun file =>
        column.ofFile file).sum :=
    sum_tally_of_existsUnique (distinct.filter _) own
  rw [columnTotal, tally, tally, ← whole]
  refine congrArg List.sum (List.map_congr_left fun bucket member => ?_)
  obtain ⟨reported, ofSignal⟩ := List.mem_filter.mp member
  rw [sums bucket reported column, columnTotal, tally, tally, List.filter_filter]
  refine congrArg (fun chosen => (List.map _ chosen).sum) (List.filter_congr fun file _ => ?_)
  -- A file that the bucket has is of its signal.
  by_cases selects : Selects now bucket file
  · simp [selects, selects.signal, of_decide_eq_true ofSignal]
  · simp [selects]

/-- The report of files that can be reported counts each of them once, and loses nothing. -/
theorem partitions_exactReport (collate : String → String → Bool)
    (reportable : Reportable now live) : Partitions now live (exactReport collate now live) := by
  have fit := (sumsFit_iff reportable.ages).mpr reportable.sums
  -- Two cells with one bucket hold one file, so they are the same cell.
  have apart : ∀ first ∈ fileCells now live, ∀ second ∈ fileCells now live,
      exactBucket (exactRow first) = exactBucket (exactRow second) → first = second := by
    intro first one second two same
    obtain ⟨⟨file, listed, index, name⟩, _⟩ := mem_cells.mp one
    have selects := (selects_exactBucket_iff reportable one listed).mpr ⟨index, name⟩
    rw [same] at selects
    obtain ⟨bucket, group⟩ := (selects_exactBucket_iff reportable two listed).mp selects
    exact cell_eq one two (index.symm.trans bucket) (name.symm.trans group)
  have distinct : (exactReport collate now live).Nodup := by
    have sorted := (List.perm_insertionSort
      (fun first second : BucketRow => first.before collate second = true)
      ((fileCells now live).map exactRow)).map exactBucket
    refine sorted.nodup_iff.mpr ?_
    rw [List.map_map]
    exact (List.Nodup.of_map _ cells_nodup).map_on apart
  have once : ∀ file ∈ live,
      ∃! bucket, bucket ∈ exactReport collate now live ∧ Selects now bucket file := by
    intro file listed
    have own := cell_of_row (exactIndex now) (fun file => file.signalType) listed
    refine ⟨_, ⟨(mem_exactReport collate now live).mpr ⟨_, own, rfl⟩,
      (selects_exactBucket_iff reportable own listed).mpr ⟨rfl, rfl⟩⟩, ?_⟩
    rintro bucket ⟨reported, selects⟩
    obtain ⟨cell, member, rfl⟩ := (mem_exactReport collate now live).mp reported
    obtain ⟨index, name⟩ := (selects_exactBucket_iff reportable member listed).mp selects
    rw [cell_eq member own index.symm name.symm]
  have sums : ∀ bucket ∈ exactReport collate now live, ∀ column : BucketColumn,
      column.ofBucket bucket = columnTotal column (fun file => Selects now bucket file) live := by
    intro bucket reported column
    obtain ⟨cell, member, rfl⟩ := (mem_exactReport collate now live).mp reported
    rw [ofBucket_exactBucket (fit cell member), (mem_cells.mp member).2]
    refine congrArg (fun chosen => (List.map _ chosen).sum) (List.filter_congr fun file listed => ?_)
    rw [decide_eq_decide]
    exact (selects_exactBucket_iff reportable member listed).symm
  exact ⟨distinct, once, sums, totals_of_once distinct once sums⟩

/-- The live files of a workspace. -/
def workspaceFiles (files : FileStore) (workspaceId : WorkspaceId) : List FileListEntry :=
  files.liveEntries.filter fun file => file.workspaceId = workspaceId

/-- The query for all signals is about every live file of the workspace. -/
theorem reportedFiles_all (files : FileStore) (workspaceId : WorkspaceId) :
    reportedFiles files workspaceId .all = workspaceFiles files workspaceId := by
  -- The signal type is not compared.
  unfold reportedFiles workspaceFiles queriedFor
  simp

/--
The report for all signals succeeds and counts every live file in the one bucket that its age
selects, exactly if the signals of all files are known and every age and every sum fits.
-/
theorem retentionBuckets_partitions_iff (collate : String → String → Bool) (files : FileStore)
    (now : Int64) (workspaceId : WorkspaceId) :
    (∃ report, retentionBuckets collate files now workspaceId .all = .ok report ∧
      Partitions now (workspaceFiles files workspaceId) report) ↔
      Reportable now (workspaceFiles files workspaceId) := by
  -- The files that are reported on are the live files of the workspace.
  rw [← reportedFiles_all]
  constructor
  · -- Whatever does not fit or is not known fails the whole report.
    rintro ⟨report, reported, _⟩
    obtain ⟨ages, fit, known, _⟩ :=
      (retentionBuckets_eq_ok_iff collate now files workspaceId .all).mp reported
    exact ⟨known, ages, (sumsFit_iff ages).mp fit⟩
  · intro reportable
    refine ⟨_, (retentionBuckets_eq_ok_iff collate now files workspaceId .all).mpr
      ⟨reportable.ages, (sumsFit_iff reportable.ages).mpr reportable.sums, reportable.known, rfl⟩,
      partitions_exactReport collate reportable⟩

/-- An entry as the writer makes it: under the tag of a batch, and with a time out of nanoseconds. -/
structure MadeByWriter (entry : NewFileListEntry) : Prop where
  tagged : ∃ batch, entry.signalType = signalTag batch
  micros : ∃ nanos : Int64, entry.maxTs = nanos / 1000

theorem madeByWriter_fileEntry (env : WriterEnv) (workspaceId streamName : String)
    (batch : IngestBatch) (fileNumber : Nat) :
    MadeByWriter (fileEntry env workspaceId streamName batch fileNumber) :=
  ⟨⟨batch, rfl⟩, ⟨_, rfl⟩⟩

/-- A reading of a clock whose dates are those of the calendar of the process. -/
structure ReadsCalendar (now : Int64) : Prop where
  earliest : -8334601228800000000 ≤ now.toInt
  latest : now.toInt ≤ 8210266876799999999

/-- The files of the writer can be reported exactly if none holds scores and every sum fits. -/
theorem reportable_written_iff (clock : ReadsCalendar now)
    (written : ∀ file ∈ live, MadeByWriter file.toNewFileListEntry) :
    Reportable now live ↔
      (∀ file ∈ live, file.signalType ≠ "scores") ∧
        ∀ file ∈ live, ∀ column : BucketColumn,
          FitsBigint (columnTotal column (fun other => SamePeriod now file other) live) := by
  -- The times of files are far enough from the ends of 64 bits.
  have ages : ∀ file ∈ live, FitsBigint (age now file) := by
    intro file listed
    obtain ⟨nanos, micros⟩ := (written file listed).micros
    have quotient := FixedWidth.toInt_div_of_pos nanos (show 0 < (1000 : Int64).toInt by decide)
    have thousand : (1000 : Int64).toInt = 1000 := rfl
    have small := natAbs_tdiv_mul_le nanos.toInt 1000
    have lower := nanos.le_toInt
    have upper := nanos.toInt_lt
    have earliest := clock.earliest
    have latest := clock.latest
    rw [← micros, thousand] at quotient
    unfold FitsBigint age
    omega
  constructor
  · rintro ⟨known, _, sums⟩
    refine ⟨?_, sums⟩
    intro file listed scores
    obtain ⟨signal, named⟩ := known file listed
    rw [scores] at named
    cases signal <;> simp [signalTypeOf] at named
  · rintro ⟨unscored, sums⟩
    refine ⟨?_, ages, sums⟩
    intro file listed
    obtain ⟨batch, tag⟩ := (written file listed).tagged
    have other := unscored file listed
    rw [tag] at other ⊢
    cases batch with
    | spans rows => exact ⟨.traces, rfl⟩
    | metrics rows => exact ⟨.metrics, rfl⟩
    | logs rows => exact ⟨.logs, rfl⟩
    | scores rows => exact absurd rfl other

end

/-- A file of one evaluation score. -/
def scoreFile : FileListEntry where
  workspaceId := Uuid.nil
  signalType := "scores"
  streamName := "default"
  date := "1970/01/01/00"
  filePath := "/data/a.parquet"
  location := "local"
  minTs := 0
  maxTs := 0
  records := 1
  originalSize := 4096
  compressedSize := 1024
  createdAt := 0
  updatedAt := 0
  walReplayOffset := none
  id := 0
  deleted := false

/-- One file of scores, which the writer can make, fails the whole report. -/
theorem scores_fail_report :
    let files : FileStore := ⟨⟨[scoreFile], by simp⟩, fun _ => .scores [], 1, by simp [scoreFile]⟩
    MadeByWriter scoreFile.toNewFileListEntry ∧
      retentionBuckets (fun first second => first < second) files 0 Uuid.nil .all =
        .error (.policy (.invalid "unknown signal_kind scores")) ∧
      ¬ ∃ report,
        retentionBuckets (fun first second => first < second) files 0 Uuid.nil .all = .ok report ∧
          Partitions 0 (workspaceFiles files Uuid.nil) report := by
  intro files
  have failed : retentionBuckets (fun first second => first < second) files 0 Uuid.nil .all =
      .error (.policy (.invalid "unknown signal_kind scores")) := by rfl
  refine ⟨⟨⟨.scores [], rfl⟩, ⟨0, rfl⟩⟩, failed, ?_⟩
  rintro ⟨report, reported, _⟩
  rw [failed] at reported
  cases reported

end Zradar.Storage
