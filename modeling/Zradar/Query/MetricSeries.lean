import Zradar.Lib.Buckets
import Zradar.Lib.Fallible
import Zradar.Lib.Grouping
import Zradar.Query.Analytics

/-! Time series of metrics, which an SQL query aggregates in buckets of time. -/

namespace Zradar.Query

/-- Metric time-series filters of the storage layer. -/
structure StorageMetricSeriesFilters where
  workspaceId : Option Uuid
  metricName : String
  timeRange : Option TimeRange
  intervalSeconds : UInt64
  aggregation : String
  serviceName : Option String

/-- Metric time-series filters of the API. -/
structure MetricSeriesFilters where
  metricName : String
  bounds : QueryBounds
  intervalSeconds : Option UInt64
  aggregation : Option String
  serviceName : Option String

/-- The filters that the service passes to storage, with its defaults. -/
def MetricSeriesFilters.toStorage (filters : MetricSeriesFilters) (workspaceId : Uuid) :
    StorageMetricSeriesFilters where
  workspaceId := some workspaceId
  metricName := filters.metricName
  timeRange := (metricSeriesTimeRange filters.bounds).toOption.join
  intervalSeconds := filters.intervalSeconds.getD 60
  aggregation := filters.aggregation.getD "avg"
  serviceName := filters.serviceName

/-- A single point in a metric time series, whose bucket starts at a time in nanoseconds. -/
structure MetricPoint where
  bucketTs : Int64
  value : Amount

/-- The aggregate functions of a series. -/
inductive SeriesAggregate where
  | sum
  | min
  | max
  | count
  | avg
  deriving DecidableEq

/-- The function that an aggregation names, which is the average for any other name. -/
def aggFn (aggregation : String) : SeriesAggregate :=
  -- Only letters of ASCII are turned into those of the names.
  match aggregation.toLower with
  | "sum" => .sum
  | "min" => .min
  | "max" => .max
  | "count" => .count
  | _ => .avg

/-- The WHERE clause of a metric series. -/
def StorageMetricSeriesFilters.conditions (filters : StorageMetricSeriesFilters)
    (workspaceId : Uuid) : List Condition :=
  [.equals "workspace_id" workspaceId.toText, .equals "metric_name" filters.metricName] ++
  equalsGiven "service_name" filters.serviceName ++
  withinGiven filters.timeRange

/-- The metrics that match the filters of a series. -/
def StorageMetricSeriesFilters.rows (filters : StorageMetricSeriesFilters) (workspaceId : Uuid)
    (metrics : List Metric) : List Metric :=
  whereAll (fun _ _ => false) (filters.conditions workspaceId) metrics

/-- The rows of a result that belong to one bucket. -/
abbrev SeriesGroup := Int64 × List Metric

/-- What is left to the SQL engine: aggregates of doubles, and the order and size of its batches. -/
structure SeriesEngine where
  aggregate : SeriesAggregate → List F64 → F64
  order : OrderBy SeriesGroup fun group => group.1.toInt
  cut : List SeriesGroup → List (List SeriesGroup)
  whole : ∀ groups, (cut groups).flatten = groups

/-- A column of a record batch. -/
inductive SqlColumn where
  | int64 (values : List Int64)
  | float64 (values : List F64)

/-- The record batches of a series. -/
structure SeriesBatch where
  numRows : Nat
  bucketTs : SqlColumn
  value : SqlColumn

/-- Integer division in SQL. -/
def sqlDivide (dividend divisor : Int64) : Except String Int64 :=
  if divisor = 0 then .error "Arrow error: Divide by zero error" else .ok (dividend / divisor)

/-- The expression `(timestamp / interval) * interval`. -/
def bucketExpr (intervalNs timestamp : Int64) : Except String Int64 :=
  (sqlDivide timestamp intervalNs).map fun quotient => quotient * intervalNs

section

variable (engine : SeriesEngine) (intervalNs : Int64) (aggregation : SeriesAggregate)

/-- The column of an aggregate, whose type depends on the function. -/
def valueColumn (groups : List SeriesGroup) : SqlColumn :=
  match aggregation with
  | .count => .int64 (groups.map fun group => Int64.ofNat group.2.length)
  | other => .float64 (groups.map fun group =>
      engine.aggregate other (group.2.map fun row => row.value))

/-- The batch that holds some groups. -/
def seriesBatch (groups : List SeriesGroup) : SeriesBatch where
  numRows := groups.length
  bucketTs := .int64 (groups.map Prod.fst)
  value := valueColumn engine aggregation groups

/-- The rows by the value of the expression, which fails if it fails for one of them. -/
def groupByBucket (rows : List Metric) : Except String (List SeriesGroup) := do
  let keyed ← rows.mapM fun row => (bucketExpr intervalNs row.timestamp).map fun key => (key, row)
  .ok ((groupFirstSeen Prod.fst keyed).map fun group => (group.1, group.2.map Prod.snd))

/-- The SQL query of a series. -/
def queryParquetAs (rows : List Metric) : Except String (List SeriesBatch) := do
  let groups ← groupByBucket intervalNs rows
  .ok ((engine.cut (engine.order.arrange 0 0 groups)).map (seriesBatch engine aggregation))

end

/-- Downcast a column to one of integers. -/
def SqlColumn.asInt64 (name : String) : SqlColumn → Except String (List Int64)
  | .int64 values => .ok values
  | .float64 _ => .error (name ++ " is not Int64Array")

/-- Downcast a column to one of doubles. -/
def SqlColumn.asFloat64 (name : String) : SqlColumn → Except String (List F64)
  | .float64 values => .ok values
  | .int64 _ => .error (name ++ " is not Float64Array")

/-- The points of one batch. -/
def SeriesBatch.points (batch : SeriesBatch) : Except String (List MetricPoint) :=
  if batch.numRows = 0 then .ok []
  else do
    let bucketCol ← batch.bucketTs.asInt64 "bucket_ts"
    let valueCol ← batch.value.asFloat64 "value"
    .ok (List.zipWith (fun bucket value => ⟨bucket, .real value⟩) bucketCol valueCol)

/-- The width of the buckets in nanoseconds, in 64 bits that wrap. -/
def intervalNs (intervalSeconds : UInt64) : Int64 := intervalSeconds.toInt64 * 1000000000

/-- Query the time series of a metric. -/
def queryMetricSeries (engine : SeriesEngine) (metrics : List Metric)
    (filters : StorageMetricSeriesFilters) : Except String (List MetricPoint) :=
  match filters.workspaceId with
  | none => .error "workspace_id is required for query_metric_series"
  | some workspaceId => do
    let batches ← (queryParquetAs engine (intervalNs filters.intervalSeconds)
      (aggFn filters.aggregation) (filters.rows workspaceId metrics)).mapError
        fun error => "Failed to query metric series: " ++ error
    let points ← batches.mapM SeriesBatch.points
    .ok points.flatten

/-- The aggregate of some rows that is asked for. -/
def requested (engine : SeriesEngine) (aggregation : SeriesAggregate) (rows : List Metric) :
    Amount :=
  match aggregation with
  | .count => .whole rows.length
  | other => .real (engine.aggregate other (rows.map fun row => row.value))

/-- The width of the buckets in nanoseconds. -/
def bucketWidth (intervalSeconds : UInt64) : Int := intervalSeconds.toNat * 1000000000

/-- A metric is in the bucket of a point. -/
def MetricPoint.Holds (width : Int) (point : MetricPoint) (row : Metric) : Prop :=
  point.bucketTs.toInt ≤ row.timestamp.toInt ∧
    row.timestamp.toInt < point.bucketTs.toInt + width

instance (width : Int) (point : MetricPoint) (row : Metric) : Decidable (point.Holds width row) :=
  inferInstanceAs (Decidable (_ ∧ _))

/-- One point for each bucket with a row, in order, and each with the aggregate of its own rows. -/
structure IsSeries (intervalSeconds : UInt64) (value : List Metric → Amount) (rows : List Metric)
    (points : List MetricPoint) : Prop where
  increasing : points.Pairwise fun one other => one.bucketTs < other.bucketTs
  aligned : ∀ point ∈ points, bucketWidth intervalSeconds ∣ point.bucketTs.toInt
  filled : ∀ point ∈ points, ∃ row ∈ rows, point.Holds (bucketWidth intervalSeconds) row
  /-- The bucket that the query puts a row into holds the row, and has a point. -/
  placed : ∀ row ∈ rows, ∃ point ∈ points, point.Holds (bucketWidth intervalSeconds) row ∧
    bucketExpr (intervalNs intervalSeconds) row.timestamp = .ok point.bucketTs
  values : ∀ point ∈ points,
    point.value = value (rows.filter fun row => point.Holds (bucketWidth intervalSeconds) row)

/-- A time is put into its own bucket. -/
structure Bucketable (intervalSeconds : UInt64) (timestamp : Int64) : Prop where
  /-- If the width fits, it is from the epoch on or at the start of a bucket. -/
  fits : bucketWidth intervalSeconds < 2 ^ 63 → intervalSeconds ≠ 0 ∧
    (0 ≤ timestamp.toInt ∨ bucketWidth intervalSeconds ∣ timestamp.toInt)
  /-- Otherwise it is before the width that is left of it. -/
  wraps : 2 ^ 63 ≤ bucketWidth intervalSeconds → 0 ≤ timestamp.toInt ∧
    timestamp.toInt < ((bucketWidth intervalSeconds).bmod (2 ^ 64)).natAbs

section

variable (seconds : UInt64) (interval timestamp : Int64)

theorem bucketExpr_of_ne {interval : Int64} (some : interval ≠ 0) :
    bucketExpr interval timestamp = .ok (timestamp / interval * interval) := by
  simp [bucketExpr, sqlDivide, some, Except.map]

/-- The expression stays between zero and the time, so that it does not wrap. -/
theorem toInt_bucket :
    (timestamp / interval * interval).toInt =
      timestamp.toInt.tdiv interval.toInt * interval.toInt := by
  -- Rounding towards zero is between zero and the time, on either side of the epoch.
  have lower := timestamp.le_toInt
  have upper := timestamp.toInt_lt
  rw [Int64.toInt_mul, Int64.toInt_div, Int.bmod_mul_bmod]
  apply Int.bmod_eq_of_le
  · have small := natAbs_tdiv_mul_le timestamp.toInt interval.toInt
    omega
  · rcases le_or_gt 0 timestamp.toInt with nonneg | negative
    · have := tdiv_mul_nonneg_le interval.toInt nonneg
      omega
    · have := tdiv_mul_nonpos_le interval.toInt (le_of_lt negative)
      omega

theorem toInt_intervalNs : (intervalNs seconds).toInt = (bucketWidth seconds).bmod (2 ^ 64) := by
  have unit : (1000000000 : Int64).toInt = 1000000000 := rfl
  have word : seconds.toInt64.toInt = (seconds.toNat : Int).bmod (2 ^ 64) := by
    rw [← UInt64.ofNat_toNat (x := seconds), UInt64.toInt64_ofNat', Int64.toInt_ofNat']
    simp
  rw [intervalNs, Int64.toInt_mul, word, unit, Int.bmod_mul_bmod, bucketWidth]

/-- The expression names the bucket of a time exactly for the times that are put into their own. -/
theorem inBucket_iff_bucketable :
    (intervalNs seconds ≠ 0 ∧ InBucket (bucketWidth seconds)
      (timestamp / intervalNs seconds * intervalNs seconds).toInt timestamp.toInt) ↔
        Bucketable seconds timestamp := by
  have lower := timestamp.le_toInt
  have upper := timestamp.toInt_lt
  have wrapped := toInt_intervalNs seconds
  have zero : intervalNs seconds = 0 ↔ (intervalNs seconds).toInt = 0 := by
    rw [← Int64.toInt_inj]
    rfl
  have none : seconds = 0 ↔ bucketWidth seconds = 0 := by
    rw [← UInt64.toNat_inj]
    simp [bucketWidth]
  have multiple : bucketWidth seconds = seconds.toNat * 1000000000 := rfl
  have positive (some : seconds ≠ 0) : 0 < bucketWidth seconds := by
    rw [Ne, none] at some
    omega
  rw [toInt_bucket]
  rcases lt_or_ge (bucketWidth seconds) (2 ^ 63) with fits | beyond
  · -- The width is not wrapped.
    have same : (intervalNs seconds).toInt = bucketWidth seconds := by
      rw [wrapped]
      apply Int.bmod_eq_of_le <;> omega
    rw [Ne, zero, same, ← none]
    constructor
    · rintro ⟨some, inside⟩
      exact ⟨fun _ => ⟨some, (tdiv_inBucket_iff (positive some)).mp inside⟩, fun beyond => by omega⟩
    · intro found
      obtain ⟨some, place⟩ := found.fits fits
      exact ⟨some, (tdiv_inBucket_iff (positive some)).mpr place⟩
  · -- The width is beyond all times, as it is no power of two.
    rw [Ne, zero, tdiv_inBucket_iff_of_wide (by omega) (by omega), wrapped]
    constructor
    · intro found
      exact ⟨fun fits => by omega, fun _ => found⟩
    · intro found
      exact found.wraps beyond

end

/-- The groups of the rows by their buckets. -/
def bucketGroups (interval : Int64) (rows : List Metric) : List SeriesGroup :=
  (groupFirstSeen Prod.fst (rows.map fun row => (row.timestamp / interval * interval, row))).map
    fun group => (group.1, group.2.map Prod.snd)

theorem bucketGroups_grouping (interval : Int64) (rows : List Metric) :
    IsGrouping (fun row => row.timestamp / interval * interval) rows (bucketGroups interval rows) :=
  groupFirstSeen_keyed _ rows

/-- The query groups its rows by their bucket, unless it divides one of them by zero. -/
theorem groupByBucket_ok_iff {interval : Int64} {rows : List Metric} {groups : List SeriesGroup} :
    groupByBucket interval rows = .ok groups ↔
      (rows ≠ [] → interval ≠ 0) ∧ groups = bucketGroups interval rows := by
  have each (row : Metric) (value : Int64 × Metric) :
      ((bucketExpr interval row.timestamp).map fun key => (key, row)) = .ok value ↔
        interval ≠ 0 ∧ value = (row.timestamp / interval * interval, row) := by
    by_cases zero : interval = 0
    · simp [bucketExpr, sqlDivide, zero, Except.map]
    · simp [bucketExpr_of_ne _ zero, zero, Except.map, eq_comm]
  have all : (∀ row ∈ rows, interval ≠ 0) ↔ (rows ≠ [] → interval ≠ 0) := by
    cases rows with
    | nil => simp
    | cons row rows =>
      constructor
      · intro each _
        exact each row List.mem_cons_self
      · intro some _ _
        exact some (List.cons_ne_nil row rows)
  -- The keys are computed first, and grouping them cannot fail.
  rw [groupByBucket, Fallible.bind_eq_ok, ← all]
  constructor
  · intro found
    obtain ⟨keyed, read, same⟩ := found
    obtain ⟨accepted, rfl⟩ := (Fallible.mapM_eq_ok_map each).mp read
    exact ⟨accepted, (Except.ok.inj same).symm⟩
  · intro found
    obtain ⟨accepted, rfl⟩ := found
    exact ⟨_, (Fallible.mapM_eq_ok_map each).mpr ⟨accepted, rfl⟩, rfl⟩

/-- The point of a group. -/
def seriesPoint (engine : SeriesEngine) (aggregation : SeriesAggregate) (group : SeriesGroup) :
    MetricPoint :=
  ⟨group.1, requested engine aggregation group.2⟩

section

variable {engine : SeriesEngine} {aggregation : SeriesAggregate}

/-- A batch can be read unless it holds counts, whose column is none of doubles. -/
theorem points_seriesBatch_iff {groups : List SeriesGroup} {points : List MetricPoint} :
    (seriesBatch engine aggregation groups).points = .ok points ↔
      (aggregation = .count → groups = []) ∧
        points = groups.map (seriesPoint engine aggregation) := by
  -- Only a count has a column of another type, and only a row in it is noticed.
  unfold SeriesBatch.points seriesBatch
  cases groups with
  | nil => simp [eq_comm]
  | cons group groups =>
    cases aggregation with
    | count => simp [SqlColumn.asInt64, SqlColumn.asFloat64, valueColumn, bind, Except.bind]
    | sum | min | max | avg =>
      simp [SqlColumn.asInt64, SqlColumn.asFloat64, valueColumn, bind, Except.bind,
        List.zipWith_map, List.zipWith_self, eq_comm]
      rfl

end

section

variable {engine : SeriesEngine} {metrics : List Metric} {workspaceId : Uuid}
  {filters : StorageMetricSeriesFilters} {points : List MetricPoint}

/-- A query that succeeds returns the points of its groups in order, and counts nothing. -/
theorem queryMetricSeries_ok_iff (given : filters.workspaceId = some workspaceId) :
    queryMetricSeries engine metrics filters = .ok points ↔
      ∃ groups, groupByBucket (intervalNs filters.intervalSeconds)
          (filters.rows workspaceId metrics) = .ok groups ∧
        (aggFn filters.aggregation = .count → groups = []) ∧
        points = (engine.order.arrange 0 0 groups).map
          (seriesPoint engine (aggFn filters.aggregation)) := by
  have empty (groups : List SeriesGroup) : engine.order.arrange 0 0 groups = [] ↔ groups = [] := by
    have perm := (engine.order.arranged 0 0 groups).perm
    constructor
    · intro none
      rw [none] at perm
      exact perm.symm.eq_nil
    · rintro rfl
      exact perm.eq_nil
  -- All batches are empty exactly if there are no groups.
  have counted (groups : List SeriesGroup) :
      (∀ batch ∈ engine.cut (engine.order.arrange 0 0 groups),
        aggFn filters.aggregation = .count → batch = []) ↔
          (aggFn filters.aggregation = .count → groups = []) := by
    rw [← empty, ← engine.whole (engine.order.arrange 0 0 groups), List.flatten_eq_nil_iff,
      engine.whole]
    exact ⟨fun all count batch member => all batch member count,
      fun all batch member count => all count batch member⟩
  have joined (groups : List SeriesGroup) :
      ((engine.cut (engine.order.arrange 0 0 groups)).map fun batch =>
        batch.map (seriesPoint engine (aggFn filters.aggregation))).flatten =
          (engine.order.arrange 0 0 groups).map
            (seriesPoint engine (aggFn filters.aggregation)) := by
    rw [← List.map_flatten, engine.whole]
  unfold queryMetricSeries queryParquetAs
  rw [given]
  simp only
  cases grouped : groupByBucket (intervalNs filters.intervalSeconds)
      (filters.rows workspaceId metrics) with
  | error error => simp [bind, Except.bind, Except.mapError]
  | ok groups =>
    -- Every batch is read, one after another.
    have passed (found : List (List MetricPoint)) :
        ((engine.cut (engine.order.arrange 0 0 groups)).map
          (seriesBatch engine (aggFn filters.aggregation))).mapM SeriesBatch.points = .ok found ↔
            (∀ batch ∈ engine.cut (engine.order.arrange 0 0 groups),
              aggFn filters.aggregation = .count → batch = []) ∧
            found = (engine.cut (engine.order.arrange 0 0 groups)).map fun batch =>
              batch.map (seriesPoint engine (aggFn filters.aggregation)) := by
      rw [List.mapM_map]
      exact Fallible.mapM_eq_ok_map fun batch found => points_seriesBatch_iff
    change ((((engine.cut (engine.order.arrange 0 0 groups)).map
      (seriesBatch engine (aggFn filters.aggregation))).mapM SeriesBatch.points) >>=
        fun points => .ok points.flatten) = .ok points ↔ _
    simp only [Fallible.bind_eq_ok, passed, counted, and_assoc, exists_and_left, exists_eq_left,
      joined, Except.ok.injEq, exists_eq_left']
    rw [eq_comm (a := points)]

/-- Counting fails as soon as there is a row to count. -/
theorem queryMetricSeries_count_ne_ok (given : filters.workspaceId = some workspaceId)
    (count : aggFn filters.aggregation = .count)
    (some : filters.rows workspaceId metrics ≠ []) :
    queryMetricSeries engine metrics filters ≠ .ok points := by
  -- A row has a bucket, but a query that counts returns only if there is none.
  intro returned
  obtain ⟨groups, grouped, uncounted, _⟩ := (queryMetricSeries_ok_iff given).mp returned
  obtain ⟨_, rfl⟩ := groupByBucket_ok_iff.mp grouped
  obtain ⟨row, inside⟩ := List.exists_mem_of_ne_nil _ some
  have place := (bucketGroups_grouping (intervalNs filters.intervalSeconds)
    (filters.rows workspaceId metrics)).complete row inside
  rw [uncounted count] at place
  cases place

end

section

variable {seconds : UInt64}

/-- The bucket in nanoseconds that the query puts a time into. -/
def bucketOf (seconds : UInt64) (row : Metric) : Int64 :=
  row.timestamp / intervalNs seconds * intervalNs seconds

/-- Times that are put into their own buckets are grouped as asked for. -/
theorem isSeries_of_bucketable (engine : SeriesEngine) (aggregation : SeriesAggregate)
    {rows : List Metric} (bucketable : ∀ row ∈ rows, Bucketable seconds row.timestamp) :
    IsSeries seconds (requested engine aggregation) rows
      ((engine.order.arrange 0 0 (bucketGroups (intervalNs seconds) rows)).map
        (seriesPoint engine aggregation)) := by
  have grouping := bucketGroups_grouping (intervalNs seconds) rows
  have ordered := engine.order.arranged 0 0 (bucketGroups (intervalNs seconds) rows)
  have own (row : Metric) (member : row ∈ rows) : intervalNs seconds ≠ 0 ∧
      InBucket (bucketWidth seconds) (bucketOf seconds row).toInt row.timestamp.toInt := by
    exact (inBucket_iff_bucketable seconds row.timestamp).mpr (bucketable row member)
  -- A group has a row, so that it is named by a bucket.
  have held (group : SeriesGroup) (member : group ∈ bucketGroups (intervalNs seconds) rows) :
      ∃ row ∈ rows, bucketOf seconds row = group.1 := by
    obtain ⟨row, inside⟩ := List.exists_mem_of_ne_nil _ (grouping.nonempty group member)
    rw [grouping.group group member, List.mem_filter, decide_eq_true_eq] at inside
    exact ⟨row, inside⟩
  have named (group : SeriesGroup) (member : group ∈ bucketGroups (intervalNs seconds) rows)
      (row : Metric) (inside : row ∈ rows) : bucketOf seconds row = group.1 ↔
        MetricPoint.Holds (bucketWidth seconds) (seriesPoint engine aggregation group) row := by
    have place := (own row inside).2
    constructor
    · intro same
      rw [same] at place
      exact ⟨place.begun, place.ended⟩
    · intro holds
      -- Both buckets are aligned, and a time is in only one that is.
      obtain ⟨other, here, same⟩ := held group member
      have aligned := (own other here).2.aligned
      rw [same] at aligned
      have positive : 0 < bucketWidth seconds := by
        have begun := place.begun
        have ended := place.ended
        omega
      rw [← Int64.toInt_inj, (inBucket_iff positive).mp place]
      exact ((inBucket_iff positive).mp ⟨aligned, holds.1, holds.2⟩).symm
  have grouped {point : MetricPoint} (member : point ∈
      (engine.order.arrange 0 0 (bucketGroups (intervalNs seconds) rows)).map
        (seriesPoint engine aggregation)) :
      ∃ group ∈ bucketGroups (intervalNs seconds) rows,
        point = seriesPoint engine aggregation group := by
    obtain ⟨group, inside, rfl⟩ := List.mem_map.mp member
    exact ⟨group, ordered.perm.mem_iff.mp inside, rfl⟩
  constructor
  · -- The order agrees with the buckets, which are distinct.
    rw [List.pairwise_map]
    have distinct := (ordered.perm.map Prod.fst).nodup_iff.mpr grouping.distinct
    have apart := List.pairwise_map.mp distinct
    apply (ordered.sorted.and apart).imp
    intro one other both
    have differ : one.1.toInt ≠ other.1.toInt := fun same => both.2 (Int64.toInt_inj.mp same)
    exact Int64.lt_iff_toInt_lt.mpr (lt_of_le_of_ne both.1 differ)
  · intro point member
    obtain ⟨group, inside, rfl⟩ := grouped member
    obtain ⟨row, here, same⟩ := held group inside
    have aligned := (own row here).2.aligned
    rwa [same] at aligned
  · intro point member
    obtain ⟨group, inside, rfl⟩ := grouped member
    obtain ⟨row, here, same⟩ := held group inside
    exact ⟨row, here, (named group inside row here).mp same⟩
  · intro row inside
    obtain ⟨group, member, same⟩ := List.mem_map.mp (grouping.complete row inside)
    refine ⟨seriesPoint engine aggregation group,
      List.mem_map_of_mem (ordered.perm.mem_iff.mpr member),
      (named group member row inside).mp same.symm, ?_⟩
    rw [bucketExpr_of_ne _ (own row inside).1]
    exact congrArg Except.ok same.symm
  · intro point member
    obtain ⟨group, inside, rfl⟩ := grouped member
    -- The rows of the group are those that its bucket holds.
    have rowsOf : group.2 = rows.filter fun row =>
        MetricPoint.Holds (bucketWidth seconds) (seriesPoint engine aggregation group) row := by
      rw [grouping.group group inside]
      apply List.filter_congr
      intro row here
      exact decide_eq_decide.mpr (named group inside row here)
    rw [← rowsOf]
    rfl

end

/-- An engine that sorts, returns one batch, and reads the first value for any aggregate. -/
def plainSeriesEngine : SeriesEngine where
  aggregate _ values := values.headD F64.zero
  order := sortedOrder _
  cut groups := [groups]
  whole groups := by simp

/-- A reading of a load at the epoch in the nil workspace. -/
def loadReading : Metric where
  metricName := "load"
  metricType := "GAUGE"
  timestamp := 0
  workspaceId := "00000000-0000-0000-0000-000000000000"
  value := F64.zero
  count := 1
  sum := F64.zero
  min := F64.zero
  max := F64.zero
  serviceName := "api"
  agentName := ""
  userId := ""
  sessionId := ""
  labels := "\x7b\x7d"

/-- The number of readings of the load in each minute. -/
def loadCounts : MetricSeriesFilters where
  metricName := "load"
  bounds := QueryBounds.mk none none
  intervalSeconds := none
  aggregation := some "count"
  serviceName := none

end Zradar.Query
