import Zradar.Otlp.RowCaps

/-! The rows of metric points: where each comes from, and what the kinds of points make of numbers. -/

namespace Zradar.Otlp

/-- A data point of any kind. -/
inductive MetricPoint where
  | number (metricType : String) (point : NumberDataPoint)
  | histogram (point : HistogramDataPoint)
  | exponentialHistogram (point : HistogramDataPoint)
  | summary (point : SummaryDataPoint)

/-- A data point with its enclosing resource and the name of its enclosing metric. -/
structure PlacedPoint where
  resource : Option Resource
  metricName : String
  point : MetricPoint

/-- The points of a metric, in their order. -/
def pointsOf : Option Data → List MetricPoint
  | some (.gauge points) => points.map (.number "GAUGE")
  | some (.sum points) => points.map (.number "COUNTER")
  | some (.histogram points) => points.map .histogram
  | some (.summary points) => points.map .summary
  | some (.exponentialHistogram points) => points.map .exponentialHistogram
  | none => []

/-- The points of a request, in their order. -/
def ExportMetricsServiceRequest.points (request : ExportMetricsServiceRequest) : List PlacedPoint :=
  request.resourceMetrics.flatMap fun resource =>
    resource.scopeMetrics.flatMap fun scope =>
      scope.metrics.flatMap fun metric =>
        (pointsOf metric.data).map fun point => ⟨resource.resource, metric.name, point⟩

namespace MetricPoint

def timeUnixNano : MetricPoint → UInt64
  | .number _ point => point.timeUnixNano
  | .histogram point | .exponentialHistogram point => point.timeUnixNano
  | .summary point => point.timeUnixNano

def attributes : MetricPoint → List KeyValue
  | .number _ point => point.attributes
  | .histogram point | .exponentialHistogram point => point.attributes
  | .summary point => point.attributes

/-- The row of a point. -/
def toMetric (env : RowEnv) (workspaceId : WorkspaceId)
    (metricName serviceName agentName : String) : MetricPoint → Metric
  | .number metricType point =>
    numberDpToMetric env workspaceId metricName serviceName agentName metricType point
  | .histogram point => histogramDpToMetric env workspaceId metricName serviceName agentName point
  | .exponentialHistogram point =>
    exponentialDpToMetric env workspaceId metricName serviceName agentName point
  | .summary point => summaryDpToMetric env workspaceId metricName serviceName agentName point

end MetricPoint

/-- What a row says of the values of a point. -/
structure RowNumbers where
  value : F64
  count : Int64
  sum : F64
  min : F64
  max : F64
  deriving DecidableEq

def rowNumbers (row : Metric) : RowNumbers := ⟨row.value, row.count, row.sum, row.min, row.max⟩

/-- The numbers of a histogram. -/
def histogramNumbers (env : RowEnv) (count : UInt64) (sum min max : Option F64) : RowNumbers where
  value := meanOf env (orZero sum) count
  count := count.toInt64
  sum := orZero sum
  min := orZero min
  max := orZero max

/-- A row is that of a point: it has the names from around the point, and its time and attributes. -/
structure PlacedPoint.IsRow (env : RowEnv) (placed : PlacedPoint) (row : Metric) : Prop where
  metricName : row.metricName = placed.metricName
  serviceName : row.serviceName = logsServiceName placed.resource
  agentName : row.agentName =
    (extractStringAttr (resourceAttributes placed.resource) "agent.name").getD ""
  timestamp : row.timestamp = placed.point.timeUnixNano.toInt64
  labels : row.labels = metricAttrsToJson env placed.point.attributes

/-- Both kinds of histograms have their numbers from one function. -/
def PlacedPoint.HasHistogramNumbers (env : RowEnv) (placed : PlacedPoint) (row : Metric) : Prop :=
  ∀ point, placed.point = .histogram point ∨ placed.point = .exponentialHistogram point →
    rowNumbers row = histogramNumbers env point.count point.sum point.min point.max

/-- What the conversion of a request is to do. -/
structure ConvertsExactly (env : RowEnv) (workspaceId : WorkspaceId)
    (request : ExportMetricsServiceRequest) : Prop where
  rows : List.Forall₂ (PlacedPoint.IsRow env) request.points (convertMetrics env workspaceId request)
  numbers : List.Forall₂ (PlacedPoint.HasHistogramNumbers env) request.points
    (convertMetrics env workspaceId request)
  counts : ∀ row ∈ convertMetrics env workspaceId request, 0 ≤ row.count.toInt

/-- Counts have a sign to spare, and the sum of an exponential histogram is its mean. -/
def MetricPoint.Exact (env : RowEnv) : MetricPoint → Prop
  | .number _ _ => True
  | .histogram point => point.count.toNat < 2 ^ 63
  | .summary point => point.count.toNat < 2 ^ 63
  | .exponentialHistogram point =>
    point.count.toNat < 2 ^ 63 ∧ meanOf env (orZero point.sum) point.count = orZero point.sum

/-- A count is negative as a signed number from the middle of the range on. -/
theorem toInt64_nonneg_iff (count : UInt64) : 0 ≤ count.toInt64.toInt ↔ count.toNat < 2 ^ 63 := by
  -- The cast keeps the bits, and reads the first one as a sign.
  have signed : count.toInt64.toInt = count.toBitVec.toInt := rfl
  have unsigned : count.toNat = count.toBitVec.toNat := rfl
  rw [signed, unsigned, BitVec.toInt_eq_toNat_cond]
  split <;> omega

section

variable (env : RowEnv) (workspaceId : WorkspaceId)

/-- The row of a point under the names from around it. -/
def PlacedPoint.toMetric (placed : PlacedPoint) : Metric :=
  placed.point.toMetric env workspaceId placed.metricName (logsServiceName placed.resource)
    ((extractStringAttr (resourceAttributes placed.resource) "agent.name").getD "")

/-- The rows of a metric are those of its points. -/
theorem convertData_eq (metricName serviceName agentName : String) (data : Option Data) :
    convertData env workspaceId metricName serviceName agentName data =
      (pointsOf data).map (MetricPoint.toMetric env workspaceId metricName serviceName agentName) := by
  -- Each of the five kinds converts its points one by one.
  cases data with
  | none => rfl
  | some data =>
    cases data
    all_goals
      rw [pointsOf, List.map_map]
      rfl

/-- The rows of a request are those of its points. -/
theorem convertMetrics_eq (request : ExportMetricsServiceRequest) :
    convertMetrics env workspaceId request =
      request.points.map (PlacedPoint.toMetric env workspaceId) := by
  -- Resources, scopes and metrics are passed through in the same order on both sides.
  simp only [convertMetrics, ExportMetricsServiceRequest.points, List.map_flatMap, List.map_map,
    convertData_eq]
  rfl

variable {env} in
theorem PlacedPoint.isRow (placed : PlacedPoint) :
    placed.IsRow env (placed.toMetric env workspaceId) := by
  -- Every kind of point copies these columns.
  obtain ⟨resource, metricName, point⟩ := placed
  cases point <;> exact ⟨rfl, rfl, rfl, rfl, rfl⟩

/-- A histogram has its numbers from the function, and an exponential one if its mean is its sum. -/
theorem PlacedPoint.exact_iff (placed : PlacedPoint) :
    placed.HasHistogramNumbers env (placed.toMetric env workspaceId) ∧
        0 ≤ (placed.toMetric env workspaceId).count.toInt ↔ placed.point.Exact env := by
  -- Only the two kinds of histograms have the numbers, and only numbers have no count.
  obtain ⟨resource, metricName, point⟩ := placed
  cases point with
  | number metricType point =>
    -- A number counts as one.
    refine iff_of_true ⟨?_, Int.one_nonneg⟩ trivial
    rintro other (same | same) <;> cases same
  | histogram point =>
    refine (and_iff_right ?_).trans (toInt64_nonneg_iff point.count)
    rintro other (same | same) <;> cases same
    rfl
  | summary point =>
    refine (and_iff_right ?_).trans (toInt64_nonneg_iff point.count)
    rintro other (same | same) <;> cases same
  | exponentialHistogram point =>
    rw [MetricPoint.Exact, and_comm]
    refine and_congr (toInt64_nonneg_iff point.count) ?_
    constructor
    · intro numbers
      exact (congrArg RowNumbers.value (numbers point (.inr rfl))).symm
    · -- All other numbers are those of a histogram anyway.
      rintro mean other (same | same) <;> cases same
      rw [histogramNumbers, mean]
      rfl

/--
A request is converted to one row for each of its points, in their order and under their names, with
the numbers of both kinds of histograms from one function and without a negative count, exactly if
every count is below the middle of the range and every exponential histogram has its sum as its mean.
-/
theorem convert_exact_iff (request : ExportMetricsServiceRequest) :
    ConvertsExactly env workspaceId request ↔
      ∀ placed ∈ request.points, placed.point.Exact env := by
  -- The rows are those of the points, one by one, so that each point decides for itself.
  have rows := convertMetrics_eq env workspaceId request
  constructor
  · rintro ⟨_, numbers, counts⟩ placed member
    rw [rows, List.forall₂_map_right_iff, List.forall₂_same] at numbers
    refine (PlacedPoint.exact_iff env workspaceId placed).mp ⟨numbers placed member, ?_⟩
    exact counts _ (rows ▸ List.mem_map_of_mem member)
  · intro exact
    have each (placed : PlacedPoint) (member : placed ∈ request.points) :=
      (PlacedPoint.exact_iff env workspaceId placed).mpr (exact placed member)
    refine ⟨?_, ?_, ?_⟩
    · rw [rows, List.forall₂_map_right_iff, List.forall₂_same]
      exact fun placed _ => placed.isRow workspaceId
    · rw [rows, List.forall₂_map_right_iff, List.forall₂_same]
      exact fun placed member => (each placed member).1
    · intro row listed
      rw [rows] at listed
      obtain ⟨placed, member, rfl⟩ := List.mem_map.mp listed
      exact (each placed member).2

end

/-- The doubles 2, 5 and 10. -/
def twoF64 : F64 := .finite ⟨false, ⟨1024, by decide⟩, ⟨0, by decide⟩⟩

def fiveF64 : F64 := .finite ⟨false, ⟨1025, by decide⟩, ⟨1125899906842624, by decide⟩⟩

def tenF64 : F64 := .finite ⟨false, ⟨1026, by decide⟩, ⟨1125899906842624, by decide⟩⟩

/-- An environment that knows 2 as a double, and that 10 divided by it is 5. -/
def halvingEnv : RowEnv :=
  { plainRowEnv with
    intToF64 := fun value => if value = 2 then twoF64 else F64.zero
    divide := fun dividend divisor =>
      if dividend = tenF64 ∧ divisor = twoF64 then fiveF64 else F64.zero }

/-- A request with one exponential histogram of some values. -/
def exponentialRequest (count : UInt64) (sum : F64) : ExportMetricsServiceRequest :=
  ⟨[⟨none, [⟨[⟨"latency", some (.exponentialHistogram [⟨[], 0, count, some sum, none, none⟩])⟩]⟩]⟩]⟩

/--
Two values that sum up to 10 have the mean 5 as a histogram, and the value 10 as an exponential one;
and a count from the middle of the range on is stored as a negative one.
-/
theorem exponential_value_is_sum :
    ¬ ConvertsExactly halvingEnv Uuid.nil (exponentialRequest 2 tenF64) ∧
      (convertMetrics halvingEnv Uuid.nil (exponentialRequest 2 tenF64)).map Metric.value =
        [tenF64] ∧
      (histogramNumbers halvingEnv 2 (some tenF64) none none).value = fiveF64 ∧
      (convertMetrics halvingEnv Uuid.nil (exponentialRequest 9223372036854775808 tenF64)).map
        (fun row => row.count.toInt) = [-9223372036854775808] := by
  have value : (convertMetrics halvingEnv Uuid.nil (exponentialRequest 2 tenF64)).map Metric.value =
      [tenF64] := rfl
  have mean : (histogramNumbers halvingEnv 2 (some tenF64) none none).value = fiveF64 := by decide
  refine ⟨?_, value, mean, rfl⟩
  rintro ⟨_, numbers, _⟩
  -- The only row is the one of the histogram, whose value would be the mean.
  cases numbers with
  | cons numbers _ =>
    have same := congrArg RowNumbers.value (numbers _ (.inr rfl))
    exact absurd same (by decide)

end Zradar.Otlp
