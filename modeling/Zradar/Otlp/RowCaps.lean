import Zradar.Otlp.RowConverters

/-! The rows that an accepted request is converted to, and how many they can be. -/

namespace Zradar.Otlp

/-- How many points a metric has. -/
def Data.points : Data → Nat
  | .gauge points => points.length
  | .sum points => points.length
  | .histogram points => points.length
  | .exponentialHistogram points => points.length
  | .summary points => points.length

/-- How many points the metrics of a request have. -/
def ExportMetricsServiceRequest.dataPoints (request : ExportMetricsServiceRequest) : Nat :=
  (request.resourceMetrics.map fun resource =>
    (resource.scopeMetrics.map fun scope =>
      (scope.metrics.map fun metric => (metric.data.map Data.points).getD 0).sum).sum).sum

section

variable (env : RowEnv) (converter : OtlpConverter) (workspaceId : WorkspaceId) (draws : Draws)

/-- The rows of each kind that a request is converted to are within the cap on records. -/
def RowsBounded : ExportRequest → Prop
  | .traces request =>
    (convertTraces env converter workspaceId draws request).length ≤ maxRecordsPerRequest
  | .metrics request => (convertMetrics env workspaceId request).length ≤ maxRecordsPerRequest
  | .logs request =>
    (convertLogs env workspaceId draws request).length ≤ maxRecordsPerRequest ∧
      (extractScores env workspaceId draws request).length ≤ maxRecordsPerRequest

/-- The points of the metrics of a request are within the cap on records. -/
def DataPointsBounded : ExportRequest → Prop
  | .metrics request => request.dataPoints ≤ maxRecordsPerRequest
  | .traces _ | .logs _ => True

theorem length_convertTraces (request : ExportTraceServiceRequest) :
    (convertTraces env converter workspaceId draws request).length =
      (request.groups.map List.sum).sum := by
  rw [convertTraces, List.length_map, List.length_zipIdx, ExportTraceServiceRequest.spans,
    ExportTraceServiceRequest.groups]
  simp only [List.length_flatMap, List.length_map, List.map_map]
  rfl

theorem length_convertLogs (request : ExportLogsServiceRequest) :
    (convertLogs env workspaceId draws request).length = (request.groups.map List.sum).sum := by
  rw [convertLogs, List.length_map, List.length_zipIdx, ExportLogsServiceRequest.records,
    ExportLogsServiceRequest.groups]
  simp only [List.length_flatMap, List.length_map, List.map_map]
  rfl

/-- A log record is at most one score. -/
theorem length_extractScores_le (request : ExportLogsServiceRequest) :
    (extractScores env workspaceId draws request).length ≤
      (convertLogs env workspaceId draws request).length := by
  rw [extractScores, convertLogs, List.length_map]
  exact List.length_filterMap_le _ _

/-- Every point of a metric is a row. -/
theorem length_convertData (metricName serviceName agentName : String) (data : Option Data) :
    (convertData env workspaceId metricName serviceName agentName data).length =
      (data.map Data.points).getD 0 := by
  cases data with
  | none => rfl
  | some data => cases data <;> exact List.length_map _

theorem length_convertMetrics (request : ExportMetricsServiceRequest) :
    (convertMetrics env workspaceId request).length = request.dataPoints := by
  rw [convertMetrics, ExportMetricsServiceRequest.dataPoints]
  simp only [List.length_flatMap, length_convertData]

/--
An accepted request is converted to no more rows than the cap allows exactly if the points of its
metrics are within that cap, since these are not what is counted.
-/
theorem rows_bounded_iff (request : ExportRequest) (accepted : request.validate = .ok ()) :
    RowsBounded env converter workspaceId draws request ↔ DataPointsBounded request := by
  cases request with
  | traces request =>
    -- Each span that was counted is one row.
    obtain ⟨_, _, records⟩ := validateGroups_eq_ok.mp accepted
    rw [← length_convertTraces env converter workspaceId draws] at records
    exact iff_of_true records trivial
  | metrics request =>
    rw [RowsBounded, DataPointsBounded, length_convertMetrics]
  | logs request =>
    obtain ⟨_, _, records⟩ := validateGroups_eq_ok.mp accepted
    rw [← length_convertLogs env workspaceId draws] at records
    exact iff_of_true
      ⟨records, (length_extractScores_le env workspaceId draws request).trans records⟩ trivial

end

/-- An environment in which nothing can be read and doubles are all zero. -/
def plainRowEnv : RowEnv where
  spans := ⟨⟨fun _ => .error "", fun _ => none, fun _ => "0.0", fun _ => none, fun _ => F64.zero⟩,
    fun _ => none, id, fun _ => none⟩
  intToF64 := fun _ => F64.zero
  divide := fun _ _ => F64.zero
  parseF64 := fun _ => none
  displayF64 := fun _ => "0"
  textsFromStr := fun _ => none
  valueFromStr := fun _ => none

/-- Draws that are all the same. -/
def plainDraws : Draws :=
  ⟨fun _ => 0, fun _ => 0, fun _ => Uuid.nil, fun _ => 0, fun _ => Uuid.nil, fun _ => Uuid.nil⟩

/-- A request of one gauge with some empty points. -/
def gaugeRequest (points : Nat) : ExportRequest :=
  .metrics ⟨[⟨none, [⟨[⟨"load", some (.gauge (List.replicate points ⟨[], 0, none⟩))⟩]⟩]⟩]⟩

/-- A gauge of two points is accepted, and is two rows. -/
theorem two_points_are_bounded :
    (gaugeRequest 2).validate = .ok () ∧
      RowsBounded plainRowEnv (.new plainRowEnv.spans fun _ => true) Uuid.nil plainDraws
        (gaugeRequest 2) :=
  ⟨rfl, (rows_bounded_iff plainRowEnv (.new plainRowEnv.spans fun _ => true) Uuid.nil plainDraws
    (gaugeRequest 2) rfl).mpr (by decide : 2 ≤ maxRecordsPerRequest)⟩

/-- One metric with too many points is accepted, and each of them is a row. -/
theorem data_points_are_not_counted :
    ¬ ∀ (env : RowEnv) (converter : OtlpConverter) (workspaceId : WorkspaceId) (draws : Draws)
      (request : ExportRequest), request.validate = .ok () →
        RowsBounded env converter workspaceId draws request := by
  intro bounded
  have rows := bounded plainRowEnv (.new plainRowEnv.spans fun _ => true) Uuid.nil plainDraws
    (gaugeRequest (maxRecordsPerRequest + 1)) rfl
  rw [gaugeRequest, RowsBounded, length_convertMetrics] at rows
  simp [ExportMetricsServiceRequest.dataPoints, Data.points] at rows

end Zradar.Otlp
