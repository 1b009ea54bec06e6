import Zradar.Otlp.Converter

/-! The export requests of the three signals, and the caps that a decoded request has to meet. -/

namespace Zradar.Otlp

/-- The spans of one instrumentation scope. -/
structure ScopeSpans where
  spans : List OtlpSpan

/-- The spans of one sender. -/
structure ResourceSpans where
  resource : Option Resource
  scopeSpans : List ScopeSpans

structure ExportTraceServiceRequest where
  resourceSpans : List ResourceSpans

/-- What a number data point holds. -/
inductive NumberValue where
  | asDouble (value : F64)
  | asInt (value : Int64)

/-- A point of a gauge or a sum. -/
structure NumberDataPoint where
  attributes : List KeyValue
  timeUnixNano : UInt64
  value : Option NumberValue

/-- A point of a histogram, or of an exponential one. -/
structure HistogramDataPoint where
  attributes : List KeyValue
  timeUnixNano : UInt64
  count : UInt64
  sum : Option F64
  min : Option F64
  max : Option F64

structure SummaryDataPoint where
  attributes : List KeyValue
  timeUnixNano : UInt64
  count : UInt64
  sum : F64

/-- The points of a metric. -/
inductive Data where
  | gauge (dataPoints : List NumberDataPoint)
  | sum (dataPoints : List NumberDataPoint)
  | histogram (dataPoints : List HistogramDataPoint)
  | exponentialHistogram (dataPoints : List HistogramDataPoint)
  | summary (dataPoints : List SummaryDataPoint)

structure OtlpMetric where
  name : String
  data : Option Data

structure ScopeMetrics where
  metrics : List OtlpMetric

structure ResourceMetrics where
  resource : Option Resource
  scopeMetrics : List ScopeMetrics

structure ExportMetricsServiceRequest where
  resourceMetrics : List ResourceMetrics

structure OtlpLogRecord where
  timeUnixNano : UInt64
  severityNumber : Int32
  severityText : String
  body : Option AnyValue
  attributes : List KeyValue
  traceId : Bytes
  spanId : Bytes

structure ScopeLogs where
  logRecords : List OtlpLogRecord

structure ResourceLogs where
  resource : Option Resource
  scopeLogs : List ScopeLogs

structure ExportLogsServiceRequest where
  resourceLogs : List ResourceLogs

/-- A decoded export request. -/
inductive ExportRequest where
  | traces (request : ExportTraceServiceRequest)
  | metrics (request : ExportMetricsServiceRequest)
  | logs (request : ExportLogsServiceRequest)

/-- The most resource groups of a request. -/
def maxResourceGroupsPerRequest : Nat := 1024

/-- The most scope groups of a request. -/
def maxScopeGroupsPerRequest : Nat := 4096

/-- The most records of a request after expanding scopes. -/
def maxRecordsPerRequest : Nat := 10000

/-- A cap that a request exceeds. -/
inductive ParserCapError where
  | resourceSpans
  | scopeSpans
  | spans
  | resourceMetrics
  | scopeMetrics
  | metrics
  | resourceLogs
  | scopeLogs
  | logRecords
  deriving DecidableEq

/-- The stable reason of a cap. -/
def ParserCapError.message : ParserCapError → String
  | .resourceSpans => "too_many_resource_spans"
  | .scopeSpans => "too_many_scope_spans"
  | .spans => "too_many_spans"
  | .resourceMetrics => "too_many_resource_metrics"
  | .scopeMetrics => "too_many_scope_metrics"
  | .metrics => "too_many_metrics"
  | .resourceLogs => "too_many_resource_logs"
  | .scopeLogs => "too_many_scope_logs"
  | .logRecords => "too_many_log_records"

/-- Add two lengths, which cannot exceed a machine word. -/
def saturatingAddUsize (first second : Nat) : Nat := min (first + second) (2 ^ 64 - 1)

/-- Count the records of the scopes of a resource. -/
def countRecords (tooMany : ParserCapError) : Nat → List Nat → Except ParserCapError Nat
  | records, [] => .ok records
  | records, scope :: scopes =>
    let records := saturatingAddUsize records scope
    if records > maxRecordsPerRequest then .error tooMany else countRecords tooMany records scopes

/-- Count the scopes and the records of the resources of a request. -/
def countScopes (tooManyScopes tooManyRecords : ParserCapError) :
    Nat → Nat → List (List Nat) → Except ParserCapError Unit
  | _, _, [] => .ok ()
  | scopes, records, resource :: resources =>
    let scopes := saturatingAddUsize scopes resource.length
    if scopes > maxScopeGroupsPerRequest then .error tooManyScopes
    else
      match countRecords tooManyRecords records resource with
      | .error error => .error error
      | .ok records => countScopes tooManyScopes tooManyRecords scopes records resources

/-- Validate the caps of a request, given the number of records in each scope of each resource. -/
def validateGroups (tooManyResources tooManyScopes tooManyRecords : ParserCapError)
    (groups : List (List Nat)) : Except ParserCapError Unit :=
  if groups.length > maxResourceGroupsPerRequest then .error tooManyResources
  else countScopes tooManyScopes tooManyRecords 0 0 groups

def ExportTraceServiceRequest.groups (request : ExportTraceServiceRequest) : List (List Nat) :=
  request.resourceSpans.map fun resource => resource.scopeSpans.map fun scope => scope.spans.length

def ExportMetricsServiceRequest.groups (request : ExportMetricsServiceRequest) : List (List Nat) :=
  request.resourceMetrics.map fun resource =>
    resource.scopeMetrics.map fun scope => scope.metrics.length

def ExportLogsServiceRequest.groups (request : ExportLogsServiceRequest) : List (List Nat) :=
  request.resourceLogs.map fun resource =>
    resource.scopeLogs.map fun scope => scope.logRecords.length

/-- Validate trace request caps. -/
def validateTraceRequest (request : ExportTraceServiceRequest) : Except ParserCapError Unit :=
  validateGroups .resourceSpans .scopeSpans .spans request.groups

/-- Validate metrics request caps, of which the last is on metrics and not on their points. -/
def validateMetricsRequest (request : ExportMetricsServiceRequest) : Except ParserCapError Unit :=
  validateGroups .resourceMetrics .scopeMetrics .metrics request.groups

/-- Validate logs request caps. -/
def validateLogsRequest (request : ExportLogsServiceRequest) : Except ParserCapError Unit :=
  validateGroups .resourceLogs .scopeLogs .logRecords request.groups

/-- Validate the caps of a request by its signal. -/
def ExportRequest.validate : ExportRequest → Except ParserCapError Unit
  | .traces request => validateTraceRequest request
  | .metrics request => validateMetricsRequest request
  | .logs request => validateLogsRequest request

/-- A count that stays below the cap is exact. -/
theorem saturatingAddUsize_le {first second cap : Nat} (small : cap < 2 ^ 64 - 1) :
    saturatingAddUsize first second ≤ cap ↔ first + second ≤ cap := by
  unfold saturatingAddUsize
  omega

theorem saturatingAddUsize_of_le {first second cap : Nat} (small : cap < 2 ^ 64 - 1)
    (within : first + second ≤ cap) : saturatingAddUsize first second = first + second := by
  unfold saturatingAddUsize
  omega

/-- The records of a resource are accepted exactly if their number is within the cap. -/
theorem countRecords_eq_ok {tooMany : ParserCapError} {scopes : List Nat} {records total : Nat}
    (before : records ≤ maxRecordsPerRequest) :
    countRecords tooMany records scopes = .ok total ↔
      records + scopes.sum = total ∧ total ≤ maxRecordsPerRequest := by
  have small : maxRecordsPerRequest < 2 ^ 64 - 1 := by decide
  -- The sum so far changes with each scope, so it stays quantified over.
  induction scopes generalizing records with
  | nil =>
    simp only [countRecords, Except.ok.injEq, List.sum_nil, Nat.add_zero]
    constructor
    · rintro rfl
      exact ⟨rfl, before⟩
    · exact And.left
  | cons scope scopes ih =>
    simp only [countRecords, List.sum_cons]
    by_cases within : records + scope ≤ maxRecordsPerRequest
    · -- The sum so far is exact, so the loop goes on with it.
      rw [saturatingAddUsize_of_le small within, if_neg (Nat.not_lt.mpr within)]
      refine (ih within).trans ?_
      omega
    · have exceeds : saturatingAddUsize records scope > maxRecordsPerRequest :=
        Nat.not_le.mp fun le => within ((saturatingAddUsize_le small).mp le)
      rw [if_pos exceeds]
      constructor
      · exact fun absurd => nomatch absurd
      · omega

/-- The resources are accepted exactly if their scopes and records are within the caps. -/
theorem countScopes_eq_ok {tooManyScopes tooManyRecords : ParserCapError} {groups : List (List Nat)}
    {scopes records : Nat} (opened : scopes ≤ maxScopeGroupsPerRequest)
    (recorded : records ≤ maxRecordsPerRequest) :
    countScopes tooManyScopes tooManyRecords scopes records groups = .ok () ↔
      scopes + (groups.map List.length).sum ≤ maxScopeGroupsPerRequest ∧
        records + (groups.map List.sum).sum ≤ maxRecordsPerRequest := by
  have small : maxScopeGroupsPerRequest < 2 ^ 64 - 1 := by decide
  induction groups generalizing scopes records with
  | nil => simp [countScopes, opened, recorded]
  | cons group groups ih =>
    simp only [countScopes, List.map_cons, List.sum_cons]
    by_cases within : scopes + group.length ≤ maxScopeGroupsPerRequest
    · rw [saturatingAddUsize_of_le small within, if_neg (Nat.not_lt.mpr within)]
      cases counted : countRecords tooManyRecords records group with
      | error error =>
        -- A resource with too many records is an error, whatever follows it.
        have exceeds : ¬ records + group.sum ≤ maxRecordsPerRequest := by
          intro fits
          rw [(countRecords_eq_ok recorded).mpr ⟨rfl, fits⟩] at counted
          exact nomatch counted
        simp only [reduceCtorEq, false_iff]
        omega
      | ok total =>
        obtain ⟨exact, fits⟩ := (countRecords_eq_ok recorded).mp counted
        refine (ih within fits).trans ?_
        omega
    · have exceeds : saturatingAddUsize scopes group.length > maxScopeGroupsPerRequest :=
        Nat.not_le.mp fun le => within ((saturatingAddUsize_le small).mp le)
      rw [if_pos exceeds]
      simp only [reduceCtorEq, false_iff]
      omega

/-- A request is accepted exactly if it meets the three caps. -/
theorem validateGroups_eq_ok {tooManyResources tooManyScopes tooManyRecords : ParserCapError}
    {groups : List (List Nat)} :
    validateGroups tooManyResources tooManyScopes tooManyRecords groups = .ok () ↔
      groups.length ≤ maxResourceGroupsPerRequest ∧
        (groups.map List.length).sum ≤ maxScopeGroupsPerRequest ∧
        (groups.map List.sum).sum ≤ maxRecordsPerRequest := by
  -- The resources are counted first, and then the scopes and records in one loop.
  unfold validateGroups
  by_cases many : groups.length > maxResourceGroupsPerRequest
  · rw [if_pos many]
    simp only [reduceCtorEq, false_iff]
    omega
  · rw [if_neg many, countScopes_eq_ok (Nat.zero_le _) (Nat.zero_le _)]
    omega

end Zradar.Otlp
