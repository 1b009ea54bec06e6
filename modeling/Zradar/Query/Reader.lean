import Mathlib.Data.String.Basic
import Zradar.Lib.Paging
import Zradar.Models.Row
import Zradar.Query.TimeRange
import Zradar.Wal.Record

/-! The telemetry reader: WHERE clauses over the stored rows, counted and cut into pages. -/

namespace Zradar.Query

/-- The column of a name, if a row has one with texts. -/
def column {α : Type} [Row α] (name : String) (row : α) : Option String :=
  (Row.values row).stringField name (Row.fields α)

/--
A condition of a WHERE clause.

Its texts are those that the SQL literals stand for, so escaping has no place here.
-/
inductive Condition where
  | equals (name text : String)
  | oneOf (name : String) (texts : List String)
  | like (name pattern : String)
  | since (bound : Int64)
  | upTo (bound : Int64)
  deriving DecidableEq

section

-- Whether a text matches a pattern is left to the SQL engine.
variable {α : Type} [Row α] (like : String → String → Bool)

/-- Whether a row meets a condition. -/
def Condition.holds (row : α) : Condition → Bool
  | .equals name text => column name row = some text
  | .oneOf name texts => texts.any fun text => column name row = some text
  | .like name pattern => (column name row).any fun text => like text pattern
  | .since bound => bound ≤ Row.timestamp row
  | .upTo bound => Row.timestamp row ≤ bound

/-- The rows that meet every condition. -/
def whereAll (conditions : List Condition) (rows : List α) : List α :=
  rows.filter fun row => conditions.all (Condition.holds like row)

end

/-- The condition that a column has the given text, if one is given. -/
def equalsGiven (name : String) (text : Option String) : List Condition :=
  (text.map (Condition.equals name)).toList

/-- The condition that a column has the given text somewhere, if one is given. -/
def likeGiven (name : String) (text : Option String) : List Condition :=
  (text.map fun text => .like name ("%" ++ text ++ "%")).toList

/-- The conditions of a range of time, if one is given. -/
def withinGiven (timeRange : Option TimeRange) : List Condition :=
  match timeRange with
  | some range => [.since range.start, .upTo range.ending]
  | none => []

/-- Pagination info. -/
structure Pagination where
  limit : Option UInt32
  offset : Option UInt32
  deriving DecidableEq

/-- Default pagination: limit 50, offset 0. -/
def paginationValues (pagination : Pagination) : UInt32 × UInt32 :=
  (pagination.limit.getD 50, pagination.offset.getD 0)

/-- Paginated response. -/
structure PaginatedResponse (α : Type) where
  items : List α
  total : Nat
  limit : UInt32
  offset : UInt32

/-- A count of the rows, and one page of them in some order by the key. -/
def paginated {α : Type} {key : α → Int} (order : OrderBy α key) (rows : List α)
    (pagination : Pagination) : PaginatedResponse α :=
  let (limit, offset) := paginationValues pagination
  { items := page limit.toNat offset.toNat (order.arrange limit.toNat offset.toNat rows)
    total := rows.length
    limit := limit
    offset := offset }

section

variable {α : Type} {key : α → Int} {order : OrderBy α key} {rows : List α}
  {pagination : Pagination} {row : α}

/-- A page has nothing but rows. -/
theorem mem_of_mem_paginated (shown : row ∈ (paginated order rows pagination).items) :
    row ∈ rows :=
  (order.arranged _ _ rows).perm.mem_iff.mp (List.mem_of_mem_drop (List.mem_of_mem_take shown))

/-- A page from the start that is as long as the result has every row. -/
theorem mem_paginated_of_whole (start : (paginationValues pagination).2 = 0)
    (long : rows.length ≤ (paginationValues pagination).1.toNat) (listed : row ∈ rows) :
    row ∈ (paginated order rows pagination).items := by
  -- The first page is long enough for all rows.
  have arranged := order.arranged (paginationValues pagination).1.toNat
    (paginationValues pagination).2.toNat rows
  have whole := page_of_whole (congrArg UInt32.toNat start) (arranged.perm.length_eq.trans_le long)
  have found := arranged.perm.mem_iff.mpr listed
  rw [← whole] at found
  exact found

end

/-- Span query filters of the storage layer. -/
structure StorageSpanFilters where
  workspaceId : Option Uuid
  traceId : Option String
  timeRange : Option TimeRange
  serviceName : Option String
  spanName : Option String
  spanTypes : Option (List String)
  status : Option String
  llmModel : Option String
  llmProvider : Option String
  llmResponseModel : Option String
  agentName : Option String
  sessionId : Option String
  railType : Option String
  actionName : Option String
  workflowRunId : Option String
  framework : Option String
  toolName : Option String
  invocationId : Option String
  environment : Option String
  minDurationMs : Option UInt64
  maxDurationMs : Option UInt64
  dbSystemName : Option String
  dbOperationName : Option String
  pagination : Pagination

/-- The types that are listed, unless the list is empty. -/
def typesGiven (spanTypes : Option (List String)) : List Condition :=
  ((spanTypes.filter fun types => !types.isEmpty).map (Condition.oneOf "span_type")).toList

/-- The WHERE clause of a span query. -/
def StorageSpanFilters.conditions (filters : StorageSpanFilters) (workspaceId : Uuid) :
    List Condition :=
  [.equals "workspace_id" workspaceId.toText] ++
  equalsGiven "trace_id" filters.traceId ++
  equalsGiven "service_name" filters.serviceName ++
  likeGiven "span_name" filters.spanName ++
  typesGiven filters.spanTypes ++
  equalsGiven "status_code" filters.status ++
  withinGiven filters.timeRange ++
  equalsGiven "llm_model" filters.llmModel ++
  equalsGiven "llm_provider" filters.llmProvider ++
  equalsGiven "llm_response_model" filters.llmResponseModel ++
  equalsGiven "agent_name" filters.agentName ++
  equalsGiven "session_id" filters.sessionId ++
  equalsGiven "rail_type" filters.railType ++
  equalsGiven "action_name" filters.actionName ++
  equalsGiven "workflow_run_id" filters.workflowRunId ++
  equalsGiven "framework" filters.framework ++
  equalsGiven "tool_name" filters.toolName ++
  equalsGiven "invocation_id" filters.invocationId ++
  equalsGiven "environment" filters.environment

/-- Newest first. -/
def newestFirst {α : Type} [Row α] (row : α) : Int := -(Row.timestamp row).toInt

section

variable (like : String → String → Bool)

/-- The spans that match the filters. -/
def StorageSpanFilters.rows (filters : StorageSpanFilters) (workspaceId : Uuid)
    (spans : List Span) : List Span :=
  whereAll like (filters.conditions workspaceId) spans

/-- Count the spans that match the filters, and read a page of them. -/
def querySpans (order : OrderBy Span newestFirst) (spans : List Span)
    (filters : StorageSpanFilters) : Except String (PaginatedResponse Span) :=
  match filters.workspaceId with
  | none => .error "workspace_id is required for query_spans"
  | some workspaceId =>
    .ok (paginated order (filters.rows like workspaceId spans) filters.pagination)

end

/-- Trace query filters of the storage layer. -/
structure StorageTraceFilters where
  workspaceId : Option Uuid
  timeRange : Option TimeRange
  serviceName : Option String
  spanName : Option String
  status : Option String
  minDurationMs : Option UInt64
  maxDurationMs : Option UInt64
  llmModel : Option String
  llmProvider : Option String
  llmResponseModel : Option String
  agentName : Option String
  sessionId : Option String
  railType : Option String
  actionName : Option String
  workflowRunId : Option String
  framework : Option String
  toolName : Option String
  invocationId : Option String
  environment : Option String
  pagination : Pagination

/-- Trace summary. -/
structure StorageTraceSummary where
  traceId : String
  traceName : String
  startTime : Int64
  endTime : Int64
  durationMs : Int64
  spanCount : Nat
  serviceName : String
  hasError : Bool
  deriving DecidableEq

/-- The summary of the spans of one trace, with sums that wrap. -/
def summarize (traceId : String) (spans : List Span) : StorageTraceSummary :=
  let startTime := (spans.map fun span => span.timestamp).min?.getD 0
  let endTime := (spans.map fun span => span.timestamp + span.durationNs).max?.getD 0
  { traceId := traceId
    traceName := (spans.map fun span => span.spanName).min?.getD ""
    startTime := startTime
    endTime := endTime
    durationMs := (endTime - startTime) / 1000000
    spanCount := spans.length
    serviceName := (spans.map fun span => span.serviceName).min?.getD ""
    hasError := spans.any fun span => span.statusCode = "ERROR" }

/-- One summary for each trace among the spans. -/
def groupTraces (spans : List Span) : List StorageTraceSummary :=
  (spans.map fun span => span.traceId).dedup.map fun traceId =>
    summarize traceId (spans.filter fun span => span.traceId = traceId)

section

variable (like : String → String → Bool)

/-- The inner WHERE clause of a trace query, with its subquery over all spans. -/
def StorageTraceFilters.conditions (filters : StorageTraceFilters) (workspaceId : Uuid)
    (spans : List Span) : List Condition :=
  let named (name : String) : Condition :=
    .oneOf "trace_id" ((whereAll like [.equals "workspace_id" workspaceId.toText,
      .like "span_name" ("%" ++ name ++ "%")] spans).map fun span => span.traceId)
  [.equals "workspace_id" workspaceId.toText] ++
  equalsGiven "service_name" filters.serviceName ++
  (filters.spanName.map named).toList ++
  withinGiven filters.timeRange ++
  equalsGiven "llm_model" filters.llmModel ++
  equalsGiven "llm_provider" filters.llmProvider ++
  equalsGiven "llm_response_model" filters.llmResponseModel ++
  equalsGiven "agent_name" filters.agentName ++
  equalsGiven "session_id" filters.sessionId ++
  equalsGiven "rail_type" filters.railType ++
  equalsGiven "action_name" filters.actionName ++
  equalsGiven "workflow_run_id" filters.workflowRunId ++
  equalsGiven "framework" filters.framework ++
  equalsGiven "tool_name" filters.toolName ++
  equalsGiven "invocation_id" filters.invocationId ++
  equalsGiven "environment" filters.environment

/-- The outer WHERE clause of a trace query. -/
def StorageTraceFilters.keeps (filters : StorageTraceFilters) (summary : StorageTraceSummary) :
    Bool :=
  (match filters.status.map String.toUpper with
    | some "ERROR" => summary.hasError
    | some "OK" => !summary.hasError
    | _ => true) &&
  (filters.minDurationMs.all fun least => (least.toNat : Int) ≤ summary.durationMs.toInt) &&
  filters.maxDurationMs.all fun most => summary.durationMs.toInt ≤ (most.toNat : Int)

/-- The summaries that match the filters. -/
def StorageTraceFilters.rows (filters : StorageTraceFilters) (workspaceId : Uuid)
    (spans : List Span) : List StorageTraceSummary :=
  (groupTraces (whereAll like (filters.conditions like workspaceId spans) spans)).filter filters.keeps

/-- Newest first. -/
def StorageTraceSummary.newestFirst (summary : StorageTraceSummary) : Int :=
  -summary.startTime.toInt

/-- Count the traces that match the filters, and read a page of them. -/
def queryTraces (order : OrderBy StorageTraceSummary StorageTraceSummary.newestFirst)
    (spans : List Span) (filters : StorageTraceFilters) :
    Except String (PaginatedResponse StorageTraceSummary) :=
  match filters.workspaceId with
  | none => .error "workspace_id is required for query_traces"
  | some workspaceId =>
    .ok (paginated order (filters.rows like workspaceId spans) filters.pagination)

end

/-- Oldest first. -/
def oldestFirst {α : Type} [Row α] (row : α) : Int := (Row.timestamp row).toInt

/-- The spans of a trace, oldest first, if there are any. -/
def getTraceDetail (order : OrderBy Span oldestFirst) (spans : List Span) (workspaceId : Uuid)
    (traceId : String) : Option (List Span) :=
  let found := order.arrange 0 0 (whereAll (fun _ _ => false)
    [.equals "workspace_id" workspaceId.toText, .equals "trace_id" traceId] spans)
  if found.length = 0 then none else some found

/-- Log query filters of the storage layer. -/
structure StorageLogFilters where
  workspaceId : Option Uuid
  timeRange : Option TimeRange
  severity : Option String
  serviceName : Option String
  traceId : Option String
  searchText : Option String
  agentName : Option String
  sessionId : Option String
  pagination : Pagination

/-- Metric query filters of the storage layer. -/
structure StorageMetricFilters where
  workspaceId : Option Uuid
  timeRange : Option TimeRange
  metricName : Option String
  serviceName : Option String
  agentName : Option String
  pagination : Pagination

/-- The WHERE clause of a log query. -/
def StorageLogFilters.conditions (filters : StorageLogFilters) (workspaceId : Uuid) :
    List Condition :=
  [.equals "workspace_id" workspaceId.toText] ++
  equalsGiven "severity" filters.severity ++
  equalsGiven "service_name" filters.serviceName ++
  equalsGiven "trace_id" filters.traceId ++
  likeGiven "message" filters.searchText ++
  equalsGiven "agent_name" filters.agentName ++
  equalsGiven "session_id" filters.sessionId ++
  withinGiven filters.timeRange

/-- The WHERE clause of a metric query. -/
def StorageMetricFilters.conditions (filters : StorageMetricFilters) (workspaceId : Uuid) :
    List Condition :=
  [.equals "workspace_id" workspaceId.toText] ++
  equalsGiven "metric_name" filters.metricName ++
  equalsGiven "service_name" filters.serviceName ++
  equalsGiven "agent_name" filters.agentName ++
  withinGiven filters.timeRange

section

variable (like : String → String → Bool)

/-- The logs that match the filters. -/
def StorageLogFilters.rows (filters : StorageLogFilters) (workspaceId : Uuid)
    (logs : List LogRecord) : List LogRecord :=
  whereAll like (filters.conditions workspaceId) logs

/-- The metrics that match the filters. -/
def StorageMetricFilters.rows (filters : StorageMetricFilters) (workspaceId : Uuid)
    (metrics : List Metric) : List Metric :=
  whereAll like (filters.conditions workspaceId) metrics

/-- Count the logs that match the filters, and read a page of them. -/
def queryLogs (order : OrderBy LogRecord newestFirst) (logs : List LogRecord)
    (filters : StorageLogFilters) : Except String (PaginatedResponse LogRecord) :=
  match filters.workspaceId with
  | none => .error "workspace_id is required for query_logs"
  | some workspaceId =>
    .ok (paginated order (filters.rows like workspaceId logs) filters.pagination)

/-- Count the metrics that match the filters, and read a page of them. -/
def queryMetrics (order : OrderBy Metric newestFirst) (metrics : List Metric)
    (filters : StorageMetricFilters) : Except String (PaginatedResponse Metric) :=
  match filters.workspaceId with
  | none => .error "workspace_id is required for query_metrics"
  | some workspaceId =>
    .ok (paginated order (filters.rows like workspaceId metrics) filters.pagination)

end

end Zradar.Query
