import Zradar.Models.Json
import Zradar.Models.Span
import Zradar.Query.Reader

/-! The query service: the filters of the API, what they become for storage, and what comes back. -/

namespace Zradar.Query

/-- Why the query service refuses a request. -/
inductive QueryError where
  | notFound (message : String)
  | invalidInput (message : String)
  | internal (message : String)
  deriving DecidableEq

/-- The parts of the query service that decide about a query. -/
structure QueryService where
  enforcer : Option QueryEnforcer
  /-- What the policy enforcer says to the query, with its reason if it refuses. -/
  policy : Except String Unit
  /-- The JSON value of a text, if it is one. -/
  parse : String → Option Json

/-- Trace query filters of the API, with instants in nanoseconds. -/
structure TraceQueryFilters where
  workspaceId : String
  startTime : Option Int
  endTime : Option Int
  serviceName : Option String
  operationName : Option String
  minDurationMs : Option Int64
  maxDurationMs : Option Int64
  status : Option String
  llmModel : Option String
  llmProvider : Option String
  llmResponseModel : Option String
  agentName : Option String
  sessionId : Option String
  railType : Option String
  actionName : Option String
  workflowRunId : Option String
  framework : Option String
  toolName : Option String
  invocationId : Option String
  environment : Option String
  limit : Option Int64
  offset : Option Int64

/-- Span query filters of the API, with instants in nanoseconds. -/
structure SpanQueryFilters where
  workspaceId : String
  traceId : Option String
  startTime : Option Int
  endTime : Option Int
  serviceName : Option String
  operationName : Option String
  spanType : Option String
  spanTypes : Option String
  status : Option String
  llmModel : Option String
  llmProvider : Option String
  llmResponseModel : Option String
  agentName : Option String
  sessionId : Option String
  railType : Option String
  actionName : Option String
  workflowRunId : Option String
  framework : Option String
  toolName : Option String
  invocationId : Option String
  environment : Option String
  minDurationMs : Option Int64
  maxDurationMs : Option Int64
  dbSystemName : Option String
  dbOperationName : Option String
  limit : Option Int64
  offset : Option Int64

/-- The characters that trimming removes. -/
def isWhitespace (char : Char) : Bool :=
  let code := char.toNat
  9 ≤ code && code ≤ 13 || code == 0x20 || code == 0x85 || code == 0xA0 || code == 0x1680 ||
    0x2000 ≤ code && code ≤ 0x200A || code == 0x2028 || code == 0x2029 || code == 0x202F ||
    code == 0x205F || code == 0x3000

/-- The characters without white space at either end. -/
def trim (chars : List Char) : List Char :=
  ((chars.dropWhile isWhitespace).reverse.dropWhile isWhitespace).reverse

/-- The trimmed parts of a text between its commas. -/
def commaSeparated (text : String) : List String :=
  (text.toList.splitOn ',').map fun chars => String.ofList (trim chars)

/-- Parse and validate the span types of a query: a list of them goes before a single one. -/
def SpanQueryFilters.parseSpanTypes (filters : SpanQueryFilters) :
    Except String (Option (List String)) :=
  match filters.spanTypes with
  | some typesStr =>
    let types := commaSeparated typesStr
    match types.find? fun each => !Span.validateSpanType each with
    | some each => .error ("Invalid span_type: " ++ each)
    | none => .ok (some types)
  | none =>
    match filters.spanType with
    | some singleType =>
      if !Span.validateSpanType singleType then .error ("Invalid span_type: " ++ singleType)
      else .ok (some [singleType])
    | none => .ok none

/-- A duration in milliseconds, which is zero if it was negative. -/
def clampMs (duration : Int64) : UInt64 := .ofNat duration.toInt.toNat

/-- The pagination of a query, with numbers that are cut to 32 bits. -/
def apiPagination (limit offset : Option Int64) : Pagination where
  limit := some (limit.getD 100).toUInt64.toUInt32
  offset := some (max (offset.getD 0) 0).toUInt64.toUInt32

section

variable (service : QueryService) (workspaceId : Uuid) (now later : Int)

/-- The storage filters of a trace query, if it is not refused. -/
def QueryService.traceFilters (filters : TraceQueryFilters) :
    Except QueryError StorageTraceFilters := do
  service.policy.mapError .invalidInput
  let timeRange ← (tracesTimeRange service.enforcer workspaceId
    ⟨filters.startTime, filters.endTime⟩ now later).mapError .invalidInput
  .ok
    { workspaceId := some workspaceId
      timeRange := timeRange
      serviceName := filters.serviceName
      spanName := filters.operationName
      status := filters.status
      minDurationMs := filters.minDurationMs.map clampMs
      maxDurationMs := filters.maxDurationMs.map clampMs
      llmModel := filters.llmModel
      llmProvider := filters.llmProvider
      llmResponseModel := filters.llmResponseModel
      agentName := filters.agentName
      sessionId := filters.sessionId
      railType := filters.railType
      actionName := filters.actionName
      workflowRunId := filters.workflowRunId
      framework := filters.framework
      toolName := filters.toolName
      invocationId := filters.invocationId
      environment := filters.environment
      pagination := apiPagination filters.limit filters.offset }

/-- The storage filters of a span query, if it is not refused. -/
def QueryService.spanFilters (filters : SpanQueryFilters) :
    Except QueryError StorageSpanFilters := do
  service.policy.mapError .invalidInput
  let timeRange ← (spansTimeRange service.enforcer workspaceId
    ⟨filters.startTime, filters.endTime⟩ now later).mapError .invalidInput
  let spanTypes ← filters.parseSpanTypes.mapError .invalidInput
  .ok
    { workspaceId := some workspaceId
      traceId := filters.traceId
      timeRange := timeRange
      serviceName := filters.serviceName
      spanName := filters.operationName
      spanTypes := spanTypes
      status := filters.status
      llmModel := filters.llmModel
      llmProvider := filters.llmProvider
      llmResponseModel := filters.llmResponseModel
      agentName := filters.agentName
      sessionId := filters.sessionId
      railType := filters.railType
      actionName := filters.actionName
      workflowRunId := filters.workflowRunId
      framework := filters.framework
      toolName := filters.toolName
      invocationId := filters.invocationId
      environment := filters.environment
      minDurationMs := filters.minDurationMs.map clampMs
      maxDurationMs := filters.maxDurationMs.map clampMs
      dbSystemName := filters.dbSystemName
      dbOperationName := filters.dbOperationName
      pagination := apiPagination filters.limit filters.offset }

end

/-- Span detail. -/
structure SpanDetail where
  spanId : String
  traceId : String
  parentSpanId : Option String
  serviceName : String
  operationName : String
  spanType : String
  startTime : Int
  durationMs : Int64
  status : String
  agentName : Option String
  agentType : Option String
  sessionId : Option String
  llmModel : Option String
  llmProvider : Option String
  llmResponseModel : Option String
  llmInput : Option String
  llmOutput : Option String
  promptTokens : Option Int32
  completionTokens : Option Int32
  totalTokens : Option Int32
  promptCostUsd : Option F64
  completionCostUsd : Option F64
  totalCostUsd : Option F64
  toolName : Option String
  toolCallId : Option String
  railType : Option String
  railName : Option String
  railStop : Option Bool
  actionName : Option String
  workflowRunId : Option String
  framework : Option String
  llmCacheHit : Option Bool
  llmResponseId : Option String
  environment : Option String
  dbSystemName : Option String
  dbNamespace : Option String
  dbOperationName : Option String
  dbQueryText : Option String
  dbQuerySummary : Option String
  dbCollectionName : Option String
  dbResponseStatusCode : Option String
  agentId : Option String
  agentDescription : Option String
  agentTaskId : Option String
  agentTaskParentId : Option String
  agentTaskName : Option String
  agentTaskKind : Option String
  agentTaskState : Option String
  agentTaskStatus : Option String
  memoryType : Option String
  memoryKey : Option String
  mcpToolName : Option String
  mcpServerName : Option String
  mcpToolInput : Option String
  mcpToolOutput : Option String
  agentVersion : Option String
  sdkVersion : Option String
  evaluationName : Option String
  evaluationExplanation : Option String
  evaluationPassed : Option Int16
  modelParameters : Option Json
  events : Option Json
  links : Option Json
  attributes : List (String × Json)

/-- A text, if it is not empty. -/
def nonEmptyString (value : String) : Option String := if value = "" then none else some value

/-- A number, if it is not zero. -/
def nonZeroI32 (value : Int32) : Option Int32 := if value = 0 then none else some value

/-- A double, if it is neither of the two zeros. -/
def nonZeroF64 (value : F64) : Option F64 :=
  match value with
  | .finite ⟨_, 0, 0⟩ => none
  | _ => some value

/-- Whether the cache was hit, if that is known. -/
def cacheHitToBool (value : Int16) : Option Bool :=
  if value = 1 then some true else if value = 0 then some false else none

section

variable (parse : String → Option Json)

/-- The sampling parameters of a span, if there are any. -/
def parseModelParameters (raw : String) : Option Json :=
  if raw = "" || raw = "\x7b\x7d" then none
  else
    match parse raw with
    | some (.obj []) => none
    | parsed => parsed

/-- The array in a column of a span, if there is anything in it. -/
def parseJsonArray (raw : String) : Option Json :=
  if raw = "" || raw = "[]" then none
  else
    match parse raw with
    | some (.arr []) => none
    | parsed => parsed

/-- The attributes of a span, which are empty if they cannot be read. -/
def parseAttributes (raw : String) : List (String × Json) :=
  match parse raw with
  | some (.obj entries) => entries
  | _ => []

/-- What the API shows of a span. -/
def spanDetail (span : Span) : SpanDetail where
  spanId := span.spanId
  traceId := span.traceId
  parentSpanId := nonEmptyString span.parentSpanId
  serviceName := span.serviceName
  operationName := span.spanName
  spanType := span.spanType
  startTime := span.timestamp.toInt
  durationMs := span.durationNs / 1000000
  status := span.statusCode
  agentName := nonEmptyString span.agentName
  agentType := nonEmptyString span.agentType
  sessionId := nonEmptyString span.sessionId
  llmModel := nonEmptyString span.llmModel
  llmProvider := nonEmptyString span.llmProvider
  llmResponseModel := nonEmptyString span.llmResponseModel
  llmInput := nonEmptyString span.llmInput
  llmOutput := nonEmptyString span.llmOutput
  promptTokens := nonZeroI32 span.promptTokens
  completionTokens := nonZeroI32 span.completionTokens
  totalTokens := nonZeroI32 span.totalTokens
  promptCostUsd := nonZeroF64 span.promptCostUsd
  completionCostUsd := nonZeroF64 span.completionCostUsd
  totalCostUsd := nonZeroF64 span.totalCostUsd
  toolName := nonEmptyString span.toolName
  toolCallId := nonEmptyString span.toolCallId
  railType := nonEmptyString span.railType
  railName := nonEmptyString span.railName
  railStop := if span.railStop ≠ 0 then some true else none
  actionName := nonEmptyString span.actionName
  workflowRunId := nonEmptyString span.workflowRunId
  framework := nonEmptyString span.framework
  llmCacheHit := cacheHitToBool span.llmCacheHit
  llmResponseId := nonEmptyString span.llmResponseId
  environment := nonEmptyString span.environment
  dbSystemName := nonEmptyString span.dbSystemName
  dbNamespace := nonEmptyString span.dbNamespace
  dbOperationName := nonEmptyString span.dbOperationName
  dbQueryText := nonEmptyString span.dbQueryText
  dbQuerySummary := nonEmptyString span.dbQuerySummary
  dbCollectionName := nonEmptyString span.dbCollectionName
  dbResponseStatusCode := nonEmptyString span.dbResponseStatusCode
  agentId := nonEmptyString span.agentId
  agentDescription := nonEmptyString span.agentDescription
  agentTaskId := nonEmptyString span.agentTaskId
  agentTaskParentId := nonEmptyString span.agentTaskParentId
  agentTaskName := nonEmptyString span.agentTaskName
  agentTaskKind := nonEmptyString span.agentTaskKind
  agentTaskState := nonEmptyString span.agentTaskState
  agentTaskStatus := nonEmptyString span.agentTaskStatus
  memoryType := nonEmptyString span.memoryType
  memoryKey := nonEmptyString span.memoryKey
  mcpToolName := nonEmptyString span.mcpToolName
  mcpServerName := nonEmptyString span.mcpServerName
  mcpToolInput := nonEmptyString span.mcpToolInput
  mcpToolOutput := nonEmptyString span.mcpToolOutput
  agentVersion := nonEmptyString span.agentVersion
  sdkVersion := nonEmptyString span.sdkVersion
  evaluationName := nonEmptyString span.evaluationName
  evaluationExplanation := nonEmptyString span.evaluationExplanation
  evaluationPassed := if span.evaluationPassed ≠ -1 then some span.evaluationPassed else none
  modelParameters := parseModelParameters parse span.modelParameters
  events := parseJsonArray parse span.events
  links := parseJsonArray parse span.links
  attributes := parseAttributes parse span.attributes

end

/-- Trace summary. -/
structure TraceSummary where
  traceId : String
  startTime : Int
  durationMs : Int64
  serviceName : String
  operationName : String
  status : String
  spanCount : Nat
  deriving DecidableEq

/-- What the API shows of a trace in a list. -/
def traceSummary (summary : StorageTraceSummary) : TraceSummary where
  traceId := summary.traceId
  startTime := summary.startTime.toInt
  durationMs := summary.durationMs
  serviceName := summary.serviceName
  operationName := summary.traceName
  status := if summary.hasError then "ERROR" else "OK"
  spanCount := summary.spanCount

/-- Trace detail. -/
structure TraceDetail where
  traceId : String
  startTime : Int
  durationMs : Int64
  spans : List SpanDetail

/-- A page of a result as the API returns it. -/
structure ApiPage (α : Type) where
  items : List α
  total : Nat
  page : Nat
  pageSize : Nat

/-- The page that the API makes of one of storage. -/
def apiPage {α β : Type} (convert : α → β) (result : PaginatedResponse α) : ApiPage β where
  items := result.items.map convert
  total := result.total
  page := 0
  pageSize := result.limit.toNat

namespace QueryService

section

variable (service : QueryService) (like : String → String → Bool) (spans : List Span)
  (workspaceId : Uuid) (now later : Int)

/-- Query spans. -/
def querySpans (order : OrderBy Span newestFirst) (filters : SpanQueryFilters) :
    Except QueryError (ApiPage SpanDetail) := do
  let storageFilters ← service.spanFilters workspaceId now later filters
  let result ← (Query.querySpans like order spans storageFilters).mapError fun error =>
    .internal ("Storage error: " ++ error)
  .ok (apiPage (spanDetail service.parse) result)

/-- Query traces. -/
def queryTraces (order : OrderBy StorageTraceSummary StorageTraceSummary.newestFirst)
    (filters : TraceQueryFilters) : Except QueryError (ApiPage TraceSummary) := do
  let storageFilters ← service.traceFilters workspaceId now later filters
  let result ← (Query.queryTraces like order spans storageFilters).mapError fun error =>
    .internal ("Storage error: " ++ error)
  .ok (apiPage traceSummary result)

/-- Get trace detail: the duration is the sum of those of the spans, which wraps. -/
def getTrace (order : OrderBy Span oldestFirst) (traceId : String) :
    Except QueryError TraceDetail :=
  match getTraceDetail order spans workspaceId traceId with
  | none => .error (.notFound "Trace not found")
  | some [] => .error (.notFound "Trace not found")
  | some (root :: rest) =>
    let totalDurationNs := ((root :: rest).map fun span => span.durationNs).sum
    .ok
      { traceId := traceId
        startTime := root.timestamp.toInt
        durationMs := totalDurationNs / 1000000
        spans := (root :: rest).map (spanDetail service.parse) }

end

end QueryService

end Zradar.Query
