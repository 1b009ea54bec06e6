import Zradar.Lib.Cells
import Zradar.Query.Service

/-! Grouped analytics: aggregates per day and group, and the service calls that join them. -/

namespace Zradar.Query

/-- A double, where one that is known to be a whole number is kept as that number. -/
inductive Amount where
  | whole (value : Int)
  | real (value : F64)
  deriving DecidableEq

/-- The double next to a whole number, with ties to the even one. -/
def roundF64 (value : Int) : Int :=
  let magnitude := value.natAbs
  let unit := 2 ^ (magnitude.log2 - 52)
  let kept := magnitude / unit
  let rest := magnitude % unit
  let rounded := if 2 * rest > unit ∨ 2 * rest = unit ∧ kept % 2 = 1 then kept + 1 else kept
  value.sign * (rounded * unit : Nat)

/-- The whole part of a double. -/
def F64.truncated : F64 → Int
  | .finite ⟨negative, exponent, fraction⟩ =>
    let mantissa := 2 ^ 52 + fraction.val
    let magnitude : Nat :=
      if exponent.val ≥ 1075 then mantissa * 2 ^ (exponent.val - 1075)
      else mantissa / 2 ^ (1075 - exponent.val)
    if negative then -(magnitude : Int) else magnitude
  | .posInf => 2 ^ 63
  | .negInf => -2 ^ 63
  | .nan => 0

/-- A double as a 64-bit integer, which saturates. -/
def Amount.asI64 (amount : Amount) : Int64 :=
  let value := match amount with
    | .whole value => value
    | .real value => F64.truncated value
  .ofInt (max (-2 ^ 63) (min value (2 ^ 63 - 1)))

/-- Whether a double is above zero. -/
def Amount.isPositive : Amount → Bool
  | .whole value => 0 < value
  | .real (.finite ⟨negative, exponent, fraction⟩) =>
    !negative && (exponent.val != 0 || fraction.val != 0)
  | .real .posInf => true
  | .real _ => false

/-- The aggregates that can be asked for. -/
inductive Aggregate where
  | countDistinctTraces
  | countAll
  | sumTokens (tokens : Span → Int32)
  | sumCost
  | avgDurationMs
  | sumErrors

/-- Whitelisted metric names and their aggregates. -/
def allowedMetrics : List (String × Aggregate) :=
  [("trace_count", .countDistinctTraces),
    ("span_count", .countAll),
    ("total_tokens", .sumTokens fun span => span.totalTokens),
    ("prompt_tokens", .sumTokens fun span => span.promptTokens),
    ("completion_tokens", .sumTokens fun span => span.completionTokens),
    ("total_cost_usd", .sumCost),
    ("avg_duration_ms", .avgDurationMs),
    ("error_count", .sumErrors)]

/-- Whitelisted column names that can be used to group and to filter. -/
def allowedDimensions : List String :=
  ["agent_name", "llm_model", "session_id", "service_name", "span_name", "span_type",
    "status_code", "agent_type"]

/-- Generic analytics query filters of the storage layer. -/
structure StorageAnalyticsFilters where
  start : Int64
  ending : Int64
  metric : String
  groupBy : List String
  filters : List (String × String)

/-- A single row from a grouped time-series analytics query. -/
structure AnalyticsDataPoint where
  bucketTs : Int64
  value : Amount
  groups : List (String × String)

/-- The earliest bucket first. -/
def AnalyticsDataPoint.bucketFirst (point : AnalyticsDataPoint) : Int := point.bucketTs.toInt

/-- The value of a group dimension. -/
def AnalyticsDataPoint.group (point : AnalyticsDataPoint) (key : String) : Option String :=
  (point.groups.find? fun group => group.1 = key).map Prod.snd

/--
What is left to the SQL engine and to the processor: how the execution of a metric orders the
points of a day, the sums of doubles, and arithmetic on doubles.
-/
structure AnalyticsEngine where
  order : String → OrderBy AnalyticsDataPoint AnalyticsDataPoint.bucketFirst
  sumCost : List Span → F64
  avgDurationMs : List Span → F64
  add : Amount → Amount → Amount
  mul : Amount → Amount → Amount
  div : Amount → Amount → Amount

/-- The sum of some tokens, which is made in 64 bits. -/
def tokenSum (tokens : Span → Int32) (spans : List Span) : Int64 :=
  (spans.map fun span => (tokens span).toInt64).sum

/-- The spans that failed. -/
def errorSpans (spans : List Span) : List Span := spans.filter fun span => span.statusCode = "ERROR"

/-- The value of an aggregate over some spans. -/
def Aggregate.value (engine : AnalyticsEngine) (spans : List Span) : Aggregate → Amount
  | .countDistinctTraces =>
    .whole (roundF64 (spans.map fun span => span.traceId).dedup.length)
  | .countAll => .whole (roundF64 spans.length)
  | .sumTokens tokens => .whole (roundF64 (tokenSum tokens spans).toInt)
  | .sumCost => .real (engine.sumCost spans)
  | .avgDurationMs => .real (engine.avgDurationMs spans)
  | .sumErrors => .whole (roundF64 (errorSpans spans).length)

/-- The start of the day of a span. -/
def dayBucket (span : Span) : Int64 := span.timestamp / 86400000000000 * 86400000000000

/-- The values that a span has in the columns of a grouping. -/
def groupValues (groupBy : List String) (span : Span) : List (String × String) :=
  groupBy.map fun name => (name, (column name span).getD "")

/-- The spans that an analytics query aggregates. -/
def StorageAnalyticsFilters.rows (filters : StorageAnalyticsFilters) (workspaceId : Uuid)
    (spans : List Span) : List Span :=
  spans.filter fun span =>
    column "workspace_id" span = some workspaceId.toText &&
    filters.start ≤ span.timestamp && span.timestamp ≤ filters.ending &&
    filters.groupBy.all (fun name => column name span != some "") &&
    filters.filters.all fun filter =>
      !allowedDimensions.contains filter.1 || column filter.1 span = some filter.2

/-- Aggregate a metric per day and group. -/
def queryAnalytics (engine : AnalyticsEngine) (spans : List Span) (workspaceId : Uuid)
    (filters : StorageAnalyticsFilters) : Except String (List AnalyticsDataPoint) :=
  match allowedMetrics.find? fun metric => metric.1 = filters.metric with
  | none => .error ("unsupported metric: " ++ filters.metric)
  | some (_, aggregate) =>
    match filters.groupBy.find? fun name => !allowedDimensions.contains name with
    | some name => .error ("unsupported group_by dimension: " ++ name)
    | none =>
      let points :=
        (cells dayBucket (groupValues filters.groupBy) (filters.rows workspaceId spans)).map
          fun cell => ⟨cell.bucket, aggregate.value engine cell.rows, cell.group⟩
      .ok ((engine.order filters.metric).arrange 0 0 points)

/-- The first value of a group, or zero. -/
def firstValue (points : List AnalyticsDataPoint) (isGroup : AnalyticsDataPoint → Bool) : Amount :=
  ((points.find? isGroup).map AnalyticsDataPoint.value).getD (.whole 0)

def findGroupValue (points : List AnalyticsDataPoint) (key value : String) : Amount :=
  firstValue points fun point => point.group key = some value

def findEndpointGroupValue (points : List AnalyticsDataPoint) (serviceName operationName : String) :
    Amount :=
  firstValue points fun point =>
    point.group "service_name" = some serviceName && point.group "span_name" = some operationName

def findAgentGroupValue (points : List AnalyticsDataPoint) (agentName : String)
    (agentType : Option String) : Amount :=
  firstValue points fun point =>
    point.group "agent_name" = some agentName &&
      match point.group "agent_type" with
      | some value => some value = agentType
      | none => agentType.isNone

def findDbGroupValue (points : List AnalyticsDataPoint) (dbSystemName : String)
    (dbOperationName : Option String) : Amount :=
  firstValue points fun point =>
    point.group "db_system_name" = some dbSystemName &&
      point.group "db_operation_name" = dbOperationName

/-- Analytics query of the API, with instants in nanoseconds. -/
structure AnalyticsQuery where
  start : Option Int
  ending : Option Int

/-- Top N query. -/
structure TopNQuery where
  startTime : Int
  endTime : Int
  n : Option Int64

/-- Error analytics query. -/
structure ErrorAnalyticsQuery where
  startTime : Int
  endTime : Int
  serviceName : Option String

/-- The range of an analytics query, which is the last week if none is given. -/
def AnalyticsQuery.range (query : AnalyticsQuery) (now : Int) : Int64 × Int64 :=
  let ending := match query.ending with
    | some ending => (timestampNanosOpt ending).getD 0
    | none => (timestampNanosOpt now).getD 0
  let start := match query.start with
    | some start => (timestampNanosOpt start).getD 0
    | none => ending - 7 * 24 * 60 * 60 * 1000000000
  (start, ending)

def TopNQuery.range (query : TopNQuery) : Int64 × Int64 :=
  ((timestampNanosOpt query.startTime).getD 0, (timestampNanosOpt query.endTime).getD 0)

def ErrorAnalyticsQuery.range (query : ErrorAnalyticsQuery) : Int64 × Int64 :=
  ((timestampNanosOpt query.startTime).getD 0, (timestampNanosOpt query.endTime).getD 0)

structure TopEndpoint where
  operationName : String
  serviceName : String
  count : Int64
  avgDurationMs : Amount
  p95DurationMs : Option Amount
  errorRate : Amount

structure ErrorBreakdown where
  errorType : String
  count : Int64
  percentage : Amount

structure LlmAnalytics where
  llmModel : String
  requestCount : Int64
  totalTokens : Amount
  totalCostUsd : Amount
  avgDurationMs : Amount

structure AgentAnalytics where
  agentName : String
  agentType : Option String
  spanCount : Int64
  errorCount : Int64
  totalTokens : Amount
  avgDurationMs : Amount

structure DatabaseAnalytics where
  dbSystemName : String
  dbOperationName : Option String
  requestCount : Int64
  avgDurationMs : Amount
  errorCount : Int64

section

variable (engine : AnalyticsEngine) (spans : List Span) (workspaceId : Uuid)

/-- One query of the service, with its error wrapped. -/
def serviceAnalytics (range : Int64 × Int64) (groupBy : List String)
    (filters : List (String × String)) (metric : String) :
    Except QueryError (List AnalyticsDataPoint) :=
  (queryAnalytics engine spans workspaceId ⟨range.1, range.2, metric, groupBy, filters⟩).mapError
    fun error => .internal ("Analytics error: " ++ error)

/-- How many endpoints a query is for: ten if it does not say, and at least one. -/
def TopNQuery.limit (query : TopNQuery) : Nat := (max (query.n.getD 10) 1).toInt.toNat

/-- Get top endpoints. -/
def getTopEndpoints (query : TopNQuery) : Except QueryError (List TopEndpoint) := do
  let ask := serviceAnalytics engine spans workspaceId query.range ["service_name", "span_name"] []
  let points ← ask "span_count"
  let durations ← ask "avg_duration_ms"
  let errors ← ask "error_count"
  let endpoints := points.map fun point =>
    let operationName := (point.group "span_name").getD ""
    let serviceName := (point.group "service_name").getD ""
    let errorCount := findEndpointGroupValue errors serviceName operationName
    { operationName := operationName
      serviceName := serviceName
      count := point.value.asI64
      avgDurationMs := findEndpointGroupValue durations serviceName operationName
      p95DurationMs := none
      errorRate := if point.value.isPositive then engine.div errorCount point.value else .whole 0 :
        TopEndpoint }
  .ok ((endpoints.insertionSort fun first second => second.count ≤ first.count).take query.limit)

/-- Get error breakdown. -/
def getErrorBreakdown (query : ErrorAnalyticsQuery) : Except QueryError (List ErrorBreakdown) := do
  let filters := ("status_code", "ERROR") ::
    (query.serviceName.map fun serviceName => ("service_name", serviceName)).toList
  let points ←
    serviceAnalytics engine spans workspaceId query.range ["service_name"] filters "error_count"
  let total := (points.map AnalyticsDataPoint.value).foldl engine.add (.whole 0)
  .ok (points.map fun point =>
    { errorType := (point.group "service_name").getD ""
      count := point.value.asI64
      percentage :=
        if total.isPositive then engine.mul (engine.div point.value total) (.whole 100)
        else .whole 0 })

/-- Get the analytics of language models. -/
def getLlmAnalytics (now : Int) (query : AnalyticsQuery) :
    Except QueryError (List LlmAnalytics) := do
  let ask := serviceAnalytics engine spans workspaceId (query.range now) ["llm_model"] []
  let requests ← ask "span_count"
  let tokens ← ask "total_tokens"
  let costs ← ask "total_cost_usd"
  let durations ← ask "avg_duration_ms"
  .ok (requests.map fun point =>
    let llmModel := (point.group "llm_model").getD ""
    { requestCount := point.value.asI64
      totalTokens := findGroupValue tokens "llm_model" llmModel
      totalCostUsd := findGroupValue costs "llm_model" llmModel
      avgDurationMs := findGroupValue durations "llm_model" llmModel
      llmModel := llmModel })

/-- Get the analytics of agents. -/
def getAgentAnalytics (now : Int) (query : AnalyticsQuery) :
    Except QueryError (List AgentAnalytics) := do
  let ask := serviceAnalytics engine spans workspaceId (query.range now) ["agent_name"] []
  let spans ← ask "span_count"
  let errors ← ask "error_count"
  let tokens ← ask "total_tokens"
  let durations ← ask "avg_duration_ms"
  .ok (spans.map fun point =>
    let agentName := (point.group "agent_name").getD ""
    let agentType := point.group "agent_type"
    { spanCount := point.value.asI64
      errorCount := (findAgentGroupValue errors agentName agentType).asI64
      totalTokens := findAgentGroupValue tokens agentName agentType
      avgDurationMs := findAgentGroupValue durations agentName agentType
      agentName := agentName
      agentType := agentType })

/-- Get the analytics of databases. -/
def getDatabaseAnalytics (now : Int) (query : AnalyticsQuery) :
    Except QueryError (List DatabaseAnalytics) := do
  let ask := serviceAnalytics engine spans workspaceId (query.range now)
    ["db_system_name", "db_operation_name"] [("span_type", "DATABASE")]
  let spans ← ask "span_count"
  let errors ← ask "error_count"
  let durations ← ask "avg_duration_ms"
  .ok (spans.map fun point =>
    let dbSystemName := (point.group "db_system_name").getD ""
    let dbOperationName := point.group "db_operation_name"
    { requestCount := point.value.asI64
      errorCount := (findDbGroupValue errors dbSystemName dbOperationName).asI64
      avgDurationMs := findDbGroupValue durations dbSystemName dbOperationName
      dbSystemName := dbSystemName
      dbOperationName := dbOperationName })

end

end Zradar.Query
