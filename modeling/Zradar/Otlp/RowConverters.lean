import Zradar.Otlp.Requests

/-! The conversion of requests to rows: spans, metrics, log records, and the scores in the latter. -/

namespace Zradar

/-- A score under its default values, at a reading of the clock and under a new id. -/
def EvaluationScore.default (now : Int64) (id : String) : EvaluationScore where
  id := id
  workspaceId := ""
  timestamp := now
  createdAt := now
  updatedAt := now
  eventTs := now
  traceId := ""
  spanId := ""
  sessionId := ""
  datasetRunId := ""
  name := ""
  value := F64.zero
  dataType := "NUMERIC"
  stringValue := ""
  source := "API"
  comment := ""
  authorUserId := ""
  configId := ""
  evalExecutionTraceId := ""
  queueId := ""
  environment := "default"
  serviceName := ""
  agentName := ""
  userId := ""
  metadata := "\x7b\x7d"
  isDeleted := 0

end Zradar

namespace Zradar.Otlp

/-- What the converters call that is not their own, and the operations on doubles. -/
structure RowEnv where
  spans : ConverterEnv
  intToF64 : Int → F64
  divide : F64 → F64 → F64
  parseF64 : String → Option F64
  /-- A double as text, by its `Display`. -/
  displayF64 : F64 → String
  /-- Read a JSON array of texts. -/
  textsFromStr : String → Option (List String)
  valueFromStr : String → Option Json

/-- What an attempt to convert a request reads from the clock and draws at random, by record. -/
structure Draws where
  spanNow : Nat → Int64
  logNow : Nat → Int64
  logId : Nat → Uuid
  scoreNow : Nat → Int64
  /-- The id that a score has by default. -/
  scoreId : Nat → Uuid
  /-- The id for a score whose own is empty. -/
  evalId : Nat → Uuid

/-- The attributes of a resource, if there is one. -/
def resourceAttributes (resource : Option Resource) : List KeyValue :=
  match resource with
  | some resource => resource.attributes
  | none => []

/-- A double that may be left out. -/
def orZero (value : Option F64) : F64 := value.getD F64.zero

section Spans

variable (env : RowEnv) (converter : OtlpConverter) (workspaceId : WorkspaceId) (draws : Draws)

/-- The spans of a request, each with its resource. -/
def ExportTraceServiceRequest.spans (request : ExportTraceServiceRequest) :
    List (Option Resource × OtlpSpan) :=
  request.resourceSpans.flatMap fun resource =>
    resource.scopeSpans.flatMap fun scope => scope.spans.map fun span => (resource.resource, span)

/-- Convert the spans of a request. -/
def convertTraces (request : ExportTraceServiceRequest) : List Span :=
  request.spans.zipIdx.map fun ((resource, span), index) =>
    convertSpan env.spans converter (spansServiceName resource)
      ((extractResourceString resource "deployment.environment").getD "") workspaceId
      (draws.spanNow index) span

end Spans

section Metrics

variable (env : RowEnv) (workspaceId : WorkspaceId)

/-- A value as JSON, where lists and bytes are lost. -/
def metricValueToJson : Option Value → Json
  | some (.stringValue text) => .str text
  | some (.intValue value) => .int value.toInt
  | some (.doubleValue value) => value.toJson env.spans.serde
  | some (.boolValue value) => .bool value
  | _ => .null

/-- `attrs_to_json` of the metrics converter. -/
def metricAttrsToJson (attributes : List KeyValue) : String :=
  (Json.obj (sortedMap (attributes.map fun pair =>
    (pair.key, metricValueToJson env (pair.value.bind AnyValue.value))))).text

/-- The row of a point, given its numbers. -/
def pointToMetric (metricName metricType serviceName agentName : String) (timeUnixNano : UInt64)
    (attributes : List KeyValue) (value : F64) (count : Int64) (sum min max : F64) : Metric where
  metricName := metricName
  metricType := metricType
  timestamp := timeUnixNano.toInt64
  workspaceId := workspaceId.toText
  value := value
  count := count
  sum := sum
  min := min
  max := max
  serviceName := serviceName
  agentName := agentName
  userId := (extractStringAttr attributes "user.id").getD ""
  sessionId := (extractStringAttr attributes "session.id").getD ""
  labels := metricAttrsToJson env attributes

/-- The mean of a sum, where no points have none. -/
def meanOf (sum : F64) (count : UInt64) : F64 :=
  if count > 0 then env.divide sum (env.intToF64 count.toNat) else F64.zero

variable (metricName serviceName agentName : String)

/-- The row of a point of a gauge or a sum. -/
def numberDpToMetric (metricType : String) (point : NumberDataPoint) : Metric :=
  let value := match point.value with
    | some (.asDouble value) => value
    | some (.asInt value) => env.intToF64 value.toInt
    | none => F64.zero
  pointToMetric env workspaceId metricName metricType serviceName agentName point.timeUnixNano
    point.attributes value 1 value value value

def histogramDpToMetric (point : HistogramDataPoint) : Metric :=
  pointToMetric env workspaceId metricName "HISTOGRAM" serviceName agentName point.timeUnixNano
    point.attributes (meanOf env (orZero point.sum) point.count) point.count.toInt64
    (orZero point.sum) (orZero point.min) (orZero point.max)

/-- An exponential histogram is treated as a histogram, whose value is its sum. -/
def exponentialDpToMetric (point : HistogramDataPoint) : Metric :=
  pointToMetric env workspaceId metricName "HISTOGRAM" serviceName agentName point.timeUnixNano
    point.attributes (orZero point.sum) point.count.toInt64 (orZero point.sum) (orZero point.min)
    (orZero point.max)

def summaryDpToMetric (point : SummaryDataPoint) : Metric :=
  pointToMetric env workspaceId metricName "SUMMARY" serviceName agentName point.timeUnixNano
    point.attributes (meanOf env point.sum point.count) point.count.toInt64 point.sum F64.zero
    F64.zero

/-- The rows of a metric: one for each of its points. -/
def convertData : Option Data → List Metric
  | some (.gauge points) =>
    points.map (numberDpToMetric env workspaceId metricName serviceName agentName "GAUGE")
  | some (.sum points) =>
    points.map (numberDpToMetric env workspaceId metricName serviceName agentName "COUNTER")
  | some (.histogram points) =>
    points.map (histogramDpToMetric env workspaceId metricName serviceName agentName)
  | some (.summary points) =>
    points.map (summaryDpToMetric env workspaceId metricName serviceName agentName)
  | some (.exponentialHistogram points) =>
    points.map (exponentialDpToMetric env workspaceId metricName serviceName agentName)
  | none => []

/-- Convert a full metrics export request. -/
def convertMetrics (request : ExportMetricsServiceRequest) : List Metric :=
  request.resourceMetrics.flatMap fun resource =>
    resource.scopeMetrics.flatMap fun scope =>
      scope.metrics.flatMap fun metric =>
        convertData env workspaceId metric.name (logsServiceName resource.resource)
          ((extractStringAttr (resourceAttributes resource.resource) "agent.name").getD "")
          metric.data

end Metrics

section Logs

variable (env : RowEnv) (workspaceId : WorkspaceId)

/-- The text of a value that is no list and no bytes. -/
def getStringValue : Value → String
  | .stringValue text => text
  | .intValue value => value.toInt.repr
  | .doubleValue value => env.displayF64 value
  | .boolValue value => if value then "true" else "false"
  | _ => ""

/-- The name of a severity number. -/
def severityNumberToText (severityNumber : Int32) : String :=
  let number := severityNumber.toInt
  if 1 ≤ number ∧ number ≤ 4 then "TRACE"
  else if 5 ≤ number ∧ number ≤ 8 then "DEBUG"
  else if 9 ≤ number ∧ number ≤ 12 then "INFO"
  else if 13 ≤ number ∧ number ≤ 16 then "WARN"
  else if 17 ≤ number ∧ number ≤ 20 then "ERROR"
  else if 21 ≤ number ∧ number ≤ 24 then "FATAL"
  else "INFO"

/-- `attrs_to_json`, which skips nothing. -/
def attrsToJson (attributes : List KeyValue) : String :=
  attrsToJsonFiltered env.spans.serde attributes fun _ => false

/-- Convert a log record, under a new id. -/
def convertLogRecord (log : OtlpLogRecord) (serviceName agentName resourceJson : String)
    (nowNs : Int64) (id : Uuid) : LogRecord where
  id := id.toText
  timestamp := if log.timeUnixNano > 0 then log.timeUnixNano.toInt64 else nowNs
  workspaceId := workspaceId.toText
  traceId := hexEncode log.traceId
  spanId := hexEncode log.spanId
  severity := if log.severityText ≠ "" then log.severityText else severityNumberToText log.severityNumber
  serviceName := serviceName
  message := ((log.body.bind AnyValue.value).map (getStringValue env)).getD ""
  attributes := attrsToJson env log.attributes
  resource := resourceJson
  agentName := agentName
  sessionId := (extractStringAttr log.attributes "session.id").getD ""
  userId := (extractStringAttr log.attributes "user.id").getD ""
  createdAt := nowNs

/-- The log records of a request, each with its resource. -/
def ExportLogsServiceRequest.records (request : ExportLogsServiceRequest) :
    List (Option Resource × OtlpLogRecord) :=
  request.resourceLogs.flatMap fun resource =>
    resource.scopeLogs.flatMap fun scope =>
      scope.logRecords.map fun record => (resource.resource, record)

/-- Convert a full logs export request. -/
def convertLogs (draws : Draws) (request : ExportLogsServiceRequest) : List LogRecord :=
  request.records.zipIdx.map fun ((resource, record), index) =>
    convertLogRecord env workspaceId record (logsServiceName resource)
      ((extractStringAttr (resourceAttributes resource) "agent.name").getD "")
      (attrsToJson env (resourceAttributes resource)) (draws.logNow index) (draws.logId index)

/-- The double of a value. -/
def getDoubleValue : Value → F64
  | .doubleValue value => value
  | .intValue value => env.intToF64 value.toInt
  | .stringValue text => (env.parseF64 text).getD F64.zero
  | _ => F64.zero

/-- The characters that are white space. -/
def isWhiteSpace (char : Char) : Bool :=
  let code := char.toNat
  (9 ≤ code && code ≤ 13) || code = 32 || code = 133 || code = 160 || code = 5760 ||
    (8192 ≤ code && code ≤ 8202) || code = 8232 || code = 8233 || code = 8239 || code = 8287 ||
    code = 12288

/-- A text without the white space at its ends. -/
def trim (text : String) : String :=
  .ofList ((text.toList.dropWhile isWhiteSpace).reverse.dropWhile isWhiteSpace).reverse

/-- The skills in a text: a JSON array, or a list with commas. -/
def parseSkillString (text : String) : List String :=
  let trimmed := trim text
  if trimmed = "" then []
  else
    let parts := match env.textsFromStr trimmed with
      | some parsed => parsed
      | none => (trimmed.toList.splitOn ',').map String.ofList
    (parts.map trim).filter fun skill => skill ≠ ""

mutual

/-- The skills in a value, where lists are walked. -/
def getSkillValues : Value → List String
  | .stringValue text => parseSkillString env text
  | .arrayValue values => getSkillValuesOf values
  | value =>
    let text := getStringValue env value
    if text = "" then [] else [text]

def getSkillValuesOf : List AnyValue → List String
  | [] => []
  | .mk none :: values => getSkillValuesOf values
  | .mk (some value) :: values => getSkillValues value ++ getSkillValuesOf values

end

/-- Put skills into metadata, which is replaced if it is no object. -/
def mergeSkillsIntoMetadata (metadata : String) (skills : List String) : String :=
  let entries := match env.valueFromStr metadata with
    | some (.obj entries) => entries
    | _ => []
  (Json.obj (sortedMap (entries ++ [("skills", .arr (skills.map Json.str))]))).text

/-- A score that is being read. -/
structure ScoreDraft where
  score : EvaluationScore
  hasScoreAttrs : Bool
  hasRequiredFields : Bool
  skills : List String

/-- Set the field of a score that an attribute names. -/
def ScoreDraft.setField (draft : ScoreDraft) (field : String) (value : Value) : ScoreDraft :=
  let score := draft.score
  let text := getStringValue env value
  match field with
  | "id" => { draft with score := { score with id := text } }
  | "trace_id" =>
    { draft with
      score := { score with traceId := text }
      hasRequiredFields := draft.hasRequiredFields || text ≠ "" }
  | "span_id" => { draft with score := { score with spanId := text } }
  | "session_id" => { draft with score := { score with sessionId := text } }
  | "dataset_run_id" => { draft with score := { score with datasetRunId := text } }
  | "name" => { draft with score := { score with name := text } }
  | "value" => { draft with score := { score with value := getDoubleValue env value } }
  | "data_type" => { draft with score := { score with dataType := text } }
  | "string_value" => { draft with score := { score with stringValue := text } }
  | "source" => { draft with score := { score with source := text } }
  | "comment" => { draft with score := { score with comment := text } }
  | "author_user_id" => { draft with score := { score with authorUserId := text } }
  | "config_id" => { draft with score := { score with configId := text } }
  | "eval_execution_trace_id" => { draft with score := { score with evalExecutionTraceId := text } }
  | "queue_id" => { draft with score := { score with queueId := text } }
  | "environment" => { draft with score := { score with environment := text } }
  | "service_name" => { draft with score := { score with serviceName := text } }
  | "agent_name" => { draft with score := { score with agentName := text } }
  | "skills" | "agent_skills" | "skill" =>
    { draft with skills := draft.skills ++ getSkillValues env value }
  | "user_id" => { draft with score := { score with userId := text } }
  | "metadata" => { draft with score := { score with metadata := text } }
  | _ => draft

/-- Read one attribute, which may be none of a score's or have no value. -/
def ScoreDraft.read (draft : ScoreDraft) (pair : KeyValue) : ScoreDraft :=
  if startsWith pair.key "score." then
    let draft := { draft with hasScoreAttrs := true }
    match pair.value.bind AnyValue.value with
    | none => draft
    | some value => draft.setField env (.ofList (pair.key.toList.drop 6)) value
  else draft

/-- The draft behind all attributes of a log record. -/
def draftOf (log : OtlpLogRecord) (now : Int64) (id : Uuid) : ScoreDraft :=
  log.attributes.foldl (ScoreDraft.read env)
    ⟨{ EvaluationScore.default now id.toText with workspaceId := workspaceId.toText }, false, false, []⟩

/-- The score of a log record, if it is one. -/
def parseScore (log : OtlpLogRecord) (now : Int64) (id evalId : Uuid) : Option EvaluationScore :=
  let draft := draftOf env workspaceId log now id
  let score := draft.score
  let score := { score with
    metadata := if draft.skills.isEmpty then score.metadata
      else mergeSkillsIntoMetadata env score.metadata draft.skills
    timestamp := log.timeUnixNano.toInt64
    createdAt := now
    updatedAt := now
    eventTs := now
    id := if score.id = "" then "eval_" ++ evalId.toText else score.id }
  if draft.hasScoreAttrs && draft.hasRequiredFields && score.name ≠ "" then some score else none

/-- Extract all evaluation scores of a request. -/
def extractScores (draws : Draws) (request : ExportLogsServiceRequest) : List EvaluationScore :=
  request.records.zipIdx.filterMap fun ((_, record), index) =>
    parseScore env workspaceId record (draws.scoreNow index) (draws.scoreId index)
      (draws.evalId index)

end Logs

end Zradar.Otlp
