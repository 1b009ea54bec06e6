import Mathlib.Tactic

/-! The four kinds of telemetry rows, and what their fields have in common. -/

namespace Zradar

/-- A finite double: its sign, its biased exponent and its fraction. -/
structure FiniteF64 where
  negative : Bool
  exponent : Fin 2047
  fraction : Fin (2 ^ 52)
  deriving DecidableEq

/-- A double. -/
inductive F64 where
  | finite (value : FiniteF64)
  | posInf
  | negInf
  | nan
  deriving DecidableEq

/-- The double zero. -/
def F64.zero : F64 := .finite ⟨false, 0, 0⟩

/-- A single unit of work in distributed tracing. -/
structure Span where
  traceId : String
  spanId : String
  parentSpanId : String
  timestamp : Int64
  durationNs : Int64
  workspaceId : String
  serviceName : String
  spanName : String
  spanKind : String
  spanType : String
  statusCode : String
  statusMessage : String
  invocationId : String
  sessionId : String
  userId : String
  agentName : String
  agentType : String
  llmModel : String
  llmInput : String
  llmOutput : String
  promptTokens : Int32
  completionTokens : Int32
  totalTokens : Int32
  promptCostUsd : F64
  completionCostUsd : F64
  totalCostUsd : F64
  toolName : String
  toolCallId : String
  railType : String
  railName : String
  railStop : Int16
  actionName : String
  actionHasLlmCalls : Int16
  actionLlmCallsCount : Int32
  workflowRunId : String
  framework : String
  llmProvider : String
  llmResponseModel : String
  events : String
  llmCacheHit : Int16
  llmResponseId : String
  environment : String
  links : String
  resourceCpuMicros : Int64
  resourceMemoryBytes : Int64
  resourceMemoryPeak : Int64
  promptId : String
  promptName : String
  promptVersion : Int32
  completionStartTime : Option Int64
  timeToFirstTokenMs : Int32
  agentVersion : String
  sdkVersion : String
  level : String
  dbSystemName : String
  dbNamespace : String
  dbOperationName : String
  dbQueryText : String
  dbQuerySummary : String
  dbCollectionName : String
  dbResponseStatusCode : String
  agentId : String
  agentDescription : String
  agentTaskId : String
  agentTaskParentId : String
  agentTaskName : String
  agentTaskKind : String
  agentTaskState : String
  agentTaskStatus : String
  memoryType : String
  memoryKey : String
  mcpToolName : String
  mcpServerName : String
  mcpToolInput : String
  mcpToolOutput : String
  evaluationName : String
  evaluationExplanation : String
  evaluationPassed : Int16
  modelParameters : String
  attributes : String
  createdAt : Int64
  updatedAt : Int64
  isDeleted : Int16

/-- Aggregated time-series data. -/
structure Metric where
  metricName : String
  metricType : String
  timestamp : Int64
  workspaceId : String
  value : F64
  count : Int64
  sum : F64
  min : F64
  max : F64
  serviceName : String
  agentName : String
  userId : String
  sessionId : String
  labels : String

/-- A single log entry. -/
structure LogRecord where
  id : String
  timestamp : Int64
  workspaceId : String
  traceId : String
  spanId : String
  severity : String
  serviceName : String
  message : String
  attributes : String
  resource : String
  agentName : String
  sessionId : String
  userId : String
  createdAt : Int64

/-- An evaluation score for a trace or a span. -/
structure EvaluationScore where
  id : String
  workspaceId : String
  timestamp : Int64
  createdAt : Int64
  updatedAt : Int64
  eventTs : Int64
  traceId : String
  spanId : String
  sessionId : String
  datasetRunId : String
  name : String
  value : F64
  dataType : String
  stringValue : String
  source : String
  comment : String
  authorUserId : String
  configId : String
  evalExecutionTraceId : String
  queueId : String
  environment : String
  serviceName : String
  agentName : String
  userId : String
  metadata : String
  isDeleted : Int16

/-- The types that fields of a row have. -/
inductive FieldKind where
  | string
  | i64
  | i32
  | i16
  | f64
  | optI64
  deriving DecidableEq, Repr

/-- The values of a field of some kind. -/
def FieldKind.Value : FieldKind → Type
  | .string => String
  | .i64 => Int64
  | .i32 => Int32
  | .i16 => Int16
  | .f64 => F64
  | .optI64 => Option Int64

/-- A field under the name it is serialized with. -/
structure Field where
  name : String
  kind : FieldKind
  deriving DecidableEq, Repr

/-- One value for each of a list of fields. -/
def Values : List Field → Type
  | [] => Unit
  | field :: fields => field.kind.Value × Values fields

/-- The value of the string field of a name, if there is one. -/
def Values.stringField (name : String) : (fields : List Field) → Values fields → Option String
  | [], _ => none
  | ⟨fieldName, .string⟩ :: fields, (value, values) =>
    if fieldName = name then some value else stringField name fields values
  | ⟨_, .i64⟩ :: fields, (_, values) => stringField name fields values
  | ⟨_, .i32⟩ :: fields, (_, values) => stringField name fields values
  | ⟨_, .i16⟩ :: fields, (_, values) => stringField name fields values
  | ⟨_, .f64⟩ :: fields, (_, values) => stringField name fields values
  | ⟨_, .optI64⟩ :: fields, (_, values) => stringField name fields values

/-- A struct whose serialization is derived from its list of fields. -/
class Row (α : Type) where
  fields : List Field
  /-- A row is nothing but the values of its fields. -/
  values : α ≃ Values fields
  /-- No two fields share a name. -/
  names : (fields.map Field.name).Nodup
  workspaceId : α → String
  workspaceField : ∀ row, (values row).stringField "workspace_id" fields = some (workspaceId row)
  serviceName : α → String
  timestamp : α → Int64

/-- The fields of a `Span` in the order in which they are serialized. -/
def Span.fields : List Field := [
  ⟨"trace_id", .string⟩, ⟨"span_id", .string⟩, ⟨"parent_span_id", .string⟩,
  ⟨"timestamp", .i64⟩, ⟨"duration_ns", .i64⟩, ⟨"workspace_id", .string⟩,
  ⟨"service_name", .string⟩, ⟨"span_name", .string⟩, ⟨"span_kind", .string⟩,
  ⟨"span_type", .string⟩, ⟨"status_code", .string⟩, ⟨"status_message", .string⟩,
  ⟨"invocation_id", .string⟩, ⟨"session_id", .string⟩, ⟨"user_id", .string⟩,
  ⟨"agent_name", .string⟩, ⟨"agent_type", .string⟩, ⟨"llm_model", .string⟩,
  ⟨"llm_input", .string⟩, ⟨"llm_output", .string⟩, ⟨"prompt_tokens", .i32⟩,
  ⟨"completion_tokens", .i32⟩, ⟨"total_tokens", .i32⟩, ⟨"prompt_cost_usd", .f64⟩,
  ⟨"completion_cost_usd", .f64⟩, ⟨"total_cost_usd", .f64⟩, ⟨"tool_name", .string⟩,
  ⟨"tool_call_id", .string⟩, ⟨"rail_type", .string⟩, ⟨"rail_name", .string⟩,
  ⟨"rail_stop", .i16⟩, ⟨"action_name", .string⟩, ⟨"action_has_llm_calls", .i16⟩,
  ⟨"action_llm_calls_count", .i32⟩, ⟨"workflow_run_id", .string⟩, ⟨"framework", .string⟩,
  ⟨"llm_provider", .string⟩, ⟨"llm_response_model", .string⟩, ⟨"events", .string⟩,
  ⟨"llm_cache_hit", .i16⟩, ⟨"llm_response_id", .string⟩, ⟨"environment", .string⟩,
  ⟨"links", .string⟩, ⟨"resource_cpu_micros", .i64⟩, ⟨"resource_memory_bytes", .i64⟩,
  ⟨"resource_memory_peak", .i64⟩, ⟨"prompt_id", .string⟩, ⟨"prompt_name", .string⟩,
  ⟨"prompt_version", .i32⟩, ⟨"completion_start_time", .optI64⟩,
  ⟨"time_to_first_token_ms", .i32⟩, ⟨"agent_version", .string⟩, ⟨"sdk_version", .string⟩,
  ⟨"level", .string⟩, ⟨"db_system_name", .string⟩, ⟨"db_namespace", .string⟩,
  ⟨"db_operation_name", .string⟩, ⟨"db_query_text", .string⟩, ⟨"db_query_summary", .string⟩,
  ⟨"db_collection_name", .string⟩, ⟨"db_response_status_code", .string⟩, ⟨"agent_id", .string⟩,
  ⟨"agent_description", .string⟩, ⟨"agent_task_id", .string⟩,
  ⟨"agent_task_parent_id", .string⟩, ⟨"agent_task_name", .string⟩,
  ⟨"agent_task_kind", .string⟩, ⟨"agent_task_state", .string⟩, ⟨"agent_task_status", .string⟩,
  ⟨"memory_type", .string⟩, ⟨"memory_key", .string⟩, ⟨"mcp_tool_name", .string⟩,
  ⟨"mcp_server_name", .string⟩, ⟨"mcp_tool_input", .string⟩, ⟨"mcp_tool_output", .string⟩,
  ⟨"evaluation_name", .string⟩, ⟨"evaluation_explanation", .string⟩,
  ⟨"evaluation_passed", .i16⟩, ⟨"model_parameters", .string⟩, ⟨"attributes", .string⟩,
  ⟨"created_at", .i64⟩, ⟨"updated_at", .i64⟩, ⟨"is_deleted", .i16⟩]

instance : Row Span where
  fields := Span.fields
  values :=
    { toFun := fun row => (
        row.traceId, row.spanId, row.parentSpanId, row.timestamp, row.durationNs,
        row.workspaceId, row.serviceName, row.spanName, row.spanKind, row.spanType,
        row.statusCode, row.statusMessage, row.invocationId, row.sessionId, row.userId,
        row.agentName, row.agentType, row.llmModel, row.llmInput, row.llmOutput,
        row.promptTokens, row.completionTokens, row.totalTokens, row.promptCostUsd,
        row.completionCostUsd, row.totalCostUsd, row.toolName, row.toolCallId, row.railType,
        row.railName, row.railStop, row.actionName, row.actionHasLlmCalls,
        row.actionLlmCallsCount, row.workflowRunId, row.framework, row.llmProvider,
        row.llmResponseModel, row.events, row.llmCacheHit, row.llmResponseId, row.environment,
        row.links, row.resourceCpuMicros, row.resourceMemoryBytes, row.resourceMemoryPeak,
        row.promptId, row.promptName, row.promptVersion, row.completionStartTime,
        row.timeToFirstTokenMs, row.agentVersion, row.sdkVersion, row.level, row.dbSystemName,
        row.dbNamespace, row.dbOperationName, row.dbQueryText, row.dbQuerySummary,
        row.dbCollectionName, row.dbResponseStatusCode, row.agentId, row.agentDescription,
        row.agentTaskId, row.agentTaskParentId, row.agentTaskName, row.agentTaskKind,
        row.agentTaskState, row.agentTaskStatus, row.memoryType, row.memoryKey, row.mcpToolName,
        row.mcpServerName, row.mcpToolInput, row.mcpToolOutput, row.evaluationName,
        row.evaluationExplanation, row.evaluationPassed, row.modelParameters, row.attributes,
        row.createdAt, row.updatedAt, row.isDeleted, ())
      invFun := fun (
          traceId, spanId, parentSpanId, timestamp, durationNs, workspaceId, serviceName,
          spanName, spanKind, spanType, statusCode, statusMessage, invocationId, sessionId,
          userId, agentName, agentType, llmModel, llmInput, llmOutput, promptTokens,
          completionTokens, totalTokens, promptCostUsd, completionCostUsd, totalCostUsd,
          toolName, toolCallId, railType, railName, railStop, actionName, actionHasLlmCalls,
          actionLlmCallsCount, workflowRunId, framework, llmProvider, llmResponseModel, events,
          llmCacheHit, llmResponseId, environment, links, resourceCpuMicros, resourceMemoryBytes,
          resourceMemoryPeak, promptId, promptName, promptVersion, completionStartTime,
          timeToFirstTokenMs, agentVersion, sdkVersion, level, dbSystemName, dbNamespace,
          dbOperationName, dbQueryText, dbQuerySummary, dbCollectionName, dbResponseStatusCode,
          agentId, agentDescription, agentTaskId, agentTaskParentId, agentTaskName,
          agentTaskKind, agentTaskState, agentTaskStatus, memoryType, memoryKey, mcpToolName,
          mcpServerName, mcpToolInput, mcpToolOutput, evaluationName, evaluationExplanation,
          evaluationPassed, modelParameters, attributes, createdAt, updatedAt, isDeleted, ()) =>
        ⟨traceId, spanId, parentSpanId, timestamp, durationNs, workspaceId, serviceName,
          spanName, spanKind, spanType, statusCode, statusMessage, invocationId, sessionId,
          userId, agentName, agentType, llmModel, llmInput, llmOutput, promptTokens,
          completionTokens, totalTokens, promptCostUsd, completionCostUsd, totalCostUsd,
          toolName, toolCallId, railType, railName, railStop, actionName, actionHasLlmCalls,
          actionLlmCallsCount, workflowRunId, framework, llmProvider, llmResponseModel, events,
          llmCacheHit, llmResponseId, environment, links, resourceCpuMicros, resourceMemoryBytes,
          resourceMemoryPeak, promptId, promptName, promptVersion, completionStartTime,
          timeToFirstTokenMs, agentVersion, sdkVersion, level, dbSystemName, dbNamespace,
          dbOperationName, dbQueryText, dbQuerySummary, dbCollectionName, dbResponseStatusCode,
          agentId, agentDescription, agentTaskId, agentTaskParentId, agentTaskName,
          agentTaskKind, agentTaskState, agentTaskStatus, memoryType, memoryKey, mcpToolName,
          mcpServerName, mcpToolInput, mcpToolOutput, evaluationName, evaluationExplanation,
          evaluationPassed, modelParameters, attributes, createdAt, updatedAt, isDeleted⟩
      left_inv := fun _ => rfl
      right_inv := fun _ => rfl }
  names := by decide +kernel
  workspaceId := fun row => row.workspaceId
  workspaceField := fun _ => rfl
  serviceName := fun row => row.serviceName
  timestamp := fun row => row.timestamp

/-- The fields of a `Metric` in the order in which they are serialized. -/
def Metric.fields : List Field := [
  ⟨"metric_name", .string⟩, ⟨"metric_type", .string⟩, ⟨"timestamp", .i64⟩,
  ⟨"workspace_id", .string⟩, ⟨"value", .f64⟩, ⟨"count", .i64⟩, ⟨"sum", .f64⟩, ⟨"min", .f64⟩,
  ⟨"max", .f64⟩, ⟨"service_name", .string⟩, ⟨"agent_name", .string⟩, ⟨"user_id", .string⟩,
  ⟨"session_id", .string⟩, ⟨"labels", .string⟩]

instance : Row Metric where
  fields := Metric.fields
  values :=
    { toFun := fun row => (
        row.metricName, row.metricType, row.timestamp, row.workspaceId, row.value, row.count,
        row.sum, row.min, row.max, row.serviceName, row.agentName, row.userId, row.sessionId,
        row.labels, ())
      invFun := fun (
          metricName, metricType, timestamp, workspaceId, value, count, sum, min, max,
          serviceName, agentName, userId, sessionId, labels, ()) =>
        ⟨metricName, metricType, timestamp, workspaceId, value, count, sum, min, max,
          serviceName, agentName, userId, sessionId, labels⟩
      left_inv := fun _ => rfl
      right_inv := fun _ => rfl }
  names := by decide +kernel
  workspaceId := fun row => row.workspaceId
  workspaceField := fun _ => rfl
  serviceName := fun row => row.serviceName
  timestamp := fun row => row.timestamp

/-- The fields of a `LogRecord` in the order in which they are serialized. -/
def LogRecord.fields : List Field := [
  ⟨"id", .string⟩, ⟨"timestamp", .i64⟩, ⟨"workspace_id", .string⟩, ⟨"trace_id", .string⟩,
  ⟨"span_id", .string⟩, ⟨"severity", .string⟩, ⟨"service_name", .string⟩, ⟨"message", .string⟩,
  ⟨"attributes", .string⟩, ⟨"resource", .string⟩, ⟨"agent_name", .string⟩,
  ⟨"session_id", .string⟩, ⟨"user_id", .string⟩, ⟨"created_at", .i64⟩]

instance : Row LogRecord where
  fields := LogRecord.fields
  values :=
    { toFun := fun row => (
        row.id, row.timestamp, row.workspaceId, row.traceId, row.spanId, row.severity,
        row.serviceName, row.message, row.attributes, row.resource, row.agentName, row.sessionId,
        row.userId, row.createdAt, ())
      invFun := fun (
          id, timestamp, workspaceId, traceId, spanId, severity, serviceName, message,
          attributes, resource, agentName, sessionId, userId, createdAt, ()) =>
        ⟨id, timestamp, workspaceId, traceId, spanId, severity, serviceName, message,
          attributes, resource, agentName, sessionId, userId, createdAt⟩
      left_inv := fun _ => rfl
      right_inv := fun _ => rfl }
  names := by decide +kernel
  workspaceId := fun row => row.workspaceId
  workspaceField := fun _ => rfl
  serviceName := fun row => row.serviceName
  timestamp := fun row => row.timestamp

/-- The fields of a `EvaluationScore` in the order in which they are serialized. -/
def EvaluationScore.fields : List Field := [
  ⟨"id", .string⟩, ⟨"workspace_id", .string⟩, ⟨"timestamp", .i64⟩, ⟨"created_at", .i64⟩,
  ⟨"updated_at", .i64⟩, ⟨"event_ts", .i64⟩, ⟨"trace_id", .string⟩, ⟨"span_id", .string⟩,
  ⟨"session_id", .string⟩, ⟨"dataset_run_id", .string⟩, ⟨"name", .string⟩, ⟨"value", .f64⟩,
  ⟨"data_type", .string⟩, ⟨"string_value", .string⟩, ⟨"source", .string⟩, ⟨"comment", .string⟩,
  ⟨"author_user_id", .string⟩, ⟨"config_id", .string⟩, ⟨"eval_execution_trace_id", .string⟩,
  ⟨"queue_id", .string⟩, ⟨"environment", .string⟩, ⟨"service_name", .string⟩,
  ⟨"agent_name", .string⟩, ⟨"user_id", .string⟩, ⟨"metadata", .string⟩, ⟨"is_deleted", .i16⟩]

instance : Row EvaluationScore where
  fields := EvaluationScore.fields
  values :=
    { toFun := fun row => (
        row.id, row.workspaceId, row.timestamp, row.createdAt, row.updatedAt, row.eventTs,
        row.traceId, row.spanId, row.sessionId, row.datasetRunId, row.name, row.value,
        row.dataType, row.stringValue, row.source, row.comment, row.authorUserId, row.configId,
        row.evalExecutionTraceId, row.queueId, row.environment, row.serviceName, row.agentName,
        row.userId, row.metadata, row.isDeleted, ())
      invFun := fun (
          id, workspaceId, timestamp, createdAt, updatedAt, eventTs, traceId, spanId, sessionId,
          datasetRunId, name, value, dataType, stringValue, source, comment, authorUserId,
          configId, evalExecutionTraceId, queueId, environment, serviceName, agentName, userId,
          metadata, isDeleted, ()) =>
        ⟨id, workspaceId, timestamp, createdAt, updatedAt, eventTs, traceId, spanId, sessionId,
          datasetRunId, name, value, dataType, stringValue, source, comment, authorUserId,
          configId, evalExecutionTraceId, queueId, environment, serviceName, agentName, userId,
          metadata, isDeleted⟩
      left_inv := fun _ => rfl
      right_inv := fun _ => rfl }
  names := by decide +kernel
  workspaceId := fun row => row.workspaceId
  workspaceField := fun _ => rfl
  serviceName := fun row => row.serviceName
  timestamp := fun row => row.timestamp

/-- Rows of one signal on their way to the storage layer. -/
inductive IngestBatch where
  | spans (rows : List Span)
  | metrics (rows : List Metric)
  | logs (rows : List LogRecord)
  | scores (rows : List EvaluationScore)

/-- A row of any signal. -/
inductive AnyRow where
  | span (row : Span)
  | metric (row : Metric)
  | log (row : LogRecord)
  | score (row : EvaluationScore)

/-- The rows of a batch. -/
def IngestBatch.rows : IngestBatch → List AnyRow
  | .spans rows => rows.map .span
  | .metrics rows => rows.map .metric
  | .logs rows => rows.map .log
  | .scores rows => rows.map .score

end Zradar
