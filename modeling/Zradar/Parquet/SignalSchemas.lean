import Zradar.Parquet.RowCodec

/-! The columns that metrics, logs and scores are stored in. -/

namespace Zradar.Parquet

/-- The Arrow schema of a metric. -/
def metricArrowSchema : List ArrowField := [
  ⟨"metric_name", .utf8, false⟩, ⟨"metric_type", .utf8, false⟩, ⟨"timestamp", .int64, false⟩,
  ⟨"workspace_id", .utf8, false⟩, ⟨"value", .float64, false⟩, ⟨"count", .int64, false⟩,
  ⟨"sum", .float64, false⟩, ⟨"min", .float64, false⟩, ⟨"max", .float64, false⟩,
  ⟨"service_name", .utf8, false⟩, ⟨"agent_name", .utf8, false⟩, ⟨"user_id", .utf8, false⟩,
  ⟨"session_id", .utf8, false⟩, ⟨"labels", .utf8, false⟩]

/-- The columns of metrics, in the order of the schema. -/
def metricColumns (metrics : List Metric) : List ArrowArray := [
  strings metrics (·.metricName), strings metrics (·.metricType), int64s metrics (·.timestamp),
  strings metrics (·.workspaceId), float64s metrics (·.value), int64s metrics (·.count),
  float64s metrics (·.sum), float64s metrics (·.min), float64s metrics (·.max),
  strings metrics (·.serviceName), strings metrics (·.agentName), strings metrics (·.userId),
  strings metrics (·.sessionId), strings metrics (·.labels)]

/-- How the fields of a metric are read. -/
def metricReads : List ColumnRead := [
  .string "metric_name", .string "metric_type", .i64 "timestamp", .string "workspace_id",
  .f64 "value", .i64 "count", .f64 "sum", .f64 "min", .f64 "max", .string "service_name",
  .string "agent_name", .string "user_id", .string "session_id", .string "labels"]

/-- The reader goes by the fields of a metric. -/
theorem metricReads_fields : metricReads.map ColumnRead.field = Row.fields Metric := rfl

/-- The codec of metrics. -/
def metricCodec : RowCodec Metric where
  schema := metricArrowSchema
  columns := metricColumns
  construct := "Failed to construct Metric RecordBatch"
  reads := metricReads
  values := Row.values
  plain := by decide
  names := by decide +kernel
  sized := fun _ => rfl
  filled := fun _ => List.cons_ne_nil _ _
  written := fun _ => rfl

/-- Convert metrics into a batch of columns. -/
def metricsToRecordBatch : List Metric → Except String RecordBatch := metricCodec.toRecordBatch

/-- Convert a batch of columns back into metrics. -/
def recordBatchToMetrics : RecordBatch → Except String (List Metric) :=
  metricCodec.ofRecordBatch

/-- The Arrow schema of a log record. -/
def logArrowSchema : List ArrowField := [
  ⟨"id", .utf8, false⟩, ⟨"timestamp", .int64, false⟩, ⟨"workspace_id", .utf8, false⟩,
  ⟨"trace_id", .utf8, false⟩, ⟨"span_id", .utf8, false⟩, ⟨"severity", .utf8, false⟩,
  ⟨"service_name", .utf8, false⟩, ⟨"message", .utf8, false⟩, ⟨"attributes", .utf8, false⟩,
  ⟨"resource", .utf8, false⟩, ⟨"agent_name", .utf8, false⟩, ⟨"session_id", .utf8, false⟩,
  ⟨"user_id", .utf8, false⟩, ⟨"created_at", .int64, false⟩]

/-- The columns of logs, in the order of the schema. -/
def logColumns (logs : List LogRecord) : List ArrowArray := [
  strings logs (·.id), int64s logs (·.timestamp), strings logs (·.workspaceId),
  strings logs (·.traceId), strings logs (·.spanId), strings logs (·.severity),
  strings logs (·.serviceName), strings logs (·.message), strings logs (·.attributes),
  strings logs (·.resource), strings logs (·.agentName), strings logs (·.sessionId),
  strings logs (·.userId), int64s logs (·.createdAt)]

/-- How the fields of a log record are read. -/
def logReads : List ColumnRead := [
  .string "id", .i64 "timestamp", .string "workspace_id", .string "trace_id", .string "span_id",
  .string "severity", .string "service_name", .string "message", .string "attributes",
  .string "resource", .string "agent_name", .string "session_id", .string "user_id",
  .i64 "created_at"]

/-- The reader goes by the fields of a log record. -/
theorem logReads_fields : logReads.map ColumnRead.field = Row.fields LogRecord := rfl

/-- The codec of logs. -/
def logCodec : RowCodec LogRecord where
  schema := logArrowSchema
  columns := logColumns
  construct := "Failed to construct LogRecord RecordBatch"
  reads := logReads
  values := Row.values
  plain := by decide
  names := by decide +kernel
  sized := fun _ => rfl
  filled := fun _ => List.cons_ne_nil _ _
  written := fun _ => rfl

/-- Convert logs into a batch of columns. -/
def logsToRecordBatch : List LogRecord → Except String RecordBatch := logCodec.toRecordBatch

/-- Convert a batch of columns back into logs. -/
def recordBatchToLogs : RecordBatch → Except String (List LogRecord) :=
  logCodec.ofRecordBatch

/-- The Arrow schema of an evaluation score. -/
def scoreArrowSchema : List ArrowField := [
  ⟨"id", .utf8, false⟩, ⟨"workspace_id", .utf8, false⟩, ⟨"timestamp", .int64, false⟩,
  ⟨"created_at", .int64, false⟩, ⟨"updated_at", .int64, false⟩, ⟨"event_ts", .int64, false⟩,
  ⟨"trace_id", .utf8, false⟩, ⟨"span_id", .utf8, false⟩, ⟨"session_id", .utf8, false⟩,
  ⟨"dataset_run_id", .utf8, false⟩, ⟨"name", .utf8, false⟩, ⟨"value", .float64, false⟩,
  ⟨"data_type", .utf8, false⟩, ⟨"string_value", .utf8, false⟩, ⟨"source", .utf8, false⟩,
  ⟨"comment", .utf8, false⟩, ⟨"author_user_id", .utf8, false⟩, ⟨"config_id", .utf8, false⟩,
  ⟨"eval_execution_trace_id", .utf8, false⟩, ⟨"queue_id", .utf8, false⟩,
  ⟨"environment", .utf8, false⟩, ⟨"service_name", .utf8, false⟩, ⟨"agent_name", .utf8, false⟩,
  ⟨"user_id", .utf8, false⟩, ⟨"metadata", .utf8, false⟩, ⟨"is_deleted", .int16, false⟩]

/-- The columns of scores, in the order of the schema. -/
def scoreColumns (scores : List EvaluationScore) : List ArrowArray := [
  strings scores (·.id), strings scores (·.workspaceId), int64s scores (·.timestamp),
  int64s scores (·.createdAt), int64s scores (·.updatedAt), int64s scores (·.eventTs),
  strings scores (·.traceId), strings scores (·.spanId), strings scores (·.sessionId),
  strings scores (·.datasetRunId), strings scores (·.name), float64s scores (·.value),
  strings scores (·.dataType), strings scores (·.stringValue), strings scores (·.source),
  strings scores (·.comment), strings scores (·.authorUserId), strings scores (·.configId),
  strings scores (·.evalExecutionTraceId), strings scores (·.queueId),
  strings scores (·.environment), strings scores (·.serviceName), strings scores (·.agentName),
  strings scores (·.userId), strings scores (·.metadata), int16s scores (·.isDeleted)]

/-- How the fields of an evaluation score are read. -/
def scoreReads : List ColumnRead := [
  .string "id", .string "workspace_id", .i64 "timestamp", .i64 "created_at", .i64 "updated_at",
  .i64 "event_ts", .string "trace_id", .string "span_id", .string "session_id",
  .string "dataset_run_id", .string "name", .f64 "value", .string "data_type",
  .string "string_value", .string "source", .string "comment", .string "author_user_id",
  .string "config_id", .string "eval_execution_trace_id", .string "queue_id", .string "environment",
  .string "service_name", .string "agent_name", .string "user_id", .string "metadata",
  .i16 "is_deleted"]

/-- The reader goes by the fields of an evaluation score. -/
theorem scoreReads_fields : scoreReads.map ColumnRead.field = Row.fields EvaluationScore := rfl

/-- The codec of scores. -/
def scoreCodec : RowCodec EvaluationScore where
  schema := scoreArrowSchema
  columns := scoreColumns
  construct := "Failed to construct EvaluationScore RecordBatch"
  reads := scoreReads
  values := Row.values
  plain := by decide
  names := by decide +kernel
  sized := fun _ => rfl
  filled := fun _ => List.cons_ne_nil _ _
  written := fun _ => rfl

/-- Convert scores into a batch of columns. -/
def scoresToRecordBatch : List EvaluationScore → Except String RecordBatch := scoreCodec.toRecordBatch

/-- Convert a batch of columns back into scores. -/
def recordBatchToScores : RecordBatch → Except String (List EvaluationScore) :=
  scoreCodec.ofRecordBatch

/--
Metrics, logs and scores are read back from any batch that has their columns, in any order and
among others; a batch is refused for the first column of the schema that it lacks.
-/
theorem signals_read_back :
    ReadsBack metricArrowSchema metricsToRecordBatch recordBatchToMetrics ∧
      ReadsBack logArrowSchema logsToRecordBatch recordBatchToLogs ∧
      ReadsBack scoreArrowSchema scoresToRecordBatch recordBatchToScores :=
  ⟨metricCodec.readsBack, logCodec.readsBack, scoreCodec.readsBack⟩

end Zradar.Parquet
