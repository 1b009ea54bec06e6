import Zradar.Models.Span
import Zradar.Parquet.Columns

/-! The columns that spans are stored in, and what is read back from them later. -/

namespace Zradar.Parquet

/-- The Arrow schema of a span. -/
def spanArrowSchema : List ArrowField := [
  ⟨"trace_id", .utf8, false⟩, ⟨"span_id", .utf8, false⟩, ⟨"parent_span_id", .utf8, false⟩,
  ⟨"timestamp", .int64, false⟩, ⟨"duration_ns", .int64, false⟩, ⟨"workspace_id", .utf8, false⟩,
  ⟨"service_name", .utf8, false⟩, ⟨"span_name", .utf8, false⟩, ⟨"span_kind", .utf8, false⟩,
  ⟨"span_type", .utf8, false⟩, ⟨"status_code", .utf8, false⟩, ⟨"status_message", .utf8, false⟩,
  ⟨"invocation_id", .utf8, false⟩, ⟨"session_id", .utf8, false⟩, ⟨"user_id", .utf8, false⟩,
  ⟨"agent_name", .utf8, false⟩, ⟨"agent_type", .utf8, false⟩, ⟨"llm_model", .utf8, false⟩,
  ⟨"llm_input", .utf8, false⟩, ⟨"llm_output", .utf8, false⟩, ⟨"prompt_tokens", .int32, false⟩,
  ⟨"completion_tokens", .int32, false⟩, ⟨"total_tokens", .int32, false⟩,
  ⟨"prompt_cost_usd", .float64, false⟩, ⟨"completion_cost_usd", .float64, false⟩,
  ⟨"total_cost_usd", .float64, false⟩, ⟨"tool_name", .utf8, false⟩, ⟨"tool_call_id", .utf8, false⟩,
  ⟨"rail_type", .utf8, false⟩, ⟨"rail_name", .utf8, false⟩, ⟨"rail_stop", .int16, false⟩,
  ⟨"action_name", .utf8, false⟩, ⟨"action_has_llm_calls", .int16, false⟩,
  ⟨"action_llm_calls_count", .int32, false⟩, ⟨"workflow_run_id", .utf8, false⟩,
  ⟨"framework", .utf8, false⟩, ⟨"llm_provider", .utf8, false⟩,
  ⟨"llm_response_model", .utf8, false⟩, ⟨"events", .utf8, false⟩, ⟨"llm_cache_hit", .int16, false⟩,
  ⟨"llm_response_id", .utf8, false⟩, ⟨"environment", .utf8, false⟩, ⟨"links", .utf8, false⟩,
  ⟨"resource_cpu_micros", .int64, false⟩, ⟨"resource_memory_bytes", .int64, false⟩,
  ⟨"resource_memory_peak", .int64, false⟩, ⟨"prompt_id", .utf8, false⟩,
  ⟨"prompt_name", .utf8, false⟩, ⟨"prompt_version", .int32, false⟩,
  ⟨"completion_start_time", .int64, true⟩, ⟨"time_to_first_token_ms", .int32, false⟩,
  ⟨"agent_version", .utf8, false⟩, ⟨"sdk_version", .utf8, false⟩, ⟨"level", .utf8, false⟩,
  ⟨"db_system_name", .utf8, false⟩, ⟨"db_namespace", .utf8, false⟩,
  ⟨"db_operation_name", .utf8, false⟩, ⟨"db_query_text", .utf8, false⟩,
  ⟨"db_query_summary", .utf8, false⟩, ⟨"db_collection_name", .utf8, false⟩,
  ⟨"db_response_status_code", .utf8, false⟩, ⟨"agent_id", .utf8, false⟩,
  ⟨"agent_description", .utf8, false⟩, ⟨"agent_task_id", .utf8, false⟩,
  ⟨"agent_task_parent_id", .utf8, false⟩, ⟨"agent_task_name", .utf8, false⟩,
  ⟨"agent_task_kind", .utf8, false⟩, ⟨"agent_task_state", .utf8, false⟩,
  ⟨"agent_task_status", .utf8, false⟩, ⟨"memory_type", .utf8, false⟩, ⟨"memory_key", .utf8, false⟩,
  ⟨"mcp_tool_name", .utf8, false⟩, ⟨"mcp_server_name", .utf8, false⟩,
  ⟨"mcp_tool_input", .utf8, false⟩, ⟨"mcp_tool_output", .utf8, false⟩,
  ⟨"evaluation_name", .utf8, false⟩, ⟨"evaluation_explanation", .utf8, false⟩,
  ⟨"evaluation_passed", .int16, false⟩, ⟨"model_parameters", .utf8, false⟩,
  ⟨"attributes", .utf8, false⟩, ⟨"created_at", .int64, false⟩, ⟨"updated_at", .int64, false⟩,
  ⟨"is_deleted", .int16, false⟩]

/-- The columns of spans, in the order of the schema. -/
def spanColumns (spans : List Span) : List ArrowArray := [
  strings spans (·.traceId), strings spans (·.spanId), strings spans (·.parentSpanId),
  int64s spans (·.timestamp), int64s spans (·.durationNs), strings spans (·.workspaceId),
  strings spans (·.serviceName), strings spans (·.spanName), strings spans (·.spanKind),
  strings spans (·.spanType), strings spans (·.statusCode), strings spans (·.statusMessage),
  strings spans (·.invocationId), strings spans (·.sessionId), strings spans (·.userId),
  strings spans (·.agentName), strings spans (·.agentType), strings spans (·.llmModel),
  strings spans (·.llmInput), strings spans (·.llmOutput), int32s spans (·.promptTokens),
  int32s spans (·.completionTokens), int32s spans (·.totalTokens),
  float64s spans (·.promptCostUsd), float64s spans (·.completionCostUsd),
  float64s spans (·.totalCostUsd), strings spans (·.toolName), strings spans (·.toolCallId),
  strings spans (·.railType), strings spans (·.railName), int16s spans (·.railStop),
  strings spans (·.actionName), int16s spans (·.actionHasLlmCalls),
  int32s spans (·.actionLlmCallsCount), strings spans (·.workflowRunId),
  strings spans (·.framework), strings spans (·.llmProvider), strings spans (·.llmResponseModel),
  strings spans (·.events), int16s spans (·.llmCacheHit), strings spans (·.llmResponseId),
  strings spans (·.environment), strings spans (·.links), int64s spans (·.resourceCpuMicros),
  int64s spans (·.resourceMemoryBytes), int64s spans (·.resourceMemoryPeak),
  strings spans (·.promptId), strings spans (·.promptName), int32s spans (·.promptVersion),
  optionalInt64s spans (·.completionStartTime), int32s spans (·.timeToFirstTokenMs),
  strings spans (·.agentVersion), strings spans (·.sdkVersion), strings spans (·.level),
  strings spans (·.dbSystemName), strings spans (·.dbNamespace), strings spans (·.dbOperationName),
  strings spans (·.dbQueryText), strings spans (·.dbQuerySummary),
  strings spans (·.dbCollectionName), strings spans (·.dbResponseStatusCode),
  strings spans (·.agentId), strings spans (·.agentDescription), strings spans (·.agentTaskId),
  strings spans (·.agentTaskParentId), strings spans (·.agentTaskName),
  strings spans (·.agentTaskKind), strings spans (·.agentTaskState),
  strings spans (·.agentTaskStatus), strings spans (·.memoryType), strings spans (·.memoryKey),
  strings spans (·.mcpToolName), strings spans (·.mcpServerName), strings spans (·.mcpToolInput),
  strings spans (·.mcpToolOutput), strings spans (·.evaluationName),
  strings spans (·.evaluationExplanation), int16s spans (·.evaluationPassed),
  strings spans (·.modelParameters), strings spans (·.attributes), int64s spans (·.createdAt),
  int64s spans (·.updatedAt), int16s spans (·.isDeleted)]

/-- Convert spans into a batch of columns. -/
def spansToRecordBatch (spans : List Span) : Except String RecordBatch :=
  match RecordBatch.tryNew spanArrowSchema (spanColumns spans) with
  | some batch => .ok batch
  | none => .error "Failed to construct Span RecordBatch"

/-- How the fields of a span are read, where a tri-state field falls back to unknown. -/
def spanReads : List ColumnRead := [
  .string "trace_id", .string "span_id", .string "parent_span_id", .i64 "timestamp",
  .i64 "duration_ns", .string "workspace_id", .string "service_name", .string "span_name",
  .string "span_kind", .string "span_type", .string "status_code", .string "status_message",
  .string "invocation_id", .string "session_id", .string "user_id", .string "agent_name",
  .string "agent_type", .string "llm_model", .string "llm_input", .string "llm_output",
  .i32 "prompt_tokens", .i32 "completion_tokens", .i32 "total_tokens", .f64 "prompt_cost_usd",
  .f64 "completion_cost_usd", .f64 "total_cost_usd", .string "tool_name", .string "tool_call_id",
  .optionalString "rail_type", .optionalString "rail_name", .optionalI16 "rail_stop" 0,
  .optionalString "action_name", .optionalI16 "action_has_llm_calls" 0,
  .optionalI32 "action_llm_calls_count" 0, .optionalString "workflow_run_id",
  .optionalString "framework", .optionalString "llm_provider",
  .optionalString "llm_response_model", .optionalJson "events", .optionalI16 "llm_cache_hit" (-1),
  .optionalString "llm_response_id", .optionalString "environment", .optionalJson "links",
  .i64 "resource_cpu_micros", .i64 "resource_memory_bytes", .i64 "resource_memory_peak",
  .optionalString "prompt_id", .optionalString "prompt_name", .i32 "prompt_version",
  .nullableI64 "completion_start_time", .i32 "time_to_first_token_ms", .string "agent_version",
  .string "sdk_version", .string "level", .optionalString "db_system_name",
  .optionalString "db_namespace", .optionalString "db_operation_name",
  .optionalString "db_query_text", .optionalString "db_query_summary",
  .optionalString "db_collection_name", .optionalString "db_response_status_code",
  .optionalString "agent_id", .optionalString "agent_description", .optionalString "agent_task_id",
  .optionalString "agent_task_parent_id", .optionalString "agent_task_name",
  .optionalString "agent_task_kind", .optionalString "agent_task_state",
  .optionalString "agent_task_status", .optionalString "memory_type", .optionalString "memory_key",
  .optionalString "mcp_tool_name", .optionalString "mcp_server_name",
  .optionalString "mcp_tool_input", .optionalString "mcp_tool_output",
  .optionalString "evaluation_name", .optionalString "evaluation_explanation",
  .optionalI16 "evaluation_passed" (-1), .string "model_parameters", .string "attributes",
  .i64 "created_at", .i64 "updated_at", .i16 "is_deleted"]

/-- The reader goes by the fields of a span. -/
theorem spanReads_fields : spanReads.map ColumnRead.field = Row.fields Span := rfl

set_option maxRecDepth 4000 in
/-- A span is nothing but the values that are read. -/
def spanValues : Span ≃ Values (spanReads.map ColumnRead.field) := Row.values

/-- Convert a batch of columns back into spans. -/
def recordBatchToSpans (batch : RecordBatch) : Except String (List Span) :=
  if batch.numRows = 0 then .ok []
  else do
    let valuesOf ← readRows batch spanReads
    .ok ((List.range batch.numRows).map fun row => spanValues.symm (valuesOf row))

set_option maxRecDepth 4000 in
/-- The schema and the columns of the writer go by the fields of a span, too. -/
theorem spanColumns_zip (spans : List Span) :
    spanArrowSchema.zip (spanColumns spans) =
      columnsOf spans (spanReads.map ColumnRead.field) spanValues := rfl

/-- No two columns are read under the same name. -/
theorem spanReads_names : (spanReads.map fun column => column.field.name).Nodup := by
  -- The names are those of the fields of a span.
  have names : spanReads.map (fun column => column.field.name) =
      (Row.fields Span).map Field.name := by
    rw [← spanReads_fields, List.map_map]
    rfl
  rw [names]
  exact Row.names

/-- The columns that may be missing from a file of spans. -/
def optionalSpanColumns : List String := optionalColumns spanReads

/-- A span with the defaults of the fields that are missing. -/
def evolvedSpan (now : Int64) (missing : String → Bool) (span : Span) : Span :=
  spanValues.symm (fillIn missing (spanReads.map ColumnRead.field)
    (spanValues (Span.default now)) (spanValues span))

/-- The fallbacks of the reader are the defaults of a span. -/
theorem spanReads_fallBack (now : Int64) :
    fallBackTo spanReads (spanValues (Span.default now)) = true := rfl

set_option maxRecDepth 4000 in
/-- The events and the links of a span are read as JSON. -/
theorem spanReads_jsonTexts (span : Span) :
    jsonTexts spanReads (spanValues span) = [span.events, span.links] := rfl

/-- The batch that is written for spans. -/
def spanBatch (spans : List Span) : RecordBatch :=
  ⟨columnsOf spans (spanReads.map ColumnRead.field) spanValues, spans.length⟩

/-- Spans can always be converted into a batch. -/
theorem spansToRecordBatch_eq (spans : List Span) :
    spansToRecordBatch spans = .ok (spanBatch spans) := by
  -- The schema and the columns fit, whatever the spans are.
  have filled : spanColumns spans ≠ [] := List.cons_ne_nil _ _
  have bundled : RecordBatch.tryNew spanArrowSchema (spanColumns spans) = some (spanBatch spans) :=
    tryNew_columnsOf rfl filled (spanColumns_zip spans)
  unfold spansToRecordBatch
  rw [bundled]

theorem spanBatch_names (spans : List Span) :
    ((spanBatch spans).columns.map fun column => column.1.name).Nodup := by
  have names := columnsOf_names spans (spanReads.map ColumnRead.field) spanValues
  rw [List.map_map] at names
  unfold spanBatch
  simp only [names]
  exact spanReads_names

/-- A batch is converted into spans row by row. -/
theorem recordBatchToSpans_eq_iff {batch : RecordBatch} {spans : List Span}
    (sized : batch.numRows = spans.length)
    {valuesOf : Nat → Values (spanReads.map ColumnRead.field)}
    (read : readRows batch spanReads = .ok valuesOf) (expected : Nat → Span → Span) :
    recordBatchToSpans batch = .ok (spans.mapIdx expected) ↔
      ∀ row (inside : row < spans.length),
        valuesOf row = spanValues (expected row spans[row]) := by
  -- An empty batch is no exception: it has no rows to convert.
  have rows : recordBatchToSpans batch =
      .ok ((List.range batch.numRows).map fun row => spanValues.symm (valuesOf row)) := by
    unfold recordBatchToSpans
    rw [read]
    by_cases none : batch.numRows = 0
    · simp [none]
    · simp only [if_neg none, bind, Except.bind]
  rw [rows, Except.ok.injEq, sized]
  -- The lists agree when their entries do.
  constructor
  · intro same row inside
    have entry := congrArg (fun spans => spans[row]?) same
    simp only [List.getElem?_map, List.getElem?_range inside, List.getElem?_mapIdx,
      List.getElem?_eq_getElem inside, Option.map_some, Option.some.injEq] at entry
    exact (Equiv.symm_apply_eq spanValues).mp entry
  · intro each
    apply List.ext_getElem (by simp)
    intro row inside _
    rw [List.length_map, List.length_range] at inside
    rw [List.getElem_map, List.getElem_range, List.getElem_mapIdx, each row inside,
      Equiv.symm_apply_apply]

/-- What is read of a file depends on what became of its columns, row by row. -/
theorem recordBatchToSpans_evolved_iff {spans : List Span} {batch : RecordBatch}
    {evolution : Evolution} (sized : batch.numRows = spans.length)
    (found : ∀ column ∈ (spanBatch spans).columns, batch.columnByName column.1.name =
      (evolution.column optionalSpanColumns column).map Prod.snd)
    (json : ∀ span ∈ spans, span.events ≠ "" ∧ span.links ≠ "") (now : Int64) :
    recordBatchToSpans batch = .ok (spans.mapIdx fun row span =>
        evolvedSpan now (evolution.missing optionalSpanColumns row) span) ↔
      ∀ row < spans.length, ∀ column ∈ spanReads, column.nullIsFallback = false →
        evolution.dropped column.field.name = false →
          evolution.nulled column.field.name row = false := by
  have marked := mem_optionalColumns spanReads_names
  obtain ⟨valuesOf, read, values⟩ := readRows_evolved marked found
  rw [recordBatchToSpans_eq_iff sized read]
  -- The rows are compared one by one, and each field by field.
  refine forall₂_congr fun row inside => ?_
  obtain ⟨events, links⟩ := json spans[row] (List.getElem_mem inside)
  have texts : ∀ text ∈ jsonTexts spanReads (spanValues spans[row]), text ≠ "" := by
    rw [spanReads_jsonTexts]
    simp [events, links]
  rw [values row inside, evolvedSpan, Equiv.apply_symm_apply]
  exact cells_eq_fillIn_iff marked (spanReads_fallBack now) texts

/-- What is left of a batch of spans is found under the names of its columns. -/
theorem spanBatch_found (spans : List Span) (evolution : Evolution) :
    ∀ column ∈ (spanBatch spans).columns,
      (evolution.batch optionalSpanColumns (spanBatch spans)).columnByName column.1.name =
        (evolution.column optionalSpanColumns column).map Prod.snd :=
  fun _ listed => columnByName_evolved (spanBatch_names spans) listed

/-- The spans of a batch are read back as they were written. -/
theorem recordBatchToSpans_spanBatch {spans : List Span}
    (json : ∀ span ∈ spans, span.events ≠ "" ∧ span.links ≠ "") :
    recordBatchToSpans (spanBatch spans) = .ok spans := by
  -- Nothing has happened to the batch, so nothing is missing in it.
  have found : ∀ column ∈ (spanBatch spans).columns,
      (spanBatch spans).columnByName column.1.name =
        (Evolution.unchanged.column optionalSpanColumns column).map Prod.snd :=
    fun _ listed => columnByName_unchanged (spanBatch_names spans) listed
  have read := (recordBatchToSpans_evolved_iff rfl found json 0).mpr
    (fun _ _ _ _ _ _ => rfl)
  rw [read]
  congr 1
  apply List.ext_getElem (by simp)
  intro row _ inside
  have whole : ∀ name, Evolution.unchanged.missing optionalSpanColumns row name = false := by
    intro name
    simp [Evolution.missing, Evolution.unchanged]
  rw [List.getElem_mapIdx, evolvedSpan, fillIn_eq_self whole, Equiv.symm_apply_apply]

/-- The columns whose null cells are read as zeros, though zero is not their default. -/
def triStateColumns : List String := ["llm_cache_hit", "evaluation_passed"]

/-- Only the tri-state columns are read otherwise where they are null than where they are missing. -/
theorem forall_not_nullIsFallback (holds : String → Prop) :
    (∀ column ∈ spanReads, column.nullIsFallback = false → holds column.field.name) ↔
      ∀ name ∈ triStateColumns, holds name := by
  -- The two columns are found by going through the list.
  have listed : (spanReads.filter fun column => !column.nullIsFallback).map
      (fun column => column.field.name) = triStateColumns := by
    decide +kernel
  rw [← listed]
  constructor
  · intro each name inside
    obtain ⟨column, among, rfl⟩ := List.mem_map.mp inside
    obtain ⟨present, other⟩ := List.mem_filter.mp among
    exact each column present (by simpa using other)
  · intro each column present other
    exact each _ (List.mem_map_of_mem (List.mem_filter.mpr ⟨present, by simpa using other⟩))

end Zradar.Parquet
