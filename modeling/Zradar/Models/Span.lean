import Zradar.Models.Row

/-! What a span holds before anything is known about it, and the types it can have. -/

namespace Zradar.Span

/-- A span without any data, created now. -/
def default (now : Int64) : Span where
  traceId := ""
  spanId := ""
  parentSpanId := ""
  timestamp := 0
  durationNs := 0
  workspaceId := ""
  serviceName := ""
  spanName := ""
  spanKind := "INTERNAL"
  spanType := "SPAN"
  statusCode := "UNSET"
  statusMessage := ""
  invocationId := ""
  sessionId := ""
  userId := ""
  agentName := ""
  agentType := ""
  llmModel := ""
  llmInput := ""
  llmOutput := ""
  promptTokens := 0
  completionTokens := 0
  totalTokens := 0
  promptCostUsd := .zero
  completionCostUsd := .zero
  totalCostUsd := .zero
  toolName := ""
  toolCallId := ""
  railType := ""
  railName := ""
  railStop := 0
  actionName := ""
  actionHasLlmCalls := 0
  actionLlmCallsCount := 0
  workflowRunId := ""
  framework := ""
  llmProvider := ""
  llmResponseModel := ""
  events := "[]"
  llmCacheHit := -1
  llmResponseId := ""
  environment := ""
  links := "[]"
  resourceCpuMicros := 0
  resourceMemoryBytes := 0
  resourceMemoryPeak := 0
  promptId := ""
  promptName := ""
  promptVersion := 0
  completionStartTime := none
  timeToFirstTokenMs := 0
  agentVersion := ""
  sdkVersion := ""
  level := "INFO"
  dbSystemName := ""
  dbNamespace := ""
  dbOperationName := ""
  dbQueryText := ""
  dbQuerySummary := ""
  dbCollectionName := ""
  dbResponseStatusCode := ""
  agentId := ""
  agentDescription := ""
  agentTaskId := ""
  agentTaskParentId := ""
  agentTaskName := ""
  agentTaskKind := ""
  agentTaskState := ""
  agentTaskStatus := ""
  memoryType := ""
  memoryKey := ""
  mcpToolName := ""
  mcpServerName := ""
  mcpToolInput := ""
  mcpToolOutput := ""
  evaluationName := ""
  evaluationExplanation := ""
  evaluationPassed := -1
  modelParameters := "\x7b\x7d"
  attributes := "\x7b\x7d"
  createdAt := now
  updatedAt := now
  isDeleted := 0

/-- The types that a span can have. -/
def validSpanTypes : List String :=
  ["SPAN", "EVENT", "GENERATION", "AGENT", "TOOL", "CHAIN", "RETRIEVER", "EVALUATOR", "EMBEDDING",
    "GUARDRAIL", "RERANKER", "DATABASE"]

/-- Whether a text is the type of a span. -/
def validateSpanType (typeStr : String) : Bool := validSpanTypes.contains typeStr

end Zradar.Span
