import Zradar.Otlp.AttributeJson

/-! The conventions that take fields of a span from its attributes, in the order they are applied. -/

namespace Zradar.Otlp

/-- A view of the attributes of a span, where the last one with a key counts. -/
structure AttrView where
  attributes : List KeyValue

namespace AttrView

variable (view : AttrView) (key : String)

/-- The value under a key. -/
def get : Option AnyValue :=
  (view.attributes.reverse.find? fun pair => pair.key = key).bind KeyValue.value

def getStr : Option String :=
  match (view.get key).bind AnyValue.value with
  | some (.stringValue text) => some text
  | _ => none

def getI64 : Option Int64 :=
  match (view.get key).bind AnyValue.value with
  | some (.intValue value) => some value
  | _ => none

/-- A negative number is no value. -/
def getU64 : Option UInt64 :=
  match view.getI64 key with
  | some value => if value < 0 then none else some value.toUInt64
  | none => none

def getF64 : Option F64 :=
  match (view.get key).bind AnyValue.value with
  | some (.doubleValue value) => some value
  | _ => none

def getBool : Option Bool :=
  match (view.get key).bind AnyValue.value with
  | some (.boolValue value) => some value
  | _ => none

/-- Whether a key is there, whatever its value. -/
def contains : Bool := view.attributes.any fun pair => pair.key = key

end AttrView

/-- A step of a convention. -/
abbrev Rule := AttrView → Span → Span

/-- The attributes of one namespace, mapped to fields one after the other. -/
abbrev AttributeConvention := List Rule

def AttributeConvention.apply (convention : AttributeConvention) (view : AttrView) (span : Span) :
    Span :=
  convention.foldl (fun span rule => rule view span) span

/-- Store what a view has, if it has it. -/
def storing {β : Type} (get : AttrView → Option β) (store : Span → β → Span) : Rule :=
  fun view span =>
    match get view with
    | some value => store span value
    | none => span

def onStr (key : String) (store : Span → String → Span) : Rule :=
  storing (fun view => view.getStr key) store

/-- The first of some keys that has a text. -/
def onFirstStr (keys : List String) (store : Span → String → Span) : Rule :=
  storing (fun view => keys.findSome? view.getStr) store

def onI64 (key : String) (store : Span → Int64 → Span) : Rule :=
  storing (fun view => view.getI64 key) store

def onU64 (key : String) (store : Span → UInt64 → Span) : Rule :=
  storing (fun view => view.getU64 key) store

def onF64 (key : String) (store : Span → F64 → Span) : Rule :=
  storing (fun view => view.getF64 key) store

def onBool (key : String) (store : Span → Bool → Span) : Rule :=
  storing (fun view => view.getBool key) store

/-- A flag as a number. -/
def boolToI16 (value : Bool) : Int16 := if value then 1 else 0

/-- A number that is cut off at 32 bits. -/
def wrapToI32 (value : UInt64) : Int32 := value.toUInt32.toInt32

/-- A number that stops at the greatest one of 32 bits. -/
def saturateToI32 (value : UInt64) : Int32 := wrapToI32 (min value 2147483647)

/-- Reserved for OpenInference attributes, none of which has a field of its own. -/
def openInferenceConvention : AttributeConvention := []

/-- NeMo Guardrails attributes. -/
def guardrailsConvention : AttributeConvention :=
  [onStr "rail.type" fun span value => { span with railType := value },
    onStr "rail.name" fun span value => { span with railName := value },
    onBool "rail.stop" fun span value => { span with railStop := boolToI16 value },
    onStr "action.name" fun span value => { span with actionName := value },
    onBool "action.has_llm_calls" fun span value =>
      { span with actionHasLlmCalls := boolToI16 value },
    onI64 "action.llm_calls_count" fun span value =>
      { span with actionLlmCallsCount := (max (-2147483648) (min value 2147483647)).toInt32 },
    onBool "llm.cache.hit" fun span value => { span with llmCacheHit := boolToI16 value }]

/-- Generic agent and identity attributes. -/
def agentConvention : AttributeConvention :=
  [onFirstStr ["zradar.invocation.id", "invocation.id", "invocation_id"] fun span value =>
      { span with invocationId := value },
    onStr "session_id" fun span value => { span with sessionId := value },
    onStr "user_id" fun span value => { span with userId := value },
    onStr "gen_ai.agent.id" fun span value => { span with agentId := value },
    onFirstStr ["gen_ai.agent.name", "agent.name"] fun span value =>
      { span with agentName := value },
    onStr "gen_ai.agent.version" fun span value => { span with agentVersion := value },
    onStr "gen_ai.agent.description" fun span value => { span with agentDescription := value },
    onStr "agent.type" fun span value => { span with agentType := value }]

/-- Task-lifecycle attributes. -/
def genAiTaskConvention : AttributeConvention :=
  [onStr "gen_ai.task.id" fun span value => { span with agentTaskId := value },
    onStr "gen_ai.task.parent.id" fun span value => { span with agentTaskParentId := value },
    onStr "gen_ai.task.name" fun span value => { span with agentTaskName := value },
    onStr "gen_ai.task.kind" fun span value => { span with agentTaskKind := value },
    onStr "gen_ai.task.state" fun span value => { span with agentTaskState := value },
    onStr "gen_ai.task.status" fun span value => { span with agentTaskStatus := value }]

/-- Memory-store attributes. -/
def genAiMemoryConvention : AttributeConvention :=
  [onStr "gen_ai.memory.type" fun span value => { span with memoryType := value },
    onStr "gen_ai.memory.key" fun span value => { span with memoryKey := value }]

/-- Evaluation attributes. -/
def genAiEvaluationConvention : AttributeConvention :=
  [onStr "gen_ai.evaluation.name" fun span value => { span with evaluationName := value },
    onStr "gen_ai.evaluation.explanation" fun span value =>
      { span with evaluationExplanation := value },
    onBool "gen_ai.evaluation.passed" fun span value =>
      { span with evaluationPassed := boolToI16 value }]

/-- Vertex AI agent attributes. -/
def vertexConvention : AttributeConvention :=
  [onStr "gcp.vertex.agent.invocation_id" fun span value => { span with invocationId := value },
    onStr "gcp.vertex.agent.session_id" fun span value => { span with sessionId := value }]

/-- Canonical `llm.*` attributes. -/
def llmConvention : AttributeConvention :=
  [onStr "llm.model" fun span value => { span with llmModel := value },
    onStr "llm.input" fun span value => { span with llmInput := value },
    onStr "llm.output" fun span value => { span with llmOutput := value },
    onU64 "llm.usage.prompt_tokens" fun span value => { span with promptTokens := wrapToI32 value },
    onU64 "llm.usage.completion_tokens" fun span value =>
      { span with completionTokens := wrapToI32 value },
    onU64 "llm.usage.total_tokens" fun span value => { span with totalTokens := wrapToI32 value },
    onF64 "llm.cost.total_usd" fun span value => { span with totalCostUsd := value },
    onF64 "llm.cost.prompt_usd" fun span value => { span with promptCostUsd := value },
    onF64 "llm.cost.completion_usd" fun span value => { span with completionCostUsd := value }]

/-- GenAI attributes of version 1.29. -/
def genAiV129Convention : AttributeConvention :=
  [onU64 "gen_ai.usage.input_tokens" fun span value =>
      { span with promptTokens := saturateToI32 value },
    onU64 "gen_ai.usage.output_tokens" fun span value =>
      { span with completionTokens := saturateToI32 value },
    onStr "gen_ai.response.model" fun span value => { span with llmResponseModel := value },
    onStr "gen_ai.provider.name" fun span value => { span with llmProvider := value },
    onStr "gen_ai.response.id" fun span value => { span with llmResponseId := value }]

/-- A token count under an old key, unless the new key is there. -/
def legacyTokens (newKey oldKey : String) (view : AttrView) : Option UInt64 :=
  if view.contains newKey then none else view.getU64 oldKey

/-- GenAI attributes from before version 1.29. -/
def genAiLegacyConvention : AttributeConvention :=
  [onStr "gen_ai.request.model" fun span value => { span with llmModel := value },
    onStr "gen_ai.prompt" fun span value => { span with llmInput := value },
    onStr "gen_ai.completion" fun span value => { span with llmOutput := value },
    storing (legacyTokens "gen_ai.usage.input_tokens" "gen_ai.usage.prompt_tokens")
      fun span value => { span with promptTokens := saturateToI32 value },
    storing (legacyTokens "gen_ai.usage.output_tokens" "gen_ai.usage.completion_tokens")
      fun span value => { span with completionTokens := saturateToI32 value }]

/-- Set the session, unless it is known already. -/
def fillSessionId (span : Span) (value : String) : Span :=
  if span.sessionId = "" then { span with sessionId := value } else span

/-- Set the name of the agent, unless it is known already. -/
def fillAgentName (span : Span) (value : String) : Span :=
  if span.agentName = "" then { span with agentName := value } else span

/-- NeMo Agent Toolkit attributes. -/
def natConvention : AttributeConvention :=
  [onStr "nat.workflow.run_id" fun span value => { span with workflowRunId := value },
    onStr "nat.conversation.id" fillSessionId,
    onStr "nat.framework" fun span value => { span with framework := value },
    onStr "nat.function.name" fillAgentName]

/-- The canonical aliases of the NeMo Agent Toolkit attributes. -/
def aiqConvention : AttributeConvention :=
  [onStr "aiq.workflow.run_id" fun span value => { span with workflowRunId := value },
    onStr "aiq.conversation.id" fillSessionId,
    onStr "aiq.framework" fun span value => { span with framework := value },
    onStr "aiq.function.name" fillAgentName]

/-- Database attributes. -/
def dbConvention : AttributeConvention :=
  [onStr "db.system.name" fun span value => { span with dbSystemName := value },
    onStr "db.namespace" fun span value => { span with dbNamespace := value },
    onStr "db.operation.name" fun span value => { span with dbOperationName := value },
    onStr "db.query.text" fun span value => { span with dbQueryText := value },
    onStr "db.query.summary" fun span value => { span with dbQuerySummary := value },
    onStr "db.collection.name" fun span value => { span with dbCollectionName := value },
    onStr "db.response.status_code" fun span value => { span with dbResponseStatusCode := value }]

/-- Attributes of calls of MCP tools. -/
def mcpConvention : AttributeConvention :=
  [onStr "mcp.tool.name" fun span value => { span with mcpToolName := value },
    onStr "mcp.server.name" fun span value => { span with mcpServerName := value },
    onStr "mcp.tool.input" fun span value => { span with mcpToolInput := value },
    onStr "mcp.tool.output" fun span value => { span with mcpToolOutput := value }]

/-- Attributes of tool calls. -/
def toolConvention : AttributeConvention :=
  [onStr "tool.name" fun span value => { span with toolName := value },
    onStr "gen_ai.tool.name" fun span value => { span with toolName := value },
    onStr "tool.call.id" fun span value => { span with toolCallId := value },
    onStr "gen_ai.tool.call.id" fun span value => { span with toolCallId := value }]

/-- Prompt-management attributes. -/
def promptConvention : AttributeConvention :=
  [onStr "prompt.id" fun span value => { span with promptId := value },
    onStr "prompt.name" fun span value => { span with promptName := value },
    onU64 "prompt.version" fun span value => { span with promptVersion := wrapToI32 value }]

/-- Attributes of resource usage, timing, versions and severity. -/
def resourceConvention : AttributeConvention :=
  [onI64 "resource.cpu.micros" fun span value => { span with resourceCpuMicros := value },
    onI64 "resource.memory.bytes" fun span value => { span with resourceMemoryBytes := value },
    onI64 "resource.memory.peak" fun span value => { span with resourceMemoryPeak := value },
    onU64 "time_to_first_token_ms" fun span value =>
      { span with timeToFirstTokenMs := wrapToI32 value },
    onU64 "ttft_ms" fun span value => { span with timeToFirstTokenMs := wrapToI32 value },
    onStr "agent.version" fun span value => { span with agentVersion := value },
    onStr "sdk.version" fun span value => { span with sdkVersion := value },
    onStr "level" fun span value => { span with level := value }]

/-- The sampling parameters that are doubles, with their keys in the column. -/
def samplingFloats : List (String × String) :=
  [("gen_ai.request.temperature", "temperature"), ("gen_ai.request.top_p", "top_p"),
    ("gen_ai.request.frequency_penalty", "frequency_penalty"),
    ("gen_ai.request.presence_penalty", "presence_penalty")]

/-- The sampling parameters that are whole numbers. -/
def samplingInts : List (String × String) :=
  [("gen_ai.request.top_k", "top_k"), ("gen_ai.request.max_tokens", "max_tokens"),
    ("gen_ai.request.seed", "seed")]

/-- The sampling parameters that a view has. -/
def samplingParams (serde : SerdeJson) (view : AttrView) : List (String × Json) :=
  samplingFloats.filterMap (fun key =>
    (view.getF64 key.1).map fun value => (key.2, value.toJson serde)) ++
  samplingInts.filterMap (fun key =>
    (view.getI64 key.1).map fun value => (key.2, .int value.toInt)) ++
  ((view.getStr "gen_ai.request.stop_sequences").map fun value =>
    ("stop_sequences", Json.str value)).toList

/-- Collect the sampling parameters of a request into one column. -/
def samplingParamsConvention (serde : SerdeJson) : AttributeConvention :=
  [storing (fun view => some (samplingParams serde view)) fun span params =>
    if params.isEmpty then span
    else { span with modelParameters := (Json.obj (sortedMap params)).text }]

/-- The conventions in the order they are applied. -/
def defaultConventions (serde : SerdeJson) : List AttributeConvention :=
  [openInferenceConvention, guardrailsConvention, agentConvention, genAiTaskConvention,
    genAiMemoryConvention, genAiEvaluationConvention, vertexConvention, llmConvention,
    genAiV129Convention, genAiLegacyConvention, natConvention, aiqConvention, dbConvention,
    mcpConvention, toolConvention, promptConvention, resourceConvention,
    samplingParamsConvention serde]

/-- Apply some conventions, one after the other. -/
def applyConventions (conventions : List AttributeConvention) (view : AttrView) (span : Span) :
    Span :=
  conventions.foldl (fun span convention => convention.apply view span) span

end Zradar.Otlp
