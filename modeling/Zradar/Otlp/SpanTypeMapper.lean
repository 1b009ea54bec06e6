import Zradar.Otlp.Conventions

/-! Detection of the type of a span from its attributes. -/

namespace Zradar.Otlp

/-- The look-ups that the detection makes. -/
structure AttrSource where
  lookupStr : String → Option String
  hasKey : String → Bool
  hasKeyPrefix : String → Bool

/-- Attributes without a value have no part in the search for a prefix. -/
def AttrView.toSource (view : AttrView) : AttrSource where
  lookupStr := view.getStr
  hasKey := view.contains
  hasKeyPrefix lead := view.attributes.any fun pair =>
    pair.value.isSome && startsWith pair.key lead

namespace SpanTypeMapper

variable (attributes : AttrSource)

def hasModelInfo : Bool :=
  attributes.hasKey "gen_ai.request.model" || attributes.hasKey "gen_ai.response.model" ||
    attributes.hasKey "llm.model" || attributes.hasKey "ai.model.id"

def hasEvaluationInfo : Bool := attributes.hasKey "gen_ai.evaluation.name"

def hasToolInfo : Bool :=
  attributes.hasKey "tool.name" || attributes.hasKey "gen_ai.tool.name" ||
    attributes.hasKey "mcp.tool.name"

def hasDbInfo : Bool := attributes.hasKeyPrefix "db."

def hasAgentInfo : Bool := attributes.hasKey "agent.name" || attributes.hasKey "agent.type"

/-- Whether a span is unambiguously emitted by NeMo Guardrails. -/
def isGuardrails (spanName serviceName : String) : Bool :=
  startsWith spanName "guardrails." ||
    attributes.lookupStr "gen_ai.operation.name" = some "guardrails" ||
    attributes.hasKeyPrefix "rail." ||
    -- The name of an action alone is too broad, as others emit it as well.
    attributes.hasKey "action.name" && serviceName = "nemo_guardrails"

/-- The type of an OpenInference kind, in upper case. -/
def openInferenceType (kind : String) : String :=
  if kind = "CHAIN" then "CHAIN"
  else if kind = "RETRIEVER" then "RETRIEVER"
  else if kind = "LLM" then "GENERATION"
  else if kind = "EMBEDDING" then "EMBEDDING"
  else if kind = "AGENT" then "AGENT"
  else if kind = "TOOL" then "TOOL"
  else if kind = "GUARDRAIL" then "GUARDRAIL"
  else if kind = "EVALUATOR" then "EVALUATOR"
  else if kind = "RERANKER" then "RERANKER"
  else "SPAN"

/-- The type of a GenAI operation. -/
def operationType (operation : String) : String :=
  if ["chat", "completion", "generate_content", "generate"].contains operation then "GENERATION"
  else if operation = "embeddings" then "EMBEDDING"
  else if ["invoke_agent", "create_agent"].contains operation then "AGENT"
  else if operation = "execute_tool" then "TOOL"
  else "SPAN"

/-- The type of an operation of the Vercel AI SDK, if it is one that is known. -/
def vercelType (operation : String) : Option String :=
  if (startsWith operation "ai.generateText" || startsWith operation "ai.streamText") &&
      hasModelInfo attributes then some "GENERATION"
  else if startsWith operation "ai.embed" && hasModelInfo attributes then some "EMBEDDING"
  else if startsWith operation "ai.toolCall" then some "TOOL"
  else none

/-- The type of a span whose attributes do not name it. -/
def heuristicType (durationNs : Int64) : String :=
  if hasDbInfo attributes then "DATABASE"
  else if hasModelInfo attributes then "GENERATION"
  else if hasEvaluationInfo attributes then "EVALUATOR"
  else if hasToolInfo attributes then "TOOL"
  else if hasAgentInfo attributes then "AGENT"
  else if durationNs = 0 then "EVENT"
  else "SPAN"

/-- Detect the type of a span, where the conversion to upper case is given. -/
def detectType (toUppercase : String → String) (durationNs : Int64)
    (spanName serviceName : String) : String :=
  match attributes.lookupStr "zradar.span.type" with
  | some typeStr => toUppercase typeStr
  | none =>
    if isGuardrails attributes spanName serviceName then "GUARDRAIL"
    else
      match attributes.lookupStr "openinference.span.kind" with
      | some kind => openInferenceType (toUppercase kind)
      | none =>
        match attributes.lookupStr "gen_ai.operation.name" with
        | some operation => operationType operation
        | none =>
          let operation := (attributes.lookupStr "operation.name").or
            (attributes.lookupStr "ai.operationId")
          (operation.bind (vercelType attributes)).getD (heuristicType attributes durationNs)

end SpanTypeMapper

end Zradar.Otlp
