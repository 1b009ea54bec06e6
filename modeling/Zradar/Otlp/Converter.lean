import Zradar.Models.Span
import Zradar.Otlp.SpanEvents
import Zradar.Otlp.SpanTypeMapper
import Zradar.Wal.Record

/-! The conversion of an OTLP span to a row. -/

namespace Zradar.Otlp

/-- A link of a span to another one. -/
structure Link where
  traceId : Bytes
  spanId : Bytes
  traceState : String
  attributes : List KeyValue

/-- The status of a span. -/
structure Status where
  message : String
  code : Int32

/-- A span of an OTLP request. -/
structure OtlpSpan where
  traceId : Bytes
  spanId : Bytes
  parentSpanId : Bytes
  name : String
  kind : Int32
  startTimeUnixNano : UInt64
  endTimeUnixNano : UInt64
  attributes : List KeyValue
  events : List Event
  links : List Link
  status : Option Status

/-- How many links of a span are kept. -/
def maxLinksPerSpan : Nat := 128

/-- A link as JSON. -/
def Link.toJson (serde : SerdeJson) (link : Link) : Json :=
  .obj (sortedMap ([("trace_id", .str (hexEncode link.traceId)),
      ("span_id", .str (hexEncode link.spanId))] ++
    (if link.traceState = "" then [] else [("trace_state", .str link.traceState)]) ++
    (if link.attributes.isEmpty then []
      else [("attributes", .obj (sortedMap (pairsToJson serde link.attributes)))])))

/-- Keep the links of a span. -/
def applySpanLinks (serde : SerdeJson) (links : List Link) (span : Span) : Span :=
  if links.isEmpty then span
  else
    let kept := (links.take maxLinksPerSpan).map (Link.toJson serde)
    let marked := if links.length > maxLinksPerSpan then
      kept ++ [.obj [("links.truncated", .bool true)]] else kept
    { span with links := (Json.arr marked).text }

/-- A parent of no bytes or of zeros is no parent. -/
def normalizeParentSpanId (parent : Bytes) : String :=
  if parent.isEmpty || parent.all fun byte => byte = 0 then "" else hexEncode parent

/-- What the converter calls that is not its own. -/
structure ConverterEnv where
  serde : SerdeJson
  /-- Read a JSON array, with its doubles as they would be written again. -/
  fromStr : String → Option (List Json)
  toUppercase : String → String
  parseUuid : String → Option Uuid

/-- The converter: its conventions, and the workspaces whose content is captured. -/
structure OtlpConverter where
  conventions : List AttributeConvention
  captureEnabled : WorkspaceId → Bool

/-- A converter with the default conventions. -/
def OtlpConverter.new (env : ConverterEnv) (captureEnabled : WorkspaceId → Bool) : OtlpConverter :=
  ⟨defaultConventions env.serde, captureEnabled⟩

/-- The time that a span took, where one that ends before it starts took none. -/
def durationNs (startTime endTime : UInt64) : Int64 :=
  if endTime < startTime then 0
  else if (endTime - startTime).toNat < 2 ^ 63 then (endTime - startTime).toInt64
  else Int64.maxValue

/-- The attributes whose values are content. -/
def isContentAttribute (key : String) : Bool :=
  startsWith key "gen_ai.content." || key = "llm.input" || key = "llm.output" ||
    key = "gen_ai.prompt" || key = "gen_ai.completion" || key = "db.statement" ||
    key = "db.query.text" || key = "mcp.tool.input" || key = "mcp.tool.output"

/-- The text under a key of an object. -/
def textUnder (key : String) : Json → Option String
  | .obj entries =>
    match valueOf entries key with
    | some (.str text) => some text
    | _ => none
  | _ => none

/-- Whether an event of the column is not one of those that hold content. -/
def isRetained (event : Json) : Bool :=
  match textUnder "name" event with
  | some name => name != "gen_ai.content.prompt" && name != "gen_ai.content.completion" &&
      name != "gen_ai.client.inference.operation.details"
  | none => true

/-- Strip the events of content from the column. -/
def scrubEvents (env : ConverterEnv) (events : String) : String :=
  match env.fromStr events with
  | some events => (Json.arr (events.filter isRetained)).text
  | none => events

/-- Clear the fields that hold content. -/
def clearContent (env : ConverterEnv) (span : Span) : Span :=
  { span with
    llmInput := ""
    llmOutput := ""
    dbQueryText := ""
    mcpToolInput := ""
    mcpToolOutput := ""
    events := scrubEvents env span.events }

def spanKindText (kind : Int32) : String :=
  if kind = 1 then "INTERNAL"
  else if kind = 2 then "SERVER"
  else if kind = 3 then "CLIENT"
  else if kind = 4 then "PRODUCER"
  else if kind = 5 then "CONSUMER"
  else "UNSPECIFIED"

def statusCodeText (code : Int32) : String :=
  if code = 1 then "OK" else if code = 2 then "ERROR" else "UNSET"

/-- Set the status, if the span has one. -/
def applyStatus (status : Option Status) (span : Span) : Span :=
  match status with
  | some status => { span with statusCode := statusCodeText status.code, statusMessage := status.message }
  | none => span

section

variable (env : ConverterEnv) (converter : OtlpConverter) (serviceName environment : String)
  (workspaceId : WorkspaceId) (now : Int64) (otlpSpan : OtlpSpan)

/-- The fields that do not depend on attributes. -/
def initialSpan : Span :=
  { Span.default now with
    traceId := hexEncode otlpSpan.traceId
    spanId := hexEncode otlpSpan.spanId
    parentSpanId := normalizeParentSpanId otlpSpan.parentSpanId
    timestamp := otlpSpan.startTimeUnixNano.toInt64
    durationNs := durationNs otlpSpan.startTimeUnixNano otlpSpan.endTimeUnixNano
    workspaceId := workspaceId.toText
    serviceName := serviceName
    spanName := otlpSpan.name
    environment := environment }

/-- The span before anything is cleared. -/
def mappedSpan : Span :=
  let view : AttrView := ⟨otlpSpan.attributes⟩
  let span := applyConventions converter.conventions view
    (initialSpan serviceName environment workspaceId now otlpSpan)
  let span := applySpanLinks env.serde otlpSpan.links (applySpanEvents env.serde otlpSpan.events span)
  applyStatus otlpSpan.status
    { span with
      spanType := SpanTypeMapper.detectType view.toSource env.toUppercase
        (durationNs otlpSpan.startTimeUnixNano otlpSpan.endTimeUnixNano) span.spanName
        span.serviceName
      spanKind := spanKindText otlpSpan.kind }

/-- Convert a single OTLP span, at a reading of the clock. -/
def convertSpan : Span :=
  let span := mappedSpan env converter serviceName environment workspaceId now otlpSpan
  -- The content of a workspace that cannot be parsed is captured.
  let captureEnabled := match env.parseUuid span.workspaceId with
    | some workspaceId => converter.captureEnabled workspaceId
    | none => true
  let span := { span with
    attributes := attrsToJsonFiltered env.serde otlpSpan.attributes fun key =>
      !captureEnabled && isContentAttribute key }
  let span := if captureEnabled then span else clearContent env span
  { span with createdAt := now, updatedAt := now }

end

end Zradar.Otlp
