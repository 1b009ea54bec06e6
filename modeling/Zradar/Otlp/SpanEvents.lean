import Zradar.Otlp.Conventions

/-! The events of a span: those that are promoted to fields, and the column that keeps the others. -/

namespace Zradar.Otlp

/-- An event of a span. -/
structure Event where
  timeUnixNano : UInt64
  name : String
  attributes : List KeyValue

/-- How many events of a span are looked at. -/
def maxEventsPerSpan : Nat := 128

/-- How many bytes the events of a span may take. -/
def maxBytesPerSpan : Nat := 65536

namespace Event

/-- Whether an attribute marks an event as part of a stream of tokens. -/
def marksNewToken (pair : KeyValue) : Bool :=
  pair.key = "nat.event_type" &&
    match pair.value.bind AnyValue.value with
    | some (.stringValue text) => endsWith text "_NEW_TOKEN"
    | _ => false

/-- An event of a stream of tokens, which is dropped. -/
def isNewToken (event : Event) : Bool := event.attributes.any marksNewToken

/-- The text of an attribute, if it has one. -/
def textOf (pair : KeyValue) : Option String :=
  match pair.value.bind AnyValue.value with
  | some (.stringValue text) => some text
  | _ => none

/-- The content of an event, or else the first text among its attributes. -/
def bodyString (event : Event) : Option String :=
  (event.attributes.findSome? fun pair =>
    if pair.key = "content" ∨ pair.key = "gen_ai.content" then textOf pair else none).or
    (event.attributes.findSome? textOf)

/-- An event as JSON. -/
def toJson (serde : SerdeJson) (event : Event) : Json :=
  .obj (sortedMap ([("name", .str event.name)] ++
    (if event.timeUnixNano = 0 then []
      else [("timestamp_ns", .int event.timeUnixNano.toInt64.toInt)]) ++
    (if event.attributes.isEmpty then []
      else [("attributes", .obj (sortedMap (pairsToJson serde event.attributes)))])))

/-- The events whose attributes are promoted to fields. -/
def isPromoted (event : Event) : Bool :=
  event.name = "gen_ai.content.prompt" || event.name = "gen_ai.content.completion" ||
    event.name = "gen_ai.client.inference.operation.details"

end Event

/-- What the loop over the events holds. -/
structure EventLoop where
  llmInput : String
  llmOutput : String
  preserved : List Json
  runningBytes : Nat
  truncated : Bool

section

variable (serde : SerdeJson)

/-- Take the messages of an inference from one of its attributes, unless they are known already. -/
def applyInferenceDetail (state : EventLoop) (pair : KeyValue) : EventLoop :=
  match pair.value with
  | none => state
  | some value =>
    let text := (anyValueToJson serde value).text
    if pair.key = "gen_ai.input.messages" ∧ state.llmInput = "" then { state with llmInput := text }
    else if pair.key = "gen_ai.output.messages" ∧ state.llmOutput = "" then
      { state with llmOutput := text }
    else state

/-- Promote an event to the fields of the span. -/
def promoteEvent (event : Event) (state : EventLoop) : EventLoop :=
  if event.name = "gen_ai.content.prompt" then
    if state.llmInput = "" then { state with llmInput := event.bodyString.getD state.llmInput }
    else state
  else if event.name = "gen_ai.content.completion" then
    if state.llmOutput = "" then { state with llmOutput := event.bodyString.getD state.llmOutput }
    else state
  else event.attributes.foldl (applyInferenceDetail serde) state

/-- What an event takes in the column, with the comma behind it. -/
def eventCost (event : Event) : Nat := (event.toJson serde).text.utf8ByteSize + 1

/-- The loop over the events, which ends at the first one that does not fit. -/
def eventLoop : List Event → EventLoop → EventLoop
  | [], state => state
  | event :: events, state =>
    if event.isPromoted then eventLoop events (promoteEvent serde event state)
    else if state.runningBytes + eventCost serde event > maxBytesPerSpan then
      { state with truncated := true }
    else
      eventLoop events
        { state with
          runningBytes := state.runningBytes + eventCost serde event
          preserved := state.preserved ++ [event.toJson serde] }

/-- The entry that says that events are missing. -/
def truncationMarker : Json := .obj [("events.truncated", .bool true)]

/-- The events that the column holds. -/
def EventLoop.column (state : EventLoop) : List Json :=
  if state.truncated then state.preserved ++ [truncationMarker] else state.preserved

/-- Process the events of a span. -/
def applySpanEvents (events : List Event) (span : Span) : Span :=
  -- The size of the brackets is counted from the start.
  let final := eventLoop serde
    ((events.filter fun event => !event.isNewToken).take maxEventsPerSpan)
    ⟨span.llmInput, span.llmOutput, [], 2, false⟩
  { span with
    llmInput := final.llmInput
    llmOutput := final.llmOutput
    events := if final.column.isEmpty then span.events else (Json.arr final.column).text }

end

end Zradar.Otlp
