import Zradar.Otlp.Converter

/-! Spans that differ in their prompts and completions only, and what the conventions make of them. -/

namespace Zradar.Otlp

/-- The kinds of values. -/
inductive ValueKind where
  | string
  | bool
  | int
  | double
  | array
  | kvlist
  | bytes
  | strindex
  deriving DecidableEq

def Value.kind : Value → ValueKind
  | .stringValue _ => .string
  | .boolValue _ => .bool
  | .intValue _ => .int
  | .doubleValue _ => .double
  | .arrayValue _ => .array
  | .kvlistValue _ => .kvlist
  | .bytesValue _ => .bytes
  | .stringValueStrindex _ => .strindex

/-- The kind of a value, if there is one. -/
def AnyValue.kind (value : AnyValue) : Option ValueKind := value.value.map Value.kind

/-- The keys whose values are prompts or completions. -/
def isContentKey (key : String) : Bool :=
  key = "llm.input" || key = "llm.output" || key = "gen_ai.prompt" || key = "gen_ai.completion" ||
    startsWith key "gen_ai.content." || key = "gen_ai.input.messages" ||
    key = "gen_ai.output.messages" || key = "db.statement" || key = "db.query.text" ||
    key = "mcp.tool.input" || key = "mcp.tool.output"

/-- Two attributes have one key and one kind, and one value unless the key is of content. -/
structure Varies (content : String → Bool) (first second : KeyValue) : Prop where
  key : first.key = second.key
  kind : first.value.map AnyValue.kind = second.value.map AnyValue.kind
  value : content first.key = false → first.value = second.value

/-- The content of an event: all its attributes if they are promoted. -/
def Event.content (event : Event) : String → Bool :=
  if event.isPromoted then fun _ => true else isContentKey

/-- Two events are the same but for their content. -/
structure Event.Varies (first second : Event) : Prop where
  name : first.name = second.name
  time : first.timeUnixNano = second.timeUnixNano
  attributes : List.Forall₂ (Otlp.Varies first.content) first.attributes second.attributes

/-- Two spans are the same but for their content. -/
structure OtlpSpan.Varies (first second : OtlpSpan) : Prop where
  same : second = { first with attributes := second.attributes, events := second.events }
  attributes : List.Forall₂ (Otlp.Varies isContentKey) first.attributes second.attributes
  events : List.Forall₂ Event.Varies first.events second.events

section

variable {content : String → Bool} {firsts seconds : List KeyValue}

theorem Varies.refl (pair : KeyValue) : Varies content pair pair := ⟨rfl, rfl, fun _ => rfl⟩

theorem forall₂_refl {α : Type} {relation : α → α → Prop} (refl : ∀ value, relation value value)
    (values : List α) : List.Forall₂ relation values values :=
  List.forall₂_same.mpr fun value _ => refl value

/-- The last attributes with a key are each other's variants. -/
theorem find?_varies (varies : List.Forall₂ (Varies content) firsts seconds) (key : String) :
    Option.Rel (Varies content) (firsts.find? fun pair => pair.key = key)
      (seconds.find? fun pair => pair.key = key) := by
  -- Both spans list the same keys in the same order.
  induction varies with
  | nil => exact .none
  | @cons first second firsts seconds head _ ih =>
    rw [List.find?_cons, List.find?_cons, ← head.key]
    cases decide (first.key = key) with
    | true => exact .some head
    | false => exact ih

end

/-- The view of attributes with the same keys and kinds, and the same values but for content. -/
structure AttrView.Varies (first second : AttrView) : Prop where
  attributes : List.Forall₂ (Otlp.Varies isContentKey) first.attributes second.attributes

namespace AttrView.Varies

variable {first second : AttrView} (varies : first.Varies second) {key : String}
include varies

theorem get (plain : isContentKey key = false) : first.get key = second.get key := by
  -- The last pair of the key is at the same place in both, and its key is no content.
  have found := find?_varies (List.rel_reverse varies.attributes) key
  unfold AttrView.get
  cases one : first.attributes.reverse.find? fun pair => pair.key = key with
  | none =>
    rw [one] at found
    cases two : second.attributes.reverse.find? fun pair => pair.key = key with
    | none => rfl
    | some pair => rw [two] at found; exact nomatch found
  | some pair =>
    rw [one] at found
    cases two : second.attributes.reverse.find? fun pair => pair.key = key with
    | none => rw [two] at found; exact nomatch found
    | some other =>
      rw [two] at found
      cases found with
      | some same =>
        have named : pair.key = key := by simpa using List.find?_some one
        exact same.value (named ▸ plain)

theorem getStr (plain : isContentKey key = false) : first.getStr key = second.getStr key := by
  rw [AttrView.getStr, AttrView.getStr, varies.get plain]

theorem getI64 (plain : isContentKey key = false) : first.getI64 key = second.getI64 key := by
  rw [AttrView.getI64, AttrView.getI64, varies.get plain]

theorem getU64 (plain : isContentKey key = false) : first.getU64 key = second.getU64 key := by
  rw [AttrView.getU64, AttrView.getU64, varies.getI64 plain]

theorem getF64 (plain : isContentKey key = false) : first.getF64 key = second.getF64 key := by
  rw [AttrView.getF64, AttrView.getF64, varies.get plain]

theorem getBool (plain : isContentKey key = false) : first.getBool key = second.getBool key := by
  rw [AttrView.getBool, AttrView.getBool, varies.get plain]

/-- Whatever looks at the keys and at whether there is a value sees no difference. -/
theorem any (check : String → Bool → Bool) :
    (first.attributes.any fun pair => check pair.key pair.value.isSome) =
      second.attributes.any fun pair => check pair.key pair.value.isSome := by
  -- Keys and the presence of values are not varied.
  have general : ∀ {firsts seconds : List KeyValue},
      List.Forall₂ (Otlp.Varies isContentKey) firsts seconds →
      (firsts.any fun pair => check pair.key pair.value.isSome) =
        seconds.any fun pair => check pair.key pair.value.isSome := by
    intro firsts seconds varies
    induction varies with
    | nil => rfl
    | @cons first second _ _ head _ ih =>
      have some : first.value.isSome = second.value.isSome := by
        have kinds := congrArg Option.isSome head.kind
        simpa using kinds
      rw [List.any_cons, List.any_cons, ih, head.key, some]
  exact general varies.attributes

theorem contains : first.contains key = second.contains key :=
  varies.any fun other _ => other = key

end AttrView.Varies

/-- The fields that hold content. -/
structure Content where
  llmInput : String
  llmOutput : String
  dbQueryText : String
  mcpToolInput : String
  mcpToolOutput : String

/-- A span with other content. -/
def withContent (span : Span) (content : Content) : Span :=
  { span with
    llmInput := content.llmInput
    llmOutput := content.llmOutput
    dbQueryText := content.dbQueryText
    mcpToolInput := content.mcpToolInput
    mcpToolOutput := content.mcpToolOutput }

/-- A span has the events and the workspace of another one. -/
structure Keeps (span other : Span) : Prop where
  events : span.events = other.events
  workspace : span.workspaceId = other.workspaceId

theorem Keeps.trans {first second third : Span} (one : Keeps first second) (two : Keeps second third) :
    Keeps first third :=
  ⟨one.events.trans two.events, one.workspace.trans two.workspace⟩

/-- A step keeps spans the same but for their content, with their events and their workspace. -/
structure Carries (rule : Rule) (first second : AttrView) : Prop where
  carries : ∀ span content, ∃ after,
    rule second (withContent span content) = withContent (rule first span) after
  keeps : ∀ view span, Keeps (rule view span) span

section

variable {β : Type} {get : AttrView → Option β} {store : Span → β → Span}
  {first second : AttrView}

/-- A step that reads no content carries it along. -/
theorem carries_plain (same : get first = get second)
    (along : ∀ span content value,
      store (withContent span content) value = withContent (store span value) content)
    (keeps : ∀ span value, Keeps (store span value) span) :
    Carries (storing get store) first second where
  carries := by
    -- Both spans get the same value, if any.
    intro span content
    refine ⟨content, ?_⟩
    unfold storing
    rw [same]
    cases get second with
    | none => rfl
    | some value => exact along span content value
  keeps := by
    intro view span
    unfold storing
    cases get view with
    | none => exact ⟨rfl, rfl⟩
    | some value => exact keeps span value

/-- A step that stores content replaces it. -/
theorem carries_content (replaces : ∀ span value, ∃ content, store span value = withContent span content)
    (keeps : ∀ span value, Keeps (store span value) span) :
    Carries (storing get store) first second where
  carries := by
    intro span content
    -- A rule replaces the content by what it finds, or leaves it as it was.
    have own : ∀ view other, ∃ after, storing get store view other = withContent other after := by
      intro view other
      unfold storing
      cases get view with
      | none => exact ⟨⟨_, _, _, _, _⟩, rfl⟩
      | some value => exact replaces other value
    obtain ⟨one, isOne⟩ := own first span
    obtain ⟨two, isTwo⟩ := own second (withContent span content)
    exact ⟨two, by rw [isOne, isTwo]; rfl⟩
  keeps := by
    intro view span
    unfold storing
    cases get view with
    | none => exact ⟨rfl, rfl⟩
    | some value => exact keeps span value

end

theorem fillSessionId_withContent (span : Span) (content : Content) (value : String) :
    fillSessionId (withContent span content) value =
      withContent (fillSessionId span value) content := by
  -- Whether the session is filled in does not depend on the content.
  unfold fillSessionId
  split_ifs with one two two
  · rfl
  · exact absurd one two
  · exact absurd two one
  · rfl

theorem fillAgentName_withContent (span : Span) (content : Content) (value : String) :
    fillAgentName (withContent span content) value =
      withContent (fillAgentName span value) content := by
  -- Whether the name is filled in does not depend on the content.
  unfold fillAgentName
  split_ifs with one two two
  · rfl
  · exact absurd one two
  · exact absurd two one
  · rfl

theorem fillSessionId_keeps (span : Span) (value : String) : Keeps (fillSessionId span value) span := by
  unfold fillSessionId
  split_ifs <;> exact ⟨rfl, rfl⟩

theorem fillAgentName_keeps (span : Span) (value : String) : Keeps (fillAgentName span value) span := by
  unfold fillAgentName
  split_ifs <;> exact ⟨rfl, rfl⟩

section

variable {first second : AttrView} (varies : first.Varies second)
include varies

/-- The first of some keys that has a text is the same, if none of them is of content. -/
theorem AttrView.Varies.findSome? {keys : List String}
    (plain : ∀ key ∈ keys, isContentKey key = false) :
    keys.findSome? first.getStr = keys.findSome? second.getStr := by
  induction keys with
  | nil => rfl
  | cons key keys ih =>
    obtain ⟨head, rest⟩ := List.forall_mem_cons.mp plain
    rw [List.findSome?_cons, List.findSome?_cons, varies.getStr head, ih rest]

theorem legacyTokens_eq {newKey oldKey : String} (plain : isContentKey oldKey = false) :
    legacyTokens newKey oldKey first = legacyTokens newKey oldKey second := by
  rw [legacyTokens, legacyTokens, varies.contains, varies.getU64 plain]

theorem samplingParams_eq (serde : SerdeJson) :
    samplingParams serde first = samplingParams serde second := by
  -- None of the sampling keys is a key of content.
  have floats : ∀ key ∈ samplingFloats, first.getF64 key.1 = second.getF64 key.1 := by
    simp only [samplingFloats, List.forall_mem_cons]
    exact ⟨varies.getF64 rfl, varies.getF64 rfl, varies.getF64 rfl, varies.getF64 rfl,
      fun _ member => nomatch member⟩
  have ints : ∀ key ∈ samplingInts, first.getI64 key.1 = second.getI64 key.1 := by
    simp only [samplingInts, List.forall_mem_cons]
    exact ⟨varies.getI64 rfl, varies.getI64 rfl, varies.getI64 rfl, fun _ member => nomatch member⟩
  have stops : first.getStr "gen_ai.request.stop_sequences" =
      second.getStr "gen_ai.request.stop_sequences" := varies.getStr rfl
  unfold samplingParams
  rw [stops]
  congr 2
  · exact List.filterMap_congr fun key member => by rw [floats key member]
  · exact List.filterMap_congr fun key member => by rw [ints key member]

/-- The conventions that store no content. -/
theorem plainConventions_carry (serde : SerdeJson) : ∀ rule ∈ openInferenceConvention ++
    guardrailsConvention ++ agentConvention ++ genAiTaskConvention ++ genAiMemoryConvention ++
    genAiEvaluationConvention ++ vertexConvention ++ genAiV129Convention ++ natConvention ++
    aiqConvention ++ toolConvention ++ promptConvention ++ resourceConvention ++
    samplingParamsConvention serde, Carries rule first second := by
  simp only [openInferenceConvention, guardrailsConvention, agentConvention, genAiTaskConvention,
    genAiMemoryConvention, genAiEvaluationConvention, vertexConvention, genAiV129Convention,
    natConvention, aiqConvention, toolConvention, promptConvention, resourceConvention,
    samplingParamsConvention, onStr, onFirstStr, onBool, onI64, onU64, List.forall_mem_append,
    List.forall_mem_cons]
  have invocationKeys : ∀ key ∈ ["zradar.invocation.id", "invocation.id", "invocation_id"],
      isContentKey key = false := by
    simp only [List.forall_mem_cons]
    exact ⟨rfl, rfl, rfl, fun _ member => nomatch member⟩
  have agentKeys : ∀ key ∈ ["gen_ai.agent.name", "agent.name"], isContentKey key = false := by
    simp only [List.forall_mem_cons]
    exact ⟨rfl, rfl, fun _ member => nomatch member⟩
  and_intros
  -- Every key that is read is not of content, and every field that is set is another one.
  all_goals first
    | exact carries_plain (varies.getStr rfl) (fun _ _ _ => rfl) (fun _ _ => ⟨rfl, rfl⟩)
    | exact carries_plain (varies.getBool rfl) (fun _ _ _ => rfl) (fun _ _ => ⟨rfl, rfl⟩)
    | exact carries_plain (varies.getI64 rfl) (fun _ _ _ => rfl) (fun _ _ => ⟨rfl, rfl⟩)
    | exact carries_plain (varies.getU64 rfl) (fun _ _ _ => rfl) (fun _ _ => ⟨rfl, rfl⟩)
    | exact carries_plain (varies.getStr rfl) fillSessionId_withContent fillSessionId_keeps
    | exact carries_plain (varies.getStr rfl) fillAgentName_withContent fillAgentName_keeps
    | exact carries_plain (varies.findSome? invocationKeys) (fun _ _ _ => rfl) (fun _ _ => ⟨rfl, rfl⟩)
    | exact carries_plain (varies.findSome? agentKeys) (fun _ _ _ => rfl) (fun _ _ => ⟨rfl, rfl⟩)
    | exact fun _ member => nomatch member
    | refine carries_plain (by rw [samplingParams_eq varies]) ?_ ?_
  · intro span content params
    cases params <;> rfl
  · intro span params
    cases params <;> exact ⟨rfl, rfl⟩

/-- The conventions that store content, in fields that are cleared. -/
theorem contentConventions_carry : ∀ rule ∈ llmConvention ++ genAiLegacyConvention ++
    dbConvention ++ mcpConvention, Carries rule first second := by
  -- Each rule of the four conventions reads a plain key, or it stores a content field.
  simp only [llmConvention, genAiLegacyConvention, dbConvention, mcpConvention, onStr, onU64, onF64,
    List.forall_mem_append, List.forall_mem_cons]
  and_intros
  all_goals first
    | exact carries_plain (varies.getStr rfl) (fun _ _ _ => rfl) (fun _ _ => ⟨rfl, rfl⟩)
    | exact carries_plain (varies.getU64 rfl) (fun _ _ _ => rfl) (fun _ _ => ⟨rfl, rfl⟩)
    | exact carries_plain (varies.getF64 rfl) (fun _ _ _ => rfl) (fun _ _ => ⟨rfl, rfl⟩)
    | exact carries_plain (legacyTokens_eq varies rfl) (fun _ _ _ => rfl) (fun _ _ => ⟨rfl, rfl⟩)
    | exact fun _ member => nomatch member
    | exact carries_content (fun _ _ => ⟨⟨_, _, _, _, _⟩, rfl⟩) (fun _ _ => ⟨rfl, rfl⟩)

/-- Every step of the conventions keeps spans the same but for their content. -/
theorem defaultConventions_carry (serde : SerdeJson) :
    ∀ convention ∈ defaultConventions serde, ∀ rule ∈ convention, Carries rule first second := by
  -- The conventions are put together again in the order of the mapper.
  have plain := plainConventions_carry varies serde
  have content := contentConventions_carry varies
  simp only [List.forall_mem_append] at plain content
  obtain ⟨⟨⟨⟨⟨⟨⟨⟨⟨⟨⟨⟨⟨openInference, guardrails⟩, agent⟩, task⟩, memory⟩, evaluation⟩, vertex⟩, current⟩,
    nat⟩, aiq⟩, tool⟩, prompt⟩, resource⟩, sampling⟩ := plain
  obtain ⟨⟨⟨llm, legacy⟩, db⟩, mcp⟩ := content
  simp only [defaultConventions, List.forall_mem_cons]
  exact ⟨openInference, guardrails, agent, task, memory, evaluation, vertex, llm, current, legacy, nat,
    aiq, db, mcp, tool, prompt, resource, sampling, fun _ member => nomatch member⟩

/-- The type of a span does not depend on content. -/
theorem detectType_eq (toUppercase : String → String) (durationNs : Int64)
    (spanName serviceName : String) :
    SpanTypeMapper.detectType first.toSource toUppercase durationNs spanName serviceName =
      SpanTypeMapper.detectType second.toSource toUppercase durationNs spanName serviceName := by
  have keys : first.toSource.hasKey = second.toSource.hasKey := by
    funext key
    exact varies.contains
  have leads : first.toSource.hasKeyPrefix = second.toSource.hasKeyPrefix := by
    funext lead
    exact varies.any fun key some => some && startsWith key lead
  have texts : ∀ key, isContentKey key = false →
      first.toSource.lookupStr key = second.toSource.lookupStr key :=
    fun key plain => varies.getStr plain
  -- The rest of the detection goes by these look-ups only.
  have guardrails : SpanTypeMapper.isGuardrails first.toSource =
      SpanTypeMapper.isGuardrails second.toSource := by
    funext spanName serviceName
    simp only [SpanTypeMapper.isGuardrails, keys, leads, texts "gen_ai.operation.name" rfl]
  have model : SpanTypeMapper.hasModelInfo first.toSource =
      SpanTypeMapper.hasModelInfo second.toSource := by
    rw [SpanTypeMapper.hasModelInfo, SpanTypeMapper.hasModelInfo, keys]
  have vercel : SpanTypeMapper.vercelType first.toSource =
      SpanTypeMapper.vercelType second.toSource := by
    funext operation
    rw [SpanTypeMapper.vercelType, SpanTypeMapper.vercelType, model]
  have heuristic : SpanTypeMapper.heuristicType first.toSource =
      SpanTypeMapper.heuristicType second.toSource := by
    funext durationNs
    rw [SpanTypeMapper.heuristicType, SpanTypeMapper.heuristicType, model,
      SpanTypeMapper.hasEvaluationInfo, SpanTypeMapper.hasToolInfo, SpanTypeMapper.hasDbInfo,
      SpanTypeMapper.hasAgentInfo, keys, leads]
    rfl
  simp only [SpanTypeMapper.detectType, texts "zradar.span.type" rfl,
    texts "openinference.span.kind" rfl, texts "gen_ai.operation.name" rfl,
    texts "operation.name" rfl, texts "ai.operationId" rfl, guardrails, vercel, heuristic]

end

section

variable {first second : AttrView}

/-- A convention keeps spans the same but for their content. -/
theorem apply_carries {convention : AttributeConvention}
    (each : ∀ rule ∈ convention, Carries rule first second) (span : Span) (content : Content) :
    ∃ after, convention.apply second (withContent span content) =
      withContent (convention.apply first span) after := by
  -- Rules are applied one after another, and each of them carries the content on.
  unfold AttributeConvention.apply
  induction convention generalizing span content with
  | nil => exact ⟨content, rfl⟩
  | cons rule rules ih =>
    obtain ⟨head, rest⟩ := List.forall_mem_cons.mp each
    obtain ⟨middle, same⟩ := head.carries span content
    rw [List.foldl_cons, List.foldl_cons, same]
    exact ih rest (rule first span) middle

theorem apply_keeps {convention : AttributeConvention}
    (each : ∀ rule ∈ convention, Carries rule first second) (view : AttrView) (span : Span) :
    Keeps (convention.apply view span) span := by
  -- No rule of the convention touches the two fields.
  unfold AttributeConvention.apply
  induction convention generalizing span with
  | nil => exact ⟨rfl, rfl⟩
  | cons rule rules ih =>
    obtain ⟨head, rest⟩ := List.forall_mem_cons.mp each
    exact (ih rest (rule view span)).trans (head.keeps view span)

variable {conventions : List AttributeConvention}
  (each : ∀ convention ∈ conventions, ∀ rule ∈ convention, Carries rule first second)
include each

/-- The conventions keep spans the same but for their content. -/
theorem applyConventions_carries (span : Span) (content : Content) :
    ∃ after, applyConventions conventions second (withContent span content) =
      withContent (applyConventions conventions first span) after := by
  -- Conventions are applied one after another, as the rules within them are.
  unfold applyConventions
  induction conventions generalizing span content with
  | nil => exact ⟨content, rfl⟩
  | cons convention conventions ih =>
    obtain ⟨head, rest⟩ := List.forall_mem_cons.mp each
    obtain ⟨middle, same⟩ := apply_carries head span content
    rw [List.foldl_cons, List.foldl_cons, same]
    exact ih rest (convention.apply first span) middle

/-- The conventions touch neither the events nor the workspace. -/
theorem applyConventions_keeps (view : AttrView) (span : Span) :
    Keeps (applyConventions conventions view span) span := by
  -- No convention touches the two fields.
  unfold applyConventions
  induction conventions generalizing span with
  | nil => exact ⟨rfl, rfl⟩
  | cons convention conventions ih =>
    obtain ⟨head, rest⟩ := List.forall_mem_cons.mp each
    exact (ih rest (convention.apply view span)).trans (apply_keeps head view span)

end

end Zradar.Otlp
