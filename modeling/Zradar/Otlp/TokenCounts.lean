import Mathlib.Data.List.Forall2
import Zradar.Models.Span
import Zradar.Otlp.Conventions

/-! Token counts of a span: which attribute decides each of them, and what is left of it. -/

namespace Zradar.Otlp

/-- The fields of a span that hold counts of tokens, or the time to the first of them. -/
inductive TokenField where
  | promptTokens
  | completionTokens
  | totalTokens
  | timeToFirstTokenMs
  deriving DecidableEq

/-- What a span has in these fields. -/
def tokenCounts (span : Span) : TokenField → Int32
  | .promptTokens => span.promptTokens
  | .completionTokens => span.completionTokens
  | .totalTokens => span.totalTokens
  | .timeToFirstTokenMs => span.timeToFirstTokenMs

/-- The keys of a field, the one that counts most first. -/
def TokenField.keys : TokenField → List String
  | .promptTokens =>
    ["gen_ai.usage.input_tokens", "gen_ai.usage.prompt_tokens", "llm.usage.prompt_tokens"]
  | .completionTokens =>
    ["gen_ai.usage.output_tokens", "gen_ai.usage.completion_tokens", "llm.usage.completion_tokens"]
  | .totalTokens => ["llm.usage.total_tokens"]
  | .timeToFirstTokenMs => ["ttft_ms", "time_to_first_token_ms"]

/-- The token attributes are counts. -/
def CountsGiven (view : AttrView) : Prop :=
  ∀ (field : TokenField), ∀ key ∈ field.keys, ∀ pair ∈ view.attributes, pair.key = key →
    ∃ count : Int64, 0 ≤ count ∧ pair.value = some (.mk (some (.intValue count)))

/-- The key that decides a field: the first one that is there. -/
def TokenField.decider (field : TokenField) (view : AttrView) : Option String :=
  field.keys.find? view.contains

/-- The count that decides a field. -/
def TokenField.count (field : TokenField) (view : AttrView) : Option UInt64 :=
  (field.decider view).bind view.getU64

/-- A count that stops at the greatest number of 32 bits, and zero for none. -/
def saturated (count : Option UInt64) : Int :=
  min (2 ^ 31 - 1) ((count.map fun value => (value.toNat : Int)).getD 0)

/-- Every field has the count under the first of its keys that is there. -/
def CountsSaturated (view : AttrView) (span : Span) : Prop :=
  ∀ field, (tokenCounts span field).toInt = saturated (field.count view)

/-- The keys whose counts are cut off at 32 bits. -/
def cutOffKeys : List String :=
  ["llm.usage.prompt_tokens", "llm.usage.completion_tokens", "llm.usage.total_tokens", "ttft_ms",
    "time_to_first_token_ms"]

/-- What is left of a count that is cut off is what it would stop at. -/
def Survives (count : UInt64) : Prop :=
  count.toNat < 2 ^ 31 ∨ count.toNat % 2 ^ 32 = 2 ^ 31 - 1

/-- Every count that is cut off survives, if it decides its field. -/
def CountsSurvive (view : AttrView) : Prop :=
  ∀ (field : TokenField), ∀ key ∈ field.decider view, key ∈ cutOffKeys →
    ∀ count ∈ view.getU64 key, Survives count

section

/-- What a step of a convention does to the counts. -/
abbrev CountStep := AttrView → (TokenField → Int32) → TokenField → Int32

/-- A rule does to the counts what a step says. -/
def Acts (rule : Rule) (step : CountStep) : Prop :=
  ∀ view span, tokenCounts (rule view span) = step view (tokenCounts span)

variable {β : Type} {get : AttrView → Option β} {store : Span → β → Span}

/-- Nothing is done to the counts. -/
def keepCounts : CountStep := fun _ counts => counts

/-- What a view has is stored in a field. -/
def storeCount (field : TokenField) (get : AttrView → Option β) (convert : β → Int32) : CountStep :=
  fun view counts other =>
    if other = field then ((get view).map convert).getD (counts other) else counts other

/-- A rule for other fields keeps the counts. -/
theorem acts_keep (keeps : ∀ span value, tokenCounts (store span value) = tokenCounts span) :
    Acts (storing get store) keepCounts := by
  intro view span
  unfold storing
  cases get view with
  | none => rfl
  | some value => exact keeps span value

theorem acts_store {field : TokenField} {convert : β → Int32}
    (stores : ∀ span value other, tokenCounts (store span value) other =
      if other = field then convert value else tokenCounts span other) :
    Acts (storing get store) (storeCount field get convert) := by
  intro view span
  funext other
  unfold storing storeCount
  cases get view with
  | none => simp
  | some value => exact stores span value other

end

/-- A convention does what its rules do, one after the other. -/
theorem tokenCounts_apply {convention : AttributeConvention} {steps : List CountStep}
    (acts : List.Forall₂ Acts convention steps) (view : AttrView) (span : Span) :
    tokenCounts (convention.apply view span) =
      steps.foldl (fun counts step => step view counts) (tokenCounts span) := by
  unfold AttributeConvention.apply
  induction acts generalizing span with
  | nil => rfl
  | cons head tail ih =>
    rw [List.foldl_cons, List.foldl_cons, ih, head]

/-- A convention without token attributes keeps the counts. -/
theorem tokenCounts_apply_keep {convention : AttributeConvention}
    (keeps : ∀ rule ∈ convention, Acts rule keepCounts) (view : AttrView) (span : Span) :
    tokenCounts (convention.apply view span) = tokenCounts span := by
  unfold AttributeConvention.apply
  induction convention generalizing span with
  | nil => rfl
  | cons rule rules ih =>
    obtain ⟨head, rest⟩ := List.forall_mem_cons.mp keeps
    rw [List.foldl_cons, ih rest, head]
    rfl

/-- What the `llm.*` attributes do to the counts. -/
def llmSteps : List CountStep :=
  [keepCounts, keepCounts, keepCounts,
    storeCount .promptTokens (fun view => view.getU64 "llm.usage.prompt_tokens") wrapToI32,
    storeCount .completionTokens (fun view => view.getU64 "llm.usage.completion_tokens") wrapToI32,
    storeCount .totalTokens (fun view => view.getU64 "llm.usage.total_tokens") wrapToI32,
    keepCounts, keepCounts, keepCounts]

/-- What the GenAI attributes of version 1.29 do to the counts. -/
def genAiV129Steps : List CountStep :=
  [storeCount .promptTokens (fun view => view.getU64 "gen_ai.usage.input_tokens") saturateToI32,
    storeCount .completionTokens (fun view => view.getU64 "gen_ai.usage.output_tokens")
      saturateToI32,
    keepCounts, keepCounts, keepCounts]

/-- What the older GenAI attributes do to the counts. -/
def genAiLegacySteps : List CountStep :=
  [keepCounts, keepCounts, keepCounts,
    storeCount .promptTokens
      (legacyTokens "gen_ai.usage.input_tokens" "gen_ai.usage.prompt_tokens") saturateToI32,
    storeCount .completionTokens
      (legacyTokens "gen_ai.usage.output_tokens" "gen_ai.usage.completion_tokens") saturateToI32]

/-- What the attributes of timing do to the counts. -/
def resourceSteps : List CountStep :=
  [keepCounts, keepCounts, keepCounts,
    storeCount .timeToFirstTokenMs (fun view => view.getU64 "time_to_first_token_ms") wrapToI32,
    storeCount .timeToFirstTokenMs (fun view => view.getU64 "ttft_ms") wrapToI32,
    keepCounts, keepCounts, keepCounts]

theorem llmConvention_acts : List.Forall₂ Acts llmConvention llmSteps := by
  refine .cons (acts_keep fun _ _ => rfl) <| .cons (acts_keep fun _ _ => rfl) <|
    .cons (acts_keep fun _ _ => rfl) <| .cons (acts_store ?_) <| .cons (acts_store ?_) <|
    .cons (acts_store ?_) <| .cons (acts_keep fun _ _ => rfl) <|
    .cons (acts_keep fun _ _ => rfl) <| .cons (acts_keep fun _ _ => rfl) .nil
  all_goals
    intro span value other
    cases other <;> rfl

theorem genAiV129Convention_acts : List.Forall₂ Acts genAiV129Convention genAiV129Steps := by
  refine .cons (acts_store ?_) <| .cons (acts_store ?_) <| .cons (acts_keep fun _ _ => rfl) <|
    .cons (acts_keep fun _ _ => rfl) <| .cons (acts_keep fun _ _ => rfl) .nil
  all_goals
    intro span value other
    cases other <;> rfl

theorem genAiLegacyConvention_acts : List.Forall₂ Acts genAiLegacyConvention genAiLegacySteps := by
  refine .cons (acts_keep fun _ _ => rfl) <| .cons (acts_keep fun _ _ => rfl) <|
    .cons (acts_keep fun _ _ => rfl) <| .cons (acts_store ?_) <| .cons (acts_store ?_) .nil
  all_goals
    intro span value other
    cases other <;> rfl

theorem resourceConvention_acts : List.Forall₂ Acts resourceConvention resourceSteps := by
  refine .cons (acts_keep fun _ _ => rfl) <| .cons (acts_keep fun _ _ => rfl) <|
    .cons (acts_keep fun _ _ => rfl) <| .cons (acts_store ?_) <| .cons (acts_store ?_) <|
    .cons (acts_keep fun _ _ => rfl) <| .cons (acts_keep fun _ _ => rfl) <|
    .cons (acts_keep fun _ _ => rfl) .nil
  all_goals
    intro span value other
    cases other <;> rfl

/-- The conventions that have no token attributes. -/
def otherConventions (serde : SerdeJson) : List AttributeConvention :=
  [openInferenceConvention, guardrailsConvention, agentConvention, genAiTaskConvention,
    genAiMemoryConvention, genAiEvaluationConvention, vertexConvention, natConvention,
    aiqConvention, dbConvention, mcpConvention, toolConvention, promptConvention,
    samplingParamsConvention serde]

theorem otherConventions_keep (serde : SerdeJson) :
    ∀ convention ∈ otherConventions serde, ∀ rule ∈ convention, Acts rule keepCounts := by
  have session (span : Span) (value : String) :
      tokenCounts (fillSessionId span value) = tokenCounts span := by
    unfold fillSessionId
    split <;> rfl
  have agent (span : Span) (value : String) :
      tokenCounts (fillAgentName span value) = tokenCounts span := by
    unfold fillAgentName
    split <;> rfl
  simp only [otherConventions, openInferenceConvention, guardrailsConvention, agentConvention,
    genAiTaskConvention, genAiMemoryConvention, genAiEvaluationConvention, vertexConvention,
    natConvention, aiqConvention, dbConvention, mcpConvention, toolConvention, promptConvention,
    samplingParamsConvention, onStr, onFirstStr, onBool, onI64, onU64, List.forall_mem_cons,
    List.not_mem_nil, false_implies, implies_true, and_true, true_and]
  and_intros
  -- Every field that is set is another one.
  all_goals first
    | exact acts_keep fun _ _ => rfl
    | exact acts_keep session
    | exact acts_keep agent
    | skip
  apply acts_keep
  intro span params
  split <;> rfl

section

variable (serde : SerdeJson) (view : AttrView) (span : Span)

/-- What all conventions do to the counts. -/
theorem tokenCounts_applyConventions :
    tokenCounts (applyConventions (defaultConventions serde) view span) =
      (llmSteps ++ genAiV129Steps ++ genAiLegacySteps ++ resourceSteps).foldl
        (fun counts step => step view counts) (tokenCounts span) := by
  -- Fourteen conventions keep the counts, so that the other four are all that is left.
  have keeps := otherConventions_keep serde
  simp only [otherConventions, List.forall_mem_cons] at keeps
  obtain ⟨openInference, guardrails, agent, task, memory, evaluation, vertex, nat, aiq, db, mcp, tool,
    prompt, sampling, _⟩ := keeps
  unfold applyConventions defaultConventions
  simp only [List.foldl_cons, List.foldl_nil, List.foldl_append]
  rw [tokenCounts_apply_keep sampling, tokenCounts_apply resourceConvention_acts,
    tokenCounts_apply_keep prompt, tokenCounts_apply_keep tool, tokenCounts_apply_keep mcp,
    tokenCounts_apply_keep db, tokenCounts_apply_keep aiq, tokenCounts_apply_keep nat,
    tokenCounts_apply genAiLegacyConvention_acts, tokenCounts_apply genAiV129Convention_acts,
    tokenCounts_apply llmConvention_acts, tokenCounts_apply_keep vertex,
    tokenCounts_apply_keep evaluation, tokenCounts_apply_keep memory, tokenCounts_apply_keep task,
    tokenCounts_apply_keep agent, tokenCounts_apply_keep guardrails,
    tokenCounts_apply_keep openInference]

end

section

variable {view : AttrView}

/-- A key of a count is there exactly if it has a count. -/
theorem contains_eq (given : CountsGiven view) {field : TokenField} {key : String}
    (listed : key ∈ field.keys) : view.contains key = (view.getU64 key).isSome := by
  unfold AttrView.contains AttrView.getU64 AttrView.getI64 AttrView.get
  cases found : view.attributes.reverse.find? fun pair => pair.key = key with
  | none =>
    have absent : view.attributes.any (fun pair => pair.key = key) = false := by
      rw [List.any_eq_false]
      intro pair member
      exact List.find?_eq_none.mp found pair (List.mem_reverse.mpr member)
    rw [absent]
    rfl
  | some pair =>
    -- The last attribute with the key is a count, as all of them are.
    have member := List.mem_reverse.mp (List.mem_of_find?_eq_some found)
    have named : pair.key = key := by simpa using List.find?_some found
    obtain ⟨count, nonneg, counted⟩ := given field key listed pair member named
    have present : view.attributes.any (fun pair => pair.key = key) = true :=
      List.any_eq_true.mpr ⟨pair, member, by simpa using named⟩
    have notNegative : ¬ count < 0 := Int64.not_lt.mpr nonneg
    rw [present]
    simp [counted, AnyValue.value, notNegative]

/-- The narrowing of the counts under a key. -/
def narrow (key : String) : UInt64 → Int32 := if key ∈ cutOffKeys then wrapToI32 else saturateToI32

/-- The field that a new key, an old key and a key of another convention decide in this order. -/
theorem legacy_cascade {newKey oldKey llmKey : String}
    (isNew : view.contains newKey = (view.getU64 newKey).isSome)
    (isOld : view.contains oldKey = (view.getU64 oldKey).isSome)
    (isLlm : view.contains llmKey = (view.getU64 llmKey).isSome)
    (saturates : newKey ∉ cutOffKeys ∧ oldKey ∉ cutOffKeys) (wraps : llmKey ∈ cutOffKeys) :
    ((legacyTokens newKey oldKey view).map saturateToI32).getD
        (((view.getU64 newKey).map saturateToI32).getD
          (((view.getU64 llmKey).map wrapToI32).getD 0)) =
      (([newKey, oldKey, llmKey].find? view.contains).bind fun key =>
        (view.getU64 key).map (narrow key)).getD 0 := by
  -- Each of the keys is there or not, and the first one that is there decides.
  have newNarrow : narrow newKey = saturateToI32 := if_neg saturates.1
  have oldNarrow : narrow oldKey = saturateToI32 := if_neg saturates.2
  have llmNarrow : narrow llmKey = wrapToI32 := if_pos wraps
  simp only [legacyTokens, List.find?_cons, List.find?_nil, isNew, isOld, isLlm]
  cases new : view.getU64 newKey with
  | some count => simp [new, newNarrow]
  | none =>
    cases old : view.getU64 oldKey with
    | some count => simp [old, oldNarrow]
    | none =>
      cases llm : view.getU64 llmKey with
      | some count => simp [llm, llmNarrow]
      | none => simp

/-- A field has the count of its decider, narrowed in the way of the key. -/
theorem tokenCounts_eq (serde : SerdeJson) (given : CountsGiven view) {span : Span}
    (fresh : ∀ field, tokenCounts span field = 0) (field : TokenField) :
    tokenCounts (applyConventions (defaultConventions serde) view span) field =
      ((field.decider view).bind fun key => (view.getU64 key).map (narrow key)).getD 0 := by
  -- Each field only sees the steps that store to it, with keys in the order of the steps.
  have present {key : String} (listed : key ∈ field.keys) := contains_eq given listed
  rw [tokenCounts_applyConventions]
  simp only [llmSteps, genAiV129Steps, genAiLegacySteps, resourceSteps, List.cons_append,
    List.nil_append, List.foldl_cons, List.foldl_nil, keepCounts, storeCount, fresh]
  cases field with
  | promptTokens =>
    simp only [reduceCtorEq, if_false, if_true]
    exact legacy_cascade (present (by decide)) (present (by decide)) (present (by decide))
      (by decide) (by decide)
  | completionTokens =>
    simp only [reduceCtorEq, if_false, if_true]
    exact legacy_cascade (present (by decide)) (present (by decide)) (present (by decide))
      (by decide) (by decide)
  | totalTokens =>
    have isTotal : view.contains "llm.usage.total_tokens" = _ := present (by decide)
    have wraps : narrow "llm.usage.total_tokens" = wrapToI32 := if_pos (by decide)
    simp only [reduceCtorEq, if_false, if_true, TokenField.decider, TokenField.keys,
      List.find?_cons, List.find?_nil, isTotal]
    cases total : view.getU64 "llm.usage.total_tokens" with
    | none => rfl
    | some count => simp [total, wraps]
  | timeToFirstTokenMs =>
    have isFirst : view.contains "ttft_ms" = _ := present (by decide)
    have isAlias : view.contains "time_to_first_token_ms" = _ := present (by decide)
    have wraps : narrow "ttft_ms" = wrapToI32 := if_pos (by decide)
    have wrapsAlias : narrow "time_to_first_token_ms" = wrapToI32 := if_pos (by decide)
    simp only [reduceCtorEq, if_false, if_true, TokenField.decider, TokenField.keys,
      List.find?_cons, List.find?_nil, isFirst, isAlias]
    cases first : view.getU64 "ttft_ms" with
    | some count => simp [first, wraps]
    | none =>
      cases other : view.getU64 "time_to_first_token_ms" with
      | none => rfl
      | some count => simp [other, wrapsAlias]

/-- The lower 32 bits of a count, read with a sign. -/
theorem wrapToI32_toInt (count : UInt64) :
    (wrapToI32 count).toInt = (count.toNat : Int).bmod (2 ^ 32) := by
  have same : wrapToI32 count = Int32.ofNat count.toNat := by
    rw [wrapToI32, ← UInt32.toInt32_ofNat', ← UInt64.toUInt32_ofNat', UInt64.ofNat_toNat]
  rw [same, Int32.toInt_ofNat']
  rfl

theorem saturateToI32_toInt (count : UInt64) :
    (saturateToI32 count).toInt = min (2 ^ 31 - 1) (count.toNat : Int) := by
  have least : (min count 2147483647).toNat = min count.toNat (2 ^ 31 - 1) := by
    change (if count ≤ 2147483647 then count else 2147483647).toNat = _
    rw [apply_ite UInt64.toNat, min_def]
    rfl
  rw [saturateToI32, wrapToI32_toInt, least, Int.bmod_def]
  omega

/-- A count that is cut off is what it would stop at exactly if it survives. -/
theorem wrapToI32_eq_iff (count : UInt64) :
    (wrapToI32 count).toInt = min (2 ^ 31 - 1) (count.toNat : Int) ↔ Survives count := by
  rw [wrapToI32_toInt, Int.bmod_def, Survives]
  omega

end

section

/-- Token counts are those of the first of their keys, and stop at the greatest number of 32 bits,
exactly if each one that is cut off survives. -/
theorem token_counts_saturated_iff (serde : SerdeJson) {view : AttrView} (given : CountsGiven view)
    {span : Span} (fresh : ∀ field, tokenCounts span field = 0) :
    CountsSaturated view (applyConventions (defaultConventions serde) view span) ↔
      CountsSurvive view := by
  -- The keys that are cut off wrap around, and all others saturate as they should.
  apply forall_congr'
  intro field
  rw [tokenCounts_eq serde given fresh, TokenField.count]
  cases decided : field.decider view with
  | none => simp [saturated]
  | some key =>
    simp only [Option.bind_some, Option.mem_def, Option.some.injEq, forall_eq']
    cases counted : view.getU64 key with
    | none => simp [saturated]
    | some count =>
      simp only [Option.map_some, Option.getD_some, Option.some.injEq, forall_eq', saturated]
      by_cases cutOff : key ∈ cutOffKeys
      · rw [narrow, if_pos cutOff, wrapToI32_eq_iff]
        exact ⟨fun survives _ => survives, fun survives => survives cutOff⟩
      · rw [narrow, if_neg cutOff, saturateToI32_toInt]
        exact iff_of_true rfl fun listed => absurd listed cutOff

/-- A span with one count. -/
def countedView (key : String) (count : Int64) : AttrView :=
  ⟨[⟨key, some (.mk (some (.intValue count)))⟩]⟩

/-- A view with one count has a count under every key. -/
theorem countsGiven_countedView (key : String) {count : Int64} (nonneg : 0 ≤ count) :
    CountsGiven (countedView key count) := by
  intro field listed _ pair member _
  rw [List.mem_singleton.mp member]
  exact ⟨count, nonneg, rfl⟩

theorem ten_tokens_saturated :
    CountsSaturated (countedView "llm.usage.prompt_tokens" 10)
        (applyConventions (defaultConventions plainSerde)
          (countedView "llm.usage.prompt_tokens" 10) (Span.default 0)) ↔
      CountsSurvive (countedView "llm.usage.prompt_tokens" 10) := by
  apply token_counts_saturated_iff plainSerde (countsGiven_countedView _ (by decide))
  intro field
  cases field <;> rfl

/-- A count of 2 ^ 31 tokens becomes a negative one. -/
theorem great_count_wraps :
    CountsGiven (countedView "llm.usage.prompt_tokens" 2147483648) ∧
      ¬ CountsSaturated (countedView "llm.usage.prompt_tokens" 2147483648)
        (applyConventions (defaultConventions plainSerde)
          (countedView "llm.usage.prompt_tokens" 2147483648) (Span.default 0)) := by
  have given : CountsGiven (countedView "llm.usage.prompt_tokens" 2147483648) :=
    countsGiven_countedView _ (by decide)
  refine ⟨given, fun saturates => ?_⟩
  have cutOff := saturates .promptTokens
  rw [tokenCounts_eq plainSerde given (fun field => by cases field <;> rfl)] at cutOff
  revert cutOff
  decide

end

end Zradar.Otlp
