import Zradar.Query.Paging
import Zradar.Query.Service

/-! Which of the filters of a span query reach the rows that are returned and counted. -/

namespace Zradar.Query

/-- A text is the one that is asked for, if one is. -/
def Asks (given : Option String) (text : String) : Prop := ∀ wanted ∈ given, text = wanted

/-- A span meets every filter that is set. -/
structure Satisfies (like : String → String → Bool) (filters : SpanQueryFilters) (span : Span) :
    Prop where
  traceId : Asks filters.traceId span.traceId
  startTime : ∀ start ∈ filters.startTime, start ≤ span.timestamp.toInt
  endTime : ∀ ending ∈ filters.endTime, span.timestamp.toInt ≤ ending
  serviceName : Asks filters.serviceName span.serviceName
  operationName : ∀ text ∈ filters.operationName, like span.spanName ("%" ++ text ++ "%") = true
  spanType : Asks filters.spanType span.spanType
  spanTypes : ∀ text ∈ filters.spanTypes, span.spanType ∈ commaSeparated text
  status : Asks filters.status span.statusCode
  llmModel : Asks filters.llmModel span.llmModel
  llmProvider : Asks filters.llmProvider span.llmProvider
  llmResponseModel : Asks filters.llmResponseModel span.llmResponseModel
  agentName : Asks filters.agentName span.agentName
  sessionId : Asks filters.sessionId span.sessionId
  railType : Asks filters.railType span.railType
  actionName : Asks filters.actionName span.actionName
  workflowRunId : Asks filters.workflowRunId span.workflowRunId
  framework : Asks filters.framework span.framework
  toolName : Asks filters.toolName span.toolName
  invocationId : Asks filters.invocationId span.invocationId
  environment : Asks filters.environment span.environment
  minDurationMs : ∀ least ∈ filters.minDurationMs, least ≤ span.durationNs / 1000000
  maxDurationMs : ∀ most ∈ filters.maxDurationMs, span.durationNs / 1000000 ≤ most
  dbSystemName : Asks filters.dbSystemName span.dbSystemName
  dbOperationName : Asks filters.dbOperationName span.dbOperationName

/-- A span of the workspace, in the range that is searched, that meets every filter that is set. -/
structure Wanted (like : String → String → Bool) (workspaceId : Uuid)
    (searched : Option TimeRange) (filters : SpanQueryFilters) (span : Span) : Prop where
  workspace : span.workspaceId = workspaceId.toText
  searched : ∀ range ∈ searched, range.start ≤ span.timestamp ∧ span.timestamp ≤ range.ending
  satisfies : Satisfies like filters span

/-- A span meets the filters that no WHERE clause has, and those that one can lose. -/
structure KeepsUnread (filters : SpanQueryFilters) (span : Span) : Prop where
  minDurationMs : ∀ least ∈ filters.minDurationMs, least ≤ span.durationNs / 1000000
  maxDurationMs : ∀ most ∈ filters.maxDurationMs, span.durationNs / 1000000 ≤ most
  dbSystemName : Asks filters.dbSystemName span.dbSystemName
  dbOperationName : Asks filters.dbOperationName span.dbOperationName
  /-- A single type is not read beside a list of them. -/
  spanType : filters.spanTypes.isSome → Asks filters.spanType span.spanType
  /-- A start that is too late for 64 bits is dropped. -/
  startTime : ∀ start ∈ filters.startTime, start < 2 ^ 63
  /-- An end that is too early for 64 bits is dropped. -/
  endTime : ∀ ending ∈ filters.endTime, -2 ^ 63 ≤ ending

section

variable (like : String → String → Bool) (span : Span)

/-- A given text is a condition on its column, and no text is none. -/
theorem all_equalsGiven {name value : String} (named : column name span = some value)
    (text : Option String) :
    (equalsGiven name text).all (Condition.holds like span) = true ↔ Asks text value := by
  cases text with
  | none => simp [equalsGiven, Asks]
  | some text => simp [equalsGiven, Asks, Condition.holds, named]

/-- A given pattern is a condition on the name. -/
theorem all_likeGiven (text : Option String) :
    (likeGiven "span_name" text).all (Condition.holds like span) = true ↔
      ∀ wanted ∈ text, like span.spanName ("%" ++ wanted ++ "%") = true := by
  have named : column "span_name" span = some span.spanName := rfl
  cases text with
  | none => simp [likeGiven]
  | some text => simp [likeGiven, Condition.holds, named]

/-- A given range is a condition on the timestamp. -/
theorem all_withinGiven (timeRange : Option TimeRange) :
    (withinGiven timeRange).all (Condition.holds like span) = true ↔
      ∀ range ∈ timeRange, range.start ≤ span.timestamp ∧ span.timestamp ≤ range.ending := by
  have time : Row.timestamp span = span.timestamp := rfl
  cases timeRange with
  | none => simp [withinGiven]
  | some range => simp [withinGiven, Condition.holds, time]

/-- Types that are given are a condition on the type, unless there is none of them. -/
theorem all_typesGiven (types : Option (List String)) :
    (typesGiven types).all (Condition.holds like span) = true ↔
      ∀ listed ∈ types, listed ≠ [] → span.spanType ∈ listed := by
  -- An empty list of types is no condition.
  have typed : column "span_type" span = some span.spanType := rfl
  cases types with
  | none => simp [typesGiven]
  | some listed =>
    cases listed with
    | nil => simp [typesGiven]
    | cons first rest => simp [typesGiven, Condition.holds, typed]

/-- What the WHERE clause of a span query says about a span. -/
structure StorageSpanFilters.Admits (filters : StorageSpanFilters) (workspaceId : Uuid) : Prop where
  workspaceId : span.workspaceId = workspaceId.toText
  traceId : Asks filters.traceId span.traceId
  serviceName : Asks filters.serviceName span.serviceName
  spanName : ∀ text ∈ filters.spanName, like span.spanName ("%" ++ text ++ "%") = true
  spanTypes : ∀ listed ∈ filters.spanTypes, listed ≠ [] → span.spanType ∈ listed
  status : Asks filters.status span.statusCode
  timeRange : ∀ range ∈ filters.timeRange,
    range.start ≤ span.timestamp ∧ span.timestamp ≤ range.ending
  llmModel : Asks filters.llmModel span.llmModel
  llmProvider : Asks filters.llmProvider span.llmProvider
  llmResponseModel : Asks filters.llmResponseModel span.llmResponseModel
  agentName : Asks filters.agentName span.agentName
  sessionId : Asks filters.sessionId span.sessionId
  railType : Asks filters.railType span.railType
  actionName : Asks filters.actionName span.actionName
  workflowRunId : Asks filters.workflowRunId span.workflowRunId
  framework : Asks filters.framework span.framework
  toolName : Asks filters.toolName span.toolName
  invocationId : Asks filters.invocationId span.invocationId
  environment : Asks filters.environment span.environment

/-- The WHERE clause holds of a span exactly if the span is admitted. -/
theorem all_conditions_iff (filters : StorageSpanFilters) (workspaceId : Uuid) :
    (filters.conditions workspaceId).all (Condition.holds like span) = true ↔
      filters.Admits like span workspaceId := by
  have workspace : column "workspace_id" span = some span.workspaceId := rfl
  simp only [StorageSpanFilters.conditions, List.all_append, Bool.and_eq_true, all_likeGiven,
    all_withinGiven, all_typesGiven]
  -- Each column that is named is the field of the span that it is compared with.
  rw [all_equalsGiven like span (rfl : column "trace_id" span = some span.traceId),
    all_equalsGiven like span (rfl : column "service_name" span = some span.serviceName),
    all_equalsGiven like span (rfl : column "status_code" span = some span.statusCode),
    all_equalsGiven like span (rfl : column "llm_model" span = some span.llmModel),
    all_equalsGiven like span (rfl : column "llm_provider" span = some span.llmProvider),
    all_equalsGiven like span (rfl : column "llm_response_model" span = some span.llmResponseModel),
    all_equalsGiven like span (rfl : column "agent_name" span = some span.agentName),
    all_equalsGiven like span (rfl : column "session_id" span = some span.sessionId),
    all_equalsGiven like span (rfl : column "rail_type" span = some span.railType),
    all_equalsGiven like span (rfl : column "action_name" span = some span.actionName),
    all_equalsGiven like span (rfl : column "workflow_run_id" span = some span.workflowRunId),
    all_equalsGiven like span (rfl : column "framework" span = some span.framework),
    all_equalsGiven like span (rfl : column "tool_name" span = some span.toolName),
    all_equalsGiven like span (rfl : column "invocation_id" span = some span.invocationId),
    all_equalsGiven like span (rfl : column "environment" span = some span.environment)]
  constructor
  · rintro ⟨⟨⟨⟨⟨⟨⟨⟨⟨⟨⟨⟨⟨⟨⟨⟨⟨⟨own, trace⟩, service⟩, name⟩, types⟩, status⟩, time⟩, model⟩,
      provider⟩, response⟩, agent⟩, session⟩, rail⟩, action⟩, workflow⟩, framework⟩, tool⟩,
      invocation⟩, environment⟩
    refine ⟨?_, trace, service, name, types, status, time, model, provider, response, agent,
      session, rail, action, workflow, framework, tool, invocation, environment⟩
    simpa [Condition.holds, workspace] using own
  · intro admits
    refine ⟨⟨⟨⟨⟨⟨⟨⟨⟨⟨⟨⟨⟨⟨⟨⟨⟨⟨?_, admits.traceId⟩, admits.serviceName⟩, admits.spanName⟩,
      admits.spanTypes⟩, admits.status⟩, admits.timeRange⟩, admits.llmModel⟩, admits.llmProvider⟩,
      admits.llmResponseModel⟩, admits.agentName⟩, admits.sessionId⟩, admits.railType⟩,
      admits.actionName⟩, admits.workflowRunId⟩, admits.framework⟩, admits.toolName⟩,
      admits.invocationId⟩, admits.environment⟩
    simpa [Condition.holds, workspace] using admits.workspaceId

end

/-- A start that is not too late for 64 bits is no later than the one that is enforced. -/
theorem le_enforcedStart {enforcer : Option QueryEnforcer} {workspaceId : WorkspaceId}
    {bounds : QueryBounds} {now start : Int} {enforced : Int64}
    (passed : enforcedStart enforcer workspaceId bounds now = .ok enforced)
    (given : bounds.startTime = some start) (early : start < 2 ^ 63) :
    start ≤ enforced.toInt := by
  have lower := enforced.le_toInt
  by_cases fits : Fits start
  · obtain ⟨read, same⟩ := timestampNanosOpt_of_fits fits
    rw [enforcedStart, given, Option.bind_some, read] at passed
    cases enforcer with
    | none =>
      cases passed
      exact same.ge
    | some enforcer =>
      simp only [enforceStart, QueryEnforcer.enforce] at passed
      split at passed
      · rename_i before
        cases strategy : enforcer.strategy with
        | clamp =>
          -- The cutoff that takes its place is later.
          rw [strategy] at passed
          cases passed
          rw [Int64.lt_iff_toInt_lt, same] at before
          exact before.le
        | reject =>
          rw [strategy] at passed
          cases passed
      · cases passed
        exact same.ge
  · unfold Fits at fits
    omega

/-- A range that is searched keeps the bounds that are not lost. -/
theorem bounds_of_searched {enforcer : Option QueryEnforcer} {workspaceId : WorkspaceId}
    {bounds : QueryBounds} {now later : Int} {searched : Option TimeRange}
    (passed : spansTimeRange enforcer workspaceId bounds now later = .ok searched)
    {timestamp : Int64}
    (inside : ∀ range ∈ searched, range.start ≤ timestamp ∧ timestamp ≤ range.ending) :
    (∀ start ∈ bounds.startTime, start < 2 ^ 63 → start ≤ timestamp.toInt) ∧
      ∀ ending ∈ bounds.endTime, -2 ^ 63 ≤ ending → timestamp.toInt ≤ ending := by
  have upper := timestamp.toInt_lt
  unfold spansTimeRange rangeOfEither at passed
  cases first : enforcedStart enforcer workspaceId bounds now with
  | error message =>
    rw [first] at passed
    cases passed
  | ok enforced =>
    rw [first] at passed
    simp only [bind, Except.bind] at passed
    by_cases given : bounds.startTime.isSome ∨ bounds.endTime.isSome
    · rw [if_pos given] at passed
      cases passed
      obtain ⟨begun, ended⟩ := inside _ rfl
      rw [Int64.le_iff_toInt_le] at begun ended
      constructor
      · intro start asked early
        exact (le_enforcedStart first asked early).trans begun
      · intro ending asked late
        by_cases fits : Fits ending
        · -- An end that fits is the end of the range.
          obtain ⟨read, same⟩ := timestampNanosOpt_of_fits fits
          rw [Option.mem_def.mp asked, Option.bind_some, read, Option.getD_some, same] at ended
          exact ended
        · unfold Fits at fits
          omega
    · constructor
      · intro start asked
        exact absurd (.inl (by simp [Option.mem_def.mp asked])) given
      · intro ending asked
        exact absurd (.inr (by simp [Option.mem_def.mp asked])) given

/-- What the types of a query come to for a span. -/
theorem types_iff {filters : SpanQueryFilters} {types : Option (List String)}
    (parsed : filters.parseSpanTypes = .ok types) (spanType : String) :
    ((∀ text ∈ filters.spanTypes, spanType ∈ commaSeparated text) ∧
        Asks filters.spanType spanType) ↔
      (∀ listed ∈ types, listed ≠ [] → spanType ∈ listed) ∧
        (filters.spanTypes.isSome → Asks filters.spanType spanType) := by
  unfold SpanQueryFilters.parseSpanTypes at parsed
  -- The single type is read only when no list of types is given.
  cases several : filters.spanTypes with
  | some text =>
    have some : commaSeparated text ≠ [] := by simp [commaSeparated]
    simp only [several] at parsed
    split at parsed
    · cases parsed
    · cases parsed
      simp [some]
  | none =>
    simp only [several] at parsed
    cases single : filters.spanType with
    | some only =>
      simp only [single] at parsed
      split at parsed
      · cases parsed
      · cases parsed
        simp [Asks]
    | none =>
      simp only [single] at parsed
      cases parsed
      simp [Asks]

section

variable {service : QueryService} {like : String → String → Bool} {workspaceId : Uuid}
  {now later : Int} {filters : SpanQueryFilters} {storage : StorageSpanFilters}

/-- The storage filters of a query that is not refused. -/
theorem spanFilters_ok (passed : service.spanFilters workspaceId now later filters = .ok storage) :
    spansTimeRange service.enforcer workspaceId ⟨filters.startTime, filters.endTime⟩ now later =
        .ok storage.timeRange ∧
      filters.parseSpanTypes = .ok storage.spanTypes ∧ storage =
        { workspaceId := some workspaceId
          traceId := filters.traceId
          timeRange := storage.timeRange
          serviceName := filters.serviceName
          spanName := filters.operationName
          spanTypes := storage.spanTypes
          status := filters.status
          llmModel := filters.llmModel
          llmProvider := filters.llmProvider
          llmResponseModel := filters.llmResponseModel
          agentName := filters.agentName
          sessionId := filters.sessionId
          railType := filters.railType
          actionName := filters.actionName
          workflowRunId := filters.workflowRunId
          framework := filters.framework
          toolName := filters.toolName
          invocationId := filters.invocationId
          environment := filters.environment
          minDurationMs := filters.minDurationMs.map clampMs
          maxDurationMs := filters.maxDurationMs.map clampMs
          dbSystemName := filters.dbSystemName
          dbOperationName := filters.dbOperationName
          pagination := apiPagination filters.limit filters.offset } := by
  unfold QueryService.spanFilters at passed
  -- Each of the three checks has passed.
  cases policy : service.policy with
  | error reason => simp [policy, Except.mapError, bind, Except.bind] at passed
  | ok _ =>
    cases range : spansTimeRange service.enforcer workspaceId
        ⟨filters.startTime, filters.endTime⟩ now later with
    | error message => simp [policy, range, Except.mapError, bind, Except.bind] at passed
    | ok searched =>
      cases types : filters.parseSpanTypes with
      | error message => simp [policy, range, types, Except.mapError, bind, Except.bind] at passed
      | ok parsed =>
        simp only [policy, range, types, Except.mapError, bind, Except.bind] at passed
        cases passed
        exact ⟨rfl, rfl, rfl⟩

/-- The wanted spans are the admitted ones that meet the filters which are not read. -/
theorem wanted_iff (passed : service.spanFilters workspaceId now later filters = .ok storage)
    (span : Span) :
    Wanted like workspaceId storage.timeRange filters span ↔
      storage.Admits like span workspaceId ∧ KeepsUnread filters span := by
  -- What is not read of the filters is asked for in addition, and the range may be narrower.
  obtain ⟨range, parsed, built⟩ := spanFilters_ok passed
  have types := types_iff parsed span.spanType
  constructor
  · rintro ⟨own, inside, meets⟩
    obtain ⟨listed, single⟩ := types.mp ⟨meets.spanTypes, meets.spanType⟩
    have lower := span.timestamp.le_toInt
    have upper := span.timestamp.toInt_lt
    refine ⟨?_, meets.minDurationMs, meets.maxDurationMs, meets.dbSystemName,
      meets.dbOperationName, single, ?_, ?_⟩
    · rw [built]
      exact ⟨own, meets.traceId, meets.serviceName, meets.operationName, listed, meets.status,
        inside, meets.llmModel, meets.llmProvider, meets.llmResponseModel, meets.agentName,
        meets.sessionId, meets.railType, meets.actionName, meets.workflowRunId, meets.framework,
        meets.toolName, meets.invocationId, meets.environment⟩
    · intro start asked
      have := meets.startTime start asked
      omega
    · intro ending asked
      have := meets.endTime ending asked
      omega
  · rintro ⟨admits, kept⟩
    obtain ⟨starts, ends⟩ := bounds_of_searched range admits.timeRange
    obtain ⟨listed, single⟩ := types.mpr ⟨admits.spanTypes, kept.spanType⟩
    refine ⟨admits.workspaceId, admits.timeRange, ?_⟩
    rw [built] at admits
    exact
      { traceId := admits.traceId
        startTime := fun start asked => starts start asked (kept.startTime start asked)
        endTime := fun ending asked => ends ending asked (kept.endTime ending asked)
        serviceName := admits.serviceName
        operationName := admits.spanName
        spanType := single
        spanTypes := listed
        status := admits.status
        llmModel := admits.llmModel
        llmProvider := admits.llmProvider
        llmResponseModel := admits.llmResponseModel
        agentName := admits.agentName
        sessionId := admits.sessionId
        railType := admits.railType
        actionName := admits.actionName
        workflowRunId := admits.workflowRunId
        framework := admits.framework
        toolName := admits.toolName
        invocationId := admits.invocationId
        environment := admits.environment
        minDurationMs := kept.minDurationMs
        maxDurationMs := kept.maxDurationMs
        dbSystemName := kept.dbSystemName
        dbOperationName := kept.dbOperationName }

end

open Classical in
/-- How many of the spans are wanted. -/
noncomputable def wantedCount (like : String → String → Bool) (workspaceId : Uuid)
    (searched : Option TimeRange) (filters : SpanQueryFilters) (spans : List Span) : Nat :=
  (spans.filter fun span => decide (Wanted like workspaceId searched filters span)).length

/-- A response shows wanted spans only, and its total is the number of all of them. -/
structure AppliesFilters (parse : String → Option Json) (like : String → String → Bool)
    (workspaceId : Uuid) (searched : Option TimeRange) (filters : SpanQueryFilters)
    (spans : List Span) (response : ApiPage SpanDetail) : Prop where
  items : ∀ detail ∈ response.items, ∃ span ∈ spans,
    Wanted like workspaceId searched filters span ∧ detail = spanDetail parse span
  total : response.total = wantedCount like workspaceId searched filters spans

/-- A narrower filter leaves as many elements only if it leaves the same ones. -/
theorem length_filter_eq_iff {α : Type} {narrow wide : α → Bool} {list : List α}
    (narrower : ∀ item, narrow item = true → wide item = true) :
    (list.filter wide).length = (list.filter narrow).length ↔
      ∀ item ∈ list, wide item = true → narrow item = true := by
  -- The narrow filter may be applied after the wide one.
  have twice : list.filter narrow = (list.filter wide).filter narrow := by
    rw [List.filter_filter]
    refine List.filter_congr fun item _ => ?_
    cases held : narrow item with
    | false => simp
    | true => simp [narrower item held]
  rw [twice, eq_comm, List.length_filter_eq_length_iff]
  simp only [List.mem_filter, and_imp]

/-- A query without any filter. -/
def noFilters : SpanQueryFilters where
  workspaceId := ""
  traceId := none
  startTime := none
  endTime := none
  serviceName := none
  operationName := none
  spanType := none
  spanTypes := none
  status := none
  llmModel := none
  llmProvider := none
  llmResponseModel := none
  agentName := none
  sessionId := none
  railType := none
  actionName := none
  workflowRunId := none
  framework := none
  toolName := none
  invocationId := none
  environment := none
  minDurationMs := none
  maxDurationMs := none
  dbSystemName := none
  dbOperationName := none
  limit := none
  offset := none

/-- A service that refuses nothing. -/
def openService : QueryService where
  enforcer := none
  policy := .ok ()
  parse := fun _ => none

/-- A span of a database of some kind. -/
def databaseSpan (system : String) : Span :=
  { spanAt "a" 1 with dbSystemName := system }

end Zradar.Query
