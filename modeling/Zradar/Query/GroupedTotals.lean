import Zradar.Query.Analytics
import Zradar.Query.SpanFilters

/-! When grouped analytics have one entry for each group, with its exact counts and sums. -/

namespace Zradar.Query

/-- The spans of a workspace in a range of time. -/
def rangeSpans (spans : List Span) (workspaceId : Uuid) (range : Int64 × Int64) : List Span :=
  spans.filter fun span =>
    span.workspaceId = workspaceId.toText && range.1 ≤ span.timestamp && span.timestamp ≤ range.2

/-- The spans that have a name in some column. -/
def namedSpans (group : Span → String) (spans : List Span) : List Span :=
  spans.filter fun span => group span ≠ ""

/-- The spans that failed, of one service if one is asked for. -/
def failedSpans (serviceName : Option String) (spans : List Span) : List Span :=
  (errorSpans spans).filter fun span => serviceName.all fun wanted => span.serviceName = wanted

/-- The exact sum of the tokens of some spans. -/
def exactTokens (spans : List Span) : Int := (spans.map fun span => span.totalTokens.toInt).sum

/-- The service and the operation of a span. -/
def endpointOf (span : Span) : String × String := (span.serviceName, span.spanName)

/-- The spans that have both names of an endpoint. -/
def endpointSpans (spans : List Span) : List Span :=
  spans.filter fun span => span.serviceName ≠ "" && span.spanName ≠ ""

/-- The endpoint of an entry and its count. -/
def TopEndpoint.counted (entry : TopEndpoint) : (String × String) × Nat :=
  ((entry.serviceName, entry.operationName), entry.count.toInt.toNat)

/-- There is one entry for each group of the rows, and what it says of the group is exact. -/
structure GroupTotals {ε : Type} (group : Span → String) (rows : List Span) (name : ε → String)
    (exact : ε → List Span → Prop) (entries : List ε) : Prop where
  distinct : (entries.map name).Nodup
  groups : ∀ each, each ∈ entries.map name ↔ ∃ span ∈ rows, group span = each
  exact : ∀ entry ∈ entries, exact entry (groupRows group rows (name entry))

/-- An entry for a model has the number of its spans and the sum of their tokens. -/
def LlmAnalytics.Exact (entry : LlmAnalytics) (own : List Span) : Prop :=
  entry.requestCount.toInt = own.length ∧ entry.totalTokens = .whole (exactTokens own)

/-- An entry for an agent has the number of its spans, of those that failed, and their tokens. -/
def AgentAnalytics.Exact (entry : AgentAnalytics) (own : List Span) : Prop :=
  entry.spanCount.toInt = own.length ∧ entry.errorCount.toInt = (errorSpans own).length ∧
    entry.totalTokens = .whole (exactTokens own)

/-- An entry for a service has the number of its spans. -/
def ErrorBreakdown.Exact (entry : ErrorBreakdown) (own : List Span) : Prop :=
  entry.count.toInt = own.length

/-- A count comes back from the double that carries it. -/
def CountSurvives (count : Nat) : Prop := (Amount.whole (roundF64 count)).asI64.toInt = count

/-- The sum of the tokens is exact in 64 bits and in the double that carries it. -/
def TokensSurvive (spans : List Span) : Prop :=
  roundF64 (tokenSum (fun span => span.totalTokens) spans).toInt = exactTokens spans

/-- What an entry for a model shows survives. -/
def LlmSurvives (own : List Span) : Prop := CountSurvives own.length ∧ TokensSurvive own

/-- What an entry for an agent shows survives. -/
def AgentSurvives (own : List Span) : Prop :=
  CountSurvives own.length ∧ CountSurvives (errorSpans own).length ∧ TokensSurvive own

/-- Every group has its rows in one day, and what is shown of them survives. -/
structure DailyGroups (group : Span → String) (survives : List Span → Prop) (rows : List Span) :
    Prop where
  oneDay : ∀ name, OneBucket dayBucket group rows name
  survives : ∀ span ∈ rows, survives (groupRows group rows (group span))

section

variable (engine : AnalyticsEngine) (spans : List Span) (workspaceId : Uuid)

/-- The spans of a range that are of a model. -/
def modelSpans (range : Int64 × Int64) : List Span :=
  namedSpans (fun span => span.llmModel) (rangeSpans spans workspaceId range)

/-- The spans of a range that are of an agent. -/
def agentSpans (range : Int64 × Int64) : List Span :=
  namedSpans (fun span => span.agentName) (rangeSpans spans workspaceId range)

/-- The spans that an error breakdown is about. -/
def ErrorAnalyticsQuery.rows (query : ErrorAnalyticsQuery) : List Span :=
  namedSpans (fun span => span.serviceName)
    (failedSpans query.serviceName (rangeSpans spans workspaceId query.range))

/-- The spans that the top endpoints are about. -/
def TopNQuery.rows (query : TopNQuery) : List Span :=
  endpointSpans (rangeSpans spans workspaceId query.range)

/-- The analytics of models have one exact entry for each model. -/
def LlmTotals (now : Int) (query : AnalyticsQuery) : Prop :=
  ∃ entries, getLlmAnalytics engine spans workspaceId now query = .ok entries ∧
    GroupTotals (fun span => span.llmModel) (modelSpans spans workspaceId (query.range now))
      LlmAnalytics.llmModel LlmAnalytics.Exact entries

/-- The analytics of agents have one exact entry for each agent. -/
def AgentTotals (now : Int) (query : AnalyticsQuery) : Prop :=
  ∃ entries, getAgentAnalytics engine spans workspaceId now query = .ok entries ∧
    GroupTotals (fun span => span.agentName) (agentSpans spans workspaceId (query.range now))
      AgentAnalytics.agentName AgentAnalytics.Exact entries

/-- An error breakdown has one exact entry for each service. -/
def ErrorTotals (query : ErrorAnalyticsQuery) : Prop :=
  ∃ entries, getErrorBreakdown engine spans workspaceId query = .ok entries ∧
    GroupTotals (fun span => span.serviceName) (query.rows spans workspaceId)
      ErrorBreakdown.errorType ErrorBreakdown.Exact entries

/-- The top endpoints are those with the highest counts, each with its exact count. -/
def EndpointTotals (query : TopNQuery) : Prop :=
  ∃ entries, getTopEndpoints engine spans workspaceId query = .ok entries ∧
    TopGroups endpointOf (query.rows spans workspaceId) query.limit
      (entries.map TopEndpoint.counted)

end

/-- A double has a place for every whole number up to two to the 53. -/
theorem roundF64_of_small {value : Int} (small : value.natAbs ≤ 2 ^ 53) :
    roundF64 value = value := by
  rcases Nat.lt_or_eq_of_le small with below | same
  · -- No bit is dropped.
    have short : value.natAbs.log2 ≤ 52 := by
      by_cases zero : value.natAbs = 0
      · simp [zero]
      · exact Nat.lt_succ_iff.mp ((Nat.log2_lt zero).mpr below)
    unfold roundF64
    dsimp only
    rw [Nat.sub_eq_zero_of_le short]
    simp [Nat.mod_one, Int.sign_mul_abs]
  -- The bound itself has one bit more, and this bit is zero.
  · have sign := Int.sign_mul_natAbs value
    have log : Nat.log2 (2 ^ 53) = 53 := Nat.log2_two_pow
    unfold roundF64
    dsimp only
    rw [same] at sign ⊢
    rw [log]
    simpa using sign

theorem countSurvives_of_small {count : Nat} (small : count ≤ 2 ^ 53) : CountSurvives count := by
  unfold CountSurvives Amount.asI64
  rw [roundF64_of_small (by simpa using small)]
  have clamped : max (-2 ^ 63) (min (count : Int) (2 ^ 63 - 1)) = count := by omega
  simp only [clamped]
  exact Int64.toInt_ofInt_of_le (by omega) (by omega)

section

variable (engine : AnalyticsEngine)

/-- The point of a cell, where the group is shown by its columns. -/
def cellPoint {γ : Type} (columns : γ → List (String × String)) (aggregate : Aggregate)
    (cell : Cell Span Int64 γ) : AnalyticsDataPoint :=
  ⟨cell.bucket, aggregate.value engine cell.rows, columns cell.group⟩

/-- A group that is shown by one column. -/
def oneColumn (name : String) (text : String) : List (String × String) := [(name, text)]

/-- A query for an allowed metric by allowed columns has a point for each cell of the rows. -/
theorem serviceAnalytics_cells {γ : Type} [DecidableEq γ] {spans : List Span} {workspaceId : Uuid}
    {range : Int64 × Int64} {names : List String} {filters : List (String × String)}
    {metric : String} {aggregate : Aggregate} {group : Span → γ}
    {columns : γ → List (String × String)} {rows : List Span}
    (listed : allowedMetrics.find? (fun each => each.1 = metric) = some (metric, aggregate))
    (allowed : names ⊆ allowedDimensions) (injective : columns.Injective)
    (values : ∀ span, groupValues names span = columns (group span))
    (selected : StorageAnalyticsFilters.rows ⟨range.1, range.2, metric, names, filters⟩ workspaceId
      spans = rows) :
    ∃ points : List AnalyticsDataPoint,
      serviceAnalytics engine spans workspaceId range names filters metric = .ok points ∧
        points.Perm ((cells dayBucket group rows).map (cellPoint engine columns aggregate)) := by
  -- No grouping column is refused.
  have all : names.find? (fun each => !allowedDimensions.contains each) = none := by
    simpa using fun each member => allowed member
  refine ⟨_, ?_, ((engine.order metric).arranged 0 0 _).perm⟩
  unfold serviceAnalytics queryAnalytics
  simp only [listed, all, selected, funext values, Except.mapError]
  rw [cells_rename injective, List.map_map]
  rfl

/-- An endpoint is shown by two columns. -/
def endpointColumns (endpoint : String × String) : List (String × String) :=
  [("service_name", endpoint.1), ("span_name", endpoint.2)]

theorem endpointColumns_injective : endpointColumns.Injective := by
  intro first second same
  simpa [endpointColumns, Prod.ext_iff] using same

variable (name : String)

/-- A query by one column has a point for each cell of the rows. -/
theorem serviceAnalytics_one_column {spans : List Span} {workspaceId : Uuid}
    {range : Int64 × Int64} {filters : List (String × String)} {metric : String}
    {aggregate : Aggregate} {group : Span → String} {rows : List Span}
    (listed : allowedMetrics.find? (fun each => each.1 = metric) = some (metric, aggregate))
    (allowed : name ∈ allowedDimensions)
    (column : ∀ span, column name span = some (group span))
    (selected : StorageAnalyticsFilters.rows ⟨range.1, range.2, metric, [name], filters⟩ workspaceId
      spans = rows) :
    ∃ points : List AnalyticsDataPoint,
      serviceAnalytics engine spans workspaceId range [name] filters metric = .ok points ∧
        points.Perm
          ((cells dayBucket group rows).map (cellPoint engine (oneColumn name) aggregate)) := by
  refine serviceAnalytics_cells engine listed (by simpa using allowed) ?_ ?_ selected
  · intro first second same
    simpa [oneColumn] using same
  · intro span
    simp [groupValues, column, oneColumn]

variable {engine name} {group : Span → String} {rows : List Span}

theorem cellPoint_group (aggregate : Aggregate) (cell : Cell Span Int64 String) :
    (cellPoint engine (oneColumn name) aggregate cell).group name = some cell.group := by
  simp [AnalyticsDataPoint.group, cellPoint, oneColumn]

/-- The first point of a group in one day has the aggregate of all its rows. -/
theorem firstValue_of_oneBucket {points : List AnalyticsDataPoint} {aggregate : Aggregate}
    (same : points.Perm
      ((cells dayBucket group rows).map (cellPoint engine (oneColumn name) aggregate)))
    (isGroup : AnalyticsDataPoint → Bool) (value : String)
    (named : ∀ cell,
      isGroup (cellPoint engine (oneColumn name) aggregate cell) = true ↔ cell.group = value)
    (occurs : ∃ span ∈ rows, group span = value) (one : OneBucket dayBucket group rows value) :
    firstValue points isGroup = aggregate.value engine (groupRows group rows value) := by
  obtain ⟨span, listed, rfl⟩ := occurs
  have held := cell_of_row dayBucket group listed
  unfold firstValue
  cases found : points.find? isGroup with
  | none =>
    -- The group has a cell, and so a point.
    have member := same.mem_iff.mpr (List.mem_map_of_mem held)
    exact absurd ((named _).mpr rfl) (List.find?_eq_none.mp found _ member)
  | some point =>
    have member := same.mem_iff.mp (List.mem_of_find?_eq_some found)
    obtain ⟨cell, inside, rfl⟩ := List.mem_map.mp member
    have own := (named cell).mp (List.find?_some found)
    have whole := cell_rows_of_oneBucket inside (own ▸ one)
    simp only [Option.map_some, Option.getD_some, cellPoint]
    rw [whole, own]

/-- Entries that are made from the points of a grouping are right exactly in one day each. -/
theorem groupTotals_iff {ε : Type} {entryName : ε → String} {exact : ε → List Span → Prop}
    {survives : List Span → Prop} {points : List AnalyticsDataPoint} {aggregate : Aggregate}
    {make : AnalyticsDataPoint → ε}
    (same : points.Perm
      ((cells dayBucket group rows).map (cellPoint engine (oneColumn name) aggregate)))
    (named : ∀ cell,
      entryName (make (cellPoint engine (oneColumn name) aggregate cell)) = cell.group)
    (meets : (∀ each, OneBucket dayBucket group rows each) →
      ∀ cell ∈ cells dayBucket group rows,
        (exact (make (cellPoint engine (oneColumn name) aggregate cell))
            (groupRows group rows cell.group) ↔
          survives (groupRows group rows cell.group))) :
    GroupTotals group rows entryName exact (points.map make) ↔ DailyGroups group survives rows := by
  -- The entries bear the names of the cells.
  have names : ((points.map make).map entryName).Perm
      ((cells dayBucket group rows).map Cell.group) := by
    have mapped := (same.map make).map entryName
    simp only [List.map_map] at mapped ⊢
    refine mapped.trans (List.Perm.of_eq (List.map_congr_left fun cell _ => ?_))
    exact named cell
  have made : ∀ cell ∈ cells dayBucket group rows,
      make (cellPoint engine (oneColumn name) aggregate cell) ∈ points.map make := by
    intro cell inside
    exact List.mem_map_of_mem (same.mem_iff.mpr (List.mem_map_of_mem inside))
  constructor
  -- No name occurs twice, so no group lies in two days.
  · intro totals
    have oneDay := cells_groups_nodup_iff.mp (names.nodup_iff.mp totals.distinct)
    refine ⟨oneDay, ?_⟩
    intro span listed
    have held := cell_of_row dayBucket group listed
    have right := totals.exact _ (made _ held)
    rw [named] at right
    exact (meets oneDay _ held).mp right
  -- Every cell is a whole group.
  · intro daily
    refine ⟨names.nodup_iff.mpr (cells_groups_nodup_iff.mpr daily.oneDay), ?_, ?_⟩
    · intro each
      rw [names.mem_iff, group_mem_cells]
    · intro entry listed
      obtain ⟨point, member, rfl⟩ := List.mem_map.mp listed
      obtain ⟨cell, inside, rfl⟩ := List.mem_map.mp (same.mem_iff.mp member)
      obtain ⟨⟨span, there, _, own⟩, _⟩ := mem_cells.mp inside
      rw [named]
      exact (meets daily.oneDay cell inside).mpr (own ▸ daily.survives span there)

end

section

variable (spans : List Span) (workspaceId : Uuid) (range : Int64 × Int64) {name metric : String}
  {group : Span → String}

/-- A query by one column without filters is about the spans that have a name there. -/
theorem rows_one_column (column : ∀ span, column name span = some (group span)) :
    StorageAnalyticsFilters.rows ⟨range.1, range.2, metric, [name], []⟩ workspaceId spans =
      namedSpans group (rangeSpans spans workspaceId range) := by
  -- The query filters by workspace, time and the grouping column.
  have workspace : ∀ span : Span, Query.column "workspace_id" span = some span.workspaceId :=
    fun _ => rfl
  rw [StorageAnalyticsFilters.rows, namedSpans, rangeSpans, List.filter_filter]
  refine List.filter_congr fun span _ => ?_
  simp only [workspace, column, List.all_cons, List.all_nil, Bool.and_true, Option.some.injEq]
  rw [Bool.eq_iff_iff]
  simp
  tauto

/-- The query of an error breakdown is about the spans that failed. -/
theorem rows_errors (serviceName : Option String) :
    StorageAnalyticsFilters.rows ⟨range.1, range.2, metric, ["service_name"],
        ("status_code", "ERROR") ::
          (serviceName.map fun serviceName => ("service_name", serviceName)).toList⟩
        workspaceId spans =
      namedSpans (fun span => span.serviceName)
        (failedSpans serviceName (rangeSpans spans workspaceId range)) := by
  -- The query filters by workspace, time, status and service.
  have workspace : ∀ span : Span, Query.column "workspace_id" span = some span.workspaceId :=
    fun _ => rfl
  have service : ∀ span : Span, Query.column "service_name" span = some span.serviceName :=
    fun _ => rfl
  have status : ∀ span : Span, Query.column "status_code" span = some span.statusCode :=
    fun _ => rfl
  rw [StorageAnalyticsFilters.rows, namedSpans, failedSpans, errorSpans, rangeSpans,
    List.filter_filter, List.filter_filter, List.filter_filter]
  refine List.filter_congr fun span _ => ?_
  rw [Bool.eq_iff_iff]
  cases serviceName with
  | none =>
    simp only [workspace, allowedDimensions, Option.map_none, Option.toList_none]
    simp [service, status]
    tauto
  | some serviceName =>
    simp only [workspace, allowedDimensions, Option.map_some, Option.toList_some]
    simp [service, status]
    tauto

end

section

variable (engine : AnalyticsEngine) (spans : List Span) (workspaceId : Uuid)

/-- The points of a metric by one column are those of the cells of the spans with a name there. -/
theorem serviceAnalytics_named (range : Int64 × Int64) (name : String) (group : Span → String)
    (allowed : name ∈ allowedDimensions) (column : ∀ span, column name span = some (group span))
    (metric : String) (aggregate : Aggregate)
    (listed : allowedMetrics.find? (fun each => each.1 = metric) = some (metric, aggregate)) :
    ∃ points : List AnalyticsDataPoint,
      serviceAnalytics engine spans workspaceId range [name] [] metric = .ok points ∧
        points.Perm
          ((cells dayBucket group (namedSpans group (rangeSpans spans workspaceId range))).map
            (cellPoint engine (oneColumn name) aggregate)) :=
  serviceAnalytics_one_column engine name listed allowed column
    (rows_one_column spans workspaceId range column)

/-- The analytics of models are right exactly if each model is used in one day only. -/
theorem getLlmAnalytics_iff (now : Int) (query : AnalyticsQuery) :
    LlmTotals engine spans workspaceId now query ↔
      DailyGroups (fun span => span.llmModel) LlmSurvives
        (modelSpans spans workspaceId (query.range now)) := by
  -- All four columns are asked for over the same rows.
  have ask := serviceAnalytics_named engine spans workspaceId (query.range now) "llm_model"
    (fun span => span.llmModel) (by simp [allowedDimensions]) (fun _ => rfl)
  obtain ⟨requests, asked, counts⟩ := ask "span_count" .countAll rfl
  obtain ⟨tokens, askedTokens, sums⟩ :=
    ask "total_tokens" (.sumTokens fun span => span.totalTokens) rfl
  obtain ⟨costs, askedCosts, _⟩ := ask "total_cost_usd" .sumCost rfl
  obtain ⟨durations, askedDurations, _⟩ := ask "avg_duration_ms" .avgDurationMs rfl
  unfold LlmTotals modelSpans getLlmAnalytics
  simp only [asked, askedTokens, askedCosts, askedDurations, bind, Except.bind, Except.ok.injEq,
    exists_eq_left']
  -- The entries are made from the counts, and the other values are looked up.
  refine groupTotals_iff counts ?_ ?_
  · intro cell
    simp [cellPoint_group]
  · intro oneDay cell inside
    have whole := cell_rows_of_oneBucket inside (oneDay _)
    have found := firstValue_of_oneBucket sums
      (fun point => point.group "llm_model" = some cell.group) cell.group
      (fun other => by simp [cellPoint_group]) (group_mem_cells.mp (List.mem_map_of_mem inside))
      (oneDay _)
    simp only [LlmAnalytics.Exact, LlmSurvives, cellPoint_group, Option.getD_some, findGroupValue,
      found]
    simp only [cellPoint, Aggregate.value, whole, CountSurvives, TokensSurvive, Amount.whole.injEq]

/-- The analytics of agents are right exactly if each agent is active in one day only. -/
theorem getAgentAnalytics_iff (now : Int) (query : AnalyticsQuery) :
    AgentTotals engine spans workspaceId now query ↔
      DailyGroups (fun span => span.agentName) AgentSurvives
        (agentSpans spans workspaceId (query.range now)) := by
  have ask := serviceAnalytics_named engine spans workspaceId (query.range now) "agent_name"
    (fun span => span.agentName) (by simp [allowedDimensions]) (fun _ => rfl)
  obtain ⟨requests, asked, counts⟩ := ask "span_count" .countAll rfl
  obtain ⟨errors, askedErrors, failures⟩ := ask "error_count" .sumErrors rfl
  obtain ⟨tokens, askedTokens, sums⟩ :=
    ask "total_tokens" (.sumTokens fun span => span.totalTokens) rfl
  obtain ⟨durations, askedDurations, _⟩ := ask "avg_duration_ms" .avgDurationMs rfl
  unfold AgentTotals agentSpans getAgentAnalytics
  simp only [asked, askedErrors, askedTokens, askedDurations, bind, Except.bind, Except.ok.injEq,
    exists_eq_left']
  -- The points have no agent type, so that the name alone is looked for.
  have untyped : ∀ aggregate (cell : Cell Span Int64 String),
      (cellPoint engine (oneColumn "agent_name") aggregate cell).group "agent_type" = none := by
    intro aggregate cell
    rfl
  refine groupTotals_iff counts ?_ ?_
  · intro cell
    simp [cellPoint_group]
  · intro oneDay cell inside
    have whole := cell_rows_of_oneBucket inside (oneDay _)
    have occurs := group_mem_cells.mp (List.mem_map_of_mem inside)
    have failed : findAgentGroupValue errors cell.group none =
        Aggregate.sumErrors.value engine (groupRows (fun span => span.agentName) _ cell.group) :=
      firstValue_of_oneBucket failures _ cell.group
        (fun other => by simp [cellPoint_group, untyped]) occurs (oneDay _)
    have summed : findAgentGroupValue tokens cell.group none =
        Aggregate.value engine (groupRows (fun span => span.agentName) _ cell.group)
          (.sumTokens fun span => span.totalTokens) :=
      firstValue_of_oneBucket sums _ cell.group
        (fun other => by simp [cellPoint_group, untyped]) occurs (oneDay _)
    simp only [AgentAnalytics.Exact, AgentSurvives, cellPoint_group, untyped, Option.getD_some,
      failed, summed]
    simp only [cellPoint, Aggregate.value, whole, CountSurvives, TokensSurvive, Amount.whole.injEq]

/-- An error breakdown is right exactly if each service fails in one day only. -/
theorem getErrorBreakdown_iff (query : ErrorAnalyticsQuery) :
    ErrorTotals engine spans workspaceId query ↔
      DailyGroups (fun span => span.serviceName) (fun own => CountSurvives own.length)
        (query.rows spans workspaceId) := by
  obtain ⟨points, asked, counts⟩ :=
    serviceAnalytics_one_column engine "service_name" (show allowedMetrics.find?
      (fun each => each.1 = "error_count") = some ("error_count", .sumErrors) from rfl)
      (by simp [allowedDimensions]) (fun span => (rfl : _ = some span.serviceName))
      (rows_errors spans workspaceId query.range query.serviceName)
  unfold ErrorTotals getErrorBreakdown
  simp only [asked, bind, Except.bind, Except.ok.injEq, exists_eq_left']
  refine groupTotals_iff counts ?_ ?_
  · intro cell
    simp [cellPoint_group]
  · intro oneDay cell inside
    have whole := cell_rows_of_oneBucket inside (oneDay _)
    -- All the rows of a cell failed.
    have failed : errorSpans cell.rows = cell.rows := by
      refine List.filter_eq_self.mpr fun span member => ?_
      rw [whole] at member
      have named := List.mem_of_mem_filter (List.mem_of_mem_filter member)
      exact (List.mem_filter.mp (List.mem_of_mem_filter named)).2
    simp only [ErrorBreakdown.Exact, cellPoint, Aggregate.value, failed]
    rw [whole]
    rfl

/-- The analytics of databases ask for groups that the storage does not allow. -/
theorem getDatabaseAnalytics_error (now : Int) (query : AnalyticsQuery) :
    getDatabaseAnalytics engine spans workspaceId now query =
      .error (.internal "Analytics error: unsupported group_by dimension: db_system_name") := by
  -- The grouping column of the query is not in the list of allowed ones.
  have refused : ["db_system_name", "db_operation_name"].find?
      (fun name => !allowedDimensions.contains name) = some "db_system_name" := by
    decide +kernel
  unfold getDatabaseAnalytics serviceAnalytics queryAnalytics
  simp only [refused]
  rfl

/-- A query by endpoint is about the spans that have both names. -/
theorem rows_endpoints (range : Int64 × Int64) (metric : String) :
    StorageAnalyticsFilters.rows ⟨range.1, range.2, metric, ["service_name", "span_name"], []⟩
        workspaceId spans =
      endpointSpans (rangeSpans spans workspaceId range) := by
  -- The query filters by workspace, time and both grouping columns.
  have workspace : ∀ span : Span, column "workspace_id" span = some span.workspaceId := fun _ => rfl
  have service : ∀ span : Span, column "service_name" span = some span.serviceName := fun _ => rfl
  have operation : ∀ span : Span, column "span_name" span = some span.spanName := fun _ => rfl
  rw [StorageAnalyticsFilters.rows, endpointSpans, rangeSpans, List.filter_filter]
  refine List.filter_congr fun span _ => ?_
  rw [Bool.eq_iff_iff]
  simp [workspace, service, operation]
  tauto

/-- The points of a metric by endpoint are those of the cells of the spans with both names. -/
theorem serviceAnalytics_endpoints (range : Int64 × Int64) (metric : String) (aggregate : Aggregate)
    (listed : allowedMetrics.find? (fun each => each.1 = metric) = some (metric, aggregate)) :
    ∃ points : List AnalyticsDataPoint,
      serviceAnalytics engine spans workspaceId range ["service_name", "span_name"] [] metric =
        .ok points ∧
        points.Perm
          ((cells dayBucket endpointOf (endpointSpans (rangeSpans spans workspaceId range))).map
            (cellPoint engine endpointColumns aggregate)) :=
  serviceAnalytics_cells engine listed (by simp [allowedDimensions]) endpointColumns_injective
    (fun _ => rfl) (rows_endpoints spans workspaceId range metric)

/-- Entries with the counts of their cells are in the order of the cells. -/
theorem topEntries_iff {rows : List Span} {limit : Nat}
    {ordered : List (Cell Span Int64 (String × String))}
    {entry : Cell Span Int64 (String × String) → TopEndpoint}
    (same : ordered.Perm (cells dayBucket endpointOf rows))
    (named : ∀ cell, ((entry cell).serviceName, (entry cell).operationName) = cell.group)
    (counts : ∀ cell ∈ ordered, (entry cell).count.toInt = cell.rows.length) :
    TopGroups endpointOf rows limit
        ((((ordered.map entry).insertionSort fun first second => second.count ≤ first.count).take
          limit).map TopEndpoint.counted) ↔
      SplitOutranked dayBucket endpointOf rows limit := by
  let before := fun first second : Cell Span Int64 (String × String) =>
    second.rows.length ≤ first.rows.length
  have total : Std.Total before :=
    ⟨fun first second => le_total second.rows.length first.rows.length⟩
  have transitive : IsTrans (Cell Span Int64 (String × String)) before :=
    ⟨fun _ _ _ one two => le_trans two one⟩
  -- Entries are sorted as their cells are, since the counts fit.
  have moved : (ordered.map entry).insertionSort (fun first second => second.count ≤ first.count) =
      (ordered.insertionSort before).map entry := by
    refine (List.map_insertionSort before _ entry ordered ?_).symm
    intro first one second two
    rw [Int64.le_iff_toInt_le, counts first one, counts second two]
    exact Int.ofNat_le.symm
  have ranked := List.perm_insertionSort before ordered
  have counted : ((ordered.insertionSort before).take limit).map (TopEndpoint.counted ∘ entry) =
      ((ordered.insertionSort before).take limit).map Cell.counted := by
    refine List.map_congr_left fun cell front => ?_
    have member := ranked.mem_iff.mp (List.mem_of_mem_take front)
    simp only [Function.comp_apply, TopEndpoint.counted, Cell.counted, named, counts cell member,
      Int.toNat_natCast]
  rw [moved, ← List.map_take, List.map_map, counted]
  exact topGroups_iff (ranked.trans same) (List.pairwise_insertionSort before ordered)

/-- The top endpoints are right exactly if every endpoint of several days is outranked. -/
theorem getTopEndpoints_iff (query : TopNQuery) (small : spans.length ≤ 2 ^ 53) :
    EndpointTotals engine spans workspaceId query ↔
      SplitOutranked dayBucket endpointOf (query.rows spans workspaceId) query.limit := by
  have ask := serviceAnalytics_endpoints engine spans workspaceId query.range
  obtain ⟨points, asked, counts⟩ := ask "span_count" .countAll rfl
  obtain ⟨durations, askedDurations, _⟩ := ask "avg_duration_ms" .avgDurationMs rfl
  obtain ⟨errors, askedErrors, _⟩ := ask "error_count" .sumErrors rfl
  unfold EndpointTotals getTopEndpoints
  simp only [asked, askedDurations, askedErrors, bind, Except.bind, Except.ok.injEq,
    exists_eq_left']
  obtain ⟨others, perm, rfl⟩ := exists_map_of_perm counts
  rw [List.map_map]
  -- No count is too great for a double, so that the entries are in the order of their cells.
  have survives : ∀ cell ∈ others,
      (Amount.whole (roundF64 cell.rows.length)).asI64.toInt = cell.rows.length := by
    intro cell member
    obtain ⟨_, held⟩ := mem_cells.mp (perm.mem_iff.mp member)
    refine countSurvives_of_small (le_trans ?_ small)
    rw [held]
    exact ((List.filter_sublist).trans
      ((List.filter_sublist).trans List.filter_sublist)).length_le
  refine topEntries_iff perm ?_ survives
  intro cell
  rfl

end

/-- Arithmetic on whole numbers, and sums of spans that cost nothing and take no time. -/
def wholeEngine : AnalyticsEngine where
  order _ := sortedOrder AnalyticsDataPoint.bucketFirst
  sumCost _ := .zero
  avgDurationMs _ := .zero
  add
    | .whole first, .whole second => .whole (first + second)
    | _, _ => .real .zero
  mul
    | .whole first, .whole second => .whole (first * second)
    | _, _ => .real .zero
  div
    | .whole first, .whole second => .whole (first / second)
    | _, _ => .real .zero

/-- A failed span of one model, agent and endpoint. -/
def modelSpan (spanId : String) (timestamp : Int64) : Span :=
  { spanAt spanId timestamp with
    llmModel := "m"
    agentName := "a"
    serviceName := "s"
    spanName := "chat"
    statusCode := "ERROR"
    totalTokens := 5 }

/-- Rows of one day have each group in one day. -/
theorem oneBucket_of_day {γ : Type} [DecidableEq γ] {group : Span → γ} {rows : List Span}
    {day : Int64} (same : ∀ span ∈ rows, dayBucket span = day) (name : γ) :
    OneBucket dayBucket group rows name :=
  fun first one second two _ _ => (same first one).trans (same second two).symm

/-- Rows of one day and one group are right if what is shown of all of them survives. -/
theorem dailyGroups_of_one {group : Span → String} {survives : List Span → Prop}
    {rows : List Span} {day : Int64} {name : String} (same : ∀ span ∈ rows, dayBucket span = day)
    (named : ∀ span ∈ rows, group span = name) (kept : survives rows) :
    DailyGroups group survives rows := by
  refine ⟨oneBucket_of_day same, ?_⟩
  intro span listed
  -- All rows are of the one group.
  have whole : groupRows group rows (group span) = rows := by
    refine List.filter_eq_self.mpr fun other member => ?_
    simpa using (named other member).trans (named span listed).symm
  rw [whole]
  exact kept

end Zradar.Query
