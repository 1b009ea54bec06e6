import Zradar.Lib.Like
import Zradar.Models.Span
import Zradar.Query.Reader

/-! Searches for a text: which rows the patterns of the reader select, and which have the text. -/

namespace Zradar.Query

/-- The filters without the search for a name. -/
def StorageSpanFilters.unsearched (filters : StorageSpanFilters) : StorageSpanFilters :=
  { filters with spanName := none }

/-- The filters without the search for a name. -/
def StorageTraceFilters.unsearched (filters : StorageTraceFilters) : StorageTraceFilters :=
  { filters with spanName := none }

/-- The filters without the search in messages. -/
def StorageLogFilters.unsearched (filters : StorageLogFilters) : StorageLogFilters :=
  { filters with searchText := none }

/-- A search for spans returns those that have the text in their name. -/
def SpanSearchLiteral (search : String) : Prop :=
  ∀ (filters : StorageSpanFilters) (workspaceId : Uuid) (spans : List Span),
    filters.spanName = some search →
      filters.rows sqlLike workspaceId spans =
        (filters.unsearched.rows sqlLike workspaceId spans).filter fun span =>
          HasInside span.spanName search

/-- A trace has a span of the workspace with the text in its name. -/
def TraceHasInside (workspaceId : Uuid) (spans : List Span) (traceId search : String) : Prop :=
  ∃ span ∈ spans, span.workspaceId = workspaceId.toText ∧ span.traceId = traceId ∧
    HasInside span.spanName search

instance (workspaceId : Uuid) (spans : List Span) (traceId search : String) :
    Decidable (TraceHasInside workspaceId spans traceId search) :=
  List.decidableBEx _ _

/-- A search for traces returns the summaries of those with a span that has the text in its name. -/
def TraceSearchLiteral (search : String) : Prop :=
  ∀ (filters : StorageTraceFilters) (workspaceId : Uuid) (spans : List Span),
    filters.spanName = some search →
      filters.rows sqlLike workspaceId spans =
        (filters.unsearched.rows sqlLike workspaceId spans).filter fun summary =>
          TraceHasInside workspaceId spans summary.traceId search

/-- A search for logs returns those that have the text in their message. -/
def LogSearchLiteral (search : String) : Prop :=
  ∀ (filters : StorageLogFilters) (workspaceId : Uuid) (logs : List LogRecord),
    filters.searchText = some search →
      filters.rows sqlLike workspaceId logs =
        (filters.unsearched.rows sqlLike workspaceId logs).filter fun log =>
          HasInside log.message search

section

variable {search : String}

theorem spanRows_searched {filters : StorageSpanFilters} (asked : filters.spanName = some search)
    (workspaceId : Uuid) (spans : List Span) :
    filters.rows sqlLike workspaceId spans =
      (filters.unsearched.rows sqlLike workspaceId spans).filter fun span =>
        sqlLike span.spanName ("%" ++ search ++ "%") := by
  unfold StorageSpanFilters.rows whereAll
  rw [List.filter_filter]
  apply List.filter_congr
  intro span _
  have named : Condition.holds sqlLike span (.like "span_name" ("%" ++ search ++ "%")) =
      sqlLike span.spanName ("%" ++ search ++ "%") := rfl
  unfold StorageSpanFilters.conditions StorageSpanFilters.unsearched
  -- The two clauses differ in the condition on the name only, wherever it stands.
  rw [asked]
  simp only [likeGiven, Option.map_some, Option.map_none, Option.toList_some, Option.toList_none,
    List.all_append, List.all_cons, List.all_nil, named, Bool.and_true]
  ac_rfl

theorem logRows_searched {filters : StorageLogFilters} (asked : filters.searchText = some search)
    (workspaceId : Uuid) (logs : List LogRecord) :
    filters.rows sqlLike workspaceId logs =
      (filters.unsearched.rows sqlLike workspaceId logs).filter fun log =>
        sqlLike log.message ("%" ++ search ++ "%") := by
  -- The pattern is one more condition, so it can be put behind the others.
  unfold StorageLogFilters.rows whereAll
  rw [List.filter_filter]
  apply List.filter_congr
  intro log _
  have named : Condition.holds sqlLike log (.like "message" ("%" ++ search ++ "%")) =
      sqlLike log.message ("%" ++ search ++ "%") := rfl
  unfold StorageLogFilters.conditions StorageLogFilters.unsearched
  rw [asked]
  simp only [likeGiven, Option.map_some, Option.map_none, Option.toList_some, Option.toList_none,
    List.all_append, List.all_cons, List.all_nil, named, Bool.and_true]
  ac_rfl

/-- Duplicates can be removed before or after a filter. -/
theorem dedup_filter {α : Type} [DecidableEq α] (keeps : α → Bool) (items : List α) :
    (items.filter keeps).dedup = items.dedup.filter keeps := by
  -- A filter looks at the item alone, so it keeps all of its copies or none.
  induction items with
  | nil => rfl
  | cons item items ih =>
    by_cases kept : keeps item = true
    · rw [List.filter_cons_of_pos kept]
      by_cases again : item ∈ items
      · rw [List.dedup_cons_of_mem again, List.dedup_cons_of_mem (List.mem_filter.mpr ⟨again, kept⟩),
          ih]
      · have fresh : item ∉ items.filter keeps := fun listed => again (List.mem_of_mem_filter listed)
        rw [List.dedup_cons_of_notMem again, List.dedup_cons_of_notMem fresh, ih,
          List.filter_cons_of_pos kept]
    · rw [List.filter_cons_of_neg kept, ih]
      by_cases again : item ∈ items
      · rw [List.dedup_cons_of_mem again]
      · rw [List.dedup_cons_of_notMem again, List.filter_cons_of_neg kept]

/-- Keeping spans by their traces keeps whole summaries. -/
theorem groupTraces_filter_traceId (keeps : String → Bool) (spans : List Span) :
    groupTraces (spans.filter fun span => keeps span.traceId) =
      (groupTraces spans).filter fun summary => keeps summary.traceId := by
  have ids : ((spans.filter fun span => keeps span.traceId).map fun span => span.traceId) =
      (spans.map fun span => span.traceId).filter keeps := by
    rw [List.filter_map]
    rfl
  unfold groupTraces
  rw [ids, dedup_filter, List.filter_map]
  -- The summary of a trace that is kept has all of its spans.
  apply List.map_congr_left
  intro traceId listed
  have kept := (List.mem_filter.mp listed).2
  rw [List.filter_filter]
  congr 1
  apply List.filter_congr
  intro span _
  by_cases own : span.traceId = traceId
  · rw [own]
    simp [kept]
  · simp [own]

theorem traceRows_searched {filters : StorageTraceFilters} (asked : filters.spanName = some search)
    (workspaceId : Uuid) (spans : List Span) :
    filters.rows sqlLike workspaceId spans =
      (filters.unsearched.rows sqlLike workspaceId spans).filter fun summary =>
        spans.any fun span => span.workspaceId = workspaceId.toText &&
          (summary.traceId = span.traceId && sqlLike span.spanName ("%" ++ search ++ "%")) := by
  -- The subquery asks about the trace of a span, so whole groups are kept or left out.
  have selected : whereAll sqlLike (filters.conditions sqlLike workspaceId spans) spans =
      (whereAll sqlLike (filters.unsearched.conditions sqlLike workspaceId spans) spans).filter
        fun span => spans.any fun other => other.workspaceId = workspaceId.toText &&
          (span.traceId = other.traceId && sqlLike other.spanName ("%" ++ search ++ "%")) := by
    unfold whereAll
    rw [List.filter_filter]
    apply List.filter_congr
    intro span _
    have named (span : Span) : column "span_name" span = some span.spanName := rfl
    have workspace (span : Span) : column "workspace_id" span = some span.workspaceId := rfl
    have trace (span : Span) : column "trace_id" span = some span.traceId := rfl
    simp only [StorageTraceFilters.conditions, StorageTraceFilters.unsearched, asked,
      Option.map_some, Option.map_none, Option.toList_some, Option.toList_none, List.all_append,
      List.all_cons, List.all_nil, Condition.holds, named, workspace, trace, Option.any_some,
      Bool.and_true, whereAll, List.any_map, List.any_filter, Option.some.injEq, Function.comp_def]
    ac_rfl
  unfold StorageTraceFilters.rows
  rw [selected, groupTraces_filter_traceId fun traceId => spans.any fun span =>
    span.workspaceId = workspaceId.toText &&
      (traceId = span.traceId && sqlLike span.spanName ("%" ++ search ++ "%"))]
  exact List.filter_comm _ _ _

end

/-- No filters. -/
def anySpans : StorageSpanFilters where
  workspaceId := none
  traceId := none
  timeRange := none
  serviceName := none
  spanName := none
  spanTypes := none
  status := none
  llmModel := none
  llmProvider := none
  llmResponseModel := none
  agentName := none
  sessionId := none
  railType := none
  actionName := none
  workflowRunId := none
  framework := none
  toolName := none
  invocationId := none
  environment := none
  minDurationMs := none
  maxDurationMs := none
  dbSystemName := none
  dbOperationName := none
  pagination := ⟨none, none⟩

/-- No filters. -/
def anyTraces : StorageTraceFilters where
  workspaceId := none
  timeRange := none
  serviceName := none
  spanName := none
  status := none
  minDurationMs := none
  maxDurationMs := none
  llmModel := none
  llmProvider := none
  llmResponseModel := none
  agentName := none
  sessionId := none
  railType := none
  actionName := none
  workflowRunId := none
  framework := none
  toolName := none
  invocationId := none
  environment := none
  pagination := ⟨none, none⟩

/-- No filters. -/
def anyLogs : StorageLogFilters where
  workspaceId := none
  timeRange := none
  severity := none
  serviceName := none
  traceId := none
  searchText := none
  agentName := none
  sessionId := none
  pagination := ⟨none, none⟩

/-- A span of the nil workspace with a name. -/
def spanNamed (spanName : String) : Span :=
  { Span.default 0 with workspaceId := Uuid.nil.toText, spanName := spanName }

/-- A log of the nil workspace with a message. -/
def logSaying (message : String) : LogRecord where
  id := ""
  timestamp := 0
  workspaceId := Uuid.nil.toText
  traceId := ""
  spanId := ""
  severity := "INFO"
  serviceName := "api"
  message := message
  attributes := "\x7b\x7d"
  resource := "\x7b\x7d"
  agentName := ""
  sessionId := ""
  userId := ""
  createdAt := 0

/-- Without filters all rows of the workspace are returned. -/
theorem spanRows_anySpans (spanName : String) :
    anySpans.rows sqlLike Uuid.nil [spanNamed spanName] = [spanNamed spanName] := by
  have workspace : column "workspace_id" (spanNamed spanName) = some Uuid.nil.toText := rfl
  have clause : anySpans.conditions Uuid.nil = [.equals "workspace_id" Uuid.nil.toText] := rfl
  refine List.filter_eq_self.mpr (List.forall_mem_singleton.mpr ?_)
  rw [clause]
  simp [Condition.holds, workspace]

theorem traceRows_anyTraces (spanName : String) :
    anyTraces.rows sqlLike Uuid.nil [spanNamed spanName] = [summarize "" [spanNamed spanName]] := by
  -- The one condition is on the workspace, and the span has the workspace that is asked for.
  have workspace : column "workspace_id" (spanNamed spanName) = some Uuid.nil.toText := rfl
  have clause : anyTraces.conditions sqlLike Uuid.nil [spanNamed spanName] =
      [.equals "workspace_id" Uuid.nil.toText] := rfl
  have selected : whereAll sqlLike [.equals "workspace_id" Uuid.nil.toText] [spanNamed spanName] =
      [spanNamed spanName] := by
    refine List.filter_eq_self.mpr (List.forall_mem_singleton.mpr ?_)
    simp [Condition.holds, workspace]
  rw [StorageTraceFilters.rows, clause, selected]
  rfl

theorem logRows_anyLogs (message : String) :
    anyLogs.rows sqlLike Uuid.nil [logSaying message] = [logSaying message] := by
  have workspace : column "workspace_id" (logSaying message) = some Uuid.nil.toText := rfl
  have clause : anyLogs.conditions Uuid.nil = [.equals "workspace_id" Uuid.nil.toText] := rfl
  refine List.filter_eq_self.mpr (List.forall_mem_singleton.mpr ?_)
  rw [clause]
  simp [Condition.holds, workspace]

section

variable {search : String}

/-- Two filters that agree on a list of one row agree on the row. -/
theorem eq_of_filter_singleton {α : Type} {first second : α → Bool} {row : α}
    (same : [row].filter first = [row].filter second) : first row = second row := by
  have agree : row ∈ [row].filter first ↔ row ∈ [row].filter second := by rw [same]
  simp only [List.mem_filter, List.mem_singleton, true_and] at agree
  exact Bool.eq_iff_iff.mpr agree

/-- A search for spans is literal if its pattern is. -/
theorem spanSearchLiteral_iff : SpanSearchLiteral search ↔ PlainForLike search := by
  rw [← sqlLike_literal_iff]
  constructor
  · -- A search among one span shows whether its name is matched.
    intro literal text
    have found := literal { anySpans with spanName := some search } Uuid.nil [spanNamed text] rfl
    rw [spanRows_searched rfl] at found
    change (anySpans.rows sqlLike Uuid.nil [spanNamed text]).filter _ =
      (anySpans.rows sqlLike Uuid.nil [spanNamed text]).filter _ at found
    rw [spanRows_anySpans] at found
    have same := eq_of_filter_singleton found
    rw [Bool.eq_iff_iff, decide_eq_true_eq] at same
    exact same
  · intro literal filters workspaceId spans asked
    rw [spanRows_searched asked]
    apply List.filter_congr
    intro span _
    rw [Bool.eq_iff_iff, literal, decide_eq_true_eq]

/-- A search for traces is literal if its pattern is. -/
theorem traceSearchLiteral_iff : TraceSearchLiteral search ↔ PlainForLike search := by
  rw [← sqlLike_literal_iff]
  constructor
  · -- The trace of one span is found if the name of the span is matched.
    intro literal text
    have found := literal { anyTraces with spanName := some search } Uuid.nil [spanNamed text] rfl
    rw [traceRows_searched rfl] at found
    change (anyTraces.rows sqlLike Uuid.nil [spanNamed text]).filter _ =
      (anyTraces.rows sqlLike Uuid.nil [spanNamed text]).filter _ at found
    rw [traceRows_anyTraces] at found
    have same := eq_of_filter_singleton found
    rw [Bool.eq_iff_iff, decide_eq_true_eq] at same
    simpa [TraceHasInside, spanNamed, summarize, Span.default] using same
  · intro literal filters workspaceId spans asked
    rw [traceRows_searched asked]
    apply List.filter_congr
    intro summary _
    rw [Bool.eq_iff_iff, decide_eq_true_eq, TraceHasInside, List.any_eq_true]
    simp only [Bool.and_eq_true, decide_eq_true_eq, literal, eq_comm (a := summary.traceId)]

/-- A search for logs is literal if its pattern is. -/
theorem logSearchLiteral_iff : LogSearchLiteral search ↔ PlainForLike search := by
  -- One log that says the text is enough to tell whether the pattern is literal.
  rw [← sqlLike_literal_iff]
  constructor
  · intro literal text
    have found := literal { anyLogs with searchText := some search } Uuid.nil [logSaying text] rfl
    rw [logRows_searched rfl] at found
    change (anyLogs.rows sqlLike Uuid.nil [logSaying text]).filter _ =
      (anyLogs.rows sqlLike Uuid.nil [logSaying text]).filter _ at found
    rw [logRows_anyLogs] at found
    have same := eq_of_filter_singleton found
    rw [Bool.eq_iff_iff, decide_eq_true_eq] at same
    exact same
  · intro literal filters workspaceId logs asked
    rw [logRows_searched asked]
    apply List.filter_congr
    intro log _
    rw [Bool.eq_iff_iff, literal, decide_eq_true_eq]

end

/-- Searches match texts literally exactly if none of their characters means anything in a pattern. -/
theorem searches_literal_iff (search : String) :
    (SpanSearchLiteral search ↔ PlainForLike search) ∧
    (TraceSearchLiteral search ↔ PlainForLike search) ∧
    (LogSearchLiteral search ↔ PlainForLike search) :=
  ⟨spanSearchLiteral_iff, traceSearchLiteral_iff, logSearchLiteral_iff⟩

/-- A search for `get_user` returns a span named `getXuser`. -/
theorem underscore_matches_other_names :
    ¬ ∀ search, SpanSearchLiteral search ∧ TraceSearchLiteral search ∧ LogSearchLiteral search := by
  intro claim
  have literal := (claim "get_user").1 { anySpans with spanName := some "get_user" } Uuid.nil
    [spanNamed "getXuser"] rfl
  have lengths := congrArg List.length literal
  revert lengths
  decide +kernel

end Zradar.Query
