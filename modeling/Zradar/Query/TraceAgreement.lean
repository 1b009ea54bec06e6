import Zradar.Lib.FixedWidth
import Zradar.Query.SpanFilters

/-! The start and the duration of a trace, in a list of traces and on its own page. -/

namespace Zradar.Query

/-- The stored spans of a trace. -/
def traceSpans (spans : List Span) (workspaceId : Uuid) (traceId : String) : List Span :=
  spans.filter fun span => span.workspaceId = workspaceId.toText && span.traceId = traceId

/-- When the first of some spans starts. -/
def firstStart (spans : List Span) : Int :=
  (spans.map fun span => span.timestamp.toInt).min?.getD 0

/-- When the last of some spans ends. -/
def lastEnd (spans : List Span) : Int :=
  (spans.map fun span => span.timestamp.toInt + span.durationNs.toInt).max?.getD 0

/-- The durations of some spans, added up. -/
def totalDuration (spans : List Span) : Int :=
  (spans.map fun span => span.durationNs.toInt).sum

/-- None of the sums that are made for a trace leaves 64 bits. -/
structure SumsFit (spans : List Span) : Prop where
  ends : ∀ span ∈ spans, span.timestamp.toInt + span.durationNs.toInt < 2 ^ 63
  extent : lastEnd spans - firstStart spans < 2 ^ 63
  total : totalDuration spans < 2 ^ 63

/-- The page of a trace and its entry in a list say the same, and it is what the spans say. -/
structure TraceAgrees (own : List Span) (detail : TraceDetail) (entry : TraceSummary) : Prop where
  startTime : detail.startTime = entry.startTime
  first : entry.startTime = firstStart own
  durationMs : detail.durationMs = entry.durationMs
  extent : entry.durationMs.toInt = (lastEnd own - firstStart own) / 1000000
  fits : SumsFit own

/-- A query for traces without any filter. -/
def noTraceFilters : TraceQueryFilters where
  workspaceId := ""
  startTime := none
  endTime := none
  serviceName := none
  operationName := none
  minDurationMs := none
  maxDurationMs := none
  status := none
  llmModel := none
  llmProvider := none
  llmResponseModel := none
  agentName := none
  sessionId := none
  railType := none
  actionName := none
  workflowRunId := none
  framework := none
  toolName := none
  invocationId := none
  environment := none
  limit := none
  offset := none

section

variable {spans : List Span} {workspaceId : Uuid} {traceId : String}

/-- The rows that the page of a trace is made from. -/
theorem whereAll_trace (like : String → String → Bool) :
    whereAll like [.equals "workspace_id" workspaceId.toText, .equals "trace_id" traceId] spans =
      traceSpans spans workspaceId traceId := by
  refine List.filter_congr fun span _ => ?_
  have workspace : column "workspace_id" span = some span.workspaceId := rfl
  have trace : column "trace_id" span = some span.traceId := rfl
  simp [Condition.holds, workspace, trace]

/-- The page of a stored trace, with its spans in some order by time. -/
theorem getTrace_ok (service : QueryService) (order : OrderBy Span oldestFirst)
    (stored : traceSpans spans workspaceId traceId ≠ []) :
    ∃ root rest, Arranged oldestFirst (traceSpans spans workspaceId traceId) (root :: rest) ∧
      service.getTrace spans workspaceId order traceId = .ok
        { traceId := traceId
          startTime := root.timestamp.toInt
          durationMs := ((root :: rest).map fun span => span.durationNs).sum / 1000000
          spans := (root :: rest).map (spanDetail service.parse) } := by
  -- The trace is answered in the order of the store, which begins with its root.
  have arranged := order.arranged 0 0 (traceSpans spans workspaceId traceId)
  unfold QueryService.getTrace getTraceDetail
  rw [whereAll_trace]
  cases found : order.arrange 0 0 (traceSpans spans workspaceId traceId) with
  | nil =>
    rw [found] at arranged
    exact absurd arranged.perm.symm.eq_nil stored
  | cons root rest =>
    refine ⟨root, rest, found ▸ arranged, ?_⟩
    simp

/-- The entry of a stored trace is the only one with its name among those of its workspace. -/
theorem groupTraces_filter (stored : traceSpans spans workspaceId traceId ≠ []) :
    (groupTraces (spans.filter fun span => span.workspaceId = workspaceId.toText)).filter
        (fun summary => summary.traceId = traceId) =
      [summarize traceId (traceSpans spans workspaceId traceId)] := by
  obtain ⟨span, member⟩ := List.exists_mem_of_ne_nil _ stored
  obtain ⟨inside, own⟩ := List.mem_filter.mp member
  simp only [Bool.and_eq_true, decide_eq_true_eq] at own
  have named : traceId ∈ ((spans.filter fun span => span.workspaceId = workspaceId.toText).map
      fun span => span.traceId).dedup := by
    rw [List.mem_dedup, List.mem_map]
    exact ⟨span, List.mem_filter.mpr ⟨inside, by simpa using own.1⟩, own.2⟩
  -- The names of the traces have no duplicates, so one of them is left.
  have once : ((spans.filter fun span => span.workspaceId = workspaceId.toText).map
      fun span => span.traceId).dedup.filter (fun other => other = traceId) = [traceId] := by
    rw [List.filter_eq, List.count_eq_one_of_mem (List.nodup_dedup _) named]
    rfl
  have same : (spans.filter fun span => span.workspaceId = workspaceId.toText).filter
      (fun span => span.traceId = traceId) = traceSpans spans workspaceId traceId := by
    rw [List.filter_filter, traceSpans]
    exact List.filter_congr fun span _ => Bool.and_comm _ _
  unfold groupTraces
  rw [List.filter_map]
  have keeps : ((fun summary : StorageTraceSummary => decide (summary.traceId = traceId)) ∘
      fun other => summarize other ((spans.filter fun span =>
        span.workspaceId = workspaceId.toText).filter fun span => span.traceId = other)) =
      fun other => decide (other = traceId) := rfl
  rw [keeps, once, List.map_singleton, same]

/-- A query without filters is a page of all traces of the workspace. -/
theorem queryTraces_unfiltered {service : QueryService} (admitted : service.policy = .ok ())
    (like : String → String → Bool) (now later : Int)
    (pages : OrderBy StorageTraceSummary StorageTraceSummary.newestFirst)
    (limit offset : Option Int64) :
    service.queryTraces like spans workspaceId now later pages
        { noTraceFilters with limit := limit, offset := offset } =
      .ok (apiPage traceSummary (paginated pages
        (groupTraces (spans.filter fun span => span.workspaceId = workspaceId.toText))
        (apiPagination limit offset))) := by
  have start : ∃ first, enforcedStart service.enforcer workspaceId ⟨none, none⟩ now = .ok first := by
    cases service.enforcer with
    | none => exact ⟨0, rfl⟩
    | some enforcer => exact ⟨_, rfl⟩
  obtain ⟨first, start⟩ := start
  have range : tracesTimeRange service.enforcer workspaceId ⟨none, none⟩ now later = .ok none := by
    simp [tracesTimeRange, rangeOfEither, start, bind, Except.bind]
  have workspace : ∀ span : Span, column "workspace_id" span = some span.workspaceId := fun _ => rfl
  have rows : whereAll like [.equals "workspace_id" workspaceId.toText] spans =
      spans.filter fun span => span.workspaceId = workspaceId.toText :=
    List.filter_congr fun span _ => by simp [Condition.holds, workspace]
  simp only [QueryService.queryTraces, QueryService.traceFilters, admitted, noTraceFilters, range,
    Except.mapError, bind, Except.bind, queryTraces, StorageTraceFilters.rows,
    StorageTraceFilters.conditions, equalsGiven, withinGiven, Option.map_none, Option.toList_none,
    List.append_nil, rows]
  -- Nothing is asked of the summaries either.
  rw [List.filter_eq_self.mpr]
  intro summary _
  simp [StorageTraceFilters.keeps]

end

section

variable {own : List Span}

/-- The first of the spans in the order of time is the first one to start. -/
theorem firstStart_of_arranged {root : Span} {rest : List Span}
    (arranged : Arranged oldestFirst own (root :: rest)) :
    root.timestamp.toInt = firstStart own := by
  -- The first of the sorted spans is the earliest one.
  have least : (own.map fun span => span.timestamp.toInt).min? = some root.timestamp.toInt := by
    refine List.min?_eq_some_iff.mpr ⟨?_, ?_⟩
    · exact List.mem_map_of_mem (f := fun span : Span => span.timestamp.toInt)
        (arranged.perm.mem_iff.mp List.mem_cons_self)
    · intro value member
      obtain ⟨span, inside, rfl⟩ := List.mem_map.mp member
      rcases List.mem_cons.mp (arranged.perm.mem_iff.mpr inside) with rfl | later
      · exact le_refl _
      · exact (List.pairwise_cons.mp arranged.sorted).1 span later
  rw [firstStart, least]
  rfl

/-- Spans with durations start before they end. -/
theorem firstStart_le_lastEnd (forward : ∀ span ∈ own, 0 ≤ span.durationNs) (stored : own ≠ []) :
    firstStart own ≤ lastEnd own := by
  -- Any span begins after the first start and ends before the last end.
  obtain ⟨span, member⟩ := List.exists_mem_of_ne_nil _ stored
  have ahead : 0 ≤ span.durationNs.toInt := Int64.le_iff_toInt_le.mp (forward span member)
  have below : firstStart own ≤ span.timestamp.toInt := by
    unfold firstStart
    cases first : (own.map fun span => span.timestamp.toInt).min? with
    | none => simp [stored] at first
    | some least =>
      exact (List.min?_eq_some_iff.mp first).2 _
        (List.mem_map_of_mem (f := fun span : Span => span.timestamp.toInt) member)
  have above : span.timestamp.toInt + span.durationNs.toInt ≤ lastEnd own := by
    unfold lastEnd
    cases last : (own.map fun span => span.timestamp.toInt + span.durationNs.toInt).max? with
    | none => simp [stored] at last
    | some greatest =>
      exact (List.max?_eq_some_iff.mp last).2 _ (List.mem_map_of_mem
        (f := fun span : Span => span.timestamp.toInt + span.durationNs.toInt) member)
  omega

theorem summarize_startTime (traceId : String) (own : List Span) :
    (summarize traceId own).startTime.toInt = firstStart own := by
  simp only [summarize, FixedWidth.toInt_min_getD, List.map_map]
  rfl

/-- Where no sum leaves 64 bits, a list of traces shows how far the spans reach. -/
theorem summarize_durationMs (traceId : String) (forward : ∀ span ∈ own, 0 ≤ span.durationNs)
    (stored : own ≠ []) (fits : SumsFit own) :
    (summarize traceId own).durationMs.toInt = (lastEnd own - firstStart own) / 1000000 := by
  have first : (summarize traceId own).startTime.toInt = firstStart own :=
    summarize_startTime traceId own
  -- No end of a span wraps.
  have last : (summarize traceId own).endTime.toInt = lastEnd own := by
    simp only [summarize, FixedWidth.toInt_max_getD, List.map_map, lastEnd]
    congr 2
    refine List.map_congr_left fun span member => ?_
    have ahead : 0 ≤ span.durationNs.toInt := Int64.le_iff_toInt_le.mp (forward span member)
    have lower := span.timestamp.le_toInt
    have upper := fits.ends span member
    exact FixedWidth.toInt_add_of_fits (by omega) upper
  have order := firstStart_le_lastEnd forward stored
  have extent := fits.extent
  -- Neither does the extent of the trace.
  have difference : ((summarize traceId own).endTime - (summarize traceId own).startTime).toInt =
      lastEnd own - firstStart own := by
    rw [FixedWidth.toInt_sub_of_fits (by omega) (by omega), first, last]
  calc (summarize traceId own).durationMs.toInt
      = ((summarize traceId own).endTime - (summarize traceId own).startTime).toInt.tdiv 1000000 :=
        FixedWidth.toInt_div_of_pos _ (by decide)
    _ = (lastEnd own - firstStart own) / 1000000 := by
        rw [difference, Int.tdiv_eq_ediv_of_nonneg (by omega)]

/-- Where no sum leaves 64 bits, the page of a trace shows the durations added up. -/
theorem sum_durationMs {arranged : List Span} (same : arranged.Perm own)
    (forward : ∀ span ∈ own, 0 ≤ span.durationNs) (fits : SumsFit own) :
    ((arranged.map fun span => span.durationNs).sum / 1000000).toInt =
      totalDuration own / 1000000 := by
  -- The sum does not depend on the order of the spans.
  have total : ((arranged.map fun span => span.durationNs).map Int64.toInt).sum =
      totalDuration own := by
    rw [List.map_map, totalDuration]
    exact (same.map _).sum_eq
  have ahead : ∀ each ∈ arranged.map fun span => span.durationNs, 0 ≤ each := by
    intro each member
    obtain ⟨span, inside, rfl⟩ := List.mem_map.mp member
    exact forward span (same.mem_iff.mp inside)
  obtain ⟨exact, positive⟩ := FixedWidth.toInt_sum_of_fits ahead (total ▸ fits.total)
  rw [FixedWidth.toInt_div_of_pos _ (by decide), exact, total,
    show (1000000 : Int64).toInt = 1000000 from rfl,
    Int.tdiv_eq_ediv_of_nonneg (total ▸ positive)]

end

/--
The page of a stored trace and its entry in every list without filters agree, and agree with its
spans, if and only if no sum leaves 64 bits and the durations add up to the extent of the trace.
-/
theorem trace_agrees_iff (service : QueryService) (like : String → String → Bool)
    (spans : List Span) (workspaceId : Uuid) (traceId : String)
    (order : OrderBy Span oldestFirst) (admitted : service.policy = .ok ())
    (stored : traceSpans spans workspaceId traceId ≠ [])
    (forward : ∀ span ∈ traceSpans spans workspaceId traceId, 0 ≤ span.durationNs) :
    ∃ detail entry, service.getTrace spans workspaceId order traceId = .ok detail ∧
      (∀ now later pages limit offset, ∃ response,
        service.queryTraces like spans workspaceId now later pages
            { noTraceFilters with limit := limit, offset := offset } = .ok response ∧
          (∀ item ∈ response.items, item.traceId = traceId → item = entry) ∧
          (offset = none → response.total ≤ response.pageSize → entry ∈ response.items)) ∧
      (TraceAgrees (traceSpans spans workspaceId traceId) detail entry ↔
        SumsFit (traceSpans spans workspaceId traceId) ∧
          totalDuration (traceSpans spans workspaceId traceId) / 1000000 =
            (lastEnd (traceSpans spans workspaceId traceId) -
              firstStart (traceSpans spans workspaceId traceId)) / 1000000) := by
  obtain ⟨root, rest, arranged, answered⟩ := getTrace_ok service order stored
  -- The trace is one row of the list.
  have alone := groupTraces_filter stored
  refine ⟨_, traceSummary (summarize traceId (traceSpans spans workspaceId traceId)), answered, ?_,
    ?_⟩
  · intro now later pages limit offset
    refine ⟨_, queryTraces_unfiltered admitted like now later pages limit offset, ?_, ?_⟩
    · intro item shown named
      obtain ⟨summary, listed, rfl⟩ := List.mem_map.mp shown
      have row := mem_of_mem_paginated listed
      have own : summary ∈ [summarize traceId (traceSpans spans workspaceId traceId)] := by
        rw [← alone]
        exact List.mem_filter.mpr ⟨row, decide_eq_true named⟩
      rw [List.mem_singleton.mp own]
    · rintro rfl whole
      have row : summarize traceId (traceSpans spans workspaceId traceId) ∈
          groupTraces (spans.filter fun span => span.workspaceId = workspaceId.toText) := by
        have own := List.mem_singleton_self (summarize traceId (traceSpans spans workspaceId traceId))
        rw [← alone] at own
        exact List.mem_of_mem_filter own
      exact List.mem_map_of_mem (mem_paginated_of_whole rfl whole row)
  · constructor
    -- The two durations are the sum and the extent.
    · intro agrees
      refine ⟨agrees.fits, ?_⟩
      rw [← sum_durationMs arranged.perm forward agrees.fits, ← agrees.extent, ← agrees.durationMs]
    · rintro ⟨fits, same⟩
      have entry := summarize_durationMs traceId forward stored fits
      have detail := sum_durationMs arranged.perm forward fits
      have first := firstStart_of_arranged arranged
      refine ⟨?_, summarize_startTime _ _, ?_, entry, fits⟩
      · rw [show (traceSummary (summarize traceId (traceSpans spans workspaceId traceId))).startTime =
          firstStart (traceSpans spans workspaceId traceId) from summarize_startTime _ _]
        exact first
      · apply Int64.toInt_inj.mp
        rw [detail, same]
        exact entry.symm

/-- A span of a trace of the nil workspace, with its times in milliseconds. -/
def spanDuring (spanId : String) (startMs durationMs : Int64) : Span :=
  { spanAt spanId (startMs * 1000000) with
    traceId := "t"
    durationNs := durationMs * 1000000 }

/-- A trace of one span is shown the same in both places. -/
theorem trace_agrees_one_span :
    ∃ detail entry,
      openService.getTrace [spanDuring "a" 3 10] .nil (sortedOrder oldestFirst) "t" = .ok detail ∧
      TraceAgrees [spanDuring "a" 3 10] detail entry := by
  -- With one span the sum of the durations is the extent.
  have own : traceSpans [spanDuring "a" 3 10] .nil "t" = [spanDuring "a" 3 10] := by
    simp [traceSpans, spanDuring, spanAt]
  obtain ⟨detail, entry, answered, _, agrees⟩ := trace_agrees_iff openService (fun _ _ => false)
    [spanDuring "a" 3 10] .nil "t" (sortedOrder oldestFirst) rfl (by simp [own]) (by
      intro span member
      rw [own, List.mem_singleton] at member
      rw [member]
      decide)
  rw [own] at agrees
  refine ⟨detail, entry, answered, agrees.mpr ⟨⟨?_, by decide, by decide⟩, by decide⟩⟩
  intro span member
  rw [List.mem_singleton.mp member]
  decide

/-- A trace whose spans overlap is shown with two durations. -/
theorem overlapping_spans_disagree :
    ¬ ∀ (service : QueryService) (like : String → String → Bool) (spans : List Span)
        (workspaceId : Uuid) (traceId : String) (order : OrderBy Span oldestFirst) (now later : Int)
        (pages : OrderBy StorageTraceSummary StorageTraceSummary.newestFirst) (detail : TraceDetail)
        (response : ApiPage TraceSummary),
      (∀ span ∈ spans, 0 ≤ span.durationNs) →
      service.getTrace spans workspaceId order traceId = .ok detail →
      service.queryTraces like spans workspaceId now later pages noTraceFilters = .ok response →
      ∀ item ∈ response.items, item.traceId = traceId → detail.durationMs = item.durationMs := by
  -- The two spans overlap, so their sum is more than their extent.
  intro always
  have forward : ∀ span ∈ [spanDuring "a" 0 10, spanDuring "b" 2 5], 0 ≤ span.durationNs := by
    refine List.forall_mem_cons.mpr ⟨by decide, List.forall_mem_cons.mpr ⟨by decide, by simp⟩⟩
  have same := always openService (fun _ _ => false) [spanDuring "a" 0 10, spanDuring "b" 2 5] .nil
    "t" (sortedOrder oldestFirst) 0 0 (sortedOrder StorageTraceSummary.newestFirst) _ _ forward rfl
    rfl _ (List.mem_singleton_self (traceSummary (summarize "t"
      [spanDuring "a" 0 10, spanDuring "b" 2 5]))) rfl
  exact absurd same (by decide)

end Zradar.Query
