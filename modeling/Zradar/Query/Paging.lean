import Zradar.Models.Span
import Zradar.Query.Reader

/-! Reading a result page by page: when the pages have every matching row exactly once. -/

namespace Zradar.Query

/-- How many pages a client asks for: up to the total, as far as 32-bit offsets reach. -/
def pageCount (size total : Nat) : Nat := (min total (2 ^ 32) + size - 1) / size

/-- The offsets that a client asks for. -/
def pageOffsets (size : UInt32) (total : Nat) : List UInt32 :=
  (List.range (pageCount size.toNat total)).map fun number => .ofNat (number * size.toNat)

section

variable {α : Type} (query : Pagination → Except String (PaginatedResponse α)) (size : UInt32)

/-- The items of the pages at some offsets, one page after the other. -/
def readPages : List UInt32 → Except String (List α)
  | [] => .ok []
  | offset :: offsets => do
    let response ← query ⟨some size, some offset⟩
    let rest ← readPages offsets
    .ok (response.items ++ rest)

/-- All that a client reads when it asks for pages until it has the total. -/
def readAll : Except String (List α) := do
  let first ← query ⟨some size, some 0⟩
  readPages query size (pageOffsets size first.total)

end

/-- Every offset that is asked for fits in 32 bits. -/
theorem offset_lt {size total number : Nat} (positive : 0 < size)
    (asked : number < pageCount size total) : number * size < 2 ^ 32 := by
  unfold pageCount at asked
  have below : (number + 1) * size ≤ min total (2 ^ 32) + size - 1 :=
    (Nat.le_div_iff_mul_le positive).mp asked
  rw [Nat.succ_mul] at below
  omega

/-- A result can be read in pages: they reach its end, and none of them ends inside a tie. -/
def PagesWell {α : Type} (key : α → Int) (rows : List α) (size : UInt32) : Prop :=
  rows.length ≤ pageCount size.toNat rows.length * size.toNat ∧
    ∀ number, CutsNoTie key rows (number * size.toNat)

section

variable {α : Type} {key : α → Int} {order : OrderBy α key} {rows : List α}
  {query : Pagination → Except String (PaginatedResponse α)} {size : UInt32}

/-- The pages of a paginated query are cut from the orders of its executions. -/
theorem readPages_paginated
    (answers : ∀ pagination, query pagination = .ok (paginated order rows pagination))
    (offsets : List UInt32) :
    readPages query size offsets = .ok (offsets.flatMap fun offset =>
      page size.toNat offset.toNat (order.arrange size.toNat offset.toNat rows)) := by
  induction offsets with
  | nil => rfl
  | cons offset offsets ih =>
    rw [readPages, answers, ih]
    rfl

/-- What a client reads of a paginated query are the pages of its engine. -/
theorem readAll_paginated (positive : 1 ≤ size)
    (answers : ∀ pagination, query pagination = .ok (paginated order rows pagination)) :
    readAll query size =
      .ok (order.pages size.toNat (pageCount size.toNat rows.length) rows) := by
  have some : 0 < size.toNat := UInt32.le_iff_toNat_le.mp positive
  have total : readAll query size = readPages query size (pageOffsets size rows.length) := by
    rw [readAll, answers]
    rfl
  rw [total, readPages_paginated answers]
  unfold pageOffsets OrderBy.pages
  rw [List.flatMap_map]
  refine congrArg Except.ok (List.flatMap_congr fun number asked => ?_)
  -- An offset that is asked for is its own 32-bit number.
  rw [UInt32.toNat_ofNat_of_lt' (offset_lt some (List.mem_range.mp asked))]

/-- A paginated query gives a client every row once exactly when its result can be read in pages. -/
theorem readAll_covers_iff (positive : 1 ≤ size)
    {query : OrderBy α key → Pagination → Except String (PaginatedResponse α)}
    (answers : ∀ order pagination, query order pagination = .ok (paginated order rows pagination)) :
    (∀ order, ∃ read, readAll (query order) size = .ok read ∧ read.Perm rows) ↔
      PagesWell key rows size := by
  have some : 0 < size.toNat := UInt32.le_iff_toNat_le.mp positive
  rw [PagesWell, ← pages_cover_iff some]
  refine forall_congr' fun order => ?_
  rw [readAll_paginated positive (answers order)]
  simp

end

/--
Reading spans, traces, logs or metrics page by page yields every matching row exactly once, for
whatever order the engine gives to ties, if and only if the matching rows can be read in pages.
-/
theorem paging_covers_iff (like : String → String → Bool) (workspaceId : Uuid) (size : UInt32)
    (positive : 1 ≤ size) :
    (∀ (spans : List Span) (filters : StorageSpanFilters), filters.workspaceId = some workspaceId →
      ((∀ order, ∃ read, readAll (fun pagination =>
            querySpans like order spans { filters with pagination := pagination }) size = .ok read ∧
          read.Perm (filters.rows like workspaceId spans)) ↔
        PagesWell newestFirst (filters.rows like workspaceId spans) size)) ∧
    (∀ (spans : List Span) (filters : StorageTraceFilters), filters.workspaceId = some workspaceId →
      ((∀ order, ∃ read, readAll (fun pagination =>
            queryTraces like order spans { filters with pagination := pagination }) size =
              .ok read ∧
          read.Perm (filters.rows like workspaceId spans)) ↔
        PagesWell StorageTraceSummary.newestFirst (filters.rows like workspaceId spans) size)) ∧
    (∀ (logs : List LogRecord) (filters : StorageLogFilters),
      filters.workspaceId = some workspaceId →
      ((∀ order, ∃ read, readAll (fun pagination =>
            queryLogs like order logs { filters with pagination := pagination }) size = .ok read ∧
          read.Perm (filters.rows like workspaceId logs)) ↔
        PagesWell newestFirst (filters.rows like workspaceId logs) size)) ∧
    ∀ (metrics : List Metric) (filters : StorageMetricFilters),
      filters.workspaceId = some workspaceId →
      ((∀ order, ∃ read, readAll (fun pagination =>
            queryMetrics like order metrics { filters with pagination := pagination }) size =
              .ok read ∧
          read.Perm (filters.rows like workspaceId metrics)) ↔
        PagesWell newestFirst (filters.rows like workspaceId metrics) size) := by
  -- The four queries take their pages from their rows in one way, under their own orders.
  refine ⟨?_, ?_, ?_, ?_⟩
  · intro spans filters given
    refine readAll_covers_iff positive fun order pagination => ?_
    rw [querySpans, given]
    rfl
  · intro spans filters given
    refine readAll_covers_iff positive fun order pagination => ?_
    rw [queryTraces, given]
    rfl
  · intro logs filters given
    refine readAll_covers_iff positive fun order pagination => ?_
    rw [queryLogs, given]
    rfl
  · intro metrics filters given
    refine readAll_covers_iff positive fun order pagination => ?_
    rw [queryMetrics, given]
    rfl

/-- A span of the nil workspace. -/
def spanAt (spanId : String) (timestamp : Int64) : Span :=
  { Span.default 0 with
    workspaceId := Uuid.nil.toText
    spanId := spanId
    timestamp := timestamp }

/-- The filters of a query for all spans of a workspace. -/
def allSpans (workspaceId : Uuid) : StorageSpanFilters where
  workspaceId := some workspaceId
  traceId := none
  timeRange := none
  serviceName := none
  spanName := none
  spanTypes := none
  status := none
  llmModel := none
  llmProvider := none
  llmResponseModel := none
  agentName := none
  sessionId := none
  railType := none
  actionName := none
  workflowRunId := none
  framework := none
  toolName := none
  invocationId := none
  environment := none
  minDurationMs := none
  maxDurationMs := none
  dbSystemName := none
  dbOperationName := none
  pagination := ⟨none, none⟩

/-- A query for all spans of a workspace matches those that are stored for it. -/
theorem allSpans_rows (like : String → String → Bool) {spans : List Span} {workspaceId : Uuid}
    (own : ∀ span ∈ spans, span.workspaceId = workspaceId.toText) :
    (allSpans workspaceId).rows like workspaceId spans = spans := by
  -- The condition on the workspace is the only one that is given.
  have conditions : (allSpans workspaceId).conditions workspaceId =
      [.equals "workspace_id" workspaceId.toText] := by
    have unequal (name : String) : equalsGiven name none = [] := rfl
    have unlike (name : String) : likeGiven name none = [] := rfl
    have untyped : typesGiven none = [] := rfl
    have always : withinGiven none = [] := rfl
    unfold StorageSpanFilters.conditions allSpans
    dsimp only
    rw [unlike, untyped, always]
    simp only [unequal, List.append_nil]
  rw [StorageSpanFilters.rows, conditions]
  refine List.filter_eq_self.mpr fun span member => ?_
  have given : column "workspace_id" span = some span.workspaceId := Row.workspaceField span
  simp only [List.all_cons, List.all_nil, Condition.holds, Bool.and_true, decide_eq_true_eq]
  rw [given, own span member]

/-- Two spans with different timestamps are both read, one by one. -/
theorem paging_covers_two_times :
    (1 : UInt32) ≤ 1 ∧ ∀ order, ∃ read,
      readAll (fun pagination => querySpans (fun _ _ => false) order [spanAt "a" 1, spanAt "b" 2]
        { allSpans .nil with pagination := pagination }) 1 = .ok read ∧
      read.Perm [spanAt "a" 1, spanAt "b" 2] := by
  have rows : (allSpans .nil).rows (fun _ _ => false) .nil [spanAt "a" 1, spanAt "b" 2] =
      [spanAt "a" 1, spanAt "b" 2] := allSpans_rows _ (by simp [spanAt])
  have well : PagesWell newestFirst [spanAt "a" 1, spanAt "b" 2] 1 :=
    ⟨by decide, fun _ => cutsNoTie_of_nodup (by decide)⟩
  have covers := (paging_covers_iff (fun _ _ => false) .nil 1 (by decide)).1
    [spanAt "a" 1, spanAt "b" 2] (allSpans .nil) rfl
  rw [rows] at covers
  exact ⟨by decide, covers.mpr well⟩

/-- Two spans with one timestamp can be read as one of them twice. -/
theorem paging_repeats_a_tie :
    ¬ ∀ (like : String → String → Bool) (order : OrderBy Span newestFirst) (spans : List Span)
        (filters : StorageSpanFilters) (workspaceId : Uuid) (size : UInt32), 1 ≤ size →
      filters.workspaceId = some workspaceId → ∃ read,
        readAll (fun pagination =>
          querySpans like order spans { filters with pagination := pagination }) size = .ok read ∧
        read.Perm (filters.rows like workspaceId spans) := by
  intro always
  have rows : (allSpans .nil).rows (fun _ _ => false) .nil [spanAt "a" 1, spanAt "b" 1] =
      [spanAt "a" 1, spanAt "b" 1] := allSpans_rows _ (by simp [spanAt])
  have well : PagesWell newestFirst [spanAt "a" 1, spanAt "b" 1] 1 := by
    rw [← rows]
    refine (readAll_covers_iff (by decide) fun order pagination => ?_).mp fun order =>
      always (fun _ _ => false) order [spanAt "a" 1, spanAt "b" 1] (allSpans .nil) .nil 1
        (by decide) rfl
    rfl
  -- The first page ends between the two spans.
  have same := well.2 1 (spanAt "a" 1) (by simp) (by decide) (by decide) (spanAt "b" 1) (by simp) rfl
  have names := congrArg Span.spanId same
  simp [spanAt] at names

end Zradar.Query
