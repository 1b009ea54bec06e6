import Zradar.Policies.Usage

/-! The usage reader over Postgres, and how its readings compare with those of the tracker. -/

namespace Zradar.Policies

open InMemoryUsageTracker

/-- A sample of usage, as it is reported to every tracker. -/
inductive UsageEvent where
  | write (sample : WriteSample)
  | query (sample : QuerySample)
  deriving DecidableEq

/-- A signal as it is written in the columns of the tables. -/
def signalKind : SignalKind → String
  | .traces => "traces"
  | .logs => "logs"
  | .metrics => "metrics"
  | .rum => "rum"
  | .sessionReplay => "session_replay"
  | .errorTracking => "error_tracking"
  | .all => "all"

/-- A row of the table of ingestion events. -/
structure IngestionEvent where
  workspaceId : WorkspaceId
  signalKind : String
  compressedBytes : Int64
  records : Int64
  flushedAt : Int64
  deriving DecidableEq

/-- A row of the table of query events. -/
structure QueryEvent where
  workspaceId : WorkspaceId
  signalKind : String
  bytesScanned : Int64
  submittedAt : Int64
  deriving DecidableEq

structure UsageTables where
  ingestionEvents : List IngestionEvent
  queryEvents : List QueryEvent

/-- The row that a write is inserted as. -/
def insertedWrite (sample : WriteSample) : IngestionEvent where
  workspaceId := sample.workspaceId
  signalKind := signalKind sample.signal
  compressedBytes := sample.compressedBytes
  records := sample.records
  flushedAt := sample.flushedAt

/-- The row that a query is inserted as. -/
def insertedQuery (sample : QuerySample) : QueryEvent where
  workspaceId := sample.workspaceId
  signalKind := signalKind sample.signal
  bytesScanned := sample.bytesScanned
  submittedAt := sample.submittedAt

/-- Whether a row is of a workspace and of a signal, which is not compared when it is all. -/
def IngestionEvent.isOf (row : IngestionEvent) (workspaceId : WorkspaceId) (signal : SignalKind) :
    Bool :=
  if signal = .all then row.workspaceId = workspaceId
  else row.workspaceId = workspaceId && row.signalKind = Policies.signalKind signal

def QueryEvent.isOf (row : QueryEvent) (workspaceId : WorkspaceId) (signal : SignalKind) : Bool :=
  if signal = .all then row.workspaceId = workspaceId
  else row.workspaceId = workspaceId && row.signalKind = Policies.signalKind signal

/-- A sum as a `bigint`, which the database refuses outside the range. -/
def bigint (total : Int) : Except String Int64 :=
  if -2 ^ 63 ≤ total ∧ total < 2 ^ 63 then .ok (Int64.ofInt total)
  else .error "error returned from database: bigint out of range"

/-- The sum of a column, with zero when there is no row. -/
def sumOf {α : Type} (column : α → Int64) (rows : List α) : Except String Int64 :=
  bigint (rows.map fun row => (column row).toInt).sum

namespace PostgresUsageReader

variable (tables : UsageTables)

/-- The rate over the last second, at a reading of the clock. -/
def currentRate (nowMicros : Int64) (workspaceId : WorkspaceId) (signal : SignalKind)
    (operation : Operation) : Except String RateSample := do
  let cutoff := Saturating.sub nowMicros 1000000
  let (recordsPerSec, bytesPerSec) ← match operation with
    | .ingest =>
      let rows := tables.ingestionEvents.filter fun row =>
        row.isOf workspaceId signal && cutoff ≤ row.flushedAt
      pure (← sumOf IngestionEvent.records rows, ← sumOf IngestionEvent.compressedBytes rows)
    | .query =>
      let rows := tables.queryEvents.filter fun row =>
        row.isOf workspaceId signal && cutoff ≤ row.submittedAt
      pure (← bigint rows.length, ← sumOf QueryEvent.bytesScanned rows)
    | .store | .all => pure (0, 0)
  pure {
    recordsPerSec := toU64OrZero recordsPerSec
    bytesPerSec := toU64OrZero bytesPerSec
    sampledAtMicros := nowMicros }

/-- The bytes that were used in a period. -/
def periodUsedBytes (workspaceId : WorkspaceId) (signal : SignalKind) (operation : Operation)
    (periodStart : Int64) (periodEnd : Option Int64) : Except String Int64 :=
  match operation with
  | .ingest =>
    sumOf IngestionEvent.compressedBytes <| tables.ingestionEvents.filter fun row =>
      row.isOf workspaceId signal && periodStart ≤ row.flushedAt &&
        periodEnd.all fun ending => row.flushedAt < ending
  | .query =>
    sumOf QueryEvent.bytesScanned <| tables.queryEvents.filter fun row =>
      row.isOf workspaceId signal && periodStart ≤ row.submittedAt &&
        periodEnd.all fun ending => row.submittedAt < ending
  | .store | .all => .ok 0

end PostgresUsageReader

namespace UsageEvent

/-- What the tracker keeps a sample under. -/
def key : UsageEvent → UsageKey
  | .write sample => ⟨sample.workspaceId, sample.signal, .ingest⟩
  | .query sample => ⟨sample.workspaceId, sample.signal, .query⟩

def atMicros : UsageEvent → Int64
  | .write sample => sample.flushedAt
  | .query sample => sample.submittedAt

/-- The records that a sample stands for, which is one for a query. -/
def records : UsageEvent → Int
  | .write sample => sample.records.toInt
  | .query _ => 1

def bytes : UsageEvent → Int
  | .write sample => sample.compressedBytes.toInt
  | .query sample => sample.bytesScanned.toInt

/-- The row of ingestion events that a sample is inserted as. -/
def ingestionRow : UsageEvent → Option IngestionEvent
  | .write sample => some (insertedWrite sample)
  | .query _ => none

/-- The row of query events that a sample is inserted as. -/
def queryRow : UsageEvent → Option QueryEvent
  | .write _ => none
  | .query sample => some (insertedQuery sample)

/-- The point of usage that a sample is recorded as. -/
def point : UsageEvent → UsagePoint
  | .write sample =>
    ⟨sample.flushedAt, toU64OrZero sample.records, toU64OrZero sample.compressedBytes⟩
  | .query sample => ⟨sample.submittedAt, 1, toU64OrZero sample.bytesScanned⟩

end UsageEvent

/-- Report a sample to the tracker. -/
def InMemoryUsageTracker.record (tracker : InMemoryUsageTracker) :
    UsageEvent → InMemoryUsageTracker
  | .write sample => tracker.recordWrite sample
  | .query sample => tracker.recordQuery sample

/-- The tracker behind a history of samples. -/
def trackerOf (history : List UsageEvent) : InMemoryUsageTracker :=
  history.foldl InMemoryUsageTracker.record ⟨[], []⟩

/-- Every sample of a history is in the tables, in whichever order they were flushed. -/
structure Flushed (tables : UsageTables) (history : List UsageEvent) : Prop where
  writes : tables.ingestionEvents.Perm (history.filterMap UsageEvent.ingestionRow)
  queries : tables.queryEvents.Perm (history.filterMap UsageEvent.queryRow)

/-- No count of a history is negative, and the sums are in the range. -/
structure Countable (history : List UsageEvent) : Prop where
  positive : ∀ event ∈ history, 0 ≤ event.records ∧ 0 ≤ event.bytes
  records : (history.map UsageEvent.records).sum < 2 ^ 63 - 1
  bytes : (history.map UsageEvent.bytes).sum < 2 ^ 63 - 1

/-- The samples of a history that count for a workspace, a signal and an operation in a window. -/
def counted (history : List UsageEvent) (workspaceId : WorkspaceId) (signal : SignalKind)
    (operation : Operation) (window : Int64 → Bool) : List UsageEvent :=
  history.filter fun event =>
    usageKeyMatches event.key workspaceId signal operation && window event.atMicros

/-- The window of the last second. -/
def lastSecond (nowMicros atMicros : Int64) : Bool := Saturating.sub nowMicros 1000000 ≤ atMicros

/-- The window of a period. -/
def ofPeriod (periodStart : Int64) (periodEnd : Option Int64) (atMicros : Int64) : Bool :=
  periodStart ≤ atMicros && periodEnd.all fun ending => atMicros < ending

/-- The rate that samples come to, in exact arithmetic. -/
def rateOf (events : List UsageEvent) (nowMicros : Int64) : RateSample where
  recordsPerSec := UInt64.ofNat (events.map UsageEvent.records).sum.toNat
  bytesPerSec := UInt64.ofNat (events.map UsageEvent.bytes).sum.toNat
  sampledAtMicros := nowMicros

/-- The bytes that samples come to, in exact arithmetic. -/
def usedOf (events : List UsageEvent) : Int64 := Int64.ofInt (events.map UsageEvent.bytes).sum

/-! What the tracker reads. -/

section

variable {history : List UsageEvent} {workspaceId : WorkspaceId} {signal : SignalKind}
  {operation : Operation}

theorem record_events (tracker : InMemoryUsageTracker) (event : UsageEvent) :
    (tracker.record event).events = addFirstSeen event.key event.point tracker.events := by
  cases event <;> rfl

/-- The points of the tracker are those of the samples that count. -/
theorem points_trackerOf (history : List UsageEvent) (workspaceId : WorkspaceId)
    (signal : SignalKind) (operation : Operation) :
    ((trackerOf history).points workspaceId signal operation).Perm
      ((history.filter fun event =>
        usageKeyMatches event.key workspaceId signal operation).map UsageEvent.point) := by
  unfold trackerOf
  -- Samples are recorded at the end, so the induction takes them off there.
  induction history using List.reverseRecOn with
  | nil => simp [points]
  | append_singleton history event ih =>
    rw [List.foldl_append, List.foldl_cons, List.foldl_nil, List.filter_append, List.map_append,
      points, record_events]
    apply (perm_flatMap_addFirstSeen
      (fun key => usageKeyMatches key workspaceId signal operation) _).trans
    cases matching : usageKeyMatches event.key workspaceId signal operation
    · simpa [matching, points] using ih
    · simpa [matching, points] using ih.append_right _

@[simp] theorem point_atMicros (event : UsageEvent) : event.point.atMicros = event.atMicros := by
  cases event <;> rfl

/-- A count that is not negative is read as itself. -/
theorem toU64OrZero_toNat {value : Int64} (positive : 0 ≤ value.toInt) :
    ((toU64OrZero value).toNat : Int) = value.toInt := by
  -- The value is in the range of both types.
  have small := value.toInt_lt
  rw [toU64OrZero, UInt64.toNat_ofNat_of_lt']
  · omega
  · simp only [UInt64.size]
    omega

theorem point_records {event : UsageEvent} (positive : 0 ≤ event.records) :
    (event.point.records.toNat : Int) = event.records := by
  cases event with
  | write sample => exact toU64OrZero_toNat positive
  | query sample => rfl

theorem point_bytes {event : UsageEvent} (positive : 0 ≤ event.bytes) :
    (event.point.bytes.toNat : Int) = event.bytes := by
  cases event with
  | write sample => exact toU64OrZero_toNat positive
  | query sample => exact toU64OrZero_toNat positive

/-- The points in a window are those of the samples that are counted. -/
theorem filter_points_perm (window : Int64 → Bool) :
    (((trackerOf history).points workspaceId signal operation).filter
      fun point => window point.atMicros).Perm
      ((counted history workspaceId signal operation window).map UsageEvent.point) := by
  -- The window is asked for the time of a sample on both sides.
  apply ((points_trackerOf history workspaceId signal operation).filter _).trans
  simp only [List.filter_map, Function.comp_def, point_atMicros, List.filter_filter, counted,
    Bool.and_comm]
  exact List.Perm.refl _

/-- A part of a history adds up to no more than the whole. -/
theorem sum_filter_le {count : UsageEvent → Int} (positive : ∀ event ∈ history, 0 ≤ count event)
    (chosen : UsageEvent → Bool) :
    0 ≤ ((history.filter chosen).map count).sum ∧
      ((history.filter chosen).map count).sum ≤ (history.map count).sum := by
  -- An event that is left out would have added nothing below zero.
  induction history with
  | nil => simp
  | cons event history ih =>
    have here := positive event List.mem_cons_self
    have rest := ih fun other member => positive other (List.mem_cons_of_mem event member)
    rw [List.filter_cons]
    split <;> simp only [List.map_cons, List.sum_cons] <;> omega

/-- So what is counted of a history is in the range as well. -/
theorem Countable.filter (countable : Countable history) (chosen : UsageEvent → Bool) :
    Countable (history.filter chosen) where
  positive := fun event member => countable.positive event (List.mem_of_mem_filter member)
  records := (sum_filter_le (fun event member => (countable.positive event member).1)
    chosen).2.trans_lt countable.records
  bytes := (sum_filter_le (fun event member => (countable.positive event member).2)
    chosen).2.trans_lt countable.bytes

theorem Countable.counted (countable : Countable history) (workspaceId : WorkspaceId)
    (signal : SignalKind) (operation : Operation) (window : Int64 → Bool) :
    Countable (counted history workspaceId signal operation window) :=
  countable.filter _

theorem Countable.records_nonneg (countable : Countable history) :
    0 ≤ (history.map UsageEvent.records).sum :=
  List.sum_nonneg (by simpa using fun event member => (countable.positive event member).1)

theorem Countable.bytes_nonneg (countable : Countable history) :
    0 ≤ (history.map UsageEvent.bytes).sum :=
  List.sum_nonneg (by simpa using fun event member => (countable.positive event member).2)

/-- The exact totals of the points in a window are those of the samples that are counted. -/
theorem totals_of_points (countable : Countable history) (workspaceId : WorkspaceId)
    (signal : SignalKind) (operation : Operation) (window : Int64 → Bool) :
    let points := ((trackerOf history).points workspaceId signal operation).filter
      fun point => window point.atMicros
    let events := counted history workspaceId signal operation window
    (totalRecords points : Int) = (events.map UsageEvent.records).sum ∧
      (totalBytes points : Int) = (events.map UsageEvent.bytes).sum := by
  intro points events
  have same : points.Perm (events.map UsageEvent.point) := filter_points_perm window
  have positive := (countable.counted workspaceId signal operation window).positive
  constructor
  · rw [totalRecords, (same.map _).sum_eq, List.map_map, Nat.cast_list_sum, List.map_map]
    congr 1
    exact List.map_congr_left fun event member => point_records (positive event member).1
  · rw [totalBytes, (same.map _).sum_eq, List.map_map, Nat.cast_list_sum, List.map_map]
    congr 1
    exact List.map_congr_left fun event member => point_bytes (positive event member).2

/-- A total in the range is not cut off. -/
theorem eq_ofNat_of_total {value : UInt64} {total : Nat} {sum : Int}
    (read : value.toNat = min (2 ^ 64 - 1) total) (same : (total : Int) = sum)
    (small : sum < 2 ^ 63 - 1) : value = UInt64.ofNat sum.toNat := by
  subst same
  rw [← UInt64.toNat_inj, read, Int.toNat_natCast, UInt64.toNat_ofNat_of_lt']
  · omega
  · simp only [UInt64.size]
    omega

/-- The rate that the tracker reads is exact. -/
theorem currentRate_trackerOf (countable : Countable history) (nowMicros : Int64)
    (workspaceId : WorkspaceId) (signal : SignalKind) (operation : Operation) :
    (trackerOf history).currentRate nowMicros workspaceId signal operation =
      rateOf (counted history workspaceId signal operation (lastSecond nowMicros)) nowMicros := by
  obtain ⟨records, bytes⟩ := currentRate_toNat (trackerOf history) workspaceId signal operation
    nowMicros
  have totals := totals_of_points countable workspaceId signal operation (lastSecond nowMicros)
  have events := countable.counted workspaceId signal operation (lastSecond nowMicros)
  -- Both numbers are below the point where the sums are cut off.
  have sameRecords := eq_ofNat_of_total records totals.1 events.records
  have sameBytes := eq_ofNat_of_total bytes totals.2 events.bytes
  rw [rateOf, ← sameRecords, ← sameBytes]
  rfl

/-- The usage of a period that the tracker reads is exact. -/
theorem periodUsedBytes_trackerOf (countable : Countable history) (workspaceId : WorkspaceId)
    (signal : SignalKind) (operation : Operation) (periodStart : Int64)
    (periodEnd : Option Int64) :
    (trackerOf history).periodUsedBytes workspaceId signal operation periodStart periodEnd =
      usedOf (counted history workspaceId signal operation (ofPeriod periodStart periodEnd)) := by
  have used := periodUsedBytes_toInt (trackerOf history) workspaceId signal operation periodStart
    periodEnd
  have total := (totals_of_points countable workspaceId signal operation
    (ofPeriod periodStart periodEnd)).2
  have events := countable.counted workspaceId signal operation (ofPeriod periodStart periodEnd)
  -- The number is below the point where the sum is cut off.
  have small := total.trans_lt events.bytes
  have exact : ((trackerOf history).periodUsedBytes workspaceId signal operation periodStart
      periodEnd).toInt = _ := used.trans ((min_eq_right (le_of_lt small)).trans total)
  rw [usedOf, ← exact, Int64.ofInt_toInt]

end

/-! What Postgres reads. -/

section

variable {tables : UsageTables} {history : List UsageEvent}

theorem signalKind_injective : Function.Injective signalKind := by
  intro first second same
  cases first <;> cases second <;> first | rfl | exact absurd same (by decide)

/--
A table reads what the items it was filled from would.

Items without a row do not count, and the others count when their row is selected.
-/
theorem map_filter_filterMap {α β γ : Type} {row : α → Option β} {selects : β → Bool}
    {counts : α → Bool} {column : β → γ} {count : α → γ}
    (absent : ∀ item, row item = none → counts item = false)
    (present : ∀ item stored, row item = some stored →
      selects stored = counts item ∧ column stored = count item) (items : List α) :
    ((items.filterMap row).filter selects).map column = (items.filter counts).map count := by
  induction items with
  | nil => rfl
  | cons item items ih =>
    cases found : row item with
    | none => simp [found, absent item found, ih]
    | some stored =>
      obtain ⟨selected, same⟩ := present item stored found
      cases chosen : counts item <;> simp [found, chosen, selected, same, ih]

/-- The selected rows of ingestion events are the samples that count for an ingest. -/
theorem map_ingestionRows (column : IngestionEvent → Int) (count : UsageEvent → Int)
    (reads : ∀ sample, column (insertedWrite sample) = count (.write sample))
    (history : List UsageEvent) (workspaceId : WorkspaceId) (signal : SignalKind)
    (window : Int64 → Bool) :
    ((history.filterMap UsageEvent.ingestionRow).filter fun row =>
      row.isOf workspaceId signal && window row.flushedAt).map column =
      (counted history workspaceId signal .ingest window).map count := by
  apply map_filter_filterMap
  · intro event absent
    cases event with
    | write sample => cases absent
    | query sample => simp [usageKeyMatches, UsageEvent.key]
  · intro event row present
    cases event with
    | query sample => cases present
    | write sample =>
      cases present
      refine ⟨?_, reads sample⟩
      -- The texts of two signals are the same only when the signals are.
      rw [Bool.eq_iff_iff]
      by_cases everything : signal = .all <;>
        simp only [IngestionEvent.isOf, usageKeyMatches, everything, if_true, if_false,
          Bool.and_eq_true, Bool.or_eq_true, decide_eq_true_eq] <;>
        simp [insertedWrite, UsageEvent.key, UsageEvent.atMicros, signalKind_injective.eq_iff]

/-- The selected rows of query events are the samples that count for a query. -/
theorem map_queryRows (column : QueryEvent → Int) (count : UsageEvent → Int)
    (reads : ∀ sample, column (insertedQuery sample) = count (.query sample))
    (history : List UsageEvent) (workspaceId : WorkspaceId) (signal : SignalKind)
    (window : Int64 → Bool) :
    ((history.filterMap UsageEvent.queryRow).filter fun row =>
      row.isOf workspaceId signal && window row.submittedAt).map column =
      (counted history workspaceId signal .query window).map count := by
  -- A write is no row of this table, and a query matches as its row does.
  apply map_filter_filterMap
  · intro event absent
    cases event with
    | query sample => cases absent
    | write sample => simp [usageKeyMatches, UsageEvent.key]
  · intro event row present
    cases event with
    | write sample => cases present
    | query sample =>
      cases present
      refine ⟨?_, reads sample⟩
      rw [Bool.eq_iff_iff]
      by_cases everything : signal = .all <;>
        simp only [QueryEvent.isOf, usageKeyMatches, everything, if_true, if_false,
          Bool.and_eq_true, Bool.or_eq_true, decide_eq_true_eq] <;>
        simp [insertedQuery, UsageEvent.key, UsageEvent.atMicros, signalKind_injective.eq_iff]

/-- The samples whose rows the queries of the reader sum, which are none for all operations. -/
def summed (history : List UsageEvent) (workspaceId : WorkspaceId) (signal : SignalKind)
    (operation : Operation) (window : Int64 → Bool) : List UsageEvent :=
  if operation = .all then [] else counted history workspaceId signal operation window

/-- A sum in the range is read as it is. -/
theorem bigint_of_small {total : Int} (positive : 0 ≤ total) (small : total < 2 ^ 63 - 1) :
    bigint total = .ok (Int64.ofInt total) := by
  rw [bigint, if_pos (by omega)]

/-- No sample is one of storage. -/
theorem counted_store (history : List UsageEvent) (workspaceId : WorkspaceId)
    (signal : SignalKind) (window : Int64 → Bool) :
    counted history workspaceId signal .store window = [] := by
  rw [counted, List.filter_eq_nil_iff]
  intro event _
  cases event <;> simp [usageKeyMatches, UsageEvent.key]

/-- The sum that the reader takes over ingestion events is that of the samples that count. -/
theorem sumOf_ingestion (column : IngestionEvent → Int64) (count : UsageEvent → Int)
    (reads : ∀ sample, (column (insertedWrite sample)).toInt = count (.write sample))
    (flushed : Flushed tables history) (workspaceId : WorkspaceId) (signal : SignalKind)
    (window : Int64 → Bool) :
    sumOf column (tables.ingestionEvents.filter fun row =>
      row.isOf workspaceId signal && window row.flushedAt) =
      bigint ((counted history workspaceId signal .ingest window).map count).sum := by
  rw [sumOf, ((flushed.writes.filter _).map _).sum_eq]
  exact congrArg (fun counts => bigint counts.sum)
    (map_ingestionRows (fun row => (column row).toInt) count reads history workspaceId signal window)

theorem sumOf_queries (column : QueryEvent → Int64) (count : UsageEvent → Int)
    (reads : ∀ sample, (column (insertedQuery sample)).toInt = count (.query sample))
    (flushed : Flushed tables history) (workspaceId : WorkspaceId) (signal : SignalKind)
    (window : Int64 → Bool) :
    sumOf column (tables.queryEvents.filter fun row =>
      row.isOf workspaceId signal && window row.submittedAt) =
      bigint ((counted history workspaceId signal .query window).map count).sum := by
  rw [sumOf, ((flushed.queries.filter _).map _).sum_eq]
  exact congrArg (fun counts => bigint counts.sum)
    (map_queryRows (fun row => (column row).toInt) count reads history workspaceId signal window)

/-- The number of selected queries is the number of records that they stand for. -/
theorem length_queries (flushed : Flushed tables history) (workspaceId : WorkspaceId)
    (signal : SignalKind) (window : Int64 → Bool) :
    ((tables.queryEvents.filter fun row =>
      row.isOf workspaceId signal && window row.submittedAt).length : Int) =
      ((counted history workspaceId signal .query window).map UsageEvent.records).sum := by
  rw [(flushed.queries.filter _).length_eq,
    ← map_queryRows (fun _ => 1) _ (fun _ => rfl) history workspaceId signal window]
  simp

/-- A total in the range is read as a count. -/
theorem toU64OrZero_ofInt {total : Int} (positive : 0 ≤ total) (small : total < 2 ^ 63 - 1) :
    toU64OrZero (Int64.ofInt total) = UInt64.ofNat total.toNat := by
  rw [toU64OrZero, Int64.toInt_ofInt_of_le (by omega) (by omega)]

/-- The rate that Postgres reads is exact, except that it counts nothing for all operations. -/
theorem currentRate_postgres (flushed : Flushed tables history) (countable : Countable history)
    (nowMicros : Int64) (workspaceId : WorkspaceId) (signal : SignalKind)
    (operation : Operation) :
    PostgresUsageReader.currentRate tables nowMicros workspaceId signal operation =
      .ok (rateOf (summed history workspaceId signal operation (lastSecond nowMicros))
        nowMicros) := by
  -- Each operation has its own table, and other operations have none.
  cases operation with
  | ingest =>
    have range := countable.counted workspaceId signal .ingest (lastSecond nowMicros)
    have records := sumOf_ingestion IngestionEvent.records UsageEvent.records (fun _ => rfl) flushed
      workspaceId signal (lastSecond nowMicros)
    have bytes := sumOf_ingestion IngestionEvent.compressedBytes UsageEvent.bytes (fun _ => rfl)
      flushed workspaceId signal (lastSecond nowMicros)
    rw [bigint_of_small range.records_nonneg range.records] at records
    rw [bigint_of_small range.bytes_nonneg range.bytes] at bytes
    rw [summed, if_neg (by decide), rateOf, ← toU64OrZero_ofInt range.records_nonneg range.records,
      ← toU64OrZero_ofInt range.bytes_nonneg range.bytes]
    unfold lastSecond at records bytes ⊢
    simp only [PostgresUsageReader.currentRate, records, bytes]
    rfl
  | query =>
    have range := countable.counted workspaceId signal .query (lastSecond nowMicros)
    have records := length_queries flushed workspaceId signal (lastSecond nowMicros)
    have bytes := sumOf_queries QueryEvent.bytesScanned UsageEvent.bytes (fun _ => rfl)
      flushed workspaceId signal (lastSecond nowMicros)
    rw [bigint_of_small range.bytes_nonneg range.bytes] at bytes
    have count := bigint_of_small range.records_nonneg range.records
    rw [← records] at count
    rw [summed, if_neg (by decide), rateOf, ← toU64OrZero_ofInt range.records_nonneg range.records,
      ← toU64OrZero_ofInt range.bytes_nonneg range.bytes, ← records]
    unfold lastSecond at count bytes ⊢
    simp only [PostgresUsageReader.currentRate, count, bytes]
    rfl
  | store =>
    rw [summed, if_neg (by decide), counted_store]
    rfl
  | all => rfl

/-- So is the usage of a period. -/
theorem periodUsedBytes_postgres (flushed : Flushed tables history)
    (countable : Countable history) (workspaceId : WorkspaceId) (signal : SignalKind)
    (operation : Operation) (periodStart : Int64) (periodEnd : Option Int64) :
    PostgresUsageReader.periodUsedBytes tables workspaceId signal operation periodStart periodEnd =
      .ok (usedOf (summed history workspaceId signal operation
        (ofPeriod periodStart periodEnd))) := by
  -- Each operation has its own table, and other operations have none.
  cases operation with
  | ingest =>
    have range := countable.counted workspaceId signal .ingest (ofPeriod periodStart periodEnd)
    have bytes := sumOf_ingestion IngestionEvent.compressedBytes UsageEvent.bytes (fun _ => rfl)
      flushed workspaceId signal (ofPeriod periodStart periodEnd)
    rw [bigint_of_small range.bytes_nonneg range.bytes] at bytes
    rw [summed, if_neg (by decide), usedOf]
    simpa only [PostgresUsageReader.periodUsedBytes, ofPeriod, Bool.and_assoc] using bytes
  | query =>
    have range := countable.counted workspaceId signal .query (ofPeriod periodStart periodEnd)
    have bytes := sumOf_queries QueryEvent.bytesScanned UsageEvent.bytes (fun _ => rfl)
      flushed workspaceId signal (ofPeriod periodStart periodEnd)
    rw [bigint_of_small range.bytes_nonneg range.bytes] at bytes
    rw [summed, if_neg (by decide), usedOf]
    simpa only [PostgresUsageReader.periodUsedBytes, ofPeriod, Bool.and_assoc] using bytes
  | store =>
    rw [summed, if_neg (by decide), counted_store]
    rfl
  | all => rfl

/-- What samples count for adds up to zero only when none of them counts for anything. -/
theorem sum_eq_zero_iff {count : UsageEvent → Int} {events : List UsageEvent}
    (positive : ∀ event ∈ events, 0 ≤ count event) :
    (events.map count).sum = 0 ↔ ∀ event ∈ events, count event = 0 := by
  -- Counts that are not negative add up to zero only if each of them is zero.
  constructor
  · intro nothing event member
    exact List.all_zero_of_le_zero_le_of_sum_eq_zero (by simpa using positive) nothing
      (List.mem_map_of_mem member)
  · intro nothing
    exact List.sum_eq_zero (by simpa using nothing)

/-- A count is zero only when its total in the range is. -/
theorem eq_zero_of_ofNat {total : Int} (positive : 0 ≤ total) (small : total < 2 ^ 63 - 1)
    (zero : 0 = UInt64.ofNat total.toNat) : total = 0 := by
  -- A number in the range is the one that was written.
  have value := congrArg UInt64.toNat zero
  rw [UInt64.toNat_ofNat_of_lt' (by simp only [UInt64.size]; omega)] at value
  change 0 = _ at value
  omega

/-- Samples have the rate of no samples only when none of them counts for anything. -/
theorem rateOf_nil_eq_iff {events : List UsageEvent} (countable : Countable events)
    (nowMicros : Int64) :
    rateOf [] nowMicros = rateOf events nowMicros ↔
      ∀ event ∈ events, event.records = 0 ∧ event.bytes = 0 := by
  -- The rate of nothing is zero records and zero bytes.
  have records := sum_eq_zero_iff fun event member => (countable.positive event member).1
  have bytes := sum_eq_zero_iff fun event member => (countable.positive event member).2
  constructor
  · intro same event member
    obtain ⟨sameRecords, sameBytes, -⟩ := RateSample.mk.inj same
    have none := eq_zero_of_ofNat countable.records_nonneg countable.records sameRecords
    have free := eq_zero_of_ofNat countable.bytes_nonneg countable.bytes sameBytes
    exact ⟨records.mp none event member, bytes.mp free event member⟩
  · intro nothing
    have none := records.mpr fun event member => (nothing event member).1
    have free := bytes.mpr fun event member => (nothing event member).2
    simp [rateOf, none, free]

/-- So it is with the usage of a period. -/
theorem usedOf_nil_eq_iff {events : List UsageEvent} (countable : Countable events) :
    usedOf [] = usedOf events ↔ ∀ event ∈ events, event.bytes = 0 := by
  -- The bytes of nothing are zero.
  have positive := countable.bytes_nonneg
  have small := countable.bytes
  rw [← sum_eq_zero_iff fun event member => (countable.positive event member).2]
  constructor
  · intro same
    have value := congrArg Int64.toInt same
    rw [usedOf, usedOf, Int64.toInt_ofInt_of_le (n := (events.map UsageEvent.bytes).sum)
      (by omega) (by omega)] at value
    exact value.symm
  · intro nothing
    simp [usedOf, nothing]

end

/-- Both readers answer alike, at one reading of the clock and for one period. -/
structure ReadersAgree (tables : UsageTables) (tracker : InMemoryUsageTracker) (nowMicros : Int64)
    (workspaceId : WorkspaceId) (signal : SignalKind) (operation : Operation)
    (periodStart : Int64) (periodEnd : Option Int64) : Prop where
  rate : PostgresUsageReader.currentRate tables nowMicros workspaceId signal operation =
    (tracker.reader nowMicros).currentRate workspaceId signal operation
  period : PostgresUsageReader.periodUsedBytes tables workspaceId signal operation periodStart
      periodEnd =
    (tracker.reader nowMicros).periodUsedBytes workspaceId signal operation periodStart periodEnd

/--
The readers agree, except on the usage of all operations.

There Postgres reads nothing, which is right only when nothing was used.
-/
theorem readersAgree_iff {tables : UsageTables} {history : List UsageEvent}
    (flushed : Flushed tables history) (countable : Countable history) (nowMicros : Int64)
    (workspaceId : WorkspaceId) (signal : SignalKind) (operation : Operation)
    (periodStart : Int64) (periodEnd : Option Int64) :
    ReadersAgree tables (trackerOf history) nowMicros workspaceId signal operation periodStart
      periodEnd ↔
      (operation = .all → ∀ event ∈ history,
        usageKeyMatches event.key workspaceId signal .all →
          (lastSecond nowMicros event.atMicros → event.records = 0 ∧ event.bytes = 0) ∧
          (ofPeriod periodStart periodEnd event.atMicros → event.bytes = 0)) := by
  have rates := currentRate_postgres flushed countable nowMicros workspaceId signal operation
  have periods := periodUsedBytes_postgres flushed countable workspaceId signal operation
    periodStart periodEnd
  have trackedRate : ((trackerOf history).reader nowMicros).currentRate workspaceId signal
      operation = .ok _ :=
    congrArg Except.ok (currentRate_trackerOf countable nowMicros workspaceId signal operation)
  have trackedPeriod : ((trackerOf history).reader nowMicros).periodUsedBytes workspaceId signal
      operation periodStart periodEnd = .ok _ :=
    congrArg Except.ok (periodUsedBytes_trackerOf countable workspaceId signal operation
      periodStart periodEnd)
  -- Both answers are in exact arithmetic, so only the samples they are over can differ.
  have agree : ReadersAgree tables (trackerOf history) nowMicros workspaceId signal operation
      periodStart periodEnd ↔
      rateOf (summed history workspaceId signal operation (lastSecond nowMicros)) nowMicros =
        rateOf (counted history workspaceId signal operation (lastSecond nowMicros)) nowMicros ∧
      usedOf (summed history workspaceId signal operation (ofPeriod periodStart periodEnd)) =
        usedOf (counted history workspaceId signal operation
          (ofPeriod periodStart periodEnd)) := by
    constructor
    · intro agreed
      have rate := rates.symm.trans (agreed.rate.trans trackedRate)
      have period := periods.symm.trans (agreed.period.trans trackedPeriod)
      exact ⟨Except.ok.inj rate, Except.ok.inj period⟩
    · intro same
      constructor
      · rw [rates, trackedRate, same.1]
      · rw [periods, trackedPeriod, same.2]
  rw [agree]
  by_cases everything : operation = .all
  · subst everything
    simp only [summed, if_true, true_implies]
    rw [rateOf_nil_eq_iff (countable.counted workspaceId signal .all _),
      usedOf_nil_eq_iff (countable.counted workspaceId signal .all _)]
    simp only [counted, List.mem_filter, Bool.and_eq_true]
    constructor
    · intro nothing event member matching
      exact ⟨fun recent => nothing.1 event ⟨member, matching, recent⟩,
        fun within => nothing.2 event ⟨member, matching, within⟩⟩
    · intro nothing
      exact ⟨fun event found => (nothing event found.1 found.2.1).1 found.2.2,
        fun event found => (nothing event found.1 found.2.1).2 found.2.2⟩
  · rw [summed, summed, if_neg everything, if_neg everything]
    exact ⟨fun _ all => absurd all everything, fun _ => ⟨rfl, rfl⟩⟩

/-- A write of ten records in a hundred bytes, and a query that scanned fifty. -/
def writeAndQuery : List UsageEvent :=
  [.write ⟨Uuid.nil, .traces, 100, 10, 5000000⟩, .query ⟨Uuid.nil, .traces, 50, 5000001⟩]

/-- The tables once both samples were flushed. -/
def writeAndQueryTables : UsageTables where
  ingestionEvents := [⟨Uuid.nil, "traces", 100, 10, 5000000⟩]
  queryEvents := [⟨Uuid.nil, "traces", 50, 5000001⟩]

theorem writeAndQuery_flushed : Flushed writeAndQueryTables writeAndQuery :=
  ⟨List.Perm.refl _, List.Perm.refl _⟩

theorem writeAndQuery_countable : Countable writeAndQuery where
  positive := by decide
  records := by decide
  bytes := by decide

/-- The readers agree on what was ingested in the last second. -/
theorem readersAgree_on_ingest :
    ReadersAgree writeAndQueryTables (trackerOf writeAndQuery) 6000000 Uuid.nil .traces .ingest
      0 none :=
  (readersAgree_iff writeAndQuery_flushed writeAndQuery_countable 6000000 Uuid.nil .traces .ingest
    0 none).mpr fun all => absurd all (by decide)

/-- They do not agree on all operations, where Postgres reads nothing. -/
theorem postgres_reads_no_operation :
    PostgresUsageReader.periodUsedBytes writeAndQueryTables Uuid.nil .traces .all 0 none = .ok 0 ∧
      (trackerOf writeAndQuery).periodUsedBytes Uuid.nil .traces .all 0 none = 150 ∧
      Flushed writeAndQueryTables writeAndQuery ∧ Countable writeAndQuery ∧
      ¬ReadersAgree writeAndQueryTables (trackerOf writeAndQuery) 6000000 Uuid.nil .traces .all
        0 none := by
  -- The tracker reads the write and the query, and the tables are not asked.
  refine ⟨rfl, by decide, writeAndQuery_flushed, writeAndQuery_countable, fun agreed => ?_⟩
  have period : (.ok 0 : Except String Int64) =
      .ok ((trackerOf writeAndQuery).periodUsedBytes Uuid.nil .traces .all 0 none) := agreed.period
  exact absurd (Except.ok.inj period) (by decide)

end Zradar.Policies
