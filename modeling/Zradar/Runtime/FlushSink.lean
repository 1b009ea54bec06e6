import Zradar.Lib.Attempt
import Zradar.Runtime.WalTelemetryWriter

/-! The sink that turns WAL records back into rows and hands them to the storage layer. -/

namespace Zradar.Runtime

open Wal

/-- The rows of one batch that are of a signal. -/
def rowsOf : IngestBatch → (signal : SignalType) → List (RowOf signal)
  | .spans rows, .trace => rows
  | .metrics rows, .metric => rows
  | .logs rows, .log => rows
  | .scores rows, .score => rows
  | _, _ => []

/-- The rows of a signal that a list of batches passes on, in order. -/
def passedRows (batches : List IngestBatch) (signal : SignalType) : List (RowOf signal) :=
  batches.flatMap fun batch => rowsOf batch signal

/-- Wrap the rows of a signal. -/
def toBatch : (signal : SignalType) → List (RowOf signal) → IngestBatch
  | .trace => fun (rows : List Span) => .spans rows
  | .metric => fun (rows : List Metric) => .metrics rows
  | .log => fun (rows : List LogRecord) => .logs rows
  | .score => fun (rows : List EvaluationScore) => .scores rows

/-- A row of a signal as a row of any signal. -/
def anyRow : (signal : SignalType) → RowOf signal → AnyRow
  | .trace => fun (span : Span) => .span span
  | .metric => fun (metric : Metric) => .metric metric
  | .log => fun (log : LogRecord) => .log log
  | .score => fun (score : EvaluationScore) => .score score

/-- The batch of a signal, unless it has no rows. -/
def nonEmptyBatch (signal : SignalType) (rows : List (RowOf signal)) : List IngestBatch :=
  if rows.isEmpty then [] else [toBatch signal rows]

/-- The four lists the sink collects rows in. -/
structure SinkRows where
  spans : List Span := []
  metrics : List Metric := []
  logs : List LogRecord := []
  scores : List EvaluationScore := []

namespace SinkRows

/-- The list of a signal. -/
def get (rows : SinkRows) : (signal : SignalType) → List (RowOf signal)
  | .trace => rows.spans
  | .metric => rows.metrics
  | .log => rows.logs
  | .score => rows.scores

/-- Push a row onto the list of its signal. -/
def push (rows : SinkRows) : (signal : SignalType) → RowOf signal → SinkRows
  | .trace => fun (span : Span) => { rows with spans := rows.spans ++ [span] }
  | .metric => fun (metric : Metric) => { rows with metrics := rows.metrics ++ [metric] }
  | .log => fun (log : LogRecord) => { rows with logs := rows.logs ++ [log] }
  | .score => fun (score : EvaluationScore) => { rows with scores := rows.scores ++ [score] }

/-- The batches that are inserted, in the order of the signals and without the empty ones. -/
def batches (rows : SinkRows) : List IngestBatch :=
  nonEmptyBatch .trace (rows.get .trace) ++ nonEmptyBatch .metric (rows.get .metric) ++
    nonEmptyBatch .log (rows.get .log) ++ nonEmptyBatch .score (rows.get .score)

end SinkRows

section

variable (serde : SerdeJson)

/-- The row that some bytes stand for, if any. -/
def readRow {α : Type} [Row α] (bytes : Bytes) : Option α :=
  (serde.fromSlice bytes).bind (Row.fromJson serde)

/-- Read one row of a signal, and push it if it can be read. -/
def pushOne (signal : SignalType) (row : Bytes) (rows : SinkRows) : SinkRows :=
  match readRow serde row with
  | some parsed => rows.push signal parsed
  -- A row that cannot be read is passed over without a word.
  | none => rows

/-- The rows that a payload carries. -/
def payloadRows (payload : Bytes) : List Bytes :=
  match decodeBatch payload with
  | .ok (some batch) => batch.rows
  -- A payload without the magic is one row of the format before the envelope.
  | .ok none => [payload]
  -- A malformed envelope is logged and skipped.
  | .error _ => []

/-- Collect the rows of one record. -/
def pushRecord (rows : SinkRows) (record : WalRecord) : SinkRows :=
  (payloadRows record.payload).foldl
    (fun rows row => pushOne serde record.signalType row rows) rows

/-- Collect the rows of all records. -/
def collectRows (records : List WalRecord) : SinkRows :=
  records.foldl (pushRecord serde) {}

/-- Hand the rows of all records to the writer, up to its first error. -/
def flushRecords {σ : Type} (insertBatch : IngestBatch → σ → σ × Except String Unit)
    (records : List WalRecord) : σ → σ × Except String Unit :=
  attemptAll insertBatch (collectRows serde records).batches

end

/-- Rows were passed on exactly: all of them, none of another signal, in order per workspace. -/
structure PassedExactly (parseStr : String → Option Uuid) (signal : SignalType)
    (rows : List (RowOf signal)) (calls : List IngestBatch) : Prop where
  own : ∀ workspace, ((passedRows calls signal).filter fun row =>
    workspaceOf parseStr row = workspace) =
      rows.filter fun row => workspaceOf parseStr row = workspace
  others : ∀ other ≠ signal, passedRows calls other = []

/-- Whatever the writer answers, flushing returns an error or passes the rows on exactly. -/
structure DeliversRows (serde : SerdeJson) (parseStr : String → Option Uuid) (signal : SignalType)
    (rows : List (RowOf signal)) (records : List WalRecord) : Prop where
  flush : ∀ (σ : Type) (insertBatch : IngestBatch → σ → σ × Except String Unit) (state : σ),
    match flushRecords serde (logged insertBatch) records (state, []) with
    | (_, .error _) => True
    | ((_, calls), .ok ()) => PassedExactly parseStr signal rows calls

theorem passedRows_append (first second : List IngestBatch) (signal : SignalType) :
    passedRows (first ++ second) signal = passedRows first signal ++ passedRows second signal :=
  List.flatMap_append

theorem passedRows_nonEmptyBatch {signal : SignalType} (rows : List (RowOf signal)) :
    passedRows (nonEmptyBatch signal rows) signal = rows := by
  -- An empty list makes no batch, and there is nothing in it to pass on.
  cases rows with
  | nil => rfl
  | cons row rows =>
    show rowsOf (toBatch signal (row :: rows)) signal ++ [] = row :: rows
    rw [List.append_nil]
    cases signal <;> rfl

theorem passedRows_nonEmptyBatch_of_ne {signal other : SignalType} (apart : other ≠ signal)
    (rows : List (RowOf signal)) : passedRows (nonEmptyBatch signal rows) other = [] := by
  -- The batch has rows of its own signal only.
  cases rows with
  | nil => rfl
  | cons row rows =>
    show rowsOf (toBatch signal (row :: rows)) other ++ [] = []
    rw [List.append_nil]
    cases signal <;> cases other <;> first | rfl | exact absurd rfl apart

namespace SinkRows

theorem get_push_self (rows : SinkRows) {signal : SignalType} (row : RowOf signal) :
    (rows.push signal row).get signal = rows.get signal ++ [row] := by
  cases signal <;> rfl

theorem get_push_of_ne (rows : SinkRows) {signal other : SignalType} (row : RowOf signal)
    (apart : other ≠ signal) : (rows.push signal row).get other = rows.get other := by
  cases signal <;> cases other <;> first | rfl | exact absurd rfl apart

/-- The batches pass on exactly the lists they were made of. -/
theorem passedRows_batches (rows : SinkRows) (signal : SignalType) :
    passedRows rows.batches signal = rows.get signal := by
  -- Of the four batches, only the one of the signal has rows of it.
  rw [batches, passedRows_append, passedRows_append, passedRows_append]
  cases signal with
  | trace => simp [passedRows_nonEmptyBatch, passedRows_nonEmptyBatch_of_ne]
  | metric => simp [passedRows_nonEmptyBatch, passedRows_nonEmptyBatch_of_ne]
  | log => simp [passedRows_nonEmptyBatch, passedRows_nonEmptyBatch_of_ne]
  | score => simp [passedRows_nonEmptyBatch, passedRows_nonEmptyBatch_of_ne]

theorem toBatch_rows {signal : SignalType} (rows : List (RowOf signal)) :
    (toBatch signal rows).rows = rows.map (anyRow signal) := by
  cases signal <;> rfl

/-- A collected row is in one of the batches. -/
theorem mem_batches {rows : SinkRows} {signal : SignalType} {row : RowOf signal}
    (member : row ∈ rows.get signal) :
    anyRow signal row ∈ rows.batches.flatMap IngestBatch.rows := by
  -- A signal with a row has a batch, which is made of all its rows.
  have some : (rows.get signal).isEmpty = false := by
    rw [List.isEmpty_eq_false_iff]
    exact List.ne_nil_of_mem member
  have made : toBatch signal (rows.get signal) ∈ nonEmptyBatch signal (rows.get signal) := by
    rw [nonEmptyBatch, some]
    exact List.mem_singleton_self _
  have listed : toBatch signal (rows.get signal) ∈ rows.batches := by
    cases signal <;> simp [batches, made]
  refine List.mem_flatMap.mpr ⟨_, listed, ?_⟩
  rw [toBatch_rows]
  exact List.mem_map_of_mem member

end SinkRows

section

variable (serde : SerdeJson)

/-- Collecting a payload adds the rows of it that can be read to the list of their signal. -/
theorem get_foldl_pushOne_self (signal : SignalType) (payloads : List Bytes) (rows : SinkRows) :
    (payloads.foldl (fun rows row => pushOne serde signal row rows) rows).get signal =
      rows.get signal ++ payloads.filterMap (readRow serde) := by
  induction payloads generalizing rows with
  | nil => simp
  | cons payload payloads ih =>
    rw [List.foldl_cons, ih, List.filterMap_cons, pushOne]
    cases (readRow serde payload : Option (RowOf signal)) with
    | none => rfl
    | some row =>
      rw [SinkRows.get_push_self, List.append_assoc, List.singleton_append]

theorem get_foldl_pushOne_of_ne {signal other : SignalType} (apart : other ≠ signal)
    (payloads : List Bytes) (rows : SinkRows) :
    (payloads.foldl (fun rows row => pushOne serde signal row rows) rows).get other =
      rows.get other := by
  -- Rows are pushed to their own signal.
  induction payloads generalizing rows with
  | nil => rfl
  | cons payload payloads ih =>
    rw [List.foldl_cons, ih, pushOne]
    cases (readRow serde payload : Option (RowOf signal)) with
    | none => rfl
    | some row => exact rows.get_push_of_ne row apart

/-- The list of a signal collects the rows that can be read from the records of that signal. -/
theorem get_foldl_pushRecord (signal : SignalType) (records : List WalRecord) (rows : SinkRows) :
    (records.foldl (pushRecord serde) rows).get signal =
      rows.get signal ++ (records.filter fun record => record.signalType = signal).flatMap
        fun record => (payloadRows record.payload).filterMap (readRow serde) := by
  induction records generalizing rows with
  | nil => simp
  | cons record records ih =>
    rw [List.foldl_cons, ih, pushRecord]
    by_cases own : record.signalType = signal
    · rw [own, get_foldl_pushOne_self, List.filter_cons_of_pos (by simpa using own),
        List.flatMap_cons, List.append_assoc]
    · -- A record of another signal leaves the list alone.
      rw [get_foldl_pushOne_of_ne serde (Ne.symm own), List.filter_cons_of_neg (by simpa using own)]

/-- What flushing the records of one signal passes on, if no insert fails. -/
def delivered {signal : SignalType} (records : List WalRecord) : List (RowOf signal) :=
  records.flatMap fun record => (payloadRows record.payload).filterMap (readRow serde)

/-- Rows are delivered in every case exactly when they agree, per workspace, with what is read. -/
theorem deliversRows_iff {parseStr : String → Option Uuid} {signal : SignalType}
    {rows : List (RowOf signal)} {records : List WalRecord}
    (same : ∀ record ∈ records, record.signalType = signal) :
    DeliversRows serde parseStr signal rows records ↔
      ∀ workspace, ((delivered serde records).filter fun row =>
        workspaceOf parseStr row = workspace) =
          rows.filter fun row => workspaceOf parseStr row = workspace := by
  have own : passedRows (collectRows serde records).batches signal = delivered serde records := by
    have all : (records.filter fun record => record.signalType = signal) = records := by
      rw [List.filter_eq_self]
      exact fun record member => decide_eq_true (same record member)
    rw [SinkRows.passedRows_batches, collectRows, get_foldl_pushRecord, all, delivered]
    cases signal <;> rfl
  have others : ∀ other ≠ signal, passedRows (collectRows serde records).batches other = [] := by
    intro other apart
    have none : (records.filter fun record => record.signalType = other) = [] := by
      rw [List.filter_eq_nil_iff]
      intro record member named
      exact apart ((of_decide_eq_true named).symm.trans (same record member))
    rw [SinkRows.passedRows_batches, collectRows, get_foldl_pushRecord, none]
    cases other <;> rfl
  constructor
  · -- A writer that accepts everything shows what is passed on.
    intro delivers workspace
    have accepted := delivers.flush Unit (fun _ state => (state, .ok ())) ()
    have succeeds : (flushRecords serde (logged fun _ (state : Unit) =>
        (state, (.ok () : Except String Unit))) records ((), [])).2 = .ok () :=
      attemptAll_ok (fun _ _ => rfl) _ _
    split at accepted
    · rename_i error failed
      rw [failed] at succeeds
      cases succeeds
    · rename_i calls flushed
      have passed : calls = (collectRows serde records).batches := attemptAll_logged flushed
      have agree := accepted.own workspace
      rw [passed, own] at agree
      exact agree
  · intro agree
    constructor
    intro σ insertBatch state
    split
    · trivial
    · rename_i calls flushed
      have passed : calls = (collectRows serde records).batches := attemptAll_logged flushed
      constructor
      · intro workspace
        rw [passed, own, agree workspace]
      · intro other apart
        rw [passed, others other apart]

end

end Zradar.Runtime
