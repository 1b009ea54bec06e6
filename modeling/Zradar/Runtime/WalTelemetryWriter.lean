import Zradar.Lib.Grouping
import Zradar.Models.Json
import Zradar.Wal.Batch
import Zradar.Wal.Segment

/-! The writer that appends the rows of a request to the WAL, one record for each workspace. -/

namespace Zradar.Runtime

open Wal

/-- The rows of a signal. -/
def RowOf : SignalType → Type
  | .trace => Span
  | .metric => Metric
  | .log => LogRecord
  | .score => EvaluationScore

instance : (signal : SignalType) → Row (RowOf signal)
  | .trace => inferInstanceAs (Row Span)
  | .metric => inferInstanceAs (Row Metric)
  | .log => inferInstanceAs (Row LogRecord)
  | .score => inferInstanceAs (Row EvaluationScore)

/-- Errors from append and sync operations. -/
inductive AppendError where
  | io (kind : IoErrorKind)
  | fsyncDropped
  | resourceExhausted
  | insufficientDiskSpace (available required : UInt64)
  deriving DecidableEq

/-- What the WAL answers while one request is appended. -/
structure WalAnswers where
  checkFreeSpace : Except AppendError Unit
  /-- The answer to the append of each group: the offset it was given, or an error. -/
  append : Nat → Except AppendError UInt64
  /-- The answer of each durability handle. -/
  durable : Nat → Except AppendError Unit

/-- Whether the caller may retry the same write later. -/
def AppendError.isRetryable : AppendError → Bool
  | .resourceExhausted => true
  | .insufficientDiskSpace _ _ => true
  | .io kind => kind = .storageFull
  | .fsyncDropped => false

/-- Why a request was not acknowledged. -/
inductive WriteError where
  | serialize (message : String)
  /-- A transient failure, which clients are told to retry. -/
  | writeUnavailable (error : AppendError)
  | append (error : AppendError)
  | fsync (error : AppendError)
  deriving DecidableEq

/-- A failed append as an error of the writer. -/
def walAppendError (error : AppendError) : WriteError :=
  if error.isRetryable then .writeUnavailable error else .append error

theorem decodeBe_bytes_injective : Function.Injective fun uuid : Uuid => decodeBe uuid.bytes := by
  -- Sixteen bytes are determined by the number that they encode.
  intro first second same
  have bytes : encodeBe 16 (decodeBe first.bytes) = encodeBe 16 (decodeBe second.bytes) :=
    congrArg _ same
  rw [encodeBe_decodeBe first.sized, encodeBe_decodeBe second.sized] at bytes
  cases first
  cases second
  simpa using bytes

/-- UUIDs are ordered by their bytes, which is the order of the numbers they denote. -/
instance : LinearOrder Uuid where
  __ := LinearOrder.lift' (fun uuid => decodeBe uuid.bytes) decodeBe_bytes_injective
  toDecidableEq := inferInstanceAs (DecidableEq Uuid)
  compare := fun first second => compareOfLessAndEq first second
  compare_eq_compareOfLessAndEq := fun _ _ => rfl

section

variable (serde : SerdeJson) (parseStr : String → Option Uuid)

/-- The workspace a row is grouped under, which is the nil one if its text is no UUID. -/
def workspaceOf {α : Type} [Row α] (row : α) : Uuid :=
  (parseStr (Row.workspaceId row)).getD Uuid.nil

/-- Serialize the rows, each next to its workspace, up to the first error. -/
def serializeRows {α : Type} [Row α] : List α → Except String (List (Uuid × Bytes))
  | [] => .ok []
  | row :: rows => do
    let bytes ← serde.toVec (Row.toJson serde row)
    let others ← serializeRows rows
    .ok ((workspaceOf parseStr row, bytes) :: others)

/-- The record of one group before the WAL has given it an offset. -/
def groupRecord (signal : SignalType) (nowNs : Int64) (group : Uuid × List (Uuid × Bytes)) :
    WalRecord where
  signalType := signal
  workspaceId := group.1
  arrivalTimestampNs := nowNs
  assignedOffset := 0
  payload := encodeJsonRows (group.2.map Prod.snd)

/-- Append the records one after the other, up to the first error. -/
def appendRecords (answers : WalAnswers) :
    Nat → List WalRecord → List WalRecord × Except AppendError Unit
  | _, [] => ([], .ok ())
  | index, record :: records =>
    match answers.append index with
    -- What was appended before the error stays in the WAL.
    | .error error => ([], .error error)
    | .ok offset =>
      let (appended, result) := appendRecords answers (index + 1) records
      ({ record with assignedOffset := offset } :: appended, result)

/-- Wait for every handle, up to the first error. -/
def awaitDurable (answers : WalAnswers) : Nat → Nat → Except AppendError Unit
  | _, 0 => .ok ()
  | index, left + 1 =>
    match answers.durable index with
    | .error error => .error error
    | .ok () => awaitDurable answers (index + 1) left

/-- Append rows, and return the records that went to the WAL with the answer to the caller. -/
def appendBatches (answers : WalAnswers) (nowNs : Int64) (signal : SignalType)
    (rows : List (RowOf signal)) : List WalRecord × Except WriteError Unit :=
  if rows.isEmpty then ([], .ok ())
  else
    match serializeRows serde parseStr rows with
    | .error message => ([], .error (.serialize message))
    | .ok serialized =>
      let groups := groupOrdered Prod.fst serialized
      -- The whole request is refused before any group is appended.
      match answers.checkFreeSpace with
      | .error error => ([], .error (walAppendError error))
      | .ok () =>
        match appendRecords answers 0 (groups.map (groupRecord signal nowNs)) with
        | (appended, .error error) => (appended, .error (walAppendError error))
        | (appended, .ok ()) =>
          match awaitDurable answers 0 appended.length with
          | .error error => (appended, .error (.fsync error))
          | .ok () => (appended, .ok ())

/-- The text of a row, where a row that cannot be serialized has none. -/
def textOf {α : Type} [Row α] (row : α) : Bytes :=
  match serde.toVec (Row.toJson serde row) with
  | .ok bytes => bytes
  | .error _ => []

/-- Serialized rows are the texts of the rows, each next to its workspace. -/
theorem serializeRows_ok {α : Type} [Row α] {rows : List α} {serialized : List (Uuid × Bytes)}
    (done : serializeRows serde parseStr rows = .ok serialized) :
    serialized = rows.map (fun row => (workspaceOf parseStr row, textOf serde row)) ∧
      ∀ row ∈ rows, serde.toVec (Row.toJson serde row) = .ok (textOf serde row) := by
  -- The induction is on the rows, none of which has failed.
  induction rows generalizing serialized with
  | nil =>
    cases done
    simp
  | cons row rows ih =>
    rw [serializeRows] at done
    cases text : serde.toVec (Row.toJson serde row) with
    | error message => simp [text, bind, Except.bind] at done
    | ok bytes =>
      have own : textOf serde row = bytes := by rw [textOf, text]
      cases rest : serializeRows serde parseStr rows with
      | error message => simp [text, rest, bind, Except.bind] at done
      | ok others =>
        simp only [text, rest, bind, Except.bind, Except.ok.injEq] at done
        obtain ⟨texts, all⟩ := ih rest
        subst done
        refine ⟨by rw [texts, List.map_cons, own], ?_⟩
        intro other member
        rcases List.mem_cons.mp member with rfl | later
        · rw [text, own]
        · exact all other later

/-- Appended records are the given ones, up to the offsets the WAL assigned. -/
theorem appendRecords_ok {answers : WalAnswers} {index : Nat} {records appended : List WalRecord}
    (done : appendRecords answers index records = (appended, .ok ())) :
    appended.map (fun record => (record.signalType, record.payload)) =
      records.map fun record => (record.signalType, record.payload) := by
  -- Offsets are assigned by the log and are no part of what is compared.
  induction records generalizing index appended with
  | nil =>
    cases done
    rfl
  | cons record records ih =>
    rw [appendRecords] at done
    cases answer : answers.append index with
    | error error => simp [answer] at done
    | ok offset =>
      cases rest : appendRecords answers (index + 1) records with
      | mk others result =>
        simp only [answer, rest, Prod.mk.injEq] at done
        obtain ⟨rfl, rfl⟩ := done
        simp [ih rest]

/-- An acknowledged request has become one record for each workspace, with its rows in order. -/
theorem appendBatches_ok {answers : WalAnswers} {nowNs : Int64} {signal : SignalType}
    {rows : List (RowOf signal)} {appended : List WalRecord}
    (done : appendBatches serde parseStr answers nowNs signal rows = (appended, .ok ())) :
    (∀ row ∈ rows, serde.toVec (Row.toJson serde row) = .ok (textOf serde row)) ∧
      ∃ groups, IsGrouping (workspaceOf parseStr) rows groups ∧
        appended.map (fun record => (record.signalType, record.payload)) =
          groups.map fun group => (signal, encodeJsonRows (group.2.map (textOf serde))) := by
  rw [appendBatches] at done
  split at done
  · -- A request without rows appends nothing.
    rename_i empty
    cases done
    rw [List.isEmpty_iff] at empty
    subst empty
    exact ⟨by simp, [], IsGrouping.nil _, rfl⟩
  · split at done
    · cases done
    · rename_i serialized serializedRows
      obtain ⟨texts, all⟩ := serializeRows_ok serde parseStr serializedRows
      split at done
      · cases done
      · dsimp only at done
        split at done
        · cases done
        · rename_i written appendedRecords
          split at done
          · cases done
          · cases done
            subst texts
            have grouping := (groupOrdered_spec Prod.fst (rows.map fun row =>
              (workspaceOf parseStr row, textOf serde row))).1
            refine ⟨all, _, grouping.of_map, ?_⟩
            rw [appendRecords_ok appendedRecords, List.map_map, List.map_map]
            apply List.map_congr_left
            intro group member
            -- A group of serialized rows holds the texts of the rows of its workspace.
            have held := grouping.group group member
            simp only [Function.comp_apply, groupRecord, held, List.filter_map, List.map_map]
            rfl

end

end Zradar.Runtime
