import Zradar.Parquet.Pruning
import Zradar.Retention.CutoffRange

/-! The boundary of retention: files that cleanup marks, and rows that a query can still return. -/

namespace Zradar.Retention

open Parquet Query

/-- A row that is before the start of every query that is clamped at an instant. -/
def Unqueryable (store : RetentionConfigStore) (now : Int) (workspaceId : WorkspaceId)
    (row : AnyRow) : Prop :=
  ∀ (startNs : Option Int64) (effectiveStart : Int64) (result : EnforcementResult),
    QueryEnforcer.enforce ⟨store, .clamp⟩ now workspaceId startNs = .ok (effectiveStart, result) →
      row.timestamp < effectiveStart

/-- Clamped queries start at the cutoff or later, and the one without a start right there. -/
theorem unqueryable_iff {store : RetentionConfigStore} {now : Int} {workspaceId : WorkspaceId}
    {row : AnyRow} :
    Unqueryable store now workspaceId row ↔
      row.timestamp < store.getCutoffNs (timestampNanosOpt now) workspaceId := by
  -- A query without a start shows the most, and a late one starts behind the cutoff.
  constructor
  · intro before
    exact before none _ _ rfl
  · intro before startNs effectiveStart result enforced
    cases startNs with
    | none =>
      cases enforced
      exact before
    | some start =>
      simp only [QueryEnforcer.enforce] at enforced
      split at enforced
      · cases enforced
        exact before
      · rename_i late
        cases enforced
        rw [Int64.lt_iff_toInt_lt] at before late ⊢
        omega

/-- If a cleanup at an instant marks the file of some rows, no clamped query returns one of them. -/
def KeepsQueryable (store : RetentionConfigStore) (now : Int) (entry : NewFileListEntry)
    (rows : List AnyRow) : Prop :=
  ∀ (env : CleanupEnv) (scope : Option Uuid) (table : FileTable) (file : FileListEntry),
    env.nowUs entry.workspaceId = timestampMicros now →
    file.workspaceId = entry.workspaceId → file.maxTs = entry.maxTs →
    Marks table (runNowScoped store env scope table).1 file →
      ∀ row ∈ rows, Unqueryable store now entry.workspaceId row

/-- The rows of an expired file are all before the cutoff, or else cleanup takes one too many. -/
theorem keepsQueryable_iff_cutoffs {store : RetentionConfigStore} {now : Int}
    {entry : NewFileListEntry} {rows : List AnyRow} :
    KeepsQueryable store now entry rows ↔
      (entry.maxTs ≤ store.getCutoffUs (timestampMicros now) entry.workspaceId →
        ∀ row ∈ rows,
          row.timestamp < store.getCutoffNs (timestampNanosOpt now) entry.workspaceId) := by
  constructor
  · intro keeps expired row listed
    -- A cycle in which nothing fails marks the file in a table of its own.
    let file : FileListEntry := { entry with id := 1, deleted := false }
    let table : FileTable := ⟨[file], by simp⟩
    have expires : Expires store (quietCycle (timestampMicros now)) none file :=
      ⟨rfl, rfl, by simp, expired, rfl⟩
    have marks := (runNowScoped_marks store (quietCycle (timestampMicros now)) none table file).mpr
      ⟨List.mem_singleton.mpr rfl, expires⟩
    exact unqueryable_iff.mp (keeps _ none table file rfl rfl rfl marks row listed)
  · intro before env scope table file clock owner last marks row listed
    obtain ⟨_, expires⟩ := (runNowScoped_marks store env scope table file).mp marks
    have expired := expires.expired
    rw [owner, clock, last] at expired
    exact unqueryable_iff.mpr (before expired row listed)

/-- The cutoff of cleanup, in microseconds that wrap. -/
def cleanupCutoff (now days : Int) : Int := (now / 1000 - days * usPerDay).bmod (2 ^ 64)

/-- The cutoff of queries, in nanoseconds that wrap, off a clock that reads zero out of range. -/
def queryCutoff (now days : Int) : Int :=
  ((if Fits now then now else 0) - days * nsPerDay).bmod (2 ^ 64)

/-- A file that is over for cleanup, with a row that is not over for queries. -/
structure OnBoundary (now days : Int) (entry : NewFileListEntry) (rows : List AnyRow) : Prop where
  ended : entry.maxTs.toInt ≤ cleanupCutoff now days
  shown : ∃ row ∈ rows, queryCutoff now days ≤ row.timestamp.toInt

section

variable {store : RetentionConfigStore} {now : Int} {workspaceId : WorkspaceId}

theorem getCutoffUs_timestampMicros :
    (store.getCutoffUs (timestampMicros now) workspaceId).toInt =
      cleanupCutoff now (store.getEffectiveDays workspaceId).toNat := by
  have micros : (timestampMicros now).toInt = (now / 1000).bmod (2 ^ 64) := Int64.toInt_ofInt
  have unit : (1000000 : Int64).toInt = 1000000 := rfl
  unfold RetentionConfigStore.getCutoffUs cleanupCutoff usPerDay
  generalize (store.getEffectiveDays workspaceId) = days
  have span : (days.toNat : Int) * 86400 * 1000000 = days.toNat * 86400000000 := by omega
  rw [sub_span_toInt, micros, unit, Int.bmod_sub_bmod, span]

theorem getCutoffNs_timestampNanosOpt :
    (store.getCutoffNs (timestampNanosOpt now) workspaceId).toInt =
      queryCutoff now (store.getEffectiveDays workspaceId).toNat := by
  -- A clock that does not fit into nanoseconds reads zero; from there both count back alike.
  have reading : ((timestampNanosOpt now).getD 0).toInt = if Fits now then now else 0 := by
    split
    · rename_i fits
      rw [(timestampNanosOpt_of_fits fits).1, Option.getD_some, (timestampNanosOpt_of_fits fits).2]
    · rename_i outside
      rw [timestampNanosOpt_of_not_fits outside]
      rfl
  have unit : (1000000000 : Int64).toInt = 1000000000 := rfl
  unfold RetentionConfigStore.getCutoffNs queryCutoff nsPerDay
  generalize (store.getEffectiveDays workspaceId) = days
  have span : (days.toNat : Int) * 86400 * 1000000000 = days.toNat * 86400000000000 := by omega
  rw [sub_span_toInt, reading, unit, span]

/-- Cleanup takes no row too many exactly for the files that are not on the boundary. -/
theorem keepsQueryable_iff {entry : NewFileListEntry} {rows : List AnyRow} :
    KeepsQueryable store now entry rows ↔
      ¬ OnBoundary now (store.getEffectiveDays entry.workspaceId).toNat entry rows := by
  -- Microseconds round the cutoff of cleanup, and only rows in between can be lost.
  rw [keepsQueryable_iff_cutoffs]
  simp only [Int64.le_iff_toInt_le, Int64.lt_iff_toInt_lt, getCutoffUs_timestampMicros,
    getCutoffNs_timestampNanosOpt]
  constructor
  · rintro before ⟨ended, row, listed, shown⟩
    have := before ended row listed
    omega
  · intro off ended row listed
    by_contra late
    exact off ⟨ended, row, listed, by omega⟩

end

/--
Where nothing wraps and the range of the file is sound, only the microsecond of the cutoff itself
is disputed: a file that ends in it is over for cleanup, whatever part of it queries still return.
-/
theorem onBoundary_iff {now days : Int} {entry : NewFileListEntry} {rows : List AnyRow}
    (sound : RangeSound entry rows) (counts : CountsBack now days) :
    OnBoundary now days entry rows ↔
      entry.maxTs.toInt = (now - days * nsPerDay) / 1000 ∧
        ∃ row ∈ rows, now - days * nsPerDay ≤ row.timestamp.toInt := by
  obtain ⟨nonneg, short, ⟨low, high⟩, back⟩ := counts
  have micros : cleanupCutoff now days = (now - days * nsPerDay) / 1000 := by
    unfold cleanupCutoff usPerDay
    unfold nsPerDay at back ⊢
    rw [Int.bmod_def]
    split <;> omega
  have nanos : queryCutoff now days = now - days * nsPerDay := by
    unfold queryCutoff
    unfold nsPerDay at back ⊢
    rw [if_pos ⟨low, high⟩, Int.bmod_def]
    split <;> omega
  constructor
  · rintro ⟨ended, row, listed, shown⟩
    rw [micros] at ended
    rw [nanos] at shown
    refine ⟨?_, row, listed, shown⟩
    -- The file reaches over the row, so that it cannot end before the microsecond of the cutoff.
    have reaches := (sound.covers row listed).2
    have later : (now - days * nsPerDay) / 1000 ≤ row.timestamp.toInt.tdiv 1000 := by
      have sign : Int.sign 1000 = 1 := rfl
      rw [Int.tdiv_eq_ediv, sign]
      split <;> omega
    omega
  · rintro ⟨last, row, listed, shown⟩
    exact ⟨by omega, row, listed, by omega⟩

/--
Cleanup marks no file with a row that a clamped query can still return, except for the files that
are on the boundary. As long as the retention can be counted back and no span has a negative
duration, these are the files that end in the microsecond of the cutoff with a row from it on.
-/
theorem cleanup_keeps_queryable_iff (env : WriterEnv) (workspaceId streamName : String)
    (batch : IngestBatch) (fileNumber : Nat) (store : RetentionConfigStore) (now : Int) :
    let entry := fileEntry env workspaceId streamName batch fileNumber
    let days := (store.getEffectiveDays entry.workspaceId).toNat
    (KeepsQueryable store now entry batch.rows ↔ ¬ OnBoundary now days entry batch.rows) ∧
      ((∀ row ∈ batch.rows, row.Forward) → CountsBack now days →
        (OnBoundary now days entry batch.rows ↔
          entry.maxTs.toInt = (now - days * nsPerDay) / 1000 ∧
            ∃ row ∈ batch.rows, now - days * nsPerDay ≤ row.timestamp.toInt)) := by
  refine ⟨keepsQueryable_iff, ?_⟩
  intro forward counts
  exact onBoundary_iff (fileEntry_rangeSound env workspaceId streamName forward fileNumber) counts

/-- A log record of a time in nanoseconds. -/
def logAtNs (timestamp : Int64) : LogRecord := { logAt "default" "api" 0 with timestamp := timestamp }

/-- An environment for the two hours around the cutoff of a month. -/
def monthEnv : WriterEnv :=
  { firstDayEnv with
    dateHour := fun seconds => if seconds < 1733097600 then "2024/12/01/23" else "2024/12/02/00" }

/-- The file of one log record. -/
def logFile (timestamp : Int64) : NewFileListEntry :=
  fileEntry monthEnv "default" "default" (.logs [logAtNs timestamp]) 0

/-- A log record that is a second older than a month is in no query once its file is marked. -/
theorem month_old_log_is_unqueryable :
    KeepsQueryable (.new 30) newYearNs (logFile 1733097599000000000)
      [.log (logAtNs 1733097599000000000)] := by
  obtain ⟨keeps, boundary⟩ := cleanup_keeps_queryable_iff monthEnv "default" "default"
    (.logs [logAtNs 1733097599000000000]) 0 (.new 30) newYearNs
  apply keeps.mpr
  rw [boundary (by simp [IngestBatch.rows, AnyRow.Forward]) (by decide)]
  -- The file ends in the second before the cutoff.
  rintro ⟨last, -⟩
  exact absurd last (by decide)

/-- A log record that is younger than a month by half a microsecond loses its file. -/
theorem boundary_log_is_marked :
    let file : FileListEntry := { logFile 1733097600000000500 with id := 1, deleted := false }
    Marks ⟨[file], by simp⟩
        (runNowScoped (.new 30) (quietCycle (timestampMicros newYearNs)) none ⟨[file], by simp⟩).1
        file ∧
      ¬ Unqueryable (.new 30) newYearNs file.workspaceId (.log (logAtNs 1733097600000000500)) := by
  refine ⟨?_, ?_⟩
  · rw [runNowScoped_marks]
    exact ⟨List.mem_singleton.mpr rfl, rfl, rfl, by simp, by decide, rfl⟩
  · rw [unqueryable_iff]
    decide

end Zradar.Retention
