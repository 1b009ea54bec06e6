import Zradar.Lib.Rollup
import Zradar.Parquet.HourBuckets
import Zradar.Policies.PostgresUsage

/-! Daily and monthly usage: samples summed in batches, and upserted into the tables of Postgres. -/

namespace Zradar.Policies

open Calendar Rollup

/-- A write with the size of its rows before compression. -/
structure WriteUsage extends WriteSample where
  originalBytes : Option Int64

/-- A query with the rows that it has scanned. -/
structure QueryUsage extends QuerySample where
  rowsScanned : Option Int64

def operationKind : Operation → String
  | .ingest => "ingest"
  | .query => "query"
  | .store => "store"
  | .all => "all"

/-- The microseconds of a day. -/
def microsOfDay : Int := 86400000000

/-- The date of a number of microseconds, in UTC. -/
def utcDate (micros : Int) : Date := dateOf (micros / microsOfDay)

/-- The start of the day, as `rem_euclid` gives it. -/
def dayStartMicros (timestampMicros : Int64) : Int64 :=
  .ofInt (timestampMicros.toInt - timestampMicros.toInt % microsOfDay)

/-- The start of the month, or the timestamp itself if it has no date. -/
def monthStartMicros (timestampMicros : Int64) : Int64 :=
  let datetime := utcDate timestampMicros.toInt
  if Parquet.hasDates datetime then .ofInt (dayOf { datetime with day := 1 } * microsOfDay)
  else timestampMicros

inductive IngestionColumn where
  | compressedBytes
  | originalBytes
  | records
  | fileCount
  deriving DecidableEq

inductive QueryColumn where
  | bytesScanned
  | rowsScanned
  | queryCount
  deriving DecidableEq

inductive MonthlyColumn where
  | usedBytes
  deriving DecidableEq

instance : Fintype IngestionColumn where
  elems := {.compressedBytes, .originalBytes, .records, .fileCount}
  complete column := by cases column <;> decide

instance : Fintype QueryColumn where
  elems := {.bytesScanned, .rowsScanned, .queryCount}
  complete column := by cases column <;> decide

instance : Fintype MonthlyColumn where
  elems := {.usedBytes}
  complete column := by cases column; decide

/-- The key that the daily sums of a batch are kept under. -/
abbrev DailyHashKey := WorkspaceId × String × Int64

abbrev MonthlyHashKey := WorkspaceId × SignalKind × Operation × Int64

/-- What daily sums are sent under. -/
structure DailyIdentity where
  workspaceId : WorkspaceId
  signalKind : String
  dayMicros : Int64

/-- What monthly sums are sent under. -/
structure MonthlyIdentity where
  workspaceId : WorkspaceId
  signalKind : String
  operation : String
  periodStartMicros : Int64

/-- An entry of a daily sum. -/
def dailyBooking {ι : Type} (workspaceId : WorkspaceId) (signal : SignalKind) (observedAt : Int64)
    (amounts : ι → Int64) : Booking DailyHashKey DailyIdentity ι where
  hashKey := (workspaceId, signalKind signal, dayStartMicros observedAt)
  identity := ⟨workspaceId, signalKind signal, dayStartMicros observedAt⟩
  amounts := amounts
  bookedAt := observedAt

def ingestionBooking (sample : WriteUsage) : Booking DailyHashKey DailyIdentity IngestionColumn :=
  dailyBooking sample.workspaceId sample.signal sample.flushedAt fun
    | .compressedBytes => sample.compressedBytes
    | .originalBytes => sample.originalBytes.getD 0
    | .records => sample.records
    | .fileCount => 1

def queryBooking (sample : QueryUsage) : Booking DailyHashKey DailyIdentity QueryColumn :=
  dailyBooking sample.workspaceId sample.signal sample.submittedAt fun
    | .bytesScanned => sample.bytesScanned
    | .rowsScanned => sample.rowsScanned.getD 0
    | .queryCount => 1

/-- What `aggregate_monthly_usage` adds. -/
def monthlyBooking (workspaceId : WorkspaceId) (signal : SignalKind) (operation : Operation)
    (observedAt usedBytes : Int64) : Booking MonthlyHashKey MonthlyIdentity MonthlyColumn where
  hashKey := (workspaceId, signal, operation, monthStartMicros observedAt)
  identity := ⟨workspaceId, signalKind signal, operationKind operation, monthStartMicros observedAt⟩
  amounts := fun | .usedBytes => usedBytes
  bookedAt := observedAt

def monthlyWriteBooking (sample : WriteUsage) :
    Booking MonthlyHashKey MonthlyIdentity MonthlyColumn :=
  monthlyBooking sample.workspaceId sample.signal .ingest sample.flushedAt sample.compressedBytes

def monthlyQueryBooking (sample : QueryUsage) :
    Booking MonthlyHashKey MonthlyIdentity MonthlyColumn :=
  monthlyBooking sample.workspaceId sample.signal .query sample.submittedAt sample.bytesScanned

def aggregateIngestionDaily (samples : List WriteUsage) :
    List (Aggregate DailyIdentity IngestionColumn) :=
  (aggregate (samples.map ingestionBooking)).map Prod.snd

def aggregateQueryDaily (samples : List QueryUsage) : List (Aggregate DailyIdentity QueryColumn) :=
  (aggregate (samples.map queryBooking)).map Prod.snd

def aggregateMonthlyUsageForWrites (samples : List WriteUsage) :
    List (Aggregate MonthlyIdentity MonthlyColumn) :=
  (aggregate (samples.map monthlyWriteBooking)).map Prod.snd

def aggregateMonthlyUsageForQueries (samples : List QueryUsage) :
    List (Aggregate MonthlyIdentity MonthlyColumn) :=
  (aggregate (samples.map monthlyQueryBooking)).map Prod.snd

/-- The first day that Postgres has timestamps for, in days since the epoch. -/
def earliestDay : Int := -2440588

/-- What Postgres makes of a `bigint` of microseconds. -/
structure Postgres where
  /-- `to_timestamp(micros::double precision / 1000000.0)` in microseconds, if it is in range. -/
  toTimestamp : Int64 → Option Int
  /-- The double-precision numbers hold the starts of days exactly. -/
  exact : ∀ micros : Int64, microsOfDay ∣ micros.toInt → earliestDay * microsOfDay ≤ micros.toInt →
    toTimestamp micros = some micros.toInt

/-- `(to_timestamp(..) AT TIME ZONE 'UTC')::date` -/
def Postgres.date (postgres : Postgres) (micros : Int64) : Option Date :=
  (postgres.toTimestamp micros).map utcDate

/-- `date_trunc('month', to_timestamp(..) AT TIME ZONE 'UTC')::date` -/
def Postgres.monthDate (postgres : Postgres) (micros : Int64) : Option Date := do
  let timestamp ← postgres.toTimestamp micros
  let start := monthStart (timestamp / microsOfDay)
  if earliestDay ≤ start then some (dateOf start) else none

/-- The primary key of a daily table. -/
structure DailyKey where
  workspaceId : WorkspaceId
  signalKind : String
  day : Date
  deriving DecidableEq

/-- The primary key of the monthly table. -/
structure MonthlyKey where
  workspaceId : WorkspaceId
  signalKind : String
  operation : String
  periodStart : Date
  deriving DecidableEq

def dailyConflictKey (postgres : Postgres) (identity : DailyIdentity) : Option DailyKey :=
  (postgres.date identity.dayMicros).map fun day =>
    ⟨identity.workspaceId, identity.signalKind, day⟩

def monthlyConflictKey (postgres : Postgres) (identity : MonthlyIdentity) : Option MonthlyKey :=
  (postgres.monthDate identity.periodStartMicros).map fun periodStart =>
    ⟨identity.workspaceId, identity.signalKind, identity.operation, periodStart⟩

/-- Whether a number is a `bigint`. -/
def isBigint (value : Int) : Bool := -2 ^ 63 ≤ value ∧ value < 2 ^ 63

/-- Whether the generated column of gigabytes, an `integer`, can hold what it has to. -/
def hasGigabytes (bytes : Int) : Bool :=
  isBigint (bytes + 1073741823) ∧
    -2 ^ 31 ≤ (bytes + 1073741823).tdiv 1073741824 ∧ (bytes + 1073741823).tdiv 1073741824 < 2 ^ 31

/-- Columns of `bigint`, one of which has a column of gigabytes besides. -/
def bigintSchema {ι : Type} [DecidableEq ι] (billed : ι) : Schema ι where
  holds column value := isBigint value && (column ≠ billed || hasGigabytes value)
  zero column := by simp [isBigint, hasGigabytes]
  between column low mid high := by
    intro above below first last
    have rises := Int.tdiv_le_tdiv (c := 1073741824) (by decide) (add_le_add_left above 1073741823)
    have rises' := Int.tdiv_le_tdiv (c := 1073741824) (by decide) (add_le_add_left below 1073741823)
    simp only [isBigint, hasGigabytes, Bool.and_eq_true, Bool.or_eq_true, decide_eq_true_eq]
      at first last ⊢
    refine ⟨by omega, ?_⟩
    obtain other | start := first.2
    · exact .inl other
    · obtain other | stop := last.2
      · exact .inl other
      · exact .inr ⟨by omega, by omega, by omega⟩

/-- What a monthly row has besides. -/
structure MonthlyLimits where
  limitBytes : Int64
  lastBreachAt : Option Int64

/-- What a monthly row is inserted with. -/
def freshLimits : MonthlyLimits := ⟨0, none⟩

structure RollupTables where
  ingestionDaily : Table DailyKey (bigintSchema IngestionColumn.compressedBytes) Unit
  queryUsageDaily : Table DailyKey (bigintSchema QueryColumn.bytesScanned) Unit
  ingestQueryMonthly : Table MonthlyKey (bigintSchema MonthlyColumn.usedBytes) MonthlyLimits

/-- A batch that is flushed, and the orders in which the maps of its sums are iterated. -/
inductive UsageBatch where
  | writes (samples : List WriteUsage) (daily : Reordered (aggregateIngestionDaily samples))
      (monthly : Reordered (aggregateMonthlyUsageForWrites samples))
  | queries (samples : List QueryUsage) (daily : Reordered (aggregateQueryDaily samples))
      (monthly : Reordered (aggregateMonthlyUsageForQueries samples))

/-- The upserts of a batch, in one transaction. -/
def insertSamples (postgres : Postgres) (tables : RollupTables) : UsageBatch → Option RollupTables
  | .writes _ daily monthly => do
    let ingestionDaily ← upsertRows () (dailyConflictKey postgres) tables.ingestionDaily
      daily.values
    let ingestQueryMonthly ← upsertRows freshLimits (monthlyConflictKey postgres)
      tables.ingestQueryMonthly monthly.values
    some { tables with
      ingestionDaily := ingestionDaily, ingestQueryMonthly := ingestQueryMonthly }
  | .queries _ daily monthly => do
    let queryUsageDaily ← upsertRows () (dailyConflictKey postgres) tables.queryUsageDaily
      daily.values
    let ingestQueryMonthly ← upsertRows freshLimits (monthlyConflictKey postgres)
      tables.ingestQueryMonthly monthly.values
    some { tables with
      queryUsageDaily := queryUsageDaily, ingestQueryMonthly := ingestQueryMonthly }

/-- One batch after another. -/
def insertBatches (postgres : Postgres) (tables : RollupTables) (batches : List UsageBatch) :
    Option RollupTables :=
  batches.foldlM (insertSamples postgres) tables

/-- A time whose month starts in the calendar of Postgres, and which has a date for the tracker. -/
def InCalendar (timestampMicros : Int64) : Prop :=
  earliestDay ≤ monthStart (timestampMicros.toInt / microsOfDay) ∧
    Parquet.hasDates (utcDate timestampMicros.toInt)

instance (timestampMicros : Int64) : Decidable (InCalendar timestampMicros) :=
  inferInstanceAs (Decidable (_ ∧ _))

section

variable {time other : Int64} (dated : InCalendar time) (dated' : InCalendar other)

include dated

theorem InCalendar.day_range :
    earliestDay ≤ time.toInt / microsOfDay ∧
      time.toInt / microsOfDay * microsOfDay ≤ time.toInt := by
  have first := dated.1
  have start := monthStart_add (time.toInt / microsOfDay)
  unfold microsOfDay at *
  omega

theorem dayStartMicros_toInt :
    (dayStartMicros time).toInt = time.toInt / microsOfDay * microsOfDay := by
  have range := dated.day_range
  have high := Int64.toInt_lt time
  unfold dayStartMicros
  unfold microsOfDay earliestDay at *
  rw [Int64.toInt_ofInt_of_le] <;> omega

theorem monthStartMicros_toInt :
    (monthStartMicros time).toInt = monthStart (time.toInt / microsOfDay) * microsOfDay := by
  -- The start of the month is in the range of 64 bits wherever the time is in the calendar.
  have first := dated.1
  have start := monthStart_add (time.toInt / microsOfDay)
  have high := Int64.toInt_lt time
  unfold monthStartMicros
  dsimp only
  rw [if_pos dated.2]
  show (Int64.ofInt (monthStart (time.toInt / microsOfDay) * microsOfDay)).toInt = _
  unfold microsOfDay earliestDay at *
  rw [Int64.toInt_ofInt_of_le] <;> omega

/-- The day that a sample is booked on contains its time. -/
theorem Postgres.date_dayStart (postgres : Postgres) :
    postgres.date (dayStartMicros time) = some (utcDate time.toInt) := by
  have start := dayStartMicros_toInt dated
  have range := dated.day_range
  -- The start is a whole number of days, and no earlier than the calendar of Postgres.
  have read : postgres.toTimestamp (dayStartMicros time) = some (dayStartMicros time).toInt := by
    apply postgres.exact
    · rw [start]
      exact dvd_mul_left _ _
    · rw [start]
      unfold microsOfDay at *
      omega
  unfold Postgres.date
  rw [read, Option.map_some, start, utcDate, Int.mul_ediv_cancel _ (by decide)]
  rfl

/-- And so does the month. -/
theorem Postgres.monthDate_monthStart (postgres : Postgres) :
    postgres.monthDate (monthStartMicros time) = some { utcDate time.toInt with day := 1 } := by
  have start := monthStartMicros_toInt dated
  have first := dated.1
  have read : postgres.toTimestamp (monthStartMicros time) =
      some (monthStartMicros time).toInt := by
    apply postgres.exact
    · rw [start]
      exact dvd_mul_left _ _
    · rw [start]
      unfold microsOfDay at *
      omega
  unfold Postgres.monthDate
  rw [read, start]
  show (if earliestDay ≤
    monthStart (monthStart (time.toInt / microsOfDay) * microsOfDay / microsOfDay)
      then _ else _) = _
  -- Truncating the start of a month leaves it as it is.
  rw [Int.mul_ediv_cancel _ (by decide), monthStart_monthStart, if_pos first, dateOf_monthStart]
  rfl

include dated'

theorem dayStartMicros_eq_iff :
    dayStartMicros time = dayStartMicros other ↔ utcDate time.toInt = utcDate other.toInt := by
  unfold utcDate
  rw [← Int64.toInt_inj, dayStartMicros_toInt dated, dayStartMicros_toInt dated',
    dateOf_injective.eq_iff]
  unfold microsOfDay
  omega

theorem monthStartMicros_eq_iff :
    monthStartMicros time = monthStartMicros other ↔
      ({ utcDate time.toInt with day := 1 } : Date) = { utcDate other.toInt with day := 1 } := by
  unfold utcDate
  rw [← Int64.toInt_inj, monthStartMicros_toInt dated, monthStartMicros_toInt dated',
    ← dateOf_monthStart, ← dateOf_monthStart, dateOf_injective.eq_iff]
  unfold microsOfDay
  omega

end

theorem operationKind_injective : Function.Injective operationKind := by
  intro operation other
  cases operation <;> cases other <;> decide

/-- Where a daily booking belongs: the day that contains its time. -/
def dailyPlace {ι : Type} (booking : Booking DailyHashKey DailyIdentity ι) : DailyKey :=
  ⟨booking.identity.workspaceId, booking.identity.signalKind, utcDate booking.bookedAt.toInt⟩

/-- Where a monthly booking belongs: the first of the month that contains its time. -/
def monthlyPlace (booking : Booking MonthlyHashKey MonthlyIdentity MonthlyColumn) : MonthlyKey :=
  ⟨booking.identity.workspaceId, booking.identity.signalKind, booking.identity.operation,
    { utcDate booking.bookedAt.toInt with day := 1 }⟩

/-- The keys of the daily maps are those of the tables. -/
theorem placed_daily {ι : Type} (postgres : Postgres)
    {bookings : List (Booking DailyHashKey DailyIdentity ι)}
    (made : ∀ booking ∈ bookings, ∃ workspaceId signal time amounts,
      InCalendar time ∧ booking = dailyBooking workspaceId signal time amounts) :
    Placed (dailyConflictKey postgres) dailyPlace bookings where
  located := by
  -- The hash key has the start of the day in microseconds, and the table has its date.
    intro booking member
    obtain ⟨workspaceId, signal, time, amounts, dated, rfl⟩ := made booking member
    show (postgres.date (dayStartMicros time)).map _ = _
    rw [postgres.date_dayStart dated]
    rfl
  keyed := by
    intro booking member booking' member'
    obtain ⟨workspaceId, signal, time, amounts, dated, rfl⟩ := made booking member
    obtain ⟨workspaceId', signal', time', amounts', dated', rfl⟩ := made booking' member'
    simp only [dailyBooking, dailyPlace, Prod.mk.injEq, DailyKey.mk.injEq,
      dayStartMicros_eq_iff dated dated']

/-- The keys of the monthly map are those of the table, though it has signals and operations. -/
theorem placed_monthly (postgres : Postgres)
    {bookings : List (Booking MonthlyHashKey MonthlyIdentity MonthlyColumn)}
    (made : ∀ booking ∈ bookings, ∃ workspaceId signal operation time bytes,
      InCalendar time ∧ booking = monthlyBooking workspaceId signal operation time bytes) :
    Placed (monthlyConflictKey postgres) monthlyPlace bookings where
  located := by
  -- Signals and operations are written as kinds, and no two have the same.
    intro booking member
    obtain ⟨workspaceId, signal, operation, time, bytes, dated, rfl⟩ := made booking member
    show (postgres.monthDate (monthStartMicros time)).map _ = _
    rw [postgres.monthDate_monthStart dated]
    rfl
  keyed := by
    intro booking member booking' member'
    obtain ⟨workspaceId, signal, operation, time, bytes, dated, rfl⟩ := made booking member
    obtain ⟨workspaceId', signal', operation', time', bytes', dated', rfl⟩ := made booking' member'
    simp only [monthlyBooking, monthlyPlace, Prod.mk.injEq, MonthlyKey.mk.injEq,
      signalKind_injective.eq_iff, operationKind_injective.eq_iff,
      monthStartMicros_eq_iff dated dated']

namespace UsageBatch

def writeSamples : UsageBatch → List WriteUsage
  | .writes samples _ _ => samples
  | .queries _ _ _ => []

def querySamples : UsageBatch → List QueryUsage
  | .writes _ _ _ => []
  | .queries samples _ _ => samples

end UsageBatch

section

variable (batches : List UsageBatch)

/-- What some batches book in the table of ingestion. -/
def ingestionBookings : List (Booking DailyHashKey DailyIdentity IngestionColumn) :=
  (batches.flatMap UsageBatch.writeSamples).map ingestionBooking

def queryBookings : List (Booking DailyHashKey DailyIdentity QueryColumn) :=
  (batches.flatMap UsageBatch.querySamples).map queryBooking

def monthlyBookings : List (Booking MonthlyHashKey MonthlyIdentity MonthlyColumn) :=
  batches.flatMap fun batch => batch.writeSamples.map monthlyWriteBooking ++
    batch.querySamples.map monthlyQueryBooking

end

/-- The tables are what the samples of some batches make of other tables. -/
structure RollupTables.Hold (before : RollupTables) (batches : List UsageBatch)
    (after : RollupTables) : Prop where
  ingestion : Booked () dailyPlace before.ingestionDaily (ingestionBookings batches)
    after.ingestionDaily
  query : Booked () dailyPlace before.queryUsageDaily (queryBookings batches) after.queryUsageDaily
  monthly : Booked freshLimits monthlyPlace before.ingestQueryMonthly (monthlyBookings batches)
    after.ingestQueryMonthly

/-- The samples of some batches can be booked. -/
structure CanBook (postgres : Postgres) (tables : RollupTables) (batches : List UsageBatch) :
    Prop where
  ingestion : Bookable (dailyConflictKey postgres) dailyPlace tables.ingestionDaily
    (ingestionBookings batches)
  query : Bookable (dailyConflictKey postgres) dailyPlace tables.queryUsageDaily
    (queryBookings batches)
  monthly : Bookable (monthlyConflictKey postgres) monthlyPlace tables.ingestQueryMonthly
    (monthlyBookings batches)

section

variable {postgres : Postgres} {tables : RollupTables}

/-- A batch that can be booked is booked. -/
theorem insertSamples_hold {batch : UsageBatch} (can : CanBook postgres tables [batch]) :
    ∃ after, insertSamples postgres tables batch = some after ∧ tables.Hold [batch] after := by
  cases batch with
  | writes samples daily monthly =>
    have ingestions : ingestionBookings [.writes samples daily monthly] =
        samples.map ingestionBooking := by simp [ingestionBookings, UsageBatch.writeSamples]
    have months : monthlyBookings [.writes samples daily monthly] =
        samples.map monthlyWriteBooking := by
      simp [monthlyBookings, UsageBatch.writeSamples, UsageBatch.querySamples]
    obtain ⟨days, upserted, booked⟩ := upsertRows_booked () (ingestions ▸ can.ingestion) daily
    obtain ⟨sums, upserted', booked'⟩ :=
      upsertRows_booked freshLimits (months ▸ can.monthly) monthly
    refine ⟨{ tables with ingestionDaily := days, ingestQueryMonthly := sums }, ?_, ?_, ?_, ?_⟩
    · rw [insertSamples, upserted, upserted']
      rfl
    · rw [ingestions]
      exact booked
    · -- Writes book no queries.
      exact Booked.nil
    · rw [months]
      exact booked'
  | queries samples daily monthly =>
    have queried : queryBookings [.queries samples daily monthly] =
        samples.map queryBooking := by simp [queryBookings, UsageBatch.querySamples]
    have months : monthlyBookings [.queries samples daily monthly] =
        samples.map monthlyQueryBooking := by
      simp [monthlyBookings, UsageBatch.writeSamples, UsageBatch.querySamples]
    obtain ⟨days, upserted, booked⟩ := upsertRows_booked () (queried ▸ can.query) daily
    obtain ⟨sums, upserted', booked'⟩ :=
      upsertRows_booked freshLimits (months ▸ can.monthly) monthly
    refine ⟨{ tables with queryUsageDaily := days, ingestQueryMonthly := sums }, ?_, ?_, ?_, ?_⟩
    · rw [insertSamples, upserted, upserted']
      rfl
    · exact Booked.nil
    · rw [queried]
      exact booked
    · rw [months]
      exact booked'

/-- Batches that can be booked together are booked one after another. -/
theorem insertBatches_hold {batches : List UsageBatch} (can : CanBook postgres tables batches) :
    ∃ after, insertBatches postgres tables batches = some after ∧ tables.Hold batches after := by
  induction batches generalizing tables with
  | nil => exact ⟨tables, rfl, Booked.nil, Booked.nil, Booked.nil⟩
  | cons batch batches ih =>
    have writes : ingestionBookings (batch :: batches) =
        ingestionBookings [batch] ++ ingestionBookings batches := by simp [ingestionBookings]
    have queries : queryBookings (batch :: batches) =
        queryBookings [batch] ++ queryBookings batches := by simp [queryBookings]
    have months : monthlyBookings (batch :: batches) =
        monthlyBookings [batch] ++ monthlyBookings batches := by simp [monthlyBookings]
    obtain ⟨ingestion, query, monthly⟩ := can
    rw [writes] at ingestion
    rw [queries] at query
    rw [months] at monthly
    -- What is left can be booked in the tables that the first batch leaves.
    obtain ⟨ingestion, ingestion'⟩ := ingestion.split ()
    obtain ⟨query, query'⟩ := query.split ()
    obtain ⟨monthly, monthly'⟩ := monthly.split freshLimits
    obtain ⟨middle, step, held⟩ := insertSamples_hold ⟨ingestion, query, monthly⟩
    obtain ⟨after, run, held'⟩ := ih ⟨ingestion' _ held.ingestion, query' _ held.query,
      monthly' _ held.monthly⟩
    refine ⟨after, ?_, ?_, ?_, ?_⟩
    · unfold insertBatches
      rw [List.foldlM_cons, step]
      exact run
    · rw [writes]
      exact held.ingestion.append held'.ingestion
    · rw [queries]
      exact held.query.append held'.query
    · rw [months]
      exact held.monthly.append held'.monthly

/-- The tables that batches lead to do not depend on how the samples are batched. -/
theorem RollupTables.Hold.unique {batches whole : List UsageBatch} {after other : RollupTables}
    (one : tables.Hold batches after) (two : tables.Hold whole other)
    (writes : (ingestionBookings batches).Perm (ingestionBookings whole))
    (queries : (queryBookings batches).Perm (queryBookings whole))
    (months : (monthlyBookings batches).Perm (monthlyBookings whole)) : after = other := by
  obtain ⟨_, _, _⟩ := after
  obtain ⟨_, _, _⟩ := other
  obtain rfl := one.ingestion.unique two.ingestion writes
  obtain rfl := one.query.unique two.query queries
  obtain rfl := one.monthly.unique two.monthly months
  rfl

end

/-- A write with a date and without negative counts. -/
structure WriteUsage.Sound (sample : WriteUsage) : Prop where
  dated : InCalendar sample.flushedAt
  compressedBytes : 0 ≤ sample.compressedBytes.toInt
  originalBytes : 0 ≤ (sample.originalBytes.getD 0).toInt
  records : 0 ≤ sample.records.toInt

/-- A query with a date and without negative counts. -/
structure QueryUsage.Sound (sample : QueryUsage) : Prop where
  dated : InCalendar sample.submittedAt
  bytesScanned : 0 ≤ sample.bytesScanned.toInt
  rowsScanned : 0 ≤ (sample.rowsScanned.getD 0).toInt

/-- The samples of some batches are sound, and their sums stay within the limits of the tables. -/
structure Billable (tables : RollupTables) (batches : List UsageBatch) : Prop where
  writes : ∀ sample ∈ batches.flatMap UsageBatch.writeSamples, sample.Sound
  queries : ∀ sample ∈ batches.flatMap UsageBatch.querySamples, sample.Sound
  ingestion : WithinLimits dailyPlace tables.ingestionDaily (ingestionBookings batches)
  query : WithinLimits dailyPlace tables.queryUsageDaily (queryBookings batches)
  monthly : WithinLimits monthlyPlace tables.ingestQueryMonthly (monthlyBookings batches)

/-- Two lists of batches have the same samples, in whatever order and batches. -/
structure SameSamples (batches whole : List UsageBatch) : Prop where
  writes : (batches.flatMap UsageBatch.writeSamples).Perm (whole.flatMap UsageBatch.writeSamples)
  queries : (batches.flatMap UsageBatch.querySamples).Perm
    (whole.flatMap UsageBatch.querySamples)

/-- No two of the sums that a batch upserts into a table have one key there. -/
structure UsageBatch.KeysDistinct (postgres : Postgres) (batch : UsageBatch) : Prop where
  ingestion : ((aggregateIngestionDaily batch.writeSamples).map fun sums =>
    dailyConflictKey postgres sums.identity).Nodup
  query : ((aggregateQueryDaily batch.querySamples).map fun sums =>
    dailyConflictKey postgres sums.identity).Nodup
  monthlyWrites : ((aggregateMonthlyUsageForWrites batch.writeSamples).map fun sums =>
    monthlyConflictKey postgres sums.identity).Nodup
  monthlyQueries : ((aggregateMonthlyUsageForQueries batch.querySamples).map fun sums =>
    monthlyConflictKey postgres sums.identity).Nodup

section

variable (postgres : Postgres)

theorem placed_ingestion {samples : List WriteUsage} (sound : ∀ sample ∈ samples, sample.Sound) :
    Placed (dailyConflictKey postgres) dailyPlace (samples.map ingestionBooking) := by
  refine placed_daily postgres fun booking member => ?_
  obtain ⟨sample, listed, rfl⟩ := List.mem_map.mp member
  exact ⟨_, _, _, _, (sound sample listed).dated, rfl⟩

theorem placed_query {samples : List QueryUsage} (sound : ∀ sample ∈ samples, sample.Sound) :
    Placed (dailyConflictKey postgres) dailyPlace (samples.map queryBooking) := by
  refine placed_daily postgres fun booking member => ?_
  obtain ⟨sample, listed, rfl⟩ := List.mem_map.mp member
  exact ⟨_, _, _, _, (sound sample listed).dated, rfl⟩

theorem placed_months {writes : List WriteUsage} {queries : List QueryUsage}
    (sound : ∀ sample ∈ writes, sample.Sound) (sound' : ∀ sample ∈ queries, sample.Sound) :
    Placed (monthlyConflictKey postgres) monthlyPlace
      (writes.map monthlyWriteBooking ++ queries.map monthlyQueryBooking) := by
  refine placed_monthly postgres fun booking member => ?_
  obtain write | query := List.mem_append.mp member
  · obtain ⟨sample, listed, rfl⟩ := List.mem_map.mp write
    exact ⟨_, _, _, _, _, (sound sample listed).dated, rfl⟩
  · obtain ⟨sample, listed, rfl⟩ := List.mem_map.mp query
    exact ⟨_, _, _, _, _, (sound' sample listed).dated, rfl⟩

/-- The batches of sound samples have distinct keys. -/
theorem keysDistinct_of_sound {batch : UsageBatch}
    (writes : ∀ sample ∈ batch.writeSamples, sample.Sound)
    (queries : ∀ sample ∈ batch.querySamples, sample.Sound) : batch.KeysDistinct postgres := by
  -- The sums of the writes and those of the queries are sent one after the other.
  have months : Placed (monthlyConflictKey postgres) monthlyPlace
      (batch.writeSamples.map monthlyWriteBooking) := by
    have none : ∀ sample ∈ ([] : List QueryUsage), sample.Sound := by simp
    have placed := placed_months postgres writes none
    simpa using placed
  have months' : Placed (monthlyConflictKey postgres) monthlyPlace
      (batch.querySamples.map monthlyQueryBooking) := by
    have none : ∀ sample ∈ ([] : List WriteUsage), sample.Sound := by simp
    have placed := placed_months postgres none queries
    simpa using placed
  constructor
  · rw [aggregateIngestionDaily, List.map_map]
    exact (placed_ingestion postgres writes).distinct
  · rw [aggregateQueryDaily, List.map_map]
    exact (placed_query postgres queries).distinct
  · rw [aggregateMonthlyUsageForWrites, List.map_map]
    exact months.distinct
  · rw [aggregateMonthlyUsageForQueries, List.map_map]
    exact months'.distinct

/-- The bookings of the months, with those of the writes in front. -/
theorem monthlyBookings_perm (batches : List UsageBatch) :
    ((batches.flatMap UsageBatch.writeSamples).map monthlyWriteBooking ++
      (batches.flatMap UsageBatch.querySamples).map monthlyQueryBooking).Perm
        (monthlyBookings batches) := by
  rw [List.map_flatMap, List.map_flatMap]
  exact List.flatMap_append_perm _ _ _

variable {tables : RollupTables} {batches : List UsageBatch}

/-- Sound samples within the limits can be booked. -/
theorem Billable.canBook (billable : Billable tables batches) :
    CanBook postgres tables batches := by
  have nonneg : ∀ sample : WriteUsage, sample.Sound →
      ∀ column, 0 ≤ ((ingestionBooking sample).amounts column).toInt := by
    intro sample sound column
    cases column with
    | compressedBytes => exact sound.compressedBytes
    | originalBytes => exact sound.originalBytes
    | records => exact sound.records
    | fileCount => exact Int.one_nonneg
  have nonneg' : ∀ sample : QueryUsage, sample.Sound →
      ∀ column, 0 ≤ ((queryBooking sample).amounts column).toInt := by
    intro sample sound column
    cases column with
    | bytesScanned => exact sound.bytesScanned
    | rowsScanned => exact sound.rowsScanned
    | queryCount => exact Int.one_nonneg
  constructor
  · refine ⟨placed_ingestion postgres billable.writes, ?_, billable.ingestion⟩
    intro booking member
    obtain ⟨sample, listed, rfl⟩ := List.mem_map.mp member
    exact nonneg sample (billable.writes sample listed)
  · refine ⟨placed_query postgres billable.queries, ?_, billable.query⟩
    intro booking member
    obtain ⟨sample, listed, rfl⟩ := List.mem_map.mp member
    exact nonneg' sample (billable.queries sample listed)
  · -- The bookings of the months come from the writes and from the queries.
    have members (booking : Booking MonthlyHashKey MonthlyIdentity MonthlyColumn) :=
      (monthlyBookings_perm batches).mem_iff (a := booking)
    have placed := placed_months postgres billable.writes billable.queries
    refine ⟨⟨fun booking member => placed.located booking ((members booking).mpr member),
      fun booking member other member' => placed.keyed booking ((members booking).mpr member)
        other ((members other).mpr member')⟩, ?_, billable.monthly⟩
    rintro booking member ⟨⟩
    obtain write | query := List.mem_append.mp ((members booking).mpr member)
    · obtain ⟨sample, listed, rfl⟩ := List.mem_map.mp write
      exact (billable.writes sample listed).compressedBytes
    · obtain ⟨sample, listed, rfl⟩ := List.mem_map.mp query
      exact (billable.queries sample listed).bytesScanned

/--
Samples that are sound and within the limits are booked on the UTC day and month that contain
their times, by whatever batches they come in. The tables are the same for all batches of the same
samples, and in none of these batches do two sums have one key.
-/
theorem usage_independent_of_batches (billable : Billable tables batches) :
    (∃ after, tables.Hold batches after ∧ ∀ whole, SameSamples batches whole →
      insertBatches postgres tables whole = some after) ∧
    ∀ whole, SameSamples batches whole → ∀ batch ∈ whole, batch.KeysDistinct postgres := by
  have same (whole : List UsageBatch) (samples : SameSamples batches whole) :
      (ingestionBookings batches).Perm (ingestionBookings whole) ∧
        (queryBookings batches).Perm (queryBookings whole) ∧
        (monthlyBookings batches).Perm (monthlyBookings whole) := by
    refine ⟨samples.writes.map _, samples.queries.map _, ?_⟩
    exact ((monthlyBookings_perm batches).symm.trans
      ((samples.writes.map _).append (samples.queries.map _))).trans (monthlyBookings_perm whole)
  -- So the other batches are within the limits, and end in tables that hold the same bookings.
  have again (whole : List UsageBatch) (samples : SameSamples batches whole) :
      Billable tables whole := by
    obtain ⟨ingestion, query, monthly⟩ := same whole samples
    refine ⟨fun sample member => billable.writes sample (samples.writes.mem_iff.mpr member),
      fun sample member => billable.queries sample (samples.queries.mem_iff.mpr member),
      billable.ingestion.perm ingestion, billable.query.perm query,
      billable.monthly.perm monthly⟩
  constructor
  · obtain ⟨after, _, held⟩ := insertBatches_hold (billable.canBook postgres)
    refine ⟨after, held, fun whole samples => ?_⟩
    obtain ⟨other, run, held'⟩ := insertBatches_hold ((again whole samples).canBook postgres)
    obtain ⟨ingestion, query, monthly⟩ := same whole samples
    rw [run, held.unique held' ingestion query monthly]
  · intro whole samples batch member
    obtain ⟨writes, queries, _, _, _⟩ := again whole samples
    refine keysDistinct_of_sound postgres (fun sample listed => ?_) fun sample listed => ?_
    · exact writes sample (List.mem_flatMap.mpr ⟨batch, member, listed⟩)
    · exact queries sample (List.mem_flatMap.mpr ⟨batch, member, listed⟩)

end

/-- A Postgres whose timestamps are all exact. -/
def exactPostgres : Postgres where
  toTimestamp micros :=
    if earliestDay * microsOfDay ≤ micros.toInt then some micros.toInt else none
  exact _ _ early := if_pos early

def emptyTables : RollupTables := ⟨fun _ => none, fun _ => none, fun _ => none⟩

/-- A batch of writes whose maps are iterated in the order in which their keys were first seen. -/
def writesInOrder (samples : List WriteUsage) : UsageBatch :=
  .writes samples ⟨_, .refl _⟩ ⟨_, .refl _⟩

/-- A write of some bytes to a workspace. -/
def writeOf (bytes flushedAt : Int64) : WriteUsage where
  workspaceId := Uuid.nil
  signal := .traces
  compressedBytes := bytes
  records := 1
  flushedAt := flushedAt
  originalBytes := none

/-- Two writes of one day make one row, together or one after another. -/
theorem two_writes_in_batches :
    insertBatches exactPostgres emptyTables
          [writesInOrder [writeOf 2 0], writesInOrder [writeOf 3 1]] =
        insertBatches exactPostgres emptyTables [writesInOrder [writeOf 2 0, writeOf 3 1]] ∧
      (insertBatches exactPostgres emptyTables
        [writesInOrder [writeOf 2 0, writeOf 3 1]]).isSome := by
  -- Together the samples keep the limits, so that any batches of them come to the same.
  have billable : Billable emptyTables [writesInOrder [writeOf 2 0, writeOf 3 1]] := by
    refine ⟨?_, by simp [writesInOrder, UsageBatch.querySamples], ?_, ?_, ?_⟩
    · have sound (bytes flushedAt : Int64) (dated : InCalendar flushedAt)
          (positive : 0 ≤ bytes.toInt) : (writeOf bytes flushedAt).Sound :=
        ⟨dated, positive, le_refl 0, Int.one_nonneg⟩
      intro sample member
      obtain rfl | rfl : sample = writeOf 2 0 ∨ sample = writeOf 3 1 := by
        simpa [writesInOrder, UsageBatch.writeSamples] using member
      · exact sound 2 0 (by decide +kernel) (by decide)
      · exact sound 3 1 (by decide +kernel) (by decide)
    · exact withinLimits_empty (by decide +kernel) (by decide +kernel)
    · exact withinLimits_empty (by decide +kernel) (by decide +kernel)
    · exact withinLimits_empty (by decide +kernel) (by decide +kernel)
  obtain ⟨after, _, runs⟩ := (usage_independent_of_batches exactPostgres billable).1
  have apart := runs [writesInOrder [writeOf 2 0], writesInOrder [writeOf 3 1]]
    ⟨.refl _, .refl _⟩
  have together := runs [writesInOrder [writeOf 2 0, writeOf 3 1]] ⟨.refl _, .refl _⟩
  rw [apart, together]
  exact ⟨rfl, rfl⟩

/-- The start of the first year that has no dates, in microseconds. -/
def lateMicros : Int64 := 8210266876800000000

/--
Writes of two days of a month without dates are upserted one after another and refused together, as
their sums have one key. Writes before the first timestamp of Postgres are refused, and so is a sum
below the upper end whose gigabytes are not an `integer`.
-/
theorem late_months_share_key :
    (¬ ((aggregateMonthlyUsageForWrites [writeOf 1 lateMicros,
        writeOf 1 (lateMicros + 86400000000)]).map fun sums =>
      monthlyConflictKey exactPostgres sums.identity).Nodup) ∧
    (insertBatches exactPostgres emptyTables
      [writesInOrder [writeOf 1 lateMicros, writeOf 1 (lateMicros + 86400000000)]]).isNone ∧
    (insertBatches exactPostgres emptyTables [writesInOrder [writeOf 1 lateMicros],
      writesInOrder [writeOf 1 (lateMicros + 86400000000)]]).isSome ∧
    (insertBatches exactPostgres emptyTables
      [writesInOrder [writeOf 1 (-300000000000000000)]]).isNone ∧
    (insertBatches exactPostgres emptyTables
      [writesInOrder [writeOf 2305843009213693952 0]]).isNone := by
  decide +kernel

end Zradar.Policies
