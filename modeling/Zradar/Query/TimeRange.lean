import Zradar.Retention.Config

/-! The time ranges of queries, and the retention enforcer that clamps where they start. -/

namespace Zradar.Query

open Retention

/-- How the enforcer handles a query that exceeds the retention window. -/
inductive EnforcementStrategy where
  | clamp
  | reject
  deriving DecidableEq

/-- Result of applying the enforcer to a single time-range query. -/
structure EnforcementResult where
  modified : Bool
  retentionDays : UInt32
  effectiveStartNs : Int64
  deriving DecidableEq

/-- Enforces retention limits on telemetry queries. -/
structure QueryEnforcer where
  configStore : RetentionConfigStore
  strategy : EnforcementStrategy

/-- The timestamp of an instant, which is a number of nanoseconds, if it fits in 64 bits. -/
def timestampNanosOpt (instant : Int) : Option Int64 :=
  if -2 ^ 63 ≤ instant ∧ instant < 2 ^ 63 then some (Int64.ofInt instant) else none

/-- Enforce retention on the start of a query, at a reading of the clock. -/
def QueryEnforcer.enforce (enforcer : QueryEnforcer) (now : Int) (workspaceId : WorkspaceId)
    (startNs : Option Int64) : Except String (Int64 × EnforcementResult) :=
  let retentionDays := enforcer.configStore.getEffectiveDays workspaceId
  let cutoffNs := enforcer.configStore.getCutoffNs (timestampNanosOpt now) workspaceId
  let accept (effectiveStart : Int64) (modified : Bool) :
      Except String (Int64 × EnforcementResult) :=
    .ok (effectiveStart, ⟨modified, retentionDays, effectiveStart⟩)
  match startNs with
  | none => accept cutoffNs false
  | some start =>
    if start < cutoffNs then
      match enforcer.strategy with
      | .clamp => accept cutoffNs true
      | .reject =>
        let days := toString retentionDays.toNat
        .error ("Query start time is before the retention cutoff (" ++ days ++
          " days). Earliest allowed start is approximately " ++ days ++ " days ago.")
    else accept start false

/-- The start of a query as it is passed on, with or without an enforcer. -/
def enforceStart (enforcer : Option QueryEnforcer) (now : Int) (workspaceId : WorkspaceId)
    (startNs : Option Int64) : Except String Int64 :=
  match enforcer with
  | some enforcer => (enforcer.enforce now workspaceId startNs).map Prod.fst
  | none => .ok (startNs.getD 0)

/-- A time range of a storage filter, in nanoseconds. -/
structure TimeRange where
  start : Int64
  ending : Int64
  deriving DecidableEq

/-- The bounds that a query asks for. -/
structure QueryBounds where
  startTime : Option Int
  endTime : Option Int
  deriving DecidableEq

section

variable (enforcer : Option QueryEnforcer) (workspaceId : WorkspaceId) (bounds : QueryBounds)
  -- The clock is read for the cutoff, and once more for a range without an end.
  (now later : Int)

/-- The start that the enforcer makes of the one that is asked for. -/
def enforcedStart : Except String Int64 :=
  enforceStart enforcer now workspaceId (bounds.startTime.bind timestampNanosOpt)

/-- A range if either bound is given, up to now if it is not the end. -/
def rangeOfEither : Except String (Option TimeRange) := do
  let start ← enforcedStart enforcer workspaceId bounds now
  if bounds.startTime.isSome ∨ bounds.endTime.isSome then
    let ending := (bounds.endTime.bind timestampNanosOpt).getD ((timestampNanosOpt later).getD 0)
    .ok (some ⟨start, ending⟩)
  else .ok none

/-- A range only if the end is given. -/
def rangeOfEnd : Except String (Option TimeRange) := do
  let start ← enforcedStart enforcer workspaceId bounds now
  .ok (bounds.endTime.map fun ending => ⟨start, (timestampNanosOpt ending).getD 0⟩)

/-- The time range of a trace query. -/
def tracesTimeRange : Except String (Option TimeRange) :=
  rangeOfEither enforcer workspaceId bounds now later

/-- The time range of a span query. -/
def spansTimeRange : Except String (Option TimeRange) :=
  rangeOfEither enforcer workspaceId bounds now later

/-- The time range of a log query. -/
def logsTimeRange : Except String (Option TimeRange) :=
  rangeOfEnd enforcer workspaceId bounds now

/-- The time range of a metric query. -/
def metricsTimeRange : Except String (Option TimeRange) :=
  rangeOfEnd enforcer workspaceId bounds now

/-- The time range of a metric series, which is not passed through the enforcer. -/
def metricSeriesTimeRange : Except String (Option TimeRange) :=
  .ok (match bounds.startTime, bounds.endTime with
    | some start, some ending =>
      some ⟨(timestampNanosOpt start).getD 0, (timestampNanosOpt ending).getD 0⟩
    | _, _ => none)

end

/-- The methods that query a range of time. -/
inductive RangeQuery where
  | traces
  | spans
  | logs
  | metrics
  | metricSeries
  deriving DecidableEq

/-- The time range that a method passes to storage. -/
def RangeQuery.timeRange (query : RangeQuery) (enforcer : Option QueryEnforcer)
    (workspaceId : WorkspaceId) (bounds : QueryBounds) (now later : Int) :
    Except String (Option TimeRange) :=
  match query with
  | .traces => tracesTimeRange enforcer workspaceId bounds now later
  | .spans => spansTimeRange enforcer workspaceId bounds now later
  | .logs => logsTimeRange enforcer workspaceId bounds now
  | .metrics => metricsTimeRange enforcer workspaceId bounds now
  | .metricSeries => metricSeriesTimeRange bounds

/-- Nanoseconds in one day. -/
def nsPerDay : Int := 86400000000000

/-- The cutoff of a workspace, exactly. -/
def exactCutoff (configStore : RetentionConfigStore) (now : Int) (workspaceId : WorkspaceId) :
    Int :=
  ((timestampNanosOpt now).getD 0).toInt -
    (configStore.getEffectiveDays workspaceId).toNat * nsPerDay

/-- A range that starts within retention, and keeps each bound that is asked for. -/
structure KeepsBounds (cutoff : Int) (bounds : QueryBounds) (range : TimeRange) : Prop where
  retained : cutoff ≤ range.start.toInt
  start : ∀ start, bounds.startTime = some start → start ≤ range.start.toInt
  ending : ∀ ending, bounds.endTime = some ending → range.ending.toInt = ending

/-- The instants whose nanoseconds fit in 64 bits. -/
def Fits (instant : Int) : Prop := -2 ^ 63 ≤ instant ∧ instant < 2 ^ 63

instance (instant : Int) : Decidable (Fits instant) := inferInstanceAs (Decidable (_ ∧ _))

theorem timestampNanosOpt_of_fits {instant : Int} (fits : Fits instant) :
    timestampNanosOpt instant = some (Int64.ofInt instant) ∧
      (Int64.ofInt instant).toInt = instant := by
  refine ⟨if_pos fits, Int64.toInt_ofInt_of_le ?_ ?_⟩
  · exact fits.1
  · exact fits.2

theorem timestampNanosOpt_of_not_fits {instant : Int} (outside : ¬ Fits instant) :
    timestampNanosOpt instant = none :=
  if_neg outside

/-- What an end that is given comes to, which is the end itself only if it fits. -/
theorem ending_eq_iff (ending : Int) (other : Int64) :
    ((timestampNanosOpt ending).getD other).toInt = ending ↔ Fits ending := by
  by_cases fits : Fits ending
  · obtain ⟨read, same⟩ := timestampNanosOpt_of_fits fits
    simp [read, same, fits]
  · rw [timestampNanosOpt_of_not_fits fits]
    refine iff_of_false ?_ fits
    -- No 64-bit number is outside of the range of 64-bit numbers.
    rintro rfl
    exact fits ⟨Int64.le_toInt other, Int64.toInt_lt other⟩

/-- The cutoff that is computed may have wrapped, and then it is later than the exact one. -/
theorem exactCutoff_le (configStore : RetentionConfigStore) (now : Int)
    (workspaceId : WorkspaceId) :
    exactCutoff configStore now workspaceId ≤
      (configStore.getCutoffNs (timestampNanosOpt now) workspaceId).toInt := by
  -- The subtraction can only wrap upward.
  unfold exactCutoff RetentionConfigStore.getCutoffNs
  simp only
  rw [sub_span_toInt, show (1000000000 : Int64).toInt = 1000000000 from rfl, Int.bmod_def]
  have above := ((timestampNanosOpt now).getD 0).toInt_lt
  unfold nsPerDay
  split <;> omega

/-- The start that clamping makes of the one that is asked for. -/
def clampedStart (configStore : RetentionConfigStore) (workspaceId : WorkspaceId)
    (bounds : QueryBounds) (now : Int) : Int64 :=
  let cutoffNs := configStore.getCutoffNs (timestampNanosOpt now) workspaceId
  match bounds.startTime.bind timestampNanosOpt with
  | none => cutoffNs
  | some start => if start < cutoffNs then cutoffNs else start

section

variable (configStore : RetentionConfigStore) (workspaceId : WorkspaceId) (bounds : QueryBounds)
  (now later : Int)

/-- An enforcer that clamps refuses no query. -/
theorem enforcedStart_clamp :
    enforcedStart (some ⟨configStore, .clamp⟩) workspaceId bounds now =
      .ok (clampedStart configStore workspaceId bounds now) := by
  -- In clamp mode no start is refused.
  unfold enforcedStart enforceStart QueryEnforcer.enforce clampedStart
  cases bounds.startTime.bind timestampNanosOpt with
  | none => rfl
  | some start =>
    simp only
    split <;> rfl

/-- A clamped start is within retention. -/
theorem exactCutoff_le_clampedStart :
    exactCutoff configStore now workspaceId ≤
      (clampedStart configStore workspaceId bounds now).toInt := by
  -- The start is the cutoff, or it is later than that.
  have exact := exactCutoff_le configStore now workspaceId
  unfold clampedStart
  simp only
  split
  · exact exact
  · split
    · exact exact
    · rename_i start _ inside
      rw [Int64.lt_iff_toInt_lt] at inside
      omega

/-- A clamped start keeps the one that is asked for, unless that is too late for 64 bits. -/
theorem start_le_clampedStart_iff {start : Int} (given : bounds.startTime = some start) :
    start ≤ (clampedStart configStore workspaceId bounds now).toInt ↔ start < 2 ^ 63 := by
  have above := (clampedStart configStore workspaceId bounds now).toInt_lt
  constructor
  · intro kept
    omega
  · intro early
    unfold clampedStart
    simp only [given, Option.bind_some]
    by_cases fits : Fits start
    · -- A start that fits is passed on, or replaced by the later cutoff.
      obtain ⟨read, same⟩ := timestampNanosOpt_of_fits fits
      simp only [read]
      split
      · rename_i before
        rw [Int64.lt_iff_toInt_lt, same] at before
        omega
      · omega
    · -- A start that is too early for 64 bits is before every cutoff.
      rw [timestampNanosOpt_of_not_fits fits]
      have below := (configStore.getCutoffNs (timestampNanosOpt now) workspaceId).le_toInt
      unfold Fits at fits
      simp only
      omega

/-- The bounds that are given can be passed on: the start is not too late, and the end fits. -/
structure BoundsFit (bounds : QueryBounds) : Prop where
  start : ∀ start, bounds.startTime = some start → start < 2 ^ 63
  ending : ∀ ending, bounds.endTime = some ending → Fits ending

/-- A range with a clamped start keeps the bounds exactly when its end does and they fit. -/
theorem keepsBounds_clamped_iff (other : Int64) :
    KeepsBounds (exactCutoff configStore now workspaceId) bounds
        ⟨clampedStart configStore workspaceId bounds now,
          (bounds.endTime.bind timestampNanosOpt).getD other⟩ ↔ BoundsFit bounds := by
  -- Both bounds are kept exactly if they fit into the words of the range.
  constructor
  · intro keeps
    refine ⟨?_, ?_⟩
    · intro start given
      exact (start_le_clampedStart_iff configStore workspaceId bounds now given).mp
        (keeps.start start given)
    · intro ending given
      have same := keeps.ending ending given
      rw [given, Option.bind_some] at same
      exact (ending_eq_iff ending other).mp same
  · intro fit
    refine ⟨exactCutoff_le_clampedStart configStore workspaceId bounds now, ?_, ?_⟩
    · intro start given
      exact (start_le_clampedStart_iff configStore workspaceId bounds now given).mpr
        (fit.start start given)
    · intro ending given
      rw [given, Option.bind_some]
      exact (ending_eq_iff ending other).mpr (fit.ending ending given)

end

/-- When a method keeps the bounds of a query, by what it does with each of them. -/
def RangeQuery.KeepsWhen (cutoff : Int) (bounds : QueryBounds) : RangeQuery → Prop
  | .traces | .spans =>
    (bounds.startTime.isSome ∨ bounds.endTime.isSome) ∧ BoundsFit bounds
  | .logs | .metrics => bounds.endTime.isSome ∧ BoundsFit bounds
  | .metricSeries =>
    ∃ start ending, bounds.startTime = some start ∧ bounds.endTime = some ending ∧ Fits ending ∧
      -- A start that is too early for 64 bits becomes the epoch.
      (Fits start ∧ cutoff ≤ start ∨ start < -2 ^ 63 ∧ cutoff ≤ 0)

/-- A range for either bound is there and keeps them, if one is given and they fit. -/
theorem rangeOfEither_keeps_iff (configStore : RetentionConfigStore) (workspaceId : WorkspaceId)
    (bounds : QueryBounds) (now later : Int) :
    (∃ range, rangeOfEither (some ⟨configStore, .clamp⟩) workspaceId bounds now later =
        .ok (some range) ∧
      KeepsBounds (exactCutoff configStore now workspaceId) bounds range) ↔
      (bounds.startTime.isSome ∨ bounds.endTime.isSome) ∧ BoundsFit bounds := by
  -- Without any bound there is no range at all.
  unfold rangeOfEither
  rw [enforcedStart_clamp]
  by_cases given : bounds.startTime.isSome ∨ bounds.endTime.isSome
  · rw [← keepsBounds_clamped_iff configStore workspaceId bounds now
      ((timestampNanosOpt later).getD 0)]
    simp [given, bind, Except.bind]
  · simp [given, bind, Except.bind]

/-- A range for the end is there and keeps the bounds, if the end is given and they fit. -/
theorem rangeOfEnd_keeps_iff (configStore : RetentionConfigStore) (workspaceId : WorkspaceId)
    (bounds : QueryBounds) (now : Int) :
    (∃ range, rangeOfEnd (some ⟨configStore, .clamp⟩) workspaceId bounds now = .ok (some range) ∧
      KeepsBounds (exactCutoff configStore now workspaceId) bounds range) ↔
      bounds.endTime.isSome ∧ BoundsFit bounds := by
  unfold rangeOfEnd
  rw [enforcedStart_clamp, ← keepsBounds_clamped_iff configStore workspaceId bounds now 0]
  cases given : bounds.endTime with
  | none => simp [bind, Except.bind]
  | some ending => simp [bind, Except.bind]

/-- The range of a series keeps the bounds if both are given, fit, and are within retention. -/
theorem metricSeriesTimeRange_keeps_iff (cutoff : Int) (bounds : QueryBounds) :
    (∃ range, metricSeriesTimeRange bounds = .ok (some range) ∧
      KeepsBounds cutoff bounds range) ↔ RangeQuery.KeepsWhen cutoff bounds .metricSeries := by
  obtain ⟨startTime, endTime⟩ := bounds
  cases startTime with
  | none => simp [metricSeriesTimeRange, RangeQuery.KeepsWhen]
  | some start =>
    cases endTime with
    | none => simp [metricSeriesTimeRange, RangeQuery.KeepsWhen]
    | some ending =>
      have kept : KeepsBounds cutoff ⟨some start, some ending⟩
          ⟨(timestampNanosOpt start).getD 0, (timestampNanosOpt ending).getD 0⟩ ↔
          Fits ending ∧ (Fits start ∧ cutoff ≤ start ∨ start < -2 ^ 63 ∧ cutoff ≤ 0) := by
        rw [← ending_eq_iff ending 0]
        by_cases fits : Fits start
        · -- A start that fits is passed on as it is.
          obtain ⟨read, same⟩ := timestampNanosOpt_of_fits fits
          have early : ¬ start < -2 ^ 63 := by
            have := fits.1
            omega
          constructor
          · rintro ⟨retained, _, last⟩
            simp only [read, Option.getD_some, same] at retained
            exact ⟨last ending rfl, .inl ⟨fits, retained⟩⟩
          · rintro ⟨last, ⟨_, retained⟩ | ⟨before, _⟩⟩
            · refine ⟨?_, ?_, ?_⟩
              · simpa [read, same] using retained
              · rintro _ ⟨⟩
                simp [read, same]
              · rintro _ ⟨⟩
                exact last
            · exact absurd before early
        · -- A start that does not fit becomes the epoch, which keeps it only if it was earlier.
          have read := timestampNanosOpt_of_not_fits fits
          have zero : (0 : Int64).toInt = 0 := rfl
          constructor
          · rintro ⟨retained, first, last⟩
            have first := first start rfl
            simp only [read, Option.getD_none, zero] at retained first
            refine ⟨last ending rfl, .inr ⟨?_, retained⟩⟩
            unfold Fits at fits
            omega
          · rintro ⟨last, ⟨inside, _⟩ | ⟨before, retained⟩⟩
            · exact absurd inside fits
            · refine ⟨?_, ?_, ?_⟩
              · simpa [read, zero] using retained
              · rintro _ ⟨⟩
                simp only [read, Option.getD_none, zero]
                omega
              · rintro _ ⟨⟩
                exact last
      simpa [metricSeriesTimeRange, RangeQuery.KeepsWhen] using kept

/--
With an enforcer that clamps, a method passes on a range that is within retention and keeps the
bounds of the query exactly when its own way to build the range covers the bounds that are given.
-/
theorem range_within_retention_iff (query : RangeQuery) (configStore : RetentionConfigStore)
    (workspaceId : WorkspaceId) (bounds : QueryBounds) (now later : Int) :
    (∃ range, query.timeRange (some ⟨configStore, .clamp⟩) workspaceId bounds now later =
        .ok (some range) ∧
      KeepsBounds (exactCutoff configStore now workspaceId) bounds range) ↔
      query.KeepsWhen (exactCutoff configStore now workspaceId) bounds := by
  -- Each kind of query builds its range in one of three ways.
  cases query with
  | traces => exact rangeOfEither_keeps_iff configStore workspaceId bounds now later
  | spans => exact rangeOfEither_keeps_iff configStore workspaceId bounds now later
  | logs => exact rangeOfEnd_keeps_iff configStore workspaceId bounds now
  | metrics => exact rangeOfEnd_keeps_iff configStore workspaceId bounds now
  | metricSeries => exact metricSeriesTimeRange_keeps_iff _ bounds

/-- A query for logs that gives only a start is passed on without any range. -/
theorem logs_drop_lone_start :
    let bounds : QueryBounds := ⟨some 1735603200000000000, none⟩
    let now := 1735689600000000000
    RangeQuery.logs.timeRange (some ⟨.new 30, .clamp⟩) Uuid.nil bounds now now = .ok none ∧
      ¬ ∃ range, RangeQuery.logs.timeRange (some ⟨.new 30, .clamp⟩) Uuid.nil bounds now now =
          .ok (some range) ∧
        KeepsBounds (exactCutoff (.new 30) now Uuid.nil) bounds range := by
  refine ⟨rfl, ?_⟩
  rintro ⟨range, given, _⟩
  cases given

end Zradar.Query
