import Zradar.Parquet.FileList
import Zradar.Policies.Enforcer
import Zradar.Query.Service
import Zradar.Retention.CutoffRange

/-! The limits of a policy on the range of a query, and which wider ranges evade them. -/

namespace Zradar.Query

open Policies Parquet Retention

/-- The label of the files of a signal, if it has files. -/
def signalTypeName : SignalKind → Option String
  | .traces => some "traces"
  | .logs => some "logs"
  | .metrics => some "metrics"
  | .rum | .sessionReplay | .errorTracking | .all => none

/-- The policy enforcer of a query service: the limits, and the readings they are checked with. -/
structure PolicyEnforcer where
  store : PolicyStore
  usage : UsageReader

section

variable
  -- The sum of the compressed sizes of the files that a filter admits, if there is a file list.
  (sumCompressedSize : Option (FileListFilter → Except String Int64))
  (policyEnforcer : Option PolicyEnforcer) (workspaceId : WorkspaceId)

/-- How many bytes a query would scan, as far as the file list tells. -/
def estimateScannedBytes (signal : SignalKind) (startMicros endMicros : Option Int64) :
    Except QueryError (Option UInt64) :=
  match sumCompressedSize, signalTypeName signal with
  | some sumCompressedSize, some signalType =>
    match sumCompressedSize { FileListFilter.default with
        workspaceId := some workspaceId
        signalType := some signalType
        timeRangeStart := startMicros
        timeRangeEnd := endMicros
        deleted := some false } with
    | .error error => .error (.internal ("Storage metadata error: " ++ error))
    | .ok compressedSize => .ok (some (.ofNat compressedSize.toInt.toNat))
  | _, _ => .ok none

/-- Refuse a query that its policy throttles or blocks, at a reading of the clock. -/
def enforcePolicyQuery (nowMicros : Int64) (signal : SignalKind)
    (startMicros endMicros : Option Int64) : Except QueryError (Option UInt64) :=
  match estimateScannedBytes sumCompressedSize workspaceId signal startMicros endMicros with
  | .error error => .error error
  | .ok estimatedScannedBytes =>
    match policyEnforcer with
    | none => .ok estimatedScannedBytes
    | some enforcer =>
      match checkQuery enforcer.usage enforcer.store
        ⟨workspaceId, signal, startMicros, endMicros, estimatedScannedBytes, nowMicros⟩ with
      | .allow | .allowWithGrace _ => .ok estimatedScannedBytes
      | .throttle _ reason | .block reason _ => .error (.invalidInput reason)

/-- The signal whose limits a method checks. -/
def RangeQuery.signal : RangeQuery → SignalKind
  | .traces | .spans => .traces
  | .logs => .logs
  | .metrics | .metricSeries => .metrics

/-- Every method passes on the bounds that it is given, in microseconds. -/
def RangeQuery.enforcePolicy (query : RangeQuery) (bounds : QueryBounds) (now : Int) :
    Except QueryError (Option UInt64) :=
  enforcePolicyQuery sumCompressedSize policyEnforcer workspaceId (timestampMicros now)
    query.signal (bounds.startTime.map timestampMicros) (bounds.endTime.map timestampMicros)

end

/-- The earliest start that a retention limit admits. -/
def retentionCutoff (nowMicros : Int64) (maxDays : UInt32) : Int64 :=
  Saturating.sub nowMicros (Saturating.mul (Int64.ofNat maxDays.toNat) dayMicros)

/-- The longest range that a window limit admits. -/
def windowMicros (maxQueryDays : UInt32) : Int64 :=
  Saturating.mul (Int64.ofNat maxQueryDays.toNat) dayMicros

section

variable (ctx : QueryCtx) (retention queryWindow : Option PolicyLimit)

/-- The range check refuses a query. -/
def BlocksRange : Prop :=
  ∃ reason code, checkQueryRange ctx retention queryWindow = some (.block reason code)

/-- The start of a query is given, and lies before the cutoff of a retention limit. -/
def StartsTooEarly : Prop :=
  ∃ maxDays start, retention = some (.retention maxDays) ∧ ctx.startMicros = some start ∧
    start < retentionCutoff ctx.nowMicros maxDays

/-- Both bounds of a query are given, and are farther apart than a window limit admits. -/
def RunsTooLong : Prop :=
  ∃ maxQueryDays start ending, queryWindow = some (.window maxQueryDays) ∧
    ctx.startMicros = some start ∧ ctx.endMicros = some ending ∧
    windowMicros maxQueryDays < Saturating.sub ending start

theorem checkQueryRetention_eq_some_iff (decision : Decision) :
    checkQueryRetention ctx retention = some decision ↔
      StartsTooEarly ctx retention ∧
        decision = .block "retention_violation" .retentionViolation := by
  -- The limit has to be one of retention, and the start has to be given.
  unfold checkQueryRetention StartsTooEarly
  split
  · rename_i maxDays start given
    simp only [given, Option.some.injEq, PolicyLimit.retention.injEq, exists_and_left,
      exists_eq_left']
    show (if start < retentionCutoff ctx.nowMicros maxDays then _ else _) = _ ↔ _
    split
    · rename_i early
      simp [early, eq_comm]
    · rename_i late
      simp [late]
  · rename_i other
    simp only [reduceCtorEq, false_iff, not_and]
    rintro ⟨maxDays, start, limit, given, _⟩
    exact absurd given (other maxDays start limit)

theorem checkQueryWindow_eq_some_iff (decision : Decision) :
    checkQueryWindow ctx queryWindow = some decision ↔
      RunsTooLong ctx queryWindow ∧
        decision = .block "query_window_violation" .queryWindowViolation := by
  -- The limit has to be one of the window, and both bounds have to be given.
  unfold checkQueryWindow RunsTooLong
  split
  · rename_i maxQueryDays start ending first last
    simp only [first, last, Option.some.injEq, PolicyLimit.window.injEq, exists_and_left,
      exists_eq_left']
    show (if Saturating.sub ending start > windowMicros maxQueryDays then _ else _) = _ ↔ _
    split
    · rename_i long
      simp [show windowMicros maxQueryDays < Saturating.sub ending start from long, eq_comm]
    · rename_i short
      simp [show ¬ windowMicros maxQueryDays < Saturating.sub ending start from short]
  · rename_i other
    simp only [reduceCtorEq, false_iff, not_and]
    rintro ⟨maxQueryDays, start, ending, limit, first, last, _⟩
    exact absurd last (other maxQueryDays start ending limit first)

/-- The range check refuses a query that starts too early or runs too long. -/
theorem blocksRange_iff :
    BlocksRange ctx retention queryWindow ↔
      StartsTooEarly ctx retention ∨ RunsTooLong ctx queryWindow := by
  -- The check of retention comes first, and the one of the window if that says nothing.
  unfold BlocksRange checkQueryRange
  constructor
  · rintro ⟨reason, code, refused⟩
    cases early : checkQueryRetention ctx retention with
    | some decision =>
      exact .inl ((checkQueryRetention_eq_some_iff ctx retention decision).mp early).1
    | none =>
      rw [early] at refused
      exact .inr ((checkQueryWindow_eq_some_iff ctx queryWindow _).mp refused).1
  · intro breaks
    cases early : checkQueryRetention ctx retention with
    | some decision =>
      obtain ⟨_, rfl⟩ := (checkQueryRetention_eq_some_iff ctx retention decision).mp early
      exact ⟨_, _, rfl⟩
    | none =>
      have inside : ¬ StartsTooEarly ctx retention := by
        intro starts
        have := (checkQueryRetention_eq_some_iff ctx retention _).mpr ⟨starts, rfl⟩
        simp [early] at this
      have long := breaks.resolve_left inside
      exact ⟨_, _, (checkQueryWindow_eq_some_iff ctx queryWindow _).mpr ⟨long, rfl⟩⟩

end

/-- The instants that a query asks for, where no start is the unbounded past and no end is now. -/
def instants (ctx : QueryCtx) : Set Int :=
  let ending := (ctx.endMicros.getD ctx.nowMicros).toInt
  match ctx.startMicros with
  | none => Set.Iic ending
  | some start => Set.Icc start.toInt ending

/-- A range inside of another, by its bounds, at one reading of the clock. -/
structure Within (narrower wider : QueryCtx) : Prop where
  clock : narrower.nowMicros = wider.nowMicros
  /-- A start that is absent is the unbounded past. -/
  start : ∀ first, wider.startMicros = some first →
    ∃ later, narrower.startMicros = some later ∧ first ≤ later
  /-- An end that is absent is now. -/
  ending : narrower.endMicros.getD narrower.nowMicros ≤ wider.endMicros.getD wider.nowMicros

section

variable {narrower wider : QueryCtx}

/-- For a range that asks for anything, to be inside is to ask for some of the same instants. -/
theorem within_iff_subset (clock : narrower.nowMicros = wider.nowMicros)
    (asked : (instants narrower).Nonempty) :
    Within narrower wider ↔ instants narrower ⊆ instants wider := by
  -- The four combinations of starts are intervals with one bound or with two.
  have same : Within narrower wider ↔
      (∀ first, wider.startMicros = some first →
        ∃ later, narrower.startMicros = some later ∧ first ≤ later) ∧
      narrower.endMicros.getD narrower.nowMicros ≤ wider.endMicros.getD wider.nowMicros :=
    ⟨fun within => ⟨within.start, within.ending⟩, fun ⟨start, ending⟩ => ⟨clock, start, ending⟩⟩
  rw [same, Int64.le_iff_toInt_le]
  unfold instants at asked ⊢
  cases inner : narrower.startMicros with
  | none =>
    cases outer : wider.startMicros with
    | none => simp
    | some first =>
      -- The unbounded past is not inside of a range with a start.
      have outside : ¬ Set.Iic (narrower.endMicros.getD narrower.nowMicros).toInt ⊆
          Set.Icc first.toInt (wider.endMicros.getD wider.nowMicros).toInt := by
        intro inside
        have below := inside (Set.mem_Iic.mpr (min_le_left _ (first.toInt - 1)))
        rw [Set.mem_Icc] at below
        omega
      simp [outside]
  | some later =>
    simp only [inner] at asked
    have ordered := Set.nonempty_Icc.mp asked
    cases outer : wider.startMicros with
    | none => simp [Set.Icc_subset_Iic_iff ordered]
    | some first => simp [Set.Icc_subset_Icc_iff ordered, Int64.le_iff_toInt_le]

/-- A start that is given lies before every cutoff that a later one lies before. -/
theorem StartsTooEarly.widen {retention : Option PolicyLimit} (within : Within narrower wider)
    (given : wider.startMicros.isSome) (early : StartsTooEarly narrower retention) :
    StartsTooEarly wider retention := by
  -- Both ranges are held to the same cutoff, since they are asked at the same time.
  obtain ⟨maxDays, later, limit, starts, before⟩ := early
  obtain ⟨first, outer⟩ := Option.isSome_iff_exists.mp given
  obtain ⟨other, same, ordered⟩ := within.start first outer
  rw [starts, Option.some.injEq] at same
  subst other
  rw [within.clock] at before
  exact ⟨maxDays, first, limit, outer, Int64.lt_of_le_of_lt ordered before⟩

/-- A difference that stops at the ends of the range grows with the range it is taken of. -/
theorem sub_le_sub {first later ending last : Int64} (starts : first ≤ later)
    (ends : ending ≤ last) : Saturating.sub ending later ≤ Saturating.sub last first := by
  rw [Int64.le_iff_toInt_le] at starts ends ⊢
  simp only [Saturating.sub, Saturating.toI64_toInt]
  omega

/-- A range with both bounds is as long as every range inside of it. -/
theorem RunsTooLong.widen {queryWindow : Option PolicyLimit} (within : Within narrower wider)
    (start : wider.startMicros.isSome) (ending : wider.endMicros.isSome)
    (long : RunsTooLong narrower queryWindow) : RunsTooLong wider queryWindow := by
  -- The bounds of the wider range lie around those of the narrower one.
  obtain ⟨maxQueryDays, later, finish, limit, starts, ends, above⟩ := long
  obtain ⟨first, outerStart⟩ := Option.isSome_iff_exists.mp start
  obtain ⟨last, outerEnd⟩ := Option.isSome_iff_exists.mp ending
  obtain ⟨other, same, ordered⟩ := within.start first outerStart
  rw [starts, Option.some.injEq] at same
  subst other
  have ordered' := within.ending
  rw [ends, outerEnd, Option.getD_some, Option.getD_some] at ordered'
  exact ⟨maxQueryDays, first, last, limit, outerStart, outerEnd,
    Int64.lt_of_lt_of_le above (sub_le_sub ordered ordered')⟩

/--
A range passes where a narrower one is refused exactly if it leaves out a bound, does not start too
early itself, and the narrower range starts too early or runs too long.
-/
theorem blocksRange_mono_iff (retention queryWindow : Option PolicyLimit)
    (within : Within narrower wider) :
    (BlocksRange narrower retention queryWindow → BlocksRange wider retention queryWindow) ↔
      (wider.startMicros.isSome ∧ wider.endMicros.isSome) ∨
        StartsTooEarly wider retention ∨
          ¬ StartsTooEarly narrower retention ∧ ¬ RunsTooLong narrower queryWindow := by
  rw [blocksRange_iff, blocksRange_iff]
  constructor
  · -- A range that runs too long gives both of its bounds.
    intro kept
    by_cases inside : StartsTooEarly narrower retention ∨ RunsTooLong narrower queryWindow
    · rcases kept inside with early | long
      · exact .inr (.inl early)
      · obtain ⟨_, _, _, _, start, ending, _⟩ := long
        exact .inl ⟨by simp [start], by simp [ending]⟩
    · exact .inr (.inr (not_or.mp inside))
  · rintro (⟨start, ending⟩ | early | ⟨inside, short⟩) breaks
    · rcases breaks with early | long
      · exact .inl (early.widen within start)
      · exact .inr (long.widen within start ending)
    · exact .inl early
    · rcases breaks with early | long
      · exact absurd early inside
      · exact absurd long short

/-- Two days with both bounds are refused, and so are the three days around them. -/
theorem three_days_around_two :
    let days (start : Int64) : QueryCtx :=
      ⟨Uuid.nil, .traces, some start, some (3 * dayMicros), none, 0⟩
    let oneDay := some (PolicyLimit.window 1)
    BlocksRange (days dayMicros) none oneDay ∧ BlocksRange (days 0) none oneDay := by
  intro days oneDay
  have within : Within (days dayMicros) (days 0) := by
    refine ⟨rfl, ?_, by decide⟩
    rintro _ ⟨⟩
    exact ⟨dayMicros, rfl, by decide⟩
  have refused : BlocksRange (days dayMicros) none oneDay := ⟨_, _, rfl⟩
  exact ⟨refused, (blocksRange_mono_iff none oneDay within).mpr (.inl ⟨rfl, rfl⟩) refused⟩

end

/-- What a method has the policy enforcer check. -/
def RangeQuery.queryCtx (query : RangeQuery) (workspaceId : WorkspaceId) (bounds : QueryBounds)
    (estimatedScannedBytes : Option UInt64) (now : Int) : QueryCtx :=
  ⟨workspaceId, query.signal, bounds.startTime.map timestampMicros,
    bounds.endTime.map timestampMicros, estimatedScannedBytes, timestampMicros now⟩

/-- Bounds inside of others, where no start is the unbounded past and no end is now. -/
structure BoundsWithin (now : Int) (narrower wider : QueryBounds) : Prop where
  start : ∀ first, wider.startTime = some first →
    ∃ later, narrower.startTime = some later ∧ first ≤ later
  ending : narrower.endTime.getD now ≤ wider.endTime.getD now

/-- The instants that queries are asked with have microseconds of 64 bits. -/
structure HaveMicros (now : Int) (bounds : QueryBounds) : Prop where
  clock : Fits (now / 1000)
  start : ∀ start, bounds.startTime = some start → Fits (start / 1000)
  ending : ∀ ending, bounds.endTime = some ending → Fits (ending / 1000)

/-- Cutting instants off to microseconds keeps their order. -/
theorem timestampMicros_le {first later : Int} (one : Fits (first / 1000))
    (other : Fits (later / 1000)) (ordered : first ≤ later) :
    timestampMicros first ≤ timestampMicros later := by
  have start : (timestampMicros first).toInt = first / 1000 :=
    (timestampNanosOpt_of_fits one).2
  have ending : (timestampMicros later).toInt = later / 1000 :=
    (timestampNanosOpt_of_fits other).2
  rw [Int64.le_iff_toInt_le, start, ending]
  omega

/-- The policy enforcer is asked about ranges that lie in each other as the bounds do. -/
theorem RangeQuery.queryCtx_within (query : RangeQuery) (workspaceId : WorkspaceId)
    {narrower wider : QueryBounds} (estimated scanned : Option UInt64) {now : Int}
    (within : BoundsWithin now narrower wider) (inner : HaveMicros now narrower)
    (outer : HaveMicros now wider) :
    Within (query.queryCtx workspaceId narrower estimated now)
      (query.queryCtx workspaceId wider scanned now) := by
  -- The two starts are cut off alike, and so are the two ends.
  refine ⟨rfl, ?_, ?_⟩
  · intro first given
    obtain ⟨start, asked, rfl⟩ := Option.map_eq_some_iff.mp given
    obtain ⟨later, starts, ordered⟩ := within.start start asked
    refine ⟨timestampMicros later, by simp [queryCtx, starts], ?_⟩
    exact timestampMicros_le (outer.start start asked) (inner.start later starts) ordered
  · -- An end that is absent is the same reading of the clock on both sides.
    have ends (bounds : QueryBounds) (estimate : Option UInt64) :
        (query.queryCtx workspaceId bounds estimate now).endMicros.getD (timestampMicros now) =
          timestampMicros (bounds.endTime.getD now) := by
      unfold queryCtx
      cases bounds.endTime <;> rfl
    have fits {bounds : QueryBounds} (micros : HaveMicros now bounds) :
        Fits (bounds.endTime.getD now / 1000) := by
      cases given : bounds.endTime with
      | none => exact micros.clock
      | some ending => exact micros.ending ending given
    show (query.queryCtx workspaceId narrower estimated now).endMicros.getD (timestampMicros now) ≤
      (query.queryCtx workspaceId wider scanned now).endMicros.getD (timestampMicros now)
    rw [ends, ends]
    exact timestampMicros_le (fits inner) (fits outer) within.ending

/-- The service refuses every query whose range is blocked. -/
theorem RangeQuery.enforcePolicy_of_blocksRange (query : RangeQuery)
    {sumCompressedSize : Option (FileListFilter → Except String Int64)} {enforcer : PolicyEnforcer}
    {workspaceId : WorkspaceId} {bounds : QueryBounds} {now : Int} {estimated : Option UInt64}
    (read : estimateScannedBytes sumCompressedSize workspaceId query.signal
      (bounds.startTime.map timestampMicros) (bounds.endTime.map timestampMicros) = .ok estimated)
    (blocked : BlocksRange (query.queryCtx workspaceId bounds estimated now)
      (enforcer.store workspaceId query.signal .query).retention
      (enforcer.store workspaceId query.signal .query).queryWindow) :
    ∃ reason, query.enforcePolicy sumCompressedSize (some enforcer) workspaceId bounds now =
      .error (.invalidInput reason) := by
  -- The range is the first that is checked, and what it says is the decision.
  obtain ⟨reason, code, refused⟩ := blocked
  have decided : checkQuery enforcer.usage enforcer.store
      (query.queryCtx workspaceId bounds estimated now) = .block reason code := by
    rw [checkQuery, decideQuery]
    simp only [queryCtx] at refused ⊢
    rw [refused]
  unfold queryCtx at decided
  refine ⟨reason, ?_⟩
  simp only [enforcePolicy, enforcePolicyQuery, read, decided]

/-- Limits of a workspace: queries reach back a month, and range over a day. -/
def monthAndDay : PolicyEnforcer where
  store _ _ _ := { ResolvedPolicy.default with
    retention := some (.retention 30)
    queryWindow := some (.window 1) }
  usage :=
    { currentRate _ _ _ := .error "no reading"
      periodUsedBytes _ _ _ _ _ := .error "no reading"
      storedCompressedBytes _ _ := .error "no reading" }

/--
Three days that end now are refused, and with the end left out they pass. A hundred days are
refused, and with the start left out as well they pass.
-/
theorem left_out_bound_evades_limit :
    let now : Int := 1735689600000000000
    let ask (bounds : QueryBounds) :=
      RangeQuery.traces.enforcePolicy none (some monthAndDay) Uuid.nil bounds now
    let ctx (bounds : QueryBounds) := RangeQuery.traces.queryCtx Uuid.nil bounds none now
    let threeDays := now - 3 * nsPerDay
    let hundredDays := now - 100 * nsPerDay
    ask ⟨some threeDays, some now⟩ = .error (.invalidInput "query_window_violation") ∧
      ask ⟨some threeDays, none⟩ = .ok none ∧
      ask ⟨some hundredDays, some now⟩ = .error (.invalidInput "retention_violation") ∧
      ask ⟨none, some now⟩ = .ok none ∧
      Within (ctx ⟨some threeDays, some now⟩) (ctx ⟨some threeDays, none⟩) ∧
      ¬ (BlocksRange (ctx ⟨some threeDays, some now⟩) (some (.retention 30)) (some (.window 1)) →
        BlocksRange (ctx ⟨some threeDays, none⟩) (some (.retention 30)) (some (.window 1))) := by
  refine ⟨rfl, rfl, rfl, rfl, ?_, ?_⟩
  · refine ⟨rfl, ?_, ?_⟩
    · intro first given
      exact ⟨first, given, Int64.le_refl first⟩
    · decide
  · intro kept
    obtain ⟨reason, code, refused⟩ := kept ⟨_, _, rfl⟩
    cases refused

end Zradar.Query
