import Zradar.Policies.Comparison
import Zradar.Policies.Enforcement

/-! What the enforcer comes to, reports and audits, however all that it awaits is answered. -/

namespace Zradar.Policies

open Awaiting

/-- The threshold events that exchanges hand to the sink, stored or not. -/
def emitted (exchanges : List EnforcerExchange) : List ThresholdEvent :=
  exchanges.filterMap fun
    | ⟨.emit event, _⟩ => some event
    | _ => none

/-- The audits that exchanges hand to the sink, stored or not. -/
def recorded (exchanges : List EnforcerExchange) : List DecisionAuditEvent :=
  exchanges.filterMap fun
    | ⟨.record event, _⟩ => some event
    | _ => none

/-- What a reading of usage answers, and nothing where a sink has to. -/
def EnforcerQuestion.reading? (usage : UsageReader) :
    (question : EnforcerQuestion) → Option question.Answer
  | .currentRate workspaceId signal operation =>
    some (usage.currentRate workspaceId signal operation)
  | .periodUsedBytes workspaceId signal operation periodStart periodEnd =>
    some (usage.periodUsedBytes workspaceId signal operation periodStart periodEnd)
  | .storedCompressedBytes workspaceId signal =>
    some (usage.storedCompressedBytes workspaceId signal)
  | .emit _ => none
  | .record _ => none

/-- All readings among the exchanges are those of one reader. -/
def AnsweredBy (usage : UsageReader) (exchanges : List EnforcerExchange) : Prop :=
  ∀ exchange ∈ exchanges, ∀ reading, exchange.1.reading? usage = some reading →
    exchange.2 = reading

/-- The kind of limit that a reason names, if it names one. -/
def limitKind? : String → Option String
  | "rate_records_exceeded" => some "rate_records"
  | "rate_bytes_exceeded" => some "rate_bytes"
  | "quota_exceeded" => some "quota"
  | "size_exceeded" => some "size"
  | "query_rate_exceeded" => some "query_rate_bytes"
  | "query_quota_exceeded" => some "quota"
  | _ => none

/-- A limit that leaves room for something. -/
def PolicyLimit.Positive : PolicyLimit → Prop
  | .rate recordsPerSec bytesPerSec =>
    (∀ limit ∈ recordsPerSec, 0 < limit) ∧ ∀ limit ∈ bytesPerSec, 0 < limit
  | .quota maxBytes _ _ _ => 0 < maxBytes
  | .size maxBytes _ => 0 < maxBytes
  | .retention _ => True
  | .window _ => True

/-- The percentage of a limit that a decision stands for. -/
def decisionPct (gracePct hardBlockPct : UInt8) : Decision → Nat
  | .allow => 0
  | .allowWithGrace _ => 100
  | .throttle _ _ => gracePct.toNat
  | .block _ _ => hardBlockPct.toNat

/-- A percentage that is reported comes with every lower one. -/
def Escalated (hardBlockPct : UInt8) (events : List ThresholdEvent) : Prop :=
  ∀ event ∈ events, ∀ thresholdPct ∈ thresholds hardBlockPct, thresholdPct ≤ event.thresholdPct →
    { event with thresholdPct } ∈ events

/-- A decision by a limit comes with reports about it, up to the percentage that it stands for. -/
def Warned (gracePct hardBlockPct : UInt8) (events : List ThresholdEvent) (decision : Decision) :
    Prop :=
  ∀ limitKind, limitKind? (decisionReason decision) = some limitKind →
    ∃ event : ThresholdEvent, event.limitKind = limitKind ∧
      ∀ thresholdPct ∈ thresholds hardBlockPct,
        thresholdPct.toNat ≤ decisionPct gracePct hardBlockPct decision →
          { event with thresholdPct } ∈ events

theorem answeredBy_nil (usage : UsageReader) : AnsweredBy usage [] := by
  intro exchange member
  cases member

theorem answeredBy_append {usage : UsageReader} {first second : List EnforcerExchange} :
    AnsweredBy usage (first ++ second) ↔ AnsweredBy usage first ∧ AnsweredBy usage second :=
  List.forall_mem_append

@[simp] theorem emitted_append (first second : List EnforcerExchange) :
    emitted (first ++ second) = emitted first ++ emitted second := List.filterMap_append ..

@[simp] theorem recorded_append (first second : List EnforcerExchange) :
    recorded (first ++ second) = recorded first ++ recorded second := List.filterMap_append ..

theorem escalated_nil (hardBlockPct : UInt8) : Escalated hardBlockPct [] := by
  intro event member
  cases member

theorem Escalated.append {hardBlockPct : UInt8} {first second : List ThresholdEvent}
    (one : Escalated hardBlockPct first) (other : Escalated hardBlockPct second) :
    Escalated hardBlockPct (first ++ second) := by
  intro event member thresholdPct listed lower
  obtain before | behind := List.mem_append.mp member
  · exact List.mem_append_left _ (one event before thresholdPct listed lower)
  · exact List.mem_append_right _ (other event behind thresholdPct listed lower)

theorem Warned.mono {gracePct hardBlockPct : UInt8} {events more : List ThresholdEvent}
    {decision : Decision} (warned : Warned gracePct hardBlockPct events decision)
    (among : events ⊆ more) : Warned gracePct hardBlockPct more decision := by
  intro limitKind named
  obtain ⟨event, kind, reported⟩ := warned limitKind named
  exact ⟨event, kind, fun thresholdPct listed lower => among (reported thresholdPct listed lower)⟩

/-- A small multiple of a limit, cut off at the ends of the range. -/
theorem multiple_toInt (limit : Int64) (pct : UInt16) :
    (Saturating.mul limit (Int64.ofNat pct.toNat)).toInt =
      max (-2 ^ 63) (min (2 ^ 63 - 1) (pct.toNat * limit.toInt)) := by
  have word : (Int64.ofNat pct.toNat).toInt = pct.toNat := by
    apply Int64.toInt_ofNat_of_lt
    have := pct.toNat_lt
    omega
  rw [Saturating.mul, Saturating.toI64_toInt, word, Int.mul_comm]

/-- A percentage is crossed by the products of the integers, cut off at the ends of the range. -/
theorem ThresholdEvent.crossed_iff (event : ThresholdEvent) :
    event.Crossed ↔
      max (-2 ^ 63) (min (2 ^ 63 - 1) (event.thresholdPct.toNat * event.limitValue.toInt)) ≤
        max (-2 ^ 63) (min (2 ^ 63 - 1) (100 * event.observedValue.toInt)) := by
  rw [Crossed, ge_iff_le, Int64.le_iff_toInt_le, multiple_toInt, hundredfold_toInt]

/-- Against a positive limit, a percentage that is crossed lies above all lower ones. -/
theorem ThresholdEvent.Crossed.lower {event : ThresholdEvent} (crossed : event.Crossed)
    (positive : 0 < event.limitValue) {thresholdPct : UInt16}
    (below : thresholdPct ≤ event.thresholdPct) : { event with thresholdPct }.Crossed := by
  have limit : 0 < event.limitValue.toInt := by simpa [Int64.lt_iff_toInt_lt] using positive
  have factors : (thresholdPct.toNat : Int) ≤ event.thresholdPct.toNat := by
    exact_mod_cast UInt16.le_iff_toNat_le.mp below
  have products := Int.mul_le_mul_of_nonneg_right factors limit.le
  -- Cutting off a smaller product gives no more than cutting off a larger one.
  rw [crossed_iff] at crossed ⊢
  dsimp only
  omega

/-- A decision against a positive limit crosses every percentage up to the one it stands for. -/
theorem crossed_of_compareLimitI64 {event : ThresholdEvent} {gracePct hardBlockPct : UInt8}
    {code : BlockCode} {reason : String} {decision : Decision} (positive : 0 < event.limitValue)
    (decided : compareLimitI64 event.observedValue event.limitValue gracePct hardBlockPct code
      reason = some decision)
    (below : event.thresholdPct.toNat ≤ decisionPct gracePct hardBlockPct decision) :
    event.Crossed := by
  have limit : 0 < event.limitValue.toInt := by simpa [Int64.lt_iff_toInt_lt] using positive
  have products := Int.mul_le_mul_of_nonneg_right (Int.ofNat_le.mpr below) limit.le
  rw [compareLimitI64_bands, outcomeOf] at decided
  rw [ThresholdEvent.crossed_iff]
  -- Each of the three bands lies above the percentage of its decision.
  split_ifs at decided with blocks throttles exceeds
  all_goals
    obtain rfl := Option.some.inj decided
    simp only [decisionPct] at products
    omega

/-- A comparison gives its own reason. -/
theorem reason_of_compareLimitI64 {observed limit : Int64} {gracePct hardBlockPct : UInt8}
    {code : BlockCode} {reason : String} {decision : Decision}
    (decided : compareLimitI64 observed limit gracePct hardBlockPct code reason = some decision) :
    decisionReason decision = reason := by
  rw [compareLimitI64] at decided
  split_ifs at decided <;> cases decided <;> rfl

/-- The percentages that are crossed are emitted, and nothing else is asked. -/
theorem emitEach_meets (event : UInt16 → ThresholdEvent) (thresholdPcts : List UInt16) :
    (emitEach event thresholdPcts).Meets fun exchanges _ =>
      exchanges.map Sigma.fst =
        ((thresholdPcts.map event).filter fun crossing => crossing.Crossed).map .emit := by
  induction thresholdPcts with
  | nil => rfl
  | cons thresholdPct rest further =>
    rw [emitEach]
    by_cases crossed : (event thresholdPct).Crossed
    · -- Whatever the sink makes of the event, the rest is emitted behind it.
      rw [if_pos crossed]
      intro outcome
      refine further.mono fun exchanges _ asked => ?_
      simp [asked, crossed]
    · rw [if_neg crossed]
      refine further.mono fun exchanges _ asked => ?_
      simp [asked, crossed]

/-- The events of a reading, of which a limit that is not positive has none. -/
def ThresholdContext.crossings (ctx : ThresholdContext) (observed limit : Int64)
    (periodStart : Option Int64) (hardBlockPct : UInt8) : List ThresholdEvent :=
  if limit ≤ 0 then []
  else ((thresholds hardBlockPct).map (ctx.event observed limit periodStart)).filter
    fun crossing => crossing.Crossed

theorem emitThresholds_meets (ctx : ThresholdContext) (observed limit : Int64)
    (periodStart : Option Int64) (hardBlockPct : UInt8) :
    (emitThresholds ctx observed limit periodStart hardBlockPct).Meets fun exchanges _ =>
      exchanges.map Sigma.fst =
        (ctx.crossings observed limit periodStart hardBlockPct).map .emit := by
  rw [emitThresholds, ThresholdContext.crossings]
  by_cases unlimited : limit ≤ 0
  · rw [if_pos unlimited, if_pos unlimited]
    rfl
  · rw [if_neg unlimited, if_neg unlimited]
    exact emitEach_meets _ _

/-- The events of a reading are those at the percentages of a positive limit that it crosses. -/
theorem ThresholdContext.mem_crossings {ctx : ThresholdContext} {observed limit : Int64}
    {periodStart : Option Int64} {hardBlockPct : UInt8} {event : ThresholdEvent} :
    event ∈ ctx.crossings observed limit periodStart hardBlockPct ↔
      0 < limit ∧ event.Crossed ∧ ∃ thresholdPct ∈ thresholds hardBlockPct,
        ctx.event observed limit periodStart thresholdPct = event := by
  rw [crossings]
  by_cases unlimited : limit ≤ 0
  · simp [unlimited, Int64.not_lt]
  · simp [unlimited, Int64.not_le.mp unlimited, and_comm]

theorem ThresholdContext.escalated_crossings (ctx : ThresholdContext) (observed limit : Int64)
    (periodStart : Option Int64) (hardBlockPct : UInt8) :
    Escalated hardBlockPct (ctx.crossings observed limit periodStart hardBlockPct) := by
  intro event member thresholdPct listed below
  obtain ⟨positive, crossed, reached, _, rfl⟩ := mem_crossings.mp member
  exact mem_crossings.mpr ⟨positive, crossed.lower positive below, thresholdPct, listed, rfl⟩

/-- Exchanges that only emit threshold events. -/
theorem of_emits {exchanges : List EnforcerExchange} {events : List ThresholdEvent}
    (asked : exchanges.map Sigma.fst = events.map .emit) :
    emitted exchanges = events ∧ recorded exchanges = [] := by
  induction exchanges generalizing events with
  | nil =>
    cases events with
    | nil => exact ⟨rfl, rfl⟩
    | cons _ _ => simp at asked
  | cons exchange rest further =>
    cases events with
    | nil => simp at asked
    | cons event others =>
      obtain ⟨question, answer⟩ := exchange
      obtain ⟨rfl, behind⟩ := List.cons.inj asked
      obtain ⟨emits, records⟩ := further behind
      exact ⟨congrArg (event :: ·) emits, records⟩

section

variable (gracePct hardBlockPct : UInt8)

/-- What a check comes to: its decision, the reports about it, and no audit yet. -/
structure Checked (positive : Prop) (reasons : String → Prop)
    (asked : UsageReader → Option Decision) (exchanges : List EnforcerExchange)
    (outcome : Option Decision) : Prop where
  decided : ∀ usage, AnsweredBy usage exchanges → outcome = asked usage
  reason : ∀ decision, outcome = some decision → reasons (decisionReason decision)
  unrecorded : recorded exchanges = []
  escalated : Escalated hardBlockPct (emitted exchanges)
  warned : positive → ∀ decision, outcome = some decision →
    Warned gracePct hardBlockPct (emitted exchanges) decision

variable {gracePct hardBlockPct}

/-- A check that decides nothing asks nothing. -/
theorem checked_nothing {positive : Prop} {reasons : String → Prop} :
    Checked gracePct hardBlockPct positive reasons (fun _ => none) [] none where
  decided _ _ := rfl
  reason _ decided := by cases decided
  unrecorded := rfl
  escalated := escalated_nil hardBlockPct
  warned _ _ decided := by cases decided

/-- A check may be held against less, and to a decision that is the same. -/
theorem checked_weaken {positive stronger : Prop} {reasons : String → Prop}
    {asked plain : UsageReader → Option Decision} {check : Enforcement (Option Decision)}
    (meets : check.Meets (Checked gracePct hardBlockPct positive reasons asked))
    (implied : stronger → positive) (same : ∀ usage, asked usage = plain usage) :
    check.Meets (Checked gracePct hardBlockPct stronger reasons plain) :=
  meets.mono fun _ _ checked =>
    { checked with
      decided := fun usage read => (checked.decided usage read).trans (same usage)
      warned := fun held => checked.warned (implied held) }

namespace DefaultPolicyEnforcer

/-- A comparison gives the outcome of the plain one and reports its reading first. -/
theorem compared_meets {ctx : ThresholdContext} (observed limit : Int64)
    (periodStart : Option Int64) (code : BlockCode) {reason : String} {reasons : String → Prop}
    (fits : reasons reason) (kind : limitKind? reason = some ctx.limitKind) :
    (compared ctx observed limit periodStart gracePct hardBlockPct code reason).Meets
      (Checked gracePct hardBlockPct (0 < limit) reasons fun _ =>
        compareLimitI64 observed limit gracePct hardBlockPct code reason) := by
  refine (emitThresholds_meets ctx observed limit periodStart hardBlockPct).bind ?_
  intro exchanges _ asked
  obtain ⟨emits, records⟩ := of_emits asked
  change Checked _ _ _ _ _ (exchanges ++ []) _
  rw [List.append_nil]
  exact {
    decided := fun _ _ => rfl
    reason := fun decision decided => by
      rwa [reason_of_compareLimitI64 decided]
    unrecorded := records
    escalated := by
      rw [emits]
      exact ctx.escalated_crossings _ _ _ _
    warned := by
      intro positive decision decided limitKind named
      -- The reading itself is what the reports are about.
      refine ⟨ctx.event observed limit periodStart 0, ?_, ?_⟩
      · rw [reason_of_compareLimitI64 decided, kind] at named
        exact Option.some.inj named
      · intro thresholdPct listed below
        rw [emits]
        have crossed : (ctx.event observed limit periodStart thresholdPct).Crossed :=
          crossed_of_compareLimitI64 positive decided below
        exact ThresholdContext.mem_crossings.mpr
          ⟨positive, crossed, thresholdPct, listed, rfl⟩ }

/-- A reading of usage, which is all that it asks. -/
def Reads {α : Type} (reading : Enforcement (Except String α))
    (asked : UsageReader → Except String α) : Prop :=
  reading.Meets fun exchanges answer =>
    emitted exchanges = [] ∧ recorded exchanges = [] ∧
      ∀ usage, AnsweredBy usage exchanges → answer = asked usage

theorem reads_currentRate (workspaceId : WorkspaceId) (signal : SignalKind)
    (operation : Operation) :
    Reads (currentRate workspaceId signal operation)
      fun usage => usage.currentRate workspaceId signal operation :=
  fun _ => ⟨rfl, rfl, fun _ answered => answered _ List.mem_cons_self _ rfl⟩

theorem reads_periodUsedBytes (workspaceId : WorkspaceId) (signal : SignalKind)
    (operation : Operation) (periodStart : Int64) (periodEnd : Option Int64) :
    Reads (periodUsedBytes workspaceId signal operation periodStart periodEnd)
      fun usage => usage.periodUsedBytes workspaceId signal operation periodStart periodEnd :=
  fun _ => ⟨rfl, rfl, fun _ answered => answered _ List.mem_cons_self _ rfl⟩

theorem reads_storedCompressedBytes (workspaceId : WorkspaceId) (signal : SignalKind) :
    Reads (storedCompressedBytes workspaceId signal)
      fun usage => usage.storedCompressedBytes workspaceId signal :=
  fun _ => ⟨rfl, rfl, fun _ answered => answered _ List.mem_cons_self _ rfl⟩

section

variable {positive : Prop} {reasons : String → Prop}

/-- A reading in front of a check changes nothing about what it reports. -/
theorem whenRead_meets {α : Type} {reading : Enforcement (Except String α)}
    {asked : UsageReader → Except String α} (reads : Reads reading asked)
    {check : α → Enforcement (Option Decision)} {plain : α → UsageReader → Option Decision}
    (meets : ∀ value,
      (check value).Meets (Checked gracePct hardBlockPct positive reasons (plain value))) :
    (whenRead reading check).Meets (Checked gracePct hardBlockPct positive reasons fun usage =>
      match asked usage with
      | .error _ => none
      | .ok value => plain value usage) := by
  refine Meets.bind reads ?_
  intro before answer answered
  obtain ⟨emits, records, same⟩ := answered
  cases answer with
  | error message =>
    -- A reading that fails decides nothing.
    change Checked _ _ _ _ _ (before ++ []) _
    rw [List.append_nil]
    exact {
      decided := fun usage read => by rw [← same usage read]
      reason := fun _ decided => by cases decided
      unrecorded := records
      escalated := by rw [emits]; exact escalated_nil _
      warned := fun _ _ decided => by cases decided }
  | ok value =>
    refine (meets value).mono fun behind outcome checked => ?_
    exact {
      decided := fun usage read => by
        obtain ⟨first, second⟩ := answeredBy_append.mp read
        rw [← same usage first]
        exact checked.decided usage second
      reason := checked.reason
      unrecorded := by rw [recorded_append, records, checked.unrecorded, List.append_nil]
      escalated := by rw [emitted_append, emits]; exact checked.escalated
      warned := by rw [emitted_append, emits]; exact checked.warned }

/-- A check that decides nothing leaves the decision to the one behind it. -/
theorem decidedBy_meets {also : Prop} {check behind : Enforcement (Option Decision)}
    {first second : UsageReader → Option Decision}
    (one : check.Meets (Checked gracePct hardBlockPct positive reasons first))
    (other : behind.Meets (Checked gracePct hardBlockPct also reasons second)) :
    (decidedBy check behind).Meets
      (Checked gracePct hardBlockPct (positive ∧ also) reasons fun usage =>
        (first usage).or (second usage)) := by
  refine Meets.bind one ?_
  intro before outcome checked
  cases outcome with
  | some decision =>
    change Checked _ _ _ _ _ (before ++ []) _
    rw [List.append_nil]
    exact {
      decided := fun usage read => by rw [← checked.decided usage read, Option.some_or]
      reason := checked.reason
      unrecorded := checked.unrecorded
      escalated := checked.escalated
      warned := fun held => checked.warned held.1 }
  | none =>
    refine other.mono fun rest outcome later => ?_
    exact {
      decided := fun usage read => by
        obtain ⟨early, late⟩ := answeredBy_append.mp read
        rw [← checked.decided usage early, Option.none_or, later.decided usage late]
      reason := later.reason
      unrecorded := by
        rw [recorded_append, checked.unrecorded, later.unrecorded, List.append_nil]
      escalated := by
        rw [emitted_append]
        exact checked.escalated.append later.escalated
      warned := fun held decision decided => by
        rw [emitted_append]
        exact (later.warned held.2 decision decided).mono (List.subset_append_right _ _) }

/-- The first quota that decides is the first one that decides on its own. -/
theorem checkEach_meets {check : PolicyLimit → Enforcement (Option Decision)}
    {positive : PolicyLimit → Prop} {plain : UsageReader → PolicyLimit → Option Decision}
    (meets : ∀ quota, (check quota).Meets
      (Checked gracePct hardBlockPct (positive quota) reasons fun usage => plain usage quota))
    (quotas : List PolicyLimit) :
    (checkEach check quotas).Meets
      (Checked gracePct hardBlockPct (∀ quota ∈ quotas, positive quota) reasons fun usage =>
        quotas.findSome? (plain usage)) := by
  induction quotas with
  | nil => exact checked_nothing
  | cons quota rest further =>
    refine checked_weaken (decidedBy_meets (meets quota) further) List.forall_mem_cons.mp ?_
    intro usage
    rw [List.findSome?_cons]
    cases plain usage quota <;> rfl

end

/-- A reason for which a request to ingest is audited as one. -/
def NotSize (reason : String) : Prop := reason ≠ "size_exceeded"

instance (reason : String) : Decidable (NotSize reason) := inferInstanceAs (Decidable (_ ≠ _))

/-- A count that is positive stays so as a signed number. -/
theorem u64ToI64Saturating_pos {value : UInt64} (positive : 0 < value) :
    0 < u64ToI64Saturating value := by
  have above : 0 < value.toNat := by simpa [UInt64.lt_iff_toNat_lt] using positive
  rw [Int64.lt_iff_toInt_lt, u64ToI64Saturating_toInt, Int64.toInt_zero]
  omega

/-- The comparison of counts is made on signed numbers. -/
theorem compared_count_meets {ctx : ThresholdContext} (observed : UInt64) {limit : UInt64}
    (periodStart : Option Int64) (code : BlockCode) {reason : String} {reasons : String → Prop}
    (fits : reasons reason) (kind : limitKind? reason = some ctx.limitKind) :
    (compared ctx (u64ToI64Saturating observed) (u64ToI64Saturating limit) periodStart gracePct
        hardBlockPct code reason).Meets
      (Checked gracePct hardBlockPct (0 < limit) reasons fun _ =>
        compareLimit observed limit gracePct hardBlockPct code reason) :=
  checked_weaken (compared_meets _ _ periodStart code fits kind) u64ToI64Saturating_pos
    fun _ => rfl

theorem compareRecords_meets (ctx : IngestCtx) (recordsPerSec : Option UInt64)
    (operation : Operation) (sample : RateSample) :
    (compareRecords ctx recordsPerSec operation gracePct hardBlockPct sample).Meets
      (Checked gracePct hardBlockPct (∀ limit ∈ recordsPerSec, 0 < limit) NotSize fun _ =>
        recordsPerSec.bind fun limit =>
          compareLimit (Saturating.addU64 sample.recordsPerSec ctx.records) limit gracePct
            hardBlockPct .rateLimitExceeded "rate_records_exceeded") := by
  cases recordsPerSec with
  | none => exact checked_nothing
  | some limit =>
    exact checked_weaken (compared_count_meets _ none _ (by decide) rfl)
      (fun positive => positive limit rfl) fun _ => rfl

theorem compareBytes_meets (ctx : IngestCtx) (bytesPerSec : Option UInt64)
    (operation : Operation) (sample : RateSample) :
    (compareBytes ctx bytesPerSec operation gracePct hardBlockPct sample).Meets
      (Checked gracePct hardBlockPct (∀ limit ∈ bytesPerSec, 0 < limit) NotSize fun _ =>
        bytesPerSec.bind fun limit => ctx.estimatedBytes.bind fun estimatedBytes =>
          compareLimit (Saturating.addU64 sample.bytesPerSec estimatedBytes) limit gracePct
            hardBlockPct .rateLimitExceeded "rate_bytes_exceeded") := by
  -- A request that does not say how many bytes it has is not held against them.
  cases bytesPerSec with
  | none => exact checked_nothing
  | some limit =>
    unfold compareBytes
    cases ctx.estimatedBytes with
    | none => exact checked_nothing
    | some estimatedBytes =>
      exact checked_weaken (compared_count_meets _ none _ (by decide) rfl)
        (fun positive => positive limit rfl) fun _ => rfl

theorem checkRate_meets (ctx : IngestCtx) (rate : Option PolicyLimit) (operation : Operation) :
    (checkRate ctx rate operation gracePct hardBlockPct).Meets
      (Checked gracePct hardBlockPct (∀ limit ∈ rate, limit.Positive) NotSize fun usage =>
        Policies.checkRate usage ctx rate operation gracePct hardBlockPct) := by
  match rate with
  | none => exact checked_nothing
  | some (.quota _ _ _ _) => exact checked_nothing
  | some (.size _ _) => exact checked_nothing
  | some (.retention _) => exact checked_nothing
  | some (.window _) => exact checked_nothing
  | some (.rate recordsPerSec bytesPerSec) =>
    refine checked_weaken (whenRead_meets (reads_currentRate ctx.workspaceId ctx.signal operation)
      fun sample => decidedBy_meets (compareRecords_meets ctx recordsPerSec operation sample)
        (compareBytes_meets ctx bytesPerSec operation sample)) ?_ ?_
    · exact fun positive => positive _ rfl
    · intro usage
      rw [Policies.checkRate]
      cases usage.currentRate ctx.workspaceId ctx.signal operation with
      | error message => rfl
      | ok sample =>
        dsimp only
        cases recordsPerSec.bind _ <;> rfl

theorem checkQuota_meets (ctx : IngestCtx) (quota : PolicyLimit) (operation : Operation) :
    (checkQuota ctx quota operation gracePct hardBlockPct).Meets
      (Checked gracePct hardBlockPct quota.Positive NotSize fun usage =>
        Policies.checkQuota usage ctx quota operation gracePct hardBlockPct) := by
  cases quota with
  | rate _ _ => exact checked_nothing
  | size _ _ => exact checked_nothing
  | retention _ => exact checked_nothing
  | window _ => exact checked_nothing
  | quota maxBytes periodStart periodEnd basis =>
    cases basis with
    | scannedBytes => exact checked_nothing
    | compressedBytes =>
      refine checked_weaken (whenRead_meets
        (reads_periodUsedBytes ctx.workspaceId ctx.signal operation periodStart periodEnd)
        fun used => compared_meets _ _ _ _ (by decide) rfl) id fun usage => ?_
      rw [Policies.checkQuota, if_neg (by decide)]
      cases usage.periodUsedBytes _ _ _ _ _ <;> rfl

theorem checkSize_meets (ctx : IngestCtx) (size : Option PolicyLimit) :
    (checkSize ctx size gracePct hardBlockPct).Meets
      (Checked gracePct hardBlockPct (∀ limit ∈ size, limit.Positive) (· = "size_exceeded")
        fun usage => Policies.checkSize usage ctx size gracePct hardBlockPct) := by
  match size with
  | none => exact checked_nothing
  | some (.rate _ _) => exact checked_nothing
  | some (.quota _ _ _ _) => exact checked_nothing
  | some (.retention _) => exact checked_nothing
  | some (.window _) => exact checked_nothing
  | some (.size maxBytes basis) =>
    cases basis with
    | scannedBytes => exact checked_nothing
    | compressedBytes =>
      refine checked_weaken (whenRead_meets
        (reads_storedCompressedBytes ctx.workspaceId ctx.signal)
        fun stored => compared_meets _ _ _ _ rfl rfl)
        (fun positive => positive _ rfl) fun usage => ?_
      rw [Policies.checkSize, if_neg (by decide)]
      cases usage.storedCompressedBytes _ _ <;> rfl

theorem checkQueryRate_meets (ctx : QueryCtx) (rate : Option PolicyLimit) :
    (checkQueryRate ctx rate gracePct hardBlockPct).Meets
      (Checked gracePct hardBlockPct (∀ limit ∈ rate, limit.Positive) (fun _ => True) fun usage =>
        Policies.checkQueryRate usage ctx rate gracePct hardBlockPct) := by
  match rate with
  | none => exact checked_nothing
  | some (.quota _ _ _ _) => exact checked_nothing
  | some (.size _ _) => exact checked_nothing
  | some (.retention _) => exact checked_nothing
  | some (.window _) => exact checked_nothing
  | some (.rate _ none) => exact checked_nothing
  | some (.rate _ (some limit)) =>
    refine checked_weaken (whenRead_meets (reads_currentRate ctx.workspaceId ctx.signal .query)
      fun sample => compared_count_meets _ _ _ trivial rfl)
      (fun positive => (positive _ rfl).2 limit rfl) fun usage => ?_
    rw [Policies.checkQueryRate]
    cases usage.currentRate _ _ _ <;> rfl

theorem checkQueryQuota_meets (ctx : QueryCtx) (quota : PolicyLimit) :
    (checkQueryQuota ctx quota gracePct hardBlockPct).Meets
      (Checked gracePct hardBlockPct quota.Positive (fun _ => True) fun usage =>
        Policies.checkQueryQuota usage ctx quota gracePct hardBlockPct) := by
  cases quota with
  | rate _ _ => exact checked_nothing
  | size _ _ => exact checked_nothing
  | retention _ => exact checked_nothing
  | window _ => exact checked_nothing
  | quota maxBytes periodStart periodEnd basis =>
    cases basis with
    | compressedBytes => exact checked_nothing
    | scannedBytes =>
      refine checked_weaken (whenRead_meets
        (reads_periodUsedBytes ctx.workspaceId ctx.signal .query periodStart periodEnd)
        fun used => compared_meets _ _ _ _ trivial rfl) id fun usage => ?_
      rw [Policies.checkQueryQuota, if_neg (by decide)]
      cases usage.periodUsedBytes _ _ _ _ _ <;> rfl

end DefaultPolicyEnforcer

variable (gracePct hardBlockPct)

/-- What a request comes to: its decision, the one audit of it, and the reports about it. -/
structure RequestEnforced (positive : Prop) (audits : Decision → List DecisionAuditEvent)
    (asked : UsageReader → Decision) (exchanges : List EnforcerExchange) (decision : Decision) :
    Prop where
  decided : ∀ usage, AnsweredBy usage exchanges → decision = asked usage
  audited : recorded exchanges = audits decision
  escalated : Escalated hardBlockPct (emitted exchanges)
  warned : positive → Warned gracePct hardBlockPct (emitted exchanges) decision

variable {gracePct hardBlockPct}

/-- A request may be held against less, and to a decision that is the same. -/
theorem enforced_weaken {positive stronger : Prop} {audits : Decision → List DecisionAuditEvent}
    {asked plain : UsageReader → Decision} {check : Enforcement Decision}
    (meets : check.Meets (RequestEnforced gracePct hardBlockPct positive audits asked))
    (implied : stronger → positive) (same : ∀ usage, asked usage = plain usage) :
    check.Meets (RequestEnforced gracePct hardBlockPct stronger audits plain) :=
  meets.mono fun _ _ enforced =>
    { enforced with
      decided := fun usage read => (enforced.decided usage read).trans (same usage)
      warned := fun held => enforced.warned (implied held) }

namespace DefaultPolicyEnforcer

/-- An audit hands at most one event to the sink, and asks for nothing else. -/
theorem auditDecision_meets (ctx : AuditContext) (decision : Decision) :
    (auditDecision ctx decision).Meets fun exchanges _ =>
      emitted exchanges = [] ∧
        recorded exchanges = (if decision = .allow then [] else [auditEvent ctx decision]) ∧
          ∀ usage, AnsweredBy usage exchanges := by
  rw [auditDecision]
  by_cases allowed : decision = .allow
  · rw [if_pos allowed, if_pos allowed]
    exact ⟨rfl, rfl, answeredBy_nil⟩
  · rw [if_neg allowed, if_neg allowed]
    refine fun outcome => ⟨rfl, rfl, fun usage exchange member reading answers => ?_⟩
    obtain rfl := List.mem_singleton.mp member
    cases answers

/-- A decision of a check is audited, and no other audit is behind it. -/
theorem auditedBy_meets {ctx : AuditContext} {positive also : Prop} {reasons : String → Prop}
    {audits : Decision → List DecisionAuditEvent} {check : Enforcement (Option Decision)}
    {behind : Enforcement Decision} {first : UsageReader → Option Decision}
    {second : UsageReader → Decision}
    (one : check.Meets (Checked gracePct hardBlockPct positive reasons first))
    (audited : ∀ decision, reasons (decisionReason decision) →
      audits decision = if decision = .allow then [] else [auditEvent ctx decision])
    (other : behind.Meets (RequestEnforced gracePct hardBlockPct also audits second)) :
    (auditedBy ctx check behind).Meets
      (RequestEnforced gracePct hardBlockPct (positive ∧ also) audits fun usage =>
        (first usage).getD (second usage)) := by
  refine Meets.bind one ?_
  intro before outcome checked
  cases outcome with
  | some decision =>
    -- The audit is the only exchange behind the check.
    refine Meets.bind (auditDecision_meets ctx decision) ?_
    intro audit _ told
    obtain ⟨emits, records, silent⟩ := told
    change RequestEnforced _ _ _ _ _ (before ++ (audit ++ [])) _
    rw [List.append_nil]
    exact {
      decided := fun usage read => by
        rw [← checked.decided usage (answeredBy_append.mp read).1, Option.getD_some]
      audited := by
        rw [recorded_append, checked.unrecorded, List.nil_append, records,
          audited decision (checked.reason decision rfl)]
      escalated := by
        rw [emitted_append, emits, List.append_nil]
        exact checked.escalated
      warned := fun held => by
        rw [emitted_append, emits, List.append_nil]
        exact checked.warned held.1 decision rfl }
  | none =>
    refine other.mono fun rest decision enforced => ?_
    exact {
      decided := fun usage read => by
        obtain ⟨early, late⟩ := answeredBy_append.mp read
        rw [← checked.decided usage early, Option.getD_none, enforced.decided usage late]
      audited := by rw [recorded_append, checked.unrecorded, List.nil_append, enforced.audited]
      escalated := by
        rw [emitted_append]
        exact checked.escalated.append enforced.escalated
      warned := fun held => by
        rw [emitted_append]
        exact (enforced.warned held.2).mono (List.subset_append_right _ _) }

theorem enforced_allow {audits : Decision → List DecisionAuditEvent}
    (unaudited : audits .allow = []) :
    (Awaiting.done .allow : Enforcement Decision).Meets
      (RequestEnforced gracePct hardBlockPct True audits fun _ => .allow) where
  decided _ _ := rfl
  audited := unaudited.symm
  escalated := escalated_nil hardBlockPct
  warned _ _ named := by
    simp [decisionReason, limitKind?] at named

end DefaultPolicyEnforcer

end

/-- Every limit of a policy leaves room for something. -/
structure ResolvedPolicy.Positive (resolved : ResolvedPolicy) : Prop where
  rate : ∀ limit ∈ resolved.rate, limit.Positive
  quotas : ∀ limit ∈ resolved.quotas, limit.Positive
  size : ∀ limit ∈ resolved.size, limit.Positive

/-- A request that the enforcer is asked about. -/
inductive EnforcerRequest where
  | ingest (ctx : IngestCtx)
  | query (ctx : QueryCtx)
  deriving DecidableEq

namespace EnforcerRequest

def workspaceId : EnforcerRequest → WorkspaceId
  | .ingest ctx => ctx.workspaceId
  | .query ctx => ctx.workspaceId

def signal : EnforcerRequest → SignalKind
  | .ingest ctx => ctx.signal
  | .query ctx => ctx.signal

def nowMicros : EnforcerRequest → Int64
  | .ingest ctx => ctx.nowMicros
  | .query ctx => ctx.nowMicros

def operation : EnforcerRequest → Operation
  | .ingest _ => .ingest
  | .query _ => .query

/-- The part of the enforcer that answers a request. -/
def check (resolved : ResolvedPolicy) : EnforcerRequest → Enforcement Decision
  | .ingest ctx => DefaultPolicyEnforcer.checkIngest ctx resolved
  | .query ctx => DefaultPolicyEnforcer.checkQuery ctx resolved

/-- The decision on a request by readings that all are those of one reader. -/
def decide (usage : UsageReader) (resolved : ResolvedPolicy) : EnforcerRequest → Decision
  | .ingest ctx => decideIngest usage ctx resolved
  | .query ctx => decideQuery usage ctx resolved

/-- The operation of an audit, which is to store where the stored bytes decide on an ingest. -/
def auditedOperation : EnforcerRequest → Decision → Operation
  | .ingest _, decision => if decisionReason decision = "size_exceeded" then .store else .ingest
  | .query _, _ => .query

/-- The audits of a decision: none of one to allow, and otherwise one. -/
def audits (request : EnforcerRequest) (decision : Decision) : List DecisionAuditEvent :=
  if decision = .allow then []
  else [{
    workspaceId := request.workspaceId
    signal := request.signal
    operation := request.auditedOperation decision
    decision := .ofDecision decision
    reason := decisionReason decision
    observedValue := none
    limitValue := none
    blockCode := decisionBlockCode decision
    createdAt := request.nowMicros }]

end EnforcerRequest

namespace DefaultPolicyEnforcer

/-- A decision on an ingest that is not by its size is audited as one on an ingest. -/
theorem audits_ingest (ctx : IngestCtx) (decision : Decision)
    (notSize : NotSize (decisionReason decision)) :
    (EnforcerRequest.ingest ctx).audits decision =
      if decision = .allow then [] else [auditEvent (.fromIngest ctx .ingest) decision] := by
  simp only [EnforcerRequest.audits, EnforcerRequest.auditedOperation, if_neg notSize]
  rfl

theorem audits_store (ctx : IngestCtx) (decision : Decision)
    (size : decisionReason decision = "size_exceeded") :
    (EnforcerRequest.ingest ctx).audits decision =
      if decision = .allow then [] else [auditEvent (.fromIngest ctx .store) decision] := by
  simp only [EnforcerRequest.audits, EnforcerRequest.auditedOperation, if_pos size]
  rfl

theorem checkIngest_meets (ctx : IngestCtx) (resolved : ResolvedPolicy) :
    (checkIngest ctx resolved).Meets
      (RequestEnforced resolved.gracePct resolved.hardBlockPct resolved.Positive
        (EnforcerRequest.ingest ctx).audits fun usage => decideIngest usage ctx resolved) := by
  rw [checkIngest]
  by_cases blocked : resolved.blocked
  · -- A workspace that is blocked is audited without a reading.
    rw [if_pos blocked]
    refine Meets.bind (auditDecision_meets _ _) ?_
    intro exchanges _ told
    obtain ⟨emits, records, _⟩ := told
    change RequestEnforced _ _ _ _ _ (exchanges ++ []) _
    rw [List.append_nil]
    exact {
      decided := fun usage _ => by rw [decideIngest, if_pos blocked]
      audited := records.trans (audits_ingest ctx _ (by decide)).symm
      escalated := by rw [emits]; exact escalated_nil _
      warned := fun _ _ named => by simp [decisionReason, limitKind?] at named }
  · rw [if_neg blocked]
    refine enforced_weaken
      (auditedBy_meets (checkRate_meets ctx resolved.rate .ingest) (audits_ingest ctx) <|
        auditedBy_meets (checkEach_meets (checkQuota_meets ctx · .ingest) resolved.quotas)
          (audits_ingest ctx) <|
        auditedBy_meets (checkSize_meets ctx resolved.size) (audits_store ctx) <|
        enforced_allow rfl) ?_ ?_
    · exact fun positive => ⟨positive.rate, positive.quotas, positive.size, trivial⟩
    · intro usage
      rw [decideIngest, if_neg blocked]
      -- The first check that decides is the one that both ask first.
      cases Policies.checkRate usage ctx resolved.rate _ _ _ with
      | some decision => rfl
      | none =>
        cases resolved.quotas.findSome? _ with
        | some decision => rfl
        | none => cases Policies.checkSize usage ctx resolved.size _ _ <;> rfl

/-- Every decision on a query is audited as one on a query. -/
theorem audits_query (ctx : QueryCtx) (decision : Decision) :
    (EnforcerRequest.query ctx).audits decision =
      if decision = .allow then [] else [auditEvent (.fromQuery ctx .query) decision] := rfl

theorem retention_violation_of_decided {ctx : QueryCtx} {retention : Option PolicyLimit}
    {decision : Decision} (decided : checkQueryRetention ctx retention = some decision) :
    decision = .block "retention_violation" .retentionViolation := by
  unfold checkQueryRetention at decided
  split at decided
  · dsimp only at decided
    split_ifs at decided
    exact (Option.some.inj decided).symm
  · cases decided

theorem query_window_violation_of_decided {ctx : QueryCtx} {queryWindow : Option PolicyLimit}
    {decision : Decision} (decided : checkQueryWindow ctx queryWindow = some decision) :
    decision = .block "query_window_violation" .queryWindowViolation := by
  unfold checkQueryWindow at decided
  split at decided
  · dsimp only at decided
    split_ifs at decided
    exact (Option.some.inj decided).symm
  · cases decided

/-- What the range of a query decides is not about a limit on usage. -/
theorem limitKind?_of_checkQueryRange {ctx : QueryCtx} {retention queryWindow : Option PolicyLimit}
    {decision : Decision} (decided : checkQueryRange ctx retention queryWindow = some decision) :
    limitKind? (decisionReason decision) = none := by
  unfold checkQueryRange at decided
  cases early : checkQueryRetention ctx retention with
  | some other =>
    rw [early] at decided
    obtain rfl := Option.some.inj decided
    rw [retention_violation_of_decided early]
    rfl
  | none =>
    rw [early] at decided
    rw [query_window_violation_of_decided decided]
    rfl

/-- The range of a query is checked without a reading, and reports nothing. -/
theorem checkQueryRange_meets (ctx : QueryCtx) (retention queryWindow : Option PolicyLimit)
    {gracePct hardBlockPct : UInt8} :
    (Awaiting.done (checkQueryRange ctx retention queryWindow) :
        Enforcement (Option Decision)).Meets
      (Checked gracePct hardBlockPct True (fun _ => True) fun _ =>
        checkQueryRange ctx retention queryWindow) where
  decided _ _ := rfl
  reason _ _ := trivial
  unrecorded := rfl
  escalated := escalated_nil hardBlockPct
  warned := by
    intro _ decision decided limitKind named
    rw [limitKind?_of_checkQueryRange decided] at named
    cases named

theorem checkQuery_meets (ctx : QueryCtx) (resolved : ResolvedPolicy) :
    (checkQuery ctx resolved).Meets
      (RequestEnforced resolved.gracePct resolved.hardBlockPct resolved.Positive
        (EnforcerRequest.query ctx).audits fun usage => decideQuery usage ctx resolved) := by
  refine enforced_weaken
    (auditedBy_meets (checkQueryRange_meets ctx resolved.retention resolved.queryWindow)
        (fun decision _ => audits_query ctx decision) <|
      auditedBy_meets (checkQueryRate_meets ctx resolved.rate)
        (fun decision _ => audits_query ctx decision) <|
      auditedBy_meets (checkEach_meets (checkQueryQuota_meets ctx) resolved.quotas)
        (fun decision _ => audits_query ctx decision) <|
      enforced_allow rfl) ?_ ?_
  · exact fun positive => ⟨trivial, positive.rate, positive.quotas, trivial⟩
  · intro usage
    rw [decideQuery]
    cases checkQueryRange ctx resolved.retention resolved.queryWindow with
    | some decision => rfl
    | none =>
      cases Policies.checkQueryRate usage ctx resolved.rate _ _ with
      | some decision => rfl
      | none => cases resolved.quotas.findSome? _ <;> rfl

end DefaultPolicyEnforcer

/-- However its readings and writes are answered, a request comes to its decision. -/
theorem EnforcerRequest.check_meets (request : EnforcerRequest) (resolved : ResolvedPolicy) :
    (request.check resolved).Meets
      (RequestEnforced resolved.gracePct resolved.hardBlockPct resolved.Positive request.audits
        fun usage => request.decide usage resolved) := by
  cases request with
  | ingest ctx => exact DefaultPolicyEnforcer.checkIngest_meets ctx resolved
  | query ctx => exact DefaultPolicyEnforcer.checkQuery_meets ctx resolved

end Zradar.Policies
