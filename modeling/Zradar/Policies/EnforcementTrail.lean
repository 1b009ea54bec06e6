import Zradar.Lib.KeyedTable
import Zradar.Lib.Positions
import Zradar.Lib.Run
import Zradar.Policies.EnforcementSpec
import Zradar.Policies.UsageAggregation

/-! What enforced requests leave behind in the tables of thresholds and of audited decisions. -/

namespace Zradar.Policies

open Awaiting

section

variable (workspaceId : WorkspaceId) (signal : SignalKind) (nowMicros : Int64)
  (hardBlockPct : UInt8)

/-- A question about one workspace and one signal, with no event that did not happen. -/
def EnforcerQuestion.Own : EnforcerQuestion → Prop
  | .currentRate workspace kind _ => workspace = workspaceId ∧ kind = signal
  | .periodUsedBytes workspace kind _ _ _ => workspace = workspaceId ∧ kind = signal
  | .storedCompressedBytes workspace kind => workspace = workspaceId ∧ kind = signal
  | .emit event =>
    event.workspaceId = workspaceId ∧ event.signal = signal ∧ event.emittedAt = nowMicros ∧
      event.thresholdPct ∈ thresholds hardBlockPct ∧ 0 < event.limitValue ∧ event.Crossed
  | .record event =>
    event.workspaceId = workspaceId ∧ event.signal = signal ∧ event.createdAt = nowMicros ∧
      event.decision ≠ .allow

end

/-- Only what allows a request is summed up as allowing it. -/
theorem DecisionSummary.ofDecision_ne_allow {decision : Decision} (refused : decision ≠ .allow) :
    DecisionSummary.ofDecision decision ≠ .allow := by
  cases decision with
  | allow => exact absurd rfl refused
  | allowWithGrace _ => simp [ofDecision]
  | throttle _ _ => simp [ofDecision]
  | block _ _ => simp [ofDecision]

namespace DefaultPolicyEnforcer

variable {workspaceId : WorkspaceId} {signal : SignalKind} {nowMicros : Int64}
  {hardBlockPct : UInt8}

theorem asks_emitEach {event : UInt16 → ThresholdEvent} (thresholdPcts : List UInt16)
    (own : ∀ thresholdPct ∈ thresholdPcts, (event thresholdPct).Crossed →
      (EnforcerQuestion.emit (event thresholdPct)).Own workspaceId signal nowMicros hardBlockPct) :
    (emitEach event thresholdPcts).Asks
      (EnforcerQuestion.Own workspaceId signal nowMicros hardBlockPct) := by
  induction thresholdPcts with
  | nil => trivial
  | cons thresholdPct rest further =>
    have later := further fun other member => own other (List.mem_cons_of_mem _ member)
    rw [emitEach]
    by_cases crossed : (event thresholdPct).Crossed
    · rw [if_pos crossed]
      exact ⟨own thresholdPct List.mem_cons_self crossed, fun _ => later⟩
    · rw [if_neg crossed]
      exact later

theorem asks_compared {limitKind : String} (operation : Operation) (observed limit : Int64)
    (periodStart : Option Int64) (gracePct : UInt8) (code : BlockCode) (reason : String) :
    (compared ⟨workspaceId, signal, operation, limitKind, nowMicros⟩ observed limit periodStart
      gracePct hardBlockPct code reason).Asks
      (EnforcerQuestion.Own workspaceId signal nowMicros hardBlockPct) := by
  refine Asks.bind ?_ fun _ => trivial
  rw [emitThresholds]
  by_cases unlimited : limit ≤ 0
  · rw [if_pos unlimited]
    trivial
  · -- Events are emitted against positive limits only.
    rw [if_neg unlimited]
    exact asks_emitEach _ fun thresholdPct listed crossed =>
      ⟨rfl, rfl, rfl, listed, Int64.not_le.mp unlimited, crossed⟩

section

variable {allowed : EnforcerQuestion → Prop}

theorem asks_whenRead {α : Type} {reading : Enforcement (Except String α)}
    {check : α → Enforcement (Option Decision)} (reads : reading.Asks allowed)
    (checks : ∀ value, (check value).Asks allowed) : (whenRead reading check).Asks allowed := by
  refine reads.bind fun answer => ?_
  cases answer with
  | error _ => trivial
  | ok value => exact checks value

theorem asks_decidedBy {check behind : Enforcement (Option Decision)} (one : check.Asks allowed)
    (other : behind.Asks allowed) : (decidedBy check behind).Asks allowed := by
  refine one.bind fun outcome => ?_
  cases outcome with
  | none => exact other
  | some decision => trivial

theorem asks_checkEach {check : PolicyLimit → Enforcement (Option Decision)}
    (asks : ∀ quota, (check quota).Asks allowed) (quotas : List PolicyLimit) :
    (checkEach check quotas).Asks allowed := by
  induction quotas with
  | nil => trivial
  | cons quota rest further => exact asks_decidedBy (asks quota) further

theorem asks_auditDecision {ctx : AuditContext} (decision : Decision)
    (own : decision ≠ .allow → allowed (.record (auditEvent ctx decision))) :
    (auditDecision ctx decision).Asks allowed := by
  rw [auditDecision]
  by_cases unaudited : decision = .allow
  · rw [if_pos unaudited]
    trivial
  · rw [if_neg unaudited]
    exact ⟨own unaudited, fun _ => trivial⟩

theorem asks_auditedBy {ctx : AuditContext} {check : Enforcement (Option Decision)}
    {behind : Enforcement Decision} (one : check.Asks allowed)
    (audits : ∀ decision, decision ≠ .allow → allowed (.record (auditEvent ctx decision)))
    (other : behind.Asks allowed) : (auditedBy ctx check behind).Asks allowed := by
  refine one.bind fun outcome => ?_
  cases outcome with
  | none => exact other
  | some decision => exact (asks_auditDecision decision (audits decision)).bind fun _ => trivial

end

section

variable (ctx : IngestCtx) (gracePct : UInt8)

/-- The questions of a request to ingest. -/
abbrev OwnIngest (ctx : IngestCtx) (hardBlockPct : UInt8) : EnforcerQuestion → Prop :=
  EnforcerQuestion.Own ctx.workspaceId ctx.signal ctx.nowMicros hardBlockPct

theorem asks_checkRate (rate : Option PolicyLimit) (operation : Operation) :
    (checkRate ctx rate operation gracePct hardBlockPct).Asks (OwnIngest ctx hardBlockPct) := by
  unfold checkRate
  split
  · refine asks_whenRead (asks_await ⟨rfl, rfl⟩) fun sample => asks_decidedBy ?_ ?_
    · unfold compareRecords
      split
      · exact asks_compared _ _ _ _ _ _ _
      · trivial
    · unfold compareBytes
      split
      · exact asks_compared _ _ _ _ _ _ _
      · trivial
  · trivial

theorem asks_checkQuota (quota : PolicyLimit) (operation : Operation) :
    (checkQuota ctx quota operation gracePct hardBlockPct).Asks (OwnIngest ctx hardBlockPct) := by
  unfold checkQuota
  split
  · split
    · trivial
    · exact asks_whenRead (asks_await ⟨rfl, rfl⟩) fun used => asks_compared _ _ _ _ _ _ _
  · trivial

theorem asks_checkSize (size : Option PolicyLimit) :
    (checkSize ctx size gracePct hardBlockPct).Asks (OwnIngest ctx hardBlockPct) := by
  unfold checkSize
  split
  · split
    · trivial
    · exact asks_whenRead (asks_await ⟨rfl, rfl⟩) fun stored => asks_compared _ _ _ _ _ _ _
  · trivial

/-- A request to ingest reads and reports on its own workspace and signal. -/
theorem asks_checkIngest (resolved : ResolvedPolicy) :
    (checkIngest ctx resolved).Asks (OwnIngest ctx resolved.hardBlockPct) := by
  have audits (operation : Operation) (decision : Decision) (refused : decision ≠ .allow) :
      OwnIngest ctx resolved.hardBlockPct
        (.record (auditEvent (.fromIngest ctx operation) decision)) :=
    ⟨rfl, rfl, rfl, DecisionSummary.ofDecision_ne_allow refused⟩
  rw [checkIngest]
  split
  · exact (asks_auditDecision _ (audits .ingest _)).bind fun _ => trivial
  · exact asks_auditedBy (asks_checkRate ctx _ _ _) (audits .ingest) <|
      asks_auditedBy (asks_checkEach (fun quota => asks_checkQuota ctx _ quota _) _)
        (audits .ingest) <|
      asks_auditedBy (asks_checkSize ctx _ _) (audits .store) trivial

end

section

variable (ctx : QueryCtx) (gracePct : UInt8)

/-- The questions of a query. -/
abbrev OwnQuery (ctx : QueryCtx) (hardBlockPct : UInt8) : EnforcerQuestion → Prop :=
  EnforcerQuestion.Own ctx.workspaceId ctx.signal ctx.nowMicros hardBlockPct

theorem asks_checkQueryRate (rate : Option PolicyLimit) :
    (checkQueryRate ctx rate gracePct hardBlockPct).Asks (OwnQuery ctx hardBlockPct) := by
  unfold checkQueryRate
  split
  · exact asks_whenRead (asks_await ⟨rfl, rfl⟩) fun sample => asks_compared _ _ _ _ _ _ _
  · trivial

theorem asks_checkQueryQuota (quota : PolicyLimit) :
    (checkQueryQuota ctx quota gracePct hardBlockPct).Asks (OwnQuery ctx hardBlockPct) := by
  unfold checkQueryQuota
  split
  · split
    · trivial
    · exact asks_whenRead (asks_await ⟨rfl, rfl⟩) fun used => asks_compared _ _ _ _ _ _ _
  · trivial

/-- A query reads and reports on its own workspace and signal. -/
theorem asks_checkQuery (resolved : ResolvedPolicy) :
    (checkQuery ctx resolved).Asks (OwnQuery ctx resolved.hardBlockPct) := by
  have audits (decision : Decision) (refused : decision ≠ .allow) :
      OwnQuery ctx resolved.hardBlockPct
        (.record (auditEvent (.fromQuery ctx .query) decision)) :=
    ⟨rfl, rfl, rfl, DecisionSummary.ofDecision_ne_allow refused⟩
  exact asks_auditedBy trivial audits <|
    asks_auditedBy (asks_checkQueryRate ctx _ _) audits <|
    asks_auditedBy (asks_checkEach (fun quota => asks_checkQueryQuota ctx _ quota) _) audits trivial

end

end DefaultPolicyEnforcer

/-- Whatever it is answered, a request asks about its own workspace and signal only. -/
theorem EnforcerRequest.asks_check (request : EnforcerRequest) (resolved : ResolvedPolicy) :
    (request.check resolved).Asks (EnforcerQuestion.Own request.workspaceId request.signal
      request.nowMicros resolved.hardBlockPct) := by
  cases request with
  | ingest ctx => exact DefaultPolicyEnforcer.asks_checkIngest ctx resolved
  | query ctx => exact DefaultPolicyEnforcer.asks_checkQuery ctx resolved

/-- The primary key of the table of thresholds. -/
structure ThresholdKey where
  workspaceId : WorkspaceId
  signalKind : String
  operation : String
  limitKind : String
  thresholdPct : Int16
  periodStart : Int64
  deriving DecidableEq

/-- A row of the table of thresholds. -/
structure ThresholdRow where
  key : ThresholdKey
  emittedAt : Int64
  deriving DecidableEq

/-- A row of the table of audited decisions. -/
structure PolicyDecisionRow where
  workspaceId : WorkspaceId
  signalKind : String
  operation : String
  decision : String
  reason : String
  observedValue : Option Int64
  limitValue : Option Int64
  blockCode : Option String
  createdAt : Int64
  deriving DecidableEq

def decisionSummary : DecisionSummary → String
  | .allow => "allow"
  | .grace => "grace"
  | .throttle => "throttle"
  | .block => "block"

def blockCodeKind : BlockCode → String
  | .projectBlocked => "project_blocked"
  | .rateLimitExceeded => "rate_limit_exceeded"
  | .quotaExceeded => "quota_exceeded"
  | .sizeExceeded => "size_exceeded"
  | .retentionViolation => "retention_violation"
  | .queryWindowViolation => "query_window_violation"

/-- The microseconds of an hour. -/
def microsOfHour : Int := 3600000000

/-- The period of an event, or else the hour in which it was emitted. -/
def thresholdDedupePeriodStart (event : ThresholdEvent) : Int64 :=
  event.periodStart.getD
    (.ofInt (event.emittedAt.toInt - event.emittedAt.toInt % microsOfHour))

def ThresholdEvent.key (event : ThresholdEvent) : ThresholdKey where
  workspaceId := event.workspaceId
  signalKind := Policies.signalKind event.signal
  operation := operationKind event.operation
  limitKind := event.limitKind
  thresholdPct := if event.thresholdPct.toNat < 2 ^ 15 then .ofNat event.thresholdPct.toNat
    else Int16.maxValue
  periodStart := thresholdDedupePeriodStart event

def ThresholdEvent.row (event : ThresholdEvent) : ThresholdRow := ⟨event.key, event.emittedAt⟩

def DecisionAuditEvent.row (event : DecisionAuditEvent) : PolicyDecisionRow where
  workspaceId := event.workspaceId
  signalKind := Policies.signalKind event.signal
  operation := operationKind event.operation
  decision := decisionSummary event.decision
  reason := event.reason
  observedValue := event.observedValue
  limitValue := event.limitValue
  blockCode := event.blockCode.map blockCodeKind
  createdAt := event.createdAt

/-- A request that is being enforced, with what it was answered and what is left of it. -/
structure EnforcementCall where
  request : EnforcerRequest
  resolved : ResolvedPolicy
  exchanges : List EnforcerExchange
  rest : Enforcement Decision
  underWay : (request.check resolved).Leads exchanges rest

/-- A call looks up the policy of its workspace before it awaits anything. -/
def EnforcementCall.begin (store : PolicyStore) (request : EnforcerRequest) : EnforcementCall :=
  let resolved := store request.workspaceId request.signal request.operation
  ⟨request, resolved, [], request.check resolved, .here _⟩

/-- What the surroundings answer: readings of usage, and whatever became of a write. -/
def EnforcerQuestion.answer (usage : UsageReader) (outcome : WriteOutcome) :
    (question : EnforcerQuestion) → question.Answer
  | .currentRate workspaceId signal operation => usage.currentRate workspaceId signal operation
  | .periodUsedBytes workspaceId signal operation periodStart periodEnd =>
    usage.periodUsedBytes workspaceId signal operation periodStart periodEnd
  | .storedCompressedBytes workspaceId signal => usage.storedCompressedBytes workspaceId signal
  | .emit _ => outcome
  | .record _ => outcome

/-- The next exchange of a call that is not over, and the call behind it. -/
def EnforcementCall.resume (usage : UsageReader) (outcome : WriteOutcome) :
    EnforcementCall → Option (EnforcerExchange × EnforcementCall)
  | ⟨_, _, _, .done _, _⟩ => none
  | ⟨request, resolved, exchanges, .ask question resume, underWay⟩ =>
    let answer := question.answer usage outcome
    some (⟨question, answer⟩,
      ⟨request, resolved, exchanges ++ [⟨question, answer⟩], resume answer, underWay.snoc answer⟩)

/-- The calls of all workspaces, what they read from, and the two tables that they write to. -/
structure EnforcementTrail where
  store : PolicyStore
  usage : UsageReader
  calls : List EnforcementCall
  thresholdDedupe : List ThresholdRow
  policyDecisionsAudit : List PolicyDecisionRow

/-- The effect of an exchange on the tables, which only a write that is stored has. -/
def EnforcementTrail.written (trail : EnforcementTrail) : EnforcerExchange → EnforcementTrail
  | ⟨.emit event, outcome⟩ =>
    if WriteOutcome.stored outcome then
      { trail with
        thresholdDedupe := insertAbsent ThresholdRow.key trail.thresholdDedupe event.row }
    else trail
  | ⟨.record event, outcome⟩ =>
    if WriteOutcome.stored outcome then
      { trail with policyDecisionsAudit := trail.policyDecisionsAudit ++ [event.row] }
    else trail
  | _ => trail

/-- One step: a call begins or gets its next answer, or the policies and the usage change. -/
inductive EnforcementStep where
  | begin (request : EnforcerRequest)
  | resume (position : Nat) (outcome : WriteOutcome)
  | surroundings (store : PolicyStore) (usage : UsageReader)

def enforcementStep (trail : EnforcementTrail) : EnforcementStep → Option EnforcementTrail
  | .begin request => some { trail with calls := trail.calls ++ [.begin trail.store request] }
  | .resume position outcome => do
    let call ← trail.calls[position]?
    let (exchange, next) ← call.resume trail.usage outcome
    return { trail.written exchange with calls := trail.calls.set position next }
  | .surroundings store usage => some { trail with store, usage }

/-- The threshold events of exchanges that reached the table. -/
def storedEvents (exchanges : List EnforcerExchange) : List ThresholdEvent :=
  exchanges.filterMap fun
    | ⟨.emit event, outcome⟩ => if WriteOutcome.stored outcome then some event else none
    | _ => none

/-- The audits of exchanges that reached the table. -/
def storedAudits (exchanges : List EnforcerExchange) : List DecisionAuditEvent :=
  exchanges.filterMap fun
    | ⟨.record event, outcome⟩ => if WriteOutcome.stored outcome then some event else none
    | _ => none

/-- The tables hold what the calls have written since the beginning, and all of it. -/
structure TrailKept (start trail : EnforcementTrail) : Prop where
  once : (trail.thresholdDedupe.map ThresholdRow.key).Nodup
  backed : ∀ row ∈ trail.thresholdDedupe, row ∈ start.thresholdDedupe ∨
    ∃ call ∈ trail.calls, ∃ event ∈ storedEvents call.exchanges, event.row = row
  marked : ∀ call ∈ trail.calls, ∀ event ∈ storedEvents call.exchanges,
    event.key ∈ trail.thresholdDedupe.map ThresholdRow.key
  audited : trail.policyDecisionsAudit.Perm (start.policyDecisionsAudit ++
    (trail.calls.flatMap fun call => storedAudits call.exchanges).map DecisionAuditEvent.row)

@[simp] theorem storedEvents_append (first second : List EnforcerExchange) :
    storedEvents (first ++ second) = storedEvents first ++ storedEvents second :=
  List.filterMap_append ..

@[simp] theorem storedAudits_append (first second : List EnforcerExchange) :
    storedAudits (first ++ second) = storedAudits first ++ storedAudits second :=
  List.filterMap_append ..

/-- The audits grow by what an exchange stores. -/
theorem policyDecisionsAudit_written (trail : EnforcementTrail) (exchange : EnforcerExchange) :
    (trail.written exchange).policyDecisionsAudit =
      trail.policyDecisionsAudit ++ (storedAudits [exchange]).map DecisionAuditEvent.row := by
  obtain ⟨question, outcome⟩ := exchange
  cases question with
  | record event =>
    cases outcome with
    | lost => exact (List.append_nil _).symm
    | written => rfl
    | unacknowledged => rfl
  | emit event => cases outcome <;> exact (List.append_nil _).symm
  | _ => exact (List.append_nil _).symm

/-- The thresholds take in what an exchange stores, unless they have it. -/
theorem thresholdDedupe_written (trail : EnforcementTrail) (exchange : EnforcerExchange) :
    (trail.written exchange).thresholdDedupe =
      ((storedEvents [exchange]).map ThresholdEvent.row).foldl (insertAbsent ThresholdRow.key)
        trail.thresholdDedupe := by
  obtain ⟨question, outcome⟩ := exchange
  cases question with
  | emit event => cases outcome <;> rfl
  | record event => cases outcome <;> rfl
  | _ => rfl

/-- A call goes on by the one exchange that it is given. -/
theorem EnforcementCall.exchanges_resume {usage : UsageReader} {outcome : WriteOutcome}
    {call next : EnforcementCall} {exchange : EnforcerExchange}
    (resumed : call.resume usage outcome = some (exchange, next)) :
    next.exchanges = call.exchanges ++ [exchange] := by
  obtain ⟨request, resolved, exchanges, rest, underWay⟩ := call
  cases rest with
  | done decision => cases resumed
  | ask question resume =>
    cases resumed
    rfl

/-- What a step does: a call begins, a call goes on by an exchange, or the calls stay as they are. -/
theorem enforcementStep_cases {trail next : EnforcementTrail} {step : EnforcementStep}
    (stepped : enforcementStep trail step = some next) :
    (∃ request, next = { trail with calls := trail.calls ++ [.begin trail.store request] }) ∨
    (∃ position call exchange further, trail.calls[position]? = some call ∧
      further.exchanges = call.exchanges ++ [exchange] ∧
      next = { trail.written exchange with calls := trail.calls.set position further }) ∨
    (∃ store usage, next = { trail with store, usage }) := by
  cases step with
  | begin request => exact .inl ⟨request, (Option.some.inj stepped).symm⟩
  | surroundings store usage => exact .inr (.inr ⟨store, usage, (Option.some.inj stepped).symm⟩)
  | resume position outcome =>
    rw [enforcementStep] at stepped
    cases found : trail.calls[position]? with
    | none => simp [found] at stepped
    | some call =>
      cases resumed : call.resume trail.usage outcome with
      | none => simp [found, resumed] at stepped
      | some both =>
        obtain ⟨exchange, further⟩ := both
        simp only [found, resumed, Option.bind_eq_bind, Option.bind_some, Option.pure_def,
          Option.some.injEq] at stepped
        exact .inr (.inl ⟨position, call, exchange, further, found,
          EnforcementCall.exchanges_resume resumed, stepped.symm⟩)

/-- A call that has only begun has stored nothing. -/
theorem TrailKept.begin {start trail : EnforcementTrail} (kept : TrailKept start trail)
    (request : EnforcerRequest) :
    TrailKept start { trail with calls := trail.calls ++ [.begin trail.store request] } where
  once := kept.once
  backed row member := (kept.backed row member).imp id fun ⟨call, running, stored⟩ =>
    ⟨call, List.mem_append_left _ running, stored⟩
  marked call member event stored := by
    obtain running | started := List.mem_append.mp member
    · exact kept.marked call running event stored
    · obtain rfl := List.mem_singleton.mp started
      cases stored
  audited := by
    rw [List.flatMap_append]
    exact kept.audited.trans (by simp [EnforcementCall.begin, storedAudits])

/-- The audits of the calls grow by those that the exchange of one of them stores. -/
theorem audits_goOn {trail : EnforcementTrail} {position : Nat} {call further : EnforcementCall}
    {exchange : EnforcerExchange} {old : List PolicyDecisionRow}
    (found : trail.calls[position]? = some call)
    (went : further.exchanges = call.exchanges ++ [exchange]) :
    (old ++ (trail.calls.flatMap fun call => storedAudits call.exchanges).map
        DecisionAuditEvent.row ++ (storedAudits [exchange]).map DecisionAuditEvent.row).Perm
      (old ++ ((trail.calls.set position further).flatMap fun call =>
        storedAudits call.exchanges).map DecisionAuditEvent.row) := by
  have before := flatMap_taken found fun call => storedAudits call.exchanges
  have behind := flatMap_replaced found further fun call => storedAudits call.exchanges
  rw [went, storedAudits_append] at behind
  rw [List.append_assoc, ← List.map_append]
  refine List.Perm.append_left old (List.Perm.map _ ?_)
  -- The new audits are those of the call that goes on, behind its old ones.
  refine (before.append_right _).trans (.trans ?_ behind.symm)
  rw [List.append_assoc, List.append_assoc]
  exact List.Perm.append_left _ List.perm_append_comm

/-- What a call has stored stays stored in the call that goes on. -/
theorem TrailKept.goOn {start trail : EnforcementTrail} (kept : TrailKept start trail)
    {position : Nat} {call further : EnforcementCall} {exchange : EnforcerExchange}
    (found : trail.calls[position]? = some call)
    (went : further.exchanges = call.exchanges ++ [exchange]) :
    TrailKept start
      { trail.written exchange with calls := trail.calls.set position further } := by
  have stored : storedEvents further.exchanges =
      storedEvents call.exchanges ++ storedEvents [exchange] := by
    rw [went, storedEvents_append]
  have there : further ∈ trail.calls.set position further :=
    (replaced_perm found further).mem_iff.mpr List.mem_cons_self
  exact {
    once := by
      rw [thresholdDedupe_written]
      exact nodup_foldl_insertAbsent kept.once
    backed := by
      intro row member
      rw [thresholdDedupe_written] at member
      obtain old | new := mem_of_mem_foldl_insertAbsent member
      · -- The call that stored the row may be the one that goes on.
        refine (kept.backed row old).imp id fun ⟨other, running, event, storing, same⟩ => ?_
        obtain rfl | apart := List.mem_cons.mp ((taken_perm found).mem_iff.mpr running)
        · exact ⟨further, there, event, stored ▸ List.mem_append_left _ storing, same⟩
        · exact ⟨other, (replaced_perm found further).mem_iff.mpr (List.mem_cons_of_mem _ apart),
            event, storing, same⟩
      · obtain ⟨event, storing, same⟩ := List.mem_map.mp new
        exact .inr ⟨further, there, event, stored ▸ List.mem_append_right _ storing, same⟩
    marked := by
      intro other member event storing
      rw [thresholdDedupe_written]
      obtain rfl | old := List.mem_cons.mp ((replaced_perm found further).mem_iff.mp member)
      · obtain before | new := List.mem_append.mp (stored ▸ storing)
        · exact keys_subset_foldl_insertAbsent
            (kept.marked call (List.mem_of_getElem? found) event before)
        · exact key_mem_foldl_insertAbsent (List.mem_map_of_mem new)
      · exact keys_subset_foldl_insertAbsent
          (kept.marked other (List.mem_of_mem_eraseIdx old) event storing)
    audited := by
      rw [policyDecisionsAudit_written]
      exact (kept.audited.append_right _).trans (audits_goOn found went) }

/-- A property of the trail that every run keeps, from before the first call of this process. -/
theorem trailKept_start {start : EnforcementTrail} (fresh : start.calls = [])
    (keyed : (start.thresholdDedupe.map ThresholdRow.key).Nodup) : TrailKept start start where
  once := keyed
  backed _ member := .inl member
  marked call member := by
    rw [fresh] at member
    cases member
  audited := by rw [fresh, List.flatMap_nil, List.map_nil, List.append_nil]

/-- Every step keeps the tables in line with the calls. -/
theorem TrailKept.step {start trail next : EnforcementTrail} (kept : TrailKept start trail)
    {step : EnforcementStep} (stepped : enforcementStep trail step = some next) :
    TrailKept start next := by
  obtain ⟨request, rfl⟩ | ⟨position, call, exchange, further, found, went, rfl⟩ |
    ⟨store, usage, rfl⟩ := enforcementStep_cases stepped
  · exact kept.begin request
  · exact kept.goOn found went
  · exact { kept with }

/-- No row of either table is ever changed or taken away. -/
theorem tables_grow {trail next : EnforcementTrail} {step : EnforcementStep}
    (stepped : enforcementStep trail step = some next) :
    trail.thresholdDedupe <+: next.thresholdDedupe ∧
      trail.policyDecisionsAudit <+: next.policyDecisionsAudit := by
  obtain ⟨request, rfl⟩ | ⟨position, call, exchange, further, found, went, rfl⟩ |
    ⟨store, usage, rfl⟩ := enforcementStep_cases stepped
  · exact ⟨List.prefix_refl _, List.prefix_refl _⟩
  · constructor
    · rw [thresholdDedupe_written]
      exact prefix_foldl_insertAbsent
    · rw [policyDecisionsAudit_written]
      exact List.prefix_append _ _
  · exact ⟨List.prefix_refl _, List.prefix_refl _⟩

/-- A small percentage is told apart from others by its column. -/
theorem pct_column_injective {first second : UInt16} (small : first.toNat < 2 ^ 15)
    (other : second.toNat < 2 ^ 15)
    (same : (Int16.ofNat first.toNat) = Int16.ofNat second.toNat) : first = second := by
  have words := congrArg Int16.toInt same
  rw [Int16.toInt_ofNat_of_lt small, Int16.toInt_ofNat_of_lt other] at words
  exact UInt16.toNat_inj.mp (Int.ofNat_inj.mp words)

/-- No percentage that is reported leaves the range of its column. -/
theorem thresholds_small {hardBlockPct : UInt8} {thresholdPct : UInt16}
    (listed : thresholdPct ∈ thresholds hardBlockPct) : thresholdPct.toNat < 2 ^ 15 := by
  rw [thresholds, List.mem_dedup, (List.perm_insertionSort _ _).mem_iff] at listed
  have hard := hardBlockPct.toNat_lt
  simp only [List.mem_cons, List.not_mem_nil, or_false] at listed
  obtain rfl | rfl | rfl | rfl := listed
  · decide
  · decide
  · decide
  · simp only [UInt8.toNat_toUInt16]
    omega

/-- Events that share a row are about the same limit, percentage and period. -/
structure SameThreshold (event other : ThresholdEvent) : Prop where
  workspaceId : event.workspaceId = other.workspaceId
  signal : event.signal = other.signal
  operation : event.operation = other.operation
  limitKind : event.limitKind = other.limitKind
  thresholdPct : event.thresholdPct = other.thresholdPct
  period : thresholdDedupePeriodStart event = thresholdDedupePeriodStart other

theorem sameThreshold_of_key {event other : ThresholdEvent}
    (small : event.thresholdPct.toNat < 2 ^ 15) (small' : other.thresholdPct.toNat < 2 ^ 15)
    (same : event.key = other.key) : SameThreshold event other := by
  simp only [ThresholdEvent.key, ThresholdKey.mk.injEq, if_pos small, if_pos small'] at same
  obtain ⟨workspace, signal, operation, kind, pct, period⟩ := same
  exact ⟨workspace, signalKind_injective signal, operationKind_injective operation, kind,
    pct_column_injective small small' pct, period⟩

/-- What a call has asked is its own, and what it comes to at its end is what it should. -/
structure CallKept (call : EnforcementCall) : Prop where
  own : ∀ exchange ∈ call.exchanges, exchange.1.Own call.request.workspaceId call.request.signal
    call.request.nowMicros call.resolved.hardBlockPct
  enforced : ∀ decision, call.rest = .done decision →
    RequestEnforced call.resolved.gracePct call.resolved.hardBlockPct call.resolved.Positive
      call.request.audits (fun usage => call.request.decide usage call.resolved) call.exchanges
      decision

/-- A call carries the way that it has come, so every call is one that is kept. -/
theorem EnforcementCall.kept (call : EnforcementCall) : CallKept call where
  own := call.underWay.asks (call.request.asks_check call.resolved)
  enforced decision ended := by
    have whole := ended ▸ call.underWay
    exact whole.meets (call.request.check_meets call.resolved)

/-- The events that a call has stored are among those that it emitted. -/
theorem emit_mem_of_stored {exchanges : List EnforcerExchange} {event : ThresholdEvent}
    (stored : event ∈ storedEvents exchanges) :
    ∃ exchange ∈ exchanges, exchange.1 = .emit event := by
  obtain ⟨exchange, member, found⟩ := List.mem_filterMap.mp stored
  refine ⟨exchange, member, ?_⟩
  obtain ⟨question, outcome⟩ := exchange
  cases question with
  | emit other =>
    dsimp only at found
    split_ifs at found
    rw [Option.some.inj found]
  | _ => cases found

theorem EnforcementCall.stored_small {call : EnforcementCall} {event : ThresholdEvent}
    (stored : event ∈ storedEvents call.exchanges) : event.thresholdPct.toNat < 2 ^ 15 := by
  obtain ⟨exchange, member, emits⟩ := emit_mem_of_stored stored
  have own := call.kept.own exchange member
  rw [emits] at own
  exact thresholds_small own.2.2.2.1

/-- The rows of one threshold are about one threshold, whichever calls have stored them. -/
theorem stored_apart {call other : EnforcementCall} {event further : ThresholdEvent}
    (stored : event ∈ storedEvents call.exchanges)
    (also : further ∈ storedEvents other.exchanges) (same : event.key = further.key) :
    SameThreshold event further :=
  sameThreshold_of_key (EnforcementCall.stored_small stored) (EnforcementCall.stored_small also)
    same

/-- A quota of a hundred bytes, of which ninety-five are used. -/
def racingTrail : EnforcementTrail where
  store _ _ _ := { ResolvedPolicy.default with quotas := [.quota 100 0 none .compressedBytes] }
  usage := ⟨fun _ _ _ => .error "", fun _ _ _ _ _ => .ok 95, fun _ _ => .error ""⟩
  calls := []
  thresholdDedupe := []
  policyDecisionsAudit := []

def racingRequest : EnforcerRequest := .ingest ⟨Uuid.nil, .traces, 1, none, 50⟩

/-- Two requests that both report the used bytes, one of them with writes that fail. -/
def racingSteps : List EnforcementStep :=
  [.begin racingRequest, .begin racingRequest, .resume 0 .written, .resume 1 .written,
    .resume 0 .lost, .resume 1 .written, .resume 0 .unacknowledged, .resume 1 .written]

/-- A third one, which comes when more than the whole quota is used. -/
def blockedSteps : List EnforcementStep :=
  [.surroundings racingTrail.store
      ⟨fun _ _ _ => .error "", fun _ _ _ _ _ => .ok 110, fun _ _ => .error ""⟩,
    .begin racingRequest, .resume 2 .written, .resume 2 .written, .resume 2 .lost,
    .resume 2 .written, .resume 2 .written, .resume 2 .written]

/-- The percentages and the reasons in the two tables. -/
def EnforcementTrail.columns (trail : EnforcementTrail) : List Int16 × List String :=
  (trail.thresholdDedupe.map fun row => row.key.thresholdPct,
    trail.policyDecisionsAudit.map fun row => row.reason)

end Zradar.Policies
