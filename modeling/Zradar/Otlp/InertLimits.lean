import Zradar.Otlp.LogsRetry
import Zradar.Policies.Dimensions

/-! Whether a limit that is reached makes the exports of both transports fail. -/

namespace Zradar.Otlp

open Auth Policies Retention

/-- How an export comes in: over gRPC, behind the layer or without it, or over HTTP. -/
inductive Transport where
  | grpc (layered : Bool)
  | http
  deriving DecidableEq

/-- An export over a transport is rejected. -/
def ExportRejected (env : IngestEnv) (headers : Headers) (request : ExportRequest)
    (state : IngestState) : Transport → Prop
  | .grpc layered => Fails (exportGrpc env headers layered request) state
  | .http => Fails (exportHttp env headers request) state

/-- The environment with an enforcer of policies, by the readings of usage. -/
def IngestEnv.enforcing (env : IngestEnv) (usage : UsageReader) (store : PolicyStore) : IngestEnv :=
  { env with policyEnforcer := some (checkIngest usage store) }

/-- Every limit that is checked on ingest is positive. -/
def PositiveLimits (resolved : ResolvedPolicy) : Prop :=
  (∀ recordsPerSec bytesPerSec, resolved.rate = some (.rate recordsPerSec bytesPerSec) →
    (∀ limit, recordsPerSec = some limit → 0 < limit) ∧
      ∀ limit, bytesPerSec = some limit → 0 < limit) ∧
  (∀ maxBytes periodStart periodEnd basis,
    PolicyLimit.quota maxBytes periodStart periodEnd basis ∈ resolved.quotas → 0 < maxBytes) ∧
  ∀ maxBytes basis, resolved.size = some (.size maxBytes basis) → 0 < maxBytes

/-- Every reading of usage succeeds. -/
structure ReaderSucceeds (usage : UsageReader) : Prop where
  rate : ∀ workspaceId signal operation, ∃ sample,
    usage.currentRate workspaceId signal operation = .ok sample
  used : ∀ workspaceId signal operation periodStart periodEnd, ∃ used,
    usage.periodUsedBytes workspaceId signal operation periodStart periodEnd = .ok used
  stored : ∀ workspaceId signal, ∃ stored,
    usage.storedCompressedBytes workspaceId signal = .ok stored

/-- The reading of some dimension alone is at the hard percentage of its positive limit. -/
structure LimitReached (usage : UsageReader) (ctx : IngestCtx) (resolved : ResolvedPolicy) : Prop where
  positive : PositiveLimits resolved
  succeeds : ReaderSucceeds usage
  reached : ∃ dimension ∈ limitedDimensions usage ctx resolved,
    dimension.Reached resolved.hardBlockPct.toNat

/-- What the enforcer is asked about a request. -/
def ExportRequest.ctx (env : IngestEnv) (context : RequestContext) (request : ExportRequest) :
    IngestCtx :=
  ingestCtx env context request.signal (request.records env context)

/-- The policy of the workspace of a request. -/
def ExportRequest.policy (store : PolicyStore) (context : RequestContext)
    (request : ExportRequest) : ResolvedPolicy :=
  store context.workspaceId request.signal .ingest

/-- No limit is inert: a request that meets one that is reached is rejected. -/
def NoLimitIsInert (env : IngestEnv) (usage : UsageReader) (store : PolicyStore) (headers : Headers)
    (request : ExportRequest) (state : IngestState) (transport : Transport) : Prop :=
  ∀ context, env.auth.authenticate headers = .ok context →
    LimitReached usage (request.ctx env context) (request.policy store context) →
      ExportRejected (env.enforcing usage store) headers request state transport

/-- The calls of the writer that the rows of a request make. -/
def ExportRequest.writerCalls (env : IngestEnv) (context : RequestContext)
    (settings : Option WorkspaceSettings) : ExportRequest → List WriterCall
  | .traces request =>
    let spans := convertTraces env.rows (.new env.rows.spans fun _ => captureEnabled settings)
      context.workspaceId env.draws request
    if spans.isEmpty then [] else [.insertSpans spans]
  | .metrics request =>
    let metrics := convertMetrics env.rows context.workspaceId request
    if metrics.isEmpty then [] else [.insertMetrics metrics]
  | .logs request => logsCalls env.rows context.workspaceId request env.draws

/-- A request is rejected by something other than the policy. -/
inductive RejectedElsewhere (env : IngestEnv) (request : ExportRequest) (state : IngestState)
    (context : RequestContext) : Prop where
  | tripped {breaker : CircuitBreaker} {trip : Trip}
      (found : env.circuitBreaker = some breaker) (trips : breaker.evaluate = .error trip)
  | capped {error : ParserCapError} (invalid : request.validate = .error error)
  | settings
      (refuses : Fails (enforceWorkspaceSettingsAndGet env context (request.records env context)) state)
  | unwritten {settings : Option WorkspaceSettings} {next : IngestState}
      {before : List WriterCall} {call : WriterCall} {after : List WriterCall} {error : WriterError}
      (admitted : enforceWorkspaceSettingsAndGet env context (request.records env context) state =
        .ok settings next)
      (calls : request.writerCalls env context settings = before ++ call :: after)
      (fails : env.writer (next.calls ++ before) call = .error error)

section

variable {env : IngestEnv} {headers : Headers} {request : ExportRequest} {state : IngestState}
  {context : RequestContext}

/-- Rows are written by one call, or by none if there are no rows. -/
theorem writeRows_eq {ε β : Type} (rows : List β) (call : List β → WriterCall)
    (failed : WriterCall → WriterError → ε) :
    writeRows env rows call (failed (call rows)) =
      makeCalls env failed (if rows.isEmpty then [] else [call rows]) := by
  unfold writeRows
  split_ifs <;> simp [makeCalls]

/-- Behind its checks, a gRPC service makes the calls of its rows. -/
theorem exportGrpc_calls (layered : Bool) :
    exportGrpc env headers layered request =
      (admitGrpc env headers layered request.validate request.signal
        (fun context => request.records env context) >>= fun admitted =>
          makeCalls env (fun call => writeErrorStatus call.what)
            (request.writerCalls env admitted.1 admitted.2)) := by
  cases request with
  | traces request =>
    rw [exportGrpc, exportTracesGrpc]
    congr 1
    funext admitted
    exact writeRows_eq _ WriterCall.insertSpans fun call => writeErrorStatus call.what
  | metrics request =>
    rw [exportGrpc, exportMetricsGrpc]
    congr 1
    funext admitted
    exact writeRows_eq _ WriterCall.insertMetrics fun call => writeErrorStatus call.what
  | logs request =>
    -- Logs are written by two calls, which were followed already.
    exact exportLogsGrpc_calls layered

/-- So does an HTTP handler. -/
theorem exportHttp_calls :
    exportHttp env headers request =
      (admitHttp env headers request.validate request.signal
        (fun context => request.records env context) >>= fun admitted =>
          makeCalls env (fun _ => writeErrorResponse)
            (request.writerCalls env admitted.1 admitted.2)) := by
  cases request with
  | traces request =>
    rw [exportHttp, exportTracesHttp]
    congr 1
    funext admitted
    exact writeRows_eq _ WriterCall.insertSpans fun _ => writeErrorResponse
  | metrics request =>
    rw [exportHttp, exportMetricsHttp]
    congr 1
    funext admitted
    exact writeRows_eq _ WriterCall.insertMetrics fun _ => writeErrorResponse
  | logs request =>
    -- Both transports make the same two calls for logs.
    exact exportLogsHttp_calls

/-- Calls are made one after another until one fails. -/
theorem fails_makeCalls {ε : Type} {failed : WriterCall → WriterError → ε} {calls : List WriterCall} :
    Fails (makeCalls env failed calls) state ↔
      ∃ before call after error, calls = before ++ call :: after ∧
        env.writer (state.calls ++ before) call = .error error := by
  induction calls generalizing state with
  | nil => simp [makeCalls]
  | cons head rest ih =>
    rw [makeCalls, fails_bind]
    cases answer : env.writer state.calls head with
    | error error =>
      -- The first call fails, so none follows.
      refine iff_of_true (.inl ?_) ⟨[], head, rest, error, rfl, by simpa using answer⟩
      exact ⟨failed head error, { state with calls := state.calls ++ [head] }, by
        simp [callWriter, answer]⟩
    | ok done =>
      have first : callWriter env head (failed head) state =
          .ok () { state with calls := state.calls ++ [head] } := by simp [callWriter, answer]
      simp only [Fails, first, reduceCtorEq, exists_false, false_or, EStateM.Result.ok.injEq]
      constructor
      · rintro ⟨_, _, ⟨-, rfl⟩, fails⟩
        obtain ⟨before, call, after, error, same, falls⟩ := ih.mp fails
        exact ⟨head :: before, call, after, error, by simp [same], by simpa using falls⟩
      · rintro ⟨before, call, after, error, same, falls⟩
        refine ⟨(), _, ⟨trivial, rfl⟩, ih.mpr ?_⟩
        cases before with
        | nil =>
          -- The head was answered well, so it is not the call that fails.
          cases same
          simp [answer] at falls
        | cons other before =>
          cases same
          exact ⟨before, call, after, error, rfl, by simpa using falls⟩

/-- Which calls fail does not depend on how a failure is answered. -/
theorem coupled_makeCalls {ε δ : Type} (failed : WriterCall → WriterError → ε)
    (other : WriterCall → WriterError → δ) (calls : List WriterCall) :
    Coupled (fun _ _ => True) (makeCalls env failed calls) (makeCalls env other calls) state := by
  -- The writer answers by the calls before, which are the same on both sides.
  induction calls generalizing state with
  | nil => exact .pure ()
  | cons call rest ih =>
    refine .bind ?_ fun _ _ _ => ih
    unfold Coupled callWriter
    cases env.writer state.calls call <;> simp

/-- Either transport rejects an export, or none. -/
theorem coupled_export (layered : Bool) :
    Coupled (fun _ _ => True) (exportGrpc env headers layered request)
      (exportHttp env headers request) state := by
  -- The handlers make the same checks in the same order, and the same calls behind them.
  rw [exportGrpc_calls, exportHttp_calls]
  refine .bind (.bind ((coupled_resolve layered).mono fun _ _ _ => trivial) ?_)
    fun _ _ _ => coupled_makeCalls _ _ _
  intro context next _
  refine .bind (.adapt fun _ _ _ => trivial) fun _ _ _ => ?_
  cases request.validate with
  | error error => exact .bind (.throw trivial) fun _ _ absurd => nomatch absurd
  | ok done =>
    refine .bind (.adapt fun _ _ _ => trivial) fun _ _ _ => ?_
    exact .bind (.adapt fun _ _ _ => trivial) fun _ _ _ => .pure _

theorem fails_checkStatus :
    Fails (checkStatus env) state ↔
      ∃ breaker trip, env.circuitBreaker = some breaker ∧ breaker.evaluate = .error trip := by
  -- Without a breaker nothing can trip.
  unfold Fails
  rw [checkStatus_eq]
  cases env.circuitBreaker with
  | none => simp
  | some breaker => cases evaluated : breaker.evaluate <;> simp [evaluated]

/-- The decision of an enforcer ends a request exactly if it is to throttle or to block. -/
theorem fails_enforcePolicyIngest {signal : SignalKind} {records : Nat} :
    Fails (enforcePolicyIngest env context signal records) state ↔
      ∃ enforcer, env.policyEnforcer = some enforcer ∧
        2 ≤ (enforcer (ingestCtx env context signal records)).severity := by
  -- A decision without a status lets the request pass, and has a severity below two.
  unfold Fails
  rw [enforcePolicyIngest_eq]
  cases env.policyEnforcer with
  | none => simp
  | some enforcer =>
    have ended (decision : Decision) : 2 ≤ decision.severity ↔ decisionStatus decision ≠ none := by
      rw [Ne, decisionStatus_eq_none]
      cases decision <;> simp [Decision.severity, passes]
    simp only [Option.bind_some, Option.some.injEq, exists_eq_left', ended]
    cases decisionStatus (enforcer (ingestCtx env context signal records)) <;> simp

/-- The checks of an authenticated request up to the write, of which the last alone changes the state. -/
theorem admitHttp_eq (authenticated : env.auth.authenticate headers = .ok context)
    (validated : Except ParserCapError Unit) (signal : SignalKind) (records : RequestContext → Nat) :
    admitHttp env headers validated signal records state =
      match checkStatus env state, validated,
        enforcePolicyIngest env context signal (records context) state with
      | .error status _, _, _ => .error (statusToResponse status) state
      | .ok _ _, .error _, _ => .error ⟨413, none⟩ state
      | .ok _ _, .ok _, .error status _ => .error (statusToResponse status) state
      | .ok _ _, .ok _, .ok _ _ =>
        match enforceWorkspaceSettingsAndGet env context (records context) state with
        | .error status next => .error (statusToResponse status) next
        | .ok settings next => .ok (context, settings) next := by
  -- Each check ends the admission, or hands the state on to the next one as it was.
  rw [admitHttp, bind_of_ok (resolveHttp_of_authenticated authenticated)]
  cases checked : checkStatus env state with
  | error status next =>
    have same : next = state := by
      rw [checkStatus_eq] at checked
      split at checked <;> simp_all
    rw [bind_of_error (adapt_of_error _ checked), same]
  | ok value next =>
    obtain ⟨closed, rfl⟩ := checkStatus_closed checked
    rw [bind_of_ok (adapt_of_ok _ checked)]
    cases validated with
    | error error => rfl
    | ok done =>
      cases policy : enforcePolicyIngest env context signal (records context) next with
      | error status last =>
        have same : last = next := by
          rw [enforcePolicyIngest_eq] at policy
          split at policy <;> simp_all
        rw [← same] at policy ⊢
        exact bind_of_error (adapt_of_error _ policy)
      | ok value last =>
        obtain ⟨passed, rfl⟩ := passes_of_policy policy
        refine (bind_of_ok (adapt_of_ok _ policy)).trans ?_
        cases settled : enforceWorkspaceSettingsAndGet env context (records context) last with
        | error status next => exact bind_of_error (adapt_of_error _ settled)
        | ok settings next => exact bind_of_ok (adapt_of_ok _ settled)

/-- An authenticated export is rejected by its policy, or elsewhere. -/
theorem fails_exportHttp (authenticated : env.auth.authenticate headers = .ok context) :
    Fails (exportHttp env headers request) state ↔
      Fails (enforcePolicyIngest env context request.signal (request.records env context)) state ∨
        RejectedElsewhere env request state context := by
  have admitted : admitHttp env headers request.validate request.signal
      (fun context => request.records env context) state = _ := admitHttp_eq authenticated _ _ _
  rw [exportHttp_calls, fails_bind, Fails, admitted]
  -- Each check in its turn either rejects the export, or leaves it to those behind it.
  cases checked : checkStatus env state with
  | error status next =>
    obtain ⟨breaker, trip, found, trips⟩ := fails_checkStatus.mp ⟨status, next, checked⟩
    exact iff_of_true (.inl ⟨_, _, rfl⟩) (.inr (.tripped found trips))
  | ok value next =>
    cases valid : request.validate with
    | error error => exact iff_of_true (.inl ⟨_, _, rfl⟩) (.inr (.capped valid))
    | ok done =>
      cases policy : enforcePolicyIngest env context request.signal
          (request.records env context) state with
      | error status last => exact iff_of_true (.inl ⟨_, _, rfl⟩) (.inl ⟨status, last, policy⟩)
      | ok value last =>
        cases settled : enforceWorkspaceSettingsAndGet env context
            (request.records env context) state with
        | error status final =>
          exact iff_of_true (.inl ⟨_, _, rfl⟩) (.inr (.settings ⟨status, final, settled⟩))
        | ok settings final =>
          simp only [Fails, policy, reduceCtorEq, exists_false, false_or,
            EStateM.Result.ok.injEq]
          constructor
          · rintro ⟨_, _, ⟨rfl, rfl⟩, fails⟩
            obtain ⟨before, call, after, error, calls, falls⟩ := fails_makeCalls.mp fails
            exact .unwritten settled calls falls
          · -- All checks have passed, so it is a call of the writer that has failed.
            intro elsewhere
            cases elsewhere with
            | tripped found trips =>
              have fails : Fails (checkStatus env) state :=
                fails_checkStatus.mpr ⟨_, _, found, trips⟩
              simp [Fails, checked] at fails
            | capped invalid => simp [valid] at invalid
            | settings refuses => simp [Fails, settled] at refuses
            | unwritten admitted calls falls =>
              rw [settled, EStateM.Result.ok.injEq] at admitted
              obtain ⟨rfl, rfl⟩ := admitted
              exact ⟨_, _, ⟨rfl, rfl⟩, fails_makeCalls.mpr ⟨_, _, _, _, calls, falls⟩⟩

/-- What rejects an export elsewhere does not depend on the policies. -/
theorem rejectedElsewhere_enforcing (usage : UsageReader) (store : PolicyStore) :
    RejectedElsewhere (env.enforcing usage store) request state context ↔
      RejectedElsewhere env request state context := by
  -- The policies are read by the enforcer only.
  have records : request.records (env.enforcing usage store) context = request.records env context := by
    cases request <;> rfl
  have calls (settings : Option WorkspaceSettings) :
      request.writerCalls (env.enforcing usage store) context settings =
        request.writerCalls env context settings := by
    cases request <;> rfl
  constructor
  · intro elsewhere
    cases elsewhere with
    | tripped found trips => exact .tripped found trips
    | capped invalid => exact .capped invalid
    | settings refuses => exact .settings (records ▸ refuses)
    | unwritten admitted same falls =>
      exact .unwritten (records ▸ admitted) ((calls _).symm.trans same) falls
  · intro elsewhere
    cases elsewhere with
    | tripped found trips => exact .tripped found trips
    | capped invalid => exact .capped invalid
    | settings refuses => exact .settings (records.symm ▸ refuses)
    | unwritten admitted same falls =>
      exact .unwritten (records.symm ▸ admitted) ((calls _).trans same) falls

/-- An export is rejected by the policy that is enforced, or elsewhere. -/
theorem exportRejected_iff (usage : UsageReader) (store : PolicyStore) (transport : Transport)
    (authenticated : env.auth.authenticate headers = .ok context) :
    ExportRejected (env.enforcing usage store) headers request state transport ↔
      PolicyRefuses usage (request.ctx env context) (request.policy store context) ∨
        RejectedElsewhere env request state context := by
  -- Both transports end alike, so it is enough to look at one of them.
  have alike : ExportRejected (env.enforcing usage store) headers request state transport ↔
      Fails (exportHttp (env.enforcing usage store) headers request) state := by
    cases transport with
    | grpc layered => exact (coupled_export layered).fails_iff
    | http => exact Iff.rfl
  have known : (env.enforcing usage store).auth.authenticate headers = .ok context := authenticated
  have policy : Fails (enforcePolicyIngest (env.enforcing usage store) context request.signal
      (request.records (env.enforcing usage store) context)) state ↔
        PolicyRefuses usage (request.ctx env context) (request.policy store context) := by
    have same : request.records (env.enforcing usage store) context = request.records env context := by
      cases request <;> rfl
    rw [← decideIngest_refuses_iff, fails_enforcePolicyIngest, same]
    simp only [IngestEnv.enforcing, Option.some.injEq, exists_eq_left']
    rfl
  rw [alike, fails_exportHttp known, policy, rejectedElsewhere_enforcing]

/--
A limit that is reached makes the export fail exactly if the policy refuses it, which it does at the
first checked dimension that the request is not within, or if it is rejected elsewhere.
-/
theorem limit_takes_effect_iff (env : IngestEnv) (usage : UsageReader) (store : PolicyStore)
    (headers : Headers) (request : ExportRequest) (state : IngestState) (transport : Transport) :
    NoLimitIsInert env usage store headers request state transport ↔
      ∀ context, env.auth.authenticate headers = .ok context →
        LimitReached usage (request.ctx env context) (request.policy store context) →
          PolicyRefuses usage (request.ctx env context) (request.policy store context) ∨
            RejectedElsewhere env request state context := by
  -- Both sides are about the same requests, and agree on each of them.
  constructor
  · intro effective context authenticated reached
    exact (exportRejected_iff usage store transport authenticated).mp
      (effective context authenticated reached)
  · intro covered context authenticated reached
    exact (exportRejected_iff usage store transport authenticated).mpr
      (covered context authenticated reached)

end

/-- A thousand bytes in the last second, and nothing else. -/
def byteUsage : UsageReader where
  currentRate := fun _ _ _ => .ok ⟨0, 1000, 0⟩
  periodUsedBytes := fun _ _ _ _ _ => .ok 0
  storedCompressedBytes := fun _ _ => .ok 0

/-- A policy for a hundred bytes in a second. -/
def byteRatePolicy : ResolvedPolicy :=
  { ResolvedPolicy.default with rate := some (.rate none (some 100)) }

theorem positiveLimits_byteRatePolicy : PositiveLimits byteRatePolicy := by
  -- The rate of bytes is the only limit that there is.
  refine ⟨?_, ?_, ?_⟩
  · intro recordsPerSec bytesPerSec same
    cases same
    constructor
    · intro limit absurd
      cases absurd
    · intro limit same
      cases same
      decide
  · intro maxBytes periodStart periodEnd basis member
    cases member
  · intro maxBytes basis same
    cases same

theorem readerSucceeds_byteUsage : ReaderSucceeds byteUsage :=
  ⟨fun _ _ _ => ⟨_, rfl⟩, fun _ _ _ _ _ => ⟨_, rfl⟩, fun _ _ => ⟨_, rfl⟩⟩

/-- An export is accepted at ten times the rate of bytes that its workspace is limited to. -/
theorem byte_rate_is_inert :
    ¬ ∀ env usage store headers request state transport,
      NoLimitIsInert env usage store headers request state transport := by
  intro effective
  have accepted : exportHttp ((plainIngestEnv none fun _ _ => .ok ()).enforcing byteUsage
      fun _ _ _ => byteRatePolicy) ⟨none, none⟩ (gaugeRequest 1) freshIngest =
        .ok () ⟨freshIngest.limiter, _⟩ := rfl
  -- The reading is ten times the limit, and no estimate makes the enforcer look at it.
  have reached : (⟨1000, 0, 100, .rateLimitExceeded, "rate_bytes_exceeded"⟩ : Dimension).Reached
      103 := by
    unfold Dimension.Reached
    decide
  obtain ⟨response, next, fails⟩ := effective (plainIngestEnv none fun _ _ => .ok ()) byteUsage
    (fun _ _ _ => byteRatePolicy) ⟨none, none⟩ (gaugeRequest 1) freshIngest .http ⟨Uuid.nil⟩ rfl
    ⟨positiveLimits_byteRatePolicy, readerSucceeds_byteUsage, _, List.mem_cons_self, reached⟩
  rw [accepted] at fails
  cases fails

end Zradar.Otlp
