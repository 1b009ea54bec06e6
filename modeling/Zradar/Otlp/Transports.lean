import Mathlib
import Zradar.Lib.Coupled
import Zradar.Otlp.RowCaps
import Zradar.Otlp.Services

/-! Both transports side by side: the same writes, and answers of the same class. -/

namespace Zradar.Otlp

open Auth Policies Retention

/-- An exporter retries both answers, or neither. -/
def AnswersAlike (status : RpcStatus) (response : HttpResponse) : Prop :=
  status.retryable = response.retryable

/--
Both transports leave the same calls of the writer and the same rate limiter, and both succeed or
both fail with answers of the same class.
-/
def TreatedAlike (env : IngestEnv) (headers : Headers) (layered : Bool) (request : ExportRequest)
    (state : IngestState) : Prop :=
  Coupled AnswersAlike (exportGrpc env headers layered request) (exportHttp env headers request) state

/-- The signal of a request. -/
def ExportRequest.signal : ExportRequest → SignalKind
  | .traces _ => .traces
  | .metrics _ => .metrics
  | .logs _ => .logs

/-- The records that a request is admitted for. -/
def ExportRequest.records (env : IngestEnv) (context : RequestContext) : ExportRequest → Nat
  | .traces request => request.spanCount
  | .metrics request => (convertMetrics env.rows context.workspaceId request).length
  | .logs request => request.rawLogCount

/-- A decision that a rate, a quota or a size is exceeded. -/
def finalBlock : Decision → Bool
  | .block _ .rateLimitExceeded | .block _ .quotaExceeded | .block _ .sizeExceeded => true
  | _ => false

/-- A decision to go on. -/
def passes : Decision → Bool
  | .allow | .allowWithGrace _ => true
  | _ => false

section

variable (env : IngestEnv) (headers : Headers) (state : IngestState)

/-- The rate limiter refuses more records than it can ever let through. -/
def RateExceededForGood (context : RequestContext) (records : Nat) : Prop :=
  ∃ repository settings limit, env.settingsRepo = some repository ∧
    repository context.workspaceId = .ok (some settings) ∧ settings.blocked = false ∧
    settings.maxIngestionRate = some limit ∧ ¬ limit < 0 ∧ env.hasRateLimiter = true ∧
    (state.limiter.checkAndRecord env.ops env.now context.workspaceId limit.toInt.toNat records).1 =
      false ∧
    ¬ (limit.toInt.toNat > 0 ∧ records ≤ min (limit.toInt.toNat * 2) (2 ^ 64 - 1))

/-- The policy blocks some records by what is exceeded, or lets them pass to such a rate limiter. -/
def ExceededForGood (context : RequestContext) (signal : SignalKind) (records : Nat) : Prop :=
  (∃ enforcer, env.policyEnforcer = some enforcer ∧
    finalBlock (enforcer (ingestCtx env context signal records)) = true) ∨
  (∀ enforcer, env.policyEnforcer = some enforcer →
    passes (enforcer (ingestCtx env context signal records)) = true) ∧
    RateExceededForGood env state context records

/--
A request that is authenticated, meets a closed breaker and the caps, and is then refused because
something is exceeded that does not recover.
-/
structure RefusedForGood (validated : Except ParserCapError Unit) (signal : SignalKind)
    (records : RequestContext → Nat) (context : RequestContext) : Prop where
  authenticated : env.auth.authenticate headers = .ok context
  closed : ∀ breaker, env.circuitBreaker = some breaker → breaker.evaluate = .ok ()
  accepted : validated = .ok ()
  exceeded : ExceededForGood env state context signal (records context)

end

/-- A status that something is exhausted, and that it is of no use to try again. -/
def ExhaustedForGood (status : RpcStatus) : Prop :=
  status.code = .resourceExhausted ∧ status.retryInfo = none

/-- A response that is made from a status is of its class, unless something is exhausted for good. -/
theorem answersAlike_statusToResponse (status : RpcStatus) :
    AnswersAlike status (statusToResponse status) ↔ ¬ ExhaustedForGood status := by
  obtain ⟨code, message, retryInfo⟩ := status
  cases code <;> cases retryInfo <;>
    simp [AnswersAlike, ExhaustedForGood, statusToResponse, withRetryAfter, RpcStatus.retryable, HttpResponse.retryable]

theorem answersAlike_rejection (rejection : AuthRejection) :
    AnswersAlike rejection.intoStatus rejection.intoHttpResponse := by
  cases rejection <;> rfl

theorem answersAlike_writeError (what : String) (error : WriterError) :
    AnswersAlike (writeErrorStatus what error) (writeErrorResponse error) := by
  obtain ⟨message, transient⟩ := error
  cases transient <;> rfl

section

variable {env : IngestEnv} {headers : Headers} {state : IngestState}

/-- The layer changes nothing about the context of a request. -/
theorem resolveGrpc_eq (layered : Bool) (state : IngestState) :
    resolveGrpc env headers layered state =
      match env.auth.authenticate headers with
      | .ok context => .ok context state
      | .error rejection => .error rejection.intoStatus state := by
  -- With or without the layer, the headers are checked once before a write.
  cases layered with
  | false =>
    cases answer : env.auth.authenticate headers <;>
      simp [resolveGrpc, authenticateGrpc, answer, Bind.bind, EStateM.bind, pure, EStateM.pure,
        throw, throwThe, MonadExceptOf.throw, EStateM.throw]
  | true =>
    by_cases opened : env.auth.authenticator.isNone = true
    · cases answer : env.auth.authenticate headers <;>
        simp [resolveGrpc, authenticateGrpc, IngestAuth.layer, opened, answer, Bind.bind,
          EStateM.bind, pure, EStateM.pure, throw, throwThe, MonadExceptOf.throw, EStateM.throw]
    · cases answer : env.auth.authenticate headers <;>
        simp [resolveGrpc, authenticateGrpc, IngestAuth.layer, opened, answer, Bind.bind,
          EStateM.bind, pure, EStateM.pure, throw, throwThe, MonadExceptOf.throw, EStateM.throw]

theorem resolveHttp_of_authenticated {context : RequestContext}
    (authenticated : env.auth.authenticate headers = .ok context) :
    resolveHttp env headers state = .ok context state := by
  unfold resolveHttp
  rw [authenticated]
  rfl

theorem coupled_resolve (layered : Bool) :
    Coupled AnswersAlike (resolveGrpc env headers layered) (resolveHttp env headers) state := by
  -- Both transports ask the same provider, and a rejection is answered alike.
  unfold Coupled
  rw [resolveGrpc_eq]
  cases answer : env.auth.authenticate headers with
  | ok context => simp [resolveHttp, answer, pure, EStateM.pure]
  | error rejection =>
    have alike := answersAlike_rejection rejection
    simp [resolveHttp, answer, throw, throwThe, MonadExceptOf.throw, EStateM.throw, alike]

/-- The breaker lets a request through, or asks it to come back. -/
theorem checkStatus_eq (state : IngestState) :
    checkStatus env state =
      match env.circuitBreaker.map CircuitBreaker.evaluate with
      | some (.error trip) =>
        .error (unavailable ("Ingestion backpressure: " ++ trip.reason) trip.retryAfter) state
      | _ => .ok () state := by
  -- The check fails only if there is a breaker and it has tripped.
  unfold checkStatus
  cases env.circuitBreaker with
  | none => rfl
  | some breaker =>
    cases evaluated : breaker.evaluate <;>
      simp [evaluated, pure, EStateM.pure, throw, throwThe, MonadExceptOf.throw, EStateM.throw]

theorem checkStatus_closed {value : Unit} {next : IngestState}
    (ends : checkStatus env state = .ok value next) :
    (∀ breaker, env.circuitBreaker = some breaker → breaker.evaluate = .ok ()) ∧ next = state := by
  -- Only a breaker that is there can stop a request.
  rw [checkStatus_eq] at ends
  cases found : env.circuitBreaker with
  | none =>
    simp only [found, Option.map_none, EStateM.Result.ok.injEq, true_and] at ends
    exact ⟨(fun _ absurd => nomatch absurd), ends.symm⟩
  | some breaker =>
    cases evaluated : breaker.evaluate with
    | error trip => simp [found, evaluated] at ends
    | ok value =>
      simp only [found, evaluated, Option.map_some, EStateM.Result.ok.injEq, true_and] at ends
      refine ⟨?_, ends.symm⟩
      rintro _ ⟨⟩
      exact evaluated

theorem coupled_checkStatus :
    Coupled AnswersAlike (checkStatus env) ((checkStatus env).adaptExcept statusToResponse) state := by
  -- A tripped breaker answers that it is unavailable, which both retry.
  refine .adapt fun status next fails => (answersAlike_statusToResponse status).mpr ?_
  rw [checkStatus_eq] at fails
  split at fails
  · cases fails
    exact fun exhausted => nomatch exhausted.1
  · cases fails

/-- A decision that ends a request says whether to try again by what it blocks. -/
theorem exhaustedForGood_decisionStatus {decision : Decision} {status : RpcStatus}
    (ended : decisionStatus decision = some status) :
    ExhaustedForGood status ↔ finalBlock decision = true := by
  -- A throttle carries a delay, so only a block can be final.
  cases decision with
  | allow => cases ended
  | allowWithGrace reason => cases ended
  | throttle retryAfterMs reason =>
    cases ended
    simp [ExhaustedForGood, retryableResourceExhausted, finalBlock]
  | block reason code =>
    cases code <;> cases ended <;> simp [ExhaustedForGood, finalBlock]

theorem decisionStatus_eq_none {decision : Decision} :
    decisionStatus decision = none ↔ passes decision = true := by
  cases decision with
  | allow => simp [decisionStatus, passes]
  | allowWithGrace reason => simp [decisionStatus, passes]
  | throttle retryAfterMs reason => simp [decisionStatus, passes]
  | block reason code => cases code <;> simp [decisionStatus, passes]

variable {context : RequestContext} {signal : SignalKind} {records : Nat}

theorem enforcePolicyIngest_eq (state : IngestState) :
    enforcePolicyIngest env context signal records state =
      match env.policyEnforcer.bind fun enforcer =>
        decisionStatus (enforcer (ingestCtx env context signal records)) with
      | some status => .error status state
      | none => .ok () state := by
  -- Without an enforcer the request passes.
  unfold enforcePolicyIngest
  cases env.policyEnforcer with
  | none => rfl
  | some enforcer =>
    cases decided : decisionStatus (enforcer (ingestCtx env context signal records)) <;>
      simp [decided, pure, EStateM.pure, throw, throwThe, MonadExceptOf.throw, EStateM.throw]

/-- A request over the rate is exhausted for good if it can never fit. -/
theorem exhaustedForGood_rateLimitedStatus {limit : Nat} :
    ExhaustedForGood (rateLimitedStatus limit records) ↔
      ¬ (limit > 0 ∧ records ≤ min (limit * 2) (2 ^ 64 - 1)) := by
  unfold rateLimitedStatus
  split_ifs with fits
  · exact iff_of_false (fun exhausted => nomatch exhausted.2) (not_not_intro fits)
  · exact iff_of_true ⟨rfl, rfl⟩ fits

/-- The settings of a workspace, if there is a repository that has them. -/
theorem enforceWorkspaceSettingsAndGet_eq (state : IngestState) :
    enforceWorkspaceSettingsAndGet env context records state =
      match env.settingsRepo.map fun repository => repository context.workspaceId with
      | some (.error message) =>
        .error ⟨.internal, "Failed to load project settings: " ++ message, none⟩ state
      | some (.ok (some settings)) =>
        if settings.blocked then
          .error ⟨.permissionDenied, "Project is blocked for ingestion", none⟩ state
        else
          match settings.maxIngestionRate with
          | none => .ok (some settings) state
          | some limit =>
            if limit < 0 then .error ⟨.invalidArgument, "Invalid max_ingestion_rate", none⟩ state
            else if env.hasRateLimiter then
              (takeTokens env context.workspaceId limit.toInt.toNat records).map
                (fun _ => some settings) state
            else .ok (some settings) state
      | _ => .ok none state := by
  -- The checks are made in their order, and the limiter is asked last.
  unfold enforceWorkspaceSettingsAndGet
  cases env.settingsRepo with
  | none => rfl
  | some repository =>
    simp only [Option.map_some]
    cases repository context.workspaceId with
    | error message => rfl
    | ok found =>
      cases found with
      | none => rfl
      | some settings =>
        simp only
        cases settings.blocked with
        | true => rfl
        | false =>
          cases settings.maxIngestionRate with
          | none => rfl
          | some limit =>
            by_cases negative : limit < 0
            · simp only [negative, if_true]
              rfl
            · by_cases limited : env.hasRateLimiter = true
              · simp only [negative, limited, if_false, if_true]
                rfl
              · simp only [negative, limited, if_false]
                rfl

/-- The settings exhaust a request for good only by a rate that it can never meet. -/
theorem rateExceeded_of_settings {status : RpcStatus} {next : IngestState}
    (fails : enforceWorkspaceSettingsAndGet env context records state = .error status next)
    (exhausted : ExhaustedForGood status) : RateExceededForGood env state context records := by
  -- All refusals but that of the rate limiter have another code.
  rw [enforceWorkspaceSettingsAndGet_eq] at fails
  cases repo : env.settingsRepo with
  | none => simp [repo] at fails
  | some repository =>
    simp only [repo, Option.map_some] at fails
    cases loaded : repository context.workspaceId with
    | error message =>
      simp only [loaded] at fails
      cases fails
      exact nomatch exhausted.1
    | ok found =>
      cases found with
      | none => simp [loaded] at fails
      | some settings =>
        simp only [loaded] at fails
        by_cases blocked : settings.blocked = true
        · rw [if_pos blocked] at fails
          cases fails
          exact nomatch exhausted.1
        · rw [if_neg blocked] at fails
          cases rate : settings.maxIngestionRate with
          | none => simp [rate] at fails
          | some limit =>
            simp only [rate] at fails
            by_cases negative : limit < 0
            · rw [if_pos negative] at fails
              cases fails
              exact nomatch exhausted.1
            · rw [if_neg negative] at fails
              by_cases limited : env.hasRateLimiter = true
              · -- Only the rate limiter is left, and it refuses.
                rw [if_pos limited] at fails
                cases allowed : (state.limiter.checkAndRecord env.ops env.now context.workspaceId
                    limit.toInt.toNat records).1 with
                | true =>
                  simp only [EStateM.map, takeTokens, allowed, if_true] at fails
                  cases fails
                | false =>
                  simp only [EStateM.map, takeTokens, allowed, Bool.false_eq_true, if_false,
                    EStateM.Result.error.injEq] at fails
                  rw [← fails.1] at exhausted
                  exact ⟨repository, settings, limit, repo, loaded, Bool.eq_false_iff.mpr blocked,
                    rate, negative, limited, allowed, exhaustedForGood_rateLimitedStatus.mp exhausted⟩
              · rw [if_neg limited] at fails
                cases fails

/-- A rate that a request can never meet exhausts it for good. -/
theorem settings_of_rateExceeded (exceeded : RateExceededForGood env state context records) :
    ∃ status next, enforceWorkspaceSettingsAndGet env context records state = .error status next ∧
      ExhaustedForGood status := by
  -- The checks before the limiter pass, and the limiter refuses for good.
  obtain ⟨repository, settings, limit, repo, loaded, blocked, rate, negative, limited, refused,
    never⟩ := exceeded
  refine ⟨rateLimitedStatus limit.toInt.toNat records,
    { state with limiter := (state.limiter.checkAndRecord env.ops env.now context.workspaceId
      limit.toInt.toNat records).2 }, ?_, exhaustedForGood_rateLimitedStatus.mpr never⟩
  rw [enforceWorkspaceSettingsAndGet_eq]
  simp only [repo, Option.map_some, loaded, blocked, rate, negative, limited, if_false, if_true,
    Bool.false_eq_true, EStateM.map, takeTokens, refused]

variable {validated : Except ParserCapError Unit} {count : RequestContext → Nat}

/-- A policy that does not block what is exceeded answers alike. -/
theorem coupled_policy
    (opens : ∀ enforcer, env.policyEnforcer = some enforcer →
      finalBlock (enforcer (ingestCtx env context signal records)) ≠ true) :
    Coupled AnswersAlike (enforcePolicyIngest env context signal records)
      ((enforcePolicyIngest env context signal records).adaptExcept statusToResponse) state := by
  -- A policy that would exhaust for good is ruled out.
  refine .adapt fun status next fails => (answersAlike_statusToResponse status).mpr ?_
  intro exhausted
  rw [enforcePolicyIngest_eq] at fails
  cases policy : env.policyEnforcer with
  | none => simp [policy] at fails
  | some enforcer =>
    cases decided : decisionStatus (enforcer (ingestCtx env context signal records)) with
    | none => simp [policy, decided] at fails
    | some ended =>
      simp only [policy, decided, Option.bind_some, EStateM.Result.error.injEq] at fails
      rw [← fails.1] at exhausted
      exact opens enforcer policy ((exhaustedForGood_decisionStatus decided).mp exhausted)

/-- Behind the policy, its decision was to go on. -/
theorem passes_of_policy {value : Unit} {next : IngestState}
    (passed : enforcePolicyIngest env context signal records state = .ok value next) :
    (∀ enforcer, env.policyEnforcer = some enforcer →
      passes (enforcer (ingestCtx env context signal records)) = true) ∧ next = state := by
  -- Without an enforcer nothing is decided, and a decision either passes or ends the request.
  rw [enforcePolicyIngest_eq] at passed
  cases policy : env.policyEnforcer with
  | none =>
    simp only [policy, Option.bind_none, EStateM.Result.ok.injEq, true_and] at passed
    exact ⟨(fun _ absurd => nomatch absurd), passed.symm⟩
  | some enforcer =>
    cases decided : decisionStatus (enforcer (ingestCtx env context signal records)) with
    | some ended => simp [policy, decided] at passed
    | none =>
      simp only [policy, decided, Option.bind_some, EStateM.Result.ok.injEq, true_and] at passed
      refine ⟨?_, passed.symm⟩
      rintro _ ⟨⟩
      exact decisionStatus_eq_none.mp decided

/-- Both transports admit a request alike, unless it is refused for good. -/
theorem coupled_admission (layered : Bool)
    (hopeful : ∀ context, ¬ RefusedForGood env headers state validated signal count context) :
    Coupled AnswersAlike (admitGrpc env headers layered validated signal count)
      (admitHttp env headers validated signal count) state := by
  refine .bind (coupled_resolve layered) fun context first resolved => ?_
  -- The context is that of the headers, and resolving it changes nothing.
  have authenticated : env.auth.authenticate headers = .ok context ∧ first = state := by
    rw [resolveGrpc_eq] at resolved
    cases answer : env.auth.authenticate headers with
    | error rejection => simp [answer] at resolved
    | ok found =>
      simp only [answer, EStateM.Result.ok.injEq] at resolved
      exact ⟨congrArg _ resolved.1, resolved.2.symm⟩
  obtain ⟨known, rfl⟩ := authenticated
  refine .bind coupled_checkStatus fun _ second checked => ?_
  obtain ⟨closed, rfl⟩ := checkStatus_closed checked
  cases valid : validated with
  | error error => exact .bind (.throw rfl) fun _ _ absurd => nomatch absurd
  | ok done =>
    have unexceeded : ¬ ExceededForGood env second context signal (count context) := fun exceeded =>
      hopeful context ⟨known, closed, valid, exceeded⟩
    -- The policy is asked first, and the settings only if it lets the request pass.
    refine .bind (coupled_policy fun enforcer policy blocks =>
      unexceeded (.inl ⟨enforcer, policy, blocks⟩)) fun _ third passed => ?_
    obtain ⟨passing, rfl⟩ := passes_of_policy passed
    refine .bind (.adapt fun status next fails => ?_) fun settings last _ => .pure _
    exact (answersAlike_statusToResponse status).mpr fun exhausted =>
      unexceeded (.inr ⟨passing, rateExceeded_of_settings fails exhausted⟩)

/-- A closed breaker changes nothing. -/
theorem checkStatus_of_closed
    (closed : ∀ breaker, env.circuitBreaker = some breaker → breaker.evaluate = .ok ()) :
    checkStatus env state = .ok () state := by
  rw [checkStatus_eq]
  cases found : env.circuitBreaker with
  | none => rfl
  | some breaker => simp [closed breaker found]

/-- What is exceeded for good is refused by the policy, or behind it. -/
theorem guards_of_exceeded (exceeded : ExceededForGood env state context signal records) :
    ∃ status next, ExhaustedForGood status ∧
      (enforcePolicyIngest env context signal records state = .error status next ∨
        enforcePolicyIngest env context signal records state = .ok () state ∧
          enforceWorkspaceSettingsAndGet env context records state = .error status next) := by
  obtain ⟨enforcer, policy, blocks⟩ | ⟨passing, rate⟩ := exceeded
  · cases decided : decisionStatus (enforcer (ingestCtx env context signal records)) with
    | none =>
      -- No decision both blocks a request and lets it pass.
      have passed := decisionStatus_eq_none.mp decided
      cases decision : enforcer (ingestCtx env context signal records) <;>
        simp [decision, finalBlock, passes] at blocks passed
    | some status =>
      refine ⟨status, state, (exhaustedForGood_decisionStatus decided).mpr blocks, .inl ?_⟩
      rw [enforcePolicyIngest_eq]
      simp [policy, decided]
  · obtain ⟨status, next, fails, exhausted⟩ := settings_of_rateExceeded rate
    refine ⟨status, next, exhausted, .inr ⟨?_, fails⟩⟩
    rw [enforcePolicyIngest_eq]
    cases policy : env.policyEnforcer with
    | none => rfl
    | some enforcer => simp [decisionStatus_eq_none.mpr (passing enforcer policy)]

/-- Both transports refuse for good, and the response does not say so. -/
theorem admit_of_refused (layered : Bool)
    (refused : RefusedForGood env headers state validated signal count context) :
    ∃ status next, ExhaustedForGood status ∧
      admitGrpc env headers layered validated signal count state = .error status next ∧
      admitHttp env headers validated signal count state = .error (statusToResponse status) next := by
  -- Both handlers get to the check that refuses.
  obtain ⟨known, closed, rfl, exceeded⟩ := refused
  have grpc : resolveGrpc env headers layered state = .ok context state := by
    rw [resolveGrpc_eq, known]
  have http : resolveHttp env headers state = .ok context state :=
    resolveHttp_of_authenticated known
  have breaker : checkStatus env state = .ok () state := checkStatus_of_closed closed
  obtain ⟨status, next, exhausted, policy | ⟨policy, settings⟩⟩ := guards_of_exceeded exceeded
  -- The policy refuses, or it passes and the settings refuse.
  · refine ⟨status, next, exhausted, ?_, ?_⟩
    · rw [admitGrpc, bind_of_ok grpc, bind_of_ok breaker]
      exact bind_of_error policy
    · rw [admitHttp, bind_of_ok http, bind_of_ok (adapt_of_ok _ breaker)]
      exact bind_of_error (adapt_of_error _ policy)
  · refine ⟨status, next, exhausted, ?_, ?_⟩
    · rw [admitGrpc, bind_of_ok grpc, bind_of_ok breaker]
      exact (bind_of_ok policy).trans (bind_of_error settings)
    · rw [admitHttp, bind_of_ok http, bind_of_ok (adapt_of_ok _ breaker)]
      exact (bind_of_ok (adapt_of_ok _ policy)).trans (bind_of_error (adapt_of_error _ settings))

/-- Both transports call the writer alike. -/
theorem coupled_callWriter (call : WriterCall) (what : String) :
    Coupled AnswersAlike (callWriter env call (writeErrorStatus what))
      (callWriter env call writeErrorResponse) state := by
  unfold Coupled callWriter
  cases env.writer state.calls call with
  | ok done => exact ⟨rfl, rfl⟩
  | error error => exact ⟨answersAlike_writeError what error, rfl⟩

/-- Both transports write rows alike, and nothing without rows. -/
theorem coupled_writeRows {β : Type} (rows : List β) (call : List β → WriterCall) (what : String) :
    Coupled AnswersAlike (writeRows env rows call (writeErrorStatus what))
      (writeRows env rows call writeErrorResponse) state := by
  unfold writeRows
  split_ifs
  · exact .pure ()
  · exact coupled_callWriter _ what

end

/-- A request that is refused for good, by its signal. -/
def ExportRequest.Refused (env : IngestEnv) (headers : Headers) (state : IngestState)
    (request : ExportRequest) : Prop :=
  ∃ context, RefusedForGood env headers state request.validate request.signal
    (fun context => request.records env context) context

/--
Both transports treat a request alike exactly if it is not refused because something is exceeded
that does not recover.
-/
theorem transports_alike_iff (env : IngestEnv) (headers : Headers) (layered : Bool)
    (request : ExportRequest) (state : IngestState) :
    TreatedAlike env headers layered request state ↔ ¬ request.Refused env headers state := by
  constructor
  · rintro alike ⟨context, refused⟩
    obtain ⟨status, next, exhausted, grpc, http⟩ := admit_of_refused layered refused
    have unlike : ¬ AnswersAlike status (statusToResponse status) := fun same =>
      (answersAlike_statusToResponse status).mp same exhausted
    have first : exportGrpc env headers layered request state = .error status next := by
      cases request <;> exact bind_of_error grpc
    have second : exportHttp env headers request state = .error (statusToResponse status) next := by
      cases request <;> exact bind_of_error http
    exact Coupled.not_of_error first second unlike alike
  · intro hopeful
    have admitted : ∀ context, ¬ RefusedForGood env headers state request.validate request.signal
        (fun context => request.records env context) context :=
      fun context refused => hopeful ⟨context, refused⟩
    cases request with
    | traces request =>
      exact .bind (coupled_admission layered admitted) fun _ _ _ => coupled_writeRows _ _ _
    | metrics request =>
      exact .bind (coupled_admission layered admitted) fun _ _ _ => coupled_writeRows _ _ _
    | logs request =>
      -- The scores come first, and the logs only if they were written.
      refine .bind (coupled_admission layered admitted) fun _ _ _ => ?_
      exact .bind (coupled_writeRows _ _ _) fun _ _ _ => coupled_writeRows _ _ _

/-- Open ingest without a breaker and without limits, by a policy and over a writer. -/
def plainIngestEnv (policyEnforcer : Option (IngestCtx → Decision))
    (writer : List WriterCall → WriterCall → Except WriterError Unit) : IngestEnv where
  rows := plainRowEnv
  draws := plainDraws
  auth := ⟨none, false, none, fun _ => none⟩
  circuitBreaker := none
  policyEnforcer := policyEnforcer
  settingsRepo := none
  hasRateLimiter := false
  ops := ⟨fun _ => F64.zero, fun _ => F64.zero, fun _ _ => F64.zero, fun _ _ => F64.zero,
    fun _ _ => F64.zero, fun _ _ => F64.zero, fun _ _ => false⟩
  now := 0
  nowMicros := 0
  writer := writer

/-- Nothing was limited and nothing was written yet. -/
def freshIngest : IngestState := ⟨⟨fun _ => none⟩, []⟩

/-- An environment in which the quota of every workspace is exceeded. -/
def exceededEnv : IngestEnv :=
  plainIngestEnv (some fun _ => .block "quota exceeded" .quotaExceeded) fun _ _ => .ok ()

/-- A quota that is exceeded ends a request over gRPC, and asks for it again over HTTP. -/
theorem exceeded_quota_is_retried_over_http :
    ¬ ∀ env headers layered request state, TreatedAlike env headers layered request state := by
  -- The same block ends the export over gRPC and is retried over HTTP.
  intro alike
  have grpc : exportGrpc exceededEnv ⟨none, none⟩ true (gaugeRequest 1) freshIngest =
      .error ⟨.resourceExhausted, "quota exceeded", none⟩ freshIngest := rfl
  have http : exportHttp exceededEnv ⟨none, none⟩ (gaugeRequest 1) freshIngest =
      .error ⟨429, none⟩ freshIngest := rfl
  refine Coupled.not_of_error grpc http ?_ (alike exceededEnv ⟨none, none⟩ true (gaugeRequest 1) _)
  exact fun same => nomatch same

end Zradar.Otlp
