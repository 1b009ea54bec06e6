import Zradar.Otlp.CircuitBreaker
import Zradar.Otlp.RowConverters
import Zradar.Policies.Types
import Zradar.Retention.Settings

/-! What an export has to pass before its rows are written, and the answers it can get. -/

namespace Zradar.Otlp

open Auth Policies Retention

/-- The codes of a gRPC status. -/
inductive Code where
  | ok
  | cancelled
  | unknown
  | invalidArgument
  | deadlineExceeded
  | notFound
  | alreadyExists
  | permissionDenied
  | resourceExhausted
  | failedPrecondition
  | aborted
  | outOfRange
  | unimplemented
  | internal
  | unavailable
  | dataLoss
  | unauthenticated
  deriving DecidableEq

/-- A gRPC status, with the delay of its `RetryInfo` if it carries one. -/
structure RpcStatus where
  code : Code
  message : String
  retryInfo : Option Duration
  deriving DecidableEq

/-- An HTTP response, with the seconds of its `Retry-After` if it has one. -/
structure HttpResponse where
  status : Nat
  retryAfter : Option Nat
  deriving DecidableEq

/-- The statuses that an exporter retries. -/
def RpcStatus.retryable (status : RpcStatus) : Bool :=
  status.code = .unavailable || (status.code = .resourceExhausted && status.retryInfo.isSome)

/-- The responses that an exporter retries. -/
def HttpResponse.retryable (response : HttpResponse) : Bool :=
  response.status = 429 || response.status = 502 || response.status = 503 || response.status = 504

/-- `UNAVAILABLE` with `RetryInfo`. -/
def unavailable (message : String) (retryAfter : Duration) : RpcStatus :=
  ⟨.unavailable, message, some retryAfter⟩

/-- Whole seconds, rounded up, at least one. -/
def retryAfterHeader (retryAfter : Duration) : Nat :=
  let seconds := retryAfter / 1000000000
  let more := if retryAfter % 1000000000 > 0 then 1 else 0
  max (min (seconds + more) (2 ^ 64 - 1)) 1

def withRetryAfter (code : Nat) (retryAfter : Duration) : HttpResponse :=
  ⟨code, some (retryAfterHeader retryAfter)⟩

/-- `503` with a `Retry-After` header. -/
def httpUnavailable (retryAfter : Duration) : HttpResponse := withRetryAfter 503 retryAfter

/-- Map a status to a response, where a `RetryInfo` becomes a header and not a code. -/
def statusToResponse (status : RpcStatus) : HttpResponse :=
  let code := match status.code with
    | .invalidArgument => 400
    | .permissionDenied => 403
    | .resourceExhausted => 429
    | .unavailable => 503
    | _ => 500
  match status.retryInfo with
  | some delay => withRetryAfter code delay
  | none => ⟨code, none⟩

/-- A failure of the writer, with the transient one that is found in its chain. -/
structure WriterError where
  message : String
  transient : Option (String × Duration)

/-- Map a failure of the writer to a status. -/
def writeErrorStatus (what : String) (error : WriterError) : RpcStatus :=
  match error.transient with
  | some (reason, retryAfter) =>
    unavailable ("Failed to insert " ++ what ++ ": " ++ reason) retryAfter
  | none => ⟨.internal, "Failed to insert " ++ what ++ ": " ++ error.message, none⟩

/-- Map a failure of the writer to a response. -/
def writeErrorResponse (error : WriterError) : HttpResponse :=
  match error.transient with
  | some (_, retryAfter) => httpUnavailable retryAfter
  | none => ⟨500, none⟩

/-- The headers of an export, where a value that is no text is nothing. -/
structure Headers where
  authorization : Option (Option String)
  xWorkspaceId : Option String

/-- What an authenticator answers about a key, and how long it takes. -/
structure Verification where
  took : Duration
  /-- A failure can be that the key could not be verified, and for how long. -/
  result : Except (Option Duration) RequestContext

/-- Why a request was not authenticated. -/
inductive AuthRejection where
  | unauthenticated (message : String)
  | unavailable (retryAfter : Duration)

def AuthRejection.intoStatus : AuthRejection → RpcStatus
  | .unauthenticated message => ⟨.unauthenticated, message, none⟩
  | .unavailable retryAfter =>
    Otlp.unavailable "API key verification temporarily unavailable" retryAfter

def AuthRejection.intoHttpResponse : AuthRejection → HttpResponse
  | .unauthenticated _ => ⟨401, none⟩
  | .unavailable retryAfter => httpUnavailable retryAfter

/-- The verification of API keys that both transports share. -/
structure IngestAuth where
  authenticator : Option (String → Headers → Verification)
  allowTestHeaderContext : Bool
  timeout : Option Duration
  parseUuid : String → Option Uuid

/-- The token of an authorization header. -/
def bearerToken (headers : Headers) : Except AuthRejection String :=
  match headers.authorization with
  | none => .error (.unauthenticated "Missing authorization header")
  | some none => .error (.unauthenticated "Invalid authorization header")
  | some (some text) =>
    if startsWith text "Bearer " then .ok (.ofList (text.toList.drop 7))
    else .error (.unauthenticated "Expected: Bearer <api-key>")

/-- Authenticate a request from its headers. -/
def IngestAuth.authenticate (auth : IngestAuth) (headers : Headers) :
    Except AuthRejection RequestContext := do
  let some authenticator := auth.authenticator | return ⟨Uuid.nil⟩
  let token ← bearerToken headers
  let verification := authenticator token headers
  -- A limit of zero is none.
  if let some limit := auth.timeout then
    if limit ≠ 0 ∧ verification.took > limit then throw (.unavailable (.fromSecs 5))
  match verification.result with
  | .error (some retryAfter) => throw (.unavailable retryAfter)
  | .error none => throw (.unauthenticated "Invalid API key")
  | .ok context =>
    match headers.xWorkspaceId.bind auth.parseUuid with
    | some workspaceId =>
      return if auth.allowTestHeaderContext then { context with workspaceId } else context
    | none => return context

/-- The operations on doubles that the rate limiter uses. -/
structure DoubleOps where
  ofNat : Nat → F64
  /-- A duration in seconds. -/
  asSecs : Duration → F64
  add : F64 → F64 → F64
  sub : F64 → F64 → F64
  mul : F64 → F64 → F64
  min : F64 → F64 → F64
  lt : F64 → F64 → Bool

structure TokenBucket where
  tokens : F64
  /-- An instant, in nanoseconds. -/
  lastRefill : Nat

/-- A bucket for each workspace that had a limit. -/
structure ProjectRateLimiter where
  buckets : WorkspaceId → Option TokenBucket

/-- Take the tokens of a request, if there are as many. -/
def ProjectRateLimiter.checkAndRecord (limiter : ProjectRateLimiter) (ops : DoubleOps) (now : Nat)
    (workspaceId : WorkspaceId) (limitPerSecond records : Nat) : Bool × ProjectRateLimiter :=
  if limitPerSecond = 0 then (false, limiter)
  else
    let capacity := ops.ofNat (min (limitPerSecond * 2) (2 ^ 64 - 1))
    let requested := ops.ofNat records
    let bucket := (limiter.buckets workspaceId).getD ⟨capacity, now⟩
    let refill := ops.mul (ops.asSecs (now - bucket.lastRefill)) (ops.ofNat limitPerSecond)
    let tokens := ops.min (ops.add bucket.tokens refill) capacity
    let enough := !ops.lt tokens requested
    let left := if enough then ops.sub tokens requested else tokens
    (enough, ⟨fun other => if other = workspaceId then some ⟨left, now⟩ else limiter.buckets other⟩)

/-- A call of the telemetry writer. -/
inductive WriterCall where
  | insertSpans (spans : List Span)
  | insertMetrics (metrics : List Metric)
  | insertScores (scores : List EvaluationScore)
  | insertLogs (logs : List LogRecord)

/-- What an export changes: the rate limiter, and the calls of the writer so far. -/
structure IngestState where
  limiter : ProjectRateLimiter
  calls : List WriterCall

/-- What both transports are built with, and what holds while a request is handled. -/
structure IngestEnv where
  rows : RowEnv
  draws : Draws
  auth : IngestAuth
  circuitBreaker : Option CircuitBreaker
  policyEnforcer : Option (IngestCtx → Decision)
  settingsRepo : Option (WorkspaceId → Except String (Option WorkspaceSettings))
  hasRateLimiter : Bool
  ops : DoubleOps
  /-- The instant at which the rate limiter is asked. -/
  now : Nat
  nowMicros : Int64
  /-- The answer to a call, by the calls before it. -/
  writer : List WriterCall → WriterCall → Except WriterError Unit

/-- `RESOURCE_EXHAUSTED` with `RetryInfo`. -/
def retryableResourceExhausted (message : String) (retryAfter : Duration) : RpcStatus :=
  ⟨.resourceExhausted, message, some retryAfter⟩

/-- The status of a request over the rate limit, which is retryable if it can ever fit. -/
def rateLimitedStatus (limitPerSecond records : Nat) : RpcStatus :=
  let message := "Project ingestion rate limit exceeded"
  if limitPerSecond > 0 ∧ records ≤ min (limitPerSecond * 2) (2 ^ 64 - 1) then
    retryableResourceExhausted message (.fromSecs 1)
  else ⟨.resourceExhausted, message, none⟩

section

variable (env : IngestEnv)

/-- The breaker as a status. -/
def checkStatus : EStateM RpcStatus IngestState Unit := do
  if let some breaker := env.circuitBreaker then
    if let .error trip := breaker.evaluate then
      throw (unavailable ("Ingestion backpressure: " ++ trip.reason) trip.retryAfter)

/-- The status of a decision, if it is none to go on. -/
def decisionStatus : Decision → Option RpcStatus
  | .allow => none
  | .allowWithGrace _ => none
  | .throttle retryAfterMs reason =>
    some (retryableResourceExhausted reason (.fromMillis retryAfterMs.toNat))
  | .block reason code =>
    match code with
    | .projectBlocked => some ⟨.permissionDenied, reason, none⟩
    | .rateLimitExceeded | .quotaExceeded | .sizeExceeded => some ⟨.resourceExhausted, reason, none⟩
    | .retentionViolation | .queryWindowViolation => some ⟨.invalidArgument, reason, none⟩

/-- What the policy enforcer is asked. -/
def ingestCtx (context : RequestContext) (signal : SignalKind) (records : Nat) : IngestCtx where
  workspaceId := context.workspaceId
  signal := signal
  records := UInt64.ofNat records
  estimatedBytes := none
  nowMicros := env.nowMicros

/-- Ask the policy enforcer, if there is one. -/
def enforcePolicyIngest (context : RequestContext) (signal : SignalKind) (records : Nat) :
    EStateM RpcStatus IngestState Unit := do
  if let some enforcer := env.policyEnforcer then
    if let some status := decisionStatus (enforcer (ingestCtx env context signal records)) then
      throw status

/-- Take the tokens of a request, or refuse it. -/
def takeTokens (workspaceId : WorkspaceId) (limit records : Nat) :
    EStateM RpcStatus IngestState Unit := fun state =>
  let answer := state.limiter.checkAndRecord env.ops env.now workspaceId limit records
  let next := { state with limiter := answer.2 }
  if answer.1 then .ok () next else .error (rateLimitedStatus limit records) next

/-- Load the settings of a workspace and take its tokens. -/
def enforceWorkspaceSettingsAndGet (context : RequestContext) (records : Nat) :
    EStateM RpcStatus IngestState (Option WorkspaceSettings) := do
  let some repository := env.settingsRepo | return none
  match repository context.workspaceId with
  | .error message => throw ⟨.internal, "Failed to load project settings: " ++ message, none⟩
  | .ok none => return none
  | .ok (some settings) =>
    if settings.blocked then
      throw ⟨.permissionDenied, "Project is blocked for ingestion", none⟩
    let some limit := settings.maxIngestionRate | return some settings
    if limit < 0 then
      throw ⟨.invalidArgument, "Invalid max_ingestion_rate", none⟩
    if !env.hasRateLimiter then
      return some settings
    takeTokens env context.workspaceId limit.toInt.toNat records
    return some settings

/-- Call the writer, and map its failure. -/
def callWriter {ε : Type} (call : WriterCall) (failed : WriterError → ε) :
    EStateM ε IngestState Unit := fun state =>
  let next := { state with calls := state.calls ++ [call] }
  match env.writer state.calls call with
  | .ok () => .ok () next
  | .error error => .error (failed error) next

/-- Write rows, if there are any. -/
def writeRows {ε β : Type} (rows : List β) (call : List β → WriterCall) (failed : WriterError → ε) :
    EStateM ε IngestState Unit :=
  if rows.isEmpty then pure () else callWriter env (call rows) failed

end

end Zradar.Otlp
