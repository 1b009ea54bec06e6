import Zradar.Otlp.IngestGuard

/-! The export handlers of both transports, for each of the three signals. -/

namespace Zradar.Otlp

open Auth Policies Retention

/-- The number of spans of a request. -/
def ExportTraceServiceRequest.spanCount (request : ExportTraceServiceRequest) : Nat :=
  (request.groups.map List.sum).sum

/-- The number of log records of a request. -/
def ExportLogsServiceRequest.rawLogCount (request : ExportLogsServiceRequest) : Nat :=
  (request.groups.map List.sum).sum

/-- Whether content is captured, which it is without settings. -/
def captureEnabled : Option WorkspaceSettings → Bool
  | some settings => settings.captureLlmContentEnabled
  | none => true

section Grpc

variable (env : IngestEnv) (headers : Headers)

/-- What the layer in front of the services hands on, which leaves open ingest to them. -/
def IngestAuth.layer (auth : IngestAuth) : EStateM RpcStatus IngestState (Option RequestContext) :=
  if auth.authenticator.isNone then pure none
  else
    match auth.authenticate headers with
    | .ok context => pure (some context)
    | .error rejection => throw rejection.intoStatus

/-- Resolve the context of a request, which the layer may have done. -/
def authenticateGrpc (resolved : Option RequestContext) :
    EStateM RpcStatus IngestState RequestContext :=
  match resolved with
  | some context => pure context
  | none =>
    match env.auth.authenticate headers with
    | .ok context => pure context
    | .error rejection => throw rejection.intoStatus

/-- The context of a request behind the layer, or without it. -/
def resolveGrpc (layered : Bool) : EStateM RpcStatus IngestState RequestContext := do
  let resolved ← if layered then env.auth.layer headers else pure none
  authenticateGrpc env headers resolved

/-- The checks of a service up to the write. -/
def admitGrpc (layered : Bool) (validated : Except ParserCapError Unit) (signal : SignalKind)
    (records : RequestContext → Nat) :
    EStateM RpcStatus IngestState (RequestContext × Option WorkspaceSettings) := do
  let context ← resolveGrpc env headers layered
  checkStatus env
  if let .error error := validated then
    throw ⟨.resourceExhausted, error.message, none⟩
  enforcePolicyIngest env context signal (records context)
  let settings ← enforceWorkspaceSettingsAndGet env context (records context)
  return (context, settings)

/-- `OtlpTraceService::export`. -/
def exportTracesGrpc (layered : Bool) (request : ExportTraceServiceRequest) :
    EStateM RpcStatus IngestState Unit := do
  let (context, settings) ← admitGrpc env headers layered (validateTraceRequest request) .traces
    fun _ => request.spanCount
  let spans := convertTraces env.rows (.new env.rows.spans fun _ => captureEnabled settings)
    context.workspaceId env.draws request
  writeRows env spans .insertSpans (writeErrorStatus "spans")

/-- `OtlpMetricsService::export`, which converts before it asks for permission. -/
def exportMetricsGrpc (layered : Bool) (request : ExportMetricsServiceRequest) :
    EStateM RpcStatus IngestState Unit := do
  let (context, _) ← admitGrpc env headers layered (validateMetricsRequest request) .metrics
    fun context => (convertMetrics env.rows context.workspaceId request).length
  let metrics := convertMetrics env.rows context.workspaceId request
  writeRows env metrics .insertMetrics (writeErrorStatus "metrics")

/-- `OtlpLogsService::export`. -/
def exportLogsGrpc (layered : Bool) (request : ExportLogsServiceRequest) :
    EStateM RpcStatus IngestState Unit := do
  let (context, _) ← admitGrpc env headers layered (validateLogsRequest request) .logs
    fun _ => request.rawLogCount
  let scores := extractScores env.rows context.workspaceId env.draws request
  writeRows env scores .insertScores (writeErrorStatus "scores")
  let logs := convertLogs env.rows context.workspaceId env.draws request
  writeRows env logs .insertLogs (writeErrorStatus "logs")

end Grpc

section Http

variable (env : IngestEnv) (headers : Headers)

/-- The context of a request, from its headers. -/
def resolveHttp : EStateM HttpResponse IngestState RequestContext :=
  match env.auth.authenticate headers with
  | .ok context => pure context
  | .error rejection => throw rejection.intoHttpResponse

/-- The checks of a handler up to the write: those on the headers, and those on the request. -/
def admitHttp (validated : Except ParserCapError Unit) (signal : SignalKind)
    (records : RequestContext → Nat) :
    EStateM HttpResponse IngestState (RequestContext × Option WorkspaceSettings) := do
  let context ← resolveHttp env headers
  (checkStatus env).adaptExcept statusToResponse
  if let .error _ := validated then
    throw ⟨413, none⟩
  (enforcePolicyIngest env context signal (records context)).adaptExcept statusToResponse
  let settings ← (enforceWorkspaceSettingsAndGet env context (records context)).adaptExcept
    statusToResponse
  return (context, settings)

/-- `export_traces`. -/
def exportTracesHttp (request : ExportTraceServiceRequest) :
    EStateM HttpResponse IngestState Unit := do
  let (context, settings) ← admitHttp env headers (validateTraceRequest request) .traces
    fun _ => request.spanCount
  let spans := convertTraces env.rows (.new env.rows.spans fun _ => captureEnabled settings)
    context.workspaceId env.draws request
  writeRows env spans .insertSpans writeErrorResponse

/-- `export_metrics`. -/
def exportMetricsHttp (request : ExportMetricsServiceRequest) :
    EStateM HttpResponse IngestState Unit := do
  let (context, _) ← admitHttp env headers (validateMetricsRequest request) .metrics
    fun context => (convertMetrics env.rows context.workspaceId request).length
  let metrics := convertMetrics env.rows context.workspaceId request
  writeRows env metrics .insertMetrics writeErrorResponse

/-- `export_logs`. -/
def exportLogsHttp (request : ExportLogsServiceRequest) :
    EStateM HttpResponse IngestState Unit := do
  let (context, _) ← admitHttp env headers (validateLogsRequest request) .logs
    fun _ => request.rawLogCount
  let scores := extractScores env.rows context.workspaceId env.draws request
  writeRows env scores .insertScores writeErrorResponse
  let logs := convertLogs env.rows context.workspaceId env.draws request
  writeRows env logs .insertLogs writeErrorResponse

end Http

/-- An export over gRPC, by its signal. -/
def exportGrpc (env : IngestEnv) (headers : Headers) (layered : Bool) :
    ExportRequest → EStateM RpcStatus IngestState Unit
  | .traces request => exportTracesGrpc env headers layered request
  | .metrics request => exportMetricsGrpc env headers layered request
  | .logs request => exportLogsGrpc env headers layered request

/-- An export over HTTP, by its signal. -/
def exportHttp (env : IngestEnv) (headers : Headers) :
    ExportRequest → EStateM HttpResponse IngestState Unit
  | .traces request => exportTracesHttp env headers request
  | .metrics request => exportMetricsHttp env headers request
  | .logs request => exportLogsHttp env headers request

end Zradar.Otlp
