import Zradar.Wal.Record

/-! Authorization contexts of the HTTP and the gRPC transport, and the checks made on them. -/

namespace Zradar.Auth

/-- zradar-native authorization capabilities. -/
inductive Capability where
  | readTraces
  | readDashboards
  | readLogs
  | readMetrics
  | readSettings
  | writeSettings
  | admin
  deriving DecidableEq, Repr

/-- The wire key of a capability. -/
def Capability.key : Capability → String
  | .readTraces => "read_traces"
  | .readDashboards => "read_dashboards"
  | .readLogs => "read_logs"
  | .readMetrics => "read_metrics"
  | .readSettings => "read_settings"
  | .writeSettings => "write_settings"
  | .admin => "admin"

/-- The name of a capability in an error message. -/
def Capability.debugName : Capability → String
  | .readTraces => "ReadTraces"
  | .readDashboards => "ReadDashboards"
  | .readLogs => "ReadLogs"
  | .readMetrics => "ReadMetrics"
  | .readSettings => "ReadSettings"
  | .writeSettings => "WriteSettings"
  | .admin => "Admin"

/-- Convert a wire capability key into a capability, and an unknown key into nothing. -/
def Capability.fromKey (key : String) : Option Capability :=
  if key = "read_traces" then some .readTraces
  else if key = "read_dashboards" then some .readDashboards
  else if key = "read_logs" then some .readLogs
  else if key = "read_metrics" then some .readMetrics
  else if key = "read_settings" then some .readSettings
  else if key = "write_settings" then some .writeSettings
  else if key = "admin" then some .admin
  else none

/-- Workspace scope for data isolation. -/
structure RequestContext where
  workspaceId : WorkspaceId
  deriving DecidableEq

/-- The identity and the capability keys an authorizer returns. -/
structure AuthResolution where
  context : RequestContext
  capabilityKeys : List String
  deriving DecidableEq

/-- A credential check that could not be completed. -/
structure AuthUnavailable where
  reason : String
  retryAfterSecs : UInt64
  retryAfterNanos : UInt32
  deriving DecidableEq

/-- One link in the chain of causes of an error. -/
inductive Cause where
  | unavailable (transient : AuthUnavailable)
  | other (message : String)
  deriving DecidableEq

/-- The first failed credential check in the chain of an error. -/
def AuthUnavailable.find (error : List Cause) : Option AuthUnavailable :=
  error.findSome? fun cause =>
    match cause with
    | .unavailable transient => some transient
    | .other _ => none

/-- The keys that name a capability, in their order. -/
def knownCapabilities (keys : List String) : List Capability :=
  -- Keys this build does not know are dropped without a trace.
  keys.filterMap Capability.fromKey

/-- Why an HTTP handler refuses a request. -/
inductive ControlError where
  | forbidden (message : String)
  deriving DecidableEq, Repr

/-- Auth mode marker injected by the router. -/
inductive AuthMode where
  | standalone
  deriving DecidableEq, Repr

/-- The resolved context available to HTTP handlers. -/
structure HttpAuthContext where
  ctx : RequestContext
  mode : AuthMode
  capabilities : List Capability
  deriving DecidableEq

namespace HttpAuthContext

/-- Enforce a capability, unless the list of capabilities is empty. -/
def require (auth : HttpAuthContext) (capability : Capability) : Except ControlError Unit :=
  if auth.capabilities.isEmpty then .ok ()
  else if capability ∈ auth.capabilities then .ok ()
  else .error (.forbidden ("missing capability: " ++ capability.debugName))

/-- The authenticated workspace. -/
def workspaceUuid (auth : HttpAuthContext) : Except ControlError Uuid :=
  .ok auth.ctx.workspaceId

/-- Enforce that a path names the authenticated workspace. -/
def enforcePathWorkspace (auth : HttpAuthContext) (pathWorkspace : Uuid) :
    Except ControlError Unit :=
  if auth.capabilities.isEmpty then .ok ()
  else do
    let workspaceId ← auth.workspaceUuid
    if workspaceId ≠ pathWorkspace then
      .error (.forbidden "path workspace_id does not match authenticated workspace")
    else .ok ()

/-- The workspace to serve, which a caller without capabilities may choose. -/
def workspaceOrStandaloneOverride (auth : HttpAuthContext) (requestedWorkspace : Option Uuid) :
    Except ControlError Uuid := do
  let workspaceId ← auth.workspaceUuid
  if auth.capabilities.isEmpty then .ok (requestedWorkspace.getD workspaceId)
  else .ok workspaceId

/-- The workspace to serve, or a refusal when a caller with capabilities asks for another. -/
def workspaceOrRejectPlatformOverride (auth : HttpAuthContext)
    (requestedWorkspace : Option Uuid) : Except ControlError Uuid := do
  let workspaceId ← auth.workspaceUuid
  if auth.capabilities.isEmpty then .ok (requestedWorkspace.getD workspaceId)
  else
    match requestedWorkspace with
    | some requested =>
      if requested ≠ workspaceId then
        .error (.forbidden "workspace_id override not allowed when capabilities are enforced")
      else .ok workspaceId
    | none => .ok workspaceId

/-- The workspace filter of audit reads, where none means every workspace. -/
def auditScope (auth : HttpAuthContext) (requestedWorkspace : Option Uuid) :
    Except ControlError (Option Uuid) :=
  if !auth.capabilities.isEmpty then do
    let workspaceId ← auth.workspaceUuid
    .ok (some workspaceId)
  else .ok requestedWorkspace

/-- The context the extractor builds from what an authorizer returned. -/
def ofResolution (mode : AuthMode) (resolution : AuthResolution) : HttpAuthContext where
  ctx := resolution.context
  mode := mode
  capabilities := knownCapabilities resolution.capabilityKeys

end HttpAuthContext

/-- A rejected HTTP request. -/
structure HttpRejection where
  status : Nat
  retryAfter : Option UInt64
  body : String
  deriving DecidableEq, Repr

/-- The delay in whole seconds, rounded up without overflow, and at least one. -/
def AuthUnavailable.retrySeconds (transient : AuthUnavailable) : UInt64 :=
  let rounded :=
    if 0 < transient.retryAfterNanos ∧ transient.retryAfterSecs ≠ UInt64.ofNat (2 ^ 64 - 1) then
      transient.retryAfterSecs + 1
    else transient.retryAfterSecs
  max rounded 1

/-- The answer to a caller whose authorizer failed. -/
def rejectionResponse (error : List Cause) : HttpRejection :=
  match AuthUnavailable.find error with
  | some transient =>
    ⟨503, some transient.retrySeconds, "Credential verification temporarily unavailable"⟩
  | none => ⟨401, none, "Invalid credentials"⟩

/-- An authorizer over request headers of any representation. -/
abbrev Authorizer (η : Type) := η → Except (List Cause) AuthResolution

/-- Resolve the authorization of an HTTP request. -/
def fromRequestParts {η : Type} (mode : Option AuthMode) (query admin : Option (Authorizer η))
    (headers : η) : Except HttpRejection HttpAuthContext :=
  match mode with
  | none => .error ⟨401, none, "Auth mode not configured"⟩
  | some mode =>
    -- A query authorizer takes precedence over an admin authorizer.
    match query, admin with
    | some authorize, _ =>
      match authorize headers with
      | .ok resolution => .ok (.ofResolution mode resolution)
      | .error error => .error (rejectionResponse error)
    | none, some authorize =>
      match authorize headers with
      | .ok resolution => .ok (.ofResolution mode resolution)
      | .error error => .error (rejectionResponse error)
    | none, none =>
      .error ⟨401, none, "QueryAuthorizer or AdminAuthorizer not configured"⟩

/-- The authenticated caller in the service layer, as gRPC handlers get it. -/
structure GrpcAuthContext where
  requestContext : RequestContext
  capabilities : List Capability
  deriving DecidableEq

/-- Why the service layer refuses a caller. -/
inductive ServiceError where
  | forbidden (message : String)
  deriving DecidableEq, Repr

/-- Assert that the caller holds a capability, unless the list is empty. -/
def GrpcAuthContext.require (auth : GrpcAuthContext) (cap : Capability) :
    Except ServiceError Unit :=
  if auth.capabilities.isEmpty ∨ cap ∈ auth.capabilities then .ok ()
  else .error (.forbidden ("missing capability: " ++ cap.debugName))

/-- The gRPC codes of a rejected request. -/
inductive GrpcCode where
  | unavailable
  | unauthenticated
  | permissionDenied
  deriving DecidableEq, Repr

/-- A rejected gRPC request, with the retry delay in seconds and nanoseconds. -/
structure GrpcStatus where
  code : GrpcCode
  message : String
  retryInfo : Option (UInt64 × UInt32)
  deriving DecidableEq, Repr

/-- The status for a caller whose authorizer failed. -/
def rejectionStatus (error : List Cause) : GrpcStatus :=
  match AuthUnavailable.find error with
  | some transient =>
    ⟨.unavailable, "credential verification temporarily unavailable",
      some (transient.retryAfterSecs, transient.retryAfterNanos)⟩
  | none => ⟨.unauthenticated, "Invalid credentials", none⟩

/-- The status for an error of the service layer. -/
def intoStatus : ServiceError → GrpcStatus
  | .forbidden message => ⟨.permissionDenied, message, none⟩

/-- The context of a gRPC request from what an authorizer returned. -/
def authContextFromResolution (resolution : AuthResolution) : GrpcAuthContext where
  requestContext := resolution.context
  capabilities := knownCapabilities resolution.capabilityKeys

/-- Authorize a gRPC request and enforce the capability it needs. -/
def authorizeRequest {τ : Type} (resolution : Except (List Cause) AuthResolution)
    (cap : Capability) (request : τ) : Except GrpcStatus (τ × GrpcAuthContext) :=
  match resolution with
  | .error error => .error (rejectionStatus error)
  | .ok resolution =>
    let auth := authContextFromResolution resolution
    match auth.require cap with
    | .error error => .error (intoStatus error)
    | .ok () => .ok (request, auth)

end Zradar.Auth
