import Zradar.Auth.Context
import Zradar.Lib.Fallible
import Zradar.Lib.Run
import Zradar.Lib.SharedTable
import Zradar.Policies.PolicyTable

/-! The administration of policies over both transports, and what it keeps apart. -/

namespace Zradar.Policies

open Auth

/-- Why a call over gRPC fails. -/
inductive PolicyStatus where
  | rejected (status : GrpcStatus)
  | invalidArgument (message : String)
  | internal (message : String)
  deriving DecidableEq

/-- How the limits of policies are written as JSON and read. -/
structure LimitJson where
  toText : PolicyLimit → String
  fromText : String → Except String PolicyLimit

/-- A policy as the body of an HTTP request asks for it. -/
structure PolicyConfig where
  signal : SignalKind
  operation : Operation
  limit : PolicyLimit
  gracePct : Option UInt8
  hardBlockPct : Option UInt8
  effectiveFrom : Option Int64
  effectiveUntil : Option Int64
  source : Option PolicySource

def defaultGracePct : UInt8 := 101

def defaultHardBlockPct : UInt8 := 103

/-- The policy that is asked for over HTTP. -/
def PolicyConfig.policy (config : PolicyConfig) (workspaceId : WorkspaceId) (now : Int64) :
    Policy where
  id := none
  workspaceId := workspaceId
  signal := config.signal
  operation := config.operation
  limit := config.limit
  gracePct := config.gracePct.getD defaultGracePct
  hardBlockPct := config.hardBlockPct.getD defaultHardBlockPct
  effectiveFrom := config.effectiveFrom.getD now
  effectiveUntil := config.effectiveUntil
  source := config.source.getD .api

namespace Proto

/-- A policy as a message asks for it. -/
structure PolicyConfig where
  signal : String
  operation : String
  limitJson : String
  gracePct : Option UInt32
  hardBlockPct : Option UInt32
  effectiveFrom : Option Int64
  effectiveUntil : Option Int64
  source : Option String

/-- A policy as a message shows it. -/
structure Policy where
  id : Option Int64
  workspaceId : String
  signal : String
  operation : String
  limitJson : String
  gracePct : UInt32
  hardBlockPct : UInt32
  effectiveFrom : Int64
  effectiveUntil : Option Int64
  source : String
  deriving DecidableEq

/-- A resolved policy as a message shows it. -/
structure ResolvedPolicy where
  blocked : Bool
  rateJson : Option String
  quotasJson : List String
  sizeJson : Option String
  retentionJson : Option String
  queryWindowJson : Option String
  gracePct : UInt32
  hardBlockPct : UInt32
  deriving DecidableEq

def parseSignalKind (text : String) : Except PolicyStatus SignalKind :=
  match text with
  | "traces" => .ok .traces
  | "logs" => .ok .logs
  | "metrics" => .ok .metrics
  | "rum" => .ok .rum
  | "session_replay" => .ok .sessionReplay
  | "error_tracking" => .ok .errorTracking
  | "all" => .ok .all
  | _ => .error (.invalidArgument ("invalid signal: " ++ text))

def parseOperation (text : String) : Except PolicyStatus Operation :=
  match text with
  | "ingest" => .ok .ingest
  | "query" => .ok .query
  | "store" => .ok .store
  | "all" => .ok .all
  | _ => .error (.invalidArgument ("invalid operation: " ++ text))

def parsePolicySource (text : String) : Except PolicyStatus PolicySource :=
  match text with
  | "api" => .ok .api
  | "file" => .ok .file
  | "env" => .ok .env
  | "crd" => .ok .crd
  | "default" => .ok .default
  | _ => .error (.invalidArgument ("invalid source: " ++ text))

/-- A limit as a message has it. -/
def parsePolicyLimit (json : LimitJson) (text : String) : Except PolicyStatus PolicyLimit :=
  (json.fromText text).mapError fun error => .invalidArgument ("invalid limit_json: " ++ error)

end Proto

section

variable (json : LimitJson)

/-- A percentage as a message has it, which is cut to a byte. -/
def messagePct (value : Option UInt32) (default : UInt32) : UInt8 :=
  (min (value.getD default) 255).toUInt8

/-- The policy that is asked for over gRPC, at the first error in the order of the fields. -/
def policyConfigToPolicy (workspaceId : WorkspaceId) (config : Proto.PolicyConfig) (now : Int64) :
    Except PolicyStatus Policy := do
  let signal ← Proto.parseSignalKind config.signal
  let operation ← Proto.parseOperation config.operation
  let limit ← Proto.parsePolicyLimit json config.limitJson
  let source ← config.source.mapM Proto.parsePolicySource
  return {
    id := none
    workspaceId, signal, operation, limit
    gracePct := messagePct config.gracePct 101
    hardBlockPct := messagePct config.hardBlockPct 103
    effectiveFrom := config.effectiveFrom.getD now
    effectiveUntil := config.effectiveUntil
    source := source.getD .api }

def policyToProto (policy : Policy) : Proto.Policy where
  id := policy.id
  workspaceId := policy.workspaceId.toText
  signal := signalKind policy.signal
  operation := operation policy.operation
  limitJson := json.toText policy.limit
  gracePct := policy.gracePct.toUInt32
  hardBlockPct := policy.hardBlockPct.toUInt32
  effectiveFrom := policy.effectiveFrom
  effectiveUntil := policy.effectiveUntil
  source := policySource policy.source

def resolvedPolicyToProto (resolved : ResolvedPolicy) : Proto.ResolvedPolicy where
  blocked := resolved.blocked
  rateJson := resolved.rate.map json.toText
  quotasJson := resolved.quotas.map json.toText
  sizeJson := resolved.size.map json.toText
  retentionJson := resolved.retention.map json.toText
  queryWindowJson := resolved.queryWindow.map json.toText
  gracePct := resolved.gracePct.toUInt32
  hardBlockPct := resolved.hardBlockPct.toUInt32

end

/-- What an administrator asks for, over HTTP or over gRPC. -/
inductive AdminRequest where
  | upsertHttp (auth : HttpAuthContext) (workspaceId : Option Uuid) (policies : List PolicyConfig)
    (now : Int64)
  | listHttp (auth : HttpAuthContext) (workspaceId : Option Uuid)
  | effectiveHttp (auth : HttpAuthContext) (workspaceId : Uuid)
  | deleteHttp (auth : HttpAuthContext) (id : Int64) (workspaceId : Option Uuid)
  /-- Every policy is read at a time of its own. -/
  | upsertGrpc (resolution : Except (List Cause) AuthResolution)
    (policies : List (Proto.PolicyConfig × Int64))
  | listGrpc (resolution : Except (List Cause) AuthResolution)
  | effectiveGrpc (resolution : Except (List Cause) AuthResolution)

/-- What has to be done with the store for a workspace. -/
inductive AdminTask where
  | upsertMany (policies : List Policy)
  | list
  | effective
  | delete (id : Int64)
  deriving DecidableEq

/-- What is answered, over HTTP or over gRPC. -/
inductive AdminAnswer where
  | noContent
  | notFound
  | policies (policies : List Policy)
  | effective (resolved : List ResolvedPolicy)
  | forbidden (error : ControlError)
  | failure (status : Nat) (error : String)
  | upserted
  | listed (policies : List Proto.Policy)
  | resolved (resolved : List Proto.ResolvedPolicy)
  | refused (status : PolicyStatus)
  deriving DecidableEq

section

variable (json : LimitJson)

/-- Check the caller of an HTTP request, and find the workspace that it is for. -/
def planHttp (auth : HttpAuthContext) (workspace : Except ControlError Uuid)
    (task : WorkspaceId → AdminTask) : Except AdminAnswer (WorkspaceId × AdminTask) :=
  let plan : Except ControlError (WorkspaceId × AdminTask) := do
    auth.require .admin
    let workspaceId ← workspace
    return (workspaceId, task workspaceId)
  plan.mapError .forbidden

/-- Check the caller of a gRPC request, which is for the workspace of the caller. -/
def planGrpc (resolution : Except (List Cause) AuthResolution)
    (task : WorkspaceId → Except PolicyStatus AdminTask) :
    Except AdminAnswer (WorkspaceId × AdminTask) :=
  match authorizeRequest resolution .admin () with
  | .error status => .error (.refused (.rejected status))
  | .ok ((), auth) =>
    match task auth.requestContext.workspaceId with
    | .error status => .error (.refused status)
    | .ok task => .ok (auth.requestContext.workspaceId, task)

/-- What a request comes to before the store is asked for anything. -/
def AdminRequest.plan : AdminRequest → Except AdminAnswer (WorkspaceId × AdminTask)
  | .upsertHttp auth workspaceId policies now =>
    planHttp auth (auth.workspaceOrRejectPlatformOverride workspaceId) fun workspace =>
      .upsertMany (policies.map fun config => config.policy workspace now)
  | .listHttp auth workspaceId =>
    planHttp auth (auth.workspaceOrStandaloneOverride workspaceId) fun _ => .list
  | .effectiveHttp auth workspaceId =>
    planHttp auth (do auth.enforcePathWorkspace workspaceId; auth.workspaceUuid) fun _ => .effective
  | .deleteHttp auth id workspaceId =>
    planHttp auth (auth.workspaceOrStandaloneOverride workspaceId) fun _ => .delete id
  | .upsertGrpc resolution policies =>
    planGrpc resolution fun workspace => do
      let policies ← policies.mapM fun (config, now) =>
        policyConfigToPolicy json workspace config now
      return .upsertMany policies
  | .listGrpc resolution => planGrpc resolution fun _ => return .list
  | .effectiveGrpc resolution => planGrpc resolution fun _ => return .effective

/-- A request came over HTTP. -/
def AdminRequest.isHttp : AdminRequest → Bool
  | .upsertHttp _ _ _ _ | .listHttp _ _ | .effectiveHttp _ _ | .deleteHttp _ _ _ => true
  | .upsertGrpc _ _ | .listGrpc _ | .effectiveGrpc _ => false

namespace AdminRequest

/-- The answer to a write that succeeded. -/
def written (request : AdminRequest) : AdminAnswer :=
  if request.isHttp then .noContent else .upserted

/-- The answer to a list of policies. -/
def shown (request : AdminRequest) (policies : List Policy) : AdminAnswer :=
  if request.isHttp then .policies policies else .listed (policies.map (policyToProto json))

/-- The answer to what the policies come to. -/
def resolved (request : AdminRequest) (resolved : List ResolvedPolicy) : AdminAnswer :=
  if request.isHttp then .effective resolved
  else .resolved (resolved.map (resolvedPolicyToProto json))

/-- The answer where the store fails. -/
def failed (request : AdminRequest) (error : String) : AdminAnswer :=
  match request with
  | .upsertHttp _ _ _ _ => .failure 400 error
  | .listHttp _ _ | .effectiveHttp _ _ | .deleteHttp _ _ _ => .failure 500 error
  | .upsertGrpc _ _ => .refused (.invalidArgument error)
  | .listGrpc _ | .effectiveGrpc _ => .refused (.internal error)

end AdminRequest

end

/-- Where a request stands between two of its steps. -/
inductive AdminStage where
  | begun (workspace : WorkspaceId) (task : AdminTask)
  /-- A policy that was found among those of the workspace is about to be deleted. -/
  | deleting (workspace : WorkspaceId) (id : Int64)
  | resolving (workspace : WorkspaceId) (soFar : List ResolvedPolicy)
  | refreshing
  | loaded (rows : List PolicyRow)
  | answered (answer : AdminAnswer)
  deriving DecidableEq

/-- A request under way, or a refresh that the server makes by itself. -/
structure AdminCall where
  request : Option AdminRequest
  stage : AdminStage

/-- A change of the table. -/
inductive PolicyEffect where
  | upsert (policy : Policy) (id now : Int64)
  | delete (workspace : WorkspaceId) (id : Int64)

/-- The workspace that a change is made for. -/
def PolicyEffect.workspace : PolicyEffect → WorkspaceId
  | .upsert policy _ _ => policy.workspaceId
  | .delete workspace _ => workspace

/-- Some rows behind a change. -/
def applyEffect (rows : List PolicyRow) : PolicyEffect → List PolicyRow
  | .upsert policy id now =>
    let row := insertedPolicy policy id now
    if ∀ other ∈ rows, ¬ row.Conflicts other then rows ++ [row] else PolicyTable.updated row rows
  | .delete _ id => rows.filter fun row => row.id ≠ id

/-- The table that all workspaces share. -/
def policyRows : SharedTable PolicyRow WorkspaceId PolicyEffect where
  owner := PolicyRow.workspaceId
  target := PolicyEffect.workspace
  apply := applyEffect

/-- The table with the numbers that it gave out, the cache over it, and the requests so far. -/
structure AdminState where
  table : PolicyTable
  issued : List Int64
  cache : PolicyCache
  calls : List AdminCall
  /-- What was committed, the oldest first. -/
  effects : List PolicyEffect

/-- A server that is started over a table. -/
def startAdmin (table : PolicyTable) : AdminState where
  table := table
  issued := table.rows.map PolicyRow.id
  cache := ⟨[]⟩
  calls := []
  effects := []

namespace AdminState

variable (state : AdminState)

/-- The requests that were made so far. -/
def requests : List AdminRequest := state.calls.filterMap AdminCall.request

def addCall (call : AdminCall) : AdminState := { state with calls := state.calls ++ [call] }

/-- The state with one call moved on. -/
def setStage (position : Nat) (stage : AdminStage) : AdminState :=
  { state with calls := state.calls.modify position fun call => { call with stage } }

/-- What a call commits, and the table behind it. -/
def commit (ids : List Int64) (now : Int64) : AdminStage → Option (PolicyTable × List PolicyEffect)
  | .begun _ (.upsertMany policies) =>
    -- A sequence gives out no number twice.
    if ids.length = policies.length ∧ (state.issued ++ ids).Nodup then
      (state.table.upsertMany (policies.zip ids) now).map fun table =>
        (table, (policies.zip ids).map fun entry => .upsert entry.1 entry.2 now)
    else none
  | .deleting workspace id =>
    if ids = [] then some (state.table.delete id, [.delete workspace id]) else none
  | _ => none

/-- The state behind a commit. -/
def committed (ids : List Int64) (table : PolicyTable) (effects : List PolicyEffect) : AdminState :=
  { state with table, issued := state.issued ++ ids, effects := state.effects ++ effects }

/-- The rows of a workspace in the order in which they are listed. -/
def Lists (workspace : WorkspaceId) (rows : List PolicyRow) : Prop :=
  rows.Perm (policyRows.rowsOf workspace state.table.rows) ∧
    rows.Pairwise fun row later => later.updatedAt ≤ row.updatedAt

instance (workspace : WorkspaceId) (rows : List PolicyRow) :
    Decidable (state.Lists workspace rows) :=
  inferInstanceAs (Decidable (_ ∧ _))

end AdminState

/-- The steps of the requests, each under the position of its call. -/
inductive AdminLabel where
  | request (request : AdminRequest)
  | refresh
  | write (position : Nat) (ids : List Int64) (now : Int64)
  /-- A write that is applied, although the store gives an error. -/
  | lose (position : Nat) (ids : List Int64) (now : Int64) (error : String)
  | list (position : Nat) (rows : List PolicyRow)
  | load (position : Nat) (now : Int64) (rows : List PolicyRow)
  | replace (position : Nat)
  | resolve (position : Nat)
  | fail (position : Nat) (error : String)

section

variable (json : LimitJson)

/-- What the rows of a workspace come to for a request that asked for them. -/
def listed (request : AdminRequest) (task : AdminTask) (workspace : WorkspaceId)
    (rows : List PolicyRow) : Option AdminStage :=
  match task, rows.mapM rowToPolicy with
  | .list, .ok policies => some (.answered (request.shown json policies))
  | .delete id, .ok policies =>
    if policies.any fun policy => policy.id = some id then some (.deleting workspace id)
    else some (.answered .notFound)
  | .list, .error (.invalid message) | .delete _, .error (.invalid message) =>
    some (.answered (request.failed ("invalid policy: " ++ message)))
  | _, _ => none

/-- The operations whose policies are resolved for an answer, in their order. -/
def resolvedOperations : List Operation := [.ingest, .query, .store]

/-- One step, if the call stands where it can take it. -/
def adminStep (state : AdminState) : AdminLabel → Option AdminState
  | .request request =>
    match request.plan json with
    | .error answer => some (state.addCall ⟨some request, .answered answer⟩)
    -- Without policies there is neither a write nor a refresh.
    | .ok (_, .upsertMany []) => some (state.addCall ⟨some request, .answered request.written⟩)
    | .ok (workspace, .effective) => some (state.addCall ⟨some request, .resolving workspace []⟩)
    | .ok (workspace, task) => some (state.addCall ⟨some request, .begun workspace task⟩)
  | .refresh => some (state.addCall ⟨none, .refreshing⟩)
  | .write position ids now =>
    match state.calls[position]?.bind fun call => state.commit ids now call.stage with
    | some (table, effects) =>
      some ((state.committed ids table effects).setStage position .refreshing)
    | none => none
  | .lose position ids now error =>
    match state.calls[position]? with
    | some ⟨some request, stage⟩ =>
      match state.commit ids now stage with
      | some (table, effects) =>
        some ((state.committed ids table effects).setStage position
          (.answered (request.failed ("policy store unavailable: " ++ error))))
      | none => none
    | _ => none
  | .list position rows =>
    match state.calls[position]? with
    | some ⟨some request, .begun workspace task⟩ =>
      if state.Lists workspace rows then
        (listed json request task workspace rows).map (state.setStage position)
      else none
    | _ => none
  | .load position now rows =>
    match state.calls[position]? with
    | some ⟨_, .refreshing⟩ =>
      if state.table.Selects now rows then some (state.setStage position (.loaded rows)) else none
    | _ => none
  | .replace position =>
    match state.calls[position]? with
    | some ⟨request, .loaded rows⟩ =>
      some ({ state with cache := rowsToCache rows }.setStage position
        (.answered (request.elim .noContent AdminRequest.written)))
    | _ => none
  | .resolve position =>
    match state.calls[position]? with
    | some ⟨some request, .resolving workspace soFar⟩ =>
      match resolvedOperations[soFar.length]? with
      | some operation =>
        let soFar := soFar ++ [resolveCachedPolicy state.cache workspace .all operation]
        if soFar.length = resolvedOperations.length then
          some (state.setStage position (.answered (request.resolved json soFar)))
        else some (state.setStage position (.resolving workspace soFar))
      | none => none
    | _ => none
  | .fail position error =>
    match state.calls[position]? with
    | some ⟨request, .begun _ _⟩ | some ⟨request, .deleting _ _⟩ | some ⟨request, .refreshing⟩ =>
      some (state.setStage position (.answered (request.elim .noContent fun request =>
        request.failed ("policy store unavailable: " ++ error))))
    | _ => none

end

/-- A caller may administer a workspace: it has no capabilities, or it is an admin of its own. -/
def MayServe (capabilities : List Capability) (own workspace : WorkspaceId) : Prop :=
  capabilities = [] ∨ Capability.admin ∈ capabilities ∧ workspace = own

/-- The caller of a request may administer a workspace. -/
def AdminRequest.Serves (workspace : WorkspaceId) : AdminRequest → Prop
  | .upsertHttp auth _ _ _ | .listHttp auth _ | .effectiveHttp auth _ | .deleteHttp auth _ _ =>
    MayServe auth.capabilities auth.ctx.workspaceId workspace
  | .upsertGrpc resolution _ | .listGrpc resolution | .effectiveGrpc resolution =>
    ∃ resolved, resolution = .ok resolved ∧
      MayServe (knownCapabilities resolved.capabilityKeys) resolved.context.workspaceId workspace

/-- A task writes a change. -/
def AdminTask.Writes (workspace : WorkspaceId) : AdminTask → PolicyEffect → Prop
  | .upsertMany policies, .upsert policy _ _ => policy ∈ policies ∧ policy.workspaceId = workspace
  | .delete id, .delete other number => other = workspace ∧ number = id
  | _, _ => False

section

variable (json : LimitJson)

/-- A request comes to a task for a workspace that its caller may administer. -/
def AdminRequest.Orders (request : AdminRequest) (workspace : WorkspaceId) (task : AdminTask) :
    Prop :=
  request.plan json = .ok (workspace, task) ∧ request.Serves workspace

end

section

variable (start : List PolicyRow) (effects : List PolicyEffect)

/-- The rows that a workspace has made for itself. -/
abbrev bookOf (workspace : WorkspaceId) : List PolicyRow := policyRows.book workspace start effects

/-- A row was in the book of its workspace at some time. -/
def WasIn (row : PolicyRow) : Prop :=
  ∃ earlier, earlier <+: effects ∧ row ∈ bookOf start earlier row.workspaceId

/-- Policies were read of the book of a workspace at some time. -/
def WasListed (workspace : WorkspaceId) (policies : List Policy) : Prop :=
  ∃ earlier, earlier <+: effects ∧
    ∃ rows : List PolicyRow, rows.Perm (bookOf start earlier workspace) ∧
      rows.mapM rowToPolicy = .ok policies

/-- A number was not in the book of a workspace at some time. -/
def WasMissing (workspace : WorkspaceId) (id : Int64) : Prop :=
  ∃ earlier, earlier <+: effects ∧ ∀ row ∈ bookOf start earlier workspace, row.id ≠ id

/-- A cache whose policies all were in the book of a workspace at some time. -/
def OwnCache (workspace : WorkspaceId) (cache : PolicyCache) : Prop :=
  ∀ policy ∈ cache.policies, policy.workspaceId = workspace ∧
    ∃ row, rowToPolicy row = .ok policy ∧ row.workspaceId = workspace ∧ WasIn start effects row

/-- Policies were resolved of what was in the book of a workspace, operation by operation. -/
def WereResolved (workspace : WorkspaceId) (resolved : List ResolvedPolicy) : Prop :=
  resolved.length ≤ resolvedOperations.length ∧
    List.Forall₂ (fun operation resolved => ∃ cache, OwnCache start effects workspace cache ∧
      resolved = resolveCachedPolicy cache workspace .all operation)
      (resolvedOperations.take resolved.length) resolved

/-- What a task wrote was committed as a whole. -/
def Committed (workspace : WorkspaceId) : AdminTask → Prop
  | .upsertMany policies => policies = [] ∨ ∃ ids now, ids.length = policies.length ∧
      (policies.zip ids).map (fun entry => PolicyEffect.upsert entry.1 entry.2 now) <:+: effects
  | .delete id => .delete workspace id ∈ effects
  | _ => False

end

section

variable (json : LimitJson) (start : List PolicyRow) (effects : List PolicyEffect)

/--
What an answer says is so: what is said to be written is committed, and what is shown is of the
workspace that the request came to.
-/
def Told (request : AdminRequest) : AdminAnswer → Prop
  | .noContent | .upserted =>
    ∃ workspace task, request.Orders json workspace task ∧ Committed effects workspace task
  | .notFound =>
    ∃ workspace id, request.Orders json workspace (.delete id) ∧
      WasMissing start effects workspace id
  | .policies policies =>
    ∃ workspace, request.Orders json workspace .list ∧ WasListed start effects workspace policies
  | .listed shown =>
    ∃ workspace policies, request.Orders json workspace .list ∧
      WasListed start effects workspace policies ∧ shown = policies.map (policyToProto json)
  | .effective resolved =>
    ∃ workspace, request.Orders json workspace .effective ∧
      WereResolved start effects workspace resolved
  | .resolved shown =>
    ∃ workspace resolved, request.Orders json workspace .effective ∧
      WereResolved start effects workspace resolved ∧
      shown = resolved.map (resolvedPolicyToProto json)
  | .forbidden _ | .failure _ _ | .refused _ => True

/-- What a call between two steps may rely on. -/
def AdminCall.Holds (issued : List Int64) (rows : List PolicyRow) (call : AdminCall) : Prop :=
  match call.stage with
  | .begun workspace task =>
    ∃ request, call.request = some request ∧ request.Orders json workspace task
  | .deleting workspace id =>
    (∃ request, call.request = some request ∧ request.Orders json workspace (.delete id)) ∧
      id ∈ issued ∧ ∀ row ∈ rows, row.id = id → row.workspaceId = workspace
  | .resolving workspace soFar =>
    (∃ request, call.request = some request ∧ request.Orders json workspace .effective) ∧
      WereResolved start effects workspace soFar
  | .refreshing => ∀ request ∈ call.request, Told json start effects request request.written
  | .loaded loaded =>
    (∀ request ∈ call.request, Told json start effects request request.written) ∧
      ∀ row ∈ loaded, WasIn start effects row
  | .answered answer => ∀ request ∈ call.request, Told json start effects request answer

end

/-- The invariant: the table is in step with the books, and nothing else is relied on. -/
structure Administered (json : LimitJson) (start : List PolicyRow) (state : AdminState) : Prop where
  divides : policyRows.Divides start state.table.rows state.effects
  issued : ∀ row ∈ state.table.rows, row.id ∈ state.issued
  ordered : ∀ effect ∈ state.effects, ∃ request ∈ state.requests, ∃ workspace task,
    request.Orders json workspace task ∧ task.Writes workspace effect
  holds : ∀ call ∈ state.calls, call.Holds json start state.effects state.issued state.table.rows
  cached : ∀ policy ∈ state.cache.policies, ∃ row, rowToPolicy row = .ok policy ∧
    WasIn start state.effects row

section

variable {auth : HttpAuthContext} {workspace : Uuid}

theorem admin_of_require (granted : auth.require .admin = .ok ()) :
    auth.capabilities = [] ∨ Capability.admin ∈ auth.capabilities := by
  unfold HttpAuthContext.require at granted
  split at granted
  · exact .inl (List.isEmpty_iff.mp ‹_›)
  · split at granted
    · exact .inr ‹_›
    · cases granted

theorem own_of_rejectOverride {requested : Option Uuid}
    (found : auth.workspaceOrRejectPlatformOverride requested = .ok workspace) :
    auth.capabilities = [] ∨ workspace = auth.ctx.workspaceId := by
  by_cases none : auth.capabilities = []
  · exact .inl none
  · refine .inr ?_
    have some : auth.capabilities.isEmpty = false := by simpa using none
    simp only [HttpAuthContext.workspaceOrRejectPlatformOverride, HttpAuthContext.workspaceUuid,
      some, Bind.bind, Except.bind, Bool.false_eq_true, if_false] at found
    split at found
    · split at found
      · cases found
      · cases found
        rfl
    · cases found
      rfl

theorem own_of_standaloneOverride {requested : Option Uuid}
    (found : auth.workspaceOrStandaloneOverride requested = .ok workspace) :
    auth.capabilities = [] ∨ workspace = auth.ctx.workspaceId := by
  by_cases none : auth.capabilities = []
  · exact .inl none
  · refine .inr ?_
    have some : auth.capabilities.isEmpty = false := by simpa using none
    simp only [HttpAuthContext.workspaceOrStandaloneOverride, HttpAuthContext.workspaceUuid, some,
      Bind.bind, Except.bind, Bool.false_eq_true, if_false] at found
    cases found
    rfl

theorem own_of_path {path : Uuid}
    (found : (do auth.enforcePathWorkspace path; auth.workspaceUuid) = .ok workspace) :
    workspace = auth.ctx.workspaceId := by
  simp only [Bind.bind, Except.bind] at found
  split at found
  · cases found
  · cases found
    rfl

/-- A request over HTTP comes to a task only for a caller who may have it done. -/
theorem planHttp_ok {found : Except ControlError Uuid} {make : WorkspaceId → AdminTask}
    {task : AdminTask} (planned : planHttp auth found make = .ok (workspace, task))
    (own : found = .ok workspace → auth.capabilities = [] ∨ workspace = auth.ctx.workspaceId) :
    task = make workspace ∧ MayServe auth.capabilities auth.ctx.workspaceId workspace := by
  obtain ⟨value, granted, rest⟩ := Fallible.bind_eq_ok.mp (Fallible.mapError_eq_ok.mp planned)
  obtain ⟨found, served, same⟩ := Fallible.bind_eq_ok.mp rest
  cases same
  refine ⟨rfl, ?_⟩
  rcases admin_of_require granted with none | admin
  · exact .inl none
  · exact (own served).imp_right fun same => ⟨admin, same⟩

/-- A request over gRPC comes to a task only for a caller who may have it done. -/
theorem planGrpc_ok {resolution : Except (List Cause) AuthResolution}
    {make : WorkspaceId → Except PolicyStatus AdminTask} {task : AdminTask}
    (planned : planGrpc resolution make = .ok (workspace, task)) :
    make workspace = .ok task ∧ ∃ resolved, resolution = .ok resolved ∧
      MayServe (knownCapabilities resolved.capabilityKeys) resolved.context.workspaceId
        workspace := by
  -- The handler asks for nothing before the caller is known to be an admin.
  unfold planGrpc authorizeRequest at planned
  cases resolution with
  | error error => cases planned
  | ok resolved =>
    cases granted : (authContextFromResolution resolved).require .admin with
    | error error =>
      simp only [granted] at planned
      cases planned
    | ok value =>
      simp only [granted] at planned
      cases made : make (authContextFromResolution resolved).requestContext.workspaceId with
      | error error =>
        rw [made] at planned
        cases planned
      | ok made' =>
        rw [made] at planned
        cases planned
        refine ⟨made, resolved, rfl, ?_⟩
        unfold GrpcAuthContext.require at granted
        split at granted
        · rename_i allowed
          rcases allowed with none | admin
          · exact .inl (List.isEmpty_iff.mp none)
          · exact .inr ⟨admin, rfl⟩
        · cases granted

end

theorem policyConfigToPolicy_workspace {json : LimitJson} {workspace : WorkspaceId}
    {config : Proto.PolicyConfig} {now : Int64} {policy : Policy}
    (read : policyConfigToPolicy json workspace config now = .ok policy) :
    policy.workspaceId = workspace := by
  -- Four fields are read in their turn, and the workspace is none of them.
  obtain ⟨signal, _, read⟩ := Fallible.bind_eq_ok.mp read
  obtain ⟨operation, _, read⟩ := Fallible.bind_eq_ok.mp read
  obtain ⟨limit, _, read⟩ := Fallible.bind_eq_ok.mp read
  obtain ⟨source, _, read⟩ := Fallible.bind_eq_ok.mp read
  cases read
  rfl

/-- What a request comes to is for a workspace of its caller, and its policies are too. -/
theorem AdminRequest.plan_ok {json : LimitJson} {request : AdminRequest} {workspace : WorkspaceId}
    {task : AdminTask} (planned : request.plan json = .ok (workspace, task)) :
    request.Orders json workspace task ∧
      ∀ policies, task = .upsertMany policies → ∀ policy ∈ policies,
        policy.workspaceId = workspace := by
  -- Each handler checks its caller first, and names the workspace of the caller afterwards.
  refine ⟨⟨planned, ?_⟩, ?_⟩
  · cases request with
    | upsertHttp auth requested policies now =>
      exact (planHttp_ok planned own_of_rejectOverride).2
    | listHttp auth requested => exact (planHttp_ok planned own_of_standaloneOverride).2
    | effectiveHttp auth path => exact (planHttp_ok planned fun found => .inr (own_of_path found)).2
    | deleteHttp auth id requested => exact (planHttp_ok planned own_of_standaloneOverride).2
    | upsertGrpc resolution policies =>
      rw [plan] at planned
      exact (planGrpc_ok planned).2
    | listGrpc resolution =>
      rw [plan] at planned
      exact (planGrpc_ok planned).2
    | effectiveGrpc resolution =>
      rw [plan] at planned
      exact (planGrpc_ok planned).2
  · rintro policies rfl policy member
    cases request with
    | upsertHttp auth requested configs now =>
      have made := (planHttp_ok planned own_of_rejectOverride).1
      cases made
      obtain ⟨config, _, rfl⟩ := List.mem_map.mp member
      rfl
    | listHttp auth requested => cases (planHttp_ok planned own_of_standaloneOverride).1
    | effectiveHttp auth path =>
      cases (planHttp_ok planned fun found => .inr (own_of_path found)).1
    | deleteHttp auth id requested => cases (planHttp_ok planned own_of_standaloneOverride).1
    | upsertGrpc resolution configs =>
      rw [plan] at planned
      obtain ⟨read, all, same⟩ := Fallible.bind_eq_ok.mp (planGrpc_ok planned).1
      cases same
      obtain ⟨config, _, made⟩ := (Fallible.mem_of_mapM all).1 policy member
      exact policyConfigToPolicy_workspace made
    | listGrpc resolution =>
      rw [plan] at planned
      cases (planGrpc_ok planned).1
    | effectiveGrpc resolution =>
      rw [plan] at planned
      cases (planGrpc_ok planned).1

/-- An update leaves every row with its workspace. -/
theorem rowsOf_updated (own : WorkspaceId) (row : PolicyRow) (rows : List PolicyRow) :
    policyRows.rowsOf own (PolicyTable.updated row rows) =
      PolicyTable.updated row (policyRows.rowsOf own rows) := by
  simp only [SharedTable.rowsOf, PolicyTable.updated, List.filter_map]
  congr 1
  refine List.filter_congr fun other _ => ?_
  refine decide_eq_decide.mpr ?_
  by_cases conflicts : row.Conflicts other
  · simp only [if_pos conflicts, policyRows, conflicts.2.2.1]
  · simp only [if_neg conflicts]

/-- Where nothing is in conflict, nothing is updated. -/
theorem updated_of_free {row : PolicyRow} {rows : List PolicyRow}
    (free : ∀ other ∈ rows, ¬ row.Conflicts other) : PolicyTable.updated row rows = rows := by
  refine (List.map_congr_left fun other member => ?_).trans (List.map_id rows)
  rw [if_neg (free other member)]
  rfl

/-- A policy is upserted among the rows of its own workspace. -/
theorem upsert_confined (rows : List PolicyRow) (policy : Policy) (id now : Int64) :
    policyRows.Confined rows (.upsert policy id now) := by
  intro own
  let row := insertedPolicy policy id now
  have owner : ∀ other, row.Conflicts other → other.workspaceId = policy.workspaceId :=
    fun other conflicts => conflicts.2.2.1.symm
  have applied (rows : List PolicyRow) : policyRows.apply rows (.upsert policy id now) =
      if ∀ other ∈ rows, ¬ row.Conflicts other then rows ++ [row]
      else PolicyTable.updated row rows := rfl
  have target : policyRows.target (.upsert policy id now) = policy.workspaceId := rfl
  rw [applied, applied, target]
  have appended : policyRows.rowsOf own (rows ++ [row]) =
      policyRows.rowsOf own rows ++ if policy.workspaceId = own then [row] else [] := by
    rw [SharedTable.rowsOf, List.filter_append, List.filter_singleton]
    by_cases meant : policy.workspaceId = own
    · simp [SharedTable.rowsOf, policyRows, row, insertedPolicy, meant]
    · simp [SharedTable.rowsOf, policyRows, row, insertedPolicy, meant]
  by_cases meant : policy.workspaceId = own
  · -- A row in conflict is one of the workspace, so the workspace finds the same ones.
    have same : (∀ other ∈ rows, ¬ row.Conflicts other) ↔
        ∀ other ∈ policyRows.rowsOf own rows, ¬ row.Conflicts other := by
      constructor
      · exact fun free other member => free other (SharedTable.mem_rowsOf.mp member).1
      · intro free other member conflicts
        refine free other (SharedTable.mem_rowsOf.mpr ⟨member, ?_⟩) conflicts
        exact (owner other conflicts).trans meant
    rw [if_pos meant] at appended ⊢
    by_cases free : ∀ other ∈ rows, ¬ row.Conflicts other
    · rw [if_pos free, if_pos (same.mp free), appended]
    · rw [if_neg free, if_neg fun other => free (same.mpr other), rowsOf_updated]
  · rw [if_neg meant, List.append_nil] at appended
    rw [if_neg meant]
    split
    · exact appended
    · -- No row of another workspace is in conflict.
      rw [rowsOf_updated, updated_of_free]
      intro other member conflicts
      exact meant ((owner other conflicts).symm.trans (SharedTable.mem_rowsOf.mp member).2)

/-- A number is deleted among the rows of the workspace that has it. -/
theorem delete_confined {rows : List PolicyRow} {workspace : WorkspaceId} {id : Int64}
    (owned : ∀ row ∈ rows, row.id = id → row.workspaceId = workspace) :
    policyRows.Confined rows (.delete workspace id) := by
  intro own
  have applied (rows : List PolicyRow) : policyRows.apply rows (.delete workspace id) =
      rows.filter fun row => row.id ≠ id := rfl
  have target : policyRows.target (.delete workspace id) = workspace := rfl
  rw [applied, applied, target]
  simp only [SharedTable.rowsOf, List.filter_filter]
  by_cases meant : workspace = own
  · rw [if_pos meant]
    exact List.filter_congr fun row _ => Bool.and_comm _ _
  · rw [if_neg meant]
    refine List.filter_congr fun row member => ?_
    by_cases numbered : row.id = id
    · have mine : policyRows.owner row = workspace := owned row member numbered
      simp [numbered, mine, meant]
    · simp [numbered]

/-- What a table keeps while numbers are given out: no row of before changes its workspace. -/
def KeepsOwners (ids : List Int64) (rows next : List PolicyRow) : Prop :=
  ∀ row ∈ next, row.id ∈ ids ∨
    ∃ other ∈ rows, other.id = row.id ∧ other.workspaceId = row.workspaceId

/-- An upsert in a table is the effect of one. -/
theorem rows_of_upsert {table next : PolicyTable} {policy : Policy} {id now : Int64}
    (written : table.upsert policy id now = some next) :
    next.rows = applyEffect table.rows (.upsert policy id now) ∧
      KeepsOwners [id] table.rows next.rows := by
  -- The window passes its check, and then the row is a new one or one that is updated.
  simp only [PolicyTable.upsert] at written
  split at written
  case isFalse => cases written
  split at written
  case isTrue free =>
    split at written
    case isFalse => cases written
    cases written
    refine ⟨(if_pos free).symm, ?_⟩
    intro row member
    rcases List.mem_append.mp member with old | new
    · exact .inr ⟨row, old, rfl, rfl⟩
    · rw [List.mem_singleton.mp new]
      exact .inl List.mem_cons_self
  case isFalse taken =>
    cases written
    refine ⟨(if_neg taken).symm, ?_⟩
    intro row member
    obtain ⟨other, old, rfl⟩ := List.mem_map.mp member
    refine .inr ⟨other, old, ?_⟩
    by_cases conflicts : (insertedPolicy policy id now).Conflicts other
    · rw [if_pos conflicts]
      exact ⟨rfl, conflicts.2.2.1.symm⟩
    · rw [if_neg conflicts]
      exact ⟨rfl, rfl⟩

/-- The upserts of a transaction are the effects of its policies, one behind the other. -/
theorem rows_of_upsertMany {start : List PolicyRow} {entries : List (Policy × Int64)} {now : Int64}
    {table next : PolicyTable} {effects : List PolicyEffect}
    (divides : policyRows.Divides start table.rows effects)
    (written : table.upsertMany entries now = some next) :
    policyRows.Divides start next.rows
        (effects ++ entries.map fun entry => .upsert entry.1 entry.2 now) ∧
      KeepsOwners (entries.map Prod.snd) table.rows next.rows := by
  -- Each statement finds the rows that the ones before it left.
  induction entries generalizing table effects with
  | nil =>
    cases written
    rw [List.map_nil, List.append_nil]
    exact ⟨divides, fun row member => .inr ⟨row, member, rfl, rfl⟩⟩
  | cons entry entries ih =>
    obtain ⟨policy, id⟩ := entry
    obtain ⟨middle, first, rest⟩ := Option.bind_eq_some_iff.mp written
    obtain ⟨rows, keeps⟩ := rows_of_upsert first
    have further : policyRows.Divides start middle.rows (effects ++ [.upsert policy id now]) := by
      rw [rows]
      exact divides.apply (upsert_confined table.rows policy id now)
    obtain ⟨divides, later⟩ := ih further rest
    rw [List.append_assoc] at divides
    refine ⟨divides, fun row member => ?_⟩
    rcases later row member with given | ⟨other, between, numbered, owned⟩
    · exact .inl (List.mem_cons_of_mem _ given)
    · rcases keeps other between with here | ⟨before, old, same, mine⟩
      · rw [← numbered, List.mem_singleton.mp here]
        exact .inl List.mem_cons_self
      · exact .inr ⟨before, old, same.trans numbered, mine.trans owned⟩

section

variable {json : LimitJson} {start : List PolicyRow} {effects more : List PolicyEffect}

theorem WasIn.append {row : PolicyRow} (was : WasIn start effects row) :
    WasIn start (effects ++ more) row := by
  obtain ⟨earlier, before, member⟩ := was
  exact ⟨earlier, before.trans (List.prefix_append _ _), member⟩

theorem WereResolved.append {workspace : WorkspaceId} {resolved : List ResolvedPolicy}
    (were : WereResolved start effects workspace resolved) :
    WereResolved start (effects ++ more) workspace resolved := by
  refine ⟨were.1, were.2.imp ?_⟩
  rintro operation resolved ⟨cache, own, rfl⟩
  refine ⟨cache, fun policy member => ?_, rfl⟩
  obtain ⟨mine, row, read, owned, was⟩ := own policy member
  exact ⟨mine, row, read, owned, was.append⟩

theorem Committed.append {workspace : WorkspaceId} {task : AdminTask}
    (committed : Committed effects workspace task) :
    Committed (effects ++ more) workspace task := by
  cases task with
  | upsertMany policies =>
    refine committed.imp_right ?_
    rintro ⟨ids, now, sized, inside⟩
    exact ⟨ids, now, sized, inside.trans (List.prefix_append _ _).isInfix⟩
  | list => exact committed.elim
  | effective => exact committed.elim
  | delete id => exact List.mem_append_left _ committed

/-- What was said stays so. -/
theorem Told.append {request : AdminRequest} {answer : AdminAnswer}
    (told : Told json start effects request answer) :
    Told json start (effects ++ more) request answer := by
  -- What was committed or seen at an earlier time still was.
  have longer := List.prefix_append effects more
  cases answer with
  | noContent =>
    obtain ⟨workspace, task, orders, committed⟩ := told
    exact ⟨workspace, task, orders, committed.append⟩
  | upserted =>
    obtain ⟨workspace, task, orders, committed⟩ := told
    exact ⟨workspace, task, orders, committed.append⟩
  | notFound =>
    obtain ⟨workspace, id, orders, earlier, before, missing⟩ := told
    exact ⟨workspace, id, orders, earlier, before.trans longer, missing⟩
  | policies policies =>
    obtain ⟨workspace, orders, earlier, before, rows⟩ := told
    exact ⟨workspace, orders, earlier, before.trans longer, rows⟩
  | listed shown =>
    obtain ⟨workspace, policies, orders, ⟨earlier, before, rows⟩, shows⟩ := told
    exact ⟨workspace, policies, orders, ⟨earlier, before.trans longer, rows⟩, shows⟩
  | effective resolved =>
    obtain ⟨workspace, orders, were⟩ := told
    exact ⟨workspace, orders, were.append⟩
  | resolved shown =>
    obtain ⟨workspace, resolved, orders, were, shows⟩ := told
    exact ⟨workspace, resolved, orders, were.append, shows⟩
  | forbidden error => trivial
  | failure status error => trivial
  | refused status => trivial

/-- What a call relies on outlives what the other calls write. -/
theorem AdminCall.Holds.append {issued ids : List Int64} {rows next : List PolicyRow}
    {call : AdminCall} (holds : call.Holds json start effects issued rows)
    (keeps : KeepsOwners ids rows next) (fresh : ∀ id ∈ ids, id ∉ issued) :
    call.Holds json start (effects ++ more) (issued ++ ids) next := by
  obtain ⟨request, stage⟩ := call
  cases stage with
  | begun workspace task => exact holds
  | deleting workspace id =>
    obtain ⟨orders, given, owned⟩ := holds
    refine ⟨orders, List.mem_append_left _ given, fun row member numbered => ?_⟩
    -- A number that was given out before is not that of a new row.
    rcases keeps row member with new | ⟨other, old, same, mine⟩
    · exact absurd given (numbered ▸ fresh row.id new)
    · exact mine.symm.trans (owned other old (same.trans numbered))
  | resolving workspace soFar => exact ⟨holds.1, holds.2.append⟩
  | refreshing => exact fun request member => (holds request member).append
  | loaded loaded =>
    exact ⟨fun request member => (holds.1 request member).append,
      fun row member => (holds.2 row member).append⟩
  | answered answer => exact fun request member => (holds request member).append

end

section

variable {json : LimitJson} {start : List PolicyRow} {state : AdminState}

/-- A call that moves on is the only one that does. -/
theorem mem_setStage {position : Nat} {stage : AdminStage} {call : AdminCall}
    (member : call ∈ (state.setStage position stage).calls) :
    call ∈ state.calls ∨ ∃ before, state.calls[position]? = some before ∧
      call = { before with stage } := by
  obtain ⟨place, found⟩ := List.mem_iff_getElem?.mp member
  rw [AdminState.setStage, List.getElem?_modify] at found
  obtain ⟨before, there, moved⟩ := Option.map_eq_some_iff.mp found
  by_cases here : position = place
  · rw [if_pos here] at moved
    exact .inr ⟨before, here ▸ there, moved.symm⟩
  · rw [if_neg here] at moved
    exact .inl (List.mem_iff_getElem?.mpr ⟨place, moved ▸ there⟩)

theorem requests_setStage (position : Nat) (stage : AdminStage) :
    (state.setStage position stage).requests = state.requests := by
  have same : (state.setStage position stage).calls.map AdminCall.request =
      state.calls.map AdminCall.request := by
    refine List.ext_getElem? fun place => ?_
    rw [AdminState.setStage, List.getElem?_map, List.getElem?_map, List.getElem?_modify]
    cases state.calls[place]? with
    | none => rfl
    | some call =>
      by_cases here : position = place
      · simp [here]
      · simp [here]
  have requests (calls : List AdminCall) : calls.filterMap AdminCall.request =
      (calls.map AdminCall.request).filterMap id := by
    rw [List.filterMap_map]
    rfl
  rw [AdminState.requests, AdminState.requests, requests, requests, same]

theorem administered_start (json : LimitJson) (table : PolicyTable) :
    Administered json table.rows (startAdmin table) where
  divides := SharedTable.divides_start _
  issued := fun _ member => List.mem_map_of_mem member
  ordered := by simp [startAdmin]
  holds := by simp [startAdmin]
  cached := by simp [startAdmin]

theorem Administered.addCall (kept : Administered json start state) {call : AdminCall}
    (holds : call.Holds json start state.effects state.issued state.table.rows) :
    Administered json start (state.addCall call) := by
  refine { kept with ordered := ?_, holds := ?_ }
  · intro effect member
    obtain ⟨request, made, orders⟩ := kept.ordered effect member
    refine ⟨request, ?_, orders⟩
    rw [AdminState.requests, AdminState.addCall, List.filterMap_append]
    exact List.mem_append_left _ made
  · intro other member
    rcases List.mem_append.mp member with old | new
    · exact kept.holds other old
    · rw [List.mem_singleton.mp new]
      exact holds

theorem Administered.setStage (kept : Administered json start state) {position : Nat}
    {stage : AdminStage} {call : AdminCall} (found : state.calls[position]? = some call)
    (holds : AdminCall.Holds json start state.effects state.issued state.table.rows
      { call with stage }) :
    Administered json start (state.setStage position stage) := by
  refine { kept with ordered := ?_, holds := ?_ }
  · rw [requests_setStage]
    exact kept.ordered
  · intro other member
    rcases mem_setStage member with old | ⟨before, there, rfl⟩
    · exact kept.holds other old
    · rw [found] at there
      cases there
      exact holds

/-- The call of a commit is that of a request, and it commits all that the request came to. -/
theorem AdminState.commit_eq {ids : List Int64} {now : Int64} {call : AdminCall}
    {table : PolicyTable} {effects : List PolicyEffect}
    (kept : Administered json start state)
    (holds : call.Holds json start state.effects state.issued state.table.rows)
    (commits : state.commit ids now call.stage = some (table, effects)) :
    ∃ request workspace task, call.request = some request ∧ request.Orders json workspace task ∧
      (∀ effect ∈ effects, task.Writes workspace effect) ∧
      Committed (state.effects ++ effects) workspace task ∧
      policyRows.Divides start table.rows (state.effects ++ effects) ∧
      (∀ id ∈ ids, id ∉ state.issued) ∧ KeepsOwners ids state.table.rows table.rows := by
  -- Only an upsert that has begun and a deletion that was checked have something to commit.
  obtain ⟨request, stage⟩ := call
  simp only [AdminState.commit] at commits
  split at commits
  · rename_i workspace policies
    split at commits
    case isFalse => cases commits
    rename_i given
    obtain ⟨sized, once⟩ := given
    have fresh : ∀ id ∈ ids, id ∉ state.issued := fun id new old =>
      (List.nodup_append.mp once).2.2 id old id new rfl
    obtain ⟨request, rfl, orders⟩ := holds
    obtain ⟨next, written, same⟩ := Option.map_eq_some_iff.mp commits
    cases same
    have own := (AdminRequest.plan_ok orders.1).2 policies rfl
    obtain ⟨divides, keeps⟩ := rows_of_upsertMany kept.divides written
    rw [List.map_snd_zip sized.le] at keeps
    refine ⟨request, workspace, _, rfl, orders, ?_, ?_, divides, fresh, keeps⟩
    · intro effect member
      obtain ⟨entry, among, rfl⟩ := List.mem_map.mp member
      have listed := (List.of_mem_zip among).1
      exact ⟨listed, own _ listed⟩
    · exact .inr ⟨ids, now, sized, (List.suffix_append _ _).isInfix⟩
  · rename_i workspace id
    split at commits
    case isFalse => cases commits
    rename_i none
    subst none
    cases commits
    obtain ⟨⟨request, rfl, orders⟩, _, owned⟩ := holds
    refine ⟨request, workspace, _, rfl, orders, ?_, ?_, ?_, ?_, ?_⟩
    · intro effect member
      rw [List.mem_singleton.mp member]
      exact ⟨rfl, rfl⟩
    · exact List.mem_append_right _ List.mem_cons_self
    · exact kept.divides.apply (delete_confined owned)
    · simp
    · exact fun row member => .inr ⟨row, (List.mem_filter.mp member).1, rfl, rfl⟩
  · cases commits

/-- What a call commits keeps the table in step with the books. -/
theorem Administered.committed (kept : Administered json start state) {ids : List Int64}
    {now : Int64} {call : AdminCall} {table : PolicyTable} {effects : List PolicyEffect}
    (member : call ∈ state.calls)
    (commits : state.commit ids now call.stage = some (table, effects)) :
    Administered json start (state.committed ids table effects) ∧
      ∃ request workspace task, call.request = some request ∧
        request.Orders json workspace task ∧
        Committed (state.effects ++ effects) workspace task := by
  obtain ⟨request, workspace, task, made, orders, writes, whole, divides, fresh, keeps⟩ :=
    AdminState.commit_eq kept (kept.holds call member) commits
  refine ⟨⟨divides, ?_, ?_, ?_, ?_⟩, request, workspace, task, made, orders, whole⟩
  · intro row inside
    rcases keeps row inside with new | ⟨other, old, same, _⟩
    · exact List.mem_append_right _ new
    · exact List.mem_append_left _ (same ▸ kept.issued other old)
  · intro effect inside
    rcases List.mem_append.mp inside with old | new
    · exact kept.ordered effect old
    · exact ⟨request, List.mem_filterMap.mpr ⟨call, member, made⟩, workspace, task, orders,
        writes effect new⟩
  · exact fun other inside => (kept.holds other inside).append keeps fresh
  · intro policy inside
    obtain ⟨row, read, was⟩ := kept.cached policy inside
    exact ⟨row, read, was.append⟩

/-- A row of the table is in the book of its workspace now. -/
theorem Administered.wasIn (kept : Administered json start state) {row : PolicyRow}
    (member : row ∈ state.table.rows) : WasIn start state.effects row :=
  ⟨state.effects, List.prefix_rfl, kept.divides.mem_book member⟩

theorem rowToPolicy_workspace {row : PolicyRow} {policy : Policy}
    (read : rowToPolicy row = .ok policy) : policy.workspaceId = row.workspaceId := by
  obtain ⟨signal, _, read⟩ := Fallible.bind_eq_ok.mp read
  obtain ⟨operation, _, read⟩ := Fallible.bind_eq_ok.mp read
  obtain ⟨limit, _, read⟩ := Fallible.bind_eq_ok.mp read
  obtain ⟨gracePct, _, read⟩ := Fallible.bind_eq_ok.mp read
  obtain ⟨hardBlockPct, _, read⟩ := Fallible.bind_eq_ok.mp read
  obtain ⟨source, _, read⟩ := Fallible.bind_eq_ok.mp read
  cases read
  rfl

section

variable {effects : List PolicyEffect} {request : AdminRequest} {workspace : WorkspaceId}

theorem told_written {task : AdminTask} (orders : request.Orders json workspace task)
    (committed : Committed effects workspace task) :
    Told json start effects request request.written := by
  unfold AdminRequest.written
  split
  · exact ⟨workspace, task, orders, committed⟩
  · exact ⟨workspace, task, orders, committed⟩

theorem told_shown {policies : List Policy} (orders : request.Orders json workspace .list)
    (was : WasListed start effects workspace policies) :
    Told json start effects request (request.shown json policies) := by
  unfold AdminRequest.shown
  split
  · exact ⟨workspace, orders, was⟩
  · exact ⟨workspace, policies, orders, was, rfl⟩

theorem told_resolved {resolved : List ResolvedPolicy}
    (orders : request.Orders json workspace .effective)
    (were : WereResolved start effects workspace resolved) :
    Told json start effects request (request.resolved json resolved) := by
  unfold AdminRequest.resolved
  split
  · exact ⟨workspace, orders, were⟩
  · exact ⟨workspace, resolved, orders, were, rfl⟩

theorem told_failed (error : String) : Told json start effects request (request.failed error) := by
  cases request <;> trivial

end

/-- What a request is told of the rows of its workspace is so. -/
theorem Administered.listed (kept : Administered json start state) {request : AdminRequest}
    {workspace : WorkspaceId} {task : AdminTask} {rows : List PolicyRow} {stage : AdminStage}
    (orders : request.Orders json workspace task) (lists : state.Lists workspace rows)
    (told : listed json request task workspace rows = some stage) :
    AdminCall.Holds json start state.effects state.issued state.table.rows
      ⟨some request, stage⟩ := by
  have own : rows.Perm (bookOf start state.effects workspace) := by
    rw [bookOf, ← kept.divides workspace]
    exact lists.1
  unfold Policies.listed at told
  split at told
  · rename_i policies read
    cases told
    rintro _ ⟨⟩
    exact told_shown orders ⟨state.effects, List.prefix_rfl, rows, own, read⟩
  · rename_i id policies read
    obtain ⟨back, forth⟩ := Fallible.mem_of_mapM read
    split at told
    · rename_i found
      cases told
      -- The policy that was found is that of a row, and no other row has its number.
      obtain ⟨policy, among, numbered⟩ := List.any_eq_true.mp found
      obtain ⟨row, inside, parsed⟩ := back policy among
      have mine := SharedTable.mem_rowsOf.mp (lists.1.mem_iff.mp inside)
      have same : row.id = id := by
        have known := (rowToPolicy_columns parsed).1
        rw [of_decide_eq_true numbered] at known
        exact (Option.some.inj known).symm
      refine ⟨⟨request, rfl, orders⟩, same ▸ kept.issued row mine.1, ?_⟩
      intro other member equal
      have one := List.inj_on_of_nodup_map state.table.ids member mine.1 (equal.trans same.symm)
      rw [one]
      exact mine.2
    · rename_i missing
      cases told
      rintro _ ⟨⟩
      refine ⟨workspace, id, orders, state.effects, List.prefix_rfl, fun row inside equal => ?_⟩
      obtain ⟨policy, among, parsed⟩ := forth row (own.mem_iff.mpr inside)
      refine missing (List.any_eq_true.mpr ⟨policy, among, decide_eq_true ?_⟩)
      rw [(rowToPolicy_columns parsed).1, equal]
  · cases told
    rintro _ ⟨⟩
    exact told_failed _
  · cases told
    rintro _ ⟨⟩
    exact told_failed _
  · cases told

/-- A resolution looks up the policies of its workspace only. -/
theorem resolveCachedPolicy_own (cache : PolicyCache) (workspace : WorkspaceId)
    (signal : SignalKind) (operation : Operation) :
    resolveCachedPolicy cache workspace signal operation =
      resolveCachedPolicy ⟨cache.policies.filter fun policy => policy.workspaceId = workspace⟩
        workspace signal operation := by
  have found (kind : LimitKind) (scope : SignalKind × Operation) :
      cache.get ⟨workspace, scope.1, scope.2, kind⟩ =
        PolicyCache.get ⟨cache.policies.filter fun policy => policy.workspaceId = workspace⟩
          ⟨workspace, scope.1, scope.2, kind⟩ := by
    rw [PolicyCache.get, PolicyCache.get, List.find?_filter]
    congr 1
    funext policy
    by_cases keyed : policyKey policy = ⟨workspace, scope.1, scope.2, kind⟩
    · have own : policy.workspaceId = workspace := congrArg PolicyCacheKey.workspaceId keyed
      simp [keyed, own]
    · simp [keyed]
  simp only [resolveCachedPolicy, applyCachedPolicy, found]

/-- One more operation is resolved of what was in the book. -/
theorem Administered.resolve (kept : Administered json start state) {workspace : WorkspaceId}
    {soFar : List ResolvedPolicy} {operation : Operation}
    (were : WereResolved start state.effects workspace soFar)
    (next : resolvedOperations[soFar.length]? = some operation) :
    WereResolved start state.effects workspace
      (soFar ++ [resolveCachedPolicy state.cache workspace .all operation]) := by
  obtain ⟨inside, is⟩ := List.getElem?_eq_some_iff.mp next
  have sized : (soFar ++ [resolveCachedPolicy state.cache workspace .all operation]).length =
      soFar.length + 1 := List.length_append
  refine ⟨by omega, ?_⟩
  rw [sized, List.take_add_one, next]
  refine List.rel_append were.2 (.cons ⟨_, ?_, resolveCachedPolicy_own _ _ _ _⟩ .nil)
  intro policy member
  have among := List.mem_filter.mp member
  have mine : policy.workspaceId = workspace := of_decide_eq_true among.2
  obtain ⟨row, read, was⟩ := kept.cached policy among.1
  exact ⟨mine, row, read, (rowToPolicy_workspace read).symm.trans mine, was⟩

/-- A request that comes to nothing is refused. -/
theorem told_of_plan_error {request : AdminRequest} {answer : AdminAnswer}
    {effects : List PolicyEffect} (planned : request.plan json = .error answer) :
    Told json start effects request answer := by
  -- Every error is one of the guards of its transport.
  have http {auth : HttpAuthContext} {found : Except ControlError Uuid}
      {make : WorkspaceId → AdminTask} (planned : planHttp auth found make = .error answer) :
      ∃ error, answer = .forbidden error := by
    simp only [planHttp, Except.mapError] at planned
    split at planned
    · cases planned
      exact ⟨_, rfl⟩
    · cases planned
  have grpc {resolution : Except (List Cause) AuthResolution}
      {make : WorkspaceId → Except PolicyStatus AdminTask}
      (planned : planGrpc resolution make = .error answer) :
      ∃ status, answer = .refused status := by
    unfold planGrpc at planned
    split at planned
    · cases planned
      exact ⟨_, rfl⟩
    · split at planned
      · cases planned
        exact ⟨_, rfl⟩
      · cases planned
  have refused : (∃ error, answer = .forbidden error) ∨ ∃ status, answer = .refused status := by
    cases request with
    | upsertHttp auth requested policies now => exact .inl (http planned)
    | listHttp auth requested => exact .inl (http planned)
    | effectiveHttp auth path => exact .inl (http planned)
    | deleteHttp auth id requested => exact .inl (http planned)
    | upsertGrpc resolution policies =>
      rw [AdminRequest.plan] at planned
      exact .inr (grpc planned)
    | listGrpc resolution =>
      rw [AdminRequest.plan] at planned
      exact .inr (grpc planned)
    | effectiveGrpc resolution =>
      rw [AdminRequest.plan] at planned
      exact .inr (grpc planned)
  rcases refused with ⟨error, rfl⟩ | ⟨status, rfl⟩
  · trivial
  · trivial

/-- A request begins as what it comes to. -/
theorem Administered.request (kept : Administered json start state) {request : AdminRequest}
    {next : AdminState} (stepped : adminStep json state (.request request) = some next) :
    Administered json start next := by
  -- The guards are passed or not before the store is asked for anything.
  simp only [adminStep] at stepped
  cases planned : request.plan json with
  | error answer =>
    rw [planned] at stepped
    cases stepped
    refine kept.addCall ?_
    rintro _ ⟨⟩
    exact told_of_plan_error planned
  | ok plan =>
    obtain ⟨workspace, task⟩ := plan
    have orders := (AdminRequest.plan_ok planned).1
    rw [planned] at stepped
    cases task with
    | upsertMany policies =>
      cases policies with
      | nil =>
        cases stepped
        refine kept.addCall ?_
        rintro _ ⟨⟩
        exact told_written orders (.inl rfl)
      | cons policy policies =>
        cases stepped
        exact kept.addCall ⟨request, rfl, orders⟩
    | list =>
      cases stepped
      exact kept.addCall ⟨request, rfl, orders⟩
    | effective =>
      cases stepped
      exact kept.addCall ⟨⟨request, rfl, orders⟩, Nat.zero_le _, .nil⟩
    | delete id =>
      cases stepped
      exact kept.addCall ⟨request, rfl, orders⟩

/-- Every step keeps the invariant. -/
theorem Administered.step (kept : Administered json start state) {label : AdminLabel}
    {next : AdminState} (stepped : adminStep json state label = some next) :
    Administered json start next := by
  cases label with
  | request request => exact kept.request stepped
  | refresh =>
    cases stepped
    refine kept.addCall ?_
    rintro _ ⟨⟩
  | write position ids now =>
    simp only [adminStep] at stepped
    split at stepped
    case h_2 => cases stepped
    rename_i table effects commits
    cases stepped
    obtain ⟨call, found, commits⟩ := Option.bind_eq_some_iff.mp commits
    obtain ⟨kept, request, workspace, task, made, orders, whole⟩ :=
      kept.committed (List.mem_of_getElem? found) commits
    refine kept.setStage found ?_
    intro other member
    rw [made] at member
    cases member
    exact told_written orders whole
  | lose position ids now error =>
    simp only [adminStep] at stepped
    split at stepped
    case h_2 => cases stepped
    rename_i request stage found
    split at stepped
    case h_2 => cases stepped
    rename_i table effects commits
    cases stepped
    obtain ⟨kept, -⟩ := kept.committed (List.mem_of_getElem? found) commits
    refine kept.setStage found ?_
    rintro _ ⟨⟩
    exact told_failed _
  | list position rows =>
    simp only [adminStep] at stepped
    split at stepped
    case h_2 => cases stepped
    rename_i request workspace task found
    split at stepped
    case isFalse => cases stepped
    rename_i lists
    obtain ⟨stage, told, rfl⟩ := Option.map_eq_some_iff.mp stepped
    obtain ⟨_, ⟨⟩, orders⟩ := kept.holds _ (List.mem_of_getElem? found)
    exact kept.setStage found (kept.listed orders lists told)
  | load position now rows =>
    simp only [adminStep] at stepped
    split at stepped
    case h_2 => cases stepped
    rename_i request found
    split at stepped
    case isFalse => cases stepped
    rename_i selects
    cases stepped
    refine kept.setStage found ⟨kept.holds _ (List.mem_of_getElem? found), fun row member => ?_⟩
    exact kept.wasIn (List.mem_filter.mp (selects.1.mem_iff.mp member)).1
  | replace position =>
    simp only [adminStep] at stepped
    split at stepped
    case h_2 => cases stepped
    rename_i request rows found
    cases stepped
    obtain ⟨told, were⟩ := kept.holds _ (List.mem_of_getElem? found)
    have cached : ∀ policy ∈ (rowsToCache rows).policies, ∃ row, rowToPolicy row = .ok policy ∧
        WasIn start state.effects row := by
      intro policy member
      obtain ⟨row, inside, read⟩ := List.mem_filterMap.mp member
      refine ⟨row, ?_, were row inside⟩
      cases parsed : rowToPolicy row with
      | error error =>
        rw [parsed] at read
        cases read
      | ok other =>
        rw [parsed] at read
        cases read
        rfl
    have refreshed : Administered json start { state with cache := rowsToCache rows } :=
      { kept with cached := cached }
    refine refreshed.setStage found ?_
    rintro request member
    cases member
    exact told request rfl
  | resolve position =>
    simp only [adminStep] at stepped
    split at stepped
    case h_2 => cases stepped
    rename_i request workspace soFar found
    split at stepped
    case h_2 => cases stepped
    rename_i operation next
    obtain ⟨⟨_, ⟨⟩, orders⟩, were⟩ := kept.holds _ (List.mem_of_getElem? found)
    have further := kept.resolve were next
    split at stepped
    · cases stepped
      refine kept.setStage found ?_
      rintro _ ⟨⟩
      exact told_resolved orders further
    · cases stepped
      exact kept.setStage found ⟨⟨request, rfl, orders⟩, further⟩
  | fail position error =>
    -- Whatever the step was that failed, nothing is said of the table.
    have failed {request : Option AdminRequest} {stage : AdminStage}
        (found : state.calls[position]? = some ⟨request, stage⟩)
        (same : state.setStage position (.answered (request.elim .noContent fun request =>
          request.failed ("policy store unavailable: " ++ error))) = next) :
        Administered json start next := by
      subst same
      refine kept.setStage found ?_
      rintro _ ⟨⟩
      exact told_failed _
    simp only [adminStep] at stepped
    split at stepped
    · exact failed ‹_› (Option.some.inj stepped)
    · exact failed ‹_› (Option.some.inj stepped)
    · exact failed ‹_› (Option.some.inj stepped)
    · cases stepped

end

/--
However requests and refreshes interleave, no workspace meets another.

The rows of a workspace are what the changes that were made for it make of them, every change is
what a request came to whose caller may administer that workspace, and what is answered is so.
-/
theorem policies_isolated {json : LimitJson} {table : PolicyTable} {labels : List AdminLabel}
    {final : AdminState} (reached : run (adminStep json) (startAdmin table) labels = some final) :
    (∀ workspace, policyRows.rowsOf workspace final.table.rows =
      policyRows.book workspace table.rows final.effects) ∧
    (∀ effect ∈ final.effects, ∃ request ∈ final.requests, ∃ workspace task,
      request.Orders json workspace task ∧ task.Writes workspace effect) ∧
    ∀ call ∈ final.calls, ∀ request ∈ call.request, ∀ answer, call.stage = .answered answer →
      Told json table.rows final.effects request answer := by
  have kept : Administered json table.rows final :=
    run_keeps (fun _ _ _ kept stepped => Administered.step kept stepped)
      (administered_start json table) reached
  refine ⟨kept.divides, kept.ordered, ?_⟩
  rintro ⟨request, stage⟩ member request rfl answer rfl
  exact kept.holds _ member request rfl

/-- Limits of days as they are written, which is all that is read of them. -/
def daysJson : LimitJson where
  toText
    | .retention days => "\x7b\"kind\":\"retention\",\"max_days\":" ++ days.toNat.repr ++ "\x7d"
    | _ => "\x7b\x7d"
  fromText text :=
    if text = "\x7b\"kind\":\"retention\",\"max_days\":7\x7d" then .ok (.retention 7)
    else .error "missing field kind at line 1 column 2"

/-- Another workspace than the one whose number has no digit but zero. -/
def secondWorkspace : WorkspaceId := ⟨1 :: List.replicate 15 0, by decide⟩

/-- Admins of two workspaces: each has a policy, and one asks to delete that of the other. -/
def crossedRequests : List AdminRequest :=
  [.upsertHttp ⟨⟨Uuid.nil⟩, .standalone, [.admin]⟩ none
      [⟨.logs, .store, .retention 30, none, none, none, none, none⟩] 50,
    .upsertGrpc (.ok ⟨⟨secondWorkspace⟩, ["admin"]⟩)
      [(⟨"logs", "store", "\x7b\"kind\":\"retention\",\"max_days\":7\x7d", some 300, none,
        none, none, none⟩, 60)],
    .deleteHttp ⟨⟨secondWorkspace⟩, .standalone, [.admin]⟩ 1 (some Uuid.nil),
    .deleteHttp ⟨⟨Uuid.nil⟩, .standalone, [.admin]⟩ 1 none]

/-- The row of the first workspace. -/
def firstRow : PolicyRow :=
  insertedPolicy ⟨none, Uuid.nil, .logs, .store, .retention 30, 101, 103, 50, none, .api⟩ 1 70

/-- The row of the second workspace, whose percentage is cut to a byte. -/
def secondRow : PolicyRow :=
  insertedPolicy ⟨none, secondWorkspace, .logs, .store, .retention 7, 255, 103, 60, none, .api⟩ 2 71

/-- The steps of the four requests, where the deletions come between the refreshes of the writes. -/
def crossedSteps : List AdminLabel :=
  crossedRequests.map .request ++
    [.write 0 [1] 70, .write 1 [2] 71, .load 0 80 [secondRow, firstRow], .replace 0,
      .list 2 [secondRow], .list 3 [firstRow], .load 1 81 [secondRow, firstRow], .write 3 [] 0,
      .replace 1, .load 3 82 [secondRow], .replace 3]

theorem policies_isolated_crossed :
    ∃ final,
      run (adminStep daysJson) (startAdmin ⟨[], by simp, by simp⟩) crossedSteps = some final ∧
      final.table.rows = [secondRow] ∧
      final.calls.map AdminCall.stage =
        [.answered .noContent, .answered .upserted, .answered .notFound, .answered .noContent] ∧
      policyRows.book secondWorkspace [] final.effects = [secondRow] ∧
      policyRows.book Uuid.nil [] final.effects = [] := by
  have ran : (run (adminStep daysJson) (startAdmin ⟨[], by simp, by simp⟩) crossedSteps).map
      (fun final => (final.table.rows, final.calls.map AdminCall.stage)) =
        some ([secondRow], [.answered .noContent, .answered .upserted, .answered .notFound,
          .answered .noContent]) := by
    decide +kernel
  obtain ⟨final, reached, fields⟩ := Option.map_eq_some_iff.mp ran
  obtain ⟨rows, stages⟩ := Prod.mk.inj fields
  obtain ⟨divides, -, -⟩ := policies_isolated reached
  refine ⟨final, reached, rows, stages, ?_, ?_⟩
  · refine (divides secondWorkspace).symm.trans ?_
    rw [rows]
    decide +kernel
  · refine (divides Uuid.nil).symm.trans ?_
    rw [rows]
    decide +kernel

end Zradar.Policies
