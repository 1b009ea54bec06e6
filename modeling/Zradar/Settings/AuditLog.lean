import Zradar.Lib.Awaiting
import Zradar.Lib.RankedPages
import Zradar.Retention.Settings
import Mathlib.Data.Prod.Lex

/-! Settings that are read and updated, the log that audits the updates, and its listing. -/

namespace Zradar.Settings

open Auth Retention Awaiting

deriving instance DecidableEq for NewAuditLog

/-- A row of the audit log. -/
structure AuditLog extends NewAuditLog where
  id : Nat
  createdAt : Int64
  deriving DecidableEq

/-- The audit log, whose rows are numbered in the order in which they are inserted. -/
structure AuditLogTable where
  rows : List AuditLog
  nextId : Nat
  below : ∀ row ∈ rows, row.id < nextId
  distinct : (rows.map AuditLog.id).Nodup

structure AuditLogFilters where
  workspaceId : Option Uuid
  action : Option String
  resourceType : Option String
  resourceId : Option String
  startCreatedAt : Option Int64
  endCreatedAt : Option Int64
  limit : Option UInt32
  offset : Option UInt32
  deriving DecidableEq

structure AuditLogPage where
  items : List AuditLog
  total : Nat
  limit : UInt32
  offset : UInt32
  deriving DecidableEq

/-- The page size that is used: a hundred, or what is asked for between one and five hundred. -/
def AuditLogFilters.pageLimit (filters : AuditLogFilters) : UInt32 :=
  max 1 (min 500 (filters.limit.getD 100))

def AuditLogFilters.pageOffset (filters : AuditLogFilters) : UInt32 := filters.offset.getD 0

/-- Whether a row meets every filter that is given. -/
def AuditLogFilters.keeps (filters : AuditLogFilters) (row : AuditLog) : Bool :=
  -- A row without a workspace meets no filter on workspaces.
  (filters.workspaceId.all fun workspaceId => row.resourceWorkspaceId = some workspaceId) &&
    (filters.action.all fun action => row.action = action) &&
    (filters.resourceType.all fun resourceType => row.resourceType = resourceType) &&
    (filters.resourceId.all fun resourceId => row.resourceId = resourceId) &&
    (filters.startCreatedAt.all fun start => start ≤ row.createdAt) &&
    (filters.endCreatedAt.all fun stop => row.createdAt ≤ stop)

/-- What the rows are ordered by: the latest first, and of these the one inserted last. -/
def AuditLog.sortKey (row : AuditLog) : ℤ ×ₗ ℕ := toLex (row.createdAt.toInt, row.id)

namespace AuditLogTable

theorem below_insert (table : AuditLogTable) (log : NewAuditLog) (now : Int64) :
    ∀ row ∈ table.rows ++ [(⟨log, table.nextId, now⟩ : AuditLog)], row.id < table.nextId + 1 := by
  intro row member
  obtain old | new := List.mem_append.mp member
  · exact Nat.lt_succ_of_lt (table.below row old)
  · rw [List.mem_singleton.mp new]
    exact Nat.lt_succ_self _

theorem distinct_insert (table : AuditLogTable) (log : NewAuditLog) (now : Int64) :
    ((table.rows ++ [(⟨log, table.nextId, now⟩ : AuditLog)]).map AuditLog.id).Nodup := by
  rw [List.map_append]
  refine table.distinct.append (List.nodup_singleton _) ?_
  intro id before single
  -- Every number that was given before is below the next one.
  obtain ⟨row, member, rfl⟩ := List.mem_map.mp before
  have lower := table.below row member
  have same : row.id = table.nextId := List.mem_singleton.mp single
  omega

/-- Insert a row at the time that the clock shows. -/
def createAuditLog (table : AuditLogTable) (log : NewAuditLog) (now : Int64) :
    AuditLogTable × AuditLog :=
  let row : AuditLog := ⟨log, table.nextId, now⟩
  ({ rows := table.rows ++ [row]
     nextId := table.nextId + 1
     below := table.below_insert log now
     distinct := table.distinct_insert log now }, row)

end AuditLogTable

/-- The rows of a page, by the first of the two queries of a listing. -/
def auditItems (filters : AuditLogFilters) (rows : List AuditLog) : List AuditLog :=
  page filters.pageLimit.toNat filters.pageOffset.toNat
    (descending AuditLog.sortKey (rows.filter filters.keeps))

/-- The number of rows on all pages, by the second query. -/
def auditTotal (filters : AuditLogFilters) (rows : List AuditLog) : Nat :=
  rows.countP filters.keeps

/-- What became of a statement, which may have taken effect although it failed. -/
inductive Stored (α : Type) where
  | done (value : α)
  | lost (message : String)
  | unacknowledged (message : String) (value : α)
  deriving DecidableEq

/-- What the program sees of a statement. -/
def Stored.result {α : Type} : Stored α → Except String α
  | .done value => .ok value
  | .lost message => .error message
  | .unacknowledged message _ => .error message

/-- What a statement has stored. -/
def Stored.value? {α : Type} : Stored α → Option α
  | .done value => some value
  | .lost _ => none
  | .unacknowledged _ value => some value

/-- What the handlers ask of the settings and of the audit log. -/
inductive AdminQuestion where
  | getSettings (workspaceId : WorkspaceId)
  | upsertSettings (settings : NewWorkspaceSettings)
  | createAuditLog (log : NewAuditLog)
  | auditItems (filters : AuditLogFilters)
  | auditTotal (filters : AuditLogFilters)

abbrev AdminQuestion.Answer : AdminQuestion → Type
  | .getSettings _ => Except String (Option WorkspaceSettings)
  | .upsertSettings _ => Stored WorkspaceSettings
  | .createAuditLog _ => Stored AuditLog
  | .auditItems _ => Except String (List AuditLog)
  | .auditTotal _ => Except String Nat

/-- A handler, with the points at which it awaits something. -/
abbrev Admin := Awaiting AdminQuestion AdminQuestion.Answer

abbrev AdminExchange := Exchange AdminQuestion.Answer

def getSettings (workspaceId : WorkspaceId) : Admin (Except String (Option WorkspaceSettings)) :=
  await (AdminQuestion.getSettings workspaceId)

def upsertSettings (settings : NewWorkspaceSettings) : Admin (Stored WorkspaceSettings) :=
  await (AdminQuestion.upsertSettings settings)

def createAuditLog (log : NewAuditLog) : Admin (Stored AuditLog) :=
  await (AdminQuestion.createAuditLog log)

/-- The page of a listing, by a query for its rows and one for their number. -/
def listAuditLogs (filters : AuditLogFilters) : Admin (Except String AuditLogPage) := do
  let items : Except String (List AuditLog) ← await (AdminQuestion.auditItems filters)
  match items with
  | .error message => return .error message
  | .ok items =>
    let total : Except String Nat ← await (AdminQuestion.auditTotal filters)
    match total with
    | .error message => return .error message
    | .ok total => return .ok ⟨items, total, filters.pageLimit, filters.pageOffset⟩

/-- What an update is audited with: the settings that have been saved. -/
def settingsMetadata (settings : WorkspaceSettings) : UpdateWorkspaceSettingsRequest where
  tracesRetentionDays := settings.tracesRetentionDays
  metricsRetentionDays := settings.metricsRetentionDays
  logsRetentionDays := settings.logsRetentionDays
  maxIngestionRate := settings.maxIngestionRate
  filePushIntervalSecs := settings.filePushIntervalSecs
  blocked := settings.blocked
  captureLlmContentEnabled := settings.captureLlmContentEnabled

/-- The audit of an update. -/
def updateLog (actor : Option Uuid) (workspaceId : WorkspaceId) (settings : WorkspaceSettings) :
    NewAuditLog where
  actorWorkspaceId := actor
  resourceWorkspaceId := some workspaceId
  action := "workspace_settings.update"
  resourceType := "workspace_settings"
  resourceId := workspaceId.toText
  metadata := settingsMetadata settings

/-- Read the settings of a workspace, and save the defaults where there are none. -/
def readSettings (workspaceId : WorkspaceId) : Admin (Except ApiError WorkspaceSettings) := do
  match ← getSettings workspaceId with
  | .error message => return .error (.internal message)
  | .ok (some settings) => return .ok settings
  | .ok none =>
    let saved ← upsertSettings (.defaultsFor workspaceId)
    return saved.result.mapError .internal

/-- Save the settings of a workspace, then audit what has been saved. -/
def writeSettings (audited : Bool) (actor : Option Uuid) (body : UpdateWorkspaceSettingsRequest)
    (workspaceId : WorkspaceId) : Admin (Except ApiError WorkspaceSettings) := do
  let saved ← upsertSettings (body.settings workspaceId)
  match saved.result with
  | .error message => return .error (.internal message)
  | .ok settings =>
    if audited then do
      let log ← createAuditLog (updateLog actor workspaceId settings)
      -- A request whose audit fails has saved its settings all the same.
      match log.result with
      | .error message => return .error (.internal message)
      | .ok _ => return .ok settings
    else return .ok settings

/-- Run a handler on what it is for, unless the request is refused. -/
def onAdminTarget {τ α : Type} (target : Except ApiError τ)
    (act : τ → Admin (Except ApiError α)) : Admin (Except ApiError α) :=
  match target with
  | .error error => .done (.error error)
  | .ok target => act target

/-- The workspace whose settings an HTTP request may read. -/
def getTargetHttp (auth : HttpAuthContext) (workspaceId : Uuid) : Except ApiError WorkspaceId := do
  (auth.require .readSettings).mapError .control
  (auth.enforcePathWorkspace workspaceId).mapError .control
  .ok workspaceId

/-- The workspace whose settings a gRPC request may read. -/
def getTargetGrpc (resolution : Except (List Cause) AuthResolution) :
    Except ApiError WorkspaceId := do
  let (_, auth) ← (authorizeRequest resolution .readSettings ()).mapError .status
  .ok auth.requestContext.workspaceId

/-- The query of an HTTP listing, with the workspaces that its caller may read. -/
def auditTargetHttp (auth : HttpAuthContext) (query : AuditLogFilters) :
    Except ApiError AuditLogFilters := do
  (auth.require .admin).mapError .control
  let workspaceId ← (auth.auditScope query.workspaceId).mapError .control
  .ok { query with workspaceId }

/-- The query of a gRPC listing, of which the workspace is always that of the caller. -/
def auditTargetGrpc (resolution : Except (List Cause) AuthResolution) (query : AuditLogFilters) :
    Except ApiError AuditLogFilters := do
  let (query, auth) ← (authorizeRequest resolution .admin query).mapError .status
  .ok { query with workspaceId := some auth.requestContext.workspaceId }

/-- A request to read or update settings, over one of the two transports. -/
inductive SettingsRequest where
  | getHttp (auth : HttpAuthContext) (workspaceId : Uuid)
  | getGrpc (resolution : Except (List Cause) AuthResolution)
  | updateHttp (auth : HttpAuthContext) (workspaceId : Uuid) (body : UpdateWorkspaceSettingsRequest)
  | updateGrpc (resolution : Except (List Cause) AuthResolution)
      (body : UpdateWorkspaceSettingsRequest)

/-- The workspace that a request is about, unless it is refused. -/
def SettingsRequest.target : SettingsRequest → Except ApiError WorkspaceId
  | .getHttp auth workspaceId => getTargetHttp auth workspaceId
  | .getGrpc resolution => getTargetGrpc resolution
  | .updateHttp auth workspaceId body => updateTargetHttp auth workspaceId body
  | .updateGrpc resolution body => updateTargetGrpc resolution body

/-- The body of an update, and who is audited for it. -/
def SettingsRequest.update? : SettingsRequest →
    Option (UpdateWorkspaceSettingsRequest × Option Uuid)
  | .updateHttp auth _ body => some (body, auth.workspaceUuid.toOption)
  | .updateGrpc resolution body => some (body, (updateTargetGrpc resolution body).toOption)
  | _ => none

/-- The handler of a request to read or update settings. -/
def SettingsRequest.handle (audited : Bool) (request : SettingsRequest) :
    Admin (Except ApiError WorkspaceSettings) :=
  onAdminTarget request.target fun workspaceId =>
    match request.update? with
    | some (body, actor) => writeSettings audited actor body workspaceId
    | none => readSettings workspaceId

/-- A request to list the audit log, over one of the two transports. -/
inductive AuditRequest where
  | http (auth : HttpAuthContext) (query : AuditLogFilters)
  | grpc (resolution : Except (List Cause) AuthResolution) (query : AuditLogFilters)

/-- The filters that a listing is made with, unless it is refused. -/
def AuditRequest.target : AuditRequest → Except ApiError AuditLogFilters
  | .http auth query => auditTargetHttp auth query
  | .grpc resolution query => auditTargetGrpc resolution query

/-- The same request for another page. -/
def AuditRequest.at (offset : UInt32) : AuditRequest → AuditRequest
  | .http auth query => .http auth { query with offset := some offset }
  | .grpc resolution query => .grpc resolution { query with offset := some offset }

/-- The handler of a listing. -/
def AuditRequest.handle (request : AuditRequest) : Admin (Except ApiError AuditLogPage) :=
  onAdminTarget request.target fun filters => do
    let listed ← listAuditLogs filters
    return listed.mapError .internal

/-- A reader that asks for page after page, until one is not full. -/
def AuditRequest.walk (request : AuditRequest) :
    (pages : Nat) → (offset : UInt32) → Admin (Except ApiError (List AuditLog))
  | 0, _ => .done (.error (.internal "too many pages"))
  | pages + 1, offset => do
    match ← (request.at offset).handle with
    | .error error => return .error error
    | .ok listed =>
      if listed.items.length < listed.limit.toNat then return .ok listed.items
      else if offset.toNat + listed.limit.toNat < 2 ^ 32 then do
        let rest ← request.walk pages (offset + listed.limit)
        return rest.map (listed.items ++ ·)
      else return .error (.internal "too many rows")

end Zradar.Settings
