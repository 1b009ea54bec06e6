import Zradar.Auth.Context
import Zradar.Retention.Cleanup

/-! Workspace settings: the persisted rows, the start-up that loads them, and the API that saves them. -/

namespace Zradar.Retention

open Auth Parquet

/-- The settings of a workspace, before they are saved. -/
structure NewWorkspaceSettings where
  workspaceId : WorkspaceId
  tracesRetentionDays : Int32
  metricsRetentionDays : Int32
  logsRetentionDays : Int32
  maxIngestionRate : Option Int32
  filePushIntervalSecs : Int32
  blocked : Bool
  captureLlmContentEnabled : Bool
  deriving DecidableEq

/-- The persisted settings of a workspace. -/
structure WorkspaceSettings extends NewWorkspaceSettings where
  id : Nat
  updatedAt : Int64
  deriving DecidableEq

/-- The settings of a workspace that has none yet. -/
def NewWorkspaceSettings.defaultsFor (workspaceId : WorkspaceId) : NewWorkspaceSettings where
  workspaceId := workspaceId
  tracesRetentionDays := 90
  metricsRetentionDays := 30
  logsRetentionDays := 30
  maxIngestionRate := none
  filePushIntervalSecs := 300
  blocked := false
  captureLlmContentEnabled := true

/-- The table of settings, with one row for a workspace. -/
structure SettingsTable where
  rows : List WorkspaceSettings
  nextId : Nat
  unique : (rows.map fun row => row.workspaceId).Nodup

namespace SettingsTable

/-- The row of a workspace. -/
def getSettings (table : SettingsTable) (workspaceId : WorkspaceId) : Option WorkspaceSettings :=
  table.rows.find? fun row => row.workspaceId = workspaceId

/-- The rows with the one of a workspace replaced. -/
def replaced (rows : List WorkspaceSettings) (settings : NewWorkspaceSettings) (nowUs : Int64) :
    List WorkspaceSettings :=
  rows.map fun row =>
    if row.workspaceId = settings.workspaceId then ⟨settings, row.id, nowUs⟩ else row

theorem replaced_workspaces (rows : List WorkspaceSettings) (settings : NewWorkspaceSettings)
    (nowUs : Int64) :
    ((replaced rows settings nowUs).map fun row => row.workspaceId) =
      rows.map fun row => row.workspaceId := by
  simp only [replaced, List.map_map]
  apply List.map_congr_left
  intro row _
  by_cases same : row.workspaceId = settings.workspaceId <;> simp [same]

/-- Insert settings, or update the row that the workspace has, and return what is saved. -/
def upsertSettings (table : SettingsTable) (settings : NewWorkspaceSettings) (nowUs : Int64) :
    SettingsTable × WorkspaceSettings :=
  match found : table.getSettings settings.workspaceId with
  | some row =>
    ({ table with
        rows := replaced table.rows settings nowUs
        unique := by rw [replaced_workspaces]; exact table.unique },
      ⟨settings, row.id, nowUs⟩)
  | none =>
    ({ rows := table.rows ++ [⟨settings, table.nextId, nowUs⟩]
       nextId := table.nextId + 1
       unique := by
        -- The search has shown that no row has this workspace.
        have absent := List.find?_eq_none.mp found
        rw [List.map_append, List.nodup_append]
        refine ⟨table.unique, by simp, ?_⟩
        intro taken inside fresh single same
        obtain ⟨row, member, rfl⟩ := List.mem_map.mp inside
        simp only [List.map_cons, List.map_nil, List.mem_singleton] at single
        exact absent row member (by simp [same, single]) },
      ⟨settings, table.nextId, nowUs⟩)

/-- A row of the table is what its workspace finds. -/
theorem getSettings_eq_some {table : SettingsTable} {workspaceId : WorkspaceId}
    {row : WorkspaceSettings} :
    table.getSettings workspaceId = some row ↔ row ∈ table.rows ∧ row.workspaceId = workspaceId := by
  -- No workspace has two rows.
  constructor
  · intro found
    exact ⟨List.mem_of_find?_eq_some found, by simpa using List.find?_some found⟩
  · rintro ⟨member, rfl⟩
    cases found : table.getSettings row.workspaceId with
    | none =>
      have := List.find?_eq_none.mp found row member
      simp at this
    | some other =>
      have inside := List.mem_of_find?_eq_some found
      have same : other.workspaceId = row.workspaceId := by simpa using List.find?_some found
      rw [List.inj_on_of_nodup_map table.unique inside member same]

/-- What is saved are the settings that were given. -/
@[simp] theorem upsertSettings_saved (table : SettingsTable) (settings : NewWorkspaceSettings)
    (nowUs : Int64) :
    (table.upsertSettings settings nowUs).2.toNewWorkspaceSettings = settings := by
  unfold upsertSettings
  split <;> rfl

/-- The row that is saved is in the table. -/
theorem upsertSettings_mem (table : SettingsTable) (settings : NewWorkspaceSettings)
    (nowUs : Int64) :
    (table.upsertSettings settings nowUs).2 ∈ (table.upsertSettings settings nowUs).1.rows := by
  -- The row is updated in place or added.
  unfold upsertSettings
  split
  · rename_i row found
    obtain ⟨member, same⟩ := getSettings_eq_some.mp found
    exact List.mem_map.mpr ⟨row, member, by simp [same]⟩
  · simp

/-- A row of another workspace is in the table exactly when it was there before the save. -/
theorem mem_upsertSettings_of_ne (table : SettingsTable) (settings : NewWorkspaceSettings)
    (nowUs : Int64) {row : WorkspaceSettings} (other : row.workspaceId ≠ settings.workspaceId) :
    row ∈ (table.upsertSettings settings nowUs).1.rows ↔ row ∈ table.rows := by
  -- Rows of other workspaces are left as they are.
  unfold upsertSettings
  split
  · constructor
    · intro member
      obtain ⟨source, inside, rfl⟩ := List.mem_map.mp member
      by_cases same : source.workspaceId = settings.workspaceId
      · simp [same] at other
      · simpa [same] using inside
    · intro member
      exact List.mem_map.mpr ⟨row, member, by simp [other]⟩
  · constructor
    · intro member
      rcases List.mem_append.mp member with inside | added
      · exact inside
      · rw [List.mem_singleton.mp added] at other
        exact absurd rfl other
    · intro member
      exact List.mem_append_left _ member

/-- A save changes the row of its own workspace and no other. -/
theorem getSettings_upsertSettings (table : SettingsTable) (settings : NewWorkspaceSettings)
    (nowUs : Int64) (workspaceId : WorkspaceId) :
    (table.upsertSettings settings nowUs).1.getSettings workspaceId =
      if workspaceId = settings.workspaceId then some (table.upsertSettings settings nowUs).2
      else table.getSettings workspaceId := by
  split
  · rename_i same
    rw [getSettings_eq_some]
    refine ⟨upsertSettings_mem table settings nowUs, ?_⟩
    rw [upsertSettings_saved, same]
  · rename_i other
    -- The two searches find the same rows, as the tables agree away from the saved workspace.
    ext row
    rw [getSettings_eq_some, getSettings_eq_some]
    constructor
    · rintro ⟨member, rfl⟩
      exact ⟨(mem_upsertSettings_of_ne table settings nowUs other).mp member, rfl⟩
    · rintro ⟨member, rfl⟩
      exact ⟨(mem_upsertSettings_of_ne table settings nowUs other).mpr member, rfl⟩

end SettingsTable

/-- The retention store at start-up, filled from the persisted settings. -/
def bootstrap (globalRetentionDays : UInt32) (settingsRepo : SettingsTable) :
    RetentionConfigStore :=
  settingsRepo.rows.foldl
    (fun store policy => store.upsert
      { workspaceId := policy.workspaceId
        -- One number of days is taken for all three signals.
        retentionDays := policy.tracesRetentionDays.toUInt32 })
    (.new globalRetentionDays)

/-- Loading rows of distinct workspaces gives each of them the days of its own row. -/
theorem foldl_upsert_effective (rows : List WorkspaceSettings)
    (unique : (rows.map fun row => row.workspaceId).Nodup) (store : RetentionConfigStore)
    (workspaceId : WorkspaceId) :
    (rows.foldl (fun store policy => store.upsert
        ⟨policy.workspaceId, policy.tracesRetentionDays.toUInt32⟩) store).getEffectiveDays
          workspaceId =
      match rows.find? fun row => row.workspaceId = workspaceId with
      | some row => row.tracesRetentionDays.toUInt32
      | none => store.getEffectiveDays workspaceId := by
  induction rows generalizing store with
  | nil => rfl
  | cons first rest ih =>
    obtain ⟨fresh, unique⟩ := List.nodup_cons.mp unique
    rw [List.foldl_cons, ih unique]
    by_cases same : first.workspaceId = workspaceId
    · -- No later row has this workspace, so that the first one has the last word.
      have none : rest.find? (fun row => row.workspaceId = workspaceId) = none := by
        rw [List.find?_eq_none]
        intro row member keyed
        have keyed : row.workspaceId = workspaceId := by simpa using keyed
        exact fresh (List.mem_map.mpr ⟨row, member, keyed.trans same.symm⟩)
      simp [none, same]
    · have other : workspaceId ≠ first.workspaceId := fun equal => same equal.symm
      simp [same, other]

/-- At start-up the days of a workspace are the trace days of its row. -/
theorem bootstrap_effective (globalRetentionDays : UInt32) (settingsRepo : SettingsTable)
    (workspaceId : WorkspaceId) :
    (bootstrap globalRetentionDays settingsRepo).getEffectiveDays workspaceId =
      match settingsRepo.getSettings workspaceId with
      | some row => row.tracesRetentionDays.toUInt32
      | none => globalRetentionDays := by
  have loaded := foldl_upsert_effective settingsRepo.rows settingsRepo.unique
    (.new globalRetentionDays) workspaceId
  simpa [bootstrap, SettingsTable.getSettings] using loaded

/-- The body of a settings update. -/
structure UpdateWorkspaceSettingsRequest where
  tracesRetentionDays : Int32
  metricsRetentionDays : Int32
  logsRetentionDays : Int32
  maxIngestionRate : Option Int32
  filePushIntervalSecs : Int32
  blocked : Bool
  captureLlmContentEnabled : Bool
  deriving DecidableEq

/-- The settings that an update asks for. -/
def UpdateWorkspaceSettingsRequest.settings (body : UpdateWorkspaceSettingsRequest)
    (workspaceId : WorkspaceId) : NewWorkspaceSettings where
  workspaceId := workspaceId
  tracesRetentionDays := body.tracesRetentionDays
  metricsRetentionDays := body.metricsRetentionDays
  logsRetentionDays := body.logsRetentionDays
  maxIngestionRate := body.maxIngestionRate
  filePushIntervalSecs := body.filePushIntervalSecs
  blocked := body.blocked
  captureLlmContentEnabled := body.captureLlmContentEnabled

/-- Why a settings or retention request is refused or fails. -/
inductive ApiError where
  | control (error : ControlError)
  | status (status : GrpcStatus)
  | forbidden
  | invalidInput (message : String)
  | internal (message : String)
  deriving DecidableEq

/-- What an update is recorded as. -/
structure NewAuditLog where
  actorWorkspaceId : Option Uuid
  resourceWorkspaceId : Option Uuid
  action : String
  resourceType : String
  resourceId : String
  metadata : UpdateWorkspaceSettingsRequest

/-- What the API works on: the persisted tables, and the retention store in memory. -/
structure RetentionState where
  settingsRepo : SettingsTable
  configStore : RetentionConfigStore
  fileList : FileTable
  auditLog : List NewAuditLog

/-- Statistics of the physical removal of files. -/
structure ReclaimStats where
  filesReclaimed : Nat
  bytesFreed : Nat
  filesSkippedLeased : Nat
  errors : List String

/-- Combined statistics of a cleanup run. -/
structure RetentionRunStats where
  filesMarked : Nat
  filesDeleted : Nat
  bytesFreed : Nat
  filesSkippedLeased : Nat
  projectsProcessed : Nat
  errors : List String

/-- The statistics of a cleanup cycle, together with those of the removal behind it. -/
def CleanupStats.withReclaim (stats : CleanupStats) (reclaim : ReclaimStats) :
    RetentionRunStats where
  filesMarked := stats.filesMarked
  filesDeleted := reclaim.filesReclaimed
  bytesFreed := reclaim.bytesFreed
  filesSkippedLeased := reclaim.filesSkippedLeased
  projectsProcessed := stats.projectsProcessed
  errors := stats.errors ++ reclaim.errors

/-- What a request takes from outside: the clock, the calls that fail, and the file reclaimer. -/
structure ApiEnv where
  nowUs : Int64
  getFault : Option String
  upsertFault : Option String
  /-- Whether there is an audit log, and the error it fails with. -/
  audited : Bool
  auditFault : Option String
  cleanup : CleanupEnv
  reclaim : Option Uuid → FileTable → FileTable × Except String ReclaimStats

/-- Check that the fields of an update are in range, in their order. -/
def validateSettings (body : UpdateWorkspaceSettingsRequest) : Except ApiError Unit :=
  if body.tracesRetentionDays < 0 then
    .error (.invalidInput "traces_retention_days must be non-negative")
  else if body.metricsRetentionDays < 0 then
    .error (.invalidInput "metrics_retention_days must be non-negative")
  else if body.logsRetentionDays < 0 then
    .error (.invalidInput "logs_retention_days must be non-negative")
  else if body.maxIngestionRate.any fun rate => rate < 0 then
    .error (.invalidInput "max_ingestion_rate must be non-negative")
  else if body.filePushIntervalSecs ≤ 0 then
    .error (.invalidInput "file_push_interval_secs must be positive")
  else .ok ()

/-- Run a request on the workspace it is for, unless it is refused. -/
def onTarget {α : Type} (target : Except ApiError WorkspaceId)
    (act : WorkspaceId → RetentionState → RetentionState × Except ApiError α)
    (state : RetentionState) : RetentionState × Except ApiError α :=
  match target with
  | .error error => (state, .error error)
  | .ok workspaceId => act workspaceId state

/-- Save the settings of a workspace and record that they were saved. -/
def saveSettings (env : ApiEnv) (actor : Option Uuid) (body : UpdateWorkspaceSettingsRequest)
    (workspaceId : WorkspaceId) (state : RetentionState) :
    RetentionState × Except ApiError WorkspaceSettings :=
  match env.upsertFault with
  | some error => (state, .error (.internal error))
  | none =>
    let (settingsRepo, settings) :=
      state.settingsRepo.upsertSettings (body.settings workspaceId) env.nowUs
    -- The retention store is not told about the new days.
    let state := { state with settingsRepo := settingsRepo }
    if env.audited then
      match env.auditFault with
      | some error => (state, .error (.internal error))
      | none =>
        ({ state with auditLog := state.auditLog ++ [
            { actorWorkspaceId := actor
              resourceWorkspaceId := some workspaceId
              action := "workspace_settings.update"
              resourceType := "workspace_settings"
              resourceId := env.cleanup.uuidText workspaceId
              metadata := body }] }, .ok settings)
    else (state, .ok settings)

/-- The workspace whose settings an HTTP request may update. -/
def updateTargetHttp (auth : HttpAuthContext) (workspaceId : Uuid)
    (body : UpdateWorkspaceSettingsRequest) : Except ApiError WorkspaceId := do
  (auth.require .writeSettings).mapError .control
  (auth.enforcePathWorkspace workspaceId).mapError .control
  validateSettings body
  .ok workspaceId

/-- The workspace whose settings a gRPC request may update. -/
def updateTargetGrpc (resolution : Except (List Cause) AuthResolution)
    (body : UpdateWorkspaceSettingsRequest) : Except ApiError WorkspaceId := do
  let (body, auth) ← (authorizeRequest resolution .writeSettings body).mapError .status
  validateSettings body
  .ok auth.requestContext.workspaceId

/-- Update the settings of a workspace, whatever the transport. -/
def updateWorkspaceSettings (env : ApiEnv) (target : Except ApiError WorkspaceId)
    (actor : Option Uuid) (body : UpdateWorkspaceSettingsRequest) :
    RetentionState → RetentionState × Except ApiError WorkspaceSettings :=
  onTarget target (saveSettings env actor body)

/-- Update the settings of a workspace over HTTP. -/
def updateWorkspaceSettingsHttp (env : ApiEnv) (auth : HttpAuthContext) (workspaceId : Uuid)
    (body : UpdateWorkspaceSettingsRequest) :
    RetentionState → RetentionState × Except ApiError WorkspaceSettings :=
  updateWorkspaceSettings env (updateTargetHttp auth workspaceId body) auth.workspaceUuid.toOption
    body

/-- Update the settings of a workspace over gRPC. -/
def updateWorkspaceSettingsGrpc (env : ApiEnv) (resolution : Except (List Cause) AuthResolution)
    (body : UpdateWorkspaceSettingsRequest) :
    RetentionState → RetentionState × Except ApiError WorkspaceSettings :=
  let target := updateTargetGrpc resolution body
  updateWorkspaceSettings env target target.toOption body

/-- The answer to a retention request. -/
structure WorkspaceRetentionResponse where
  workspaceId : WorkspaceId
  retentionDays : UInt32
  inherited : Bool
  workspaceDefaultDays : UInt32
  deriving DecidableEq

/-- The settings that set one number of days for all signals. -/
def withRetention (settings : NewWorkspaceSettings) (days : UInt32) : NewWorkspaceSettings :=
  { settings with
    tracesRetentionDays := days.toInt32
    metricsRetentionDays := days.toInt32
    logsRetentionDays := days.toInt32 }

/-- The settings of a workspace with one number of days for all signals. -/
def retentionSettings (settingsRepo : SettingsTable) (workspaceId : WorkspaceId) (days : UInt32) :
    NewWorkspaceSettings :=
  match settingsRepo.getSettings workspaceId with
  | some row => withRetention row.toNewWorkspaceSettings days
  | none => withRetention (.defaultsFor workspaceId) days

/-- Save one number of days for all signals of a workspace, then tell the retention store. -/
def saveRetention (env : ApiEnv) (retentionDays : UInt32) (workspaceId : WorkspaceId)
    (state : RetentionState) : RetentionState × Except ApiError WorkspaceRetentionResponse :=
  match env.getFault with
  | some error => (state, .error (.internal error))
  | none =>
    let settings := retentionSettings state.settingsRepo workspaceId retentionDays
    match env.upsertFault with
    | some error => (state, .error (.internal error))
    | none =>
      let (settingsRepo, saved) := state.settingsRepo.upsertSettings settings env.nowUs
      ({ state with
          settingsRepo := settingsRepo
          configStore := state.configStore.upsert ⟨workspaceId, retentionDays⟩ },
        .ok
          { workspaceId := workspaceId
            retentionDays := retentionDays
            inherited := false
            workspaceDefaultDays := saved.tracesRetentionDays.toUInt32 })

/-- The workspace whose retention an HTTP request may set. -/
def setTargetHttp (auth : HttpAuthContext) (workspaceId : Uuid) : Except ApiError WorkspaceId := do
  (auth.require .writeSettings).mapError .control
  let authWorkspaceId ← auth.workspaceUuid.mapError .control
  if authWorkspaceId ≠ workspaceId then .error .forbidden else .ok workspaceId

/-- The workspace whose retention a gRPC request may set. -/
def setTargetGrpc (resolution : Except (List Cause) AuthResolution) :
    Except ApiError WorkspaceId := do
  let (_, auth) ← (authorizeRequest resolution .writeSettings ()).mapError .status
  .ok auth.requestContext.workspaceId

/-- Set the retention of a workspace, whatever the transport. -/
def setWorkspaceRetention (env : ApiEnv) (target : Except ApiError WorkspaceId)
    (retentionDays : UInt32) :
    RetentionState → RetentionState × Except ApiError WorkspaceRetentionResponse :=
  onTarget target (saveRetention env retentionDays)

/-- Set the retention of a workspace over HTTP. -/
def setWorkspaceRetentionHttp (env : ApiEnv) (auth : HttpAuthContext) (workspaceId : Uuid)
    (retentionDays : UInt32) :
    RetentionState → RetentionState × Except ApiError WorkspaceRetentionResponse :=
  setWorkspaceRetention env (setTargetHttp auth workspaceId) retentionDays

/-- Set the retention of a workspace over gRPC. -/
def setWorkspaceRetentionGrpc (env : ApiEnv) (resolution : Except (List Cause) AuthResolution)
    (retentionDays : UInt32) :
    RetentionState → RetentionState × Except ApiError WorkspaceRetentionResponse :=
  setWorkspaceRetention env (setTargetGrpc resolution) retentionDays

/-- Run a cleanup cycle and the reclaimer for one workspace. -/
def cleanupNow (env : ApiEnv) (retentionDays : Option UInt32) (workspaceId : WorkspaceId)
    (state : RetentionState) : RetentionState × Except ApiError RetentionRunStats :=
  -- The override is stored, and stays there when the run is over.
  let configStore := match retentionDays with
    | some days => state.configStore.upsert ⟨workspaceId, days⟩
    | none => state.configStore
  let (fileList, marked) := runNowScoped configStore env.cleanup (some workspaceId) state.fileList
  match marked with
  | .error error =>
    ({ state with configStore := configStore, fileList := fileList }, .error (.internal error))
  | .ok markStats =>
    let (fileList, reclaimed) := env.reclaim (some workspaceId) fileList
    ({ state with configStore := configStore, fileList := fileList },
      match reclaimed with
      | .error error => .error (.internal error)
      | .ok reclaimStats => .ok (markStats.withReclaim reclaimStats))

/-- The workspace that an HTTP request may clean up. -/
def cleanupTargetHttp (auth : HttpAuthContext) (workspaceId : Option Uuid) :
    Except ApiError WorkspaceId := do
  (auth.require .admin).mapError .control
  (auth.workspaceOrStandaloneOverride workspaceId).mapError .control

/-- The workspace that a gRPC request may clean up. -/
def cleanupTargetGrpc (resolution : Except (List Cause) AuthResolution) :
    Except ApiError WorkspaceId := do
  let (_, auth) ← (authorizeRequest resolution .admin ()).mapError .status
  .ok auth.requestContext.workspaceId

/-- Trigger a cleanup, whatever the transport. -/
def runCleanup (env : ApiEnv) (target : Except ApiError WorkspaceId)
    (retentionDays : Option UInt32) :
    RetentionState → RetentionState × Except ApiError RetentionRunStats :=
  onTarget target (cleanupNow env retentionDays)

/-- Trigger a cleanup over HTTP. -/
def runCleanupHttp (env : ApiEnv) (auth : HttpAuthContext) (retentionDays : Option UInt32)
    (workspaceId : Option Uuid) :
    RetentionState → RetentionState × Except ApiError RetentionRunStats :=
  runCleanup env (cleanupTargetHttp auth workspaceId) retentionDays

/-- Trigger a cleanup over gRPC. -/
def runCleanupGrpc (env : ApiEnv) (resolution : Except (List Cause) AuthResolution)
    (retentionDays : Option UInt32) :
    RetentionState → RetentionState × Except ApiError RetentionRunStats :=
  runCleanup env (cleanupTargetGrpc resolution) retentionDays

/-- The workspace of a request that is not refused and whose calls do not fail. -/
def served (target : Except ApiError WorkspaceId) (faults : List (Option String)) :
    Option WorkspaceId :=
  match target with
  | .ok workspaceId => if faults.all Option.isNone then some workspaceId else none
  | .error _ => none

section

variable (env : ApiEnv) (target : Except ApiError WorkspaceId) (state : RetentionState)

/-- A settings update that is served saves its row, and leaves the retention store as it is. -/
theorem updateWorkspaceSettings_effect (actor : Option Uuid)
    (body : UpdateWorkspaceSettingsRequest) :
    (updateWorkspaceSettings env target actor body state).1.configStore = state.configStore ∧
      (updateWorkspaceSettings env target actor body state).1.settingsRepo =
        match served target [env.upsertFault] with
        | some workspaceId =>
          (state.settingsRepo.upsertSettings (body.settings workspaceId) env.nowUs).1
        | none => state.settingsRepo := by
  unfold updateWorkspaceSettings onTarget saveSettings served
  -- Each exit of the handler carries the store along.
  cases target with
  | error error => exact ⟨rfl, rfl⟩
  | ok workspaceId =>
    cases env.upsertFault with
    | some error => exact ⟨rfl, rfl⟩
    | none =>
      -- A failure of the audit log comes too late to undo the save.
      simp only
      split
      · split <;> exact ⟨rfl, rfl⟩
      · exact ⟨rfl, rfl⟩

/-- A retention request that is served saves its row and its config. -/
theorem setWorkspaceRetention_effect (retentionDays : UInt32) :
    (setWorkspaceRetention env target retentionDays state).1 =
      match served target [env.getFault, env.upsertFault] with
      | some workspaceId =>
        { state with
          settingsRepo := (state.settingsRepo.upsertSettings
            (retentionSettings state.settingsRepo workspaceId retentionDays) env.nowUs).1
          configStore := state.configStore.upsert ⟨workspaceId, retentionDays⟩ }
      | none => state := by
  -- The store is updated only after both accesses to the table have succeeded.
  unfold setWorkspaceRetention onTarget saveRetention served
  cases target with
  | error error => rfl
  | ok workspaceId =>
    cases env.getFault with
    | some error => rfl
    | none => cases env.upsertFault <;> rfl

/-- A cleanup touches no row, and leaves its override in the store. -/
theorem runCleanup_effect (retentionDays : Option UInt32) :
    (runCleanup env target retentionDays state).1.settingsRepo = state.settingsRepo ∧
      (runCleanup env target retentionDays state).1.configStore =
        match target, retentionDays with
        | .ok workspaceId, some days => state.configStore.upsert ⟨workspaceId, days⟩
        | _, _ => state.configStore := by
  -- The days of the request go to the store before anything is cleaned.
  unfold runCleanup onTarget cleanupNow
  cases target with
  | error error => exact ⟨rfl, rfl⟩
  | ok workspaceId =>
    cases retentionDays with
    | none =>
      simp only
      split <;> exact ⟨rfl, rfl⟩
    | some days =>
      simp only
      split <;> exact ⟨rfl, rfl⟩

end

/-- A retention request that is answered has saved its row and told the store. -/
theorem setWorkspaceRetention_ok {env : ApiEnv} {target : Except ApiError WorkspaceId}
    {retentionDays : UInt32} {state next : RetentionState} {response : WorkspaceRetentionResponse}
    (saved : setWorkspaceRetention env target retentionDays state = (next, .ok response)) :
    next.configStore = state.configStore.upsert ⟨response.workspaceId, retentionDays⟩ ∧
      next.settingsRepo = (state.settingsRepo.upsertSettings
        (retentionSettings state.settingsRepo response.workspaceId retentionDays) env.nowUs).1 := by
  -- A response is given only behind both calls on the table, for the workspace of the request.
  unfold setWorkspaceRetention onTarget saveRetention at saved
  cases target with
  | error error => cases saved
  | ok workspaceId =>
    cases getFault : env.getFault with
    | some error => simp [getFault] at saved
    | none =>
      cases upsertFault : env.upsertFault with
      | some error => simp [getFault, upsertFault] at saved
      | none =>
        simp only [getFault, upsertFault] at saved
        cases saved
        exact ⟨rfl, rfl⟩

/-- The settings with one number of days are those of their workspace. -/
@[simp] theorem retentionSettings_workspaceId (settingsRepo : SettingsTable)
    (workspaceId : WorkspaceId) (days : UInt32) :
    (retentionSettings settingsRepo workspaceId days).workspaceId = workspaceId := by
  unfold retentionSettings
  cases found : settingsRepo.getSettings workspaceId with
  | none => rfl
  | some row => exact (SettingsTable.getSettings_eq_some.mp found).2

/-- The settings with one number of days have it for every signal. -/
theorem retentionSettings_days (settingsRepo : SettingsTable) (workspaceId : WorkspaceId)
    (days : UInt32) :
    let settings := retentionSettings settingsRepo workspaceId days
    settings.tracesRetentionDays = days.toInt32 ∧ settings.metricsRetentionDays = days.toInt32 ∧
      settings.logsRetentionDays = days.toInt32 := by
  unfold retentionSettings
  cases settingsRepo.getSettings workspaceId <;> exact ⟨rfl, rfl, rfl⟩

end Zradar.Retention
