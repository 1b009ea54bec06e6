import Zradar.Lib.Run
import Zradar.Retention.Honoured

/-! Runs of the server: whether the retention store agrees with the settings that are persisted. -/

namespace Zradar.Retention

open Auth Parquet

/-- A server that is stopped, with what it has persisted, or one that is running. -/
inductive System where
  | stopped (settingsRepo : SettingsTable) (fileList : FileTable) (auditLog : List NewAuditLog)
  | running (state : RetentionState)

/-- The operations that read or write settings and retention. -/
inductive Operation where
  | startUp (globalRetentionDays : UInt32)
  | updateHttp (env : ApiEnv) (auth : HttpAuthContext) (workspaceId : Uuid)
      (body : UpdateWorkspaceSettingsRequest)
  | updateGrpc (env : ApiEnv) (resolution : Except (List Cause) AuthResolution)
      (body : UpdateWorkspaceSettingsRequest)
  | setHttp (env : ApiEnv) (auth : HttpAuthContext) (workspaceId : Uuid) (retentionDays : UInt32)
  | setGrpc (env : ApiEnv) (resolution : Except (List Cause) AuthResolution)
      (retentionDays : UInt32)
  | cleanupHttp (env : ApiEnv) (auth : HttpAuthContext) (retentionDays : Option UInt32)
      (workspaceId : Option Uuid)
  | cleanupGrpc (env : ApiEnv) (resolution : Except (List Cause) AuthResolution)
      (retentionDays : Option UInt32)

/-- The system behind an operation, which only a running server takes. -/
def operate : System → Operation → Option System
  | .stopped settingsRepo fileList auditLog, .startUp globalRetentionDays =>
    some (.running
      ⟨settingsRepo, bootstrap globalRetentionDays settingsRepo, fileList, auditLog⟩)
  | .stopped _ _ _, _ => none
  -- A server that is started again has lost what was only in memory.
  | .running state, .startUp globalRetentionDays =>
    some (.running
      { state with configStore := bootstrap globalRetentionDays state.settingsRepo })
  | .running state, .updateHttp env auth workspaceId body =>
    some (.running (updateWorkspaceSettingsHttp env auth workspaceId body state).1)
  | .running state, .updateGrpc env resolution body =>
    some (.running (updateWorkspaceSettingsGrpc env resolution body state).1)
  | .running state, .setHttp env auth workspaceId retentionDays =>
    some (.running (setWorkspaceRetentionHttp env auth workspaceId retentionDays state).1)
  | .running state, .setGrpc env resolution retentionDays =>
    some (.running (setWorkspaceRetentionGrpc env resolution retentionDays state).1)
  | .running state, .cleanupHttp env auth retentionDays workspaceId =>
    some (.running (runCleanupHttp env auth retentionDays workspaceId state).1)
  | .running state, .cleanupGrpc env resolution retentionDays =>
    some (.running (runCleanupGrpc env resolution retentionDays state).1)

/-- The days in a store are the trace days of every persisted row. -/
def Agrees (settingsRepo : SettingsTable) (configStore : RetentionConfigStore) : Prop :=
  ∀ row ∈ settingsRepo.rows,
    ((configStore.getEffectiveDays row.workspaceId).toNat : Int) = row.tracesRetentionDays.toInt

/-- A server that is running goes by the days that are persisted. -/
def Coherent : System → Prop
  | .stopped _ _ _ => True
  | .running state => Agrees state.settingsRepo state.configStore

/-- An update that is served asks for the days that the store already has. -/
def UpdateKeeps (env : ApiEnv) (target : Except ApiError WorkspaceId)
    (body : UpdateWorkspaceSettingsRequest) (state : RetentionState) : Prop :=
  match served target [env.upsertFault] with
  | some workspaceId =>
    ((state.configStore.getEffectiveDays workspaceId).toNat : Int) =
      body.tracesRetentionDays.toInt
  | none => True

/-- A retention request that is served asks for days that the table can hold. -/
def SetKeeps (env : ApiEnv) (target : Except ApiError WorkspaceId) (retentionDays : UInt32) :
    Prop :=
  match served target [env.getFault, env.upsertFault] with
  | some _ => retentionDays.toNat < 2 ^ 31
  | none => True

/-- A cleanup that is not refused has no override, or one with the days of the row. -/
def CleanupKeeps (target : Except ApiError WorkspaceId) (retentionDays : Option UInt32)
    (state : RetentionState) : Prop :=
  match target, retentionDays with
  | .ok workspaceId, some days =>
    ∀ row ∈ state.settingsRepo.rows, row.workspaceId = workspaceId →
      (days.toNat : Int) = row.tracesRetentionDays.toInt
  | _, _ => True

/-- No persisted row has a negative number of days for traces. -/
def StartKeeps (settingsRepo : SettingsTable) : Prop :=
  ∀ row ∈ settingsRepo.rows, 0 ≤ row.tracesRetentionDays.toInt

/-- What an operation must meet, in the state in front of it, to keep the two stores in step. -/
def Keeps : System → Operation → Prop
  | .stopped settingsRepo _ _, .startUp _ => StartKeeps settingsRepo
  | .stopped _ _ _, _ => True
  | .running state, .startUp _ => StartKeeps state.settingsRepo
  | .running state, .updateHttp env auth workspaceId body =>
    UpdateKeeps env (updateTargetHttp auth workspaceId body) body state
  | .running state, .updateGrpc env resolution body =>
    UpdateKeeps env (updateTargetGrpc resolution body) body state
  | .running _, .setHttp env auth workspaceId retentionDays =>
    SetKeeps env (setTargetHttp auth workspaceId) retentionDays
  | .running _, .setGrpc env resolution retentionDays =>
    SetKeeps env (setTargetGrpc resolution) retentionDays
  | .running state, .cleanupHttp _ auth retentionDays workspaceId =>
    CleanupKeeps (cleanupTargetHttp auth workspaceId) retentionDays state
  | .running state, .cleanupGrpc _ resolution retentionDays =>
    CleanupKeeps (cleanupTargetGrpc resolution) retentionDays state

/-- Agreement is agreement for each workspace that has a row. -/
theorem agrees_iff {settingsRepo : SettingsTable} {configStore : RetentionConfigStore} :
    Agrees settingsRepo configStore ↔
      ∀ workspaceId row, settingsRepo.getSettings workspaceId = some row →
        ((configStore.getEffectiveDays workspaceId).toNat : Int) =
          row.tracesRetentionDays.toInt := by
  -- Each workspace has at most one row, which is the one that is found.
  constructor
  · intro agrees workspaceId row found
    obtain ⟨member, rfl⟩ := SettingsTable.getSettings_eq_some.mp found
    exact agrees row member
  · intro agrees row member
    exact agrees row.workspaceId row (SettingsTable.getSettings_eq_some.mpr ⟨member, rfl⟩)

/-- What is loaded at start-up agrees unless a row is negative. -/
theorem agrees_bootstrap (settingsRepo : SettingsTable) (globalRetentionDays : UInt32) :
    Agrees settingsRepo (bootstrap globalRetentionDays settingsRepo) ↔
      StartKeeps settingsRepo := by
  unfold Agrees StartKeeps
  apply forall₂_congr
  intro row member
  rw [bootstrap_effective, SettingsTable.getSettings_eq_some.mpr ⟨member, rfl⟩]
  exact toUInt32_toNat_eq_iff row.tracesRetentionDays

/-- Where everything agrees, a save of one row agrees exactly when the new row does. -/
theorem agrees_upsert {settingsRepo : SettingsTable} {before after : RetentionConfigStore}
    (agrees : Agrees settingsRepo before) (settings : NewWorkspaceSettings) (nowUs : Int64)
    (others : ∀ workspaceId, workspaceId ≠ settings.workspaceId →
      after.getEffectiveDays workspaceId = before.getEffectiveDays workspaceId) :
    Agrees (settingsRepo.upsertSettings settings nowUs).1 after ↔
      ((after.getEffectiveDays settings.workspaceId).toNat : Int) =
        settings.tracesRetentionDays.toInt := by
  -- The rows of other workspaces are the same, and so are their days.
  rw [agrees_iff] at agrees ⊢
  have saved := SettingsTable.upsertSettings_saved settingsRepo settings nowUs
  constructor
  · intro agreed
    have own := agreed settings.workspaceId (settingsRepo.upsertSettings settings nowUs).2
      (by rw [SettingsTable.getSettings_upsertSettings, if_pos rfl])
    rwa [saved] at own
  · intro own workspaceId row found
    rw [SettingsTable.getSettings_upsertSettings] at found
    split at found
    · rename_i same
      obtain rfl := Option.some.inj found
      rw [same, saved]
      exact own
    · rename_i other
      rw [others workspaceId other]
      exact agrees workspaceId row found

section

variable {state : RetentionState} (agrees : Agrees state.settingsRepo state.configStore)
  (env : ApiEnv) (target : Except ApiError WorkspaceId)
include agrees

theorem agrees_update (actor : Option Uuid) (body : UpdateWorkspaceSettingsRequest) :
    Coherent (.running (updateWorkspaceSettings env target actor body state).1) ↔
      UpdateKeeps env target body state := by
  -- A request that is served writes the row and the days together.
  unfold Coherent UpdateKeeps
  simp only
  obtain ⟨kept, saved⟩ := updateWorkspaceSettings_effect env target state actor body
  rw [kept, saved]
  cases served target [env.upsertFault] with
  | none => exact iff_of_true agrees trivial
  | some workspaceId =>
    exact agrees_upsert agrees (body.settings workspaceId) env.nowUs fun _ _ => rfl

theorem agrees_set (retentionDays : UInt32) :
    Coherent (.running (setWorkspaceRetention env target retentionDays state).1) ↔
      SetKeeps env target retentionDays := by
  unfold Coherent SetKeeps
  simp only
  rw [setWorkspaceRetention_effect]
  cases served target [env.getFault, env.upsertFault] with
  | none => exact iff_of_true agrees trivial
  | some workspaceId =>
    simp only
    rw [agrees_upsert agrees]
    · -- Both sides are the same number, unless the cast into the table makes it negative.
      rw [retentionSettings_workspaceId, (retentionSettings_days _ _ _).1, ← toInt32_nonneg_iff,
        ← toUInt32_toNat_eq_iff]
      simp
    · intro other distinct
      rw [retentionSettings_workspaceId] at distinct
      simp [distinct]

theorem agrees_cleanup (retentionDays : Option UInt32) :
    Coherent (.running (runCleanup env target retentionDays state).1) ↔
      CleanupKeeps target retentionDays state := by
  -- Only a cleanup with days of its own changes the store.
  unfold Coherent CleanupKeeps
  simp only
  obtain ⟨repo, store⟩ := runCleanup_effect env target state retentionDays
  rw [repo, store]
  cases target with
  | error error => exact iff_of_true agrees trivial
  | ok workspaceId =>
    cases retentionDays with
    | none => exact iff_of_true agrees trivial
    | some days =>
      simp only
      constructor
      · intro agreed row member owner
        have own := agreed row member
        simpa [owner] using own
      · intro keeps row member
        rw [RetentionConfigStore.getEffectiveDays_upsert]
        split
        · rename_i owner
          exact keeps row member owner
        · exact agrees row member

end

/-- An operation on a coherent system leaves it coherent exactly under its condition. -/
theorem operate_coherent_iff (system : System) (operation : Operation) (next : System)
    (coherent : Coherent system) (stepped : operate system operation = some next) :
    Coherent next ↔ Keeps system operation := by
  -- One case for each operation, on a system that runs or is stopped.
  cases system with
  | stopped settingsRepo fileList auditLog =>
    cases operation with
    | startUp globalRetentionDays =>
      cases stepped
      exact agrees_bootstrap settingsRepo globalRetentionDays
    | updateHttp | updateGrpc | setHttp | setGrpc | cleanupHttp | cleanupGrpc => cases stepped
  | running state =>
    cases operation with
    | startUp globalRetentionDays =>
      cases stepped
      exact agrees_bootstrap state.settingsRepo globalRetentionDays
    | updateHttp env auth workspaceId body =>
      cases stepped
      exact agrees_update coherent env _ _ body
    | updateGrpc env resolution body =>
      cases stepped
      exact agrees_update coherent env _ _ body
    | setHttp env auth workspaceId retentionDays =>
      cases stepped
      exact agrees_set coherent env _ retentionDays
    | setGrpc env resolution retentionDays =>
      cases stepped
      exact agrees_set coherent env _ retentionDays
    | cleanupHttp env auth retentionDays workspaceId =>
      cases stepped
      exact agrees_cleanup coherent env _ retentionDays
    | cleanupGrpc env resolution retentionDays =>
      cases stepped
      exact agrees_cleanup coherent env _ retentionDays

/--
The retention store and the persisted settings agree in every state of a run exactly when every
operation of the run meets its condition.
-/
theorem retention_stays_coherent_iff (settingsRepo : SettingsTable) (fileList : FileTable)
    (auditLog : List NewAuditLog) (operations : List Operation) (final : System)
    (reached : run operate (.stopped settingsRepo fileList auditLog) operations = some final) :
    (∀ taken middle,
      run operate (.stopped settingsRepo fileList auditLog) (operations.take taken) = some middle →
        Coherent middle) ↔
      Guarded operate Keeps (.stopped settingsRepo fileList auditLog) operations :=
  run_always_iff operate_coherent_iff trivial reached

/-- An administrator of the one workspace, over gRPC. -/
def administrator : Except (List Cause) AuthResolution :=
  .ok ⟨⟨Uuid.nil⟩, ["admin", "write_settings"]⟩

/-- A stopped server with the settings of one workspace. -/
def stoppedWith (row : WorkspaceSettings) : System :=
  .stopped (oneRow row) ⟨[], List.nodup_nil⟩ []

/-- A run in which every operation asks for the days that the other store has. -/
def inStep : List Operation :=
  [.startUp 90, .updateGrpc (quietEnv newYear) administrator (updateTo 30 7 7),
    .setGrpc (quietEnv newYear) administrator 14,
    .cleanupGrpc (quietEnv newYear) administrator (some 14)]

/-- A run whose operations stay in step ends, and the stores agree in all its states. -/
theorem retention_stays_coherent_in_step :
    ∃ final, run operate (stoppedWith (settingsOf 30 14 7)) inStep = some final ∧
      ∀ taken middle, run operate (stoppedWith (settingsOf 30 14 7)) (inStep.take taken) =
        some middle → Coherent middle := by
  -- Each operation of the run meets the condition.
  refine ⟨_, rfl, ?_⟩
  refine (retention_stays_coherent_iff (oneRow (settingsOf 30 14 7)) ⟨[], by simp⟩ [] _ _
    rfl).mpr ⟨?_, ?_, ?_, ?_, trivial⟩
  · intro row member
    simp only [oneRow, List.mem_singleton] at member
    subst member
    decide
  · show (30 : Int) = 30
    rfl
  · show 14 < 2 ^ 31
    decide
  · intro row member _
    have only := List.mem_singleton.mp member
    subst only
    rfl

/-- A run that ends with a store that does not go by the persisted days. -/
def EndsApart (row : WorkspaceSettings) (operations : List Operation) : Prop :=
  ∃ final, run operate (stoppedWith row) operations = some final ∧ ¬ Coherent final

/-- An override outlives its run, an update is not heard of, and a large number turns negative. -/
theorem retention_drifts_apart :
    EndsApart (settingsOf 30 14 7)
      [.startUp 90, .cleanupGrpc (quietEnv newYear) administrator (some 1)] ∧
    EndsApart (settingsOf 30 14 7)
      [.startUp 90, .updateGrpc (quietEnv newYear) administrator (updateTo 90 14 7)] ∧
    EndsApart (settingsOf 30 14 7)
      [.startUp 90, .setGrpc (quietEnv newYear) administrator 2147483648] := by
  -- Each run ends with a row and a store that name different days.
  refine ⟨⟨_, rfl, ?_⟩, ⟨_, rfl, ?_⟩, ⟨_, rfl, ?_⟩⟩
  · intro coherent
    have days : (1 : Int) = 30 := coherent _ (List.mem_singleton.mpr rfl)
    cases days
  · intro coherent
    have days : (30 : Int) = 90 := coherent _ (List.mem_singleton.mpr rfl)
    cases days
  · intro coherent
    have days : (2147483648 : Int) = -2147483648 := coherent _ (List.mem_singleton.mpr rfl)
    cases days

end Zradar.Retention
