import Zradar.Retention.Settings

/-! When cleanup keeps every file for the days that its own signal is configured to be kept. -/

namespace Zradar.Retention

open Parquet

/-- The days that a row configures for a signal. -/
def NewWorkspaceSettings.retentionDays (settings : NewWorkspaceSettings) (signalType : String) :
    Option Int32 :=
  if signalType = "traces" then some settings.tracesRetentionDays
  else if signalType = "metrics" then some settings.metricsRetentionDays
  else if signalType = "logs" then some settings.logsRetentionDays
  else none

/--
No cleanup marks a file of the workspace before its signal's own days are over.

With a margin of zero a file may be marked once it is that old, with a margin of one only when it
is older.
-/
def Honoured (store : RetentionConfigStore) (settings : NewWorkspaceSettings) (nowUs : Int64)
    (margin : Int) : Prop :=
  ∀ (env : CleanupEnv) (scope : Option Uuid) (table : FileTable) (file : FileListEntry)
    (days : Int32),
    env.nowUs settings.workspaceId = nowUs →
    Marks table (runNowScoped store env scope table).1 file →
    file.workspaceId = settings.workspaceId →
    settings.retentionDays file.signalType = some days →
    file.maxTs.toInt + margin ≤ nowUs.toInt - days.toInt * usPerDay

/-- The days that the store takes for a workspace last, with what is lost by wrapping, as long. -/
def Covers (nowUs : Int64) (effective : UInt32) (margin : Int) (days : Int32) : Prop :=
  days.toInt * usPerDay + margin + 2 ^ 64 * cutoffWraps nowUs effective ≤
    effective.toNat * usPerDay

instance (nowUs : Int64) (effective : UInt32) (margin : Int) (days : Int32) :
    Decidable (Covers nowUs effective margin days) :=
  inferInstanceAs (Decidable (_ ≤ _))

/-- A file of a workspace and a signal that ends at a given time. -/
def fileEndingAt (workspaceId : WorkspaceId) (signalType : String) (maxTs : Int64) :
    FileListEntry where
  workspaceId := workspaceId
  signalType := signalType
  streamName := "default"
  date := ""
  filePath := ""
  location := "local"
  minTs := maxTs
  maxTs := maxTs
  records := 1
  originalSize := 1
  compressedSize := 1
  createdAt := maxTs
  updatedAt := maxTs
  walReplayOffset := none
  id := 1
  deleted := false

/-- A cycle in which nothing fails, at a reading of the clock. -/
def quietCycle (nowUs : Int64) : CleanupEnv where
  nowUs := fun _ => nowUs
  markedAtUs := nowUs
  queryFault := none
  markFault := fun _ => none
  uuidText := fun _ => ""

/-- The days of every signal are honoured exactly when the days in the store cover all three. -/
theorem honoured_iff (store : RetentionConfigStore) (settings : NewWorkspaceSettings)
    (nowUs : Int64) (margin : Int) :
    Honoured store settings nowUs margin ↔
      ∀ days ∈ [settings.tracesRetentionDays, settings.metricsRetentionDays,
          settings.logsRetentionDays],
        Covers nowUs (store.getEffectiveDays settings.workspaceId) margin days := by
  have cutoff := getCutoffUs_toInt store nowUs settings.workspaceId
  constructor
  · intro honoured days configured
    -- A file that ends right at the cutoff is marked, so the cutoff itself is old enough.
    have marked (signalType : String)
        (own : settings.retentionDays signalType = some days) :
        Covers nowUs (store.getEffectiveDays settings.workspaceId) margin days := by
      let file := fileEndingAt settings.workspaceId signalType
        (store.getCutoffUs nowUs settings.workspaceId)
      let table : FileTable := ⟨[file], by simp⟩
      have expires : Expires store (quietCycle nowUs) none file :=
        ⟨rfl, rfl, by simp, Int64.le_refl _, rfl⟩
      have marks := (runNowScoped_marks store (quietCycle nowUs) none table file).mpr
        ⟨List.mem_singleton.mpr rfl, expires⟩
      have old := honoured _ _ table file days rfl marks rfl own
      rw [show file.maxTs = store.getCutoffUs nowUs settings.workspaceId from rfl, cutoff] at old
      unfold Covers
      omega
    simp only [List.mem_cons, List.not_mem_nil, or_false] at configured
    rcases configured with rfl | rfl | rfl
    · exact marked "traces" (by simp [NewWorkspaceSettings.retentionDays])
    · exact marked "metrics" (by simp [NewWorkspaceSettings.retentionDays])
    · exact marked "logs" (by simp [NewWorkspaceSettings.retentionDays])
  · intro covered env scope table file days clock marks owner own
    obtain ⟨_, expires⟩ := (runNowScoped_marks store env scope table file).mp marks
    have expired := expires.expired
    rw [owner, clock, Int64.le_iff_toInt_le, cutoff] at expired
    have listed : days ∈ [settings.tracesRetentionDays, settings.metricsRetentionDays,
        settings.logsRetentionDays] := by
      unfold NewWorkspaceSettings.retentionDays at own
      grind
    have covers := covered days listed
    unfold Covers at covers
    omega

/-- A row with no negative number of days. -/
structure NewWorkspaceSettings.NonNegative (settings : NewWorkspaceSettings) : Prop where
  traces : 0 ≤ settings.tracesRetentionDays.toInt
  metrics : 0 ≤ settings.metricsRetentionDays.toInt
  logs : 0 ≤ settings.logsRetentionDays.toInt

/-- Days in the store that are those of the traces cover a row that asks for no more. -/
theorem covers_traces_iff {settings : NewWorkspaceSettings} {effective : UInt32} (nowUs : Int64)
    (traces : (effective.toNat : Int) = settings.tracesRetentionDays.toInt) :
    (∀ days ∈ [settings.tracesRetentionDays, settings.metricsRetentionDays,
        settings.logsRetentionDays], Covers nowUs effective 0 days) ↔
      -2 ^ 63 ≤ nowUs.toInt - settings.tracesRetentionDays.toInt * usPerDay ∧
        settings.metricsRetentionDays ≤ settings.tracesRetentionDays ∧
        settings.logsRetentionDays ≤ settings.tracesRetentionDays := by
  have wraps := cutoffWraps_nonneg nowUs effective
  have exact := cutoffWraps_eq_zero nowUs effective
  rw [traces] at exact
  simp only [List.forall_mem_cons, List.not_mem_nil, false_implies, implies_true, and_true, Covers,
    traces, Int32.le_iff_toInt_le, usPerDay] at exact ⊢
  -- The days of the traces cover themselves only if nothing is lost by wrapping.
  constructor
  · rintro ⟨own, metrics, logs⟩
    have none : cutoffWraps nowUs effective = 0 := by omega
    refine ⟨exact.mp none, ?_, ?_⟩ <;> omega
  · rintro ⟨fits, metrics, logs⟩
    rw [exact.mpr fits]
    omega

/-- Days in the store that are those of the traces never go beyond what the traces ask for. -/
theorem not_covers_beyond_traces {days : Int32} {effective : UInt32} (nowUs : Int64)
    (traces : (effective.toNat : Int) = days.toInt) : ¬ Covers nowUs effective 1 days := by
  have wraps := cutoffWraps_nonneg nowUs effective
  unfold Covers
  rw [traces]
  omega

/-- What the retention API saves: one number of days, for all signals and in the store. -/
theorem setWorkspaceRetention_saved {env : ApiEnv} {target : Except ApiError WorkspaceId}
    {retentionDays : UInt32} {state next : RetentionState} {response : WorkspaceRetentionResponse}
    {row : WorkspaceSettings}
    (saved : setWorkspaceRetention env target retentionDays state = (next, .ok response))
    (found : next.settingsRepo.getSettings response.workspaceId = some row) :
    next.configStore.getEffectiveDays row.workspaceId = retentionDays ∧
      row.tracesRetentionDays = retentionDays.toInt32 ∧
      row.metricsRetentionDays = retentionDays.toInt32 ∧
      row.logsRetentionDays = retentionDays.toInt32 := by
  -- The settings that are upserted have the days for every signal, and are found again as saved.
  obtain ⟨ok, stored⟩ := setWorkspaceRetention_ok saved
  rw [stored, SettingsTable.getSettings_upsertSettings, retentionSettings_workspaceId,
    if_pos rfl] at found
  have settings := SettingsTable.upsertSettings_saved state.settingsRepo
    (retentionSettings state.settingsRepo response.workspaceId retentionDays) env.nowUs
  rw [Option.some.inj found] at settings
  obtain ⟨traces, metrics, logs⟩ :=
    retentionSettings_days state.settingsRepo response.workspaceId retentionDays
  rw [ok, settings]
  exact ⟨by simp, traces, metrics, logs⟩

/--
A row that is loaded at start-up is honoured if its traces are kept for the longest time; a row
that is saved through the settings API, if the days in the store happen to cover it; and a row that
is saved through the retention API, always. What the clock can count back to is a bound for each.
-/
theorem cleanup_honours_signals_iff (nowUs : Int64) :
    (∀ (globalRetentionDays : UInt32) (settingsRepo : SettingsTable) (row : WorkspaceSettings),
      row ∈ settingsRepo.rows → row.NonNegative →
      (Honoured (bootstrap globalRetentionDays settingsRepo) row.toNewWorkspaceSettings nowUs 0 ↔
        -2 ^ 63 ≤ nowUs.toInt - row.tracesRetentionDays.toInt * usPerDay ∧
          row.metricsRetentionDays ≤ row.tracesRetentionDays ∧
          row.logsRetentionDays ≤ row.tracesRetentionDays) ∧
      ¬ Honoured (bootstrap globalRetentionDays settingsRepo) row.toNewWorkspaceSettings nowUs 1) ∧
    (∀ (env : ApiEnv) (target : Except ApiError WorkspaceId) (actor : Option Uuid)
        (body : UpdateWorkspaceSettingsRequest) (state next : RetentionState)
        (row : WorkspaceSettings) (margin : Int),
      updateWorkspaceSettings env target actor body state = (next, .ok row) →
      (Honoured next.configStore row.toNewWorkspaceSettings nowUs margin ↔
        ∀ days ∈ [row.tracesRetentionDays, row.metricsRetentionDays, row.logsRetentionDays],
          Covers nowUs (state.configStore.getEffectiveDays row.workspaceId) margin days)) ∧
    (∀ (env : ApiEnv) (target : Except ApiError WorkspaceId) (retentionDays : UInt32)
        (state next : RetentionState) (response : WorkspaceRetentionResponse)
        (row : WorkspaceSettings),
      setWorkspaceRetention env target retentionDays state = (next, .ok response) →
      next.settingsRepo.getSettings response.workspaceId = some row → row.NonNegative →
      (Honoured next.configStore row.toNewWorkspaceSettings nowUs 0 ↔
        -2 ^ 63 ≤ nowUs.toInt - row.tracesRetentionDays.toInt * usPerDay) ∧
      ¬ Honoured next.configStore row.toNewWorkspaceSettings nowUs 1) := by
  refine ⟨?_, ?_, ?_⟩
  · intro globalRetentionDays settingsRepo row member nonNegative
    -- At start-up the days in the store are those of the traces.
    have effective : (bootstrap globalRetentionDays settingsRepo).getEffectiveDays row.workspaceId =
        row.tracesRetentionDays.toUInt32 := by
      rw [bootstrap_effective, SettingsTable.getSettings_eq_some.mpr ⟨member, rfl⟩]
    have traces := (toUInt32_toNat_eq_iff row.tracesRetentionDays).mpr nonNegative.traces
    rw [honoured_iff, honoured_iff, effective]
    refine ⟨covers_traces_iff nowUs traces, ?_⟩
    intro covered
    exact not_covers_beyond_traces nowUs traces (covered _ List.mem_cons_self)
  · intro env target actor body state next row margin saved
    have kept := (updateWorkspaceSettings_effect env target state actor body).1
    rw [saved] at kept
    rw [honoured_iff, kept]
  · intro env target retentionDays state next response row saved found nonNegative
    obtain ⟨effective, days⟩ := setWorkspaceRetention_saved saved found
    have traces : (retentionDays.toNat : Int) = row.tracesRetentionDays.toInt := by
      have := (toUInt32_toNat_eq_iff row.tracesRetentionDays).mpr nonNegative.traces
      rwa [days.1, UInt32.toUInt32_toInt32, ← days.1] at this
    rw [honoured_iff, honoured_iff, effective]
    refine ⟨?_, ?_⟩
    · rw [covers_traces_iff nowUs traces, days.1, days.2.1, days.2.2]
      simp
    · intro covered
      exact not_covers_beyond_traces nowUs traces (covered _ List.mem_cons_self)

/-- The first of January 2025. -/
def newYear : Int64 := 1735689600000000

/-- Settings of one workspace with the given days. -/
def settingsOf (traces metrics logs : Int32) : WorkspaceSettings where
  workspaceId := Uuid.nil
  tracesRetentionDays := traces
  metricsRetentionDays := metrics
  logsRetentionDays := logs
  maxIngestionRate := none
  filePushIntervalSecs := 300
  blocked := false
  captureLlmContentEnabled := true
  id := 1
  updatedAt := 0

/-- A table with the settings of one workspace. -/
def oneRow (row : WorkspaceSettings) : SettingsTable := ⟨[row], 2, by simp⟩

/-- An environment in which no call fails and no file is reclaimed. -/
def quietEnv (nowUs : Int64) : ApiEnv where
  nowUs := nowUs
  getFault := none
  upsertFault := none
  audited := false
  auditFault := none
  cleanup := quietCycle nowUs
  reclaim := fun _ table => (table, .ok ⟨0, 0, 0, []⟩)

/-- A server that was started with the settings of one workspace. -/
def startedWith (row : WorkspaceSettings) : RetentionState where
  settingsRepo := oneRow row
  configStore := bootstrap 90 (oneRow row)
  fileList := ⟨[], List.nodup_nil⟩
  auditLog := []

/-- The update that asks for the given days. -/
def updateTo (traces metrics logs : Int32) : UpdateWorkspaceSettingsRequest :=
  ⟨traces, metrics, logs, none, 300, false, true⟩

/-- Rows that are loaded or saved with traces kept the longest are honoured. -/
theorem cleanup_honours_long_traces :
    Honoured (bootstrap 90 (oneRow (settingsOf 30 14 7)))
      (settingsOf 30 14 7).toNewWorkspaceSettings newYear 0 ∧
    Honoured (updateWorkspaceSettings (quietEnv newYear) (.ok Uuid.nil) none (updateTo 20 14 7)
        (startedWith (settingsOf 30 14 7))).1.configStore
      (settingsOf 20 14 7).toNewWorkspaceSettings newYear 0 ∧
    Honoured (setWorkspaceRetention (quietEnv newYear) (.ok Uuid.nil) 14
        (startedWith (settingsOf 30 14 7))).1.configStore
      (settingsOf 14 14 14).toNewWorkspaceSettings newYear 0 := by
  -- The days of the traces are the longest ones in each of the three cases.
  obtain ⟨loaded, updated, set⟩ := cleanup_honours_signals_iff newYear
  refine ⟨?_, ?_, ?_⟩
  · exact (loaded 90 (oneRow (settingsOf 30 14 7)) (settingsOf 30 14 7) (by simp [oneRow])
      ⟨by decide, by decide, by decide⟩).1.mpr (by decide)
  · refine (updated (quietEnv newYear) (.ok Uuid.nil) none (updateTo 20 14 7)
      (startedWith (settingsOf 30 14 7)) _ _ 0 rfl).mpr ?_
    simp only [List.forall_mem_cons, List.not_mem_nil, false_implies, implies_true, and_true]
    decide
  · exact (set (quietEnv newYear) (.ok Uuid.nil) 14 (startedWith (settingsOf 30 14 7)) _ _
      ⟨(settingsOf 14 14 14).toNewWorkspaceSettings, 1, newYear⟩ rfl rfl
      ⟨by decide, by decide, by decide⟩).1.mpr (by decide)

/-- A file of metrics that is ten days old at the new year. -/
def tenDayMetrics : FileListEntry := fileEndingAt Uuid.nil "metrics" 1734825600000000

/-- Metrics that are to be kept for a month are marked when the traces' week is over. -/
theorem metrics_marked_after_a_week :
    Marks ⟨[tenDayMetrics], by simp⟩
      (runNowScoped (bootstrap 90 (oneRow (settingsOf 7 30 30))) (quietCycle newYear) none
        ⟨[tenDayMetrics], by simp⟩).1 tenDayMetrics ∧
      (settingsOf 7 30 30).retentionDays tenDayMetrics.signalType = some 30 ∧
      newYear.toInt - 30 * usPerDay < tenDayMetrics.maxTs.toInt := by
  refine ⟨?_, rfl, by decide⟩
  rw [runNowScoped_marks]
  exact ⟨List.mem_singleton.mpr rfl, rfl, rfl, by simp, by decide, rfl⟩

end Zradar.Retention
