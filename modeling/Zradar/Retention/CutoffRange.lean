import Zradar.Query.TimeRange
import Zradar.Retention.Honoured

/-! Which numbers of days the cutoffs of cleanup and of queries count back without overflow. -/

namespace Zradar.Retention

open Query

/-- The microseconds of an instant, which is a number of nanoseconds, rounded down. -/
def timestampMicros (now : Int) : Int64 := Int64.ofInt (now / 1000)

/-- A cutoff that is the exact one, where every step on the way to it stays inside of 64 bits. -/
structure ExactCutoff (reading perSecond days : Int) (cutoff : Int64) : Prop where
  seconds : Fits (days * 86400)
  span : Fits (days * 86400 * perSecond)
  value : cutoff.toInt = reading - days * 86400 * perSecond

/-- The cutoffs of cleanup and of queries, read off one clock, are exact. -/
structure CutoffsExact (store : RetentionConfigStore) (now : Int) (workspaceId : WorkspaceId)
    (days : Int) : Prop where
  cleanup : ExactCutoff (now / 1000) 1000000 days
    (store.getCutoffUs (timestampMicros now) workspaceId)
  queries : ExactCutoff now 1000000000 days
    (store.getCutoffNs (timestampNanosOpt now) workspaceId)

/-- A number of days that can be counted back from an instant, in nanoseconds of 64 bits. -/
structure CountsBack (now days : Int) : Prop where
  nonneg : 0 ≤ days
  /-- More days than these have more nanoseconds than 63 bits hold. -/
  short : days ≤ 106751
  clock : Fits now
  back : -2 ^ 63 ≤ now - days * nsPerDay

/-- A clock between the epoch and the end of 64 bits leaves only the number of days to decide. -/
theorem countsBack_iff {now days : Int} (epoch : 0 ≤ now) (clock : now < 2 ^ 63) :
    CountsBack now days ↔ 0 ≤ days ∧ days ≤ 106751 := by
  constructor
  · intro counts
    exact ⟨counts.nonneg, counts.short⟩
  · rintro ⟨nonneg, short⟩
    refine ⟨nonneg, short, ⟨by omega, clock⟩, ?_⟩
    unfold nsPerDay
    omega

instance (now days : Int) : Decidable (CountsBack now days) :=
  decidable_of_iff (0 ≤ days ∧ days ≤ 106751 ∧ Fits now ∧ -2 ^ 63 ≤ now - days * nsPerDay)
    ⟨fun ⟨nonneg, short, clock, back⟩ => ⟨nonneg, short, clock, back⟩,
      fun counts => ⟨counts.nonneg, counts.short, counts.clock, counts.back⟩⟩

/-- The cast of a number of days to the store keeps its residue. -/
theorem toUInt32_toNat (days : Int32) : (days.toUInt32.toNat : Int) = days.toInt % 2 ^ 32 := by
  have signed : days.toInt = days.toBitVec.toInt := rfl
  have unsigned : days.toUInt32.toNat = days.toBitVec.toNat := rfl
  have below := days.toBitVec.isLt
  rw [signed, unsigned, BitVec.toInt_eq_toNat_cond]
  split <;> omega

section

variable {store : RetentionConfigStore} {now : Int} {workspaceId : WorkspaceId} {days : Int}

/-- Days that can be counted back are counted back exactly. -/
theorem cutoffsExact_of_countsBack
    (stored : ((store.getEffectiveDays workspaceId).toNat : Int) = days)
    (counts : CountsBack now days) : CutoffsExact store now workspaceId days := by
  obtain ⟨nonneg, short, clock, back⟩ := counts
  obtain ⟨read, nanos⟩ := timestampNanosOpt_of_fits clock
  obtain ⟨low, high⟩ := clock
  unfold nsPerDay at back
  have micros : (timestampMicros now).toInt = now / 1000 :=
    Int64.toInt_ofInt_of_le (by omega) (by omega)
  have perMicro : (1000000 : Int64).toInt = 1000000 := rfl
  have perNano : (1000000000 : Int64).toInt = 1000000000 := rfl
  refine ⟨⟨⟨by omega, by omega⟩, ⟨by omega, by omega⟩, ?_⟩,
    ⟨⟨by omega, by omega⟩, ⟨by omega, by omega⟩, ?_⟩⟩
  -- Neither difference leaves the range, so that wrapping at its end does nothing.
  · unfold RetentionConfigStore.getCutoffUs
    rw [sub_span_toInt, micros, perMicro, stored, Int.bmod_def]
    split <;> omega
  · unfold RetentionConfigStore.getCutoffNs
    rw [sub_span_toInt, read, Option.getD_some, nanos, perNano, stored, Int.bmod_def]
    split <;> omega

/-- Days that are negative before the cast to the store are never counted back exactly. -/
theorem nonneg_of_cutoffsExact (least : -2 ^ 31 ≤ days)
    (stored : ((store.getEffectiveDays workspaceId).toNat : Int) = days % 2 ^ 32)
    (exact : CutoffsExact store now workspaceId days) : 0 ≤ days := by
  by_contra negative
  have value := exact.cleanup.value
  have micros : (timestampMicros now).toInt = (now / 1000).bmod (2 ^ 64) := Int64.toInt_ofInt
  have perMicro : (1000000 : Int64).toInt = 1000000 := rfl
  have cast : days % 2 ^ 32 = days + 2 ^ 32 := by omega
  unfold RetentionConfigStore.getCutoffUs at value
  rw [sub_span_toInt, micros, perMicro, stored, cast, Int.bmod_sub_bmod, Int.bmod_def] at value
  generalize now / 1000 = reading at value
  -- The cast adds so many days that their microseconds are no multiple of the range.
  split at value <;> omega

/-- The cutoffs are exact exactly for the days that can be counted back. -/
theorem cutoffsExact_iff (least : -2 ^ 31 ≤ days)
    (stored : ((store.getEffectiveDays workspaceId).toNat : Int) = days % 2 ^ 32) :
    CutoffsExact store now workspaceId days ↔ CountsBack now days := by
  constructor
  · intro exact
    have nonneg := nonneg_of_cutoffsExact least stored exact
    obtain ⟨_, ⟨_, span⟩, value⟩ := exact.queries
    have short : days ≤ 106751 := by omega
    have perNano : (1000000000 : Int64).toInt = 1000000000 := rfl
    have clock : Fits now := by
      -- A clock out of range is read as the epoch, and then the exact cutoff is another one.
      by_contra outside
      have zero : (0 : Int64).toInt = 0 := rfl
      have cast : days % 2 ^ 32 = days := by omega
      unfold RetentionConfigStore.getCutoffNs at value
      rw [sub_span_toInt, timestampNanosOpt_of_not_fits outside, Option.getD_none, zero, perNano,
        stored, cast, Int.bmod_def] at value
      unfold Fits at outside
      split at value <;> omega
    refine ⟨nonneg, short, clock, ?_⟩
    have lower := (store.getCutoffNs (timestampNanosOpt now) workspaceId).le_toInt
    unfold nsPerDay
    omega
  · intro counts
    refine cutoffsExact_of_countsBack ?_ counts
    have nonneg := counts.nonneg
    have short := counts.short
    omega

end

/-- Of two exact cutoffs off one reading, the one of more days is earlier. -/
theorem ExactCutoff.lt {reading perSecond fewer more : Int} {early late : Int64}
    (positive : 0 < perSecond) (one : ExactCutoff reading perSecond fewer late)
    (two : ExactCutoff reading perSecond more early) (less : fewer < more) : early < late := by
  have spans : fewer * 86400 * perSecond < more * 86400 * perSecond :=
    Int.mul_lt_mul_of_pos_right (by omega) positive
  rw [Int64.lt_iff_toInt_lt, one.value, two.value]
  omega

/-- A settings update that is answered with a row has put that row into the table. -/
theorem updateWorkspaceSettings_mem {env : ApiEnv} {target : Except ApiError WorkspaceId}
    {actor : Option Uuid} {body : UpdateWorkspaceSettingsRequest} {state next : RetentionState}
    {row : WorkspaceSettings}
    (saved : updateWorkspaceSettings env target actor body state = (next, .ok row)) :
    row ∈ next.settingsRepo.rows := by
  unfold updateWorkspaceSettings onTarget saveSettings at saved
  cases target with
  | error error => cases saved
  | ok workspaceId =>
    cases fault : env.upsertFault with
    | some error =>
      rw [fault] at saved
      cases saved
    | none =>
      rw [fault] at saved
      simp only at saved
      -- With or without an audit log, the answer is the row that was just saved.
      split at saved
      · split at saved
        · cases saved
        · cases saved
          exact SettingsTable.upsertSettings_mem _ _ _
      · cases saved
        exact SettingsTable.upsertSettings_mem _ _ _

/-- The cutoffs of a row that is loaded at start-up. -/
theorem cutoffsExact_bootstrap_iff (globalRetentionDays : UInt32) {settingsRepo : SettingsTable}
    {row : WorkspaceSettings} (member : row ∈ settingsRepo.rows) (now : Int) :
    CutoffsExact (bootstrap globalRetentionDays settingsRepo) now row.workspaceId
        row.tracesRetentionDays.toInt ↔ CountsBack now row.tracesRetentionDays.toInt := by
  apply cutoffsExact_iff
  · exact row.tracesRetentionDays.le_toInt
  · rw [bootstrap_effective, SettingsTable.getSettings_eq_some.mpr ⟨member, rfl⟩]
    exact toUInt32_toNat row.tracesRetentionDays

/-- The cutoffs of a number of days that the store takes for a workspace. -/
theorem cutoffsExact_upsert_iff (store : RetentionConfigStore) (now : Int)
    (workspaceId : WorkspaceId) (days : UInt32) :
    CutoffsExact (store.upsert ⟨workspaceId, days⟩) now workspaceId days.toNat ↔
      CountsBack now days.toNat := by
  have below := days.toNat_lt
  apply cutoffsExact_iff
  · omega
  · simp only [RetentionConfigStore.getEffectiveDays_upsert, if_true]
    omega

/--
The cutoffs of a number of days are exact if and only if it can be counted back, whether the days
are set through the retention API, given to a cleanup, or in a row that is loaded at start-up, saved
through the settings API or not. Of two such numbers the greater one has the earlier cutoffs.
-/
theorem retention_cutoffs_exact_iff (now : Int) :
    (∀ (env : ApiEnv) (target : Except ApiError WorkspaceId) (retentionDays : UInt32)
        (state next : RetentionState) (response : WorkspaceRetentionResponse),
      setWorkspaceRetention env target retentionDays state = (next, .ok response) →
      (CutoffsExact next.configStore now response.workspaceId retentionDays.toNat ↔
        CountsBack now retentionDays.toNat)) ∧
    (∀ (env : ApiEnv) (workspaceId : WorkspaceId) (retentionDays : UInt32)
        (state : RetentionState),
      CutoffsExact (runCleanup env (.ok workspaceId) (some retentionDays) state).1.configStore now
        workspaceId retentionDays.toNat ↔ CountsBack now retentionDays.toNat) ∧
    (∀ (env : ApiEnv) (target : Except ApiError WorkspaceId) (actor : Option Uuid)
        (body : UpdateWorkspaceSettingsRequest) (state next : RetentionState)
        (row : WorkspaceSettings) (globalRetentionDays : UInt32),
      updateWorkspaceSettings env target actor body state = (next, .ok row) →
      (CutoffsExact (bootstrap globalRetentionDays next.settingsRepo) now row.workspaceId
        row.tracesRetentionDays.toInt ↔ CountsBack now row.tracesRetentionDays.toInt)) ∧
    (∀ (globalRetentionDays : UInt32) (settingsRepo : SettingsTable) (row : WorkspaceSettings),
      row ∈ settingsRepo.rows →
      (CutoffsExact (bootstrap globalRetentionDays settingsRepo) now row.workspaceId
        row.tracesRetentionDays.toInt ↔ CountsBack now row.tracesRetentionDays.toInt)) ∧
    ∀ (store other : RetentionConfigStore) (workspaceId otherId : WorkspaceId) (fewer more : Int),
      CutoffsExact store now workspaceId fewer → CutoffsExact other now otherId more →
      fewer < more →
      other.getCutoffUs (timestampMicros now) otherId <
          store.getCutoffUs (timestampMicros now) workspaceId ∧
        other.getCutoffNs (timestampNanosOpt now) otherId <
          store.getCutoffNs (timestampNanosOpt now) workspaceId := by
  -- Wherever the days come from, they end up in the store under the workspace.
  refine ⟨?_, ?_, ?_, ?_, ?_⟩
  · intro env target retentionDays state next response saved
    rw [(setWorkspaceRetention_ok saved).1]
    exact cutoffsExact_upsert_iff _ now _ retentionDays
  · intro env workspaceId retentionDays state
    rw [(runCleanup_effect env (.ok workspaceId) state (some retentionDays)).2]
    exact cutoffsExact_upsert_iff _ now workspaceId retentionDays
  · intro env target actor body state next row globalRetentionDays saved
    exact cutoffsExact_bootstrap_iff globalRetentionDays (updateWorkspaceSettings_mem saved) now
  · intro globalRetentionDays settingsRepo row member
    exact cutoffsExact_bootstrap_iff globalRetentionDays member now
  · intro store other workspaceId otherId fewer more one two less
    exact ⟨one.cleanup.lt (by decide) two.cleanup less, one.queries.lt (by decide) two.queries less⟩

/-- The first of January 2025, in nanoseconds. -/
def newYearNs : Int := 1735689600000000000

/-- The longest retention that can be counted back is exact wherever it comes from. -/
theorem longest_retention_is_exact :
    CutoffsExact (setWorkspaceRetention (quietEnv newYear) (.ok Uuid.nil) 106751
        (startedWith (settingsOf 30 14 7))).1.configStore newYearNs Uuid.nil 106751 ∧
      CutoffsExact (runCleanup (quietEnv newYear) (.ok Uuid.nil) (some 106751)
        (startedWith (settingsOf 30 14 7))).1.configStore newYearNs Uuid.nil 106751 ∧
      CutoffsExact (bootstrap 90 (updateWorkspaceSettings (quietEnv newYear) (.ok Uuid.nil) none
        (updateTo 106751 14 7) (startedWith (settingsOf 30 14 7))).1.settingsRepo) newYearNs Uuid.nil
          106751 ∧
      CutoffsExact (bootstrap 90 (oneRow (settingsOf 106751 14 7))) newYearNs Uuid.nil 106751 ∧
      (bootstrap 90 (oneRow (settingsOf 106751 14 7))).getCutoffNs (timestampNanosOpt newYearNs)
          Uuid.nil <
        (bootstrap 90 (oneRow (settingsOf 30 14 7))).getCutoffNs (timestampNanosOpt newYearNs)
          Uuid.nil := by
  -- That many days count back from the new year, and the same condition serves every source.
  obtain ⟨set, cleaned, updated, loaded, ordered⟩ := retention_cutoffs_exact_iff newYearNs
  have long := (loaded 90 (oneRow (settingsOf 106751 14 7)) (settingsOf 106751 14 7)
    (by simp [oneRow])).mpr (by decide)
  have short := (loaded 90 (oneRow (settingsOf 30 14 7)) (settingsOf 30 14 7)
    (by simp [oneRow])).mpr (by decide)
  refine ⟨?_, ?_, ?_, long, ?_⟩
  · exact (set (quietEnv newYear) (.ok Uuid.nil) 106751 (startedWith (settingsOf 30 14 7)) _
      ⟨Uuid.nil, 106751, false, 106751⟩ rfl).mpr (by decide)
  · exact (cleaned (quietEnv newYear) Uuid.nil 106751 (startedWith (settingsOf 30 14 7))).mpr
      (by decide)
  · exact (updated (quietEnv newYear) (.ok Uuid.nil) none (updateTo 106751 14 7)
      (startedWith (settingsOf 30 14 7)) _ _ 90 rfl).mpr (by decide)
  · exact (ordered _ _ _ _ _ _ short long (by decide)).2

/-- A retention of two hundred thousand days puts the cutoff of queries into the future. -/
theorem long_retention_hides_all_rows :
    let store := (setWorkspaceRetention (quietEnv newYear) (.ok Uuid.nil) 200000
      (startedWith (settingsOf 30 14 7))).1.configStore
    newYearNs < (store.getCutoffNs (timestampNanosOpt newYearNs) Uuid.nil).toInt ∧
      ¬ CutoffsExact store newYearNs Uuid.nil 200000 := by
  refine ⟨by decide, ?_⟩
  apply (cutoffsExact_upsert_iff _ newYearNs Uuid.nil 200000).not.mpr
  decide

end Zradar.Retention
