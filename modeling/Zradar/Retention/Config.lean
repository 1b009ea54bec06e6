import Mathlib.Data.List.AList
import Zradar.Wal.Record

/-! The retention configuration store, and the cutoffs that cleanup and queries take from it. -/

namespace Zradar.Retention

/-- Retention configuration for a single workspace. -/
structure WorkspaceRetentionConfig where
  workspaceId : WorkspaceId
  retentionDays : UInt32
  deriving DecidableEq

/-- The store for retention configuration, which falls back to a global default. -/
structure RetentionConfigStore where
  configs : AList fun _ : WorkspaceId => WorkspaceRetentionConfig
  globalDefaultDays : UInt32

namespace RetentionConfigStore

/-- A store without a config of any workspace. -/
def new (globalDefaultDays : UInt32) : RetentionConfigStore where
  configs := ∅
  globalDefaultDays := globalDefaultDays

/-- Insert or replace the retention config for a workspace. -/
def upsert (store : RetentionConfigStore) (config : WorkspaceRetentionConfig) :
    RetentionConfigStore :=
  { store with configs := store.configs.insert config.workspaceId config }

/-- The effective retention in days for a workspace. -/
def getEffectiveDays (store : RetentionConfigStore) (workspaceId : WorkspaceId) : UInt32 :=
  match store.configs.lookup workspaceId with
  | some config => config.retentionDays
  | none => store.globalDefaultDays

/-- The retention cutoff in microseconds, at a reading of the clock. -/
def getCutoffUs (store : RetentionConfigStore) (nowUs : Int64) (workspaceId : WorkspaceId) :
    Int64 :=
  let days := store.getEffectiveDays workspaceId
  -- A release build wraps on overflow, and so do these operations.
  let secs := Int64.ofNat days.toNat * 86400
  nowUs - secs * 1000000

/-- The retention cutoff in nanoseconds, at a reading of the clock that may be out of range. -/
def getCutoffNs (store : RetentionConfigStore) (nowNs : Option Int64) (workspaceId : WorkspaceId) :
    Int64 :=
  let days := store.getEffectiveDays workspaceId
  let secs := Int64.ofNat days.toNat * 86400
  nowNs.getD 0 - secs * 1000000000

@[simp] theorem getEffectiveDays_new (globalDefaultDays : UInt32) (workspaceId : WorkspaceId) :
    (new globalDefaultDays).getEffectiveDays workspaceId = globalDefaultDays := by
  simp [getEffectiveDays, new]

/-- A config decides the days of its own workspace and of no other. -/
@[simp] theorem getEffectiveDays_upsert (store : RetentionConfigStore)
    (config : WorkspaceRetentionConfig) (workspaceId : WorkspaceId) :
    (store.upsert config).getEffectiveDays workspaceId =
      if workspaceId = config.workspaceId then config.retentionDays
      else store.getEffectiveDays workspaceId := by
  by_cases same : workspaceId = config.workspaceId
  · subst same
    simp [getEffectiveDays, upsert]
  · simp [getEffectiveDays, upsert, same]

end RetentionConfigStore

/-- The cast of a number of days to the store is the number, unless it is negative. -/
theorem toUInt32_toNat_eq_iff (days : Int32) :
    (days.toUInt32.toNat : Int) = days.toInt ↔ 0 ≤ days.toInt := by
  have signed : days.toInt = days.toBitVec.toInt := rfl
  have unsigned : days.toUInt32.toNat = days.toBitVec.toNat := rfl
  rw [signed, unsigned, BitVec.toInt_eq_toNat_cond]
  split <;> omega

/-- The cast of a number of days to the table is not negative below the bound of the type. -/
theorem toInt32_nonneg_iff (days : UInt32) : 0 ≤ days.toInt32.toInt ↔ days.toNat < 2 ^ 31 := by
  have signed : days.toInt32.toInt = days.toBitVec.toInt := rfl
  have unsigned : days.toNat = days.toBitVec.toNat := rfl
  rw [signed, unsigned, BitVec.toInt_eq_toNat_cond]
  split <;> omega

/-- Microseconds in one day. -/
def usPerDay : Int := 86400000000

/-- How often the subtraction of a number of days from the clock wraps past the lower end. -/
def cutoffWraps (nowUs : Int64) (days : UInt32) : Int :=
  (2 ^ 63 - 1 - (nowUs.toInt - days.toNat * usPerDay)) / 2 ^ 64

theorem cutoffWraps_nonneg (nowUs : Int64) (days : UInt32) : 0 ≤ cutoffWraps nowUs days := by
  have := nowUs.toInt_lt
  simp only [cutoffWraps, usPerDay]
  omega

/-- Nothing wraps exactly when the exact cutoff is still a 64-bit number. -/
theorem cutoffWraps_eq_zero (nowUs : Int64) (days : UInt32) :
    cutoffWraps nowUs days = 0 ↔ -2 ^ 63 ≤ nowUs.toInt - days.toNat * usPerDay := by
  have := nowUs.toInt_lt
  simp only [cutoffWraps, usPerDay]
  omega

/-- Wrapping at each operation of a cutoff is wrapping once at the end. -/
theorem sub_span_toInt (now : Int64) (days : UInt32) (unit : Int64) :
    (now - Int64.ofNat days.toNat * 86400 * unit).toInt =
      (now.toInt - days.toNat * 86400 * unit.toInt).bmod (2 ^ 64) := by
  -- A number of days is small enough to be taken as it is.
  have small : (Int64.ofNat days.toNat).toInt = days.toNat := by
    apply Int64.toInt_ofNat_of_lt
    have := days.toNat_lt
    omega
  simp only [Int64.toInt_sub, Int64.toInt_mul, small, Int.sub_bmod_bmod, Int.bmod_mul_bmod]
  rfl

/-- The cutoff is the exact one, moved up by one range of 64 bits for each time it wraps. -/
theorem getCutoffUs_toInt (store : RetentionConfigStore) (nowUs : Int64)
    (workspaceId : WorkspaceId) :
    (store.getCutoffUs nowUs workspaceId).toInt =
      nowUs.toInt - (store.getEffectiveDays workspaceId).toNat * usPerDay +
        2 ^ 64 * cutoffWraps nowUs (store.getEffectiveDays workspaceId) := by
  -- The difference wraps at most once.
  have above := nowUs.toInt_lt
  unfold RetentionConfigStore.getCutoffUs cutoffWraps usPerDay
  rw [sub_span_toInt, Int.bmod_def]
  generalize (store.getEffectiveDays workspaceId).toNat = days
  have unit : (1000000 : Int64).toInt = 1000000 := rfl
  rw [unit]
  split <;> omega

end Zradar.Retention
