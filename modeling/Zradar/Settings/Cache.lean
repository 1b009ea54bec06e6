import Zradar.Lib.Run
import Zradar.Retention.Settings

/-! The cache in front of the settings table, with every call on it cut into its atomic steps. -/

namespace Zradar.Settings

open Auth Parquet Retention

/-- What the cache holds for a workspace: its settings, or that it has none, and until when. -/
structure CacheEntry where
  settings : Option WorkspaceSettings
  expiresAt : Nat
  deriving DecidableEq

/-- The settings table behind a cache whose entries live for a while. -/
structure CachedSettingsRepository where
  inner : SettingsTable
  cache : WorkspaceId → Option CacheEntry
  ttl : Nat

namespace CachedSettingsRepository

/-- A repository with nothing in its cache. -/
def new (inner : SettingsTable) (ttl : Nat) : CachedSettingsRepository where
  inner := inner
  cache := fun _ => none
  ttl := ttl

/-- The answer of the cache, which an entry gives only while it has not expired. -/
def cached (repo : CachedSettingsRepository) (workspaceId : WorkspaceId) (now : Nat) :
    Option (Option WorkspaceSettings) :=
  match repo.cache workspaceId with
  | some entry => if entry.expiresAt > now then some entry.settings else none
  | none => none

/-- The repository with one entry of its cache replaced. -/
def insert (repo : CachedSettingsRepository) (workspaceId : WorkspaceId) (entry : CacheEntry) :
    CachedSettingsRepository :=
  { repo with cache := Function.update repo.cache workspaceId (some entry) }

@[simp] theorem insert_inner (repo : CachedSettingsRepository) (workspaceId : WorkspaceId)
    (entry : CacheEntry) : (repo.insert workspaceId entry).inner = repo.inner := rfl

/-- An inserted entry answers for its workspace while it lives, and for no other one. -/
theorem cached_insert (repo : CachedSettingsRepository) (workspaceId other : WorkspaceId)
    (entry : CacheEntry) (now : Nat) :
    (repo.insert workspaceId entry).cached other now =
      if other = workspaceId then if entry.expiresAt > now then some entry.settings else none
      else repo.cached other now := by
  unfold cached insert
  by_cases same : other = workspaceId
  · simp [same]
  · simp [same]

/-- What the cache answers later it answers already now. -/
theorem cached_of_later {repo : CachedSettingsRepository} {workspaceId : WorkspaceId}
    {now later : Nat} {settings : Option WorkspaceSettings} (order : now ≤ later)
    (found : repo.cached workspaceId later = some settings) :
    repo.cached workspaceId now = some settings := by
  -- An entry that is alive later is alive now.
  unfold cached at found ⊢
  cases held : repo.cache workspaceId with
  | none => simp [held] at found
  | some entry =>
    simp only [held, gt_iff_lt, Option.ite_none_right_eq_some, Option.some.injEq] at found ⊢
    exact ⟨by omega, found.2⟩

end CachedSettingsRepository

/--
Where a call stands between two of its steps.

A read remembers the newest upsert that had returned for its workspace when it was called.
An upsert remembers the place of its write among those of the workspace.
-/
inductive Call
  | get (workspaceId : WorkspaceId) (floor : Nat)
  | missed (workspaceId : WorkspaceId) (floor now : Nat)
  | read (workspaceId : WorkspaceId) (floor now : Nat) (settings : Option WorkspaceSettings)
  | upsert (settings : NewWorkspaceSettings)
  | written (saved : WorkspaceSettings) (position : Nat)
  | returned
  deriving DecidableEq

/-- What a read returned, with the newest upsert that had returned when it was called. -/
structure Answer where
  workspaceId : WorkspaceId
  floor : Nat
  settings : Option WorkspaceSettings
  deriving DecidableEq

/--
The repository, the clock and the calls on it.

Beside them stands what a caller could have seen: for each workspace the rows that its upserts
wrote, in the order of the writes, how far those reach whose upsert has returned, and what the
reads have returned.
-/
structure CacheState where
  repo : CachedSettingsRepository
  clock : Nat
  calls : List Call
  saved : WorkspaceId → List WorkspaceSettings
  acknowledged : WorkspaceId → Nat
  answers : List Answer

namespace CacheState

/-- A fresh instance over the table. -/
def initial (inner : SettingsTable) (ttl clock : Nat) : CacheState where
  repo := .new inner ttl
  clock := clock
  calls := []
  saved := fun _ => []
  acknowledged := fun _ => 0
  answers := []

/-- The state with one call moved on. -/
def setCall (state : CacheState) (call : Nat) (place : Call) : CacheState :=
  { state with calls := state.calls.set call place }

/-- The state with a read returned. -/
def answer (state : CacheState) (call : Nat) (given : Answer) : CacheState :=
  { state with
    calls := state.calls.set call .returned
    answers := state.answers ++ [given] }

/-- The state with a row written to the table. -/
def write (state : CacheState) (settings : NewWorkspaceSettings) (nowUs : Int64) : CacheState :=
  let upserted := state.repo.inner.upsertSettings settings nowUs
  { state with
    repo := { state.repo with inner := upserted.1 }
    saved := Function.update state.saved settings.workspaceId
      (state.saved settings.workspaceId ++ [upserted.2]) }

/-- The state with an entry put in the cache. -/
def insert (state : CacheState) (workspaceId : WorkspaceId) (entry : CacheEntry) : CacheState :=
  { state with repo := state.repo.insert workspaceId entry }

/-- The state with an upsert of the workspace returned. -/
def acknowledge (state : CacheState) (workspaceId : WorkspaceId) (position : Nat) : CacheState :=
  { state with
    acknowledged := Function.update state.acknowledged workspaceId
      (max (state.acknowledged workspaceId) (position + 1)) }

end CacheState

/-- How the write of an upsert ends: a failed one may or may not have reached the table. -/
inductive WriteOutcome
  | saved
  | failed (applied : Bool)
  deriving DecidableEq

/-- The steps of the calls, each under the number of its call, and the passing of time. -/
inductive CacheLabel
  | elapse (ticks : Nat)
  | getSettings (workspaceId : WorkspaceId)
  | lookUp (call : Nat)
  | readInner (call : Nat) (fails : Bool)
  | fillCache (call : Nat)
  | upsertSettings (settings : NewWorkspaceSettings)
  | writeInner (call : Nat) (nowUs : Int64) (outcome : WriteOutcome)
  | updateCache (call : Nat)
  deriving DecidableEq

/-- One step of one call, if the call stands where it can take it. -/
def cacheStep (state : CacheState) : CacheLabel → Option CacheState
  | .elapse ticks => some { state with clock := state.clock + ticks }
  | .getSettings workspaceId =>
    some { state with calls := state.calls ++ [.get workspaceId (state.acknowledged workspaceId)] }
  | .lookUp call =>
    match state.calls[call]? with
    | some (.get workspaceId floor) =>
      match state.repo.cached workspaceId state.clock with
      | some settings => some (state.answer call ⟨workspaceId, floor, settings⟩)
      | none => some (state.setCall call (.missed workspaceId floor state.clock))
    | _ => none
  | .readInner call fails =>
    match state.calls[call]? with
    | some (.missed workspaceId floor now) =>
      if fails then some (state.setCall call .returned)
      else
        some (state.setCall call
          (.read workspaceId floor now (state.repo.inner.getSettings workspaceId)))
    | _ => none
  | .fillCache call =>
    match state.calls[call]? with
    | some (.read workspaceId floor now settings) =>
      -- The entry lives from the lookup on, not from the read that follows it.
      some ((state.insert workspaceId ⟨settings, now + state.repo.ttl⟩).answer call
        ⟨workspaceId, floor, settings⟩)
    | _ => none
  | .upsertSettings settings => some { state with calls := state.calls ++ [.upsert settings] }
  | .writeInner call nowUs outcome =>
    match state.calls[call]? with
    | some (.upsert settings) =>
      match outcome with
      | .saved =>
        some ((state.write settings nowUs).setCall call
          (.written (state.repo.inner.upsertSettings settings nowUs).2
            (state.saved settings.workspaceId).length))
      | .failed true => some ((state.write settings nowUs).setCall call .returned)
      | .failed false => some (state.setCall call .returned)
    | _ => none
  | .updateCache call =>
    match state.calls[call]? with
    | some (.written saved position) =>
      let entry : CacheEntry := ⟨some saved, state.clock + state.repo.ttl⟩
      some (((state.insert saved.workspaceId entry).acknowledge saved.workspaceId position).setCall
        call .returned)
    | _ => none

/-- What a step can do, one case for each way it can go. -/
inductive CacheStep (state : CacheState) : CacheLabel → CacheState → Prop
  | elapse (ticks : Nat) :
    CacheStep state (.elapse ticks) { state with clock := state.clock + ticks }
  | getSettings (workspaceId : WorkspaceId) :
    CacheStep state (.getSettings workspaceId)
      { state with calls := state.calls ++ [.get workspaceId (state.acknowledged workspaceId)] }
  | hit {call : Nat} {workspaceId : WorkspaceId} {floor : Nat} {settings : Option WorkspaceSettings}
    (stands : .get workspaceId floor ∈ state.calls)
    (found : state.repo.cached workspaceId state.clock = some settings) :
    CacheStep state (.lookUp call) (state.answer call ⟨workspaceId, floor, settings⟩)
  | miss {call : Nat} {workspaceId : WorkspaceId} {floor : Nat}
    (stands : .get workspaceId floor ∈ state.calls)
    (absent : state.repo.cached workspaceId state.clock = none) :
    CacheStep state (.lookUp call) (state.setCall call (.missed workspaceId floor state.clock))
  | readInner {call : Nat} {workspaceId : WorkspaceId} {floor now : Nat}
    (stands : .missed workspaceId floor now ∈ state.calls) :
    CacheStep state (.readInner call false)
      (state.setCall call (.read workspaceId floor now (state.repo.inner.getSettings workspaceId)))
  | fillCache {call : Nat} {workspaceId : WorkspaceId} {floor now : Nat}
    {settings : Option WorkspaceSettings}
    (stands : state.calls[call]? = some (.read workspaceId floor now settings)) :
    CacheStep state (.fillCache call)
      ((state.insert workspaceId ⟨settings, now + state.repo.ttl⟩).answer call
        ⟨workspaceId, floor, settings⟩)
  | upsertSettings (settings : NewWorkspaceSettings) :
    CacheStep state (.upsertSettings settings)
      { state with calls := state.calls ++ [.upsert settings] }
  | saved {call : Nat} (nowUs : Int64) (settings : NewWorkspaceSettings) :
    CacheStep state (.writeInner call nowUs .saved)
      ((state.write settings nowUs).setCall call
        (.written (state.repo.inner.upsertSettings settings nowUs).2
          (state.saved settings.workspaceId).length))
  | lost {call : Nat} (nowUs : Int64) (settings : NewWorkspaceSettings) :
    CacheStep state (.writeInner call nowUs (.failed true))
      ((state.write settings nowUs).setCall call .returned)
  | failed {label : CacheLabel} {call : Nat} (quiet : ∀ call, label ≠ .fillCache call)
    (silent : ∀ call, label ≠ .updateCache call) :
    CacheStep state label (state.setCall call .returned)
  | updateCache {call : Nat} {saved : WorkspaceSettings} {position : Nat}
    (stands : state.calls[call]? = some (.written saved position)) :
    CacheStep state (.updateCache call)
      (((state.insert saved.workspaceId ⟨some saved, state.clock + state.repo.ttl⟩).acknowledge
        saved.workspaceId position).setCall call .returned)

/-- Every step is one of the cases. -/
theorem cacheStep_cases {state next : CacheState} {label : CacheLabel}
    (stepped : cacheStep state label = some next) : CacheStep state label next := by
  -- Each label is taken apart by where its call stands, and then by what the step finds.
  cases label with
  | elapse ticks =>
    cases stepped
    exact .elapse ticks
  | getSettings workspaceId =>
    cases stepped
    exact .getSettings workspaceId
  | upsertSettings settings =>
    cases stepped
    exact .upsertSettings settings
  | lookUp call =>
    simp only [cacheStep] at stepped
    split at stepped
    · rename_i workspaceId floor stands
      have member := List.mem_of_getElem? stands
      split at stepped
      · rename_i settings found
        cases stepped
        exact .hit member found
      · rename_i absent
        cases stepped
        exact .miss member absent
    · cases stepped
  | readInner call fails =>
    simp only [cacheStep] at stepped
    split at stepped
    · rename_i workspaceId floor now stands
      cases fails with
      | true =>
        cases stepped
        exact .failed (by simp) (by simp)
      | false =>
        cases stepped
        exact .readInner (List.mem_of_getElem? stands)
    · cases stepped
  | fillCache call =>
    simp only [cacheStep] at stepped
    split at stepped
    · rename_i stands
      cases stepped
      exact .fillCache stands
    · cases stepped
  | writeInner call nowUs outcome =>
    simp only [cacheStep] at stepped
    split at stepped
    · rename_i settings stands
      match outcome with
      | .saved =>
        cases stepped
        exact .saved nowUs settings
      | .failed true =>
        cases stepped
        exact .lost nowUs settings
      | .failed false =>
        cases stepped
        exact .failed (by simp) (by simp)
    · cases stepped
  | updateCache call =>
    simp only [cacheStep] at stepped
    split at stepped
    · rename_i stands
      cases stepped
      exact .updateCache stands
    · cases stepped

end Zradar.Settings
