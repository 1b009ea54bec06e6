import Zradar.Settings.Cache

/-! When a read that follows an upsert sees what the upsert saved. -/

namespace Zradar.Settings

open Auth Parquet Retention

/--
The settings are those of the newest upsert that had returned, or of a later one.

The floor counts the writes of the workspace up to that upsert, and is zero before the first one.
-/
def AsNewAs (saved : List WorkspaceSettings) (floor : Nat) (settings : Option WorkspaceSettings) :
    Prop :=
  floor = 0 ∨ ∃ row ∈ saved.drop (floor - 1), settings = some row

instance (saved : List WorkspaceSettings) (floor : Nat) (settings : Option WorkspaceSettings) :
    Decidable (AsNewAs saved floor settings) :=
  inferInstanceAs (Decidable (_ ∨ _))

theorem AsNewAs.mono {saved : List WorkspaceSettings} {floor lower : Nat}
    {settings : Option WorkspaceSettings} (held : AsNewAs saved floor settings)
    (order : lower ≤ floor) : AsNewAs saved lower settings := by
  obtain zero | ⟨row, later, rfl⟩ := held
  · exact .inl (by omega)
  · refine .inr ⟨row, ?_, rfl⟩
    -- What is left behind the higher floor is left behind the lower one too.
    have split : saved.drop (floor - 1) = (saved.drop (lower - 1)).drop (floor - lower) ∨
        lower = 0 := by
      rw [List.drop_drop]
      by_cases zero : lower = 0
      · exact .inr zero
      · exact .inl (by congr 1; omega)
    rcases split with split | rfl
    · exact List.mem_of_mem_drop (split ▸ later)
    · exact List.mem_of_mem_drop (by simpa using later)

theorem AsNewAs.append {saved : List WorkspaceSettings} {floor : Nat}
    {settings : Option WorkspaceSettings} (held : AsNewAs saved floor settings)
    (more : List WorkspaceSettings) : AsNewAs (saved ++ more) floor settings := by
  obtain zero | ⟨row, later, rfl⟩ := held
  · exact .inl zero
  · exact .inr ⟨row, by rw [List.drop_append]; exact List.mem_append_left _ later, rfl⟩

/-- A write is as new as itself. -/
theorem AsNewAs.self {saved : List WorkspaceSettings} {position : Nat} {row : WorkspaceSettings}
    (written : saved[position]? = some row) : AsNewAs saved (position + 1) (some row) := by
  refine .inr ⟨row, ?_, rfl⟩
  rw [Nat.add_sub_cancel]
  exact List.mem_of_getElem? (i := 0) (by rw [List.getElem?_drop, Nat.add_zero, written])

/-- The last write is as new as any other. -/
theorem AsNewAs.last {saved : List WorkspaceSettings} {floor : Nat}
    {settings : Option WorkspaceSettings} (order : floor ≤ saved.length)
    (last : ∀ row, saved.getLast? = some row → settings = some row) :
    AsNewAs saved floor settings := by
  -- The newest row is at least as new as any that was acknowledged.
  cases newest : saved.getLast? with
  | none =>
    rw [List.getLast?_eq_none_iff] at newest
    subst newest
    exact .inl (by simpa using order)
  | some row =>
    rw [List.getLast?_eq_getElem?] at newest
    have occupied := (List.getElem?_eq_some_iff.mp newest).1
    have here := AsNewAs.self newest
    rw [last row (by rw [List.getLast?_eq_getElem?, newest])]
    exact here.mono (by omega)

/--
No read so far has returned less than it owes, and none that is called now would be given less.

A read owes the settings of every upsert that had returned when it was called.
-/
structure ReadsOwnWrites (state : CacheState) : Prop where
  answered : ∀ given ∈ state.answers,
    AsNewAs (state.saved given.workspaceId) given.floor given.settings
  hits : ∀ workspaceId settings, state.repo.cached workspaceId state.clock = some settings →
    AsNewAs (state.saved workspaceId) (state.acknowledged workspaceId) settings

/-- The entry that a step puts in the cache, and the workspace it is for. -/
def inserted (state : CacheState) : CacheLabel → Option (WorkspaceId × CacheEntry)
  | .fillCache call =>
    match state.calls[call]? with
    | some (.read workspaceId _ now settings) =>
      some (workspaceId, ⟨settings, now + state.repo.ttl⟩)
    | _ => none
  | .updateCache call =>
    match state.calls[call]? with
    | some (.written saved _) =>
      some (saved.workspaceId, ⟨some saved, state.clock + state.repo.ttl⟩)
    | _ => none
  | _ => none

/--
A step that puts an entry in the cache puts none there that a returned upsert has outdated.

An entry that has expired before it is inserted answers no read.
-/
def InsertsCurrent (state : CacheState) (label : CacheLabel) : Prop :=
  ∀ entry ∈ inserted state label, entry.2.expiresAt > state.clock →
    AsNewAs (state.saved entry.1) (state.acknowledged entry.1) entry.2.settings

instance (state : CacheState) (label : CacheLabel) : Decidable (InsertsCurrent state label) :=
  inferInstanceAs (Decidable (∀ entry ∈ inserted state label, _ → _))

/-- What a call between two steps may rely on. -/
def Call.Holds (state : CacheState) : Call → Prop
  | .get workspaceId floor => floor ≤ state.acknowledged workspaceId
  | .missed workspaceId floor _ => floor ≤ state.acknowledged workspaceId
  | .read workspaceId floor _ settings => AsNewAs (state.saved workspaceId) floor settings
  | .upsert _ => True
  | .written saved position => (state.saved saved.workspaceId)[position]? = some saved
  | .returned => True

/-- The invariant behind the reads: the table holds the last write, and every call is sound. -/
structure Coherent (state : CacheState) : Prop extends ReadsOwnWrites state where
  newest : ∀ workspaceId row, (state.saved workspaceId).getLast? = some row →
    state.repo.inner.getSettings workspaceId = some row
  reaches : ∀ workspaceId, state.acknowledged workspaceId ≤ (state.saved workspaceId).length
  calls : ∀ call ∈ state.calls, call.Holds state

/-- A fresh instance is coherent. -/
theorem Coherent.initial (inner : SettingsTable) (ttl clock : Nat) :
    Coherent (.initial inner ttl clock) where
  answered := by simp [CacheState.initial]
  hits := by simp [CacheState.initial, CachedSettingsRepository.new, CachedSettingsRepository.cached]
  newest := by simp [CacheState.initial]
  reaches := by simp [CacheState.initial]
  calls := by simp [CacheState.initial]

/-- A call relies on nothing that later writes and returns could take away. -/
theorem Call.Holds.grow {state next : CacheState} {call : Call} (held : call.Holds state)
    (grown : ∀ workspaceId, ∃ more, next.saved workspaceId = state.saved workspaceId ++ more)
    (risen : ∀ workspaceId, state.acknowledged workspaceId ≤ next.acknowledged workspaceId) :
    call.Holds next := by
  -- Positions of earlier rows stay valid when rows are added behind them.
  cases call with
  | get workspaceId floor => exact Nat.le_trans held (risen workspaceId)
  | missed workspaceId floor now => exact Nat.le_trans held (risen workspaceId)
  | upsert settings => trivial
  | returned => trivial
  | read workspaceId floor now settings =>
    obtain ⟨more, grown⟩ := grown workspaceId
    show AsNewAs _ _ _
    rw [grown]
    exact AsNewAs.append held more
  | written saved position =>
    obtain ⟨more, grown⟩ := grown saved.workspaceId
    have occupied := (List.getElem?_eq_some_iff.mp held).1
    show _ = _
    rw [grown, List.getElem?_append_left occupied]
    exact held

/-- A coherent state stays so when calls are moved on to places where they are sound. -/
theorem Coherent.withCalls {state : CacheState} (kept : Coherent state) {calls : List Call}
    (sound : ∀ call ∈ calls, call ∈ state.calls ∨ call.Holds state) :
    Coherent { state with calls := calls } where
  answered := kept.answered
  hits := kept.hits
  newest := kept.newest
  reaches := kept.reaches
  calls := by
    intro call member
    -- What a call relies on is read off the history, which is the same in both states.
    have held : call.Holds state := (sound call member).elim (kept.calls call) id
    exact held.grow (fun _ => ⟨[], by simp⟩) (fun _ => Nat.le_refl _)

theorem Coherent.setCall {state : CacheState} (kept : Coherent state) (call : Nat) {place : Call}
    (sound : place.Holds state) : Coherent (state.setCall call place) := by
  refine kept.withCalls fun other member => ?_
  rcases List.mem_or_eq_of_mem_set member with old | rfl
  · exact .inl old
  · exact .inr sound

theorem Coherent.addCall {state : CacheState} (kept : Coherent state) {place : Call}
    (sound : place.Holds state) : Coherent { state with calls := state.calls ++ [place] } := by
  refine kept.withCalls fun other member => ?_
  rcases List.mem_append.mp member with old | new
  · exact .inl old
  · exact .inr (List.mem_singleton.mp new ▸ sound)

/-- A read that returns what it owes keeps the state coherent. -/
theorem Coherent.answer {state : CacheState} (kept : Coherent state) (call : Nat) {given : Answer}
    (owed : AsNewAs (state.saved given.workspaceId) given.floor given.settings) :
    Coherent (state.answer call given) := by
  -- The call is over, and its answer joins the answers.
  have moved : Coherent (state.setCall call .returned) := kept.setCall call trivial
  refine { moved with answered := ?_ }
  intro other member
  rcases List.mem_append.mp member with old | new
  · exact kept.answered other old
  · exact List.mem_singleton.mp new ▸ owed

/-- A write is the newest row of the table and outdates no read that was called before it. -/
theorem Coherent.write {state : CacheState} (kept : Coherent state)
    (settings : NewWorkspaceSettings) (nowUs : Int64) : Coherent (state.write settings nowUs) := by
  have grown : ∀ workspaceId, ∃ more,
      (state.write settings nowUs).saved workspaceId = state.saved workspaceId ++ more := by
    intro workspaceId
    by_cases same : workspaceId = settings.workspaceId
    · subst same
      exact ⟨[(state.repo.inner.upsertSettings settings nowUs).2],
        by simp only [CacheState.write, Function.update_self]⟩
    · exact ⟨[], by simp [CacheState.write, same]⟩
  have newer : ∀ {workspaceId floor settings'}, AsNewAs (state.saved workspaceId) floor settings' →
      AsNewAs ((state.write settings nowUs).saved workspaceId) floor settings' := by
    intro workspaceId floor settings' held
    obtain ⟨more, grown⟩ := grown workspaceId
    exact grown ▸ held.append more
  constructor
  · constructor
    · exact fun given member => newer (kept.answered given member)
    · exact fun workspaceId settings' found => newer (kept.hits workspaceId settings' found)
  · intro workspaceId row last
    -- The table answers with what was written, and elsewhere as it did before.
    simp only [CacheState.write] at last ⊢
    rw [SettingsTable.getSettings_upsertSettings]
    by_cases same : workspaceId = settings.workspaceId
    · subst same
      rw [Function.update_self, List.getLast?_concat] at last
      rw [if_pos rfl, last]
    · rw [Function.update_of_ne same] at last
      rw [if_neg same]
      exact kept.newest workspaceId row last
  · intro workspaceId
    obtain ⟨more, grown⟩ := grown workspaceId
    rw [grown, List.length_append]
    exact Nat.le_trans (kept.reaches workspaceId) (Nat.le_add_right _ _)
  · exact fun call member => (kept.calls call member).grow grown fun _ => Nat.le_refl _

/-- An entry that no returned upsert has outdated keeps the state coherent. -/
theorem Coherent.insert {state : CacheState} (kept : Coherent state) {workspaceId : WorkspaceId}
    {entry : CacheEntry}
    (current : entry.expiresAt > state.clock →
      AsNewAs (state.saved workspaceId) (state.acknowledged workspaceId) entry.settings) :
    Coherent (state.insert workspaceId entry) := by
  -- Hits on other workspaces are those of before.
  refine ⟨⟨kept.answered, ?_⟩, kept.newest, kept.reaches, ?_⟩
  · intro other settings found
    simp only [CacheState.insert, CachedSettingsRepository.cached_insert] at found
    by_cases same : other = workspaceId
    · subst same
      simp only [↓reduceIte, Option.ite_none_right_eq_some, Option.some.injEq] at found
      exact found.2 ▸ current found.1
    · rw [if_neg same] at found
      exact kept.hits other settings found
  · intro call member
    exact (kept.calls call member).grow (fun _ => ⟨[], by simp [CacheState.insert]⟩)
      fun _ => Nat.le_refl _

/-- An upsert returns with its own row in the cache, or with a later one. -/
theorem Coherent.acknowledge {state : CacheState} (kept : Coherent state)
    {workspaceId : WorkspaceId} {position : Nat}
    (written : position < (state.saved workspaceId).length)
    (current : ∀ settings, state.repo.cached workspaceId state.clock = some settings →
      AsNewAs (state.saved workspaceId) (position + 1) settings) :
    Coherent (state.acknowledge workspaceId position) := by
  refine ⟨⟨kept.answered, ?_⟩, kept.newest, ?_, ?_⟩
  · intro other settings found
    have before := kept.hits other settings found
    by_cases same : other = workspaceId
    · subst same
      simp only [CacheState.acknowledge, Function.update_self]
      -- The floor is the higher of the two, and the entry is above both.
      rcases Nat.le_total (state.acknowledged other) (position + 1) with lower | higher
      · rw [Nat.max_eq_right lower]
        exact current settings found
      · rw [Nat.max_eq_left higher]
        exact before
    · simpa only [CacheState.acknowledge, Function.update_of_ne same] using before
  · intro other
    have before := kept.reaches other
    by_cases same : other = workspaceId
    · subst same
      simp only [CacheState.acknowledge, Function.update_self]
      omega
    · simpa only [CacheState.acknowledge, Function.update_of_ne same] using before
  · intro call member
    refine (kept.calls call member).grow (fun _ => ⟨[], by simp [CacheState.acknowledge]⟩) ?_
    intro other
    by_cases same : other = workspaceId
    · subst same
      simp only [CacheState.acknowledge, Function.update_self]
      omega
    · simp only [CacheState.acknowledge, Function.update_of_ne same, Nat.le_refl]

/-- A step keeps the state coherent if what it inserts is current. -/
theorem Coherent.step {state next : CacheState} {label : CacheLabel} (kept : Coherent state)
    (stepped : cacheStep state label = some next) (current : InsertsCurrent state label) :
    Coherent next := by
  -- One case for each way a step can go, and only the two inserts need the guard.
  cases cacheStep_cases stepped with
  | elapse ticks =>
    refine ⟨⟨kept.answered, ?_⟩, kept.newest, kept.reaches, ?_⟩
    · intro workspaceId settings found
      exact kept.hits workspaceId settings
        (CachedSettingsRepository.cached_of_later (Nat.le_add_right _ ticks) found)
    · exact fun call member =>
        (kept.calls call member).grow (fun _ => ⟨[], by simp⟩) fun _ => Nat.le_refl _
  | getSettings workspaceId => exact kept.addCall (Nat.le_refl _)
  | upsertSettings settings => exact kept.addCall trivial
  | failed => exact kept.setCall _ trivial
  | hit stands found =>
    have floor := kept.calls _ stands
    exact kept.answer _ ((kept.hits _ _ found).mono floor)
  | miss stands absent =>
    have floor := kept.calls _ stands
    exact kept.setCall _ floor
  | @readInner call workspaceId floor now stands =>
    have order : floor ≤ _ := Nat.le_trans (kept.calls _ stands) (kept.reaches workspaceId)
    exact kept.setCall _ (AsNewAs.last order (kept.newest workspaceId))
  | @fillCache call workspaceId floor now settings stands =>
    have owed := kept.calls _ (List.mem_of_getElem? stands)
    exact (kept.insert (current (workspaceId, _) (by simp [inserted, stands]))).answer _ owed
  | lost nowUs settings => exact (kept.write settings nowUs).setCall _ trivial
  | saved nowUs settings =>
    refine (kept.write settings nowUs).setCall _ ?_
    -- The row is written behind all those of its workspace, so its place is their number.
    have same := congrArg NewWorkspaceSettings.workspaceId
      (SettingsTable.upsertSettings_saved state.repo.inner settings nowUs)
    simp only [Call.Holds, CacheState.write]
    rw [same, Function.update_self, List.getElem?_concat_length]
  | @updateCache call row position stands =>
    have written : (state.saved row.workspaceId)[position]? = some row :=
      kept.calls _ (List.mem_of_getElem? stands)
    have occupied := (List.getElem?_eq_some_iff.mp written).1
    have inserted : Coherent
        (state.insert row.workspaceId ⟨some row, state.clock + state.repo.ttl⟩) :=
      kept.insert (current (row.workspaceId, _) (by simp [inserted, stands]))
    refine (inserted.acknowledge occupied ?_).setCall _ trivial
    intro settings found
    -- The cache answers with the row that was just inserted, or not at all.
    simp only [CacheState.insert, CachedSettingsRepository.cached_insert, ↓reduceIte,
      Option.ite_none_right_eq_some, Option.some.injEq] at found
    exact found.2 ▸ AsNewAs.self written

/-- A step that leaves nothing outdated in the cache inserts nothing outdated. -/
theorem InsertsCurrent.of_hits {state next : CacheState} {label : CacheLabel}
    (stepped : cacheStep state label = some next) (after : ReadsOwnWrites next) :
    InsertsCurrent state label := by
  -- An entry that is put into the cache alive is a hit of the next state.
  cases cacheStep_cases stepped with
  | @fillCache call workspaceId floor now settings stands =>
    intro entry put alive
    simp only [inserted, stands, Option.mem_def, Option.some.injEq] at put
    subst put
    refine after.hits workspaceId settings ?_
    simp only [CacheState.answer, CacheState.insert, CachedSettingsRepository.cached_insert,
      ↓reduceIte, if_pos alive]
  | @updateCache call row position stands =>
    intro entry put alive
    simp only [inserted, stands, Option.mem_def, Option.some.injEq] at put
    subst put
    have held := after.hits row.workspaceId (some row) (by
      simp only [CacheState.setCall, CacheState.acknowledge, CacheState.insert,
        CachedSettingsRepository.cached_insert, ↓reduceIte, if_pos alive])
    simp only [CacheState.setCall, CacheState.acknowledge, CacheState.insert,
      Function.update_self] at held
    exact held.mono (Nat.le_max_left _ _)
  | failed quiet silent =>
    cases label with
    | fillCache call => exact absurd rfl (quiet call)
    | updateCache call => exact absurd rfl (silent call)
    | _ => simp [InsertsCurrent, inserted]
  | _ => simp [InsertsCurrent, inserted]

/--
In every run of calls on one instance, reads see what was saved before they were called exactly
when no step puts an outdated entry in the cache.
-/
theorem reads_own_writes_iff (inner : SettingsTable) (ttl clock : Nat) (labels : List CacheLabel)
    (final : CacheState)
    (reached : run cacheStep (.initial inner ttl clock) labels = some final) :
    (∀ taken middle, run cacheStep (.initial inner ttl clock) (labels.take taken) = some middle →
        ReadsOwnWrites middle) ↔
      Guarded cacheStep InsertsCurrent (.initial inner ttl clock) labels :=
  run_always_iff_of (fun _ => Coherent.toReadsOwnWrites)
    (fun _ _ _ _ => InsertsCurrent.of_hits) (fun _ _ _ => Coherent.step)
    (Coherent.initial inner ttl clock) reached

/-- The settings that block a workspace. -/
def blockedSettings : NewWorkspaceSettings :=
  { NewWorkspaceSettings.defaultsFor .nil with blocked := true }

/-- A read that misses and fills the cache, then an upsert, then a read from the cache. -/
def upsertAfterFill : List CacheLabel :=
  [.getSettings .nil, .lookUp 0, .readInner 0 false, .fillCache 0,
    .upsertSettings blockedSettings, .writeInner 1 5 .saved, .updateCache 1,
    .elapse 10, .getSettings .nil, .lookUp 2]

/-- A read that has filled the cache before an upsert leaves the next read nothing outdated. -/
theorem reads_own_writes_after_fill :
    ∃ final, run cacheStep (.initial ⟨[], 1, List.nodup_nil⟩ 60 0) upsertAfterFill = some final ∧
      final.answers = [⟨.nil, 0, none⟩, ⟨.nil, 1, some ⟨blockedSettings, 1, 5⟩⟩] ∧
      ∀ taken middle,
        run cacheStep (.initial ⟨[], 1, List.nodup_nil⟩ 60 0) (upsertAfterFill.take taken) =
          some middle → ReadsOwnWrites middle := by
  -- The fill is over before the update begins.
  have answers : (run cacheStep (.initial ⟨[], 1, List.nodup_nil⟩ 60 0) upsertAfterFill).map
      CacheState.answers = some [⟨.nil, 0, none⟩, ⟨.nil, 1, some ⟨blockedSettings, 1, 5⟩⟩] := by
    decide +kernel
  obtain ⟨final, reached, given⟩ := Option.map_eq_some_iff.mp answers
  exact ⟨final, reached, given,
    (reads_own_writes_iff _ 60 0 upsertAfterFill final reached).mpr (by decide +kernel)⟩

/-- A read that misses, an upsert that runs from its call to its return, and only then the fill. -/
def fillAfterUpsert : List CacheLabel :=
  [.getSettings .nil, .lookUp 0, .readInner 0 false,
    .upsertSettings blockedSettings, .writeInner 1 5 .saved, .updateCache 1,
    .fillCache 0, .getSettings .nil, .lookUp 2]

/-- A workspace that an administrator has blocked is read as not blocked from the stale entry. -/
theorem stale_fill_undoes_upsert :
    ¬ ∀ (inner : SettingsTable) (ttl clock : Nat) (labels : List CacheLabel) (final : CacheState),
      run cacheStep (.initial inner ttl clock) labels = some final →
      ∀ given ∈ final.answers,
        AsNewAs (final.saved given.workspaceId) given.floor given.settings := by
  intro always
  -- The fill puts what it had read before the update over the newer entry.
  have outdated : (run cacheStep (.initial ⟨[], 1, List.nodup_nil⟩ 60 0) fillAfterUpsert).any
      (fun final => final.answers.any fun given =>
        !decide (AsNewAs (final.saved given.workspaceId) given.floor given.settings)) = true := by
    decide +kernel
  obtain ⟨final, reached, found⟩ := (Option.any_eq_true _ _).mp outdated
  obtain ⟨given, member, old⟩ := List.any_eq_true.mp found
  have current := always _ 60 0 fillAfterUpsert final reached given member
  simp [current] at old

end Zradar.Settings
