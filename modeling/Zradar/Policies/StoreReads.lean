import Zradar.Lib.Run
import Zradar.Policies.PolicyTable

/-! When a resolution reflects the writes before it, and applies only policies that are effective. -/

namespace Zradar.Policies

/-- A write to the table: the version that it made, and the keys of the policies that it wrote. -/
structure Write where
  version : Nat
  keys : List PolicyCacheKey
  deriving DecidableEq

/-- The rows that a refresh was given: those of one version, for the time that it asked with. -/
structure Snapshot where
  version : Nat
  askedAt : Int64
  rows : List PolicyRow
  deriving DecidableEq

/--
Where a call stands between two of its steps.

A write is followed by a refresh, and a refresh on its own follows no write. What a call has written
is kept with it to the end, unless it fails.
-/
inductive StoreCall where
  | upsert (policies : List Policy) (now : Int64)
  | delete (id : Int64)
  | refresh (write : Option Write)
  | asked (write : Option Write) (now : Int64)
  | loaded (write : Option Write) (snapshot : Snapshot)
  | replaced (write : Option Write)
  | returned (write : Option Write)
  deriving DecidableEq

/-- What was resolved, and when: the writes that had returned, and the versions of the table so far. -/
structure Resolution where
  workspaceId : WorkspaceId
  signal : SignalKind
  operation : Operation
  now : Int64
  owed : List Write
  versions : List PolicyTable
  policy : ResolvedPolicy

/-- The table, the clock, the cache as it was loaded, and the calls on the store. -/
structure StoreState where
  table : PolicyTable
  versions : List PolicyTable
  clock : Int64
  snapshot : Option Snapshot
  calls : List StoreCall
  resolutions : List Resolution

namespace StoreState

/-- A new store over a table, with nothing in its cache. -/
def initial (table : PolicyTable) (clock : Int64) : StoreState where
  table := table
  versions := [table]
  clock := clock
  snapshot := none
  calls := []
  resolutions := []

/-- The cache, which is made of the rows that were loaded last. -/
def cache (state : StoreState) : PolicyCache :=
  match state.snapshot with
  | some snapshot => rowsToCache snapshot.rows
  | none => ⟨[]⟩

/-- The writes of the calls that have returned without an error. -/
def owed (state : StoreState) : List Write :=
  state.calls.filterMap fun
    | .returned write => write
    | _ => none

/-- The state with one more call. -/
def addCall (state : StoreState) (place : StoreCall) : StoreState :=
  { state with calls := state.calls ++ [place] }

/-- The state with one call moved on. -/
def setCall (state : StoreState) (call : Nat) (place : StoreCall) : StoreState :=
  { state with calls := state.calls.set call place }

/-- The state with another version of the table. -/
def put (state : StoreState) (next : PolicyTable) : StoreState :=
  { state with table := next, versions := state.versions ++ [next] }

/-- What a call writes, with the numbers that new rows are given. -/
def written (state : StoreState) (ids : List Int64) :
    StoreCall → Option (PolicyTable × List PolicyCacheKey)
  | .upsert policies now =>
    if ids.length = policies.length then
      (state.table.upsertMany (policies.zip ids) now).map fun next => (next, policies.map policyKey)
    else none
  | .delete id =>
    let deleted := state.table.rows.filter fun row => row.id = id
    some (state.table.delete id,
      deleted.filterMap fun row => (rowToPolicy row).toOption.map policyKey)
  | _ => none

end StoreState

/-- The steps of the calls, each under the number of its call, and the passing of time. -/
inductive StoreLabel where
  | elapse (now : Int64)
  | upsert (policy : Policy)
  | upsertMany (policies : List Policy)
  | delete (id : Int64)
  | refresh
  | write (call : Nat) (ids : List Int64)
  /-- A write that is applied, although its call is given an error. -/
  | lose (call : Nat) (ids : List Int64)
  | fail (call : Nat)
  | ask (call : Nat)
  | load (call : Nat) (rows : List PolicyRow)
  | replace (call : Nat)
  | finish (call : Nat)
  | resolve (workspaceId : WorkspaceId) (signal : SignalKind) (operation : Operation)
  deriving DecidableEq

/-- One step, if the call stands where it can take it. -/
def storeStep (state : StoreState) : StoreLabel → Option StoreState
  | .elapse now => if state.clock ≤ now then some { state with clock := now } else none
  | .upsert policy => some (state.addCall (.upsert [policy] state.clock))
  -- Without policies there is neither a write nor a refresh.
  | .upsertMany [] => some (state.addCall (.returned none))
  | .upsertMany policies => some (state.addCall (.upsert policies state.clock))
  | .delete id => some (state.addCall (.delete id))
  | .refresh => some (state.addCall (.refresh none))
  | .write call ids =>
    match state.calls[call]?.bind (state.written ids) with
    | some (next, keys) =>
      some ((state.put next).setCall call (.refresh (some ⟨state.versions.length, keys⟩)))
    | none => none
  | .lose call ids =>
    match state.calls[call]?.bind (state.written ids) with
    | some (next, _) => some ((state.put next).setCall call (.returned none))
    | none => none
  | .fail call =>
    match state.calls[call]? with
    | some (.upsert _ _) | some (.delete _) | some (.asked _ _) =>
      some (state.setCall call (.returned none))
    | _ => none
  | .ask call =>
    match state.calls[call]? with
    | some (.refresh write) => some (state.setCall call (.asked write state.clock))
    | _ => none
  | .load call rows =>
    match state.calls[call]? with
    | some (.asked write now) =>
      if state.table.Selects now rows then
        some (state.setCall call (.loaded write ⟨state.versions.length - 1, now, rows⟩))
      else none
    | _ => none
  | .replace call =>
    match state.calls[call]? with
    | some (.loaded write snapshot) =>
      some ({ state with snapshot := some snapshot }.setCall call (.replaced write))
    | _ => none
  | .finish call =>
    match state.calls[call]? with
    | some (.replaced write) => some (state.setCall call (.returned write))
    | _ => none
  | .resolve workspaceId signal operation =>
    some { state with resolutions := state.resolutions ++ [
      { workspaceId, signal, operation
        now := state.clock
        owed := state.owed
        versions := state.versions
        policy := resolveCachedPolicy state.cache workspaceId signal operation }] }

/-- The keys that a resolution looks up. -/
def Consults (workspaceId : WorkspaceId) (signal : SignalKind) (operation : Operation)
    (key : PolicyCacheKey) : Prop :=
  key.workspaceId = workspaceId ∧ (key.signal, key.operation) ∈ scopes signal operation

instance (workspaceId : WorkspaceId) (signal : SignalKind) (operation : Operation)
    (key : PolicyCacheKey) : Decidable (Consults workspaceId signal operation key) :=
  inferInstanceAs (Decidable (_ ∧ _))

/--
A resolution could have been made of policies that are all effective at its time, and that reflect
every write that had returned, or a newer one to the same policies.
-/
def Resolution.Current (given : Resolution) : Prop :=
  ∃ cache : PolicyCache,
    given.policy = resolveCachedPolicy cache given.workspaceId given.signal given.operation ∧
    (∀ policy ∈ applicable cache given.workspaceId given.signal given.operation,
      policy.EffectiveAt given.now ∧
        ∃ table ∈ given.versions, ∃ row ∈ table.rows, rowToPolicy row = .ok policy) ∧
    ∀ write ∈ given.owed, ∀ key ∈ write.keys,
      Consults given.workspaceId given.signal given.operation key →
        ∃ version table, write.version ≤ version ∧ given.versions[version]? = some table ∧
          table.Loads given.now key (cache.get key)

/-- The write of a call that has replaced the cache. -/
def StoreCall.settled : StoreCall → Option Write
  | .replaced write => write
  | .returned write => write
  | _ => none

/-- The rows that a call is about to replace the cache with. -/
def StoreCall.snapshot : StoreCall → Option Snapshot
  | .loaded _ snapshot => some snapshot
  | _ => none

/--
The cache is not replaced by rows from before the write of a call that has already replaced it, and
nothing is resolved whose rows have entered or left their windows since the store asked for them.
-/
def InOrder (state : StoreState) : StoreLabel → Prop
  | .replace call =>
    ∀ place ∈ state.calls[call]?, ∀ snapshot ∈ place.snapshot, ∀ other ∈ state.calls,
      ∀ write ∈ other.settled, write.keys ≠ [] → write.version ≤ snapshot.version
  | .resolve workspaceId signal operation =>
    ∀ snapshot ∈ state.snapshot, ∀ table ∈ state.versions[snapshot.version]?, ∀ row ∈ table.rows,
      ∀ policy ∈ (rowToPolicy row).toOption, Consults workspaceId signal operation (policyKey policy) →
        (row.EffectiveAt snapshot.askedAt ↔ row.EffectiveAt state.clock)
  | _ => True

instance (state : StoreState) : ∀ label, Decidable (InOrder state label)
  | .replace _ => inferInstanceAs (Decidable (∀ place ∈ state.calls[_]?, _))
  | .resolve _ _ _ => inferInstanceAs (Decidable (∀ snapshot ∈ state.snapshot, _))
  | .elapse _ | .upsert _ | .upsertMany _ | .delete _ | .refresh | .write _ _ | .lose _ _ | .fail _
  | .ask _ | .load _ _ | .finish _ => .isTrue trivial

/-- The rows of a snapshot are those that its version selects for the time of the question. -/
def Snapshot.Of (snapshot : Snapshot) (versions : List PolicyTable) : Prop :=
  ∃ table, versions[snapshot.version]? = some table ∧
    table.Selects snapshot.askedAt snapshot.rows

/-- A write is not newer than a snapshot, unless it wrote nothing. -/
def Write.Before (write : Write) (snapshot : Snapshot) : Prop :=
  write.keys ≠ [] → write.version ≤ snapshot.version

/-- What a call between two steps may rely on: its own write is in what it loads. -/
def StoreCall.Holds (versions : List PolicyTable) : StoreCall → Prop
  | .refresh write => ∀ own ∈ write, own.version < versions.length
  | .asked write _ => ∀ own ∈ write, own.version < versions.length
  | .loaded write snapshot => snapshot.Of versions ∧ ∀ own ∈ write, own.Before snapshot
  | _ => True

/-- The invariant behind the resolutions: the cache is not older than any write that is settled. -/
structure Kept (state : StoreState) : Prop where
  latest : state.versions.getLast? = some state.table
  cached : ∀ snapshot ∈ state.snapshot, snapshot.Of state.versions
  settled : ∀ place ∈ state.calls, ∀ write ∈ place.settled,
    ∃ snapshot ∈ state.snapshot, write.Before snapshot
  calls : ∀ place ∈ state.calls, place.Holds state.versions
  current : ∀ given ∈ state.resolutions, given.Current

theorem Kept.initial (table : PolicyTable) (clock : Int64) : Kept (.initial table clock) where
  latest := rfl
  cached := by simp [StoreState.initial]
  settled := by simp [StoreState.initial]
  calls := by simp [StoreState.initial]
  current := by simp [StoreState.initial]

theorem Snapshot.Of.append {snapshot : Snapshot} {versions : List PolicyTable}
    (held : snapshot.Of versions) (more : List PolicyTable) : snapshot.Of (versions ++ more) := by
  obtain ⟨table, found, selects⟩ := held
  have inside := (List.getElem?_eq_some_iff.mp found).1
  exact ⟨table, by rw [List.getElem?_append_left inside, found], selects⟩

theorem StoreCall.Holds.append {place : StoreCall} {versions : List PolicyTable}
    (held : place.Holds versions) (more : List PolicyTable) : place.Holds (versions ++ more) := by
  -- A longer list of versions has all those of before.
  cases place with
  | refresh write =>
    intro own member
    have before := held own member
    rw [List.length_append]
    omega
  | asked write now =>
    intro own member
    have before := held own member
    rw [List.length_append]
    omega
  | loaded write snapshot => exact ⟨held.1.append more, held.2⟩
  | upsert policies now => trivial
  | delete id => trivial
  | replaced write => trivial
  | returned write => trivial

section

variable {state : StoreState}

theorem Kept.addCall (kept : Kept state) {place : StoreCall} (holds : place.Holds state.versions)
    (quiet : place.settled = none) : Kept (state.addCall place) := by
  -- The new call has settled nothing, and the others stand where they stood.
  refine { kept with settled := ?_, calls := ?_ }
  · intro other member write settles
    rcases List.mem_append.mp member with old | new
    · exact kept.settled other old write settles
    · rw [List.mem_singleton.mp new, quiet] at settles
      cases settles
  · intro other member
    rcases List.mem_append.mp member with old | new
    · exact kept.calls other old
    · rw [List.mem_singleton.mp new]
      exact holds

theorem Kept.setCall (kept : Kept state) (call : Nat) {place : StoreCall}
    (holds : place.Holds state.versions)
    (settles : ∀ write ∈ place.settled, ∃ snapshot ∈ state.snapshot, write.Before snapshot) :
    Kept (state.setCall call place) := by
  -- The call that moves on is the only one to be looked at.
  refine { kept with settled := ?_, calls := ?_ }
  · intro other member
    rcases List.mem_or_eq_of_mem_set member with old | rfl
    · exact kept.settled other old
    · exact settles
  · intro other member
    rcases List.mem_or_eq_of_mem_set member with old | rfl
    · exact kept.calls other old
    · exact holds

/-- A call that has settled nothing moves on. -/
theorem Kept.moveCall (kept : Kept state) (call : Nat) {place : StoreCall}
    (holds : place.Holds state.versions) (quiet : place.settled = none) :
    Kept (state.setCall call place) := by
  apply kept.setCall call holds
  intro write settles
  rw [quiet] at settles
  cases settles

theorem Kept.put (kept : Kept state) (next : PolicyTable) : Kept (state.put next) where
  latest := by simp [StoreState.put]
  cached := fun snapshot member => (kept.cached snapshot member).append [next]
  settled := kept.settled
  calls := fun place member => (kept.calls place member).append [next]
  current := kept.current

/-- Rows that are not older than what is settled may replace the cache. -/
theorem Kept.load (kept : Kept state) {snapshot : Snapshot} (loaded : snapshot.Of state.versions)
    (newer : ∀ place ∈ state.calls, ∀ write ∈ place.settled, write.Before snapshot) :
    Kept { state with snapshot := some snapshot } := by
  -- What is settled is compared with the new rows instead of the old ones.
  refine { kept with cached := ?_, settled := ?_ }
  · intro other same
    cases same
    exact loaded
  · intro place member write settles
    exact ⟨snapshot, rfl, newer place member write settles⟩

/-- What a resolution applies it has looked up. -/
theorem consults_of_mem_applicable {cache : PolicyCache} {workspaceId : WorkspaceId}
    {signal : SignalKind} {operation : Operation} {policy : Policy}
    (applies : policy ∈ applicable cache workspaceId signal operation) :
    ∃ key, Consults workspaceId signal operation key ∧ cache.get key = some policy := by
  obtain ⟨scope, inside, found⟩ := List.mem_flatMap.mp applies
  obtain ⟨kind, -, found⟩ := List.mem_filterMap.mp found
  exact ⟨_, ⟨rfl, inside⟩, found⟩

/-- A write that has returned is not newer than the cache. -/
theorem Kept.owed (kept : Kept state) {write : Write} (member : write ∈ state.owed) :
    ∃ snapshot ∈ state.snapshot, write.Before snapshot := by
  -- A call that has returned has replaced the cache before.
  obtain ⟨place, inside, same⟩ := List.mem_filterMap.mp member
  cases place with
  | returned own =>
    simp only at same
    subst same
    exact kept.settled _ inside write rfl
  | _ => simp at same

/-- A resolution in order is current. -/
theorem Kept.resolve (kept : Kept state) {workspaceId : WorkspaceId} {signal : SignalKind}
    {operation : Operation} (inOrder : InOrder state (.resolve workspaceId signal operation)) :
    Resolution.Current
      { workspaceId, signal, operation
        now := state.clock
        owed := state.owed
        versions := state.versions
        policy := resolveCachedPolicy state.cache workspaceId signal operation } := by
  refine ⟨state.cache, rfl, ?_⟩
  cases loaded : state.snapshot with
  | none =>
    -- Without a snapshot the cache is empty, and no write has returned.
    have empty (key : PolicyCacheKey) : state.cache.get key = none := by
      simp [StoreState.cache, loaded, PolicyCache.get]
    constructor
    · intro policy applies
      obtain ⟨key, -, found⟩ := consults_of_mem_applicable applies
      rw [empty] at found
      cases found
    · intro write member
      obtain ⟨snapshot, some_, -⟩ := kept.owed member
      rw [loaded] at some_
      cases some_
  | some snapshot =>
    obtain ⟨table, version, selects⟩ := kept.cached snapshot loaded
    have cache : state.cache = rowsToCache snapshot.rows := by simp [StoreState.cache, loaded]
    -- The windows have not changed since the rows were asked for, so a load now would find the same.
    have loads (key : PolicyCacheKey) (consults : Consults workspaceId signal operation key) :
        table.Loads state.clock key (state.cache.get key) := by
      rw [cache]
      refine selects.loads fun row member keyed => ?_
      obtain ⟨policy, parsed, rfl⟩ := Option.map_eq_some_iff.mp keyed
      exact inOrder snapshot loaded table version row member policy parsed consults
    constructor
    · intro policy applies
      obtain ⟨key, consults, found⟩ := consults_of_mem_applicable applies
      obtain ⟨row, member, parsed, -, effective⟩ := (found ▸ loads key consults).row
      exact ⟨effective, table, List.mem_of_getElem? version, row, member, parsed⟩
    · intro write member key keyed consults
      obtain ⟨other, same, before⟩ := kept.owed member
      rw [loaded] at same
      cases same
      exact ⟨snapshot.version, table, before (List.ne_nil_of_mem keyed), version,
        loads key consults⟩

/-- A step in order keeps the invariant. -/
theorem Kept.step {label : StoreLabel} {next : StoreState} (kept : Kept state)
    (inOrder : InOrder state label) (stepped : storeStep state label = some next) : Kept next := by
  -- Only a replacement of the cache and a resolution need that the step is in order.
  cases label with
  | elapse now =>
    simp only [storeStep] at stepped
    split at stepped
    · cases stepped
      exact { kept with }
    · cases stepped
  | upsert policy =>
    cases stepped
    exact kept.addCall trivial rfl
  | upsertMany policies =>
    cases policies with
    | nil =>
      cases stepped
      exact kept.addCall trivial rfl
    | cons policy policies =>
      cases stepped
      exact kept.addCall trivial rfl
  | delete id =>
    cases stepped
    exact kept.addCall trivial rfl
  | refresh =>
    cases stepped
    refine kept.addCall ?_ rfl
    intro own member
    cases member
  | write call ids =>
    simp only [storeStep] at stepped
    split at stepped
    · cases stepped
      refine (kept.put _).moveCall call ?_ rfl
      intro own same
      cases same
      simp [StoreState.put]
    · cases stepped
  | lose call ids =>
    simp only [storeStep] at stepped
    split at stepped
    · cases stepped
      exact (kept.put _).moveCall call trivial rfl
    · cases stepped
  | fail call =>
    simp only [storeStep] at stepped
    split at stepped
    · cases stepped
      exact kept.moveCall call trivial rfl
    · cases stepped
      exact kept.moveCall call trivial rfl
    · cases stepped
      exact kept.moveCall call trivial rfl
    · cases stepped
  | ask call =>
    simp only [storeStep] at stepped
    split at stepped
    · rename_i write stands
      cases stepped
      have before : ∀ own ∈ write, own.version < state.versions.length :=
        kept.calls (.refresh write) (List.mem_of_getElem? stands)
      exact kept.moveCall call before rfl
    · cases stepped
  | load call rows =>
    simp only [storeStep] at stepped
    split at stepped
    · rename_i write now stands
      split at stepped
      · rename_i selects
        cases stepped
        have before := kept.calls _ (List.mem_of_getElem? stands)
        have latest := kept.latest
        rw [List.getLast?_eq_getElem?] at latest
        refine kept.moveCall call ⟨⟨state.table, latest, selects⟩, ?_⟩ rfl
        -- The newest version is loaded, and the own write made this one or one before it.
        intro own member _
        have inside := before own member
        show own.version ≤ state.versions.length - 1
        omega
      · cases stepped
    · cases stepped
  | replace call =>
    simp only [storeStep] at stepped
    split at stepped
    · rename_i write snapshot stands
      cases stepped
      obtain ⟨loaded, own⟩ := kept.calls _ (List.mem_of_getElem? stands)
      have newer : ∀ place ∈ state.calls, ∀ write ∈ place.settled, write.Before snapshot :=
        inOrder _ stands snapshot rfl
      refine (kept.load loaded newer).setCall call trivial ?_
      intro settled member
      exact ⟨snapshot, rfl, own settled member⟩
    · cases stepped
  | finish call =>
    simp only [storeStep] at stepped
    split at stepped
    · rename_i write stands
      cases stepped
      have settled : ∀ own ∈ write, ∃ snapshot ∈ state.snapshot, own.Before snapshot :=
        kept.settled (.replaced write) (List.mem_of_getElem? stands)
      exact kept.setCall call trivial settled
    · cases stepped
  | resolve workspaceId signal operation =>
    cases stepped
    refine { kept with current := ?_ }
    intro given member
    rcases List.mem_append.mp member with old | new
    · exact kept.current given old
    · rw [List.mem_singleton.mp new]
      exact kept.resolve inOrder

end

/--
In every run in which the cache is not replaced by older rows and no window opens or closes unseen,
every resolution reflects the writes that had returned and applies only effective policies.
-/
theorem resolutions_reflect_writes (table : PolicyTable) (clock : Int64) (labels : List StoreLabel)
    (final : StoreState) (reached : run storeStep (.initial table clock) labels = some final)
    (inOrder : Guarded storeStep InOrder (.initial table clock) labels) :
    ∀ given ∈ final.resolutions, given.Current :=
  (run_invariant (fun _ _ _ => Kept.step) (Kept.initial table clock) inOrder reached).current

/-- A policy of a hundred records in a second, without an end. -/
def hundredRecords : Policy where
  id := none
  workspaceId := .nil
  signal := .traces
  operation := .ingest
  limit := .rate (some 100) none
  gracePct := 101
  hardBlockPct := 103
  effectiveFrom := 0
  effectiveUntil := none
  source := .api

/-- A table without rows. -/
def noPolicies : PolicyTable := ⟨[], List.nodup_nil, List.Pairwise.nil⟩

/-- A table with one policy. -/
def onePolicy : PolicyTable :=
  ⟨[insertedPolicy hundredRecords 1 0], List.nodup_singleton 1, List.pairwise_singleton _ _⟩

/-- An upsert up to its return, and a resolution behind it. -/
def upsertThenResolve : List StoreLabel :=
  [.upsert hundredRecords, .write 0 [1], .ask 0, .load 0 [insertedPolicy hundredRecords 1 5],
    .replace 0, .finish 0, .elapse 20, .resolve .nil .traces .ingest]

/-- An upsert that nothing overlaps is reflected by the next resolution. -/
theorem upsert_is_reflected :
    ∃ final, run storeStep (.initial noPolicies 5) upsertThenResolve = some final ∧
      final.resolutions.map (fun given => given.policy.rate) = [some (.rate (some 100) none)] ∧
      ∀ given ∈ final.resolutions, given.Current := by
  -- Nothing else is under way, and the policy has no end.
  have resolved : (run storeStep (.initial noPolicies 5) upsertThenResolve).map
      (fun final => final.resolutions.map fun given => given.policy.rate) =
        some [some (.rate (some 100) none)] := by
    decide +kernel
  obtain ⟨final, reached, rates⟩ := Option.map_eq_some_iff.mp resolved
  exact ⟨final, reached, rates,
    resolutions_reflect_writes noPolicies 5 upsertThenResolve final reached (by decide +kernel)⟩

/-- A refresh that has read a policy, a delete of it up to its return, and only then the refresh. -/
def refreshAfterDelete : List StoreLabel :=
  [.refresh, .ask 0, .load 0 onePolicy.rows,
    .delete 1, .write 1 [], .ask 1, .load 1 [], .replace 1, .finish 1,
    .replace 0, .resolve .nil .traces .ingest]

/-- A policy that was deleted is applied again, out of rows that were read before the delete. -/
theorem stale_refresh_undoes_delete :
    ¬ ∀ table clock labels final, run storeStep (.initial table clock) labels = some final →
      ∀ given ∈ final.resolutions, given.Current := by
  intro always
  have applied : (run storeStep (.initial onePolicy 5) refreshAfterDelete).map
      (fun final => final.resolutions.map fun given => given.policy.rate) =
        some [some (.rate (some 100) none)] := by
    decide +kernel
  have owed : (run storeStep (.initial onePolicy 5) refreshAfterDelete).map
      (fun final => final.resolutions.map fun given => given.owed) =
        some [[⟨1, [policyKey hundredRecords]⟩]] := by
    decide +kernel
  have versions : (run storeStep (.initial onePolicy 5) refreshAfterDelete).map
      (fun final => final.resolutions.map fun given =>
        given.versions.map fun table => table.rows) = some [[onePolicy.rows, []]] := by
    decide +kernel
  have place : (run storeStep (.initial onePolicy 5) refreshAfterDelete).map
      (fun final => final.resolutions.map fun given =>
        (given.workspaceId, given.signal, given.operation)) = some [(.nil, .traces, .ingest)] := by
    decide +kernel
  obtain ⟨final, reached, applied⟩ := Option.map_eq_some_iff.mp applied
  rw [reached, Option.map_some, Option.some.injEq] at owed versions place
  obtain ⟨given, rest, resolutions, applied, nothing⟩ := List.map_eq_cons_iff.mp applied
  rw [List.map_eq_nil_iff] at nothing
  subst nothing
  simp only [resolutions, List.map_cons, List.map_nil, List.cons.injEq, and_true,
    Prod.mk.injEq] at owed versions place
  obtain ⟨cache, same, sources, reflects⟩ := always _ _ _ _ reached given (by simp [resolutions])
  rw [place.1, place.2.1, place.2.2] at same sources reflects
  -- The table from the delete on is empty, so nothing may be found under the key.
  obtain ⟨version, table, later, found, loads⟩ := reflects ⟨1, [policyKey hundredRecords]⟩
    (by simp [owed]) (policyKey hundredRecords) (by simp) (by decide)
  have rows : (given.versions.map fun table => table.rows)[version]? = some table.rows := by
    rw [List.getElem?_map, found, Option.map_some]
  have empty : table.rows = [] := by
    rw [versions] at rows
    match version, later, rows with
    | 1, _, rows => exact (Option.some.inj rows).symm
  have absent : cache.get (policyKey hundredRecords) = none := by
    cases held : cache.get (policyKey hundredRecords) with
    | none => rfl
    | some policy =>
      obtain ⟨row, member, -⟩ := (held ▸ loads).row
      rw [empty] at member
      cases member
  -- The only policy that ever was in the table has this key, so none is applied at all.
  have unapplied : applicable cache .nil .traces .ingest = [] := by
    rw [List.eq_nil_iff_forall_not_mem]
    intro policy applies
    obtain ⟨key, -, held⟩ := consults_of_mem_applicable applies
    obtain ⟨-, other, member, row, inside, parsed⟩ := sources policy applies
    have listed : other.rows ∈ given.versions.map fun table => table.rows :=
      List.mem_map.mpr ⟨other, member, rfl⟩
    rw [versions, List.mem_pair] at listed
    rcases listed with first | last
    · rw [first] at inside
      rw [List.mem_singleton.mp inside, rowToPolicy_insertedPolicy] at parsed
      cases parsed
      have keyed : policyKey { hundredRecords with id := some 1 } = key := PolicyCache.get_key held
      rw [← keyed] at held
      exact nomatch absent.symm.trans held
    · rw [last] at inside
      cases inside
  rw [same, resolveCachedPolicy_eq, unapplied] at applied
  cases applied

/-- A policy that ended at ten is resolved at twenty out of the rows that were loaded at five. -/
example :
    let ending := { hundredRecords with effectiveUntil := some 10 }
    (run storeStep (.initial noPolicies 5) [.upsert ending, .write 0 [1], .ask 0,
        .load 0 [insertedPolicy ending 1 5], .replace 0, .finish 0, .elapse 20,
        .resolve .nil .traces .ingest]).map
      (fun final => final.resolutions.map fun given => (given.now, given.policy.rate)) =
        some [(20, some (.rate (some 100) none))] := by
  decide +kernel

end Zradar.Policies
