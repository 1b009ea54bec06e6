import Zradar.Policies.PostgresUsage
import Zradar.Policies.Resolve

/-! The table of policies: its rows, how they are written, and what is loaded of them at a time. -/

namespace Zradar.Policies

/-- Why a row is no policy. -/
inductive PolicyError where
  | invalid (message : String)
  deriving DecidableEq

/-- An operation as it is written in the columns of the tables. -/
def operation : Operation → String
  | .ingest => "ingest"
  | .query => "query"
  | .store => "store"
  | .all => "all"

/-- The source of a policy as it is written in its column. -/
def policySource : PolicySource → String
  | .api => "api"
  | .file => "file"
  | .env => "env"
  | .crd => "crd"
  | .default => "default"

def PolicyRow.parseSignalKind (value : String) : Except PolicyError SignalKind :=
  match value with
  | "traces" => .ok .traces
  | "logs" => .ok .logs
  | "metrics" => .ok .metrics
  | "rum" => .ok .rum
  | "session_replay" => .ok .sessionReplay
  | "error_tracking" => .ok .errorTracking
  | "all" => .ok .all
  | _ => .error (.invalid ("unknown signal_kind " ++ value))

def PolicyRow.parseOperation (value : String) : Except PolicyError Operation :=
  match value with
  | "ingest" => .ok .ingest
  | "query" => .ok .query
  | "store" => .ok .store
  | "all" => .ok .all
  | _ => .error (.invalid ("unknown operation " ++ value))

def PolicyRow.parsePolicySource (value : String) : Except PolicyError PolicySource :=
  match value with
  | "api" => .ok .api
  | "file" => .ok .file
  | "env" => .ok .env
  | "crd" => .ok .crd
  | "default" => .ok .default
  | _ => .error (.invalid ("unknown policy source " ++ value))

/-- A percentage out of its column. -/
def PolicyRow.parsePct (value : Int16) (message : String) : Except PolicyError UInt8 :=
  if 0 ≤ value.toInt ∧ value.toInt ≤ 255 then .ok (UInt8.ofNat value.toInt.toNat)
  else .error (.invalid message)

/-- A row of the table of policies, its JSON by the limit that it is read as. -/
structure PolicyRow where
  id : Int64
  workspaceId : WorkspaceId
  signalKind : String
  operation : String
  limitKind : LimitKind
  limitJson : Except String PolicyLimit
  gracePct : Int16
  hardBlockPct : Int16
  effectiveFrom : Int64
  effectiveUntil : Option Int64
  source : String
  updatedAt : Int64
  deriving DecidableEq

/-- The policy of a row, if its columns are those of one. -/
def rowToPolicy (row : PolicyRow) : Except PolicyError Policy := do
  let signal ← PolicyRow.parseSignalKind row.signalKind
  let operation ← PolicyRow.parseOperation row.operation
  let limit ← row.limitJson.mapError .invalid
  let gracePct ← PolicyRow.parsePct row.gracePct "invalid grace_pct"
  let hardBlockPct ← PolicyRow.parsePct row.hardBlockPct "invalid hard_block_pct"
  let source ← PolicyRow.parsePolicySource row.source
  return {
    id := some row.id
    workspaceId := row.workspaceId
    signal, operation, limit, gracePct, hardBlockPct
    effectiveFrom := row.effectiveFrom
    effectiveUntil := row.effectiveUntil
    source }

/-- The cache of the rows that are loaded, of which those that are no policies are skipped. -/
def rowsToCache (rows : List PolicyRow) : PolicyCache where
  policies := rows.filterMap fun row => (rowToPolicy row).toOption

/-- A time is inside the window of a policy. -/
def Policy.EffectiveAt (policy : Policy) (now : Int64) : Prop :=
  policy.effectiveFrom ≤ now ∧ ∀ bound ∈ policy.effectiveUntil, now < bound

/-- The condition on the rows that are loaded at a time. -/
def PolicyRow.EffectiveAt (row : PolicyRow) (now : Int64) : Prop :=
  row.effectiveFrom ≤ now ∧ ∀ bound ∈ row.effectiveUntil, now < bound

instance (row : PolicyRow) (now : Int64) : Decidable (row.EffectiveAt now) :=
  -- The instance for the bound is named, lest one that goes through all numbers is found.
  @instDecidableAnd _ _ _ (Option.decidableForallMem row.effectiveUntil)

/-- Two rows without an end that no table holds both: the condition of its partial unique index. -/
def PolicyRow.Conflicts (row other : PolicyRow) : Prop :=
  row.effectiveUntil = none ∧ other.effectiveUntil = none ∧ row.workspaceId = other.workspaceId ∧
    row.signalKind = other.signalKind ∧ row.operation = other.operation ∧
    row.limitKind = other.limitKind

instance (row other : PolicyRow) : Decidable (row.Conflicts other) :=
  inferInstanceAs (Decidable (_ ∧ _ ∧ _ ∧ _ ∧ _ ∧ _))

/-- The table of policies, with its primary key and its partial unique index. -/
structure PolicyTable where
  rows : List PolicyRow
  ids : (rows.map fun row => row.id).Nodup
  active : rows.Pairwise fun row other => ¬ row.Conflicts other

/-- The row that a policy is inserted as. -/
def insertedPolicy (policy : Policy) (id now : Int64) : PolicyRow where
  id := id
  workspaceId := policy.workspaceId
  signalKind := signalKind policy.signal
  operation := operation policy.operation
  limitKind := limitKind policy.limit
  limitJson := .ok policy.limit
  gracePct := Int16.ofNat policy.gracePct.toNat
  hardBlockPct := Int16.ofNat policy.hardBlockPct.toNat
  effectiveFrom := policy.effectiveFrom
  effectiveUntil := policy.effectiveUntil
  source := policySource policy.source
  updatedAt := now

/-- What is written can be read back, under the number of its row. -/
theorem rowToPolicy_insertedPolicy (policy : Policy) (id now : Int64) :
    rowToPolicy (insertedPolicy policy id now) = .ok { policy with id := some id } := by
  -- Every column is written as one of the texts or numbers that are read back.
  have signal : PolicyRow.parseSignalKind (signalKind policy.signal) = .ok policy.signal := by
    cases policy.signal <;> rfl
  have operates : PolicyRow.parseOperation (operation policy.operation) = .ok policy.operation := by
    cases policy.operation <;> rfl
  have source : PolicyRow.parsePolicySource (policySource policy.source) = .ok policy.source := by
    cases policy.source <;> rfl
  have pct (value : UInt8) (message : String) :
      PolicyRow.parsePct (Int16.ofNat value.toNat) message = .ok value := by
    have small := value.toNat_lt
    have word : (Int16.ofNat value.toNat).toInt = value.toNat := by
      apply Int16.toInt_ofNat_of_lt
      omega
    unfold PolicyRow.parsePct
    rw [word, if_pos (by omega)]
    simp
  simp [rowToPolicy, insertedPolicy, signal, operates, source, pct, Except.mapError, Bind.bind,
    Except.bind, pure, Except.pure]

namespace PolicyTable

/-- The rows behind an update of those that a row conflicts with, which keep their numbers. -/
def updated (row : PolicyRow) (rows : List PolicyRow) : List PolicyRow :=
  rows.map fun other => if row.Conflicts other then { row with id := other.id } else other

theorem updated_ids (row : PolicyRow) (rows : List PolicyRow) :
    (updated row rows).map (fun other => other.id) = rows.map fun other => other.id := by
  -- An updated row keeps its number, and any other row is left alone.
  simp only [updated, List.map_map]
  apply List.map_congr_left
  intro other _
  simp only [Function.comp]
  split <;> rfl

/-- An updated row conflicts with the same rows as before. -/
theorem updated_active {row : PolicyRow} {rows : List PolicyRow}
    (active : rows.Pairwise fun first second => ¬ first.Conflicts second) :
    (updated row rows).Pairwise fun first second => ¬ first.Conflicts second := by
  refine List.pairwise_map.mpr (active.imp ?_)
  intro first second apart together
  -- The columns of the index are those of the row that is updated.
  apply apart
  split at together <;> split at together <;> simp_all [PolicyRow.Conflicts]

/--
Insert a policy, or update the row without an end that it conflicts with.

Nothing is written if the check on the window fails, or if the number is in use.
-/
def upsert (table : PolicyTable) (policy : Policy) (id now : Int64) : Option PolicyTable :=
  let row := insertedPolicy policy id now
  if policy.effectiveUntil.all fun bound => policy.effectiveFrom < bound then
    if free : ∀ other ∈ table.rows, ¬ row.Conflicts other then
      if fresh : id ∉ table.rows.map fun other => other.id then
        some {
          rows := table.rows ++ [row]
          ids := by
            rw [List.map_append, List.nodup_append]
            refine ⟨table.ids, by simp, ?_⟩
            intro one member other last
            rw [List.map_singleton, List.mem_singleton] at last
            subst last
            intro same
            exact fresh (same ▸ member)
          active := by
            rw [List.pairwise_append]
            refine ⟨table.active, List.pairwise_singleton _ _, ?_⟩
            intro other member last inside
            rw [List.mem_singleton.mp inside]
            intro together
            refine free other member ?_
            simp_all [PolicyRow.Conflicts] }
      else none
    else
      some {
        rows := updated row table.rows
        ids := by
          rw [updated_ids]
          exact table.ids
        active := updated_active table.active }
  else none

/-- Upsert policies one behind the other in one transaction, all of them or none. -/
def upsertMany (table : PolicyTable) : List (Policy × Int64) → Int64 → Option PolicyTable
  | [], _ => some table
  | (policy, id) :: rest, now => (table.upsert policy id now).bind (·.upsertMany rest now)

/-- Delete the row with a number, if there is one. -/
def delete (table : PolicyTable) (id : Int64) : PolicyTable where
  rows := table.rows.filter fun row => row.id ≠ id
  ids := table.ids.sublist (List.filter_sublist.map _)
  active := table.active.sublist List.filter_sublist

/-- The rows that are loaded at a time: those that are effective, the newest update first. -/
def Selects (table : PolicyTable) (now : Int64) (rows : List PolicyRow) : Prop :=
  rows.Perm (table.rows.filter fun row => row.EffectiveAt now) ∧
    rows.Pairwise fun row later => later.updatedAt ≤ row.updatedAt

instance (table : PolicyTable) (now : Int64) (rows : List PolicyRow) :
    Decidable (table.Selects now rows) :=
  inferInstanceAs (Decidable (_ ∧ _))

end PolicyTable

/-- A row is a policy with a key. -/
def PolicyRow.HasKey (row : PolicyRow) (key : PolicyCacheKey) : Prop :=
  (rowToPolicy row).toOption.map policyKey = some key

instance (row : PolicyRow) (key : PolicyCacheKey) : Decidable (row.HasKey key) :=
  inferInstanceAs (Decidable (_ = _))

theorem hasKey_iff {row : PolicyRow} {policy : Policy} (parsed : rowToPolicy row = .ok policy)
    (key : PolicyCacheKey) : row.HasKey key ↔ policyKey policy = key := by
  simp [PolicyRow.HasKey, parsed, Except.toOption]

/--
What a load of the table at a time can find under a key: the newest row that has it and is
effective, where rows of one time stand in any order.
-/
def PolicyTable.Loads (table : PolicyTable) (now : Int64) (key : PolicyCacheKey)
    (found : Option Policy) : Prop :=
  ∃ rows : List PolicyRow,
    rows.Perm (table.rows.filter fun row => row.EffectiveAt now ∧ row.HasKey key) ∧
      (rows.Pairwise fun row later => later.updatedAt ≤ row.updatedAt) ∧
        (rowsToCache rows).get key = found

theorem any_policyKey {row : PolicyRow} {key : PolicyCacheKey} :
    ((rowToPolicy row).toOption.any fun policy => decide (policyKey policy = key)) = true ↔
      row.HasKey key := by
  unfold PolicyRow.HasKey
  cases rowToPolicy row <;> simp [Except.toOption]

/-- The policy under a key is that of the first row that has it. -/
theorem get_rowsToCache {rows : List PolicyRow} {key : PolicyCacheKey} {policy : Policy} :
    (rowsToCache rows).get key = some policy ↔
      ∃ before row after, rows = before ++ row :: after ∧ rowToPolicy row = .ok policy ∧
        policyKey policy = key ∧ ∀ other ∈ before, ¬ other.HasKey key := by
  -- The search among the policies is one among the rows, which passes over those without the key.
  have read (row : PolicyRow) :
      (rowToPolicy row).toOption = some policy ↔ rowToPolicy row = .ok policy := by
    cases rowToPolicy row <;> simp [Except.toOption]
  rw [rowsToCache, PolicyCache.get]
  simp only [List.find?_filterMap, Option.bind_eq_some_iff, List.find?_eq_some_iff_append, read,
    any_policyKey]
  constructor
  · rintro ⟨row, ⟨keyed, before, after, rfl, first⟩, same⟩
    refine ⟨before, row, after, rfl, same, (hasKey_iff same key).mp keyed, ?_⟩
    intro other member
    have passed := first other member
    rw [← any_policyKey]
    simpa using passed
  · rintro ⟨before, row, after, rfl, parsed, keyed, first⟩
    refine ⟨row, ⟨(hasKey_iff parsed key).mpr keyed, before, after, rfl, ?_⟩, parsed⟩
    intro other member
    have passed := first other member
    rw [← any_policyKey] at passed
    simpa using passed

/-- What is read of a row has its number and its window. -/
theorem rowToPolicy_columns {row : PolicyRow} {policy : Policy}
    (parsed : rowToPolicy row = .ok policy) :
    policy.id = some row.id ∧ policy.effectiveFrom = row.effectiveFrom ∧
      policy.effectiveUntil = row.effectiveUntil := by
  simp only [rowToPolicy, Bind.bind, Except.bind] at parsed
  -- Each column is parsed in its turn, and none of them is one of these three.
  split at parsed
  · cases parsed
  split at parsed
  · cases parsed
  split at parsed
  · cases parsed
  split at parsed
  · cases parsed
  split at parsed
  · cases parsed
  split at parsed
  · cases parsed
  cases parsed
  exact ⟨rfl, rfl, rfl⟩

theorem effectiveAt_iff {row : PolicyRow} {policy : Policy} (parsed : rowToPolicy row = .ok policy)
    (now : Int64) : policy.EffectiveAt now ↔ row.EffectiveAt now := by
  obtain ⟨-, from_, till⟩ := rowToPolicy_columns parsed
  rw [Policy.EffectiveAt, PolicyRow.EffectiveAt, from_, till]

/-- What is found among all rows that a query returned is what a load can find. -/
theorem PolicyTable.Selects.loads {table : PolicyTable} {askedAt now : Int64}
    {rows : List PolicyRow} {key : PolicyCacheKey} (selects : table.Selects askedAt rows)
    (same : ∀ row ∈ table.rows, row.HasKey key → (row.EffectiveAt askedAt ↔ row.EffectiveAt now)) :
    table.Loads now key ((rowsToCache rows).get key) := by
  obtain ⟨selected, sorted⟩ := selects
  refine ⟨rows.filter fun row => row.HasKey key, ?_, sorted.sublist List.filter_sublist, ?_⟩
  · -- The rows with the key that were effective then are those that are effective now.
    have kept := selected.filter fun row => row.HasKey key
    rw [List.filter_filter] at kept
    refine kept.trans (List.Perm.of_eq (List.filter_congr ?_))
    intro row member
    by_cases keyed : row.HasKey key
    · simp [keyed, same row member keyed]
    · simp [keyed]
  · -- The search passes over the rows without the key anyway.
    simp only [rowsToCache, PolicyCache.get, List.find?_filterMap, List.find?_filter]
    congr 2
    funext row
    by_cases keyed : row.HasKey key
    · simp [keyed]
    · have passed : ¬ ((rowToPolicy row).toOption.any fun policy =>
          decide (policyKey policy = key)) = true := fun found => keyed (any_policyKey.mp found)
      simp only [keyed, decide_false]
      exact (Bool.eq_false_iff.mpr passed).symm

/-- What a load finds is the policy of a row of the table, and effective at that time. -/
theorem PolicyTable.Loads.row {table : PolicyTable} {now : Int64} {key : PolicyCacheKey}
    {policy : Policy} (loads : table.Loads now key (some policy)) :
    ∃ row ∈ table.rows, rowToPolicy row = .ok policy ∧ policyKey policy = key ∧
      policy.EffectiveAt now := by
  -- The rows that were searched are among those of the table.
  obtain ⟨rows, same, -, found⟩ := loads
  obtain ⟨before, row, after, rfl, parsed, keyed, -⟩ := get_rowsToCache.mp found
  have inside := List.mem_filter.mp (same.mem_iff.mp (by simp : row ∈ before ++ row :: after))
  have effective : row.EffectiveAt now := (of_decide_eq_true inside.2).1
  exact ⟨row, inside.1, parsed, keyed, (effectiveAt_iff parsed now).mpr effective⟩

/-- A load of a table from which a number was deleted does not find it. -/
theorem PolicyTable.Loads.ne_deleted {table : PolicyTable} {now id : Int64} {key : PolicyCacheKey}
    {policy : Policy} (loads : (table.delete id).Loads now key (some policy)) :
    policy.id ≠ some id := by
  -- The policy has the number of a row that was not deleted.
  obtain ⟨row, member, parsed, -⟩ := loads.row
  have kept := (List.mem_filter.mp member).2
  rw [(rowToPolicy_columns parsed).1]
  simpa using kept

/-- An upsert writes the row of its policy, and beside it leaves rows that were there. -/
theorem PolicyTable.mem_upsert {table next : PolicyTable} {policy : Policy} {id stamp : Int64}
    (written : table.upsert policy id stamp = some next) :
    (∃ number, insertedPolicy policy number stamp ∈ next.rows) ∧
      ∀ row ∈ next.rows, row ∈ table.rows ∨ ∃ number, row = insertedPolicy policy number stamp := by
  unfold upsert at written
  simp only at written
  split at written
  case isFalse => cases written
  split at written
  case isTrue free =>
    split at written
    case isFalse => cases written
    cases written
    -- Nothing conflicts, so the row is a new one.
    refine ⟨⟨id, by simp⟩, ?_⟩
    intro row member
    rcases List.mem_append.mp member with old | new
    · exact .inl old
    · exact .inr ⟨id, List.mem_singleton.mp new⟩
  case isFalse taken =>
    cases written
    push Not at taken
    obtain ⟨other, member, conflicts⟩ := taken
    constructor
    · refine ⟨other.id, List.mem_map.mpr ⟨other, member, ?_⟩⟩
      rw [if_pos conflicts]
      rfl
    · intro row inside
      obtain ⟨source, before, rfl⟩ := List.mem_map.mp inside
      split
      · exact .inr ⟨source.id, rfl⟩
      · exact .inl before

/-- A load that comes behind an upsert, and behind no newer one, finds what was upserted. -/
theorem PolicyTable.Loads.eq_upserted {table next : PolicyTable} {policy : Policy}
    {id now stamp : Int64} {found : Option Policy}
    (written : table.upsert policy id stamp = some next)
    (newest : ∀ row ∈ table.rows, row.HasKey (policyKey policy) → row.updatedAt < stamp)
    (effective : policy.EffectiveAt now)
    (loads : next.Loads now (policyKey policy) found) :
    ∃ number, found = some { policy with id := some number } := by
  obtain ⟨⟨number, inserted⟩, rest⟩ := mem_upsert written
  obtain ⟨rows, same, sorted, rfl⟩ := loads
  have parsed := rowToPolicy_insertedPolicy policy number stamp
  have keyed : (insertedPolicy policy number stamp).HasKey (policyKey policy) :=
    (hasKey_iff parsed _).mpr rfl
  have loaded : insertedPolicy policy number stamp ∈ rows := by
    refine same.mem_iff.mpr (List.mem_filter.mpr ⟨inserted, ?_⟩)
    exact decide_eq_true ⟨(effectiveAt_iff parsed now).mp effective, keyed⟩
  cases found : (rowsToCache rows).get (policyKey policy) with
  | none =>
    -- The row that was written has the key, so the search finds one.
    have missed := List.find?_eq_none.mp found { policy with id := some number }
      (List.mem_filterMap.mpr ⟨_, loaded, by rw [parsed]; rfl⟩)
    simp [policyKey] at missed
  | some other =>
    obtain ⟨before, row, after, rfl, read, -, first⟩ := get_rowsToCache.mp found
    have inside := List.mem_filter.mp (same.mem_iff.mp (by simp : row ∈ before ++ row :: after))
    rcases rest row inside.1 with old | ⟨own, rfl⟩
    · -- An older row would come behind the one that was written, and not be the first.
      rw [List.pairwise_append, List.pairwise_cons] at sorted
      rcases List.mem_append.mp loaded with ahead | behind
      · exact absurd keyed (first _ ahead)
      · rcases List.mem_cons.mp behind with here | behind
        · rw [← here, parsed] at read
          cases read
          exact ⟨number, rfl⟩
        · have later := sorted.2.1.1 _ behind
          exact absurd (newest row old (of_decide_eq_true inside.2).2) (Int64.not_lt.mpr later)
    · rw [rowToPolicy_insertedPolicy] at read
      cases read
      exact ⟨own, rfl⟩

end Zradar.Policies
