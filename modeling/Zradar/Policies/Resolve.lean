import Zradar.Policies.Types

/-! Policy resolution: the cached policies of four scopes are merged into one. -/

namespace Zradar.Policies

inductive PolicySource where
  | api
  | file
  | env
  | crd
  | default
  deriving DecidableEq, Repr

/-- A limit of a workspace, with the signal and the operation it is declared for. -/
structure Policy where
  id : Option Int64
  workspaceId : WorkspaceId
  signal : SignalKind
  operation : Operation
  limit : PolicyLimit
  gracePct : UInt8
  hardBlockPct : UInt8
  effectiveFrom : Int64
  effectiveUntil : Option Int64
  source : PolicySource
  deriving DecidableEq

inductive LimitKind where
  | rate
  | quota
  | size
  | retention
  | window
  deriving DecidableEq, Repr

/-- The kind of a limit. -/
def limitKind : PolicyLimit → LimitKind
  | .rate _ _ => .rate
  | .quota _ _ _ _ => .quota
  | .size _ _ => .size
  | .retention _ => .retention
  | .window _ => .window

structure PolicyCacheKey where
  workspaceId : WorkspaceId
  signal : SignalKind
  operation : Operation
  limitKind : LimitKind
  deriving DecidableEq

/-- The key under which a policy is cached. -/
def policyKey (policy : Policy) : PolicyCacheKey where
  workspaceId := policy.workspaceId
  signal := policy.signal
  operation := policy.operation
  limitKind := limitKind policy.limit

/-- The cache: of the policies that are loaded with one key, the first counts. -/
structure PolicyCache where
  policies : List Policy

/-- The policy under a key. -/
def PolicyCache.get (cache : PolicyCache) (key : PolicyCacheKey) : Option Policy :=
  cache.policies.find? fun policy => policyKey policy = key

/-- The smaller of two limits, either of which may be missing. -/
def minOption (left right : Option UInt64) : Option UInt64 :=
  match left, right with
  | some left, some right => some (min left right)
  | some value, none | none, some value => some value
  | none, none => none

/-- Merge two rates, component by component. -/
def chooseRate (current : Option PolicyLimit) (candidate : PolicyLimit) : Option PolicyLimit :=
  match current, candidate with
  | some (.rate currentRecords currentBytes), .rate recordsPerSec bytesPerSec =>
    some (.rate (minOption currentRecords recordsPerSec) (minOption currentBytes bytesPerSec))
  | none, candidate => some candidate
  | some current, _ => some current

/-- Keep the smaller of two sizes, with the basis of the one that came first. -/
def chooseLowestBytes (current : Option PolicyLimit) (candidate : PolicyLimit) :
    Option PolicyLimit :=
  match current, candidate with
  | some (.size currentBytes basis), .size maxBytes _ =>
    if maxBytes < currentBytes then some (.size maxBytes basis)
    else some (.size currentBytes basis)
  | none, candidate => some candidate
  | some current, _ => some current

/-- Keep the smaller of two numbers of days. -/
def chooseLowestDays (current : Option PolicyLimit) (candidate : PolicyLimit) :
    Option PolicyLimit :=
  match current, candidate with
  | some (.retention currentDays), .retention maxDays =>
    if maxDays < currentDays then some (.retention maxDays) else some (.retention currentDays)
  | some (.window currentDays), .window maxQueryDays =>
    if maxQueryDays < currentDays then some (.window maxQueryDays) else some (.window currentDays)
  | none, candidate => some candidate
  | some current, _ => some current

/-- Merge one policy into what is resolved so far. -/
def mergePolicy (resolved : ResolvedPolicy) (policy : Policy) : ResolvedPolicy :=
  let resolved := { resolved with
    gracePct := min resolved.gracePct policy.gracePct
    hardBlockPct := min resolved.hardBlockPct policy.hardBlockPct }
  match policy.limit with
  | .rate _ _ => { resolved with rate := chooseRate resolved.rate policy.limit }
  | .quota _ _ _ _ => { resolved with quotas := resolved.quotas ++ [policy.limit] }
  | .size _ _ => { resolved with size := chooseLowestBytes resolved.size policy.limit }
  | .retention _ => { resolved with retention := chooseLowestDays resolved.retention policy.limit }
  | .window _ => { resolved with queryWindow := chooseLowestDays resolved.queryWindow policy.limit }

/-- Merge the policies of one scope, where the quota comes last. -/
def applyCachedPolicy (cache : PolicyCache) (resolved : ResolvedPolicy)
    (workspaceId : WorkspaceId) (signal : SignalKind) (operation : Operation) : ResolvedPolicy :=
  [LimitKind.rate, .size, .retention, .window, .quota].foldl
    (fun resolved kind =>
      match cache.get ⟨workspaceId, signal, operation, kind⟩ with
      | some policy => mergePolicy resolved policy
      | none => resolved)
    resolved

/-- The scopes that apply to a signal and an operation. -/
def scopes (signal : SignalKind) (operation : Operation) : List (SignalKind × Operation) :=
  [(signal, operation), (signal, .all), (.all, operation), (.all, .all)]

/-- Resolve the policy of a workspace from the cache. -/
def resolveCachedPolicy (cache : PolicyCache) (workspaceId : WorkspaceId) (signal : SignalKind)
    (operation : Operation) : ResolvedPolicy :=
  (scopes signal operation).foldl
    (fun resolved scope => applyCachedPolicy cache resolved workspaceId scope.1 scope.2)
    .default

/-- The policies that a resolution merges, in their order. -/
def applicable (cache : PolicyCache) (workspaceId : WorkspaceId) (signal : SignalKind)
    (operation : Operation) : List Policy :=
  (scopes signal operation).flatMap fun scope =>
    [LimitKind.rate, .size, .retention, .window, .quota].filterMap fun kind =>
      cache.get ⟨workspaceId, scope.1, scope.2, kind⟩

/-- A pass that merges what the keys find merges the policies that are found. -/
theorem foldl_mergePolicy_filterMap {κ : Type} (find : κ → Option Policy) (keys : List κ)
    (resolved : ResolvedPolicy) :
    keys.foldl (fun resolved key =>
      match find key with
      | some policy => mergePolicy resolved policy
      | none => resolved) resolved = (keys.filterMap find).foldl mergePolicy resolved := by
  -- Scopes without a policy are passed over.
  induction keys generalizing resolved with
  | nil => rfl
  | cons key keys ih =>
    rw [List.foldl_cons, ih]
    cases found : find key with
    | none => simp [found]
    | some policy => simp [found]

/-- Resolution merges the applicable policies one by one. -/
theorem resolveCachedPolicy_eq (cache : PolicyCache) (workspaceId : WorkspaceId)
    (signal : SignalKind) (operation : Operation) :
    resolveCachedPolicy cache workspaceId signal operation =
      (applicable cache workspaceId signal operation).foldl mergePolicy .default := by
  unfold resolveCachedPolicy applicable
  rw [List.foldl_flatMap]
  congr 1
  funext resolved scope
  exact foldl_mergePolicy_filterMap _ _ resolved

/-- A policy in the cache under a key has the workspace, the scope and the kind of the key. -/
theorem PolicyCache.get_key {cache : PolicyCache} {key : PolicyCacheKey} {policy : Policy}
    (found : cache.get key = some policy) : policyKey policy = key := by
  simpa using List.find?_some found

/-- A policy of one of the scopes is applicable. -/
theorem mem_applicable {cache : PolicyCache} {workspaceId : WorkspaceId} {signal : SignalKind}
    {operation : Operation} {scope : SignalKind × Operation} {kind : LimitKind} {policy : Policy}
    (inside : scope ∈ scopes signal operation)
    (found : cache.get ⟨workspaceId, scope.1, scope.2, kind⟩ = some policy) :
    policy ∈ applicable cache workspaceId signal operation := by
  refine List.mem_flatMap.mpr ⟨scope, inside, List.mem_filterMap.mpr ⟨kind, ?_, found⟩⟩
  cases kind <;> simp

/-- The limits that are resolved so far are of the kind of their field. -/
structure ResolvedPolicy.WellKinded (resolved : ResolvedPolicy) : Prop where
  rate : ∀ limit, resolved.rate = some limit → limitKind limit = .rate
  size : ∀ limit, resolved.size = some limit → limitKind limit = .size

theorem default_wellKinded : ResolvedPolicy.default.WellKinded where
  rate := by simp [ResolvedPolicy.default]
  size := by simp [ResolvedPolicy.default]

/-- Two rates are merged into a rate, and everything else stays what it is. -/
theorem chooseRate_kind {current : Option PolicyLimit} {candidate limit : PolicyLimit}
    (kinded : ∀ limit, current = some limit → limitKind limit = .rate)
    (kind : limitKind candidate = .rate) (chosen : chooseRate current candidate = some limit) :
    limitKind limit = .rate := by
  -- The choice is a rate made of both, or one of the two.
  unfold chooseRate at chosen
  split at chosen
  · cases chosen
    rfl
  · cases chosen
    exact kind
  · cases chosen
    exact kinded _ rfl

theorem chooseLowestBytes_kind {current : Option PolicyLimit} {candidate limit : PolicyLimit}
    (kinded : ∀ limit, current = some limit → limitKind limit = .size)
    (kind : limitKind candidate = .size)
    (chosen : chooseLowestBytes current candidate = some limit) : limitKind limit = .size := by
  -- The choice is a size made of both, or one of the two.
  unfold chooseLowestBytes at chosen
  split at chosen
  · split at chosen <;> cases chosen <;> rfl
  · cases chosen
    exact kind
  · cases chosen
    exact kinded _ rfl

theorem mergePolicy_wellKinded {resolved : ResolvedPolicy} (kinded : resolved.WellKinded)
    (policy : Policy) : (mergePolicy resolved policy).WellKinded := by
  -- Only a rate changes the rate, and only a size the size.
  unfold mergePolicy
  cases limit : policy.limit with
  | rate recordsPerSec bytesPerSec =>
    exact ⟨fun _ chosen => chooseRate_kind kinded.rate rfl chosen, kinded.size⟩
  | quota => exact ⟨kinded.rate, kinded.size⟩
  | size maxBytes basis =>
    exact ⟨kinded.rate, fun _ chosen => chooseLowestBytes_kind kinded.size rfl chosen⟩
  | retention => exact ⟨kinded.rate, kinded.size⟩
  | window => exact ⟨kinded.rate, kinded.size⟩

/-- What one policy brings about and no policy undoes holds once that policy is merged. -/
theorem foldl_mergePolicy_reaches (holds : ResolvedPolicy → Prop) {policy : Policy}
    (reaches : ∀ resolved : ResolvedPolicy, resolved.WellKinded →
      holds (mergePolicy resolved policy))
    (keeps : ∀ (resolved : ResolvedPolicy) (other : Policy), resolved.WellKinded →
      holds resolved → holds (mergePolicy resolved other))
    {policies : List Policy} (member : policy ∈ policies) {resolved : ResolvedPolicy}
    (kinded : resolved.WellKinded) : holds (policies.foldl mergePolicy resolved) := by
  -- Behind the policy, the rest of the list can only keep what it has brought about.
  have stays (rest : List Policy) : ∀ resolved : ResolvedPolicy, resolved.WellKinded →
      holds resolved → holds (rest.foldl mergePolicy resolved) := by
    induction rest with
    | nil =>
      intro resolved _ holding
      exact holding
    | cons first rest ih =>
      intro resolved kinded holding
      exact ih _ (mergePolicy_wellKinded kinded first) (keeps resolved first kinded holding)
  induction policies generalizing resolved with
  | nil => cases member
  | cons first rest ih =>
    rcases List.mem_cons.mp member with rfl | behind
    · exact stays rest _ (mergePolicy_wellKinded kinded policy) (reaches resolved kinded)
    · exact ih behind (mergePolicy_wellKinded kinded first)

theorem minU8_toNat (first second : UInt8) :
    (min first second).toNat = min first.toNat second.toNat := by
  change (if first ≤ second then first else second).toNat = _
  split <;> rename_i order <;> rw [UInt8.le_iff_toNat_le] at order <;> omega

theorem minU64_toNat (first second : UInt64) :
    (min first second).toNat = min first.toNat second.toNat := by
  change (if first ≤ second then first else second).toNat = _
  split <;> rename_i order <;> rw [UInt64.le_iff_toNat_le] at order <;> omega

@[simp] theorem mergePolicy_hardBlockPct (resolved : ResolvedPolicy) (policy : Policy) :
    (mergePolicy resolved policy).hardBlockPct.toNat =
      min resolved.hardBlockPct.toNat policy.hardBlockPct.toNat := by
  rw [← minU8_toNat]
  unfold mergePolicy
  split <;> rfl

/-- A limit that is missing, or one that is at most the given one. -/
def AtMost (limit bound : Option UInt64) : Prop :=
  ∀ value, bound = some value → ∃ chosen, limit = some chosen ∧ chosen.toNat ≤ value.toNat

theorem atMost_minOption_left {limit bound : Option UInt64} (below : AtMost limit bound)
    (other : Option UInt64) : AtMost (minOption limit other) bound := by
  -- The minimum is at most the left one, if that is given at all.
  intro value given
  obtain ⟨chosen, rfl, small⟩ := below value given
  cases other with
  | none => exact ⟨chosen, rfl, small⟩
  | some right =>
    refine ⟨min chosen right, rfl, ?_⟩
    rw [minU64_toNat]
    omega

theorem atMost_minOption_right (limit bound : Option UInt64) :
    AtMost (minOption limit bound) bound := by
  -- The minimum is at most the right one, if that is given at all.
  rintro value rfl
  cases limit with
  | none => exact ⟨value, rfl, le_refl _⟩
  | some left =>
    refine ⟨min left value, rfl, ?_⟩
    rw [minU64_toNat]
    omega

section

variable {policy : Policy} {policies : List Policy} (member : policy ∈ policies)
include member

/-- The hard percentage is at most that of every policy. -/
theorem resolved_hardBlockPct_le :
    (policies.foldl mergePolicy .default).hardBlockPct.toNat ≤ policy.hardBlockPct.toNat := by
  -- The merge of the policy sets the bound, and later merges only lower it.
  refine foldl_mergePolicy_reaches
    (fun resolved => resolved.hardBlockPct.toNat ≤ policy.hardBlockPct.toNat) ?_ ?_ member
    default_wellKinded
  · intro resolved _
    rw [mergePolicy_hardBlockPct]
    exact min_le_right _ _
  · intro resolved other _ below
    rw [mergePolicy_hardBlockPct]
    exact le_trans (min_le_left _ _) below

/-- A quota of a policy is among the quotas. -/
theorem resolved_quota_mem {maxBytes periodStart : Int64} {periodEnd : Option Int64}
    {basis : UsageBasis} (limit : policy.limit = .quota maxBytes periodStart periodEnd basis) :
    policy.limit ∈ (policies.foldl mergePolicy .default).quotas := by
  -- Quotas are collected and never dropped.
  refine foldl_mergePolicy_reaches (fun resolved => policy.limit ∈ resolved.quotas) ?_ ?_ member
    default_wellKinded
  · intro resolved _
    simp [mergePolicy, limit]
  · intro resolved other _ inside
    unfold mergePolicy
    split
    all_goals first | exact inside | exact List.mem_append_left _ inside

/-- The rate is at most that of every policy, for records and for bytes. -/
theorem resolved_rate_le {recordsPerSec bytesPerSec : Option UInt64}
    (limit : policy.limit = .rate recordsPerSec bytesPerSec) :
    ∃ records bytes, (policies.foldl mergePolicy .default).rate = some (.rate records bytes) ∧
      AtMost records recordsPerSec ∧ AtMost bytes bytesPerSec := by
  refine foldl_mergePolicy_reaches (fun resolved => ∃ records bytes,
    resolved.rate = some (.rate records bytes) ∧ AtMost records recordsPerSec ∧
      AtMost bytes bytesPerSec) ?_ ?_ member default_wellKinded
  -- The merge of the policy itself sets the bound.
  · intro resolved kinded
    simp only [mergePolicy, limit]
    cases current : resolved.rate with
    | none =>
      exact ⟨recordsPerSec, bytesPerSec, rfl, fun value given => ⟨value, given, le_refl _⟩,
        fun value given => ⟨value, given, le_refl _⟩⟩
    | some other =>
      have kind := kinded.rate other current
      cases other with
      | rate records bytes =>
        exact ⟨_, _, rfl, atMost_minOption_right records recordsPerSec,
          atMost_minOption_right bytes bytesPerSec⟩
      | quota | size | retention | window => cases kind
  -- Later merges only lower what was reached.
  · rintro resolved other _ ⟨records, bytes, current, few, small⟩
    unfold mergePolicy
    split
    · rename_i otherRecords otherBytes otherLimit
      refine ⟨minOption records otherRecords, minOption bytes otherBytes, ?_,
        atMost_minOption_left few _, atMost_minOption_left small _⟩
      simp [current, otherLimit, chooseRate]
    all_goals exact ⟨records, bytes, current, few, small⟩

/-- The size is at most that of every policy. -/
theorem resolved_size_le {maxBytes : Int64} {basis : UsageBasis}
    (limit : policy.limit = .size maxBytes basis) :
    ∃ least chosen, (policies.foldl mergePolicy .default).size = some (.size least chosen) ∧
      least.toInt ≤ maxBytes.toInt := by
  refine foldl_mergePolicy_reaches (fun resolved => ∃ least chosen,
    resolved.size = some (.size least chosen) ∧ least.toInt ≤ maxBytes.toInt) ?_ ?_ member
    default_wellKinded
  -- The merge of the policy itself sets the bound.
  · intro resolved kinded
    simp only [mergePolicy, limit]
    cases current : resolved.size with
    | none => exact ⟨maxBytes, basis, rfl, le_refl _⟩
    | some other =>
      have kind := kinded.size other current
      cases other with
      | size least chosen =>
        simp only [chooseLowestBytes]
        split
        · exact ⟨maxBytes, chosen, rfl, le_refl _⟩
        · rename_i order
          rw [Int64.lt_iff_toInt_lt] at order
          exact ⟨least, chosen, rfl, by omega⟩
      | quota | rate | retention | window => cases kind
  -- Later merges only lower what was reached.
  · rintro resolved other _ ⟨least, chosen, current, small⟩
    unfold mergePolicy
    split
    · exact ⟨least, chosen, current, small⟩
    · exact ⟨least, chosen, current, small⟩
    · rename_i otherBytes otherBasis otherLimit
      simp only [current, otherLimit, chooseLowestBytes]
      split
      · rename_i order
        rw [Int64.lt_iff_toInt_lt] at order
        exact ⟨otherBytes, chosen, rfl, by omega⟩
      · exact ⟨least, chosen, rfl, small⟩
    all_goals exact ⟨least, chosen, current, small⟩

end

/-- Where all sizes count compressed bytes, so does the one that is resolved. -/
theorem resolved_size_basis {policies : List Policy}
    (compressed : ∀ policy ∈ policies, ∀ maxBytes basis, policy.limit = .size maxBytes basis →
      basis = .compressedBytes) {maxBytes : Int64} {basis : UsageBasis}
    (size : (policies.foldl mergePolicy .default).size = some (.size maxBytes basis)) :
    basis = .compressedBytes := by
  -- The basis of the first size is kept, and each size that is merged has the right one.
  suffices kept : ∀ resolved : ResolvedPolicy,
      (∀ maxBytes basis, resolved.size = some (.size maxBytes basis) →
        basis = .compressedBytes) →
      ∀ maxBytes basis, (policies.foldl mergePolicy resolved).size = some (.size maxBytes basis) →
        basis = .compressedBytes from
    kept .default (by simp [ResolvedPolicy.default]) maxBytes basis size
  clear size
  induction policies with
  | nil =>
    intro resolved before
    exact before
  | cons policy rest ih =>
    intro resolved before
    refine ih (fun other inside => compressed other (List.mem_cons_of_mem _ inside)) _ ?_
    intro maxBytes basis merged
    unfold mergePolicy at merged
    split at merged
    · exact before maxBytes basis merged
    · exact before maxBytes basis merged
    · rename_i otherBytes otherBasis limit
      have own := compressed policy List.mem_cons_self otherBytes otherBasis limit
      simp only [limit, chooseLowestBytes] at merged
      split at merged
      · rename_i currentBytes currentBasis _ _ current same
        have currentOk := before currentBytes currentBasis current
        split at merged <;> cases merged <;> exact currentOk
      · cases merged
        exact own
      · rename_i current _ found _
        cases merged
        exact before maxBytes basis found
    · exact before maxBytes basis merged
    · exact before maxBytes basis merged

end Zradar.Policies
