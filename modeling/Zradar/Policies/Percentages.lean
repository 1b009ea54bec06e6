import Zradar.Policies.Restrictive

/-! Whether a limit is compared with the percentages of the policy that it came from. -/

namespace Zradar.Policies

/-- The checks compare a reading with this policy's limit, which the resolved policy has kept. -/
def Compared (resolved : ResolvedPolicy) (policy : Policy) : Prop :=
  match policy.limit with
  | .rate recordsPerSec bytesPerSec =>
    ∃ rate, resolved.rate = some rate ∧
      (recordsPerSec.isSome ∧ recordsOf rate = recordsPerSec ∨
        bytesPerSec.isSome ∧ bytesOf rate = bytesPerSec)
  | .quota _ _ _ _ => policy.limit ∈ resolved.quotas
  | .size maxBytes _ => ∃ basis, resolved.size = some (.size maxBytes basis)
  -- The limits of a range are not compared by percentages.
  | .retention _ | .window _ => False

/-- The percentages that the checks of a resolved policy use are those of a policy. -/
def SamePercentages (resolved : ResolvedPolicy) (policy : Policy) : Prop :=
  resolved.gracePct = policy.gracePct ∧ resolved.hardBlockPct = policy.hardBlockPct

section

variable (cache : PolicyCache) (workspaceId : WorkspaceId) (signal : SignalKind)
  (operation : Operation)

/-- Every limit is compared with its own percentages, and the defaults stand for no policy. -/
structure OwnPercentages (resolved : ResolvedPolicy) : Prop where
  own : ∀ policy ∈ applicable cache workspaceId signal operation, Compared resolved policy →
    SamePercentages resolved policy
  default : applicable cache workspaceId signal operation = [] →
    resolved.gracePct = ResolvedPolicy.default.gracePct ∧
      resolved.hardBlockPct = ResolvedPolicy.default.hardBlockPct

/-- No policy that applies has a smaller bound of the kind, for records or for bytes of a rate. -/
def InForce (policy : Policy) : Prop :=
  match policy.limit with
  | .rate recordsPerSec bytesPerSec =>
    recordsPerSec.isSome ∧ (∀ other ∈ applicableOf cache workspaceId signal operation .rate,
        AtMost recordsPerSec (recordsOf other.limit)) ∨
      bytesPerSec.isSome ∧ ∀ other ∈ applicableOf cache workspaceId signal operation .rate,
        AtMost bytesPerSec (bytesOf other.limit)
  | .quota _ _ _ _ => True
  | .size _ _ => ∀ other ∈ applicableOf cache workspaceId signal operation .size,
      boundOf policy.limit ≤ boundOf other.limit
  | .retention _ | .window _ => False

/-- The percentages of a policy are at most the defaults and those of every policy that applies. -/
def LowestPercentages (policy : Policy) : Prop :=
  (policy.gracePct ≤ 101 ∧ policy.hardBlockPct ≤ 103) ∧
    ∀ other ∈ applicable cache workspaceId signal operation,
      policy.gracePct ≤ other.gracePct ∧ policy.hardBlockPct ≤ other.hardBlockPct

end

@[simp] theorem mergePolicy_gracePct (resolved : ResolvedPolicy) (policy : Policy) :
    (mergePolicy resolved policy).gracePct.toNat =
      min resolved.gracePct.toNat policy.gracePct.toNat := by
  rw [← minU8_toNat]
  unfold mergePolicy
  split <;> rfl

/-- A percentage that every merge takes the minimum of is the least of all. -/
theorem le_foldl_mergePolicy {field : ResolvedPolicy → UInt8} {own : Policy → UInt8}
    (merge : ∀ resolved policy, (field (mergePolicy resolved policy)).toNat =
      min (field resolved).toNat (own policy).toNat)
    (policies : List Policy) (resolved : ResolvedPolicy) (bound : Nat) :
    bound ≤ (field (policies.foldl mergePolicy resolved)).toNat ↔
      bound ≤ (field resolved).toNat ∧ ∀ policy ∈ policies, bound ≤ (own policy).toNat := by
  -- Each policy lowers the minimum to its own, or leaves it.
  induction policies generalizing resolved with
  | nil => simp
  | cons policy rest ih =>
    rw [List.foldl_cons, ih, merge, le_min_iff, List.forall_mem_cons, and_assoc]

section

variable {cache : PolicyCache} {workspaceId : WorkspaceId} {signal : SignalKind}
  {operation : Operation}

/-- A policy of a kind that applies is one of the policies that apply. -/
theorem mem_applicableOf {kind : LimitKind} {policy : Policy} :
    policy ∈ applicableOf cache workspaceId signal operation kind ↔
      policy ∈ applicable cache workspaceId signal operation ∧ limitKind policy.limit = kind := by
  constructor
  · intro member
    obtain ⟨scope, inside, found⟩ := List.mem_filterMap.mp member
    exact ⟨mem_applicable (List.mem_dedup.mp inside) found,
      congrArg PolicyCacheKey.limitKind (PolicyCache.get_key found)⟩
  · rintro ⟨member, rfl⟩
    obtain ⟨scope, inside, member⟩ := List.mem_flatMap.mp member
    obtain ⟨kind, _, found⟩ := List.mem_filterMap.mp member
    -- The policy is found under its own kind.
    have same := congrArg PolicyCacheKey.limitKind (PolicyCache.get_key found)
    dsimp only [policyKey] at same
    exact List.mem_filterMap.mpr ⟨scope, List.mem_dedup.mpr inside, same ▸ found⟩

/-- A policy keeps its percentages exactly when they are the lowest. -/
theorem samePercentages_iff {policy : Policy}
    (member : policy ∈ applicable cache workspaceId signal operation) :
    SamePercentages (resolveCachedPolicy cache workspaceId signal operation) policy ↔
      LowestPercentages cache workspaceId signal operation policy := by
  have grace (bound : Nat) := le_foldl_mergePolicy mergePolicy_gracePct
    (applicable cache workspaceId signal operation) .default bound
  have hard (bound : Nat) := le_foldl_mergePolicy mergePolicy_hardBlockPct
    (applicable cache workspaceId signal operation) .default bound
  simp only [SamePercentages, LowestPercentages, resolveCachedPolicy_eq, ← UInt8.toNat_inj,
    UInt8.le_iff_toNat_le]
  -- The least percentage is at most that of the policy, so it is the other bound that counts.
  have graceLe := ((grace _).mp (le_refl _)).2 policy member
  have hardLe := ((hard _).mp (le_refl _)).2 policy member
  have graceEq := grace policy.gracePct.toNat
  have hardEq := hard policy.hardBlockPct.toNat
  have defaults : (101 : UInt8).toNat = 101 ∧ (103 : UInt8).toNat = 103 := by decide
  simp only [ResolvedPolicy.default] at graceEq hardEq
  constructor
  · rintro ⟨sameGrace, sameHard⟩
    have graceAll := graceEq.mp (by simp only [ResolvedPolicy.default] at sameGrace; omega)
    have hardAll := hardEq.mp (by simp only [ResolvedPolicy.default] at sameHard; omega)
    exact ⟨⟨graceAll.1, hardAll.1⟩, fun other inside => ⟨graceAll.2 other inside,
      hardAll.2 other inside⟩⟩
  · rintro ⟨⟨graceDefault, hardDefault⟩, others⟩
    have graceAll := graceEq.mpr ⟨graceDefault, fun other inside => (others other inside).1⟩
    have hardAll := hardEq.mpr ⟨hardDefault, fun other inside => (others other inside).2⟩
    exact ⟨le_antisymm graceLe graceAll, le_antisymm hardLe hardAll⟩

/-- A bound that is given is the least one exactly when it is at most every other. -/
theorem LeastGiven.eq_iff {bounds : List (Option UInt64)} {chosen bound : Option UInt64}
    (least : LeastGiven bounds chosen) (member : bound ∈ bounds) :
    (bound.isSome ∧ chosen = bound) ↔ bound.isSome ∧ ∀ other ∈ bounds, AtMost bound other := by
  constructor
  · rintro ⟨given, rfl⟩
    exact ⟨given, least.below⟩
  · rintro ⟨given, below⟩
    obtain ⟨value, rfl⟩ := Option.isSome_iff_exists.mp given
    obtain ⟨lowest, rfl, under⟩ := least.below _ member value rfl
    obtain ⟨same, found, above⟩ := below _ least.given lowest rfl
    cases found
    -- Each of the two is at most the other.
    exact ⟨rfl, congrArg some (UInt64.toNat_inj.mp (Nat.le_antisymm under above))⟩

/-- The limit of a policy is compared exactly when no policy that applies is tighter. -/
theorem compared_iff_inForce {policy : Policy}
    (member : policy ∈ applicable cache workspaceId signal operation) :
    Compared (resolveCachedPolicy cache workspaceId signal operation) policy ↔
      InForce cache workspaceId signal operation policy := by
  -- The limit of each kind is merged in its own way.
  obtain ⟨rate, size, _, _⟩ := resolveCachedPolicy_fields cache workspaceId signal operation
  have quotas := resolveCachedPolicy_quotas cache workspaceId signal operation
  unfold Compared InForce
  cases limit : policy.limit with
  | rate recordsPerSec bytesPerSec =>
    have own : policy ∈ applicableOf cache workspaceId signal operation .rate :=
      mem_applicableOf.mpr ⟨member, by rw [limit]; rfl⟩
    -- Both parts of a rate are compared, each with the least that is given.
    have tightest := tightestRate_foldl cache workspaceId signal operation
    rw [← rate] at tightest
    cases resolved : (resolveCachedPolicy cache workspaceId signal operation).rate with
    | none =>
      rw [resolved] at tightest
      rw [show applicableOf cache workspaceId signal operation .rate = [] from tightest] at own
      cases own
    | some merged =>
      rw [resolved] at tightest
      obtain ⟨_, _, records, bytes⟩ := tightest
      have recordsOwn : recordsOf policy.limit = recordsPerSec := by rw [limit]; rfl
      have bytesOwn : bytesOf policy.limit = bytesPerSec := by rw [limit]; rfl
      have recordsEq := records.eq_iff (List.mem_map.mpr ⟨policy, own, recordsOwn⟩)
      have bytesEq := bytes.eq_iff (List.mem_map.mpr ⟨policy, own, bytesOwn⟩)
      simp only [List.forall_mem_map] at recordsEq bytesEq
      simp only [Option.some.injEq, exists_eq_left', recordsEq, bytesEq]
  | quota =>
    simp only [iff_true, quotas]
    exact mem_limitsOf.mpr ⟨policy, mem_applicableOf.mpr ⟨member, by rw [limit]; rfl⟩, limit⟩
  | size maxBytes basis =>
    have own : policy ∈ applicableOf cache workspaceId signal operation .size :=
      mem_applicableOf.mpr ⟨member, by rw [limit]; rfl⟩
    obtain ⟨first, leads⟩ := Option.ne_none_iff_exists'.mp
      fun none => List.ne_nil_of_mem own (List.head?_eq_none_iff.mp none)
    obtain ⟨kept, folded, kind, _, below, source, sourced, same⟩ :=
      chooseLowestBytes_keeps.foldl_first leads
    rw [size, folded]
    cases kept with
    | rate | quota | retention | window => cases kind
    | size least chosen =>
      have under : least.toInt ≤ maxBytes.toInt := by simpa [limit, boundOf] using below policy own
      change (∃ basis, some (PolicyLimit.size least chosen) = some (.size maxBytes basis)) ↔
        ∀ other ∈ applicableOf cache workspaceId signal operation .size,
          maxBytes.toInt ≤ boundOf other.limit
      constructor
      · rintro ⟨basis, found⟩
        cases found
        exact below
      · intro smallest
        -- The bounds are the same, so the size is the one that is kept.
        have above := smallest source sourced
        rw [same] at above
        change maxBytes.toInt ≤ least.toInt at above
        exact ⟨chosen, by rw [Int64.toInt_inj.mp (le_antisymm under above)]⟩
  | retention => rfl
  | window => rfl

end

/--
Every limit is compared with the percentages of its own policy exactly when no limit in force has
percentages above the defaults or above those of another policy that applies.
-/
theorem percentages_own_iff (cache : PolicyCache) (workspaceId : WorkspaceId) (signal : SignalKind)
    (operation : Operation) :
    OwnPercentages cache workspaceId signal operation
        (resolveCachedPolicy cache workspaceId signal operation) ↔
      ∀ policy ∈ applicable cache workspaceId signal operation,
        InForce cache workspaceId signal operation policy →
          LowestPercentages cache workspaceId signal operation policy := by
  -- A policy is compared with its own percentages exactly if they are the lowest.
  constructor
  · intro percentages policy member forced
    rw [← samePercentages_iff member]
    exact percentages.own policy member ((compared_iff_inForce member).mpr forced)
  · intro lowest
    refine ⟨fun policy member compared => ?_, fun none => ?_⟩
    · rw [samePercentages_iff member]
      exact lowest policy member ((compared_iff_inForce member).mp compared)
    · rw [resolveCachedPolicy_eq, none]
      exact ⟨rfl, rfl⟩

/-- A quota with a grace and a hard percentage above the defaults. -/
def generousQuota : Policy :=
  { policyFor .traces .ingest (.quota 1000 0 none .compressedBytes) with
    gracePct := 150
    hardBlockPct := 200 }

/-- A quota that is to be blocked at twice its bytes is blocked at the default percentage. -/
theorem generous_quota_has_no_effect :
    let resolved := resolveCachedPolicy ⟨[generousQuota]⟩ Uuid.nil .traces .ingest
    resolved.quotas = [generousQuota.limit] ∧
      (resolved.gracePct, resolved.hardBlockPct) = (101, 103) ∧
      ¬ OwnPercentages ⟨[generousQuota]⟩ Uuid.nil .traces .ingest resolved := by
  -- The default percentages are lower than those of the quota.
  refine ⟨by decide, by decide, fun percentages => ?_⟩
  have own := percentages.own generousQuota (by decide)
    (by simp only [Compared, generousQuota, policyFor]; decide)
  exact absurd own.1 (by decide)

end Zradar.Policies
