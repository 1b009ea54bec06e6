import Zradar.Policies.Resolve

/-! Whether resolution keeps the most restrictive of the limits that apply, and each quota once. -/

namespace Zradar.Policies

/-- The policies of one kind that apply, each of them once. -/
def applicableOf (cache : PolicyCache) (workspaceId : WorkspaceId) (signal : SignalKind)
    (operation : Operation) (kind : LimitKind) : List Policy :=
  (scopes signal operation).dedup.filterMap fun scope =>
    cache.get ⟨workspaceId, scope.1, scope.2, kind⟩

/-- The bound of a limit, where a rate has two that are taken apart. -/
def boundOf : PolicyLimit → Int
  | .rate _ _ => 0
  | .quota maxBytes _ _ _ => maxBytes.toInt
  | .size maxBytes _ => maxBytes.toInt
  | .retention maxDays => maxDays.toNat
  | .window maxQueryDays => maxQueryDays.toNat

/-- The usage that a limit counts, if it says which. -/
def basisOf : PolicyLimit → Option UsageBasis
  | .quota _ _ _ basis => some basis
  | .size _ basis => some basis
  | .rate _ _ | .retention _ | .window _ => none

/-- The bound of a rate on records. -/
def recordsOf : PolicyLimit → Option UInt64
  | .rate recordsPerSec _ => recordsPerSec
  | .quota _ _ _ _ | .size _ _ | .retention _ | .window _ => none

/-- The bound of a rate on bytes. -/
def bytesOf : PolicyLimit → Option UInt64
  | .rate _ bytesPerSec => bytesPerSec
  | .quota _ _ _ _ | .size _ _ | .retention _ | .window _ => none

/-- The limit of one of the policies, as it is, with the smallest bound of all of them. -/
def Tightest (policies : List Policy) : Option PolicyLimit → Prop
  | none => policies = []
  | some limit => (∃ policy ∈ policies, policy.limit = limit) ∧
      ∀ policy ∈ policies, boundOf limit ≤ boundOf policy.limit

/-- One of the bounds, and the smallest of those that are given. -/
structure LeastGiven (bounds : List (Option UInt64)) (chosen : Option UInt64) : Prop where
  given : chosen ∈ bounds
  below : ∀ bound ∈ bounds, AtMost chosen bound

/-- The rate whose bounds are the smallest ones of the policies. -/
def TightestRate (policies : List Policy) : Option PolicyLimit → Prop
  | none => policies = []
  | some limit => policies ≠ [] ∧ limitKind limit = .rate ∧
      LeastGiven (policies.map fun policy => recordsOf policy.limit) (recordsOf limit) ∧
      LeastGiven (policies.map fun policy => bytesOf policy.limit) (bytesOf limit)

/-- The limits of a resolved policy are the most restrictive ones, and each quota is there once. -/
structure MostRestrictive (cache : PolicyCache) (workspaceId : WorkspaceId) (signal : SignalKind)
    (operation : Operation) (resolved : ResolvedPolicy) : Prop where
  rate : TightestRate (applicableOf cache workspaceId signal operation .rate) resolved.rate
  size : Tightest (applicableOf cache workspaceId signal operation .size) resolved.size
  retention :
    Tightest (applicableOf cache workspaceId signal operation .retention) resolved.retention
  queryWindow :
    Tightest (applicableOf cache workspaceId signal operation .window) resolved.queryWindow
  quotas : resolved.quotas.Perm
    ((applicableOf cache workspaceId signal operation .quota).map Policy.limit)

/-- One of the smallest sizes counts the usage that the first of the sizes counts. -/
def FirstBasisFits (sizes : List Policy) : Prop :=
  ∀ first ∈ sizes.head?, ∃ policy ∈ sizes, basisOf policy.limit = basisOf first.limit ∧
    ∀ other ∈ sizes, boundOf policy.limit ≤ boundOf other.limit

/-- The limits that are merged for one kind, with a scope that is asked twice counted twice. -/
def limitsOf (cache : PolicyCache) (workspaceId : WorkspaceId) (signal : SignalKind)
    (operation : Operation) (kind : LimitKind) : List PolicyLimit :=
  (scopes signal operation).filterMap fun scope =>
    (cache.get ⟨workspaceId, scope.1, scope.2, kind⟩).map Policy.limit

/-- A field that only the limits of one kind change is the fold of a choice over these. -/
theorem foldl_mergePolicy_field {field : ResolvedPolicy → Option PolicyLimit} {kind : LimitKind}
    {choose : Option PolicyLimit → PolicyLimit → Option PolicyLimit}
    (merge : ∀ resolved policy, field (mergePolicy resolved policy) =
      if limitKind policy.limit = kind then choose (field resolved) policy.limit
      else field resolved)
    (policies : List Policy) (resolved : ResolvedPolicy) :
    field (policies.foldl mergePolicy resolved) =
      ((policies.map Policy.limit).filter (limitKind · = kind)).foldl choose (field resolved) := by
  -- A policy of another kind leaves the field alone, and the filter leaves out its limit.
  induction policies generalizing resolved with
  | nil => rfl
  | cons policy rest ih =>
    rw [List.foldl_cons, ih, merge]
    by_cases same : limitKind policy.limit = kind
    · simp [same]
    · simp [same]

/-- Of what is found under several kinds, the kind asked for is found under itself. -/
theorem filter_filterMap_kind (find : LimitKind → Option Policy)
    (own : ∀ kind policy, find kind = some policy → limitKind policy.limit = kind)
    (kinds : List LimitKind) (kind : LimitKind) :
    ((kinds.filterMap find).map Policy.limit).filter (limitKind · = kind) =
      (kinds.filter (· = kind)).filterMap fun key => (find key).map Policy.limit := by
  -- A policy has the kind of its key, so a filter on policies is one on keys.
  induction kinds with
  | nil => rfl
  | cons key rest ih =>
    cases found : find key with
    | none =>
      by_cases same : key = kind
      · subst same
        simp [found, ih]
      · simp [found, same, ih]
    | some policy =>
      have kindOfKey := own key policy found
      by_cases same : key = kind
      · subst same
        simp [found, kindOfKey, ih]
      · simp [found, kindOfKey, same, ih]

/-- The limits of one kind that are merged, in their order. -/
theorem applicable_limits (cache : PolicyCache) (workspaceId : WorkspaceId) (signal : SignalKind)
    (operation : Operation) (kind : LimitKind) :
    ((applicable cache workspaceId signal operation).map Policy.limit).filter
        (limitKind · = kind) = limitsOf cache workspaceId signal operation kind := by
  -- Each scope has one key of the kind.
  unfold applicable limitsOf
  induction scopes signal operation with
  | nil => rfl
  | cons scope rest ih =>
    have here := filter_filterMap_kind
      (fun kind => cache.get ⟨workspaceId, scope.1, scope.2, kind⟩)
      (fun kind policy found => congrArg PolicyCacheKey.limitKind (PolicyCache.get_key found))
      [.rate, .size, .retention, .window, .quota] kind
    have once : [LimitKind.rate, .size, .retention, .window, .quota].filter (· = kind) = [kind] := by
      cases kind <;> rfl
    rw [List.flatMap_cons, List.map_append, List.filter_append, here, once, ih]
    cases found : cache.get ⟨workspaceId, scope.1, scope.2, kind⟩ with
    | none => simp [found]
    | some policy => simp [found]

/-- The limit of a policy that applies is merged, and every limit that is merged is one. -/
theorem mem_limitsOf {cache : PolicyCache} {workspaceId : WorkspaceId} {signal : SignalKind}
    {operation : Operation} {kind : LimitKind} {limit : PolicyLimit} :
    limit ∈ limitsOf cache workspaceId signal operation kind ↔
      ∃ policy ∈ applicableOf cache workspaceId signal operation kind, policy.limit = limit := by
  -- Listing a scope twice changes the number of its limits only.
  simp only [limitsOf, applicableOf, List.mem_filterMap, List.mem_dedup, Option.map_eq_some_iff]
  constructor
  · rintro ⟨scope, inside, policy, found, rfl⟩
    exact ⟨policy, ⟨scope, inside, found⟩, rfl⟩
  · rintro ⟨policy, ⟨scope, inside, found⟩, rfl⟩
    exact ⟨scope, inside, policy, found, rfl⟩

/-- A limit that is merged is of the kind that was asked for. -/
theorem limitKind_of_mem {cache : PolicyCache} {workspaceId : WorkspaceId} {signal : SignalKind}
    {operation : Operation} {kind : LimitKind} {limit : PolicyLimit}
    (member : limit ∈ limitsOf cache workspaceId signal operation kind) :
    limitKind limit = kind := by
  obtain ⟨scope, _, found⟩ := List.mem_filterMap.mp member
  obtain ⟨policy, held, rfl⟩ := Option.map_eq_some_iff.mp found
  exact congrArg PolicyCacheKey.limitKind (PolicyCache.get_key held)

/-- The scopes are distinct unless the request is itself for all signals or all operations. -/
theorem scopes_dedup {signal : SignalKind} {operation : Operation} (special : signal ≠ .all)
    (single : operation ≠ .all) : (scopes signal operation).dedup = scopes signal operation := by
  apply List.dedup_eq_self.mpr
  simp [scopes, special, single]

/-- Without a scope that is asked twice, the limits that are merged are those of the policies. -/
theorem limitsOf_eq {signal : SignalKind} {operation : Operation} (special : signal ≠ .all)
    (single : operation ≠ .all) (cache : PolicyCache) (workspaceId : WorkspaceId)
    (kind : LimitKind) :
    limitsOf cache workspaceId signal operation kind =
      (applicableOf cache workspaceId signal operation kind).map Policy.limit := by
  rw [limitsOf, applicableOf, scopes_dedup special single, List.map_filterMap]

/-- A request for all signals or for all operations asks each of its scopes at least twice. -/
theorem scopes_wide {signal : SignalKind} {operation : Operation}
    (wide : signal = .all ∨ operation = .all) :
    ∃ first last, (scopes signal operation).dedup = [first, last].dedup ∧
      (scopes signal operation = [first, last, first, last] ∨
        scopes signal operation = [first, first, last, last]) := by
  -- Where one of the two is all, its two scopes are the same.
  rcases wide with rfl | rfl
  · refine ⟨(.all, operation), (.all, .all), ?_, .inl rfl⟩
    cases operation <;> rfl
  · refine ⟨(signal, .all), (.all, .all), ?_, .inr rfl⟩
    cases signal <;> rfl

/-- A scope that is asked twice has its limit merged twice. -/
theorem limitsOf_length {signal : SignalKind} {operation : Operation}
    (wide : signal = .all ∨ operation = .all) (cache : PolicyCache) (workspaceId : WorkspaceId)
    (kind : LimitKind) :
    2 * (applicableOf cache workspaceId signal operation kind).length ≤
      (limitsOf cache workspaceId signal operation kind).length := by
  obtain ⟨first, last, once, twice⟩ := scopes_wide wide
  rw [applicableOf, limitsOf, once]
  -- Without duplicates, at most the two scopes are left.
  have fewer := ((List.dedup_sublist [first, last]).filterMap fun scope =>
    cache.get ⟨workspaceId, scope.1, scope.2, kind⟩).length_le
  refine Nat.le_trans (Nat.mul_le_mul_left 2 fewer) (Nat.le_of_eq ?_)
  cases own : cache.get ⟨workspaceId, first.1, first.2, kind⟩ <;>
    cases other : cache.get ⟨workspaceId, last.1, last.2, kind⟩ <;>
      rcases twice with same | same <;> simp [same, own, other]

/-- The first limit that is merged is that of the first policy that applies. -/
theorem limitsOf_head? (cache : PolicyCache) (workspaceId : WorkspaceId) (signal : SignalKind)
    (operation : Operation) (kind : LimitKind) :
    (limitsOf cache workspaceId signal operation kind).head? =
      (applicableOf cache workspaceId signal operation kind).head?.map Policy.limit := by
  by_cases wide : signal = .all ∨ operation = .all
  · obtain ⟨first, last, once, twice⟩ := scopes_wide wide
    rw [applicableOf, limitsOf, once]
    -- The second scope comes first only where the first one has no limit.
    by_cases single : first = last
    · subst single
      cases own : cache.get ⟨workspaceId, first.1, first.2, kind⟩ <;>
        rcases twice with same | same <;> simp [same, own]
    · cases own : cache.get ⟨workspaceId, first.1, first.2, kind⟩ <;>
        cases other : cache.get ⟨workspaceId, last.1, last.2, kind⟩ <;>
          rcases twice with same | same <;> simp [same, own, other, single]
  · rw [not_or] at wide
    rw [limitsOf_eq wide.1 wide.2, List.head?_map]

/-- A choice between limits of one kind that keeps the smaller bound, and the basis of the first. -/
structure KeepsLeast (kind : LimitKind) (choose : Option PolicyLimit → PolicyLimit → Option PolicyLimit) :
    Prop where
  first : ∀ candidate, choose none candidate = some candidate
  next : ∀ current candidate, limitKind current = kind → limitKind candidate = kind →
    ∃ kept, choose (some current) candidate = some kept ∧ limitKind kept = kind ∧
      boundOf kept = min (boundOf current) (boundOf candidate) ∧ basisOf kept = basisOf current

/-- Folding such a choice keeps the smallest bound of all, and the basis of the first. -/
theorem KeepsLeast.foldl {kind : LimitKind}
    {choose : Option PolicyLimit → PolicyLimit → Option PolicyLimit} (keeps : KeepsLeast kind choose)
    (limits : List PolicyLimit) (start : PolicyLimit)
    (kinds : ∀ limit ∈ start :: limits, limitKind limit = kind) :
    ∃ kept, limits.foldl choose (some start) = some kept ∧ limitKind kept = kind ∧
      basisOf kept = basisOf start ∧ (∀ limit ∈ start :: limits, boundOf kept ≤ boundOf limit) ∧
      ∃ limit ∈ start :: limits, boundOf limit = boundOf kept := by
  -- The induction is on the limits that are left, from whatever was kept before them.
  induction limits generalizing start with
  | nil => exact ⟨start, rfl, kinds start (by simp), rfl, by simp, start, by simp, rfl⟩
  | cons limit rest ih =>
    obtain ⟨middle, chosen, middleKind, least, basis⟩ :=
      keeps.next start limit (kinds start (by simp)) (kinds limit (by simp))
    have later : ∀ other ∈ middle :: rest, limitKind other = kind := by
      intro other member
      rcases List.mem_cons.mp member with rfl | behind
      · exact middleKind
      · exact kinds other (by simp [behind])
    obtain ⟨kept, folded, keptKind, keptBasis, below, other, member, same⟩ := ih middle later
    refine ⟨kept, by rw [List.foldl_cons, chosen, folded], keptKind, keptBasis.trans basis, ?_, ?_⟩
    · have bound := below middle (by simp)
      intro other member
      rcases List.mem_cons.mp member with rfl | behind
      · omega
      · rcases List.mem_cons.mp behind with rfl | behind
        · omega
        · exact below other (by simp [behind])
    · rcases List.mem_cons.mp member with rfl | behind
      · -- What was kept in the middle has the bound of one of the first two.
        rcases le_total (boundOf start) (boundOf limit) with order | order
        · exact ⟨start, by simp, by omega⟩
        · exact ⟨limit, by simp, by omega⟩
      · exact ⟨other, by simp [behind], same⟩

theorem chooseLowestBytes_keeps : KeepsLeast .size chooseLowestBytes where
  first := by
    intro candidate
    cases candidate <;> rfl
  next := by
    -- Only sizes are compared, and the basis of the first one stays.
    intro current candidate own other
    cases current with
    | rate | quota | retention | window => cases own
    | size currentBytes basis =>
      cases candidate with
      | rate | quota | retention | window => cases other
      | size maxBytes otherBasis =>
        simp only [chooseLowestBytes]
        split
        · rename_i order
          rw [Int64.lt_iff_toInt_lt] at order
          exact ⟨_, rfl, rfl, (min_eq_right order.le).symm, rfl⟩
        · rename_i order
          rw [Int64.lt_iff_toInt_lt, not_lt] at order
          exact ⟨_, rfl, rfl, (min_eq_left order).symm, rfl⟩

/-- A choice between numbers of days that takes the smaller one. -/
theorem KeepsLeast.of_days {kind : LimitKind}
    {choose : Option PolicyLimit → PolicyLimit → Option PolicyLimit} {make : UInt32 → PolicyLimit}
    (made : ∀ limit, limitKind limit = kind ↔ ∃ days, limit = make days)
    (bound : ∀ days, boundOf (make days) = days.toNat) (basis : ∀ days, basisOf (make days) = none)
    (first : ∀ candidate, choose none candidate = some candidate)
    (next : ∀ current candidate, choose (some (make current)) (make candidate) =
      if candidate < current then some (make candidate) else some (make current)) :
    KeepsLeast kind choose where
  first := first
  next := by
    intro current candidate own other
    obtain ⟨currentDays, rfl⟩ := (made current).mp own
    obtain ⟨days, rfl⟩ := (made candidate).mp other
    rw [next]
    -- The one that is kept has the smaller number of the two.
    split
    · rename_i order
      rw [UInt32.lt_iff_toNat_lt] at order
      refine ⟨make days, rfl, other, ?_, by rw [basis, basis]⟩
      rw [bound, bound]
      omega
    · rename_i order
      rw [UInt32.lt_iff_toNat_lt] at order
      refine ⟨make currentDays, rfl, own, ?_, rfl⟩
      rw [bound, bound]
      omega

theorem chooseLowestDays_none (candidate : PolicyLimit) :
    chooseLowestDays none candidate = some candidate := by
  cases candidate <;> rfl

theorem chooseLowestDays_keeps_retention : KeepsLeast .retention chooseLowestDays := by
  have made (limit : PolicyLimit) :
      limitKind limit = .retention ↔ ∃ days, limit = .retention days := by
    cases limit <;> simp [limitKind]
  exact .of_days made (fun _ => rfl) (fun _ => rfl) chooseLowestDays_none fun _ _ => rfl

theorem chooseLowestDays_keeps_window : KeepsLeast .window chooseLowestDays := by
  have made (limit : PolicyLimit) : limitKind limit = .window ↔ ∃ days, limit = .window days := by
    cases limit <;> simp [limitKind]
  exact .of_days made (fun _ => rfl) (fun _ => rfl) chooseLowestDays_none fun _ _ => rfl

/-- A limit with one bound is known by its kind, its bound and its basis. -/
theorem limit_ext {first second : PolicyLimit} {kind : LimitKind}
    (bounded : kind = .size ∨ kind = .retention ∨ kind = .window) (own : limitKind first = kind)
    (other : limitKind second = kind) (bound : boundOf first = boundOf second)
    (basis : basisOf first = basisOf second) : first = second := by
  -- The kind gives the constructor, and its fields are the bound and the basis.
  cases first with
  | rate | quota => rcases bounded with rfl | rfl | rfl <;> cases own
  | size maxBytes usage =>
    cases own
    cases second with
    | size =>
      rw [Int64.toInt_inj.mp bound, Option.some.inj basis]
    | rate | quota | retention | window => cases other
  | retention maxDays =>
    cases own
    cases second with
    | retention =>
      rw [UInt32.toNat_inj.mp (Int.ofNat_inj.mp bound)]
    | rate | quota | size | window => cases other
  | window maxQueryDays =>
    cases own
    cases second with
    | window =>
      rw [UInt32.toNat_inj.mp (Int.ofNat_inj.mp bound)]
    | rate | quota | size | retention => cases other

section

variable {cache : PolicyCache} {workspaceId : WorkspaceId} {signal : SignalKind}
  {operation : Operation} {kind : LimitKind}

/-- Nothing is merged exactly when no policy applies. -/
theorem limitsOf_eq_nil :
    limitsOf cache workspaceId signal operation kind = [] ↔
      applicableOf cache workspaceId signal operation kind = [] := by
  rw [← List.head?_eq_none_iff, limitsOf_head?, Option.map_eq_none_iff, List.head?_eq_none_iff]

/-- What a choice keeps has the smallest bound of the policies, and the basis of the first. -/
theorem KeepsLeast.foldl_first {choose : Option PolicyLimit → PolicyLimit → Option PolicyLimit}
    (keeps : KeepsLeast kind choose) {first : Policy}
    (leads : (applicableOf cache workspaceId signal operation kind).head? = some first) :
    ∃ kept, (limitsOf cache workspaceId signal operation kind).foldl choose none = some kept ∧
      limitKind kept = kind ∧ basisOf kept = basisOf first.limit ∧
      (∀ policy ∈ applicableOf cache workspaceId signal operation kind,
        boundOf kept ≤ boundOf policy.limit) ∧
      ∃ policy ∈ applicableOf cache workspaceId signal operation kind,
        boundOf policy.limit = boundOf kept := by
  -- The first limit is kept without a choice, and the others are folded onto it.
  have head := limitsOf_head? cache workspaceId signal operation kind
  have kinds (limit : PolicyLimit) :
      limit ∈ limitsOf cache workspaceId signal operation kind → limitKind limit = kind :=
    limitKind_of_mem
  have members (limit : PolicyLimit) :
      limit ∈ limitsOf cache workspaceId signal operation kind ↔ _ := mem_limitsOf
  cases merged : limitsOf cache workspaceId signal operation kind with
  | nil =>
    rw [limitsOf_eq_nil.mp merged] at leads
    cases leads
  | cons start rest =>
    rw [merged, leads] at head
    rw [merged] at kinds members
    cases head
    obtain ⟨kept, folded, keptKind, basis, below, other, member, same⟩ :=
      keeps.foldl rest first.limit kinds
    obtain ⟨source, sourced, rfl⟩ := (members other).mp member
    refine ⟨kept, ?_, keptKind, basis, fun policy inside => ?_, source, sourced, same⟩
    · rw [List.foldl_cons, keeps.first, folded]
    · exact below policy.limit ((members policy.limit).mpr ⟨policy, inside, rfl⟩)

/-- What a choice keeps is one of the limits exactly when one of the smallest has the first basis. -/
theorem tightest_foldl_iff {choose : Option PolicyLimit → PolicyLimit → Option PolicyLimit}
    (keeps : KeepsLeast kind choose)
    (bounded : kind = .size ∨ kind = .retention ∨ kind = .window) :
    Tightest (applicableOf cache workspaceId signal operation kind)
        ((limitsOf cache workspaceId signal operation kind).foldl choose none) ↔
      FirstBasisFits (applicableOf cache workspaceId signal operation kind) := by
  -- What is kept has the least bound and the basis of the first policy.
  cases leads : (applicableOf cache workspaceId signal operation kind).head? with
  | none =>
    have none := List.head?_eq_none_iff.mp leads
    simp [limitsOf_eq_nil.mpr none, none, Tightest, FirstBasisFits]
  | some first =>
    obtain ⟨kept, folded, keptKind, basis, least, source, sourced, same⟩ := keeps.foldl_first leads
    rw [folded]
    constructor
    · rintro ⟨⟨policy, inside, rfl⟩, _⟩ given leading
      rw [leads] at leading
      cases leading
      exact ⟨policy, inside, basis, least⟩
    · intro fits
      obtain ⟨policy, inside, sameBasis, smallest⟩ := fits first leads
      -- The bound of a tightest policy is the one that was kept.
      have bound : boundOf policy.limit = boundOf kept := by
        have above := least policy inside
        have under := smallest source sourced
        omega
      have own := limitKind_of_mem (mem_limitsOf.mpr ⟨policy, inside, rfl⟩)
      exact ⟨⟨policy, inside, limit_ext bounded own keptKind bound
        (sameBasis.trans basis.symm)⟩, least⟩

/-- Where the limits have no basis, the tightest of them is kept. -/
theorem tightest_foldl {choose : Option PolicyLimit → PolicyLimit → Option PolicyLimit}
    (keeps : KeepsLeast kind choose) (bounded : kind = .retention ∨ kind = .window) :
    Tightest (applicableOf cache workspaceId signal operation kind)
      ((limitsOf cache workspaceId signal operation kind).foldl choose none) := by
  rw [tightest_foldl_iff keeps (.inr bounded)]
  intro first leads
  have none : ∀ policy ∈ applicableOf cache workspaceId signal operation kind,
      basisOf policy.limit = none := by
    intro policy inside
    have own := limitKind_of_mem (mem_limitsOf.mpr ⟨policy, inside, rfl⟩)
    rcases bounded with rfl | rfl <;> cases limit : policy.limit <;> simp_all [limitKind, basisOf]
  -- The policies are not empty, so one of them has the smallest bound.
  have inside := List.mem_of_head? leads
  obtain ⟨policy, member, least⟩ := Finset.exists_min_image
    (applicableOf cache workspaceId signal operation kind).toFinset
    (fun policy => boundOf policy.limit) ⟨first, List.mem_toFinset.mpr inside⟩
  simp only [List.mem_toFinset] at member least
  exact ⟨policy, member, (none policy member).trans (none first inside).symm, least⟩

end

theorem AtMost.trans {first second third : Option UInt64} (lower : AtMost first second)
    (upper : AtMost second third) : AtMost first third := by
  -- The bound in the middle passes on what it is bounded by.
  intro value given
  obtain ⟨middle, found, below⟩ := upper value given
  obtain ⟨least, chosen, under⟩ := lower middle found
  exact ⟨least, chosen, Nat.le_trans under below⟩

theorem AtMost.refl (bound : Option UInt64) : AtMost bound bound :=
  fun value given => ⟨value, given, le_refl _⟩

/-- The smaller of two bounds is one of them. -/
theorem minOption_eq (first second : Option UInt64) :
    minOption first second = first ∨ minOption first second = second := by
  -- The smaller of two is one of them.
  cases first with
  | none => cases second <;> simp [minOption]
  | some left =>
    cases second with
    | none => simp [minOption]
    | some right =>
      change some (if left ≤ right then left else right) = some left ∨
        some (if left ≤ right then left else right) = some right
      by_cases order : left ≤ right
      · exact .inl (by rw [if_pos order])
      · exact .inr (by rw [if_neg order])

/-- The least of the bounds behind two that are merged is the least of all. -/
theorem LeastGiven.of_minOption {first second chosen : Option UInt64} {rest : List (Option UInt64)}
    (least : LeastGiven (minOption first second :: rest) chosen) :
    LeastGiven (first :: second :: rest) chosen where
  given := by
    -- The minimum is one of the two in front.
    rcases List.mem_cons.mp least.given with rfl | behind
    · rcases minOption_eq first second with same | same <;> simp [same]
    · simp [behind]
  below := by
    have merged := least.below (minOption first second) List.mem_cons_self
    intro bound member
    rcases List.mem_cons.mp member with rfl | member
    · exact merged.trans (atMost_minOption_left (.refl bound) second)
    · rcases List.mem_cons.mp member with rfl | behind
      · exact merged.trans (atMost_minOption_right first bound)
      · exact least.below bound (List.mem_cons_of_mem _ behind)

/-- Merging rates keeps the least bound on records and the least one on bytes. -/
theorem foldl_chooseRate (limits : List PolicyLimit) (start : PolicyLimit)
    (kinds : ∀ limit ∈ start :: limits, limitKind limit = .rate) :
    ∃ kept, limits.foldl chooseRate (some start) = some kept ∧ limitKind kept = .rate ∧
      LeastGiven ((start :: limits).map recordsOf) (recordsOf kept) ∧
      LeastGiven ((start :: limits).map bytesOf) (bytesOf kept) := by
  -- The induction is on the rates that are left, from what was merged before them.
  induction limits generalizing start with
  | nil =>
    refine ⟨start, rfl, kinds start (by simp), ⟨by simp, ?_⟩, ⟨by simp, ?_⟩⟩
    · simp [AtMost.refl]
    · simp [AtMost.refl]
  | cons limit rest ih =>
    have own := kinds start (by simp)
    have other := kinds limit (by simp)
    cases start with
    | quota | size | retention | window => cases own
    | rate currentRecords currentBytes =>
      cases limit with
      | quota | size | retention | window => cases other
      | rate recordsPerSec bytesPerSec =>
        obtain ⟨kept, folded, kind, records, bytes⟩ :=
          ih (.rate (minOption currentRecords recordsPerSec) (minOption currentBytes bytesPerSec)) (by
            intro limit member
            rcases List.mem_cons.mp member with rfl | behind
            · rfl
            · exact kinds limit (by simp [behind]))
        exact ⟨kept, folded, kind, records.of_minOption, bytes.of_minOption⟩

section

variable (cache : PolicyCache) (workspaceId : WorkspaceId) (signal : SignalKind)
  (operation : Operation)

/-- The rate of a resolution is the fold of the rates that apply. -/
theorem tightestRate_foldl :
    TightestRate (applicableOf cache workspaceId signal operation .rate)
      ((limitsOf cache workspaceId signal operation .rate).foldl chooseRate none) := by
  -- Records and bytes are merged apart, each to the least that is given.
  have kinds (limit : PolicyLimit) :
      limit ∈ limitsOf cache workspaceId signal operation .rate → limitKind limit = .rate :=
    limitKind_of_mem
  have members (limit : PolicyLimit) :
      limit ∈ limitsOf cache workspaceId signal operation .rate ↔ _ := mem_limitsOf
  have same (part : PolicyLimit → Option UInt64) (bound : Option UInt64) :
      bound ∈ (limitsOf cache workspaceId signal operation .rate).map part ↔
        bound ∈ (applicableOf cache workspaceId signal operation .rate).map fun policy =>
          part policy.limit := by
    simp only [List.mem_map, members]
    constructor
    · rintro ⟨_, ⟨policy, inside, rfl⟩, rfl⟩
      exact ⟨policy, inside, rfl⟩
    · rintro ⟨policy, inside, rfl⟩
      exact ⟨_, ⟨policy, inside, rfl⟩, rfl⟩
  have least (part : PolicyLimit → Option UInt64) (chosen : Option UInt64)
      (merged : LeastGiven ((limitsOf cache workspaceId signal operation .rate).map part) chosen) :
      LeastGiven ((applicableOf cache workspaceId signal operation .rate).map fun policy =>
        part policy.limit) chosen :=
    ⟨(same part chosen).mp merged.given,
      fun bound member => merged.below bound ((same part bound).mpr member)⟩
  -- Without a rate nothing is merged, and the first one is taken as it is.
  cases merged : limitsOf cache workspaceId signal operation .rate with
  | nil => exact limitsOf_eq_nil.mp merged
  | cons start rest =>
    rw [merged] at kinds
    obtain ⟨kept, folded, kind, records, bytes⟩ := foldl_chooseRate rest start kinds
    have first : chooseRate none start = some start := by cases start <;> rfl
    rw [List.foldl_cons, first, folded]
    rw [← merged] at records bytes
    refine ⟨?_, kind, least recordsOf _ records, least bytesOf _ bytes⟩
    intro none
    rw [limitsOf_eq_nil.mpr none] at merged
    cases merged

/-- Each kind of limit is merged on its own. -/
theorem resolveCachedPolicy_fields :
    let resolved := resolveCachedPolicy cache workspaceId signal operation
    let limits := limitsOf cache workspaceId signal operation
    resolved.rate = (limits .rate).foldl chooseRate none ∧
      resolved.size = (limits .size).foldl chooseLowestBytes none ∧
      resolved.retention = (limits .retention).foldl chooseLowestDays none ∧
      resolved.queryWindow = (limits .window).foldl chooseLowestDays none := by
  simp only [resolveCachedPolicy_eq, ← applicable_limits]
  -- A merge changes the field of its kind, and no other.
  have rate : ∀ resolved policy, ResolvedPolicy.rate (mergePolicy resolved policy) =
      if limitKind policy.limit = .rate then chooseRate resolved.rate policy.limit
      else resolved.rate := by
    intro resolved policy
    unfold mergePolicy
    cases policy.limit <;> rfl
  have size : ∀ resolved policy, ResolvedPolicy.size (mergePolicy resolved policy) =
      if limitKind policy.limit = .size then chooseLowestBytes resolved.size policy.limit
      else resolved.size := by
    intro resolved policy
    unfold mergePolicy
    cases policy.limit <;> rfl
  have retention : ∀ resolved policy, ResolvedPolicy.retention (mergePolicy resolved policy) =
      if limitKind policy.limit = .retention then chooseLowestDays resolved.retention policy.limit
      else resolved.retention := by
    intro resolved policy
    unfold mergePolicy
    cases policy.limit <;> rfl
  have window : ∀ resolved policy, ResolvedPolicy.queryWindow (mergePolicy resolved policy) =
      if limitKind policy.limit = .window then chooseLowestDays resolved.queryWindow policy.limit
      else resolved.queryWindow := by
    intro resolved policy
    unfold mergePolicy
    cases policy.limit <;> rfl
  exact ⟨foldl_mergePolicy_field rate _ _, foldl_mergePolicy_field size _ _,
    foldl_mergePolicy_field retention _ _, foldl_mergePolicy_field window _ _⟩

/-- The quotas are all those that are merged. -/
theorem resolveCachedPolicy_quotas :
    (resolveCachedPolicy cache workspaceId signal operation).quotas =
      limitsOf cache workspaceId signal operation .quota := by
  -- Quotas are collected at the end of those before them.
  suffices collected : ∀ (policies : List Policy) (resolved : ResolvedPolicy),
      (policies.foldl mergePolicy resolved).quotas =
        resolved.quotas ++ (policies.map Policy.limit).filter (limitKind · = .quota) by
    rw [resolveCachedPolicy_eq, collected, applicable_limits]
    rfl
  intro policies
  induction policies with
  | nil => simp
  | cons policy rest ih =>
    intro resolved
    rw [List.foldl_cons, ih]
    unfold mergePolicy
    cases limit : policy.limit <;> simp [limit, limitKind]

/--
Resolution keeps the most restrictive limits intact, and each quota once, exactly when one of the
smallest sizes counts what the first one counts, and no quota is asked for under all signals or
all operations.
-/
theorem resolution_restrictive_iff :
    MostRestrictive cache workspaceId signal operation
        (resolveCachedPolicy cache workspaceId signal operation) ↔
      FirstBasisFits (applicableOf cache workspaceId signal operation .size) ∧
        ((signal ≠ .all ∧ operation ≠ .all) ∨
          applicableOf cache workspaceId signal operation .quota = []) := by
  obtain ⟨rate, size, retention, window⟩ :=
    resolveCachedPolicy_fields cache workspaceId signal operation
  have quotas := resolveCachedPolicy_quotas cache workspaceId signal operation
  constructor
  · intro restrictive
    refine ⟨(tightest_foldl_iff chooseLowestBytes_keeps (.inl rfl)).mp (size ▸ restrictive.size), ?_⟩
    by_cases wide : signal = .all ∨ operation = .all
    · -- A quota that is asked for twice is there twice.
      right
      have twice := limitsOf_length wide cache workspaceId .quota
      have once := restrictive.quotas.length_eq
      rw [quotas, List.length_map] at once
      exact List.eq_nil_of_length_eq_zero (by omega)
    · exact .inl (not_or.mp wide)
  · rintro ⟨fits, single⟩
    refine ⟨rate ▸ tightestRate_foldl cache workspaceId signal operation,
      size ▸ (tightest_foldl_iff chooseLowestBytes_keeps (.inl rfl)).mpr fits,
      retention ▸ tightest_foldl chooseLowestDays_keeps_retention (.inl rfl),
      window ▸ tightest_foldl chooseLowestDays_keeps_window (.inr rfl), ?_⟩
    rw [quotas]
    rcases single with ⟨special, single⟩ | none
    · rw [limitsOf_eq special single]
    · rw [limitsOf_eq_nil.mpr none, none]
      exact .nil

end

/-- A policy for one limit, with the percentages of the defaults. -/
def policyFor (signal : SignalKind) (operation : Operation) (limit : PolicyLimit) : Policy where
  id := none
  workspaceId := Uuid.nil
  signal := signal
  operation := operation
  limit := limit
  gracePct := 101
  hardBlockPct := 103
  effectiveFrom := 0
  effectiveUntil := none
  source := .api

/-- A size of compressed bytes for one signal, and a smaller one of scanned bytes for all. -/
def mixedSizes : PolicyCache where
  policies := [policyFor .traces .ingest (.size 1000 .compressedBytes),
    policyFor .all .ingest (.size 100 .scannedBytes)]

/-- A smaller size of scanned bytes is taken for one of compressed bytes. -/
theorem smaller_size_loses_basis :
    (resolveCachedPolicy mixedSizes Uuid.nil .traces .ingest).size =
        some (.size 100 .compressedBytes) ∧
      ¬ MostRestrictive mixedSizes Uuid.nil .traces .ingest
        (resolveCachedPolicy mixedSizes Uuid.nil .traces .ingest) := by
  refine ⟨by decide, fun restrictive => ?_⟩
  -- No policy has the limit that was resolved.
  have size : Tightest (applicableOf mixedSizes Uuid.nil .traces .ingest .size)
      (some (.size 100 .compressedBytes)) := restrictive.size
  obtain ⟨⟨policy, member, limit⟩, _⟩ := size
  have other : ∀ policy ∈ applicableOf mixedSizes Uuid.nil .traces .ingest .size,
      policy.limit ≠ .size 100 .compressedBytes := by decide
  exact other policy member limit

end Zradar.Policies
