import Zradar.Policies.Enforcer

/-! Whether the decision on a request is as severe as the most severe of its limits. -/

namespace Zradar.Policies

/-- The severity of the outcome of one check, where no outcome is to allow. -/
def severityOf : Option Decision → Nat
  | none => 0
  | some decision => decision.severity

/-- The first outcome of a list is its head, or one behind it. -/
theorem findSome?_cons_id (outcome : Option Decision) (rest : List (Option Decision)) :
    (outcome :: rest).findSome? id = outcome.or (rest.findSome? id) := by
  cases outcome <;> rfl

/-- Only allowing has no severity. -/
theorem severity_eq_zero {decision : Decision} : decision.severity = 0 ↔ decision = .allow := by
  cases decision <;> simp [Decision.severity]

/-- A comparison never comes to the outcome to allow. -/
theorem compareLimitI64_ne_allow (observed limit : Int64) (gracePct hardBlockPct : UInt8)
    (code : BlockCode) (reason : String) :
    compareLimitI64 observed limit gracePct hardBlockPct code reason ≠ some .allow := by
  unfold compareLimitI64
  split_ifs <;> simp

theorem compareLimit_ne_allow (observed limit : UInt64) (gracePct hardBlockPct : UInt8)
    (code : BlockCode) (reason : String) :
    compareLimit observed limit gracePct hardBlockPct code reason ≠ some .allow :=
  compareLimitI64_ne_allow _ _ _ _ _ _

/-- The outcome of a check is `none` instead of the decision to allow. -/
theorem bind_ne_allow {α : Type} {value : Option α} {check : α → Option Decision}
    (graded : ∀ limit, check limit ≠ some .allow) : value.bind check ≠ some .allow := by
  cases value with
  | none => simp
  | some limit => exact graded limit

section

variable (usage : UsageReader)

theorem checkRate_ne_allow (ctx : IngestCtx) (rate : Option PolicyLimit) (operation : Operation)
    (gracePct hardBlockPct : UInt8) :
    checkRate usage ctx rate operation gracePct hardBlockPct ≠ some .allow := by
  -- Every answer comes from a comparison, or from a limit on records or bytes.
  unfold checkRate
  split
  · split
    · simp
    · simp only
      split
      · rename_i decision outcome
        rw [← outcome]
        exact bind_ne_allow fun _ => compareLimit_ne_allow _ _ _ _ _ _
      · exact bind_ne_allow fun _ => bind_ne_allow fun _ => compareLimit_ne_allow _ _ _ _ _ _
  · simp

theorem checkQuota_ne_allow (ctx : IngestCtx) (quota : PolicyLimit) (operation : Operation)
    (gracePct hardBlockPct : UInt8) :
    checkQuota usage ctx quota operation gracePct hardBlockPct ≠ some .allow := by
  -- Only the comparison with the limit decides anything.
  unfold checkQuota
  split
  · split
    · simp
    · split
      · simp
      · exact compareLimitI64_ne_allow _ _ _ _ _ _
  · simp

theorem checkSize_ne_allow (ctx : IngestCtx) (size : Option PolicyLimit)
    (gracePct hardBlockPct : UInt8) :
    checkSize usage ctx size gracePct hardBlockPct ≠ some .allow := by
  -- Only the comparison with the limit decides anything.
  unfold checkSize
  split
  · split
    · simp
    · split
      · simp
      · exact compareLimitI64_ne_allow _ _ _ _ _ _
  · simp

theorem checkQueryRate_ne_allow (ctx : QueryCtx) (rate : Option PolicyLimit)
    (gracePct hardBlockPct : UInt8) :
    checkQueryRate usage ctx rate gracePct hardBlockPct ≠ some .allow := by
  -- Only the comparison with the limit decides anything.
  unfold checkQueryRate
  split
  · split
    · simp
    · exact compareLimit_ne_allow _ _ _ _ _ _
  · simp

theorem checkQueryQuota_ne_allow (ctx : QueryCtx) (quota : PolicyLimit)
    (gracePct hardBlockPct : UInt8) :
    checkQueryQuota usage ctx quota gracePct hardBlockPct ≠ some .allow := by
  -- Only the comparison with the limit decides anything.
  unfold checkQueryQuota
  split
  · split
    · simp
    · split
      · simp
      · exact compareLimitI64_ne_allow _ _ _ _ _ _
  · simp

end

theorem checkQueryRetention_ne_allow (ctx : QueryCtx) (retention : Option PolicyLimit) :
    checkQueryRetention ctx retention ≠ some .allow := by
  unfold checkQueryRetention
  split
  · simp only
    split <;> simp
  · simp

theorem checkQueryWindow_ne_allow (ctx : QueryCtx) (queryWindow : Option PolicyLimit) :
    checkQueryWindow ctx queryWindow ≠ some .allow := by
  unfold checkQueryWindow
  split
  · simp only
    split <;> simp
  · simp

/-- The part of a rate that limits records. -/
def recordsOnly : Option PolicyLimit → Option PolicyLimit
  | some (.rate recordsPerSec _) => some (.rate recordsPerSec none)
  | other => other

/-- The part of a rate that limits bytes. -/
def bytesOnly : Option PolicyLimit → Option PolicyLimit
  | some (.rate _ bytesPerSec) => some (.rate none bytesPerSec)
  | other => other

/-- The policy with the percentages of another and none of its limits. -/
def ResolvedPolicy.unlimited (resolved : ResolvedPolicy) : ResolvedPolicy :=
  { ResolvedPolicy.default with
    gracePct := resolved.gracePct
    hardBlockPct := resolved.hardBlockPct }

/-- The limits of an ingest policy, each as a policy of its own, in the order of their checks. -/
def ResolvedPolicy.ingestParts (resolved : ResolvedPolicy) : List ResolvedPolicy :=
  [{ resolved.unlimited with blocked := resolved.blocked },
    { resolved.unlimited with rate := recordsOnly resolved.rate },
    { resolved.unlimited with rate := bytesOnly resolved.rate }] ++
  (resolved.quotas.map fun quota => { resolved.unlimited with quotas := [quota] }) ++
  [{ resolved.unlimited with size := resolved.size }]

/-- The limits of a query policy, each as a policy of its own, in the order of their checks. -/
def ResolvedPolicy.queryParts (resolved : ResolvedPolicy) : List ResolvedPolicy :=
  [{ resolved.unlimited with retention := resolved.retention },
    { resolved.unlimited with queryWindow := resolved.queryWindow },
    { resolved.unlimited with rate := resolved.rate }] ++
  resolved.quotas.map fun quota => { resolved.unlimited with quotas := [quota] }

/-- The outcome for a workspace that may be blocked as a whole. -/
def checkBlocked (blocked : Bool) : Option Decision :=
  if blocked then some (.block "project_blocked" .projectBlocked) else none

section

variable (usage : UsageReader)

/-- The outcomes of the comparisons of an ingest request, in the order of the checks. -/
def ingestOutcomes (ctx : IngestCtx) (resolved : ResolvedPolicy) : List (Option Decision) :=
  let gracePct := resolved.gracePct
  let hardBlockPct := resolved.hardBlockPct
  [checkBlocked resolved.blocked,
    checkRate usage ctx (recordsOnly resolved.rate) .ingest gracePct hardBlockPct,
    checkRate usage ctx (bytesOnly resolved.rate) .ingest gracePct hardBlockPct] ++
  (resolved.quotas.map fun quota =>
    checkQuota usage ctx quota .ingest gracePct hardBlockPct) ++
  [checkSize usage ctx resolved.size gracePct hardBlockPct]

/-- The outcomes of the comparisons of a query, in the order of the checks. -/
def queryOutcomes (ctx : QueryCtx) (resolved : ResolvedPolicy) : List (Option Decision) :=
  let gracePct := resolved.gracePct
  let hardBlockPct := resolved.hardBlockPct
  [checkQueryRetention ctx resolved.retention,
    checkQueryWindow ctx resolved.queryWindow,
    checkQueryRate usage ctx resolved.rate gracePct hardBlockPct] ++
  resolved.quotas.map fun quota => checkQueryQuota usage ctx quota gracePct hardBlockPct

/-- The two parts of a rate, one behind the other, are the whole. -/
theorem checkRate_parts (ctx : IngestCtx) (rate : Option PolicyLimit) (operation : Operation)
    (gracePct hardBlockPct : UInt8) :
    checkRate usage ctx rate operation gracePct hardBlockPct =
      (checkRate usage ctx (recordsOnly rate) operation gracePct hardBlockPct).or
        (checkRate usage ctx (bytesOnly rate) operation gracePct hardBlockPct) := by
  rcases rate with _ | ⟨recordsPerSec, bytesPerSec⟩ | _ | _ | _ | _
  case some.rate =>
    simp only [checkRate, recordsOnly, bytesOnly]
    cases usage.currentRate ctx.workspaceId ctx.signal operation with
    | error error => rfl
    | ok sample =>
      -- A part that does not limit has no outcome, so each side has the outcome of the other.
      simp only [Option.bind_none]
      split <;> simp_all
  all_goals rfl

/-- The decision on an ingest request is the first outcome there is, or to allow. -/
theorem decideIngest_eq (ctx : IngestCtx) (resolved : ResolvedPolicy) :
    decideIngest usage ctx resolved =
      ((ingestOutcomes usage ctx resolved).findSome? id).getD .allow := by
  -- Each branch of the decision passes on to the next one if there is no outcome.
  have chained : decideIngest usage ctx resolved =
      (checkBlocked resolved.blocked).getD
        ((checkRate usage ctx resolved.rate .ingest resolved.gracePct
          resolved.hardBlockPct).getD
        ((resolved.quotas.findSome? fun quota => checkQuota usage ctx quota .ingest
          resolved.gracePct resolved.hardBlockPct).getD
        ((checkSize usage ctx resolved.size resolved.gracePct resolved.hardBlockPct).getD
          .allow))) := by
    unfold decideIngest checkBlocked
    generalize checkRate usage ctx resolved.rate .ingest resolved.gracePct
      resolved.hardBlockPct = rate
    generalize (resolved.quotas.findSome? fun quota => checkQuota usage ctx quota .ingest
      resolved.gracePct resolved.hardBlockPct) = quota
    generalize checkSize usage ctx resolved.size resolved.gracePct resolved.hardBlockPct = size
    cases resolved.blocked <;> cases rate <;> cases quota <;> cases size <;> rfl
  rw [chained, checkRate_parts]
  simp [ingestOutcomes, List.findSome?_append, List.findSome?_map, findSome?_cons_id,
    Option.getD_or]

/-- The decision on a query is the first outcome there is, or to allow. -/
theorem decideQuery_eq (ctx : QueryCtx) (resolved : ResolvedPolicy) :
    decideQuery usage ctx resolved =
      ((queryOutcomes usage ctx resolved).findSome? id).getD .allow := by
  -- The checks are tried in this order until one of them decides.
  have chained : decideQuery usage ctx resolved =
      (checkQueryRetention ctx resolved.retention).getD
        ((checkQueryWindow ctx resolved.queryWindow).getD
        ((checkQueryRate usage ctx resolved.rate resolved.gracePct resolved.hardBlockPct).getD
        ((resolved.quotas.findSome? fun quota => checkQueryQuota usage ctx quota
          resolved.gracePct resolved.hardBlockPct).getD .allow))) := by
    unfold decideQuery checkQueryRange
    generalize checkQueryRetention ctx resolved.retention = retention
    generalize checkQueryWindow ctx resolved.queryWindow = window
    generalize checkQueryRate usage ctx resolved.rate resolved.gracePct resolved.hardBlockPct = rate
    generalize (resolved.quotas.findSome? fun quota => checkQueryQuota usage ctx quota
      resolved.gracePct resolved.hardBlockPct) = quota
    cases retention <;> cases window <;> cases rate <;> cases quota <;> rfl
  rw [chained]
  simp [queryOutcomes, List.findSome?_map, findSome?_cons_id, Option.getD_or]

/-- No check of an ingest request has the outcome to allow. -/
theorem ingestOutcomes_ne_allow (ctx : IngestCtx) (resolved : ResolvedPolicy) :
    ∀ outcome ∈ ingestOutcomes usage ctx resolved, outcome ≠ some .allow := by
  -- A check decides something else, or it passes the request on.
  intro outcome member
  simp only [ingestOutcomes, List.cons_append, List.nil_append, List.mem_cons, List.mem_append,
    List.mem_map, List.not_mem_nil, or_false] at member
  rcases member with rfl | rfl | rfl | ⟨quota, _, rfl⟩ | rfl
  · unfold checkBlocked
    split <;> simp
  · exact checkRate_ne_allow usage ctx _ _ _ _
  · exact checkRate_ne_allow usage ctx _ _ _ _
  · exact checkQuota_ne_allow usage ctx _ _ _ _
  · exact checkSize_ne_allow usage ctx _ _ _

/-- No check of a query has the outcome to allow. -/
theorem queryOutcomes_ne_allow (ctx : QueryCtx) (resolved : ResolvedPolicy) :
    ∀ outcome ∈ queryOutcomes usage ctx resolved, outcome ≠ some .allow := by
  -- A check decides something else, or it passes the query on.
  intro outcome member
  simp only [queryOutcomes, List.cons_append, List.nil_append, List.mem_cons, List.mem_map]
    at member
  rcases member with rfl | rfl | rfl | ⟨quota, _, rfl⟩
  · exact checkQueryRetention_ne_allow ctx _
  · exact checkQueryWindow_ne_allow ctx _
  · exact checkQueryRate_ne_allow usage ctx _ _ _
  · exact checkQueryQuota_ne_allow usage ctx _ _ _

end

/-- The severity of the first outcome is the first severity above that of allowing. -/
theorem severity_findSome?_getD {outcomes : List (Option Decision)}
    (graded : ∀ outcome ∈ outcomes, outcome ≠ some .allow) :
    ((outcomes.findSome? id).getD .allow).severity = firstFound (outcomes.map severityOf) := by
  induction outcomes with
  | nil => rfl
  | cons outcome rest ih =>
    have ih := ih fun other member => graded other (List.mem_cons_of_mem _ member)
    cases outcome with
    | none => simpa [findSome?_cons_id, firstFound, severityOf] using ih
    | some decision =>
      -- An outcome that is not to allow is found at once.
      have above : decision.severity ≠ 0 := fun least =>
        graded _ List.mem_cons_self (congrArg some (severity_eq_zero.mp least))
      simp [firstFound, severityOf, above]

section

variable (usage : UsageReader)

/-- A rate on its own decides as its comparisons do. -/
theorem decideIngest_rate (ctx : IngestCtx) (resolved : ResolvedPolicy)
    (limit : Option PolicyLimit) :
    (decideIngest usage ctx { resolved.unlimited with rate := limit }).severity =
      severityOf (checkRate usage ctx limit .ingest resolved.gracePct resolved.hardBlockPct) := by
  simp only [decideIngest, ResolvedPolicy.unlimited, ResolvedPolicy.default]
  cases checkRate usage ctx limit .ingest resolved.gracePct resolved.hardBlockPct <;> rfl

/-- A quota on its own decides as its comparison does. -/
theorem decideIngest_quota (ctx : IngestCtx) (resolved : ResolvedPolicy) (limit : PolicyLimit) :
    (decideIngest usage ctx { resolved.unlimited with quotas := [limit] }).severity =
      severityOf (checkQuota usage ctx limit .ingest resolved.gracePct resolved.hardBlockPct) := by
  simp only [decideIngest, ResolvedPolicy.unlimited, ResolvedPolicy.default, checkRate,
    List.findSome?_cons]
  cases checkQuota usage ctx limit .ingest resolved.gracePct resolved.hardBlockPct <;> rfl

/-- A size on its own decides as its comparison does. -/
theorem decideIngest_size (ctx : IngestCtx) (resolved : ResolvedPolicy)
    (limit : Option PolicyLimit) :
    (decideIngest usage ctx { resolved.unlimited with size := limit }).severity =
      severityOf (checkSize usage ctx limit resolved.gracePct resolved.hardBlockPct) := by
  simp only [decideIngest, ResolvedPolicy.unlimited, ResolvedPolicy.default, checkRate]
  cases checkSize usage ctx limit resolved.gracePct resolved.hardBlockPct <;> rfl

/-- A limit of an ingest policy on its own decides as its comparison does. -/
theorem ingestParts_severity (ctx : IngestCtx) (resolved : ResolvedPolicy) :
    (resolved.ingestParts.map fun part => (decideIngest usage ctx part).severity) =
      (ingestOutcomes usage ctx resolved).map severityOf := by
  have blocked : (decideIngest usage ctx { resolved.unlimited with
      blocked := resolved.blocked }).severity = severityOf (checkBlocked resolved.blocked) := by
    cases same : resolved.blocked <;> rfl
  have quotas : ∀ limit ∈ resolved.quotas,
      (decideIngest usage ctx { resolved.unlimited with quotas := [limit] }).severity =
        severityOf (checkQuota usage ctx limit .ingest resolved.gracePct resolved.hardBlockPct) :=
    fun limit _ => decideIngest_quota usage ctx resolved limit
  -- The parts stand in the order of the checks.
  simp only [ResolvedPolicy.ingestParts, ingestOutcomes, List.map_append, List.map_cons,
    List.map_nil, List.map_map]
  rw [blocked, decideIngest_rate usage ctx resolved (recordsOnly resolved.rate),
    decideIngest_rate usage ctx resolved (bytesOnly resolved.rate),
    decideIngest_size usage ctx resolved resolved.size]
  congr 2
  exact List.map_congr_left quotas

/-- A policy under which one check alone can have an outcome decides by this one. -/
theorem decideQuery_single {ctx : QueryCtx} {part : ResolvedPolicy} {outcome : Option Decision}
    (before after : Nat)
    (single : queryOutcomes usage ctx part =
      List.replicate before none ++ outcome :: List.replicate after none) :
    (decideQuery usage ctx part).severity = severityOf outcome := by
  rw [decideQuery_eq, single, List.findSome?_append, findSome?_cons_id]
  cases outcome <;> simp [severityOf, Decision.severity]

/-- A quota of a query on its own decides as its comparison does. -/
theorem decideQuery_quota (ctx : QueryCtx) (resolved : ResolvedPolicy) (limit : PolicyLimit) :
    (decideQuery usage ctx { resolved.unlimited with quotas := [limit] }).severity =
      severityOf (checkQueryQuota usage ctx limit resolved.gracePct resolved.hardBlockPct) :=
  decideQuery_single usage 3 0 rfl

/-- A limit of a query policy on its own decides as its comparison does. -/
theorem queryParts_severity (ctx : QueryCtx) (resolved : ResolvedPolicy) :
    (resolved.queryParts.map fun part => (decideQuery usage ctx part).severity) =
      (queryOutcomes usage ctx resolved).map severityOf := by
  -- A part has one limit only, so only the check of that limit decides.
  have retention : (decideQuery usage ctx { resolved.unlimited with
      retention := resolved.retention }).severity =
        severityOf (checkQueryRetention ctx resolved.retention) :=
    decideQuery_single usage 0 2 rfl
  have window : (decideQuery usage ctx { resolved.unlimited with
      queryWindow := resolved.queryWindow }).severity =
        severityOf (checkQueryWindow ctx resolved.queryWindow) :=
    decideQuery_single usage 1 1 rfl
  have rate : (decideQuery usage ctx { resolved.unlimited with
      rate := resolved.rate }).severity = severityOf (checkQueryRate usage ctx resolved.rate
        resolved.gracePct resolved.hardBlockPct) :=
    decideQuery_single usage 2 0 rfl
  have quotas : ∀ limit ∈ resolved.quotas,
      (decideQuery usage ctx { resolved.unlimited with quotas := [limit] }).severity =
        severityOf (checkQueryQuota usage ctx limit resolved.gracePct resolved.hardBlockPct) :=
    fun limit _ => decideQuery_quota usage ctx resolved limit
  simp only [ResolvedPolicy.queryParts, queryOutcomes, List.map_append, List.map_cons,
    List.map_nil, List.map_map]
  rw [retention, window, rate]
  congr 1
  exact List.map_congr_left quotas

/--
A decision is as severe as the most severe limit exactly when, in the order of the checks, nothing
behind the first limit that is out of bounds is more severe than that one.
-/
theorem decision_most_severe_iff (store : PolicyStore) :
    (∀ ctx : IngestCtx,
      let resolved := store ctx.workspaceId ctx.signal .ingest
      (checkIngest usage store ctx).severity =
          greatest (resolved.ingestParts.map fun part =>
            (checkIngest usage (fun _ _ _ => part) ctx).severity) ↔
        FirstIsGreatest ((ingestOutcomes usage ctx resolved).map severityOf)) ∧
    (∀ ctx : QueryCtx,
      let resolved := store ctx.workspaceId ctx.signal .query
      (checkQuery usage store ctx).severity =
          greatest (resolved.queryParts.map fun part =>
            (checkQuery usage (fun _ _ _ => part) ctx).severity) ↔
        FirstIsGreatest ((queryOutcomes usage ctx resolved).map severityOf)) := by
  -- The decision is the first one found, and the parts give all of them.
  constructor
  · intro ctx
    simp only [checkIngest, ingestParts_severity]
    rw [decideIngest_eq, severity_findSome?_getD (ingestOutcomes_ne_allow usage ctx _)]
    exact firstFound_eq_greatest_iff _
  · intro ctx
    simp only [checkQuery, queryParts_severity]
    rw [decideQuery_eq, severity_findSome?_getD (queryOutcomes_ne_allow usage ctx _)]
    exact firstFound_eq_greatest_iff _

end

/-- Usage of a thousand records in a second, and of a thousand bytes that are stored. -/
def busyUsage : UsageReader where
  currentRate := fun _ _ _ => .ok ⟨1000, 0, 0⟩
  periodUsedBytes := fun _ _ _ _ _ => .ok 0
  storedCompressedBytes := fun _ _ => .ok 1000

/-- A policy for a thousand records in a second and a hundred bytes that are stored. -/
def rateAndSize : ResolvedPolicy :=
  { ResolvedPolicy.default with
    rate := some (.rate (some 1000) none)
    size := some (.size 100 .compressedBytes) }

/-- A workspace ten times over its size limit is admitted because its rate is in the grace band. -/
theorem grace_hides_hard_limit :
    let ctx : IngestCtx := ⟨Uuid.nil, .traces, 5, none, 0⟩
    checkIngest busyUsage (fun _ _ _ => rateAndSize) ctx =
        .allowWithGrace "rate_records_exceeded" ∧
      checkIngest busyUsage (fun _ _ _ => { rateAndSize with rate := none }) ctx =
        .block "size_exceeded" .sizeExceeded ∧
      (checkIngest busyUsage (fun _ _ _ => rateAndSize) ctx).severity ≠
        greatest (rateAndSize.ingestParts.map fun part =>
          (checkIngest busyUsage (fun _ _ _ => part) ctx).severity) := by
  decide

end Zradar.Policies
