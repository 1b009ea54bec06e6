import Zradar.Auth.Context

/-! When capability checks fail closed, and which key lists make them fail open. -/

namespace Zradar.Auth

/-- The extractor built a context from what the authorizer it asked returned. -/
def Extracted (resolution : AuthResolution) (auth : HttpAuthContext) : Prop :=
  ∃ (η : Type) (mode : Option AuthMode) (query admin : Option (Authorizer η)) (headers : η),
    (∀ authorize ∈ query.or admin, authorize headers = .ok resolution) ∧
      fromRequestParts mode query admin headers = .ok auth

/-- No check on either transport grants more than the returned keys do. -/
structure FailsClosed (resolution : AuthResolution) : Prop where
  /-- A capability is granted over HTTP only if its key was returned. -/
  httpRequire : ∀ auth capability, Extracted resolution auth →
    auth.require capability = .ok () → capability.key ∈ resolution.capabilityKeys
  /-- A gRPC request is admitted only if the key of its capability was returned. -/
  grpcRequire : ∀ (capability : Capability) admitted,
    authorizeRequest (.ok resolution) capability () = .ok admitted →
      capability.key ∈ resolution.capabilityKeys
  pathWorkspace : ∀ auth workspace, Extracted resolution auth →
    auth.enforcePathWorkspace workspace = .ok () → workspace = resolution.context.workspaceId
  standaloneOverride : ∀ auth requested workspace, Extracted resolution auth →
    auth.workspaceOrStandaloneOverride requested = .ok workspace →
      workspace = resolution.context.workspaceId
  platformOverride : ∀ auth requested workspace, Extracted resolution auth →
    auth.workspaceOrRejectPlatformOverride requested = .ok workspace →
      workspace = resolution.context.workspaceId
  auditScope : ∀ auth requested scope, Extracted resolution auth →
    auth.auditScope requested = .ok scope → scope = some resolution.context.workspaceId

/-- The extractor yields the context of what its authorizer returned, and nothing else. -/
theorem fromRequestParts_ok {η : Type} {mode : Option AuthMode} {query admin : Option (Authorizer η)}
    {headers : η} {auth : HttpAuthContext}
    (extracted : fromRequestParts mode query admin headers = .ok auth) :
    ∃ authorize ∈ query.or admin, ∃ resolution marker, authorize headers = .ok resolution ∧
      auth = .ofResolution marker resolution := by
  unfold fromRequestParts at extracted
  -- Every branch but the two successful authorizations ends in a rejection.
  split at extracted
  · cases extracted
  · rename_i marker
    split at extracted
    · rename_i _ authorize
      split at extracted
      · rename_i resolution answered
        cases extracted
        exact ⟨authorize, rfl, resolution, marker, answered, rfl⟩
      · cases extracted
    · rename_i authorize
      split at extracted
      · rename_i resolution answered
        cases extracted
        exact ⟨authorize, rfl, resolution, marker, answered, rfl⟩
      · cases extracted
    · cases extracted

/-- An extracted context holds the known ones among the returned keys. -/
theorem Extracted.eq {resolution : AuthResolution} {auth : HttpAuthContext}
    (extracted : Extracted resolution auth) : ∃ mode, auth = .ofResolution mode resolution := by
  obtain ⟨η, mode, query, admin, headers, returned, built⟩ := extracted
  obtain ⟨authorize, asked, other, marker, answered, rfl⟩ := fromRequestParts_ok built
  -- The authorizer that was asked gave one answer.
  rw [returned authorize asked] at answered
  cases answered
  exact ⟨marker, rfl⟩

/-- Every resolution reaches the handlers through some request. -/
theorem extracted_ofResolution (mode : AuthMode) (resolution : AuthResolution) :
    Extracted resolution (.ofResolution mode resolution) := by
  refine ⟨Unit, some mode, some fun _ => .ok resolution, none, (), ?_, rfl⟩
  intro authorize asked
  cases asked
  rfl

/-- A key that is parsed is the key of the capability it is parsed to. -/
theorem Capability.key_of_fromKey {key : String} {capability : Capability}
    (parsed : Capability.fromKey key = some capability) : capability.key = key := by
  -- The keys are tested one by one, so each successful test fixes both sides.
  unfold Capability.fromKey at parsed
  repeat' split at parsed
  all_goals cases parsed
  all_goals subst key
  all_goals rfl

theorem Capability.fromKey_key (capability : Capability) :
    Capability.fromKey capability.key = some capability := by
  cases capability <;> decide

/-- The parsed list holds a capability exactly when its key was returned. -/
theorem mem_knownCapabilities {keys : List String} {capability : Capability} :
    capability ∈ knownCapabilities keys ↔ capability.key ∈ keys := by
  -- A key and its capability determine each other.
  rw [knownCapabilities, List.mem_filterMap]
  constructor
  · rintro ⟨key, member, parsed⟩
    rw [Capability.key_of_fromKey parsed]
    exact member
  · intro member
    exact ⟨capability.key, member, Capability.fromKey_key capability⟩

/-- The parsed list is empty exactly when no key is known. -/
theorem knownCapabilities_eq_nil {keys : List String} :
    knownCapabilities keys = [] ↔ ∀ key ∈ keys, Capability.fromKey key = none := by
  rw [knownCapabilities, List.filterMap_eq_nil_iff]

/-- With at least one parsed capability, every check looks at the list. -/
theorem failsClosed_of_known {resolution : AuthResolution}
    (known : knownCapabilities resolution.capabilityKeys ≠ []) : FailsClosed resolution := by
  have some : (knownCapabilities resolution.capabilityKeys).isEmpty = false := by
    simpa using known
  constructor
  · intro auth capability extracted granted
    obtain ⟨mode, rfl⟩ := extracted.eq
    -- Behind the test for the empty list, only membership grants.
    simp only [HttpAuthContext.require, HttpAuthContext.ofResolution, some, Bool.false_eq_true,
      ↓reduceIte] at granted
    by_cases member : capability ∈ knownCapabilities resolution.capabilityKeys
    · exact mem_knownCapabilities.mp member
    · simp [member] at granted
  · intro capability admitted granted
    simp only [authorizeRequest, GrpcAuthContext.require, authContextFromResolution, some,
      Bool.false_eq_true, false_or] at granted
    by_cases member : capability ∈ knownCapabilities resolution.capabilityKeys
    · exact mem_knownCapabilities.mp member
    · simp [member] at granted
  · intro auth workspace extracted allowed
    obtain ⟨mode, rfl⟩ := extracted.eq
    simp only [HttpAuthContext.enforcePathWorkspace, HttpAuthContext.ofResolution, some,
      Bool.false_eq_true, ↓reduceIte, HttpAuthContext.workspaceUuid, bind, Except.bind] at allowed
    split at allowed
    · cases allowed
    · rename_i same
      exact (Decidable.of_not_not same).symm
  · intro auth requested workspace extracted chosen
    obtain ⟨mode, rfl⟩ := extracted.eq
    simp only [HttpAuthContext.workspaceOrStandaloneOverride, HttpAuthContext.ofResolution, some,
      HttpAuthContext.workspaceUuid, bind, Except.bind, Bool.false_eq_true, ↓reduceIte,
      Except.ok.injEq] at chosen
    exact chosen.symm
  · intro auth requested workspace extracted chosen
    obtain ⟨mode, rfl⟩ := extracted.eq
    simp only [HttpAuthContext.workspaceOrRejectPlatformOverride, HttpAuthContext.ofResolution,
      some, HttpAuthContext.workspaceUuid, bind, Except.bind, Bool.false_eq_true, ↓reduceIte]
      at chosen
    -- A different request is refused, and every other answer is the authenticated workspace.
    split at chosen
    · split at chosen
      · cases chosen
      · exact (Except.ok.inj chosen).symm
    · exact (Except.ok.inj chosen).symm
  · intro auth requested scope extracted chosen
    obtain ⟨mode, rfl⟩ := extracted.eq
    simp only [HttpAuthContext.auditScope, HttpAuthContext.ofResolution, some,
      HttpAuthContext.workspaceUuid, bind, Except.bind, Bool.not_false, ↓reduceIte,
      Except.ok.injEq] at chosen
    exact chosen.symm

/-- Capability checks fail closed exactly when at least one returned key is known. -/
theorem checks_fail_closed_iff (resolution : AuthResolution) :
    FailsClosed resolution ↔
      ∃ key ∈ resolution.capabilityKeys, Capability.fromKey key ≠ none := by
  constructor
  · -- Without a known key the list looks like the one of a standalone caller.
    intro closed
    apply Classical.byContradiction
    intro unknown
    have none : knownCapabilities resolution.capabilityKeys = [] := by
      rw [knownCapabilities_eq_nil]
      intro key member
      apply Classical.byContradiction
      intro parsed
      exact unknown ⟨key, member, parsed⟩
    have granted : (HttpAuthContext.ofResolution .standalone resolution).require .admin = .ok () := by
      simp [HttpAuthContext.require, HttpAuthContext.ofResolution, none]
    have returned := closed.httpRequire _ .admin (extracted_ofResolution .standalone resolution) granted
    exact unknown ⟨_, returned, by simp [Capability.fromKey_key]⟩
  · rintro ⟨key, member, known⟩
    apply failsClosed_of_known
    intro empty
    exact known (knownCapabilities_eq_nil.mp empty key member)

/-- A list of one unknown key grants every capability and every workspace. -/
theorem unknown_key_fails_open :
    ¬ ∀ resolution : AuthResolution, resolution.capabilityKeys ≠ [] → FailsClosed resolution := by
  intro claim
  have closed := claim ⟨⟨Uuid.nil⟩, ["read_profiles"]⟩ (by simp)
  have returned : Capability.admin.key ∈ ["read_profiles"] :=
    closed.httpRequire _ .admin (extracted_ofResolution .standalone _) rfl
  exact absurd returned (by decide)

end Zradar.Auth
