import Zradar.Lib.Run
import Zradar.Lib.SingleFlight
import Zradar.Otlp.CircuitBreaker

/-! The samplers of the circuit breaker and of the disk guard, called by requests that can be dropped. -/

namespace Zradar.Runtime

open Otlp

/-- The most milliseconds that a sample of free space is used for. -/
def maxSampleAgeMs : UInt64 := 1000

/-- Stands for free space that could not be measured. -/
def unknownFree : UInt64 := 18446744073709551615

/-- The guard that refuses appends while the disk is low. -/
structure DiskSpaceGuard where
  minFreeBytes : UInt64
  checkEvery : UInt64
  attempts : UInt64
  freeBytes : UInt64
  lastSampleMs : UInt64
  sampling : Bool
  warnedUnavailable : Bool

namespace DiskSpaceGuard

def new (minFreeBytes checkEvery : UInt64) : DiskSpaceGuard where
  minFreeBytes := minFreeBytes
  checkEvery := max checkEvery 1
  attempts := 0
  freeBytes := unknownFree
  lastSampleMs := neverSampled
  sampling := false
  warnedUnavailable := false

/-- Whether the guard is active. -/
def enabled (guard : DiskSpaceGuard) : Bool := guard.minFreeBytes > 0

/-- Whether the sample is missing or too old. -/
def isStale (guard : DiskSpaceGuard) (nowMs : UInt64) : Bool :=
  guard.lastSampleMs = neverSampled || saturatingSub nowMs guard.lastSampleMs ≥ maxSampleAgeMs

/-- Whether an attempt has to take a sample. -/
def sampleDue (guard : DiskSpaceGuard) (attempt nowMs : UInt64) : Bool :=
  guard.lastSampleMs = neverSampled || attempt % guard.checkEvery = 0 ||
    saturatingSub nowMs guard.lastSampleMs ≥ maxSampleAgeMs

/-- Store the free space, or that it could not be measured, at a reading of the clock. -/
def storeSample (guard : DiskSpaceGuard) (sample : Option UInt64) (nowMs : UInt64) : DiskSpaceGuard :=
  { guard with
    freeBytes := match sample with
      | some available => min available (unknownFree - 1)
      | none => unknownFree
    warnedUnavailable := guard.warnedUnavailable || sample.isNone
    lastSampleMs := nowMs }

end DiskSpaceGuard

/-- Where a call of a sampler is: `κ` is what it was called with, `σ` what it samples. -/
inductive SamplerPhase (κ σ : Type) where
  | ended
  | called (ticket : κ)
  /-- The sample is due, and the flag is to be raised. -/
  | exchanging
  /-- The flag is raised, and the blocking task is awaited. -/
  | sampling
  | storing (sample : σ)
  | releasing

/-- Between raising the flag and lowering it. -/
def SamplerPhase.holds {κ σ : Type} : SamplerPhase κ σ → Bool
  | .ended | .called _ | .exchanging => false
  | .sampling | .storing _ | .releasing => true

/-- What can happen to a call of a sampler. -/
inductive SamplerAction (σ : Type) where
  | call
  | check (millis : Nat)
  | exchange
  /-- The blocking task is done, or it panicked. -/
  | sampled (sample : Option σ)
  | store (millis : Nat)
  | release
  /-- The future is dropped at its await point. -/
  | drop

/-- One step of `refresh_resources_if_stale`. -/
def breakerStep (breaker : CircuitBreaker) :
    SamplerPhase Unit ResourceSample → SamplerAction ResourceSample →
      Option (CircuitBreaker × SamplerPhase Unit ResourceSample)
  | .ended, .call => some (breaker, .called ())
  | .called _, .check millis =>
    some (breaker, if breaker.isStale (elapsedMs millis) then .exchanging else .ended)
  | .exchanging, .exchange =>
    if breaker.sampling then some (breaker, .ended)
    else some ({ breaker with sampling := true }, .sampling)
  | .sampling, .sampled sample => some (breaker, .storing (sample.getD ⟨none, none⟩))
  | .storing sample, .store millis =>
    some (breaker.storeSample sample (elapsedMs millis), .releasing)
  | .releasing, .release => some ({ breaker with sampling := false }, .ended)
  -- Nothing lowers the flag for a future that is dropped.
  | .sampling, .drop => some (breaker, .ended)
  | _, _ => none

/-- One step of `admit` up to the end of `refresh`. -/
def guardStep (guard : DiskSpaceGuard) :
    SamplerPhase UInt64 (Option UInt64) → SamplerAction (Option UInt64) →
      Option (DiskSpaceGuard × SamplerPhase UInt64 (Option UInt64))
  | .ended, .call =>
    if guard.enabled then
      some ({ guard with attempts := guard.attempts + 1 }, .called guard.attempts)
    else some (guard, .ended)
  | .called attempt, .check millis =>
    some (guard, if guard.sampleDue attempt (elapsedMs millis) then .exchanging else .ended)
  | .exchanging, .exchange =>
    if guard.sampling then some (guard, .ended)
    else some ({ guard with sampling := true }, .sampling)
  | .sampling, .sampled sample => some (guard, .storing (sample.getD none))
  | .storing sample, .store millis => some (guard.storeSample sample (elapsedMs millis), .releasing)
  | .releasing, .release => some ({ guard with sampling := false }, .ended)
  -- The flag is lowered by its guard.
  | .sampling, .drop => some ({ guard with sampling := false }, .ended)
  | _, _ => none

/-- Both samplers, and the calls of each. -/
structure SamplerState where
  breaker : CircuitBreaker
  breakerCalls : Nat → SamplerPhase Unit ResourceSample
  guard : DiskSpaceGuard
  guardCalls : Nat → SamplerPhase UInt64 (Option UInt64)

inductive SamplerLabel where
  | breaker (id : Nat) (action : SamplerAction ResourceSample)
  | guard (id : Nat) (action : SamplerAction (Option UInt64))

/-- One step of one call. -/
def samplerStep (state : SamplerState) : SamplerLabel → Option SamplerState
  | .breaker id action =>
    match breakerStep state.breaker (state.breakerCalls id) action with
    | some (breaker, phase) =>
      some { state with breaker, breakerCalls := Function.update state.breakerCalls id phase }
    | none => none
  | .guard id action =>
    match guardStep state.guard (state.guardCalls id) action with
    | some (guard, phase) =>
      some { state with guard, guardCalls := Function.update state.guardCalls id phase }
    | none => none

/-- A process that has just started. -/
def samplerStart (breaker : CircuitBreaker) (guard : DiskSpaceGuard) : SamplerState :=
  ⟨breaker, fun _ => .ended, guard, fun _ => .ended⟩

/-- A raised flag is held by a call, and a stale sample can be replaced once all calls have ended. -/
structure NeverStuck (state : SamplerState) : Prop where
  breakerHeld : state.breaker.sampling = true → ∃ id, (state.breakerCalls id).holds = true
  guardHeld : state.guard.sampling = true → ∃ id, (state.guardCalls id).holds = true
  breakerRecovers : (∀ id, state.breakerCalls id = .ended) →
    ∀ millis, state.breaker.isStale (elapsedMs millis) = true →
      ∃ labels final, run samplerStep state labels = some final ∧
        final.breaker.lastSampleMs = elapsedMs millis
  guardRecovers : (∀ id, state.guardCalls id = .ended) → state.guard.enabled = true →
    ∀ millis, state.guard.isStale (elapsedMs millis) = true →
      ∃ labels final, run samplerStep state labels = some final ∧
        final.guard.lastSampleMs = elapsedMs millis

/-- Whether a future is dropped while it awaits the sample of the breaker. -/
def SamplerLabel.cancelsBreaker : SamplerLabel → Bool
  | .breaker _ .drop => true
  | _ => false

section

variable {κ σ : Type}

/-- A flag, and the calls that hold it. -/
def flightOf (flag : Bool) (calls : Nat → SamplerPhase κ σ) : Flight Nat :=
  ⟨flag, fun id => (calls id).holds = true⟩

variable {calls : Nat → SamplerPhase κ σ} {id : Nat} {phase before : SamplerPhase κ σ}

theorem update_holds (other : Nat) :
    (Function.update calls id phase other).holds = true ↔
      if other = id then phase.holds = true else (calls other).holds = true := by
  by_cases same : other = id
  · subst same
    simp
  · simp [same]

/-- A call that moves on without a change of the flag keeps it, or does not have it. -/
theorem flight_keep (flag : Bool) (found : calls id = before) (same : phase.holds = before.holds) :
    Flight.Step (flightOf flag calls) (flightOf flag (Function.update calls id phase)) := by
  refine .keep rfl fun other => (update_holds other).trans ?_
  split_ifs with here
  · rw [same, here, ← found]
    exact Iff.rfl
  · exact Iff.rfl

/-- A flag that is not raised can be taken. -/
theorem flight_acquire {flag : Bool} (free : ¬ flag = true) (held : phase.holds = true) :
    Flight.Step (flightOf flag calls) (flightOf true (Function.update calls id phase)) := by
  refine .acquire id (Bool.eq_false_iff.mpr free) rfl fun other => (update_holds other).trans ?_
  split_ifs with here
  · exact iff_of_true held (.inl here)
  · exact ⟨.inr, fun either => either.resolve_left here⟩

/-- A call that ends is no longer one that holds the flag. -/
theorem update_ended_holds (other : Nat) :
    (Function.update calls id .ended other).holds = true ↔
      other ≠ id ∧ (calls other).holds = true := by
  rw [update_holds]
  split_ifs with here
  · exact iff_of_false (fun held => nomatch held) fun both => both.1 here
  · exact ⟨fun held => ⟨here, held⟩, And.right⟩

theorem flight_release (flag : Bool) (found : calls id = before) (held : before.holds = true) :
    Flight.Step (flightOf flag calls) (flightOf false (Function.update calls id .ended)) := by
  rw [← found] at held
  exact .release id held rfl update_ended_holds

end

/-- What a step of a call does to the flag of the breaker, unless the call is dropped. -/
theorem breakerStep_flight {breaker after : CircuitBreaker}
    {calls : Nat → SamplerPhase Unit ResourceSample} {id : Nat}
    {action : SamplerAction ResourceSample} {phase : SamplerPhase Unit ResourceSample}
    (stepped : breakerStep breaker (calls id) action = some (after, phase))
    (kept : SamplerLabel.cancelsBreaker (.breaker id action) = false) :
    Flight.Step (flightOf breaker.sampling calls)
      (flightOf after.sampling (Function.update calls id phase)) := by
  unfold breakerStep at stepped
  split at stepped
  case h_1 here =>
    cases stepped
    exact flight_keep _ here rfl
  case h_2 here =>
    cases stepped
    refine flight_keep _ here ?_
    split_ifs <;> rfl
  case h_3 here =>
    -- The exchange succeeds only for a flag that is not raised.
    split_ifs at stepped with raised
    · cases stepped
      exact flight_keep _ here rfl
    · cases stepped
      exact flight_acquire raised rfl
  case h_4 here =>
    cases stepped
    exact flight_keep _ here rfl
  case h_5 here =>
    cases stepped
    exact flight_keep _ here rfl
  case h_6 here =>
    cases stepped
    exact flight_release _ here rfl
  case h_7 => exact nomatch kept
  case h_8 => exact nomatch stepped

/-- What a step of a call does to the flag of the guard. -/
theorem guardStep_flight {guard after : DiskSpaceGuard}
    {calls : Nat → SamplerPhase UInt64 (Option UInt64)} {id : Nat}
    {action : SamplerAction (Option UInt64)} {phase : SamplerPhase UInt64 (Option UInt64)}
    (stepped : guardStep guard (calls id) action = some (after, phase)) :
    Flight.Step (flightOf guard.sampling calls)
      (flightOf after.sampling (Function.update calls id phase)) := by
  unfold guardStep at stepped
  split at stepped
  case h_1 here =>
    split_ifs at stepped
    · cases stepped
      exact flight_keep _ here rfl
    · cases stepped
      exact flight_keep _ here rfl
  case h_2 here =>
    cases stepped
    refine flight_keep _ here ?_
    split_ifs <;> rfl
  case h_3 here =>
    split_ifs at stepped with raised
    · cases stepped
      exact flight_keep _ here rfl
    · cases stepped
      exact flight_acquire raised rfl
  case h_4 here =>
    cases stepped
    exact flight_keep _ here rfl
  case h_5 here =>
    cases stepped
    exact flight_keep _ here rfl
  case h_6 here =>
    cases stepped
    exact flight_release _ here rfl
  case h_7 here =>
    -- The guard of the flag lowers it, just as at the end of the call.
    cases stepped
    exact flight_release _ here rfl
  case h_8 => exact nomatch stepped

/-- The invariant: each flag has one owner while it is raised. -/
structure Steered (state : SamplerState) : Prop where
  breakerOwned : (flightOf state.breaker.sampling state.breakerCalls).Owned
  breakerSingle : (flightOf state.breaker.sampling state.breakerCalls).Single
  guardOwned : (flightOf state.guard.sampling state.guardCalls).Owned
  guardSingle : (flightOf state.guard.sampling state.guardCalls).Single

section

variable {state next : SamplerState}

/-- A step that cancels no sample of the breaker keeps the invariant. -/
theorem steered_samplerStep {label : SamplerLabel} (steered : Steered state)
    (stepped : samplerStep state label = some next) (kept : label.cancelsBreaker = false) :
    Steered next := by
  -- The breaker and the guard have flags of their own, so a step moves one of them only.
  cases label with
  | breaker id action =>
    simp only [samplerStep] at stepped
    cases moved : breakerStep state.breaker (state.breakerCalls id) action with
    | none => simp [moved] at stepped
    | some result =>
      simp only [moved, Option.some.injEq] at stepped
      subst stepped
      have step := breakerStep_flight moved kept
      exact ⟨step.owned steered.breakerOwned, step.single steered.breakerSingle,
        steered.guardOwned, steered.guardSingle⟩
  | guard id action =>
    simp only [samplerStep] at stepped
    cases moved : guardStep state.guard (state.guardCalls id) action with
    | none => simp [moved] at stepped
    | some result =>
      simp only [moved, Option.some.injEq] at stepped
      subst stepped
      have step := guardStep_flight moved
      exact ⟨steered.breakerOwned, steered.breakerSingle, step.owned steered.guardOwned,
        step.single steered.guardSingle⟩

/-- A dropped call leaves the flag of the breaker raised, and nobody to lower it. -/
theorem Steered.stuck_of_cancel (steered : Steered state) {label : SamplerLabel}
    (stepped : samplerStep state label = some next) (cancels : label.cancelsBreaker = true) :
    ¬ NeverStuck next := by
  -- A call that is dropped while it samples leaves the flag behind.
  intro never
  cases label with
  | guard id action => exact nomatch cancels
  | breaker id action =>
    cases action with
    | drop =>
      cases phase : state.breakerCalls id with
      | sampling =>
        simp only [samplerStep, phase, breakerStep, Option.some.injEq] at stepped
        subst stepped
        have held : (state.breakerCalls id).holds = true := by rw [phase]; rfl
        have owned : (flightOf state.breaker.sampling
            (Function.update state.breakerCalls id .ended)).Owned := never.breakerHeld
        exact absurd owned
          (steered.breakerSingle.not_owned_of_abandon held rfl update_ended_holds)
      | ended => simp [samplerStep, phase, breakerStep] at stepped
      | called ticket => simp [samplerStep, phase, breakerStep] at stepped
      | exchanging => simp [samplerStep, phase, breakerStep] at stepped
      | storing sample => simp [samplerStep, phase, breakerStep] at stepped
      | releasing => simp [samplerStep, phase, breakerStep] at stepped
    | call => exact nomatch cancels
    | check millis => exact nomatch cancels
    | exchange => exact nomatch cancels
    | sampled sample => exact nomatch cancels
    | store millis => exact nomatch cancels
    | release => exact nomatch cancels

/-- A flag that is owned is not raised once all calls have ended. -/
theorem lowered_of_ended {κ σ : Type} {flag : Bool} {calls : Nat → SamplerPhase κ σ}
    (owned : (flightOf flag calls).Owned) (ended : ∀ id, calls id = .ended) : flag = false := by
  by_contra raised
  obtain ⟨id, held⟩ := owned (Bool.eq_true_of_not_eq_false raised)
  simp only [flightOf, ended id] at held
  exact nomatch held

/-- A call that goes through all of its steps. -/
def fullCall (σ : Type) (millis : Nat) : List (SamplerAction σ) :=
  [.call, .check millis, .exchange, .sampled none, .store millis, .release]

/-- With the flag lowered, a call that finds a stale sample takes a new one. -/
theorem breaker_recovers (lowered : state.breaker.sampling = false)
    (ended : ∀ id, state.breakerCalls id = .ended) {millis : Nat}
    (stale : state.breaker.isStale (elapsedMs millis) = true) :
    ∃ labels final, run samplerStep state labels = some final ∧
      final.breaker.lastSampleMs = elapsedMs millis := by
  have taken : (run samplerStep state ((fullCall _ millis).map (.breaker 0))).map
      (fun final => final.breaker.lastSampleMs) = some (elapsedMs millis) := by
    simp [fullCall, run, samplerStep, breakerStep, ended, stale, lowered, CircuitBreaker.storeSample]
  exact ⟨_, Option.map_eq_some_iff.mp taken⟩

theorem guard_recovers (lowered : state.guard.sampling = false)
    (ended : ∀ id, state.guardCalls id = .ended) (enabled : state.guard.enabled = true)
    {millis : Nat} (stale : state.guard.isStale (elapsedMs millis) = true) :
    ∃ labels final, run samplerStep state labels = some final ∧
      final.guard.lastSampleMs = elapsedMs millis := by
  -- A stale sample is due, whatever the number of the attempt.
  have due : ∀ (guard : DiskSpaceGuard) (attempt : UInt64),
      guard.lastSampleMs = state.guard.lastSampleMs →
        guard.sampleDue attempt (elapsedMs millis) = true := by
    intro guard attempt same
    simp only [DiskSpaceGuard.isStale, DiskSpaceGuard.sampleDue, Bool.or_eq_true, same] at stale ⊢
    tauto
  have taken : (run samplerStep state ((fullCall _ millis).map (.guard 0))).map
      (fun final => final.guard.lastSampleMs) = some (elapsedMs millis) := by
    simp [fullCall, run, samplerStep, guardStep, ended, enabled, due, lowered,
      DiskSpaceGuard.storeSample]
  exact ⟨_, Option.map_eq_some_iff.mp taken⟩

theorem Steered.neverStuck (steered : Steered state) : NeverStuck state where
  breakerHeld := steered.breakerOwned
  guardHeld := steered.guardOwned
  breakerRecovers := fun ended _ stale =>
    breaker_recovers (lowered_of_ended steered.breakerOwned ended) ended stale
  guardRecovers := fun ended enabled _ stale =>
    guard_recovers (lowered_of_ended steered.guardOwned ended) ended enabled stale

/-- Flags that are not raised need no owner. -/
theorem steered_samplerStart {breaker : CircuitBreaker} {guard : DiskSpaceGuard}
    (first : breaker.sampling = false) (second : guard.sampling = false) :
    Steered (samplerStart breaker guard) where
  breakerOwned := by
    -- Nobody holds a flag at the start, and none is raised.
    intro raised
    exact absurd raised (by simp [flightOf, samplerStart, first])
  breakerSingle := ⟨(fun _ _ held => nomatch held), (fun _ held => nomatch held)⟩
  guardOwned := by
    intro raised
    exact absurd raised (by simp [flightOf, samplerStart, second])
  guardSingle := ⟨(fun _ _ held => nomatch held), (fun _ held => nomatch held)⟩

end

/--
The samplers never get stuck in a run exactly if no request is dropped in it while it awaits the
sample of the breaker.
-/
theorem sampler_never_stuck_iff (maxDiskUsagePercent maxMemoryUsagePercent : UInt8)
    (maxQueueDepth minFreeBytes checkEvery : UInt64) (labels : List SamplerLabel)
    (final : SamplerState)
    (reached : run samplerStep (samplerStart
      (.new maxDiskUsagePercent maxMemoryUsagePercent maxQueueDepth)
      (.new minFreeBytes checkEvery)) labels = some final) :
    (∀ taken middle, run samplerStep (samplerStart
        (.new maxDiskUsagePercent maxMemoryUsagePercent maxQueueDepth)
        (.new minFreeBytes checkEvery)) (labels.take taken) = some middle → NeverStuck middle) ↔
      Guarded samplerStep (fun _ label => label.cancelsBreaker = false)
        (samplerStart (.new maxDiskUsagePercent maxMemoryUsagePercent maxQueueDepth)
          (.new minFreeBytes checkEvery)) labels := by
  refine run_always_iff_of (fun _ => Steered.neverStuck) ?_ ?_ (steered_samplerStart rfl rfl) reached
  · intro state label next steered stepped never
    by_contra cancels
    exact steered.stuck_of_cancel stepped (Bool.eq_true_of_not_eq_false cancels) never
  · exact fun _ _ _ steered stepped kept => steered_samplerStep steered stepped kept

/-- Two requests that both call the breaker, of which the first samples. -/
def twoCalls : List SamplerLabel :=
  [.breaker 0 .call, .breaker 1 .call, .breaker 0 (.check 0), .breaker 1 (.check 0),
    .breaker 0 .exchange, .breaker 1 .exchange, .breaker 0 (.sampled none), .breaker 0 (.store 5),
    .breaker 0 .release]

/-- Neither the panic of the blocking task nor the second request leaves the flag raised. -/
theorem panicked_sample_is_released :
    ∃ final, run samplerStep (samplerStart (.new 90 90 100) (.new 1 1)) twoCalls = some final ∧
      NeverStuck final :=
  ⟨_, rfl, (sampler_never_stuck_iff 90 90 100 1 1 twoCalls _ rfl).mpr
    (.of_labels (by simp [twoCalls, SamplerLabel.cancelsBreaker]) _) twoCalls.length _ rfl⟩

/-- A request that is dropped while it awaits the sample leaves the flag of the breaker raised. -/
theorem cancelled_sample_blocks_later_samples :
    ¬ ∀ maxDiskUsagePercent maxMemoryUsagePercent maxQueueDepth minFreeBytes checkEvery labels
        middle, run samplerStep (samplerStart
          (.new maxDiskUsagePercent maxMemoryUsagePercent maxQueueDepth)
          (.new minFreeBytes checkEvery)) labels = some middle → NeverStuck middle := by
  intro always
  -- The request wins the exchange and is dropped while it awaits the sampler.
  have never := always 90 90 100 1 1
    [.breaker 0 .call, .breaker 0 (.check 0), .breaker 0 .exchange, .breaker 0 .drop] _ rfl
  obtain ⟨id, held⟩ := never.breakerHeld rfl
  by_cases zero : id = 0
  · subst zero
    exact nomatch held
  · simp [samplerStart, zero, SamplerPhase.holds] at held

end Zradar.Runtime
