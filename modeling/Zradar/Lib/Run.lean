import Mathlib.Tactic

/-! Labelled step functions: their runs, the runs that respect a guard, and the invariant rule. -/

namespace Zradar

variable {σ ℓ : Type}

/-- The state behind a list of labels, if every one of them names an enabled step. -/
def run (step : σ → ℓ → Option σ) : σ → List ℓ → Option σ
  | state, [] => some state
  | state, label :: labels =>
    -- A label that is not enabled makes the whole list no run at all.
    match step state label with
    | some next => run step next labels
    | none => none

/-- The first label of a run is its first step. -/
theorem run_cons {step : σ → ℓ → Option σ} {state next : σ} {label : ℓ}
    (stepped : step state label = some next) (labels : List ℓ) :
    run step state (label :: labels) = run step next labels := by
  rw [run, stepped]

/-- A run with a first label takes its step, and goes on from there. -/
theorem run_cons_eq_some {step : σ → ℓ → Option σ} {state final : σ} {label : ℓ} {labels : List ℓ} :
    run step state (label :: labels) = some final ↔
      ∃ next, step state label = some next ∧ run step next labels = some final := by
  -- A label that is not enabled would have ended the run.
  cases stepped : step state label with
  | none => simp [run, stepped]
  | some next => simp [run, stepped]

/-- Two runs in a row are one run over both lists of labels. -/
theorem run_append (step : σ → ℓ → Option σ) {state middle : σ} {labels : List ℓ}
    (reached : run step state labels = some middle) (more : List ℓ) :
    run step state (labels ++ more) = run step middle more := by
  -- The first labels lead to the state in which the others begin.
  induction labels generalizing state with
  | nil =>
    cases reached
    rfl
  | cons label labels ih =>
    obtain ⟨next, stepped, reached⟩ := run_cons_eq_some.mp reached
    rw [List.cons_append, run_cons stepped]
    exact ih reached

/-- A run goes through a state after any number of its labels. -/
theorem run_take {step : σ → ℓ → Option σ} {state final : σ} {labels : List ℓ}
    (reached : run step state labels = some final) (taken : Nat) :
    ∃ middle, run step state (labels.take taken) = some middle := by
  -- Every state on the way was reached, so the run may stop there.
  induction labels generalizing state taken with
  | nil => exact ⟨state, by simp [run]⟩
  | cons label labels ih =>
    cases taken with
    | zero => exact ⟨state, rfl⟩
    | succ taken =>
      obtain ⟨next, stepped, reached⟩ := run_cons_eq_some.mp reached
      obtain ⟨middle, arrived⟩ := ih reached taken
      exact ⟨middle, by rw [List.take_succ_cons, run_cons stepped, arrived]⟩

/-- Every label of a run meets the guard in the state in front of its step. -/
def Guarded (step : σ → ℓ → Option σ) (guard : σ → ℓ → Prop) : σ → List ℓ → Prop
  | _, [] => True
  | state, label :: labels =>
    guard state label ∧
      match step state label with
      | some next => Guarded step guard next labels
      | none => True

theorem Guarded.cons {step : σ → ℓ → Option σ} {guard : σ → ℓ → Prop} {state next : σ} {label : ℓ}
    {labels : List ℓ} (stepped : step state label = some next) (first : guard state label)
    (rest : Guarded step guard next labels) : Guarded step guard state (label :: labels) := by
  refine ⟨first, ?_⟩
  rw [stepped]
  exact rest

/-- What is left of a guarded run behind its first step is guarded. -/
theorem Guarded.tail {step : σ → ℓ → Option σ} {guard : σ → ℓ → Prop} {state next : σ} {label : ℓ}
    {labels : List ℓ} (guarded : Guarded step guard state (label :: labels))
    (stepped : step state label = some next) : Guarded step guard next labels := by
  have later := guarded.2
  rw [stepped] at later
  exact later

theorem Guarded.append {step : σ → ℓ → Option σ} {guard : σ → ℓ → Prop} {state middle : σ}
    {labels more : List ℓ} (reached : run step state labels = some middle)
    (first : Guarded step guard state labels) (rest : Guarded step guard middle more) :
    Guarded step guard state (labels ++ more) := by
  -- The guard holds up to the middle state, and from there on.
  induction labels generalizing state with
  | nil =>
    cases reached
    exact rest
  | cons label labels ih =>
    obtain ⟨next, stepped, reached⟩ := run_cons_eq_some.mp reached
    exact .cons stepped first.1 (ih reached (first.tail stepped))

/-- A guard on the labels alone is met wherever every label meets it. -/
theorem Guarded.of_labels {step : σ → ℓ → Option σ} {meets : ℓ → Prop} {labels : List ℓ}
    (all : ∀ label ∈ labels, meets label) (state : σ) :
    Guarded step (fun _ label => meets label) state labels := by
  -- A condition on labels holds in whatever state they are taken.
  induction labels generalizing state with
  | nil => trivial
  | cons label labels ih =>
    obtain ⟨here, later⟩ := List.forall_mem_cons.mp all
    refine ⟨here, ?_⟩
    split
    · exact ih later _
    · trivial

/-- Whether a run respects a guard can be decided by following it. -/
instance Guarded.decide {step : σ → ℓ → Option σ} {guard : σ → ℓ → Prop}
    [decides : ∀ state label, Decidable (guard state label)] :
    ∀ state labels, Decidable (Guarded step guard state labels)
  | _, [] => .isTrue trivial
  | state, label :: labels =>
    have _rest : Decidable (match step state label with
        | some next => Guarded step guard next labels
        | none => True) :=
      match step state label with
      | some next => Guarded.decide next labels
      | none => .isTrue trivial
    inferInstanceAs (Decidable (_ ∧ _))

/-- A property that every guarded step keeps is one that every guarded run keeps. -/
theorem run_invariant {step : σ → ℓ → Option σ} {guard : σ → ℓ → Prop} {holds : σ → Prop}
    (kept : ∀ state label next, holds state → guard state label →
      step state label = some next → holds next) :
    ∀ {state labels final}, holds state → Guarded step guard state labels →
      run step state labels = some final → holds final := by
  intro state labels
  -- The induction walks the labels from the front, so the start state changes with each step.
  induction labels generalizing state with
  | nil =>
    intro final holding _ reached
    simp only [run, Option.some.injEq] at reached
    exact reached ▸ holding
  | cons label labels ih =>
    intro final holding guarded reached
    obtain ⟨next, stepped, reached⟩ := run_cons_eq_some.mp reached
    exact ih (kept state label next holding guarded.1 stepped) (guarded.tail stepped) reached

/-- Steps that meet a guard in states with an invariant meet whatever follows from the two. -/
theorem Guarded.of_invariant {step : σ → ℓ → Option σ} {guard other : σ → ℓ → Prop}
    {holds : σ → Prop}
    (kept : ∀ state label next, holds state → guard state label →
      step state label = some next → holds next)
    (gives : ∀ state label, holds state → guard state label → other state label) :
    ∀ {state labels}, holds state → Guarded step guard state labels →
      Guarded step other state labels := by
  -- The invariant is carried along to every state in which a label is taken.
  intro state labels
  induction labels generalizing state with
  | nil => exact fun _ _ => trivial
  | cons label labels ih =>
    intro holding guarded
    refine ⟨gives state label holding guarded.1, ?_⟩
    cases stepped : step state label with
    | none => trivial
    | some next =>
      exact ih (kept state label next holding guarded.1 stepped) (guarded.tail stepped)

/-- Two guards that agree in states with an invariant are met by the same runs. -/
theorem Guarded.iff_of_invariant {step : σ → ℓ → Option σ} {guard other : σ → ℓ → Prop}
    {holds : σ → Prop}
    (kept : ∀ state label next, holds state → guard state label →
      step state label = some next → holds next)
    (agree : ∀ state label, holds state → (other state label ↔ guard state label)) :
    ∀ {state labels}, holds state →
      (Guarded step other state labels ↔ Guarded step guard state labels) := by
  intro state labels
  induction labels generalizing state with
  | nil => exact fun _ => Iff.rfl
  | cons label labels ih =>
    intro holding
    -- The invariant is kept only behind a step that meets the guard, so this comes first.
    refine and_congr_right_iff.mpr ?_ |>.trans (and_congr_left_iff.mpr fun _ => agree state label holding)
    intro meets
    cases stepped : step state label with
    | none => exact Iff.rfl
    | some next =>
      exact ih (kept state label next holding ((agree state label holding).mp meets) stepped)

/-- A property that every step keeps is one that every run keeps. -/
theorem run_keeps {step : σ → ℓ → Option σ} {holds : σ → Prop}
    (kept : ∀ state label next, holds state → step state label = some next → holds next) :
    ∀ {state labels final}, holds state → run step state labels = some final → holds final := by
  -- The induction is on the labels, for every state that they may start in.
  intro state labels
  induction labels generalizing state with
  | nil =>
    intro final holding reached
    cases reached
    exact holding
  | cons label labels ih =>
    intro final holding reached
    obtain ⟨next, stepped, reached⟩ := run_cons_eq_some.mp reached
    exact ih (kept state label next holding stepped) reached

/--
A run shows a property throughout exactly when it is guarded, if the guard is what a step needs to
show the property and what keeps an invariant that gives it.
-/
theorem run_always_iff_of {step : σ → ℓ → Option σ} {guard : σ → ℓ → Prop}
    {invariant holds : σ → Prop} (shows : ∀ state, invariant state → holds state)
    (needs : ∀ state label next, invariant state → step state label = some next →
      holds next → guard state label)
    (keeps : ∀ state label next, invariant state → step state label = some next →
      guard state label → invariant next) :
    ∀ {state labels final}, invariant state → run step state labels = some final →
      ((∀ taken middle, run step state (labels.take taken) = some middle → holds middle) ↔
        Guarded step guard state labels) := by
  intro state labels
  induction labels generalizing state with
  | nil =>
    intro final kept _
    -- The only state of an empty run is the one it starts in.
    simp only [List.take_nil, run, Option.some.injEq, Guarded, iff_true]
    rintro _ middle rfl
    exact shows _ kept
  | cons label labels ih =>
    intro final kept reached
    obtain ⟨next, stepped, reached⟩ := run_cons_eq_some.mp reached
    constructor
    · intro always
      -- The state behind the first step is one of those that are reached.
      have here : holds next := always 1 next (by simp [run, stepped])
      have first : guard state label := needs state label next kept stepped here
      have later : ∀ taken middle, run step next (labels.take taken) = some middle →
          holds middle := by
        intro taken middle arrived
        exact always (taken + 1) middle (by rw [List.take_succ_cons, run_cons stepped, arrived])
      exact .cons stepped first ((ih (keeps state label next kept stepped first) reached).mp later)
    · intro guarded
      have behind := keeps state label next kept stepped guarded.1
      intro taken middle arrived
      cases taken with
      | zero =>
        simp only [List.take_zero, run, Option.some.injEq] at arrived
        exact arrived ▸ shows state kept
      | succ taken =>
        rw [List.take_succ_cons, run_cons stepped] at arrived
        exact (ih behind reached).mpr (guarded.tail stepped) taken middle arrived

/--
Where a step keeps a property exactly under the guard, a run keeps it throughout exactly when it
is guarded.
-/
theorem run_always_iff {step : σ → ℓ → Option σ} {guard : σ → ℓ → Prop} {holds : σ → Prop}
    (exact : ∀ state label next, holds state → step state label = some next →
      (holds next ↔ guard state label)) :
    ∀ {state labels final}, holds state → run step state labels = some final →
      ((∀ taken middle, run step state (labels.take taken) = some middle → holds middle) ↔
        Guarded step guard state labels) :=
  run_always_iff_of (fun _ held => held)
    (fun state label next held stepped => (exact state label next held stepped).mp)
    (fun state label next held stepped => (exact state label next held stepped).mpr)

end Zradar
