import Mathlib.Tactic

/-! Two programs over one kind of state, run from the same state and compared by how they end. -/

namespace Zradar

variable {ε δ σ α β : Type}

/-- Both programs end in the same state, with the same result or with errors that are related. -/
def Coupled (errors : ε → δ → Prop) (first : EStateM ε σ α) (second : EStateM δ σ α) (state : σ) :
    Prop :=
  match first state, second state with
  | .ok one left, .ok two right => one = two ∧ left = right
  | .error one left, .error two right => errors one two ∧ left = right
  | _, _ => False

namespace Coupled

variable {errors : ε → δ → Prop} {state : σ}

theorem pure (value : α) :
    Coupled errors (Pure.pure value : EStateM ε σ α) (Pure.pure value) state :=
  ⟨rfl, rfl⟩

theorem throw {one : ε} {two : δ} (related : errors one two) :
    Coupled errors (throw one : EStateM ε σ α) (throw two) state :=
  ⟨related, rfl⟩

/-- Programs that go on alike behind programs that end alike. -/
theorem bind {first : EStateM ε σ α} {second : EStateM δ σ α} {more : α → EStateM ε σ β}
    {further : α → EStateM δ σ β} (start : Coupled errors first second state)
    (rest : ∀ value next, first state = .ok value next → Coupled errors (more value) (further value) next) :
    Coupled errors (first >>= more) (second >>= further) state := by
  -- Both computations go on together, or both end.
  unfold Coupled at start ⊢
  simp only [Bind.bind, EStateM.bind]
  cases one : first state with
  | ok value next =>
    cases two : second state with
    | ok other final =>
      simp only [one, two] at start
      obtain ⟨rfl, rfl⟩ := start
      exact rest value next one
    | error error final => simp [one, two] at start
  | error error next =>
    cases two : second state with
    | ok other final => simp [one, two] at start
    | error other final =>
      simp only [one, two] at start ⊢
      exact start

/-- A program and itself with its errors mapped, if the errors it can end with are related. -/
theorem adapt {change : ε → δ} {program : EStateM ε σ α}
    (related : ∀ error next, program state = .error error next → errors error (change error)) :
    Coupled errors program (program.adaptExcept change) state := by
  -- Only the error is changed, and it is related to the one it came from.
  unfold Coupled EStateM.adaptExcept
  cases ends : program state with
  | ok value next => simp
  | error error next =>
    simp only
    exact ⟨related error next ends, trivial⟩

/-- Programs that are alike are so by a weaker relation too. -/
theorem mono {weaker : ε → δ → Prop} {first : EStateM ε σ α} {second : EStateM δ σ α}
    (alike : Coupled errors first second state) (weakens : ∀ one two, errors one two → weaker one two) :
    Coupled weaker first second state := by
  -- The ends are compared as before, and the errors by the weaker relation.
  unfold Coupled at alike ⊢
  split at alike
  · exact alike
  · exact ⟨weakens _ _ alike.1, alike.2⟩
  · exact alike.elim

/-- Programs that fail with unrelated errors are not alike. -/
theorem not_of_error {first : EStateM ε σ α} {second : EStateM δ σ α} {one : ε} {two : δ}
    {left right : σ} (fails : first state = .error one left) (falls : second state = .error two right)
    (unrelated : ¬ errors one two) : ¬ Coupled errors first second state := by
  -- The relation of the errors is all that is left to compare.
  intro alike
  unfold Coupled at alike
  rw [fails, falls] at alike
  exact unrelated alike.1

end Coupled

/-- A program goes on from where its first part ends. -/
theorem bind_of_ok {program : EStateM ε σ α} {more : α → EStateM ε σ β} {state next : σ} {value : α}
    (ends : program state = .ok value next) : (program >>= more) state = more value next := by
  simp [Bind.bind, EStateM.bind, ends]

/-- A program ends where its first part fails. -/
theorem bind_of_error {program : EStateM ε σ α} {more : α → EStateM ε σ β} {state next : σ}
    {error : ε} (fails : program state = .error error next) :
    (program >>= more) state = .error error next := by
  simp [Bind.bind, EStateM.bind, fails]

theorem adapt_of_ok {program : EStateM ε σ α} (change : ε → δ) {state next : σ} {value : α}
    (ends : program state = .ok value next) : program.adaptExcept change state = .ok value next := by
  simp [EStateM.adaptExcept, ends]

theorem adapt_of_error {program : EStateM ε σ α} (change : ε → δ) {state next : σ} {error : ε}
    (fails : program state = .error error next) :
    program.adaptExcept change state = .error (change error) next := by
  simp [EStateM.adaptExcept, fails]

/-- A program ends with an error. -/
def Fails (program : EStateM ε σ α) (state : σ) : Prop :=
  ∃ error next, program state = .error error next

@[simp] theorem fails_throw (error : ε) (state : σ) : Fails (throw error : EStateM ε σ α) state :=
  ⟨error, state, rfl⟩

@[simp] theorem not_fails_pure (value : α) (state : σ) :
    ¬ Fails (pure value : EStateM ε σ α) state := by
  rintro ⟨error, next, ends⟩
  cases ends

/-- A program fails in its first part, or behind it. -/
theorem fails_bind {program : EStateM ε σ α} {more : α → EStateM ε σ β} {state : σ} :
    Fails (program >>= more) state ↔
      Fails program state ∨ ∃ value next, program state = .ok value next ∧ Fails (more value) next := by
  cases ends : program state with
  | ok value next => simp [Fails, bind_of_ok ends, ends]
  | error error next => simp [Fails, bind_of_error ends, ends]

/-- Of two programs that end alike, either both fail or none. -/
theorem Coupled.fails_iff {errors : ε → δ → Prop} {first : EStateM ε σ α} {second : EStateM δ σ α}
    {state : σ} (alike : Coupled errors first second state) :
    Fails first state ↔ Fails second state := by
  -- One of them cannot end well while the other ends with an error.
  unfold Coupled at alike
  cases one : first state with
  | ok value next =>
    cases two : second state with
    | ok other final => simp [Fails, one, two]
    | error error final => simp [one, two] at alike
  | error error next =>
    cases two : second state with
    | ok other final => simp [one, two] at alike
    | error other final => simp [Fails, one, two]

end Zradar
