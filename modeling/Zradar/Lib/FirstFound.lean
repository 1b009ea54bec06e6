import Mathlib.Tactic

/-! The first value of a list that is not the least one, against the greatest of the list. -/

namespace Zradar

variable {β : Type} [LinearOrder β] [OrderBot β]

/-- The first value above the least one, or the least one if there is none. -/
def firstFound : List β → β
  | [] => ⊥
  | value :: rest => if value = ⊥ then firstFound rest else value

/-- The greatest value of a list. -/
def greatest (values : List β) : β := values.foldr max ⊥

/-- Nothing behind the first value above the least one is greater than that value. -/
def FirstIsGreatest (values : List β) : Prop :=
  ∀ before value after, values = before ++ value :: after → (∀ other ∈ before, other = ⊥) →
    value ≠ ⊥ → ∀ other ∈ after, other ≤ value

@[simp] theorem greatest_cons (value : β) (rest : List β) :
    greatest (value :: rest) = max value (greatest rest) :=
  rfl

theorem greatest_le_iff {values : List β} {bound : β} :
    greatest values ≤ bound ↔ ∀ value ∈ values, value ≤ bound := by
  induction values with
  | nil => simp [greatest]
  | cons value rest ih => simp [ih]

theorem firstIsGreatest_cons_bot (rest : List β) :
    FirstIsGreatest ((⊥ : β) :: rest) ↔ FirstIsGreatest rest := by
  constructor
  · rintro first before value after rfl least above
    exact first (⊥ :: before) value after rfl (by simpa using least) above
  · intro first before value after same least above
    -- The least value at the front is not the one that is found.
    cases before with
    | nil =>
      cases same
      exact absurd rfl above
    | cons head before =>
      cases same
      exact first before value after rfl (fun other member => least other (by simp [member])) above

theorem firstIsGreatest_cons_of_ne {value : β} (above : value ≠ ⊥) (rest : List β) :
    FirstIsGreatest (value :: rest) ↔ ∀ other ∈ rest, other ≤ value := by
  -- A first value that is no bottom is the one that is found.
  constructor
  · intro first
    exact first [] value rest rfl (by simp) above
  · intro bounded before other after same least _
    cases before with
    | nil =>
      cases same
      exact bounded
    | cons head before =>
      cases same
      exact absurd (least value (by simp)) above

/-- The first value above the least one is the greatest exactly when none behind it is greater. -/
theorem firstFound_eq_greatest_iff (values : List β) :
    firstFound values = greatest values ↔ FirstIsGreatest values := by
  -- Values at the bottom are skipped, so only the first other value matters.
  induction values with
  | nil => simp [firstFound, greatest, FirstIsGreatest]
  | cons value rest ih =>
    by_cases least : value = ⊥
    · subst least
      rw [firstIsGreatest_cons_bot, ← ih]
      simp [firstFound]
    · rw [firstIsGreatest_cons_of_ne least, ← greatest_le_iff]
      simp only [firstFound, least, if_false, greatest_cons]
      constructor
      · intro same
        rw [same]
        exact le_max_right _ _
      · intro bounded
        exact (max_eq_left bounded).symm

end Zradar
