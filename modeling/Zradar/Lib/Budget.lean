import Mathlib.Tactic

/-! The items of a list up to the first one that a budget does not pay for. -/

namespace Zradar.Budget

variable {α : Type} (cost : α → Nat)

/-- What some items cost together. -/
def total (items : List α) : Nat := (items.map cost).sum

/-- The items up to the first one that does not fit beside what is used. -/
def fitting (budget : Nat) : Nat → List α → List α
  | _, [] => []
  | used, item :: items =>
    if used + cost item > budget then [] else item :: fitting budget (used + cost item) items

variable {cost} {budget used : Nat}

@[simp] theorem total_nil : total cost [] = 0 := rfl

@[simp] theorem total_cons (item : α) (items : List α) :
    total cost (item :: items) = cost item + total cost items := by
  simp [total]

theorem total_append (items others : List α) :
    total cost (items ++ others) = total cost items + total cost others := by
  simp [total]

theorem fitting_prefix (items : List α) : fitting cost budget used items <+: items := by
  -- An item that does not fit ends the prefix.
  induction items generalizing used with
  | nil => exact List.nil_prefix
  | cons item items ih =>
    rw [fitting]
    split
    · exact List.nil_prefix
    · exact (List.prefix_cons_inj item).mpr ih

/-- What fits is paid for. -/
theorem total_fitting (paid : used ≤ budget) (items : List α) :
    used + total cost (fitting cost budget used items) ≤ budget := by
  -- The first item that does not fit ends the list, and each before it was paid for.
  induction items generalizing used with
  | nil => simpa [fitting] using paid
  | cons item items ih =>
    rw [fitting]
    split
    · simpa using paid
    · have rest : used + cost item + total cost (fitting cost budget (used + cost item) items) ≤
          budget := ih (by omega)
      rw [total_cons]
      omega

/-- Everything fits exactly if the budget pays for all of it. -/
theorem fitting_eq_self (paid : used ≤ budget) (items : List α) :
    fitting cost budget used items = items ↔ used + total cost items ≤ budget := by
  -- The costs that are still to come do not make up for one that is too much.
  induction items generalizing used with
  | nil => simpa [fitting] using paid
  | cons item items ih =>
    rw [fitting, total_cons]
    split
    · constructor
      · intro same
        cases same
      · intro enough
        omega
    · rw [List.cons.injEq, and_iff_right rfl, ih (by omega), Nat.add_assoc]

end Zradar.Budget
