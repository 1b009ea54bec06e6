import Mathlib.Tactic

/-! Calls that end in a value, in an error value, or in a panic. -/

namespace Zradar

/-- How a call ends: a value, an error handed to the caller, or a panic that unwinds past it. -/
inductive Outcome (ε α : Type) where
  /-- The call returned a value. -/
  | ok (value : α)
  /-- The call returned an error. -/
  | err (error : ε)
  /-- An index, slice or checked operation was out of range. -/
  | panicked
  deriving DecidableEq, Repr

namespace Outcome

variable {ε α β : Type}

/-- Sequencing stops at the first error and at the first panic. -/
def bind (first : Outcome ε α) (next : α → Outcome ε β) : Outcome ε β :=
  match first with
  | .ok value => next value
  | .err error => .err error
  | .panicked => .panicked

instance : Monad (Outcome ε) where
  pure := .ok
  bind := bind

@[simp] theorem pure_eq (value : α) : (pure value : Outcome ε α) = .ok value := rfl

@[simp] theorem ok_bind (value : α) (next : α → Outcome ε β) : (.ok value >>= next) = next value := rfl

@[simp] theorem err_bind (error : ε) (next : α → Outcome ε β) :
    ((.err error : Outcome ε α) >>= next) = .err error := rfl

@[simp] theorem panicked_bind (next : α → Outcome ε β) :
    ((.panicked : Outcome ε α) >>= next) = .panicked := rfl

/-- A successful sequence is a successful first call followed by a successful second one. -/
theorem bind_eq_ok {first : Outcome ε α} {next : α → Outcome ε β} {result : β} :
    (first >>= next) = .ok result ↔ ∃ value, first = .ok value ∧ next value = .ok result := by
  -- Only the value constructor lets the second call run at all.
  cases first with
  | ok value => simp
  | err error => simp
  | panicked => simp

/-- A sequence that ends in a plain value panics exactly when its first call does. -/
theorem bind_pure_eq_panicked {first : Outcome ε α} {value : α → β} :
    (first >>= fun result => pure (value result)) = .panicked ↔ first = .panicked := by
  cases first with
  | ok result => simp
  | err error => simp
  | panicked => simp

end Outcome

end Zradar
