import Mathlib.Tactic

/-! Effects that run one after the other until one of them fails. -/

namespace Zradar

variable {σ β ε : Type}

/-- Run an effect on each item in turn, up to the first error. -/
def attemptAll (call : β → σ → σ × Except ε Unit) : List β → σ → σ × Except ε Unit
  | [], state => (state, .ok ())
  | item :: items, state =>
    match call item state with
    | (next, .error error) => (next, .error error)
    | (next, .ok ()) => attemptAll call items next

/-- The same effect, keeping a list of the items it was called with. -/
def logged (call : β → σ → σ × Except ε Unit) (item : β) (state : σ × List β) :
    (σ × List β) × Except ε Unit :=
  let (next, result) := call item state.1
  ((next, state.2 ++ [item]), result)

/-- Effects that all succeed were called with all of the items. -/
theorem attemptAll_logged {call : β → σ → σ × Except ε Unit} {items : List β}
    {state final : σ × List β}
    (succeeded : attemptAll (logged call) items state = (final, .ok ())) :
    final.2 = state.2 ++ items := by
  -- A successful attempt has gone through the items one after another.
  induction items generalizing state with
  | nil =>
    cases succeeded
    simp
  | cons item items ih =>
    rw [attemptAll] at succeeded
    split at succeeded
    · cases succeeded
    · rename_i next called
      have logs : next.2 = state.2 ++ [item] := by
        rw [← (Prod.mk.inj called).1]
      rw [ih succeeded, logs, List.append_assoc, List.singleton_append]

/-- An effect that never fails runs on all of the items. -/
theorem attemptAll_ok {call : β → σ → σ × Except ε Unit}
    (succeeds : ∀ item state, (call item state).2 = .ok ()) (items : List β) (state : σ) :
    (attemptAll call items state).2 = .ok () := by
  -- No item can stop an attempt whose calls all succeed.
  induction items generalizing state with
  | nil => rfl
  | cons item items ih =>
    rw [attemptAll]
    have answer := succeeds item state
    split
    · rename_i next error failed
      rw [failed] at answer
      cases answer
    · exact ih _

/-- Running a list of effects for each item is running all of their lists in a row. -/
theorem attemptAll_flatMap {γ : Type} (call : β → σ → σ × Except ε Unit) (parts : γ → List β)
    (items : List γ) (state : σ) :
    attemptAll (fun item => attemptAll call (parts item)) items state =
      attemptAll call (items.flatMap parts) state := by
  have append (first second : List β) (state : σ) : attemptAll call (first ++ second) state =
      match attemptAll call first state with
      | (next, .error error) => (next, .error error)
      | (next, .ok ()) => attemptAll call second next := by
    induction first generalizing state with
    | nil => rfl
    | cons item first ih =>
      rw [List.cons_append, attemptAll, attemptAll]
      cases call item state with
      | mk next result =>
        cases result with
        | error error => rfl
        | ok done => exact ih next
  induction items generalizing state with
  | nil => rfl
  | cons item items ih =>
    rw [List.flatMap_cons, append, attemptAll]
    -- Behind the first list, both sides go on with the rest or stop.
    cases attemptAll call (parts item) state with
    | mk next result =>
      cases result with
      | error error => rfl
      | ok done => exact ih next

end Zradar
