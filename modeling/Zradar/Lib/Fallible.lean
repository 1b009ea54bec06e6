import Mathlib.Data.List.Forall2
import Mathlib.Tactic

/-! Steps that may fail with an error, one after another and along a list. -/

namespace Zradar.Fallible

variable {ε α β : Type}

/-- A sequence succeeds if its first step does, and then its second. -/
theorem bind_eq_ok {first : Except ε α} {next : α → Except ε β} {result : β} :
    (first >>= next) = .ok result ↔ ∃ value, first = .ok value ∧ next value = .ok result := by
  -- Only a value lets the second step run.
  cases first with
  | ok value => simp [bind, Except.bind]
  | error error => simp [bind, Except.bind]

/-- Another name for the error leaves the values as they are. -/
theorem mapError_eq_ok {δ : Type} {rename : ε → δ} {action : Except ε α} {result : α} :
    action.mapError rename = .ok result ↔ action = .ok result := by
  -- A value has no error to be renamed.
  cases action with
  | ok value => simp [Except.mapError]
  | error error => simp [Except.mapError]

/-- A pass succeeds exactly with one output for each input. -/
theorem mapM_eq_ok {action : α → Except ε β} {inputs : List α} {outputs : List β} :
    inputs.mapM action = .ok outputs ↔
      List.Forall₂ (fun input output => action input = .ok output) inputs outputs := by
  -- The outputs come one by one, and the first error ends the pass.
  induction inputs generalizing outputs with
  | nil => simp [pure, Except.pure, eq_comm]
  | cons input inputs ih =>
    rw [List.mapM_cons, bind_eq_ok, List.forall₂_cons_left_iff]
    constructor
    · rintro ⟨output, first, rest⟩
      obtain ⟨others, later, same⟩ := bind_eq_ok.mp rest
      cases same
      exact ⟨output, others, first, ih.mp later, rfl⟩
    · rintro ⟨output, others, first, later, rfl⟩
      exact ⟨output, first, bind_eq_ok.mpr ⟨others, ih.mpr later, rfl⟩⟩

/-- Each output of a pass is that of an input, and each input has one. -/
theorem mem_of_mapM {action : α → Except ε β} {inputs : List α} {outputs : List β}
    (passed : inputs.mapM action = .ok outputs) :
    (∀ output ∈ outputs, ∃ input ∈ inputs, action input = .ok output) ∧
      ∀ input ∈ inputs, ∃ output ∈ outputs, action input = .ok output := by
  -- The lists go side by side.
  induction mapM_eq_ok.mp passed with
  | nil => simp
  | @cons input output inputs outputs here rest ih =>
    obtain ⟨back, forth⟩ := ih (mapM_eq_ok.mpr rest)
    constructor
    · refine List.forall_mem_cons.mpr ⟨⟨input, List.mem_cons_self, here⟩, fun other member => ?_⟩
      obtain ⟨source, among, made⟩ := back other member
      exact ⟨source, List.mem_cons_of_mem _ among, made⟩
    · refine List.forall_mem_cons.mpr ⟨⟨output, List.mem_cons_self, here⟩, fun other member => ?_⟩
      obtain ⟨result, among, made⟩ := forth other member
      exact ⟨result, List.mem_cons_of_mem _ among, made⟩

/-- A pass gives expected outputs exactly when it gives each of them. -/
theorem mapM_eq_ok_iff {action : α → Except ε β} {expected : α → β} {inputs : List α} :
    inputs.mapM action = .ok (inputs.map expected) ↔
      ∀ input ∈ inputs, action input = .ok (expected input) := by
  rw [mapM_eq_ok, List.forall₂_map_right_iff, List.forall₂_same]

/-- A pass whose steps accept some inputs and convert them does so as a whole. -/
theorem mapM_eq_ok_map {action : α → Except ε β} {accepts : α → Prop} {convert : α → β}
    (each : ∀ input output, action input = .ok output ↔ accepts input ∧ output = convert input)
    {inputs : List α} {outputs : List β} :
    inputs.mapM action = .ok outputs ↔
      (∀ input ∈ inputs, accepts input) ∧ outputs = inputs.map convert := by
  -- What a step accepts and what it returns part along the whole list.
  have converted : List.Forall₂ (fun input output => output = convert input) inputs outputs ↔
      outputs = inputs.map convert := by
    rw [eq_comm, ← List.forall₂_eq_eq_eq, List.forall₂_map_left_iff]
    simp only [eq_comm]
  rw [mapM_eq_ok]
  simp only [each]
  rw [List.forall₂_and_left, converted]

/-- Checks along a list pass exactly when each of them does. -/
theorem forM_eq_ok {check : α → Except ε Unit} {inputs : List α} :
    inputs.forM check = .ok () ↔ ∀ input ∈ inputs, check input = .ok () := by
  -- The first check that fails ends the pass.
  induction inputs with
  | nil => simp [pure, Except.pure]
  | cons input inputs ih =>
    show (check input >>= fun _ => inputs.forM check) = .ok () ↔ _
    rw [bind_eq_ok, List.forall_mem_cons, ih]
    exact ⟨fun ⟨_, first, rest⟩ => ⟨first, rest⟩, fun ⟨first, rest⟩ => ⟨(), first, rest⟩⟩

end Zradar.Fallible
