import Mathlib.Tactic

/-! A flag that one task at a time raises, holds and lowers, and what an abandoned task leaves. -/

namespace Zradar

variable {ι : Type}

/-- A flag, and the tasks that hold it. -/
structure Flight (ι : Type) where
  flag : Bool
  holds : ι → Prop

namespace Flight

variable {before after : Flight ι}

/-- A flag that is raised is held by some task. -/
def Owned (flight : Flight ι) : Prop := flight.flag = true → ∃ task, flight.holds task

/-- At most one task holds the flag, which is raised while one does. -/
structure Single (flight : Flight ι) : Prop where
  unique : ∀ first second, flight.holds first → flight.holds second → first = second
  raised : ∀ task, flight.holds task → flight.flag = true

/-- What a task can do to the flag. -/
inductive Step (before after : Flight ι) : Prop where
  | keep (flag : after.flag = before.flag)
      (holds : ∀ task, after.holds task ↔ before.holds task)
  | acquire (owner : ι) (free : before.flag = false) (raised : after.flag = true)
      (holds : ∀ task, after.holds task ↔ task = owner ∨ before.holds task)
  | release (owner : ι) (held : before.holds owner) (lowered : after.flag = false)
      (holds : ∀ task, after.holds task ↔ task ≠ owner ∧ before.holds task)

/-- A step leaves a raised flag to some task. -/
theorem Step.owned (step : Step before after) (owned : before.Owned) : after.Owned := by
  -- A raised flag was raised by a task, which holds it until it lowers it again.
  intro raised
  cases step with
  | keep flag holds =>
    obtain ⟨task, held⟩ := owned (flag ▸ raised)
    exact ⟨task, (holds task).mpr held⟩
  | acquire owner free _ holds => exact ⟨owner, (holds owner).mpr (.inl rfl)⟩
  | release owner held lowered holds =>
    rw [lowered] at raised
    exact nomatch raised

/-- A step leaves the flag to at most one task. -/
theorem Step.single (step : Step before after) (single : before.Single) : after.Single := by
  cases step with
  | keep flag holds =>
    refine ⟨fun first second here there => ?_, fun task held => ?_⟩
    · exact single.unique first second ((holds first).mp here) ((holds second).mp there)
    · rw [flag]
      exact single.raised task ((holds task).mp held)
  | acquire owner free raised holds =>
    -- The flag was free, so no other task holds it.
    have alone : ∀ task, after.holds task → task = owner := by
      intro task held
      obtain same | other := (holds task).mp held
      · exact same
      · have busy := single.raised task other
        rw [free] at busy
        exact nomatch busy
    refine ⟨fun first second here there => ?_, fun _ _ => raised⟩
    rw [alone first here, alone second there]
  | release owner held lowered holds =>
    -- The one task that held the flag is gone.
    have none : ∀ task, ¬ after.holds task := by
      intro task other
      obtain ⟨apart, still⟩ := (holds task).mp other
      exact apart (single.unique task owner still held)
    exact ⟨fun first _ here => absurd here (none first), fun task here => absurd here (none task)⟩

/-- A task that ends without lowering the flag leaves it raised and without an owner. -/
theorem Single.not_owned_of_abandon (single : before.Single) {owner : ι}
    (held : before.holds owner) (flag : after.flag = before.flag)
    (holds : ∀ task, after.holds task ↔ task ≠ owner ∧ before.holds task) : ¬ after.Owned := by
  intro owned
  have raised : after.flag = true := flag.trans (single.raised owner held)
  obtain ⟨task, still⟩ := owned raised
  obtain ⟨apart, other⟩ := (holds task).mp still
  exact apart (single.unique task owner other held)

end Flight

end Zradar
