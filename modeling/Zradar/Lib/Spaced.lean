import Mathlib.Tactic

/-! Readings that keep a distance from each other, the latest one first. -/

namespace Zradar

variable {readings : List Nat} {gap start span : Nat}

/-- Each reading is at least the gap above every earlier one. -/
def Spaced (gap : Nat) (readings : List Nat) : Prop :=
  readings.Pairwise fun later earlier => earlier + gap ≤ later

theorem Spaced.filter (spaced : Spaced gap readings) (chosen : Nat → Bool) :
    Spaced gap (readings.filter chosen) :=
  List.Pairwise.sublist List.filter_sublist spaced

/-- The latest of some readings is as many gaps above the lower bound as there are others. -/
theorem Spaced.length_mul_le {last : Nat} (spaced : Spaced gap (last :: readings))
    (above : ∀ reading ∈ readings, start ≤ reading) (begun : start ≤ last) :
    start + readings.length * gap ≤ last := by
  -- The one before the last has the same distance from the others.
  induction readings generalizing last with
  | nil => simpa using begun
  | cons before readings ih =>
    obtain ⟨far, rest⟩ := List.pairwise_cons.mp spaced
    obtain ⟨here, others⟩ := List.forall_mem_cons.mp above
    have reached : start + readings.length * gap ≤ before := ih rest others here
    have apart : before + gap ≤ last := far before List.mem_cons_self
    rw [List.length_cons, Nat.succ_mul]
    omega

/-- A window holds one reading for each gap that fits into it, and one more. -/
theorem Spaced.length_le (spaced : Spaced gap readings) (some_gap : 0 < gap)
    (within : ∀ reading ∈ readings, start ≤ reading ∧ reading ≤ start + span) :
    readings.length ≤ span / gap + 1 := by
  cases readings with
  | nil => simp
  | cons last readings =>
    obtain ⟨⟨begun, ended⟩, others⟩ := List.forall_mem_cons.mp within
    have reached := spaced.length_mul_le (fun reading member => (others reading member).1) begun
    -- The gaps between the readings lie in the window.
    have fits : readings.length ≤ span / gap :=
      (Nat.le_div_iff_mul_le some_gap).mpr (by omega)
    simpa using fits

end Zradar
