import Mathlib.Tactic

/-! A semaphore whose permits are taken without waiting, and given back by those who hold them. -/

namespace Zradar

/-- A semaphore, with the number of its permits and of the ones that are free. -/
structure Permits where
  most : Nat
  available : Nat

namespace Permits

def new (most : Nat) : Permits := ⟨most, most⟩

/-- Take a permit if one is free. -/
def tryAcquire (permits : Permits) : Option Permits :=
  if 0 < permits.available then some { permits with available := permits.available - 1 } else none

def release (permits : Permits) : Permits := { permits with available := permits.available + 1 }

/-- Every permit is free or held. -/
def Balanced (permits : Permits) (held : Nat) : Prop := held + permits.available = permits.most

variable {permits next : Permits} {held : Nat}

theorem new_balanced (most : Nat) : (new most).Balanced 0 := Nat.zero_add most

theorem Balanced.acquire (balanced : permits.Balanced held)
    (acquired : permits.tryAcquire = some next) :
    next.Balanced (held + 1) ∧ next.most = permits.most := by
  unfold tryAcquire at acquired
  split at acquired
  · rename_i free
    cases acquired
    refine ⟨?_, rfl⟩
    -- The permit that was free is held now.
    unfold Balanced at balanced ⊢
    simp only
    omega
  · cases acquired

theorem Balanced.release (balanced : permits.Balanced (held + 1)) :
    permits.release.Balanced held := by
  unfold Balanced Permits.release at *
  simp only
  omega

/-- No permit can be taken exactly when all of them are held. -/
theorem Balanced.tryAcquire_eq_none (balanced : permits.Balanced held) :
    permits.tryAcquire = none ↔ held = permits.most := by
  unfold Balanced at balanced
  simp [tryAcquire]
  omega

theorem Balanced.held_le (balanced : permits.Balanced held) : held ≤ permits.most := by
  unfold Balanced at balanced
  omega

end Permits

end Zradar
