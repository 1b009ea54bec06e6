import Mathlib.Tactic

/-! Arithmetic on fixed-width integers that stops at the ends of the range. -/

namespace Zradar.Saturating

/-- The 64-bit integer closest to a number. -/
def toI64 (value : Int) : Int64 :=
  Int64.ofInt (max (-2 ^ 63) (min (2 ^ 63 - 1) value))

def add (first second : Int64) : Int64 := toI64 (first.toInt + second.toInt)

def sub (first second : Int64) : Int64 := toI64 (first.toInt - second.toInt)

def mul (first second : Int64) : Int64 := toI64 (first.toInt * second.toInt)

/-- The sum of two natural numbers below `2^64`, or the largest of these. -/
def addU64 (first second : UInt64) : UInt64 :=
  UInt64.ofNat (min (2 ^ 64 - 1) (first.toNat + second.toNat))

@[simp] theorem toI64_toInt (value : Int) :
    (toI64 value).toInt = max (-2 ^ 63) (min (2 ^ 63 - 1) value) := by
  apply Int64.toInt_ofInt_of_le <;> omega

/-- A sum of numbers that are not negative is exact below the upper end. -/
theorem add_toInt_of_lt {first second : Int64} (positive : 0 ≤ first.toInt + second.toInt)
    (below : first.toInt + second.toInt < 2 ^ 63) :
    (add first second).toInt = first.toInt + second.toInt := by
  rw [add, toI64_toInt]
  omega

@[simp] theorem addU64_toNat (first second : UInt64) :
    (addU64 first second).toNat = min (2 ^ 64 - 1) (first.toNat + second.toNat) := by
  rw [addU64, UInt64.toNat_ofNat_of_lt']
  simp only [UInt64.size]
  omega

/-- A sum that stops at the upper end is the exact one, cut off once. -/
theorem foldl_add_toInt {α : Type} (value : α → Int64) (exact : α → Int) (items : List α)
    (reads : ∀ item ∈ items, 0 ≤ exact item ∧
      (value item).toInt = min (2 ^ 63 - 1) (exact item)) (start : Int64) (sum : Int)
    (positive : 0 ≤ sum) (begun : start.toInt = min (2 ^ 63 - 1) sum) :
    (items.foldl (fun total item => add total (value item)) start).toInt =
      min (2 ^ 63 - 1) (sum + (items.map exact).sum) := by
  induction items generalizing start sum with
  | nil => simpa using begun
  | cons item items ih =>
    obtain ⟨here, read⟩ := reads item List.mem_cons_self
    have rest := fun other member => reads other (List.mem_cons_of_mem item member)
    rw [List.foldl_cons, ih rest _ (sum + exact item) (by omega)]
    · simp [add_assoc]
    · -- Whatever is cut off now would be cut off at the end as well.
      simp only [add, toI64_toInt, begun, read]
      omega

/-- A sum of counts that stops at the upper end is the exact one, cut off once. -/
theorem foldl_addU64_toNat {α : Type} (value : α → UInt64) (items : List α) (start : UInt64)
    (sum : Nat) (begun : start.toNat = min (2 ^ 64 - 1) sum) :
    (items.foldl (fun total item => addU64 total (value item)) start).toNat =
      min (2 ^ 64 - 1) (sum + (items.map fun item => (value item).toNat).sum) := by
  -- Once the total has reached the limit it stays there, as the minimum does.
  induction items generalizing start sum with
  | nil => simpa using begun
  | cons item items ih =>
    have small := (value item).toNat_lt
    rw [List.foldl_cons, ih _ (sum + (value item).toNat)]
    · simp [add_assoc]
    · rw [addU64_toNat, begun]
      omega

end Zradar.Saturating
