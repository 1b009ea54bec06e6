import Mathlib.Tactic

/-! Fixed-width big-endian words and the numbers they denote. -/

namespace Zradar

/-- A byte string. -/
abbrev Bytes := List UInt8

/-- The low bytes of a number at a fixed width, most significant byte first. -/
def encodeBe : Nat → Nat → Bytes
  | 0, _ => []
  | width + 1, value => encodeBe width (value / 256) ++ [UInt8.ofNat value]

/-- The number a byte string denotes, most significant byte first. -/
def decodeBe (data : Bytes) : Nat :=
  data.foldl (fun value byte => 256 * value + byte.toNat) 0

@[simp] theorem encodeBe_length (width value : Nat) : (encodeBe width value).length = width := by
  -- Each step appends one byte, whatever is left of the value.
  induction width generalizing value with
  | zero => rfl
  | succ width ih => simp [encodeBe, ih]

@[simp] theorem decodeBe_nil : decodeBe [] = 0 := rfl

/-- Appending a byte shifts the earlier digits up by one place. -/
theorem decodeBe_concat (front : Bytes) (byte : UInt8) :
    decodeBe (front ++ [byte]) = 256 * decodeBe front + byte.toNat := by
  simp [decodeBe]

/-- Reading a word back gives the value reduced to the word's range. -/
theorem decodeBe_encodeBe (width value : Nat) :
    decodeBe (encodeBe width value) = value % 256 ^ width := by
  induction width generalizing value with
  | zero => simp [encodeBe, Nat.mod_one]
  | succ width ih =>
    rw [encodeBe, decodeBe_concat, ih]
    -- The appended byte holds the low digit, and the earlier bytes hold the quotient by 256.
    have digits : value % (256 * 256 ^ width) = value % 256 + 256 * (value / 256 % 256 ^ width) :=
      Nat.mod_mul
    simp only [Nat.pow_succ', digits, UInt8.toNat_ofNat']
    omega

/-- A value inside the word's range survives being written and read. -/
theorem decodeBe_encodeBe_of_lt {width value : Nat} (bound : value < 256 ^ width) :
    decodeBe (encodeBe width value) = value := by
  rw [decodeBe_encodeBe, Nat.mod_eq_of_lt bound]

/-- Every byte string is the word of the number it denotes. -/
theorem encodeBe_decodeBe {width : Nat} {data : Bytes} (sized : data.length = width) :
    encodeBe width (decodeBe data) = data := by
  induction width generalizing data with
  | zero => rw [List.eq_nil_of_length_eq_zero sized, encodeBe]
  | succ width ih =>
    rcases List.eq_nil_or_concat data with rfl | ⟨front, byte, rfl⟩
    · simp at sized
    · -- The last byte is the low digit, and the others denote the quotient by 256.
      have front_sized : front.length = width := by simpa using sized
      have small : byte.toNat < 256 := byte.toNat_lt
      have quotient : (256 * decodeBe front + byte.toNat) / 256 = decodeBe front := by omega
      have digit : UInt8.ofNat (256 * decodeBe front + byte.toNat) = byte := by
        apply UInt8.toNat_inj.mp
        rw [UInt8.toNat_ofNat']
        omega
      rw [List.concat_eq_append, decodeBe_concat, encodeBe, quotient, digit, ih front_sized]

theorem decodeBe_lt (data : Bytes) : decodeBe data < 256 ^ data.length := by
  have word := decodeBe_encodeBe data.length (decodeBe data)
  rw [encodeBe_decodeBe rfl] at word
  rw [word]
  exact Nat.mod_lt _ (Nat.pow_pos (by decide))

/-- Trailing zero bytes multiply by a power of 256. -/
theorem decodeBe_append_zeros (front : Bytes) (count : Nat) :
    decodeBe (front ++ List.replicate count 0) = 256 ^ count * decodeBe front := by
  -- Every zero byte at the end multiplies the number by 256.
  induction count with
  | zero => simp
  | succ count ih =>
    rw [List.replicate_succ', ← List.append_assoc, decodeBe_concat, ih, Nat.pow_succ',
      Nat.mul_assoc]
    rfl

/-- A word of zero bytes denotes zero. -/
theorem decodeBe_zeros (count : Nat) : decodeBe (List.replicate count 0) = 0 := by
  simpa using decodeBe_append_zeros [] count

end Zradar
