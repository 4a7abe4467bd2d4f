import GoodixSpi.Lib.Checked
import GoodixSpi.Lib.SignedRange
import Mathlib.Algebra.Order.Group.Unbundled.Int
import Mathlib.Data.Nat.Size
import Mathlib.Tactic.Linarith

/-! Arithmetic in a signed type, which fails where the result does not fit, where a divisor is zero
and where a value is shifted by as many bits as it has. A rule for each operation bounds the result
by the bounds of the operands. -/

namespace Signed

open CArithmetic Checked

variable {bits : ℕ} {a b m n p : ℤ}

def fit (bits : ℕ) (value : ℤ) : Option ℤ := if FitsIn bits value then some value else none

def add (bits : ℕ) (a b : ℤ) : Option ℤ := fit bits (a + b)

def sub (bits : ℕ) (a b : ℤ) : Option ℤ := fit bits (a - b)

def mul (bits : ℕ) (a b : ℤ) : Option ℤ := fit bits (a * b)

def neg (bits : ℕ) (a : ℤ) : Option ℤ := fit bits (-a)

def divide (bits : ℕ) (a b : ℤ) : Option ℤ := if b = 0 then none else fit bits (quotient a b)

def shift (bits : ℕ) (a : ℤ) (amount : ℕ) : Option ℤ :=
  if amount < bits then some (shiftRight a amount) else none

/-! ### One operation -/

lemma returns_fit (within : |a| ≤ m) (room : m < 2 ^ (bits - 1)) :
    Returns (fit bits a) fun out => out = a ∧ |out| ≤ m := by
  rw [fit, if_pos (fitsIn_of_abs_lt (within.trans_lt room))]
  exact .some ⟨rfl, within⟩

lemma returns_add (ha : |a| ≤ m) (hb : |b| ≤ n) (room : m + n < 2 ^ (bits - 1)) :
    Returns (add bits a b) fun out => out = a + b ∧ |out| ≤ m + n :=
  returns_fit ((abs_add_le a b).trans (add_le_add ha hb)) room

lemma returns_sub (ha : |a| ≤ m) (hb : |b| ≤ n) (room : m + n < 2 ^ (bits - 1)) :
    Returns (sub bits a b) fun out => out = a - b ∧ |out| ≤ m + n :=
  returns_fit ((abs_sub a b).trans (add_le_add ha hb)) room

lemma returns_mul (within : |a * b| ≤ p) (room : p < 2 ^ (bits - 1)) :
    Returns (mul bits a b) fun out => out = a * b ∧ |out| ≤ p :=
  returns_fit within room

lemma returns_neg (ha : |a| ≤ m) (room : m < 2 ^ (bits - 1)) :
    Returns (neg bits a) fun out => out = -a ∧ |out| ≤ m :=
  returns_fit ((abs_neg a).trans_le ha) room

lemma returns_shift {amount : ℕ} (few : amount < bits) :
    Returns (shift bits a amount) fun out => out = shiftRight a amount := by
  rw [shift, if_pos few]
  exact .some rfl

/-- A quotient is bounded by how often the divisor has room in the dividend. -/
lemma abs_quotient_le_of_mul (nonzero : b ≠ 0) (within : |a| ≤ m * |b|) : |quotient a b| ≤ m := by
  have positive : 0 < |b| := abs_pos.mpr nonzero
  have magnitude : |quotient a b| = |a| / |b| := by
    rw [Int.abs_eq_natAbs, Int.abs_eq_natAbs, Int.abs_eq_natAbs, quotient, Int.natAbs_tdiv]
    rfl
  rw [magnitude]
  exact Int.ediv_le_of_le_mul positive within

lemma returns_divide (nonzero : b ≠ 0) (within : |a| ≤ m * |b|) (room : m < 2 ^ (bits - 1)) :
    Returns (divide bits a b) fun out => out = quotient a b ∧ |out| ≤ m := by
  rw [divide, if_neg nonzero]
  exact returns_fit (abs_quotient_le_of_mul nonzero within) room

/-! ### Shifts -/

/-- A power of two that is shifted loses the exponent. -/
lemma shiftRight_pow {exponent amount : ℕ} (few : amount ≤ exponent) :
    shiftRight (2 ^ exponent) amount = 2 ^ (exponent - amount) := by
  have split : (2 : ℤ) ^ exponent = 2 ^ (exponent - amount) * 2 ^ amount := by
    rw [← pow_add, Nat.sub_add_cancel few]
  rw [shiftRight, split]
  exact Int.mul_ediv_cancel _ (by positivity)

lemma shiftRight_neg_pow {exponent amount : ℕ} (few : amount ≤ exponent) :
    shiftRight (-2 ^ exponent) amount = -2 ^ (exponent - amount) := by
  have divides : (2 : ℤ) ^ amount ∣ 2 ^ exponent := pow_dvd_pow 2 few
  have whole := shiftRight_pow few
  rw [shiftRight] at whole ⊢
  rw [Int.neg_ediv_of_dvd divides, whole]

lemma shiftRight_mono {amount : ℕ} (le : a ≤ b) : shiftRight a amount ≤ shiftRight b amount :=
  Int.ediv_le_ediv (by positivity) le

lemma abs_shiftRight_le {exponent amount : ℕ} (few : amount ≤ exponent)
    (within : |a| ≤ 2 ^ exponent) : |shiftRight a amount| ≤ 2 ^ (exponent - amount) := by
  obtain ⟨low, high⟩ := abs_le.mp within
  apply abs_le.mpr
  constructor
  · rw [← shiftRight_neg_pow few]
    exact shiftRight_mono low
  · rw [← shiftRight_pow few]
    exact shiftRight_mono high

/-- The highest bit stays where the shift is not longer than what is below it. -/
lemma le_abs_shiftRight {exponent amount : ℕ} (few : amount ≤ exponent)
    (large : 2 ^ exponent ≤ |a|) : 2 ^ (exponent - amount) ≤ |shiftRight a amount| := by
  rcases le_abs.mp large with above | below
  · apply le_abs.mpr
    left
    rw [← shiftRight_pow few]
    exact shiftRight_mono above
  · apply le_abs.mpr
    right
    have shifted : shiftRight a amount ≤ shiftRight (-2 ^ exponent) amount :=
      shiftRight_mono (by omega)
    rw [shiftRight_neg_pow few] at shifted
    omega

end Signed
