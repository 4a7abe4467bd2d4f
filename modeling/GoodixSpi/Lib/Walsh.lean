import GoodixSpi.Lib.CArithmetic
import Mathlib.Algebra.BigOperators.Group.Finset.Basic
import Mathlib.Algebra.Order.BigOperators.Group.Finset
import Mathlib.Algebra.Order.BigOperators.Ring.Finset
import Mathlib.Tactic.Ring

/-! Walsh-Hadamard coefficients. A transform of blocks, followed by one over the blocks, is a
transform of the whole. -/

namespace Walsh

open CArithmetic Finset

/-- One where an even number of digits are set in both, else minus one. -/
def sign : ℕ → ℕ → ℕ → ℤ
  | 0, _, _ => 1
  | digits + 1, row, column =>
    (if row % 2 = 1 ∧ column % 2 = 1 then -1 else 1) * sign digits (row / 2) (column / 2)

def coefficient (digits row : ℕ) (values : ℕ → ℤ) : ℤ :=
  ∑ column ∈ range (2 ^ digits), sign digits row column * values column

variable {row column : ℕ}

lemma sign_succ (digits row column : ℕ) : sign (digits + 1) row column =
    (if row % 2 = 1 ∧ column % 2 = 1 then -1 else 1) * sign digits (row / 2) (column / 2) := rfl

lemma sign_zero (digits row : ℕ) : sign digits row 0 = 1 := by
  induction digits generalizing row with
  | zero => rfl
  | succ digits ih =>
    rw [sign_succ, Nat.zero_div, ih, if_neg (by omega)]
    rfl

lemma sign_eq (digits row column : ℕ) :
    sign digits row column = 1 ∨ sign digits row column = -1 := by
  induction digits generalizing row column with
  | zero => exact .inl rfl
  | succ digits ih =>
    rw [sign_succ]
    rcases ih (row / 2) (column / 2) with one | minus
    · rw [one]
      split
      · exact .inr rfl
      · exact .inl rfl
    · rw [minus]
      split
      · exact .inl rfl
      · exact .inr rfl

lemma abs_sign (digits row column : ℕ) : |sign digits row column| = 1 := by
  rcases sign_eq digits row column with one | minus
  · rw [one]
    rfl
  · rw [minus]
    rfl

/-- The lower digits and the higher ones. -/
lemma sign_add (low high row column : ℕ) : sign (low + high) row column =
    sign low row column * sign high (row / 2 ^ low) (column / 2 ^ low) := by
  induction low generalizing row column with
  | zero =>
    rw [Nat.zero_add, pow_zero, Nat.div_one, Nat.div_one]
    exact (one_mul _).symm
  | succ low ih =>
    rw [Nat.add_right_comm, sign_succ, ih, sign_succ, Nat.div_div_eq_div_mul, Nat.div_div_eq_div_mul,
      ← pow_succ', mul_assoc]

lemma sign_comm (digits row column : ℕ) : sign digits row column = sign digits column row := by
  induction digits generalizing row column with
  | zero => rfl
  | succ digits ih => simp only [sign_succ, ih, and_comm]

/-- Only the lower digits of a column count. -/
lemma sign_block (low row block column : ℕ) :
    sign low row (block * 2 ^ low + column) = sign low row column := by
  induction low generalizing row block column with
  | zero => rfl
  | succ low ih =>
    rw [pow_succ, ← Nat.mul_assoc, sign_succ, sign_succ,
      show (block * 2 ^ low * 2 + column) % 2 = column % 2 by omega,
      show (block * 2 ^ low * 2 + column) / 2 = block * 2 ^ low + column / 2 by omega, ih]

lemma sign_of_lt {low : ℕ} (high row : ℕ) (inside : column < 2 ^ low) :
    sign (low + high) row column = sign low row column := by
  rw [sign_add, Nat.div_eq_of_lt inside, sign_zero, mul_one]

lemma bitCount_succ (width n : ℕ) : bitCount (width + 1) n = n % 2 + bitCount width (n / 2) := by
  rw [bitCount]
  split
  · next none =>
    rw [none]
    cases width <;> rfl
  · rfl

/-- The parity of the common digits. -/
lemma sign_eq_bitCount (digits row column : ℕ) : sign digits row column =
    if bitCount digits (row &&& column) % 2 = 1 then -1 else 1 := by
  induction digits generalizing row column with
  | zero => rfl
  | succ digits ih =>
    simp only [sign_succ, ih, bitCount_succ, Nat.and_div_two, ← Nat.and_mod_two_eq_one]
    split <;> split <;> split <;> first | rfl | omega

lemma sum_range_mul (f : ℕ → ℤ) (width count : ℕ) : ∑ i ∈ range (count * width), f i =
    ∑ block ∈ range count, ∑ column ∈ range width, f (block * width + column) := by
  induction count with
  | zero => rw [Nat.zero_mul, range_zero, sum_empty, sum_empty]
  | succ count ih => rw [Nat.succ_mul, sum_range_add, ih, sum_range_succ]

/-- Two transforms in a row. -/
theorem coefficient_blocks (low high outer : ℕ) {inner : ℕ} (inside : inner < 2 ^ low)
    (values : ℕ → ℤ) : coefficient (low + high) (outer * 2 ^ low + inner) values =
      ∑ block ∈ range (2 ^ high), sign high outer block *
        coefficient low inner fun column => values (block * 2 ^ low + column) := by
  have quotient {block column : ℕ} (small : column < 2 ^ low) :
      (block * 2 ^ low + column) / 2 ^ low = block := by
    rw [Nat.mul_comm, Nat.mul_add_div (Nat.two_pow_pos low), Nat.div_eq_of_lt small, Nat.add_zero]
  unfold coefficient
  rw [Nat.add_comm low high, pow_add, sum_range_mul, Nat.add_comm high low]
  refine sum_congr rfl fun block _ => ?_
  rw [mul_sum]
  refine sum_congr rfl fun column listed => ?_
  rw [sign_add, quotient inside, quotient (mem_range.mp listed), sign_block,
    sign_comm low _ column, sign_block, sign_comm low column]
  ring

lemma abs_coefficient_le (digits row : ℕ) (values : ℕ → ℤ) :
    |coefficient digits row values| ≤ ∑ column ∈ range (2 ^ digits), |values column| := by
  refine (abs_sum_le_sum_abs _ _).trans (le_of_eq ?_)
  exact sum_congr rfl fun column _ => by rw [abs_mul, abs_sign, one_mul]

end Walsh
