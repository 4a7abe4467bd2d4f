import Mathlib.Algebra.Order.Ring.Nat
import Mathlib.Tactic.Linarith
import Mathlib.Tactic.Ring
import Mathlib.Tactic.Lemma

/-! Square roots found one binary digit at a time, from the highest one down: what holds of the
digits found so far, how a digit is decided, and how large the numbers get. -/

namespace DigitRoot

variable {n k digits p : ℕ}

/-- The largest number whose square is not above `n`. -/
structure IsRoot (n r : ℕ) : Prop where
  square : r * r ≤ n
  largest : ∀ s, s * s ≤ n → s ≤ r

lemma IsRoot.unique {r s : ℕ} (root : IsRoot n r) (other : IsRoot n s) : r = s :=
  Nat.le_antisymm (other.largest r root.square) (root.largest s other.square)

/-- `p` is the root but for its last `k` binary digits, which are zero. -/
structure Approaches (n k p : ℕ) : Prop where
  square : p * p ≤ n
  above : n < (p + 2 ^ k) * (p + 2 ^ k)
  zeros : 2 ^ k ∣ p

lemma approaches_zero (fits : n < 4 ^ k) : Approaches n k 0 where
  square := Nat.zero_le n
  above := by
    rw [Nat.zero_add, ← Nat.mul_pow]
    exact fits
  zeros := Nat.dvd_zero _

/-! ### What a digit adds -/

lemma four_pow (k : ℕ) : (4 : ℕ) ^ k = 2 ^ k * 2 ^ k := Nat.mul_pow 2 2 k

/-- How much the square grows with a digit. -/
lemma square_digit (p k : ℕ) :
    (p + 2 ^ k) * (p + 2 ^ k) = p * p + (p * 2 ^ (k + 1) + 4 ^ k) := by
  rw [four_pow]
  ring

/-- So the rest of the argument that a loop keeps loses just that. -/
lemma rest_digit (n p k : ℕ) :
    n - p * p - (p * 2 ^ (k + 1) + 4 ^ k) = n - (p + 2 ^ k) * (p + 2 ^ k) := by
  rw [square_digit, Nat.sub_sub]

/-- A loop over pairs of bits keeps the digits shifted up. -/
lemma shifted_digit (p k : ℕ) : p * 2 ^ k + 4 ^ k = (p + 2 ^ k) * 2 ^ k := by
  rw [four_pow, Nat.add_mul]

/-- A loop that keeps them in place shifts the trial instead. -/
lemma doubled_digit (p k : ℕ) : (2 ^ k + p * 2) * 2 ^ k = p * 2 ^ (k + 1) + 4 ^ k := by
  rw [four_pow]
  ring

lemma Approaches.accept (approaches : Approaches n (k + 1) p)
    (fits : p * 2 ^ (k + 1) + 4 ^ k ≤ n - p * p) : Approaches n k (p + 2 ^ k) where
  square := by
    have square := approaches.square
    rw [square_digit]
    omega
  above := by
    have above := approaches.above
    have double : p + 2 ^ k + 2 ^ k = p + 2 ^ (k + 1) := by ring
    rwa [double]
  zeros := (Nat.dvd_add_right ((pow_dvd_pow 2 (Nat.le_succ k)).trans approaches.zeros)).mpr
    (Nat.dvd_refl _)

lemma Approaches.reject (approaches : Approaches n (k + 1) p)
    (exceeds : n - p * p < p * 2 ^ (k + 1) + 4 ^ k) : Approaches n k p where
  square := approaches.square
  above := by
    have square := approaches.square
    rw [square_digit]
    omega
  zeros := (pow_dvd_pow 2 (Nat.le_succ k)).trans approaches.zeros

lemma Approaches.isRoot (approaches : Approaches n 0 p) : IsRoot n p where
  square := approaches.square
  largest s square := by
    have above := approaches.above
    by_contra larger
    have next : p + 2 ^ 0 ≤ s := by
      rw [Nat.pow_zero]
      omega
    have squares := Nat.mul_le_mul next next
    omega

/-- A digit that is tried leaves room below the power of two above the root. -/
lemma Approaches.room (approaches : Approaches n (k + 1) p) (fits : n < 4 ^ digits)
    (inside : k < digits) : p + 2 ^ k < 2 ^ digits := by
  obtain ⟨q, rfl⟩ := approaches.zeros
  have four := four_pow digits
  have below : 2 ^ (k + 1) * q < 2 ^ digits := by
    by_contra large
    have squares := Nat.mul_le_mul (Nat.not_lt.mp large) (Nat.not_lt.mp large)
    have square := approaches.square
    omega
  obtain ⟨rest, rfl⟩ := Nat.exists_eq_add_of_lt inside
  have split : 2 ^ (k + rest + 1) = 2 ^ (k + 1) * 2 ^ rest := by ring
  rw [split] at below ⊢
  have step : q + 1 ≤ 2 ^ rest := Nat.lt_of_mul_lt_mul_left below
  calc 2 ^ (k + 1) * q + 2 ^ k < 2 ^ (k + 1) * q + 2 ^ (k + 1) :=
        Nat.add_lt_add_left (Nat.pow_lt_pow_right (by omega) (Nat.lt_succ_self k)) _
    _ = 2 ^ (k + 1) * (q + 1) := by ring
    _ ≤ 2 ^ (k + 1) * 2 ^ rest := Nat.mul_le_mul_left _ step

/-- So what a digit adds to the square stays below the bound of the argument. -/
lemma Approaches.trial_lt (approaches : Approaches n (k + 1) p) (fits : n < 4 ^ digits)
    (inside : k < digits) : p * 2 ^ (k + 1) + 4 ^ k < 4 ^ digits := by
  have room := approaches.room fits inside
  have squares := Nat.mul_lt_mul'' room room
  have four := four_pow digits
  rw [square_digit] at squares
  omega

end DigitRoot
