import Mathlib.Tactic.Lemma
import Mathlib.Tactic.Ring

/-! Running averages over the natural numbers, rounded to the nearest integer.

An average that is updated with the count it was taken over is a weighted mean and stays
between its values. An average whose new count is capped while the old count keeps its
weight stops being one as soon as the cap is reached: it then grows by its values. -/

namespace RunningAverage

/-- The average of `count` values and one more. -/
def update (average count value : Nat) : Nat :=
  (average * count + value + (count + 1) / 2) / (count + 1)

/-- The same with the divisor held at `cap`. -/
def capped (cap average count value : Nat) : Nat :=
  (average * count + value + min (count + 1) cap / 2) / min (count + 1) cap

variable {low high average value cap : Nat} (count : Nat)

lemma le_update (old : low ≤ average) (new : low ≤ value) : low ≤ update average count value := by
  have weight : low * count ≤ average * count := Nat.mul_le_mul_right count old
  rw [update, Nat.le_div_iff_mul_le (Nat.succ_pos count), Nat.mul_succ]
  omega

lemma update_le (old : average ≤ high) (new : value ≤ high) : update average count value ≤ high := by
  have weight : average * count ≤ high * count := Nat.mul_le_mul_right count old
  rw [update, ← Nat.lt_succ_iff, Nat.div_lt_iff_lt_mul (Nat.succ_pos count), Nat.succ_mul,
    Nat.mul_succ]
  omega

variable {count}

lemma capped_of_lt (below : count < cap) :
    capped cap average count value = update average count value := by
  rw [capped, Nat.min_eq_left below, update]

/-- At the cap the old average is kept whole and a share of the value is added to it. -/
lemma capped_at_cap (positive : 0 < cap) :
    capped cap average cap value = average + (value + cap / 2) / cap := by
  rw [capped, Nat.min_eq_right (Nat.le_succ cap), Nat.add_assoc, Nat.add_comm,
    Nat.add_mul_div_right _ _ positive, Nat.add_comm]

end RunningAverage
