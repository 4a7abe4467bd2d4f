import GoodixSpi.Chicago.Feature.Mask
import GoodixSpi.Chicago.SquareRoots
import Mathlib.Algebra.BigOperators.Fin
import Mathlib.Algebra.Order.BigOperators.Ring.Finset
import Mathlib.Tactic.Positivity

/-! The scores that choose between the two candidates of an image: how much the columns vary, and
how far the candidates agree. The agreement is a correlation in Q8. -/

namespace GoodixSpi.Chicago

open CArithmetic DigitRoot

/-! ### `candidate_column_variation_score` -/

def columnEnabled (mask : FeatureImage) (x : ℕ) : Bool :=
  (List.range imageHeight).any fun y => enhancedAt mask x y != 0

/-- Zero where no column has an enabled pixel. -/
def firstColumn (mask : FeatureImage) : ℕ :=
  ((List.range imageWidth).find? fun x => columnEnabled mask x).getD 0

/-- The scan from the right does not reach the first column. -/
def lastColumn (mask : FeatureImage) : ℕ :=
  ((List.range' 1 (imageWidth - 1)).reverse.find? fun x => columnEnabled mask x).getD 0

/-- The mean of the enabled pixels, with one more in the divisor. -/
def enabledMean (candidate mask : FeatureImage) : ℕ :=
  let enabled := (List.finRange pixels).filter fun pixel => mask.get pixel != 0
  (enabled.map fun pixel => (candidate.get pixel).toNat).sum / (enabled.length + 1) % 0x100

def columnMean (candidate mask : FeatureImage) (x : ℕ) : ℕ :=
  ((List.range imageHeight).map fun y =>
    if enhancedAt mask x y ≠ 0 then enhancedAt candidate x y
    else enabledMean candidate mask).sum * 0x100 / imageHeight

def columnStep (candidate mask : FeatureImage) (x : ℕ) : ℕ :=
  ((columnMean candidate mask (x + 1) : ℤ) - columnMean candidate mask x).natAbs

def candidateColumnVariationScore (candidate mask : FeatureImage) : ℕ :=
  let first := firstColumn mask
  let last := lastColumn mask
  let variation := ((List.range' first (last - first)).map (columnStep candidate mask)).sum
  if last ≠ first then (imageWidth - 1) * variation / (last - first) / 0x100 else variation

/-! ### `integer_sqrt_u64` -/

/-- The loop; the root has 32 bits, everything else has 64. -/
def sqrtU64Digits (bit remainder root : ℕ) (shift : ℤ) : Option ℕ :=
  if bit = 0 then some root
  else do
    let doubled ← Unsigned.mul 64 root 2
    let sum ← Unsigned.add 64 doubled bit
    let trial ← Unsigned.shiftLeft 64 sum shift.toNat
    if remainder ≥ trial then do
      let root ← Unsigned.add 32 root bit
      let remainder ← Unsigned.sub remainder trial
      sqrtU64Digits (bit >>> 1) remainder root (shift - 1)
    else sqrtU64Digits (bit >>> 1) remainder root (shift - 1)
termination_by bit
decreasing_by
  all_goals
    rw [Nat.shiftRight_eq_div_pow]
    omega

def integerSqrtU64 (value : ℕ) : Option ℕ :=
  if value ≤ 1 then some value else sqrtU64Digits 0x80000000 value 0 31

/-! ### `candidate_correlation_q8` -/

/-- A disabled pixel is neutral gray. -/
def neutralValue (mask candidate : FeatureImage) (pixel : Fin pixels) : ℕ :=
  if mask.get pixel ≠ 0 then (candidate.get pixel).toNat else 122

def neutralMean (mask candidate : FeatureImage) : ℕ :=
  ((List.finRange pixels).map (neutralValue mask candidate)).sum / pixels % 0x100

def deviation (mask candidate : FeatureImage) (pixel : Fin pixels) : ℤ :=
  neutralValue mask candidate pixel - neutralMean mask candidate

/-- `covariance`, and with one candidate twice its variance. -/
def covariance (mask primary alternate : FeatureImage) : ℤ :=
  ((List.finRange pixels).map fun pixel =>
    deviation mask primary pixel * deviation mask alternate pixel).sum

def candidateCorrelationQ8 (primary alternate mask : FeatureImage) : Option ℤ := do
  let primaryVariance := (covariance mask primary primary).toNat
  let alternateVariance := (covariance mask alternate alternate).toNat
  let product ← Unsigned.mul 64 primaryVariance alternateVariance
  let denominator ← integerSqrtU64 product
  some (if denominator = 0 then 0
    else quotient (covariance mask primary alternate * 256) denominator)

/-! ### `goodix_chicago_preprocessor_select_alternate_mode24` -/

def selectAlternateMode24 (primaryScore alternateScore correlationQ8 referenceScore : ℤ) : Bool :=
  if primaryScore < 2500 then
    let threshold := shiftRight (referenceScore * 205) 8
    alternateScore < threshold && correlationQ8 < 235
  else if primaryScore < 5000 then
    let threshold := shiftRight (quotient ((primaryScore - 2500) * referenceScore * 179) 2500 +
      referenceScore * 205) 8
    alternateScore < threshold ||
      (alternateScore * 75 < threshold * 100 && correlationQ8 < 220)
  else if primaryScore ≥ 7500 then true
  else
    let threshold := shiftRight (quotient ((primaryScore - 5000) * referenceScore * 2) 2500 +
      referenceScore * 384) 8
    alternateScore < threshold ||
      (alternateScore * 80 < threshold * 100 && correlationQ8 < 200)

/-! ### How much the columns vary -/

lemma enabledMean_le (candidate mask : FeatureImage) : enabledMean candidate mask ≤ 255 :=
  Nat.le_of_lt_succ (Nat.mod_lt _ (by decide))

lemma columnMean_le (candidate mask : FeatureImage) (x : ℕ) :
    columnMean candidate mask x ≤ 255 * 0x100 := by
  have total := sum_map_le (List.range imageHeight)
    (fun y => if enhancedAt mask x y ≠ 0 then enhancedAt candidate x y
      else enabledMean candidate mask) fun y _ => by
    split
    · exact enhancedAt_le candidate x y
    · exact enabledMean_le candidate mask
  rw [List.length_range] at total
  unfold columnMean imageHeight at *
  omega

lemma columnStep_le (candidate mask : FeatureImage) (x : ℕ) :
    columnStep candidate mask x ≤ 255 * 0x100 := by
  have here := columnMean_le candidate mask x
  have next := columnMean_le candidate mask (x + 1)
  unfold columnStep
  omega

/-- The two scans meet: where any column is enabled, the last one does not come first. -/
lemma firstColumn_le_lastColumn (mask : FeatureImage) : firstColumn mask ≤ lastColumn mask := by
  unfold firstColumn lastColumn
  cases first : (List.range imageWidth).find? fun x => columnEnabled mask x with
  | none => exact Nat.zero_le _
  | some x =>
    rw [Option.getD_some]
    have inside := List.mem_range.mp (List.mem_of_find?_eq_some first)
    have enabled : columnEnabled mask x = true := List.find?_some first
    by_cases zero : x = 0
    · rw [zero]
      exact Nat.zero_le _
    · have listed : x ∈ (List.range' 1 (imageWidth - 1)).reverse := by
        rw [List.mem_reverse, List.mem_range'_1]
        omega
      cases last : (List.range' 1 (imageWidth - 1)).reverse.find? fun x => columnEnabled mask x with
      | none => exact absurd enabled (List.find?_eq_none.mp last x listed)
      | some y =>
        -- what comes before the column that is found is to its right and disabled
        obtain ⟨-, before, after, split, disabled⟩ := List.find?_eq_some_iff_append.mp last
        have descending : (List.range' 1 (imageWidth - 1)).reverse.Pairwise (· > ·) :=
          List.pairwise_reverse.mpr (List.pairwise_lt_range' 1)
        rw [split] at listed descending
        rcases List.mem_append.mp listed with right | left
        · exact absurd enabled (by simpa using disabled x right)
        · rcases List.mem_cons.mp left with rfl | left
          · exact le_rfl
          · exact ((List.pairwise_cons.mp (List.pairwise_append.mp descending).2.1).1 x left).le

/-- No score is above 79 * 255. -/
lemma candidateColumnVariationScore_le (candidate mask : FeatureImage) :
    candidateColumnVariationScore candidate mask ≤ 20145 := by
  have total := sum_map_le (List.range' (firstColumn mask) (lastColumn mask - firstColumn mask))
    (columnStep candidate mask) fun x _ => columnStep_le candidate mask x
  rw [List.length_range'] at total
  unfold candidateColumnVariationScore
  dsimp only
  split
  · next apart =>
    have scaled : (imageWidth - 1) * ((List.range' (firstColumn mask)
        (lastColumn mask - firstColumn mask)).map (columnStep candidate mask)).sum ≤
        (lastColumn mask - firstColumn mask) * ((imageWidth - 1) * (255 * 0x100)) := by
      rw [Nat.mul_left_comm]
      exact Nat.mul_le_mul_left _ total
    refine Nat.div_le_of_le_mul ((Nat.div_le_of_le_mul scaled).trans ?_)
    decide
  · next same =>
    rw [not_ne_iff] at same
    rw [same, Nat.sub_self] at total ⊢
    omega

/-! ### The square root -/

variable {n k p : ℕ}

lemma sqrtU64Digits_eq (approaches : Approaches n k p) (fits : n < 4 ^ 32) (inside : k ≤ 32) :
    ∃ root, sqrtU64Digits (2 ^ k >>> 1) (n - p * p) p (k - 1) = some root ∧ IsRoot n root := by
  induction k generalizing p with
  | zero =>
    refine ⟨p, ?_, approaches.isRoot⟩
    rw [sqrtU64Digits, if_pos (by decide)]
  | succ k ih =>
    have bit : 2 ^ (k + 1) >>> 1 = 2 ^ k := by
      rw [Nat.shiftRight_eq_div_pow, Nat.pow_succ]
      exact Nat.mul_div_cancel _ (by decide)
    have bound : (4 : ℕ) ^ 32 = 2 ^ 64 := by decide
    have trial : (2 ^ k + p * 2) * 2 ^ k < 2 ^ 64 := by
      rw [doubled_digit, ← bound]
      exact approaches.trial_lt fits inside
    have positive : 0 < 2 ^ k := Nat.pow_pos (by decide)
    have sum : p * 2 + 2 ^ k < 2 ^ 64 := by
      have := (Nat.le_mul_of_pos_right _ positive).trans_lt trial
      omega
    have digit := approaches.room fits inside
    have shift : (((k + 1 : ℕ) : ℤ) - 1).toNat = k := by omega
    have next : (((k + 1 : ℕ) : ℤ) - 1) - 1 = (k : ℤ) - 1 := by omega
    rw [bit, sqrtU64Digits, if_neg positive.ne', Unsigned.mul_eq (by omega), shift, next]
    simp only [Option.bind_eq_bind, Option.bind_some]
    rw [Unsigned.add_eq sum, Option.bind_some, Nat.add_comm (p * 2), Unsigned.shiftLeft_eq trial,
      Option.bind_some, doubled_digit]
    split
    · next enough =>
      rw [Unsigned.add_eq (by omega), Option.bind_some, Unsigned.sub_eq enough, Option.bind_some,
        rest_digit]
      exact ih (approaches.accept enough) (by omega)
    · exact ih (approaches.reject (by omega)) (by omega)

lemma integerSqrtU64_exact {value : ℕ} (fits : value < 2 ^ 64) :
    ∃ root, integerSqrtU64 value = some root ∧ IsRoot value root := by
  rw [integerSqrtU64]
  split
  · next small => exact ⟨value, rfl, isRoot_small small⟩
  · have fits' : value < 4 ^ 32 := fits
    exact sqrtU64Digits_eq (approaches_zero fits') fits' le_rfl

/-! ### How far the candidates agree -/

section Correlation

variable (mask primary alternate : FeatureImage)

lemma neutralValue_le (pixel : Fin pixels) : neutralValue mask primary pixel ≤ 255 := by
  unfold neutralValue
  split
  · exact Nat.le_of_lt_succ (UInt8.toNat_lt _)
  · decide

/-- The mean is a byte by itself. -/
lemma neutralMean_exact : neutralMean mask primary =
    ((List.finRange pixels).map (neutralValue mask primary)).sum / pixels := by
  refine Nat.mod_eq_of_lt (Nat.lt_succ_of_le (Nat.div_le_of_le_mul ?_))
  have total := sum_map_le (List.finRange pixels) _ fun pixel _ =>
    neutralValue_le mask primary pixel
  rwa [List.length_finRange] at total

lemma abs_deviation_le (pixel : Fin pixels) : |deviation mask primary pixel| ≤ 255 := by
  have value := neutralValue_le mask primary pixel
  have mean : neutralMean mask primary < 0x100 := Nat.mod_lt _ (by decide)
  unfold deviation
  rw [abs_le]
  omega

lemma covariance_eq : covariance mask primary alternate =
    ∑ pixel, deviation mask primary pixel * deviation mask alternate pixel := by
  rw [covariance, Fin.sum_univ_def]

lemma covariance_comm : covariance mask primary alternate = covariance mask alternate primary := by
  rw [covariance_eq, covariance_eq]
  exact Finset.sum_congr rfl fun pixel _ => mul_comm _ _

lemma variance_nonneg : 0 ≤ covariance mask primary primary := by
  rw [covariance_eq]
  exact Finset.sum_nonneg fun pixel _ => mul_self_nonneg _

lemma variance_le : covariance mask primary primary ≤ pixels * (255 * 255) := by
  rw [covariance_eq]
  have each := Finset.sum_le_card_nsmul Finset.univ
    (fun pixel => deviation mask primary pixel * deviation mask primary pixel) (255 * 255)
    fun pixel _ => by
      rw [← abs_mul_abs_self]
      exact mul_self_le_mul_self (abs_nonneg _) (abs_deviation_le mask primary pixel)
  rwa [Finset.card_univ, Fintype.card_fin, nsmul_eq_mul] at each

/-- The inequality of Cauchy and Schwarz, for the sums the code has. -/
lemma covariance_sq_le : covariance mask primary alternate ^ 2 ≤
    covariance mask primary primary * covariance mask alternate alternate := by
  have general := Finset.sum_mul_sq_le_sq_mul_sq Finset.univ (deviation mask primary)
    (deviation mask alternate)
  simp only [covariance_eq]
  simpa only [sq] using general

/-- What the code computes, with the root it takes. -/
lemma candidateCorrelationQ8_eq : ∃ root,
    IsRoot ((covariance mask primary primary).toNat * (covariance mask alternate alternate).toNat)
      root ∧
      candidateCorrelationQ8 primary alternate mask = some (if root = 0 then 0
        else quotient (covariance mask primary alternate * 256) root) := by
  have first := variance_le mask primary
  have second := variance_le mask alternate
  have size : (pixels : ℤ) * (255 * 255) < 2 ^ 32 := by decide
  have fits : (covariance mask primary primary).toNat *
      (covariance mask alternate alternate).toNat < 2 ^ 64 :=
    calc _ < 2 ^ 32 * 2 ^ 32 := Nat.mul_lt_mul'' (by omega) (by omega)
      _ = 2 ^ 64 := by decide
  obtain ⟨root, taken, is⟩ := integerSqrtU64_exact fits
  refine ⟨root, is, ?_⟩
  rw [candidateCorrelationQ8, Unsigned.mul_eq fits, Option.bind_eq_bind, Option.bind_some, taken]
  rfl

lemma abs_covariance_le {root : ℕ} (is : IsRoot ((covariance mask primary primary).toNat *
    (covariance mask alternate alternate).toNat) root) :
    (covariance mask primary alternate).natAbs ≤ root := by
  refine is.largest _ ?_
  have bound := covariance_sq_le mask primary alternate
  have first := variance_nonneg mask primary
  have second := variance_nonneg mask alternate
  zify
  rw [Int.toNat_of_nonneg first, Int.toNat_of_nonneg second, abs_mul_abs_self, ← sq]
  exact bound

end Correlation

variable {mask primary alternate : FeatureImage}

lemma deviation_congr
    (agree : ∀ pixel, mask.get pixel ≠ 0 → primary.get pixel = alternate.get pixel) :
    deviation mask primary = deviation mask alternate := by
  have values : neutralValue mask primary = neutralValue mask alternate := by
    funext pixel
    unfold neutralValue
    split
    · next enabled => rw [agree pixel enabled]
    · rfl
  unfold deviation neutralMean
  rw [values]

/-- Where both are the same the root is exact. -/
lemma isRoot_variance {root : ℕ} (is : IsRoot ((covariance mask primary primary).toNat *
    (covariance mask primary primary).toNat) root) :
    root = (covariance mask primary primary).toNat :=
  Nat.le_antisymm (Nat.mul_self_le_mul_self_iff.mp is.square) (is.largest _ le_rfl)

/-- For all candidates and masks both scores are within what the choice between the candidates can
hold. The correlation does not overflow or divide by zero, does not depend on the order, is never
beyond one, and is one for candidates that agree where the mask is set, unless they are flat. -/
theorem candidate_scores_bounded (primary alternate mask : FeatureImage) :
    candidateColumnVariationScore primary mask ≤ 20145 ∧
      ∃ correlation, candidateCorrelationQ8 primary alternate mask = some correlation ∧
        candidateCorrelationQ8 alternate primary mask = some correlation ∧ |correlation| ≤ 256 ∧
        ((∀ pixel, mask.get pixel ≠ 0 → primary.get pixel = alternate.get pixel) →
          correlation = if covariance mask primary primary = 0 then 0 else 256) := by
  refine ⟨candidateColumnVariationScore_le primary mask, ?_⟩
  obtain ⟨root, is, eq⟩ := candidateCorrelationQ8_eq mask primary alternate
  obtain ⟨other, is', eq'⟩ := candidateCorrelationQ8_eq mask alternate primary
  have same : other = root := is'.unique (Nat.mul_comm _ _ ▸ is)
  refine ⟨_, eq, ?_, ?_, fun agree => ?_⟩
  · rw [eq', same, covariance_comm]
  · have small := abs_covariance_le mask primary alternate is
    split
    · decide
    · next positive =>
      rw [quotient, Int.abs_eq_natAbs, Int.natAbs_tdiv, Int.natAbs_mul, Int.natAbs_natCast]
      refine Int.ofNat_le.mpr (Nat.div_le_of_le_mul ?_)
      exact Nat.mul_le_mul_right 256 small
  · have equal := deviation_congr agree
    have cross : covariance mask primary alternate = covariance mask primary primary := by
      unfold covariance
      rw [equal]
    have second : covariance mask alternate alternate = covariance mask primary primary := by
      unfold covariance
      rw [equal]
    rw [second] at is
    have exact_ := isRoot_variance is
    have nonneg := variance_nonneg mask primary
    rw [cross, exact_, Int.toNat_of_nonneg nonneg]
    by_cases flat : covariance mask primary primary = 0
    · rw [if_pos flat, if_pos (by rw [flat]; rfl)]
    · rw [if_neg flat, if_neg (by omega), quotient, Int.mul_tdiv_cancel_left _ flat]

end GoodixSpi.Chicago
