import GoodixSpi.Chicago.Feature.Mask
import Mathlib.Algebra.BigOperators.Ring.List
import Mathlib.Tactic.Ring
import Mathlib.Tactic.IntervalCases

/-! Images whose brightness depends on the column alone: vertical ridges. Their mask depends on the
column alone too, and where there is enough of it the annotation says that all ridges run one
way. -/

namespace GoodixSpi.Chicago

open CArithmetic

def columnImage (brightness : ℕ → UInt8) : FeatureImage :=
  Vector.ofFn fun pixel => brightness (pixel % imageWidth)

variable (brightness : ℕ → UInt8)

/-! ### The mask of a column -/

def columnSmoothed (x : ℕ) : ℕ :=
  ((List.range 5).map fun (tap : ℕ) =>
    (brightness (temporalReflect101 ((x : ℤ) + tap - 2) imageWidth)).toNat * 0x100 *
      maskGaussian tap).sum / 0x10000 % 0x10000

def columnMagnitude (x : ℕ) : ℕ :=
  if 1 ≤ x ∧ x + 1 < imageWidth then
    (4 * ((columnSmoothed brightness (x + 1) / 0x100 : ℕ) -
      (columnSmoothed brightness (x - 1) / 0x100 : ℕ) : ℤ)).natAbs / 2
  else 0

def columnMask (x : ℕ) : ℕ :=
  let sum := 15 * ((List.range 15).map fun (dx : ℕ) =>
    columnMagnitude brightness (temporalReflect101 ((x : ℤ) + dx - 7) imageWidth)).sum
  if sum * (0x10000 / 225) / 0x10000 > 110 then 1 else 0

variable {brightness}

lemma enhancedAt_columnImage {x y : ℕ} (inX : x < imageWidth) (inY : y < imageHeight) :
    enhancedAt (columnImage brightness) x y = (brightness x).toNat := by
  have inside : y * imageWidth + x < pixels := by
    simp only [pixels, imageWidth, imageHeight] at inX inY ⊢
    omega
  rw [enhancedAt_eq _ inside, columnImage, Vector.getElem_ofFn, Nat.mul_add_mod_self_right,
    Nat.mod_eq_of_lt inX]

lemma maskHorizontal_columnImage (x : ℕ) {y : ℕ} (inY : y < imageHeight) :
    maskHorizontal (columnImage brightness) x y = columnSmoothed brightness x := by
  unfold maskHorizontal columnSmoothed
  simp only [enhancedAt_columnImage (temporalReflect101_lt _ imageWidth (by decide)) inY]

/-- The five weights add up to one. -/
lemma maskSmoothed_columnImage (x y : ℕ) :
    maskSmoothed (columnImage brightness) x y = columnSmoothed brightness x := by
  have small : columnSmoothed brightness x < 0x10000 := Nat.mod_lt _ (by decide)
  unfold maskSmoothed
  simp only [maskHorizontal_columnImage x (temporalReflect101_lt _ imageHeight (by decide))]
  rw [List.sum_map_mul_left, show ((List.range 5).map maskGaussian).sum = 0x10000 by decide,
    Nat.mul_div_cancel _ (by decide), Nat.mod_eq_of_lt small]

lemma maskMagnitude_columnImage (x y : ℕ) :
    maskMagnitude (columnImage brightness) x y = columnMagnitude brightness x := by
  have across : maskGradientX (columnImage brightness) x y =
      if 1 ≤ x ∧ x + 1 < imageWidth then
        4 * ((columnSmoothed brightness (x + 1) / 0x100 : ℕ) -
          (columnSmoothed brightness (x - 1) / 0x100 : ℕ) : ℤ)
      else 0 := by
    unfold maskGradientX maskLevel
    simp only [maskSmoothed_columnImage]
    split
    · ring
    · rfl
  have down : maskGradientY (columnImage brightness) x y = 0 := by
    unfold maskGradientY maskLevel
    simp only [maskSmoothed_columnImage]
    split <;> ring
  rw [maskMagnitude, across, down, columnMagnitude]
  split <;> simp

lemma buildMask_columnImage (x y : ℕ) :
    buildMask (columnImage brightness) x y = columnMask brightness x := by
  unfold buildMask columnMask
  simp only [maskMagnitude_columnImage, List.map_const', List.sum_replicate, List.length_range,
    nsmul_eq_mul, Nat.cast_id]

/-! ### The annotation -/

/-- What a column's pixel adds to the count of pixels whose gradient is worth reading. -/
def columnValid (brightness : ℕ → UInt8) (x : ℕ) : ℤ :=
  let supported := 1 ≤ x ∧ x + 1 < imageWidth ∧ columnMask brightness (x - 1) ≠ 0 ∧
    columnMask brightness x ≠ 0 ∧ columnMask brightness (x + 1) ≠ 0
  let gx : ℤ := ((brightness (x + 1)).toNat : ℤ) - (brightness (x - 1)).toNat
  if supported ∧ gx * gx ≥ 25 then columnMask brightness x else 0

/-- The count over the columns up to `x`, in one row. -/
def columnValidSum (brightness : ℕ → UInt8) (x : ℕ) : ℤ :=
  ((List.range (x + 1)).map (columnValid brightness)).sum

lemma annotationSupported_columnImage (x y : ℕ) :
    annotationSupported (buildMask (columnImage brightness)) x y = true ↔
      (1 ≤ y ∧ y + 1 < imageHeight) ∧ 1 ≤ x ∧ x + 1 < imageWidth ∧
        columnMask brightness (x - 1) ≠ 0 ∧ columnMask brightness x ≠ 0 ∧
          columnMask brightness (x + 1) ≠ 0 := by
  simp only [annotationSupported, buildMask_columnImage, Bool.and_eq_true, decide_eq_true_eq,
    List.all_eq_true, List.mem_range, bne_iff_ne]
  constructor
  · rintro ⟨⟨⟨⟨low, high⟩, left⟩, right⟩, all⟩
    exact ⟨⟨low, high⟩, left, right, all 0 (by decide) 0 (by decide),
      all 0 (by decide) 1 (by decide), all 0 (by decide) 2 (by decide)⟩
  · rintro ⟨⟨low, high⟩, left, right, before, here, after⟩
    refine ⟨⟨⟨⟨low, high⟩, left⟩, right⟩, fun dy _ dx near => ?_⟩
    interval_cases dx
    · exact before
    · exact here
    · exact after

lemma annotationGradientY_columnImage (x y : ℕ) :
    annotationGradientY (columnImage brightness) (buildMask (columnImage brightness)) x y = 0 := by
  unfold annotationGradientY
  split
  · rename_i supported
    obtain ⟨⟨low, high⟩, -, right, -⟩ := (annotationSupported_columnImage x y).mp supported
    rw [enhancedAt_columnImage (by omega) high, enhancedAt_columnImage (by omega) (by omega),
      sub_self]
  · rfl

lemma annotationGradientX_columnImage (x y : ℕ) :
    annotationGradientX (columnImage brightness) (buildMask (columnImage brightness)) x y =
      if annotationSupported (buildMask (columnImage brightness)) x y then
        ((brightness (x + 1)).toNat : ℤ) - (brightness (x - 1)).toNat
      else 0 := by
  unfold annotationGradientX
  split
  · rename_i supported
    obtain ⟨⟨low, high⟩, left, right, -⟩ := (annotationSupported_columnImage x y).mp supported
    rw [enhancedAt_columnImage right (by omega), enhancedAt_columnImage (by omega) (by omega)]
  · rfl

lemma annotationTerm_valid_columnImage (x y : ℕ) :
    annotationTerm (columnImage brightness) (buildMask (columnImage brightness))
        (fun _ _ mask => mask) x y =
      if 1 ≤ y ∧ y + 1 < imageHeight then columnValid brightness x else 0 := by
  unfold annotationTerm columnValid
  dsimp only
  rw [annotationGradientX_columnImage, annotationGradientY_columnImage, buildMask_columnImage]
  by_cases supported : annotationSupported (buildMask (columnImage brightness)) x y = true
  · obtain ⟨inner, columns⟩ := (annotationSupported_columnImage x y).mp supported
    rw [if_pos supported, if_pos inner]
    simp only [columns, mul_zero, add_zero, ne_eq, not_false_eq_true, true_and, and_self]
  · rw [if_neg supported]
    rw [annotationSupported_columnImage] at supported
    simp only [mul_zero, add_zero, ge_iff_le, show ¬((25 : ℤ) ≤ 0) by decide, and_false, if_false]
    by_cases inner : 1 ≤ y ∧ y + 1 < imageHeight
    · rw [if_pos inner, if_neg fun columns => supported ⟨inner, columns.1⟩]
    · rw [if_neg inner]

lemma integralRow_valid_columnImage (x y : ℕ) :
    integralRow (annotationTerm (columnImage brightness) (buildMask (columnImage brightness))
        fun _ _ mask => mask) x y =
      if 1 ≤ y ∧ y + 1 < imageHeight then columnValidSum brightness x else 0 := by
  unfold integralRow columnValidSum
  simp only [annotationTerm_valid_columnImage]
  split
  · rfl
  · simp

/-- Inside the border every row adds the same. -/
lemma integral_valid_columnImage (x : ℕ) {y : ℕ} (inner : y + 1 < imageHeight) :
    integral (annotationTerm (columnImage brightness) (buildMask (columnImage brightness))
        fun _ _ mask => mask) x y = y * columnValidSum brightness x := by
  induction y with
  | zero =>
    rw [integral, integralRow_valid_columnImage, if_neg (by omega)]
    simp
  | succ y ih =>
    rw [integral, integralRow_valid_columnImage, if_pos ⟨by omega, inner⟩, ih (by omega)]
    push_cast
    ring

lemma rectangleSum_valid_columnImage {left top right bottom : ℕ} (left_pos : 1 ≤ left)
    (top_pos : 1 ≤ top) (inner : bottom + 1 < imageHeight) (tall : top ≤ bottom) :
    annotationRectangleSum (annotationTerm (columnImage brightness)
        (buildMask (columnImage brightness)) fun _ _ mask => mask) left top right bottom =
      (bottom - top + 1) *
        (columnValidSum brightness right - columnValidSum brightness (left - 1)) := by
  have top_cast : ((top - 1 : ℕ) : ℤ) = top - 1 := by omega
  unfold annotationRectangleSum
  dsimp only
  rw [if_pos (by omega), if_pos (by omega), if_pos (by omega), integral_valid_columnImage _ inner,
    integral_valid_columnImage _ inner, integral_valid_columnImage _ (by omega),
    integral_valid_columnImage _ (by omega), top_cast]
  ring

lemma integral_zero {term : ℕ → ℕ → ℤ} (zero : ∀ x y, term x y = 0) (x y : ℕ) :
    integral term x y = 0 := by
  have row (y : ℕ) : integralRow term x y = 0 := by
    simp [integralRow, zero]
  induction y with
  | zero => exact row 0
  | succ y ih => rw [integral, row, ih, add_zero]

lemma rectangleSum_zero {term : ℕ → ℕ → ℤ} (zero : ∀ x y, term x y = 0)
    (left top right bottom : ℕ) : annotationRectangleSum term left top right bottom = 0 := by
  simp [annotationRectangleSum, integral_zero zero]

/-- How much of a record's window is worth reading. -/
def columnSupport (brightness : ℕ → UInt8) (x y : ℕ) : ℤ :=
  ((min (imageHeight - 2) (y + 16) : ℕ) - (max 1 (y - 16) : ℕ) + 1) *
    (columnValidSum brightness (min (imageWidth - 2) (x + 16)) -
      columnValidSum brightness (max 1 (x - 16) - 1))

lemma quotient_half {valid : ℤ} (nonneg : 0 ≤ valid) :
    quotient (shiftRight valid 1) valid = 0 := by
  unfold quotient shiftRight
  rcases nonneg.eq_or_lt with rfl | positive
  · rfl
  · exact Int.tdiv_eq_zero_of_lt (by omega) (by omega)

/-- Vertical ridges all run one way. -/
theorem annotationAt_columnImage (x : ℕ) {y : ℕ} (inY : y < imageHeight) :
    annotationAt (columnImage brightness) (buildMask (columnImage brightness)) x y =
      if columnSupport brightness x y ≥ ((((min (imageWidth - 2) (x + 16) : ℕ) : ℤ) -
          (max 1 (x - 16) : ℕ) + 1) *
        ((min (imageHeight - 2) (y + 16) : ℕ) - (max 1 (y - 16) : ℕ) + 1)) % 2 ^ 32 / 2
      then 100 else 0 := by
  have tall : max 1 (y - 16) ≤ min (imageHeight - 2) (y + 16) := by
    simp only [imageHeight] at inY ⊢
    omega
  have inner : min (imageHeight - 2) (y + 16) + 1 < imageHeight := by
    simp only [imageHeight]
    omega
  have across (x y : ℕ) : annotationTerm (columnImage brightness)
      (buildMask (columnImage brightness)) (fun _ gy _ => gy * gy) x y = 0 := by
    simp [annotationTerm, annotationGradientY_columnImage]
  have mixed (x y : ℕ) : annotationTerm (columnImage brightness)
      (buildMask (columnImage brightness)) (fun gx gy _ => gx * gy) x y = 0 := by
    simp [annotationTerm, annotationGradientY_columnImage]
  have count : annotationRectangleSum (annotationTerm (columnImage brightness)
      (buildMask (columnImage brightness)) fun _ _ mask => mask) (max 1 (x - 16)) (max 1 (y - 16))
      (min (imageWidth - 2) (x + 16)) (min (imageHeight - 2) (y + 16)) =
      columnSupport brightness x y :=
    rectangleSum_valid_columnImage (le_max_left _ _) (le_max_left _ _) inner tall
  unfold annotationAt
  simp only [count, rectangleSum_zero across, rectangleSum_zero mixed]
  split
  · rename_i enough
    have nonneg : 0 ≤ columnSupport brightness x y := le_trans (by omega) enough
    rw [zero_add, quotient_half nonneg]
    simp [quotient, shiftRight]
    decide
  · rfl

end GoodixSpi.Chicago
