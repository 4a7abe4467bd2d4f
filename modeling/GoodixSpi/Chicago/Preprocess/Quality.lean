import GoodixSpi.Chicago.Feature.Mask
import Mathlib.Algebra.BigOperators.Ring.List
import Mathlib.Algebra.Order.BigOperators.Group.List
import Mathlib.Algebra.Order.Ring.Abs
import Mathlib.Algebra.Order.Ring.Int
import Mathlib.Tactic.Ring

/-! The two metrics of an image: how much of it carries ridges, and how well the ridges of a window
agree on a direction. The feature mask measures the ridges in the same way as the coverage, with a
lower mark. -/

namespace GoodixSpi.Chicago

open CArithmetic

/-! ### `goodix_chicago_preprocessor_compute_coverage` -/

/-- The sum over a window of what the feature mask also sums. -/
def windowMagnitude (enhanced : FeatureImage) (x y : ℕ) : ℕ :=
  ((List.range 15).map fun (dy : ℕ) => ((List.range 15).map fun (dx : ℕ) =>
    maskMagnitude enhanced (temporalReflect101 ((x : ℤ) + dx - 7) imageWidth)
      (temporalReflect101 ((y : ℤ) + dy - 7) imageHeight)).sum).sum

/-- `local_mean`, with the truncated reciprocal of the size of the window. -/
def coverageMean (enhanced : FeatureImage) (x y : ℕ) : ℕ :=
  windowMagnitude enhanced x y * (0x10000 / 225) / 0x10000 % 0x10000

/-- The pixels, a row after the other. -/
def imagePlaces : List (ℕ × ℕ) :=
  (List.range imageHeight).flatMap fun y => (List.range imageWidth).map fun x => (x, y)

def activePixels (enhanced : FeatureImage) : ℕ :=
  imagePlaces.countP fun place => coverageMean enhanced place.1 place.2 > 120

def computeCoverage (enhanced : FeatureImage) : ℕ :=
  activePixels enhanced * 0x10000 / pixels * 100 / 0x10000

/-! ### `goodix_chicago_preprocessor_build_quality_mask` -/

/-- The pixel and all within two pixels of it in its row and its column are white. -/
def saturatedCross (enhanced : FeatureImage) (x y : ℕ) : Bool :=
  enhancedAt enhanced x y == 0xff && [1, 2].all fun distance =>
    !(x ≥ distance && enhancedAt enhanced (x - distance) y != 0xff) &&
      !(x + distance < imageWidth && enhancedAt enhanced (x + distance) y != 0xff) &&
      !(y ≥ distance && enhancedAt enhanced x (y - distance) != 0xff) &&
      !(y + distance < imageHeight && enhancedAt enhanced x (y + distance) != 0xff)

def buildQualityMask (enhanced : FeatureImage) (x y : ℕ) : ℕ :=
  if saturatedCross enhanced x y then 0 else 0xff

/-! ### `goodix_chicago_preprocessor_compute_base_quality` -/

section BaseQuality

variable (enhanced : FeatureImage) (qualityMask : ℕ → ℕ → ℕ)

/-- The gradients are those of the annotations: zero unless all nine pixels are in the mask. -/
def gradientEnergy (place : ℕ × ℕ) : ℤ :=
  annotationGradientX enhanced qualityMask place.1 place.2 *
      annotationGradientX enhanced qualityMask place.1 place.2 +
    annotationGradientY enhanced qualityMask place.1 place.2 *
      annotationGradientY enhanced qualityMask place.1 place.2

def windowCenters : List (ℕ × ℕ) :=
  (List.range' 9 8 6).flatMap fun y => (List.range' 9 11 6).map fun x => (x, y)

def windowPlaces (center : ℕ × ℕ) : List (ℕ × ℕ) :=
  (List.range' (center.2 - 9) 19).flatMap fun y =>
    (List.range' (center.1 - 9) 19).map fun x => (x, y)

/-- The pixels of a window whose gradient is worth reading. -/
def strongPlaces (center : ℕ × ℕ) : List (ℕ × ℕ) :=
  (windowPlaces center).filter fun place => gradientEnergy enhanced qualityMask place ≥ 25

/-- The rounded mean of a product of gradients. -/
def tensorMean (strong : List (ℕ × ℕ)) (first second : ℕ → ℕ → ℤ) : ℤ :=
  quotient ((strong.length / 2 : ℕ) +
    (strong.map fun place => first place.1 place.2 * second place.1 place.2).sum) strong.length

def tensorCoherence (xx xy yy : ℤ) : ℤ :=
  let meanEnergy := quotient (xx + yy) 2
  let ratio := quotient ((xx * yy - xy * xy) * 0x10000) (meanEnergy * meanEnergy + 1)
  max 0 (0x10000 - max 0 ratio)

/-- None for a window that does not count. -/
def windowCoherence (center : ℕ × ℕ) : Option ℤ :=
  if qualityMask center.1 center.2 = 0 then none
  else if (windowPlaces center).countP (fun place => qualityMask place.1 place.2 != 0) <
      19 * 19 / 2 then none
  else
    let strong := strongPlaces enhanced qualityMask center
    let gradientX := annotationGradientX enhanced qualityMask
    let gradientY := annotationGradientY enhanced qualityMask
    if strong.length ≥ 19 * 19 / 6 then
      some (tensorCoherence (tensorMean strong gradientX gradientX)
        (tensorMean strong gradientX gradientY) (tensorMean strong gradientY gradientY))
    else some 0

def computeBaseQuality : ℕ :=
  let windows := windowCenters.filterMap (windowCoherence enhanced qualityMask)
  if windows.length = 0 then 0
  else (windows.length / 2 + windows.sum.toNat) / windows.length * 100 / 0x10000

end BaseQuality

def computeBaseQualityFromEnhanced (enhanced : FeatureImage) : ℕ :=
  computeBaseQuality enhanced (buildQualityMask enhanced)

/-! ### `goodix_chicago_preprocessor_finalize_metrics` -/

structure CaptureMetrics where
  quality : ℕ
  coverage : ℕ

def finalizeMetrics (baseQuality coverage : ℤ) : CaptureMetrics :=
  let quality := if baseQuality > 0 then baseQuality + 7 else 0
  let quality := if coverage < 50 then quotient (quality * coverage * coverage) 2500 else quality
  ⟨(max 0 (min quality 100)).toNat, (max 0 (min coverage 100)).toNat⟩

/-- The metrics of an image. -/
def captureMetrics (enhanced : FeatureImage) : CaptureMetrics :=
  finalizeMetrics (computeBaseQualityFromEnhanced enhanced) (computeCoverage enhanced)

/-! ### The coverage -/

lemma sum_map_mul_le {α : Type} (items : List α) {value : α → ℕ} {bound : ℕ}
    (small : ∀ item ∈ items, value item ≤ bound) (weight : α → ℕ) :
    (items.map fun item => value item * weight item).sum ≤ bound * (items.map weight).sum := by
  rw [← List.sum_map_mul_left]
  exact List.sum_le_sum fun item listed => Nat.mul_le_mul_right _ (small item listed)

lemma sum_maskGaussian : ((List.range 5).map maskGaussian).sum = 0x10000 := rfl

/-- The kernel has weight one. -/
lemma gaussianSum_le {value : ℕ → ℕ} {bound : ℕ} (small : ∀ tap, value tap ≤ bound) :
    ((List.range 5).map fun tap => value tap * maskGaussian tap).sum / 0x10000 ≤ bound := by
  have whole := sum_map_mul_le (List.range 5) (fun tap _ => small tap) maskGaussian
  rw [sum_maskGaussian] at whole
  exact Nat.div_le_of_le_mul (by rwa [Nat.mul_comm])

lemma maskHorizontal_exact (enhanced : FeatureImage) (x y : ℕ) :
    maskHorizontal enhanced x y = ((List.range 5).map fun (tap : ℕ) =>
      enhancedAt enhanced (temporalReflect101 ((x : ℤ) + tap - 2) imageWidth) y * 0x100 *
        maskGaussian tap).sum / 0x10000 := by
  have small (tap : ℕ) : enhancedAt enhanced (temporalReflect101 ((x : ℤ) + tap - 2) imageWidth) y *
      0x100 ≤ 255 * 0x100 := Nat.mul_le_mul_right 0x100 (enhancedAt_le enhanced _ y)
  exact Nat.mod_eq_of_lt ((gaussianSum_le small).trans_lt (by decide))

lemma maskHorizontal_le (enhanced : FeatureImage) (x y : ℕ) :
    maskHorizontal enhanced x y ≤ 255 * 0x100 := by
  rw [maskHorizontal_exact]
  exact gaussianSum_le fun tap => Nat.mul_le_mul_right 0x100 (enhancedAt_le enhanced _ y)

lemma maskSmoothed_exact (enhanced : FeatureImage) (x y : ℕ) :
    maskSmoothed enhanced x y = ((List.range 5).map fun (tap : ℕ) =>
      maskHorizontal enhanced x (temporalReflect101 ((y : ℤ) + tap - 2) imageHeight) *
        maskGaussian tap).sum / 0x10000 :=
  Nat.mod_eq_of_lt ((gaussianSum_le fun _ => maskHorizontal_le enhanced x _).trans_lt (by decide))

lemma maskSmoothed_le (enhanced : FeatureImage) (x y : ℕ) :
    maskSmoothed enhanced x y ≤ 255 * 0x100 := by
  rw [maskSmoothed_exact]
  exact gaussianSum_le fun _ => maskHorizontal_le enhanced x _

lemma maskLevel_range (enhanced : FeatureImage) (x y : ℕ) :
    0 ≤ maskLevel enhanced x y ∧ maskLevel enhanced x y ≤ 255 := by
  have small := Nat.div_le_div_right (c := 0x100) (maskSmoothed_le enhanced x y)
  rw [Nat.mul_div_cancel _ (by decide)] at small
  exact ⟨Int.natCast_nonneg _, Int.ofNat_le.mpr small⟩

lemma natAbs_sobel_le {level : ℕ → ℕ → ℤ} (range : ∀ x y, 0 ≤ level x y ∧ level x y ≤ 255)
    (a b c d e f a' b' c' d' e' f' : ℕ) :
    (level a a' - level b b' + 2 * (level c c' - level d d') + (level e e' - level f f')).natAbs ≤
      1020 := by
  have := range a a'
  have := range b b'
  have := range c c'
  have := range d d'
  have := range e e'
  have := range f f'
  omega

lemma maskMagnitude_le (enhanced : FeatureImage) (x y : ℕ) : maskMagnitude enhanced x y ≤ 1020 := by
  have across : (maskGradientX enhanced x y).natAbs ≤ 1020 := by
    unfold maskGradientX
    split
    · exact natAbs_sobel_le (maskLevel_range enhanced) ..
    · exact Nat.zero_le _
  have down : (maskGradientY enhanced x y).natAbs ≤ 1020 := by
    unfold maskGradientY
    split
    · exact natAbs_sobel_le (maskLevel_range enhanced) ..
    · exact Nat.zero_le _
  unfold maskMagnitude
  omega

lemma windowMagnitude_le (enhanced : FeatureImage) (x y : ℕ) :
    windowMagnitude enhanced x y ≤ 15 * (15 * 1020) := by
  have row (dy : ℕ) : ((List.range 15).map fun (dx : ℕ) =>
      maskMagnitude enhanced (temporalReflect101 ((x : ℤ) + dx - 7) imageWidth)
        (temporalReflect101 ((y : ℤ) + dy - 7) imageHeight)).sum ≤ 15 * 1020 :=
    sum_map_le (List.range 15) _ fun dx _ => maskMagnitude_le enhanced _ _
  exact sum_map_le (List.range 15) _ fun dy _ => row dy

lemma coverageMean_exact (enhanced : FeatureImage) (x y : ℕ) :
    coverageMean enhanced x y = windowMagnitude enhanced x y * (0x10000 / 225) / 0x10000 := by
  have small := windowMagnitude_le enhanced x y
  exact Nat.mod_eq_of_lt (by omega)

lemma buildMask_of_active {enhanced : FeatureImage} {x y : ℕ}
    (active : coverageMean enhanced x y > 120) : buildMask enhanced x y = 1 := by
  rw [coverageMean_exact] at active
  exact if_pos (show windowMagnitude enhanced x y * (0x10000 / 225) / 0x10000 > 110 by omega)

lemma length_imagePlaces : imagePlaces.length = pixels := by
  unfold imagePlaces
  simp only [List.length_flatMap, List.length_map, List.length_range, List.map_const',
    List.sum_replicate, smul_eq_mul]
  rfl

def maskPixels (enhanced : FeatureImage) : ℕ :=
  imagePlaces.countP fun place => buildMask enhanced place.1 place.2 ≠ 0

lemma activePixels_le (enhanced : FeatureImage) : activePixels enhanced ≤ maskPixels enhanced := by
  refine List.countP_mono_left fun place _ active => ?_
  rw [decide_eq_true_eq] at active ⊢
  rw [buildMask_of_active active]
  exact one_ne_zero

lemma maskPixels_le (enhanced : FeatureImage) : maskPixels enhanced ≤ pixels :=
  List.countP_le_length.trans length_imagePlaces.le

lemma computeCoverage_le (enhanced : FeatureImage) :
    computeCoverage enhanced ≤ 100 * maskPixels enhanced / pixels := by
  have active := activePixels_le enhanced
  unfold computeCoverage
  simp only [show pixels = 5120 from rfl]
  omega

lemma windowPlaces_inside {center place : ℕ × ℕ} (listed : center ∈ windowCenters)
    (near : place ∈ windowPlaces center) : place.1 < imageWidth ∧ place.2 < imageHeight := by
  obtain ⟨y, inY, mapped⟩ := List.mem_flatMap.mp listed
  obtain ⟨x, inX, rfl⟩ := List.mem_map.mp mapped
  obtain ⟨row, inRow, mapped⟩ := List.mem_flatMap.mp near
  obtain ⟨column, inColumn, rfl⟩ := List.mem_map.mp mapped
  rw [List.mem_range'] at inX inY inRow inColumn
  obtain ⟨i, few, rfl⟩ := inX
  obtain ⟨j, fewer, rfl⟩ := inY
  obtain ⟨k, short, rfl⟩ := inRow
  obtain ⟨l, low, rfl⟩ := inColumn
  simp only [imageWidth, imageHeight]
  omega

section Gradients

variable (enhanced : FeatureImage) (qualityMask : ℕ → ℕ → ℕ)

lemma abs_annotationGradientX_le (x y : ℕ) :
    |annotationGradientX enhanced qualityMask x y| ≤ 255 := by
  have right := enhancedAt_le enhanced (x + 1) y
  have left := enhancedAt_le enhanced (x - 1) y
  unfold annotationGradientX
  rw [abs_le]
  split <;> omega

lemma abs_annotationGradientY_le (x y : ℕ) :
    |annotationGradientY enhanced qualityMask x y| ≤ 255 := by
  have below := enhancedAt_le enhanced x (y + 1)
  have above := enhancedAt_le enhanced x (y - 1)
  unfold annotationGradientY
  rw [abs_le]
  split <;> omega

end Gradients

lemma abs_sum_map_le {α : Type} {value : α → ℤ} {bound : ℤ} (small : ∀ item, |value item| ≤ bound)
    (items : List α) : |(items.map value).sum| ≤ items.length * bound := by
  induction items with
  | nil => simp
  | cons item rest ih =>
    rw [List.map_cons, List.sum_cons, List.length_cons]
    push_cast
    calc |value item + (rest.map value).sum| ≤ |value item| + |(rest.map value).sum| :=
          abs_add_le _ _
      _ ≤ bound + rest.length * bound := add_le_add (small item) ih
      _ = (rest.length + 1) * bound := by ring

/-- The mean of products of gradients is no larger than the products. -/
lemma abs_tensorMean_le {first second : ℕ → ℕ → ℤ} (small : ∀ x y, |first x y| ≤ 255)
    (smallToo : ∀ x y, |second x y| ≤ 255) {strong : List (ℕ × ℕ)} (some : 0 < strong.length) :
    |tensorMean strong first second| ≤ 255 * 255 := by
  have product (place : ℕ × ℕ) : |first place.1 place.2 * second place.1 place.2| ≤ 255 * 255 := by
    rw [abs_mul]
    exact mul_le_mul (small _ _) (smallToo _ _) (abs_nonneg _) (by decide)
  have total := abs_sum_map_le product strong
  have below : (((strong.length / 2 : ℕ) : ℤ) + (strong.map fun place =>
      first place.1 place.2 * second place.1 place.2).sum).natAbs <
        (255 * 255 + 1) * strong.length := by
    rw [abs_le] at total
    omega
  unfold tensorMean quotient
  rw [Int.abs_eq_natAbs, Int.natAbs_tdiv, Int.natAbs_natCast]
  exact Int.ofNat_le.mpr (Nat.le_of_lt_succ ((Nat.div_lt_iff_lt_mul some).mpr below))

/-- A determinant in Q16 fits in 64 bits. -/
lemma tensor_fits {xx xy yy : ℤ} (smallXx : |xx| ≤ 255 * 255) (smallXy : |xy| ≤ 255 * 255)
    (smallYy : |yy| ≤ 255 * 255) : |(xx * yy - xy * xy) * 0x10000| < 2 ^ 63 := by
  have diagonal : |xx * yy| ≤ 255 * 255 * (255 * 255) := by
    rw [abs_mul]
    exact mul_le_mul smallXx smallYy (abs_nonneg _) (by decide)
  have beside : |xy * xy| ≤ 255 * 255 * (255 * 255) := by
    rw [abs_mul]
    exact mul_le_mul smallXy smallXy (abs_nonneg _) (by decide)
  rw [abs_le] at diagonal beside
  rw [abs_lt]
  omega

lemma tensorCoherence_range (xx xy yy : ℤ) :
    0 ≤ tensorCoherence xx xy yy ∧ tensorCoherence xx xy yy ≤ 0x10000 := by
  unfold tensorCoherence
  dsimp only
  omega

lemma windowCoherence_range {enhanced : FeatureImage} {qualityMask : ℕ → ℕ → ℕ} {center : ℕ × ℕ}
    {coherence : ℤ} (counted : windowCoherence enhanced qualityMask center = some coherence) :
    0 ≤ coherence ∧ coherence ≤ 0x10000 := by
  unfold windowCoherence at counted
  split at counted
  · cases counted
  · split at counted
    · cases counted
    · dsimp only at counted
      split at counted
      · cases counted
        exact tensorCoherence_range _ _ _
      · cases counted
        decide

lemma computeBaseQuality_le (enhanced : FeatureImage) (qualityMask : ℕ → ℕ → ℕ) :
    computeBaseQuality enhanced qualityMask ≤ 100 := by
  have range {coherence : ℤ}
      (listed : coherence ∈ windowCenters.filterMap (windowCoherence enhanced qualityMask)) :
      0 ≤ coherence ∧ coherence ≤ 0x10000 := by
    obtain ⟨center, -, counted⟩ := List.mem_filterMap.mp listed
    exact windowCoherence_range counted
  unfold computeBaseQuality
  dsimp only
  generalize windowCenters.filterMap (windowCoherence enhanced qualityMask) = windows at range
  have total : windows.sum ≤ windows.length • (0x10000 : ℤ) :=
    List.sum_le_card_nsmul windows 0x10000 fun coherence listed => (range listed).2
  rw [nsmul_eq_mul] at total
  split
  · exact Nat.zero_le _
  · next some =>
    have mean : (windows.length / 2 + windows.sum.toNat) / windows.length < 0x10000 + 1 :=
      (Nat.div_lt_iff_lt_mul (Nat.pos_of_ne_zero some)).mpr (by omega)
    omega

/-- Every window lies in the image, no 64-bit integer overflows on its tensor, and the mean of the
coherences is a percentage. -/
theorem base_quality_exact (enhanced : FeatureImage) (qualityMask : ℕ → ℕ → ℕ) :
    (∀ center ∈ windowCenters,
      (∀ place ∈ windowPlaces center, place.1 < imageWidth ∧ place.2 < imageHeight) ∧
      (19 * 19 / 6 ≤ (strongPlaces enhanced qualityMask center).length →
        let mean := tensorMean (strongPlaces enhanced qualityMask center)
        let gradientX := annotationGradientX enhanced qualityMask
        let gradientY := annotationGradientY enhanced qualityMask
        |(mean gradientX gradientX * mean gradientY gradientY -
          mean gradientX gradientY * mean gradientX gradientY) * 0x10000| < 2 ^ 63)) ∧
    computeBaseQuality enhanced qualityMask ≤ 100 := by
  refine ⟨fun center listed => ⟨fun place near => windowPlaces_inside listed near, fun many => ?_⟩,
    computeBaseQuality_le enhanced qualityMask⟩
  have across := abs_annotationGradientX_le enhanced qualityMask
  have down := abs_annotationGradientY_le enhanced qualityMask
  have some : 0 < (strongPlaces enhanced qualityMask center).length :=
    (show 0 < 19 * 19 / 6 by decide).trans_le many
  exact tensor_fits (abs_tensorMean_le across across some) (abs_tensorMean_le across down some)
    (abs_tensorMean_le down down some)

/-! ### The metrics -/

/-- The quality is lifted by seven, lowered where less than half of the image is covered, and cut at
100. -/
def finalQuality (base coverage : ℕ) : ℕ :=
  let lifted := if base = 0 then 0 else base + 7
  min 100 (if coverage < 50 then lifted * coverage * coverage / 2500 else lifted)

lemma finalizeMetrics_natCast {base coverage : ℕ} (small : coverage ≤ 100) :
    finalizeMetrics base coverage = ⟨finalQuality base coverage, coverage⟩ := by
  have lifted : (if (base : ℤ) > 0 then (base : ℤ) + 7 else 0) =
      ((if base = 0 then 0 else base + 7 : ℕ) : ℤ) := by
    split <;> split <;> omega
  unfold finalizeMetrics finalQuality
  simp only [lifted, quotient]
  generalize (if base = 0 then 0 else base + 7) = quality
  have lowered : ((quality : ℤ) * coverage * coverage).tdiv 2500 =
      ((quality * coverage * coverage / 2500 : ℕ) : ℤ) := rfl
  rw [lowered]
  congr 1
  · split <;> split <;> omega
  · omega

/-- Both metrics are percentages already before they are clamped, and the coverage is kept. -/
theorem capture_metrics_exact (enhanced : FeatureImage) :
    computeBaseQualityFromEnhanced enhanced ≤ 100 ∧ computeCoverage enhanced ≤ 100 ∧
      captureMetrics enhanced =
        ⟨finalQuality (computeBaseQualityFromEnhanced enhanced) (computeCoverage enhanced),
          computeCoverage enhanced⟩ := by
  have covered : computeCoverage enhanced ≤ 100 := by
    have room := maskPixels_le enhanced
    exact (computeCoverage_le enhanced).trans (Nat.div_le_of_le_mul (by omega))
  exact ⟨computeBaseQuality_le enhanced _, covered, finalizeMetrics_natCast covered⟩

end GoodixSpi.Chicago
