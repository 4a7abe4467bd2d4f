import GoodixSpi.Lib.SummedArea
import GoodixSpi.Chicago.Feature.Cordic
import GoodixSpi.Chicago.Feature.Filter
import Mathlib.Algebra.Order.BigOperators.Ring.Finset
import Mathlib.Algebra.Order.Ring.Abs

/-! The ridge directions of the enhanced image and the image averaged along them. The structure
tensor is summed over a window through summed-area tables that wrap; the window sums do not. -/

namespace GoodixSpi.Chicago

open CArithmetic Reinterpret

section Tensor

variable (enhanced : FeatureImage) (x y : ℕ)

def tensorHorizontal : ℤ :=
  2 * ((enhancedAt enhanced (x + 1) y : ℤ) - enhancedAt enhanced (x - 1) y) -
    enhancedAt enhanced (x - 1) (y + 1) - enhancedAt enhanced (x - 1) (y - 1) +
    enhancedAt enhanced (x + 1) (y - 1) + enhancedAt enhanced (x + 1) (y + 1)

def tensorVertical : ℤ :=
  2 * ((enhancedAt enhanced x (y + 1) : ℤ) - enhancedAt enhanced x (y - 1)) -
    enhancedAt enhanced (x + 1) (y - 1) - enhancedAt enhanced (x - 1) (y - 1) +
    enhancedAt enhanced (x - 1) (y + 1) + enhancedAt enhanced (x + 1) (y + 1)

/-- Away from the border; the planes are zero on it. -/
def onTensor (value : ℤ) : ℤ :=
  if 1 ≤ x ∧ x + 1 < imageWidth ∧ 1 ≤ y ∧ y + 1 < imageHeight then value else 0

/-- The value that `cross[pixel]` wraps. -/
def tensorCross : ℤ :=
  onTensor x y (2 * tensorHorizontal enhanced x y * tensorVertical enhanced x y)

/-- The value that `difference[pixel]` wraps. -/
def tensorDifference : ℤ :=
  onTensor x y (tensorHorizontal enhanced x y * tensorHorizontal enhanced x y -
    tensorVertical enhanced x y * tensorVertical enhanced x y)

end Tensor

/-! ### `integral_rectangle_sum` -/

/-- The rows of a table of 32-bit sums. -/
def integralTable (term : ℕ → ℕ → ℤ) : List (List UInt32) :=
  (List.range imageHeight).map
    (SummedArea.row (imageWidth - 1) fun x y => UInt32.ofInt (term x y))

def integralAt (table : List (List UInt32)) (x y : ℕ) : UInt32 := (table.getD y []).getD x 0

def integralRectangleSum (table : List (List UInt32)) (x y radius : ℕ) : UInt32 :=
  let left := max 1 (x - radius)
  let right := min (imageWidth - 1) (x + radius)
  let top := max 1 (y - radius)
  let bottom := min (imageHeight - 1) (y + radius)
  integralAt table right bottom - integralAt table (left - 1) bottom -
    integralAt table right (top - 1) + integralAt table (left - 1) (top - 1)

/-! ### `goodix_chicago_feature_build_orientation_map` -/

/-- The direction of a ridge in degrees, from a signed angle. -/
def ridgeDegrees (angle : ℤ) : UInt8 :=
  let angle := if angle < 0 then angle + 0x6488 else angle
  let degrees := shiftRight (angle * 0x1ca6) 20
  let adjusted := if degrees - 0x87 ≤ 0 then degrees + 0x2d else degrees - 0x87
  UInt8.ofInt (0xb4 - adjusted)

def buildOrientationMap (enhanced : FeatureImage) : FeatureImage :=
  let crossTable := integralTable (tensorCross enhanced)
  let differenceTable := integralTable (tensorDifference enhanced)
  planeOf fun x y =>
    let horizontal := (integralRectangleSum crossTable x y 6).toInt32.toInt
    let vertical := (integralRectangleSum differenceTable x y 6).toInt32.toInt
    ridgeDegrees (cordicMagnitudeOrientation vertical horizontal).1.toInt16.toInt

/-! ### `goodix_chicago_feature_build_prepared_image` -/

def directionOffsets : List (List (ℤ × ℤ)) :=
  [[(-3, 0), (-2, 0), (-1, 0), (0, 0), (1, 0), (2, 0), (3, 0)],
   [(-3, -1), (-2, -1), (-1, 0), (0, 0), (1, 0), (2, 1), (3, 1)],
   [(-3, -2), (-2, -1), (-1, -1), (0, 0), (1, 1), (2, 1), (3, 2)],
   [(-3, -3), (-2, -2), (-1, -1), (0, 0), (1, 1), (2, 2), (3, 3)],
   [(-2, -3), (-1, -2), (-1, -1), (0, 0), (1, 1), (1, 2), (2, 3)],
   [(-1, -3), (-1, -2), (0, -1), (0, 0), (0, 1), (1, 2), (1, 3)],
   [(0, -3), (0, -2), (0, -1), (0, 0), (0, 1), (0, 2), (0, 3)],
   [(-1, 3), (-1, 2), (0, 1), (0, 0), (0, -1), (1, -2), (1, -3)],
   [(-2, 3), (-1, 2), (-1, 1), (0, 0), (1, -1), (1, -2), (2, -3)],
   [(-3, 3), (-2, 2), (-1, 1), (0, 0), (1, -1), (2, -2), (3, -3)],
   [(-3, 2), (-2, 1), (-1, 1), (0, 0), (1, -1), (2, -1), (3, -2)],
   [(-3, 1), (-2, 1), (-1, 0), (0, 0), (1, 0), (2, -1), (3, -1)]]

def directionWeights : List ℕ := [1, 2, 4, 8, 4, 2, 1]

def directionBucket (value : ℕ) : ℕ :=
  if value ≥ 8 ∧ value < 173 then (value - 8) / 15 + 1 else 0

/-- Whether a sample lies in the image. -/
def sampleInside (x y : ℕ) (offset : ℤ × ℤ) : Bool :=
  decide (0 ≤ (x : ℤ) + offset.1 ∧ (x : ℤ) + offset.1 < imageWidth ∧
    0 ≤ (y : ℤ) + offset.2 ∧ (y : ℤ) + offset.2 < imageHeight)

/-- The samples along a direction with their weights; those outside the image are left out. -/
def directionSamples (enhanced : FeatureImage) (x y bucket : ℕ) : List (ℕ × ℕ) :=
  (((directionOffsets.getD bucket []).zip directionWeights).filter
      fun sample => sampleInside x y sample.1).map fun sample =>
    (enhancedAt enhanced ((x : ℤ) + sample.1.1).toNat ((y : ℤ) + sample.1.2).toNat, sample.2)

/-- The weighted average of the samples. -/
def preparedPixel (samples : List (ℕ × ℕ)) : UInt8 :=
  let weightedSum := (samples.map fun sample => sample.1 * sample.2).sum
  let weightSum := (samples.map Prod.snd).sum
  if weightSum ≠ 0 then (weightedSum / weightSum).toUInt8 else 0xff

def buildPreparedImage (enhanced : FeatureImage) : FeatureImage :=
  let orientation := buildOrientationMap enhanced
  planeOf fun x y =>
    preparedPixel (directionSamples enhanced x y (directionBucket (enhancedAt orientation x y)))

/-! ### The window sums -/

/-- The sum over the window around a pixel, without any table. -/
def neighborhoodSum (term : ℕ → ℕ → ℤ) (x y radius : ℕ) : ℤ :=
  ∑ j ∈ Finset.Ico (max 1 (y - radius) - 1) (min (imageHeight - 1) (y + radius)),
    ∑ i ∈ Finset.Ico (max 1 (x - radius) - 1) (min (imageWidth - 1) (x + radius)),
      term (i + 1) (j + 1)

lemma ofInt_sum {ι : Type} (items : Finset ι) (value : ι → ℤ) :
    UInt32.ofInt (∑ i ∈ items, value i) = ∑ i ∈ items, UInt32.ofInt (value i) :=
  map_sum (⟨⟨UInt32.ofInt, rfl⟩, UInt32.ofInt_add⟩ : ℤ →+ UInt32) value items

lemma integralAt_table (term : ℕ → ℕ → ℤ) {x y : ℕ} (inX : x < imageWidth) (inY : y < imageHeight) :
    integralAt (integralTable term) x y =
      SummedArea.corner (fun x y => UInt32.ofInt (term x y)) x y := by
  have line : (integralTable term).getD y [] =
      SummedArea.row (imageWidth - 1) (fun x y => UInt32.ofInt (term x y)) y := by
    rw [integralTable, List.getD_eq_getElem?_getD, List.getElem?_map, List.getElem?_range inY,
      Option.map_some, Option.getD_some]
  rw [integralAt, line]
  exact SummedArea.row_getD _ (Nat.le_pred_of_lt inX) y

/-- The four entries of the wrapped table give the window sum, wrapped. -/
lemma integralRectangleSum_eq (term : ℕ → ℕ → ℤ) {x y : ℕ} (inX : x < imageWidth)
    (inY : y < imageHeight) (radius : ℕ) :
    integralRectangleSum (integralTable term) x y radius =
      UInt32.ofInt (neighborhoodSum term x y radius) := by
  unfold integralRectangleSum neighborhoodSum
  dsimp only
  rw [integralAt_table term, integralAt_table term, integralAt_table term, integralAt_table term,
    SummedArea.corner_rectangle, ofInt_sum]
  · exact Finset.sum_congr rfl fun j _ => (ofInt_sum _ _).symm
  all_goals
    simp only [imageWidth, imageHeight] at *
    omega

lemma tensorHorizontal_range (enhanced : FeatureImage) (x y : ℕ) :
    |tensorHorizontal enhanced x y| ≤ 1020 := by
  have right := enhancedAt_le enhanced (x + 1) y
  have rightBelow := enhancedAt_le enhanced (x + 1) (y + 1)
  have rightAbove := enhancedAt_le enhanced (x + 1) (y - 1)
  have left := enhancedAt_le enhanced (x - 1) y
  have leftBelow := enhancedAt_le enhanced (x - 1) (y + 1)
  have leftAbove := enhancedAt_le enhanced (x - 1) (y - 1)
  rw [tensorHorizontal, abs_le]
  omega

lemma tensorVertical_range (enhanced : FeatureImage) (x y : ℕ) :
    |tensorVertical enhanced x y| ≤ 1020 := by
  have below := enhancedAt_le enhanced x (y + 1)
  have belowLeft := enhancedAt_le enhanced (x - 1) (y + 1)
  have belowRight := enhancedAt_le enhanced (x + 1) (y + 1)
  have above := enhancedAt_le enhanced x (y - 1)
  have aboveLeft := enhancedAt_le enhanced (x - 1) (y - 1)
  have aboveRight := enhancedAt_le enhanced (x + 1) (y - 1)
  rw [tensorVertical, abs_le]
  omega

lemma onTensor_range {value bound : ℤ} (x y : ℕ) (within : |value| ≤ bound) :
    |onTensor x y value| ≤ bound := by
  unfold onTensor
  split
  · exact within
  · exact (abs_nonneg value).trans within

lemma tensorCross_range (enhanced : FeatureImage) (x y : ℕ) :
    |tensorCross enhanced x y| ≤ 2080800 := by
  refine onTensor_range x y ?_
  calc |2 * tensorHorizontal enhanced x y * tensorVertical enhanced x y|
      = 2 * |tensorHorizontal enhanced x y| * |tensorVertical enhanced x y| := by
        rw [abs_mul, abs_mul]
        rfl
    _ ≤ 2 * 1020 * 1020 := by
        gcongr
        · exact tensorHorizontal_range enhanced x y
        · exact tensorVertical_range enhanced x y
    _ = 2080800 := by norm_num

lemma tensorDifference_range (enhanced : FeatureImage) (x y : ℕ) :
    |tensorDifference enhanced x y| ≤ 2080800 := by
  refine onTensor_range x y ?_
  have horizontal := abs_le.mp (tensorHorizontal_range enhanced x y)
  have vertical := abs_le.mp (tensorVertical_range enhanced x y)
  rw [abs_le]
  constructor <;> nlinarith

/-- A window has at most thirteen rows and columns. -/
lemma neighborhoodSum_range {term : ℕ → ℕ → ℤ} {bound : ℤ} (within : ∀ x y, |term x y| ≤ bound)
    (x y : ℕ) : |neighborhoodSum term x y 6| ≤ 169 * bound := by
  have nonneg : 0 ≤ bound := (abs_nonneg _).trans (within 0 0)
  have few (center size : ℕ) :
      (Finset.Ico (max 1 (center - 6) - 1) (min size (center + 6))).card ≤ 13 := by
    rw [Nat.card_Ico]
    omega
  have column (j : ℕ) : |∑ i ∈ Finset.Ico (max 1 (x - 6) - 1) (min (imageWidth - 1) (x + 6)),
      term (i + 1) (j + 1)| ≤ 13 * bound := by
    refine (Finset.abs_sum_le_sum_abs _ _).trans ?_
    refine (Finset.sum_le_card_nsmul _ _ bound fun i _ => within _ _).trans ?_
    rw [nsmul_eq_mul]
    exact mul_le_mul_of_nonneg_right (by exact_mod_cast few x (imageWidth - 1)) nonneg
  unfold neighborhoodSum
  refine (Finset.abs_sum_le_sum_abs _ _).trans ?_
  refine (Finset.sum_le_card_nsmul _ _ (13 * bound) fun j _ => column j).trans ?_
  rw [nsmul_eq_mul]
  calc _ ≤ (13 : ℤ) * (13 * bound) :=
        mul_le_mul_of_nonneg_right (by exact_mod_cast few y (imageHeight - 1))
          (mul_nonneg (by norm_num) nonneg)
    _ = 169 * bound := by ring

/-- No window sum wraps, whatever the table entries do. -/
lemma toInt_integralRectangleSum {term : ℕ → ℕ → ℤ} (within : ∀ x y, |term x y| ≤ 2080800)
    {x y : ℕ} (inX : x < imageWidth) (inY : y < imageHeight) :
    (integralRectangleSum (integralTable term) x y 6).toInt32.toInt =
      neighborhoodSum term x y 6 := by
  have small := abs_le.mp (neighborhoodSum_range within x y)
  rw [integralRectangleSum_eq term inX inY, toInt_toInt32_ofInt] <;> omega

/-! ### The direction of a ridge -/

/-- The direction from the window sums themselves. -/
def ridgeDirection (enhanced : FeatureImage) (x y : ℕ) : ℕ :=
  (ridgeDegrees (cordicMagnitudeOrientation (neighborhoodSum (tensorDifference enhanced) x y 6)
    (neighborhoodSum (tensorCross enhanced) x y 6)).1.toInt16.toInt).toNat

lemma ridgeDegrees_lt {angle : ℤ} (low : -directionLimit ≤ angle) (high : angle ≤ directionLimit) :
    (ridgeDegrees angle).toNat < 180 := by
  unfold directionLimit at low high
  unfold ridgeDegrees shiftRight
  dsimp only
  have turned : 0 ≤ (if angle < 0 then angle + 0x6488 else angle) ∧
      (if angle < 0 then angle + 0x6488 else angle) ≤ 0x6488 := by
    split <;> omega
  generalize (if angle < 0 then angle + 0x6488 else angle) = full at *
  have adjusted : 1 ≤ (if full * 0x1ca6 / 2 ^ 20 - 0x87 ≤ 0 then full * 0x1ca6 / 2 ^ 20 + 0x2d
        else full * 0x1ca6 / 2 ^ 20 - 0x87) ∧
      (if full * 0x1ca6 / 2 ^ 20 - 0x87 ≤ 0 then full * 0x1ca6 / 2 ^ 20 + 0x2d
        else full * 0x1ca6 / 2 ^ 20 - 0x87) ≤ 180 := by
    split <;> omega
  generalize (if full * 0x1ca6 / 2 ^ 20 - 0x87 ≤ 0 then full * 0x1ca6 / 2 ^ 20 + 0x2d
    else full * 0x1ca6 / 2 ^ 20 - 0x87) = rest at *
  simp only [UInt8.ofInt, UInt8.toNat_ofNat']
  omega

lemma ridgeDirection_lt (enhanced : FeatureImage) (x y : ℕ) : ridgeDirection enhanced x y < 180 :=
  ridgeDegrees_lt (cordic_direction _ _).1 (cordic_direction _ _).2

lemma buildOrientationMap_at (enhanced : FeatureImage) {x y : ℕ} (inX : x < imageWidth)
    (inY : y < imageHeight) :
    enhancedAt (buildOrientationMap enhanced) x y = ridgeDirection enhanced x y := by
  rw [buildOrientationMap]
  dsimp only
  rw [enhancedAt_planeOf _ inX inY,
    toInt_integralRectangleSum (tensorCross_range enhanced) inX inY,
    toInt_integralRectangleSum (tensorDifference_range enhanced) inX inY, ridgeDirection]

lemma directionBucket_lt {value : ℕ} (inside : value < 180) : directionBucket value < 12 := by
  unfold directionBucket
  split <;> omega

/-! ### The average along the ridge -/

/-- The pixel itself is the sample with the largest weight in every direction. -/
lemma center_mem_directionSamples (enhanced : FeatureImage) {x y bucket : ℕ}
    (inX : x < imageWidth) (inY : y < imageHeight) (inside : bucket < 12) :
    (enhancedAt enhanced x y, 8) ∈ directionSamples enhanced x y bucket := by
  have listed :
      (((0 : ℤ), (0 : ℤ)), 8) ∈ (directionOffsets.getD bucket []).zip directionWeights := by
    have all : ∀ bucket < 12, (((0 : ℤ), (0 : ℤ)), 8) ∈
        (directionOffsets.getD bucket []).zip directionWeights := by decide
    exact all bucket inside
  refine List.mem_map.mpr ⟨((0, 0), 8), List.mem_filter.mpr ⟨listed, ?_⟩, ?_⟩
  · rw [sampleInside, decide_eq_true_eq]
    simp only [imageWidth, imageHeight] at *
    omega
  · rw [show ((x : ℤ) + ((0 : ℤ), (0 : ℤ)).1).toNat = x by simp,
      show ((y : ℤ) + ((0 : ℤ), (0 : ℤ)).2).toNat = y by simp]

/-- Every sample is a pixel of the image. -/
lemma directionSamples_inside {enhanced : FeatureImage} {x y bucket : ℕ} {sample : ℕ × ℕ}
    (listed : sample ∈ directionSamples enhanced x y bucket) :
    ∃ x' < imageWidth, ∃ y' < imageHeight, sample.1 = enhancedAt enhanced x' y' := by
  obtain ⟨offset, chosen, rfl⟩ := List.mem_map.mp listed
  have inside := (List.mem_filter.mp chosen).2
  rw [sampleInside, decide_eq_true_eq] at inside
  exact ⟨((x : ℤ) + offset.1.1).toNat, by omega, ((y : ℤ) + offset.1.2).toNat, by omega, rfl⟩

/-- A weighted sum lies between the bounds of its values. -/
lemma weightedSum_between {samples : List (ℕ × ℕ)} {low high : ℕ}
    (within : ∀ sample ∈ samples, low ≤ sample.1 ∧ sample.1 ≤ high) :
    low * (samples.map Prod.snd).sum ≤ (samples.map fun sample => sample.1 * sample.2).sum ∧
      (samples.map fun sample => sample.1 * sample.2).sum ≤ high * (samples.map Prod.snd).sum := by
  induction samples with
  | nil => simp
  | cons sample rest ih =>
    obtain ⟨below, above⟩ := ih fun other listed => within other (List.mem_cons_of_mem _ listed)
    obtain ⟨low_le, le_high⟩ := within sample List.mem_cons_self
    simp only [List.map_cons, List.sum_cons]
    constructor
    · rw [Nat.mul_add]
      exact Nat.add_le_add (Nat.mul_le_mul_right _ low_le) below
    · rw [Nat.mul_add]
      exact Nat.add_le_add (Nat.mul_le_mul_right _ le_high) above

/-- The average of bytes is a byte between their bounds. -/
lemma preparedPixel_between {samples : List (ℕ × ℕ)} {low high : ℕ}
    (within : ∀ sample ∈ samples, low ≤ sample.1 ∧ sample.1 ≤ high) (byte : high ≤ 255)
    (positive : 0 < (samples.map Prod.snd).sum) :
    (preparedPixel samples).toNat =
        (samples.map fun sample => sample.1 * sample.2).sum / (samples.map Prod.snd).sum ∧
      low ≤ (preparedPixel samples).toNat ∧ (preparedPixel samples).toNat ≤ high := by
  obtain ⟨below, above⟩ := weightedSum_between within
  have average_low : low ≤ (samples.map fun sample => sample.1 * sample.2).sum /
      (samples.map Prod.snd).sum := (Nat.le_div_iff_mul_le positive).mpr below
  have average_high : (samples.map fun sample => sample.1 * sample.2).sum /
      (samples.map Prod.snd).sum ≤ high := by
    rw [Nat.mul_comm] at above
    exact Nat.div_le_of_le_mul above
  have average : (preparedPixel samples).toNat =
      (samples.map fun sample => sample.1 * sample.2).sum / (samples.map Prod.snd).sum := by
    rw [preparedPixel, if_pos positive.ne', Nat.toUInt8_eq, UInt8.toNat_ofNat',
      Nat.mod_eq_of_lt (by omega)]
  rw [average]
  exact ⟨rfl, average_low, average_high⟩

/-- The prepared image averages the enhanced one along directions that come from the exact window
sums: the tables may wrap, every direction is below 180 and selects one of the twelve rows, the
pixel itself always counts, and no value leaves the range of the image. -/
theorem prepared_image_exact (enhanced : FeatureImage) {low high : ℕ}
    (range : ∀ x < imageWidth, ∀ y < imageHeight,
      low ≤ enhancedAt enhanced x y ∧ enhancedAt enhanced x y ≤ high)
    {x y : ℕ} (inX : x < imageWidth) (inY : y < imageHeight) :
    let direction := ridgeDirection enhanced x y
    let samples := directionSamples enhanced x y (directionBucket direction)
    direction < 180 ∧ directionBucket direction < directionOffsets.length ∧
      8 ≤ (samples.map Prod.snd).sum ∧
      enhancedAt (buildPreparedImage enhanced) x y =
        (samples.map fun sample => sample.1 * sample.2).sum / (samples.map Prod.snd).sum ∧
      low ≤ enhancedAt (buildPreparedImage enhanced) x y ∧
      enhancedAt (buildPreparedImage enhanced) x y ≤ high := by
  intro direction samples
  have direction_lt : direction < 180 := ridgeDirection_lt enhanced x y
  have row := directionBucket_lt direction_lt
  have weighs : 8 ≤ (samples.map Prod.snd).sum :=
    List.single_le_sum (fun _ _ => Nat.zero_le _) 8
      (List.mem_map.mpr ⟨_, center_mem_directionSamples enhanced inX inY row, rfl⟩)
  have within : ∀ sample ∈ samples, low ≤ sample.1 ∧ sample.1 ≤ min high 255 := by
    intro sample listed
    obtain ⟨x', inX', y', inY', same⟩ := directionSamples_inside listed
    rw [same]
    exact ⟨(range x' inX' y' inY').1, le_min (range x' inX' y' inY').2 (enhancedAt_le _ _ _)⟩
  obtain ⟨average, low_le, le_high⟩ :=
    preparedPixel_between within (min_le_right _ _) (Nat.lt_of_lt_of_le (by decide) weighs)
  have pixel : enhancedAt (buildPreparedImage enhanced) x y = (preparedPixel samples).toNat := by
    rw [buildPreparedImage, enhancedAt_planeOf _ inX inY, buildOrientationMap_at enhanced inX inY]
  rw [pixel]
  exact ⟨direction_lt, row, weighs, average, low_le, le_high.trans (min_le_left _ _)⟩

/-- On a uniform image nothing changes. -/
theorem prepared_image_exact_uniform :
    enhancedAt (buildPreparedImage (planeOf fun _ _ => 7)) 3 5 = 7 := by
  have uniform : ∀ x < imageWidth, ∀ y < imageHeight,
      7 ≤ enhancedAt (planeOf fun _ _ => 7) x y ∧ enhancedAt (planeOf fun _ _ => 7) x y ≤ 7 := by
    intro x inX y inY
    rw [enhancedAt_planeOf _ inX inY]
    exact ⟨le_rfl, le_rfl⟩
  obtain ⟨-, -, -, -, low, high⟩ := prepared_image_exact (planeOf fun _ _ => 7) uniform
    (x := 3) (y := 5) (by decide) (by decide)
  exact le_antisymm high low

end GoodixSpi.Chicago
