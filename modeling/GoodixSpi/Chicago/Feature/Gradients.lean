import GoodixSpi.Chicago.Feature.OrientationMap
import GoodixSpi.Chicago.Feature.OrientationPeak

/-! The gradient planes of the prepared image, and that their directions always have a bin in the
orientation histogram. -/

namespace GoodixSpi.Chicago

open CArithmetic

def gradientInputAt (input : Vector ℤ pixels) (x y : ℕ) : ℤ :=
  input.toList.getD (y * imageWidth + x) 0

/-- `CLAMP (value, -0x80000, 0x7ffff)`. -/
def clampGradient (value : ℤ) : ℤ :=
  if value > 0x7ffff then 0x7ffff else if value < -0x80000 then -0x80000 else value

def gradientHorizontal (input : Vector ℤ pixels) (x y : ℕ) : ℤ :=
  gradientInputAt input (x + 1) y - gradientInputAt input (x - 1) y

def gradientVertical (input : Vector ℤ pixels) (x y : ℕ) : ℤ :=
  gradientInputAt input x (y + 1) - gradientInputAt input x (y - 1)

/-- Direction and length at one pixel. -/
def gradientPolar (input : Vector ℤ pixels) (x y : ℕ) : UInt16 × ℤ :=
  cordicMagnitudeOrientation (clampGradient (gradientVertical input x y) * 0x1000)
    (clampGradient (gradientHorizontal input x y) * 0x1000)

/-- `goodix_chicago_feature_build_gradients`; both planes are zero on the border. -/
def buildGradients (input : Vector ℤ pixels) : MagnitudePlane × OrientationPlane :=
  let onBorder (x y : ℕ) : Bool :=
    !decide (1 ≤ x ∧ x + 1 < imageWidth ∧ 1 ≤ y ∧ y + 1 < imageHeight)
  (planeOf fun x y =>
      if onBorder x y then 0
      else min (UInt32.ofInt (shiftRight (gradientPolar input x y).2 12)) 0x3ffff,
    planeOf fun x y => if onBorder x y then 0 else (gradientPolar input x y).1.toInt16)

/-! ### Bins -/

lemma orientationBin_of_limit {direction : Int16} (low : -directionLimit ≤ direction.toInt)
    (high : direction.toInt ≤ directionLimit) :
    0 ≤ orientationBin direction ∧ orientationBin direction < 36 := by
  unfold directionLimit at low high
  unfold orientationBin quotient
  dsimp only
  rcases lt_or_ge (direction.toInt * -36 + 0x743d4) 0 with negative | nonneg
  · have zero : (direction.toInt * -36 + 0x743d4).tdiv 0x6488 = 0 := by
      rw [← neg_neg (direction.toInt * -36 + 0x743d4), Int.neg_tdiv,
        Int.tdiv_eq_ediv_of_nonneg (by omega)]
      omega
    rw [zero]
    decide
  · rw [Int.tdiv_eq_ediv_of_nonneg nonneg]
    split <;> omega

lemma orientationAt_planeOf_limit {value : ℕ → ℕ → Int16}
    (within : ∀ x y, -directionLimit ≤ (value x y).toInt ∧ (value x y).toInt ≤ directionLimit)
    (pixel : ℕ) : -directionLimit ≤ (orientationAt (planeOf value) pixel).toInt ∧
      (orientationAt (planeOf value) pixel).toInt ≤ directionLimit := by
  unfold orientationAt
  rw [List.getD_eq_getElem?_getD]
  cases found : (planeOf value).toList[pixel]? with
  | none => exact ⟨by decide, by decide⟩
  | some direction =>
    have listed := List.mem_of_getElem? found
    rw [planeOf, Vector.mem_toList_iff, Vector.mem_ofFn] at listed
    obtain ⟨index, rfl⟩ := listed
    exact within _ _

/-- Every pixel around any candidate has a bin, whatever the input of the gradients. -/
theorem buildGradients_bins (input : Vector ℤ pixels) (candidate : FeatureCandidate) :
    BinsInside (buildGradients input).2 candidate := by
  intro delta
  have within : ∀ x y : ℕ, -directionLimit ≤ (if !decide (1 ≤ x ∧ x + 1 < imageWidth ∧ 1 ≤ y ∧
      y + 1 < imageHeight) then (0 : Int16) else (gradientPolar input x y).1.toInt16).toInt ∧
      (if !decide (1 ≤ x ∧ x + 1 < imageWidth ∧ 1 ≤ y ∧ y + 1 < imageHeight) then (0 : Int16)
        else (gradientPolar input x y).1.toInt16).toInt ≤ directionLimit := by
    intro x y
    split
    · exact ⟨by decide, by decide⟩
    · exact cordic_direction _ _
  have range := orientationAt_planeOf_limit within (windowPixel candidate delta)
  exact orientationBin_of_limit range.1 range.2

end GoodixSpi.Chicago
