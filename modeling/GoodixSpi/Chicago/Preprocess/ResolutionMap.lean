import GoodixSpi.Chicago.Preprocess.PromotionMask
import GoodixSpi.Chicago.Preprocess.RidgeWalk
import GoodixSpi.Chicago.Preprocess.SecondaryAnalysis

/-! The resolution map of a capture and the code that is made of it. Pixels inside the frame are
labelled from 0 to 3 by how far the ridge walks climb from them; a map with many pixels of class 3
spreads that class. -/

namespace GoodixSpi.Chicago

open CArithmetic Checked

/-! ### The planes -/

/-- `goodix_chicago_preprocessor_build_resolution_input_mask`. -/
def buildResolutionInputMask : PixelMask := Vector.ofFn fun pixel =>
  let x := (pixel : ℕ) % imageWidth
  let y := (pixel : ℕ) / imageWidth
  if x ≥ 6 ∧ x + 6 < imageWidth ∧ y ≥ 6 ∧ y + 6 < imageHeight then 0xff else 0

/-- `goodix_chicago_preprocessor_build_resolution_base_plane`. -/
def buildResolutionBasePlane (current imageBase : Plane) : Plane := Vector.ofFn fun pixel =>
  let value : ℤ := (imageBase.get pixel).toNat - (current.get pixel).toNat + 0x1bb7
  if value < 0 then 0 else UInt16.ofInt value

def secondaryKernel (tap : ℕ) : ℕ := [0x1b44, 0xc978, 0x1b44].getD tap 0

/-- `sum >> 16` over three samples. -/
def secondarySum (sample : ℕ → UInt16) : UInt16 :=
  UInt16.ofNat (((List.range 3).map fun tap => (sample tap).toNat * secondaryKernel tap).sum /
    0x10000)

/-- `goodix_chicago_preprocessor_build_resolution_secondary_plane`. -/
def buildResolutionSecondaryPlane (resolutionBase : Plane) : Plane :=
  let horizontal : Plane := Vector.ofFn fun pixel => secondarySum fun tap =>
    pixelAt resolutionBase ((pixel : ℕ) / imageWidth * imageWidth +
      temporalReflect101 (((pixel : ℕ) % imageWidth : ℕ) + (tap : ℤ) - 1) imageWidth)
  Vector.ofFn fun pixel => secondarySum fun tap =>
    pixelAt horizontal (temporalReflect101 (((pixel : ℕ) / imageWidth : ℕ) + (tap : ℤ) - 1)
      imageHeight * imageWidth + (pixel : ℕ) % imageWidth)

/-! ### `goodix_chicago_preprocessor_select_resolution_branches` -/

structure ResolutionBranches where
  useExceptional : Bool
  useNormal : Bool
  branchState : ℤ

/-- The ridges are too faint to be labelled. -/
def faintGradient (gradient : PrimaryStatistics) : Bool :=
  gradient.primaryHighSample - gradient.primaryCenterA < 40 ||
    (gradient.primaryMidSample - gradient.primaryCenterA < 30 &&
      gradient.primaryHighSample - gradient.primaryCenterA < 50) ||
    gradient.primaryHighSample < 100 ||
    (gradient.primaryMidSample < 90 && gradient.primaryHighSample < 120)

/-- Which side of the histogram reaches further, by the outer means or else by the inner ones. -/
def furtherSide (analysis : SecondaryAnalysis) : ℤ :=
  let left := analysis.balanceCenter - analysis.lowerOuterMean
  let right := analysis.upperOuterMean - analysis.balanceCenter
  if |left - right| > 100 then if left > right then 2 else 1
  else
    let left := analysis.balanceCenter - analysis.lowerInnerMean
    let right := analysis.upperInnerMean - analysis.balanceCenter
    if |left - right| > 80 then if left > right then 2 else 1 else 0

def selectResolutionBranches (analysis : SecondaryAnalysis) (gradient : PrimaryStatistics) :
    ResolutionBranches :=
  let useExceptional := analysis.upperCutoff > 0 && analysis.upperState > 0
  let useNormal := analysis.lowerCutoff > 0 && analysis.lowerState > 0
  if (useExceptional || useNormal) && faintGradient gradient then ⟨false, false, 0⟩
  else if useExceptional then
    ⟨useExceptional, useNormal, if useNormal then furtherSide analysis else 1⟩
  else ⟨useExceptional, useNormal, if useNormal then 2 else 0⟩

/-! ### `goodix_chicago_preprocessor_calculate_resolution_thresholds` -/

structure ResolutionStatistics where
  primary : PrimaryStatistics
  branchState : ℤ
  secondaryBase : ℤ
  secondaryMidSample : ℤ

structure ResolutionThresholds where
  primaryLow : ℤ
  primaryMid : ℤ
  primaryHigh : ℤ
  promotion : ℤ
  secondaryHard : ℤ
  secondaryMid : ℤ

def calculateResolutionThresholds (statistics : ResolutionStatistics) (exceptional : Bool) :
    ResolutionThresholds :=
  let center := shiftRight (statistics.primary.primaryCenterA + statistics.primary.primaryCenterB) 1
  let high := quotient ((statistics.primary.primaryHighSample - center) * 100) 100 + center
  let high := if statistics.branchState = (if exceptional then 2 else 1) then high + 60 else high
  let high := max high 600
  let delta := max (quotient ((statistics.primary.primaryMidSample - center) * 50) 100) 50
  let mid := max 250 (min (center + delta) 750)
  let low := if exceptional then min center mid else min (center + 50) mid
  { primaryLow := max low 250
    primaryMid := mid
    primaryHigh := high
    promotion := max mid (high - 60)
    secondaryHard := if exceptional then 9150 else 5250
    secondaryMid :=
      if exceptional then max statistics.secondaryMidSample (statistics.secondaryBase + 120)
      else 0 }

/-! ### The labels -/

/-- What the loop over the pixels does at one of them. -/
structure PixelVerdict where
  label : UInt8
  counted : Bool
  promoted : Bool

/-- `goodix_chicago_preprocessor_build_resolution_labels`, at a pixel. -/
def resolutionVerdict (thresholds : ResolutionThresholds) (primary secondary : ℤ)
    (label : UInt8) : PixelVerdict :=
  if secondary < thresholds.secondaryHard ∨ primary > thresholds.primaryHigh then ⟨3, true, true⟩
  else if label = 0 then
    if primary > thresholds.primaryMid then ⟨2, false, false⟩
    else if primary > thresholds.primaryLow then ⟨1, false, false⟩
    else ⟨label, false, false⟩
  else ⟨label, false, false⟩

/-- `goodix_chicago_preprocessor_build_exceptional_resolution_labels`, at a pixel. The second way
to class 3 counts and is no seed. -/
def exceptionalVerdict (thresholds : ResolutionThresholds) (primary secondary : ℤ)
    (label : UInt8) : PixelVerdict :=
  if secondary > thresholds.secondaryHard ∨ primary > thresholds.primaryHigh then ⟨3, true, true⟩
  else if primary > thresholds.primaryMid then
    if secondary > thresholds.secondaryMid then ⟨3, true, false⟩ else ⟨2, false, false⟩
  else if primary > thresholds.primaryLow then ⟨1, false, false⟩
  else ⟨label, false, false⟩

/-- The loop passes over the pixels outside the mask. -/
def verdictAt (verdict : ℤ → ℤ → UInt8 → PixelVerdict) (primary secondary : Plane)
    (inputMask labels : PixelMask) (pixel : Fin pixels) : PixelVerdict :=
  if inputMask.get pixel = 0 then ⟨labels.get pixel, false, false⟩
  else verdict (primary.get pixel).toInt16.toInt (secondary.get pixel).toInt16.toInt
    (labels.get pixel)

/-- The loop, and the promotion behind it. -/
def labelPixels (verdict : ℤ → ℤ → UInt8 → PixelVerdict) (primary secondary : Plane)
    (inputMask : PixelMask) (promotion : ℤ) (labels : PixelMask) : PixelMask :=
  let found := verdictAt verdict primary secondary inputMask labels
  if (List.finRange pixels).countP (fun pixel => (found pixel).counted) > 50 then
    let promotionMask := expandResolutionPromotionMask primary promotion
      (Vector.ofFn fun pixel => if (found pixel).promoted then 0xff else 0)
    Vector.ofFn fun pixel => if promotionMask.get pixel ≠ 0 then 3 else (found pixel).label
  else Vector.ofFn fun pixel => (found pixel).label

def buildResolutionLabels (primary secondary : Plane) (inputMask : PixelMask)
    (thresholds : ResolutionThresholds) (labels : PixelMask) : PixelMask :=
  labelPixels (resolutionVerdict thresholds) primary secondary inputMask thresholds.promotion labels

def buildExceptionalResolutionLabels (primary secondary : Plane) (inputMask : PixelMask)
    (thresholds : ResolutionThresholds) (labels : PixelMask) : PixelMask :=
  labelPixels (exceptionalVerdict thresholds) primary secondary inputMask thresholds.promotion
    labels

/-! ### `goodix_chicago_preprocessor_build_resolution_map_labels_full` -/

/-- One of the two branches, with its thresholds. -/
def labelBranch (secondary : Plane) (inputMask : PixelMask) (analysis : SecondaryAnalysis)
    (branchState gradientThreshold : ℤ) (exceptional : Bool) (labels : PixelMask) :
    Option PixelMask := do
  let cutoff := if exceptional then analysis.upperCutoff else analysis.lowerCutoff
  let primary ← buildResolutionPrimaryPlane secondary inputMask cutoff gradientThreshold exceptional
  let statistics ← calculateResolutionPrimaryStatistics primary inputMask
  let thresholds := calculateResolutionThresholds
    ⟨statistics, branchState, cutoff, analysis.upperMidSample⟩ exceptional
  some (if exceptional then
      buildExceptionalResolutionLabels primary secondary inputMask thresholds labels
    else buildResolutionLabels primary secondary inputMask thresholds labels)

def branchIf (taken : Bool) (branch : PixelMask → Option PixelMask) (labels : PixelMask) :
    Option PixelMask :=
  if taken then branch labels else some labels

/-- The labels and the state of the peaks. -/
def buildResolutionMapLabelsFull (secondary : Plane) (inputMask : PixelMask) :
    Option (PixelMask × ℤ) := do
  let analysis ← calculateResolutionSecondaryAnalysis secondary inputMask
  let filteredGradient := buildResolutionFilteredGradient secondary inputMask
  let gradientStatistics ← calculateResolutionPrimaryStatistics filteredGradient inputMask
  let branches := selectResolutionBranches analysis gradientStatistics
  let gradientThreshold ← calculateResolutionGradientThreshold filteredGradient inputMask
  let branch := labelBranch secondary inputMask analysis branches.branchState gradientThreshold
  let labels ← branchIf branches.useExceptional (branch true) (Vector.replicate pixels 0)
  let labels ← branchIf branches.useNormal (branch false) labels
  some (labels, analysis.peakState)

/-- `goodix_chicago_preprocessor_build_resolution_map_full`. -/
def buildResolutionMapFull (imageBase raw : Plane) : Option (PixelMask × ℤ) :=
  buildResolutionMapLabelsFull
    (buildResolutionSecondaryPlane
      (buildResolutionBasePlane (prepareFrame raw) (prepareFrame imageBase)))
    buildResolutionInputMask

/-! ### `goodix_chicago_preprocessor_classify_resolution_labels` -/

structure ResolutionClass where
  labels : PixelMask
  code : ℕ
  auxiliary : Bool

/-- The code of a map by its counts. -/
def resolutionCode (mode class1And3 class2 class3 validPixelCount : ℕ) : ℕ × Bool :=
  let percentage := if mode = 0x18 ∨ mode = 0x1a then 20 else 15
  let class3Limit := if mode = 0x18 ∨ mode = 0x1a then 770 else 300
  if class3 * 100 > validPixelCount * percentage then (8, true)
  else if class3 > class3Limit then (7, true)
  else if (class1And3 + class2) * 100 > validPixelCount * 25 then (7, class3 > 150)
  else if class3 > 150 then (6, true)
  else if class2 > 600 ∨ class1And3 > 500 then (6, false)
  else if class2 > 300 ∨ class1And3 > 300 ∨ class1And3 + class2 > 300 then (5, false)
  else (0, false)

/-- Only class 3 keeps its label among the first pixels. -/
def classifyResolutionLabels (mode : ℕ) (labels : PixelMask) (pixelCount validPixelCount : ℕ) :
    ResolutionClass :=
  let counted := labels.toList.take pixelCount
  let class3 := counted.count 3
  let found := resolutionCode mode (counted.count 1 + class3) (counted.count 2) class3
    validPixelCount
  { labels := Vector.ofFn fun pixel =>
      if (pixel : ℕ) < pixelCount ∧ (labels.get pixel = 1 ∨ labels.get pixel = 2) then 0
      else labels.get pixel
    code := found.1
    auxiliary := found.2 }

/-- `goodix_chicago_preprocessor_pack_resolution_code`. -/
def packResolutionCode (code : ℕ) : UInt32 :=
  UInt32.ofNat ([0, 2, 2, 3, 0, 1, 2, 4, 5, 5].getD code 0) <<< 8

/-! ### Labels -/

/-- Classes inside the frame, nothing outside. -/
def Labelled (inputMask labels : PixelMask) : Prop :=
  ∀ pixel, labels.get pixel ≤ 3 ∧ (inputMask.get pixel = 0 → labels.get pixel = 0)

lemma labelled_start (inputMask : PixelMask) : Labelled inputMask (Vector.replicate pixels 0) := by
  intro pixel
  rw [Collect.get_replicate]
  exact ⟨by decide, fun _ => rfl⟩

lemma calculateResolutionThresholds_ordered (statistics : ResolutionStatistics)
    (exceptional : Bool) :
    let thresholds := calculateResolutionThresholds statistics exceptional
    250 ≤ thresholds.primaryLow ∧ thresholds.primaryLow ≤ thresholds.primaryMid ∧
      thresholds.primaryMid ≤ 750 ∧ 600 ≤ thresholds.primaryHigh ∧
      thresholds.primaryMid ≤ thresholds.promotion ∧
      thresholds.primaryHigh - 60 ≤ thresholds.promotion := by
  unfold calculateResolutionThresholds
  dsimp only
  generalize shiftRight _ 1 = center
  cases exceptional <;> simp only [Bool.false_eq_true, if_true, if_false] <;> omega

lemma resolutionVerdict_le (thresholds : ResolutionThresholds) (primary secondary : ℤ)
    {label : UInt8} (small : label ≤ 3) :
    (resolutionVerdict thresholds primary secondary label).label ≤ 3 := by
  unfold resolutionVerdict
  repeat' split
  all_goals first | exact small | decide

lemma exceptionalVerdict_le (thresholds : ResolutionThresholds) (primary secondary : ℤ)
    {label : UInt8} (small : label ≤ 3) :
    (exceptionalVerdict thresholds primary secondary label).label ≤ 3 := by
  unfold exceptionalVerdict
  repeat' split
  all_goals first | exact small | decide

/-- The promotion does not reach a pixel below its threshold that is no seed. -/
lemma not_promoted {primary : Plane} {promotion : ℤ} {seeds : PixelMask} {pixel : Fin pixels}
    (below : (primary.get pixel).toInt16.toInt < promotion) (unseeded : seeds.get pixel = 0) :
    (expandResolutionPromotionMask primary promotion seeds).get pixel = 0 := by
  have value (mask : PixelMask) : maskAt mask pixel = mask.get pixel := maskAt_eq mask pixel.2
  have kept : ¬Promoted primary promotion seeds pixel := by
    rintro (seed | ⟨seed, -, is, path⟩)
    · exact seed ((value seeds).trans unseeded)
    · rcases Relation.ReflTransGen.cases_tail path with same | ⟨before, -, last⟩
      · rw [← same] at is
        exact is ((value seeds).trans unseeded)
      · have reaches := last.2.2
        rw [pixelAt_eq primary pixel.2] at reaches
        exact absurd reaches (not_le.mpr below)
  rw [← value]
  rcases expandInOrder_values interiorPixels primary promotion seeds pixel with full | empty
  · exact absurd ((expandInOrder_iff primary promotion seeds (List.Perm.refl _) pixel).mp full) kept
  · exact empty

/-- The promotion needs more than any pixel outside the frame has. -/
lemma promotion_positive (statistics : ResolutionStatistics) (exceptional : Bool) :
    0 < (calculateResolutionThresholds statistics exceptional).promotion := by
  obtain ⟨low, mid, -, -, above, -⟩ := calculateResolutionThresholds_ordered statistics exceptional
  omega

section Labels

variable {verdict : ℤ → ℤ → UInt8 → PixelVerdict} {primary secondary : Plane}
  {inputMask labels : PixelMask} {promotion : ℤ}

lemma verdictAt_outside {pixel : Fin pixels} (outside : inputMask.get pixel = 0) :
    verdictAt verdict primary secondary inputMask labels pixel =
      ⟨labels.get pixel, false, false⟩ := if_pos outside

/-- The entries of the labels behind the promotion. -/
lemma labelPixels_cases (verdict : ℤ → ℤ → UInt8 → PixelVerdict) (primary secondary : Plane)
    (inputMask : PixelMask) (promotion : ℤ) (labels : PixelMask) (pixel : Fin pixels) :
    let found := labelPixels verdict primary secondary inputMask promotion labels
    let value := verdict (primary.get pixel).toInt16.toInt (secondary.get pixel).toInt16.toInt
      (labels.get pixel)
    (inputMask.get pixel = 0 → (primary.get pixel).toInt16.toInt < promotion →
        found.get pixel = labels.get pixel) ∧
      (inputMask.get pixel ≠ 0 → found.get pixel = 3 ∨ found.get pixel = value.label) := by
  unfold labelPixels
  dsimp only
  split
  · rw [Collect.get_ofFn]
    constructor
    · intro outside below
      have unseeded : (Vector.ofFn fun pixel =>
          if (verdictAt verdict primary secondary inputMask labels pixel).promoted then 0xff
          else (0 : UInt8)).get pixel = 0 := by
        rw [Collect.get_ofFn, verdictAt_outside outside, if_neg Bool.false_ne_true]
      rw [if_neg (not_not.mpr (not_promoted below unseeded)), verdictAt_outside outside]
    · intro inside
      rw [verdictAt, if_neg inside]
      exact ite_eq_or_eq _ _ _
  · rw [Collect.get_ofFn]
    constructor
    · intro outside _
      rw [verdictAt_outside outside]
    · intro inside
      rw [verdictAt, if_neg inside]
      exact .inr rfl

lemma labelPixels_labelled
    (classes : ∀ primary secondary label, label ≤ 3 → (verdict primary secondary label).label ≤ 3)
    (positive : 0 < promotion)
    (empty : ∀ pixel, inputMask.get pixel = 0 → primary.get pixel = 0)
    (before : Labelled inputMask labels) :
    Labelled inputMask (labelPixels verdict primary secondary inputMask promotion labels) := by
  intro pixel
  obtain ⟨kept, given⟩ :=
    labelPixels_cases verdict primary secondary inputMask promotion labels pixel
  by_cases outside : inputMask.get pixel = 0
  · have below : (primary.get pixel).toInt16.toInt < promotion := by
      rw [empty pixel outside]
      exact positive
    rw [kept outside below]
    exact before pixel
  · refine ⟨?_, fun zero => absurd zero outside⟩
    rcases given outside with top | same
    · rw [top]
      exact UInt8.le_refl 3
    · rw [same]
      exact classes _ _ _ (before pixel).1

/-- The second branch lowers no class. -/
lemma resolutionVerdict_ge (thresholds : ResolutionThresholds) (primary secondary : ℤ)
    {label : UInt8} (small : label ≤ 3) :
    label ≤ (resolutionVerdict thresholds primary secondary label).label := by
  unfold resolutionVerdict
  split
  · exact small
  · split
    · next zero =>
      rw [zero]
      exact UInt8.zero_le
    · exact UInt8.le_refl _

lemma buildResolutionLabels_ge (thresholds : ResolutionThresholds)
    (before : Labelled inputMask labels) (pixel : Fin pixels) : labels.get pixel ≤
      (buildResolutionLabels primary secondary inputMask thresholds labels).get pixel := by
  obtain ⟨kept, given⟩ := labelPixels_cases (resolutionVerdict thresholds) primary secondary
    inputMask thresholds.promotion labels pixel
  unfold buildResolutionLabels
  by_cases outside : inputMask.get pixel = 0
  · rw [(before pixel).2 outside]
    exact UInt8.zero_le
  · rcases given outside with top | same
    · rw [top]
      exact (before pixel).1
    · rw [same]
      exact resolutionVerdict_ge thresholds _ _ (before pixel).1

end Labels

/-! ### The branches -/

variable {secondary : Plane} {inputMask : PixelMask}

lemma calculateResolutionPrimaryStatistics_returns (primary : Plane) (inputMask : PixelMask) :
    Returns (calculateResolutionPrimaryStatistics primary inputMask) fun _ => True :=
  (calculateResolutionHistogramStatistics_returns primary inputMask 2 true).bind
    fun _ _ => .some trivial

lemma calculateResolutionGradientThreshold_returns (filteredGradient : Plane)
    (inputMask : PixelMask) :
    Returns (calculateResolutionGradientThreshold filteredGradient inputMask) fun _ => True :=
  (calculateResolutionHistogramStatistics_returns filteredGradient inputMask 1 false).bind
    fun _ _ => .some trivial

/-- No walk starts outside the mask. -/
lemma buildResolutionPrimaryPlane_empty (secondary : Plane) (inputMask : PixelMask)
    (secondaryThreshold gradientThreshold : ℤ) (exceptional : Bool) :
    Returns (buildResolutionPrimaryPlane secondary inputMask secondaryThreshold gradientThreshold
        exceptional) fun primary =>
      ∀ pixel, inputMask.get pixel = 0 → primary.get pixel = 0 := by
  obtain ⟨primary, made, entries⟩ := buildResolutionPrimaryPlane_made secondary inputMask
    secondaryThreshold gradientThreshold exceptional
  refine ⟨primary, made, fun pixel outside => ?_⟩
  have entry := entries pixel pixel.2
  have passed : walkStarts secondary inputMask secondaryThreshold gradientThreshold exceptional
      pixel = false := by
    have disabled : maskAt inputMask pixel = 0 := (maskAt_eq inputMask pixel.2).trans outside
    rw [walkStarts, disabled]
    rfl
  rw [passed, if_neg Bool.false_ne_true, pixelAt_eq primary pixel.2] at entry
  exact entry

lemma exceptionalLabels_labelled {primary : Plane} {labels : PixelMask}
    (statistics : ResolutionStatistics)
    (empty : ∀ pixel, inputMask.get pixel = 0 → primary.get pixel = 0)
    (before : Labelled inputMask labels) :
    Labelled inputMask (buildExceptionalResolutionLabels primary secondary inputMask
      (calculateResolutionThresholds statistics true) labels) := by
  unfold buildExceptionalResolutionLabels
  exact labelPixels_labelled
    (fun primary secondary _ small => exceptionalVerdict_le _ primary secondary small)
    (promotion_positive statistics true) empty before

lemma resolutionLabels_labelled {primary : Plane} {labels : PixelMask}
    (statistics : ResolutionStatistics)
    (empty : ∀ pixel, inputMask.get pixel = 0 → primary.get pixel = 0)
    (before : Labelled inputMask labels) :
    Labelled inputMask (buildResolutionLabels primary secondary inputMask
      (calculateResolutionThresholds statistics false) labels) := by
  unfold buildResolutionLabels
  exact labelPixels_labelled
    (fun primary secondary _ small => resolutionVerdict_le _ primary secondary small)
    (promotion_positive statistics false) empty before

/-- A branch labels the pixels of the mask, and the second one lowers no class. -/
lemma labelBranch_returns (analysis : SecondaryAnalysis) (branchState gradientThreshold : ℤ)
    (exceptional : Bool) {labels : PixelMask} (before : Labelled inputMask labels) :
    Returns (labelBranch secondary inputMask analysis branchState gradientThreshold exceptional
        labels) fun after =>
      Labelled inputMask after ∧
        (exceptional = false → ∀ pixel, labels.get pixel ≤ after.get pixel) := by
  unfold labelBranch
  dsimp only
  refine (buildResolutionPrimaryPlane_empty secondary inputMask _ gradientThreshold
    exceptional).bind fun primary empty => ?_
  refine (calculateResolutionPrimaryStatistics_returns primary inputMask).bind
    fun statistics _ => .some ?_
  cases exceptional with
  | true =>
    rw [if_pos rfl]
    exact ⟨exceptionalLabels_labelled _ empty before, fun second => absurd second (by decide)⟩
  | false =>
    rw [if_neg Bool.false_ne_true]
    exact ⟨resolutionLabels_labelled _ empty before, fun _ => buildResolutionLabels_ge _ before⟩

lemma branchIf_returns {branch : PixelMask → Option PixelMask} {P : PixelMask → Prop}
    (keeps : ∀ labels, P labels → Returns (branch labels) P) (taken : Bool) {labels : PixelMask}
    (before : P labels) : Returns (branchIf taken branch labels) P := by
  cases taken with
  | false => exact .some before
  | true => exact keeps labels before

lemma buildResolutionMapLabelsFull_returns (secondary : Plane) (inputMask : PixelMask) :
    Returns (buildResolutionMapLabelsFull secondary inputMask) fun found =>
      Labelled inputMask found.1 := by
  unfold buildResolutionMapLabelsFull
  refine (calculateResolutionSecondaryAnalysis_returns secondary inputMask).bind
    fun analysis _ => ?_
  refine (calculateResolutionPrimaryStatistics_returns _ inputMask).bind fun gradient _ => ?_
  refine (calculateResolutionGradientThreshold_returns _ inputMask).bind
    fun gradientThreshold _ => ?_
  dsimp only
  generalize selectResolutionBranches analysis gradient = branches
  have branch (exceptional : Bool) (labels : PixelMask) (before : Labelled inputMask labels) :
      Returns (labelBranch secondary inputMask analysis branches.branchState gradientThreshold
        exceptional labels) (Labelled inputMask) :=
    (labelBranch_returns analysis branches.branchState gradientThreshold exceptional before).mono
      fun _ after => after.1
  exact (branchIf_returns (branch true) branches.useExceptional (labelled_start inputMask)).bind
    fun first labelled => (branchIf_returns (branch false) branches.useNormal labelled).bind
      fun second labelled => .some labelled

/-! ### The code -/

/-- A fifth or a seventh of a whole sensor is far above the 150 pixels of the last test. -/
lemma resolutionCode_auxiliary (mode class1And3 class2 class3 : ℕ) :
    (resolutionCode mode class1And3 class2 class3 pixels).2 = true ↔ 150 < class3 := by
  unfold resolutionCode
  simp only [pixels, imageWidth, imageHeight]
  split <;> (repeat' split) <;> simp <;> omega

lemma resolutionCode_mem (mode class1And3 class2 class3 validPixelCount : ℕ) :
    (resolutionCode mode class1And3 class2 class3 validPixelCount).1 ∈ [0, 5, 6, 7, 8] := by
  unfold resolutionCode
  dsimp only
  generalize (if mode = 0x18 ∨ mode = 0x1a then 20 else 15) = percentage
  generalize (if mode = 0x18 ∨ mode = 0x1a then 770 else 300) = class3Limit
  repeat' split
  all_goals simp

/-- More pixels of the classes, no lower a code. -/
lemma resolutionCode_mono (mode validPixelCount : ℕ) {a b c a' b' c' : ℕ} (ones : a ≤ a')
    (twos : b ≤ b') (threes : c ≤ c') : (resolutionCode mode a b c validPixelCount).1 ≤
      (resolutionCode mode a' b' c' validPixelCount).1 := by
  unfold resolutionCode
  dsimp only
  generalize (if mode = 0x18 ∨ mode = 0x1a then 20 else 15) = percentage
  generalize (if mode = 0x18 ∨ mode = 0x1a then 770 else 300) = class3Limit
  generalize validPixelCount * percentage = eighth
  repeat' split
  all_goals omega

/-- The packed scale of a code rises with it, over the codes that there are. -/
lemma packResolutionCode_mono : ∀ code ∈ [0, 5, 6, 7, 8], ∀ code' ∈ [0, 5, 6, 7, 8], code ≤ code' →
    packResolutionCode code ≤ packResolutionCode code' := by decide

lemma packResolutionCode_mem : ∀ code ∈ [0, 5, 6, 7, 8],
    packResolutionCode code ∈ [0, 0x100, 0x200, 0x400, 0x500] := by decide

/-- What is read off the labels of a whole sensor. -/
structure Classified (labels : PixelMask) (found : ResolutionClass) : Prop where
  keeps : ∀ pixel, found.labels.get pixel = if labels.get pixel = 3 then 3 else 0
  auxiliary : found.auxiliary = true ↔ 150 < labels.toList.count 3
  packed : packResolutionCode found.code ∈ [0, 0x100, 0x200, 0x400, 0x500]

lemma class_cases {label : UInt8} (small : label ≤ 3) :
    (if label = 1 ∨ label = 2 then 0 else label) = if label = 3 then 3 else 0 := by
  have cases : label.toNat = 0 ∨ label.toNat = 1 ∨ label.toNat = 2 ∨ label.toNat = 3 := by
    have bound := UInt8.le_iff_toNat_le.mp small
    have three : (3 : UInt8).toNat = 3 := rfl
    omega
  rcases cases with zero | one | two | three
  · rw [show label = 0 from UInt8.toNat_inj.mp zero]
    rfl
  · rw [show label = 1 from UInt8.toNat_inj.mp one]
    rfl
  · rw [show label = 2 from UInt8.toNat_inj.mp two]
    rfl
  · rw [show label = 3 from UInt8.toNat_inj.mp three]
    rfl

lemma classifyResolutionLabels_spec (mode : ℕ) {labels : PixelMask}
    (labelled : Labelled inputMask labels) :
    Classified labels (classifyResolutionLabels mode labels pixels pixels) where
  keeps pixel := by
    unfold classifyResolutionLabels
    dsimp only
    rw [Collect.get_ofFn, ← class_cases (labelled pixel).1]
    simp only [pixel.2, true_and]
  auxiliary := by
    have all : labels.toList.take pixels = labels.toList :=
      List.take_of_length_le (Vector.length_toList).le
    unfold classifyResolutionLabels
    dsimp only
    rw [all]
    exact resolutionCode_auxiliary mode _ _ _
  packed := packResolutionCode_mem _ (resolutionCode_mem mode _ _ _ _)

/-- Only pixels at least 6 away from every edge are labelled. -/
lemma Labelled.framed {labels : PixelMask} (labelled : Labelled buildResolutionInputMask labels)
    {pixel : Fin pixels} (classed : labels.get pixel ≠ 0) :
    6 ≤ (pixel : ℕ) % imageWidth ∧ (pixel : ℕ) % imageWidth + 6 < imageWidth ∧
      6 ≤ (pixel : ℕ) / imageWidth ∧ (pixel : ℕ) / imageWidth + 6 < imageHeight := by
  by_contra outside
  refine classed ((labelled pixel).2 ?_)
  rw [buildResolutionInputMask, Collect.get_ofFn]
  exact if_neg outside

/-- The map of every capture is computed: no walk, histogram or interpolation of it leaves its array
or divides by zero. It labels pixels inside the frame with the classes, the second branch lowers no
class, and more pixels of the classes give no smaller scale. -/
theorem resolution_map_total :
    (∀ secondary inputMask, Returns (buildResolutionMapLabelsFull secondary inputMask) fun found =>
      Labelled inputMask found.1) ∧
    (∀ secondary inputMask analysis branchState gradientThreshold labels,
      Labelled inputMask labels →
      Returns (labelBranch secondary inputMask analysis branchState gradientThreshold false labels)
        fun after => ∀ pixel, labels.get pixel ≤ after.get pixel) ∧
    (∀ mode validPixelCount a b c a' b' c', a ≤ a' → b ≤ b' → c ≤ c' →
      packResolutionCode (resolutionCode mode a b c validPixelCount).1 ≤
        packResolutionCode (resolutionCode mode a' b' c' validPixelCount).1) ∧
    ∀ imageBase raw, Returns (buildResolutionMapFull imageBase raw) fun found =>
      (∀ pixel : Fin pixels, found.1.get pixel ≠ 0 → found.1.get pixel ≤ 3 ∧
        6 ≤ (pixel : ℕ) % imageWidth ∧ (pixel : ℕ) % imageWidth + 6 < imageWidth ∧
        6 ≤ (pixel : ℕ) / imageWidth ∧ (pixel : ℕ) / imageWidth + 6 < imageHeight) ∧
      ∀ mode, Classified found.1 (classifyResolutionLabels mode found.1 pixels pixels) := by
  refine ⟨buildResolutionMapLabelsFull_returns, ?_, ?_, fun imageBase raw => ?_⟩
  · intro secondary inputMask analysis branchState gradientThreshold labels before
    exact (labelBranch_returns analysis branchState gradientThreshold false before).mono
      fun _ after => after.2 rfl
  · intro mode validPixelCount a b c a' b' c' ones twos threes
    exact packResolutionCode_mono _ (resolutionCode_mem ..) _ (resolutionCode_mem ..)
      (resolutionCode_mono mode validPixelCount ones twos threes)
  · unfold buildResolutionMapFull
    exact (buildResolutionMapLabelsFull_returns _ buildResolutionInputMask).mono
      fun _ labelled => ⟨fun pixel is => ⟨(labelled pixel).1, labelled.framed is⟩,
        fun mode => classifyResolutionLabels_spec mode labelled⟩

end GoodixSpi.Chicago
