import GoodixSpi.Chicago.Feature.ColumnImage
import GoodixSpi.Chicago.Preprocess.CandidateScores
import GoodixSpi.Chicago.Preprocess.PoorCapture
import GoodixSpi.Chicago.Preprocess.Quality

/-! What becomes of a capture. The finger covers the pixels that fall below the empty sensor; one of
two candidates is the image, and a capture of low quality is refused where its contrasts are
poor. -/

namespace GoodixSpi.Chicago

open CArithmetic

namespace Preprocessor

/-! ### `goodix_chicago_preprocessor_build_mask` -/

/-- `image_base[pixel] - current[pixel]`. -/
def pixelDifference (current imageBase : Plane) (pixel : Fin pixels) : ℤ :=
  ((imageBase.get pixel).toNat : ℤ) - (current.get pixel).toNat

/-- What the threshold is derived from. -/
def fingerDifferences (current imageBase : Plane) : List ℤ :=
  ((List.finRange pixels).map (pixelDifference current imageBase)).filter (· > 120)

def maskThreshold (current imageBase : Plane) : ℤ :=
  let differences := fingerDifferences current imageBase
  if differences.length > 0 then
    let derived := differences.sum / differences.length / 5
    if differences.length > 800 then derived else max 120 derived
  else 120

def buildMask (current imageBase : Plane) : FeatureImage := Vector.ofFn fun pixel =>
  if maskThreshold current imageBase ≠ 0 ∧
      pixelDifference current imageBase pixel ≥ maskThreshold current imageBase ∧
      current.get pixel ≠ 0x0fff then 0xff
  else 0

/-! ### `build_enhanced_prepared_internal` -/

/-- `build_alternate_source`: every column about one mean. -/
def buildAlternateSource (source : Plane) : Plane := Vector.ofFn fun pixel =>
  let mean := ((List.range imageHeight).map fun y =>
    (pixelAt source (y * imageWidth + pixel % imageWidth)).toNat).sum / imageHeight
  UInt16.ofInt (max 0 (((source.get pixel).toNat : ℤ) - mean + 5000))

variable (self : Preprocessor) (weight : Weight) (capture : Capture)

/-- The multiplier shows from the sixth capture on, and at once in a calibration without temporal
samples. -/
def visibleSource : Plane :=
  let source := self.sourcePlane capture
  let updated := self.updateAdaptiveMultiplier source
  if self.temporalSampleCount = 0 ∨ updated.adaptiveSampleCount > 5 then
    updated.buildSourcePlaneInternal (prepareFrame capture.raw) (prepareFrame self.imageBase) true
      source
  else source

/-- The finger in a capture. -/
def captureMask : FeatureImage :=
  buildMask (prepareFrame capture.raw) (prepareFrame self.imageBase)

def primaryCandidate : FeatureImage × CandidateRejectStats :=
  buildCandidateInternal (self.visibleSource capture) (self.captureMask capture)

def alternateCandidate : FeatureImage :=
  (buildCandidateInternal (buildAlternateSource (self.visibleSource capture))
    (self.captureMask capture)).1

/-- The image, and what the first candidate says of its contrasts. -/
def enhancedPrepared : Option (FeatureImage × CandidateRejectStats) := do
  let mask := self.captureMask capture
  let primary := self.primaryCandidate capture
  let alternate := self.alternateCandidate capture
  let correlation ← candidateCorrelationQ8 primary.1 alternate mask
  if selectAlternateMode24 (candidateColumnVariationScore primary.1 mask)
      (candidateColumnVariationScore alternate mask) correlation 600 then
    some (alternate, primary.2)
  else some primary

/-! ### `goodix_chicago_preprocessor_build_enhanced_checked` -/

inductive PreprocessStatus
  | ok
  | badInput
  | poorCapture
deriving DecidableEq

structure CaptureOutcome where
  status : PreprocessStatus
  enhanced : FeatureImage
  preprocessor : Preprocessor

/-- With the status and the image, which `buildEnhancedChecked` leaves out. -/
def checkedCapture : Option CaptureOutcome :=
  let current := prepareFrame capture.raw
  if mode24RawInputIsValid current then do
    let (enhanced, stats) ← self.enhancedPrepared capture
    let after ← (self.updateAdaptiveMultiplier (self.sourcePlane capture)).updateTemporalGain weight
      current (prepareFrame self.imageBase)
    let poor := (captureMetrics enhanced).quality < 35 && candidateRejectStatsIsPoorCapture stats
    some ⟨if poor then .poorCapture else .ok, enhanced, after⟩
  else some ⟨.badInput, Vector.replicate pixels 0, self⟩

/-! ### The finger -/

section Mask

variable (current imageBase : Plane)

/-- The threshold is never zero. -/
lemma maskThreshold_ge : 24 ≤ maskThreshold current imageBase := by
  unfold maskThreshold
  dsimp only
  split
  · next some_ =>
    have each : ∀ difference ∈ fingerDifferences current imageBase, (121 : ℤ) ≤ difference := by
      intro difference listed
      have above := (List.mem_filter.mp listed).2
      rw [decide_eq_true_eq] at above
      exact above
    have total := List.card_nsmul_le_sum _ 121 each
    rw [nsmul_eq_mul] at total
    have mean : 121 ≤ (fingerDifferences current imageBase).sum /
        (fingerDifferences current imageBase).length :=
      Int.le_ediv_of_mul_le (by omega) (by rwa [mul_comm])
    split <;> omega
  · decide

lemma buildMask_eq_zero_iff (pixel : Fin pixels) : (buildMask current imageBase).get pixel = 0 ↔
    pixelDifference current imageBase pixel < maskThreshold current imageBase ∨
      current.get pixel = 0x0fff := by
  have threshold := maskThreshold_ge current imageBase
  unfold buildMask
  rw [Collect.get_ofFn]
  split
  · next covered =>
    refine iff_of_false (by decide) ?_
    rintro (low | saturated)
    · omega
    · exact covered.2.2 saturated
  · next free =>
    refine iff_of_true rfl ?_
    by_contra both
    rw [not_or] at both
    exact free ⟨by omega, by omega, both.2⟩

end Mask

/-- A pixel beside the finger is white in every candidate. -/
lemma candidate_white (source : Plane) {mask : FeatureImage} {pixel : Fin pixels}
    (beside : mask.get pixel = 0) : (buildCandidateInternal source mask).1.get pixel = 0xff := by
  unfold buildCandidateInternal
  dsimp only
  rw [Collect.get_ofFn, candidateValue, if_pos beside]

variable {self weight capture}

lemma enhancedPrepared_cases :
    self.enhancedPrepared capture =
        some (self.alternateCandidate capture, (self.primaryCandidate capture).2) ∨
      self.enhancedPrepared capture = some (self.primaryCandidate capture) := by
  obtain ⟨root, -, correlated⟩ := candidateCorrelationQ8_eq (self.captureMask capture)
    (self.primaryCandidate capture).1 (self.alternateCandidate capture)
  unfold enhancedPrepared
  dsimp only
  rw [correlated, Option.bind_eq_bind, Option.bind_some]
  exact ite_eq_or_eq _ _ _

lemma primaryCandidate_white {pixel : Fin pixels}
    (beside : (self.captureMask capture).get pixel = 0) :
    (self.primaryCandidate capture).1.get pixel = 0xff := by
  unfold primaryCandidate
  exact candidate_white _ beside

lemma alternateCandidate_white {pixel : Fin pixels}
    (beside : (self.captureMask capture).get pixel = 0) :
    (self.alternateCandidate capture).get pixel = 0xff := by
  unfold alternateCandidate
  exact candidate_white _ beside

lemma enhancedPrepared_spec : ∃ enhanced,
    self.enhancedPrepared capture = some (enhanced, (self.primaryCandidate capture).2) ∧
      ∀ pixel, (self.captureMask capture).get pixel = 0 → enhanced.get pixel = 0xff := by
  rcases @enhancedPrepared_cases self capture with alternate | primary
  · exact ⟨self.alternateCandidate capture, alternate, fun _ => alternateCandidate_white⟩
  · exact ⟨(self.primaryCandidate capture).1, primary.trans (congrArg some Prod.mk.eta.symm),
      fun _ => primaryCandidate_white⟩

/-- A poor capture covers more than a fifth of the sensor. -/
lemma covers_of_poor
    (poor : candidateRejectStatsIsPoorCapture (self.primaryCandidate capture).2 = true) :
    pixels / 5 < (enabledPixels (self.captureMask capture)).length := by
  unfold primaryCandidate buildCandidateInternal at poor
  dsimp only at poor
  by_contra few
  rw [candidateRejectStatsIsPoorCapture, candidateRejectStats_uneven] at poor
  · cases poor
  · exact fun flat => few (flat.trans_le List.countP_le_length)

/-- The status of an image. -/
inductive Judged (self : Preprocessor) (capture : Capture) (enhanced : FeatureImage) :
    PreprocessStatus → Prop
  | ok : Judged self capture enhanced .ok
  | poorCapture (low : (captureMetrics enhanced).quality < 35)
      (covers : pixels / 5 < (enabledPixels (self.captureMask capture)).length) :
      Judged self capture enhanced .poorCapture

/-- A capture is refused unseen, or it makes an image and teaches the preprocessor. -/
lemma checkedCapture_cases :
    mode24RawInputIsValid (prepareFrame capture.raw) = false ∧
        self.checkedCapture weight capture =
          some ⟨.badInput, Vector.replicate pixels 0, self⟩ ∨
      mode24RawInputIsValid (prepareFrame capture.raw) = true ∧ ∃ status enhanced,
        Judged self capture enhanced status ∧
        (∀ pixel, (self.captureMask capture).get pixel = 0 → enhanced.get pixel = 0xff) ∧
        self.checkedCapture weight capture = (self.buildEnhancedChecked weight capture).map
          (CaptureOutcome.mk status enhanced) := by
  cases valid : mode24RawInputIsValid (prepareFrame capture.raw) with
  | false =>
    refine .inl ⟨rfl, ?_⟩
    unfold checkedCapture
    dsimp only
    rw [if_neg (by rw [valid]; exact Bool.false_ne_true)]
  | true =>
    obtain ⟨enhanced, made, white⟩ := @enhancedPrepared_spec self capture
    let poor := (captureMetrics enhanced).quality < 35 &&
      candidateRejectStatsIsPoorCapture (self.primaryCandidate capture).2
    have judged : Judged self capture enhanced (if poor then .poorCapture else .ok) := by
      cases verdict : poor with
      | false => exact .ok
      | true =>
        obtain ⟨low, contrasts⟩ := (Bool.and_eq_true _ _).mp verdict
        exact .poorCapture (of_decide_eq_true low) (covers_of_poor contrasts)
    refine .inr ⟨rfl, _, enhanced, judged, white, ?_⟩
    unfold checkedCapture buildEnhancedChecked
    dsimp only
    rw [if_pos valid, if_pos valid, made, Option.bind_eq_bind, Option.bind_some]
    generalize (self.updateAdaptiveMultiplier (self.sourcePlane capture)).updateTemporalGain weight
      (prepareFrame capture.raw) (prepareFrame self.imageBase) = after
    cases after with
    | none => rw [Option.bind_eq_bind, Option.bind_none, Option.map_none]
    | some after => rw [Option.bind_eq_bind, Option.bind_some, Option.map_some]

/-- What a capture teaches is what the captures of a run teach. -/
lemma checkedCapture_preprocessor :
    (self.checkedCapture weight capture).map CaptureOutcome.preprocessor =
      self.buildEnhancedChecked weight capture := by
  rcases @checkedCapture_cases self weight capture with ⟨refused, result⟩ |
    ⟨-, status, enhanced, -, -, result⟩
  · rw [result, Option.map_some]
    unfold buildEnhancedChecked
    dsimp only
    rw [if_neg (by rw [refused]; exact Bool.false_ne_true)]
  · rw [result]
    generalize self.buildEnhancedChecked weight capture = after
    cases after with
    | none => rfl
    | some after => rfl

/-! ### An untouched sensor -/

lemma captureMask_untouched (untouched : ∀ pixel, pixelDifference (prepareFrame capture.raw)
    (prepareFrame self.imageBase) pixel < 24) (pixel : Fin pixels) :
    (self.captureMask capture).get pixel = 0 :=
  (buildMask_eq_zero_iff _ _ pixel).mpr (.inl ((untouched pixel).trans_le (maskThreshold_ge _ _)))

lemma enabledPixels_of_empty {mask : FeatureImage} (empty : ∀ pixel, mask.get pixel = 0) :
    enabledPixels mask = [] :=
  List.filter_eq_nil_iff.mpr fun pixel _ => by
    rw [empty]
    decide

/-- Without a finger the image is white, and it is not poor. -/
lemma Judged.untouched {enhanced : FeatureImage} {status : PreprocessStatus}
    (judged : Judged self capture enhanced status)
    (white : ∀ pixel, (self.captureMask capture).get pixel = 0 → enhanced.get pixel = 0xff)
    (empty : ∀ pixel, (self.captureMask capture).get pixel = 0) :
    status = .ok ∧ enhanced = Vector.replicate pixels 0xff := by
  constructor
  · cases judged with
    | ok => rfl
    | poorCapture low covers =>
      rw [enabledPixels_of_empty empty] at covers
      exact absurd covers (Nat.not_lt_zero _)
  · exact Vector.ext fun pixel inside =>
      (white ⟨pixel, inside⟩ (empty ⟨pixel, inside⟩)).trans (Vector.getElem_replicate _).symm

end Preprocessor

/-! ### A uniform image -/

lemma uniform_eq (value : UInt8) :
    Vector.replicate pixels value = columnImage fun _ => value := by
  refine Vector.ext fun i inside => ?_
  rw [columnImage, Vector.getElem_replicate, Vector.getElem_ofFn]

lemma columnMagnitude_uniform (value : UInt8) (x : ℕ) : columnMagnitude (fun _ => value) x = 0 := by
  unfold columnMagnitude columnSmoothed
  split
  · rw [sub_self, mul_zero]
    rfl
  · rfl

lemma computeCoverage_uniform (value : UInt8) :
    computeCoverage (columnImage fun _ => value) = 0 := by
  have mean (x y : ℕ) : coverageMean (columnImage fun _ => value) x y = 0 := by
    unfold coverageMean windowMagnitude
    simp only [maskMagnitude_columnImage, columnMagnitude_uniform, List.map_const',
      List.sum_replicate, smul_eq_mul, mul_zero]
    rfl
  have none : activePixels (columnImage fun _ => value) = 0 := by
    unfold activePixels
    simp only [mean]
    exact List.countP_eq_zero.mpr fun place _ => by decide
  rw [computeCoverage, none]
  rfl

/-- Without a gradient no window coheres. -/
lemma windowCoherence_flat {enhanced : FeatureImage} {qualityMask : ℕ → ℕ → ℕ}
    (flat : ∀ x y, annotationGradientX enhanced qualityMask x y = 0 ∧
      annotationGradientY enhanced qualityMask x y = 0) (center : ℕ × ℕ) :
    windowCoherence enhanced qualityMask center = none ∨
      windowCoherence enhanced qualityMask center = some 0 := by
  have weak : strongPlaces enhanced qualityMask center = [] := by
    refine List.filter_eq_nil_iff.mpr fun place _ => ?_
    rw [gradientEnergy, (flat _ _).1, (flat _ _).2]
    decide
  unfold windowCoherence
  split
  · exact .inl rfl
  · split
    · exact .inl rfl
    · dsimp only
      rw [weak]
      exact .inr (if_neg (by decide))

lemma computeBaseQuality_flat {enhanced : FeatureImage} {qualityMask : ℕ → ℕ → ℕ}
    (flat : ∀ x y, annotationGradientX enhanced qualityMask x y = 0 ∧
      annotationGradientY enhanced qualityMask x y = 0) :
    computeBaseQuality enhanced qualityMask = 0 := by
  have zero : ∀ coherence ∈ windowCenters.filterMap (windowCoherence enhanced qualityMask),
      coherence = 0 := by
    intro coherence listed
    obtain ⟨center, -, counted⟩ := List.mem_filterMap.mp listed
    rcases windowCoherence_flat flat center with none | some_
    · rw [none] at counted
      cases counted
    · rw [some_] at counted
      exact (Option.some.inj counted).symm
  have total := List.sum_eq_zero zero
  unfold computeBaseQuality
  dsimp only
  rw [total]
  split
  · rfl
  · next some_ =>
    have half : (windowCenters.filterMap (windowCoherence enhanced qualityMask)).length / 2 /
        (windowCenters.filterMap (windowCoherence enhanced qualityMask)).length = 0 :=
      Nat.div_eq_of_lt (Nat.div_lt_self (Nat.pos_of_ne_zero some_) (by decide))
    rw [Int.toNat_zero, Nat.add_zero, half]

lemma captureMetrics_uniform (value : UInt8) :
    captureMetrics (columnImage fun _ => value) = ⟨0, 0⟩ := by
  have level {x y : ℕ} (inX : x < imageWidth) (inY : y < imageHeight) :
      enhancedAt (columnImage fun _ => value) x y = value.toNat := enhancedAt_columnImage inX inY
  have base : computeBaseQualityFromEnhanced (columnImage fun _ => value) = 0 := by
    refine computeBaseQuality_flat fun x y => ⟨?_, ?_⟩
    · unfold annotationGradientX
      split
      · next supported =>
        simp only [annotationSupported, Bool.and_eq_true, decide_eq_true_eq] at supported
        rw [level (by omega) (by omega), level (by omega) (by omega), sub_self]
      · rfl
    · unfold annotationGradientY
      split
      · next supported =>
        simp only [annotationSupported, Bool.and_eq_true, decide_eq_true_eq] at supported
        rw [level (by omega) (by omega), level (by omega) (by omega), sub_self]
      · rfl
  rw [captureMetrics, base, computeCoverage_uniform]
  rfl

namespace Preprocessor

/-- A capture that is refused changes nothing. The image of any other is white beside the finger, a
capture without a finger is not poor, and what a capture teaches is what the captures of a run
teach. -/
theorem checked_capture_exact (self : Preprocessor) (weight : Weight) (capture : Capture) :
    (self.checkedCapture weight capture).map CaptureOutcome.preprocessor =
        self.buildEnhancedChecked weight capture ∧
      ∀ outcome ∈ self.checkedCapture weight capture,
        (mode24RawInputIsValid (prepareFrame capture.raw) = false →
          outcome = ⟨.badInput, Vector.replicate pixels 0, self⟩) ∧
        (mode24RawInputIsValid (prepareFrame capture.raw) = true →
          Judged self capture outcome.enhanced outcome.status ∧
          (∀ pixel, (self.captureMask capture).get pixel = 0 → outcome.enhanced.get pixel = 0xff) ∧
          ((∀ pixel, pixelDifference (prepareFrame capture.raw) (prepareFrame self.imageBase)
              pixel < 24) →
            outcome.status = .ok ∧ outcome.enhanced = Vector.replicate pixels 0xff ∧
              captureMetrics outcome.enhanced = ⟨0, 0⟩)) := by
  refine ⟨checkedCapture_preprocessor, fun outcome made => ?_⟩
  rcases @checkedCapture_cases self weight capture with ⟨refused, result⟩ |
    ⟨valid, status, enhanced, judged, white, result⟩
  · rw [result] at made
    refine ⟨fun _ => (Option.some.inj made).symm, fun valid => ?_⟩
    rw [refused] at valid
    cases valid
  · rw [result] at made
    obtain ⟨after, -, rfl⟩ := Option.map_eq_some_iff.mp made
    refine ⟨fun refused => ?_, fun _ => ⟨judged, white, fun untouched => ?_⟩⟩
    · rw [valid] at refused
      cases refused
    · obtain ⟨fine, blank⟩ := judged.untouched white (captureMask_untouched untouched)
      exact ⟨fine, blank, by rw [blank, uniform_eq, captureMetrics_uniform]⟩

end Preprocessor

end GoodixSpi.Chicago
