import GoodixSpi.Chicago.Preprocess.ResolutionPeaks

/-! The secondary resolution analysis: twenty quantiles of the enabled values, the means of the bins
below and above them, and a cutoff on either side of the centre, where the mean gap passes 400. -/

namespace GoodixSpi.Chicago

open CArithmetic Checked

structure SecondaryAnalysis where
  upperCutoff : ℤ
  upperState : ℤ
  lowerCutoff : ℤ
  lowerState : ℤ
  upperMidSample : ℤ
  balanceCenter : ℤ
  upperOuterMean : ℤ
  upperInnerMean : ℤ
  lowerOuterMean : ℤ
  lowerInnerMean : ℤ
  peakState : ℤ
  peakValue : ℤ

def SecondaryAnalysis.zero : SecondaryAnalysis := ⟨0, 0, 0, 0, 0, 0, 0, 0, 0, 0, 0, 0⟩

/-- The values that are counted. -/
def secondaryInside (secondary : Plane) (inputMask : PixelMask) : List ℤ :=
  (maskedValues secondary inputMask).filter fun value => 5250 ≤ value ∧ value ≤ 9150

def secondaryMinimum (inside : List ℤ) : ℤ := inside.foldl min 0x7fffffff

/-- Without values the difference does not fit a `gint`; the code does not use it then. -/
def secondaryRange (inside : List ℤ) : ℤ :=
  inside.foldl max (-0x80000000) - secondaryMinimum inside

def secondaryHistogram (inside : List ℤ) : Option QuantileHistogram := do
  let histogram ← buildHistogram (secondaryMinimum inside) (secondaryRange inside) inside
  let quantiles ← extractQuantiles 20 5 inside.length (secondaryRange inside) histogram
  some ⟨histogram, quantiles⟩

structure SideSample where
  lowerQuantile : ℤ
  lowerMean : ℤ
  upperQuantile : ℤ
  upperMean : ℤ

def sideSample (range minimum : ℤ) (found : QuantileHistogram) (index : ℕ) : Option SideSample := do
  let lowerBin ← read found.quantiles index
  let upperBin ← read found.quantiles (18 - index)
  let lowerMean ← meanBin found.histogram 0 (lowerBin - 1)
  let upperMean ← meanBin found.histogram upperBin 399
  some {
    lowerQuantile := scaleBin range minimum lowerBin
    lowerMean := scaleBin range minimum lowerMean
    upperQuantile := scaleBin range minimum upperBin
    upperMean := scaleBin range minimum upperMean }

/-! ### The cutoffs -/

structure Cutoff where
  state : ℤ
  cutoff : ℤ

/-- What a side computes where its gap falls below 400, and where no gap does. -/
structure Interpolation where
  between : ℕ → ℤ → ℤ → Option ℤ
  beyond : ℤ → Option ℤ

/-- The loop over the gaps of one side. -/
def cutoffLoop (gaps : List ℤ) (side : Interpolation) : List ℕ → Cutoff → Option Cutoff
  | [], found => some found
  | index :: rest, found => do
    let gap ← read gaps index
    if index = 0 ∧ gap < 400 then some found
    else if 0 < index ∧ gap < 400 then do
      let previousGap ← read gaps (index - 1)
      let cutoff ← side.between index previousGap gap
      some ⟨index, cutoff⟩
    else if index = 4 then do
      let cutoff ← side.beyond gap
      cutoffLoop gaps side rest ⟨5, cutoff⟩
    else cutoffLoop gaps side rest found

def lowerSide (center : ℤ) (lowerQuantiles : List ℤ) : Interpolation where
  between index previousGap gap := do
    let outer ← read lowerQuantiles (index - 1)
    let inner ← read lowerQuantiles index
    let share ← divide ((inner - outer) * (previousGap - 400)) (previousGap - gap + 1)
    some (outer + share)
  beyond gap := do
    let inner ← read lowerQuantiles 4
    let share ← divide ((center - inner) * (gap - 400)) (gap + 1)
    some (min (inner + share) (center - 400))

def upperSide (center : ℤ) (upperQuantiles : List ℤ) : Interpolation where
  between index previousGap gap := do
    let inner ← read upperQuantiles index
    let outer ← read upperQuantiles (index - 1)
    let share ← divide ((outer - inner) * (400 - gap)) (previousGap - gap + 1)
    some (inner + share)
  beyond _ := do
    let inner ← read upperQuantiles 4
    let share ← divide ((inner - center) * 400) (inner - center + 1)
    some (max (center + share) (center + 400))

/-- The centre and the central mean. -/
def secondaryCenter (range minimum : ℤ) (found : QuantileHistogram) : Option (ℤ × ℤ) := do
  let q9 ← read found.quantiles 9
  let q6 ← read found.quantiles 6
  let q12 ← read found.quantiles 12
  let central ← meanBin found.histogram q6 (q12 - 1)
  let centralMean := scaleBin range minimum central
  some (shiftRight (scaleBin range minimum q9 + centralMean) 1, centralMean)

def secondaryCutoffs (center : ℤ) (samples : List SideSample) : Option (Cutoff × Cutoff) := do
  let lower ← cutoffLoop (samples.map fun sample => center - sample.lowerMean)
    (lowerSide center (samples.map SideSample.lowerQuantile)) (List.range' 0 5) ⟨0, -1⟩
  let upper ← cutoffLoop (samples.map fun sample => sample.upperMean - center)
    (upperSide center (samples.map SideSample.upperQuantile)) (List.range' 0 5) ⟨0, -1⟩
  some (lower, upper)

/-- `goodix_chicago_preprocessor_calculate_resolution_secondary_analysis`. It fails where an index
leaves its array or a denominator is below 1. -/
def calculateResolutionSecondaryAnalysis (secondary : Plane) (inputMask : PixelMask) :
    Option SecondaryAnalysis :=
  let inside := secondaryInside secondary inputMask
  let minimum := secondaryMinimum inside
  let range := secondaryRange inside
  if inside.length = 0 ∨ range < 1 then some .zero
  else do
    let found ← secondaryHistogram inside
    let samples ← (List.range' 0 5).mapM (sideSample range minimum found)
    let (center, centralMean) ← secondaryCenter range minimum found
    let (lower, upper) ← secondaryCutoffs center samples
    let upperMidSample ← read (samples.map SideSample.upperQuantile) 3
    let upperOuterMean ← read (samples.map SideSample.upperMean) 0
    let upperInnerMean ← read (samples.map SideSample.upperMean) 1
    let lowerOuterMean ← read (samples.map SideSample.lowerMean) 0
    let lowerInnerMean ← read (samples.map SideSample.lowerMean) 1
    let peaks ← analyzeResolutionHistogramPeaks found.histogram
    some {
      upperCutoff := upper.cutoff
      upperState := upper.state
      lowerCutoff := lower.cutoff
      lowerState := lower.state
      upperMidSample
      balanceCenter := centralMean
      upperOuterMean
      upperInnerMean
      lowerOuterMean
      lowerInnerMean
      peakState := peaks.state
      peakValue := scaleBin range minimum peaks.peakIndex }

/-! ### The order of the samples -/

lemma scaleBin_mono {range minimum a b : ℤ} (wide : 0 ≤ range) (nonneg : 0 ≤ a) (order : a ≤ b) :
    scaleBin range minimum a ≤ scaleBin range minimum b := by
  have scaled := mul_le_mul_of_nonneg_right order wide
  have below : 0 ≤ a * range := mul_nonneg nonneg wide
  rw [scaleBin, scaleBin, quotient_eq_ediv (by omega), quotient_eq_ediv (by omega)]
  have divided : (a * range + 200) / 399 ≤ (b * range + 200) / 399 :=
    Int.ediv_le_ediv (by omega) (by omega)
  omega

lemma secondaryHistogram_returns {inside : List ℤ} (wide : 1 ≤ secondaryRange inside) :
    Returns (secondaryHistogram inside) fun found =>
      (Histogram found.histogram ∧ found.histogram.sum = inside.length * secondaryRange inside) ∧
        Quantiles 20 found.quantiles := by
  have between : ∀ v ∈ inside, secondaryMinimum inside ≤ v ∧
      v ≤ secondaryMinimum inside + secondaryRange inside := by
    intro v mem
    have extremes := between_extremes inside 0x7fffffff (-0x80000000) v mem
    rw [secondaryRange, secondaryMinimum]
    omega
  refine (buildHistogram_returns wide between).bind fun histogram built => ?_
  refine (extractQuantiles_returns (by omega) _ _ built.1).bind fun quantiles rise => ?_
  exact .some ⟨built, rise⟩

variable {range minimum : ℤ} {found : QuantileHistogram}

/-- The innermost upper sample. -/
def upperFloor (range minimum : ℤ) (found : QuantileHistogram) : ℤ :=
  scaleBin range minimum (found.quantiles.getD 14 0)

lemma sideSample_returns (wide : 1 ≤ range) (filled : Histogram found.histogram)
    (rise : Quantiles 20 found.quantiles) {index : ℕ} (inside : index < 5) :
    Returns (sideSample range minimum found index) fun sample =>
      upperFloor range minimum found ≤ sample.upperQuantile := by
  refine (rise.read index (by omega)).bind fun lowerBin lower => ?_
  have reads : Returns (read found.quantiles (18 - (index : ℤ))) fun q =>
      q = found.quantiles.getD (18 - index) 0 ∧ 0 ≤ q ∧ q < 399 := by
    rw [show 18 - (index : ℤ) = (18 - index : ℕ) by omega]
    exact rise.read (18 - index) (by omega)
  refine reads.bind fun upperBin upper => ?_
  refine (meanBin_returns filled 400 le_rfl (by omega) (by omega) (by omega)).bind
    fun lowerMean _ => ?_
  refine (meanBin_returns filled 400 (by omega) (by omega) (by omega) (by omega)).bind
    fun upperMean _ => ?_
  refine .some (scaleBin_mono (by omega) ?_ ?_)
  · exact (rise.bins.getD (by omega)).1
  · rw [upper.1]
    exact rise.rise 14 (18 - index) (by omega) (by omega)

/-- The centre does not lie above the innermost upper sample. -/
lemma secondaryCenter_returns (wide : 1 ≤ range) (filled : Histogram found.histogram)
    (rise : Quantiles 20 found.quantiles) :
    Returns (secondaryCenter range minimum found) fun both =>
      both.1 ≤ upperFloor range minimum found := by
  refine (rise.read 9 (by omega)).bind fun q9 h9 => ?_
  refine (rise.read 6 (by omega)).bind fun q6 h6 => ?_
  refine (rise.read 12 (by omega)).bind fun q12 h12 => ?_
  refine (meanBin_returns filled q12 h6.2.1 (by omega) (by omega) h12.2.1).bind
    fun central mean => .some ?_
  have median := rise.rise 9 14 (by omega) (by omega)
  have inner := rise.rise 12 14 (by omega) (by omega)
  have first : scaleBin range minimum q9 ≤ upperFloor range minimum found :=
    scaleBin_mono (by omega) h9.2.1 (by omega)
  have second : scaleBin range minimum central ≤ upperFloor range minimum found :=
    scaleBin_mono (by omega) mean.1 (by omega)
  simp only [shiftRight]
  omega

/-! ### The cutoffs -/

/-- A gap is only divided by where it has fallen below 400, or never does. -/
lemma cutoffLoop_returns {gaps : List ℤ} (five : gaps.length = 5) {side : Interpolation}
    (between : ∀ index, 1 ≤ index → index < 5 → ∀ previousGap gap, 400 ≤ previousGap → gap < 400 →
      Returns (side.between index previousGap gap) fun _ => True)
    (beyond : ∀ gap, 400 ≤ gap → Returns (side.beyond gap) fun _ => True)
    (steps first : ℕ) (last : first + steps = 5)
    (passed : 0 < first → 400 ≤ gaps.getD (first - 1) 0) (found : Cutoff) :
    Returns (cutoffLoop gaps side (List.range' first steps) found) fun _ => True := by
  induction steps generalizing first found with
  | zero => exact .some trivial
  | succ steps ih =>
    have here : read gaps first = some (gaps.getD first 0) := by
      rw [read_eq first (by omega) (by omega), Int.toNat_natCast]
    rw [List.range'_succ, cutoffLoop, here, Option.bind_eq_bind, Option.bind_some]
    split
    · exact .some trivial
    split
    · rename_i falls
      have before : read gaps (first - 1) = some (gaps.getD (first - 1) 0) := by
        rw [read_eq (first - 1) (by omega) (by omega)]
        congr 2
        omega
      rw [before, Option.bind_some]
      exact (between first falls.1 (by omega) _ _ (passed falls.1) falls.2).bind
        fun cutoff _ => .some trivial
    · rename_i starts falls
      have wide : 400 ≤ gaps.getD first 0 := by omega
      split
      · exact (beyond _ wide).bind fun cutoff _ => ih (first + 1) (by omega) (fun _ => wide) _
      · exact ih (first + 1) (by omega) (fun _ => wide) _

lemma lowerSide_between {center : ℤ} {quantiles : List ℤ} (five : quantiles.length = 5)
    {index : ℕ} (low : 1 ≤ index) (high : index < 5) {previousGap gap : ℤ}
    (wide : 400 ≤ previousGap) (narrow : gap < 400) :
    Returns ((lowerSide center quantiles).between index previousGap gap) fun _ => True := by
  have sized : Sized 5 (fun _ => True) quantiles := ⟨five, fun _ _ => trivial⟩
  refine (sized.read (by omega) (by omega)).bind fun outer _ => ?_
  refine (sized.read (by omega) (by omega)).bind fun inner _ => ?_
  exact (returns_divide (by omega)).bind fun share _ => .some trivial

lemma lowerSide_beyond {center : ℤ} {quantiles : List ℤ} (five : quantiles.length = 5) {gap : ℤ}
    (wide : 400 ≤ gap) :
    Returns ((lowerSide center quantiles).beyond gap) fun _ => True := by
  have sized : Sized 5 (fun _ => True) quantiles := ⟨five, fun _ _ => trivial⟩
  refine (sized.read (by omega) (by omega)).bind fun inner _ => ?_
  exact (returns_divide (by omega)).bind fun share _ => .some trivial

lemma upperSide_between {center : ℤ} {quantiles : List ℤ} (five : quantiles.length = 5)
    {index : ℕ} (low : 1 ≤ index) (high : index < 5) {previousGap gap : ℤ}
    (wide : 400 ≤ previousGap) (narrow : gap < 400) :
    Returns ((upperSide center quantiles).between index previousGap gap) fun _ => True := by
  have sized : Sized 5 (fun _ => True) quantiles := ⟨five, fun _ _ => trivial⟩
  refine (sized.read (by omega) (by omega)).bind fun inner _ => ?_
  refine (sized.read (by omega) (by omega)).bind fun outer _ => ?_
  exact (returns_divide (by omega)).bind fun share _ => .some trivial

/-- Beyond all gaps the upper side divides by a distance from the centre. -/
lemma upperSide_beyond {center : ℤ} {quantiles : List ℤ} (above : Sized 5 (center ≤ ·) quantiles)
    (gap : ℤ) : Returns ((upperSide center quantiles).beyond gap) fun _ => True := by
  refine (above.read (by omega) (by omega)).bind fun inner higher => ?_
  exact (returns_divide (by omega)).bind fun share _ => .some trivial

lemma secondaryCutoffs_returns {center : ℤ} {samples : List SideSample} (five : samples.length = 5)
    (above : ∀ sample ∈ samples, center ≤ sample.upperQuantile) :
    Returns (secondaryCutoffs center samples) fun _ => True := by
  have mapped (f : SideSample → ℤ) : (samples.map f).length = 5 := by rw [List.length_map, five]
  have uppers : Sized 5 (center ≤ ·) (samples.map SideSample.upperQuantile) :=
    ⟨mapped _, List.forall_mem_map.mpr above⟩
  refine (cutoffLoop_returns (mapped _) (fun index low high previousGap gap wide narrow =>
    lowerSide_between (mapped _) low high wide narrow)
    (fun gap wide => lowerSide_beyond (mapped _) wide) 5 0 rfl (fun none => by omega) _).bind
    fun lower _ => ?_
  refine (cutoffLoop_returns (mapped _) (fun index low high previousGap gap wide narrow =>
    upperSide_between (mapped _) low high wide narrow)
    (fun gap _ => upperSide_beyond uppers gap) 5 0 rfl (fun none => by omega) _).bind
    fun upper _ => ?_
  exact .some trivial

/-- The whole analysis returns. -/
lemma calculateResolutionSecondaryAnalysis_returns (secondary : Plane) (inputMask : PixelMask) :
    Returns (calculateResolutionSecondaryAnalysis secondary inputMask) fun _ => True := by
  unfold calculateResolutionSecondaryAnalysis
  dsimp only
  split
  · exact .some trivial
  rename_i counted
  rw [not_or] at counted
  have wide : 1 ≤ secondaryRange (secondaryInside secondary inputMask) := by omega
  refine (secondaryHistogram_returns wide).bind fun found both => ?_
  obtain ⟨⟨filled, -⟩, rise⟩ := both
  refine (Returns.mapM fun index mem => sideSample_returns wide filled rise ?_).bind
    fun samples sampled => ?_
  · rw [List.mem_range'_1] at mem
    omega
  have sized (f : SideSample → ℤ) : Sized 5 (fun _ => True) (samples.map f) :=
    ⟨by rw [List.length_map, sampled.1, List.length_range'], fun _ _ => trivial⟩
  refine (secondaryCenter_returns wide filled rise).bind fun both below => ?_
  obtain ⟨center, centralMean⟩ := both
  refine (secondaryCutoffs_returns (by rw [sampled.1, List.length_range'])
    fun sample mem => below.trans (sampled.2 sample mem)).bind fun cutoffs _ => ?_
  obtain ⟨lower, upper⟩ := cutoffs
  refine ((sized _).read (by omega) (by omega)).bind fun upperMidSample _ => ?_
  refine ((sized _).read (by omega) (by omega)).bind fun upperOuterMean _ => ?_
  refine ((sized _).read (by omega) (by omega)).bind fun upperInnerMean _ => ?_
  refine ((sized _).read (by omega) (by omega)).bind fun lowerOuterMean _ => ?_
  refine ((sized _).read (by omega) (by omega)).bind fun lowerInnerMean _ => ?_
  exact (analyzeResolutionHistogramPeaks_returns filled).bind fun peaks _ => .some trivial

lemma secondaryInside_length (secondary : Plane) (inputMask : PixelMask) :
    (secondaryInside secondary inputMask).length ≤ pixels := by
  refine (List.length_filter_le _ _).trans ((List.length_filterMap_le _ _).trans ?_)
  rw [List.length_range]

lemma secondaryRange_le (secondary : Plane) (inputMask : PixelMask) :
    secondaryRange (secondaryInside secondary inputMask) ≤ 3900 := by
  have counted : ∀ v ∈ secondaryInside secondary inputMask, 5250 ≤ v ∧ v ≤ 9150 :=
    fun v mem => of_decide_eq_true (List.mem_filter.mp mem).2
  have highest : (secondaryInside secondary inputMask).foldl max (-0x80000000) ≤ 9150 :=
    Envelope.foldl_max_le (by omega) fun v mem => (counted v mem).2
  have lowest : 5250 ≤ secondaryMinimum (secondaryInside secondary inputMask) :=
    Envelope.le_foldl_min (by omega) fun v mem => (counted v mem).1
  rw [secondaryRange]
  omega

/-- The bins of the secondary histogram share out the range once for every value, and their sum
fits a `gint`. -/
theorem secondary_histogram_mass (secondary : Plane) (inputMask : PixelMask)
    (wide : 1 ≤ secondaryRange (secondaryInside secondary inputMask)) :
    Returns (secondaryHistogram (secondaryInside secondary inputMask)) fun found =>
      found.histogram.sum = (secondaryInside secondary inputMask).length *
        secondaryRange (secondaryInside secondary inputMask) ∧ found.histogram.sum < 2 ^ 31 := by
  refine (secondaryHistogram_returns wide).mono fun found built => ⟨built.1.2, ?_⟩
  have few : ((secondaryInside secondary inputMask).length : ℤ) ≤ pixels :=
    Int.ofNat_le.mpr (secondaryInside_length secondary inputMask)
  calc found.histogram.sum
      = (secondaryInside secondary inputMask).length *
        secondaryRange (secondaryInside secondary inputMask) := built.1.2
    _ ≤ pixels * 3900 :=
        mul_le_mul few (secondaryRange_le secondary inputMask) (by omega) (by omega)
    _ < 2 ^ 31 := by decide

/-- For every plane and mask the analysis returns, so no index leaves its array and no denominator
is below 1; so do the statistics, and both sets of quantiles rise within the bins. -/
theorem secondary_analysis_safe (secondary : Plane) (inputMask : PixelMask) :
    (calculateResolutionSecondaryAnalysis secondary inputMask).isSome = true ∧
    (∀ lower includeTails, (calculateResolutionHistogramStatistics secondary inputMask lower
      includeTails).isSome = true) ∧
    (1 ≤ secondaryRange (secondaryInside secondary inputMask) →
      ∃ found, secondaryHistogram (secondaryInside secondary inputMask) = some found ∧
        found.histogram.length = histogramBins ∧ found.quantiles.length = 20 ∧
        found.quantiles.Pairwise (· ≤ ·) ∧ ∀ q ∈ found.quantiles, 0 ≤ q ∧ q < 399) ∧
    ∀ lower, ∃ found,
      tenQuantiles (statisticsInside (maskedValues secondary inputMask) lower) = some found ∧
        found.histogram.length = histogramBins ∧ found.quantiles.length = 10 ∧
        found.quantiles.Pairwise (· ≤ ·) ∧ ∀ q ∈ found.quantiles, 0 ≤ q ∧ q < 399 := by
  refine ⟨(calculateResolutionSecondaryAnalysis_returns secondary inputMask).isSome,
    fun lower includeTails => (calculateResolutionHistogramStatistics_returns secondary inputMask
      lower includeTails).isSome,
    fun wide => ?_, fun lower => ?_⟩
  · obtain ⟨found, is, ⟨filled, -⟩, rise⟩ := secondaryHistogram_returns wide
    exact ⟨found, is, filled.length, rise.bins.length, rise.pairwise, rise.bins.entries⟩
  · obtain ⟨found, is, filled, rise⟩ :=
      tenQuantiles_returns (statisticsInside (maskedValues secondary inputMask) lower)
    exact ⟨found, is, filled.length, rise.bins.length, rise.pairwise, rise.bins.entries⟩

end GoodixSpi.Chicago
