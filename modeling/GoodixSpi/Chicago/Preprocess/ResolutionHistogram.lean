import GoodixSpi.Chicago.Preprocess.PromotionMask
import GoodixSpi.Lib.Checked
import GoodixSpi.Lib.Envelope

/-! The interpolated histogram of a plane, its quantiles, and the samples taken from them. Array
accesses and divisions are checked. -/

namespace GoodixSpi.Chicago

open CArithmetic Checked

abbrev histogramBins : ℕ := 400

/-- `(gint16) values[pixel]` over the enabled pixels. -/
def maskedValues (values : Plane) (mask : PixelMask) : List ℤ :=
  (List.range pixels).filterMap fun (pixel : ℕ) =>
    if maskAt mask pixel = 0 then none else some (pixelAt values pixel).toInt16.toInt

def emptyBins : List ℤ := List.replicate histogramBins 0

/-- A value is shared between the two bins around it. -/
def addValue (minimum range : ℤ) (histogram : List ℤ) (value : ℤ) : Option (List ℤ) := do
  let numerator := (value - minimum) * 399
  let bin ← divide numerator range
  let remainder := numerator - bin * range
  let histogram ← update histogram bin fun height => height + (range - remainder)
  if bin < 399 then update histogram (bin + 1) fun height => height + remainder else some histogram

def buildHistogram (minimum range : ℤ) (values : List ℤ) : Option (List ℤ) :=
  values.foldlM (addValue minimum range) emptyBins

/-! ### Quantiles -/

def quantileTargets (count percent : ℕ) (valid range : ℤ) : List ℤ :=
  (List.range count).map fun (index : ℕ) =>
    quotient (((index : ℤ) + 1) * percent * valid * range) 100

structure QuantileScan where
  cumulative : ℤ
  quantile : ℕ
  quantiles : List ℤ

/-- One bin; nothing happens once all quantiles are found. -/
def QuantileScan.step (histogram targets : List ℤ) (scan : QuantileScan) (bin : ℕ) :
    Option QuantileScan :=
  if scan.quantile < targets.length then do
    let height ← read histogram bin
    let cumulative := scan.cumulative + height
    let target ← read targets scan.quantile
    if cumulative < target then do
      let next ← read histogram (bin + 1)
      if target ≤ cumulative + next then do
        let quantiles ← write scan.quantiles scan.quantile bin
        some ⟨cumulative, scan.quantile + 1, quantiles⟩
      else some ⟨cumulative, scan.quantile, scan.quantiles⟩
    else do
      let quantiles ← write scan.quantiles scan.quantile (max (bin - 1) 0)
      some ⟨cumulative, scan.quantile + 1, quantiles⟩
  else some scan

def raiseQuantile (quantiles : List ℤ) (index : ℕ) : Option (List ℤ) := do
  let value ← read quantiles index
  let previous ← read quantiles (index - 1)
  write quantiles index (max value previous)

def extractQuantiles (count percent : ℕ) (valid range : ℤ) (histogram : List ℤ) :
    Option (List ℤ) := do
  let targets := quantileTargets count percent valid range
  let scan ← (List.range' 0 399).foldlM (QuantileScan.step histogram targets)
    ⟨0, 0, List.replicate count 0⟩
  (List.range' 1 (count - 1)).foldlM raiseQuantile scan.quantiles

/-! ### Samples -/

/-- `SCALE_BIN`. -/
def scaleBin (range minimum bin : ℤ) : ℤ := quotient (bin * range + 200) 399 + minimum

structure Tally where
  count : ℤ
  weighted : ℤ

def Tally.add (histogram : List ℤ) (tally : Tally) (bin : ℤ) : Option Tally := do
  let height ← read histogram bin
  some ⟨tally.count + height, tally.weighted + height * bin⟩

/-- The mean bin, pulled a little towards zero. -/
def Tally.mean (tally : Tally) : Option ℤ := divide tally.weighted (tally.count + 1)

/-- The bins from the first to the last one. -/
def binsFrom (first last : ℤ) : List ℤ :=
  (List.range (last + 1 - first).toNat).map fun (step : ℕ) => first + step

def tallyBins (histogram : List ℤ) (tally : Tally) (bins : List ℤ) : Option Tally :=
  bins.foldlM (Tally.add histogram) tally

def meanBin (histogram : List ℤ) (first last : ℤ) : Option ℤ := do
  let tally ← tallyBins histogram ⟨0, 0⟩ (binsFrom first last)
  tally.mean

/-- `statistics[17]`, `[18]`, `[22]` and `[23]`. -/
structure TailStatistics where
  highest : ℤ
  high : ℤ
  lowest : ℤ
  low : ℤ

/-- The entries of `statistics` that are set. -/
structure HistogramStatistics where
  -- 5, 7, 8, 12, 13
  quantile5 : ℤ
  quantile9 : ℤ
  quantile8 : ℤ
  quantile2 : ℤ
  quantile3 : ℤ
  -- 6
  centralMean : ℤ
  tails : TailStatistics
  -- 28, 29
  range : ℤ
  minimum : ℤ
  -- 30, 31, 32, 33
  above : ℕ
  below : ℕ
  masked : ℕ
  valid : ℕ

def tailStatistics (range minimum : ℤ) (histogram quantiles : List ℤ) : Option TailStatistics := do
  let q8 ← read quantiles 8
  let q7 ← read quantiles 7
  let outer ← tallyBins histogram ⟨0, 0⟩ (binsFrom q8 399).reverse
  let highest ← outer.mean
  let inner ← tallyBins histogram outer (binsFrom q7 (q8 - 1)).reverse
  let high ← inner.mean
  let q0 ← read quantiles 0
  let q1 ← read quantiles 1
  let outer ← tallyBins histogram ⟨0, 0⟩ (binsFrom 0 q0)
  let lowest ← outer.mean
  let inner ← tallyBins histogram outer (binsFrom (q0 + 1) q1)
  let low ← inner.mean
  some ⟨scaleBin range minimum highest, scaleBin range minimum high, scaleBin range minimum lowest,
    scaleBin range minimum low⟩

/-- The values that are counted. -/
def statisticsInside (masked : List ℤ) (lower : ℤ) : List ℤ :=
  masked.filter fun value => value ≤ 32767 ∧ lower ≤ value

def statisticsMinimum (inside : List ℤ) : ℤ := inside.foldl min 0x7fffff00

def statisticsRange (inside : List ℤ) : ℤ := inside.foldl max 0 - statisticsMinimum inside

structure QuantileHistogram where
  histogram : List ℤ
  quantiles : List ℤ

/-- The histogram and its ten quantiles; without a range they are empty. -/
def tenQuantiles (inside : List ℤ) : Option QuantileHistogram :=
  if statisticsRange inside < 1 then some ⟨emptyBins, List.replicate 10 0⟩
  else do
    let histogram ← buildHistogram (statisticsMinimum inside) (statisticsRange inside) inside
    let quantiles ← extractQuantiles 10 10 inside.length (statisticsRange inside) histogram
    some ⟨histogram, quantiles⟩

/-- `calculate_resolution_histogram_statistics`. -/
def calculateResolutionHistogramStatistics (values : Plane) (mask : PixelMask) (lower : ℤ)
    (includeTails : Bool) : Option HistogramStatistics := do
  let masked := maskedValues values mask
  let inside := statisticsInside masked lower
  let range := if statisticsRange inside < 1 then 0 else statisticsRange inside
  let minimum := if statisticsRange inside < 1 then min (statisticsMinimum inside) 5000
    else statisticsMinimum inside
  let found ← tenQuantiles inside
  let q4 ← read found.quantiles 4
  let q8 ← read found.quantiles 8
  let q7 ← read found.quantiles 7
  let q1 ← read found.quantiles 1
  let q2 ← read found.quantiles 2
  let q6 ← read found.quantiles 6
  let central ← meanBin found.histogram q2 q6
  let tails ← if includeTails then tailStatistics range minimum found.histogram found.quantiles
    else some ⟨0, 0, 0, 0⟩
  some {
    quantile5 := scaleBin range minimum q4
    quantile9 := scaleBin range minimum q8
    quantile8 := scaleBin range minimum q7
    quantile2 := scaleBin range minimum q1
    quantile3 := scaleBin range minimum q2
    centralMean := scaleBin range minimum central
    tails
    range
    minimum
    above := masked.countP fun value => value > 32767
    below := masked.countP fun value => value ≤ 32767 ∧ value < lower
    masked := masked.length
    valid := inside.length }

/-- `goodix_chicago_preprocessor_calculate_resolution_gradient_threshold`. -/
def calculateResolutionGradientThreshold (filteredGradient : Plane) (inputMask : PixelMask) :
    Option ℤ := do
  let statistics ← calculateResolutionHistogramStatistics filteredGradient inputMask 1 false
  let center := shiftRight (statistics.quantile5 + statistics.centralMean) 1
  let threshold := max (quotient ((statistics.quantile8 - center) * 40) 100) 30 + center
  some (min (max threshold 150) 300)

structure PrimaryStatistics where
  primaryCenterA : ℤ
  primaryCenterB : ℤ
  primaryHighSample : ℤ
  primaryMidSample : ℤ

/-- `goodix_chicago_preprocessor_calculate_resolution_primary_statistics`. -/
def calculateResolutionPrimaryStatistics (primary : Plane) (inputMask : PixelMask) :
    Option PrimaryStatistics := do
  let statistics ← calculateResolutionHistogramStatistics primary inputMask 2 true
  some ⟨statistics.quantile5, statistics.centralMean, statistics.quantile9, statistics.quantile8⟩

/-! ### The bins -/

abbrev Histogram (histogram : List ℤ) : Prop := Sized histogramBins (0 ≤ ·) histogram

lemma histogram_empty : Histogram emptyBins := sized_replicate le_rfl

lemma readBin_returns {histogram : List ℤ} (filled : Histogram histogram) {bin : ℤ} (low : 0 ≤ bin)
    (high : bin < 400) : Returns (read histogram bin) (0 ≤ ·) := filled.read low high

lemma writeBin_returns {histogram : List ℤ} (filled : Histogram histogram) {bin : ℤ} (low : 0 ≤ bin)
    (high : bin < 400) {value : ℤ} (nonneg : 0 ≤ value) :
    Returns (write histogram bin value) Histogram := filled.write low high nonneg

/-- Adding to a bin. -/
lemma raiseBin_returns {histogram : List ℤ} (filled : Histogram histogram) {bin : ℤ} (low : 0 ≤ bin)
    (high : bin < 400) {more : ℤ} (nonneg : 0 ≤ more) :
    Returns (update histogram bin fun height => height + more) fun out =>
      Histogram out ∧ out.sum = histogram.sum + more :=
  filled.add low high fun _ kept => add_nonneg kept nonneg

/-- Between the extreme values every bin exists, and a value adds the range to the bins. -/
lemma addValue_returns {minimum range value : ℤ} (wide : 1 ≤ range) (low : minimum ≤ value)
    (high : value ≤ minimum + range) {histogram : List ℤ} (filled : Histogram histogram) :
    Returns (addValue minimum range histogram value) fun out =>
      Histogram out ∧ out.sum = histogram.sum + range := by
  have nonneg : 0 ≤ (value - minimum) * 399 := by omega
  refine (returns_divide_nonneg nonneg wide).bind fun bin is => ?_
  obtain ⟨rfl, first⟩ := is
  have last : (value - minimum) * 399 / range ≤ 399 :=
    Int.ediv_le_of_le_mul (by omega) (by omega)
  have remains : (value - minimum) * 399 - (value - minimum) * 399 / range * range =
      (value - minimum) * 399 % range := by
    rw [Int.emod_def, Int.mul_comm range]
  have rest := Int.emod_nonneg ((value - minimum) * 399) (by omega : range ≠ 0)
  have small := Int.emod_lt_of_pos ((value - minimum) * 399) (by omega : 0 < range)
  dsimp only
  rw [remains]
  refine (raiseBin_returns filled first (by omega) (by omega)).bind fun out raised => ?_
  split
  · refine (raiseBin_returns raised.1 (by omega) (by omega) rest).mono fun out more => ⟨more.1, ?_⟩
    rw [more.2, raised.2]
    omega
  · -- In the last bin nothing remains.
    rename_i top
    have whole := Int.emod_add_mul_ediv ((value - minimum) * 399) range
    rw [show (value - minimum) * 399 / range = 399 by omega] at whole
    refine .some ⟨raised.1, ?_⟩
    rw [raised.2]
    omega

lemma buildHistogram_returns {minimum range : ℤ} (wide : 1 ≤ range) {values : List ℤ}
    (between : ∀ v ∈ values, minimum ≤ v ∧ v ≤ minimum + range) :
    Returns (buildHistogram minimum range values) fun out =>
      Histogram out ∧ out.sum = values.length * range := by
  have adds : ∀ histogram, Histogram histogram →
      Returns (values.foldlM (addValue minimum range) histogram) fun out =>
        Histogram out ∧ out.sum = histogram.sum + values.length * range := by
    induction values with
    | nil => exact fun histogram filled => .some ⟨filled, by simp⟩
    | cons v rest ih =>
      intro histogram filled
      obtain ⟨here, later⟩ := List.forall_mem_cons.mp between
      rw [List.foldlM_cons]
      refine (addValue_returns wide here.1 here.2 filled).bind fun out added => ?_
      refine (ih later out added.1).mono fun out sums => ⟨sums.1, ?_⟩
      rw [sums.2, added.2, List.length_cons]
      push_cast
      ring
  refine (adds emptyBins histogram_empty).mono fun out sums => ⟨sums.1, ?_⟩
  rw [sums.2, emptyBins, List.sum_replicate_int, mul_zero, zero_add]

/-! ### The quantiles rise -/

structure Quantiles (count : ℕ) (quantiles : List ℤ) : Prop where
  bins : Sized count (fun q => 0 ≤ q ∧ q < 399) quantiles
  rise : ∀ i j, i ≤ j → j < count → quantiles.getD i 0 ≤ quantiles.getD j 0

lemma scanStep_returns {count : ℕ} {histogram targets : List ℤ} (filled : Histogram histogram)
    (aims : Sized count (fun _ => True) targets) {bin : ℕ} (inside : bin < 399)
    {scan : QuantileScan} (bins : Sized count (fun q => 0 ≤ q ∧ q < 399) scan.quantiles) :
    Returns (scan.step histogram targets bin) fun scan =>
      Sized count (fun q => 0 ≤ q ∧ q < 399) scan.quantiles := by
  unfold QuantileScan.step
  split
  · rename_i more
    rw [aims.length] at more
    refine (readBin_returns filled (by omega) (by omega)).bind fun height _ => ?_
    refine (aims.read (by omega) (by omega)).bind fun target _ => ?_
    split
    · refine (readBin_returns filled (by omega) (by omega)).bind fun next _ => ?_
      split
      · refine (bins.write (by omega) (by omega) ⟨by omega, by omega⟩).bind fun quantiles bins => ?_
        exact .some bins
      · exact .some bins
    · refine (bins.write (by omega) (by omega) ⟨by omega, by omega⟩).bind fun quantiles bins => ?_
      exact .some bins
  · exact .some bins

/-- The quantiles up to an index rise. -/
structure Raised (count index : ℕ) (quantiles : List ℤ) : Prop where
  bins : Sized count (fun q => 0 ≤ q ∧ q < 399) quantiles
  rise : ∀ i, i + 1 < index → quantiles.getD i 0 ≤ quantiles.getD (i + 1) 0

lemma raiseQuantile_returns {count index : ℕ} (low : 1 ≤ index) (high : index < count)
    {quantiles : List ℤ} (raised : Raised count index quantiles) :
    Returns (raiseQuantile quantiles index) (Raised count (index + 1)) := by
  obtain ⟨bins, rise⟩ := raised
  have length := bins.length
  have here : read quantiles index = _ := read_eq index (by omega) (by omega)
  have before : read quantiles (index - 1) = _ := read_eq (index - 1) (by omega) (by omega)
  have previous : ((index : ℤ) - 1).toNat = index - 1 := by omega
  rw [raiseQuantile, here, before, Int.toNat_natCast, previous]
  have kept := bins.getD high
  have earlier := bins.getD (show index - 1 < count by omega)
  refine (bins.write_getD high ⟨by omega, by omega⟩).mono fun out written => ⟨written.1, ?_⟩
  intro i below
  rw [written.2, written.2, if_neg (by omega)]
  split
  · rename_i last
    rw [show index - 1 = i by omega]
    exact le_max_right _ _
  · exact rise i (by omega)

/-- The quantiles that are extracted lie in the bins and rise. -/
lemma extractQuantiles_returns {count percent : ℕ} (some : 1 ≤ count) (valid range : ℤ)
    {histogram : List ℤ} (filled : Histogram histogram) :
    Returns (extractQuantiles count percent valid range histogram) (Quantiles count) := by
  have aims : Sized count (fun _ => True) (quantileTargets count percent valid range) :=
    ⟨by rw [quantileTargets, List.length_map, List.length_range], fun _ _ => trivial⟩
  have empty : Sized count (fun q => 0 ≤ q ∧ q < 399) (List.replicate count 0) :=
    sized_replicate ⟨by omega, by omega⟩
  refine Returns.bind (P := fun scan : QuantileScan =>
      Sized count (fun q => 0 ≤ q ∧ q < 399) scan.quantiles)
    (Returns.foldlM (fun scan bins bin mem => ?_) empty) fun scan bins => ?_
  · rw [List.mem_range'_1] at mem
    exact scanStep_returns filled aims (by omega) bins
  · have start : Raised count 1 scan.quantiles := ⟨bins, fun i below => by omega⟩
    refine (Returns.count 1 (count - 1) (fun index low high quantiles raised =>
      raiseQuantile_returns low (by omega) raised) start).mono fun quantiles raised =>
        ⟨raised.bins, fun i j before inside => ?_⟩
    induction j, before using Nat.le_induction with
    | base => exact le_rfl
    | succ j before ih => exact (ih (by omega)).trans (raised.rise j (by omega))

/-! ### The samples -/

/-- A mean taken over enough bins: its counts are not negative, and it lies below a bin. -/
structure Tallied (last : ℤ) (tally : Tally) : Prop where
  count : 0 ≤ tally.count
  weighted : 0 ≤ tally.weighted
  below : tally.weighted ≤ last * tally.count

lemma tallied_zero (last : ℤ) : Tallied last ⟨0, 0⟩ := ⟨le_rfl, le_rfl, by simp⟩

lemma tallyBins_returns {histogram : List ℤ} (filled : Histogram histogram) (last : ℤ)
    {bins : List ℤ} (inside : ∀ bin ∈ bins, 0 ≤ bin ∧ bin < 400 ∧ bin ≤ last) {tally : Tally}
    (start : Tallied last tally) : Returns (tallyBins histogram tally bins) (Tallied last) := by
  refine Returns.foldlM (fun tally tallied bin mem => ?_) start
  obtain ⟨low, high, below⟩ := inside bin mem
  refine (readBin_returns filled low high).bind fun height nonneg => .some ?_
  refine ⟨add_nonneg tallied.count nonneg, add_nonneg tallied.weighted (mul_nonneg nonneg low), ?_⟩
  have more := mul_le_mul_of_nonneg_left below nonneg
  have before := tallied.below
  have shared : last * (tally.count + height) = last * tally.count + height * last := by ring
  exact (add_le_add before more).trans_eq shared.symm

/-- The denominator of a mean is one more than a count. -/
lemma Tallied.mean {last : ℤ} (tight : 0 ≤ last) {tally : Tally} (tallied : Tallied last tally) :
    Returns tally.mean fun bin => 0 ≤ bin ∧ bin ≤ last := by
  have count := tallied.count
  refine (returns_divide_nonneg tallied.weighted (by omega)).mono fun bin is => ⟨is.2, ?_⟩
  rw [is.1]
  refine Int.ediv_le_of_le_mul (by omega) ?_
  have below := tallied.below
  rw [Int.mul_add, Int.mul_one]
  omega

lemma mem_binsFrom {first last bin : ℤ} : bin ∈ binsFrom first last ↔ first ≤ bin ∧ bin ≤ last := by
  simp only [binsFrom, List.mem_map, List.mem_range]
  constructor
  · rintro ⟨step, few, rfl⟩
    omega
  · rintro ⟨low, high⟩
    exact ⟨(bin - first).toNat, by omega, by omega⟩

/-- A mean over bins up to one that is not negative does not exceed it. -/
lemma meanBin_returns {histogram : List ℤ} (filled : Histogram histogram) {first last : ℤ} (top : ℤ)
    (low : 0 ≤ first) (high : last < 400) (below : last ≤ top) (tight : 0 ≤ top) :
    Returns (meanBin histogram first last) fun bin => 0 ≤ bin ∧ bin ≤ top := by
  refine (tallyBins_returns filled top (fun bin mem => ?_) (tallied_zero top)).bind
    fun tally tallied => tallied.mean tight
  rw [mem_binsFrom] at mem
  omega

variable {count : ℕ} {quantiles : List ℤ}

lemma Quantiles.pairwise (found : Quantiles count quantiles) : quantiles.Pairwise (· ≤ ·) := by
  rw [List.pairwise_iff_getElem]
  intro i j first last before
  have order := found.rise i j before.le (found.bins.length ▸ last)
  rwa [List.getD_eq_getElem _ _ first, List.getD_eq_getElem _ _ last] at order

/-- A quantile by its place. -/
lemma Quantiles.read (found : Quantiles count quantiles) (place : ℕ) (inside : place < count) :
    Returns (Checked.read quantiles place) fun q =>
      q = quantiles.getD place 0 ∧ 0 ≤ q ∧ q < 399 := by
  have length := found.bins.length
  have reads : Returns (Checked.read quantiles place) fun q => 0 ≤ q ∧ q < 399 :=
    found.bins.read (by omega) (by omega)
  obtain ⟨q, is, bin⟩ := reads
  refine ⟨q, is, ?_, bin⟩
  rw [read_eq place (by omega) (by omega), Option.some.injEq, Int.toNat_natCast] at is
  exact is.symm

lemma quantiles_none : Quantiles 10 (List.replicate 10 0) where
  bins := sized_replicate ⟨le_rfl, by omega⟩
  rise i j _ _ := by
    have zero (k : ℕ) : (List.replicate 10 (0 : ℤ)).getD k 0 = 0 := by
      rw [List.getD_eq_getElem?_getD, List.getElem?_replicate]
      split <;> rfl
    rw [zero, zero]

/-- The values lie between the extremes that the code keeps. -/
lemma between_extremes (values : List ℤ) (lowest highest : ℤ) :
    ∀ v ∈ values, values.foldl min lowest ≤ v ∧ v ≤ values.foldl max highest := fun _ mem =>
  ⟨Envelope.foldl_min_le (fun v : ℤ => v) lowest mem,
    Envelope.le_foldl_max (fun v : ℤ => v) highest mem⟩

lemma tenQuantiles_returns (inside : List ℤ) :
    Returns (tenQuantiles inside) fun found =>
      Histogram found.histogram ∧ Quantiles 10 found.quantiles := by
  unfold tenQuantiles
  split
  · exact .some ⟨histogram_empty, quantiles_none⟩
  · have between : ∀ v ∈ inside, statisticsMinimum inside ≤ v ∧
        v ≤ statisticsMinimum inside + statisticsRange inside := by
      intro v mem
      have extremes := between_extremes inside 0x7fffff00 0 v mem
      rw [statisticsRange, statisticsMinimum]
      omega
    refine (buildHistogram_returns (by omega) between).bind fun histogram built => ?_
    refine (extractQuantiles_returns (by omega) _ _ built.1).bind fun quantiles rise => ?_
    exact .some ⟨built.1, rise⟩

lemma tailStatistics_returns (range minimum : ℤ) {histogram : List ℤ} (filled : Histogram histogram)
    (found : Quantiles 10 quantiles) :
    Returns (tailStatistics range minimum histogram quantiles) fun _ => True := by
  refine (found.read 8 (by omega)).bind fun q8 h8 => ?_
  refine (found.read 7 (by omega)).bind fun q7 h7 => ?_
  refine (tallyBins_returns filled 400 (fun bin mem => ?_) (tallied_zero 400)).bind
    fun outer tallied => ?_
  · rw [List.mem_reverse, mem_binsFrom] at mem
    omega
  refine (tallied.mean (by omega)).bind fun highest _ => ?_
  refine (tallyBins_returns filled 400 (fun bin mem => ?_) tallied).bind
    fun inner tallied => ?_
  · rw [List.mem_reverse, mem_binsFrom] at mem
    omega
  refine (tallied.mean (by omega)).bind fun high _ => ?_
  refine (found.read 0 (by omega)).bind fun q0 h0 => ?_
  refine (found.read 1 (by omega)).bind fun q1 h1 => ?_
  refine (tallyBins_returns filled 400 (fun bin mem => ?_) (tallied_zero 400)).bind
    fun outer tallied => ?_
  · rw [mem_binsFrom] at mem
    omega
  refine (tallied.mean (by omega)).bind fun lowest _ => ?_
  refine (tallyBins_returns filled 400 (fun bin mem => ?_) tallied).bind
    fun inner tallied => ?_
  · rw [mem_binsFrom] at mem
    omega
  exact (tallied.mean (by omega)).bind fun low _ => .some trivial

/-- The statistics of every plane are computed without leaving an array or dividing by zero. -/
lemma calculateResolutionHistogramStatistics_returns (values : Plane) (mask : PixelMask) (lower : ℤ)
    (includeTails : Bool) :
    Returns (calculateResolutionHistogramStatistics values mask lower includeTails)
      fun _ => True := by
  unfold calculateResolutionHistogramStatistics
  dsimp only
  refine (tenQuantiles_returns _).bind fun found both => ?_
  obtain ⟨filled, rise⟩ := both
  refine (rise.read 4 (by omega)).bind fun q4 _ => ?_
  refine (rise.read 8 (by omega)).bind fun q8 _ => ?_
  refine (rise.read 7 (by omega)).bind fun q7 _ => ?_
  refine (rise.read 1 (by omega)).bind fun q1 _ => ?_
  refine (rise.read 2 (by omega)).bind fun q2 h2 => ?_
  refine (rise.read 6 (by omega)).bind fun q6 h6 => ?_
  refine (meanBin_returns filled q6 h2.2.1 (by omega) le_rfl h6.2.1).bind fun central _ => ?_
  split
  · exact (tailStatistics_returns _ _ filled rise).bind fun tails _ => .some trivial
  · exact .some trivial

end GoodixSpi.Chicago
