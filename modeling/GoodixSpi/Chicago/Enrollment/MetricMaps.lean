import GoodixSpi.Chicago.Enrollment.MaskCells
import GoodixSpi.Chicago.Feature.OrientationMap
import Mathlib.Data.List.Count

/-! The metric data of an image. Each cell of a bit map stands for every other pixel of every other
row; the threshold of the secondary map is sought in the histogram of the cells that the feature
mask has. -/

namespace GoodixSpi.Chicago

/-! ### `goodix_chicago_enrollment_build_metric_data` -/

/-- The pixel that a cell is read from. -/
def cellValue (image : FeatureImage) (cell : ℕ) : ℕ :=
  enhancedAt image (cell % metricMapWidth * 2) (cell / metricMapWidth * 2)

/-- What the histogram counts. -/
def maskedCellValues (enhanced : FeatureImage) : List ℕ :=
  ((List.range metricMapPixels).filter fun cell =>
    buildMask enhanced (cell % metricMapWidth * 2) (cell / metricMapWidth * 2) ≠ 0).map
      (cellValue (buildPreparedImage enhanced))

/-- The loop over the bins; its differences are unsigned. -/
def quantileSearch (values : List ℕ) (target : ℕ) : List ℕ → ℕ → ℕ
  | [], _ => 0
  | value :: rest, previous =>
    let cumulative := previous + values.count value
    if cumulative ≥ target then
      if UInt32.ofNat target - UInt32.ofNat previous <
          UInt32.ofNat cumulative - UInt32.ofNat target then value - 1
      else value
    else quantileSearch values target rest cumulative

def quantileTarget (values : List ℕ) : ℕ := (values.length * 205 + 128) / 0x100

def secondaryThreshold (values : List ℕ) : ℕ :=
  quantileSearch values (quantileTarget values) (List.range' 1 255) (values.count 0)

def buildMetricData (enhanced : FeatureImage) : MetricData :=
  let source := buildSource enhanced
  let prepared := buildPreparedImage enhanced
  let threshold := secondaryThreshold (maskedCellValues enhanced)
  let coarseMask := buildCoarseMask (buildMask enhanced)
  { primary := packBits metricMapPackedBytes fun cell => cellValue source cell > 200
    secondary := packBits metricMapPackedBytes fun cell => cellValue prepared cell > threshold
    validity := packBits metricMapPackedBytes fun cell => cellValue source cell > 55
    coarseMask
    positionMap := metricDataBuildPositionMap coarseMask
    packedResolution := 0 }

/-! ### The threshold -/

/-- How many values a threshold does not cut off. -/
def atMost (values : List ℕ) (threshold : ℕ) : ℕ := values.countP (· ≤ threshold)

lemma atMost_zero (values : List ℕ) : atMost values 0 = values.count 0 := by
  unfold atMost List.count
  refine List.countP_congr fun _ _ => ?_
  rw [decide_eq_true_eq, beq_iff_eq, Nat.le_zero]

lemma atMost_succ (values : List ℕ) (threshold : ℕ) :
    atMost values (threshold + 1) = atMost values threshold + values.count (threshold + 1) := by
  unfold atMost List.count
  induction values with
  | nil => rfl
  | cons value rest ih =>
    simp only [List.countP_cons, ih, decide_eq_true_eq, beq_iff_eq]
    split <;> split <;> split <;> omega

lemma atMost_mono (values : List ℕ) {low high : ℕ} (order : low ≤ high) :
    atMost values low ≤ atMost values high :=
  List.countP_mono_left fun _ _ below => decide_eq_true ((of_decide_eq_true below).trans order)

lemma atMost_le (values : List ℕ) (threshold : ℕ) : atMost values threshold ≤ values.length :=
  List.countP_le_length

lemma atMost_all {values : List ℕ} {bound : ℕ} (small : ∀ value ∈ values, value ≤ bound) :
    atMost values bound = values.length :=
  List.countP_eq_length.mpr fun value listed => decide_eq_true (small value listed)

/-- Where the search stops: at the first value with enough values up to it. -/
structure StopsAt (values : List ℕ) (target value : ℕ) : Prop where
  positive : 1 ≤ value
  reaches : target ≤ atMost values value
  first : value = 1 ∨ atMost values (value - 1) < target

/-- Which of two neighbouring values the search takes. -/
def nearerValue (values : List ℕ) (target value : ℕ) : ℕ :=
  if UInt32.ofNat target - UInt32.ofNat (atMost values (value - 1)) <
      UInt32.ofNat (atMost values value) - UInt32.ofNat target then value - 1
  else value

lemma quantileSearch_stops {values : List ℕ} {target first : ℕ} (bins : ℕ)
    (start : first = 0 ∨ atMost values first < target)
    (reaches : ∃ value, first < value ∧ value < first + 1 + bins ∧ target ≤ atMost values value) :
    ∃ value, value < first + 1 + bins ∧ StopsAt values target value ∧
      quantileSearch values target (List.range' (first + 1) bins) (atMost values first) =
        nearerValue values target value := by
  induction bins generalizing first with
  | zero =>
    obtain ⟨value, above, below, -⟩ := reaches
    omega
  | succ bins ih =>
    rw [List.range'_succ, quantileSearch, ← atMost_succ]
    by_cases here : atMost values (first + 1) ≥ target
    · refine ⟨first + 1, by omega, ⟨by omega, here, ?_⟩, ?_⟩
      · exact start.imp (congrArg Nat.succ) id
      · rw [if_pos here]
        rfl
    · obtain ⟨value, above, below, enough⟩ := reaches
      have later : first + 1 < value := by
        rcases Nat.lt_or_eq_of_le above with more | same
        · exact more
        · rw [← same] at enough
          exact absurd enough here
      obtain ⟨stop, inside, stops, found⟩ :=
        ih (.inr (not_le.mp here)) ⟨value, later, by omega, enough⟩
      refine ⟨stop, by omega, stops, ?_⟩
      rw [if_neg here, found]

/-- A difference below zero is a large one. -/
lemma unsigned_nearer {target previous cumulative : ℕ} (few : cumulative < 2 ^ 31)
    (reaches : target ≤ cumulative) (rises : previous ≤ cumulative) :
    UInt32.ofNat target - UInt32.ofNat previous < UInt32.ofNat cumulative - UInt32.ofNat target ↔
      previous ≤ target ∧ target - previous < cumulative - target := by
  rw [UInt32.lt_iff_toNat_lt, UInt32.toNat_sub, UInt32.toNat_sub, UInt32.toNat_ofNat',
    UInt32.toNat_ofNat', UInt32.toNat_ofNat']
  omega

/-- The value that the search takes is as near to the target as any from 1 on. -/
lemma nearerValue_nearest {values : List ℕ} {target value : ℕ} (few : values.length < 2 ^ 31)
    (stops : StopsAt values target value) {other : ℕ} (positive : 1 ≤ other) :
    ((atMost values (nearerValue values target value) : ℤ) - target).natAbs ≤
      ((atMost values other : ℤ) - target).natAbs := by
  obtain ⟨-, reaches, first⟩ := stops
  have nearer := unsigned_nearer ((atMost_le values value).trans_lt few) reaches
    (atMost_mono values (Nat.sub_le value 1))
  have side : (1 < value ∧ atMost values other ≤ atMost values (value - 1)) ∨
      atMost values value ≤ atMost values other := by
    rcases Nat.lt_or_ge other value with below | above
    · exact .inl ⟨by omega, atMost_mono values (by omega)⟩
    · exact .inr (atMost_mono values above)
  unfold nearerValue
  split
  · next closer =>
    obtain ⟨below, distance⟩ := nearer.mp closer
    rcases side with ⟨-, before⟩ | after
    · omega
    · omega
  · next farther =>
    have here := mt nearer.mpr farther
    rcases side with ⟨later, before⟩ | after
    · have short : atMost values (value - 1) < target := first.resolve_left (by omega)
      omega
    · omega

lemma cellValue_le (image : FeatureImage) (cell : ℕ) : cellValue image cell ≤ 255 :=
  enhancedAt_le image _ _

lemma maskedCellValues_le (enhanced : FeatureImage) :
    ∀ value ∈ maskedCellValues enhanced, value ≤ 255 := by
  intro value listed
  obtain ⟨cell, -, rfl⟩ := List.mem_map.mp listed
  exact cellValue_le _ cell

lemma maskedCellValues_length (enhanced : FeatureImage) :
    (maskedCellValues enhanced).length ≤ metricMapPixels := by
  rw [maskedCellValues, List.length_map]
  exact (List.length_filter_le _ _).trans List.length_range.le

lemma quantileTarget_le (values : List ℕ) : quantileTarget values ≤ values.length := by
  unfold quantileTarget
  omega

/-- The search ends in the histogram, at a value as near to the target as any from 1 on. -/
lemma secondaryThreshold_spec {values : List ℕ} (few : values.length < 2 ^ 31)
    (bytes : ∀ value ∈ values, value ≤ 255) :
    secondaryThreshold values ≤ 255 ∧ ∀ other, 1 ≤ other →
      ((atMost values (secondaryThreshold values) : ℤ) - quantileTarget values).natAbs ≤
        ((atMost values other : ℤ) - quantileTarget values).natAbs := by
  have all : quantileTarget values ≤ atMost values 255 :=
    (quantileTarget_le values).trans (atMost_all bytes).ge
  obtain ⟨stop, inside, stops, found⟩ := @quantileSearch_stops values (quantileTarget values) 0 255
    (.inl rfl) ⟨255, by decide, by decide, all⟩
  unfold secondaryThreshold
  rw [← atMost_zero, found]
  refine ⟨?_, fun other positive => nearerValue_nearest few stops positive⟩
  unfold nearerValue
  split <;> omega

/-! ### The maps -/

lemma bitAt_map {bits : ℕ → Bool} {cell : ℕ} (inside : cell < metricMapPixels) :
    bitAt (packBits metricMapPackedBytes bits) cell = bits cell :=
  bitAt_packBits bits inside

/-- The position map is the coarse mask, read as the configuration-one counts read it. -/
lemma bitAt_positionMap (coarseMask : MetricMask) {cell : ℕ} (inside : cell < metricMapPixels) :
    bitAt (metricDataBuildPositionMap coarseMask) cell = true ↔
      expandConfig1Mask coarseMask cell ≠ 0 := by
  rw [metricDataBuildPositionMap, bitAt_map inside, expandConfig1Mask]
  split <;> simp_all

/-- The maps of every image: what is white is valid, the position map repeats the coarse mask, and
a bit of the coarse mask says that half of a block is in the feature mask. The secondary threshold
keeps four fifths of the masked cells as nearly as any threshold from 1 on does. -/
theorem metric_data_exact (enhanced : FeatureImage) :
    (∀ cell < metricMapPixels,
      (bitAt (buildMetricData enhanced).primary cell = true →
        bitAt (buildMetricData enhanced).validity cell = true) ∧
      (bitAt (buildMetricData enhanced).positionMap cell = true ↔
        expandConfig1Mask (buildMetricData enhanced).coarseMask cell ≠ 0) ∧
      bitAt (buildMetricData enhanced).secondary cell =
        decide (secondaryThreshold (maskedCellValues enhanced) <
          cellValue (buildPreparedImage enhanced) cell)) ∧
    (∀ x < imageWidth, ∀ y < imageHeight,
      sensorBlockBit (buildMetricData enhanced).coarseMask x y =
        decide (populated (buildMask enhanced) (x / 4) (y / 4) ≥ 8)) ∧
    secondaryThreshold (maskedCellValues enhanced) ≤ 255 ∧
    ∀ other, 1 ≤ other →
      ((atMost (maskedCellValues enhanced) (secondaryThreshold (maskedCellValues enhanced)) : ℤ) -
          quantileTarget (maskedCellValues enhanced)).natAbs ≤
        ((atMost (maskedCellValues enhanced) other : ℤ) -
          quantileTarget (maskedCellValues enhanced)).natAbs := by
  have few : (maskedCellValues enhanced).length < 2 ^ 31 :=
    (maskedCellValues_length enhanced).trans_lt (by decide)
  refine ⟨fun cell inside => ⟨fun white => ?_, ?_, ?_⟩, fun x inX y inY => ?_,
    secondaryThreshold_spec few (maskedCellValues_le enhanced)⟩
  · unfold buildMetricData at white ⊢
    dsimp only at white ⊢
    rw [bitAt_map inside, decide_eq_true_eq] at white ⊢
    omega
  · unfold buildMetricData
    exact bitAt_positionMap _ inside
  · unfold buildMetricData
    dsimp only
    rw [bitAt_map inside]
  · unfold buildMetricData
    exact sensorBlockBit_buildCoarseMask _ inX inY

end GoodixSpi.Chicago
