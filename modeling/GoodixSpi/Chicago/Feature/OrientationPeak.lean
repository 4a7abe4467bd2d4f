import GoodixSpi.Chicago.Feature.Orientation
import Mathlib.Data.List.Induction
import Mathlib.Tactic.IntervalCases

/-! When the orientation of a candidate is defined. The votes have half the period of the circle,
so the selected bin is in the second half and the one before it has strictly fewer votes unless it
is the first of all. -/

namespace GoodixSpi.Chicago

open CArithmetic

/-! ### The bins -/

lemma orientationBin_range {direction : Int16} (low : -0x3244 ≤ direction.toInt)
    (high : direction.toInt ≤ 0x3244) :
    0 ≤ orientationBin direction ∧ orientationBin direction < 36 := by
  unfold orientationBin quotient
  dsimp only
  rw [Int.tdiv_eq_ediv_of_nonneg (by omega)]
  split <;> omega

/-- The directions that the gradient stage writes. -/
def DirectionsInRange (orientation : OrientationPlane) : Prop :=
  ∀ value ∈ orientation.toList, -0x3244 ≤ value.toInt ∧ value.toInt ≤ 0x3244

lemma orientationAt_range {orientation : OrientationPlane} (inRange : DirectionsInRange orientation)
    (pixel : ℕ) : -0x3244 ≤ (orientationAt orientation pixel).toInt ∧
      (orientationAt orientation pixel).toInt ≤ 0x3244 := by
  unfold orientationAt
  rw [List.getD_eq_getElem?_getD]
  cases found : orientation.toList[pixel]? with
  | none => exact ⟨by decide, by decide⟩
  | some value => exact inRange value (List.mem_of_getElem? found)

lemma windowBin_range {orientation : OrientationPlane} (inRange : DirectionsInRange orientation)
    (candidate : FeatureCandidate) (delta : ℤ × ℤ) :
    0 ≤ windowBin orientation candidate delta ∧ windowBin orientation candidate delta < 36 :=
  orientationBin_range (orientationAt_range inRange _).1 (orientationAt_range inRange _).2

/-- Every pixel of the window has a bin. -/
def BinsInside (orientation : OrientationPlane) (candidate : FeatureCandidate) : Prop :=
  ∀ delta, 0 ≤ windowBin orientation candidate delta ∧ windowBin orientation candidate delta < 36

/-! ### The votes for a direction and its opposite -/

section Votes

variable (magnitude : MagnitudePlane) (orientation : OrientationPlane)
  (candidate : FeatureCandidate)

/-- The votes of all pixels of the window whose bin is `bin` or the opposite one. -/
def directionVotes (bin : ℕ) : UInt32 :=
  (orientationWindow candidate).foldl (fun votes delta =>
    if (windowBin orientation candidate delta).toNat % 18 = bin % 18 then
      votes + windowVote magnitude candidate delta
    else votes) 0

/-- The votes around a direction, on the half circle. -/
def smoothedVotes (bin : ℕ) : UInt32 :=
  let votes := directionVotes magnitude orientation candidate
  (votes (bin + 16) + 4 * votes (bin + 17) + 6 * votes bin + 4 * votes (bin + 1) +
    votes (bin + 2)) >>> 4

/-- The direction zero and its two neighbours have equal votes, and no direction has more. -/
def FlatPeak : Prop :=
  let votes := smoothedVotes magnitude orientation candidate
  votes 17 = votes 0 ∧ votes 1 = votes 0 ∧ ∀ bin < 18, votes bin ≤ votes 0

variable {magnitude orientation candidate}

lemma directionVotes_congr {bin other : ℕ} (same : bin % 18 = other % 18) :
    directionVotes magnitude orientation candidate bin =
      directionVotes magnitude orientation candidate other := by
  unfold directionVotes
  rw [same]

lemma smoothedVotes_period (bin : ℕ) :
    smoothedVotes magnitude orientation candidate (bin + 18) =
      smoothedVotes magnitude orientation candidate bin := by
  have turn (shift : ℕ) : directionVotes magnitude orientation candidate (bin + 18 + shift) =
      directionVotes magnitude orientation candidate (bin + shift) :=
    directionVotes_congr (by omega)
  have here : directionVotes magnitude orientation candidate (bin + 18) =
      directionVotes magnitude orientation candidate bin := turn 0
  unfold smoothedVotes
  dsimp only
  rw [turn 16, turn 17, here, turn 1, turn 2]

end Votes

/-! ### The histogram -/

lemma getD_modify_add (raw : List UInt32) (bin i : ℕ) (vote : UInt32) (inside : i < raw.length) :
    (raw.modify bin (· + vote)).getD i 0 =
      if bin = i then raw.getD i 0 + vote else raw.getD i 0 := by
  simp only [List.getD_eq_getElem?_getD, List.getElem?_modify, List.getElem?_eq_getElem inside]
  split <;> rfl

/-- One pixel votes for one bin and the opposite one. -/
lemma vote_twice {raw : List UInt32} (full : raw.length = 36) {bin i : ℕ} (hbin : bin < 36)
    (hi : i < 36) (vote : UInt32) :
    ((raw.modify bin (· + vote)).modify ((bin + 18) % 36) (· + vote)).getD i 0 =
      if bin % 18 = i % 18 then raw.getD i 0 + vote else raw.getD i 0 := by
  rw [getD_modify_add _ _ _ _ (by rw [List.length_modify]; omega),
    getD_modify_add _ _ _ _ (by omega)]
  by_cases near : bin = i
  · rw [if_neg (by omega), if_pos near, if_pos (by omega)]
  by_cases far : (bin + 18) % 36 = i
  · rw [if_pos far, if_neg near, if_pos (by omega)]
  · rw [if_neg far, if_neg near, if_neg (by omega)]

section Histogram

variable {magnitude : MagnitudePlane} {orientation : OrientationPlane}
  {candidate : FeatureCandidate}

lemma rawHistogram_spec (bins : BinsInside orientation candidate) :
    (rawHistogram magnitude orientation candidate).length = 36 ∧ ∀ i < 36,
      (rawHistogram magnitude orientation candidate).getD i 0 =
        directionVotes magnitude orientation candidate i := by
  unfold rawHistogram directionVotes
  induction orientationWindow candidate using List.reverseRecOn with
  | nil =>
    refine ⟨rfl, fun i inside => ?_⟩
    rw [List.foldl_nil, List.foldl_nil, List.getD_eq_getElem?_getD,
      List.getElem?_replicate_of_lt inside]
    rfl
  | append_singleton window delta ih =>
    obtain ⟨full, votes⟩ := ih
    obtain ⟨low, high⟩ := bins delta
    simp only [List.foldl_append, List.foldl_cons, List.foldl_nil]
    constructor
    · rw [List.length_modify, List.length_modify, full]
    · intro i inside
      rw [vote_twice full (by omega) inside, votes i inside]

lemma getD_extendedHistogram {raw : List UInt32} (full : raw.length = 36) {bin : ℕ}
    (inside : bin < 40) : (extendedHistogram raw).getD bin 0 = raw.getD ((bin + 34) % 36) 0 := by
  unfold extendedHistogram
  simp only [List.getD_eq_getElem?_getD]
  by_cases front : bin < 2
  · rw [List.append_assoc, List.getElem?_append_left (by simpa using front)]
    interval_cases bin <;> rfl
  by_cases middle : bin < 38
  · rw [List.getElem?_append_left (by simp [full]; omega),
      List.getElem?_append_right (by simp; omega),
      show (bin + 34) % 36 = bin - 2 by omega]
    rfl
  · rw [List.getElem?_append_right (by simp [full]; omega)]
    have last : bin = 38 ∨ bin = 39 := by omega
    rcases last with rfl | rfl <;> simp [full]

lemma orientationHistogram_getD (bins : BinsInside orientation candidate) {bin : ℕ}
    (inside : bin < 36) :
    (orientationHistogram magnitude orientation candidate).getD bin 0 =
      smoothedVotes magnitude orientation candidate bin := by
  obtain ⟨full, votes⟩ : (rawHistogram magnitude orientation candidate).length = 36 ∧ _ :=
    rawHistogram_spec bins
  have padded (step : ℕ) (few : step < 5) :
      (extendedHistogram (rawHistogram magnitude orientation candidate)).getD (bin + step) 0 =
        directionVotes magnitude orientation candidate (bin + 16 + step) := by
    rw [getD_extendedHistogram full (by omega), votes _ (Nat.mod_lt _ (by decide))]
    exact directionVotes_congr (by omega)
  have here : directionVotes magnitude orientation candidate (bin + 16 + 2) =
      directionVotes magnitude orientation candidate bin := directionVotes_congr (by omega)
  have after : directionVotes magnitude orientation candidate (bin + 16 + 3) =
      directionVotes magnitude orientation candidate (bin + 1) := directionVotes_congr (by omega)
  have last : directionVotes magnitude orientation candidate (bin + 16 + 4) =
      directionVotes magnitude orientation candidate (bin + 2) := directionVotes_congr (by omega)
  have first := padded 0 (by decide)
  rw [Nat.add_zero] at first
  unfold orientationHistogram smoothedVotes
  dsimp only
  rw [List.getD_eq_getElem?_getD, List.getElem?_map, List.getElem?_range inside, Option.map_some,
    Option.getD_some, smoothedBin, first, padded 1 (by decide), padded 2 (by decide),
    padded 3 (by decide), padded 4 (by decide), here, after, last]

/-- The scan keeps the first bin with the most votes. -/
lemma histogramPeak_spec (histogram : List UInt32) (count : ℕ) :
    let best := (List.range' 1 count).foldl (fun best bin =>
      if histogram.getD bin 0 > best.1 then (histogram.getD bin 0, bin) else best)
      (histogram.getD 0 0, 0)
    best.2 ≤ count ∧ histogram.getD best.2 0 = best.1 ∧
      (∀ bin ≤ count, histogram.getD bin 0 ≤ best.1) ∧
      ∀ bin < best.2, histogram.getD bin 0 < best.1 := by
  induction count with
  | zero =>
    refine ⟨le_rfl, rfl, fun bin first => ?_, fun bin before => absurd before (Nat.not_lt_zero bin)⟩
    rw [Nat.le_zero.mp first]
    exact UInt32.le_refl _
  | succ count ih =>
    obtain ⟨within, attained, most, first⟩ := ih
    rw [List.range'_concat, List.foldl_append]
    simp only [List.foldl_cons, List.foldl_nil, one_mul]
    rw [Nat.add_comm 1 count]
    split
    · rename_i more
      refine ⟨le_rfl, rfl, fun bin le => ?_, fun bin lt => ?_⟩
      · rcases Nat.le_succ_iff.mp le with before | rfl
        · exact UInt32.le_of_lt (UInt32.lt_of_le_of_lt (most bin before) more)
        · exact UInt32.le_refl _
      · exact UInt32.lt_of_le_of_lt (most bin (Nat.lt_succ_iff.mp lt)) more
    · rename_i notMore
      refine ⟨within.trans (Nat.le_succ count), attained, fun bin le => ?_, first⟩
      rcases Nat.le_succ_iff.mp le with before | rfl
      · exact most bin before
      · exact UInt32.not_lt.mp notMore

lemma histogramPeak_best (histogram : List UInt32) :
    (histogramPeak histogram).2 < 36 ∧
      (∀ bin < 36, histogram.getD bin 0 ≤ histogram.getD (histogramPeak histogram).2 0) ∧
      ∀ bin < (histogramPeak histogram).2,
        histogram.getD bin 0 < histogram.getD (histogramPeak histogram).2 0 := by
  have spec := histogramPeak_spec histogram 35
  dsimp only at spec
  rw [← histogramPeak] at spec
  obtain ⟨within, attained, most, first⟩ := spec
  rw [attained]
  exact ⟨Nat.lt_succ_of_le within, fun bin inside => most bin (Nat.le_of_lt_succ inside), first⟩

/-- What the scan finds, in terms of the votes. -/
structure PeakBin (votes : ℕ → UInt32) (bin : ℕ) : Prop where
  half : bin < 18
  most : ∀ other < 18, votes other ≤ votes bin
  first : ∀ other < bin, votes other < votes bin

/-- Half a circle later there are as many votes, so the first largest bin is in the first half. -/
lemma histogramPeak_peakBin (bins : BinsInside orientation candidate) :
    PeakBin (smoothedVotes magnitude orientation candidate)
      (histogramPeak (orientationHistogram magnitude orientation candidate)).2 := by
  obtain ⟨within, most, first⟩ :=
    histogramPeak_best (orientationHistogram magnitude orientation candidate)
  generalize (histogramPeak (orientationHistogram magnitude orientation candidate)).2 = best at *
  simp only [orientationHistogram_getD bins within] at most first
  have half : best < 18 := by
    by_contra late
    have earlier := first (best - 18) (by omega)
    rw [orientationHistogram_getD bins (by omega), ← smoothedVotes_period,
      Nat.sub_add_cancel (by omega)] at earlier
    exact UInt32.lt_irrefl _ earlier
  refine ⟨half, fun other inside => ?_, fun other before => ?_⟩
  · rw [← orientationHistogram_getD bins (by omega)]
    exact most other (by omega)
  · rw [← orientationHistogram_getD bins (by omega)]
    exact first other before

end Histogram

/-! ### The parabola -/

lemma quotient_natAbs_le {n d : ℤ} {k : ℕ} (bound : n.natAbs < d.natAbs * (k + 1)) :
    (quotient n d).natAbs ≤ k := by
  rw [quotient, Int.natAbs_tdiv]
  exact Nat.lt_succ_iff.mp (Nat.div_lt_of_lt_mul bound)

lemma toInt_ofInt16 {value : ℤ} (low : -0x8000 ≤ value) (high : value < 0x8000) :
    (Int16.ofInt value).toInt = value := by
  have size : (Int16.size : ℤ) = 0x10000 := rfl
  rw [Int16.toInt_ofInt, Int.bmod_eq_of_le] <;> omega

/-- Between neighbours that are not larger, the parabola's apex is at most half a bin away. -/
lemma interpolatePeak_range {previous current next : UInt32} {selectedBin : ℕ}
    (before : previous ≤ current) (after : next ≤ current) (low : 18 ≤ selectedBin)
    (high : selectedBin < 36) {interpolated : Int16}
    (defined : interpolatePeak previous current next selectedBin = some interpolated) :
    8960 ≤ interpolated.toInt ∧ interpolated.toInt ≤ 18176 := by
  have le_before := UInt32.le_iff_toNat_le.mp before
  have le_after := UInt32.le_iff_toNat_le.mp after
  unfold interpolatePeak at defined
  dsimp only at defined
  split at defined
  · cases defined
  · rename_i curved
    have apex : (quotient (((previous.toNat : ℤ) - next.toNat) * 0x200 -
        shiftRight (2 * previous.toNat + 2 * next.toNat - 4 * current.toNat) 1)
        (2 * previous.toNat + 2 * next.toNat - 4 * current.toNat)).natAbs ≤ 256 := by
      apply quotient_natAbs_le
      unfold shiftRight
      omega
    rw [← Option.some.inj defined, toInt_ofInt16] <;> omega

lemma featureOrientation_range {interpolated : Int16} (low : 8960 ≤ interpolated.toInt)
    (high : interpolated.toInt ≤ 18176) :
    0 ≤ (featureOrientation interpolated).toInt ∧
      (featureOrientation interpolated).toInt ≤ 0x3244 := by
  have notBelow : ¬interpolated < 0 := by
    rw [Int16.lt_iff_toInt_lt]
    exact not_lt.mpr (le_trans (by decide) low)
  have notAbove : ¬interpolated ≥ 0x4800 := by
    rw [ge_iff_le, Int16.le_iff_toInt_le]
    exact not_le.mpr (lt_of_le_of_lt high (by decide))
  unfold featureOrientation
  simp only [if_neg notBelow, if_neg notAbove]
  have turned : (Int16.ofInt (shiftRight (quotient (interpolated.toInt * 0x6488) 36) 9 -
      0x3244)).toInt = interpolated.toInt * 0x6488 / 36 / 2 ^ 9 - 0x3244 := by
    unfold shiftRight quotient
    rw [Int.tdiv_eq_ediv_of_nonneg (by omega), toInt_ofInt16] <;> omega
  generalize Int16.ofInt (shiftRight (quotient (interpolated.toInt * 0x6488) 36) 9 - 0x3244) =
    orientation at *
  have zero : (0 : Int16).toInt = 0 := rfl
  have half : (0x3244 : Int16).toInt = 0x3244 := rfl
  split
  · rename_i negative
    rw [Int16.lt_iff_toInt_lt, zero] at negative
    rw [Int16.toInt_add, half, Int.bmod_eq_of_le] <;> omega
  · rename_i nonnegative
    rw [Int16.lt_iff_toInt_lt, zero] at nonnegative
    omega

/-! ### The whole stage -/

/-- Inside the border of the image. -/
structure FeatureCandidate.Interior (candidate : FeatureCandidate) : Prop where
  left : 1 ≤ candidate.x.toInt
  right : candidate.x.toInt + 1 < imageWidth
  top : 1 ≤ candidate.y.toInt
  bottom : candidate.y.toInt + 1 < imageHeight

/-- The stage reads inside its planes and its histogram, selects a bin of the second half circle and
gives the record an orientation of the half circle. -/
structure OrientationSafe (featureSource : FeatureImage) (magnitude : MagnitudePlane)
    (orientation : OrientationPlane) (candidate : FeatureCandidate) (index : UInt32) : Prop where
  pixel : ∀ delta ∈ orientationWindow candidate, windowPixel candidate delta < pixels
  bin : ∀ delta ∈ orientationWindow candidate,
    0 ≤ windowBin orientation candidate delta ∧ windowBin orientation candidate delta < 36
  period : ∀ bin < 18,
    (buildOrientationHistogram magnitude orientation candidate).histogram.getD (bin + 18) 0 =
      (buildOrientationHistogram magnitude orientation candidate).histogram.getD bin 0
  selected : 18 ≤ (buildOrientationHistogram magnitude orientation candidate).selectedBin ∧
    (buildOrientationHistogram magnitude orientation candidate).selectedBin < 36
  defined : ∃ materialized, materializeCandidate featureSource magnitude orientation candidate
      index = some materialized ∧
    0 ≤ materialized.record.orientation.toInt ∧ materialized.record.orientation.toInt ≤ 0x3244

lemma mem_loopSteps {low high step : ℤ} (mem : step ∈ loopSteps low high) :
    low ≤ step ∧ step ≤ high := by
  obtain ⟨i, listed, rfl⟩ := List.mem_map.mp mem
  have := List.mem_range.mp listed
  omega

lemma windowPixel_lt {candidate : FeatureCandidate} (interior : candidate.Interior) {delta : ℤ × ℤ}
    (mem : delta ∈ orientationWindow candidate) : windowPixel candidate delta < pixels := by
  obtain ⟨left, right, top, bottom⟩ := interior
  unfold orientationWindow at mem
  obtain ⟨deltaY, rows, columns⟩ := List.mem_flatMap.mp mem
  obtain ⟨deltaX, steps, rfl⟩ := List.mem_map.mp columns
  have vertical := mem_loopSteps rows
  have horizontal := mem_loopSteps steps
  unfold windowPixel
  simp only [imageWidth, imageHeight, pixels] at *
  omega

section Peak

variable {votes : ℕ → UInt32} {bin : ℕ}

lemma PeakBin.le (peak : PeakBin votes bin) (period : ∀ bin, votes (bin + 18) = votes bin)
    {other : ℕ} (near : other < 36) : votes other ≤ votes bin := by
  by_cases half : other < 18
  · exact peak.most other half
  · rw [← Nat.sub_add_cancel (not_lt.mp half), period]
    exact peak.most _ (by omega)

/-- The denominator is zero exactly when the neighbours have as many votes as the peak. -/
lemma interpolatePeak_eq_none_iff {previous current next : UInt32} {selectedBin : ℕ}
    (before : previous ≤ current) (after : next ≤ current) :
    interpolatePeak previous current next selectedBin = none ↔
      previous = current ∧ next = current := by
  have le_before := UInt32.le_iff_toNat_le.mp before
  have le_after := UInt32.le_iff_toNat_le.mp after
  unfold interpolatePeak
  dsimp only
  rw [← UInt32.toNat_inj, ← UInt32.toNat_inj]
  split
  · exact iff_of_true rfl (by omega)
  · exact iff_of_false (Option.some_ne_none _) (by omega)

/-- Only the first bin can share its peak with the bin before it. -/
lemma PeakBin.flat_iff (peak : PeakBin votes bin) (period : ∀ bin, votes (bin + 18) = votes bin) :
    (votes (bin + 17) = votes bin ∧ votes (bin + 1) = votes bin) ↔
      votes 17 = votes 0 ∧ votes 1 = votes 0 ∧ ∀ other < 18, votes other ≤ votes 0 := by
  rcases Nat.eq_zero_or_pos bin with rfl | positive
  · rw [Nat.zero_add, Nat.zero_add]
    exact ⟨fun flat => ⟨flat.1, flat.2, peak.most⟩, fun flat => ⟨flat.1, flat.2.1⟩⟩
  · constructor
    · rintro ⟨before, -⟩
      have less := peak.first (bin - 1) (by omega)
      rw [← period, show bin - 1 + 18 = bin + 17 by omega, before] at less
      exact absurd less (UInt32.lt_irrefl _)
    · rintro ⟨-, -, most⟩
      exact absurd (most bin peak.half) (UInt32.not_le.mpr (peak.first 0 positive))

end Peak

section Safety

variable {featureSource : FeatureImage} {magnitude : MagnitudePlane}
  {orientation : OrientationPlane} {candidate : FeatureCandidate} {index : UInt32}

variable (featureSource magnitude candidate index) in
/-- The interpolation on the votes of the half circle. -/
lemma materializeCandidate_eq (bins : BinsInside orientation candidate) :
    ∃ bin, (buildOrientationHistogram magnitude orientation candidate).selectedBin = bin + 18 ∧
      PeakBin (smoothedVotes magnitude orientation candidate) bin ∧
      (materializeCandidate featureSource magnitude orientation candidate index).map
          (·.record.orientation) =
        (interpolatePeak (smoothedVotes magnitude orientation candidate (bin + 17))
          (smoothedVotes magnitude orientation candidate bin)
          (smoothedVotes magnitude orientation candidate (bin + 1)) (bin + 18)).map
            featureOrientation := by
  have peak : PeakBin (smoothedVotes magnitude orientation candidate)
      (histogramPeak (orientationHistogram magnitude orientation candidate)).2 :=
    histogramPeak_peakBin bins
  refine ⟨_, rfl, peak, ?_⟩
  have half := peak.half
  unfold materializeCandidate buildOrientationHistogram
  dsimp only
  generalize (histogramPeak (orientationHistogram magnitude orientation candidate)).2 = bin at *
  have next : smoothedVotes magnitude orientation candidate ((bin + 18 + 1) % 36) =
      smoothedVotes magnitude orientation candidate (bin + 1) := by
    rcases Nat.lt_succ_iff_lt_or_eq.mp half with inner | rfl
    · rw [Nat.mod_eq_of_lt (by omega), Nat.add_right_comm, smoothedVotes_period]
    · exact (smoothedVotes_period 0).symm
  have previous : (if bin + 18 = 0 then 35 else bin + 18 - 1) = bin + 17 := by
    rw [if_neg (by omega)]
    omega
  rw [previous, Option.map_map, orientationHistogram_getD bins (by omega),
    orientationHistogram_getD bins (by omega),
    orientationHistogram_getD bins (Nat.mod_lt _ (by decide)), next, smoothedVotes_period]
  rfl

/-- What holds whatever the votes are. -/
lemma orientationSafe_iff_defined (bins : BinsInside orientation candidate)
    (interior : candidate.Interior) :
    OrientationSafe featureSource magnitude orientation candidate index ↔
      (materializeCandidate featureSource magnitude orientation candidate index).isSome := by
  obtain ⟨bin, selected, peak, eq⟩ :=
    materializeCandidate_eq featureSource magnitude candidate index bins
  have half := peak.half
  constructor
  · rintro ⟨-, -, -, -, materialized, defined, -⟩
    rw [defined]
    rfl
  · intro some
    obtain ⟨materialized, defined⟩ := Option.isSome_iff_exists.mp some
    refine ⟨fun delta mem => windowPixel_lt interior mem,
      fun delta _ => bins delta, fun other inside => ?_, ?_,
      materialized, defined, ?_⟩
    · unfold buildOrientationHistogram
      rw [orientationHistogram_getD bins (by omega),
        orientationHistogram_getD bins (by omega), smoothedVotes_period]
    · omega
    · rw [defined, Option.map_some] at eq
      obtain ⟨interpolated, apex, turned⟩ := Option.map_eq_some_iff.mp eq.symm
      rw [← turned]
      have range := interpolatePeak_range (peak.le smoothedVotes_period (by omega))
        (peak.le smoothedVotes_period (by omega)) (by omega) (by omega) apex
      exact featureOrientation_range range.1 range.2

lemma orientationSafe_iff_of_bins (bins : BinsInside orientation candidate)
    (interior : candidate.Interior) :
    OrientationSafe featureSource magnitude orientation candidate index ↔
      ¬FlatPeak magnitude orientation candidate := by
  obtain ⟨bin, selected, peak, eq⟩ :=
    materializeCandidate_eq featureSource magnitude candidate index bins
  have half := peak.half
  rw [orientationSafe_iff_defined bins interior, FlatPeak, ← peak.flat_iff smoothedVotes_period,
    ← interpolatePeak_eq_none_iff (peak.le smoothedVotes_period (by omega))
      (peak.le smoothedVotes_period (by omega)), ← Option.isSome_map, eq, Option.isSome_map,
    ← Option.not_isSome_iff_eq_none, not_not]

lemma orientationSafe_iff_not_flat (inRange : DirectionsInRange orientation)
    (interior : candidate.Interior) :
    OrientationSafe featureSource magnitude orientation candidate index ↔
      ¬FlatPeak magnitude orientation candidate :=
  orientationSafe_iff_of_bins (windowBin_range inRange candidate) interior

end Safety

/-- In the middle of the image, on the lowest scale. -/
def middleCandidate : FeatureCandidate := ⟨40, 32, 1, 0, 0x2800, 0x2000, 0x10000⟩

lemma middleCandidate_interior : middleCandidate.Interior :=
  ⟨by decide, by decide, by decide, by decide⟩

lemma directionsInRange_replicate : DirectionsInRange (Vector.replicate pixels 0) := by
  intro value mem
  rw [Vector.toList_replicate] at mem
  rw [List.eq_of_mem_replicate mem]
  exact ⟨by decide, by decide⟩

lemma magnitudeAt_replicate (value : UInt32) {pixel : ℕ} (inside : pixel < pixels) :
    magnitudeAt (Vector.replicate pixels value) pixel = value := by
  rw [magnitudeAt, Vector.toList_replicate, List.getD_eq_getElem?_getD,
    List.getElem?_replicate_of_lt inside, Option.getD_some]

/-- What a uniform window adds to its one direction. -/
def uniformVotes (value : UInt32) : UInt32 :=
  (orientationWindow middleCandidate).foldl (fun votes delta =>
    votes + (value * orientationWeight (orientationCoefficient middleCandidate.scaleValue)
      delta.1.natAbs delta.2.natAbs) >>> 8) 0

lemma directionVotes_uniform (value : UInt32) (bin : ℕ) :
    directionVotes (Vector.replicate pixels value) (Vector.replicate pixels 0) middleCandidate bin =
      if bin % 18 = 0 then uniformVotes value else 0 := by
  have vote {delta : ℤ × ℤ} (mem : delta ∈ orientationWindow middleCandidate) :
      windowVote (Vector.replicate pixels value) middleCandidate delta =
        (value * orientationWeight (orientationCoefficient middleCandidate.scaleValue)
          delta.1.natAbs delta.2.natAbs) >>> 8 := by
    rw [windowVote, magnitudeAt_replicate value (windowPixel_lt middleCandidate_interior mem)]
  have bin_zero (delta : ℤ × ℤ) :
      (windowBin (Vector.replicate pixels 0) middleCandidate delta).toNat = 18 := by
    have direction (pixel : ℕ) : orientationAt (Vector.replicate pixels 0) pixel = 0 := by
      rw [orientationAt, Vector.toList_replicate, List.getD_eq_getElem?_getD,
        List.getElem?_replicate]
      split <;> rfl
    rw [windowBin, direction]
    decide
  unfold directionVotes uniformVotes
  simp only [bin_zero, Nat.mod_self, eq_comm (a := 0)]
  split
  · exact List.foldl_ext _ _ _ fun votes delta mem => by rw [vote mem]
  · induction orientationWindow middleCandidate with
    | nil => rfl
    | cons delta rest ih => exact ih

end GoodixSpi.Chicago
